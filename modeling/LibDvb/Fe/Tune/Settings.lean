import Mathlib.Logic.Function.Basic
import LibDvb.Fe.Device

namespace LibDvb

open Act FeFile

section Asked

def asked : List DtvPropertyRaw → UInt32 → Option UInt32
  | [], _ => none
  | p :: rest, cmd => (asked rest cmd).or (if p.cmd = cmd then some p.data else none)

theorem asked_isSome {raw : List DtvPropertyRaw} {cmd : UInt32} (h : (asked raw cmd).isSome) : ∃ p ∈ raw, p.cmd = cmd := by
  induction raw with
  | nil => cases h
  | cons p rest ih =>
      by_cases hcmd : p.cmd = cmd
      · exact ⟨p, List.mem_cons_self, hcmd⟩
      · rw [asked, if_neg hcmd, Option.or_none] at h
        obtain ⟨q, hmem, hq⟩ := ih h
        exact ⟨q, List.mem_cons_of_mem p hmem, hq⟩

def Coded.read {α : Type} [DecidableEq α] (self : Coded α) (settings : UInt32 → Option UInt32) (cmd : UInt32) :
    Option α :=
  (settings cmd).bind fun value => (self.tryFrom value).toOption

end Asked

namespace TuneRequest

section Read

def readCable (settings : UInt32 → Option UInt32) (annex : DvbCAnnex) : Option TuneRequest := do
  let frequencyHz ← settings dtvFrequency
  let symbolrate ← settings dtvSymbolRate
  let modulation ← Modulation.coded.read settings dtvModulation
  let fec ← Fec.coded.read settings dtvInnerFec
  let inversion ← Inversion.coded.read settings dtvInversion
  some (.dvbC { frequencyHz, symbolrate, annex, modulation, fec, inversion })

-- A scrambling sequence is told by its index, which is what a gold code is.
def readMis (settings : UInt32 → Option UInt32) : Option Mis :=
  (settings dtvStreamId).map fun streamId =>
    match settings dtvScramblingSequenceIndex with
    | none => { mode := .root, code := 0, streamId }
    | some code => { mode := .gold, code, streamId }

def read (settings : UInt32 → Option UInt32) : Option TuneRequest := do
  let inversion ← Inversion.coded.read settings dtvInversion
  match ← DeliverySystem.coded.read settings dtvDeliverySystem with
  | .dvbs => do
      let frequencyKhz ← settings dtvFrequency
      let symbolrate ← settings dtvSymbolRate
      let modulation ← Modulation.coded.read settings dtvModulation
      let fec ← Fec.coded.read settings dtvInnerFec
      some (.dvbS { frequencyKhz, symbolrate, modulation, fec, inversion })
  | .dvbs2 => do
      let frequencyKhz ← settings dtvFrequency
      let symbolrate ← settings dtvSymbolRate
      let modulation ← Modulation.coded.read settings dtvModulation
      let fec ← Fec.coded.read settings dtvInnerFec
      let pilot ← Pilot.coded.read settings dtvPilot
      let rolloff ← Rolloff.coded.read settings dtvRolloff
      some (.dvbS2 { frequencyKhz, symbolrate, modulation, fec, inversion, pilot, rolloff, mis := readMis settings })
  | .dvbcAnnexA => readCable settings .a
  | .dvbcAnnexB => readCable settings .b
  | .dvbcAnnexC => readCable settings .c
  | .dvbt => do
      let frequencyHz ← settings dtvFrequency
      let bandwidthHz ← settings dtvBandwidthHz
      let modulation ← Modulation.coded.read settings dtvModulation
      let codeRateHp ← Fec.coded.read settings dtvCodeRateHp
      let codeRateLp ← Fec.coded.read settings dtvCodeRateLp
      let guardInterval ← GuardInterval.coded.read settings dtvGuardInterval
      let transmissionMode ← TransmitMode.coded.read settings dtvTransmissionMode
      let hierarchy ← Hierarchy.coded.read settings dtvHierarchy
      some
        (.dvbT
          { frequencyHz, bandwidthHz, modulation, codeRateHp, codeRateLp, guardInterval, transmissionMode, hierarchy,
            inversion })
  | .dvbt2 => do
      let frequencyHz ← settings dtvFrequency
      let bandwidthHz ← settings dtvBandwidthHz
      let modulation ← Modulation.coded.read settings dtvModulation
      let codeRate ← Fec.coded.read settings dtvCodeRateHp
      let guardInterval ← GuardInterval.coded.read settings dtvGuardInterval
      let transmissionMode ← TransmitMode.coded.read settings dtvTransmissionMode
      some
        (.dvbT2
          { frequencyHz, bandwidthHz, modulation, codeRate, guardInterval, transmissionMode,
            streamId := settings dtvStreamId, inversion })
  | .atsc => do
      let frequencyHz ← settings dtvFrequency
      let modulation ← Modulation.coded.read settings dtvModulation
      some (.atsc { frequencyHz, modulation, inversion })
  | .isdbt => do
      let frequencyHz ← settings dtvFrequency
      let bandwidthHz ← settings dtvBandwidthHz
      some (.isdbT { frequencyHz, bandwidthHz, inversion })
  | _ => none

end Read

section Lowering

variable {api : ApiVersion} {request : TuneRequest}

-- A frontend before version 5.11 has no property for the scrambling sequence.
def canonicalMis (api : ApiVersion) (mis : Mis) : Mis :=
  match mis.plsCode with
  | none => { mode := .root, code := 0, streamId := mis.streamId }
  | some code => if api < api5_11 then { mode := .root, code := 0, streamId := mis.streamId } else
      { mode := .gold, code, streamId := mis.streamId }

def canonical (api : ApiVersion) : TuneRequest → TuneRequest
  | dvbS2 tune => .dvbS2 { tune with mis := tune.mis.map (canonicalMis api) }
  | request => request

def lowered (api : ApiVersion) (request : TuneRequest) : List DtvPropertyRaw :=
  ((DtvProperty.deliverySystem request.deliverySystem :: request.parameters).filter (supported api)).map DtvProperty.toRaw

theorem read_lowered (api : ApiVersion) (request : TuneRequest) :
    read (asked (request.lowered api)) = some (request.canonical api) := by
  cases request with
  | dvbS2 tune =>
      obtain ⟨frequencyKhz, symbolrate, modulation, fec, inversion, pilot, rolloff, mis⟩ := tune
      cases mis with
      | none =>
          simp +decide [read, Coded.read, readMis, lowered, parameters, deliverySystem, supported, List.filter_cons,
            DtvProperty.toRaw, asked, Coded.tryFrom_asU32, Except.toOption, canonical]
      | some mis =>
          cases hcode : mis.plsCode with
          | none =>
              simp +decide [read, Coded.read, readMis, lowered, parameters, deliverySystem, supported, List.filter_cons,
                DtvProperty.toRaw, asked, Coded.tryFrom_asU32, Except.toOption, canonical, canonicalMis, hcode]
          | some code =>
              by_cases hold : api < api5_11
              · simp +decide [read, Coded.read, readMis, lowered, parameters, deliverySystem, supported, List.filter_cons,
                  DtvProperty.toRaw, asked, Coded.tryFrom_asU32, Except.toOption, canonical, canonicalMis, hcode, hold]
              · simp +decide [read, Coded.read, readMis, lowered, parameters, deliverySystem, supported, List.filter_cons,
                  DtvProperty.toRaw, asked, Coded.tryFrom_asU32, Except.toOption, canonical, canonicalMis, hcode, hold]
  | dvbC tune =>
      obtain ⟨frequencyHz, symbolrate, annex, modulation, fec, inversion⟩ := tune
      cases annex with
      | _ =>
          simp +decide [read, readCable, Coded.read, lowered, parameters, deliverySystem, DvbCAnnex.deliverySystem,
            supported, List.filter_cons, DtvProperty.toRaw, asked, Coded.tryFrom_asU32, Except.toOption, canonical]
  | dvbT2 tune =>
      obtain ⟨frequencyHz, bandwidthHz, modulation, codeRate, guardInterval, transmissionMode, streamId, inversion⟩ := tune
      cases streamId with
      | _ =>
          simp +decide [read, Coded.read, lowered, parameters, deliverySystem, supported, List.filter_cons,
            DtvProperty.toRaw, asked, Coded.tryFrom_asU32, Except.toOption, canonical]
  | _ tune =>
      simp +decide [read, Coded.read, lowered, parameters, deliverySystem, supported, List.filter_cons, DtvProperty.toRaw,
        asked, Coded.tryFrom_asU32, Except.toOption, canonical]

theorem mem_parameters {p : DtvProperty} (h : p ∈ request.parameters) : p ≠ .tune ∧ p ≠ .clear := by
  rw [← not_or]
  rintro (rfl | rfl)
  all_goals
    revert h
    cases request with
    | dvbS2 tune =>
        obtain ⟨frequencyKhz, symbolrate, modulation, fec, inversion, pilot, rolloff, mis⟩ := tune
        cases mis with
        | none => simp [parameters]
        | some mis => cases hcode : mis.plsCode <;> simp [parameters, hcode]
    | dvbT2 tune =>
        obtain ⟨frequencyHz, bandwidthHz, modulation, codeRate, guardInterval, transmissionMode, streamId, inversion⟩ := tune
        cases streamId <;> simp [parameters]
    | _ tune => simp [parameters]

theorem toRaw_cmd {p : DtvProperty} (h : p ≠ .tune ∧ p ≠ .clear) : p.toRaw.cmd ≠ dtvTune ∧ p.toRaw.cmd ≠ dtvClear := by
  cases p with
  | tune => exact absurd rfl h.1
  | clear => exact absurd rfl h.2
  | _ => simp +decide [DtvProperty.toRaw]

theorem mem_lowered {p : DtvPropertyRaw} (h : p ∈ request.lowered api) : p.cmd ≠ dtvTune ∧ p.cmd ≠ dtvClear := by
  obtain ⟨property, hmem, rfl⟩ := List.mem_map.mp h
  refine toRaw_cmd ?_
  rcases List.mem_cons.mp (List.mem_of_mem_filter hmem) with rfl | hparameter
  · exact ⟨by rintro ⟨⟩, by rintro ⟨⟩⟩
  · exact mem_parameters hparameter

theorem toRaw_properties (api : ApiVersion) (request : TuneRequest) :
    (request.properties.filter (supported api)).map DtvProperty.toRaw = request.lowered api ++ [⟨dtvTune, 0⟩] := by
  rw [properties, ← List.cons_append, List.filter_append, List.map_append]
  rfl

end Lowering

end TuneRequest

section Tuner

-- What a caller can see of the settings of a frontend: its property cache, and the caches it was tuned to.
structure Tuner where
  cache : UInt32 → UInt32
  tuned : List (UInt32 → UInt32)

def putProperty (cache : UInt32 → UInt32) (p : DtvPropertyRaw) : UInt32 → UInt32 := Function.update cache p.cmd p.data

-- The command to tune acts on the whole cache. A clear leaves the delivery system open, and so does a sequence that is
-- refused with what it sets; but it does not tune before the end.
structure FeKernel.Tunes {κ : Type} (kernel : FeKernel κ) (defaults : UInt32 → UInt32) (view : κ → Tuner) : Prop where
  tuned : ∀ s raw value, (∀ p ∈ raw, p.cmd ≠ dtvTune ∧ p.cmd ≠ dtvClear) →
    (kernel (.setProperty (raw ++ [⟨dtvTune, 0⟩])) s).1 = .ok value →
    (view (kernel (.setProperty (raw ++ [⟨dtvTune, 0⟩])) s).2).tuned =
      (view s).tuned ++ [raw.foldl putProperty (view s).cache]
  cleared : ∀ s value, (kernel (.setProperty [⟨dtvClear, 0⟩]) s).1 = .ok value →
    (view (kernel (.setProperty [⟨dtvClear, 0⟩]) s).2).tuned = (view s).tuned ∧
    ∀ cmd, cmd ≠ dtvDeliverySystem → (view (kernel (.setProperty [⟨dtvClear, 0⟩]) s).2).cache cmd = defaults cmd
  refused : ∀ s raw last errno, (∀ p ∈ raw, p.cmd ≠ dtvTune) →
    (kernel (.setProperty (raw ++ [last])) s).1 = .error errno →
    (view (kernel (.setProperty (raw ++ [last])) s).2).tuned = (view s).tuned
  getEvent : ∀ s, view (kernel .getEvent s).2 = view s
  getFlags : ∀ s, view (kernel .getFlags s).2 = view s
  setFlags : ∀ s flags, view (kernel (.setFlags flags) s).2 = view s

def override (cache : UInt32 → UInt32) (settings : UInt32 → Option UInt32) (cmd : UInt32) : UInt32 :=
  (settings cmd).getD (cache cmd)

theorem foldl_putProperty (raw : List DtvPropertyRaw) (cache : UInt32 → UInt32) :
    raw.foldl putProperty cache = override cache (asked raw) := by
  induction raw generalizing cache with
  | nil => rfl
  | cons p rest ih =>
      rw [List.foldl_cons, ih]
      funext cmd
      rw [override, override, asked]
      cases asked rest cmd with
      | some value => rfl
      | none =>
          by_cases hcmd : p.cmd = cmd
          · subst hcmd
            simp [putProperty]
          · rw [if_neg hcmd, putProperty]
            exact Function.update_of_ne (Ne.symm hcmd) _ _

variable {κ : Type} {kernel : FeKernel κ} {defaults : UInt32 → UInt32} {view : κ → Tuner}

theorem wp_tune (h : kernel.Tunes defaults view) (api : ApiVersion) (request : TuneRequest) (file : FeFile κ) :
    wp (tune kernel api request)
      (fun _ file' => (view file'.kernel).tuned =
        (view file.kernel).tuned ++ [override (view file.kernel).cache (asked (request.lowered api))])
      (fun e file' => (∃ errno, e = .nix errno) ∧ (view file'.kernel).tuned = (view file.kernel).tuned) file := by
  rw [tune, setProperties, TuneRequest.toRaw_properties, setPropertiesRaw, wp_ioctl]
  cases hanswer : (kernel (.setProperty (request.lowered api ++ [⟨dtvTune, 0⟩])) file.kernel).1 with
  | ok value =>
      dsimp only
      rw [← foldl_putProperty]
      exact h.tuned _ _ _ (fun _ => TuneRequest.mem_lowered) hanswer
  | error errno => exact ⟨⟨errno, rfl⟩, h.refused _ _ _ _ (fun _ hp => (TuneRequest.mem_lowered hp).1) hanswer⟩

theorem tune_settings (h : kernel.Tunes defaults view) (api : ApiVersion) (request : TuneRequest) (file : FeFile κ) :
    wp (tune kernel api request)
      (fun _ file' => ∃ settings, TuneRequest.read settings = some (request.canonical api) ∧
        (∀ cmd, (settings cmd).isSome → ∃ p ∈ request.properties, p.toRaw.cmd = cmd) ∧
        (view file'.kernel).tuned = (view file.kernel).tuned ++ [override (view file.kernel).cache settings])
      (fun e file' => (∃ errno, e = .nix errno) ∧ (view file'.kernel).tuned = (view file.kernel).tuned) file := by
  refine wp_mono (wp_tune h api request file) (fun _ file' htuned => ?_) fun _ _ hfailed => hfailed
  refine ⟨asked (request.lowered api), TuneRequest.read_lowered api request, fun cmd hcmd => ?_, htuned⟩
  obtain ⟨p, hp, rfl⟩ := asked_isSome hcmd
  obtain ⟨property, hmem, rfl⟩ := List.mem_map.mp hp
  exact ⟨property, List.mem_append_left _ (List.mem_of_mem_filter hmem), rfl⟩

-- A kernel that takes the properties one by one, and refuses a sequence that is empty or too long.
def Tuner.put (defaults : UInt32 → UInt32) (self : Tuner) (p : DtvPropertyRaw) : Tuner :=
  if p.cmd = dtvClear then
    { self with cache := fun cmd => if cmd = dtvDeliverySystem then self.cache cmd else defaults cmd }
  else if p.cmd = dtvTune then
    { self with tuned := self.tuned ++ [self.cache] }
  else
    { self with cache := putProperty self.cache p }

def cachingKernel (defaults : UInt32 → UInt32) : FeKernel Tuner
  | .setProperty cmdseq, tuner =>
      if cmdseq.length = 0 ∨ 64 < cmdseq.length then
        (.error 22, tuner)
      else
        (.ok 0, cmdseq.foldl (Tuner.put defaults) tuner)
  | .getEvent, tuner => (.error 11, tuner)
  | _, tuner => (.ok 0, tuner)

theorem foldl_put {raw : List DtvPropertyRaw} (h : ∀ p ∈ raw, p.cmd ≠ dtvTune ∧ p.cmd ≠ dtvClear) (tuner : Tuner) :
    raw.foldl (Tuner.put defaults) tuner = { tuner with cache := raw.foldl putProperty tuner.cache } := by
  induction raw generalizing tuner with
  | nil => rfl
  | cons p rest ih =>
      obtain ⟨⟨htune, hclear⟩, hrest⟩ := List.forall_mem_cons.mp h
      rw [List.foldl_cons, ih hrest, Tuner.put, if_neg hclear, if_neg htune]
      rfl

theorem cachingKernel_setProperty {cmdseq : List DtvPropertyRaw} {tuner : Tuner} {value : UInt32}
    (h : (cachingKernel defaults (.setProperty cmdseq) tuner).1 = .ok value) :
    (cachingKernel defaults (.setProperty cmdseq) tuner).2 = cmdseq.foldl (Tuner.put defaults) tuner := by
  rw [cachingKernel] at h ⊢
  split at h
  · cases h
  · next hlength => rw [if_neg hlength]

theorem cachingKernel_tunes (defaults : UInt32 → UInt32) : (cachingKernel defaults).Tunes defaults id where
  tuned s raw value hplain hanswer := by
    rw [cachingKernel_setProperty hanswer, List.foldl_append, foldl_put hplain]
    rfl
  cleared s value hanswer := by
    rw [cachingKernel_setProperty hanswer]
    exact ⟨rfl, fun cmd hcmd => if_neg hcmd⟩
  refused s raw last errno _ hanswer := by
    rw [cachingKernel] at hanswer ⊢
    split at hanswer
    · next hlength => rw [if_pos hlength]
    · cases hanswer
  getEvent s := rfl
  getFlags s := rfl
  setFlags s flags := rfl

def scrambledRequest : TuneRequest :=
  .dvbS2
    { frequencyKhz := 1_150_000, symbolrate := 27_500_000, modulation := .psk8, fec := .fec2_3, inversion := .auto,
      pilot := .auto, rolloff := .auto, mis := some { mode := .root, code := 8, streamId := 5 } }

def usedFrontend : FeFile Tuner := { kernel := { cache := fun _ => 7, tuned := [] } }

theorem tune_settings_scrambled : ∃ file' settings,
    tune (cachingKernel fun _ => 0) api5_11 scrambledRequest usedFrontend = (.ok (), file') ∧
      TuneRequest.read settings = some (scrambledRequest.canonical api5_11) ∧
        file'.kernel.tuned = [override (fun _ => 7) settings] := by
  have hwp := tune_settings (cachingKernel_tunes fun _ => 0) api5_11 scrambledRequest usedFrontend
  rcases wp_cases.mp hwp with ⟨_, hok, settings, hread, _, htuned⟩ | ⟨_, herr, _⟩
  · exact ⟨_, settings, Prod.ext hok rfl, hread, htuned⟩
  · cases herr

end Tuner

end LibDvb
