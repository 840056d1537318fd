import LibDvb.Fe.Sec.Codec
import LibDvb.Fe.Sec.Run

namespace LibDvb

open Act Outcome FeFile

section Line

inductive SecMessage where
  | burst (cmd : SecMiniCmd)
  | master (msg : Bytes)
  deriving DecidableEq, Repr

-- The cable to the dish, as the calls of the frontend leave it.
structure SecLine where
  tone : Option SecTone := none
  voltage : Option SecVoltage := none
  changed : Option Instant := none
  deriving DecidableEq, Repr

def FeCall.message : FeCall → Option SecMessage
  | diseqcSendBurst value => (SecMiniCmd.coded.tryFrom value).toOption.map .burst
  | diseqcSendMasterCmd cmd => some (.master (cmd.msg.toList.take cmd.len.toNat))
  | _ => none

def SecLine.after (self : SecLine) (entry : Nat × FeCall) : SecLine :=
  match entry.2 with
  | .setTone value => { self with tone := (SecTone.coded.tryFrom value).toOption, changed := some entry.1 }
  | .setVoltage value => { self with voltage := (SecVoltage.coded.tryFrom value).toOption, changed := some entry.1 }
  | _ => self

def secMessages (log : List (Nat × FeCall)) : List SecMessage := log.filterMap fun entry => entry.2.message

-- What a kind of equipment asks of the line, and how the line is left for it.
structure SecDuty where
  voltage : SecVoltage
  settle : Duration
  gap : Duration
  leaves : SecTone × SecVoltage
  deriving DecidableEq, Repr

def SecDuty.Kept (duty : SecDuty) : SecLine → List (Nat × FeCall) → Prop
  | _, [] => True
  | line, entry :: rest =>
      (entry.2.message.isSome → line.tone = some .off ∧ line.voltage = some duty.voltage ∧
        (∃ since, line.changed = some since ∧ since + duty.settle ≤ entry.1) ∧
        ∀ next ∈ rest, entry.1 + duty.gap ≤ next.1) ∧
      duty.Kept (line.after entry) rest

end Line

section Transfer

variable {duty : SecDuty} {line line' : SecLine} {lag last : Nat} {ideal log before rest : List (Nat × FeCall)}

theorem SecDuty.Kept.left (h : duty.Kept line (before ++ rest)) : duty.Kept line before := by
  induction before generalizing line with
  | nil => trivial
  | cons entry before ih =>
      obtain ⟨hentry, hrest⟩ := h
      refine ⟨fun hmessage => ?_, ih hrest⟩
      obtain ⟨htone, hvoltage, hsettle, hgap⟩ := hentry hmessage
      exact ⟨htone, hvoltage, hsettle, fun next hmem => hgap next (List.mem_append_left _ hmem)⟩

structure SecLine.Follows (actual ideal : SecLine) (lag : Nat) : Prop where
  tone : actual.tone = ideal.tone
  voltage : actual.voltage = ideal.voltage
  changed : ∀ since, ideal.changed = some since → ∃ later, actual.changed = some later ∧ later ≤ since + lag

theorem SecLine.Follows.after (h : line'.Follows line lag) {later t : Nat} {call : FeCall} (grown : lag ≤ later) :
    (line'.after (t + later, call)).Follows (line.after (t, call)) later := by
  have hkept : ∀ since, line.changed = some since → ∃ at', line'.changed = some at' ∧ at' ≤ since + later := by
    intro since hsince
    obtain ⟨at', hat, hle⟩ := h.changed since hsince
    exact ⟨at', hat, Nat.le_trans hle (Nat.add_le_add_left grown since)⟩
  have hnow : ∀ since, some t = some since → ∃ at', some (t + later) = some at' ∧ at' ≤ since + later := by
    intro since hsince
    exact ⟨t + later, rfl, by rw [Option.some.inj hsince]⟩
  cases call with
  | setTone value => exact ⟨rfl, h.voltage, hnow⟩
  | setVoltage value => exact ⟨h.tone, rfl, hnow⟩
  | _ => exact ⟨h.tone, h.voltage, hkept⟩

theorem SecDuty.Kept.drift (h : duty.Kept line ideal) (hdrift : Drift lag ideal log last) (hline : line'.Follows line lag) :
    duty.Kept line' log := by
  induction hdrift generalizing line line' with
  | nil => trivial
  | @cons lag later last t call ideal log grown rest ih =>
      obtain ⟨hentry, hrest⟩ := h
      refine ⟨fun hmessage => ?_, ih hrest (hline.after grown)⟩
      obtain ⟨htone, hvoltage, ⟨since, hsince, hsettle⟩, hgap⟩ := hentry hmessage
      obtain ⟨since', hsince', hle⟩ := hline.changed since hsince
      refine ⟨hline.tone.trans htone, hline.voltage.trans hvoltage, ⟨since', hsince', ?_⟩, fun next hmem => ?_⟩
      · calc since' + duty.settle ≤ since + lag + duty.settle := Nat.add_le_add_right hle _
          _ = since + duty.settle + lag := Nat.add_right_comm _ _ _
          _ ≤ t + later := Nat.add_le_add hsettle grown
      · obtain ⟨t', hideal, hlater⟩ := rest.mem hmem
        calc t + later + duty.gap = t + duty.gap + later := Nat.add_right_comm _ _ _
          _ ≤ t' + later := Nat.add_le_add_right (hgap _ hideal) later
          _ ≤ next.1 := hlater

theorem Drift.follows (hdrift : Drift lag ideal log last) (hline : line'.Follows line lag) :
    (log.foldl SecLine.after line').Follows (ideal.foldl SecLine.after line) last := by
  induction hdrift generalizing line line' with
  | nil grown => exact ⟨hline.tone, hline.voltage, fun since hsince => by
      obtain ⟨later, hlater, hle⟩ := hline.changed since hsince
      exact ⟨later, hlater, Nat.le_trans hle (Nat.add_le_add_left grown since)⟩⟩
  | cons grown rest ih => exact ih (hline.after grown)

theorem Drift.messages (hdrift : Drift lag ideal log last) : secMessages log = secMessages ideal := by
  have hmap (entries : List (Nat × FeCall)) : secMessages entries = (entries.map Prod.snd).filterMap FeCall.message := by
    rw [List.filterMap_map]
    rfl
  rw [hmap, hmap, hdrift.acts]

end Transfer

section Plan

variable {debug : Bytes → String} {transponderMhz : UInt32} {lnb : Lnb} {config : SecConfig} {timings : SecTimings}
  {setup : SecSetup} {band : SecTone} {sequence : List SecCommand}

def SecConfig.Drives (config : SecConfig) (band : SecTone) (timings : SecTimings) (sequence : List SecCommand) : Prop :=
  match config with
  | .lnb voltage =>
      sequence = [.setTone .off, .setVoltage voltage, .wait timings.lnbSettle, .setTone band, .wait timings.lnbSettle]
  | .shared => sequence = [.setTone .off, .setVoltage .off]
  | .switch1_0 config | .switch1_1 config =>
      ∃ msg, (3 ≤ msg.length ∧ msg.length ≤ 6) ∧ sequence = controlledMasterSequence config.voltage band msg timings
  | .toneburst config =>
      sequence = [.setTone .off, .setVoltage config.voltage, .wait timings.messageGap, .sendBurst config.burst,
        .wait timings.messageGap, .setTone band]
  | .unicable1 _ | .unicable2 _ =>
      ∃ msg, (3 ≤ msg.length ∧ msg.length ≤ 6) ∧ sequence = unicableSequence msg timings
  | .dsl input => SecParser.Program sequence input

theorem yields_secSetup {mhz : UInt32} {P : List SecCommand → Prop} (h : P sequence) :
    Yields (secSetup mhz sequence) (fun setup => P setup.secSequence) :=
  Outcome.yields_bind fun _ => yields_ok h

theorem secSequence_drives (h : secSequence debug transponderMhz lnb config timings = .ok setup) :
    config.Drives (lnb.band transponderMhz) timings setup.secSequence := by
  rcases lnb.intermediate_offset transponderMhz with ⟨_, mhz, hmhz, _⟩ | ⟨_, e, herr, _⟩
  swap
  · rw [secSequence, herr, err_bind] at h
    cases h
  rw [secSequence, hmhz, ok_bind] at h
  refine (?_ : Yields _ fun setup => config.Drives (lnb.band transponderMhz) timings setup.secSequence) setup h
  cases config with
  | lnb voltage => exact yields_secSetup rfl
  | shared => exact yields_secSetup rfl
  | switch1_0 config =>
      simp only [diseqc1_0Sequence]
      split
      · exact yields_err _
      · exact Outcome.yields_bind fun port => yields_secSetup ⟨_, by simp, rfl⟩
  | switch1_1 config =>
      simp only [diseqc1_1Sequence]
      split
      · exact yields_err _
      · exact Outcome.yields_bind fun port => yields_secSetup ⟨_, by simp, rfl⟩
  | toneburst config => exact yields_secSetup rfl
  | unicable1 config =>
      simp only [unicable1Sequence]
      split
      · exact yields_err _
      · split
        · exact yields_err _
        · split
          · exact yields_err _
          · split
            · exact yields_err _
            · exact Outcome.yields_bind fun slot => yields_secSetup ⟨_, by simp, rfl⟩
  | unicable2 config =>
      simp only [unicable2Sequence]
      split
      · exact yields_err _
      · split
        · exact yields_err _
        · split
          · exact yields_err _
          · split
            · exact yields_err _
            · refine Outcome.yields_bind fun slot => yields_secSetup ⟨_, ?_, rfl⟩
              cases config.pin <;> simp
  | dsl input =>
      simp only
      cases hparse : parseSecSequence debug input with
      | ok commands => exact yields_secSetup (SecParser.parse_iff.mp hparse)
      | err e => exact yields_err e
      | panic => rintro _ ⟨⟩

theorem SecParser.Spells.sendable {command : SecCommand} {spelling : Bytes} (h : Spells command spelling) :
    command.Sendable := by
  cases h with
  | message bytes least most => exact ⟨least, most⟩
  | _ => trivial

theorem SecParser.Commands.sendable {commands : List SecCommand} {rest : Bytes} (h : Commands commands rest) :
    ∀ command ∈ commands, command.Sendable := by
  induction h with
  | nil => exact fun _ hmem => absurd hmem List.not_mem_nil
  | cons first _ _ ih => exact List.forall_mem_cons.mpr ⟨first.sendable, ih⟩

theorem SecConfig.Drives.sendable (h : config.Drives band timings sequence) : ∀ command ∈ sequence, command.Sendable := by
  cases config with
  | dsl input =>
      obtain ⟨_, _, _, _, hcommands⟩ := h
      exact hcommands.sendable
  | switch1_0 config | switch1_1 config | unicable1 config | unicable2 config =>
      obtain ⟨msg, hlength, rfl⟩ := h
      simp [controlledMasterSequence, unicableSequence, SecCommand.Sendable, hlength]
  | _ =>
      rw [show sequence = _ from h]
      simp [SecCommand.Sendable]

end Plan

section Message

variable {sequence : List SecCommand} {now : Instant}

def SecCommand.message : SecCommand → Option SecMessage
  | sendBurst cmd => some (.burst cmd)
  | sendMasterCommand msg => some (.master msg)
  | _ => none

theorem take_masterCmd {msg : Bytes} (h : msg.length ≤ 6) :
    (masterCmd msg).msg.toList.take (masterCmd msg).len.toNat = msg := by
  have hlen : (masterCmd msg).len.toNat = msg.length :=
    UInt8.toNat_ofNat_of_lt' (Nat.lt_of_le_of_lt h (by decide))
  rw [hlen]
  refine List.ext_getElem (by simpa [masterCmd] using h) fun i _ hi => ?_
  simp [masterCmd, hi]

theorem message_call {command : SecCommand} {call : FeCall} (sendable : command.Sendable) (asks : command.beat = .act call) :
    call.message = command.message := by
  cases command with
  | setTone value | setVoltage value =>
      obtain rfl := Beat.act.inj asks
      rfl
  | sendBurst value =>
      obtain rfl := Beat.act.inj asks
      rw [FeCall.message, Coded.tryFrom_asU32]
      rfl
  | sendMasterCommand msg =>
      obtain rfl := Beat.act.inj asks
      rw [FeCall.message, take_masterCmd sendable.2]
      rfl
  | wait duration => cases asks

theorem message_wait {command : SecCommand} {duration : Duration} (asks : command.beat = .wait duration) :
    command.message = none := by
  cases command with
  | wait duration => rfl
  | _ => cases asks

theorem secMessages_secPlan (sendable : ∀ command ∈ sequence, command.Sendable) :
    secMessages (secPlan now sequence) = sequence.filterMap SecCommand.message := by
  induction sequence generalizing now with
  | nil => rfl
  | cons command rest ih =>
      obtain ⟨hcommand, hrest⟩ := List.forall_mem_cons.mp sendable
      rw [List.filterMap_cons, secPlan, List.map_cons]
      cases hbeat : command.beat with
      | act call =>
          rw [schedule, secMessages, List.filterMap_cons, message_call hcommand hbeat]
          cases command.message with
          | none => exact ih hrest
          | some message => exact congrArg (message :: ·) (ih hrest)
      | wait duration =>
          rw [message_wait hbeat]
          exact ih hrest

def SecConfig.Says (config : SecConfig) (mhz : Int) (band : SecTone) (messages : List SecMessage) : Prop :=
  match config with
  | .lnb _ | .shared => messages = []
  | .toneburst config => messages = [.burst config.burst]
  | .dsl input => ∃ commands, SecParser.Program commands input ∧ messages = commands.filterMap SecCommand.message
  | config => ∃ msg, messages = [.master msg] ∧ config.Decodes mhz band msg

variable {debug : Bytes → String} {transponderMhz : UInt32} {lnb : Lnb} {config : SecConfig} {timings : SecTimings}
  {setup : SecSetup}

theorem secSequence_carries (h : secSequence debug transponderMhz lnb config timings = .ok setup) :
    (setup.frontendFrequencyKhz.toNat : Int) = 1000 * config.tunedMhz (lnb.shifted transponderMhz) ∧
    (config.Addressed → ∃ msg, masterCommands setup.secSequence = [msg] ∧
      config.Decodes (lnb.shifted transponderMhz) (lnb.band transponderMhz) msg) := by
  rcases @secSequence_configured debug transponderMhz lnb config timings with ⟨hnonneg, hconfigured⟩ | ⟨_, e, herr, _⟩
  swap
  · rw [herr] at h
    cases h
  rw [h] at hconfigured
  cases hconfigured with
  | refused _ _ made => cases made
  | accepted accepts tuned sequence made exact carried =>
      rw [Int.toNat_of_nonneg hnonneg] at exact carried
      by_cases hfits : 1000 * (tuned.toNat : Int) < 2 ^ 32
      · obtain ⟨khz, hsetup, hkhz⟩ := secSetup_eq_ok sequence hfits
        rw [hsetup] at made
        obtain rfl := Outcome.ok.inj made
        exact ⟨exact ▸ hkhz, carried⟩
      · rw [secSetup_eq_panic (Int.not_lt.mp hfits)] at made
        cases made

theorem secSequence_says (h : secSequence debug transponderMhz lnb config timings = .ok setup) :
    config.Says (lnb.shifted transponderMhz) (lnb.band transponderMhz) (setup.secSequence.filterMap SecCommand.message) := by
  have hdrives := secSequence_drives h
  have hcarries := (secSequence_carries h).2
  cases config with
  | switch1_0 config | switch1_1 config | unicable1 config | unicable2 config =>
      obtain ⟨msg, _, hsequence⟩ := hdrives
      obtain ⟨msg', hmsg, hdecodes⟩ := hcarries trivial
      rw [hsequence] at hmsg ⊢
      obtain rfl : msg = msg' := (List.cons.inj hmsg).1
      exact ⟨msg, rfl, hdecodes⟩
  | dsl input => exact ⟨setup.secSequence, hdrives, rfl⟩
  | _ =>
      rw [show setup.secSequence = _ from hdrives]
      rfl

end Message

section Duty

-- What the built-in sequences keep to; a text of the control language has its own waits.
def SecConfig.duty (config : SecConfig) (band : SecTone) (timings : SecTimings) : Option SecDuty :=
  match config with
  | .lnb voltage => some ⟨voltage, timings.lnbSettle, timings.lnbSettle, band, voltage⟩
  | .shared => some ⟨.off, 0, 0, .off, .off⟩
  | .switch1_0 config | .switch1_1 config =>
      some ⟨config.voltage, timings.switchSettle, timings.messageGap, band, config.voltage⟩
  | .toneburst config => some ⟨config.voltage, timings.messageGap, timings.messageGap, band, config.voltage⟩
  | .unicable1 _ | .unicable2 _ => some ⟨.v18, timings.messageGap, timings.unicableHold, .off, .v13⟩
  | .dsl _ => none

variable {config : SecConfig} {band : SecTone} {timings : SecTimings} {sequence : List SecCommand} {duty : SecDuty}
  {now : Instant}

theorem SecConfig.Drives.settled (h : config.Drives band timings sequence) (hduty : config.duty band timings = some duty) :
    duty.Kept {} (secPlan now sequence) := by
  cases config with
  | dsl input => cases hduty
  | switch1_0 config | switch1_1 config | unicable1 config | unicable2 config =>
      obtain ⟨msg, _, rfl⟩ := h
      obtain rfl := Option.some.inj hduty
      simp [secPlan, controlledMasterSequence, unicableSequence, SecCommand.beat, schedule, SecDuty.Kept, FeCall.message,
        SecLine.after, Coded.tryFrom_asU32, Except.toOption]
  | _ =>
      obtain rfl := Option.some.inj hduty
      rw [show sequence = _ from h]
      simp [secPlan, SecCommand.beat, schedule, SecDuty.Kept, FeCall.message, SecLine.after, Coded.tryFrom_asU32, Except.toOption]

theorem SecConfig.Drives.leaves (h : config.Drives band timings sequence) (hduty : config.duty band timings = some duty) :
    ((secPlan now sequence).foldl SecLine.after {}).tone = some duty.leaves.1 ∧
      ((secPlan now sequence).foldl SecLine.after {}).voltage = some duty.leaves.2 := by
  cases config with
  | dsl input => cases hduty
  | switch1_0 config | switch1_1 config | unicable1 config | unicable2 config =>
      obtain ⟨msg, _, rfl⟩ := h
      obtain rfl := Option.some.inj hduty
      simp [secPlan, controlledMasterSequence, unicableSequence, SecCommand.beat, schedule, SecLine.after,
        Coded.tryFrom_asU32, Except.toOption]
  | _ =>
      obtain rfl := Option.some.inj hduty
      rw [show sequence = _ from h]
      simp [secPlan, SecCommand.beat, schedule, SecLine.after, Coded.tryFrom_asU32, Except.toOption]

theorem SecDuty.Kept.begun {before rest : List SecCommand} (h : duty.Kept {} (secPlan now (before ++ rest))) :
    duty.Kept {} (secPlan now before) := by
  rw [secPlan, List.map_append] at h
  obtain ⟨later, hsplit⟩ := schedule_append (before.map SecCommand.beat) (rest.map SecCommand.beat) now
  rw [hsplit] at h
  exact h.left

theorem SecDuty.Kept.paced {log : List FeEntry} (h : duty.Kept {} (secPlan now sequence)) (hpaced : SecPaced 0 now sequence log) :
    duty.Kept {} (log.map FeEntry.stamp) := by
  obtain ⟨delay, hdrift⟩ := hpaced
  exact h.drift hdrift ⟨rfl, rfl, by rintro _ ⟨⟩⟩

variable {κ : Type} {debug : Bytes → String} {transponderMhz : UInt32} {lnb : Lnb} {setup : SecSetup}

theorem wp_configured (kernel : FeKernel κ) (file : FeFile κ)
    (built : secSequence debug transponderMhz lnb config timings = .ok setup) :
    wp (runSecSequence kernel setup.secSequence)
      (fun _ file' => ∃ log, file'.calls = file.calls ++ log ∧
        config.Says (lnb.shifted transponderMhz) (lnb.band transponderMhz) (secMessages (log.map FeEntry.stamp)) ∧
        ∀ duty, config.duty (lnb.band transponderMhz) timings = some duty →
          duty.Kept {} (log.map FeEntry.stamp) ∧
          ((log.map FeEntry.stamp).foldl SecLine.after {}).tone = some duty.leaves.1 ∧
          ((log.map FeEntry.stamp).foldl SecLine.after {}).voltage = some duty.leaves.2)
      (fun e file' => ∃ log, file'.calls = file.calls ++ log ∧ (∃ errno, e = .nix errno) ∧
        ∀ duty, config.duty (lnb.band transponderMhz) timings = some duty → duty.Kept {} (log.map FeEntry.stamp))
      file := by
  have hdrives := secSequence_drives built
  refine wp_mono (wp_runSecSequence setup.secSequence (Nat.add_zero file.now).symm) (fun _ file' h => ?_) fun e file' h => ?_
  · obtain ⟨log, hcalls, _, hpaced⟩ := h
    obtain ⟨delay, hdrift⟩ := hpaced
    refine ⟨log, hcalls, ?_, fun duty hduty => ⟨(hdrives.settled hduty).paced ⟨delay, hdrift⟩, ?_⟩⟩
    · rw [hdrift.messages, secMessages_secPlan hdrives.sendable]
      exact secSequence_says built
    · have hline := hdrift.follows (show SecLine.Follows {} {} 0 from ⟨rfl, rfl, by rintro _ ⟨⟩⟩)
      rw [hline.tone, hline.voltage]
      exact hdrives.leaves hduty
  · obtain ⟨log, hcalls, hstopped⟩ := h
    cases hstopped with
    | refused done command rest split unsendable context accepted paced =>
        exact absurd (hdrives.sendable command (split ▸ List.mem_append_right _ List.mem_cons_self)) unsendable
    | rejected done command rest split before last logged accepted errno answer paced =>
        refine ⟨log, hcalls, ⟨errno, rfl⟩, fun duty hduty => SecDuty.Kept.paced ?_ paced⟩
        have hsettled := @SecConfig.Drives.settled _ _ _ _ _ file.now hdrives hduty
        rw [split, List.append_cons] at hsettled
        exact hsettled.begun

theorem setupSec_settled (kernel : FeKernel κ) (timings : SecTimings) (debug : Bytes → String) (transponderMhz : UInt32)
    (lnb : Lnb) (config : SecConfig) (file : FeFile κ) :
    wlp (setupSecWith kernel timings debug transponderMhz lnb config)
      (fun khz file' => (khz.toNat : Int) = 1000 * config.tunedMhz (lnb.shifted transponderMhz) ∧
        ∃ log, file'.calls = file.calls ++ log ∧
          config.Says (lnb.shifted transponderMhz) (lnb.band transponderMhz) (secMessages (log.map FeEntry.stamp)) ∧
          ∀ duty, config.duty (lnb.band transponderMhz) timings = some duty →
            duty.Kept {} (log.map FeEntry.stamp) ∧
            ((log.map FeEntry.stamp).foldl SecLine.after {}).tone = some duty.leaves.1 ∧
            ((log.map FeEntry.stamp).foldl SecLine.after {}).voltage = some duty.leaves.2)
      (fun e file' => (e.IsInvalidData ∧ file'.calls = file.calls) ∨
        ∃ log, file'.calls = file.calls ++ log ∧ (∃ errno, e = .nix errno) ∧
          ∀ duty, config.duty (lnb.band transponderMhz) timings = some duty → duty.Kept {} (log.map FeEntry.stamp))
      file := by
  rw [setupSecWith, wlp_bind, wlp_lift]
  refine ⟨fun setup built => ?_, fun e failed => .inl ⟨?_, rfl⟩⟩
  · rw [wlp_bind]
    refine wlp_of_wp (wp_mono (wp_configured kernel file built) (fun _ file' h => ?_) fun e file' h => .inr h)
    exact wlp_pure.mpr ⟨(secSequence_carries built).1, h⟩
  · rcases @secSequence_configured debug transponderMhz lnb config timings with ⟨_, hconfigured⟩ | ⟨_, e', herr, hinvalid⟩
    · rw [failed] at hconfigured
      cases hconfigured with
      | accepted _ tuned sequence made _ _ =>
          rw [secSetup, mulU32] at made
          split at made <;> cases made
      | refused _ context made => exact ⟨context, Outcome.err.inj made⟩
    · rw [failed] at herr
      exact Outcome.err.inj herr ▸ hinvalid

end Duty

end LibDvb
