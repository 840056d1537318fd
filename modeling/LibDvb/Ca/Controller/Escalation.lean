import LibDvb.Ca.Controller.CamStatus
import LibDvb.Ca.Controller.Recovery

namespace LibDvb

open Relation

def Escalated (delta : List Obs) : Prop :=
  ∀ before slotId frame e callback after, delta = before ++ .wrote slotId frame (.error e) callback :: after →
    e.transient = false → ∃ quiet result, after = quiet ++ [.reset result] ∧ ∀ obs ∈ quiet, obs.writes = false

section History

variable {P : List Obs → Obs → Prop} {trace trace' delta : List Obs}

theorem Grows.entry (h : Grows P trace trace') (htrace : trace' = trace ++ delta) :
    ∀ before obs after, delta = before ++ obs :: after → P (trace ++ before) obs := by
  induction h generalizing delta with
  | refl =>
      intro before obs after hdelta
      rw [hdelta] at htrace
      have hempty := List.self_eq_append_right.mp htrace
      simp at hempty
  | @tail mid last hmid hlast ih =>
      obtain ⟨obs, hobs, rfl⟩ := hlast
      obtain ⟨early, hearly⟩ := Grows.initial hmid
      subst hearly
      rw [List.append_assoc, List.append_cancel_left_eq] at htrace
      subst htrace
      intro before other after hdelta
      rcases List.eq_nil_or_concat after with rfl | ⟨after, final, rfl⟩
      · obtain ⟨rfl, hfinal⟩ := List.append_inj' hdelta rfl
        cases hfinal
        exact hobs
      · rw [List.concat_eq_append, ← List.cons_append, ← List.append_assoc] at hdelta
        obtain ⟨hinit, _⟩ := List.append_inj' hdelta rfl
        exact ih rfl before other after hinit

theorem Silent.grows (h : Silent trace trace') : Grows Obs.Unsettled trace trace' := by
  obtain ⟨delta, rfl, hdelta⟩ := h
  refine grows_append fun obs hmem _ => ?_
  have haccesses := hdelta obs hmem
  have hwrites : obs.writes ≠ true := by
    cases obs with
    | wrote => cases haccesses
    | _ => exact Bool.false_ne_true
  exact ⟨(settles_of_accesses haccesses).1, fun hw => absurd hw hwrites⟩

theorem pending_of_fatal {obs : Obs} (hmem : obs ∈ delta) (hfatal : obs.fatal = true)
    (hsettles : ∀ obs ∈ delta, obs.settles = false) : pending (trace ++ delta) = true := by
  induction delta using List.reverseRecOn with
  | nil => cases hmem
  | append_singleton delta last ih =>
      rw [← List.append_assoc, pending_snoc, hsettles last (by simp)]
      rcases List.mem_append.mp hmem with hmem | hmem
      · rw [ih hmem fun other hother => hsettles other (by simp [hother])]
        simp
      · rw [← List.mem_singleton.mp hmem, hfatal]
        simp

theorem quiet_after_fatal (h : Grows Obs.Unsettled trace (trace ++ delta)) {before after : List Obs}
    {obs : Obs} (hdelta : delta = before ++ obs :: after) (hfatal : obs.fatal = true) :
    pending (trace ++ delta) = true ∧ ∀ other ∈ after, other.writes = false := by
  have hentry := h.entry rfl
  have hsettles : ∀ other ∈ delta, other.settles = false := by
    intro other hmem
    obtain ⟨early, late, hsplit⟩ := List.append_of_mem hmem
    exact (hentry early other late hsplit).1
  constructor
  · exact pending_of_fatal (by simp [hdelta]) hfatal hsettles
  · intro other hmem
    obtain ⟨early, late, hsplit⟩ := List.append_of_mem hmem
    have hlater := hentry (before ++ obs :: early) other late (by simp [hdelta, hsplit])
    have hpending : pending (trace ++ (before ++ obs :: early)) = true := by
      refine pending_of_fatal (by simp) hfatal ?_
      intro entry hentry
      refine hsettles entry ?_
      rw [hdelta, hsplit]
      rcases List.mem_append.mp hentry with hin | hin
      · exact List.mem_append_left _ hin
      · exact List.mem_append_right _ (List.mem_cons.mpr ((List.mem_cons.mp hin).imp id
          (List.mem_append_left _)))
    cases hwrites : other.writes with
    | false => rfl
    | true => exact absurd (hpending.symm.trans (hlater.2 hwrites)) nofun

theorem fatal_unmasked {slotId : UInt8} {frame : Bytes} {e : Error} {callback : Bool}
    (hmasked : (Obs.wrote slotId frame (.error e) callback).masked = false) (htransient : e.transient = false) :
    (Obs.wrote slotId frame (.error e) callback).fatal = true := by
  have hmask : (callback && decide (e = CaDevice.shortWrite)) = false := hmasked
  simp [Obs.fatal, htransient, hmask]

end History

namespace CiController

variable {c c' : CiController} {op : ControllerOp} {delta : List Obs}

theorem escalated_reset {rest : List Obs} {result : Except Error Unit}
    (h : Grows Obs.Unsettled c.trace rest) (htrace : c'.trace = rest ++ [.reset result])
    (hdelta : c'.trace = c.trace ++ delta) (hwhole : ∀ obs ∈ delta, obs.masked = false) : Escalated delta := by
  intro before slotId frame e callback after hsplit htransient
  obtain ⟨work, rfl⟩ := Grows.initial h
  rw [htrace, List.append_assoc, List.append_cancel_left_eq] at hdelta
  have hmem : Obs.wrote slotId frame (.error e) callback ∈ delta := by simp [hsplit]
  have hfatal := fatal_unmasked (hwhole _ hmem) htransient
  rw [hsplit] at hdelta
  rcases List.eq_nil_or_concat after with rfl | ⟨quiet, last, rfl⟩
  · obtain ⟨_, hlast⟩ := List.append_inj' hdelta rfl
    cases hlast
  · rw [List.concat_eq_append, ← List.cons_append, ← List.append_assoc] at hdelta
    obtain ⟨hwork, hlast⟩ := List.append_inj' hdelta rfl
    cases hlast
    exact ⟨quiet, result, List.concat_eq_append .., (quiet_after_fatal h hwork hfatal).2⟩

theorem Beat.escalated (hbeat : Beat c op c') (hdelta : c'.trace = c.trace ++ delta)
    (hwhole : ∀ obs ∈ delta, obs.masked = false) : Escalated delta := by
  cases hbeat with
  | waited suspended recoveryAt trace =>
      rw [trace] at hdelta
      have hempty := List.self_eq_append_right.mp hdelta
      intro before slotId frame e callback after hsplit
      rw [hempty] at hsplit
      simp at hsplit
  | worked due suspended grows whole =>
      intro before slotId frame e callback after hsplit htransient
      have hmem : Obs.wrote slotId frame (.error e) callback ∈ delta := by simp [hsplit]
      have hfatal := fatal_unmasked (hwhole _ hmem) htransient
      rw [hdelta] at grows whole
      exact absurd ((quiet_after_fatal grows hsplit hfatal).1.symm.trans whole) nofun
  | restarted due ticked suspended grows silent trace retry =>
      exact escalated_reset (ReflTransGen.trans grows silent.grows) trace hdelta hwhole
  | reset op suspended silent trace => exact escalated_reset silent.grows trace hdelta hwhole
  | resetFailed op suspended retry silent trace => exact escalated_reset silent.grows trace hdelta hwhole

end CiController

def traceBetween (c c' : CiController) : List Obs := c'.trace.drop c.trace.length

theorem write_failure_escalates {start c : CiController} {labels : List ControllerLabel}
    (h : ControllerRun start labels c) (hwhole : ∀ obs ∈ c.trace, obs.masked = false) :
    ∀ delta ∈ perCall traceBetween start labels, Escalated delta := by
  obtain ⟨hstart, hrun⟩ := h
  induction hrun with
  | nil => exact fun _ hmem => nomatch hmem
  | @snoc labels c label c' hrun hstep ih =>
      have hsettled : c.Settled := ControllerRun.settled ⟨hstart, hrun⟩
      have hturn := CiController.step_turn hsettled hstep
      have hrelinked := hsettled.relinked label.link
      have hinitial := hturn.initial hrelinked
      obtain ⟨_, _, hbeat⟩ := hturn.beat hrelinked
      obtain ⟨delta, hdelta⟩ := hinitial
      have htrace : c'.trace = c.trace ++ delta := hdelta.symm
      have hbetween : traceBetween c c' = delta := by rw [traceBetween, htrace, List.drop_left]
      rw [htrace] at hwhole
      rw [perCall_snoc traceBetween hrun hstep, hbetween]
      intro other hmem
      rcases List.mem_append.mp hmem with hmem | hmem
      · exact ih (fun obs hobs => hwhole obs (List.mem_append_left _ hobs)) other hmem
      · rw [List.mem_singleton.mp hmem]
        exact hbeat.escalated hdelta.symm fun obs hobs => hwhole obs (List.mem_append_right _ hobs)

def createCutShort : List (CaDevice × ControllerOp) := [({ moduleReady with writes := [.short] }, .tick 0)]

theorem createCutShort_isSome : (trail ControllerOp.next oneSlot createCutShort).isSome := by decide +kernel

def afterCreateCutShort : List ControllerLabel × CiController :=
  (trail ControllerOp.next oneSlot createCutShort).get createCutShort_isSome

theorem createCutShort_run : ControllerRun oneSlot afterCreateCutShort.1 afterCreateCutShort.2 :=
  oneSlot_run createCutShort_isSome

theorem createCutShort_outside : ∀ obs ∈ afterCreateCutShort.2.trace, obs.masked = false := by decide +kernel

theorem createCutShort_refused : afterCreateCutShort.2.trace.any Obs.refused = true := by decide +kernel

theorem write_failure_escalates_create : ControllerRun oneSlot afterCreateCutShort.1 afterCreateCutShort.2 ∧
    afterCreateCutShort.2.trace.any Obs.refused = true ∧
      ∀ delta ∈ perCall traceBetween oneSlot afterCreateCutShort.1, Escalated delta :=
  ⟨createCutShort_run, createCutShort_refused,
    write_failure_escalates createCutShort_run createCutShort_outside⟩

-- The module opens a Resource Manager session and asks for the profile; the link takes a part of the
-- answer only.
def profileCutShort : List (CaDevice × ControllerOp) :=
  handshake ++ [({}, .pollEvent), frameRead (dataFrame [0x91, 4, 0x00, 0x01, 0x00, 0x41]),
    frameRead [0, 1, 0x80, 2, 1, 0],
    ({ moduleReady with
      reads := [.frame (dataFrame [0x90, 2, 0, 2, 0x9F, 0x80, 0x10, 0])], writes := [.short] }, .pollEvent)]

theorem profileCutShort_isSome : (trail ControllerOp.next oneSlot profileCutShort).isSome := by decide +kernel

def afterProfileCutShort : List ControllerLabel × CiController :=
  (trail ControllerOp.next oneSlot profileCutShort).get profileCutShort_isSome

theorem profileCutShort_run : ControllerRun oneSlot afterProfileCutShort.1 afterProfileCutShort.2 :=
  oneSlot_run profileCutShort_isSome

theorem Escalated.settled {delta : List Obs} (h : Escalated delta) {obs : Obs} (hmem : obs ∈ delta)
    (hrefused : obs.refused = true) : ∃ other ∈ delta, other.settles = true := by
  obtain ⟨before, after, hsplit⟩ := List.append_of_mem hmem
  cases obs with
  | wrote slotId frame result callback =>
      cases result with
      | ok _ => cases hrefused
      | error e =>
          have htransient : e.transient = false := by
            have hnot : (!e.transient) = true := hrefused
            simpa using hnot
          obtain ⟨quiet, reset, hafter, _⟩ := h before slotId frame e callback after hsplit htransient
          exact ⟨.reset reset, by simp [hsplit, hafter], rfl⟩
  | _ => cases hrefused

theorem profileCutShort_unsettled : (perCall traceBetween oneSlot afterProfileCutShort.1).any (fun delta =>
    delta.any Obs.refused && delta.all fun obs => !obs.settles) = true := by decide +kernel

-- A resource callback reports a short write as malformed data, and the call goes on without a reset.
theorem profile_cut_short_unnoticed : ControllerRun oneSlot afterProfileCutShort.1 afterProfileCutShort.2 ∧
    afterProfileCutShort.2.lastTick = some 0 ∧
      ¬ ∀ delta ∈ perCall traceBetween oneSlot afterProfileCutShort.1, Escalated delta := by
  refine ⟨profileCutShort_run, by decide +kernel, ?_⟩
  intro hall
  obtain ⟨delta, hmem, hdelta⟩ := List.any_eq_true.mp profileCutShort_unsettled
  obtain ⟨hany, hnone⟩ := Bool.and_eq_true_iff.mp hdelta
  obtain ⟨obs, hobs, hrefused⟩ := List.any_eq_true.mp hany
  obtain ⟨other, hother, hsettles⟩ := (hall delta hmem).settled hobs hrefused
  have hunsettled := List.all_eq_true.mp hnone other hother
  rw [hsettles] at hunsettled
  cases hunsettled

end LibDvb
