import LibDvb.Ca.Controller.EventLog
import LibDvb.Ca.Driver.Run

namespace LibDvb

open Relation

def CiDriver.forwarded (d : CiDriver) : List CaEvent := d.events.filterMap CiDriverEvent.caEvent

structure CiDriver.Follows (made : CiController) (d : CiDriver) : Prop where
  run : ∃ link c, Run ControllerStep made (d.calls.map DriverCall.label) c ∧ d.controller = CiController.linkLens.set link c
  forwarded : d.forwarded = delivered (d.calls.map DriverCall.label)
  events : made.events <+: d.forwarded ++ d.controller.events

def CiDriver.Accounted (d : CiDriver) : Prop :=
  ∃ first before made, ControllerRun first before made ∧ d.Follows made

structure CiDriver.Published (d : CiDriver) : Prop where
  awake : d.returned = none → d.ready = d.controller.caPmtReady
  returned : d.returned.isSome = true → d.watched = true → d.ready = false

structure CiDriver.Drives (d : CiDriver) (label : DriverLabel) (d' : CiDriver) : Prop where
  awaited : ∀ guard, label.wake = .readable guard → d.controller.linkSuspended = false
  cleared : (d.within label.around).readable = true → d'.readable = false →
    d'.controller.linkSuspended = false ∧ d.controller.Drains d'.controller
  events : d.forwarded ++ d.controller.events <+: d'.forwarded ++ d'.controller.events

namespace CiDriver

variable {made : CiController} {d d' : CiDriver} {op : ControllerOp} {reply : Except Error (Option CaEvent)}
  {c' : CiController}

structure Onward (d d' : CiDriver) : Prop where
  trace : d.controller.trace <+: d'.controller.trace
  events : d.forwarded ++ d.controller.events <+: d'.forwarded ++ d'.controller.events

theorem Onward.refl (d : CiDriver) : Onward d d := ⟨List.prefix_refl _, List.prefix_refl _⟩

theorem Onward.trans {d'' : CiDriver} (h : Onward d d') (h' : Onward d' d'') : Onward d d'' :=
  ⟨h.trace.trans h'.trace, h.events.trans h'.events⟩

theorem Onward.still (controller : d'.controller = d.controller) (forwarded : d'.forwarded = d.forwarded) :
    Onward d d' := by
  constructor
  · rw [controller]
  · rw [controller, forwarded]

theorem Follows.still (h : d.Follows made) (controller : d'.controller = d.controller) (calls : d'.calls = d.calls)
    (forwarded : d'.forwarded = d.forwarded) : d'.Follows made := by
  constructor
  · rw [controller, calls]
    exact h.run
  · rw [calls, forwarded]
    exact h.forwarded
  · rw [controller, forwarded]
    exact h.events

theorem Follows.within (h : d.Follows made) (around : Surroundings) : (d.within around).Follows made := by
  obtain ⟨link, c, hrun, hcontroller⟩ := h.run
  refine ⟨⟨around.link, c, hrun, ?_⟩, h.forwarded, h.events⟩
  rw [CiDriver.within, hcontroller]
  rfl

theorem Follows.settled (h : d.Follows made) (settled : made.Settled) : d.controller.Settled := by
  obtain ⟨link, c, hrun, hcontroller⟩ := h.run
  rw [hcontroller]
  exact (hrun.invariant settled fun _ _ _ => CiController.Settled.step).relinked link

theorem Follows.step (h : d.Follows made) (settled : made.Settled) {call : DriverCall} (step : d.Calls op reply c')
    (label : call.label = ⟨CiController.linkLens.get d.controller, op, reply⟩) (controller : d'.controller = c')
    (calls : d'.calls = d.calls ++ [call]) (forwarded : d'.forwarded = d.forwarded ++ deliveredBy reply) :
    d'.Follows made ∧ Onward d d' := by
  obtain ⟨htrace, hevents⟩ := CiController.step_extends (h.settled settled) step
  have hmap : d'.calls.map DriverCall.label = d.calls.map DriverCall.label ++ [call.label] := by
    rw [calls, List.map_append, List.map_singleton]
  have honward : d.forwarded ++ d.controller.events <+: d'.forwarded ++ d'.controller.events := by
    rw [forwarded, controller, List.append_assoc]
    exact (List.prefix_append_right_inj _).mpr hevents
  refine ⟨⟨?_, ?_, h.events.trans honward⟩, by rwa [controller], honward⟩
  · obtain ⟨link, c, hrun, hcontroller⟩ := h.run
    refine ⟨CiController.linkLens.get c', c', ?_, controller⟩
    rw [hmap, label]
    refine .snoc hrun ?_
    rw [Calls, hcontroller] at step
    rw [hcontroller]
    exact step
  · rw [forwarded, h.forwarded, hmap, label]
    simp [delivered]

theorem elapsed_forwarded (d : CiDriver) : d.elapsed.forwarded = d.forwarded := by
  unfold elapsed
  split <;> rfl

theorem told_forwarded (event : CiDriverEvent) (d : CiDriver) :
    (d.told event).forwarded = d.forwarded ++ event.caEvent.toList := by
  rw [forwarded, told, List.filterMap_append, forwarded]
  cases event <;> rfl

theorem Follows.move (h : d.Follows made) (settled : made.Settled) (hmove : Move d d') : d'.Follows made ∧ Onward d d' := by
  have hstill {d' : CiDriver} (controller : d'.controller = d.controller) (calls : d'.calls = d.calls)
      (forwarded : d'.forwarded = d.forwarded) : d'.Follows made ∧ Onward d d' :=
    ⟨h.still controller calls forwarded, .still controller forwarded⟩
  cases hmove with
  | elapsed => exact hstill d.elapsed_controller d.elapsed_calls d.elapsed_forwarded
  | called calls silent =>
      refine h.step settled calls rfl rfl rfl ?_
      rw [silent, List.append_nil]
      rfl
  | forwarded calls => exact h.step settled calls rfl rfl rfl (told_forwarded _ _)
  | told own =>
      refine hstill rfl rfl ?_
      rw [told_forwarded, own]
      exact List.append_nil _
  | retried suspended unscheduled armed due calls silent =>
      refine h.step settled calls rfl rfl rfl ?_
      rw [silent, List.append_nil]
      rfl
  | @retryFailed e c' retryAt next suspended unscheduled armed due calls sum =>
      have hcontroller := (d.called true .reset (.error e) c').elapsed_controller
      have hcalls := (d.called true .reset (.error e) c').elapsed_calls
      refine h.step settled calls rfl hcontroller hcalls ?_
      exact (elapsed_forwarded _).trans (List.append_nil _).symm
  | armed unarmed sum => exact hstill d.elapsed_controller d.elapsed_calls d.elapsed_forwarded
  | disarmed resumed => exact hstill rfl rfl rfl
  | noted ready nextTick => exact hstill rfl rfl rfl

theorem Follows.moves (h : d.Follows made) (settled : made.Settled) (hmoves : Moves d d') :
    d'.Follows made ∧ Onward d d' := by
  induction hmoves with
  | refl => exact ⟨h, .refl d⟩
  | tail _ hmove ih =>
      obtain ⟨hfollows, honward⟩ := ih.1.move settled hmove
      exact ⟨hfollows, ih.2.trans honward⟩

theorem Follows.drains {d₁ : CiDriver} (h : d.Follows made) (settled : made.Settled) (hdrained : Drained d d₁) :
    d₁.controller.linkSuspended = false ∧ d.controller.Drains d₁.controller := by
  obtain ⟨hresumed, d₂, hmoves, seen, hseen, htrace⟩ := hdrained
  exact ⟨hresumed, seen, (h.moves settled hmoves).2.trace.trans hseen, htrace⟩

theorem elapsed_marks (d : CiDriver) : d.elapsed.readable = d.readable ∧ d.elapsed.returned = d.returned := by
  unfold elapsed
  split <;> exact ⟨rfl, rfl⟩

theorem moves_marks (hmoves : Moves d d') : d'.readable = d.readable ∧ d'.returned = d.returned := by
  induction hmoves with
  | refl => exact ⟨rfl, rfl⟩
  | tail _ hmove ih =>
      rw [← ih.1, ← ih.2]
      cases hmove with
      | elapsed => exact elapsed_marks _
      | retryFailed => exact elapsed_marks _
      | armed => exact elapsed_marks _
      | _ => exact ⟨rfl, rfl⟩

theorem Pass.published (h : Pass d d') (going : d.returned = none) : d'.Published := by
  have hgoes {d' : CiDriver} (fresh : d'.Fresh) (returned : d'.returned = none) : d'.Published := by
    refine ⟨fun _ => fresh, fun hreturned => ?_⟩
    rw [returned] at hreturned
    cases hreturned
  cases h with
  | looped moves fresh => exact hgoes fresh ((moves_marks moves).2.trans going)
  | cleared moves _ rests fresh => exact hgoes fresh ((moves_marks rests.moves).2.trans ((moves_marks moves).2.trans going))
  | @stopped d₁ moves result =>
      refine ⟨by rintro ⟨⟩, fun _ hwatched => ?_⟩
      show (!d₁.watched && d₁.ready) = false
      rw [show d₁.watched = true from hwatched, Bool.not_true, Bool.false_and]

theorem Follows.pass (h : d.Follows made) (settled : made.Settled) (hpass : Pass d d') :
    Onward d d' ∧ (d.readable = true → d'.readable = false →
      d'.controller.linkSuspended = false ∧ d.controller.Drains d'.controller) := by
  cases hpass with
  | looped moves _ =>
      refine ⟨(h.moves settled moves).2, fun hready hcleared => ?_⟩
      rw [(moves_marks moves).1, hready] at hcleared
      cases hcleared
  | @cleared d₁ _ moves drained rests _ =>
      obtain ⟨hfollows, honward⟩ := h.moves settled moves
      have hcleared : ({ d₁ with readable := false } : CiDriver).Follows made := hfollows.still rfl rfl rfl
      have hmarked : Onward d₁ { d₁ with readable := false } := .still rfl rfl
      refine ⟨(honward.trans hmarked).trans (hcleared.moves settled rests.moves).2, fun _ _ => ?_⟩
      rw [rests.controller]
      exact h.drains settled drained
  | @stopped d₁ moves result =>
      have hmarked : Onward d₁ { d₁ with ready := !d₁.watched && d₁.ready, returned := some result } := .still rfl rfl
      refine ⟨(h.moves settled moves).2.trans hmarked, fun hready (hcleared : d₁.readable = false) => ?_⟩
      rw [(moves_marks moves).1, hready] at hcleared
      cases hcleared

end CiDriver

section Runs

variable {start d : CiDriver} {labels : List DriverLabel}

theorem DriverRun.accounted (h : DriverRun start labels d) : d.Accounted := by
  refine h.invariant (fun first before c clock hrun => ?_) (fun d around hd => ?_) (fun d d' hd hmove => ?_)
    (fun d hd => ?_) fun d ready returned hd => ?_
  · exact ⟨first, before, c, hrun, ⟨CiController.linkLens.get c, c, .nil, rfl⟩, rfl, List.prefix_refl _⟩
  · obtain ⟨first, before, made, hrun, hfollows⟩ := hd
    exact ⟨first, before, made, hrun, hfollows.within around⟩
  · obtain ⟨first, before, made, hrun, hfollows⟩ := hd
    exact ⟨first, before, made, hrun, (hfollows.move hrun.settled hmove).1⟩
  · obtain ⟨first, before, made, hrun, hfollows⟩ := hd
    exact ⟨first, before, made, hrun, hfollows.still rfl rfl rfl⟩
  · obtain ⟨first, before, made, hrun, hfollows⟩ := hd
    exact ⟨first, before, made, hrun, hfollows.still rfl rfl rfl⟩

theorem DriverRun.published (h : DriverRun start labels d) : d.Published := by
  obtain ⟨hstarts, hsteps⟩ := h
  cases hsteps with
  | nil =>
      obtain ⟨first, before, c, clock, around, _, hpass⟩ := hstarts.pass
      exact hpass.published rfl
  | @snoc _ d₀ label _ _ last => exact last.pass.published last.1

theorem driver_publishes_and_drains (h : DriverRun start labels d) :
    d.Published ∧ d.Accounted ∧ ∀ label d', DriverStep d label d' → d.Drives label d' := by
  refine ⟨h.published, h.accounted, fun label d' hstep => ?_⟩
  obtain ⟨first, before, made, hrun, hfollows⟩ := h.accounted
  obtain ⟨honward, hcleared⟩ := (hfollows.within label.around).pass hrun.settled hstep.pass
  refine ⟨fun guard hwake => ?_, hcleared, honward.events⟩
  have hcompletes := hstep.2.1
  rw [hwake] at hcompletes
  have hawaits : (d.within label.around).awaitsDescriptor = true := by
    cases guard with
    | ok _ => exact (Bool.and_eq_true_iff.mp hcompletes).1
    | error e => exact hcompletes
  exact Bool.not_eq_eq_eq_not.mp hawaits

-- The module answers, and the readiness of the descriptor is cleared.
def answers : List DriverLabel :=
  [⟨{ link := { moduleReady with reads := [.frame [0, 1, 0x83, 1, 1, 0x80, 2, 1, 0]] }, edge := true }, .readable (.ok ())⟩]

theorem answers_isSome : (trail CiDriver.next supervising answers).isSome := by decide +kernel

def afterAnswers : List DriverLabel × CiDriver := (trail CiDriver.next supervising answers).get answers_isSome

theorem driver_publishes_and_drains_answers :
    (afterAnswers.2.Published ∧ afterAnswers.2.Accounted ∧
      ∀ label d', DriverStep afterAnswers.2 label d' → afterAnswers.2.Drives label d') ∧
    afterAnswers.2.forwarded.length = 4 ∧ afterAnswers.2.readable = false :=
  ⟨driver_publishes_and_drains (supervising_run answers_isSome), by decide +kernel, by decide +kernel⟩

end Runs

end LibDvb
