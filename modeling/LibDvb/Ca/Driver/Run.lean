import LibDvb.Ca.Controller.CamStatus
import LibDvb.Ca.Controller.Draining
import LibDvb.Ca.Driver

namespace LibDvb

open Relation Act Outcome

def CiDriverEvent.caEvent : CiDriverEvent → Option CaEvent
  | ca event => some event
  | _ => none

namespace CiDriver

variable {d d' : CiDriver} {op : ControllerOp} {internal : Bool} {now : Instant} {duration : Duration}

def called (internal : Bool) (op : ControllerOp) (reply : Except Error (Option CaEvent)) (c' : CiController)
    (d : CiDriver) : CiDriver := recorded internal op d.controller reply { d with controller := c' }

def told (event : CiDriverEvent) (d : CiDriver) : CiDriver := { d with events := d.events ++ [event] }

def Calls (op : ControllerOp) (reply : Except Error (Option CaEvent)) (c' : CiController) (d : CiDriver) : Prop :=
  ControllerStep d.controller ⟨CiController.linkLens.get d.controller, op, reply⟩ c'

section Spec

theorem wlp_instantNow {Q : Instant → CiDriver → Prop} {E : Error → CiDriver → Prop}
    (h : Q d.elapsed.clock d.elapsed) : wlp instantNow Q E d := by
  rw [instantNow, wlp_bind, wlp_modify, wlp_bind, wlp_get, wlp_pure]
  exact h

theorem wlp_addDuration {Q : Instant → CiDriver → Prop} {E : Error → CiDriver → Prop}
    (h : ∀ sum, now.checkedAdd duration = some sum → Q sum d) : wlp (addDuration now duration) Q E d := by
  rw [addDuration]
  split
  · next sum hsum => exact wlp_pure.mpr (h sum hsum)
  · exact wlp_fault

theorem wlp_call {Q : Except Error (Option CaEvent) → CiDriver → Prop} {E : Error → CiDriver → Prop}
    (h : ∀ reply c', d.elapsed.Calls op reply c' → Q reply (d.elapsed.called internal op reply c')) :
    wlp (call internal op) Q E d := by
  rw [call, wlp_bind, wlp_modify, wlp_bind, wlp_get, wlp_bind, wlp_attempt, wlp_zoom]
  refine wlp_mono (wlp_self op.run d.elapsed.controller) (fun reply c' hrun => ?_) fun e c' hrun => ?_
  · rw [wlp_bind, wlp_modify, wlp_pure]
    exact h (.ok reply) c' hrun
  · rw [wlp_bind, wlp_modify, wlp_pure]
    exact h (.error e) c' hrun

theorem Calls.silent {reply : Except Error (Option CaEvent)} {c' : CiController} (h : d.Calls op reply c')
    (hop : op ≠ .pollEvent) : deliveredBy reply = [] := by
  refine CiController.wlp_reply (P := fun events _ => events = []) (m := op.run) ?_ h
  cases op with
  | pollEvent => exact absurd rfl hop
  | _ => exact wlp_map.mpr ⟨fun _ _ => rfl, fun _ _ => rfl⟩

end Spec

inductive Move (d : CiDriver) : CiDriver → Prop
  | elapsed : Move d d.elapsed
  | called {op reply c'} (calls : d.Calls op reply c') (silent : deliveredBy reply = []) :
      Move d (d.called false op reply c')
  | forwarded {event c'} (calls : d.Calls .pollEvent (.ok (some event)) c') :
      Move d ((d.called false .pollEvent (.ok (some event)) c').told (.ca event))
  | told {event} (own : event.caEvent = none) : Move d (d.told event)
  | retried {reply c' retryAt} (suspended : d.controller.linkSuspended = true)
      (unscheduled : d.controller.recoveryAt = none) (armed : d.resetRetryAt = some retryAt) (due : retryAt ≤ d.clock)
      (calls : d.Calls .reset (.ok reply) c') (silent : deliveredBy (.ok reply) = []) :
      Move d { d.called true .reset (.ok reply) c' with resetRetryAt := none }
  | retryFailed {e c' retryAt next} (suspended : d.controller.linkSuspended = true)
      (unscheduled : d.controller.recoveryAt = none) (armed : d.resetRetryAt = some retryAt) (due : retryAt ≤ d.clock)
      (calls : d.Calls .reset (.error e) c')
      (sum : (d.called true .reset (.error e) c').elapsed.clock.checkedAdd d.retryInterval = some next) :
      Move d { (d.called true .reset (.error e) c').elapsed with resetRetryAt := some next }
  | armed {retryAt} (unarmed : d.resetRetryAt = none)
      (sum : d.elapsed.clock.checkedAdd d.retryInterval = some retryAt) :
      Move d { d.elapsed with resetRetryAt := some retryAt }
  | disarmed (resumed : d.controller.linkSuspended = false) : Move d { d with resetRetryAt := none }
  | noted (ready : Bool) (nextTick : Instant) : Move d { d with ready, nextTick }

abbrev Moves : CiDriver → CiDriver → Prop := ReflTransGen Move

structure Rests (d d' : CiDriver) : Prop where
  moves : Moves d d'
  ready : d'.ready = d.ready
  controller : d'.controller = d.controller

def Fresh (d : CiDriver) : Prop := d.ready = d.controller.caPmtReady

def Drained (d d' : CiDriver) : Prop :=
  d'.controller.linkSuspended = false ∧ ∃ d₁, Moves d d₁ ∧ d₁.controller.Drains d'.controller

inductive Pass (d : CiDriver) : CiDriver → Prop
  | looped {d' : CiDriver} (moves : Moves d d') (fresh : d'.Fresh) : Pass d d'
  | cleared {d₁ d' : CiDriver} (moves : Moves d d₁) (drained : Drained d d₁) (rests : Rests { d₁ with readable := false } d')
      (fresh : d'.Fresh) : Pass d d'
  | stopped {d₁ : CiDriver} (moves : Moves d d₁) (result : Except Error Unit) :
      Pass d { d₁ with ready := !d₁.watched && d₁.ready, returned := some result }

section Moves

variable {α β : Type} {E : Error → CiDriver → Prop}

theorem elapsed_retryInterval (d : CiDriver) : d.elapsed.retryInterval = d.retryInterval := by
  unfold elapsed
  split <;> rfl

theorem elapsed_controller (d : CiDriver) : d.elapsed.controller = d.controller := by
  unfold elapsed
  split <;> rfl

theorem elapsed_ready (d : CiDriver) : d.elapsed.ready = d.ready := by
  unfold elapsed
  split <;> rfl

theorem elapsed_calls (d : CiDriver) : d.elapsed.calls = d.calls := by
  unfold elapsed
  split <;> rfl

theorem elapsed_resetRetryAt (d : CiDriver) : d.elapsed.resetRetryAt = d.resetRetryAt := by
  unfold elapsed
  split <;> rfl

theorem le_elapsed_clock (d : CiDriver) : d.clock ≤ d.elapsed.clock := by
  unfold elapsed
  split
  · exact Nat.le_refl _
  · exact Nat.le_add_right _ _

theorem Rests.refl (d : CiDriver) : Rests d d := ⟨.refl, rfl, rfl⟩

theorem Rests.trans {d'' : CiDriver} (h : Rests d d') (h' : Rests d' d'') : Rests d d'' :=
  ⟨h.moves.trans h'.moves, h'.ready.trans h.ready, h'.controller.trans h.controller⟩

theorem Fresh.rests (h : d.Fresh) (hrests : Rests d d') : d'.Fresh := by
  rw [Fresh, hrests.ready, hrests.controller]
  exact h

theorem rests_elapsed (d : CiDriver) : Rests d d.elapsed :=
  ⟨.single .elapsed, d.elapsed_ready, d.elapsed_controller⟩

theorem Drained.head {d'' : CiDriver} (hmoves : Moves d d') (h : Drained d' d'') : Drained d d'' := by
  obtain ⟨hresumed, d₁, hmoves', hdrains⟩ := h
  exact ⟨hresumed, d₁, hmoves.trans hmoves', hdrains⟩

theorem rests_instantNow : Keeps Rests instantNow := fun d => wlp_instantNow d.rests_elapsed

theorem moves_call (hop : op ≠ .pollEvent) : Keeps Moves (call false op) := by
  refine fun d => wlp_call fun reply c' hcalls => ?_
  exact .tail (.single .elapsed) (.called hcalls (hcalls.silent hop))

theorem moves_emit {event : CiDriverEvent} (own : event.caEvent = none) : Keeps Moves (emit event) :=
  keeps_modify fun _ => .single (.told own)

def Publishes (m : Act Error CiDriver α) : Prop :=
  ∀ d, wlp m (fun _ d' => Moves d d' ∧ d'.Fresh) (fun _ => Moves d) d

theorem publishes_publishReady : Publishes publishReady := by
  refine fun d => wlp_modify.mpr ⟨.single ?_, rfl⟩
  exact .noted d.controller.caPmtReady d.nextTick

theorem publishes_bind {m : Act Error CiDriver α} {f : α → Act Error CiDriver β} (hm : Keeps Moves m)
    (hf : ∀ a, Publishes (f a)) : Publishes (m >>= f) := by
  intro d
  rw [wlp_bind]
  refine wlp_mono (hm d) (fun a d₁ h₁ => ?_) fun _ _ h => h
  exact wlp_mono (hf a d₁) (fun _ _ h => ⟨h₁.trans h.1, h.2⟩) fun _ _ h => h₁.trans h

theorem publishes_before {m : Act Error CiDriver α} {f : α → Act Error CiDriver β} (hm : Publishes m)
    (hf : ∀ a, Keeps Rests (f a)) : Publishes (m >>= f) := by
  intro d
  rw [wlp_bind]
  refine wlp_mono (hm d) (fun a d₁ h₁ => ?_) fun _ _ h => h
  exact wlp_mono (hf a d₁) (fun _ _ h => ⟨h₁.1.trans h.moves, h₁.2.rests h⟩) fun _ _ h => h₁.1.trans h.moves

theorem Publishes.moves {m : Act Error CiDriver α} (h : Publishes m) : Keeps Moves m :=
  fun d => wlp_mono (h d) (fun _ _ h => h.1) fun _ _ h => h

theorem rests_pure (a : α) : Keeps Rests (pure a : Act Error CiDriver α) := keeps_pure .refl a

theorem drainLoop_publishes (fuel : Nat) (d : CiDriver) :
    wlp (drainLoop fuel) (fun drained d' => Moves d d' ∧ d'.Fresh ∧ (drained = true → Drained d d')) (fun _ => Moves d) d := by
  induction fuel generalizing d with
  | zero =>
      rw [drainLoop, wlp_bind]
      exact wlp_mono (publishes_publishReady d) (fun _ _ h => wlp_pure.mpr ⟨h.1, h.2, by rintro ⟨⟩⟩) fun _ _ h => h
  | succ fuel ih =>
      have hrest {d₁ : CiDriver} (h₁ : Moves d d₁) : wlp (drainLoop fuel)
          (fun drained d' => Moves d d' ∧ d'.Fresh ∧ (drained = true → Drained d d')) (fun _ => Moves d) d₁ := by
        refine wlp_mono (ih d₁) (fun drained d₂ h₂ => ?_) fun _ _ h => h₁.trans h
        exact ⟨h₁.trans h₂.1, h₂.2.1, fun hdrained => (h₂.2.2 hdrained).head h₁⟩
      rw [drainLoop, wlp_bind]
      refine wlp_call fun reply c' hcalls => ?_
      have helapsed : Moves d d.elapsed := .single .elapsed
      cases reply with
      | ok event =>
          cases event with
          | some event =>
              rw [wlp_bind, emit, wlp_modify]
              exact hrest (helapsed.tail (.forwarded hcalls))
          | none =>
              have hcalled := helapsed.tail (.called hcalls rfl)
              rw [wlp_bind, publishReady, wlp_modify, wlp_bind, wlp_get, wlp_pure]
              refine ⟨hcalled.tail (.noted c'.caPmtReady _), rfl, fun hresumed => ?_⟩
              have hlink : c'.linkSuspended = false := Bool.not_eq_eq_eq_not.mp hresumed
              exact ⟨hlink, d.elapsed, helapsed, CiController.step_drains hcalls hlink⟩
      | error e =>
          rw [wlp_bind, emit, wlp_modify]
          exact hrest ((helapsed.tail (.called hcalls rfl)).tail (.told rfl))

theorem publishes_drainEvents : Publishes drainEvents :=
  fun d => wlp_mono (drainLoop_publishes drainBatch d) (fun _ _ h => ⟨h.1, h.2.1⟩) fun _ _ h => h

theorem moves_emitFault (reply : Except Error (Option CaEvent)) : Keeps Moves (emitFault reply) := by
  cases reply with
  | ok _ => exact keeps_pure (fun _ => .refl) _
  | error e => exact moves_emit rfl

theorem publishes_tickNow : Publishes tickNow := by
  apply publishes_bind fun d => wlp_instantNow (.single .elapsed)
  intro now
  apply publishes_bind (moves_call (by rintro ⟨⟩))
  intro reply
  apply publishes_bind (moves_emitFault reply)
  exact fun _ => publishes_before publishes_drainEvents fun _ => rests_pure _

theorem moves_slotCommand (command : String) (hop : op ≠ .pollEvent) : Keeps Moves (slotCommand command op) := by
  apply keeps_bind .trans (moves_call hop)
  intro reply
  cases reply with
  | ok _ => exact keeps_pure (fun _ => .refl) _
  | error e => exact moves_emit rfl

theorem moves_applyCommand (command : Command) : Keeps Moves (applyCommand command) := by
  have hcall {op : ControllerOp} (hop : op ≠ .pollEvent) : Keeps Moves (do let _ ← call false op) :=
    keeps_bind .trans (moves_call hop) fun _ => keeps_pure (fun _ => .refl) _
  cases command with
  | setProgram program => exact hcall (by rintro ⟨⟩)
  | removeProgram programNumber => exact hcall (by rintro ⟨⟩)
  | setCaPmtInterval interval => exact hcall (by rintro ⟨⟩)
  | reset =>
      apply keeps_bind .trans (moves_call (by rintro ⟨⟩))
      intro reply
      cases reply with
      | ok _ => exact publishes_tickNow.moves
      | error e => exact moves_emit rfl
  | shutdown => exact keeps_pure (fun _ => .refl) _
  | _ => exact moves_slotCommand _ (by rintro ⟨⟩)

theorem apply_publishes (command : Command) (d : CiDriver) :
    wlp (apply command) (fun goes d' => Moves d d' ∧ (goes = true → d'.Fresh)) (fun _ => Moves d) d := by
  have hrest : Publishes (do
      applyCommand command
      let _ ← drainEvents
      pure true) :=
    publishes_bind (moves_applyCommand command) fun _ => publishes_before publishes_drainEvents fun _ => rests_pure _
  cases command with
  | shutdown => exact wlp_pure.mpr ⟨.refl, by rintro ⟨⟩⟩
  | _ => exact wlp_mono (hrest d) (fun _ _ h => ⟨h.1, fun _ => h.2⟩) fun _ _ h => h

theorem rests_schedule : Keeps Rests schedule := by
  apply keeps_bind .trans rests_instantNow
  intro now
  apply keeps_bind .trans (keeps_get .refl)
  intro d
  apply keeps_bind .trans fun d => wlp_addDuration fun _ _ => .refl d
  exact fun nextTick => keeps_modify fun d => ⟨.single (.noted d.ready nextTick), rfl, rfl⟩

theorem rests_prepare : Keeps Rests prepare := by
  intro d
  rw [prepare, wlp_bind, wlp_get]
  split
  · split
    · next hnone =>
        rw [wlp_bind]
        refine wlp_instantNow ?_
        rw [wlp_bind]
        refine wlp_addDuration fun retryAt hsum => wlp_modify.mpr ⟨.single (.armed ?_ hsum), ?_, ?_⟩
        · exact Option.isNone_iff_eq_none.mp hnone.2
        · exact d.elapsed_ready
        · exact d.elapsed_controller
    · exact wlp_pure.mpr (.refl d)
  · next hresumed =>
      exact wlp_modify.mpr ⟨.single (.disarmed (Bool.eq_false_of_not_eq_true hresumed)), rfl, rfl⟩

theorem retryReset_publishes {retryAt : Instant} (suspended : d.controller.linkSuspended = true)
    (unscheduled : d.controller.recoveryAt = none) (armed : d.resetRetryAt = some retryAt) (due : retryAt ≤ d.clock) :
    wlp retryReset (fun _ d' => Moves d d' ∧ d'.Fresh) (fun _ => Moves d) d := by
  have helapsed : Moves d d.elapsed := .single .elapsed
  have hsuspended := (congrArg CiController.linkSuspended d.elapsed_controller).trans suspended
  have hunscheduled := (congrArg CiController.recoveryAt d.elapsed_controller).trans unscheduled
  have harmed := d.elapsed_resetRetryAt.trans armed
  have hdue := due.trans d.le_elapsed_clock
  have hends {m : Act Error CiDriver Unit} (hm : Publishes m) {d₁ : CiDriver} (h₁ : Moves d d₁) :
      wlp m (fun _ d' => Moves d d' ∧ d'.Fresh) (fun _ => Moves d) d₁ :=
    wlp_mono (hm d₁) (fun _ _ h => ⟨h₁.trans h.1, h.2⟩) fun _ _ h => h₁.trans h
  rw [retryReset, wlp_bind]
  refine wlp_call fun reply c' hcalls => ?_
  cases reply with
  | ok reply =>
      rw [wlp_bind, wlp_modify, wlp_bind, emit, wlp_modify]
      refine hends publishes_tickNow ((helapsed.tail ?_).tail (.told rfl))
      exact .retried hsuspended hunscheduled harmed hdue hcalls (hcalls.silent (by rintro ⟨⟩))
  | error e =>
      rw [wlp_bind]
      refine wlp_instantNow ?_
      rw [wlp_bind, wlp_get, wlp_bind]
      refine wlp_addDuration fun next hsum => ?_
      rw [elapsed_retryInterval] at hsum
      rw [wlp_bind, wlp_modify, wlp_bind, emit, wlp_modify]
      refine hends publishes_publishReady ((helapsed.tail ?_).tail (.told rfl))
      exact .retryFailed hsuspended hunscheduled harmed hdue hcalls hsum

theorem expire_publishes (completes : d.completes .timer = true) :
    wlp expire (fun _ d' => Moves d d' ∧ d'.Fresh) (fun _ => Moves d) d := by
  rw [expire, wlp_bind, wlp_get]
  dsimp only
  split
  · next hsuspended =>
      obtain ⟨hlink, hnone⟩ := hsuspended
      have hunscheduled := Option.isNone_iff_eq_none.mp hnone
      rw [CiDriver.completes, wakeAt, if_pos hlink, hunscheduled, Option.none_or] at completes
      obtain ⟨retryAt, harmed, hdue⟩ := (Option.any_eq_true _ _).mp completes
      exact retryReset_publishes hlink hunscheduled harmed (of_decide_eq_true hdue)
  · exact publishes_tickNow d

def Serves (d : CiDriver) (goes : Bool) (d' : CiDriver) : Prop :=
  Moves d d' ∧ (goes = true → d'.Fresh) ∨
    goes = true ∧ ∃ d₁, Moves d d₁ ∧ Drained d d₁ ∧ d₁.Fresh ∧ d' = { d₁ with readable := false }

theorem serve_serves {wake : Wake} (completes : d.completes wake = true) :
    wlp (serve wake) (Serves d) (fun _ => Moves d) d := by
  cases wake with
  | command command =>
      cases command with
      | none => exact wlp_pure.mpr (.inl ⟨.refl, by rintro ⟨⟩⟩)
      | some command => exact wlp_mono (apply_publishes command d) (fun _ _ h => .inl h) fun _ _ h => h
  | timer =>
      rw [serve, wlp_bind]
      refine wlp_mono (expire_publishes completes) (fun _ d₁ h₁ => ?_) fun _ _ h => h
      rw [wlp_bind]
      exact wlp_mono (rests_schedule d₁) (fun _ _ h => wlp_pure.mpr (.inl ⟨h₁.1.trans h.moves, fun _ => h₁.2.rests h⟩))
        fun _ _ h => h₁.1.trans h.moves
  | readable guard =>
      cases guard with
      | ok _ =>
          rw [serve, wlp_bind, drainReadable, wlp_bind]
          refine wlp_mono (drainLoop_publishes drainBatch d) (fun drained d₁ h₁ => ?_) fun _ _ h => h
          rw [wlp_modify, wlp_pure]
          cases drained with
          | true => exact .inr ⟨rfl, d₁, h₁.1, h₁.2.2 rfl, h₁.2.1, rfl⟩
          | false => exact .inl ⟨h₁.1, fun _ => h₁.2.1⟩
      | error e => exact wlp_fail.mpr .refl

theorem turn_pass {wake : Wake} (completes : d.completes wake = true) :
    wlp (turn wake) (fun _ => Pass d) (fun _ _ => True) d := by
  have hstopped {d₁ : CiDriver} (h₁ : Moves d d₁) (result : Except Error Unit) :
      wlp (finish result) (fun _ => Pass d) (fun _ _ => True) d₁ := wlp_modify.mpr (.stopped h₁ result)
  rw [turn, wlp_bind, wlp_attempt]
  refine wlp_mono (serve_serves completes) (fun goes d₁ h₁ => ?_) fun e d₁ h₁ => hstopped h₁ _
  cases goes with
  | true =>
      rcases h₁ with ⟨hmoves, hfresh⟩ | ⟨_, d₀, hmoves, hdrained, hfresh, rfl⟩
      · refine wlp_mono (rests_prepare d₁) (fun _ d₂ h₂ => ?_) fun _ _ _ => trivial
        exact .looped (hmoves.trans h₂.moves) ((hfresh rfl).rests h₂)
      · refine wlp_mono (rests_prepare _) (fun _ d₂ h₂ => ?_) fun _ _ _ => trivial
        have hcleared : ({ d₀ with readable := false } : CiDriver).Fresh := hfresh
        exact .cleared hmoves hdrained h₂ (hcleared.rests h₂)
  | false =>
      rcases h₁ with ⟨h₁, _⟩ | ⟨hgoes, _⟩
      · exact hstopped h₁ _
      · cases hgoes

theorem enter_pass (registered : Except Error Unit) (d : CiDriver) :
    wlp (enter registered) (fun _ => Pass d) (fun _ _ => True) d := by
  cases registered with
  | ok _ =>
      have henters : Publishes (enter (.ok ())) :=
        publishes_before publishes_tickNow fun _ => keeps_bind .trans rests_schedule fun _ => rests_prepare
      exact wlp_mono (henters d) (fun _ _ h => .looped h.1 h.2) fun _ _ _ => trivial
  | error e => exact wlp_modify.mpr (.stopped .refl _)

end Moves

end CiDriver

section Runs

variable {start d d' : CiDriver} {labels : List DriverLabel} {label : DriverLabel}

theorem DriverStep.pass (h : DriverStep d label d') : CiDriver.Pass (d.within label.around) d' := by
  obtain ⟨_, hcompletes, hturn⟩ := h
  have hpass := (CiDriver.turn_pass hcompletes).1 ()
  rw [hturn] at hpass
  exact hpass rfl

theorem DriverStarts.pass (h : DriverStarts start) : ∃ first before c clock around, ControllerRun first before c ∧
    CiDriver.Pass ((CiDriver.new c clock).within around) start := by
  obtain ⟨first, before, c, clock, around, registered, hrun, henter⟩ := h
  have hpass := (CiDriver.enter_pass registered ((CiDriver.new c clock).within around)).1 ()
  rw [henter] at hpass
  exact ⟨first, before, c, clock, around, hrun, hpass rfl⟩

theorem CiDriver.Pass.invariant {I : CiDriver → Prop} (h : CiDriver.Pass d d') (hd : I d)
    (move : ∀ d d', I d → CiDriver.Move d d' → I d') (cleared : ∀ d, I d → I { d with readable := false })
    (stopped : ∀ d ready returned, I d → I { d with ready, returned }) : I d' := by
  cases h with
  | looped moves _ => exact Path.invariant moves hd move
  | cleared moves _ rests _ => exact Path.invariant rests.moves (cleared _ (Path.invariant moves hd move)) move
  | stopped moves result => exact stopped _ _ _ (Path.invariant moves hd move)

theorem DriverRun.invariant {I : CiDriver → Prop} (h : DriverRun start labels d)
    (new : ∀ start labels c clock, ControllerRun start labels c → I (CiDriver.new c clock))
    (within : ∀ d around, I d → I (d.within around)) (move : ∀ d d', I d → CiDriver.Move d d' → I d')
    (cleared : ∀ d, I d → I { d with readable := false })
    (stopped : ∀ d ready returned, I d → I { d with ready, returned }) : I d := by
  obtain ⟨hstarts, hsteps⟩ := h
  obtain ⟨first, before, c, clock, around, hrun, hpass⟩ := hstarts.pass
  have hfirst : I start := hpass.invariant (within _ around (new first before c clock hrun)) move cleared stopped
  refine hsteps.invariant hfirst fun d label d' hd hstep => ?_
  exact hstep.pass.invariant (within d label.around hd) move cleared stopped

def CiDriver.next (d : CiDriver) (label : DriverLabel) : Option (DriverLabel × CiDriver) :=
  if d.returned.isNone ∧ (d.within label.around).completes label.wake = true then
    match CiDriver.turn label.wake (d.within label.around) with
    | (.ok _, d') => some (label, d')
    | _ => none
  else
    none

theorem CiDriver.next_step {label' : DriverLabel} (h : d.next label = some (label', d')) : DriverStep d label' d' := by
  rw [CiDriver.next] at h
  split at h
  · next hcan =>
      split at h
      · next hturn =>
          cases h
          exact ⟨Option.isNone_iff_eq_none.mp hcan.1, hcan.2, hturn⟩
      · cases h
  · cases h

def supervising : CiDriver := (CiDriver.enter (.ok ()) ((CiDriver.new oneSlot 0).within { link := moduleReady })).2

theorem supervising_starts : DriverStarts supervising :=
  ⟨oneSlot, [], oneSlot, 0, { link := moduleReady }, .ok (), ⟨oneSlot_starts, .nil⟩, rfl⟩

theorem supervising_run {labels : List DriverLabel} (h : (trail CiDriver.next supervising labels).isSome) :
    DriverRun supervising ((trail CiDriver.next supervising labels).get h).1
      ((trail CiDriver.next supervising labels).get h).2 :=
  ⟨supervising_starts, trail_run DriverStep (fun _ _ _ _ => CiDriver.next_step) (Option.some_get h).symm⟩

end Runs

end LibDvb
