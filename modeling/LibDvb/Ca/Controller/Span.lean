import LibDvb.Ca.Controller.Timekeeping

namespace LibDvb

open Relation Act Outcome

def ControllerOp.told : ControllerOp → Option Instant
  | tick now => some now
  | _ => none

namespace CiController

variable {heard : Bool} {told : Option Instant} {c c' c'' : CiController} {slotId : UInt8} {now : Instant} {α : Type}

section Command

theorem idles_command {op : ControllerOp} {command : Act Error CiSession Unit} (h : op.command = some (slotId, command)) :
    Act.Keeps (CiSession.Idles heard) command :=
  fun s => wlp_mono (bland_command h s) (fun _ _ h => h.idles) fun _ _ h => h.idles

theorem bides_status : Waits heard (status slotId) := by
  apply bides_get
  intro c
  split
  · exact keeps_pure .refl _
  · exact keeps_fail .refl _

theorem strokes_slotCommand {command : Act Error CiSession Unit} (hm : Act.Keeps (CiSession.Idles heard) command) :
    Act.Keeps (Strokes heard told) (slotCommand slotId command) := by
  have hrequire : Waits heard (requireActive slotId) := by
    apply keeps_bind .trans bides_status
    intro status
    split
    · exact keeps_pure .refl ()
    · exact keeps_fail .refl _
  apply keeps_bind ReflTransGen.trans (strokes_of_waits hrequire)
  intro _
  apply keeps_bind ReflTransGen.trans (strokes_of_waits (keeps_attempt (bides_session hm)))
  intro result
  cases result with
  | ok _ =>
      apply keeps_bind ReflTransGen.trans (keeps_get fun _ => .refl)
      intro c
      split
      · exact strokes_of_waits (bides_markOutstanding _)
      · exact keeps_pure (fun _ => .refl) ()
  | error e =>
      rw [finishSlotCommand]
      dsimp only
      split
      · exact keeps_bind ReflTransGen.trans (strokes_recoverAtEventTime _) fun _ => keeps_fail (fun _ => .refl) e
      · exact keeps_fail (fun _ => .refl) e

end Command

section Poll

-- The end of a turn of `poll_event`: a pending request goes out on the time of the last tick.
def flushAtLastTick (slotId : UInt8) : Act Error CiController Unit := do
  match (← get).lastTick with
  | some now => do
      match ← attempt (flushReceivePending slotId now) with
      | .ok () => markOutstanding slotId now
      | .error e => do
          recoverAtEventTime (some slotId)
          fail e
  | none => pure ()

theorem strokes_afterRecv : Act.Keeps (Strokes heard told) (afterRecv slotId) := by
  have hedit {f : ControllerSlot → ControllerSlot} (hf : ∀ slot, (f slot).status = slot.status ∧
      (f slot).nextPoll = slot.nextPoll ∧ (f slot).retryAt = slot.retryAt) :
      Act.Keeps (Strokes heard told) (modifySlot slotId f) :=
    strokes_of_waits (bides_modifySlot fun slot => .of_same (hf slot).1 (hf slot).2.1 (hf slot).2.2)
  have hflush : Act.Keeps (Strokes heard told) (flushAtLastTick slotId) := by
    apply keeps_bind ReflTransGen.trans (keeps_get fun _ => .refl)
    intro c
    split
    · apply keeps_bind ReflTransGen.trans (strokes_of_waits (keeps_attempt bides_flushReceivePending))
      intro result
      split
      · exact strokes_of_waits (bides_markOutstanding _)
      · exact keeps_bind ReflTransGen.trans (strokes_recoverAtEventTime _) fun _ => keeps_fail (fun _ => .refl) _
    · exact keeps_pure (fun _ => .refl) ()
  have hcollect (pending : Bool) : Act.Keeps (Strokes heard told) (do
      collectSessionEvents
      if pending then
        if (← status slotId) = .active then
          modifySlot slotId ({ · with receivePending := true })
      flushAtLastTick slotId) := by
    apply keeps_bind ReflTransGen.trans (strokes_of_softly collectSessionEvents_softly)
    intro _
    split
    · apply keeps_bind ReflTransGen.trans (strokes_of_waits bides_status)
      intro status
      split
      · apply keeps_bind ReflTransGen.trans
        · exact hedit fun _ => ⟨rfl, rfl, rfl⟩
        · exact fun _ => hflush
      · exact hflush
    · exact hflush
  apply keeps_bind ReflTransGen.trans (strokes_of_waits bides_slotAt)
  intro slot
  have htake : Act.Keeps (Strokes heard told) (zoom transportLens (CiTransport.takeDataPending slotId)) :=
    strokes_of_waits (bides_transport CiTransport.unasked_takeDataPending)
  split
  · apply keeps_bind ReflTransGen.trans
    · exact hedit fun _ => ⟨rfl, rfl, rfl⟩
    · exact fun _ => keeps_bind ReflTransGen.trans htake hcollect
  · exact keeps_bind ReflTransGen.trans htake hcollect

theorem strokes_recvController : Act.Keeps (Strokes true told) recvController := by
  apply keeps_bind ReflTransGen.trans (keeps_get fun _ => .refl)
  exact fun c => strokes_of_waits (bides_session (CiSession.idles_recvController _))

theorem strokes_pollFailed (e : Error) {Q : Option CaEvent → CiController → Prop} :
    wlp (pollFailed e) Q (fun _ => Strokes heard told c) c := by
  rw [pollFailed, wlp_bind, wlp_get]
  split
  · next now ticked => exact strokes_recover ticked
  · rw [wlp_bind, wlp_modify, wlp_fail]
    exact strokes_of_bides ⟨rfl, rfl, rfl, rfl, rfl, rfl, fun _ slot known => ⟨slot, known, .refl slot⟩, .refl _, .refl _⟩

def Hands (heard : Bool) (told : Option Instant) (c : CiController) (events : List CaEvent) (c' : CiController) : Prop :=
  ∃ c₁, Strokes heard told c c₁ ∧ c₁.events = events ++ c'.events ∧ c' = { c₁ with events := c'.events }

theorem Hands.of_strokes (h : Strokes heard told c c') : Hands heard told c [] c' := ⟨c', h, rfl, rfl⟩

theorem Hands.head {events : List CaEvent} (hpath : Strokes heard told c c') (h : Hands heard told c' events c'') :
    Hands heard told c events c'' := by
  obtain ⟨c₁, hpath', hevents, hsame⟩ := h
  exact ⟨c₁, hpath.trans hpath', hevents, hsame⟩

theorem hands_popEvent : wlp popEvent (fun event c' => Hands heard told c event.toList c' ∧ (event = none → c' = c))
    (fun _ _ => False) c := by
  rw [popEvent, wlp_bind, wlp_get]
  split
  · exact wlp_pure.mpr ⟨.of_strokes .refl, fun _ => rfl⟩
  · next event rest hevents =>
      rw [wlp_bind, wlp_modify, wlp_pure]
      exact ⟨⟨c, .refl, hevents, rfl⟩, by rintro ⟨⟩⟩

theorem hands_pollLoop (fuel : Nat) (c : CiController) :
    wlp (pollLoop fuel) (fun event => Hands true told c event.toList) (fun _ => Hands true told c []) c := by
  induction fuel generalizing c with
  | zero => exact wlp_fault
  | succ fuel ih =>
      rw [pollLoop, wlp_bind, wlp_attempt]
      refine wlp_mono (@strokes_recvController told c) (fun slotId c₁ h₁ => ?_) fun e c₁ h₁ => ?_
      · cases slotId with
        | none => exact wlp_mono (@hands_popEvent true told c₁) (fun _ _ h => h.1.head h₁) fun _ _ hf => hf.elim
        | some slotId =>
            dsimp only
            rw [wlp_bind]
            refine wlp_mono (@strokes_afterRecv true told slotId c₁) (fun _ c₂ h₂ => ?_) fun _ _ h => .of_strokes (h₁.trans h)
            rw [wlp_bind]
            refine wlp_mono (@hands_popEvent true told c₂) (fun event c₃ h₃ => ?_) fun _ _ hf => hf.elim
            cases event with
            | none =>
                rw [h₃.2 rfl]
                exact wlp_mono (ih c₂) (fun _ _ h => h.head (h₁.trans h₂)) fun _ _ h => h.head (h₁.trans h₂)
            | some event => exact wlp_pure.mpr (h₃.1.head (h₁.trans h₂))
      · exact wlp_mono (strokes_pollFailed e) (fun _ _ h => h) fun _ _ h => .of_strokes (h₁.trans h)

theorem hands_pollEvent :
    wlp pollEvent (fun event => Hands true told c event.toList) (fun _ => Hands true told c []) c := by
  rw [pollEvent, wlp_bind]
  refine wlp_mono (@collectSessionEvents_softly true c) (fun _ c₁ h₁ => ?_) fun _ _ h => .of_strokes (strokes_of_path h)
  have hpath : Strokes true told c c₁ := strokes_of_path h₁
  rw [wlp_bind]
  refine wlp_mono (@hands_popEvent true told c₁) (fun event c₂ h₂ => ?_) fun _ _ hf => hf.elim
  cases event with
  | some event => exact wlp_pure.mpr (h₂.1.head hpath)
  | none =>
      rw [h₂.2 rfl]
      dsimp only
      rw [wlp_bind, wlp_get]
      split
      · exact wlp_pure.mpr (.of_strokes hpath)
      · exact wlp_mono (hands_pollLoop _ c₁) (fun _ _ h => h.head hpath) fun _ _ h => h.head hpath

end Poll

section Calls

theorem wlp_collect_nil (hevents : c.session.events = []) {Q : Unit → CiController → Prop} {E : Error → CiController → Prop} :
    wlp collectSessionEvents Q E c ↔ Q () c := by
  have hnil : wp collectSessionEvents (fun _ c' => c' = c) (fun _ _ => False) c := (collect_nil hevents).mpr rfl
  rcases wp_cases.mp hnil with ⟨_, hok, hsame⟩ | ⟨_, _, hf⟩
  · exact wlp_run (Prod.ext hok hsame)
  · exact hf.elim

structure Cleared (c c' : CiController) : Prop where
  levels : Levels false true none c c'
  gate : c'.pacer.gate = .notReady
  recoveryAt : c'.recoveryAt = none
  statusCheck : c'.nextStatusCheck = c.nextStatusCheck ∨ c'.nextStatusCheck = none

theorem wanes_readied : Act.Keeps (Wanes false true none) (do
    let present := (← slotAt slotId).present
    modifySlot slotId ({ · with ready := false, retryAt := none })
    setCamStatus slotId .none
    setSlotStatus slotId (if present then .present else .absent)) := by
  apply keeps_bind .trans (wanes_of_waits bides_slotAt)
  intro slot
  apply keeps_bind .trans
  · exact wanes_modifySlot fun _ => ⟨.inl rfl, .inr (.inl rfl)⟩
  intro _
  exact keeps_bind .trans (wanes_of_waits (bides_setCamStatus _)) fun _ => wanes_setSlotStatus nofun

theorem unerring_readied : Unerring (do
    let present := (← slotAt slotId).present
    modifySlot slotId ({ · with ready := false, retryAt := none })
    setCamStatus slotId .none
    setSlotStatus slotId (if present then .present else .absent)) := by
  apply unerring_bind unerring_slotAt
  intro slot
  apply unerring_bind (unerring_modifySlot _)
  intro _
  exact unerring_bind (unerring_setCamStatus _) fun _ => unerring_setSlotStatus _

theorem reset_clears (h : c.session.events = []) : wlp reset (fun _ => Cleared c) (fun _ => Cleared c) c := by
  rw [reset, wlp_bind]
  refine (wlp_collect_nil h).mpr ?_
  rw [wlp_bind]
  refine wlp_mono (unerring_dropAllSlots.wlp (@fades_dropAllSlots false true none c)) (fun _ c₁ h₁ => ?_) fun _ _ hf => hf.elim
  rw [wlp_bind, wlp_modify, wlp_bind]
  refine wlp_mono (unerring_ioReset.wlp (@bides_ioReset false _)) (fun result c₂ h₂ => ?_) fun _ _ hf => hf.elim
  have hturned : Levels false true none c₁ { c₁ with pacer := c₁.pacer.resetGate, deferredLinkFailure := false } :=
    levels_turned .notReady c₁.nextStatusCheck c₁.linkSuspended c₁.recoveryAt false
  have hlevels := (h₁.levels.trans hturned).trans h₂.levels
  have hgate : c₂.pacer.gate = .notReady := congrArg CaPmtPacer.gate h₂.pacer
  have hstatus : c₂.nextStatusCheck = c.nextStatusCheck := h₂.statusCheck.trans h₁.stays.statusCheck
  cases result with
  | ok _ =>
      dsimp only
      rw [wlp_bind, wlp_get, wlp_bind]
      refine wlp_mono ((unerring_forEach fun slotId (_ : slotId ∈ c₂.slotIds) => unerring_readied).wlp
        (keeps_forEach .refl .trans (fun slotId (_ : slotId ∈ c₂.slotIds) => @wanes_readied slotId) c₂))
        (fun _ c₃ h₃ => wlp_modify.mpr ?_) fun _ _ hf => hf.elim
      refine ⟨(hlevels.trans h₃.fades.levels).trans (levels_turned c₃.pacer.gate none false none false), ?_, rfl, .inr rfl⟩
      exact (congrArg CaPmtPacer.gate h₃.pacer).trans hgate
  | error e =>
      dsimp only
      rw [wlp_bind, wlp_modify, wlp_bind]
      refine wlp_mono (unerring_markResetFailed.wlp (@wanes_markResetFailed false true none _)) (fun _ c₃ h₃ => ?_)
        fun _ _ hf => hf.elim
      refine wlp_fail.mpr ⟨(hlevels.trans (levels_turned c₂.pacer.gate c₂.nextStatusCheck true none
        c₂.deferredLinkFailure)).trans h₃.fades.levels, ?_, h₃.fades.stays.recoveryAt, .inl ?_⟩
      · exact (congrArg CaPmtPacer.gate h₃.pacer).trans hgate
      · exact h₃.fades.stays.statusCheck.trans hstatus

inductive Ticks (c : CiController) (now : Instant) : CiController → Prop
  | waited : Ticks c now { c with lastTick := some now }
  | driven {recoveryAt : Option Instant} {c' : CiController} (recovery : recoveryAt = c.recoveryAt ∨ recoveryAt = none)
      (strokes : Strokes false (some now) (c.ticking now recoveryAt) c') : Ticks c now c'

theorem tick_ticks (h : c.Settled) (now : Instant) : wlp (tick now) (fun _ => Ticks c now) (fun _ => Ticks c now) c := by
  have hdriven (recoveryAt : Option Instant) (recovery : recoveryAt = c.recoveryAt ∨ recoveryAt = none) :
      wlp (tickLink now) (fun _ => Ticks c now) (fun _ => Ticks c now) (c.ticking now recoveryAt) :=
    wlp_mono (strokes_tickLink rfl rfl) (fun _ _ h => .driven recovery h) fun _ _ h => .driven recovery h
  rw [tick, wlp_bind, wlp_modify, wlp_bind]
  refine (wlp_collect_nil (c := { c with lastTick := some now }) h.calm.collected).mpr ?_
  rw [wlp_bind, wlp_get]
  split
  · next hdeferred =>
      have hsame := @ticking_eq c now _ _ (h.deferred hdeferred).2 rfl
      rw [wlp_bind, wlp_modify]
      show wlp (recoverAll none .linkFailed now) _ _ { c with
        lastTick := some now, linkSuspended := c.linkSuspended, deferredLinkFailure := false }
      rw [hsame]
      have hrecover : wlp (recoverAll none .linkFailed now) (fun _ => Strokes false (some now) (c.ticking now c.recoveryAt))
        (fun _ => Strokes false (some now) (c.ticking now c.recoveryAt)) (c.ticking now c.recoveryAt) :=
        strokes_recoverAll none .linkFailed rfl
      exact wlp_mono hrecover (fun _ _ h => .driven (.inl rfl) h) fun _ _ h => .driven (.inl rfl) h
  · next hdeferred =>
      have hdeferred : c.deferredLinkFailure = false := Bool.eq_false_of_not_eq_true hdeferred
      rw [wlp_bind, wlp_get]
      split
      · rw [wlp_bind, wlp_get]
        split
        · rw [wlp_bind, wlp_modify]
          show wlp (tickLink now) _ _ { c with
            lastTick := some now, linkSuspended := false, recoveryAt := none,
            deferredLinkFailure := c.deferredLinkFailure }
          rw [hdeferred]
          exact hdriven none (.inr rfl)
        · exact wlp_pure.mpr .waited
      · next hsuspended =>
          have hsame := @ticking_eq c now _ _ (Bool.eq_false_of_not_eq_true hsuspended) hdeferred
          show wlp (tickLink now) _ _ { c with
            lastTick := some now, linkSuspended := c.linkSuspended, deferredLinkFailure := c.deferredLinkFailure }
          rw [hsame]
          exact hdriven c.recoveryAt (.inl rfl)

inductive Span (c : CiController) : ControllerOp → List CaEvent → CiController → Prop
  | ticked {now : Instant} {c' : CiController} (ticks : Ticks c now c') : Span c (.tick now) [] c'
  | worked {op : ControllerOp} {events : List CaEvent} {c' : CiController} (clock : op.told = none) (queues : ¬ op.Queues)
      (hands : Hands true none c events c') : Span c op events c'
  | pushed {op : ControllerOp} (queues : op.Queues) : Span c op [] { c with pacer := op.push c.pacer }
  | cleared {c' : CiController} (clears : Cleared c c') : Span c .reset [] c'

theorem Turn.pushes {op : ControllerOp} {reply : Except Error (Option CaEvent)} (queues : op.Queues)
    (h : Turn c op reply c') : c' = { c with pacer := op.push c.pacer } ∧ deliveredBy reply = [] := by
  have hcommand {slotId : UInt8} {command : Act Error CiSession Unit} (sends : op.command = some (slotId, command)) : False := by
    cases op <;> first | exact queues.elim | cases sends
  cases h with
  | pushed _ _ silent => exact ⟨rfl, silent⟩
  | commanded sends => exact (hcommand sends).elim
  | inactive sends => exact (hcommand sends).elim
  | _ => exact queues.elim

theorem wlp_reply {m : Act Error CiController (Option CaEvent)} {P : List CaEvent → CiController → Prop}
    {reply : Except Error (Option CaEvent)} (h : wlp m (fun event => P event.toList) (fun _ => P []) c)
    (hm : m c = (Outcome.ofExcept reply, c')) : P (deliveredBy reply) c' := by
  have hstate : (m c).2 = c' := by rw [hm]
  cases reply with
  | ok event => exact hstate ▸ h.1 event (by rw [hm, ofExcept_ok])
  | error e => exact hstate ▸ h.2 e (by rw [hm, ofExcept_error])

theorem step_span {label : ControllerLabel} (h : c.Settled) (hstep : ControllerStep c label c') :
    Span (linkLens.set label.link c) label.op (deliveredBy label.reply) c' := by
  obtain ⟨link, op, reply⟩ := label
  have hrelinked := h.relinked link
  have hturn := step_turn h hstep
  dsimp only at hturn hrelinked ⊢
  rw [ControllerStep] at hstep
  dsimp only at hstep
  generalize linkLens.set link c = c₀ at hturn hrelinked hstep ⊢
  have hpushed (queues : op.Queues) : Span c₀ op (deliveredBy reply) c' := by
    obtain ⟨hsame, hsilent⟩ := hturn.pushes queues
    rw [hsame, hsilent]
    exact .pushed queues
  have hsilent {m : Act Error CiController Unit} (hrun : op.run = (fun _ => none) <$> m)
      (hm : wlp m (fun _ => Span c₀ op []) (fun _ => Span c₀ op []) c₀) : Span c₀ op (deliveredBy reply) c' := by
    rw [hrun] at hstep
    exact wlp_reply (wlp_map.mpr hm) hstep
  have hworked {slotId : UInt8} {command : Act Error CiSession Unit} (sends : op.command = some (slotId, command))
      (clock : op.told = none) (queues : ¬ op.Queues) : Span c₀ op (deliveredBy reply) c' := by
    have hstrokes : Act.Keeps (Strokes true none) (slotCommand slotId command) := strokes_slotCommand (idles_command sends)
    exact hsilent (command_run sends) (wlp_mono (hstrokes c₀) (fun _ _ h => .worked clock queues (.of_strokes h))
      fun _ _ h => .worked clock queues (.of_strokes h))
  cases op with
  | pollEvent => exact .worked rfl id (wlp_reply hands_pollEvent hstep)
  | tick now =>
      exact hsilent rfl (wlp_mono (tick_ticks hrelinked now) (fun _ _ h => .ticked h) fun _ _ h => .ticked h)
  | setProgram lib pmtSection => exact hpushed trivial
  | queueProgram program => exact hpushed trivial
  | removeProgram programNumber => exact hpushed trivial
  | setCaPmtInterval interval => exact hpushed trivial
  | reset =>
      exact hsilent rfl (wlp_mono (reset_clears hrelinked.calm.collected) (fun _ _ h => .cleared h) fun _ _ h => .cleared h)
  | enterMenu slotId => exact hworked rfl rfl id
  | mmiMenuAnswer slotId sessionId choice => exact hworked rfl rfl id
  | mmiListClose slotId sessionId => exact hworked rfl rfl id
  | mmiAnswer slotId sessionId answer => exact hworked rfl rfl id
  | mmiClose slotId sessionId => exact hworked rfl rfl id
  | askRelease slotId => exact hworked rfl rfl id

end Calls

end CiController

end LibDvb
