import LibDvb.Ca.Controller

namespace LibDvb

open Act Outcome

variable {slotId : UInt8}

theorem index_ne_err {α : Type} (xs : List α) (i : Nat) (e : Error) : (index xs i : Outcome Error α) ≠ .err e := by
  unfold index
  split <;> nofun

theorem CiTransport.unerring_clearSlot : Unerring (clearSlot slotId) := by
  apply unerring_bind unerring_get
  intro t
  split
  · apply unerring_bind
    · apply unerring_bind (unerring_bind unerring_get fun _ => unerring_lift (index_ne_err _ _))
      exact fun _ => unerring_modify _
    · exact fun _ => unerring_modify _
  · exact unerring_pure ()

namespace CiSession

theorem unerring_nextEvent : Unerring nextEvent := by
  apply unerring_bind unerring_get
  intro s
  split
  · exact unerring_pure _
  · exact unerring_bind (unerring_modify _) fun _ => unerring_pure _

theorem unerring_freeSession (sessionId : UInt16) : Unerring (freeSession sessionId) := by
  apply unerring_bind unerring_get
  intro s
  split
  · exact unerring_pure ()
  · apply unerring_bind (unerring_modify _)
    intro _
    split
    · exact unerring_bind (unerring_modify _) fun _ => unerring_modify _
    · exact unerring_modify _

theorem unerring_dropSlot : Unerring (dropSlot slotId) := by
  apply unerring_bind (unerring_zoom CiTransport.unerring_clearSlot)
  intro _
  apply unerring_bind unerring_get
  intro s
  apply unerring_forEach
  intro index _
  apply unerring_bind unerring_get
  intro s
  split
  · split
    · exact unerring_freeSession _
    · exact unerring_pure ()
  · exact unerring_pure ()

end CiSession

namespace CiController

theorem unerring_slotAt : Unerring (slotAt slotId) :=
  unerring_bind unerring_get fun _ => unerring_lift (index_ne_err _ _)

theorem unerring_modifySlot (f : ControllerSlot → ControllerSlot) : Unerring (modifySlot slotId f) :=
  unerring_bind unerring_slotAt fun _ => unerring_modify _

theorem unerring_pushEvent (event : CaEvent) : Unerring (pushEvent event) := unerring_modify _

theorem unerring_note (obs : Obs) : Unerring (note obs) := unerring_zoom (unerring_modify _)

theorem unerring_setSlotStatus (new : CaSlotStatus) : Unerring (setSlotStatus slotId new) := by
  apply unerring_bind unerring_slotAt
  intro slot
  apply unerring_bind (unerring_modifySlot _)
  intro _
  split
  · exact unerring_pushEvent _
  · exact unerring_pure ()

theorem unerring_setCamStatus (new : CamStatus) : Unerring (setCamStatus slotId new) := by
  apply unerring_bind unerring_slotAt
  intro slot
  apply unerring_bind (unerring_modifySlot _)
  intro _
  split
  · exact unerring_pushEvent _
  · exact unerring_pure ()

theorem unerring_renewed (event : CaEvent) : Unerring (do
    recomputeCamStatus slotId
    pushEvent event) :=
  unerring_bind (unerring_bind unerring_get fun _ => unerring_setCamStatus _) fun _ => unerring_pushEvent _

theorem unerring_collectEvent (event : CaEvent) : Unerring (collectEvent event) := by
  apply unerring_bind unerring_get
  intro c
  split
  · split
    · apply unerring_bind (unerring_modifySlot _)
      intro _
      apply unerring_bind (unerring_setSlotStatus _)
      exact fun _ => unerring_bind (unerring_note _) fun _ => unerring_pushEvent _
    · exact unerring_pushEvent _
  · split
    · dsimp only
      split
      · exact unerring_bind (unerring_modify _) fun _ => unerring_renewed _
      · exact unerring_renewed _
    · exact unerring_pushEvent _
  · split
    · dsimp only
      split
      · split
        · exact unerring_bind (unerring_modify _) fun _ => unerring_renewed _
        · exact unerring_renewed _
      · exact unerring_renewed _
    · exact unerring_pushEvent _
  · dsimp only
    split
    · exact unerring_renewed _
    · exact unerring_pushEvent _
  · exact unerring_pushEvent _

theorem unerring_collectSessionEvents : Unerring collectSessionEvents := by
  have hloop (fuel : Nat) : Unerring (collectLoop fuel) := by
    induction fuel with
    | zero => exact unerring_fault
    | succ fuel ih =>
        apply unerring_bind (unerring_zoom CiSession.unerring_nextEvent)
        intro event
        split
        · exact unerring_pure ()
        · exact unerring_bind (unerring_collectEvent _) fun _ => ih
  exact unerring_bind unerring_get fun _ => hloop _

theorem unerring_dropAllSlots : Unerring dropAllSlots := by
  apply unerring_bind unerring_get
  intro c
  apply unerring_bind
  · apply unerring_forEach
    intro slotId _
    exact unerring_bind (unerring_zoom CiSession.unerring_dropSlot) fun _ => unerring_modifySlot _
  · exact fun _ => unerring_collectSessionEvents

theorem unerring_ioReset : Unerring ioReset := by
  apply unerring_bind (unerring_attempt _)
  exact fun _ => unerring_bind (unerring_note _) fun _ => unerring_pure _

theorem unerring_markResetFailed : Unerring markResetFailed := by
  apply unerring_bind unerring_get
  intro c
  apply unerring_forEach
  intro slotId _
  apply unerring_bind unerring_slotAt
  intro slot
  split
  · apply unerring_bind (unerring_modifySlot _)
    exact fun _ => unerring_bind (unerring_pushEvent _) fun _ => unerring_setSlotStatus _
  · exact unerring_pure ()

theorem unerring_reportFailure (failedSlot : Option UInt8) (reason : CaSlotFailure) :
    Unerring (reportFailure failedSlot reason) := by
  unfold reportFailure
  split
  · exact unerring_pushEvent _
  · apply unerring_bind unerring_get
    intro c
    apply unerring_forEach
    intro slotId _
    apply unerring_bind unerring_slotAt
    intro slot
    split
    · exact unerring_pushEvent _
    · exact unerring_pure ()

end CiController

end LibDvb
