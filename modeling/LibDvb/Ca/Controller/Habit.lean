import LibDvb.Ca.Controller.Run
import LibDvb.Ca.Session.Habit

namespace LibDvb

open Act Outcome

namespace Habit

variable {R : CiTransport → CiTransport → Prop} {α β : Type}

section Controller

variable {slotId : UInt8} {now : Instant}

open CiController

def wire (c : CiController) : CiTransport := c.session.transport

theorem layer {m : Act Error CiSession α} (hm : Keeps (Over R CiSession.transport) m) :
    Keeps (Over R wire) (Act.zoom sessionLens m) :=
  zoom CiSession.transport hm (fun _ => rfl) fun _ _ => rfl

theorem below {m : Act Error CiTransport α} (hm : Keeps R m) :
    Keeps (Over R wire) (Act.zoom transportLens m) :=
  transport hm (fun _ => rfl) fun _ _ => rfl

theorem device {m : Act Error CaDevice α} (hm : Keeps R (Act.zoom CiTransport.linkLens m)) :
    Keeps (Over R wire) (Act.zoom linkLens m) := fun c => hm c.session.transport

theorem attempted (h : Habit R) {m : Act Error CiController α} {f : Except Error α → Act Error CiController β}
    (hm : Keeps (Over R wire) m) (hf : ∀ result, Keeps (Over R wire) (f result)) :
    Keeps (Over R wire) (attempt m >>= f) := h.bind (keeps_attempt hm) hf

theorem remark (h : Habit R) {obs : Obs} (hobs : obs.Aside) : Keeps (Over R wire) (CiController.note obs) :=
  below (h.aside obs hobs)

theorem view (h : Habit R) : Keeps (Over R wire) (CiController.slotAt slotId) := h.get fun _ => h.lift _

theorem modifyView (h : Habit R) (f : ControllerSlot → ControllerSlot) :
    Keeps (Over R wire) (CiController.modifySlot slotId f) :=
  h.bind h.view fun _ => h.modify fun _ => rfl

theorem report (h : Habit R) (e : CaEvent) : Keeps (Over R wire) (CiController.pushEvent e) :=
  h.modify fun _ => rfl

theorem popEvent (h : Habit R) : Keeps (Over R wire) CiController.popEvent := by
  apply h.get
  intro c
  split
  · exact h.pure _
  · exact h.bind (h.modify fun _ => rfl) fun _ => h.pure _

theorem status (h : Habit R) : Keeps (Over R wire) (CiController.status slotId) := by
  apply h.get
  intro c
  split
  · exact h.pure _
  · exact h.fail _

theorem setSlotStatus (h : Habit R) (new : CaSlotStatus) :
    Keeps (Over R wire) (CiController.setSlotStatus slotId new) := by
  apply h.bind h.view
  intro slot
  refine h.bind (h.modifyView _) fun _ => ?_
  split
  · exact h.report _
  · exact h.pure ()

theorem setCamStatus (h : Habit R) (new : CamStatus) :
    Keeps (Over R wire) (CiController.setCamStatus slotId new) := by
  apply h.bind h.view
  intro slot
  refine h.bind (h.modifyView _) fun _ => ?_
  split
  · exact h.report _
  · exact h.pure ()

theorem recomputeCamStatus (h : Habit R) : Keeps (Over R wire) (CiController.recomputeCamStatus slotId) :=
  h.get fun _ => h.setCamStatus _

theorem collectEvent (h : Habit R) (e : CaEvent) : Keeps (Over R wire) (CiController.collectEvent e) := by
  apply h.get
  intro c
  split
  · split
    · refine h.bind (h.modifyView _) fun _ => ?_
      refine h.bind (h.setSlotStatus _) fun _ => ?_
      exact h.bind (h.remark trivial) fun _ => h.report _
    · exact h.report _
  · split
    · split
      · exact h.bind (h.modify fun _ => rfl) fun _ => h.bind h.recomputeCamStatus fun _ => h.report _
      · exact h.bind h.recomputeCamStatus fun _ => h.report _
    · exact h.report _
  · split
    · have hrest (slotId : UInt8) (e : CaEvent) : Keeps (Over R wire) (do
          CiController.recomputeCamStatus slotId
          CiController.pushEvent e) := h.bind h.recomputeCamStatus fun _ => h.report e
      split
      · split
        · exact h.bind (h.modify fun _ => rfl) fun _ => hrest _ _
        · exact hrest _ _
      · exact hrest _ _
    · exact h.report _
  · split
    · exact h.bind h.recomputeCamStatus fun _ => h.report _
    · exact h.report _
  · exact h.report _

theorem collectLoop (h : Habit R) : ∀ fuel, Keeps (Over R wire) (CiController.collectLoop fuel) := by
  intro fuel
  induction fuel with
  | zero => exact fun _ => wlp_fault
  | succ fuel ih =>
      apply h.bind (layer h.nextEvent)
      intro event
      split
      · exact h.pure ()
      · exact h.bind (h.collectEvent _) fun _ => ih

theorem collectSessionEvents (h : Habit R) : Keeps (Over R wire) CiController.collectSessionEvents :=
  h.get fun _ => h.collectLoop _

theorem dropAllSlots (h : Habit R) : Keeps (Over R wire) CiController.dropAllSlots := by
  apply h.get
  intro c
  refine h.bind (h.forEach fun slotId _ => ?_) fun _ => h.collectSessionEvents
  exact h.bind (layer h.dropSlot) fun _ => h.modifyView _

theorem ioReset (h : Habit R) : Keeps (Over R wire) CiController.ioReset := by
  apply h.attempted (device h.restart)
  intro result
  exact h.bind (h.remark trivial) fun _ => h.pure _

theorem markResetFailed (h : Habit R) : Keeps (Over R wire) CiController.markResetFailed := by
  apply h.get
  intro c
  apply h.forEach
  intro slotId _
  apply h.bind h.view
  intro slot
  split
  · exact h.bind (h.modifyView _) fun _ => h.bind (h.report _) fun _ => h.setSlotStatus _
  · exact h.pure ()

theorem reportFailure (h : Habit R) (failedSlot : Option UInt8) (reason : CaSlotFailure) :
    Keeps (Over R wire) (CiController.reportFailure failedSlot reason) := by
  unfold CiController.reportFailure
  split
  · exact h.report _
  · apply h.get
    intro c
    apply h.forEach
    intro slotId _
    apply h.bind h.view
    intro slot
    split
    · exact h.report _
    · exact h.pure ()

theorem recoverAll (h : Habit R) (failedSlot : Option UInt8) (reason : CaSlotFailure) :
    Keeps (Over R wire) (CiController.recoverAll failedSlot reason now) := by
  apply h.bind (h.reportFailure failedSlot reason)
  intro _
  apply h.bind h.dropAllSlots
  intro _
  refine h.bind (h.modify fun _ => rfl) fun _ => ?_
  apply h.bind h.ioReset
  intro resetResult
  apply h.get
  intro c
  refine h.bind (h.modify fun _ => rfl) fun _ => ?_
  apply h.get
  intro c
  refine h.bind (h.forEach fun slotId _ => ?_) fun _ => ?_
  · refine h.bind (h.modifyView _) fun _ => ?_
    exact h.bind (h.setCamStatus _) fun _ => h.bind h.view fun _ => h.setSlotStatus _
  · refine h.bind (h.modify fun _ => rfl) fun _ => ?_
    split
    · exact h.pure ()
    · exact h.bind h.markResetFailed fun _ => h.fail _

theorem reset (h : Habit R) : Keeps (Over R wire) CiController.reset := by
  apply h.bind h.collectSessionEvents
  intro _
  apply h.bind h.dropAllSlots
  intro _
  refine h.bind (h.modify fun _ => rfl) fun _ => ?_
  apply h.bind h.ioReset
  intro result
  split
  · apply h.get
    intro c
    refine h.bind (h.forEach fun slotId _ => ?_) fun _ => h.modify fun _ => rfl
    apply h.bind h.view
    intro slot
    refine h.bind (h.modifyView _) fun _ => ?_
    exact h.bind (h.setCamStatus _) fun _ => h.setSlotStatus _
  · exact h.bind (h.modify fun _ => rfl) fun _ => h.bind h.markResetFailed fun _ => h.fail _

theorem markOutstanding (h : Habit R) : Keeps (Over R wire) (CiController.markOutstanding slotId now) := by
  apply h.get
  intro c
  apply h.bind h.view
  intro slot
  split
  · exact h.modifyView _
  · split
    · exact h.modifyView _
    · split
      · exact h.modifyView _
      · exact h.pure ()

theorem flushReceivePending (h : Habit R) :
    Keeps (Over R wire) (CiController.flushReceivePending slotId now) := by
  apply h.bind h.view
  intro slot
  apply h.get
  intro c
  dsimp only
  split
  · exact h.pure ()
  · apply h.bind (below (h.command slotId .rcv (by decide)))
    exact fun _ => h.bind (h.modifyView _) fun _ => h.markOutstanding

theorem recoverAtEventTime (h : Habit R) (failedSlot : Option UInt8) :
    Keeps (Over R wire) (CiController.recoverAtEventTime failedSlot) := by
  apply h.get
  intro c
  split
  · exact h.attempted (h.recoverAll _ _) fun _ => h.pure ()
  · exact h.pure ()

theorem finishSlotCommand (h : Habit R) (result : Except Error Unit) :
    Keeps (Over R wire) (CiController.finishSlotCommand slotId result) := by
  unfold CiController.finishSlotCommand
  split
  · apply h.get
    intro c
    split
    · exact h.markOutstanding
    · exact h.pure ()
  · split
    · exact h.bind (h.recoverAtEventTime _) fun _ => h.fail _
    · exact h.fail _

theorem slotCommand (h : Habit R) {command : Act Error CiSession Unit}
    (hcommand : Keeps (Over R CiSession.transport) command) :
    Keeps (Over R wire) (CiController.slotCommand slotId command) := by
  have hrequire : Keeps (Over R wire) (CiController.requireActive slotId) := by
    apply h.bind h.status
    intro status
    split
    · exact h.pure ()
    · exact h.fail _
  apply h.bind hrequire
  intro _
  exact h.attempted (layer hcommand) h.finishSlotCommand

theorem finishProgramCommand (h : Habit R) (result : Except Error (List UInt8)) :
    Keeps (Over R wire) (CiController.finishProgramCommand result) := by
  unfold CiController.finishProgramCommand
  split
  · apply h.get
    intro c
    split
    · exact h.forEach fun _ _ => h.markOutstanding
    · exact h.pure ()
  · split
    · exact h.bind (h.recoverAtEventTime _) fun _ => h.fail _
    · exact h.fail _

theorem dispatchCaPmt (h : Habit R) : Keeps (Over R wire) (CiController.dispatchCaPmt now) := by
  have hpoll : Keeps (Over R wire) (CiController.pollPacer now) :=
    h.get fun _ => h.bind (h.modify fun _ => rfl) fun _ => h.pure _
  apply h.bind hpoll
  intro change
  split
  · exact h.pure ()
  · exact h.attempted (layer (h.setProgram _)) h.finishProgramCommand
  · exact h.attempted (layer (h.removeProgram _)) h.finishProgramCommand

theorem guarded {α : Type} {p : Prop} [Decidable p] {x rest : Act Error CiController α}
    (hrest : Keeps (Over R wire) rest) (hstep : Keeps (Over R wire) rest → Keeps (Over R wire) x) :
    Keeps (Over R wire) (if p then x else rest) := by
  split
  · exact hstep hrest
  · exact hrest

theorem afterRecv (h : Habit R) : Keeps (Over R wire) (CiController.afterRecv slotId) := by
  apply h.bind h.view
  intro slot
  refine guarded ?_ fun hrest => h.bind (h.modifyView _) fun _ => hrest
  apply h.bind (below (h.taken slotId))
  intro dataPending
  apply h.bind h.collectSessionEvents
  intro _
  refine guarded ?_ fun hflush => h.bind h.status fun _ => guarded hflush fun _ => h.bind (h.modifyView _) fun _ => hflush
  apply h.get
  intro c
  split
  · apply h.attempted h.flushReceivePending
    intro result
    split
    · exact h.markOutstanding
    · exact h.bind (h.recoverAtEventTime _) fun _ => h.fail _
  · exact h.pure ()

theorem pollFailed (h : Habit R) (e : Error) : Keeps (Over R wire) (CiController.pollFailed e) := by
  apply h.get
  intro c
  split
  · exact h.attempted (h.recoverAll _ _) fun _ => h.fail _
  · exact h.bind (h.modify fun _ => rfl) fun _ => h.fail _

theorem pollLoop (h : Habit R) : ∀ fuel, Keeps (Over R wire) (CiController.pollLoop fuel) := by
  intro fuel
  induction fuel with
  | zero => exact fun _ => wlp_fault
  | succ fuel ih =>
      have hrecv : Keeps (Over R wire) CiController.recvController :=
        h.get fun _ => layer (h.recvFiltered _)
      apply h.attempted hrecv
      intro result
      split
      · exact h.popEvent
      · exact h.pollFailed _
      · apply h.bind h.afterRecv
        intro _
        apply h.bind h.popEvent
        intro event
        split
        · exact h.pure _
        · exact ih

theorem pollEvent (h : Habit R) : Keeps (Over R wire) CiController.pollEvent := by
  apply h.bind h.collectSessionEvents
  intro _
  apply h.bind h.popEvent
  intro event
  split
  · exact h.pure _
  · apply h.get
    intro c
    split
    · exact h.pure _
    · exact h.pollLoop _

theorem dropTo (h : Habit R) (failure : Option CaSlotFailure) (new : CaSlotStatus) :
    Keeps (Over R wire) (CiController.dropTo slotId failure new) := by
  apply h.bind (layer h.dropSlot)
  intro _
  apply h.bind h.collectSessionEvents
  intro _
  refine h.bind (h.modifyView _) fun _ => ?_
  split
  · exact h.bind (h.report _) fun _ => h.bind (h.setCamStatus _) fun _ => h.setSlotStatus _
  · exact h.bind (h.setCamStatus _) fun _ => h.setSlotStatus _

theorem applySlotInfo (h : Habit R) (info : CaSlotInfo) :
    Keeps (Over R wire) (CiController.applySlotInfo slotId info) := by
  unfold CiController.applySlotInfo
  dsimp only
  refine h.bind (h.modifyView _) fun _ => ?_
  apply h.bind h.view
  intro slot
  split
  · split
    · exact h.dropTo _ _
    · exact h.pure ()
  · split
    · split
      · exact h.dropTo _ _
      · exact h.pure ()
    · split
      · exact h.setSlotStatus _
      · split
        · exact h.dropTo _ _
        · exact h.pure ()

theorem slotInfos (h : Habit R) : ∀ slotIds, Keeps (Over R wire) (CiController.slotInfos now slotIds) := by
  intro slotIds
  induction slotIds with
  | nil => exact h.pure _
  | cons slotId rest ih =>
      have hinfo : Keeps (Over R wire) (CiController.ioSlotInfo slotId) :=
        h.bind (h.remark trivial) fun _ => device (h.slotInfo slotId)
      apply h.attempted hinfo
      intro result
      split
      · exact h.bind ih fun _ => h.pure _
      · exact h.attempted (h.recoverAll _ _) fun _ => h.fail _

theorem refreshSlotInfo (h : Habit R) : Keeps (Over R wire) (CiController.refreshSlotInfo now) := by
  apply h.get
  intro c
  exact h.bind (h.slotInfos _) fun infos => h.forEach fun _ _ => h.applySlotInfo _

theorem drivePresent (h : Habit R) : Keeps (Over R wire) (CiController.drivePresent slotId now) := by
  apply h.bind h.view
  intro slot
  split
  · apply h.bind (below (h.command slotId .createTc (by decide)))
    intro _
    exact h.bind (h.modifyView _) fun _ => h.bind (h.setSlotStatus _) fun _ => h.markOutstanding
  · exact h.pure ()

theorem driveCreating (h : Habit R) : Keeps (Over R wire) (CiController.driveCreating slotId now) := by
  apply h.bind (below (h.flush slotId))
  intro _
  apply h.bind h.markOutstanding
  intro _
  apply h.bind h.view
  intro slot
  apply h.get
  intro c
  split
  · exact h.pure _
  · exact h.pure _
  · exact h.pure _

theorem driveActive (h : Habit R) : Keeps (Over R wire) (CiController.driveActive slotId now) := by
  apply h.bind (below (h.flush slotId))
  intro _
  apply h.get
  intro c
  apply h.get
  intro c
  dsimp only
  split
  · apply h.bind h.view
    intro slot
    refine h.bind (h.modifyView _) fun _ => ?_
    split
    · exact h.pure _
    · exact h.pure _
  · refine h.bind (h.modifyView _) fun _ => ?_
    apply h.bind h.view
    intro slot
    split
    · exact h.bind h.flushReceivePending fun _ => h.pure _
    · split
      · apply h.bind (below (h.command slotId .dataLast (by decide)))
        exact fun _ => h.bind (h.modifyView _) fun _ => h.pure _
      · exact h.pure _

theorem driveSlot (h : Habit R) : Keeps (Over R wire) (CiController.driveSlot slotId now) := by
  apply h.bind h.view
  intro slot
  refine guarded ?_ fun hrest => h.bind (h.modifyView _) fun _ => h.bind (h.setSlotStatus _) fun _ => hrest
  apply h.bind h.view
  intro slot
  split
  · exact h.pure _
  · exact h.pure _
  · exact h.bind h.drivePresent fun _ => h.pure _
  · exact h.driveCreating
  · exact h.driveActive

theorem driveSlots (h : Habit R) : ∀ slotIds, Keeps (Over R wire) (CiController.driveSlots now slotIds) := by
  intro slotIds
  induction slotIds with
  | nil => exact h.pure _
  | cons slotId rest ih =>
      apply h.attempted h.driveSlot
      intro result
      split
      · exact ih
      · exact h.recoverAll _ _
      · exact h.attempted (h.recoverAll _ _) fun _ => h.fail _

theorem sessionTick (h : Habit R) : Keeps (Over R wire) (CiController.sessionTick now) := by
  apply h.attempted (layer (h.tickAt now))
  intro result
  split
  · exact h.pure ()
  · split
    · exact h.attempted (h.recoverAll _ _) fun _ => h.fail _
    · exact h.fail _

theorem tickLink (h : Habit R) : Keeps (Over R wire) (CiController.tickLink now) := by
  apply h.get
  intro c
  refine guarded ?_ fun hrest => h.bind h.refreshSlotInfo fun _ => h.bind (h.modify fun _ => rfl) fun _ => hrest
  apply h.bind h.sessionTick
  intro _
  apply h.get
  intro c
  apply h.bind (h.driveSlots _)
  intro _
  exact h.bind h.collectSessionEvents fun _ => h.dispatchCaPmt

theorem tick (h : Habit R) : Keeps (Over R wire) (CiController.tick now) := by
  refine h.bind (h.modify fun _ => rfl) fun _ => ?_
  apply h.bind h.collectSessionEvents
  intro _
  apply h.get
  intro c
  split
  · exact h.bind (h.modify fun _ => rfl) fun _ => h.recoverAll _ _
  · apply h.get
    intro c
    split
    · apply h.get
      intro c
      split
      · exact h.bind (h.modify fun _ => rfl) fun _ => h.tickLink
      · exact h.pure ()
    · exact h.tickLink

theorem nothing {m : Act Error CiController α} (hm : Keeps (Over R wire) m) :
    Keeps (Over R wire) ((fun _ => (none : Option CaEvent)) <$> m) := by
  intro c
  rw [wlp_map]
  exact hm c

theorem run (h : Habit R) (op : ControllerOp) : Keeps (Over R wire) op.run := by
  cases op with
  | pollEvent => exact h.pollEvent
  | tick now => exact nothing h.tick
  | setProgram lib pmtSection =>
      exact nothing (h.bind (h.lift _) fun _ => h.bind (h.modify fun _ => rfl) fun _ => h.pure _)
  | queueProgram program => exact nothing (h.modify fun _ => rfl)
  | removeProgram programNumber =>
      refine nothing ?_
      unfold CiController.removeProgram
      split
      · exact h.fail _
      · exact h.modify fun _ => rfl
  | setCaPmtInterval interval => exact nothing (h.modify fun _ => rfl)
  | enterMenu slotId => exact nothing (h.slotCommand h.enterMenu)
  | mmiMenuAnswer slotId sessionId choice => exact nothing (h.slotCommand (h.mmiMenuAnswer choice))
  | mmiListClose slotId sessionId => exact nothing (h.slotCommand (h.mmiMenuAnswer _))
  | mmiAnswer slotId sessionId answer => exact nothing (h.slotCommand (h.mmiAnswer answer))
  | mmiClose slotId sessionId => exact nothing (h.slotCommand h.mmiClose)
  | askRelease slotId => exact nothing (h.slotCommand h.askRelease)
  | reset => exact nothing h.reset

theorem step (h : Habit R) (hlink : ∀ (t : CiTransport) link, R t { t with link }) {c c' : CiController}
    {label : ControllerLabel} (hstep : ControllerStep c label c') : R c.session.transport c'.session.transport := by
  have hrun := wlp_result (h.run label.op (linkLens.set label.link c)) hstep
  exact h.trans (hlink c.session.transport label.link) hrun

theorem along (h : Habit R) (hlink : ∀ (t : CiTransport) link, R t { t with link }) {start c : CiController}
    {labels : List ControllerLabel} (hrun : ControllerRun start labels c) : R start.session.transport c.session.transport :=
  hrun.2.invariant (h.refl _) fun _ _ _ hc hstep => h.trans hc (h.step hlink hstep)

end Controller

end Habit

end LibDvb
