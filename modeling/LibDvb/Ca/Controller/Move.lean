import LibDvb.Ca.Controller
import LibDvb.Ca.Session.History

namespace LibDvb

open Relation

def CaEvent.Renews (slotId : UInt8) : CaEvent → Prop
  | applicationInfo other _ => other = slotId
  | caInfo other _ _ => other = slotId
  | sessionClosed other _ resourceId => other = slotId ∧
      (resourceId.base = ResourceId.applicationInformation.base ∨
        resourceId.base = ResourceId.conditionalAccessSupport.base)
  | _ => False

def CaEvent.OfSession : CaEvent → Prop
  | slotStatusChanged _ _ _ => False
  | camStatusChanged _ _ _ => False
  | slotFailed _ _ => False
  | _ => True

def TransportSlot.Idle (slot : TransportSlot) : Prop := slot.busy = false ∧ slot.queue = []

namespace CiController

def Live (c : CiController) (slotId : UInt8) : Prop := c.isActive slotId = true

def camOf (c : CiController) (slotId : UInt8) : CamStatus :=
  camStatusOf (c.isActive slotId) (c.session.appInfo slotId).isSome (c.session.hasCaInfo slotId)

def Fresh (c : CiController) (slotId : UInt8) : Prop :=
  ∀ slot, c.slots[slotId.toNat]? = some slot → slot.camStatus = c.camOf slotId

def NoSession (c : CiController) (slotId : UInt8) : Prop :=
  ∀ index session, c.session.entry index = some session → session.slotId ≠ slotId

def IdleAt (c : CiController) (slotId : UInt8) : Prop :=
  ∀ slot, c.session.transport.slots[slotId.toNat]? = some slot → slot.Idle

def emit (c : CiController) (events : List CaEvent) : CiController :=
  { c with events := c.events ++ events }

def edit (c : CiController) (slotId : UInt8) (f : ControllerSlot → ControllerSlot) :
    CiController :=
  { c with slots := c.slots.modify slotId.toNat f }

def withTransport (c : CiController) (t : CiTransport) : CiController :=
  { c with session := { c.session with transport := t } }

def noted (c : CiController) (obs : Obs) : CiController :=
  c.withTransport { c.session.transport with trace := c.session.transport.trace ++ [obs] }

def popped (c : CiController) (rest : List CaEvent) : CiController :=
  { c with session := { c.session with events := rest } }

def turn (c : CiController) (slotId : UInt8) (old new : CaSlotStatus) : CiController :=
  (c.edit slotId ({ · with status := new })).emit [.slotStatusChanged slotId old new]

def renew (c : CiController) (slotId : UInt8) (old : CamStatus) : CiController :=
  (c.edit slotId ({ · with camStatus := c.camOf slotId })).emit
    (if old ≠ c.camOf slotId then [.camStatusChanged slotId old (c.camOf slotId)] else [])

-- One thing the controller does while the link is in use. It takes notice of the slots in `V`;
-- only the driver's answers about all slots make it create, leave or fail a connection.
inductive Move (V : UInt8 → Prop) (c : CiController) : CiController → Prop
  | session {s} (move : CiSession.Move c.Live V c.session s) : Move V c { c with session := s }
  | created {slotId slot t} (known : c.slots[slotId.toNat]? = some slot)
      (status : slot.status = .present) (notice : ∀ other, V other)
      (path : ReflTransGen (CiTransport.Step (Sends True slotId)) c.session.transport t)
      (whole : pending t.trace = false) :
      Move V c ((c.withTransport t).turn slotId .present .creatingTc)
  | createFailed {slotId slot t} (known : c.slots[slotId.toNat]? = some slot)
      (status : slot.status = .present)
      (path : ReflTransGen (CiTransport.Step (Sends True slotId)) c.session.transport t)
      (broken : pending t.trace = true) : Move V c (c.withTransport t)
  | activated {slotId slot rest} (queued : c.session.events = .transportReady slotId :: rest)
      (known : c.slots[slotId.toNat]? = some slot) (status : slot.status = .creatingTc)
      (notice : V slotId) :
      Move V c ((((c.popped rest).noted (.activated slotId)).turn slotId .creatingTc .active).emit
        [.transportReady slotId])
  | passed {event rest} (queued : c.session.events = event :: rest)
      (ready : ∀ slotId, event ≠ .transportReady slotId)
      (fresh : ∀ slotId, event.Renews slotId → c.Fresh slotId) (notice : V event.slotId) :
      Move V c ((c.popped rest).emit [event])
  | refused {slotId rest} (context : String)
      (queued : c.session.events = .transportReady slotId :: rest) (notice : V slotId) :
      Move V c ((c.popped rest).emit [.malformed slotId context])
  | renewed {slotId slot} (known : c.slots[slotId.toNat]? = some slot) (notice : V slotId) :
      Move V c (c.renew slotId slot.camStatus)
  | turned {slotId slot} (new : CaSlotStatus) (known : c.slots[slotId.toNat]? = some slot)
      (change : slot.status ≠ new) (notice : ∀ other, V other) (rest : new ≠ .active ∧ new ≠ .creatingTc)
      (present : slot.present = false ↔ new = .absent) (sessions : c.NoSession slotId)
      (idle : pending c.session.transport.trace = false → c.IdleAt slotId)
      (receive : slot.receivePending = false)
      (collected : slot.status = .active → c.session.events = []) :
      Move V c (c.turn slotId slot.status new)
  | kept {slotId} (f : ControllerSlot → ControllerSlot) (status : ∀ slot, (f slot).status = slot.status)
      (camStatus : ∀ slot, (f slot).camStatus = slot.camStatus)
      (present : ∀ slot, (f slot).present = slot.present)
      (receive : ∀ slot, c.slots[slotId.toNat]? = some slot → (f slot).receivePending = true →
        slot.receivePending = true ∨ slot.status = .active) :
      Move V c (c.edit slotId f)
  | failed {slotId} (reason : CaSlotFailure) (notice : ∀ other, V other) :
      Move V c (c.emit [.slotFailed slotId reason])
  | armed {slotId} (gate : Gate) (active : c.Live slotId) :
      Move V c { c with pacer := { c.pacer with gate } }
  | disarmed : Move V c { c with pacer := c.pacer.resetGate }
  | polled {now} (idle : (c.pacer.poll now).1 = none) :
      Move V c { c with pacer := (c.pacer.poll now).2 }
  | programmed {now change s} (due : (c.pacer.poll now).1 = some change)
      (programmed : CiSession.Programmed c.session change s) :
      Move V c { c with pacer := (c.pacer.poll now).2, session := s }
  | probed (slotId : UInt8) : Move V c (c.noted (.slotInfo slotId))
  | scheduled (nextStatusCheck : Option Instant) : Move V c { c with nextStatusCheck }

inductive Work (V : UInt8 → Prop) (c : CiController) : CiController → Prop
  | move {c'} (move : Move V c c') : Work V c c'
  | info (slotId : UInt8) (present ready : Bool) :
      Work V c (c.edit slotId ({ · with present, ready }))

inductive Step (c : CiController) : CiController → Prop
  | work {V c'} (work : Work V c c') : Step c c'
  | flags (lastTick : Option Instant) (linkSuspended : Bool) (recoveryAt nextStatusCheck : Option Instant)
      (deferredLinkFailure : Bool) :
      Step c { c with lastTick, linkSuspended, recoveryAt, nextStatusCheck, deferredLinkFailure }
  | reset {link} (result : Except Error Unit) (sessions : ∀ slotId, c.NoSession slotId)
      (idle : ∀ slotId, c.IdleAt slotId) :
      Step c ((linkLens.set link c).noted (.reset result))

end CiController

end LibDvb
