import LibDvb.Basis.KeyMap
import LibDvb.Ca.Event
import LibDvb.Ca.Transport

namespace LibDvb

-- `&mut self` of a resource together with the context its callbacks receive.
structure ResourceContext (R : Type) where
  self : R
  transport : CiTransport
  events : List CaEvent
  slotId : UInt8
  sessionId : UInt16
  closeSession : Bool := false

namespace ResourceContext

open Act

variable {R : Type}

def transportLens : Lens (ResourceContext R) CiTransport where
  get ctx := ctx.transport
  set transport ctx := { ctx with transport }

def sendApdu (tag : ApduTag) (body : Bytes) : Act Error (ResourceContext R) Unit := do
  let ctx ← get
  zoom transportLens (CiTransport.sendApdu ctx.slotId ctx.sessionId tag body)

def event (e : CaEvent) : Act Error (ResourceContext R) Unit :=
  modify fun ctx => { ctx with events := ctx.events ++ [e] }

def update (f : R → R) : Act Error (ResourceContext R) Unit :=
  modify fun ctx => { ctx with self := f ctx.self }

end ResourceContext

end LibDvb
