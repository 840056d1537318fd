import LibDvb.Ca.Resource.Context
import LibDvb.Time

namespace LibDvb

structure DateTimeSession where
  slotId : UInt8
  interval : UInt8 := 0
  sent : Option Instant := none
  deriving DecidableEq

structure DateTimeResource where
  sessions : KeyMap DateTimeSession := ∅
  deriving DecidableEq

namespace DateTimeResource

open Act Outcome ResourceContext

def mjdUnixEpoch : Nat := 40587

def bcd (value : UInt8) : UInt8 := ((value / 10) <<< 4) ||| (value % 10)

def dateTimeBody (unixSecs : Nat) : Bytes :=
  let mjd := min (mjdUnixEpoch + unixSecs / 86400) 65535
  let time := unixSecs % 86400
  toBeBytes (UInt16.ofNat mjd) ++
    [bcd (UInt8.ofNat (time / 3600)), bcd (UInt8.ofNat (time / 60 % 60)),
      bcd (UInt8.ofNat (time % 60))]

def nowBody : Act Error CiTransport Bytes := do
  pure (dateTimeBody (← zoom CiTransport.linkLens CaDevice.systemTime))

def sendNow : Act Error (ResourceContext DateTimeResource) Unit := do
  let body ← zoom transportLens nowBody
  sendApdu .dateTime body

def onOpen : Act Error (ResourceContext DateTimeResource) Unit := do
  let ctx ← get
  update fun self =>
    { sessions := self.sessions.insert ctx.sessionId { slotId := ctx.slotId } }
  sendNow

def onApdu (tag : ApduTag) (body : Bytes) : Act Error (ResourceContext DateTimeResource) Unit := do
  let ctx ← get
  if tag = .dateTimeEnq then do
    let interval := body.head?.getD 0
    match ctx.self.sessions[ctx.sessionId]? with
    | some session =>
        update fun self =>
          { sessions := self.sessions.insert ctx.sessionId { session with interval, sent := none } }
    | none => pure ()
    sendNow
  else
    fail (.invalidData s!"ca slot {ctx.slotId}: unexpected date-time apdu tag {tag.debug}")

def onClose (self : DateTimeResource) (sessionId : UInt16) : DateTimeResource :=
  { sessions := self.sessions.erase sessionId }

structure Timer where
  self : DateTimeResource
  transport : CiTransport

def Timer.transportLens : Lens Timer CiTransport where
  get timer := timer.transport
  set transport timer := { timer with transport }

def putSent (sessionId : UInt16) (session : DateTimeSession) (now : Instant) :
    Act Error Timer Unit :=
  modify fun timer =>
    { timer with
      self := { sessions := timer.self.sessions.insert sessionId { session with sent := some now } } }

def tickSession (now : Instant) (sessionId : UInt16) : Act Error Timer Unit := do
  match (← get).self.sessions[sessionId]? with
  | none => pure ()
  | some session =>
      if session.interval = 0 then
        pure ()
      else
        match session.sent with
        | none => putSent sessionId session now
        | some sent =>
            if now - sent < Duration.fromSecs session.interval.toNat then
              pure ()
            else do
              zoom Timer.transportLens do
                let body ← nowBody
                CiTransport.sendApdu session.slotId sessionId .dateTime body
              putSent sessionId session now

-- The keys of the map in the order the link model gives, then the keys it does not list.
def walk (order keys : List UInt16) : List UInt16 :=
  (order.filter fun key => keys.contains key).dedup ++
    keys.filter fun key => !order.contains key

def onTick (now : Instant) : Act Error Timer Unit := do
  let timer ← get
  forEach (walk timer.transport.link.hashOrder timer.self.sessions.keys) (tickSession now)

example : dateTimeBody (20638 * 86400 + 12 * 3600 + 34 * 60 + 56) =
    [0xEF, 0x29, 0x12, 0x34, 0x56] := by decide

end DateTimeResource

end LibDvb
