import LibDvb.Ca.Apdu
import LibDvb.Ca.Device
import LibDvb.Ca.Spdu
import LibDvb.Ca.Tpdu

namespace LibDvb

inductive TransportRecv where
  | tcReply (slotId : UInt8)
  | spdu (slotId : UInt8) (spdu : Bytes)
  | status (slotId : UInt8)
  | malformed (slotId : UInt8) (context : String)
  deriving DecidableEq, Repr

def TransportRecv.slotId : TransportRecv → UInt8
  | .tcReply slotId => slotId
  | .spdu slotId _ => slotId
  | .status slotId => slotId
  | .malformed slotId _ => slotId

structure TransportSlot where
  busy : Bool := false
  queue : List Bytes := []
  rxBuffer : Bytes := []
  dataPending : Bool := false
  deriving DecidableEq, Repr

-- The history of the link and of the slot queues, oldest entry first. No function of the host
-- reads it. `callback` tells whether a resource callback was running at the write; `called` is the
-- start of a call to a session layer that no controller drives.
inductive Obs where
  | queued (slotId : UInt8) (frame : Bytes)
  | wrote (slotId : UInt8) (frame : Bytes) (result : Except Error Unit) (callback : Bool)
  | read (frame : Bytes)
  | cleared (slotId : UInt8)
  | taken (slotId : UInt8)
  | apdu (slotId : UInt8) (sessionId : UInt16) (tag : ApduTag) (body : Bytes)
  | opened (slotId : UInt8) (sessionId : UInt16)
  | dispatched (slotId : UInt8) (spdu : Bytes)
  | activated (slotId : UInt8)
  | readFailed (error : Error)
  | noFrame
  | reset (result : Except Error Unit)
  | slotInfo (slotId : UInt8)
  | called
  deriving DecidableEq

structure CiTransport where
  link : CaDevice
  slots : List TransportSlot
  trace : List Obs := []
  callback : Bool := false

namespace CiTransport

open Act Outcome

def linkLens : Lens CiTransport CaDevice where
  get t := t.link
  set link t := { t with link }

def new (link : CaDevice) (slotsNum : UInt8) : CiTransport where
  link
  slots := List.replicate slotsNum.toNat {}

def note (obs : Obs) : Act Error CiTransport Unit :=
  modify fun t => { t with trace := t.trace ++ [obs] }

def slotsNum (t : CiTransport) : UInt8 := UInt8.ofNat t.slots.length

def slotAt (slotId : UInt8) : Act Error CiTransport TransportSlot := do
  lift (index (← get).slots slotId.toNat)

def modifySlot (slotId : UInt8) (f : TransportSlot → TransportSlot) : Act Error CiTransport Unit := do
  let _ ← slotAt slotId
  modify fun t => { t with slots := t.slots.modify slotId.toNat f }

def checkSlot (slotId : UInt8) : Act Error CiTransport Unit := do
  if slotId.toNat < (← get).slots.length then
    pure ()
  else
    fail (.invalidProperty s!"ca invalid slot id {slotId}")

def flushSlot (slotId : UInt8) : Act Error CiTransport Unit := do
  let slot ← slotAt slotId
  if slot.busy then
    pure ()
  else
    match slot.queue with
    | [] => pure ()
    | frame :: rest => do
        let result ← attempt (zoom linkLens (CaDevice.sendMsg frame))
        note (.wrote slotId frame result (← get).callback)
        match result with
        | .ok () => modifySlot slotId ({ · with queue := rest, busy := true })
        | .error e =>
            if e.transient then
              pure ()
            else do
              modifySlot slotId ({ · with queue := rest })
              fail e

def flush (slotId : UInt8) : Act Error CiTransport Unit := do
  checkSlot slotId
  flushSlot slotId

def sendTpdu (slotId : UInt8) (tag : TpduTag) (data : Bytes) : Act Error CiTransport Unit := do
  checkSlot slotId
  let frame ← lift (Tpdu.build slotId tag data)
  modifySlot slotId fun slot => { slot with queue := slot.queue ++ [frame] }
  note (.queued slotId frame)
  flush slotId

-- The `while` loop of `send_spdu` over the bytes not sent yet. Each turn takes `maxTpduData` of
-- them, so their number bounds the turns.
def sendFragments (slotId : UInt8) : Nat → Bytes → Act Error CiTransport Unit
  | 0, _ => fault
  | fuel + 1, rest =>
      if rest.length > Tpdu.maxTpduData then do
        sendTpdu slotId .dataMore (← lift (slice rest 0 Tpdu.maxTpduData))
        sendFragments slotId fuel (rest.drop Tpdu.maxTpduData)
      else
        sendTpdu slotId .dataLast rest

def sendSpdu (slotId : UInt8) (spdu : Bytes) : Act Error CiTransport Unit := do
  checkSlot slotId
  sendFragments slotId (spdu.length + 1) spdu

def sendApdu (slotId : UInt8) (sessionId : UInt16) (tag : ApduTag) (body : Bytes) :
    Act Error CiTransport Unit := do
  note (.apdu slotId sessionId tag body)
  if body.length > 65535 then
    fail (.invalidProperty s!"ca apdu body is too large: {body.length} bytes")
  else
    sendSpdu slotId (Spdu.buildSessionNumber sessionId ++ Apdu.build tag body)

def recvParsed (parsed : Tpdu.RTpdu) : Act Error CiTransport (Option TransportRecv) := do
  let slotId := parsed.slotId
  modifySlot slotId ({ · with dataPending := parsed.dataIndicator })
  if parsed.tag = .ctcReply then
    pure (some (.tcReply slotId))
  else if parsed.tag = .dataMore ∨ parsed.tag = .dataLast then do
    let slot ← slotAt slotId
    if slot.rxBuffer.length + parsed.body.length > Tpdu.maxTpduSize then do
      modifySlot slotId ({ · with rxBuffer := [] })
      pure (some (.malformed slotId s!"ca slot {slotId}: tpdu reassembly buffer overflow"))
    else do
      modifySlot slotId ({ · with rxBuffer := slot.rxBuffer ++ parsed.body })
      if parsed.tag = .dataMore ∨ slot.rxBuffer ++ parsed.body = [] then
        pure (some (.status slotId))
      else do
        modifySlot slotId ({ · with rxBuffer := [] })
        pure (some (.spdu slotId (slot.rxBuffer ++ parsed.body)))
  else if parsed.tag = .sb then
    pure (some (.status slotId))
  else
    pure (some (.malformed slotId s!"ca slot {slotId}: unexpected tpdu tag {parsed.tag.debug}"))

def recvFrame (frame : Bytes) : Act Error CiTransport (Option TransportRecv) := do
  if frame.length = 0 then
    fail (.io .unexpectedEof "ca link closed (zero-length read)")
  else do
    note (.read frame)
    let slotsNum := (← get).slotsNum
    let frameSlot := Tpdu.frameSlotId frame slotsNum
    match frameSlot with
    | some slotId => modifySlot slotId ({ · with busy := false })
    | none => pure ()
    match ← lift (Tpdu.parse frame slotsNum).attempt with
    | .ok parsed => recvParsed parsed
    | .error (.invalidData context) =>
        match frameSlot with
        | some slotId => pure (some (.malformed slotId context))
        | none => fail (.invalidData context)
    | .error e => fail e

def recvApdu : Act Error CiTransport (Option TransportRecv) := do
  match ← attempt (zoom linkLens (CaDevice.recvMsg Tpdu.maxTpduSize)) with
  | .ok none => do
      note .noFrame
      pure none
  | .ok (some frame) => recvFrame frame
  | .error e => do
      note (.readFailed e)
      fail e

def isBusy (t : CiTransport) (slotId : UInt8) : Bool :=
  match t.slots[slotId.toNat]? with
  | some slot => slot.busy
  | none => false

def queueLen (t : CiTransport) (slotId : UInt8) : Nat :=
  match t.slots[slotId.toNat]? with
  | some slot => slot.queue.length
  | none => 0

def takeDataPending (slotId : UInt8) : Act Error CiTransport Bool := do
  match (← get).slots[slotId.toNat]? with
  | some slot => do
      modifySlot slotId ({ · with dataPending := false })
      note (.taken slotId)
      pure slot.dataPending
  | none => pure false

def clearSlot (slotId : UInt8) : Act Error CiTransport Unit := do
  match (← get).slots[slotId.toNat]? with
  | some _ => do
      modifySlot slotId fun _ => {}
      note (.cleared slotId)
  | none => pure ()

end CiTransport

end LibDvb
