import LibDvb.Ca.Pacer
import LibDvb.Ca.Session

namespace LibDvb

structure CiControllerConfig where
  slotStatusInterval : Duration := Duration.fromMillis 250
  transportPollInterval : Duration := Duration.fromMillis 100
  createTcTimeout : Duration := Duration.fromSecs 2
  responseTimeout : Duration := Duration.fromSecs 2
  retryInterval : Duration := Duration.fromSecs 1
  caPmtInterval : Duration := Duration.fromSecs 20
  caPmtSettle : Duration := Duration.fromSecs 10
  deriving DecidableEq, Repr

structure ControllerSlot where
  status : CaSlotStatus := .absent
  camStatus : CamStatus := .none
  present : Bool := false
  ready : Bool := false
  createSince : Option Instant := none
  commandSince : Option Instant := none
  receivePending : Bool := false
  nextPoll : Option Instant := none
  retryAt : Option Instant := none
  deriving DecidableEq, Repr

structure CiController where
  session : CiSession
  slots : List ControllerSlot
  events : List CaEvent := []
  config : CiControllerConfig
  pacer : CaPmtPacer
  nextStatusCheck : Option Instant := none
  lastTick : Option Instant := none
  linkSuspended : Bool := false
  recoveryAt : Option Instant := none
  deferredLinkFailure : Bool := false

def isLinkError : Error → Bool
  | .io _ _ => true
  | .nix _ => true
  | .invalidData context => context = "ca link frame short write"
  | .invalidProperty _ => false

def deadline (now : Instant) (duration : Duration) : Instant :=
  (now.checkedAdd duration).getD now

-- `now.saturating_duration_since(since) >= timeout`
def elapsed (since now : Instant) (timeout : Duration) : Bool := timeout ≤ now - since

namespace CiController

open Act Outcome

def sessionLens : Lens CiController CiSession where
  get c := c.session
  set session c := { c with session }

def transportLens : Lens CiController CiTransport where
  get c := c.session.transport
  set transport c := { c with session := { c.session with transport } }

def linkLens : Lens CiController CaDevice where
  get c := c.session.transport.link
  set link c := { c with session := { c.session with transport := { c.session.transport with link } } }

def note (obs : Obs) : Act Error CiController Unit :=
  zoom transportLens (CiTransport.note obs)

def fromParts (session : CiSession) (config : CiControllerConfig) : CiController where
  session
  slots := List.replicate session.transport.slotsNum.toNat {}
  config
  pacer := { interval := config.caPmtInterval, settle := config.caPmtSettle }

def withConfig (config : CiControllerConfig) : Act Error CaDevice CiController := do
  let caps ← CaDevice.readCaps
  if caps.slotNum = 0 then
    fail (.invalidProperty "ca device has no module slots")
  else if caps.slotNum.toNat > 255 then
    fail (.invalidProperty s!"ca device has too many module slots: {caps.slotNum}")
  else if caps.slotType &&& caCiLink = 0 then
    fail (.invalidProperty ("ca device does not support the CI link interface: " ++
      s!"0x{hexUpper 1 caps.slotType.toNat}"))
  else do
    CaDevice.reset
    let session := CiSession.new (CiTransport.new (← get) caps.slotNum.toUInt8)
    pure (fromParts session config)

def slotsNum (c : CiController) : UInt8 := UInt8.ofNat c.slots.length

-- `0 .. self.slots_num()`
def slotIds (c : CiController) : List UInt8 := (List.range c.slotsNum.toNat).map UInt8.ofNat

def slotAt (slotId : UInt8) : Act Error CiController ControllerSlot := do
  lift (index (← get).slots slotId.toNat)

def modifySlot (slotId : UInt8) (f : ControllerSlot → ControllerSlot) :
    Act Error CiController Unit := do
  let _ ← slotAt slotId
  modify fun c => { c with slots := c.slots.modify slotId.toNat f }

def pushEvent (event : CaEvent) : Act Error CiController Unit :=
  modify fun c => { c with events := c.events ++ [event] }

def popEvent : Act Error CiController (Option CaEvent) := do
  match (← get).events with
  | [] => pure none
  | event :: rest => do
      modify ({ · with events := rest })
      pure (some event)

def status (slotId : UInt8) : Act Error CiController CaSlotStatus := do
  match (← get).slots[slotId.toNat]? with
  | some slot => pure slot.status
  | none => fail (.invalidProperty s!"ca invalid slot id {slotId}")

def isActive (c : CiController) (slotId : UInt8) : Bool :=
  match c.slots[slotId.toNat]? with
  | some slot => slot.status = .active
  | none => false

def setSlotStatus (slotId : UInt8) (new : CaSlotStatus) : Act Error CiController Unit := do
  let old := (← slotAt slotId).status
  modifySlot slotId ({ · with status := new })
  if old ≠ new then
    pushEvent (.slotStatusChanged slotId old new)

def setCamStatus (slotId : UInt8) (new : CamStatus) : Act Error CiController Unit := do
  let old := (← slotAt slotId).camStatus
  modifySlot slotId ({ · with camStatus := new })
  if old ≠ new then
    pushEvent (.camStatusChanged slotId old new)

def clearSlotTimers (slotId : UInt8) : Act Error CiController Unit :=
  modifySlot slotId fun slot =>
    { slot with
      createSince := none
      commandSince := none
      receivePending := false
      nextPoll := none
      retryAt := none }

def camStatusOf (active applicationInfo caInfo : Bool) : CamStatus :=
  match active, applicationInfo, caInfo with
  | false, _, _ => .none
  | true, false, false => .none
  | true, true, false => .applicationInfo
  | true, false, true => .caInfo
  | true, true, true => .ready

def recomputeCamStatus (slotId : UInt8) : Act Error CiController Unit := do
  let c ← get
  setCamStatus slotId (camStatusOf (c.isActive slotId) (c.session.appInfo slotId).isSome
    (c.session.hasCaInfo slotId))

def collectEvent (event : CaEvent) : Act Error CiController Unit := do
  let c ← get
  match event with
  | .transportReady slotId =>
      if (c.slots[slotId.toNat]?.map ControllerSlot.status) = some .creatingTc then do
        modifySlot slotId ({ · with createSince := none, commandSince := none, nextPoll := none })
        setSlotStatus slotId .active
        note (.activated slotId)
        pushEvent (.transportReady slotId)
      else
        pushEvent (.malformed slotId s!"ca slot {slotId}: unexpected transport connection reply")
  | .applicationInfo slotId info =>
      if c.isActive slotId then do
        match c.lastTick with
        | some now => modify fun c => { c with pacer := c.pacer.armApplicationInfo now }
        | none => pure ()
        recomputeCamStatus slotId
        pushEvent (.applicationInfo slotId info)
      else
        pushEvent (.malformed slotId
          s!"ca slot {slotId}: application information on an inactive slot")
  | .caInfo slotId sessionId caids =>
      if c.isActive slotId then do
        match c.lastTick with
        | some now =>
            if caids ≠ [] then
              modify fun c => { c with pacer := c.pacer.armCaInfo now }
        | none => pure ()
        recomputeCamStatus slotId
        pushEvent (.caInfo slotId sessionId caids)
      else
        pushEvent (.malformed slotId
          s!"ca slot {slotId}: conditional access information on an inactive slot")
  | .sessionClosed slotId sessionId resourceId => do
      if resourceId.base = ResourceId.applicationInformation.base ∨
          resourceId.base = ResourceId.conditionalAccessSupport.base then
        recomputeCamStatus slotId
      pushEvent (.sessionClosed slotId sessionId resourceId)
  | event => pushEvent event

-- The `while let` loop over the events of the session layer. Collecting an event queues none
-- there, so their number bounds the turns.
def collectLoop : Nat → Act Error CiController Unit
  | 0 => fault
  | fuel + 1 => do
      match ← zoom sessionLens CiSession.nextEvent with
      | none => pure ()
      | some event => do
          collectEvent event
          collectLoop fuel

def collectSessionEvents : Act Error CiController Unit := do
  collectLoop ((← get).session.events.length + 1)

def dropSlot (slotId : UInt8) : Act Error CiController Unit :=
  zoom sessionLens (CiSession.dropSlot slotId)

def dropAllSlots : Act Error CiController Unit := do
  forEach (← get).slotIds fun slotId => do
    dropSlot slotId
    clearSlotTimers slotId
  collectSessionEvents

def ioReset : Act Error CiController (Except Error Unit) := do
  let result ← attempt (zoom linkLens CaDevice.reset)
  note (.reset result)
  pure result

def markResetFailed : Act Error CiController Unit := do
  forEach (← get).slotIds fun slotId => do
    if (← slotAt slotId).present then
      modifySlot slotId ({ · with retryAt := none })
      pushEvent (.slotFailed slotId .resetFailed)
      setSlotStatus slotId .failed

def reportFailure (failedSlot : Option UInt8) (reason : CaSlotFailure) :
    Act Error CiController Unit := do
  match failedSlot with
  | some slotId => pushEvent (.slotFailed slotId reason)
  | none =>
      forEach (← get).slotIds fun slotId => do
        if (← slotAt slotId).status ≠ .absent then
          pushEvent (.slotFailed slotId reason)

def recoverAll (failedSlot : Option UInt8) (reason : CaSlotFailure) (now : Instant) :
    Act Error CiController Unit := do
  reportFailure failedSlot reason
  dropAllSlots
  modify fun c => { c with pacer := c.pacer.resetGate }
  let resetResult ← ioReset
  let retryInterval := (← get).config.retryInterval
  let retryAt :=
    match resetResult with
    | .ok () => some (deadline now retryInterval)
    | .error _ => none
  modify ({ · with linkSuspended := true, recoveryAt := retryAt, deferredLinkFailure := false })
  forEach (← get).slotIds fun slotId => do
    modifySlot slotId ({ · with ready := false, retryAt })
    setCamStatus slotId .none
    setSlotStatus slotId (if (← slotAt slotId).present then .failed else .absent)
  modify fun c => { c with nextStatusCheck := c.recoveryAt }
  match resetResult with
  | .ok () => pure ()
  | .error e => do
      markResetFailed
      fail e

def reset : Act Error CiController Unit := do
  collectSessionEvents
  dropAllSlots
  modify fun c => { c with pacer := c.pacer.resetGate, deferredLinkFailure := false }
  match ← ioReset with
  | .ok () => do
      forEach (← get).slotIds fun slotId => do
        let present := (← slotAt slotId).present
        modifySlot slotId ({ · with ready := false, retryAt := none })
        setCamStatus slotId .none
        setSlotStatus slotId (if present then .present else .absent)
      modify ({ · with nextStatusCheck := none, linkSuspended := false, recoveryAt := none,
                       deferredLinkFailure := false })
  | .error e => do
      modify ({ · with linkSuspended := true, recoveryAt := none })
      markResetFailed
      fail e

def markOutstanding (slotId : UInt8) (now : Instant) : Act Error CiController Unit := do
  let transport := (← get).session.transport
  let busy := transport.isBusy slotId
  let queued := transport.queueLen slotId ≠ 0
  let slot ← slotAt slotId
  if slot.status = .creatingTc ∧ busy ∧ slot.createSince = none then
    modifySlot slotId ({ · with createSince := some now, commandSince := none })
  else if slot.status = .creatingTc ∧ queued then
    modifySlot slotId fun slot => { slot with commandSince := some (slot.commandSince.getD now) }
  else if slot.status = .active ∧ (busy ∨ queued) then
    modifySlot slotId fun slot => { slot with commandSince := some (slot.commandSince.getD now) }

def flushReceivePending (slotId : UInt8) (now : Instant) : Act Error CiController Unit := do
  let slot ← slotAt slotId
  let transport := (← get).session.transport
  if slot.status ≠ .active ∨ !slot.receivePending ∨ transport.isBusy slotId ∨
      transport.queueLen slotId ≠ 0 then
    pure ()
  else do
    zoom transportLens (CiTransport.sendTpdu slotId .rcv [])
    modifySlot slotId ({ · with receivePending := false })
    markOutstanding slotId now

-- `if let Some(now) = self.event_time() { let _ = self.recover_all(..) }`
def recoverAtEventTime (failedSlot : Option UInt8) : Act Error CiController Unit := do
  match (← get).lastTick with
  | some now => do
      let _ ← attempt (recoverAll failedSlot .linkFailed now)
  | none => pure ()

def requireActive (slotId : UInt8) : Act Error CiController Unit := do
  let status ← status slotId
  if status = .active then
    pure ()
  else
    fail (.invalidProperty s!"ca slot {slotId} is not active ({status.debug})")

def finishSlotCommand (slotId : UInt8) (result : Except Error Unit) :
    Act Error CiController Unit := do
  match result with
  | .ok () =>
      match (← get).lastTick with
      | some now => markOutstanding slotId now
      | none => pure ()
  | .error e => do
      if isLinkError e then
        recoverAtEventTime (some slotId)
      fail e

def slotCommand (slotId : UInt8) (command : Act Error CiSession Unit) :
    Act Error CiController Unit := do
  requireActive slotId
  finishSlotCommand slotId (← attempt (zoom sessionLens command))

def enterMenu (slotId : UInt8) : Act Error CiController Unit :=
  slotCommand slotId (CiSession.enterMenu slotId)

def mmiMenuAnswer (slotId : UInt8) (sessionId : UInt16) (choice : UInt8) :
    Act Error CiController Unit :=
  slotCommand slotId (CiSession.mmiMenuAnswer slotId sessionId choice)

def mmiListClose (slotId : UInt8) (sessionId : UInt16) : Act Error CiController Unit :=
  slotCommand slotId (CiSession.mmiListClose slotId sessionId)

def mmiAnswer (slotId : UInt8) (sessionId : UInt16) (answer : Option Bytes) :
    Act Error CiController Unit :=
  slotCommand slotId (CiSession.mmiAnswer slotId sessionId answer)

def mmiClose (slotId : UInt8) (sessionId : UInt16) : Act Error CiController Unit :=
  slotCommand slotId (CiSession.mmiClose slotId sessionId)

def askRelease (slotId : UInt8) : Act Error CiController Unit :=
  slotCommand slotId (CiSession.askRelease slotId)

def finishProgramCommand (result : Except Error (List UInt8)) : Act Error CiController Unit := do
  match result with
  | .ok slotIds =>
      match (← get).lastTick with
      | some now => forEach slotIds fun slotId => markOutstanding slotId now
      | none => pure ()
  | .error e => do
      if isLinkError e then
        recoverAtEventTime none
      fail e

def pollPacer (now : Instant) : Act Error CiController (Option CaPmtChange) := do
  let (change, pacer) := (← get).pacer.poll now
  modify ({ · with pacer })
  pure change

def dispatchCaPmt (now : Instant) : Act Error CiController Unit := do
  match ← pollPacer now with
  | none => pure ()
  | some (.set program) => do
      finishProgramCommand (← attempt (zoom sessionLens (CiSession.setProgram program)))
  | some (.remove programNumber) => do
      finishProgramCommand (← attempt (zoom sessionLens (CiSession.removeProgram programNumber)))

def setProgram (lib : Mpegts) (pmtSection : Bytes) : Act Error CiController UInt16 := do
  let program ← lift (ofExcept (Program.parse lib pmtSection))
  modify fun c => { c with pacer := c.pacer.pushSet program }
  pure program.programNumber

def queueProgram (program : Program) : Act Error CiController Unit :=
  modify fun c => { c with pacer := c.pacer.pushSet program }

def removeProgram (programNumber : UInt16) : Act Error CiController Unit := do
  if programNumber = 0 then
    fail (.invalidProperty "CA program number must not be zero")
  else
    modify fun c => { c with pacer := c.pacer.pushRemove programNumber }

def setCaPmtInterval (interval : Duration) : Act Error CiController Unit :=
  modify fun c => { c with pacer := c.pacer.setInterval interval }

-- One turn of the loop of `poll_event`, after `recv_controller` returned `slot_id`.
def afterRecv (slotId : UInt8) : Act Error CiController Unit := do
  if (← slotAt slotId).status = .active then
    modifySlot slotId ({ · with commandSince := none })
  let dataPending ← zoom transportLens (CiTransport.takeDataPending slotId)
  collectSessionEvents
  if dataPending then
    if (← status slotId) = .active then
      modifySlot slotId ({ · with receivePending := true })
  match (← get).lastTick with
  | some now => do
      match ← attempt (flushReceivePending slotId now) with
      | .ok () => markOutstanding slotId now
      | .error e => do
          recoverAtEventTime (some slotId)
          fail e
  | none => pure ()

def recvController : Act Error CiController (Option UInt8) := do
  let activeSlots := (← get).slots.map fun slot => decide (slot.status = .active)
  zoom sessionLens (CiSession.recvController activeSlots)

def pollFailed (e : Error) : Act Error CiController (Option CaEvent) := do
  match (← get).lastTick with
  | some now => do
      let _ ← attempt (recoverAll none .linkFailed now)
  | none => modify ({ · with deferredLinkFailure := true })
  fail e

-- Every turn that goes on has taken a frame from the link.
def pollLoop : Nat → Act Error CiController (Option CaEvent)
  | 0 => fault
  | fuel + 1 => do
      match ← attempt recvController with
      | .ok none => popEvent
      | .error e => pollFailed e
      | .ok (some slotId) => do
          afterRecv slotId
          match ← popEvent with
          | some event => pure (some event)
          | none => pollLoop fuel

def pollEvent : Act Error CiController (Option CaEvent) := do
  collectSessionEvents
  match ← popEvent with
  | some event => pure (some event)
  | none => do
      let c ← get
      if c.linkSuspended then
        pure none
      else
        pollLoop (c.session.transport.link.reads.length + 1)

def dropTo (slotId : UInt8) (failure : Option CaSlotFailure) (new : CaSlotStatus) :
    Act Error CiController Unit := do
  dropSlot slotId
  collectSessionEvents
  clearSlotTimers slotId
  match failure with
  | some reason => pushEvent (.slotFailed slotId reason)
  | none => pure ()
  setCamStatus slotId .none
  setSlotStatus slotId new

def applySlotInfo (slotId : UInt8) (info : CaSlotInfo) : Act Error CiController Unit := do
  let present : Bool := (info.flags &&& (caCiModulePresent ||| caCiModuleReady)) ≠ 0
  let ready : Bool := (info.flags &&& caCiModuleReady) ≠ 0
  modifySlot slotId ({ · with present, ready })
  let slot ← slotAt slotId
  if !present then
    if slot.status ≠ .absent then
      dropTo slotId none .absent
  else if info.slotType &&& caCiLink = 0 then
    if slot.status ≠ .failed ∨ slot.retryAt.isSome then
      dropTo slotId (some (.unsupportedInterface info.slotType)) .failed
  else if slot.status = .absent then
    setSlotStatus slotId .present
  else if (slot.status = .creatingTc ∨ slot.status = .active) ∧ !ready then
    dropTo slotId none .present

def ioSlotInfo (slotId : UInt8) : Act Error CiController CaSlotInfo := do
  note (.slotInfo slotId)
  zoom linkLens (CaDevice.readSlotInfo slotId)

def slotInfos (now : Instant) : List UInt8 → Act Error CiController (List (UInt8 × CaSlotInfo))
  | [] => pure []
  | slotId :: rest => do
      match ← attempt (ioSlotInfo slotId) with
      | .ok info => do
          let infos ← slotInfos now rest
          pure ((slotId, info) :: infos)
      | .error e => do
          let _ ← attempt (recoverAll (some slotId) .slotInfoFailed now)
          fail e

def refreshSlotInfo (now : Instant) : Act Error CiController Unit := do
  let infos ← slotInfos now (← get).slotIds
  forEach infos fun (slotId, info) => applySlotInfo slotId info

def drivePresent (slotId : UInt8) (now : Instant) : Act Error CiController Unit := do
  if (← slotAt slotId).ready then
    zoom transportLens (CiTransport.sendTpdu slotId .createTc [])
    modifySlot slotId ({ · with receivePending := false })
    setSlotStatus slotId .creatingTc
    markOutstanding slotId now

def driveCreating (slotId : UInt8) (now : Instant) :
    Act Error CiController (Option CaSlotFailure) := do
  zoom transportLens (CiTransport.flush slotId)
  markOutstanding slotId now
  let slot ← slotAt slotId
  let config := (← get).config
  match slot.createSince, slot.commandSince with
  | none, some since =>
      pure (if elapsed since now config.responseTimeout then some .writeTimeout else none)
  | none, none => pure none
  | some since, _ =>
      pure (if elapsed since now config.createTcTimeout then some .createTcTimeout else none)

def driveActive (slotId : UInt8) (now : Instant) :
    Act Error CiController (Option CaSlotFailure) := do
  zoom transportLens (CiTransport.flush slotId)
  let transport := (← get).session.transport
  let config := (← get).config
  let busy := transport.isBusy slotId
  let queued := transport.queueLen slotId ≠ 0
  if busy ∨ queued then do
    let since := (← slotAt slotId).commandSince.getD now
    modifySlot slotId ({ · with commandSince := some since })
    if elapsed since now config.responseTimeout then
      pure (some (if busy then .responseTimeout else .writeTimeout))
    else
      pure none
  else do
    modifySlot slotId ({ · with commandSince := none })
    let slot ← slotAt slotId
    if slot.receivePending then do
      flushReceivePending slotId now
      pure none
    else do
      if slot.nextPoll.all fun nextPoll => nextPoll ≤ now then
        zoom transportLens (CiTransport.sendTpdu slotId .dataLast [])
        modifySlot slotId
          ({ · with commandSince := some now
                    nextPoll := some (deadline now config.transportPollInterval) })
      pure none

def driveSlot (slotId : UInt8) (now : Instant) : Act Error CiController (Option CaSlotFailure) := do
  let slot ← slotAt slotId
  if slot.status = .failed ∧ slot.retryAt.any fun retryAt => retryAt ≤ now then
    modifySlot slotId ({ · with retryAt := none })
    setSlotStatus slotId .present
  match (← slotAt slotId).status with
  | .absent => pure none
  | .failed => pure none
  | .present => do
      drivePresent slotId now
      pure none
  | .creatingTc => driveCreating slotId now
  | .active => driveActive slotId now

-- The loop of `tick` over the slots; a slot that gives up ends it after the recovery.
def driveSlots (now : Instant) : List UInt8 → Act Error CiController Unit
  | [] => pure ()
  | slotId :: rest => do
      match ← attempt (driveSlot slotId now) with
      | .ok none => driveSlots now rest
      | .ok (some reason) => recoverAll (some slotId) reason now
      | .error e => do
          let _ ← attempt (recoverAll (some slotId) .linkFailed now)
          fail e

def sessionTick (now : Instant) : Act Error CiController Unit := do
  match ← attempt (zoom sessionLens (CiSession.tickAt now)) with
  | .ok () => pure ()
  | .error e => do
      if isLinkError e then
        let _ ← attempt (recoverAll none .linkFailed now)
      fail e

-- The body of `tick` once the link is not suspended.
def tickLink (now : Instant) : Act Error CiController Unit := do
  if (← get).nextStatusCheck.all fun deadline => deadline ≤ now then
    refreshSlotInfo now
    modify fun c =>
      { c with nextStatusCheck := some (deadline now c.config.slotStatusInterval) }
  sessionTick now
  driveSlots now (← get).slotIds
  collectSessionEvents
  dispatchCaPmt now

def tick (now : Instant) : Act Error CiController Unit := do
  modify ({ · with lastTick := some now })
  collectSessionEvents
  if (← get).deferredLinkFailure then
    modify ({ · with deferredLinkFailure := false })
    recoverAll none .linkFailed now
  else if (← get).linkSuspended then
    if (← get).recoveryAt.any fun recoveryAt => recoveryAt ≤ now then
      modify ({ · with linkSuspended := false, recoveryAt := none })
      tickLink now
  else
    tickLink now

end CiController

end LibDvb
