import LibDvb.Ca.Resource.Registry

namespace LibDvb

def maxSlotSessions : Nat := 16

inductive SessionState where
  | active
  | closing
  deriving DecidableEq, Repr

structure Session where
  slotId : UInt8
  resourceId : ResourceId
  state : SessionState
  deriving DecidableEq, Repr

structure CiSession where
  transport : CiTransport
  resources : ResourceRegistry := {}
  sessions : List (Option Session) := []
  events : List CaEvent := []

namespace CiSession

open Act Outcome

def new (transport : CiTransport) : CiSession where
  transport

def transportLens : Lens CiSession CiTransport where
  get s := s.transport
  set transport s := { s with transport }

def note (obs : Obs) : Act Error CiSession Unit :=
  zoom transportLens (CiTransport.note obs)

def pushEvent (event : CaEvent) : Act Error CiSession Unit :=
  modify fun s => { s with events := s.events ++ [event] }

def nextEvent : Act Error CiSession (Option CaEvent) := do
  match (← get).events with
  | [] => pure none
  | event :: rest => do
      modify ({ · with events := rest })
      pure (some event)

def sendSpdu (slotId : UInt8) (spdu : Bytes) : Act Error CiSession Unit :=
  zoom transportLens (CiTransport.sendSpdu slotId spdu)

def sendApdu (slotId : UInt8) (sessionId : UInt16) (tag : ApduTag) (body : Bytes) :
    Act Error CiSession Unit :=
  zoom transportLens (CiTransport.sendApdu slotId sessionId tag body)

def sessionIdOf (index : Nat) : UInt16 := UInt16.ofNat (index + 1)

def session (s : CiSession) (sessionId : UInt16) : Option Session :=
  if sessionId = 0 then none else (s.sessions[sessionId.toNat - 1]?).join

def putSession (index : Nat) (session : Option Session) (s : CiSession) : CiSession :=
  { s with sessions := s.sessions.set index session }

def isSession (s : CiSession) (slotId : UInt8) (sessionId : UInt16) (resourceId : ResourceId) :
    Bool :=
  match s.session sessionId with
  | some session =>
      session.slotId = slotId && session.resourceId.base = resourceId.base &&
        session.state = .active
  | none => false

def sessionIds (s : CiSession) : List UInt16 := (List.range s.sessions.length).map sessionIdOf

def appInfo (s : CiSession) (slotId : UInt8) : Option ApplicationInfo :=
  s.resources.applicationInfo.info slotId

def sessionCaids (s : CiSession) (slotId : UInt8) (sessionId : UInt16) : Option (List UInt16) :=
  if s.isSession slotId sessionId .conditionalAccessSupport then
    s.resources.conditionalAccess.sessionCaids slotId sessionId
  else
    none

def hasCaInfo (s : CiSession) (slotId : UInt8) : Bool :=
  s.sessionIds.any fun sessionId => (s.sessionCaids slotId sessionId).isSome

def caids (s : CiSession) (slotId : UInt8) : List UInt16 :=
  ((s.sessionIds.flatMap fun sessionId => (s.sessionCaids slotId sessionId).getD []).mergeSort
    fun a b => decide (a ≤ b)).dedup

def findSession (slotId : UInt8) (resourceId : ResourceId) : Act Error CiSession UInt16 := do
  let s ← get
  match s.sessionIds.find? fun sessionId => s.isSession slotId sessionId resourceId with
  | some sessionId => pure sessionId
  | none => fail (.invalidProperty s!"ca slot {slotId}: no open {resourceId.debug} session")

def requireSession (slotId : UInt8) (sessionId : UInt16) (resourceId : ResourceId) :
    Act Error CiSession Unit := do
  if (← get).isSession slotId sessionId resourceId then
    pure ()
  else
    fail (.invalidProperty
      s!"ca slot {slotId}: no active {resourceId.debug} session {sessionId}")

def inUse (s : CiSession) (slotId : UInt8) : Nat :=
  s.sessions.countP fun entry =>
    match entry with
    | some session => session.slotId = slotId
    | none => false

def allocSession (slotId : UInt8) (resourceId : ResourceId) :
    Act Error CiSession (Option UInt16) := do
  let s ← get
  if s.inUse slotId ≥ maxSlotSessions then
    pure none
  else do
    let index := s.sessions.findIdx Option.isNone
    if index = s.sessions.length then
      modify fun s => { s with sessions := s.sessions ++ [none] }
    modify (putSession index (some { slotId, resourceId, state := .active }))
    pure (some (sessionIdOf index))

def freeSession (sessionId : UInt16) : Act Error CiSession Unit := do
  match (← get).session sessionId with
  | none => pure ()
  | some session => do
      modify (putSession (sessionId.toNat - 1) none)
      match ResourceKind.lookup session.resourceId with
      | some kind =>
          modify fun s => { s with resources := s.resources.onClose sessionId kind }
      | none => pure ()
      pushEvent (.sessionClosed session.slotId sessionId session.resourceId)

-- Runs a resource callback on the transport and the event queue of the session layer and returns
-- its result with the `close_session` flag of its context.
def runCallback (slotId : UInt8) (sessionId : UInt16)
    (m : Act Error (ResourceContext ResourceRegistry) Unit) :
    Act Error CiSession (Except Error Unit × Bool) := fun s =>
  let context : ResourceContext ResourceRegistry :=
    { self := s.resources
      transport := { s.transport with callback := true }
      events := s.events
      slotId
      sessionId }
  let (result, ctx) := m context
  (do .ok (← result.attempt, ctx.closeSession),
    { s with
      transport := { ctx.transport with callback := false }
      resources := ctx.self
      events := ctx.events })

def resourceResult (slotId : UInt8) (result : Except Error Unit) : Act Error CiSession Unit :=
  match result with
  | .ok () => pure ()
  | .error (.invalidData context) => pushEvent (.malformed slotId context)
  | .error e => fail e

def openSession (slotId : UInt8) (resourceId : ResourceId) : Act Error CiSession Unit := do
  let available := (ResourceKind.lookup resourceId).map ResourceKind.resourceId
  let responseResourceId := available.getD resourceId
  let (status, sessionId) ←
    match available with
    | none => pure (Spdu.ssNotAllocated, 0)
    | some available =>
        if resourceId.version > available.version then
          pure (Spdu.ssLowerVersion, 0)
        else do
          match ← allocSession slotId available with
          | some allocated => pure (Spdu.ssOk, allocated)
          | none => pure (Spdu.ssBusy, 0)
  sendSpdu slotId (Spdu.buildOpenSessionResponse status responseResourceId sessionId)
  if status ≠ Spdu.ssOk then
    pushEvent (.sessionRefused slotId resourceId status)
  else do
    note (.opened slotId sessionId)
    pushEvent (.sessionOpened slotId sessionId responseResourceId)
    let kind ← lift (expect (ResourceKind.lookup responseResourceId))
    let (result, _) ← runCallback slotId sessionId (ResourceRegistry.onOpen kind)
    resourceResult slotId result

def requestClose (slotId : UInt8) (sessionId : UInt16) : Act Error CiSession Unit := do
  match (← get).session sessionId with
  | some session =>
      if session.slotId = slotId ∧ session.state = .active then do
        modify (putSession (sessionId.toNat - 1) (some { session with state := .closing }))
        sendSpdu slotId (Spdu.buildCloseSessionRequest sessionId)
      else
        pure ()
  | none => pure ()

-- The loop over the objects of one session_number SPDU; the length of the bytes left bounds it.
def dispatchItems (slotId : UInt8) (sessionId : UInt16) (kind : ResourceKind) :
    Nat → Bytes → Bool → Act Error CiSession Bool
  | 0, _, _ => fault
  | fuel + 1, data, closeSession => do
      match ← lift (Apdu.next data) with
      | none => pure closeSession
      | some (.ok item, rest) => do
          let (result, close) ←
            runCallback slotId sessionId (ResourceRegistry.onApdu kind item.tag item.body)
          resourceResult slotId result
          dispatchItems slotId sessionId kind fuel rest (closeSession || close)
      | some (.error (.invalidData context), _) => do
          pushEvent (.malformed slotId context)
          pure closeSession
      | some (.error e, _) => fail e

def dispatchApdu (slotId : UInt8) (sessionId : UInt16) (data : Bytes) : Act Error CiSession Unit := do
  match (← get).session sessionId with
  | some session =>
      if session.slotId = slotId then do
        let kind ← lift (expect (ResourceKind.lookup session.resourceId))
        let closeSession ← dispatchItems slotId sessionId kind (data.length + 1) data false
        if closeSession then
          requestClose slotId sessionId
      else
        pushEvent (.malformed slotId s!"ca slot {slotId}: apdu on unknown session {sessionId}")
  | none =>
      pushEvent (.malformed slotId s!"ca slot {slotId}: apdu on unknown session {sessionId}")

def closeSession (slotId : UInt8) (sessionId : UInt16) : Act Error CiSession Unit := do
  let known :=
    match (← get).session sessionId with
    | some session => decide (session.slotId = slotId)
    | none => false
  let status := if known then Spdu.ssOk else Spdu.ssNotAllocated
  sendSpdu slotId (Spdu.buildCloseSessionResponse status sessionId)
  if known then
    freeSession sessionId
  else
    pushEvent (.malformed slotId
      s!"ca slot {slotId}: close request for unknown session {sessionId}")

def closeSessionComplete (slotId : UInt8) (sessionId : UInt16) (status : UInt8) :
    Act Error CiSession Unit := do
  match (← get).session sessionId with
  | some session =>
      if session.slotId = slotId ∧ session.state = .closing then
        if status = Spdu.ssOk ∨ status = Spdu.ssNotAllocated then
          freeSession sessionId
        else do
          let index ← lift (subU16 sessionId 1)
          modify (putSession index.toNat (some { session with state := .active }))
          pushEvent (.malformed slotId
            (s!"ca slot {slotId}: invalid close response status 0x{hexUpper 2 status.toNat} for " ++
              s!"session {sessionId}"))
      else
        pushEvent (.malformed slotId
          s!"ca slot {slotId}: unexpected close response for session {sessionId}")
  | none =>
      pushEvent (.malformed slotId
        s!"ca slot {slotId}: unexpected close response for session {sessionId}")

def dispatchSpdu (slotId : UInt8) (data : Bytes) : Act Error CiSession Unit := do
  match ← lift (Spdu.parse data).attempt with
  | .ok (.sessionNumber sessionId apdu) => dispatchApdu slotId sessionId apdu
  | .ok (.openSessionRequest resourceId) => openSession slotId resourceId
  | .ok (.closeSessionRequest sessionId) => closeSession slotId sessionId
  | .ok (.closeSessionResponse status sessionId) => closeSessionComplete slotId sessionId status
  | .ok (.createSessionResponse _ _ _) =>
      pushEvent (.malformed slotId s!"ca slot {slotId}: unexpected create_session_response")
  | .error (.invalidData context) => pushEvent (.malformed slotId context)
  | .error e => fail e

def dispatchRecv (acceptSpdu : UInt8 → Bool) (recv : TransportRecv) : Act Error CiSession Unit :=
  match recv with
  | .tcReply slotId => pushEvent (.transportReady slotId)
  | .spdu slotId spdu =>
      if acceptSpdu slotId then do
        note (.dispatched slotId spdu)
        dispatchSpdu slotId spdu
      else
        pushEvent (.malformed slotId
          s!"ca slot {slotId}: session data before the transport connection is active")
  | .status _ => pure ()
  | .malformed slotId context => pushEvent (.malformed slotId context)

def recvFiltered (acceptSpdu : UInt8 → Bool) : Act Error CiSession (Option UInt8) := do
  match ← zoom transportLens CiTransport.recvApdu with
  | none => pure none
  | some recv => do
      dispatchRecv acceptSpdu recv
      zoom transportLens (CiTransport.flush recv.slotId)
      pure (some recv.slotId)

def recvController (activeSlots : List Bool) : Act Error CiSession (Option UInt8) :=
  recvFiltered fun slotId => activeSlots[slotId.toNat]?.getD false

def timerLens : Lens CiSession DateTimeResource.Timer where
  get s := { self := s.resources.dateTime, transport := s.transport }
  set timer s :=
    { s with
      transport := timer.transport
      resources := { s.resources with dateTime := timer.self } }

-- Of the host resources only date-time overrides `on_tick`.
def tickAt (now : Instant) : Act Error CiSession Unit :=
  zoom timerLens (DateTimeResource.onTick now)

def dropSlot (slotId : UInt8) : Act Error CiSession Unit := do
  zoom transportLens (CiTransport.clearSlot slotId)
  forEach (List.range (← get).sessions.length) fun index => do
    match ((← get).sessions[index]?).join with
    | some session => if session.slotId = slotId then freeSession (sessionIdOf index) else pure ()
    | none => pure ()

def updateLens : Lens CiSession ConditionalAccessResource.Update where
  get s := { self := s.resources.conditionalAccess, transport := s.transport }
  set update s :=
    { s with
      transport := update.transport
      resources := { s.resources with conditionalAccess := update.self } }

def setProgram (program : Program) : Act Error CiSession (List UInt8) :=
  zoom updateLens (ConditionalAccessResource.setProgram program)

def removeProgram (programNumber : UInt16) : Act Error CiSession (List UInt8) :=
  zoom updateLens (ConditionalAccessResource.removeProgram programNumber)

def enterMenu (slotId : UInt8) : Act Error CiSession Unit := do
  let s ← get
  let confirmedSession :=
    (s.resources.applicationInfo.infoSession slotId).map Prod.fst |>.filter fun sessionId =>
      s.isSession slotId sessionId .applicationInformation
  let sessionId ←
    match confirmedSession with
    | some sessionId => pure sessionId
    | none => findSession slotId .applicationInformation
  sendApdu slotId sessionId .enterMenu []

def mmiMenuAnswer (slotId : UInt8) (sessionId : UInt16) (choice : UInt8) :
    Act Error CiSession Unit := do
  requireSession slotId sessionId .mmi
  sendApdu slotId sessionId .menuAnsw [choice]

def mmiListClose (slotId : UInt8) (sessionId : UInt16) : Act Error CiSession Unit :=
  mmiMenuAnswer slotId sessionId 0

def mmiAnswer (slotId : UInt8) (sessionId : UInt16) (answer : Option Bytes) :
    Act Error CiSession Unit := do
  requireSession slotId sessionId .mmi
  sendApdu slotId sessionId .answ (MmiResource.buildAnsw answer)

def mmiClose (slotId : UInt8) (sessionId : UInt16) : Act Error CiSession Unit := do
  requireSession slotId sessionId .mmi
  sendApdu slotId sessionId .closeMmi MmiResource.buildClose

def askRelease (slotId : UInt8) : Act Error CiSession Unit := do
  let sessionId ← findSession slotId .hostControl
  sendApdu slotId sessionId .askRelease []

end CiSession

end LibDvb
