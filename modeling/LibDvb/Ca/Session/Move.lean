import LibDvb.Basis.Table
import LibDvb.Ca.Resource.Selection
import LibDvb.Ca.Session
import LibDvb.Ca.Transport.Move

namespace LibDvb

open Relation

-- What the session layer lets the transport do on its own: it queues frames for the slots in `A`,
-- reads and clears the slots in `V`, and writes nothing after a failed write.
def Obs.Quiet (A V : UInt8 → Prop) (trace : List Obs) : Obs → Prop
  | .queued slotId _ => A slotId
  | .wrote slotId _ _ _ => pending trace = false ∧ (A slotId ∨ V slotId)
  | .read frame => ∀ slotId, frame.head? = some slotId → V slotId
  | .cleared slotId => V slotId
  | .taken slotId => V slotId
  | .apdu slotId _ tag _ => A slotId ∧ tag ≠ .caPmt
  | .dispatched slotId _ => A slotId
  | .readFailed _ => True
  | .noFrame => True
  | _ => False

def SendsPmt (slotId : UInt8) (sessionId : UInt16) (trace : List Obs) (obs : Obs) : Prop :=
  Sends True slotId trace obs ∨ ∃ body, obs = .apdu slotId sessionId .caPmt body

structure PmtPath (slotId : UInt8) (sessionId : UInt16) (bodies : List Bytes)
    (t t' : CiTransport) : Prop where
  path : ReflTransGen (CiTransport.Step (SendsPmt slotId sessionId)) t t'
  acts : caActs t'.trace = caActs t.trace ++ bodies.map (CaAct.pmt sessionId)

namespace ResourceRegistry

def opened (r : ResourceRegistry) (kind : ResourceKind) (slotId : UInt8) (sessionId : UInt16) :
    ResourceRegistry :=
  match kind with
  | .applicationInfo =>
      { r with
        applicationInfo :=
          { r.applicationInfo with
            sessions := r.applicationInfo.sessions.insert sessionId { slotId } } }
  | .conditionalAccess =>
      { r with
        conditionalAccess :=
          { r.conditionalAccess with
            sessions := r.conditionalAccess.sessions.insert sessionId { slotId } } }
  | .dateTime =>
      { r with dateTime := { sessions := r.dateTime.sessions.insert sessionId { slotId } } }
  | _ => r

def informed (r : ResourceRegistry) (sessionId : UInt16) (session : ApplicationInfoSession)
    (info : ApplicationInfo) : ResourceRegistry :=
  let revision := min (r.applicationInfo.revision + 1) u64Max
  { r with
    applicationInfo :=
      { sessions :=
          r.applicationInfo.sessions.insert sessionId { session with info := some info, revision }
        revision } }

def putCa (r : ResourceRegistry) (sessionId : UInt16) (session : ConditionalAccessSession) :
    ResourceRegistry :=
  { r with
    conditionalAccess :=
      { r.conditionalAccess with
        sessions := r.conditionalAccess.sessions.insert sessionId session } }

def putFragment (r : ResourceRegistry) (sessionId : UInt16) (fragment : Option Bytes) :
    ResourceRegistry :=
  { r with
    mmi :=
      { fragments :=
          match fragment with
          | some object => r.mmi.fragments.insert sessionId object
          | none => r.mmi.fragments.erase sessionId } }

def recordSlot (r : ResourceRegistry) (sessionId : UInt16) : ResourceKind → Option UInt8
  | .applicationInfo =>
      r.applicationInfo.sessions[sessionId]?.map ApplicationInfoSession.slotId
  | .conditionalAccess =>
      r.conditionalAccess.sessions[sessionId]?.map ConditionalAccessSession.slotId
  | .dateTime => r.dateTime.sessions[sessionId]?.map DateTimeSession.slotId
  | _ => none

end ResourceRegistry

namespace CiSession

def on (s : CiSession) (t : CiTransport) : CiSession :=
  { s with transport := { t with callback := false } }

def entry (s : CiSession) (index : Nat) : Option Session := Table.entry s.sessions index

def freshIndex (s : CiSession) : Nat := Table.firstFree s.sessions

def allocated (s : CiSession) (slotId : UInt8) (kind : ResourceKind) : CiSession :=
  { s with
    sessions := Table.place s.sessions s.freshIndex
      { slotId, resourceId := kind.resourceId, state := .active } }

def opened (s : CiSession) (slotId : UInt8) (kind : ResourceKind) (t : CiTransport) : CiSession :=
  let sessionId := sessionIdOf s.freshIndex
  { s.allocated slotId kind with
    transport := { t with trace := t.trace ++ [.opened slotId sessionId] }
    resources := s.resources.opened kind slotId sessionId
    events := s.events ++ [.sessionOpened slotId sessionId kind.resourceId] }

def freed (s : CiSession) (index : Nat) (session : Session) : CiSession :=
  let sessionId := sessionIdOf index
  { s with
    sessions := s.sessions.set index none
    resources :=
      match ResourceKind.lookup session.resourceId with
      | some kind => s.resources.onClose sessionId kind
      | none => s.resources
    events := s.events ++ [.sessionClosed session.slotId sessionId session.resourceId] }

def turned (s : CiSession) (index : Nat) (session : Session) (state : SessionState) : CiSession :=
  { s with sessions := s.sessions.set index (some { session with state }) }

def Fits (s : CiSession) : Prop := s.resources.conditionalAccess.Fits

-- One thing the session layer does: it works on the slots in `A` and takes notice of those in `V`.
inductive Move (A V : UInt8 → Prop) (s : CiSession) : CiSession → Prop
  | link {callback obs t} (move : CiTransport.Move obs { s.transport with callback } t)
      (quiet : obs.Quiet A V s.transport.trace) : Move A V s (s.on t)
  | event {e : CaEvent} (plain : e.Plain) (slot : V e.slotId) :
      Move A V s { s with events := s.events ++ [e] }
  | opened {slotId kind t} (slot : A slotId) (notice : V slotId)
      (bound : slotId.toNat < s.transport.slots.length)
      (count : s.inUse slotId < maxSlotSessions)
      (path : ReflTransGen (CiTransport.Step (Sends True slotId)) s.transport t)
      (whole : pending t.trace = false) : Move A V s (s.opened slotId kind t)
  | openFailed {slotId kind t} (slot : A slotId) (bound : slotId.toNat < s.transport.slots.length)
      (count : s.inUse slotId < maxSlotSessions)
      (path : ReflTransGen (CiTransport.Step (Sends True slotId)) s.transport t)
      (broken : pending t.trace = true) : Move A V s ((s.allocated slotId kind).on t)
  | closed {index session} (live : s.entry index = some session) (slot : V session.slotId) :
      Move A V s (s.freed index session)
  | turned {index session} (state : SessionState) (live : s.entry index = some session)
      (mmi : session.resourceId = .mmi) (slot : V session.slotId) :
      Move A V s (s.turned index session state)
  | appInfo {sessionId session} (info : ApplicationInfo)
      (known : s.resources.applicationInfo.sessions[sessionId]? = some session)
      (slot : V session.slotId) :
      Move A V s
        { s with
          resources := s.resources.informed sessionId session info
          events := s.events ++ [.applicationInfo session.slotId info] }
  | caInfo {sessionId session caids t}
      (known : s.resources.conditionalAccess.sessions[sessionId]? = some session)
      (slot : A session.slotId) (notice : V session.slotId)
      (path : PmtPath session.slotId sessionId
        (ConditionalAccessResource.infoPlan s.resources.conditionalAccess.programs session caids).1
        { s.transport with callback := true } t)
      (whole : pending t.trace = false) :
      Move A V s
        { s.on t with
          resources := s.resources.putCa sessionId
            { session with
              caids := some caids
              selected := (ConditionalAccessResource.infoPlan
                s.resources.conditionalAccess.programs session caids).2 }
          events := s.events ++ [.caInfo session.slotId sessionId caids] }
  | caInfoFailed {sessionId session caids t bodies}
      (known : s.resources.conditionalAccess.sessions[sessionId]? = some session)
      (slot : A session.slotId)
      (path : PmtPath session.slotId sessionId bodies { s.transport with callback := true } t)
      (broken : pending t.trace = true ∨ masked t.trace = true ∨ ¬ s.Fits) :
      Move A V s
        { s.on t with
          resources := s.resources.putCa sessionId
            { session with caids := some caids, selected := ∅ } }
  | dateTime {self : DateTimeResource}
      (keys : ∀ sessionId : UInt16, self.sessions[sessionId]?.map DateTimeSession.slotId =
        s.resources.dateTime.sessions[sessionId]?.map DateTimeSession.slotId)
      (others : ∀ (sessionId : UInt16) session,
        s.resources.dateTime.sessions[sessionId]? = some session → ¬ A session.slotId →
          self.sessions[sessionId]? = some session) :
      Move A V s { s with resources := { s.resources with dateTime := self } }
  | mmi {index session} (fragment : Option Bytes) (live : s.entry index = some session)
      (mmi : session.resourceId = .mmi) (slot : V session.slotId) :
      Move A V s { s with resources := s.resources.putFragment (sessionIdOf index) fragment }

def Path (A V : UInt8 → Prop) : CiSession → CiSession → Prop := ReflTransGen (Move A V)

def changed (s : CiSession) (change : CaPmtChange) (t : CiTransport)
    (sessions : KeyMap ConditionalAccessSession) : CiSession :=
  { s.on t with
    resources :=
      { s.resources with
        conditionalAccess :=
          { programs := ConditionalAccessResource.applyChange
              s.resources.conditionalAccess.programs change
            sessions } } }

def SendsPmts (s : CiSession) (trace : List Obs) (obs : Obs) : Prop :=
  ∃ (sessionId : UInt16) (session : ConditionalAccessSession),
    s.resources.conditionalAccess.sessions[sessionId]? = some session ∧
      SendsPmt session.slotId sessionId trace obs

inductive Programmed (s : CiSession) (change : CaPmtChange) : CiSession → Prop
  | idle (same : ConditionalAccessResource.applyChange s.resources.conditionalAccess.programs
      change = s.resources.conditionalAccess.programs) : Programmed s change s
  | done {t} {sessions : KeyMap ConditionalAccessSession}
      (records : ∀ sessionId : UInt16, sessions[sessionId]? =
        s.resources.conditionalAccess.sessions[sessionId]?.map fun session =>
          { session with selected := (ConditionalAccessResource.changePlan session change).2 })
      (path : ReflTransGen (CiTransport.Step s.SendsPmts) s.transport t)
      (acts : caActs t.trace = caActs s.transport.trace ++
        s.resources.conditionalAccess.sessions.toList.flatMap fun (sessionId, session) =>
          (ConditionalAccessResource.changePlan session change).1.map (CaAct.pmt sessionId))
      (whole : pending t.trace = false) : Programmed s change (s.changed change t sessions)
  | failed {t} {sessions : KeyMap ConditionalAccessSession} {reached : UInt16 → Bool}
      (records : ∀ sessionId : UInt16, sessions[sessionId]? =
        s.resources.conditionalAccess.sessions[sessionId]?.map fun session =>
          { session with
            selected :=
              if reached sessionId then (ConditionalAccessResource.changePlan session change).2
              else session.selected })
      (path : ReflTransGen (CiTransport.Step s.SendsPmts) s.transport t)
      (broken : pending t.trace = true ∨ ¬ s.Fits ∨ ¬ change.Fits) :
      Programmed s change (s.changed change t sessions)

end CiSession

end LibDvb
