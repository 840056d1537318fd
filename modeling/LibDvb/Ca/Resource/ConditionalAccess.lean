import LibDvb.Ca.Capmt
import LibDvb.Ca.Resource.Context

namespace LibDvb

structure ConditionalAccessSession where
  slotId : UInt8
  caids : Option (List UInt16) := none
  selected : KeyMap Program := ∅
  deriving DecidableEq

structure ConditionalAccessResource where
  sessions : KeyMap ConditionalAccessSession := ∅
  programs : KeyMap Program := ∅
  deriving DecidableEq

namespace ConditionalAccessResource

open Act Outcome ResourceContext

-- `&mut self` with the transport passed to `set_program` and `remove_program`, and the slots
-- touched so far.
structure Update where
  self : ConditionalAccessResource
  transport : CiTransport
  touchedSlots : List UInt8 := []

def Update.transportLens : Lens Update CiTransport where
  get u := u.transport
  set transport u := { u with transport }

def sessionCaids (self : ConditionalAccessResource) (slotId : UInt8) (sessionId : UInt16) :
    Option (List UInt16) :=
  match self.sessions[sessionId]? with
  | some session => if session.slotId = slotId then session.caids else none
  | none => none

def sendCaPmt (slotId : UInt8) (sessionId : UInt16) (body : Bytes) : Act Error Update Unit :=
  zoom Update.transportLens (CiTransport.sendApdu slotId sessionId .caPmt body)

def putSelected (sessionId : UInt16) (session : ConditionalAccessSession)
    (selected : KeyMap Program) : Act Error Update Unit :=
  modify fun u =>
    { u with
      self := { u.self with sessions := u.self.sessions.insert sessionId { session with selected } }
      touchedSlots := u.touchedSlots ++ [session.slotId] }

def withdraw (session : ConditionalAccessSession) (caids : List UInt16) (program : Program)
    (otherwise : String) : Outcome Error Bytes := do
  match ← ofExcept (program.buildCaPmt caids .update .notSelected) with
  | some body => .ok body
  | none => .err (.invalidData (s!"ca slot {session.slotId}: " ++ otherwise))

def setProgramOn (program : Program) (sessionId : UInt16) : Act Error Update Unit := do
  let session ← lift (expect (← get).self.sessions[sessionId]?)
  match session.caids with
  | none => pure ()
  | some caids => do
      let previous := session.selected[program.programNumber]?
      let listManagement :=
        if previous.isSome then CaPmtListManagement.update
        else if session.selected.isEmpty then .only
        else .add
      match ← lift (ofExcept (program.buildCaPmt caids listManagement .okDescrambling)) with
      | some body => do
          sendCaPmt session.slotId sessionId body
          putSelected sessionId session (session.selected.insert program.programNumber program)
      | none =>
          match previous with
          | none => pure ()
          | some previous => do
              let body ← lift (withdraw session caids previous
                (s!"selected program {program.programNumber} no longer has a matching CA " ++
                  "descriptor"))
              sendCaPmt session.slotId sessionId body
              putSelected sessionId session (session.selected.erase program.programNumber)

-- `touched_slots.sort_unstable(); touched_slots.dedup()`
def sortDedup (slots : List UInt8) : List UInt8 :=
  (slots.mergeSort fun a b => decide (a ≤ b)).dedup

def setProgram (program : Program) : Act Error Update (List UInt8) := do
  let self := (← get).self
  if self.programs[program.programNumber]? = some program then
    pure []
  else do
    modify fun u =>
      { u with
        self := { u.self with programs := u.self.programs.insert program.programNumber program } }
    forEach self.sessions.keys (setProgramOn program)
    pure (sortDedup (← get).touchedSlots)

def removeProgramOn (programNumber : UInt16) (sessionId : UInt16) : Act Error Update Unit := do
  let session ← lift (expect (← get).self.sessions[sessionId]?)
  match session.selected[programNumber]? with
  | none => pure ()
  | some program =>
      match session.caids with
      | none =>
          fail (.invalidData
            s!"ca slot {session.slotId}: selected program without confirmed CA_INFO")
      | some caids => do
          let body ← lift (withdraw session caids program
            s!"selected program {programNumber} has no matching CA descriptor")
          sendCaPmt session.slotId sessionId body
          putSelected sessionId session (session.selected.erase programNumber)

def removeProgram (programNumber : UInt16) : Act Error Update (List UInt8) := do
  let self := (← get).self
  if self.programs[programNumber]? = none then
    pure []
  else do
    modify fun u =>
      { u with self := { u.self with programs := u.self.programs.erase programNumber } }
    forEach self.sessions.keys (removeProgramOn programNumber)
    pure (sortDedup (← get).touchedSlots)

-- The first loop of `synchronize_session`: sends the desired programs that match and returns them.
def selectPrograms (caids : List UInt16) (selected : KeyMap Program) :
    List (UInt16 × Program) → Act Error (ResourceContext ConditionalAccessResource) (KeyMap Program)
  | [] => pure selected
  | (programNumber, program) :: rest => do
      let listManagement := if selected.isEmpty then CaPmtListManagement.only else .add
      match ← lift (ofExcept (program.buildCaPmt caids listManagement .okDescrambling)) with
      | some body => do
          sendApdu .caPmt body
          selectPrograms caids (selected.insert programNumber program) rest
      | none => selectPrograms caids selected rest

-- The second loop: withdraws what was selected under the old CAID list.
def withdrawPrograms (caids : List UInt16) :
    List (UInt16 × Program) → Act Error (ResourceContext ConditionalAccessResource) Unit
  | [] => pure ()
  | (_, program) :: rest => do
      match ← lift (ofExcept (program.buildCaPmt caids .update .notSelected)) with
      | some body => sendApdu .caPmt body
      | none => pure ()
      withdrawPrograms caids rest

def putSession (session : ConditionalAccessSession) :
    Act Error (ResourceContext ConditionalAccessResource) Unit := do
  let ctx ← get
  update fun self => { self with sessions := self.sessions.insert ctx.sessionId session }

def synchronizeSession (session : ConditionalAccessSession) (caids : List UInt16) :
    Act Error (ResourceContext ConditionalAccessResource) Unit := do
  let programs := (← get).self.programs
  putSession { session with caids := some caids, selected := ∅ }
  let selected ← selectPrograms caids ∅ programs.toList
  if selected.isEmpty then
    match session.caids with
    | some oldCaids => withdrawPrograms oldCaids session.selected.toList
    | none => pure ()
  putSession { session with caids := some caids, selected }

def pairs : Bytes → List UInt16
  | hi :: lo :: rest => ofBeBytes hi lo :: pairs rest
  | _ => []

def parseCaInfo (slotId : UInt8) (body : Bytes) : Outcome Error (List UInt16) :=
  if body.length % 2 ≠ 0 then
    .err (.invalidData s!"ca slot {slotId}: ca_info has an odd body length {body.length}")
  else
    .ok (pairs body)

theorem parseCaInfo_sat (slotId : UInt8) (body : Bytes) :
    (parseCaInfo slotId body).Sat (fun _ => True) Error.IsInvalidData := by
  unfold parseCaInfo
  split
  · exact ⟨_, rfl⟩
  · trivial

def onOpen : Act Error (ResourceContext ConditionalAccessResource) Unit := do
  let ctx ← get
  putSession { slotId := ctx.slotId }
  sendApdu .caInfoEnq []

def onApdu (tag : ApduTag) (body : Bytes) :
    Act Error (ResourceContext ConditionalAccessResource) Unit := do
  let ctx ← get
  if tag = .caInfo then do
    let caids ← lift (parseCaInfo ctx.slotId body)
    match ctx.self.sessions[ctx.sessionId]? with
    | none =>
        fail (.invalidData
          s!"ca slot {ctx.slotId}: ca_info on unknown resource session {ctx.sessionId}")
    | some session => do
        synchronizeSession session caids
        event (.caInfo ctx.slotId ctx.sessionId caids)
  else if tag = .caPmtReply ∨ tag = .caUpdate then
    pure ()
  else
    fail (.invalidData
      s!"ca slot {ctx.slotId}: unexpected conditional access apdu tag {tag.debug}")

def onClose (self : ConditionalAccessResource) (sessionId : UInt16) : ConditionalAccessResource :=
  { self with sessions := self.sessions.erase sessionId }

example : parseCaInfo 0 [0x01, 0x00, 0x05, 0x00] = .ok [0x0100, 0x0500] := by decide

end ConditionalAccessResource

end LibDvb
