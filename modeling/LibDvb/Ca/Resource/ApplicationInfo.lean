import Mathlib.Algebra.GroupWithZero.Nat
import LibDvb.Ca.Resource.Context

namespace LibDvb

structure ApplicationInfoSession where
  slotId : UInt8
  info : Option ApplicationInfo := none
  revision : Nat := 0
  deriving DecidableEq

structure ApplicationInfoResource where
  sessions : KeyMap ApplicationInfoSession := ∅
  revision : Nat := 0
  deriving DecidableEq

def u64Max : Nat := 2 ^ 64 - 1

namespace ApplicationInfoResource

open Act Outcome ResourceContext

def parseApplicationInfo (slotId : UInt8) (body : Bytes) : Outcome Error ApplicationInfo := do
  if body.length < 6 then
    .err (.invalidData s!"ca slot {slotId}: application info is too short")
  let menuEnd := 6 + (← index body 5).toNat
  if menuEnd ≤ body.length then
    .ok
      { applicationType := ← index body 0
        applicationManufacturer := ofBeBytes (← index body 1) (← index body 2)
        manufacturerCode := ofBeBytes (← index body 3) (← index body 4)
        menuString := (body.take menuEnd).drop 6 }
  else
    .err (.invalidData s!"ca slot {slotId}: application info menu string is truncated")

theorem parseApplicationInfo_sat (slotId : UInt8) (body : Bytes) :
    (parseApplicationInfo slotId body).Sat (fun _ => True) Error.IsInvalidData := by
  unfold parseApplicationInfo
  simp only [sat_bind, sat_ite, sat_index, sat_err, sat_ok, isInvalidData_invalidData,
    implies_true, true_and, and_true, exists_prop]
  intro hlen
  refine ⟨by omega, fun hmenu => ?_⟩
  refine ⟨by omega, by omega, by omega, by omega, by omega⟩

-- `max_by_key`: the last of the entries whose key is greatest.
def maxByKey (later : UInt16 × Nat × ApplicationInfo → UInt16 × Nat × ApplicationInfo → Bool) :
    List (UInt16 × Nat × ApplicationInfo) → Option (UInt16 × Nat × ApplicationInfo) :=
  List.foldl (fun best entry =>
    match best with
    | none => some entry
    | some current => if later current entry then some current else some entry) none

def outranks (a b : UInt16 × Nat × ApplicationInfo) : Bool :=
  b.2.1 < a.2.1 || (a.2.1 = b.2.1 && b.1 < a.1)

def candidates (self : ApplicationInfoResource) (slotId : UInt8) :
    List (UInt16 × Nat × ApplicationInfo) :=
  self.sessions.toList.filterMap fun (sessionId, session) =>
    if session.slotId = slotId then
      session.info.map fun info => (sessionId, session.revision, info)
    else
      none

def infoSession (self : ApplicationInfoResource) (slotId : UInt8) :
    Option (UInt16 × ApplicationInfo) :=
  (maxByKey outranks (self.candidates slotId)).map fun (sessionId, _, info) => (sessionId, info)

def info (self : ApplicationInfoResource) (slotId : UInt8) : Option ApplicationInfo :=
  (self.infoSession slotId).map Prod.snd

def onOpen : Act Error (ResourceContext ApplicationInfoResource) Unit := do
  let ctx ← get
  update fun self =>
    { self with sessions := self.sessions.insert ctx.sessionId { slotId := ctx.slotId } }
  sendApdu .applicationInfoEnq []

def onApdu (tag : ApduTag) (body : Bytes) :
    Act Error (ResourceContext ApplicationInfoResource) Unit := do
  let ctx ← get
  if tag = .applicationInfo then do
    let info ← lift (parseApplicationInfo ctx.slotId body)
    match ctx.self.sessions[ctx.sessionId]? with
    | none =>
        fail (.invalidData (s!"ca slot {ctx.slotId}: application info on unknown resource session " ++
          s!"{ctx.sessionId}"))
    | some session => do
        let revision := min (ctx.self.revision + 1) u64Max
        update fun self =>
          { sessions := self.sessions.insert ctx.sessionId { session with info := some info, revision }
            revision }
        event (.applicationInfo ctx.slotId info)
  else
    fail (.invalidData s!"ca slot {ctx.slotId}: unexpected application info apdu tag {tag.debug}")

def onClose (self : ApplicationInfoResource) (sessionId : UInt16) : ApplicationInfoResource :=
  { self with sessions := self.sessions.erase sessionId }

end ApplicationInfoResource

end LibDvb
