import LibDvb.Ca.Resource.Context

namespace LibDvb

structure MmiResource where
  fragments : KeyMap Bytes := ∅
  deriving DecidableEq

namespace MmiResource

open Act Outcome ResourceContext

def maxObjectSize : Nat := 65536

def dccSetMmiMode : UInt8 := 0x01
def mmHighLevel : UInt8 := 0x01
def driMmiModeAck : UInt8 := 0x01
def driUnknownCmd : UInt8 := 0xF0
def driUnknownMmiMode : UInt8 := 0xF1
def closeMmiImmediate : UInt8 := 0x00
def closeMmiDelay : UInt8 := 0x01
def answCancel : UInt8 := 0x00
def answAnswer : UInt8 := 0x01

-- Every turn of the loops below consumes a text object of at least four bytes, so the length of
-- the input is fuel enough.
def parseTextLoop (data : Bytes) : Nat → Bytes → Nat → Outcome Error (Option (Bytes × Nat))
  | 0, _, _ => .panic
  | fuel + 1, text, offset => do
      match ← (Apdu.parseAt (← sliceFrom data offset)).attempt with
      | .error _ => .ok none
      | .ok (apdu, size) =>
          let offset := offset + size
          let text := text ++ apdu.body
          if apdu.tag = .textLast then
            .ok (some (text, offset))
          else if apdu.tag = .textMore then
            parseTextLoop data fuel text offset
          else
            .ok none

def parseText (data : Bytes) : Outcome Error (Option (Bytes × Nat)) :=
  parseTextLoop data (data.length + 1) [] 0

-- The header texts read from `offset` on, the offset reached and whether all of them were there.
def parseHeader (body : Bytes) : Nat → Nat → Outcome Error (List Bytes × Nat × Bool)
  | 0, offset => .ok ([], offset, true)
  | count + 1, offset => do
      match ← parseText (← sliceFrom body offset) with
      | some (value, size) => do
          let (rest, last, complete) ← parseHeader body count (offset + size)
          .ok (value :: rest, last, complete)
      | none => .ok ([], offset, false)

def parseItems (body : Bytes) : Nat → Nat → Outcome Error (List Bytes)
  | 0, _ => .panic
  | fuel + 1, offset => do
      match ← parseText (← sliceFrom body offset) with
      | some (item, size) => do
          let rest ← parseItems body fuel (offset + size)
          .ok (item :: rest)
      | none => .ok []

def parseMenu (body : Bytes) : Outcome Error MmiMenu := do
  if body = [] then
    .ok {}
  else do
    let (header, offset, complete) ← parseHeader body 3 1
    let menu : MmiMenu :=
      { title := header[0]?.getD []
        subTitle := header[1]?.getD []
        bottom := header[2]?.getD [] }
    if complete then do
      let items ← parseItems body (body.length + 1) offset
      .ok { menu with items }
    else
      .ok menu

theorem parseTextLoop_sat (data : Bytes) : ∀ (fuel : Nat) (text : Bytes) (offset : Nat),
    offset ≤ data.length → data.length - offset < fuel →
      (parseTextLoop data fuel text offset).Sat
        (fun r => ∀ value size, r = some (value, size) → offset < size ∧ size ≤ data.length)
        (fun _ => False) := by
  intro fuel
  induction fuel with
  | zero => exact fun _ _ _ h => absurd h (Nat.not_lt_zero _)
  | succ fuel ih =>
      intro text offset hoffset hfuel
      rw [parseTextLoop]
      simp only [sat_bind, sat_sliceFrom, sat_attempt]
      refine ⟨hoffset, (Apdu.parseAt_sat _).mono (fun ⟨apdu, size⟩ hsize => ?_) (fun _ _ => nofun)⟩
      simp only [List.length_drop] at hsize
      simp only [sat_ite, sat_ok, Option.some.injEq, Prod.mk.injEq]
      refine ⟨fun _ => ?_, fun _ => ⟨fun _ => ?_, fun _ => nofun⟩⟩
      · rintro value last ⟨_, rfl⟩
        omega
      · refine (ih (text ++ apdu.body) (offset + size) (by omega) (by omega)).mono
          (fun r hr value last heq => ?_) (fun _ he => he)
        have := hr value last heq
        omega

theorem parseText_sat (data : Bytes) : (parseText data).Sat
    (fun r => ∀ value size, r = some (value, size) → 0 < size ∧ size ≤ data.length)
    (fun _ => False) :=
  parseTextLoop_sat data _ [] 0 (Nat.zero_le _) (by omega)

theorem parseHeader_sat (body : Bytes) : ∀ count offset : Nat, offset ≤ body.length →
    (parseHeader body count offset).Sat (fun r => r.2.1 ≤ body.length) (fun _ => False) := by
  intro count
  induction count with
  | zero => exact fun _ h => h
  | succ count ih =>
      intro offset hoffset
      rw [parseHeader]
      simp only [sat_bind, sat_sliceFrom]
      refine ⟨hoffset, (parseText_sat _).mono (fun r hr => ?_) (fun _ he => he)⟩
      cases r with
      | none => exact hoffset
      | some entry =>
          obtain ⟨value, size⟩ := entry
          have hsize := hr value size rfl
          rw [List.length_drop] at hsize
          simp only [sat_bind]
          exact (ih (offset + size) (by omega)).mono (fun _ hlast => hlast) (fun _ he => he)

theorem parseItems_sat (body : Bytes) : ∀ fuel offset : Nat, offset ≤ body.length →
    body.length - offset < fuel →
      (parseItems body fuel offset).Sat (fun _ => True) (fun _ => False) := by
  intro fuel
  induction fuel with
  | zero => exact fun _ _ h => absurd h (Nat.not_lt_zero _)
  | succ fuel ih =>
      intro offset hoffset hfuel
      rw [parseItems]
      simp only [sat_bind, sat_sliceFrom]
      refine ⟨hoffset, (parseText_sat _).mono (fun r hr => ?_) (fun _ he => he)⟩
      cases r with
      | none => trivial
      | some entry =>
          obtain ⟨value, size⟩ := entry
          have hsize := hr value size rfl
          rw [List.length_drop] at hsize
          simp only [sat_bind]
          exact (ih (offset + size) (by omega) (by omega)).mono (fun _ _ => trivial) (fun _ he => he)

theorem parseMenu_sat (body : Bytes) :
    (parseMenu body).Sat (fun _ => True) (fun _ => False) := by
  unfold parseMenu
  split
  · trivial
  · next hne =>
      have hpos := List.length_pos_iff.mpr hne
      simp only [sat_bind]
      refine (parseHeader_sat body 3 1 hpos).mono (fun r hr => ?_) (fun _ he => he)
      obtain ⟨header, offset, complete⟩ := r
      simp only
      split
      · simp only [sat_bind]
        exact (parseItems_sat body _ offset hr (by omega)).mono (fun _ _ => trivial) (fun _ he => he)
      · trivial

def buildAnsw : Option Bytes → Bytes
  | some text => [answAnswer] ++ text
  | none => [answCancel]

def buildClose : Bytes := [closeMmiImmediate]

def takeObject (last : Bytes) : Act Error (ResourceContext MmiResource) Bytes := do
  let ctx ← get
  match ctx.self.fragments[ctx.sessionId]? with
  | some object => do
      update fun self => { fragments := self.fragments.erase ctx.sessionId }
      pure (object ++ last)
  | none => pure last

def displayReply (body : Bytes) : Bytes :=
  if body.head? = some dccSetMmiMode then
    if body[1]? = some mmHighLevel then [driMmiModeAck, mmHighLevel] else [driUnknownMmiMode]
  else
    [driUnknownCmd]

def parseEnq (slotId : UInt8) (sessionId : UInt16) (body : Bytes) : Outcome Error CaEvent := do
  if body.length < 2 then
    .err (.invalidData s!"ca slot {slotId}: mmi enq is too short")
  .ok (.mmiEnq slotId sessionId ((← index body 0) &&& 0x01 ≠ 0) (← index body 1)
    (← sliceFrom body 2))

theorem parseEnq_sat (slotId : UInt8) (sessionId : UInt16) (body : Bytes) :
    (parseEnq slotId sessionId body).Sat (fun e => e.Plain ∧ e.slotId = slotId)
      Error.IsInvalidData := by
  unfold parseEnq
  simp only [sat_bind, sat_ite, sat_index, sat_sliceFrom, sat_err, sat_ok,
    isInvalidData_invalidData, implies_true, true_and]
  intro hlen
  refine ⟨by omega, by omega, by omega, trivial, rfl⟩

theorem parseEnq_unready (slotId : UInt8) (sessionId : UInt16) (body : Bytes) :
    (parseEnq slotId sessionId body).Yields CaEvent.Unready := by
  unfold parseEnq
  split
  · exact yields_err _
  · iterate 3 apply yields_bind; intro _
    exact yields_ok id

def onMore (body : Bytes) : Act Error (ResourceContext MmiResource) Unit := do
  let ctx ← get
  let object := ctx.self.fragments[ctx.sessionId]?.getD []
  if object.length + body.length > maxObjectSize then do
    update fun self => { fragments := self.fragments.erase ctx.sessionId }
    fail (.invalidData s!"ca slot {ctx.slotId}: mmi object reassembly overflow")
  else
    update fun self => { fragments := self.fragments.insert ctx.sessionId (object ++ body) }

def onApdu (tag : ApduTag) (body : Bytes) : Act Error (ResourceContext MmiResource) Unit := do
  let ctx ← get
  if tag = .textMore ∨ tag = .menuMore ∨ tag = .listMore then
    onMore body
  else if tag = .closeMmi then do
    let delay := if body.head? = some closeMmiDelay then body[1]? else none
    event (.mmiClose ctx.slotId ctx.sessionId delay)
    modify ({ · with closeSession := true })
  else if tag = .displayControl then
    sendApdu .displayReply (displayReply body)
  else if tag = .textLast then do
    let text ← takeObject body
    event (.mmiText ctx.slotId ctx.sessionId text)
  else if tag = .enq then do
    event (← lift (parseEnq ctx.slotId ctx.sessionId body))
  else if tag = .menuLast then do
    let object ← takeObject body
    event (.mmiMenu ctx.slotId ctx.sessionId (← lift (parseMenu object)))
  else if tag = .listLast then do
    let object ← takeObject body
    event (.mmiList ctx.slotId ctx.sessionId (← lift (parseMenu object)))
  else
    fail (.invalidData s!"ca slot {ctx.slotId}: unexpected mmi apdu tag {tag.debug}")

def onClose (self : MmiResource) (sessionId : UInt16) : MmiResource :=
  { fragments := self.fragments.erase sessionId }

end MmiResource

end LibDvb
