import LibDvb.Ca.Resource.Context

namespace LibDvb.HostControlResource

open Act Outcome ResourceContext

def readPid (data : Bytes) : Outcome Error UInt16 := do
  .ok (ofBeBytes ((← index data 0) &&& 0x1F) (← index data 1))

def parseTune (slotId : UInt8) (body : Bytes) : Outcome Error CaEvent := do
  if body.length < 8 then
    .err (.invalidData s!"ca slot {slotId}: host control tune is too short")
  .ok (.tune slotId (ofBeBytes (← index body 0) (← index body 1))
    (ofBeBytes (← index body 2) (← index body 3)) (ofBeBytes (← index body 4) (← index body 5))
    (ofBeBytes (← index body 6) (← index body 7)))

def parseReplace (slotId : UInt8) (body : Bytes) : Outcome Error CaEvent := do
  if body.length < 5 then
    .err (.invalidData s!"ca slot {slotId}: host control replace is too short")
  .ok (.replace slotId (← index body 0) (← readPid (← slice body 1 3))
    (← readPid (← slice body 3 5)))

def parseClearReplace (slotId : UInt8) (body : Bytes) : Outcome Error CaEvent := do
  if body = [] then
    .err (.invalidData s!"ca slot {slotId}: host control clear_replace is too short")
  .ok (.clearReplace slotId (← index body 0))

theorem readPid_sat {data : Bytes} (h : data.length = 2) :
    (readPid data).Sat (fun _ => True) Error.IsInvalidData := by
  unfold readPid
  simp only [sat_bind, sat_index, sat_ok, exists_prop, and_true]
  omega

theorem parseTune_sat (slotId : UInt8) (body : Bytes) : (parseTune slotId body).Sat
    (fun e => e.Plain ∧ e.slotId = slotId) Error.IsInvalidData := by
  unfold parseTune
  simp only [sat_bind, sat_ite, sat_index, sat_err, sat_ok, isInvalidData_invalidData,
    implies_true, true_and]
  intro hlen
  refine ⟨by omega, by omega, by omega, by omega, by omega, by omega, by omega, by omega,
    trivial, rfl⟩

theorem parseReplace_sat (slotId : UInt8) (body : Bytes) : (parseReplace slotId body).Sat
    (fun e => e.Plain ∧ e.slotId = slotId) Error.IsInvalidData := by
  unfold parseReplace
  simp only [sat_bind, sat_ite, sat_index, sat_slice, sat_err, sat_ok, isInvalidData_invalidData,
    implies_true, true_and]
  intro hlen
  refine ⟨by omega, ⟨by omega, by omega⟩, (readPid_sat ?_).mono (fun _ _ => ?_) fun _ he => he⟩
  · simp only [List.length_drop, List.length_take]
    omega
  refine ⟨⟨by omega, by omega⟩, (readPid_sat ?_).mono (fun _ _ => ⟨trivial, rfl⟩) fun _ he => he⟩
  simp only [List.length_drop, List.length_take]
  omega

theorem parseClearReplace_sat (slotId : UInt8) (body : Bytes) : (parseClearReplace slotId body).Sat
    (fun e => e.Plain ∧ e.slotId = slotId) Error.IsInvalidData := by
  unfold parseClearReplace
  simp only [sat_bind, sat_ite, sat_index, sat_err, sat_ok, isInvalidData_invalidData,
    implies_true, true_and]
  intro hne
  exact ⟨List.length_pos_iff.mpr hne, trivial, rfl⟩

theorem parseTune_unready (slotId : UInt8) (body : Bytes) : (parseTune slotId body).Yields CaEvent.Unready := by
  unfold parseTune
  split
  · exact yields_err _
  · iterate 8 apply yields_bind; intro _
    exact yields_ok id

theorem parseReplace_unready (slotId : UInt8) (body : Bytes) : (parseReplace slotId body).Yields CaEvent.Unready := by
  unfold parseReplace
  split
  · exact yields_err _
  · iterate 5 apply yields_bind; intro _
    exact yields_ok id

theorem parseClearReplace_unready (slotId : UInt8) (body : Bytes) :
    (parseClearReplace slotId body).Yields CaEvent.Unready := by
  unfold parseClearReplace
  split
  · exact yields_err _
  · apply yields_bind
    intro _
    exact yields_ok id

def onApdu (tag : ApduTag) (body : Bytes) : Act Error (ResourceContext Unit) Unit := do
  let ctx ← get
  if tag = .tune then do
    event (← lift (parseTune ctx.slotId body))
  else if tag = .replace then do
    event (← lift (parseReplace ctx.slotId body))
  else if tag = .clearReplace then do
    event (← lift (parseClearReplace ctx.slotId body))
  else
    fail (.invalidData s!"ca slot {ctx.slotId}: unexpected host control apdu tag {tag.debug}")

example : readPid [0xFF, 0xFE] = .ok 0x1FFE := by decide

end LibDvb.HostControlResource
