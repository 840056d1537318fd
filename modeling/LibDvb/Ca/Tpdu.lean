import LibDvb.Ca.Asn1

namespace LibDvb

structure TpduTag where
  raw : UInt8
  deriving DecidableEq, Repr

namespace TpduTag

def sb : TpduTag := ⟨0x80⟩
def rcv : TpduTag := ⟨0x81⟩
def createTc : TpduTag := ⟨0x82⟩
def ctcReply : TpduTag := ⟨0x83⟩
def deleteTc : TpduTag := ⟨0x84⟩
def dtcReply : TpduTag := ⟨0x85⟩
def requestTc : TpduTag := ⟨0x86⟩
def newTc : TpduTag := ⟨0x87⟩
def tcError : TpduTag := ⟨0x88⟩
def dataLast : TpduTag := ⟨0xA0⟩
def dataMore : TpduTag := ⟨0xA1⟩

def debug (tag : TpduTag) : String :=
  if tag = sb then "TpduTag(SB)"
  else if tag = rcv then "TpduTag(RCV)"
  else if tag = createTc then "TpduTag(CREATE_TC)"
  else if tag = ctcReply then "TpduTag(CTC_REPLY)"
  else if tag = deleteTc then "TpduTag(DELETE_TC)"
  else if tag = dtcReply then "TpduTag(DTC_REPLY)"
  else if tag = requestTc then "TpduTag(REQUEST_TC)"
  else if tag = newTc then "TpduTag(NEW_TC)"
  else if tag = tcError then "TpduTag(TC_ERROR)"
  else if tag = dataLast then "TpduTag(DATA_LAST)"
  else if tag = dataMore then "TpduTag(DATA_MORE)"
  else s!"TpduTag(0x{hexUpper 2 tag.raw.toNat})"

end TpduTag

namespace Tpdu

open Outcome

def maxTpduSize : Nat := 2048

def maxTpduData : Nat := maxTpduSize - 7

def dataIndicator : UInt8 := 0x80

def build (slotId : UInt8) (tag : TpduTag) (data : Bytes) : Outcome Error Bytes := do
  if slotId = 255 then
    .err (.invalidProperty s!"ca tpdu invalid slot id {slotId}")
  let tcId := slotId + 1
  if tag = .rcv ∨ tag = .createTc ∨ tag = .ctcReply ∨ tag = .deleteTc ∨ tag = .dtcReply ∨
      tag = .requestTc then
    .ok [slotId, tcId, tag.raw, 1, tcId]
  else if tag = .newTc ∨ tag = .tcError then
    match data.head? with
    | some extra => .ok [slotId, tcId, tag.raw, 2, tcId, extra]
    | none => .err (.invalidProperty s!"ca tpdu tag {tag.debug} requires one data byte")
  else if tag = .dataLast ∨ tag = .dataMore then
    if data.length > maxTpduData then
      .err (.invalidProperty s!"ca tpdu data payload is too large: {data.length} bytes")
    else
      .ok ([slotId, tcId, tag.raw] ++ Asn1.encode (UInt16.ofNat data.length + 1) ++ [tcId] ++ data)
  else
    .err (.invalidProperty s!"ca tpdu unsupported tag {tag.debug}")

structure RTpdu where
  slotId : UInt8
  tag : TpduTag
  body : Bytes
  dataIndicator : Bool
  deriving DecidableEq, Repr

def frameSlotId (frame : Bytes) (slotsNum : UInt8) : Option UInt8 :=
  match frame.head? with
  | some slotId => if slotId < slotsNum then some slotId else none
  | none => none

def parseBody (frame : Bytes) (slotId tcId : UInt8) (tag : TpduTag) : Outcome Error Bytes := do
  if tag = .dataLast ∨ tag = .dataMore then
    let (declaredLen, asn1Size) ← Asn1.decode (← sliceFrom frame 3)
    let declaredLen := declaredLen.toNat
    if declaredLen < 1 ∨ 3 + asn1Size + declaredLen + 4 ≠ frame.length then
      .err (.invalidData s!"ca slot {slotId}: tpdu length field mismatch")
    if (← index frame (3 + asn1Size)) ≠ tcId then
      .err (.invalidData s!"ca slot {slotId}: tpdu t_c_id byte mismatch")
    let bodyStart := 3 + asn1Size + 1
    slice frame bodyStart (← sub (bodyStart + declaredLen) 1)
  else if tag = .sb then
    if frame.length ≠ 6 then
      .err (.invalidData s!"ca slot {slotId}: invalid tpdu status frame size")
    .ok []
  else if tag = .ctcReply ∨ tag = .dtcReply ∨ tag = .requestTc then
    if frame.length ≠ 9 then
      .err (.invalidData s!"ca slot {slotId}: invalid tpdu frame for tag {tag.debug}")
    if (← index frame 3) ≠ 1 ∨ (← index frame 4) ≠ tcId then
      .err (.invalidData s!"ca slot {slotId}: invalid tpdu frame for tag {tag.debug}")
    .ok []
  else if tag = .newTc ∨ tag = .tcError then
    if frame.length ≠ 10 then
      .err (.invalidData s!"ca slot {slotId}: invalid tpdu frame for tag {tag.debug}")
    if (← index frame 3) ≠ 2 ∨ (← index frame 4) ≠ tcId then
      .err (.invalidData s!"ca slot {slotId}: invalid tpdu frame for tag {tag.debug}")
    .ok []
  else
    .err (.invalidData s!"ca slot {slotId}: unknown tpdu tag {tag.debug}")

def parse (frame : Bytes) (slotsNum : UInt8) : Outcome Error RTpdu := do
  if frame.length < 5 then
    .err (.invalidData s!"ca tpdu frame is too short: {frame.length} bytes")
  let tcId ← index frame 1
  if tcId = 0 ∨ tcId > slotsNum then
    .err (.invalidData s!"ca tpdu invalid t_c_id {tcId}")
  let slotId ← subU8 tcId 1
  let first ← index frame 0
  if first ≠ slotId then
    .err (.invalidData s!"ca slot id {first} does not match t_c_id {tcId}")
  let tag : TpduTag := ⟨← index frame 2⟩
  let trailer ← sliceFrom frame (← sub frame.length 4)
  if (← index trailer 0) ≠ TpduTag.sb.raw ∨ (← index trailer 1) ≠ 2 ∨
      (← index trailer 2) ≠ tcId then
    .err (.invalidData s!"ca slot {slotId}: invalid tpdu status trailer")
  let indicator := ((← index trailer 3) &&& dataIndicator) ≠ 0
  let body ← parseBody frame slotId tcId tag
  .ok { slotId, tag, body, dataIndicator := indicator }

theorem build_command {slotId : UInt8} {tag : TpduTag} (h : slotId ≠ 255)
    (htag : tag = .rcv ∨ tag = .createTc) : ∃ frame, build slotId tag [] = .ok frame := by
  refine ⟨[slotId, slotId + 1, tag.raw, 1, slotId + 1], ?_⟩
  rcases htag with rfl | rfl <;> simp [build, h]

theorem build_data {slotId : UInt8} {tag : TpduTag} {data : Bytes} (h : slotId ≠ 255)
    (htag : tag = .dataLast ∨ tag = .dataMore) (hlen : data.length ≤ maxTpduData) :
    ∃ frame, build slotId tag data = .ok frame := by
  refine ⟨[slotId, slotId + 1, tag.raw] ++ Asn1.encode (UInt16.ofNat data.length + 1) ++
    [slotId + 1] ++ data, ?_⟩
  have hle : ¬ data.length > maxTpduData := Nat.not_lt.mpr hlen
  rcases htag with rfl | rfl
  · simp [build, h, hle, TpduTag.dataLast, TpduTag.rcv, TpduTag.createTc, TpduTag.ctcReply,
      TpduTag.deleteTc, TpduTag.dtcReply, TpduTag.requestTc, TpduTag.newTc, TpduTag.tcError]
  · simp [build, h, hle, TpduTag.dataMore, TpduTag.dataLast, TpduTag.rcv, TpduTag.createTc,
      TpduTag.ctcReply, TpduTag.deleteTc, TpduTag.dtcReply, TpduTag.requestTc, TpduTag.newTc,
      TpduTag.tcError]

theorem build_ne_panic (slotId : UInt8) (tag : TpduTag) (data : Bytes) :
    build slotId tag data ≠ .panic := by
  unfold build
  by_cases h : slotId = 255
  · simp [h]
  · simp only [h, if_false]
    repeat' split
    all_goals simp

theorem frameSlotId_eq_some {frame : Bytes} {slotsNum slotId : UInt8} :
    frameSlotId frame slotsNum = some slotId ↔ frame.head? = some slotId ∧ slotId < slotsNum := by
  unfold frameSlotId
  cases frame with
  | nil => simp
  | cons first rest =>
      by_cases h : first < slotsNum
      · simp only [List.head?_cons, h, if_true, Option.some.injEq]
        exact ⟨fun he => ⟨he, he ▸ h⟩, And.left⟩
      · simp only [List.head?_cons, h, if_false, Option.some.injEq, reduceCtorEq, false_iff]
        exact fun he => h (he.1 ▸ he.2)

theorem parseBody_sat (frame : Bytes) (slotId tcId : UInt8) (tag : TpduTag)
    (hlen : 5 ≤ frame.length) :
    (parseBody frame slotId tcId tag).Sat (fun body => body.length ≤ frame.length)
      Error.IsInvalidData := by
  unfold parseBody
  simp only [sat_bind, sat_ite, sat_index, sat_err, sat_ok, sat_slice, sat_sub, sat_sliceFrom,
    isInvalidData_invalidData, implies_true, true_and, not_or, List.length_nil, Nat.zero_le,
    and_true]
  refine ⟨fun _ => ⟨by omega, ?_⟩, fun _ _ => ⟨fun _ h9 => ?_, fun _ _ h10 => ?_⟩⟩
  · refine (Asn1.decode_sat _).mono (fun decoded hsize hfit => ?_) (fun _ he => he)
    obtain ⟨n, size⟩ := decoded
    simp only [List.length_drop] at hsize
    dsimp only at hsize hfit ⊢
    refine ⟨by omega, fun _ => ⟨by omega, by omega, ?_⟩⟩
    simp only [List.length_drop, List.length_take]
    omega
  · have := Classical.not_not.mp h9
    exact ⟨by omega, by omega, trivial⟩
  · have := Classical.not_not.mp h10
    exact ⟨by omega, by omega, trivial⟩

theorem parse_sat (frame : Bytes) (slotsNum : UInt8) :
    (parse frame slotsNum).Sat
      (fun r => frame.head? = some r.slotId ∧ r.slotId < slotsNum ∧ frame[2]? = some r.tag.raw ∧
        r.body.length ≤ frame.length) Error.IsInvalidData := by
  unfold parse
  simp only [sat_bind, sat_ite, sat_index, sat_err, sat_ok, sat_sub, sat_subU8, sat_sliceFrom,
    isInvalidData_invalidData, implies_true, true_and, not_or, List.length_drop]
  intro hlen
  refine ⟨by omega, fun htc => ⟨by grind, by omega, fun hfirst => ⟨by omega, by omega, by omega,
    by omega, by omega, by omega, fun _ => ⟨by omega, ?_⟩⟩⟩⟩
  refine (parseBody_sat frame _ _ _ (by omega)).mono (fun body hbody => ?_) (fun _ he => he)
  have hhead : frame.head? = some (frame[1] - 1) := by
    rw [List.head?_eq_getElem?, List.getElem?_eq_getElem (by omega), Classical.not_not.mp hfirst]
  exact ⟨hhead, by grind, List.getElem?_eq_getElem _, hbody⟩

def withStatus (slotId : UInt8) (status : UInt8) (object : Bytes) : Bytes :=
  object ++ [TpduTag.sb.raw, 2, slotId + 1, status]

theorem build_data_eq {slotId : UInt8} {tag : TpduTag} {data frame : Bytes}
    (htag : tag = .dataLast ∨ tag = .dataMore) (h : build slotId tag data = .ok frame) :
    slotId ≠ 255 ∧ data.length ≤ maxTpduData ∧
      frame = [slotId, slotId + 1, tag.raw] ++ Asn1.encode (UInt16.ofNat data.length + 1) ++
        [slotId + 1] ++ data := by
  by_cases hslot : slotId = 255
  · simp [build, hslot] at h
  · by_cases hlong : data.length > maxTpduData
    · rcases htag with rfl | rfl <;>
      simp [build, hslot, hlong, TpduTag.dataLast, TpduTag.dataMore, TpduTag.rcv, TpduTag.createTc, TpduTag.ctcReply,
      TpduTag.deleteTc, TpduTag.dtcReply, TpduTag.requestTc, TpduTag.newTc, TpduTag.tcError] at h
    · refine ⟨hslot, Nat.not_lt.mp hlong, ?_⟩
      rcases htag with rfl | rfl <;>
      simp [build, hslot, hlong, TpduTag.dataLast, TpduTag.dataMore, TpduTag.rcv, TpduTag.createTc, TpduTag.ctcReply,
      TpduTag.deleteTc, TpduTag.dtcReply, TpduTag.requestTc, TpduTag.newTc, TpduTag.tcError] at h ⊢ <;> exact h.symm

theorem toNat_tcId {slotId : UInt8} (h : slotId ≠ 255) : (slotId + 1).toNat = slotId.toNat + 1 := by
  have hlt := slotId.toNat_lt
  have hne : slotId.toNat ≠ 255 := fun he => h (UInt8.toNat_inj.mp he)
  rw [UInt8.toNat_add]
  show (slotId.toNat + 1) % 256 = _
  omega

theorem tcId_valid {slotId slotsNum : UInt8} (hs : slotId < slotsNum) :
    ¬ (slotId + 1 = 0 ∨ slotId + 1 > slotsNum) ∧ subU8 (slotId + 1) 1 = .ok slotId := by
  have hlt := UInt8.lt_iff_toNat_lt.mp hs
  have hmax := slotsNum.toNat_lt
  have hnat : (slotId + 1).toNat = slotId.toNat + 1 := by
    rw [UInt8.toNat_add]
    show (slotId.toNat + 1) % 256 = _
    omega
  have hone : (1 : UInt8) ≤ slotId + 1 := by
    rw [UInt8.le_iff_toNat_le, hnat]
    exact Nat.succ_le_succ (Nat.zero_le _)
  constructor
  · rw [not_or, gt_iff_lt, UInt8.lt_iff_toNat_lt, ← UInt8.toNat_inj, hnat]
    exact ⟨Nat.succ_ne_zero _, by omega⟩
  · rw [subU8, if_pos hone, UInt8.add_sub_cancel]

theorem toNat_declared {data : Bytes} (h : data.length ≤ maxTpduData) :
    (UInt16.ofNat data.length + 1).toNat = data.length + 1 := by
  have hsize : maxTpduData < 65535 := by decide
  rw [UInt16.toNat_add, UInt16.toNat_ofNat']
  show (data.length % 65536 + 1) % 65536 = _
  omega

theorem parseBody_data {slotId status : UInt8} {tag : TpduTag} {field body : Bytes} {n : UInt16}
    (htag : tag = .dataLast ∨ tag = .dataMore) (hfield : Asn1.Codes n field)
    (hn : n.toNat = body.length + 1) :
    parseBody (withStatus slotId status (slotId :: (slotId + 1) :: tag.raw ::
      (field ++ (slotId + 1) :: body))) slotId (slotId + 1) tag = .ok body := by
  generalize hframe : withStatus slotId status (slotId :: (slotId + 1) :: tag.raw ::
    (field ++ (slotId + 1) :: body)) = frame
  have hcons : frame = slotId :: (slotId + 1) :: tag.raw ::
      (field ++ (slotId + 1) :: (body ++ [TpduTag.sb.raw, 2, slotId + 1, status])) := by
    rw [← hframe, withStatus]
    simp
  have hlength : frame.length = 3 + field.length + 1 + body.length + 4 := by
    rw [hcons]
    simp
    omega
  have hrest : (sliceFrom frame 3 : Outcome Error Bytes) =
      .ok (field ++ (slotId + 1) :: (body ++ [TpduTag.sb.raw, 2, slotId + 1, status])) := by
    rw [sliceFrom, if_pos (by omega), hcons]
    rfl
  have hmatch : ¬ (body.length + 1 < 1 ∨ 3 + field.length + (body.length + 1) + 4 ≠ frame.length) := by
    omega
  have htc : (index frame (3 + field.length) : Outcome Error UInt8) = .ok (slotId + 1) := by
    rw [index, hcons, show 3 + field.length = field.length + 1 + 1 + 1 by omega]
    simp
  have hsub : (sub (3 + field.length + 1 + (body.length + 1)) 1 : Outcome Error Nat) =
      .ok (3 + field.length + 1 + body.length) := by
    rw [sub, if_pos (by omega)]
    rfl
  have hbody : (slice frame (3 + field.length + 1) (3 + field.length + 1 + body.length) :
      Outcome Error Bytes) = .ok body := by
    have hmiddle := drop_take_middle (slotId :: (slotId + 1) :: tag.raw :: (field ++ [slotId + 1])) body
      [TpduTag.sb.raw, 2, slotId + 1, status]
    have hwidth : (slotId :: (slotId + 1) :: tag.raw :: (field ++ [slotId + 1])).length =
        3 + field.length + 1 := by
      simp
      omega
    have hsplit : slotId :: (slotId + 1) :: tag.raw :: (field ++ [slotId + 1]) ++
        (body ++ [TpduTag.sb.raw, 2, slotId + 1, status]) = frame := by
      rw [hcons]
      simp
    rw [hwidth, hsplit] at hmiddle
    rw [slice, if_pos ⟨by omega, by omega⟩, hmiddle]
  rw [parseBody, if_pos htag, hrest]
  simp only [ok_bind, hfield.decode, hn, if_neg hmatch, htc, ne_eq, not_true, if_false, hsub, hbody]

theorem parse_withStatus {slotId slotsNum status : UInt8} {tag : TpduTag} {object body : Bytes}
    (hs : slotId < slotsNum)
    (htag : (object ++ [TpduTag.sb.raw, 2, slotId + 1, status]).head? = some tag.raw)
    (hbody : parseBody (withStatus slotId status (slotId :: (slotId + 1) :: object)) slotId (slotId + 1) tag =
      .ok body) :
    parse (withStatus slotId status (slotId :: (slotId + 1) :: object)) slotsNum =
      .ok { slotId, tag, body, dataIndicator := (status &&& dataIndicator) ≠ 0 } := by
  generalize hframe : withStatus slotId status (slotId :: (slotId + 1) :: object) = frame at hbody ⊢
  have hcons : frame = slotId :: (slotId + 1) :: (object ++ [TpduTag.sb.raw, 2, slotId + 1, status]) := by
    rw [← hframe, withStatus, List.cons_append, List.cons_append]
  have hlength : frame.length = 2 + object.length + 4 := by
    rw [hcons]
    simp
    omega
  have hshort : ¬ frame.length < 5 := by omega
  obtain ⟨htc, hback⟩ := tcId_valid hs
  have hindex0 : (index frame 0 : Outcome Error UInt8) = .ok slotId := by
    rw [index, hcons]
    rfl
  have hindex1 : (index frame 1 : Outcome Error UInt8) = .ok (slotId + 1) := by
    rw [index, hcons]
    rfl
  have hindex2 : (index frame 2 : Outcome Error UInt8) = .ok tag.raw := by
    rw [index, hcons, List.getElem?_cons_succ, List.getElem?_cons_succ, ← List.head?_eq_getElem?, htag]
  have hend : (sub frame.length 4 : Outcome Error Nat) = .ok (2 + object.length) := by
    rw [sub, if_pos (by omega), hlength]
    rfl
  have hlast : (sliceFrom frame (2 + object.length) : Outcome Error Bytes) =
      .ok [TpduTag.sb.raw, 2, slotId + 1, status] := by
    rw [sliceFrom, if_pos (by omega), hcons, show 2 + object.length = object.length + 1 + 1 by omega,
      List.drop_succ_cons, List.drop_succ_cons, List.drop_left]
  rw [parse, if_neg hshort]
  simp only [hindex1, ok_bind, if_neg htc, hback, hindex0, ne_eq, not_true, if_false, hindex2, hend, hlast, hbody]
  simp [index]

theorem parse_data {slotId slotsNum : UInt8} {tag : TpduTag} {data object : Bytes}
    (hs : slotId < slotsNum) (htag : tag = .dataLast ∨ tag = .dataMore)
    (h : build slotId tag data = .ok object) (status : UInt8) :
    parse (withStatus slotId status object) slotsNum =
      .ok { slotId, tag, body := data, dataIndicator := (status &&& dataIndicator) ≠ 0 } := by
  obtain ⟨hslot, hlen, hobject⟩ := build_data_eq htag h
  have hframe : object = slotId :: (slotId + 1) :: tag.raw ::
      (Asn1.encode (UInt16.ofNat data.length + 1) ++ (slotId + 1) :: data) := by
    rw [hobject]
    simp
  rw [hframe]
  exact parse_withStatus hs rfl (parseBody_data htag (Asn1.codes_encode _) (toNat_declared hlen))

theorem parse_status {slotId slotsNum : UInt8} (hs : slotId < slotsNum) (status : UInt8) :
    parse (withStatus slotId status [slotId, slotId + 1]) slotsNum =
      .ok { slotId, tag := .sb, body := [], dataIndicator := (status &&& dataIndicator) ≠ 0 } := by
  obtain ⟨htc, hback⟩ := tcId_valid hs
  have hdata : ¬ (TpduTag.sb = .dataLast ∨ TpduTag.sb = .dataMore) := by decide
  have hbody : parseBody [slotId, slotId + 1, TpduTag.sb.raw, 2, slotId + 1, status] slotId (slotId + 1)
      ⟨TpduTag.sb.raw⟩ = .ok [] := by
    show parseBody _ _ _ .sb = _
    rw [parseBody, if_neg hdata, if_pos rfl]
    simp
  rw [parse]
  simp [withStatus, index, sliceFrom, sub, htc, hback, hbody]

example : build 0 .dataLast [0xAA, 0xBB, 0xCC, 0xDD] =
    .ok [0x00, 0x01, 0xA0, 0x05, 0x01, 0xAA, 0xBB, 0xCC, 0xDD] := by decide

example : parse [0x00, 0x01, 0xA0, 0x01, 0x01, 0x80, 0x02, 0x01, 0x80] 1 =
    .ok { slotId := 0, tag := .dataLast, body := [], dataIndicator := true } := by decide +kernel

end Tpdu

end LibDvb
