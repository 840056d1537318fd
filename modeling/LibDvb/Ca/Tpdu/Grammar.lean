import LibDvb.Ca.Tpdu
import Mathlib.Data.Nat.Bitwise

namespace LibDvb.Tpdu

open Outcome

inductive Object (tcId : UInt8) : TpduTag → Bytes → Bytes → Prop
  | data (tag : TpduTag) (field body : Bytes) (n : UInt16) (htag : tag = .dataLast ∨ tag = .dataMore)
      (hfield : Asn1.Codes n field) (hn : n.toNat = body.length + 1) :
      Object tcId tag body (tag.raw :: (field ++ tcId :: body))
  | reply (tag : TpduTag) (htag : tag = .ctcReply ∨ tag = .dtcReply ∨ tag = .requestTc) :
      Object tcId tag [] [tag.raw, 1, tcId]
  | extra (tag : TpduTag) (x : UInt8) (htag : tag = .newTc ∨ tag = .tcError) :
      Object tcId tag [] [tag.raw, 2, tcId, x]
  | none : Object tcId .sb [] []

def Grammar (slotsNum : UInt8) (frame : Bytes) (r : RTpdu) : Prop :=
  r.slotId < slotsNum ∧ ∃ object status, Object (r.slotId + 1) r.tag r.body object ∧
    frame = r.slotId :: (r.slotId + 1) :: (object ++ [0x80, 2, r.slotId + 1, status]) ∧
    r.dataIndicator = status.toNat.testBit 7

theorem indicator_eq (status : UInt8) : decide ((status &&& dataIndicator) ≠ 0) = status.toNat.testBit 7 := by
  have hbit : (status &&& dataIndicator).toNat = (status.toNat.testBit 7).toNat * 2 ^ 7 := by
    rw [UInt8.toNat_and, show dataIndicator.toNat = 2 ^ 7 from rfl, Nat.and_two_pow]
  simp only [ne_eq, ← UInt8.toNat_inj, hbit]
  cases status.toNat.testBit 7 <;> rfl

section Complete

variable {slotId slotsNum status : UInt8} {tag : TpduTag} {body object frame : Bytes}

theorem parseBody_object (h : Object (slotId + 1) tag body object) :
    (object ++ [0x80, 2, slotId + 1, status]).head? = some tag.raw ∧
      parseBody (withStatus slotId status (slotId :: (slotId + 1) :: object)) slotId (slotId + 1) tag = .ok body := by
  cases h with
  | data _ field _ n htag hfield hn => exact ⟨rfl, parseBody_data htag hfield hn⟩
  | reply _ htag =>
      refine ⟨rfl, ?_⟩
      rcases htag with rfl | rfl | rfl <;>
        simp [parseBody, withStatus, index, TpduTag.ctcReply, TpduTag.dtcReply, TpduTag.requestTc, TpduTag.dataLast,
          TpduTag.dataMore, TpduTag.sb]
  | extra _ x htag =>
      refine ⟨rfl, ?_⟩
      rcases htag with rfl | rfl <;>
        simp [parseBody, withStatus, index, TpduTag.newTc, TpduTag.tcError, TpduTag.ctcReply, TpduTag.dtcReply,
          TpduTag.requestTc, TpduTag.dataLast, TpduTag.dataMore, TpduTag.sb]
  | none =>
      refine ⟨rfl, ?_⟩
      simp [parseBody, withStatus, TpduTag.dataLast, TpduTag.dataMore, TpduTag.sb]

theorem Grammar.parse {r : RTpdu} (h : Grammar slotsNum frame r) : parse frame slotsNum = .ok r := by
  obtain ⟨hs, object, status, hobject, hframe, hindicator⟩ := h
  obtain ⟨htag, hbody⟩ := parseBody_object hobject
  have hparse := parse_withStatus hs htag hbody
  rw [indicator_eq, ← hindicator] at hparse
  rw [hframe]
  exact hparse

end Complete

section Sound

variable {slotId slotsNum tcId : UInt8} {tag : TpduTag} {frame more : Bytes}

theorem decode_sat_codes (data : Bytes) :
    (Asn1.decode data).Sat (fun r => ∃ field rest, data = field ++ rest ∧ Asn1.Codes r.1 field ∧
      r.2 = field.length) (fun _ => True) := by
  cases h : Asn1.decode data with
  | ok r => exact Asn1.codes_of_decode h
  | err e => trivial
  | panic => exact absurd h (Asn1.decode_ne_panic data)

theorem parseBody_sound (slotId tcId : UInt8) (tag : TpduTag) (more : Bytes) (hlen : 2 ≤ more.length) :
    (parseBody (slotId :: tcId :: tag.raw :: more) slotId tcId tag).Sat
      (fun body => ∃ object trailer, Object tcId tag body object ∧ trailer.length = 4 ∧
        slotId :: tcId :: tag.raw :: more = slotId :: tcId :: (object ++ trailer)) (fun _ => True) := by
  unfold parseBody
  simp only [sat_bind, sat_ite, sat_index, sat_err, sat_ok, sat_slice, sat_sub, sat_sliceFrom,
    implies_true, true_and, and_true, not_or, List.length_cons, List.drop_succ_cons, List.drop_zero]
  refine ⟨fun htag => ⟨by omega, ?_⟩, fun _ => ⟨fun htag h6 => ?_, fun _ => ⟨fun htag h9 => ?_,
    fun _ htag h10 => ?_⟩⟩⟩
  · refine (decode_sat_codes more).mono (fun decoded hdecoded hfit => ?_) (fun _ he => he)
    obtain ⟨n, size⟩ := decoded
    obtain ⟨field, rest, hmore, hfield, hsize⟩ := hdecoded
    dsimp only at hsize hfit hfield ⊢
    subst hsize hmore
    simp only [List.length_append] at hfit ⊢
    rcases rest with _ | ⟨x, rest⟩
    · simp only [List.length_nil] at hfit
      omega
    · simp only [List.length_cons] at hfit ⊢
      refine ⟨by omega, fun hx => ⟨by omega, ⟨by omega, by omega⟩, ?_⟩⟩
      have hx : x = tcId := by
        have hget := Classical.not_not.mp hx
        rw [List.getElem_eq_iff, show 3 + field.length = field.length + 1 + 1 + 1 by omega] at hget
        simpa using hget
      have hbody := drop_take_middle (slotId :: tcId :: tag.raw :: (field ++ [x])) (rest.take (n.toNat - 1))
        (rest.drop (n.toNat - 1))
      have hwidth : (slotId :: tcId :: tag.raw :: (field ++ [x])).length = 3 + field.length + 1 := by
        simp
        omega
      have hlast : (rest.take (n.toNat - 1)).length = n.toNat - 1 := by
        rw [List.length_take]
        omega
      rw [List.take_append_drop, hwidth, hlast] at hbody
      have hsplit : slotId :: tcId :: tag.raw :: (field ++ [x]) ++ rest =
          slotId :: tcId :: tag.raw :: (field ++ x :: rest) := by simp
      rw [hsplit, show 3 + field.length + 1 + (n.toNat - 1) = 3 + field.length + 1 + n.toNat - 1 by omega] at hbody
      rw [hbody]
      refine ⟨_, rest.drop (n.toNat - 1), .data tag field _ n htag hfield (by omega), ?_, ?_⟩
      · rw [List.length_drop]
        omega
      · simp [hx]
  · subst htag
    exact ⟨[], _, .none, by simp only [List.length_cons]; omega, rfl⟩
  · rcases more with _ | ⟨x, _ | ⟨y, more⟩⟩
    · simp at hlen
    · simp at hlen
    · simp only [List.length_cons] at h9
      refine ⟨by simp, by simp, fun hbytes => ⟨_, more, .reply tag htag, by omega, ?_⟩⟩
      simp only [List.getElem_cons_succ, List.getElem_cons_zero, Classical.not_not] at hbytes
      rw [hbytes.1, hbytes.2]
      rfl
  · rcases more with _ | ⟨x, _ | ⟨y, _ | ⟨z, more⟩⟩⟩
    · simp at hlen
    · simp at hlen
    · simp at h10
    · simp only [List.length_cons] at h10
      refine ⟨by simp, by simp, fun hbytes => ⟨_, more, .extra tag z htag, by omega, ?_⟩⟩
      simp only [List.getElem_cons_succ, List.getElem_cons_zero, Classical.not_not] at hbytes
      rw [hbytes.1, hbytes.2]
      rfl

theorem parse_sound (frame : Bytes) (slotsNum : UInt8) :
    (parse frame slotsNum).Sat (Grammar slotsNum frame) (fun _ => True) := by
  rcases frame with _ | ⟨slotId, _ | ⟨tcId, _ | ⟨tag, more⟩⟩⟩
  · trivial
  · trivial
  · trivial
  unfold parse
  simp only [sat_bind, sat_ite, sat_index, sat_err, sat_ok, sat_sub, sat_subU8, sat_sliceFrom, implies_true,
    true_and, not_or, List.length_drop, List.length_cons, List.getElem_cons_zero, List.getElem_cons_succ]
  intro hlen
  refine ⟨by omega, fun htc => ⟨by grind, by omega, fun hfirst => ⟨by omega, by omega, by omega,
    by omega, by omega, by omega, fun hsb => ⟨by omega, ?_⟩⟩⟩⟩
  have hslot : slotId = tcId - 1 := Classical.not_not.mp hfirst
  have hvalid : tcId - 1 < slotsNum := by grind
  have hback : tcId - 1 + 1 = tcId := UInt8.sub_add_cancel tcId 1
  have hends := List.take_append_drop (more.length + 1 + 1 + 1 - 4) (slotId :: tcId :: tag :: more)
  obtain ⟨s0, s1, s2, s3, htrailer⟩ : ∃ s0 s1 s2 s3,
      (slotId :: tcId :: tag :: more).drop (more.length + 1 + 1 + 1 - 4) = [s0, s1, s2, s3] := by
    refine List.length_eq_four.mp ?_
    rw [List.length_drop]
    simp only [List.length_cons]
    omega
  simp only [htrailer, List.getElem_cons_zero, List.getElem_cons_succ, Classical.not_not] at hsb ⊢
  obtain ⟨rfl, rfl, rfl⟩ := hsb
  subst hslot
  have hbody := parseBody_sound (s2 - 1) s2 ⟨tag⟩ more (by omega)
  refine hbody.mono (fun body hsound => ?_) (fun _ he => he)
  obtain ⟨object, trailer, hobject, hlast, hframe⟩ := hsound
  rw [htrailer, hframe, ← List.cons_append, ← List.cons_append] at hends
  obtain ⟨-, rfl⟩ := List.append_inj' hends (by rw [hlast]; rfl)
  refine ⟨hvalid, object, s3, ?_, ?_, indicator_eq s3⟩
  · rw [hback]
    exact hobject
  · rw [hback]
    exact hframe

end Sound

theorem parse_iff_grammar (frame : Bytes) (slotsNum : UInt8) (r : RTpdu) :
    parse frame slotsNum = .ok r ↔ Grammar slotsNum frame r := by
  constructor
  · intro h
    have hsound := parse_sound frame slotsNum
    rw [h] at hsound
    exact hsound
  · exact Grammar.parse

def Answers (tag : TpduTag) : Prop :=
  (tag = .ctcReply ∨ tag = .dtcReply ∨ tag = .requestTc) ∨ (tag = .newTc ∨ tag = .tcError) ∨
    (tag = .dataLast ∨ tag = .dataMore)

def dataOf (tag : TpduTag) (data : Bytes) : Bytes :=
  if tag = .dataLast ∨ tag = .dataMore then data else []

theorem object_of_build {slotId : UInt8} {tag : TpduTag} {data frame : Bytes} (htag : Answers tag)
    (h : build slotId tag data = .ok frame) :
    ∃ object, Object (slotId + 1) tag (dataOf tag data) object ∧ frame = slotId :: (slotId + 1) :: object := by
  rcases htag with htag | htag | htag
  · have hslot : slotId ≠ 255 := by
      rintro rfl
      simp [build] at h
    have hdata : dataOf tag data = [] := by rcases htag with rfl | rfl | rfl <;> rfl
    rw [hdata]
    refine ⟨[tag.raw, 1, slotId + 1], .reply tag htag, ?_⟩
    rcases htag with rfl | rfl | rfl <;>
      simpa [build, hslot, TpduTag.ctcReply, TpduTag.dtcReply, TpduTag.requestTc, TpduTag.rcv, TpduTag.createTc,
        TpduTag.deleteTc] using h.symm
  · have hslot : slotId ≠ 255 := by
      rintro rfl
      simp [build] at h
    have hdata : dataOf tag data = [] := by rcases htag with rfl | rfl <;> rfl
    rcases data with _ | ⟨x, data⟩
    · rcases htag with rfl | rfl <;>
        simp [build, hslot, TpduTag.newTc, TpduTag.tcError, TpduTag.ctcReply, TpduTag.dtcReply, TpduTag.requestTc,
          TpduTag.rcv, TpduTag.createTc, TpduTag.deleteTc] at h
    · rw [hdata]
      refine ⟨[tag.raw, 2, slotId + 1, x], .extra tag x htag, ?_⟩
      rcases htag with rfl | rfl <;>
        simpa [build, hslot, TpduTag.newTc, TpduTag.tcError, TpduTag.ctcReply, TpduTag.dtcReply, TpduTag.requestTc,
          TpduTag.rcv, TpduTag.createTc, TpduTag.deleteTc] using h.symm
  · obtain ⟨-, hlen, hframe⟩ := build_data_eq htag h
    have hdata : dataOf tag data = data := if_pos htag
    rw [hdata]
    refine ⟨_, .data tag _ data _ htag (Asn1.codes_encode _) (toNat_declared hlen), ?_⟩
    rw [hframe]
    simp

theorem r_tpdu_grammar (slotsNum : UInt8) :
    (∀ frame, parse frame slotsNum ≠ .panic ∧ ∀ r, parse frame slotsNum = .ok r ↔ Grammar slotsNum frame r) ∧
      ∀ slotId tag data object status, slotId < slotsNum → Answers tag → build slotId tag data = .ok object →
        parse (withStatus slotId status object) slotsNum =
          .ok { slotId, tag, body := dataOf tag data, dataIndicator := status.toNat.testBit 7 } := by
  refine ⟨fun frame => ⟨(parse_sat frame slotsNum).ne_panic, parse_iff_grammar frame slotsNum⟩, ?_⟩
  intro slotId tag data frame status hs htag hbuild
  obtain ⟨object, hobject, rfl⟩ := object_of_build htag hbuild
  exact (parse_iff_grammar _ _ _).mpr ⟨hs, object, status, hobject, rfl, rfl⟩

theorem r_tpdu_grammar_reply :
    parse [0x00, 0x01, 0x83, 0x01, 0x01, 0x80, 0x02, 0x01, 0x80] 1 =
      .ok { slotId := 0, tag := .ctcReply, body := [], dataIndicator := true } :=
  (r_tpdu_grammar 1).2 0 .ctcReply [] [0x00, 0x01, 0x83, 0x01, 0x01] 0x80 (by decide) (.inl (.inl rfl)) (by decide)

end LibDvb.Tpdu
