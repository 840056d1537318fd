import Mathlib.Algebra.Order.Ring.Int
import LibDvb.Basis.Outcome

namespace LibDvb

namespace Outcome

variable {ε : Type}

-- The operators of the machine integers, which panic where the exact result does not fit.
def mulU32 (a b : UInt32) : Outcome ε UInt32 :=
  if a.toNat * b.toNat < UInt32.size then .ok (a * b) else .panic

def i64 (x : Int) : Outcome ε Int64 :=
  if -2 ^ 63 ≤ x ∧ x < 2 ^ 63 then .ok (Int64.ofInt x) else .panic

def subI64 (a b : Int64) : Outcome ε Int64 := i64 (a.toInt - b.toInt)

def mulI64 (a b : Int64) : Outcome ε Int64 := i64 (a.toInt * b.toInt)

def divI64 (a b : Int64) : Outcome ε Int64 :=
  if b = 0 then .panic else i64 (a.toInt.tdiv b.toInt)

def checkedAddU32 (a b : UInt32) : Option UInt32 :=
  if a.toNat + b.toNat < UInt32.size then some (a + b) else none

def checkedSubU32 (a b : UInt32) : Option UInt32 := if b ≤ a then some (a - b) else none

theorem checkedAddU32_eq (a b : UInt32) :
    (∃ c, checkedAddU32 a b = some c ∧ c.toNat = a.toNat + b.toNat) ∨
      (checkedAddU32 a b = none ∧ UInt32.size ≤ a.toNat + b.toNat) := by
  by_cases h : a.toNat + b.toNat < UInt32.size
  · exact .inl ⟨a + b, by rw [checkedAddU32, if_pos h], (UInt32.toNat_add a b).trans (Nat.mod_eq_of_lt h)⟩
  · exact .inr ⟨by rw [checkedAddU32, if_neg h], Nat.le_of_not_lt h⟩

theorem checkedSubU32_eq (a b : UInt32) :
    (∃ c, checkedSubU32 a b = some c ∧ c.toNat + b.toNat = a.toNat) ∨
      (checkedSubU32 a b = none ∧ a.toNat < b.toNat) := by
  by_cases h : b ≤ a
  · refine .inl ⟨a - b, by rw [checkedSubU32, if_pos h], ?_⟩
    rw [UInt32.toNat_sub_of_le a b h]
    exact Nat.sub_add_cancel (UInt32.le_iff_toNat_le.mp h)
  · exact .inr ⟨by rw [checkedSubU32, if_neg h], Nat.lt_of_not_le (mt UInt32.le_iff_toNat_le.mpr h)⟩

theorem mulU32_eq_ok {a b c : UInt32} : (mulU32 a b : Outcome ε UInt32) = .ok c ↔ c.toNat = a.toNat * b.toNat := by
  have hc := c.toNat_lt
  by_cases h : a.toNat * b.toNat < UInt32.size
  · rw [mulU32, if_pos h, Outcome.ok.injEq, ← UInt32.toNat_inj, UInt32.toNat_mul, Nat.mod_eq_of_lt h]
    exact eq_comm
  · rw [mulU32, if_neg h]
    exact iff_of_false nofun fun heq => h (by rw [← heq]; exact hc)

theorem mulU32_eq_panic {a b : UInt32} :
    (mulU32 a b : Outcome ε UInt32) = .panic ↔ UInt32.size ≤ a.toNat * b.toNat := by
  by_cases h : a.toNat * b.toNat < UInt32.size
  · rw [mulU32, if_pos h]
    exact iff_of_false nofun (Nat.not_le_of_lt h)
  · rw [mulU32, if_neg h]
    exact iff_of_true rfl (Nat.le_of_not_lt h)

theorem i64_toInt (x : Int64) : (i64 x.toInt : Outcome ε Int64) = .ok x := by
  rw [i64, if_pos ⟨x.le_toInt, x.toInt_lt⟩, Int64.ofInt_toInt]

theorem subI64_eq {a b c : Int64} (h : a.toInt - b.toInt = c.toInt) : (subI64 a b : Outcome ε Int64) = .ok c := by
  rw [subI64, h, i64_toInt]

theorem mulI64_eq {a b c : Int64} (h : a.toInt * b.toInt = c.toInt) : (mulI64 a b : Outcome ε Int64) = .ok c := by
  rw [mulI64, h, i64_toInt]

theorem divI64_eq {a b c : Int64} (hb : b ≠ 0) (h : a.toInt.tdiv b.toInt = c.toInt) :
    (divI64 a b : Outcome ε Int64) = .ok c := by
  rw [divI64, if_neg hb, h, i64_toInt]

end Outcome

theorem exists_toInt {x : Int} (lower : -2 ^ 63 ≤ x) (upper : x < 2 ^ 63) : ∃ a : Int64, a.toInt = x :=
  ⟨Int64.ofInt x, Int64.toInt_ofInt_of_le lower upper⟩

def asU32 (x : Int64) : UInt32 := x.toUInt64.toUInt32

theorem toNat_asU32 {x : Int64} {n : Nat} (h : x.toInt = n) (hn : n < 2 ^ 32) : (asU32 x).toNat = n := by
  have hx : x.toBitVec.toInt = n := h
  have hsmall := BitVec.toInt_pos_iff.mp (hx ▸ Int.natCast_nonneg n)
  rw [BitVec.toInt_eq_toNat_of_lt hsmall] at hx
  have hword : x.toUInt64.toNat = n := Int.ofNat.inj hx
  rw [asU32, UInt64.toNat_toUInt32, hword, Nat.mod_eq_of_lt hn]

theorem toInt_and_mask (x : Int64) : 0 ≤ (x &&& 0xFFFF).toInt ∧ (x &&& 0xFFFF).toInt < 2 ^ 16 := by
  have hbits : (x &&& 0xFFFF).toBitVec.toNat < 2 ^ 16 := by
    rw [Int64.toBitVec_and, BitVec.toNat_and]
    exact Nat.lt_of_le_of_lt Nat.and_le_right (by decide)
  have hint : (x &&& 0xFFFF).toInt = (x &&& 0xFFFF).toBitVec.toNat := BitVec.toInt_eq_toNat_of_lt (by omega)
  omega

theorem forall_uint8 {P : UInt8 → Prop} (h : ∀ n < 256, P (UInt8.ofNat n)) (b : UInt8) : P b := by
  have hb := h b.toNat b.toNat_lt
  rwa [UInt8.ofNat_toNat] at hb

end LibDvb
