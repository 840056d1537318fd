import Mathlib.Data.Nat.Bitwise
import Mathlib.Data.Nat.Prime.Basic
import Mathlib.Dynamics.PeriodicPts.Defs
import Mathlib.Order.Interval.Finset.Nat

namespace LibDvb.Register

open Function

structure Linear (width : Nat) (f : Nat → Nat) : Prop where
  bound : ∀ x, x < 2 ^ width → f x < 2 ^ width
  map_xor : ∀ x y, x < 2 ^ width → y < 2 ^ width → f (x ^^^ y) = f x ^^^ f y

variable {width : Nat} {f g : Nat → Nat} {x : Nat}

section Linear

theorem Linear.map_zero (h : Linear width f) : f 0 = 0 := by
  have hself := h.map_xor 0 0 (Nat.two_pow_pos width) (Nat.two_pow_pos width)
  rwa [Nat.xor_self, Nat.xor_self] at hself

theorem Linear.iterate (h : Linear width f) (n : Nat) : Linear width f^[n] := by
  induction n with
  | zero => exact ⟨fun _ hx => hx, fun _ _ _ _ => rfl⟩
  | succ n ih =>
      refine ⟨fun x hx => ?_, fun x y hx hy => ?_⟩
      · rw [iterate_succ_apply]
        exact ih.bound _ (h.bound x hx)
      · rw [iterate_succ_apply, iterate_succ_apply, iterate_succ_apply, h.map_xor x y hx hy]
        exact ih.map_xor _ _ (h.bound x hx) (h.bound y hy)

end Linear

section Images

def images (width : Nat) (f : Nat → Nat) : List Nat := (List.range width).map fun i => f (2 ^ i)

def applyTo : List Nat → Nat → Nat
  | [], _ => 0
  | image :: rest, x => (if x % 2 = 1 then image else 0) ^^^ applyTo rest (x / 2)

theorem shift_split (x s : Nat) : x <<< s = ((x % 2) <<< s) ^^^ ((x / 2) <<< (s + 1)) := by
  have hsplit : x = (x % 2) ^^^ (x / 2) <<< 1 := by
    apply Nat.eq_of_testBit_eq
    intro i
    rw [Nat.testBit_xor, Nat.testBit_shiftLeft]
    cases i with
    | zero =>
        rw [Nat.testBit_zero, Nat.testBit_zero]
        simp
    | succ i =>
        have hlow : (x % 2).testBit (i + 1) = false :=
          Nat.testBit_eq_false_of_lt (Nat.lt_of_lt_of_le (Nat.mod_lt _ (by decide)) (Nat.le_self_pow (by omega) 2))
        rw [hlow, Nat.testBit_succ]
        simp
  calc x <<< s = ((x % 2) ^^^ (x / 2) <<< 1) <<< s := congrArg (· <<< s) hsplit
    _ = ((x % 2) <<< s) ^^^ ((x / 2) <<< (s + 1)) := by
      rw [Nat.shiftLeft_xor_distrib, ← Nat.shiftLeft_add, Nat.add_comm 1 s]

theorem applyTo_range (h : Linear width f) : ∀ n s x, s + n ≤ width → x < 2 ^ n →
    applyTo ((List.range' s n).map fun i => f (2 ^ i)) x = f (x <<< s) := by
  intro n
  induction n with
  | zero =>
      intro s x _ hx
      obtain rfl : x = 0 := Nat.lt_one_iff.mp hx
      rw [Nat.zero_shiftLeft, h.map_zero]
      rfl
  | succ n ih =>
      intro s x hs hx
      have hhalf : x / 2 < 2 ^ n := by
        rw [Nat.pow_succ] at hx
        omega
      have hbit : (x % 2) <<< s < 2 ^ width := by
        rw [Nat.shiftLeft_eq]
        calc x % 2 * 2 ^ s ≤ 1 * 2 ^ s := Nat.mul_le_mul_right _ (by omega)
          _ < 2 ^ width := by
            rw [Nat.one_mul]
            exact Nat.pow_lt_pow_right (by decide) (by omega)
      have hrest : (x / 2) <<< (s + 1) < 2 ^ width := by
        rw [Nat.shiftLeft_eq]
        calc x / 2 * 2 ^ (s + 1) < 2 ^ n * 2 ^ (s + 1) := Nat.mul_lt_mul_of_pos_right hhalf (Nat.two_pow_pos _)
          _ = 2 ^ (s + (n + 1)) := by
            rw [← Nat.pow_add]
            congr 1
            omega
          _ ≤ 2 ^ width := Nat.pow_le_pow_right (by decide) hs
      rw [List.range'_succ, List.map_cons, applyTo, ih (s + 1) (x / 2) (by omega) hhalf, shift_split x s,
        h.map_xor _ _ hbit hrest]
      congr 1
      rcases Nat.mod_two_eq_zero_or_one x with hzero | hone
      · rw [hzero, Nat.zero_shiftLeft, h.map_zero]
        rfl
      · rw [hone, if_pos rfl, Nat.one_shiftLeft]

theorem applyTo_images (h : Linear width f) (hx : x < 2 ^ width) : applyTo (images width f) x = f x := by
  rw [images, List.range_eq_range', applyTo_range h width 0 x (Nat.le_of_eq (Nat.zero_add _)) hx, Nat.shiftLeft_zero]

theorem images_comp (h : Linear width f) (hg : ∀ x, x < 2 ^ width → g x < 2 ^ width) :
    (images width g).map (applyTo (images width f)) = images width (f ∘ g) := by
  rw [show images width g = (List.range width).map fun i => g (2 ^ i) from rfl, List.map_map]
  refine List.map_congr_left fun i hi => ?_
  exact applyTo_images h (hg _ (Nat.pow_lt_pow_right (by decide) (List.mem_range.mp hi)))

def advance (step : List Nat) (current : List Nat) (digit : Bool) : List Nat :=
  let doubled := current.map (applyTo current)
  if digit then doubled.map (applyTo step) else doubled

def digitsValue (digits : List Bool) : Nat := digits.foldl (fun n digit => 2 * n + digit.toNat) 0

def jump (width : Nat) (step : List Nat) (digits : List Bool) (x : Nat) : Nat :=
  applyTo (digits.foldl (advance step) (images width id)) x

theorem advance_images (h : Linear width f) (n : Nat) (digit : Bool) :
    advance (images width f) (images width f^[n]) digit = images width f^[2 * n + digit.toNat] := by
  have hdouble : (images width f^[n]).map (applyTo (images width f^[n])) = images width f^[2 * n] := by
    rw [images_comp (h.iterate n) (h.iterate n).bound, ← iterate_add, ← Nat.two_mul]
  cases digit with
  | false => exact hdouble
  | true =>
      show ((images width f^[n]).map (applyTo (images width f^[n]))).map (applyTo (images width f)) = _
      rw [hdouble, images_comp h (h.iterate _).bound, ← iterate_succ']
      rfl

theorem jump_eq (h : Linear width f) (digits : List Bool) (hx : x < 2 ^ width) :
    jump width (images width f) digits x = f^[digitsValue digits] x := by
  have hfold (n : Nat) : digits.foldl (advance (images width f)) (images width f^[n]) =
      images width f^[digits.foldl (fun n digit => 2 * n + digit.toNat) n] := by
    induction digits generalizing n with
    | nil => rfl
    | cons digit digits ih => rw [List.foldl_cons, List.foldl_cons, advance_images h, ih]
  rw [jump, show images width id = images width f^[0] from rfl, hfold, digitsValue]
  exact applyTo_images (h.iterate _) hx

end Images

section Orbit

theorem minimalPeriod_of_proper {n : Nat} (hperiod : f^[n] x = x)
    (hproper : ∀ p, p.Prime → p ∣ n → f^[n / p] x ≠ x) : minimalPeriod f x = n := by
  have hdvd : minimalPeriod f x ∣ n := IsPeriodicPt.minimalPeriod_dvd hperiod
  obtain ⟨k, hk⟩ := hdvd
  rcases eq_or_ne k 1 with rfl | hne
  · rw [hk, Nat.mul_one]
  · obtain ⟨p, hp, j, rfl⟩ := Nat.exists_prime_and_dvd hne
    have hquotient : n / p = minimalPeriod f x * j := by
      rw [hk, Nat.mul_left_comm, Nat.mul_div_cancel_left _ hp.pos]
    refine absurd ?_ (hproper p hp ⟨minimalPeriod f x * j, by rw [hk, Nat.mul_left_comm]⟩)
    rw [hquotient]
    exact isPeriodicPt_iff_minimalPeriod_dvd.mpr (Nat.dvd_mul_right _ _)

theorem exists_least_steps (h : Linear width f) (hperiod : minimalPeriod f 1 = 2 ^ width - 1) {c : Nat} (hc : 0 < c)
    (hbound : c < 2 ^ width) : ∃ n < 2 ^ width - 1, f^[n] 1 = c ∧ ∀ m < n, f^[m] 1 ≠ c := by
  have hone : 1 < 2 ^ width := Nat.lt_of_le_of_lt hc hbound
  have hinj : Set.InjOn (f^[·] 1) (Finset.range (2 ^ width - 1)) := by
    intro m hm n hn heq
    rw [Finset.coe_range, ← hperiod] at hm hn
    exact iterate_injOn_Iio_minimalPeriod hm hn heq
  have hnonzero (n : Nat) (hn : n < 2 ^ width - 1) : f^[n] 1 ≠ 0 := by
    intro hzero
    have hback : f^[2 ^ width - 1 - n] (f^[n] 1) = 1 := by
      rw [← iterate_add_apply, Nat.sub_add_cancel (Nat.le_of_lt hn), ← hperiod]
      exact iterate_minimalPeriod
    rw [hzero, (h.iterate _).map_zero] at hback
    cases hback
  have hsubset : (Finset.range (2 ^ width - 1)).image (f^[·] 1) ⊆ Finset.Ico 1 (2 ^ width) := by
    intro y hy
    obtain ⟨n, hn, rfl⟩ := Finset.mem_image.mp hy
    exact Finset.mem_Ico.mpr ⟨Nat.pos_of_ne_zero (hnonzero n (Finset.mem_range.mp hn)), (h.iterate n).bound 1 hone⟩
  have hall : (Finset.range (2 ^ width - 1)).image (f^[·] 1) = Finset.Ico 1 (2 ^ width) := by
    refine Finset.eq_of_subset_of_card_le hsubset ?_
    rw [Finset.card_image_of_injOn hinj, Finset.card_range, Nat.card_Ico]
  obtain ⟨n, hn, rfl⟩ := Finset.mem_image.mp (hall ▸ Finset.mem_Ico.mpr ⟨hc, hbound⟩)
  refine ⟨n, Finset.mem_range.mp hn, rfl, fun m hm heq => ?_⟩
  have hm' : m ∈ Finset.range (2 ^ width - 1) := Finset.mem_range.mpr (hm.trans (Finset.mem_range.mp hn))
  exact absurd (hinj hm' hn heq) (Nat.ne_of_lt hm)

end Orbit

end LibDvb.Register
