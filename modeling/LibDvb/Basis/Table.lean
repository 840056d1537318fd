import Mathlib.Algebra.BigOperators.Group.Finset.Piecewise
import Mathlib.Algebra.Order.BigOperators.Group.Finset

namespace LibDvb.Table

variable {α : Type}

-- A table of numbered entries in which a freed place is used again.
def entry (xs : List (Option α)) (i : Nat) : Option α := (xs[i]?).join

def firstFree (xs : List (Option α)) : Nat := xs.findIdx Option.isNone

def place (xs : List (Option α)) (i : Nat) (a : α) : List (Option α) :=
  (if i = xs.length then xs ++ [none] else xs).set i (some a)

def count (p : α → Bool) (xs : List (Option α)) : Nat := xs.countP (Option.any p)

theorem entry_eq_some {xs : List (Option α)} {i : Nat} {a : α} :
    entry xs i = some a ↔ xs[i]? = some (some a) := by
  unfold entry
  cases h : xs[i]? with
  | none => simp
  | some o => cases o <;> simp

theorem entry_of_length_le {xs : List (Option α)} {i : Nat} (h : xs.length ≤ i) :
    entry xs i = none := by
  rw [entry, List.getElem?_eq_none h, Option.join_none]

theorem lt_of_entry {xs : List (Option α)} {i : Nat} {a : α} (h : entry xs i = some a) :
    i < xs.length := by
  by_contra hle
  rw [entry_of_length_le (Nat.not_lt.mp hle)] at h
  cases h

theorem entry_set {xs : List (Option α)} {i : Nat} (h : i < xs.length) (o : Option α) (j : Nat) :
    entry (xs.set i o) j = if i = j then o else entry xs j := by
  unfold entry
  by_cases hij : i = j
  · subst hij
    simp [h]
  · simp [hij]

theorem firstFree_le (xs : List (Option α)) : firstFree xs ≤ xs.length :=
  List.findIdx_le_length

theorem entry_firstFree (xs : List (Option α)) : entry xs (firstFree xs) = none := by
  by_cases h : firstFree xs < xs.length
  · have hfree : (xs[firstFree xs]).isNone := List.findIdx_getElem
    rw [entry, List.getElem?_eq_getElem h, Option.isNone_iff_eq_none.mp hfree]
    rfl
  · exact entry_of_length_le (Nat.not_lt.mp h)

theorem entry_of_lt_firstFree {xs : List (Option α)} {i : Nat} (h : i < firstFree xs) :
    ∃ a, entry xs i = some a := by
  have hlt : i < xs.length := h.trans_le (firstFree_le xs)
  have htaken : (xs[i]).isNone = false := List.not_of_lt_findIdx h
  cases hplace : xs[i] with
  | none => simp [hplace] at htaken
  | some a => exact ⟨a, entry_eq_some.mpr (by rw [List.getElem?_eq_getElem hlt, hplace])⟩

theorem length_place (xs : List (Option α)) (i : Nat) (a : α) :
    (place xs i a).length = if i = xs.length then xs.length + 1 else xs.length := by
  unfold place
  split <;> simp

theorem entry_place {xs : List (Option α)} {i : Nat} (h : i ≤ xs.length) (a : α) (j : Nat) :
    entry (place xs i a) j = if i = j then some a else entry xs j := by
  unfold place
  split
  · next hlast =>
      rw [entry_set (by simp [hlast])]
      split
      · rfl
      · unfold entry
        by_cases hj : j < xs.length
        · rw [List.getElem?_append_left hj]
        · rw [List.getElem?_append_right (Nat.not_lt.mp hj),
            List.getElem?_eq_none (Nat.not_lt.mp hj)]
          cases hd : j - xs.length with
          | zero => simp
          | succ d => simp
  · exact entry_set (by omega) _ _

theorem count_set_none {p : α → Bool} {xs : List (Option α)} {i : Nat} {a : α}
    (h : entry xs i = some a) :
    count p (xs.set i none) = count p xs - if p a then 1 else 0 := by
  have hi := lt_of_entry h
  have ha : xs[i] = some a := by
    have := entry_eq_some.mp h
    rwa [List.getElem?_eq_getElem hi, Option.some.injEq] at this
  rw [count, List.countP_set hi, ha]
  simp [count]

theorem count_set_some {p : α → Bool} {xs : List (Option α)} {i : Nat} {a b : α}
    (h : entry xs i = some a) (hp : p a = p b) : count p (xs.set i (some b)) = count p xs := by
  have hi := lt_of_entry h
  have ha : xs[i] = some a := by
    have := entry_eq_some.mp h
    rwa [List.getElem?_eq_getElem hi, Option.some.injEq] at this
  rw [count, List.countP_set hi, ha]
  simp only [Option.any_some, hp]
  split
  · next hb =>
      have hpos : 0 < xs.countP (Option.any p) :=
        List.countP_pos_iff.mpr ⟨xs[i], List.getElem_mem hi, by rw [ha, Option.any_some, hp, hb]⟩
      unfold count
      omega
  · simp [count]

theorem count_place {p : α → Bool} {xs : List (Option α)} {i : Nat} (a : α) (h : i ≤ xs.length)
    (hfree : entry xs i = none) :
    count p (place xs i a) = count p xs + if p a then 1 else 0 := by
  have hset (ys : List (Option α)) (hi : i < ys.length) (hnone : ys[i] = none) :
      count p (ys.set i (some a)) = count p ys + if p a then 1 else 0 := by
    rw [count, List.countP_set hi, hnone]
    simp [count]
  unfold place
  split
  · next hlast =>
      rw [hset _ (by simp [hlast]) (by simp [hlast])]
      simp [count, List.countP_append]
  · have hi : i < xs.length := by omega
    refine hset xs hi ?_
    rw [entry, List.getElem?_eq_getElem hi] at hfree
    cases hxs : xs[i] with
    | none => rfl
    | some b => simp [hxs] at hfree

open Finset

theorem length_eq_sum_count (f : α → Nat) (n : Nat) (xs : List (Option α))
    (hall : ∀ o ∈ xs, ∃ a, o = some a ∧ f a < n) :
    xs.length = ∑ k ∈ range n, count (fun a => f a = k) xs := by
  induction xs with
  | nil => simp [count]
  | cons o xs ih =>
      obtain ⟨a, rfl, ha⟩ := hall o (List.mem_cons_self ..)
      have ih := ih fun o ho => hall o (List.mem_cons_of_mem _ ho)
      have hcons (k : Nat) : count (fun a => f a = k) (some a :: xs) =
          count (fun a => f a = k) xs + if f a = k then 1 else 0 := by
        simp [count, List.countP_cons]
      simp only [hcons, sum_add_distrib, sum_ite_eq, mem_range, if_pos ha, List.length_cons, ih]

theorem length_lt_of_full (f : α → Nat) (n m : Nat) (xs : List (Option α)) (k₀ : Nat)
    (hk₀ : k₀ < n) (hfull : firstFree xs = xs.length)
    (hclass : ∀ i a, entry xs i = some a → f a < n)
    (hle : ∀ k, count (fun a => f a = k) xs ≤ m) (hlt : count (fun a => f a = k₀) xs < m) :
    xs.length < n * m := by
  have hall : ∀ o ∈ xs, ∃ a, o = some a ∧ f a < n := by
    intro o ho
    have htaken : ¬ o.isNone := fun hnone =>
      absurd (List.findIdx_lt_length_of_exists ⟨o, ho, hnone⟩) (by
        rw [show xs.findIdx Option.isNone = xs.length from hfull]
        exact Nat.lt_irrefl _)
    obtain ⟨i, hi⟩ := List.mem_iff_getElem?.mp ho
    cases o with
    | none => exact absurd rfl htaken
    | some a => exact ⟨a, rfl, hclass i a (entry_eq_some.mpr hi)⟩
  calc xs.length = ∑ k ∈ range n, count (fun a => f a = k) xs := length_eq_sum_count f n xs hall
    _ < ∑ _k ∈ range n, m := sum_lt_sum (fun k _ => hle k) ⟨k₀, mem_range.mpr hk₀, hlt⟩
    _ = n * m := by simp

end LibDvb.Table
