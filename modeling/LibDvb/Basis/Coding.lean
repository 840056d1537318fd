import Mathlib.Data.List.Basic

namespace LibDvb.Coding

variable {α β : Type} {R : α → List β → Prop} {data front rest : List β} {codings : List (α × List β)}

def Starts (R : α → List β → Prop) (data : List β) : Prop := ∃ a coding rest, data = coding ++ rest ∧ R a coding

def joined (codings : List (α × List β)) : List β := codings.flatMap Prod.snd

structure Cut (R : α → List β → Prop) (data : List β) (codings : List (α × List β)) (rest : List β) : Prop where
  data : data = joined codings ++ rest
  codes : ∀ coded ∈ codings, R coded.1 coded.2
  stops : ¬ Starts R rest

theorem joined_cons (coded : α × List β) (codings : List (α × List β)) (rest : List β) :
    joined (coded :: codings) ++ rest = coded.2 ++ (joined codings ++ rest) := by
  rw [joined, List.flatMap_cons, List.append_assoc]
  rfl

theorem length_joined (hR : ∀ a coding, R a coding → coding ≠ []) (hall : ∀ coded ∈ codings, R coded.1 coded.2) :
    codings.length ≤ (joined codings).length := by
  induction codings with
  | nil => exact Nat.zero_le _
  | cons coded codings ih =>
      have hcoded : 0 < coded.2.length := List.length_pos_iff.mpr (hR _ _ (hall coded List.mem_cons_self))
      have hrest := ih fun other hmem => hall other (List.mem_cons_of_mem _ hmem)
      rw [joined, List.flatMap_cons, List.length_append, List.length_cons]
      rw [joined] at hrest
      omega

theorem exists_cut (hR : ∀ a coding, R a coding → coding ≠ []) (data : List β) :
    ∃ codings rest, Cut R data codings rest := by
  induction hlength : data.length using Nat.strongRecOn generalizing data with
  | ind length ih =>
      by_cases h : Starts R data
      · obtain ⟨a, coding, tail, rfl, hcoding⟩ := h
        have hpos : 0 < coding.length := List.length_pos_iff.mpr (hR a coding hcoding)
        have hshort : tail.length < length := by
          rw [← hlength, List.length_append]
          omega
        obtain ⟨codings, rest, hcut⟩ := ih tail.length hshort tail rfl
        refine ⟨(a, coding) :: codings, rest, ?_, ?_, hcut.stops⟩
        · rw [joined_cons, ← hcut.data]
        · intro coded hmem
          rcases List.mem_cons.mp hmem with rfl | hmem
          · exact hcoding
          · exact hcut.codes coded hmem
      · exact ⟨[], data, rfl, by simp, h⟩

def Determined (R : α → List β → Prop) : Prop :=
  ∀ a b coding coding' rest rest', R a coding → R b coding' → coding ++ rest = coding' ++ rest' → a = b ∧ coding = coding'

theorem Cut.extended (hdet : Determined R) {codings' : List (α × List β)} {rest' : List β}
    (h : Cut R front codings rest) (hmore : front <+: data) (h' : Cut R data codings' rest') : codings <+: codings' := by
  obtain ⟨more, rfl⟩ := hmore
  induction codings generalizing front codings' with
  | nil => exact List.nil_prefix
  | cons coded codings ih =>
      have hcoded := h.codes coded List.mem_cons_self
      have hfront := h.data
      rw [joined_cons] at hfront
      have hdata := h'.data
      rw [hfront, List.append_assoc] at hdata
      cases codings' with
      | nil => exact absurd ⟨coded.1, coded.2, _, hdata.symm, hcoded⟩ h'.stops
      | cons coded' codings' =>
          rw [joined_cons] at hdata
          obtain ⟨hvalue, hcoding⟩ := hdet _ _ _ _ _ _ hcoded (h'.codes coded' List.mem_cons_self) hdata
          obtain rfl : coded = coded' := Prod.ext hvalue hcoding
          have hrest : Cut R (joined codings ++ rest) codings rest :=
            ⟨rfl, fun other hmem => h.codes other (List.mem_cons_of_mem _ hmem), h.stops⟩
          have hrest' : Cut R (joined codings ++ rest ++ more) codings' rest' :=
            ⟨List.append_cancel_left hdata, fun other hmem => h'.codes other (List.mem_cons_of_mem _ hmem), h'.stops⟩
          exact List.cons_prefix_cons.mpr ⟨rfl, ih hrest hrest'⟩

end LibDvb.Coding
