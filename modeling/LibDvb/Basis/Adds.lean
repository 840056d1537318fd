import Mathlib.Data.List.Basic

namespace LibDvb

variable {α : Type} {A A' : α → Prop} {xs ys zs : List α}

def Adds (A : α → Prop) (xs ys : List α) : Prop := ∃ delta, ys = xs ++ delta ∧ ∀ x ∈ delta, A x

theorem Adds.refl (xs : List α) : Adds A xs xs := ⟨[], (List.append_nil xs).symm, nofun⟩

theorem Adds.trans (h : Adds A xs ys) (h' : Adds A ys zs) : Adds A xs zs := by
  obtain ⟨delta, rfl, hall⟩ := h
  obtain ⟨delta', rfl, hall'⟩ := h'
  refine ⟨delta ++ delta', List.append_assoc .., fun x hmem => ?_⟩
  rcases List.mem_append.mp hmem with hmem | hmem
  · exact hall x hmem
  · exact hall' x hmem

theorem Adds.mono (h : Adds A xs ys) (ha : ∀ x, A x → A' x) : Adds A' xs ys := by
  obtain ⟨delta, rfl, hall⟩ := h
  exact ⟨delta, rfl, fun x hmem => ha x (hall x hmem)⟩

theorem adds_snoc {x : α} (hx : A x) (xs : List α) : Adds A xs (xs ++ [x]) := by
  refine ⟨[x], rfl, fun y hmem => ?_⟩
  rw [List.mem_singleton.mp hmem]
  exact hx

theorem Adds.drop (h : Adds A xs ys) : ∀ y ∈ ys.drop xs.length, A y := by
  obtain ⟨delta, rfl, hall⟩ := h
  rw [List.drop_left]
  exact hall

theorem snoc_split {before after : List α} {x y : α} :
    xs ++ [x] = before ++ y :: after ↔
      (after = [] ∧ before = xs ∧ y = x) ∨ ∃ rest, after = rest ++ [x] ∧ xs = before ++ y :: rest := by
  constructor
  · intro h
    rcases List.eq_nil_or_concat after with rfl | ⟨rest, z, rfl⟩
    · obtain ⟨rfl, hlast⟩ := List.append_inj' h rfl
      exact .inl ⟨rfl, rfl, (List.cons.inj hlast).1.symm⟩
    · rw [List.concat_eq_append, ← List.cons_append, ← List.append_assoc] at h
      obtain ⟨hinit, hlast⟩ := List.append_inj' h rfl
      obtain rfl := (List.cons.inj hlast).1
      exact .inr ⟨rest, List.concat_eq_append, hinit⟩
  · rintro (⟨rfl, rfl, rfl⟩ | ⟨rest, rfl, rfl⟩)
    · rfl
    · simp

end LibDvb
