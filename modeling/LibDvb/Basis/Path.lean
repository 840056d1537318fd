import LibDvb.Basis.Act
import Mathlib.Logic.Relation

namespace LibDvb

open Relation

variable {ε σ τ α β ℓ : Type}

def Act.Along (R : σ → σ → Prop) (m : Act ε σ α) (Q : α → σ → Prop) (E : ε → σ → Prop) (s : σ) :
    Prop :=
  m.wp (fun a s' => ReflTransGen R s s' ∧ Q a s') (fun e s' => ReflTransGen R s s' ∧ E e s') s

namespace Act

variable {R R' : σ → σ → Prop} {m : Act ε σ α} {Q Q' : α → σ → Prop} {E E' : ε → σ → Prop} {s : σ}

theorem along_mono (h : Along R m Q E s) (hq : ∀ a s', Q a s' → Q' a s')
    (he : ∀ e s', E e s' → E' e s') : Along R m Q' E' s :=
  wp_mono h (fun a s' h => ⟨h.1, hq a s' h.2⟩) (fun e s' h => ⟨h.1, he e s' h.2⟩)

theorem along_weaken (h : Along R m Q E s) (hr : ∀ s s', R s s' → R' s s') : Along R' m Q E s :=
  wp_mono h (fun _ _ h => ⟨ReflTransGen.mono hr _ _ h.1, h.2⟩)
    (fun _ _ h => ⟨ReflTransGen.mono hr _ _ h.1, h.2⟩)

theorem Along.wp (h : Along R m Q E s) : m.wp Q E s :=
  wp_mono h (fun _ _ h => h.2) (fun _ _ h => h.2)

theorem along_pure {a : α} (h : Q a s) : Along R (pure a : Act ε σ α) Q E s := ⟨.refl, h⟩

theorem along_fail {e : ε} (h : E e s) : Along R (fail e : Act ε σ α) Q E s := ⟨.refl, h⟩

theorem along_modify {f : σ → σ} {Q : Unit → σ → Prop} (hr : R s (f s)) (h : Q () (f s)) :
    Along R (modify f : Act ε σ Unit) Q E s := ⟨.single hr, h⟩

theorem along_bind {f : α → Act ε σ β} {Q' : β → σ → Prop} (hm : Along R m Q E s)
    (hf : ∀ a s', ReflTransGen R s s' → Q a s' → Along R (f a) Q' E s') :
    Along R (m >>= f) Q' E s := by
  refine wp_bind.mpr (wp_mono hm (fun a s' h => ?_) (fun _ _ h => h))
  exact wp_mono (hf a s' h.1 h.2) (fun _ _ h' => ⟨h.1.trans h'.1, h'.2⟩)
    (fun _ _ h' => ⟨h.1.trans h'.1, h'.2⟩)

theorem along_get_bind {f : σ → Act ε σ β} {Q : β → σ → Prop} (h : Along R (f s) Q E s) :
    Along R ((get : Act ε σ σ) >>= f) Q E s := h

theorem along_ok_bind {o : Outcome ε α} {f : α → Act ε σ β} {a : α} {Q : β → σ → Prop}
    (ho : o = .ok a) (h : Along R (f a) Q E s) : Along R (lift o >>= f) Q E s := by
  subst ho
  exact h

theorem along_zoom {l : Lens σ τ} {m : Act ε τ α} {T : τ → τ → Prop} {P : α → τ → Prop}
    {F : ε → τ → Prop} (hm : Along T m P F (l.get s)) (hset : l.set (l.get s) s = s)
    (hr : ∀ t t', ReflTransGen T (l.get s) t → T t t' → R (l.set t s) (l.set t' s))
    (hq : ∀ a t, ReflTransGen T (l.get s) t → P a t → Q a (l.set t s))
    (he : ∀ e t, ReflTransGen T (l.get s) t → F e t → E e (l.set t s)) :
    Along R (zoom l m) Q E s := by
  have hpath : ∀ t, ReflTransGen T (l.get s) t → ReflTransGen R s (l.set t s) := by
    intro t ht
    induction ht with
    | refl => rw [hset]
    | tail hab hbc ih => exact ih.tail (hr _ _ hab hbc)
  exact wp_zoom.mpr (wp_mono hm (fun a t h => ⟨hpath t h.1, hq a t h.1 h.2⟩)
    (fun e t h => ⟨hpath t h.1, he e t h.1 h.2⟩))

theorem along_forEach {xs : List α} {f : α → Act ε σ Unit} (I : List α → σ → Prop)
    (hf : ∀ x rest s, x :: rest <:+ xs → I (x :: rest) s → Along R (f x) (fun _ => I rest) E s) :
    ∀ s, I xs s → Along R (forEach xs f) (fun _ => I []) E s := by
  induction xs with
  | nil => exact fun s h => ⟨.refl, h⟩
  | cons x xs ih =>
      intro s h
      rw [forEach]
      refine along_bind (hf x xs s List.suffix_rfl h) (fun _ s' _ h' => ?_)
      exact ih (fun y rest s hs => hf y rest s (hs.trans (List.suffix_cons x xs))) s' h'

end Act

theorem Path.invariant {R : σ → σ → Prop} {I : σ → Prop} {s t : σ} (h : ReflTransGen R s t)
    (hs : I s) (hstep : ∀ a b, I a → R a b → I b) : I t := by
  induction h with
  | refl => exact hs
  | tail _ hr ih => exact hstep _ _ ih hr

theorem Path.order {R : σ → σ → Prop} {r : σ → σ → Prop} {s t : σ} (h : ReflTransGen R s t)
    (hrefl : ∀ a, r a a) (htrans : ∀ {a b c}, r a b → r b c → r a c)
    (hstep : ∀ a b, R a b → r a b) : r s t := by
  induction h with
  | refl => exact hrefl _
  | tail _ hr ih => exact htrans ih (hstep _ _ hr)

inductive Run (step : σ → ℓ → σ → Prop) (s : σ) : List ℓ → σ → Prop
  | nil : Run step s [] s
  | snoc {ls t l u} (run : Run step s ls t) (last : step t l u) : Run step s (ls ++ [l]) u

namespace Run

variable {step : σ → ℓ → σ → Prop} {s t : σ} {ls : List ℓ}

theorem invariant {I : σ → Prop} (h : Run step s ls t) (hs : I s)
    (hstep : ∀ a l b, I a → step a l b → I b) : I t := by
  induction h with
  | nil => exact hs
  | snoc _ last ih => exact hstep _ _ _ ih last

theorem history {I : List ℓ → σ → Prop} (h : Run step s ls t) (hs : I [] s)
    (hstep : ∀ as a l b, I as a → step a l b → I (as ++ [l]) b) : I ls t := by
  induction h with
  | nil => exact hs
  | snoc _ last ih => exact hstep _ _ _ _ ih last

theorem append {ls' : List ℓ} {u : σ} (h : Run step s ls t) (h' : Run step t ls' u) : Run step s (ls ++ ls') u := by
  induction h' with
  | nil => rwa [List.append_nil]
  | snoc _ last ih => exact List.append_assoc .. ▸ .snoc ih last

theorem cons {l : ℓ} {a : σ} (first : step a l s) (h : Run step s ls t) :
    Run step a (l :: ls) t := by
  induction h with
  | nil => exact .snoc .nil first
  | snoc _ last ih => exact .snoc ih last

end Run

def trail {κ : Type} (next : σ → κ → Option (ℓ × σ)) : σ → List κ → Option (List ℓ × σ)
  | s, [] => some ([], s)
  | s, k :: ks =>
      match next s k with
      | none => none
      | some (l, t) =>
          match trail next t ks with
          | none => none
          | some (ls, u) => some (l :: ls, u)

theorem trail_run {κ : Type} {next : σ → κ → Option (ℓ × σ)} (step : σ → ℓ → σ → Prop)
    (hnext : ∀ s k l t, next s k = some (l, t) → step s l t) {ks : List κ} {s t : σ} {ls : List ℓ}
    (h : trail next s ks = some (ls, t)) : Run step s ls t := by
  induction ks generalizing s ls with
  | nil =>
      simp only [trail, Option.some.injEq, Prod.mk.injEq] at h
      obtain ⟨rfl, rfl⟩ := h
      exact .nil
  | cons k ks ih =>
      simp only [trail] at h
      split at h
      · cases h
      · next l a hfirst =>
          split at h
          · cases h
          · next rest u hrest =>
              simp only [Option.some.injEq, Prod.mk.injEq] at h
              obtain ⟨rfl, rfl⟩ := h
              exact (ih hrest).cons (hnext _ _ _ _ hfirst)

end LibDvb
