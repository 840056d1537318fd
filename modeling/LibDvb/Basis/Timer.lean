import LibDvb.Basis.Path

namespace LibDvb

variable {σ ℓ : Type}

-- A system that is told the time now and then, and computes the instant at which a wait that starts
-- now comes to its end.
structure Clockwork (σ ℓ : Type) where
  starts : σ → Prop
  step : σ → ℓ → σ → Prop
  clock : σ → Option Nat
  told : ℓ → Option Nat
  due : Nat → Nat → Nat

-- A deadline of the system: the instant it stands at, the wait that a step sets it with, what is still
-- added when it is looked at, and the steps that act on it.
structure Timer (σ ℓ : Type) where
  mark : σ → Option Nat
  hold : σ → ℓ → σ → Nat
  lead : σ → Nat
  acts : σ → ℓ → σ → Prop

namespace Clockwork

variable (w : Clockwork σ ℓ) (timer : Timer σ ℓ)

def Reached (s : σ) : Prop := ∃ start labels, w.starts start ∧ Run w.step start labels s

inductive Stands (now hold : Nat) : σ → Prop
  | set {s label s'} (reached : w.Reached s) (step : w.step s label s') (ticked : w.clock s' = some now)
      (held : timer.hold s label s' = hold) (changed : timer.mark s' ≠ timer.mark s)
      (marked : timer.mark s' ≠ none) : Stands now hold s'
  | kept {s label s'} (stands : Stands now hold s) (step : w.step s label s')
      (same : timer.mark s' = timer.mark s) : Stands now hold s'

structure Keeps : Prop where
  starts : ∀ s, w.starts s → timer.mark s = none
  sets : ∀ s label s', w.Reached s → w.step s label s' → timer.mark s' = timer.mark s ∨ timer.mark s' = none ∨
    ∃ now, w.clock s' = some now ∧ timer.mark s' = some (w.due now (timer.hold s label s'))
  acts : ∀ s label s', w.Reached s → w.step s label s' → timer.acts s label s' →
    ∃ told, w.told label = some told ∧ ∀ mark, timer.mark s = some mark → mark + timer.lead s ≤ told

variable {w timer} {s s' : σ} {label : ℓ} {now hold : Nat}

theorem Reached.step (h : w.Reached s) (hstep : w.step s label s') : w.Reached s' := by
  obtain ⟨start, labels, hstart, hrun⟩ := h
  exact ⟨start, labels ++ [label], hstart, hrun.snoc hstep⟩

theorem Stands.reached (h : w.Stands timer now hold s) : w.Reached s := by
  induction h with
  | set reached step _ _ _ _ => exact reached.step step
  | kept _ step _ ih => exact ih.step step

theorem Stands.mark (hw : w.Keeps timer) (h : w.Stands timer now hold s) :
    timer.mark s = some (w.due now hold) := by
  induction h with
  | set reached step ticked held changed marked =>
      rcases hw.sets _ _ _ reached step with hsame | hnone | hset
      · exact absurd hsame changed
      · exact absurd hnone marked
      · obtain ⟨set, hclock, hmark⟩ := hset
        rw [ticked, Option.some.injEq] at hclock
        rw [hmark, ← hclock, held]
  | kept _ _ same ih => exact same.trans ih

theorem Keeps.stands (hw : w.Keeps timer) {start : σ} {labels : List ℓ} (hstart : w.starts start)
    (hrun : Run w.step start labels s) (marked : timer.mark s ≠ none) : ∃ now hold, w.Stands timer now hold s := by
  induction hrun with
  | nil => exact absurd (hw.starts _ hstart) marked
  | @snoc labels s label s' hrun hstep ih =>
      have hreached : w.Reached s := ⟨start, labels, hstart, hrun⟩
      by_cases hsame : timer.mark s' = timer.mark s
      · obtain ⟨now, hold, hstands⟩ := ih (hsame ▸ marked)
        exact ⟨now, hold, .kept hstands hstep hsame⟩
      · rcases hw.sets s label s' hreached hstep with heq | hnone | ⟨now, hclock, _⟩
        · exact absurd heq hsame
        · exact absurd hnone marked
        · exact ⟨now, _, .set hreached hstep hclock rfl hsame marked⟩

theorem Stands.on_time (hw : w.Keeps timer) (h : w.Stands timer now hold s) (hstep : w.step s label s')
    (hacts : timer.acts s label s') (hdue : w.due now hold = now + hold) :
    ∃ told, w.told label = some told ∧ now + hold + timer.lead s ≤ told := by
  obtain ⟨told, htold, hpast⟩ := hw.acts s label s' h.reached hstep hacts
  exact ⟨told, htold, hdue ▸ hpast _ (h.mark hw)⟩

end Clockwork

end LibDvb
