import Mathlib.Data.List.Basic

namespace LibDvb

variable {α β : Type}

-- A script: things to do, and least waits between them.
inductive Beat (α : Type) where
  | act (a : α)
  | wait (d : Nat)
  deriving DecidableEq, Repr

def schedule : Nat → List (Beat α) → List (Nat × α)
  | _, [] => []
  | now, .act a :: script => (now, a) :: schedule now script
  | now, .wait d :: script => schedule (now + d) script

theorem schedule_append (before after : List (Beat α)) : ∀ now,
    ∃ later, schedule now (before ++ after) = schedule now before ++ schedule later after := by
  induction before with
  | nil => exact fun now => ⟨now, rfl⟩
  | cons beat before ih =>
      intro now
      cases beat with
      | act a =>
          obtain ⟨later, h⟩ := ih now
          exact ⟨later, congrArg ((now, a) :: ·) h⟩
      | wait d => exact ih (now + d)

-- The second list is the first one with a delay that only grows, from the first bound on up to the last.
inductive Drift : Nat → List (Nat × α) → List (Nat × α) → Nat → Prop
  | nil {lag later} (grown : lag ≤ later) : Drift lag [] [] later
  | cons {lag later last t a ideal log} (grown : lag ≤ later) (rest : Drift later ideal log last) :
      Drift lag ((t, a) :: ideal) ((t + later, a) :: log) last

namespace Drift

variable {lag later last : Nat} {ideal log before after : List (Nat × α)} {entry : Nat × α}

theorem grown (h : Drift lag ideal log last) : lag ≤ last := by
  induction h with
  | nil grown => exact grown
  | cons grown _ ih => exact Nat.le_trans grown ih

theorem acts (h : Drift lag ideal log last) : log.map Prod.snd = ideal.map Prod.snd := by
  induction h with
  | nil => rfl
  | cons _ _ ih => exact congrArg (_ :: ·) ih

theorem weaken (h : Drift lag ideal log last) {least : Nat} (less : least ≤ lag) : Drift least ideal log last := by
  cases h with
  | nil grown => exact .nil (Nat.le_trans less grown)
  | cons grown rest => exact .cons (Nat.le_trans less grown) rest

theorem split (h : Drift lag ideal (before ++ entry :: after) last) :
    ∃ before' t after' atEntry, ideal = before' ++ (t, entry.2) :: after' ∧ Drift lag before' before atEntry ∧
      entry.1 = t + atEntry ∧ Drift atEntry after' after last := by
  induction before generalizing lag ideal with
  | nil =>
      cases h with
      | cons grown rest => exact ⟨[], _, _, _, rfl, .nil grown, rfl, rest⟩
  | cons first before ih =>
      cases h with
      | cons grown rest =>
          obtain ⟨before', t, after', atEntry, rfl, hbefore, hentry, hafter⟩ := ih rest
          exact ⟨_ :: before', t, after', atEntry, rfl, .cons grown hbefore, hentry, hafter⟩

theorem mem (h : Drift lag ideal log last) (hmem : entry ∈ log) :
    ∃ t, (t, entry.2) ∈ ideal ∧ t + lag ≤ entry.1 := by
  obtain ⟨before, after, rfl⟩ := List.append_of_mem hmem
  obtain ⟨before', t, after', atEntry, rfl, hbefore, hentry, _⟩ := h.split
  exact ⟨t, List.mem_append_right _ List.mem_cons_self, hentry ▸ Nat.add_le_add_left hbefore.grown t⟩

end Drift

end LibDvb
