import Mathlib.Data.List.Basic
import Mathlib.Logic.Function.Basic

namespace LibDvb

-- Writes to a map that wait in a queue. A write may replace the writes to its key that wait.
section Coalesce

variable {K V C : Type} [DecidableEq K] (key : C → K) (value : C → V)

def write (m : K → V) (change : C) : K → V := Function.update m (key change) (value change)

def written (m : K → V) (queue : List C) : K → V := queue.foldl (write key value) m

variable {key value} {m : K → V} {queue : List C}

@[simp] theorem written_nil : written key value m [] = m := rfl

theorem written_cons (change : C) :
    written key value m (change :: queue) = written key value (write key value m change) queue := rfl

theorem written_append (changes : List C) :
    written key value m (queue ++ changes) = written key value (written key value m queue) changes :=
  List.foldl_append

theorem write_of_ne {change : C} {k : K} (h : key change ≠ k) : write key value m change k = m k :=
  Function.update_of_ne h.symm _ _

theorem written_filter {keep : C → Bool} {k : K} (hkeep : ∀ change, key change = k → keep change = true)
    {m' : K → V} (hm : m k = m' k) :
    written key value m (queue.filter keep) k = written key value m' queue k := by
  induction queue generalizing m m' with
  | nil => exact hm
  | cons change rest ih =>
      rw [List.filter_cons, written_cons]
      by_cases hkey : key change = k
      · rw [if_pos (hkeep change hkey), written_cons]
        refine ih ?_
        simp [write, hkey]
      · split
        · rw [written_cons]
          refine ih ?_
          rw [write_of_ne hkey, write_of_ne hkey, hm]
        · refine ih ?_
          rw [write_of_ne hkey, hm]

theorem written_coalesced {keep : C → Bool} {change : C}
    (hkeep : ∀ other, key other ≠ key change → keep other = true) :
    written key value m (queue.filter keep ++ [change]) = written key value m (queue ++ [change]) := by
  funext k
  rw [written_append, written_append]
  by_cases hkey : key change = k
  · simp [written, write, hkey]
  · rw [written_cons, written_cons, written_nil, written_nil, write_of_ne hkey, write_of_ne hkey]
    exact written_filter (fun other hother => hkeep other fun heq => hkey (heq.symm.trans hother)) rfl

end Coalesce

end LibDvb
