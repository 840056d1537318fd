import LibDvb.Ca.Pacing

namespace LibDvb

section Order

variable {α : Type} {p keep : α → Bool} {xs ys : List α} {x : α}

def ahead (p : α → Bool) (xs : List α) : List α := xs.takeWhile fun x => !p x

def behind (p : α → Bool) (xs : List α) : List α := (xs.dropWhile fun x => !p x).tail.filter fun x => !p x

theorem ahead_cons_of_pos (h : p x = true) : ahead p (x :: xs) = [] := by simp [ahead, h]

theorem ahead_cons_of_neg (h : p x = false) : ahead p (x :: xs) = x :: ahead p xs := by simp [ahead, h]

theorem behind_cons_of_pos (h : p x = true) : behind p (x :: xs) = xs.filter fun x => !p x := by
  simp [behind, h]

theorem behind_cons_of_neg (h : p x = false) : behind p (x :: xs) = behind p xs := by simp [behind, h]

theorem ahead_append (h : xs.any p = true) : ahead p (xs ++ ys) = ahead p xs := by
  induction xs with
  | nil => simp at h
  | cons x xs ih =>
      cases hx : p x with
      | true => rw [List.cons_append, ahead_cons_of_pos hx, ahead_cons_of_pos hx]
      | false =>
          rw [List.any_cons, hx, Bool.false_or] at h
          rw [List.cons_append, ahead_cons_of_neg hx, ahead_cons_of_neg hx, ih h]

theorem ahead_filter (h : xs.any p = true) (hkeep : ∀ x, p x = true → keep x = true) :
    ahead p (xs.filter keep) = (ahead p xs).filter keep := by
  induction xs with
  | nil => simp at h
  | cons x xs ih =>
      cases hx : p x with
      | true => rw [List.filter_cons_of_pos (hkeep x hx), ahead_cons_of_pos hx, ahead_cons_of_pos hx, List.filter_nil]
      | false =>
          rw [List.any_cons, hx, Bool.false_or] at h
          rw [ahead_cons_of_neg hx]
          cases hk : keep x with
          | true => rw [List.filter_cons_of_pos hk, List.filter_cons_of_pos hk, ahead_cons_of_neg hx, ih h]
          | false =>
              have hdrop : ¬ keep x = true := by simp [hk]
              rw [List.filter_cons_of_neg hdrop, List.filter_cons_of_neg hdrop, ih h]

theorem ahead_move (h : xs.any p = true) (hx : p x = true) :
    ahead p (xs.filter (fun y => !p y) ++ [x]) = ahead p xs ++ behind p xs := by
  have hothers (ys : List α) : ahead p (ys.filter (fun y => !p y) ++ [x]) = ys.filter fun y => !p y := by
    induction ys with
    | nil => simp [ahead, hx]
    | cons y ys ih =>
        cases hy : p y with
        | true => simpa [hy] using ih
        | false => simpa [hy, ahead_cons_of_neg] using ih
  rw [hothers]
  induction xs with
  | nil => simp at h
  | cons y ys ih =>
      cases hy : p y with
      | true => simp [hy, ahead_cons_of_pos, behind_cons_of_pos]
      | false =>
          rw [List.any_cons, hy, Bool.false_or] at h
          simp [hy, ahead_cons_of_neg, behind_cons_of_neg, ih h]

end Order

def CaPmtPacer.after (pacer : CaPmtPacer) : List PacerOp → List CaPmtChange × CaPmtPacer
  | [] => ([], pacer)
  | op :: ops =>
      let (released, next) := op.run pacer
      let (rest, last) := next.after ops
      (released.toList ++ rest, last)

namespace CaPmtPacer

variable {pacer : CaPmtPacer} {p : UInt16} {op : PacerOp} {ops : List PacerOp} {program : Program}

-- The select of the program that is queued has not been released.
def Waiting (p : UInt16) (pacer : CaPmtPacer) (ops : List PacerOp) : Prop :=
  (pacer.after ops).1.any (queuedSet p) = false

structure KeepsPlace (p : UInt16) (pacer : CaPmtPacer) (ops : List PacerOp) : Prop where
  bound : (ahead (queuedSet p) (pacer.after ops).1).length ≤ (ahead (queuedSet p) pacer.queue).length
  place : ∀ before program after, ops = before ++ .pushSet program :: after → program.programNumber = p →
    Waiting p pacer before →
    ahead (queuedSet p) ((pacer.after before).2.pushSet program).queue =
      ahead (queuedSet p) (pacer.after before).2.queue

def SelectsLast (p : UInt16) (pacer : CaPmtPacer) (ops : List PacerOp) : Prop :=
  ∀ before program after, ops = before ++ .pushSet program :: after → program.programNumber = p →
    Waiting p pacer before → behind (queuedSet p) (pacer.after before).2.queue = []

theorem after_cons (pacer : CaPmtPacer) (op : PacerOp) (ops : List PacerOp) :
    pacer.after (op :: ops) =
      ((op.run pacer).1.toList ++ ((op.run pacer).2.after ops).1, ((op.run pacer).2.after ops).2) := rfl

theorem Waiting.cons (hrun : (op.run pacer).1.toList.any (queuedSet p) = false)
    (h : Waiting p (op.run pacer).2 ops) : Waiting p pacer (op :: ops) := by
  simp only [Waiting, after_cons, List.any_append, hrun, Bool.false_or] at h ⊢
  exact h

theorem SelectsLast.tail (h : SelectsLast p pacer (op :: ops))
    (hrun : (op.run pacer).1.toList.any (queuedSet p) = false) : SelectsLast p (op.run pacer).2 ops := by
  intro before program after heq hp hwait
  have := h (op :: before) program after (by rw [heq, List.cons_append]) hp (hwait.cons hrun)
  exact this

theorem queuedSet_ne {change : CaPmtChange} {number : UInt16} (hne : number ≠ p)
    (h : queuedSet p change = true) : change.programNumber ≠ number := by
  cases change with
  | set queued =>
      simp only [queuedSet, decide_eq_true_eq] at h
      exact fun he => hne (he ▸ h)
  | remove number => simp [queuedSet] at h

theorem run_keeps_place (hqueued : pacer.queue.any (queuedSet p) = true) (hop : op ≠ .pushRemove p) :
    (∃ change, (op.run pacer).1 = some change ∧ queuedSet p change = true) ∨
      ((op.run pacer).1.toList.any (queuedSet p) = false ∧
        (op.run pacer).2.queue.any (queuedSet p) = true ∧
        ((∀ program, op = .pushSet program → program.programNumber = p →
            behind (queuedSet p) pacer.queue = []) →
          (op.run pacer).1.toList.length + (ahead (queuedSet p) (op.run pacer).2.queue).length ≤
            (ahead (queuedSet p) pacer.queue).length)) := by
  have hkept (keep : CaPmtChange → Bool) (hkeep : ∀ change, queuedSet p change = true → keep change = true)
      (more : List CaPmtChange) :
      (pacer.queue.filter keep ++ more).any (queuedSet p) = true ∧
        (ahead (queuedSet p) (pacer.queue.filter keep ++ more)).length ≤
          (ahead (queuedSet p) pacer.queue).length := by
    have hany : (pacer.queue.filter keep).any (queuedSet p) = true := by
      obtain ⟨change, hmem, hset⟩ := List.any_eq_true.mp hqueued
      exact List.any_eq_true.mpr ⟨change, List.mem_filter.mpr ⟨hmem, hkeep change hset⟩, hset⟩
    refine ⟨by rw [List.any_append, hany, Bool.true_or], ?_⟩
    rw [ahead_append hany, ahead_filter hqueued hkeep]
    exact List.length_filter_le _ _
  cases op with
  | pushSet program =>
      right
      refine ⟨rfl, ?_⟩
      by_cases hp : program.programNumber = p
      · subst hp
        have hset : queuedSet program.programNumber (.set program) = true := by simp [queuedSet]
        have hmove := ahead_move hqueued hset
        refine ⟨by simp [PacerOp.run, pushSet, hset], fun hlast => ?_⟩
        rw [hlast program rfl rfl, List.append_nil] at hmove
        simp only [PacerOp.run, pushSet, hmove, Option.toList_none, List.length_nil, Nat.zero_add, Nat.le_refl]
      · have h := hkept (fun change => !queuedSet program.programNumber change)
          (fun change hset => by
            cases change with
            | set queued =>
                simp only [queuedSet, decide_eq_true_eq] at hset
                simp [queuedSet, hset, Ne.symm hp]
            | remove number => rfl) [.set program]
        exact ⟨h.1, fun _ => by simpa [PacerOp.run, pushSet] using h.2⟩
  | pushRemove number =>
      right
      have hne : number ≠ p := fun he => hop (he ▸ rfl)
      have h := hkept (fun change => change.programNumber ≠ number)
        (fun change hset => decide_eq_true (queuedSet_ne hne hset)) [.remove number]
      exact ⟨rfl, h.1, fun _ => by simpa [PacerOp.run, pushRemove] using h.2⟩
  | armApplicationInfo now => exact .inr ⟨rfl, hqueued, fun _ => Nat.le_of_eq (Nat.zero_add _)⟩
  | armCaInfo now => exact .inr ⟨rfl, hqueued, fun _ => Nat.le_of_eq (Nat.zero_add _)⟩
  | resetGate => exact .inr ⟨rfl, hqueued, fun _ => Nat.le_of_eq (Nat.zero_add _)⟩
  | setInterval interval => exact .inr ⟨rfl, hqueued, fun _ => Nat.le_of_eq (Nat.zero_add _)⟩
  | poll now =>
      have hreleases := poll_releases pacer now
      simp only [PacerOp.run]
      cases hreleased : (pacer.poll now).1 with
      | none =>
          right
          rw [hreleased, Option.toList_none, List.nil_append] at hreleases
          rw [← hreleases]
          exact ⟨rfl, hqueued, fun _ => Nat.le_of_eq (Nat.zero_add _)⟩
      | some change =>
          rw [hreleased, Option.toList_some, List.singleton_append] at hreleases
          cases hset : queuedSet p change with
          | true => exact .inl ⟨change, rfl, hset⟩
          | false =>
              right
              rw [hreleases, List.any_cons, hset, Bool.false_or] at hqueued
              refine ⟨by simp [hset], hqueued, fun _ => ?_⟩
              rw [hreleases, ahead_cons_of_neg hset, Option.toList_some, List.length_singleton, List.length_cons]
              exact Nat.le_of_eq (Nat.add_comm _ _)

theorem SelectsLast.bound (h : SelectsLast p pacer ops) (hqueued : pacer.queue.any (queuedSet p) = true)
    (hops : .pushRemove p ∉ ops) :
    (ahead (queuedSet p) (pacer.after ops).1).length ≤ (ahead (queuedSet p) pacer.queue).length := by
  induction ops generalizing pacer with
  | nil => exact Nat.zero_le _
  | cons op ops ih =>
      rw [List.mem_cons, not_or] at hops
      rw [after_cons]
      have hlast : ∀ program, op = .pushSet program → program.programNumber = p →
          behind (queuedSet p) pacer.queue = [] := by
        intro program heq hp
        exact h [] program ops (by rw [heq, List.nil_append]) hp rfl
      rcases run_keeps_place hqueued (Ne.symm hops.1) with ⟨change, hrun, hset⟩ | ⟨hrun, hstill, hle⟩
      · rw [hrun, Option.toList_some, List.singleton_append, ahead_cons_of_pos hset]
        exact Nat.zero_le _
      · have hrest := ih (h.tail hrun) hstill hops.2
        refine Nat.le_trans ?_ (hle hlast)
        cases hreleased : (op.run pacer).1 with
        | none => simpa using hrest
        | some change =>
            rw [hreleased, Option.toList_some, List.any_cons, List.any_nil, Bool.or_false] at hrun
            rw [Option.toList_some, List.singleton_append, ahead_cons_of_neg hrun, List.length_cons,
              List.length_singleton, Nat.add_comm 1]
            exact Nat.succ_le_succ hrest

theorem queued_of_waiting (hqueued : pacer.queue.any (queuedSet p) = true) (hops : .pushRemove p ∉ ops)
    (hwait : Waiting p pacer ops) : (pacer.after ops).2.queue.any (queuedSet p) = true := by
  induction ops generalizing pacer with
  | nil => exact hqueued
  | cons op ops ih =>
      rw [List.mem_cons, not_or] at hops
      simp only [Waiting, after_cons, List.any_append, Bool.or_eq_false_iff] at hwait
      rcases run_keeps_place hqueued (Ne.symm hops.1) with ⟨change, hrun, hset⟩ | ⟨hrun, hstill, hle⟩
      · simp [hrun, hset] at hwait
      · exact ih hstill hops.2 hwait.2

theorem pushSet_ahead (hqueued : pacer.queue.any (queuedSet p) = true) (hp : program.programNumber = p) :
    ahead (queuedSet p) (pacer.pushSet program).queue =
      ahead (queuedSet p) pacer.queue ++ behind (queuedSet p) pacer.queue := by
  subst hp
  exact ahead_move hqueued (by simp [queuedSet])

end CaPmtPacer

open CaPmtPacer

theorem queued_select_not_starved (pacer : CaPmtPacer) (p : UInt16) (ops : List PacerOp)
    (hqueued : pacer.queue.any (queuedSet p) = true) (hops : .pushRemove p ∉ ops) :
    KeepsPlace p pacer ops ↔ SelectsLast p pacer ops := by
  have hstill {before after : List PacerOp} {op : PacerOp} (heq : ops = before ++ op :: after)
      (hwait : Waiting p pacer before) : (pacer.after before).2.queue.any (queuedSet p) = true := by
    refine queued_of_waiting hqueued (fun hmem => hops ?_) hwait
    rw [heq]
    exact List.mem_append_left _ hmem
  constructor
  · intro h before program after heq hp hwait
    have hplace := h.place before program after heq hp hwait
    rw [pushSet_ahead (hstill heq hwait) hp] at hplace
    exact List.append_right_eq_self.mp hplace
  · intro h
    refine ⟨h.bound hqueued hops, fun before program after heq hp hwait => ?_⟩
    rw [pushSet_ahead (hstill heq hwait) hp, h before program after heq hp hwait, List.append_nil]

def programOf (programNumber : UInt16) (version : UInt8) : Program :=
  { programNumber, version, descriptors := [], streams := [] }

def twoSelects : CaPmtPacer :=
  { interval := 20, settle := 10, gate := .ready 0, queue := [.set (programOf 1 0), .set (programOf 2 0)] }

theorem queued_select_not_starved_other : KeepsPlace 1 twoSelects [.pushSet (programOf 2 1), .poll 21, .poll 42] := by
  refine (queued_select_not_starved twoSelects 1 _ (by decide) (by decide)).mpr ?_
  intro before program after heq hp
  have hmem : PacerOp.pushSet program ∈ [.pushSet (programOf 2 1), .poll 21, .poll 42] := by
    rw [heq]
    exact List.mem_append_right _ List.mem_cons_self
  simp only [List.mem_cons, List.not_mem_nil, or_false, PacerOp.pushSet.injEq, reduceCtorEq] at hmem
  rw [hmem] at hp
  exact absurd hp (by decide)

-- Program 1 stands first. Selected again before the poll, it is overtaken by program 2, and again.
theorem queued_select_starved : ¬ ∀ (pacer : CaPmtPacer) (p : UInt16) (ops : List PacerOp),
    pacer.queue.any (queuedSet p) = true → .pushRemove p ∉ ops →
      (ahead (queuedSet p) (pacer.after ops).1).length ≤ (ahead (queuedSet p) pacer.queue).length := by
  intro h
  have := h twoSelects 1 [.pushSet (programOf 1 1), .poll 21, .pushSet (programOf 2 1),
    .pushSet (programOf 1 2), .poll 42] (by decide) (by decide)
  exact absurd this (by decide)

end LibDvb
