import LibDvb.Basis.Coalesce
import LibDvb.Ca.Controller.Run

namespace LibDvb

open Relation ConditionalAccessResource

def CaPmtChange.wanted : CaPmtChange → Option Program
  | set program => some program
  | remove _ => none

-- The programs that are selected once the queued changes are applied.
def applied (programs : KeyMap Program) (queue : List CaPmtChange) : KeyMap Program :=
  queue.foldl applyChange programs

structure CaPmtPacer.Coalesced (pacer : CaPmtPacer) : Prop where
  sets : ∀ programNumber, pacer.queue.countP (queuedSet programNumber) ≤ 1
  removes : ∀ programNumber, pacer.queue.count (.remove programNumber) ≤ 1
  order : ∀ program before after, pacer.queue = before ++ .set program :: after →
    .remove program.programNumber ∉ after

def accepted (labels : List ControllerLabel) : List CaPmtChange :=
  labels.flatMap fun label =>
    match label.reply with
    | .ok _ => label.op.changes
    | .error _ => []

section Queue

variable {programs : KeyMap Program} {queue : List CaPmtChange} {change : CaPmtChange} {pacer : CaPmtPacer}

theorem get_applyChange (programs : KeyMap Program) (change : CaPmtChange) :
    (fun k : UInt16 => (applyChange programs change)[k]?) =
      write CaPmtChange.programNumber CaPmtChange.wanted (fun k : UInt16 => programs[k]?) change := by
  funext k
  by_cases hkey : change.programNumber = k
  · subst hkey
    cases change <;>
      simp [applyChange, write, CaPmtChange.programNumber, CaPmtChange.wanted]
  · rw [write_of_ne hkey]
    cases change with
    | set program => exact KeyMap.get_insert_of_ne hkey program
    | remove programNumber =>
        rw [applyChange, KeyMap.get_erase]
        exact if_neg hkey

theorem get_applied (programs : KeyMap Program) (queue : List CaPmtChange) :
    (fun k : UInt16 => (applied programs queue)[k]?) =
      written CaPmtChange.programNumber CaPmtChange.wanted (fun k : UInt16 => programs[k]?) queue := by
  induction queue generalizing programs with
  | nil => rfl
  | cons change rest ih =>
      rw [written_cons, ← get_applyChange]
      exact ih _

theorem applied_append (programs : KeyMap Program) (queue changes : List CaPmtChange) :
    applied programs (queue ++ changes) = applied (applied programs queue) changes := List.foldl_append

theorem applied_coalesced {keep : CaPmtChange → Bool}
    (hkeep : ∀ other, other.programNumber ≠ change.programNumber → keep other = true) :
    applied programs (queue.filter keep ++ [change]) = applied programs (queue ++ [change]) := by
  refine KeyMap.ext fun k => ?_
  have hqueue : written CaPmtChange.programNumber CaPmtChange.wanted (fun k : UInt16 => programs[k]?)
      (queue.filter keep ++ [change]) = written CaPmtChange.programNumber CaPmtChange.wanted
        (fun k : UInt16 => programs[k]?) (queue ++ [change]) := written_coalesced hkeep
  rw [← get_applied, ← get_applied] at hqueue
  exact congrFun hqueue k

theorem applied_push (programs : KeyMap Program) (pacer : CaPmtPacer) (change : CaPmtChange) :
    applied programs (pacer.push change).queue = applied programs (pacer.queue ++ [change]) := by
  cases change with
  | set program =>
      refine applied_coalesced fun other hother => ?_
      cases other with
      | set queued =>
          have hne : queued.programNumber ≠ program.programNumber := hother
          simpa [CaPmtPacer.queuedSet] using hne
      | remove programNumber => rfl
  | remove programNumber => exact applied_coalesced fun other hother => decide_eq_true hother

theorem applied_pushes (programs : KeyMap Program) (changes : List CaPmtChange) (pacer : CaPmtPacer) :
    applied programs (changes.foldl CaPmtPacer.push pacer).queue =
      applied (applied programs pacer.queue) changes := by
  induction changes generalizing pacer with
  | nil => rfl
  | cons change rest ih =>
      rw [List.foldl_cons, ih, applied_push, applied_append]
      rfl

def Replaces (first second : CaPmtChange) : Prop :=
  first.programNumber = second.programNumber →
    first.wanted = none ∧ second.wanted.isSome

theorem pairwise_push (h : pacer.queue.Pairwise Replaces) (change : CaPmtChange) :
    (pacer.push change).queue.Pairwise Replaces := by
  cases change with
  | set program =>
      refine List.pairwise_append.mpr ⟨h.filter _, List.pairwise_singleton .., fun other hmem last hlast => ?_⟩
      rw [List.mem_singleton.mp hlast]
      intro hnumber
      cases other with
      | set queued =>
          have hkept := (List.mem_filter.mp hmem).2
          have hsame : queued.programNumber = program.programNumber := hnumber
          simp [CaPmtPacer.queuedSet, hsame] at hkept
      | remove programNumber => exact ⟨rfl, rfl⟩
  | remove programNumber =>
      refine List.pairwise_append.mpr ⟨h.filter _, List.pairwise_singleton .., fun other hmem last hlast => ?_⟩
      rw [List.mem_singleton.mp hlast]
      intro hnumber
      have hkept := (List.mem_filter.mp hmem).2
      exact absurd hnumber (of_decide_eq_true hkept)

theorem pairwise_pushes (h : pacer.queue.Pairwise Replaces) (changes : List CaPmtChange) :
    (changes.foldl CaPmtPacer.push pacer).queue.Pairwise Replaces := by
  induction changes generalizing pacer with
  | nil => exact h
  | cons change rest ih => exact ih (pairwise_push h change)

theorem countP_le_one {p : CaPmtChange → Bool} (h : queue.Pairwise Replaces)
    (hp : ∀ first second, p first = true → p second = true → ¬ Replaces first second) :
    queue.countP p ≤ 1 := by
  induction queue with
  | nil => exact Nat.zero_le 1
  | cons first rest ih =>
      rw [List.pairwise_cons] at h
      rw [List.countP_cons]
      split
      · next hfirst =>
          have hnone : rest.countP p = 0 := List.countP_eq_zero.mpr fun second hmem hsecond =>
            hp first second hfirst hsecond (h.1 second hmem)
          rw [hnone]
      · exact ih h.2

theorem coalesced_of_pairwise (h : pacer.queue.Pairwise Replaces) : pacer.Coalesced where
  sets programNumber := by
    refine countP_le_one h fun first second hfirst hsecond hreplaces => ?_
    cases first with
    | remove _ => cases hfirst
    | set program =>
        cases second with
        | remove _ => cases hsecond
        | set other =>
            have hnumber : program.programNumber = other.programNumber :=
              (of_decide_eq_true hfirst).trans (of_decide_eq_true hsecond).symm
            cases (hreplaces hnumber).1
  removes programNumber := by
    refine countP_le_one h fun first second hfirst hsecond hreplaces => ?_
    rw [eq_of_beq hfirst, eq_of_beq hsecond] at hreplaces
    cases (hreplaces rfl).2
  order program before after heq hmem := by
    rw [heq, List.pairwise_append, List.pairwise_cons] at h
    cases (h.2.1.1 _ hmem rfl).1

end Queue

namespace CiSession

variable {A V : UInt8 → Prop} {s s' : CiSession}

theorem Move.programs (hm : Move A V s s') :
    s'.resources.conditionalAccess.programs = s.resources.conditionalAccess.programs := by
  cases hm with
  | @opened slotId kind t slot notice bound count path whole => cases kind <;> rfl
  | @closed index session live slot =>
      simp only [freed]
      split
      · next kind hkind => cases kind <;> rfl
      · rfl
  | _ => rfl

end CiSession

namespace CiController

variable {V : UInt8 → Prop} {c c' : CiController}

def programs (c : CiController) : KeyMap Program := c.session.resources.conditionalAccess.programs

structure Selects (c : CiController) (wanted : KeyMap Program) : Prop where
  applied : applied c.programs c.pacer.queue = wanted
  queue : c.pacer.queue.Pairwise Replaces

variable {wanted : KeyMap Program}

theorem Selects.move (h : c.Selects wanted) (hm : Move V c c') : c'.Selects wanted := by
  cases hm with
  | session move =>
      refine ⟨?_, h.queue⟩
      rw [programs, move.programs]
      exact h.applied
  | @polled now idle =>
      have hqueue : (c.pacer.poll now).2.queue = c.pacer.queue := poll_idle idle
      refine ⟨?_, hqueue ▸ h.queue⟩
      show LibDvb.applied c.programs (c.pacer.poll now).2.queue = wanted
      rw [hqueue]
      exact h.applied
  | @programmed now change s due programmed =>
      have hqueue := poll_queue due
      have hprograms : s.resources.conditionalAccess.programs = applyChange c.programs change := by
        cases programmed with
        | idle same => exact same.symm
        | done records path acts whole => rfl
        | failed records path broken => rfl
      obtain ⟨happlied, hpairwise⟩ := h
      rw [hqueue] at happlied hpairwise
      refine ⟨?_, (List.pairwise_cons.mp hpairwise).2⟩
      show LibDvb.applied s.resources.conditionalAccess.programs (c.pacer.poll now).2.queue = wanted
      rw [hprograms]
      exact happlied
  | _ => exact ⟨h.applied, h.queue⟩

theorem Selects.step (h : c.Selects wanted) (hs : Step c c') : c'.Selects wanted := by
  cases hs with
  | work work =>
      cases work with
      | move move => exact h.move move
      | info slotId present ready => exact ⟨h.applied, h.queue⟩
  | _ => exact ⟨h.applied, h.queue⟩

theorem Selects.pushed (h : c.Selects wanted) (op : ControllerOp) :
    Selects { c with pacer := op.push c.pacer } (LibDvb.applied wanted op.changes) := by
  have hchanges (changes : List CaPmtChange) :
      Selects { c with pacer := changes.foldl CaPmtPacer.push c.pacer } (LibDvb.applied wanted changes) := by
    refine ⟨?_, pairwise_pushes h.queue changes⟩
    rw [← h.applied]
    exact applied_pushes c.programs changes c.pacer
  cases op with
  | setCaPmtInterval interval => exact ⟨h.applied, h.queue⟩
  | _ => exact hchanges _

theorem Turn.refused {op : ControllerOp} {e : Error} (ht : Turn c op (.error e) c') :
    op.changes = [] := by
  cases ht with
  | pushed queues refused silent => exact refused e rfl
  | commanded sends active done silent => cases op <;> cases sends <;> rfl
  | inactive sends active => cases op <;> cases sends <;> rfl
  | _ => rfl

theorem Selects.turned {op : ControllerOp} {reply : Except Error (Option CaEvent)}
    (h : c.Selects wanted) (ht : Turn c op reply c') : c'.Selects (LibDvb.applied wanted op.changes) := by
  obtain ⟨c₁, hsteps, _, hsame⟩ := ht.steps
  have h₁ : c₁.Selects (LibDvb.applied wanted op.changes) :=
    LibDvb.Path.invariant (I := fun c => c.Selects (LibDvb.applied wanted op.changes)) hsteps (h.pushed op)
      fun _ _ => Selects.step
  rw [hsame]
  exact ⟨h₁.applied, h₁.queue⟩

end CiController

open CiController in
theorem ControllerRun.selects {start c : CiController} {labels : List ControllerLabel}
    (h : ControllerRun start labels c) : c.Selects (applied ∅ (accepted labels)) := by
  refine (h.2.history (I := fun labels c => c.Settled ∧ c.Selects (applied ∅ (accepted labels)))
    ⟨settled_start h.1, ?_⟩ fun labels c label c' hi hstep => ⟨hi.1.step hstep, ?_⟩).2
  · obtain ⟨link, slotsNum, hsession⟩ := (blank_start h.1).session
    refine ⟨?_, ?_⟩
    · rw [(blank_start h.1).queue, CiController.programs, hsession]
      rfl
    · rw [(blank_start h.1).queue]
      exact .nil
  · have hturn := step_turn hi.1 hstep
    have hlinked : (linkLens.set label.link c).Selects (applied ∅ (accepted labels)) :=
      ⟨hi.2.applied, hi.2.queue⟩
    have hnext := hlinked.turned hturn
    rw [accepted, List.flatMap_append, ← accepted, applied_append]
    cases hreply : label.reply with
    | ok reply => simpa [hreply] using hnext
    | error e =>
        rw [hreply] at hturn
        rw [hturn.refused] at hnext
        simpa [hreply] using hnext

theorem program_changes_kept {start c : CiController} {labels : List ControllerLabel}
    (h : ControllerRun start labels c) :
    applied c.programs c.pacer.queue = applied ∅ (accepted labels) ∧ c.pacer.Coalesced :=
  ⟨h.selects.applied, coalesced_of_pairwise h.selects.queue⟩

def news : Program := { programNumber := 7, version := 0, descriptors := [], streams := [] }

def reselected : List (CaDevice × ControllerOp) :=
  [({}, .queueProgram news), ({}, .removeProgram 7), ({}, .removeProgram 0), ({}, .queueProgram news),
    ({}, .queueProgram { news with version := 1 }), ({}, .tick 0)]

theorem program_changes_kept_reselected : ∃ start labels c, ControllerRun start labels c ∧
    c.pacer.queue = [.remove 7, .set { news with version := 1 }] ∧
    applied c.programs c.pacer.queue = applied ∅ (accepted labels) ∧ c.pacer.Coalesced := by
  obtain ⟨start, hrun⟩ := @ControllerRun.of_trail {} {} reselected (by decide +kernel)
  exact ⟨start, _, _, hrun, by decide +kernel, program_changes_kept hrun⟩

end LibDvb
