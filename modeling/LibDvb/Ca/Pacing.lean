import LibDvb.Ca.Pacer
import Mathlib.Data.List.Induction
import Mathlib.Tactic.Common

namespace LibDvb

inductive PacerOp where
  | pushSet (program : Program)
  | pushRemove (programNumber : UInt16)
  | armApplicationInfo (now : Instant)
  | armCaInfo (now : Instant)
  | resetGate
  | setInterval (interval : Duration)
  | poll (now : Instant)
  deriving DecidableEq, Repr

namespace PacerOp

def run (op : PacerOp) (pacer : CaPmtPacer) : Option CaPmtChange × CaPmtPacer :=
  match op with
  | pushSet program => (none, pacer.pushSet program)
  | pushRemove programNumber => (none, pacer.pushRemove programNumber)
  | armApplicationInfo now => (none, pacer.armApplicationInfo now)
  | armCaInfo now => (none, pacer.armCaInfo now)
  | resetGate => (none, pacer.resetGate)
  | setInterval interval => (none, pacer.setInterval interval)
  | poll now => pacer.poll now

def instant : PacerOp → Option Instant
  | armApplicationInfo now => some now
  | armCaInfo now => some now
  | poll now => some now
  | _ => none

def gates : PacerOp → Bool
  | armApplicationInfo _ => true
  | armCaInfo _ => true
  | resetGate => true
  | _ => false

end PacerOp

-- One operation of a run: the interval in force, whether it was a poll that cleared the gate, the
-- stamp it armed the gate with, and the change it released.
structure Pass where
  op : PacerOp
  interval : Duration
  cleared : Bool
  stamp : Option Instant
  released : Option CaPmtChange
  deriving DecidableEq, Repr

def CaPmtPacer.cleared (pacer : CaPmtPacer) : PacerOp → Bool
  | .poll now =>
      match pacer.gate with
      | .notReady => false
      | .armed stamp => !pacer.gated stamp now
      | .ready stamp => !pacer.gated stamp now
  | _ => false

def CaPmtPacer.stamp (pacer : CaPmtPacer) : Option Instant :=
  match pacer.gate with
  | .armed stamp => some stamp
  | _ => none

def CaPmtPacer.pass (pacer : CaPmtPacer) (op : PacerOp) : Pass where
  op
  interval := pacer.interval
  cleared := pacer.cleared op
  stamp := if op.gates then (op.run pacer).2.stamp else none
  released := (op.run pacer).1

def passes (interval settle : Duration) (ops : List PacerOp) : List Pass × CaPmtPacer :=
  ops.foldl (fun past op => (past.1 ++ [past.2.pass op], (op.run past.2).2)) ([], { interval, settle })

def instants (past : List Pass) : List Instant := past.filterMap fun pass => pass.op.instant

-- The passes since the gate was armed with the stamp; nothing has touched the countdown since.
structure Armed (stamp : Instant) (past since : List Pass) : Prop where
  arm : ∃ early arm, past = early ++ arm :: since ∧ arm.op.gates = true ∧ arm.stamp = some stamp
  undisturbed : ∀ pass ∈ since, pass.op.gates = false

-- The first poll that cleared the gate came later than the stamp and the interval then in force.
def HeldOff (stamp : Instant) (since : List Pass) : Prop :=
  ∃ early poll late now, since = early ++ poll :: late ∧ poll.op = .poll now ∧ poll.cleared = true ∧
    (∀ pass ∈ early, pass.cleared = false) ∧ stamp + poll.interval < now

def LastCleared (now : Instant) (since : List Pass) : Prop :=
  ∃ early poll late, since = early ++ poll :: late ∧ poll.op = .poll now ∧ poll.cleared = true ∧
    ∀ pass ∈ late, pass.cleared = false

section Passes

variable {stamp last now : Instant} {past since : List Pass} {pass : Pass}

theorem Armed.snoc (h : Armed stamp past since) (hop : pass.op.gates = false) :
    Armed stamp (past ++ [pass]) (since ++ [pass]) := by
  obtain ⟨early, arm, hpast, hgates, hstamp⟩ := h.arm
  refine ⟨⟨early, arm, by simp [hpast], hgates, hstamp⟩, ?_⟩
  intro other hmem
  rcases List.mem_append.mp hmem with hmem | hmem
  · exact h.undisturbed other hmem
  · rw [List.mem_singleton.mp hmem]
    exact hop

theorem HeldOff.snoc (h : HeldOff stamp since) : HeldOff stamp (since ++ [pass]) := by
  obtain ⟨early, poll, late, now, hsince, hpoll⟩ := h
  exact ⟨early, poll, late ++ [pass], now, by simp [hsince], hpoll⟩

theorem HeldOff.first (hop : pass.op = .poll now) (hcleared : pass.cleared = true)
    (hsince : ∀ other ∈ since, other.cleared = false) (hlate : stamp + pass.interval < now) :
    HeldOff stamp (since ++ [pass]) :=
  ⟨since, pass, [], now, rfl, hop, hcleared, hsince, hlate⟩

theorem LastCleared.snoc (h : LastCleared last since) (hcleared : pass.cleared = false) :
    LastCleared last (since ++ [pass]) := by
  obtain ⟨early, poll, late, hsince, hop, hpoll, hlate⟩ := h
  refine ⟨early, poll, late ++ [pass], by simp [hsince], hop, hpoll, ?_⟩
  intro other hmem
  rcases List.mem_append.mp hmem with hmem | hmem
  · exact hlate other hmem
  · rw [List.mem_singleton.mp hmem]
    exact hcleared

theorem LastCleared.cleared (hop : pass.op = .poll now) (hcleared : pass.cleared = true) :
    LastCleared now (since ++ [pass]) :=
  ⟨since, pass, [], rfl, hop, hcleared, fun _ hmem => nomatch hmem⟩

def ReleasedBy (last : Instant) (past : List Pass) : Prop :=
  ∀ pass ∈ past, pass.released.isSome → ∀ time, pass.op.instant = some time → time ≤ last

structure Kept (past : List Pass) (pacer : CaPmtPacer) : Prop where
  armed : ∀ stamp, pacer.gate = .armed stamp → ∃ since, Armed stamp past since ∧
    ∀ pass ∈ since, pass.cleared = false
  ready : ∀ last, pacer.gate = .ready last → ∃ stamp since, Armed stamp past since ∧ HeldOff stamp since ∧
    LastCleared last since ∧ ReleasedBy last past

variable {pacer : CaPmtPacer} {op : PacerOp}

theorem gated_eq_false (h : pacer.gated stamp now = false) : stamp + pacer.interval < now := by
  unfold CaPmtPacer.gated at h
  split at h
  · cases h
  · next deadline hdeadline =>
      unfold Instant.checkedAdd at hdeadline
      split at hdeadline
      · cases hdeadline
        exact Nat.not_le.mp (of_decide_eq_false h)
      · cases hdeadline

theorem pass_op (pacer : CaPmtPacer) (op : PacerOp) : (pacer.pass op).op = op := rfl

theorem Kept.quiet (h : Kept past pacer) {pacer' : CaPmtPacer} (hgate : pacer'.gate = pacer.gate)
    (hop : op.gates = false) (hcleared : (pacer.pass op).cleared = false)
    (hreleased : (pacer.pass op).released = none) : Kept (past ++ [pacer.pass op]) pacer' := by
  constructor
  · intro stamp hstamp
    obtain ⟨since, harmed, huncleared⟩ := h.armed stamp (hgate ▸ hstamp)
    refine ⟨since ++ [pacer.pass op], harmed.snoc hop, ?_⟩
    intro other hmem
    rcases List.mem_append.mp hmem with hmem | hmem
    · exact huncleared other hmem
    · rw [List.mem_singleton.mp hmem]
      exact hcleared
  · intro last hlast
    obtain ⟨stamp, since, harmed, hheld, hcleared', hby⟩ := h.ready last (hgate ▸ hlast)
    refine ⟨stamp, _, harmed.snoc hop, hheld.snoc, hcleared'.snoc hcleared, ?_⟩
    intro other hmem
    rcases List.mem_append.mp hmem with hmem | hmem
    · exact hby other hmem
    · rw [List.mem_singleton.mp hmem, hreleased]
      exact nofun

theorem Kept.arm {pacer' : CaPmtPacer} (hgate : pacer'.gate = .armed stamp) (hop : op.gates = true)
    (hstamp : (pacer.pass op).stamp = some stamp) : Kept (past ++ [pacer.pass op]) pacer' := by
  constructor
  · intro stamp' hstamp'
    rw [hgate, Gate.armed.injEq] at hstamp'
    subst hstamp'
    exact ⟨[], ⟨⟨past, pacer.pass op, rfl, hop, hstamp⟩, fun _ hmem => nomatch hmem⟩, fun _ hmem => nomatch hmem⟩
  · intro last hlast
    rw [hgate] at hlast
    cases hlast

theorem Kept.poll (h : Kept past pacer) (hgate : pacer.gate = .armed stamp ∨ pacer.gate = .ready stamp)
    (hgated : pacer.gated stamp now = false) (hmono : ∀ time ∈ instants past, time ≤ now)
    {pacer' : CaPmtPacer} (hready : pacer'.gate = .ready now) :
    Kept (past ++ [pacer.pass (.poll now)]) pacer' := by
  have hcleared : (pacer.pass (.poll now)).cleared = true := by
    rcases hgate with hgate | hgate <;> simp [CaPmtPacer.pass, CaPmtPacer.cleared, hgate, hgated]
  constructor
  · intro stamp' hstamp'
    rw [hready] at hstamp'
    cases hstamp'
  · intro last hlast
    rw [hready, Gate.ready.injEq] at hlast
    subst hlast
    have hby : ReleasedBy now (past ++ [pacer.pass (.poll now)]) := by
      intro other hmem _ time htime
      rcases List.mem_append.mp hmem with hmem | hmem
      · exact hmono time (List.mem_filterMap.mpr ⟨other, hmem, htime⟩)
      · rw [List.mem_singleton.mp hmem] at htime
        exact Nat.le_of_eq (Option.some.inj htime).symm
    rcases hgate with hgate | hgate
    · obtain ⟨since, harmed, huncleared⟩ := h.armed stamp hgate
      exact ⟨stamp, _, harmed.snoc rfl, .first rfl hcleared huncleared (gated_eq_false hgated),
        .cleared rfl hcleared, hby⟩
    · obtain ⟨armStamp, since, harmed, hheld, _, _⟩ := h.ready stamp hgate
      exact ⟨armStamp, _, harmed.snoc rfl, hheld.snoc, .cleared rfl hcleared, hby⟩

theorem Kept.step (h : Kept past pacer) (hmono : ∀ time, op.instant = some time →
    ∀ earlier ∈ instants past, earlier ≤ time) : Kept (past ++ [pacer.pass op]) (op.run pacer).2 := by
  cases op with
  | pushSet program => exact h.quiet rfl rfl rfl rfl
  | pushRemove programNumber => exact h.quiet rfl rfl rfl rfl
  | setInterval interval => exact h.quiet rfl rfl rfl rfl
  | armApplicationInfo now => exact Kept.arm rfl rfl rfl
  | armCaInfo now => exact Kept.arm rfl rfl rfl
  | resetGate => exact ⟨nofun, nofun⟩
  | poll now =>
      have hpoll (hidle : pacer.cleared (.poll now) = false) (hresult : pacer.poll now = (none, pacer)) :
          Kept (past ++ [pacer.pass (.poll now)]) (pacer.poll now).2 := by
        refine h.quiet ?_ rfl hidle ?_
        · rw [hresult]
        · exact congrArg Prod.fst hresult
      cases hgate : pacer.gate with
      | notReady => exact hpoll (by simp [CaPmtPacer.cleared, hgate]) (by simp [CaPmtPacer.poll, hgate])
      | armed stamp =>
          cases hgated : pacer.gated stamp now with
          | true =>
              exact hpoll (by simp [CaPmtPacer.cleared, hgate, hgated]) (by simp [CaPmtPacer.poll, hgate, hgated])
          | false =>
              exact h.poll (.inl hgate) hgated (hmono now rfl) (by simp [PacerOp.run, CaPmtPacer.poll, hgate, hgated])
      | ready stamp =>
          cases hgated : pacer.gated stamp now with
          | true =>
              exact hpoll (by simp [CaPmtPacer.cleared, hgate, hgated]) (by simp [CaPmtPacer.poll, hgate, hgated])
          | false =>
              exact h.poll (.inr hgate) hgated (hmono now rfl) (by simp [PacerOp.run, CaPmtPacer.poll, hgate, hgated])

theorem Kept.release (h : Kept past pacer) {change : CaPmtChange} (hreleased : (op.run pacer).1 = some change) :
    ∃ now stamp since last, op = .poll now ∧ Armed stamp past since ∧ HeldOff stamp since ∧
      LastCleared last since ∧ ReleasedBy last past ∧ last + pacer.interval < now := by
  cases op with
  | poll now =>
      have hpoll : (pacer.poll now).1 = some change := hreleased
      unfold CaPmtPacer.poll at hpoll
      split at hpoll
      · cases hpoll
      · split at hpoll <;> cases hpoll
      · next last hgate =>
          split at hpoll
          · cases hpoll
          · next hgated =>
              obtain ⟨stamp, since, harmed, hheld, hlast, hby⟩ := h.ready last hgate
              exact ⟨now, stamp, since, last, rfl, harmed, hheld, hlast, hby,
                gated_eq_false (Bool.not_eq_true _ ▸ hgated)⟩
  | _ => cases hreleased

end Passes

structure Paced (before : List Pass) (pass : Pass) : Prop where
  since : ∃ now stamp since last, pass.op = .poll now ∧ Armed stamp before since ∧ HeldOff stamp since ∧
    LastCleared last since ∧ last + pass.interval < now
  spaced : ∀ now, pass.op = .poll now → ∀ earlier ∈ before, earlier.released.isSome →
    ∀ time, earlier.op.instant = some time → time + pass.interval < now

section Run

variable {interval settle : Duration} {ops : List PacerOp}

theorem passes_snoc (interval settle : Duration) (ops : List PacerOp) (op : PacerOp) :
    passes interval settle (ops ++ [op]) =
      ((passes interval settle ops).1 ++ [(passes interval settle ops).2.pass op],
        (op.run (passes interval settle ops).2).2) := by
  simp [passes]

theorem passes_ops (interval settle : Duration) (ops : List PacerOp) :
    (passes interval settle ops).1.map Pass.op = ops := by
  induction ops using List.reverseRecOn with
  | nil => rfl
  | append_singleton ops op ih => rw [passes_snoc, List.map_append, ih, List.map_singleton, pass_op]

theorem instants_passes (interval settle : Duration) (ops : List PacerOp) :
    instants (passes interval settle ops).1 = ops.filterMap PacerOp.instant := by
  have hops := congrArg (List.filterMap PacerOp.instant) (passes_ops interval settle ops)
  rw [List.filterMap_map] at hops
  exact hops

theorem kept_passes (hmono : (ops.filterMap PacerOp.instant).Pairwise (· ≤ ·)) :
    Kept (passes interval settle ops).1 (passes interval settle ops).2 ∧
      ∀ before pass after, (passes interval settle ops).1 = before ++ pass :: after →
        pass.released.isSome → Paced before pass := by
  induction ops using List.reverseRecOn with
  | nil =>
      refine ⟨⟨nofun, nofun⟩, ?_⟩
      intro before pass after hsplit
      exact absurd hsplit (by simp [passes])
  | append_singleton ops op ih =>
      rw [List.filterMap_append, List.pairwise_append] at hmono
      obtain ⟨hpast, _, hnext⟩ := hmono
      obtain ⟨hkept, hpaced⟩ := ih hpast
      have hforward : ∀ time, op.instant = some time →
          ∀ earlier ∈ instants (passes interval settle ops).1, earlier ≤ time := by
        intro time htime earlier hmem
        rw [instants_passes] at hmem
        exact hnext earlier hmem time (by simp [htime])
      rw [passes_snoc]
      refine ⟨hkept.step hforward, ?_⟩
      intro before pass after hsplit hreleased
      rcases List.eq_nil_or_concat after with rfl | ⟨after, last, rfl⟩
      · obtain ⟨rfl, hpass⟩ := List.append_inj' hsplit rfl
        cases hpass
        obtain ⟨change, hchange⟩ := Option.isSome_iff_exists.mp hreleased
        obtain ⟨now, stamp, since, last, hop, harmed, hheld, hlast, hby, hlate⟩ := hkept.release hchange
        refine ⟨⟨now, stamp, since, last, hop, harmed, hheld, hlast, hlate⟩, ?_⟩
        intro now' hop' earlier hmem hearlier time htime
        have hnow : now = now' := PacerOp.poll.inj (hop.symm.trans hop')
        have hle := hby earlier hmem hearlier time htime
        rw [← hnow]
        exact Nat.lt_of_le_of_lt (Nat.add_le_add_right hle _) hlate
      · rw [List.concat_eq_append, ← List.cons_append, ← List.append_assoc] at hsplit
        obtain ⟨hinit, _⟩ := List.append_inj' hsplit rfl
        exact hpaced before pass after hinit hreleased

-- What an operation arms the gate with: an application is held for the time to settle, while the clock can tell it.
def PacerOp.stamp (settle : Duration) : PacerOp → Option Instant
  | armApplicationInfo now => some ((now.checkedAdd settle).getD now)
  | armCaInfo now => some now
  | _ => none

theorem pass_stamp (pacer : CaPmtPacer) (op : PacerOp) : (pacer.pass op).stamp = op.stamp pacer.settle := by
  cases op <;> rfl

theorem settle_run (pacer : CaPmtPacer) (op : PacerOp) : (op.run pacer).2.settle = pacer.settle := by
  cases op with
  | poll now =>
      show (pacer.poll now).2.settle = _
      unfold CaPmtPacer.poll
      split
      · rfl
      · split <;> rfl
      · split
        · rfl
        · cases pacer.queue <;> rfl
  | _ => rfl

theorem stamp_passes (interval settle : Duration) (ops : List PacerOp) :
    (∀ pass ∈ (passes interval settle ops).1, pass.stamp = pass.op.stamp settle) ∧
      (passes interval settle ops).2.settle = settle := by
  induction ops using List.reverseRecOn with
  | nil => exact ⟨by rintro _ ⟨⟩, rfl⟩
  | append_singleton ops op ih =>
      obtain ⟨hstamps, hsettle⟩ := ih
      rw [passes_snoc]
      refine ⟨fun pass hmem => ?_, (settle_run _ _).trans hsettle⟩
      rcases List.mem_append.mp hmem with hmem | hmem
      · exact hstamps pass hmem
      · rw [List.mem_singleton.mp hmem, pass_stamp, pass_op, hsettle]

end Run

theorem gates_queue (pacer : CaPmtPacer) {op : PacerOp} (hop : op.gates = true) :
    (op.run pacer).2.queue = pacer.queue := by
  cases op <;> first | rfl | cases hop

theorem poll_releases (pacer : CaPmtPacer) (now : Instant) :
    pacer.queue = (pacer.poll now).1.toList ++ (pacer.poll now).2.queue := by
  unfold CaPmtPacer.poll
  split
  · rfl
  · split <;> rfl
  · split
    · rfl
    · cases hqueue : pacer.queue <;> simp

theorem ca_pmt_paced (interval settle : Duration) (ops : List PacerOp)
    (hmono : (ops.filterMap PacerOp.instant).Pairwise (· ≤ ·)) :
    (∀ before pass after, (passes interval settle ops).1 = before ++ pass :: after →
      pass.released.isSome → Paced before pass) ∧
      (∀ pacer : CaPmtPacer, ∀ now, pacer.queue = (pacer.poll now).1.toList ++ (pacer.poll now).2.queue) ∧
        ∀ (pacer : CaPmtPacer) (op : PacerOp), op.gates = true → (op.run pacer).2.queue = pacer.queue :=
  ⟨(kept_passes hmono).2, poll_releases, fun pacer _ => gates_queue pacer⟩

def removeOnce : List PacerOp := [.pushRemove 1, .armCaInfo 0, .poll 21, .poll 42]

theorem ca_pmt_paced_remove : ∃ before pass, (passes 20 10 removeOnce).1 = before ++ [pass] ∧
    pass.released = some (.remove 1) ∧ Paced before pass := by
  obtain ⟨hpaced, _, _⟩ := ca_pmt_paced 20 10 removeOnce (by decide)
  have hsplit : (passes 20 10 removeOnce).1 = (passes 20 10 removeOnce).1.take 3 ++
      [⟨.poll 42, 20, true, none, some (.remove 1)⟩] := by decide
  exact ⟨_, _, hsplit, rfl, hpaced _ _ [] hsplit rfl⟩

end LibDvb
