import LibDvb.Basis.Adds
import LibDvb.Ca.Driver.Run

namespace LibDvb

open Relation

def Unarmed (interval : Duration) (calls : List DriverCall) : Prop :=
  ∀ call ∈ calls, call.failed = true → call.internal = false → ∀ retryAt ∈ call.armed, call.time + interval ≤ retryAt

instance {interval : Duration} {calls : List DriverCall} : Decidable (Unarmed interval calls) :=
  inferInstanceAs (Decidable (∀ call ∈ calls, call.failed = true → call.internal = false →
    ∀ retryAt ∈ call.armed, call.time + interval ≤ retryAt))

def Cadence (interval : Duration) (calls : List DriverCall) : Prop :=
  ∀ before retry after, calls = before ++ retry :: after → retry.internal = true →
    retry.suspended = true ∧ retry.recoveryAt = none ∧
      ∀ call ∈ before, call.failed = true → call.time + interval ≤ retry.time

section Calls

variable {interval : Duration} {calls : List DriverCall} {call : DriverCall}

theorem Unarmed.of_snoc (h : Unarmed interval (calls ++ [call])) :
    Unarmed interval calls ∧ (call.failed = true → call.internal = false →
      ∀ retryAt ∈ call.armed, call.time + interval ≤ retryAt) :=
  ⟨fun other hmem => h other (List.mem_append_left _ hmem), h call (by simp)⟩

theorem cadence_nil (interval : Duration) : Cadence interval [] := by
  intro before retry after h
  simp at h

theorem Cadence.snoc (h : Cadence interval calls) (hretry : call.internal = true → call.suspended = true ∧
    call.recoveryAt = none ∧ ∀ other ∈ calls, other.failed = true → other.time + interval ≤ call.time) :
    Cadence interval (calls ++ [call]) := by
  intro before retry after hcalls hinternal
  rcases snoc_split.mp hcalls with ⟨_, rfl, rfl⟩ | ⟨rest, _, hrest⟩
  · exact hretry hinternal
  · exact h before retry rest hrest hinternal

end Calls

namespace CiDriver

variable {d d' : CiDriver} {internal : Bool} {op : ControllerOp} {reply : Except Error (Option CaEvent)}
  {c' : CiController}

structure Timed (d : CiDriver) : Prop where
  past : ∀ call ∈ d.calls, call.time ≤ d.clock
  armed : ∀ retryAt, d.resetRetryAt = some retryAt → ∀ call ∈ d.calls, call.failed = true →
    call.time + d.retryInterval ≤ retryAt
  cadence : Cadence d.retryInterval d.calls

theorem Timed.still (h : d.Timed) (calls : d'.calls = d.calls) (interval : d'.retryInterval = d.retryInterval)
    (clock : d.clock ≤ d'.clock)
    (armed : ∀ retryAt, d'.resetRetryAt = some retryAt → d.resetRetryAt = some retryAt ∨
      d'.clock + d.retryInterval ≤ retryAt) : d'.Timed := by
  refine ⟨fun call hmem => ?_, fun retryAt hretry call hmem hfailed => ?_, ?_⟩
  · rw [calls] at hmem
    exact (h.past call hmem).trans clock
  · rw [calls] at hmem
    rw [interval]
    rcases armed retryAt hretry with hsame | hlate
    · exact h.armed retryAt hsame call hmem hfailed
    · exact (Nat.add_le_add_right ((h.past call hmem).trans clock) _).trans hlate
  · rw [interval, calls]
    exact h.cadence

theorem Timed.calls {call : DriverCall} (h : d.Timed) (calls : d'.calls = d.calls ++ [call])
    (interval : d'.retryInterval = d.retryInterval) (clock : d.clock ≤ d'.clock) (time : call.time = d.clock)
    (retry : call.internal = true → call.suspended = true ∧ call.recoveryAt = none ∧
      ∃ retryAt, d.resetRetryAt = some retryAt ∧ retryAt ≤ d.clock)
    (armed : ∀ retryAt, d'.resetRetryAt = some retryAt →
      d.resetRetryAt = some retryAt ∧ (call.failed = true → d.clock + d.retryInterval ≤ retryAt) ∨
        d'.clock + d.retryInterval ≤ retryAt) : d'.Timed := by
  refine ⟨fun other hmem => ?_, fun retryAt hretry other hmem hfailed => ?_, ?_⟩
  · rw [calls] at hmem
    rcases List.mem_append.mp hmem with hmem | hmem
    · exact (h.past other hmem).trans clock
    · rw [List.mem_singleton.mp hmem, time]
      exact clock
  · rw [calls] at hmem
    rw [interval]
    rcases List.mem_append.mp hmem with hmem | hmem
    · rcases armed retryAt hretry with ⟨hsame, _⟩ | hlate
      · exact h.armed retryAt hsame other hmem hfailed
      · exact (Nat.add_le_add_right ((h.past other hmem).trans clock) _).trans hlate
    · obtain rfl := List.mem_singleton.mp hmem
      rw [time]
      rcases armed retryAt hretry with ⟨_, hclear⟩ | hlate
      · exact hclear hfailed
      · exact (Nat.add_le_add_right clock _).trans hlate
  · rw [interval, calls]
    refine h.cadence.snoc fun hinternal => ?_
    obtain ⟨hsuspended, hunscheduled, retryAt, harmed, hdue⟩ := retry hinternal
    refine ⟨hsuspended, hunscheduled, fun other hmem hfailed => ?_⟩
    rw [time]
    exact (h.armed retryAt harmed other hmem hfailed).trans hdue

theorem checkedAdd_eq {now : Instant} {duration : Duration} {sum : Instant} (h : now.checkedAdd duration = some sum) :
    sum = now + duration := by
  unfold Instant.checkedAdd at h
  split at h
  · exact (Option.some.inj h).symm
  · cases h

theorem Timed.move (h : Unarmed d.retryInterval d.calls → d.Timed) (hmove : Move d d')
    (hunarmed : Unarmed d'.retryInterval d'.calls) : d'.Timed := by
  have hsnoc {call : DriverCall} (calls : d'.calls = d.calls ++ [call]) (interval : d'.retryInterval = d.retryInterval) :
      d.Timed ∧ (call.failed = true → call.internal = false →
        ∀ retryAt ∈ call.armed, call.time + d.retryInterval ≤ retryAt) := by
    rw [calls, interval] at hunarmed
    exact ⟨h hunarmed.of_snoc.1, hunarmed.of_snoc.2⟩
  cases hmove with
  | elapsed =>
      rw [elapsed_calls, elapsed_retryInterval] at hunarmed
      refine (h hunarmed).still d.elapsed_calls d.elapsed_retryInterval d.le_elapsed_clock fun retryAt hretry => .inl ?_
      rwa [elapsed_resetRetryAt] at hretry
  | called calls silent =>
      obtain ⟨htimed, hcall⟩ := hsnoc rfl rfl
      exact htimed.calls rfl rfl (Nat.le_refl _) rfl (by rintro ⟨⟩) fun retryAt hretry =>
        .inl ⟨hretry, fun hfailed => hcall hfailed rfl retryAt hretry⟩
  | forwarded calls =>
      obtain ⟨htimed, hcall⟩ := hsnoc rfl rfl
      exact htimed.calls rfl rfl (Nat.le_refl _) rfl (by rintro ⟨⟩) fun retryAt hretry =>
        .inl ⟨hretry, fun hfailed => hcall hfailed rfl retryAt hretry⟩
  | retried suspended unscheduled armed due calls silent =>
      refine (hsnoc rfl rfl).1.calls rfl rfl (Nat.le_refl _) rfl (fun _ => ⟨suspended, unscheduled, _, armed, due⟩) ?_
      rintro _ ⟨⟩
  | @retryFailed e c' retryAt next suspended unscheduled armed due calls sum =>
      have hclock := (d.called true .reset (.error e) c').le_elapsed_clock
      have hcalls := (d.called true .reset (.error e) c').elapsed_calls
      have hinterval := (d.called true .reset (.error e) c').elapsed_retryInterval
      refine (hsnoc hcalls hinterval).1.calls hcalls hinterval hclock rfl
        (fun _ => ⟨suspended, unscheduled, _, armed, due⟩) fun other hother => .inr ?_
      rw [← Option.some.inj hother, checkedAdd_eq sum]
  | armed unarmed sum =>
      rw [elapsed_calls, elapsed_retryInterval] at hunarmed
      refine (h hunarmed).still d.elapsed_calls d.elapsed_retryInterval d.le_elapsed_clock fun other hother => .inr ?_
      rw [← Option.some.inj hother, checkedAdd_eq sum]
  | disarmed resumed => exact (h hunarmed).still rfl rfl (Nat.le_refl _) (by rintro _ ⟨⟩)
  | told own => exact (h hunarmed).still rfl rfl (Nat.le_refl _) fun _ => .inl
  | noted ready nextTick => exact (h hunarmed).still rfl rfl (Nat.le_refl _) fun _ => .inl

end CiDriver

theorem retries_follow_failures {start d : CiDriver} {labels : List DriverLabel} (h : DriverRun start labels d)
    (hunarmed : Unarmed d.retryInterval d.calls) : Cadence d.retryInterval d.calls := by
  have htimed : Unarmed d.retryInterval d.calls → d.Timed := by
    refine h.invariant (fun _ _ c clock _ _ => ?_)
      (fun d around hd hunarmed => ?_) (fun d d' hd hmove => CiDriver.Timed.move hd hmove) (fun d hd hunarmed => ?_)
      fun d ready returned hd hunarmed => ?_
    · exact ⟨by simp [CiDriver.new], by rintro _ ⟨⟩, cadence_nil _⟩
    · exact (hd hunarmed).still rfl rfl (Nat.le_add_right _ _) fun _ => .inl
    · exact (hd hunarmed).still rfl rfl (Nat.le_refl _) fun _ => .inl
    · exact (hd hunarmed).still rfl rfl (Nat.le_refl _) fun _ => .inl
  exact (htimed hunarmed).cadence

section Runs

def resetFails : DriverLabel := ⟨{ link := { resets := [some 5] }, pause := 5 }, .command (some .reset)⟩

def retriesOnce : List DriverLabel := [resetFails, ⟨{ pause := 10 ^ 9 }, .timer⟩]

theorem retriesOnce_isSome : (trail CiDriver.next supervising retriesOnce).isSome := by decide +kernel

def afterRetriesOnce : List DriverLabel × CiDriver := (trail CiDriver.next supervising retriesOnce).get retriesOnce_isSome

theorem retries_follow_failures_retriesOnce :
    Cadence afterRetriesOnce.2.retryInterval afterRetriesOnce.2.calls ∧
      afterRetriesOnce.2.calls.any (fun call => call.internal) = true :=
  ⟨retries_follow_failures (supervising_run retriesOnce_isSome) (by decide +kernel), by decide +kernel⟩

-- A Reset command fails. The next one succeeds but for the CA_RESET of its tick, and leaves the retry of the first one.
def resetTwice : List DriverLabel :=
  [resetFails,
    ⟨{ link := { resets := [none, some 5], slotInfo := fun _ => .error 5 }, pause := 10 ^ 9 - 1 },
      .command (some .reset)⟩,
    ⟨{ pause := 1 }, .timer⟩]

theorem resetTwice_isSome : (trail CiDriver.next supervising resetTwice).isSome := by decide +kernel

def afterResetTwice : List DriverLabel × CiDriver := (trail CiDriver.next supervising resetTwice).get resetTwice_isSome

theorem resetTwice_early : afterResetTwice.2.calls[16]?.any (fun retry => retry.internal &&
    (afterResetTwice.2.calls.take 16).any fun call =>
      call.failed && decide (retry.time < call.time + afterResetTwice.2.retryInterval)) = true := by decide +kernel

theorem retry_before_interval : DriverRun supervising afterResetTwice.1 afterResetTwice.2 ∧
    ¬ Cadence afterResetTwice.2.retryInterval afterResetTwice.2.calls := by
  refine ⟨supervising_run resetTwice_isSome, fun hcadence => ?_⟩
  obtain ⟨retry, hretry, hearly⟩ := (Option.any_eq_true _ _).mp resetTwice_early
  rw [Bool.and_eq_true, List.any_eq_true] at hearly
  obtain ⟨hinternal, call, hmem, hcall⟩ := hearly
  rw [Bool.and_eq_true, decide_eq_true_eq] at hcall
  obtain ⟨hlt, hget⟩ := List.getElem?_eq_some_iff.mp hretry
  have hsplit : afterResetTwice.2.calls =
      afterResetTwice.2.calls.take 16 ++ retry :: afterResetTwice.2.calls.drop 17 := by
    rw [← hget, ← List.drop_eq_getElem_cons hlt, List.take_append_drop]
  exact absurd ((hcadence _ retry _ hsplit hinternal).2.2 call hmem hcall.1) (Nat.not_le_of_lt hcall.2)

end Runs

end LibDvb
