import LibDvb.Ca.Controller.CamStatus
import LibDvb.Ca.Controller.Recovery

namespace LibDvb

abbrev ResetEntry := Option Instant × Except Error Unit

def resetsBetween (c c' : CiController) : List ResetEntry :=
  (resets (c'.trace.drop c.trace.length)).map fun result => (c'.lastTick, result)

def resetsPerCall (start : CiController) (labels : List ControllerLabel) : List (List ResetEntry) :=
  perCall resetsBetween start labels

def ticks (labels : List ControllerLabel) : List Instant :=
  labels.filterMap fun label => label.op.clock none

def Apart (interval : Duration) (earlier later : ResetEntry) : Prop :=
  earlier.2 = .ok () ∧ ∃ time time', earlier.1 = some time ∧ later.1 = some time' ∧ time + interval ≤ time'

section History

variable {labels : List ControllerLabel} {label : ControllerLabel}

theorem ticks_snoc : ticks (labels ++ [label]) = ticks labels ++ (label.op.clock none).toList := by
  rw [ticks, List.filterMap_append, ← ticks]
  cases h : label.op.clock none <;> simp [h]

theorem getLast?_clock (op : ControllerOp) (times : List Instant) :
    (times ++ (op.clock none).toList).getLast? = op.clock times.getLast? := by
  cases op <;> simp [ControllerOp.clock]

end History

namespace CiController

variable {c c' : CiController} {op : ControllerOp} {interval : Duration} {log : List ResetEntry}

structure Spaced (interval : Duration) (log : List ResetEntry) (c : CiController) : Prop where
  pairs : log.Pairwise (Apart interval)
  past : ∀ entry ∈ log, ∃ time now, entry.1 = some time ∧ c.lastTick = some now ∧ time ≤ now ∧
    (c.linkSuspended = false → entry.2 = .ok () ∧ time + interval ≤ now) ∧
    ∀ recoveryAt, c.linkSuspended = true → c.recoveryAt = some recoveryAt →
      entry.2 = .ok () ∧ time + interval ≤ recoveryAt

theorem clock_isSome {now : Instant} (hlast : c.lastTick = some now) (hclock : c'.lastTick = op.clock c.lastTick) :
    ∃ now', c'.lastTick = some now' := by
  rw [hclock, hlast]
  cases op <;> exact ⟨_, rfl⟩

theorem Spaced.released (h : c.Spaced interval log) (due : c.Due op)
    (hclock : c'.lastTick = op.clock c.lastTick)
    (hmono : ∀ now now', c.lastTick = some now → c'.lastTick = some now' → now ≤ now')
    {entry : ResetEntry} (hmem : entry ∈ log) :
    ∃ time now', entry.1 = some time ∧ c'.lastTick = some now' ∧ entry.2 = .ok () ∧ time + interval ≤ now' := by
  obtain ⟨time, now, htime, hlast, hle, hfree, hwaits⟩ := h.past entry hmem
  obtain ⟨now', hlast'⟩ := clock_isSome hlast hclock
  refine ⟨time, now', htime, hlast', ?_⟩
  cases hs : c.linkSuspended with
  | false =>
      obtain ⟨hok, hspace⟩ := hfree hs
      exact ⟨hok, hspace.trans (hmono now now' hlast hlast')⟩
  | true =>
      obtain ⟨tick, recoveryAt, rfl, hat, hdue⟩ := due hs
      obtain ⟨hok, hspace⟩ := hwaits recoveryAt hs hat
      have htick : tick = now' := by
        rw [hclock, ControllerOp.clock, Option.some.injEq] at hlast'
        exact hlast'
      exact ⟨hok, htick ▸ hspace.trans hdue⟩

theorem Spaced.beat (h : c.Spaced interval log) (hop : op ≠ .reset) (hbeat : Beat c op c')
    (hclock : c'.lastTick = op.clock c.lastTick) (hinterval : c'.config.retryInterval = interval)
    (hmono : ∀ now now', c.lastTick = some now → c'.lastTick = some now' → now ≤ now')
    (hrep : ∀ now, c'.lastTick = some now → (now.checkedAdd interval).isSome) :
    c'.Spaced interval (log ++ resetsBetween c c') ∧ (resetsBetween c c').length ≤ 1 := by
  have hquiet (hnone : resetsBetween c c' = [])
      (hpast : ∀ entry ∈ log, ∃ time now, entry.1 = some time ∧ c'.lastTick = some now ∧ time ≤ now ∧
        (c'.linkSuspended = false → entry.2 = .ok () ∧ time + interval ≤ now) ∧
        ∀ recoveryAt, c'.linkSuspended = true → c'.recoveryAt = some recoveryAt →
          entry.2 = .ok () ∧ time + interval ≤ recoveryAt) :
      c'.Spaced interval (log ++ resetsBetween c c') ∧ (resetsBetween c c').length ≤ 1 := by
    rw [hnone, List.append_nil]
    exact ⟨⟨h.pairs, hpast⟩, Nat.zero_le _⟩
  cases hbeat with
  | waited suspended recoveryAt trace =>
      apply hquiet
      · rw [resetsBetween, trace, List.drop_length]
        rfl
      · intro entry hmem
        obtain ⟨time, now, htime, hlast, hle, hfree, hwaits⟩ := h.past entry hmem
        obtain ⟨now', hlast'⟩ := clock_isSome hlast hclock
        have hnow := hmono now now' hlast hlast'
        refine ⟨time, now', htime, hlast', hle.trans hnow, ?_, ?_⟩
        · intro hs
          obtain ⟨hok, hspace⟩ := hfree (suspended.symm.trans hs)
          exact ⟨hok, hspace.trans hnow⟩
        · intro at' hs hat
          exact hwaits at' (suspended.symm.trans hs) (recoveryAt.symm.trans hat)
  | worked due suspended grows whole =>
      apply hquiet
      · obtain ⟨delta, htrace, hdelta⟩ := grows.all (A := fun obs => obs.settles = false) fun _ _ h => h.1
        rw [resetsBetween, htrace, List.drop_left, resets_nil hdelta]
        rfl
      · intro entry hmem
        obtain ⟨time, now', htime, hlast', hok, hspace⟩ := h.released due hclock hmono hmem
        refine ⟨time, now', htime, hlast', (Nat.le_add_right _ _).trans hspace, fun _ => ⟨hok, hspace⟩, ?_⟩
        intro at' hs
        rw [suspended] at hs
        cases hs
  | @restarted mid rest now result due ticked suspended grows silent trace retry =>
      have hone : resetsBetween c c' = [(some now, result)] := by
        obtain ⟨delta, rfl, hdelta⟩ := grows.all (A := fun obs => obs.settles = false) fun _ _ h => h.1
        obtain ⟨late, rfl, hlate⟩ := silent
        rw [resetsBetween, trace, List.append_assoc, List.append_assoc, List.drop_left, resets_append,
          resets_nil hdelta, resets_append, resets_nil fun obs hmem => (settles_of_accesses (hlate obs hmem)).1,
          ticked]
        rfl
      have hdeadline : deadline now c'.config.retryInterval = now + interval := by
        rw [hinterval]
        have hsome := hrep now ticked
        rw [deadline]
        unfold Instant.checkedAdd at hsome ⊢
        split at hsome
        · next hlt => rw [if_pos hlt, Option.getD_some]
        · cases hsome
      rw [hone]
      refine ⟨⟨?_, ?_⟩, Nat.le_refl _⟩
      · rw [List.pairwise_append]
        refine ⟨h.pairs, List.pairwise_singleton _ _, ?_⟩
        intro entry hmem later hlater
        obtain ⟨time, now', htime, hlast', hok, hspace⟩ := h.released due hclock hmono hmem
        rw [List.mem_singleton.mp hlater]
        exact ⟨hok, time, now', htime, ticked.symm.trans hlast', hspace⟩
      · intro entry hmem
        have hsuspended {P : Prop} (hs : c'.linkSuspended = false) : P := by
          rw [suspended] at hs
          cases hs
        have hretry {recoveryAt : Instant} (hat : c'.recoveryAt = some recoveryAt) :
            result = .ok () ∧ recoveryAt = now + interval := by
          rw [retry] at hat
          cases result with
          | ok _ =>
              rw [Option.some.injEq, hdeadline] at hat
              exact ⟨rfl, hat.symm⟩
          | error _ => cases hat
        rcases List.mem_append.mp hmem with hmem | hmem
        · obtain ⟨time, now', htime, hlast', hok, hspace⟩ := h.released due hclock hmono hmem
          have hnow : now' = now := Option.some.inj (hlast'.symm.trans ticked)
          subst hnow
          refine ⟨time, now', htime, ticked, (Nat.le_add_right _ _).trans hspace, hsuspended, ?_⟩
          intro recoveryAt _ hat
          rw [(hretry hat).2]
          exact ⟨hok, hspace.trans (Nat.le_add_right _ _)⟩
        · rw [List.mem_singleton.mp hmem]
          refine ⟨now, now, rfl, ticked, Nat.le_refl _, hsuspended, ?_⟩
          intro recoveryAt _ hat
          obtain ⟨hok, heq⟩ := hretry hat
          exact ⟨hok, heq.ge⟩
  | reset hreset => exact absurd hreset hop
  | resetFailed hreset => exact absurd hreset hop

end CiController

section Run

variable {start c : CiController} {labels : List ControllerLabel}

theorem ControllerRun.spaced (h : ControllerRun start labels c) (hno : ∀ label ∈ labels, label.op ≠ .reset)
    (hmono : (ticks labels).Pairwise (· ≤ ·))
    (hrep : ∀ now ∈ ticks labels, (now.checkedAdd start.config.retryInterval).isSome) :
    c.config = start.config ∧ c.lastTick = (ticks labels).getLast? ∧
      c.Spaced start.config.retryInterval (resetsPerCall start labels).flatten ∧
        ∀ call ∈ resetsPerCall start labels, call.length ≤ 1 := by
  obtain ⟨hstart, hrun⟩ := h
  induction hrun with
  | nil =>
      refine ⟨rfl, ?_, ⟨List.Pairwise.nil, fun _ hmem => nomatch hmem⟩, fun _ hmem => nomatch hmem⟩
      exact (CiController.blank_start hstart).lastTick
  | @snoc labels c label c' hrun hstep ih =>
      have hticks := @ticks_snoc labels label
      rw [hticks] at hmono hrep
      obtain ⟨hconfig, hlast, hspaced, hcalls⟩ := ih
        (fun other hmem => hno other (List.mem_append_left _ hmem))
        (List.pairwise_append.mp hmono).1 (fun now hmem => hrep now (List.mem_append_left _ hmem))
      have hsettled : c.Settled := ControllerRun.settled ⟨hstart, hrun⟩
      have hturn := CiController.step_turn hsettled hstep
      obtain ⟨hclock, hconfig', hbeat⟩ := hturn.beat (hsettled.relinked label.link)
      have hlast' : c'.lastTick = (ticks (labels ++ [label])).getLast? := by
        rw [hticks, getLast?_clock, ← hlast]
        exact hclock
      have hconfig₀ : c'.config = start.config := hconfig'.trans hconfig
      have hforward : ∀ now now', c.lastTick = some now → c'.lastTick = some now' → now ≤ now' := by
        intro now now' hnow hnow'
        have hclock' : c'.lastTick = label.op.clock c.lastTick := hclock
        cases hop : label.op.clock none with
        | none =>
            have hsame : c'.lastTick = c.lastTick := by
              rw [hclock']
              cases hlabel : label.op <;> rw [hlabel] at hop <;> first | rfl | cases hop
            rw [hsame, hnow, Option.some.injEq] at hnow'
            exact hnow'.le
        | some tick =>
            have htick : c'.lastTick = some tick := by
              rw [hclock', ← hop]
              cases hlabel : label.op <;> rw [hlabel] at hop <;> first | rfl | cases hop
            rw [htick, Option.some.injEq] at hnow'
            rw [hlast] at hnow
            refine (List.pairwise_append.mp hmono).2.2 now (List.mem_of_getLast? hnow) now' ?_
            rw [hop, ← hnow']
            exact List.mem_singleton_self tick
      have hrelinked : (CiController.linkLens.set label.link c).Spaced start.config.retryInterval
          (resetsPerCall start labels).flatten := ⟨hspaced.pairs, hspaced.past⟩
      obtain ⟨hnext, hone⟩ := hrelinked.beat (hno label (by simp)) hbeat hclock (by rw [hconfig₀]) hforward
        fun now hnow => hrep now (hticks ▸ List.mem_of_getLast? (hlast' ▸ hnow))
      rw [resetsPerCall, perCall_snoc resetsBetween hrun hstep, List.flatten_append, List.flatten_singleton]
      refine ⟨hconfig₀, hlast', hnext, ?_⟩
      intro call hmem
      rcases List.mem_append.mp hmem with hmem | hmem
      · exact hcalls call hmem
      · rw [List.mem_singleton.mp hmem]
        exact hone

end Run

theorem no_reset_storm {start c : CiController} {labels : List ControllerLabel}
    (h : ControllerRun start labels c) (hno : ∀ label ∈ labels, label.op ≠ .reset)
    (hmono : (ticks labels).Pairwise (· ≤ ·))
    (hrep : ∀ now ∈ ticks labels, (now.checkedAdd start.config.retryInterval).isSome) :
    (resetsPerCall start labels).flatten.Pairwise (Apart start.config.retryInterval) ∧
      ∀ call ∈ resetsPerCall start labels, call.length ≤ 1 := by
  obtain ⟨_, _, hspaced, hcalls⟩ := h.spaced hno hmono hrep
  exact ⟨hspaced.pairs, hcalls⟩

-- The driver does not tell the slot status, twice.
def slotInfoFailsTwice : List (CaDevice × ControllerOp) :=
  [({ slotInfo := fun _ => .error 5 }, .tick 0), ({ slotInfo := fun _ => .error 5 }, .tick (2 * 10 ^ 9))]

theorem slotInfoFailsTwice_isSome : (trail ControllerOp.next oneSlot slotInfoFailsTwice).isSome := by
  decide +kernel

def afterSlotInfoFails : List ControllerLabel × CiController :=
  (trail ControllerOp.next oneSlot slotInfoFailsTwice).get slotInfoFailsTwice_isSome

theorem slotInfoFails_run : ControllerRun oneSlot afterSlotInfoFails.1 afterSlotInfoFails.2 :=
  oneSlot_run slotInfoFailsTwice_isSome

theorem slotInfoFails_ticks : ticks afterSlotInfoFails.1 = [0, 2 * 10 ^ 9] := by decide +kernel

theorem slotInfoFails_ops : (afterSlotInfoFails.1.map fun label => label.op.clock none) =
    [some 0, some (2 * 10 ^ 9)] := by decide +kernel

theorem slotInfoFails_resets : (resetsPerCall oneSlot afterSlotInfoFails.1).flatten.map Prod.fst =
    [some 0, some (2 * 10 ^ 9)] := by decide +kernel

theorem no_reset_storm_slot_info :
    (resetsPerCall oneSlot afterSlotInfoFails.1).flatten.map Prod.fst = [some 0, some (2 * 10 ^ 9)] ∧
      (resetsPerCall oneSlot afterSlotInfoFails.1).flatten.Pairwise (Apart oneSlot.config.retryInterval) ∧
        ∀ call ∈ resetsPerCall oneSlot afterSlotInfoFails.1, call.length ≤ 1 := by
  have hno : ∀ label ∈ afterSlotInfoFails.1, label.op ≠ .reset := by
    intro label hmem hreset
    have hclock := List.mem_map_of_mem (f := fun label : ControllerLabel => label.op.clock none) hmem
    rw [slotInfoFails_ops, hreset] at hclock
    simp [ControllerOp.clock] at hclock
  have hmono : (ticks afterSlotInfoFails.1).Pairwise (· ≤ ·) := by
    rw [slotInfoFails_ticks]
    decide
  have hrep : ∀ now ∈ ticks afterSlotInfoFails.1, (now.checkedAdd oneSlot.config.retryInterval).isSome := by
    rw [slotInfoFails_ticks]
    decide
  exact ⟨slotInfoFails_resets, no_reset_storm slotInfoFails_run hno hmono hrep⟩

end LibDvb
