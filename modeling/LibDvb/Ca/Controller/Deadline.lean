import LibDvb.Basis.Timer
import LibDvb.Ca.Controller.CamStatus
import LibDvb.Ca.Controller.Punctual
import LibDvb.Ca.Controller.Suspension

namespace LibDvb

open Relation Act Outcome

inductive CiDeadline where
  | slotStatus
  | transportPoll (slotId : UInt8)
  | recovery
  | slotRetry (slotId : UInt8)
  | caPmtSettle
  | caPmtInterval
  deriving DecidableEq, Repr

def CaPmtPacer.clearedAt (pacer : CaPmtPacer) : Option Instant :=
  match pacer.gate with
  | .ready stamp => some stamp
  | _ => none

def newsOf (c : CiController) (label : ControllerLabel) (c' : CiController) : List CaEvent :=
  (deliveredBy label.reply ++ c'.events).drop c.events.length

def CiDeadline.mark (c : CiController) : CiDeadline → Option Instant
  | slotStatus => c.nextStatusCheck
  | transportPoll slotId => c.pollOf slotId
  | recovery => c.recoveryAt
  | slotRetry slotId => c.retryOf slotId
  | caPmtSettle => c.pacer.stamp
  | caPmtInterval => c.pacer.clearedAt

-- The configured duration that a deadline is set with, which ends in `c` with the new events.
def CiDeadline.hold (c : CiController) (news : List CaEvent) : CiDeadline → Duration
  | slotStatus => if c.linkSuspended then c.config.retryInterval else c.config.slotStatusInterval
  | transportPoll _ => c.config.transportPollInterval
  | recovery => c.config.retryInterval
  | slotRetry _ => c.config.retryInterval
  | caPmtSettle => (CiController.lastHold c.config.caPmtSettle news).getD 0
  | caPmtInterval => 0

-- The CA_PMT interval counts from the stamp of the gate.
def CiDeadline.lead (c : CiController) : CiDeadline → Duration
  | caPmtSettle => c.pacer.interval
  | caPmtInterval => c.pacer.interval
  | _ => 0

-- The call does what the deadline guards. The host's own reset waits for none.
def CiDeadline.acts (c : CiController) (label : ControllerLabel) (c' : CiController) : CiDeadline → Prop
  | slotStatus => ∃ slotId, .slotInfo slotId ∈ traceBetween c c'
  | transportPoll slotId => .queued slotId (Tpdu.pollFrame slotId) ∈ traceBetween c c'
  | recovery => label.op ≠ .reset ∧ c.linkSuspended = true ∧ (c'.linkSuspended = false ∨ c'.trace ≠ c.trace)
  | slotRetry slotId => label.op ≠ .reset ∧ .slotStatusChanged slotId .failed .present ∈ newsOf c label c'
  | caPmtSettle => c.pacer.ready = false ∧ c'.pacer.ready = true
  | caPmtInterval => ¬ label.op.Queues ∧ c'.pacer.queue ≠ c.pacer.queue

def CiDeadline.Over (told : Option Instant) (c : CiController) (d : CiDeadline) : Prop :=
  ∃ now, told = some now ∧ ∀ mark, d.mark c = some mark → mark + d.lead c ≤ now

def CiDeadline.timer (d : CiDeadline) : Timer CiController ControllerLabel where
  mark c := d.mark c
  hold c label c' := d.hold c' (newsOf c label c')
  lead c := d.lead c
  acts c label c' := d.acts c label c'

def controllerClock : Clockwork CiController ControllerLabel where
  starts := Starts
  step := ControllerStep
  clock := CiController.lastTick
  told label := label.op.told
  due := deadline

namespace CiController

variable {heard : Bool} {told : Option Instant} {c₀ c c' : CiController} {slotId : UInt8}

theorem strokes_sets (hpath : Strokes heard told c₀ c) (collected : c₀.session.events = [])
    (clocks : told ≠ none → heard = false) (settle : c₀.pacer.settle = c₀.config.caPmtSettle) (d : CiDeadline) :
    d.mark c = d.mark c₀ ∨ d.mark c = none ∨ ∃ now, c₀.lastTick = some now ∧
      d.mark c = some (deadline now (d.hold c (c.events.drop c₀.events.length))) := by
  have hs := strokes_regular hpath
  cases d with
  | slotStatus =>
      have h := (strokes_checked hpath).sets
      rw [← hs.config] at h
      exact h
  | transportPoll slotId =>
      have h := (@strokes_slotKept heard told c₀ c slotId collected clocks hpath).polls
      rw [← hs.config] at h
      exact h
  | recovery =>
      have h := strokes_recoveryAt hpath
      rw [← hs.config] at h
      exact h
  | slotRetry slotId =>
      have h := (@strokes_slotKept heard told c₀ c slotId collected clocks hpath).retries
      rw [← hs.config] at h
      exact h
  | caPmtSettle =>
      have hstamp {gate : Gate} (hgate : c.pacer.gate = gate) : CiDeadline.caPmtSettle.mark c =
          CaPmtPacer.stamp { c.pacer with gate } := by
        subst hgate
        rfl
      cases (strokes_pacing hpath).gate with
      | kept gate => exact .inl (hstamp gate)
      | passed _ _ _ _ gate => exact .inr (.inl (hstamp gate))
      | @armed now hold delta ticked gate events held =>
          refine .inr (.inr ⟨now, ticked, (hstamp gate).trans ?_⟩)
          rw [CiDeadline.hold, events, List.drop_left, hs.config, ← settle, held]
          rfl
      | closed gate => exact .inr (.inl (hstamp gate))
  | caPmtInterval =>
      have hcleared {gate : Gate} (hgate : c.pacer.gate = gate) : CiDeadline.caPmtInterval.mark c =
          CaPmtPacer.clearedAt { c.pacer with gate } := by
        subst hgate
        rfl
      cases (strokes_pacing hpath).gate with
      | kept gate => exact .inl (hcleared gate)
      | @passed now stamp _ ticked _ _ gate =>
          refine .inr (.inr ⟨now, ticked, (hcleared gate).trans ?_⟩)
          rw [CiDeadline.hold, deadline_zero]
          rfl
      | armed _ gate => exact .inr (.inl (hcleared gate))
      | closed gate => exact .inr (.inl (hcleared gate))

theorem strokes_slotInfo (hpath : Strokes heard told c₀ c) (hmem : .slotInfo slotId ∈ c.trace.drop c₀.trace.length) :
    CiDeadline.Over told c₀ .slotStatus :=
  (strokes_checked hpath).acts.drop _ hmem slotId rfl

theorem strokes_polled (hpath : Strokes heard told c₀ c) (collected : c₀.session.events = [])
    (clocks : told ≠ none → heard = false)
    (hmem : .queued slotId (Tpdu.pollFrame slotId) ∈ c.trace.drop c₀.trace.length) : CiDeadline.Over told c₀ (.transportPoll slotId) :=
  (strokes_slotKept collected clocks hpath).polled.drop _ hmem rfl

theorem strokes_retried (hpath : Strokes heard told c₀ c) (collected : c₀.session.events = [])
    (clocks : told ≠ none → heard = false)
    (hmem : .slotStatusChanged slotId .failed .present ∈ c.events.drop c₀.events.length) : CiDeadline.Over told c₀ (.slotRetry slotId) :=
  (strokes_slotKept collected clocks hpath).retried.drop _ hmem rfl

theorem strokes_settled (hpath : Strokes heard told c₀ c) (was : c₀.pacer.ready = false) (opened : c.pacer.ready = true) :
    CiDeadline.Over told c₀ .caPmtSettle := by
  cases (strokes_pacing hpath).gate with
  | kept gate =>
      rw [CaPmtPacer.ready, gate] at opened
      rw [CaPmtPacer.ready, opened] at was
      cases was
  | @passed now stamp clocked _ since past =>
      refine ⟨now, clocked, fun mark hmark => ?_⟩
      rcases since with gate | gate
      · rw [CiDeadline.mark, CaPmtPacer.stamp, gate, Option.some.injEq] at hmark
        exact hmark ▸ Nat.le_of_lt past
      · rw [CaPmtPacer.ready, gate] at was
        cases was
  | armed _ gate =>
      rw [CaPmtPacer.ready, gate] at opened
      cases opened
  | closed gate =>
      rw [CaPmtPacer.ready, gate] at opened
      cases opened

theorem strokes_released (hpath : Strokes heard told c₀ c) (released : c.pacer.queue ≠ c₀.pacer.queue) :
    CiDeadline.Over told c₀ .caPmtInterval := by
  rcases (strokes_pacing hpath).queue with hsame | ⟨now, stamp, clocked, gate, past⟩
  · exact absurd hsame released
  · refine ⟨now, clocked, fun mark hmark => ?_⟩
    rw [CiDeadline.mark, CaPmtPacer.clearedAt, gate, Option.some.injEq] at hmark
    exact hmark ▸ Nat.le_of_lt past

theorem push_settle (op : ControllerOp) (pacer : CaPmtPacer) : (op.push pacer).settle = pacer.settle := by
  have hchanges (changes : List CaPmtChange) (pacer : CaPmtPacer) :
      (changes.foldl CaPmtPacer.push pacer).settle = pacer.settle := by
    induction changes generalizing pacer with
    | nil => rfl
    | cons change rest ih =>
        rw [List.foldl_cons, ih]
        cases change <;> rfl
  cases op with
  | setCaPmtInterval interval => rfl
  | _ => exact hchanges _ pacer

theorem mark_push (op : ControllerOp) (d : CiDeadline) : d.mark { c with pacer := op.push c.pacer } = d.mark c := by
  cases d with
  | caPmtSettle => simp only [CiDeadline.mark, CaPmtPacer.stamp, push_gate]
  | caPmtInterval => simp only [CiDeadline.mark, CaPmtPacer.clearedAt, push_gate]
  | _ => rfl

theorem Cleared.mark (h : Cleared c c') (d : CiDeadline) : d.mark c' = d.mark c ∨ d.mark c' = none := by
  cases d with
  | slotStatus => exact h.statusCheck
  | transportPoll slotId => exact (h.levels.marks slotId).1
  | recovery => exact .inr h.recoveryAt
  | slotRetry slotId => exact (h.levels.marks slotId).2.imp_right fun hnone => or_self_iff.mp hnone
  | caPmtSettle => exact .inr (by rw [CiDeadline.mark, CaPmtPacer.stamp, h.gate])
  | caPmtInterval => exact .inr (by rw [CiDeadline.mark, CaPmtPacer.clearedAt, h.gate])

theorem Span.sets {op : ControllerOp} {events : List CaEvent} (h : Span c op events c') (collected : c.session.events = [])
    (settle : c.pacer.settle = c.config.caPmtSettle) (d : CiDeadline) :
    d.mark c' = d.mark c ∨ d.mark c' = none ∨ ∃ now, c'.lastTick = some now ∧
      d.mark c' = some (deadline now (d.hold c' ((events ++ c'.events).drop c.events.length))) := by
  cases h with
  | @ticked now c' ticks =>
      cases ticks with
      | waited => exact .inl (by cases d <;> rfl)
      | @driven recoveryAt c' recovery strokes =>
          have hs := strokes_regular strokes
          rcases strokes_sets strokes collected (fun _ => rfl) settle d with hsame | hnone | ⟨now', hticked, hset⟩
          · rcases recovery with rfl | rfl
            · exact .inl (hsame.trans (by cases d <;> rfl))
            · cases d with
              | recovery => exact .inr (.inl hsame)
              | _ => exact .inl hsame
          · exact .inr (.inl hnone)
          · exact .inr (.inr ⟨now', hs.lastTick.trans hticked, hset⟩)
  | worked clock queues hands =>
      obtain ⟨c₁, hpath, hevents, hsame⟩ := hands
      have hs := strokes_regular hpath
      have hmark : d.mark c' = d.mark c₁ := by
        rw [hsame]
        cases d <;> rfl
      have hhold (news : List CaEvent) : d.hold c' news = d.hold c₁ news := by
        rw [hsame]
        cases d <;> rfl
      have hlast : c'.lastTick = c₁.lastTick := by rw [hsame]
      rw [hmark, hhold, hlast, ← hevents, hs.lastTick]
      exact strokes_sets hpath collected (fun hne => absurd rfl hne) settle d
  | pushed queues => exact .inl (mark_push op d)
  | cleared clears => exact (clears.mark d).imp_right .inl

inductive Course (c : CiController) (op : ControllerOp) (events : List CaEvent) (c' : CiController) : Prop
  | stroked {heard c₀ c₁} (strokes : Strokes heard op.told c₀ c₁) (clocks : op.told ≠ none → heard = false)
      (collected : c₀.session.events = []) (trace : c₀.trace = c.trace) (known : c₀.events = c.events)
      (carries : ∀ d : CiDeadline, d ≠ .recovery → d.Over op.told c₀ → d.Over op.told c)
      (pacer : c₀.pacer = c.pacer) (trace' : c'.trace = c₁.trace) (known' : events ++ c'.events = c₁.events)
      (pacer' : c'.pacer = c₁.pacer)
  | pushed (queues : op.Queues) (trace : c'.trace = c.trace) (known : events ++ c'.events = c.events)
      (gate : c'.pacer.gate = c.pacer.gate)
  | cleared (reset : op = .reset) (clears : Cleared c c')

theorem Span.course {op : ControllerOp} {events : List CaEvent} (h : Span c op events c') (collected : c.session.events = []) :
    Course c op events c' := by
  have hover {c₀ : CiController} {told : Option Instant} (slots : c₀.slots = c.slots) (pacer : c₀.pacer = c.pacer)
      (statusCheck : c₀.nextStatusCheck = c.nextStatusCheck) (d : CiDeadline) (hne : d ≠ .recovery) (hd : d.Over told c₀) :
      d.Over told c := by
    obtain ⟨now, clocked, hpast⟩ := hd
    refine ⟨now, clocked, ?_⟩
    cases d with
    | recovery => exact absurd rfl hne
    | _ => simpa only [CiDeadline.mark, CiDeadline.lead, pollOf, retryOf, slots, pacer, statusCheck] using hpast
  cases h with
  | @ticked now c' ticks =>
      cases ticks with
      | waited =>
          have hstill : Strokes false (some now) { c with lastTick := some now } { c with lastTick := some now } := .refl
          exact .stroked hstill (fun _ => rfl) collected rfl rfl (hover rfl rfl rfl) rfl rfl rfl rfl
      | driven recovery strokes =>
          exact .stroked strokes (fun _ => rfl) collected rfl rfl (hover rfl rfl rfl) rfl rfl rfl rfl
  | worked clock queues hands =>
      obtain ⟨c₁, hpath, hevents, hsame⟩ := hands
      rw [← clock] at hpath
      exact .stroked hpath (fun hne => absurd clock hne) collected rfl rfl (hover rfl rfl rfl) rfl (by rw [hsame]) hevents.symm
        (by rw [hsame])
  | pushed queues => exact .pushed queues rfl rfl (push_gate op c.pacer)
  | cleared clears => exact .cleared rfl clears

theorem not_mem_drop {α : Type} {xs ys : List α} {x : α} (h : ys = xs) : x ∉ ys.drop xs.length := by
  rw [h, List.drop_length]
  exact List.not_mem_nil

theorem Course.acts {label : ControllerLabel} (h : Course c label.op (deliveredBy label.reply) c') {d : CiDeadline}
    (hacts : d.acts c label c') (hne : d ≠ .recovery) : d.Over label.op.told c := by
  cases h with
  | stroked strokes clocks collected trace known carries pacer trace' known' pacer' =>
      refine carries d hne ?_
      cases d with
      | recovery => exact absurd rfl hne
      | slotStatus =>
          obtain ⟨slotId, hmem⟩ := hacts
          rw [traceBetween, trace', ← trace] at hmem
          exact strokes_slotInfo strokes hmem
      | transportPoll slotId =>
          rw [CiDeadline.acts, traceBetween, trace', ← trace] at hacts
          exact strokes_polled strokes collected clocks hacts
      | slotRetry slotId =>
          have hmem := hacts.2
          rw [newsOf, known', ← known] at hmem
          exact strokes_retried strokes collected clocks hmem
      | caPmtSettle =>
          obtain ⟨was, opened⟩ := hacts
          rw [← pacer] at was
          rw [pacer'] at opened
          exact strokes_settled strokes was opened
      | caPmtInterval =>
          have released := hacts.2
          rw [← pacer, pacer'] at released
          exact strokes_released strokes released
  | pushed queues trace known gate =>
      cases d with
      | recovery => exact absurd rfl hne
      | slotStatus =>
          obtain ⟨slotId, hmem⟩ := hacts
          exact absurd hmem (not_mem_drop trace)
      | transportPoll slotId => exact absurd hacts (not_mem_drop trace)
      | slotRetry slotId => exact absurd hacts.2 (not_mem_drop known)
      | caPmtSettle =>
          obtain ⟨was, opened⟩ := hacts
          rw [CaPmtPacer.ready, gate, ← CaPmtPacer.ready, was] at opened
          cases opened
      | caPmtInterval => exact absurd queues hacts.1
  | cleared reset clears =>
      cases d with
      | recovery => exact absurd rfl hne
      | slotStatus =>
          obtain ⟨slotId, hmem⟩ := hacts
          have hunasked : (Obs.slotInfo slotId).Unasked := clears.levels.session.trace.drop _ hmem
          exact hunasked.elim
      | transportPoll slotId =>
          have hunasked : (Obs.queued slotId (Tpdu.pollFrame slotId)).Unasked := clears.levels.session.trace.drop _ hacts
          exact absurd rfl (hunasked slotId)
      | slotRetry slotId => exact absurd reset hacts.1
      | caPmtSettle =>
          have opened := hacts.2
          rw [CaPmtPacer.ready, clears.gate] at opened
          cases opened
      | caPmtInterval =>
          have hpacer := clears.levels.pacer
          exact absurd (by rw [hpacer]) hacts.2

theorem Turn.recovery_acts {label : ControllerLabel} (h : c.Settled) (hturn : Turn c label.op label.reply c')
    (hacts : CiDeadline.recovery.acts c label c') : CiDeadline.recovery.Over label.op.told c := by
  obtain ⟨hop, hsuspended, hresumed⟩ := hacts
  have hover (due : c.Due label.op) : CiDeadline.recovery.Over label.op.told c := by
    obtain ⟨now, recoveryAt, htick, hmark, hle⟩ := due hsuspended
    refine ⟨now, by rw [htick]; rfl, fun mark h => ?_⟩
    rw [CiDeadline.mark, hmark, Option.some.injEq] at h
    exact h ▸ hle
  obtain ⟨_, _, hbeat⟩ := hturn.beat h
  cases hbeat with
  | waited suspended recoveryAt trace =>
      rcases hresumed with hresumed | hchanged
      · rw [suspended, hsuspended] at hresumed
        cases hresumed
      · exact absurd trace hchanged
  | worked due => exact hover due
  | restarted due => exact hover due
  | reset op => exact absurd op hop
  | resetFailed op => exact absurd op hop

structure Configured (c : CiController) : Prop where
  settled : c.Settled
  settle : c.pacer.settle = c.config.caPmtSettle

theorem Span.settle {op : ControllerOp} {events : List CaEvent} (h : Span c op events c')
    (settle : c.pacer.settle = c.config.caPmtSettle) : c'.pacer.settle = c'.config.caPmtSettle := by
  have hregular {c₀ c₁ : CiController} (hs : Regular c₀ c₁) (hsettle : c₀.pacer.settle = c₀.config.caPmtSettle) :
      c₁.pacer.settle = c₁.config.caPmtSettle := by rw [hs.settle, hs.config, hsettle]
  cases h with
  | ticked ticks =>
      cases ticks with
      | waited => exact settle
      | driven recovery strokes => exact hregular (strokes_regular strokes) settle
  | worked clock queues hands =>
      obtain ⟨c₁, hpath, hevents, hsame⟩ := hands
      have hsettle : c₁.pacer.settle = c₁.config.caPmtSettle := hregular (strokes_regular hpath) settle
      rw [hsame]
      exact hsettle
  | pushed queues => exact (push_settle _ _).trans settle
  | cleared clears => exact hregular clears.levels.regular settle

theorem configured_start (h : Starts c) : c.Configured := by
  refine ⟨settled_start h, ?_⟩
  obtain ⟨link, slotsNum, config, rfl⟩ := start_fromParts h
  rfl

theorem Configured.step {label : ControllerLabel} (h : c.Configured) (hstep : ControllerStep c label c') : c'.Configured :=
  ⟨h.settled.step hstep, (step_span h.settled hstep).settle h.settle⟩

theorem configured_reached (h : controllerClock.Reached c) : c.Configured := by
  obtain ⟨start, labels, hstart, hrun⟩ := h
  exact hrun.invariant (configured_start hstart) fun _ _ _ => Configured.step

theorem controllerClock_keeps (d : CiDeadline) : controllerClock.Keeps d.timer where
  starts c hstart := by
    have hslot (slotId : UInt8) : c.pollOf slotId = none ∧ c.retryOf slotId = none := by
      cases known : c.slots[slotId.toNat]? with
      | none =>
          rw [pollOf, retryOf, known]
          exact ⟨rfl, rfl⟩
      | some slot =>
          rw [pollOf_known known, retryOf_known known, (blank_start hstart).view known]
          exact ⟨rfl, rfl⟩
    cases d with
    | transportPoll slotId => exact (hslot slotId).1
    | slotRetry slotId => exact (hslot slotId).2
    | _ =>
        obtain ⟨link, slotsNum, config, rfl⟩ := start_fromParts hstart
        rfl
  sets c label c' hreached hstep := by
    have h := configured_reached hreached
    have hspan := step_span h.settled hstep
    have hsets := hspan.sets h.settled.calm.collected h.settle d
    have hmark : d.mark (linkLens.set label.link c) = d.mark c := by cases d <;> rfl
    rw [hmark] at hsets
    exact hsets
  acts c label c' hreached hstep hacts := by
    have h := configured_reached hreached
    have hrelinked := h.settled.relinked label.link
    have hover : d.Over label.op.told (linkLens.set label.link c) := by
      by_cases hd : d = .recovery
      · subst hd
        exact (step_turn h.settled hstep).recovery_acts hrelinked hacts
      · exact ((step_span h.settled hstep).course hrelinked.calm.collected).acts hacts hd
    cases d <;> exact hover

end CiController

section OnTime

variable {c c' : CiController} {label : ControllerLabel} {d : CiDeadline}

theorem deadline_of_lt {now : Instant} {hold : Duration} (h : now + hold < Instant.limit) : deadline now hold = now + hold := by
  rw [deadline, Instant.checkedAdd, if_pos h]
  rfl

theorem deadlines_not_early {now : Instant} {hold : Duration} (stands : controllerClock.Stands d.timer now hold c)
    (step : ControllerStep c label c') (acts : d.acts c label c') (representable : now + hold < Instant.limit) :
    ∃ told, label.op = .tick told ∧ now + hold + d.lead c ≤ told := by
  obtain ⟨told, htold, hle⟩ := stands.on_time (CiController.controllerClock_keeps d) step acts (deadline_of_lt representable)
  refine ⟨told, ?_, hle⟩
  have hclocked : label.op.told = some told := htold
  cases hop : label.op with
  | tick now =>
      rw [hop, ControllerOp.told, Option.some.injEq] at hclocked
      rw [hclocked]
  | _ =>
      rw [hop] at hclocked
      cases hclocked

-- `Duration::MAX`
def Duration.max : Duration := Duration.fromSecs (2 ^ 64 - 1) + 999999999

def oneSlotRetrying (retryInterval : Duration) : CiController :=
  CiController.fromParts (CiSession.new (CiTransport.new {} 1)) { retryInterval }

theorem oneSlotRetrying_starts (retryInterval : Duration) : Starts (oneSlotRetrying retryInterval) :=
  ⟨{ retryInterval }, {}, {}, rfl⟩

-- The driver does not tell about the slot.
def suspends (retryInterval : Duration) : Option (ControllerLabel × CiController) :=
  ControllerOp.next (oneSlotRetrying retryInterval) (slotInfoFails, .tick 0)

theorem suspends_stands {retryInterval : Duration} (h : suspends retryInterval = some (label, c))
    (ticked : c.lastTick = some 0) (retries : c.config.retryInterval = retryInterval) (suspended : c.recoveryAt ≠ none) :
    controllerClock.Stands CiDeadline.recovery.timer 0 retryInterval c :=
  .set ⟨_, [], oneSlotRetrying_starts retryInterval, .nil⟩ (ControllerOp.next_step h) ticked retries suspended suspended

theorem ControllerOp.next_op {call : CaDevice × ControllerOp} (h : ControllerOp.next c call = some (label, c')) :
    label.op = call.2 := by
  unfold ControllerOp.next at h
  split at h
  · cases h
    rfl
  · cases h
    rfl
  · cases h

theorem resumes_acts {now : Instant} (h : ControllerOp.next c ({}, .tick now) = some (label, c'))
    (suspended : c.linkSuspended = true) (resumed : c'.linkSuspended = false) :
    ControllerStep c label c' ∧ CiDeadline.recovery.acts c label c' ∧ label.op = .tick now := by
  have hop := ControllerOp.next_op h
  refine ⟨ControllerOp.next_step h, ⟨?_, suspended, .inl resumed⟩, hop⟩
  rw [hop]
  nofun

theorem suspends_max : (suspends Duration.max).isSome := by decide +kernel

def suspendedForever : CiController := ((suspends Duration.max).get suspends_max).2

theorem suspendedForever_stands : controllerClock.Stands CiDeadline.recovery.timer 0 Duration.max suspendedForever :=
  suspends_stands (Option.some_get suspends_max).symm (by decide +kernel) (by decide +kernel) (by decide +kernel)

theorem suspendedForever_next : (ControllerOp.next suspendedForever ({}, .tick 1)).isSome := by decide +kernel

theorem recovery_early : ∃ c label c', controllerClock.Stands CiDeadline.recovery.timer 0 Duration.max c ∧
    ControllerStep c label c' ∧ CiDeadline.recovery.acts c label c' ∧
      ¬ ∃ told, label.op = .tick told ∧ 0 + Duration.max + CiDeadline.recovery.lead c ≤ told := by
  obtain ⟨hstep, hacts, hop⟩ := resumes_acts (Option.some_get suspendedForever_next).symm (by decide +kernel) (by decide +kernel)
  refine ⟨suspendedForever, _, _, suspendedForever_stands, hstep, hacts, ?_⟩
  rintro ⟨told, htold, hle⟩
  rw [hop, ControllerOp.tick.injEq] at htold
  subst htold
  exact absurd hle (by decide +kernel)

theorem suspends_default : (suspends (Duration.fromSecs 1)).isSome := by decide +kernel

def suspendedOneSecond : CiController := ((suspends (Duration.fromSecs 1)).get suspends_default).2

theorem suspendedOneSecond_stands :
    controllerClock.Stands CiDeadline.recovery.timer 0 (Duration.fromSecs 1) suspendedOneSecond :=
  suspends_stands (Option.some_get suspends_default).symm (by decide +kernel) (by decide +kernel) (by decide +kernel)

theorem suspendedOneSecond_next : (ControllerOp.next suspendedOneSecond ({}, .tick (Duration.fromSecs 1))).isSome := by
  decide +kernel

theorem deadlines_not_early_one_second : ∃ c label c', ControllerStep c label c' ∧ CiDeadline.recovery.acts c label c' ∧
    ∃ told, label.op = .tick told ∧ 0 + Duration.fromSecs 1 + CiDeadline.recovery.lead c ≤ told := by
  obtain ⟨hstep, hacts, _⟩ := resumes_acts (Option.some_get suspendedOneSecond_next).symm (by decide +kernel) (by decide +kernel)
  exact ⟨suspendedOneSecond, _, _, hstep, hacts,
    deadlines_not_early suspendedOneSecond_stands hstep hacts (by decide +kernel)⟩

end OnTime

end LibDvb
