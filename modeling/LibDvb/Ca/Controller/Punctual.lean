import LibDvb.Ca.Controller.Escalation
import LibDvb.Ca.Controller.Span
import LibDvb.Ca.Pacing

namespace LibDvb

open Relation Act Outcome

def Past (told mark : Option Instant) : Prop := ∃ now, told = some now ∧ ∀ stamp, mark = some stamp → stamp ≤ now

theorem Obs.Unasked.not_slotInfo {obs : Obs} (h : obs.Unasked) (slotId : UInt8) : obs ≠ .slotInfo slotId := by
  rintro rfl
  exact h

namespace CiController

variable {heard : Bool} {told : Option Instant} {c₀ c c' : CiController} {slotId other : UInt8} {slot : ControllerSlot}

def pollOf (c : CiController) (slotId : UInt8) : Option Instant := c.slots[slotId.toNat]? >>= ControllerSlot.nextPoll

def retryOf (c : CiController) (slotId : UInt8) : Option Instant := c.slots[slotId.toNat]? >>= ControllerSlot.retryAt

structure Regular (c c' : CiController) : Prop where
  lastTick : c'.lastTick = c.lastTick
  config : c'.config = c.config
  settle : c'.pacer.settle = c.pacer.settle
  interval : c'.pacer.interval = c.pacer.interval

theorem Regular.refl (c : CiController) : Regular c c := ⟨rfl, rfl, rfl, rfl⟩

theorem Regular.trans (h : Regular c₀ c) (h' : Regular c c') : Regular c₀ c' :=
  ⟨h'.lastTick.trans h.lastTick, h'.config.trans h.config, h'.settle.trans h.settle, h'.interval.trans h.interval⟩

theorem Levels.regular {tried : Bool} {retry : Option Instant} (h : Levels heard tried retry c c') : Regular c c' :=
  ⟨h.lastTick, h.config, by rw [h.pacer], by rw [h.pacer]⟩

theorem Soft.levels (h : Soft heard c c') : Levels heard false none c c' := h.fades.levels

theorem poll_pacer (pacer : CaPmtPacer) (now : Instant) :
    (pacer.poll now).2.settle = pacer.settle ∧ (pacer.poll now).2.interval = pacer.interval := by
  unfold CaPmtPacer.poll
  split
  · exact ⟨rfl, rfl⟩
  · split <;> exact ⟨rfl, rfl⟩
  · split <;> exact ⟨rfl, rfl⟩

theorem Stroke.regular (h : Stroke heard told c c') : Regular c c' := by
  cases h with
  | soft soft => exact soft.levels.regular
  | recovered recovers =>
      obtain ⟨retry, _, hrearmed⟩ := recovers
      exact hrearmed.levels.regular
  | passed => exact ⟨rfl, rfl, (poll_pacer _ _).1, (poll_pacer _ _).2⟩
  | _ => exact ⟨rfl, rfl, rfl, rfl⟩

theorem strokes_regular (hpath : Strokes heard told c c') : Regular c c' :=
  Path.order hpath .refl .trans fun _ _ => Stroke.regular

section Status

structure Checked (told : Option Instant) (c₀ c : CiController) : Prop where
  fresh : c.linkSuspended = false → c.nextStatusCheck = c₀.nextStatusCheck ∨ Past told c₀.nextStatusCheck
  sets : c.nextStatusCheck = c₀.nextStatusCheck ∨ c.nextStatusCheck = none ∨
    ∃ now, c₀.lastTick = some now ∧ c.nextStatusCheck = some (deadline now
      (if c.linkSuspended then c₀.config.retryInterval else c₀.config.slotStatusInterval))
  acts : Adds (fun obs => ∀ slotId, obs = .slotInfo slotId → Past told c₀.nextStatusCheck) c₀.trace c.trace

theorem Checked.refl (told : Option Instant) (c : CiController) : Checked told c c :=
  ⟨fun _ => .inl rfl, .inl rfl, .refl _⟩

theorem adds_unasked {xs ys zs : List Obs} {A : Obs → Prop} (h : Adds A xs ys) (h' : Adds Obs.Unasked ys zs)
    (ha : ∀ obs : Obs, obs.Unasked → A obs) : Adds A xs zs := h.trans (h'.mono ha)

theorem Checked.stays (h : Checked told c₀ c) (suspended : c'.linkSuspended = c.linkSuspended)
    (statusCheck : c'.nextStatusCheck = c.nextStatusCheck) (trace : Adds (fun obs => ∀ slotId, obs ≠ .slotInfo slotId) c.trace c'.trace) :
    Checked told c₀ c' := by
  refine ⟨?_, ?_, h.acts.trans (trace.mono fun obs hobs slotId heq => absurd heq (hobs slotId))⟩
  · rw [suspended, statusCheck]
    exact h.fresh
  · rw [suspended, statusCheck]
    exact h.sets

theorem Checked.due (h : Checked told c₀ c) {now : Instant} (clocked : told = some now) (resumed : c.linkSuspended = false)
    (due : ∀ statusCheck, c.nextStatusCheck = some statusCheck → statusCheck ≤ now) : Past told c₀.nextStatusCheck := by
  rcases h.fresh resumed with hsame | hpast
  · exact ⟨now, clocked, hsame ▸ due⟩
  · exact hpast

theorem Checked.stroke (hs : Regular c₀ c) (h : Checked told c₀ c) (stroke : Stroke heard told c c') : Checked told c₀ c' := by
  cases stroke with
  | soft soft =>
      have hfades := @Soft.fades heard false none _ _ soft
      exact h.stays hfades.stays.suspended hfades.stays.statusCheck
        (hfades.levels.session.trace.mono fun _ => Obs.Unasked.not_slotInfo)
  | recovered recovers =>
      obtain ⟨retry, hretry, hrearmed⟩ := recovers
      refine ⟨fun hresumed => ?_, .inr ?_, adds_unasked h.acts hrearmed.levels.session.trace fun obs hobs other heq =>
        absurd heq (Obs.Unasked.not_slotInfo hobs other)⟩
      · rw [hrearmed.suspended] at hresumed
        cases hresumed
      · rw [hrearmed.statusCheck, hrearmed.suspended, if_pos rfl]
        rcases hretry with hnone | ⟨now, hticked, hsome⟩
        · exact .inl hnone
        · exact .inr ⟨now, hs.lastTick ▸ hticked, hs.config ▸ hsome⟩
  | polled clocked resumed known active due trace =>
      refine h.stays rfl rfl (trace.mono fun obs hobs other heq => ?_)
      rcases hobs with hunasked | hpoll
      · exact Obs.Unasked.not_slotInfo hunasked other heq
      · cases hpoll.symm.trans heq
  | @probed now slotId clocked resumed due =>
      refine ⟨h.fresh, h.sets, h.acts.trans (adds_snoc (fun _ _ => h.due clocked resumed due) _)⟩
  | @scheduled now clocked resumed ticked due =>
      refine ⟨fun _ => .inr (h.due clocked resumed due), .inr (.inr ⟨now, hs.lastTick ▸ ticked, ?_⟩), h.acts⟩
      rw [resumed, hs.config]
      rfl
  | _ => exact h.stays rfl rfl (.refl _)

theorem strokes_checked (hpath : Strokes heard told c₀ c) : Checked told c₀ c := by
  induction hpath with
  | refl => exact .refl told c₀
  | tail hpath stroke ih => exact ih.stroke (strokes_regular hpath) stroke

end Status

section Slots

def Quiet (heard : Bool) (c : CiController) : Prop :=
  ∀ e : CaEvent, e.Steers → e ∈ c.session.events → heard = true ∧ ∃ slotId, e = .transportReady slotId

theorem Quiet.idles (h : Quiet heard c) (hidles : CiSession.Idles heard c.session c'.session) : Quiet heard c' := by
  intro e hsteers hmem
  rcases hidles.events e hsteers hmem with hmem | hheard
  · exact h e hsteers hmem
  · exact hheard

theorem Quiet.stroke (h : Quiet heard c) (stroke : Stroke heard told c c') : Quiet heard c' := by
  cases stroke with
  | soft soft => exact h.idles soft.levels.session
  | recovered recovers =>
      obtain ⟨retry, _, hrearmed⟩ := recovers
      exact h.idles hrearmed.levels.session
  | _ => exact h

theorem strokes_quiet (collected : c₀.session.events = []) (hpath : Strokes heard told c₀ c) : Quiet heard c := by
  induction hpath with
  | refl =>
      intro e _ hmem
      rw [collected] at hmem
      cases hmem
  | tail _ stroke ih => exact ih.stroke stroke

theorem Quiet.unready (h : Quiet false c) (slotId : UInt8) : .transportReady slotId ∉ c.session.events :=
  fun hmem => Bool.false_ne_true (h (.transportReady slotId) trivial hmem).1

theorem Quiet.tried {e : CaEvent} (h : Quiet heard c) (hretries : e.Retries) : e ∉ c.session.events := by
  intro hmem
  obtain ⟨_, other, rfl⟩ := h e hretries.steers hmem
  obtain ⟨slotId, hready⟩ := hretries
  cases hready

structure Lapsing (heard : Bool) (slotId : UInt8) (c c' : CiController) : Prop where
  poll : c'.pollOf slotId = c.pollOf slotId ∨ c'.pollOf slotId = none
  retry : c'.retryOf slotId = c.retryOf slotId ∨ c'.retryOf slotId = none
  active : heard = false → c'.isActive slotId = true → c.isActive slotId = true ∧ c'.pollOf slotId = c.pollOf slotId

theorem Lapsing.of_slots (h : c'.slots = c.slots) : Lapsing heard slotId c c' := by
  have hpoll : c'.pollOf slotId = c.pollOf slotId := by rw [pollOf, h, pollOf]
  have hretry : c'.retryOf slotId = c.retryOf slotId := by rw [retryOf, h, retryOf]
  refine ⟨.inl hpoll, .inl hretry, fun _ hactive => ⟨?_, hpoll⟩⟩
  rw [isActive, ← h]
  exact hactive

theorem Lapsing.trans {c'' : CiController} (h : Lapsing heard slotId c c') (h' : Lapsing heard slotId c' c'') :
    Lapsing heard slotId c c'' where
  poll := lapse_trans h.poll h'.poll
  retry := lapse_trans h.retry h'.retry
  active hheard hactive := by
    obtain ⟨hactive', hsame'⟩ := h'.active hheard hactive
    obtain ⟨hactive, hsame⟩ := h.active hheard hactive'
    exact ⟨hactive, hsame'.trans hsame⟩

theorem pollOf_known (known : c.slots[slotId.toNat]? = some slot) : c.pollOf slotId = slot.nextPoll := by
  rw [pollOf, known]
  rfl

theorem retryOf_known (known : c.slots[slotId.toNat]? = some slot) : c.retryOf slotId = slot.retryAt := by
  rw [retryOf, known]
  rfl

theorem isActive_known (known : c.slots[slotId.toNat]? = some slot) : c.isActive slotId = true ↔ slot.status = .active := by
  rw [isActive, known]
  exact decide_eq_true_iff

theorem Lapsing.of_lapses (h : ∀ slot', c'.slots[slotId.toNat]? = some slot' →
    ∃ slot, c.slots[slotId.toNat]? = some slot ∧ slot.Lapses slot') : Lapsing heard slotId c c' := by
  cases known' : c'.slots[slotId.toNat]? with
  | none =>
      refine ⟨.inr ?_, .inr ?_, fun _ hactive => ?_⟩
      · rw [pollOf, known']
        rfl
      · rw [retryOf, known']
        rfl
      · rw [isActive, known'] at hactive
        cases hactive
  | some slot' =>
      obtain ⟨slot, known, hlapses⟩ := h slot' known'
      have hpoll := hlapses.nextPoll
      have hretry := hlapses.retryAt
      rw [← pollOf_known known, ← pollOf_known known'] at hpoll
      rw [← retryOf_known known, ← retryOf_known known'] at hretry
      refine ⟨hpoll, hretry, fun _ hactive => ?_⟩
      obtain ⟨hstatus, hsame⟩ := hlapses.active ((isActive_known known').mp hactive)
      rw [← pollOf_known known, ← pollOf_known known'] at hsame
      exact ⟨(isActive_known known).mpr hstatus, hsame⟩

theorem Bides.lapsing (h : Bides heard c c') : Lapsing heard slotId c c' := .of_lapses (h.slots slotId)

theorem Lapsing.of_edit {f : ControllerSlot → ControllerSlot}
    (hf : ∀ slot, c.slots[slotId.toNat]? = some slot → slot.Lapses (f slot)) : Lapsing heard other c (c.edit slotId f) :=
  (@bides_edit heard c slotId f hf).lapsing

theorem edit_cases (other slotId : UInt8) (f : ControllerSlot → ControllerSlot) :
    (c.edit other f).slots[slotId.toNat]? = c.slots[slotId.toNat]? ∨ ∃ slot, c.slots[slotId.toNat]? = some slot ∧
      (c.edit other f).slots[slotId.toNat]? = some (f slot) := by
  rw [getElem?_edit]
  split
  · cases known : c.slots[slotId.toNat]? with
    | none => exact .inl rfl
    | some slot => exact .inr ⟨slot, rfl, rfl⟩
  · exact .inl rfl

theorem Soft.lapsing (h : Soft heard c c') (quiet : Quiet heard c) : Lapsing heard slotId c c' := by
  cases h with
  | waits bides => exact bides.lapsing
  | @armed now hold event c₁ ticked held bides =>
      have hgated : Lapsing heard slotId c (c.withGate (.armed (deadline now hold))) := .of_slots rfl
      have hemitted : Lapsing heard slotId c₁ (c₁.emit [event]) := .of_slots rfl
      exact (hgated.trans bides.lapsing).trans hemitted
  | @activated other c' ready bides =>
      cases heard with
      | false => exact absurd ready (quiet.unready other)
      | true =>
          refine .trans ⟨?_, ?_, nofun⟩ bides.lapsing
          · rcases edit_cases (c := c) other slotId ControllerSlot.inUse with hsame | ⟨slot, known, known'⟩
            · exact .inl (by rw [pollOf, hsame, pollOf])
            · exact .inr (pollOf_known known')
          · rcases edit_cases (c := c) other slotId ControllerSlot.inUse with hsame | ⟨slot, known, known'⟩
            · exact .inl (by rw [retryOf, hsame, retryOf])
            · exact .inl ((retryOf_known known').trans (retryOf_known known).symm)

structure SlotKept (heard : Bool) (told : Option Instant) (slotId : UInt8) (c₀ c : CiController) : Prop where
  fresh : c.linkSuspended = false → c.retryOf slotId = c₀.retryOf slotId ∨ c.retryOf slotId = none
  active : c.linkSuspended = false → heard = false → c.isActive slotId = true →
    c.pollOf slotId = c₀.pollOf slotId ∨ Past told (c₀.pollOf slotId)
  polls : c.pollOf slotId = c₀.pollOf slotId ∨ c.pollOf slotId = none ∨ ∃ now, c₀.lastTick = some now ∧
    c.pollOf slotId = some (deadline now c₀.config.transportPollInterval)
  retries : c.retryOf slotId = c₀.retryOf slotId ∨ c.retryOf slotId = none ∨ ∃ now, c₀.lastTick = some now ∧
    c.retryOf slotId = some (deadline now c₀.config.retryInterval)
  polled : Adds (fun obs => obs = .queued slotId (Tpdu.pollFrame slotId) → Past told (c₀.pollOf slotId)) c₀.trace c.trace
  retried : Adds (fun e => e = .slotStatusChanged slotId .failed .present → Past told (c₀.retryOf slotId))
    c₀.events c.events

theorem SlotKept.refl (c : CiController) : SlotKept heard told slotId c c :=
  ⟨fun _ => .inl rfl, fun _ _ _ => .inl rfl, .inl rfl, .inl rfl, .refl _, .refl _⟩

theorem mark_lapsed {a b d : Option Instant} {P : Option Instant → Prop} (h : b = a ∨ b = none ∨ P b) (h' : d = b ∨ d = none) :
    d = a ∨ d = none ∨ P d := by
  rcases h' with rfl | rfl
  · exact h
  · exact .inr (.inl rfl)

theorem SlotKept.lapses (h : SlotKept heard told slotId c₀ c) (suspended : c'.linkSuspended = c.linkSuspended)
    (lapsing : Lapsing heard slotId c c')
    (polled : Adds (fun obs => obs = .queued slotId (Tpdu.pollFrame slotId) → Past told (c₀.pollOf slotId)) c.trace c'.trace)
    (retried : Adds (fun e => e = .slotStatusChanged slotId .failed .present → Past told (c₀.retryOf slotId))
      c.events c'.events) : SlotKept heard told slotId c₀ c' where
  fresh hresumed := lapse_trans (h.fresh (suspended ▸ hresumed)) lapsing.retry
  active hresumed hheard hactive := by
    obtain ⟨hactive', hsame⟩ := lapsing.active hheard hactive
    rw [hsame]
    exact h.active (suspended ▸ hresumed) hheard hactive'
  polls := mark_lapsed (P := fun mark => ∃ now, c₀.lastTick = some now ∧
    mark = some (deadline now c₀.config.transportPollInterval)) h.polls lapsing.poll
  retries := mark_lapsed (P := fun mark => ∃ now, c₀.lastTick = some now ∧
    mark = some (deadline now c₀.config.retryInterval)) h.retries lapsing.retry
  polled := h.polled.trans polled
  retried := h.retried.trans retried

theorem Levels.marks {tried : Bool} {retry : Option Instant} (h : Levels heard tried retry c c') (slotId : UInt8) :
    (c'.pollOf slotId = c.pollOf slotId ∨ c'.pollOf slotId = none) ∧
      (c'.retryOf slotId = c.retryOf slotId ∨ c'.retryOf slotId = none ∨ c'.retryOf slotId = retry) := by
  cases known' : c'.slots[slotId.toNat]? with
  | none =>
      rw [pollOf, retryOf, known']
      exact ⟨.inr rfl, .inr (.inl rfl)⟩
  | some slot' =>
      obtain ⟨slot, known, hpoll, hretry⟩ := h.slots slotId slot' known'
      rw [pollOf_known known, pollOf_known known', retryOf_known known, retryOf_known known']
      exact ⟨hpoll, hretry⟩

theorem Levels.polled {tried : Bool} {retry : Option Instant} {P : Prop} (h : Levels heard tried retry c c') :
    Adds (fun obs => obs = .queued slotId (Tpdu.pollFrame slotId) → P) c.trace c'.trace := by
  refine h.session.trace.mono fun obs hobs heq => ?_
  rw [heq] at hobs
  exact absurd rfl (hobs slotId)

theorem Levels.retried {retry : Option Instant} {P : Prop} (h : Levels heard false retry c c') (quiet : Quiet heard c) :
    Adds (fun e => e = .slotStatusChanged slotId .failed .present → P) c.events c'.events :=
  h.events.mono fun _ he heq => absurd (he rfl ⟨slotId, heq⟩) (quiet.tried ⟨slotId, heq⟩)

theorem SlotKept.poll_due {now : Instant} (h : SlotKept heard told slotId c₀ c) (clocks : told ≠ none → heard = false)
    (clocked : told = some now) (resumed : c.linkSuspended = false) (known : c.slots[slotId.toNat]? = some slot)
    (active : slot.status = .active) (due : ∀ nextPoll, slot.nextPoll = some nextPoll → nextPoll ≤ now) :
    Past told (c₀.pollOf slotId) := by
  have hheard : heard = false := clocks (clocked ▸ Option.some_ne_none now)
  rcases h.active resumed hheard ((isActive_known known).mpr active) with hsame | hpast
  · refine ⟨now, clocked, ?_⟩
    rw [← hsame, pollOf_known known]
    exact due
  · exact hpast

theorem SlotKept.stroke (hs : Regular c₀ c) (quiet : Quiet heard c) (clocks : told ≠ none → heard = false)
    (h : SlotKept heard told slotId c₀ c) (stroke : Stroke heard told c c') : SlotKept heard told slotId c₀ c' := by
  cases stroke with
  | soft soft => exact h.lapses soft.stays.2 (soft.lapsing quiet) soft.levels.polled (soft.levels.retried quiet)
  | recovered recovers =>
      obtain ⟨retry, hretry, hrearmed⟩ := recovers
      obtain ⟨hpoll, hretries⟩ := hrearmed.levels.marks slotId
      have hbusy {P : Prop} (hresumed : c'.linkSuspended = false) : P := by
        rw [hrearmed.suspended] at hresumed
        cases hresumed
      refine ⟨hbusy, hbusy, mark_lapsed (P := fun mark => ∃ now, c₀.lastTick = some now ∧
        mark = some (deadline now c₀.config.transportPollInterval)) h.polls hpoll, ?_, h.polled.trans hrearmed.levels.polled,
        h.retried.trans (hrearmed.levels.retried quiet)⟩
      rcases hretries with hsame | hnone | hset
      · rw [hsame]
        exact h.retries
      · exact .inr (.inl hnone)
      · rcases hretry with hnone | ⟨now, hticked, hsome⟩
        · exact .inr (.inl (hset.trans hnone))
        · exact .inr (.inr ⟨now, hs.lastTick ▸ hticked, hs.config ▸ hset.trans hsome⟩)
  | @retried now other slot retryAt clocked resumed known stands due =>
      have hedit : Lapsing heard slotId c (c.edit other ({ · with retryAt := none, status := .present })) :=
        .of_edit fun _ _ => ⟨.inl rfl, .inr rfl, nofun⟩
      refine h.lapses rfl (hedit.trans (.of_slots rfl)) (.refl _) (adds_snoc (fun heq => ?_) _)
      cases heq
      refine ⟨now, clocked, fun stamp hstamp => ?_⟩
      have hretry := retryOf_known known
      rcases h.fresh resumed with hsame | hnone
      · rw [← hsame, hretry, stands, Option.some.injEq] at hstamp
        exact hstamp ▸ due
      · rw [hretry, stands] at hnone
        cases hnone
  | @polled now other slot t clocked resumed known active due trace =>
      refine h.lapses rfl (.of_slots rfl) (trace.mono fun obs hobs heq => ?_) (.refl _)
      rcases hobs with hunasked | hpoll
      · rw [heq] at hunasked
        exact absurd rfl (hunasked slotId)
      · cases heq.symm.trans hpoll
        exact h.poll_due clocks clocked resumed known active due
  | @awaited now other slot clocked resumed ticked known active due =>
      by_cases heq : other = slotId
      · subst heq
        have known' := known_edit known ({ · with
          commandSince := some now
          nextPoll := some (deadline now c.config.transportPollInterval) })
        have hretry : (c.edit other ({ · with
            commandSince := some now
            nextPoll := some (deadline now c.config.transportPollInterval) })).retryOf other = c.retryOf other :=
          (retryOf_known known').trans (retryOf_known known).symm
        refine ⟨?_, fun _ _ _ => .inr (h.poll_due clocks clocked resumed known active due), ?_, ?_, h.polled, h.retried⟩
        · rw [hretry]
          exact h.fresh
        · refine .inr (.inr ⟨now, hs.lastTick ▸ ticked, ?_⟩)
          rw [pollOf_known known', ← hs.config]
        · rw [hretry]
          exact h.retries
      · refine h.lapses rfl (.of_lapses fun slot' known' => ?_) (.refl _) (.refl _)
        rw [getElem?_edit, if_neg heq] at known'
        exact ⟨slot', known', .refl slot'⟩
  | probed other clocked resumed due =>
      exact h.lapses rfl (.of_slots rfl) (adds_snoc nofun _) (.refl _)
  | _ => exact h.lapses rfl (.of_slots rfl) (.refl _) (.refl _)

theorem strokes_slotKept (collected : c₀.session.events = []) (clocks : told ≠ none → heard = false)
    (hpath : Strokes heard told c₀ c) : SlotKept heard told slotId c₀ c := by
  induction hpath with
  | refl => exact .refl c₀
  | tail hpath stroke ih => exact ih.stroke (strokes_regular hpath) (strokes_quiet collected hpath) clocks stroke

end Slots

section Gate

def lastHold (settle : Duration) (events : List CaEvent) : Option Duration :=
  (events.filterMap (CaEvent.hold settle)).getLast?

theorem lastHold_snoc {settle : Duration} {hold : Duration} {event : CaEvent} (held : event.hold settle = some hold)
    (events : List CaEvent) : lastHold settle (events ++ [event]) = some hold := by
  rw [lastHold, List.filterMap_append, List.filterMap_cons_some held, List.filterMap_nil]
  exact List.getLast?_concat

theorem lastHold_quiet {settle : Duration} {events : List CaEvent} (h : ∀ e ∈ events, e.hold settle = none)
    (before : List CaEvent) : lastHold settle (before ++ events) = lastHold settle before := by
  rw [lastHold, List.filterMap_append, List.filterMap_eq_nil_iff.mpr h, List.append_nil, lastHold]

theorem poll_cases (pacer : CaPmtPacer) (now : Instant) : (pacer.poll now).2 = pacer ∨
    ∃ stamp, stamp + pacer.interval < now ∧
      (pacer.gate = .armed stamp ∧ (pacer.poll now).2 = { pacer with gate := .ready now } ∨
        pacer.gate = .ready stamp ∧ (pacer.poll now).2 = { pacer with gate := .ready now, queue := pacer.queue.tail }) := by
  unfold CaPmtPacer.poll
  cases hgate : pacer.gate with
  | notReady => exact .inl rfl
  | armed stamp =>
      dsimp only
      cases hgated : pacer.gated stamp now with
      | true => exact .inl rfl
      | false => exact .inr ⟨stamp, gated_eq_false hgated, .inl ⟨rfl, rfl⟩⟩
  | ready stamp =>
      dsimp only
      cases hgated : pacer.gated stamp now with
      | true => exact .inl rfl
      | false => exact .inr ⟨stamp, gated_eq_false hgated, .inr ⟨rfl, rfl⟩⟩

theorem le_deadline (now : Instant) (hold : Duration) : now ≤ deadline now hold := by
  unfold deadline Instant.checkedAdd
  split
  · exact Nat.le_add_right now hold
  · exact Nat.le_refl now

def Released (told : Option Instant) (pacer : CaPmtPacer) : Prop :=
  ∃ now stamp, told = some now ∧ pacer.gate = .ready stamp ∧ stamp + pacer.interval < now

inductive Gated (told : Option Instant) (c₀ c : CiController) : Prop
  | kept (gate : c.pacer.gate = c₀.pacer.gate) (queue : c.pacer.queue = c₀.pacer.queue)
  | passed {now stamp} (clocked : told = some now) (ticked : c₀.lastTick = some now)
      (was : c₀.pacer.gate = .armed stamp ∨ c₀.pacer.gate = .ready stamp) (past : stamp + c₀.pacer.interval < now)
      (gate : c.pacer.gate = .ready now)
  | armed {now hold delta} (ticked : c₀.lastTick = some now) (gate : c.pacer.gate = .armed (deadline now hold))
      (events : c.events = c₀.events ++ delta) (held : lastHold c₀.pacer.settle delta = some hold)
  | closed (gate : c.pacer.gate = .notReady)

structure Pacing (told : Option Instant) (c₀ c : CiController) : Prop where
  gate : Gated told c₀ c
  queue : c.pacer.queue = c₀.pacer.queue ∨ Released told c₀.pacer
  events : Adds (fun _ => True) c₀.events c.events

theorem Pacing.refl (c : CiController) : Pacing told c c := ⟨.kept rfl rfl, .inl rfl, .refl _⟩

theorem Pacing.rests (h : Pacing told c₀ c) (settle : c₀.pacer.settle = c.pacer.settle) (gate : c'.pacer.gate = c.pacer.gate)
    (queue : c'.pacer.queue = c.pacer.queue)
    (events : Adds (fun e => c₀.lastTick ≠ none → e.hold c.pacer.settle = none) c.events c'.events) : Pacing told c₀ c' := by
  refine ⟨?_, ?_, h.events.trans (events.mono fun _ _ => trivial)⟩
  · cases h.gate with
    | kept hgate hqueue => exact .kept (gate.trans hgate) (queue.trans hqueue)
    | passed clocked ticked was past hgate => exact .passed clocked ticked was past (gate.trans hgate)
    | armed ticked hgate hevents held =>
        obtain ⟨delta, hdelta, hall⟩ := events
        refine .armed ticked (gate.trans hgate) (hdelta.trans ((congrArg (· ++ delta) hevents).trans (List.append_assoc ..))) ?_
        rw [lastHold_quiet]
        · exact held
        · intro e hmem
          rw [settle]
          exact hall e hmem (ticked ▸ Option.some_ne_none _)
    | closed hgate => exact .closed (gate.trans hgate)
  · rw [queue]
    exact h.queue

theorem Pacing.soft (hs : Regular c₀ c) (h : Pacing told c₀ c) (soft : Soft heard c c') : Pacing told c₀ c' := by
  cases soft with
  | waits bides =>
      refine h.rests hs.settle.symm (by rw [bides.pacer]) (by rw [bides.pacer]) (bides.events.mono fun e he hne => ?_)
      exact he.1 (hs.lastTick ▸ hne)
  | @armed now hold event c₁ ticked held bides =>
      have hgate : (c₁.emit [event]).pacer.gate = .armed (deadline now hold) := congrArg CaPmtPacer.gate bides.pacer
      have hqueue : (c₁.emit [event]).pacer.queue = c.pacer.queue := by
        rw [emit, bides.pacer]
        rfl
      have hgrown : Adds (fun _ => True) c₀.events c₁.events := h.events.trans (bides.events.mono fun _ _ => trivial)
      refine ⟨?_, ?_, hgrown.trans (adds_snoc trivial _)⟩
      · obtain ⟨delta, hdelta, _⟩ := hgrown
        have hevents : (c₁.emit [event]).events = c₀.events ++ (delta ++ [event]) := by
          rw [emit, hdelta, List.append_assoc]
        exact .armed (hs.lastTick ▸ ticked) hgate hevents (lastHold_snoc (hs.settle ▸ held) delta)
      · rw [hqueue]
        exact h.queue
  | activated ready bides =>
      refine h.rests hs.settle.symm (by rw [bides.pacer]; rfl) (by rw [bides.pacer]; rfl) (bides.events.mono fun e he hne => ?_)
      exact he.1 (show c.lastTick ≠ none from hs.lastTick ▸ hne)

theorem Pacing.passes {now : Instant} (hs : Regular c₀ c) (h : Pacing told c₀ c) (clocked : told = some now)
    (ticked : c.lastTick = some now) : Pacing told c₀ { c with pacer := (c.pacer.poll now).2 } := by
  rcases poll_cases c.pacer now with hsame | ⟨stamp, hpast, hpass⟩
  · rw [hsame]
    exact h
  · have hlate (hle : now ≤ stamp) : False :=
      Nat.not_lt.mpr (Nat.le_trans hle (Nat.le_add_right stamp c.pacer.interval)) hpast
    have hwas : c.pacer.gate = .armed stamp ∨ c.pacer.gate = .ready stamp := hpass.imp And.left And.left
    have hgate : (c.pacer.poll now).2.gate = .ready now := by
      rcases hpass with ⟨_, hpoll⟩ | ⟨_, hpoll⟩ <;> rw [hpoll]
    cases h.gate with
    | kept gate queue =>
        rw [gate] at hwas
        rw [hs.interval] at hpast
        refine ⟨.passed clocked (hs.lastTick ▸ ticked) hwas hpast hgate, ?_, h.events⟩
        rcases hpass with ⟨_, hpoll⟩ | ⟨hready, _⟩
        · refine .inl ?_
          rw [hpoll]
          exact queue
        · exact .inr ⟨now, stamp, clocked, gate ▸ hready, hpast⟩
    | @passed now' stamp' clocked' ticked' was past gate =>
        rw [clocked, Option.some.injEq] at clocked'
        rw [gate, ← clocked'] at hwas
        rcases hwas with hwas | hwas
        · cases hwas
        · cases hwas
          exact (hlate (Nat.le_refl _)).elim
    | @armed now' hold delta ticked' gate events held =>
        rw [← hs.lastTick, ticked, Option.some.injEq] at ticked'
        rw [gate, ← ticked'] at hwas
        rcases hwas with hwas | hwas
        · cases hwas
          exact (hlate (le_deadline now hold)).elim
        · cases hwas
    | closed gate =>
        rw [gate] at hwas
        rcases hwas with hwas | hwas <;> cases hwas

theorem Pacing.stroke (hs : Regular c₀ c) (h : Pacing told c₀ c) (stroke : Stroke heard told c c') : Pacing told c₀ c' := by
  cases stroke with
  | soft soft => exact h.soft hs soft
  | recovered recovers =>
      obtain ⟨retry, _, hrearmed⟩ := recovers
      refine ⟨.closed hrearmed.gate, ?_, h.events.trans (hrearmed.levels.events.mono fun _ _ => trivial)⟩
      rw [hrearmed.levels.pacer]
      exact h.queue
  | retried => exact h.rests hs.settle.symm rfl rfl (adds_snoc (fun _ => rfl) _)
  | passed clocked ticked => exact h.passes hs clocked ticked
  | _ => exact h.rests hs.settle.symm rfl rfl (.refl _)

theorem strokes_pacing (hpath : Strokes heard told c₀ c) : Pacing told c₀ c := by
  induction hpath with
  | refl => exact .refl c₀
  | tail hpath stroke ih => exact ih.stroke (strokes_regular hpath) stroke

end Gate

section Recovery

theorem strokes_recoveryAt (hpath : Strokes heard told c₀ c) : c.recoveryAt = c₀.recoveryAt ∨ c.recoveryAt = none ∨
    ∃ now, c₀.lastTick = some now ∧ c.recoveryAt = some (deadline now c₀.config.retryInterval) := by
  induction hpath with
  | refl => exact .inl rfl
  | tail hpath stroke ih =>
      have hs := strokes_regular hpath
      cases stroke with
      | soft soft =>
          have hfades := @Soft.fades heard false none _ _ soft
          rw [hfades.stays.recoveryAt]
          exact ih
      | recovered recovers =>
          obtain ⟨retry, hretry, hrearmed⟩ := recovers
          rw [hrearmed.recoveryAt]
          rcases hretry with hnone | ⟨now, hticked, hsome⟩
          · exact .inr (.inl hnone)
          · exact .inr (.inr ⟨now, hs.lastTick ▸ hticked, hs.config ▸ hsome⟩)
      | _ => exact ih

end Recovery

end CiController

end LibDvb
