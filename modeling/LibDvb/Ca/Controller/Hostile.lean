import LibDvb.Ca.Controller.EventLog

namespace LibDvb

open Relation

def CaEvent.Harmless : CaEvent → Prop
  | slotStatusChanged _ old new => old = .creatingTc ∧ new = .active
  | slotFailed _ _ => False
  | _ => True

def Addressed (count : Nat) (link : CaDevice) : Prop :=
  ∀ result ∈ link.reads, ∃ slotId, result.first = some slotId ∧ slotId.toNat < count

namespace CiController

open Act

variable {V : UInt8 → Prop} {c c' : CiController}

structure Reports (V : UInt8 → Prop) (c c' : CiController) : Prop where
  events : ∃ new, c'.events = c.events ++ new ∧ ∀ e ∈ new, e.Harmless ∧ V e.slotId

theorem Reports.same (h : c'.events = c.events) : Reports V c c' :=
  ⟨[], by rw [h, List.append_nil], fun _ hmem => nomatch hmem⟩

theorem Reports.one {e : CaEvent} (h : c'.events = c.events ++ [e]) (harmless : e.Harmless)
    (notice : V e.slotId) : Reports V c c' := by
  refine ⟨[e], h, ?_⟩
  intro other hmem
  rw [List.mem_singleton.mp hmem]
  exact ⟨harmless, notice⟩

theorem Reports.trans {c'' : CiController} (h : Reports V c c') (h' : Reports V c' c'') : Reports V c c'' := by
  obtain ⟨new, hnew, hall⟩ := h.events
  obtain ⟨new', hnew', hall'⟩ := h'.events
  refine ⟨new ++ new', by rw [hnew', hnew, List.append_assoc], ?_⟩
  intro e hmem
  rcases List.mem_append.mp hmem with hmem | hmem
  · exact hall e hmem
  · exact hall' e hmem

theorem Move.reports (hs : c.Sound) (hV : ¬ ∀ other, V other) (hm : Move V c c') : Reports V c c' := by
  cases hm with
  | created known status notice path whole => exact absurd notice hV
  | @activated slotId slot rest queued known status notice =>
      have hstatus : Reports V c (((c.popped rest).noted (.activated slotId)).turn slotId .creatingTc
          .active) := .one rfl ⟨rfl, rfl⟩ notice
      exact hstatus.trans (.one rfl trivial notice)
  | @passed event rest queued ready fresh notice =>
      have hsession := (hs.events event (queued ▸ List.mem_cons_self)).1
      refine Reports.one rfl ?_ notice
      cases event with
      | slotStatusChanged => exact hsession.elim
      | slotFailed => exact hsession.elim
      | _ => trivial
  | refused context queued notice => exact Reports.one rfl trivial notice
  | @renewed slotId slot known notice =>
      by_cases hsame : slot.camStatus = c.camOf slotId
      · refine Reports.same ?_
        show c.events ++ (if slot.camStatus ≠ c.camOf slotId then _ else []) = c.events
        rw [if_neg (not_not.mpr hsame), List.append_nil]
      · refine Reports.one (e := .camStatusChanged slotId slot.camStatus (c.camOf slotId)) ?_ trivial notice
        show c.events ++ (if slot.camStatus ≠ c.camOf slotId then _ else []) = _
        rw [if_pos hsame]
  | turned new known change notice rest present sessions idle receive collected => exact absurd notice hV
  | failed reason notice => exact absurd notice hV
  | _ => exact Reports.same rfl

theorem moves_report (hs : c.Sound) (hV : ¬ ∀ other, V other) (hpath : ReflTransGen (Move V) c c') :
    Reports V c c' := by
  induction hpath with
  | refl => exact Reports.same rfl
  | tail hpath hm ih => exact ih.trans (hm.reports (hs.path hpath) hV)

theorem moves_unsettled (hs : c.Sound) (hpath : ReflTransGen (Move V) c c') :
    ∃ delta, c'.trace = c.trace ++ delta ∧ ∀ obs ∈ delta, obs.settles = false :=
  (moves_grows hs hpath).all fun _ _ h => h.1

structure Unharmed (link : CaDevice) (c : CiController) (delta : List Obs)
    (result : Outcome Error (Option CaEvent) × CiController) : Prop where
  returns : ∃ event new, result.1 = .ok event ∧ event.toList ++ result.2.events = c.events ++ new ∧
    ∀ e ∈ new, e.Harmless ∧ ∃ answer ∈ link.reads, answer.first = some e.slotId
  suspended : result.2.linkSuspended = c.linkSuspended
  recovery : result.2.recoveryAt = c.recoveryAt
  deferred : result.2.deferredLinkFailure = c.deferredLinkFailure
  unsettled : ∀ obs ∈ delta, obs.settles = false

theorem Settled.unharmed (h : c.Settled) (hsized : c.Sized) {delta : List Obs}
    (hdelta : (pollEvent c).2.trace = c.trace ++ delta) (haddressed : Addressed c.slots.length
      c.session.transport.link) (hwhole : Whole delta) :
    Unharmed c.session.transport.link c delta (pollEvent c) := by
  let V : UInt8 → Prop := fun slotId => ∃ answer ∈ c.session.transport.link.reads, answer.first = some slotId
  have hwatches : c.Watches V := fun answer hmem slotId hfirst => ⟨answer, hmem, hfirst⟩
  have hV : ¬ ∀ other, V other := by
    intro hall
    obtain ⟨answer, hmem, hfirst⟩ := hall 255
    obtain ⟨slotId, hslotId, hlt⟩ := haddressed answer hmem
    rw [hfirst, Option.some.injEq] at hslotId
    rw [← hslotId] at hlt
    exact absurd (h.calm.sound.count_le) (Nat.not_le.mpr hlt)
  have hfine : pending (pollEvent c).2.trace = false := by
    rw [hdelta]
    exact pending_append_whole hwhole h.calm.whole
  have hpoll := pollEvent_along h.calm hwatches h.unticked
  have hfailed {c₁ : CiController} (hpath : ReflTransGen (Move V) c c₁) (hcause : Cause c c₁)
      (hinitial : c₁.trace <+: (pollEvent c).2.trace) : False := by
    rcases hcause hsized with hpending | ⟨answer, hmem, hout⟩
    · obtain ⟨early, hearly, _⟩ := moves_unsettled h.calm.sound hpath
      rw [hearly, hdelta] at hinitial
      have hsub : Whole early := by
        intro obs hobs
        exact hwhole obs ((List.prefix_append_right_inj _).mp hinitial |>.subset hobs)
      rw [← trace, hearly, pending_append_whole hsub h.calm.whole] at hpending
      cases hpending
    · obtain ⟨slotId, hslotId, hlt⟩ := haddressed answer hmem
      exact absurd (hout slotId hslotId) (Nat.not_le.mpr hlt)
  rcases wp_cases.mp hpoll with ⟨event, hok, hdelivered⟩ | ⟨e, herr, hbroken⟩
  · obtain ⟨c₁, hpath, hcalm, hevents, hsame⟩ := hdelivered.worked
    have hkeeps := Keeps.path hpath
    obtain ⟨new, hnew, hall⟩ := (moves_report h.calm.sound hV hpath).events
    obtain ⟨late, hlate, hsettles⟩ := moves_unsettled h.calm.sound hpath
    have htrace : (pollEvent c).2.trace = c₁.trace := by
      rw [hsame]
    refine ⟨⟨event, new, hok, hevents.symm.trans hnew, hall⟩, ?_, ?_, ?_, ?_⟩
    · rw [hsame]
      exact hkeeps.linkSuspended
    · rw [hsame]
      exact hkeeps.recoveryAt
    · rw [hsame]
      exact hkeeps.deferred
    · rw [htrace, hlate, List.append_cancel_left_eq] at hdelta
      rw [← hdelta]
      exact hsettles
  · exfalso
    cases hbroken with
    | restarted path cause ticked steps restarted =>
        exact hfailed path cause (steps_initial (h.calm.sound.path path) steps)
    | deferred path cause calm unticked same =>
        refine hfailed path cause ?_
        rw [same]

end CiController

def CiController.polled (c : CiController) (link : CaDevice) : Outcome Error (Option CaEvent) × CiController :=
  CiController.pollEvent (CiController.linkLens.set link c)

theorem hostile_frames_harmless {start c : CiController} {labels : List ControllerLabel}
    (h : ControllerRun start labels c) (hfits : Fitting labels) (link : CaDevice) :
    (c.polled link).1 ≠ .panic ∧ ∀ delta, (c.polled link).2.trace = c.trace ++ delta →
      Addressed c.slots.length link → Whole delta → CiController.Unharmed link c delta (c.polled link) := by
  have hexact := h.exact hfits
  have hsettled := hexact.settled.relinked link
  have hsized : (CiController.linkLens.set link c).Sized := ⟨hexact.sized.session, hexact.sized.queue⟩
  constructor
  · exact Act.wp_ne_panic (CiController.pollEvent_along (V := fun _ => True) hsettled.calm
      (fun _ _ _ _ => trivial) hsettled.unticked)
  · intro delta hdelta haddressed hwhole
    obtain ⟨returns, suspended, recovery, deferred, unsettled⟩ :=
      hsettled.unharmed hsized hdelta haddressed hwhole
    exact ⟨returns, suspended, recovery, deferred, unsettled⟩

-- Frames with a wrong length, an unknown session and an unknown tag.
def hostileLink : CaDevice :=
  { reads := [.frame [0, 1, 0xA0, 0x82], .frame (dataFrame [0x90, 2, 0, 9, 0x9F]), .frame [0, 1, 0xFF, 0]] }

def hostileTrace : List Obs :=
  (afterHandshake.2.polled hostileLink).2.trace.drop afterHandshake.2.trace.length

theorem hostile_trace :
    (afterHandshake.2.polled hostileLink).2.trace = afterHandshake.2.trace ++ hostileTrace := by decide +kernel

theorem hostile_whole : ∀ obs ∈ hostileTrace, obs.refused = false := by decide +kernel

theorem hostile_addressed : Addressed afterHandshake.2.slots.length hostileLink := by
  have hcount : afterHandshake.2.slots.length = 1 := by decide +kernel
  have hfirst : ∀ answer ∈ hostileLink.reads, answer.first = some 0 := by decide
  intro answer hmem
  rw [hcount]
  exact ⟨0, hfirst answer hmem, by decide⟩

theorem hostile_frames_harmless_handshake : ∃ start, ControllerRun start afterHandshake.1 afterHandshake.2 ∧
    (afterHandshake.2.polled hostileLink).1 ≠ .panic ∧
      CiController.Unharmed hostileLink afterHandshake.2 hostileTrace (afterHandshake.2.polled hostileLink) := by
  obtain ⟨start, hrun⟩ := handshake_run
  obtain ⟨hpanic, hharm⟩ := hostile_frames_harmless hrun (fitting_of_none handshake_fits) hostileLink
  exact ⟨start, hrun, hpanic, hharm hostileTrace hostile_trace hostile_addressed hostile_whole⟩

end LibDvb
