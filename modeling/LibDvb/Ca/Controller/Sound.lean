import LibDvb.Ca.Controller.Move

namespace LibDvb

open Relation

section Idle

variable {A V : UInt8 → Prop} {count : Nat} {slotId : UInt8} {trace trace' : List Obs}

theorem onSlot_idle {slotsNum : UInt8} {slot : TransportSlot} {slots : List TransportSlot} {obs : Obs}
    (hslot : slots[slotId.toNat]? = some slot) (hallowed : obs.Allowed slots trace)
    (hown : obs.Own A V trace) (hA : ¬ A slotId) (hidle : slot.Idle) :
    (obs.onSlot slotsNum slotId slot).Idle := by
  by_cases hother : obs.slot = some slotId
  · cases obs with
    | queued other frame =>
        obtain rfl : other = slotId := Option.some.inj hother
        exact absurd hown hA
    | wrote other frame result callback =>
        obtain rfl : other = slotId := Option.some.inj hother
        obtain ⟨writing, hwriting, _, hqueue⟩ := hallowed
        rw [hslot, Option.some.injEq] at hwriting
        subst hwriting
        rw [hidle.2] at hqueue
        cases hqueue
    | read frame =>
        have hhead : frame.head? = some slotId := hother
        simp only [Obs.onSlot, hhead, if_true]
        exact ⟨busy_afterRead _ _ _, (queue_afterRead _ _ _).trans hidle.2⟩
    | cleared other =>
        obtain rfl : other = slotId := Option.some.inj hother
        simp only [Obs.onSlot, if_true]
        exact ⟨rfl, rfl⟩
    | taken other =>
        obtain rfl : other = slotId := Option.some.inj hother
        simp only [Obs.onSlot, if_true]
        exact hidle
    | _ => exact hidle
  · rw [onSlot_of_ne hother]
    exact hidle

theorem onSlot_idle_history (hlt : slotId.toNat < count) (hA : ¬ A slotId)
    (h : Grows (Obs.Own A V) trace trace') (hlawful : Lawful count trace')
    (hidle : (slotHistory (UInt8.ofNat count) slotId trace).Idle) :
    (slotHistory (UInt8.ofNat count) slotId trace').Idle := by
  induction h with
  | refl => exact hidle
  | tail _ hstep ih =>
      obtain ⟨obs, hown, rfl⟩ := hstep
      obtain ⟨hinit, hallowed⟩ := hlawful.of_snoc
      rw [slotHistory_snoc]
      exact onSlot_idle (getElem?_replay hlt _) hallowed hown hA (ih hinit)

theorem pending_grows {P : List Obs → Obs → Prop} (h : Grows P trace trace')
    (hP : ∀ trace obs, P trace obs → obs.settles = false) (hp : pending trace' = false) :
    pending trace = false := by
  induction h with
  | refl => exact hp
  | tail _ hstep ih =>
      obtain ⟨obs, hobs, rfl⟩ := hstep
      rw [pending_snoc, hP _ obs hobs] at hp
      simp only [Bool.not_false, Bool.true_and, Bool.or_eq_false_iff] at hp
      exact ih hp.1

theorem own_settles {obs : Obs} (h : obs.Own A V trace) : obs.settles = false := by
  cases obs with
  | reset result => exact h.elim
  | called => exact h.elim
  | _ => rfl

theorem idle_of_grows {t t' : CiTransport} (h : t.Faithful) (h' : t'.Faithful)
    (hlength : t'.slots.length = t.slots.length) (hA : ¬ A slotId)
    (hgrows : Grows (Obs.Own A V) t.trace t'.trace)
    (hidle : ∀ slot, t.slots[slotId.toNat]? = some slot → slot.Idle) :
    ∀ slot, t'.slots[slotId.toNat]? = some slot → slot.Idle := by
  intro slot hslot
  have hlt : slotId.toNat < t'.slots.length := (List.getElem?_eq_some_iff.mp hslot).1
  have hview {u : CiTransport} (hu : u.Faithful) (hlen : u.slots.length = t'.slots.length) :
      u.slots[slotId.toNat]? =
        some (slotHistory (UInt8.ofNat t'.slots.length) slotId u.trace) := by
    rw [hu.slots, hlen]
    exact getElem?_replay hlt u.trace
  rw [hview h' rfl, Option.some.injEq] at hslot
  subst hslot
  exact onSlot_idle_history hlt hA hgrows h'.lawful (hidle _ (hview h hlength.symm))

end Idle

namespace CiController

section Views

variable {c : CiController} {slotId other : UInt8} {slot : ControllerSlot}
  {f : ControllerSlot → ControllerSlot} {events : List CaEvent}

theorem live_iff : c.Live slotId ↔
    ∃ slot, c.slots[slotId.toNat]? = some slot ∧ slot.status = .active := by
  unfold Live isActive
  cases c.slots[slotId.toNat]? <;> simp

theorem live_of_status (known : c.slots[slotId.toNat]? = some slot) :
    c.Live slotId ↔ slot.status = .active := by
  rw [live_iff, known]
  simp

@[simp] theorem length_edit : (c.edit slotId f).slots.length = c.slots.length :=
  List.length_modify ..

theorem getElem?_edit : (c.edit slotId f).slots[other.toNat]? =
    if slotId = other then c.slots[other.toNat]?.map f else c.slots[other.toNat]? := by
  rw [edit, List.getElem?_modify]
  by_cases h : slotId = other
  · simp [h]
  · have hne : slotId.toNat ≠ other.toNat := fun he => h (UInt8.toNat_inj.mp he)
    simp [h, hne]

theorem live_edit_of_status (hf : ∀ slot, (f slot).status = slot.status) :
    (c.edit slotId f).Live other ↔ c.Live other := by
  rw [live_iff, live_iff, getElem?_edit]
  split
  · simp [hf]
  · rfl

end Views

structure Sound (c : CiController) : Prop where
  session : c.session.Consistent
  within : c.session.Within c.Live
  count : c.slots.length = c.session.transport.slots.length
  idle : ∀ slotId slot, c.slots[slotId.toNat]? = some slot → slot.status ≠ .creatingTc →
    slot.status ≠ .active → pending c.session.transport.trace = false → c.IdleAt slotId
  receive : ∀ (slotId : UInt8) slot, c.slots[slotId.toNat]? = some slot →
    slot.receivePending = true → slot.status = .active
  events : ∀ e ∈ c.session.events, e.OfSession ∧ ∀ slotId, e.Renews slotId → c.Live slotId

section Preservation

variable {V : UInt8 → Prop} {c c' : CiController} {slotId : UInt8} {slot : ControllerSlot}
  {f : ControllerSlot → ControllerSlot}

theorem Sound.edit (h : c.Sound) (status : ∀ slot, (f slot).status = slot.status)
    (receive : ∀ slot, c.slots[slotId.toNat]? = some slot → (f slot).receivePending = true →
      slot.receivePending = true ∨ slot.status = .active) : (c.edit slotId f).Sound := by
  have hslot {other : UInt8} {slot : ControllerSlot}
      (hother : (c.edit slotId f).slots[other.toNat]? = some slot) :
      ∃ old, c.slots[other.toNat]? = some old ∧ slot.status = old.status ∧
        (slot.receivePending = true → old.receivePending = true ∨ old.status = .active) := by
    rw [getElem?_edit] at hother
    split at hother
    · next heq =>
        subst heq
        rw [Option.map_eq_some_iff] at hother
        obtain ⟨old, hold, rfl⟩ := hother
        exact ⟨old, hold, status old, receive old hold⟩
    · exact ⟨slot, hother, rfl, .inl⟩
  exact
    { session := h.session
      within := fun index session hlive =>
        (live_edit_of_status status).mpr (h.within index session hlive)
      count := length_edit.trans h.count
      idle := by
        intro other slot hother hcreating hactive hp
        obtain ⟨old, hold, hstatus, _⟩ := hslot hother
        rw [hstatus] at hcreating hactive
        exact h.idle other old hold hcreating hactive hp
      receive := by
        intro other slot hother hpending
        obtain ⟨old, hold, hstatus, hreceive⟩ := hslot hother
        rw [hstatus]
        rcases hreceive hpending with hold' | hactive
        · exact h.receive other old hold hold'
        · exact hactive
      events := fun e he => ⟨(h.events e he).1, fun other hrenews =>
        (live_edit_of_status status).mpr ((h.events e he).2 other hrenews)⟩ }

theorem Sound.emit (h : c.Sound) (events : List CaEvent) : (c.emit events).Sound :=
  ⟨h.session, h.within, h.count, h.idle, h.receive, h.events⟩

theorem Sound.drained (h : c.Sound) (events : List CaEvent) : Sound { c with events } :=
  ⟨h.session, h.within, h.count, h.idle, h.receive, h.events⟩

theorem Sound.paced (h : c.Sound) (pacer : CaPmtPacer) : Sound { c with pacer } :=
  ⟨h.session, h.within, h.count, h.idle, h.receive, h.events⟩

theorem Sound.relinked (h : c.Sound) (link : CaDevice) : (linkLens.set link c).Sound where
  session := ⟨⟨h.session.faithful.count, h.session.faithful.slots, h.session.faithful.lawful⟩,
    h.session.callback, h.session.size, h.session.perSlot, h.session.live, h.session.records,
    h.session.fragments, h.session.manager, h.session.programs, h.session.selections⟩
  within := h.within
  count := h.count
  idle := h.idle
  receive := h.receive
  events := h.events

theorem Sound.popped (h : c.Sound) {event : CaEvent} {rest : List CaEvent}
    (queued : c.session.events = event :: rest) : (c.popped rest).Sound where
  session := ⟨h.session.faithful, h.session.callback, h.session.size, h.session.perSlot,
    h.session.live, h.session.records, h.session.fragments, h.session.manager, h.session.programs,
    h.session.selections⟩
  within := h.within
  count := h.count
  idle := h.idle
  receive := h.receive
  events e he := h.events e (queued ▸ List.mem_cons_of_mem _ he)

theorem Sound.noted (h : c.Sound) (obs : Obs)
    (hallowed : obs.Allowed c.session.transport.slots c.session.transport.trace)
    (heffect : obs.effect c.session.transport.slots = c.session.transport.slots)
    (hidle : obs.settles = true → ∀ slotId, c.IdleAt slotId) : (c.noted obs).Sound where
  session :=
    { faithful := h.session.faithful.move (CiTransport.move_note obs hallowed heffect)
      callback := h.session.callback
      size := h.session.size
      perSlot := h.session.perSlot
      live := h.session.live
      records := h.session.records
      fragments := h.session.fragments
      manager := h.session.manager
      programs := h.session.programs
      selections := h.session.selections }
  within := h.within
  count := h.count
  idle slotId slot hslot hcreating hactive hp := by
    have hpending : pending (c.session.transport.trace ++ [obs]) = false := hp
    rw [pending_snoc] at hpending
    cases hsettles : obs.settles with
    | true => exact hidle hsettles slotId
    | false =>
        rw [hsettles] at hpending
        simp only [Bool.not_false, Bool.true_and, Bool.or_eq_false_iff] at hpending
        exact h.idle slotId slot hslot hcreating hactive hpending.1
  receive := h.receive
  events := h.events

theorem Sound.stepped (h : c.Sound) {s : CiSession} {pacer : CaPmtPacer} (hs : s.Consistent)
    (hw : s.Within c.Live) (hgrows : Grows (Obs.Own c.Live V) c.session.transport.trace
      s.transport.trace) (hlength : s.transport.slots.length = c.session.transport.slots.length)
    (hevents : ∀ e ∈ s.events, e.OfSession ∧ ∀ slotId, e.Renews slotId → c.Live slotId) :
    Sound { c with pacer, session := s } where
  session := hs
  within := hw
  count := h.count.trans hlength.symm
  idle slotId slot hslot hcreating hactive hp := by
    have hnot : ¬ c.Live slotId := fun hlive => hactive ((live_of_status hslot).mp hlive)
    have hp' := pending_grows hgrows (fun _ _ => own_settles) hp
    exact idle_of_grows h.session.faithful hs.faithful hlength hnot hgrows
      (h.idle slotId slot hslot hcreating hactive hp')
  receive := h.receive
  events := hevents

theorem events_session (h : c.Sound) {s : CiSession} (hm : CiSession.Move c.Live V c.session s) :
    ∀ e ∈ s.events, e.OfSession ∧ ∀ slotId, e.Renews slotId → c.Live slotId := by
  have hadd {events : List CaEvent} {e : CaEvent} (hevents : events = c.session.events ++ [e])
      (hnew : e.OfSession ∧ ∀ slotId, e.Renews slotId → c.Live slotId) :
      ∀ e ∈ events, e.OfSession ∧ ∀ slotId, e.Renews slotId → c.Live slotId := by
    intro e' he'
    rw [hevents, List.mem_append, List.mem_singleton] at he'
    rcases he' with hold | rfl
    · exact h.events e' hold
    · exact hnew
  cases hm with
  | @event e plain slot =>
      refine hadd rfl ?_
      cases e with
      | slotStatusChanged => exact plain.elim
      | camStatusChanged => exact plain.elim
      | slotFailed => exact plain.elim
      | sessionOpened => exact plain.elim
      | sessionClosed => exact plain.elim
      | applicationInfo => exact plain.elim
      | caInfo => exact plain.elim
      | _ => exact ⟨trivial, fun _ hf => hf.elim⟩
  | opened slot notice bound count path whole => exact hadd rfl ⟨trivial, fun _ hf => hf.elim⟩
  | @closed index session live slot =>
      refine hadd rfl ⟨trivial, fun other hrenews => ?_⟩
      rw [← hrenews.1]
      exact h.within index session live
  | @appInfo sessionId session info known slot =>
      refine hadd rfl ⟨trivial, fun other hrenews => ?_⟩
      obtain rfl : session.slotId = other := hrenews
      have hrecord : c.session.resources.recordSlot sessionId .applicationInfo = some session.slotId := by
        rw [ResourceRegistry.recordSlot, known, Option.map_some]
      exact h.within.record h.session hrecord
  | caInfo known slot notice path whole =>
      refine hadd rfl ⟨trivial, fun other hrenews => ?_⟩
      obtain rfl : _ = other := hrenews
      exact slot
  | _ => exact h.events

theorem noSession_of_status (h : c.Sound) (known : c.slots[slotId.toNat]? = some slot)
    (status : slot.status ≠ .active) : c.NoSession slotId := by
  intro index session hlive heq
  have hactive := h.within index session hlive
  rw [heq, live_of_status known] at hactive
  exact status hactive

theorem live_turn {old new : CaSlotStatus} {other : UInt8} (hne : slotId ≠ other) :
    (c.turn slotId old new).Live other ↔ c.Live other := by
  rw [live_iff, live_iff]
  show (∃ slot, (c.edit slotId _).slots[other.toNat]? = some slot ∧ _) ↔ _
  rw [getElem?_edit, if_neg hne]

theorem Sound.turn (h : c.Sound) (known : c.slots[slotId.toNat]? = some slot)
    (old new : CaSlotStatus)
    (sessions : new ≠ .active → c.NoSession slotId)
    (idle : new ≠ .creatingTc → new ≠ .active →
      pending c.session.transport.trace = false → c.IdleAt slotId)
    (receive : new ≠ .active → slot.receivePending = false)
    (collected : new ≠ .active → slot.status = .active → c.session.events = []) :
    (c.turn slotId old new).Sound := by
  have hslot {other : UInt8} {view : ControllerSlot}
      (hother : (c.edit slotId ({ · with status := new })).slots[other.toNat]? = some view) :
      (other = slotId ∧ view = { slot with status := new }) ∨
        (other ≠ slotId ∧ c.slots[other.toNat]? = some view) := by
    rw [getElem?_edit] at hother
    split at hother
    · next heq =>
        subst heq
        rw [known, Option.map_some, Option.some.injEq] at hother
        exact .inl ⟨rfl, hother.symm⟩
    · next hne => exact .inr ⟨fun he => hne he.symm, hother⟩
  refine Sound.emit ?_ _
  exact
    { session := h.session
      within := by
        intro index session hlive
        rw [live_iff]
        by_cases heq : session.slotId = slotId
        · have hnew : new = .active := by
            by_contra hne
            exact sessions hne index session hlive heq
          rw [heq, getElem?_edit, if_pos rfl, known]
          exact ⟨_, rfl, hnew⟩
        · rw [getElem?_edit, if_neg fun he => heq he.symm]
          exact live_iff.mp (h.within index session hlive)
      count := length_edit.trans h.count
      idle := by
        intro other view hother hcreating hactive hp
        rcases hslot hother with ⟨rfl, rfl⟩ | ⟨_, hold⟩
        · exact idle hcreating hactive hp
        · exact h.idle other view hold hcreating hactive hp
      receive := by
        intro other view hother hpending
        rcases hslot hother with ⟨rfl, rfl⟩ | ⟨_, hold⟩
        · by_contra hne
          exact absurd (receive hne) (by rw [hpending]; decide)
        · exact h.receive other view hold hpending
      events := by
        intro e he
        refine ⟨(h.events e he).1, fun other hrenews => ?_⟩
        have hlive := (h.events e he).2 other hrenews
        rw [live_iff] at hlive ⊢
        obtain ⟨view, hview, hactive⟩ := hlive
        rw [getElem?_edit]
        split
        · next heq =>
            subst heq
            rw [known, Option.some.injEq] at hview
            subst hview
            refine ⟨{ slot with status := new }, by rw [known]; rfl, ?_⟩
            by_contra hne
            have hmem : e ∈ c.session.events := he
            rw [collected hne hactive] at hmem
            cases hmem
        · exact ⟨view, hview, hactive⟩ }

theorem Sound.created (h : c.Sound) {t : CiTransport}
    (known : c.slots[slotId.toNat]? = some slot) (status : slot.status = .present)
    (path : ReflTransGen (CiTransport.Step (Sends True slotId)) c.session.transport t)
    {new : CaSlotStatus} (hnew : new = .creatingTc ∨ (new = .present ∧ pending t.trace = true)) :
    ((c.withTransport t).edit slotId ({ · with status := new })).Sound := by
  have hnotActive : slot.status ≠ .active := by
    rw [status]
    decide
  have hlength := CiTransport.path_length path
  have hfaithful := h.session.faithful.path path
  have hgrows : Grows (Obs.Own (fun other => other = slotId) fun _ => True)
      c.session.transport.trace t.trace :=
    (Grows.of_path path).mono fun _ _ => own_sends rfl
  have hlive {other : UInt8} : c.Live other →
      ((c.withTransport t).edit slotId ({ · with status := new })).Live other := by
    intro hactive
    rw [live_iff] at hactive ⊢
    obtain ⟨view, hview, hstatus⟩ := hactive
    rw [getElem?_edit]
    split
    · next heq =>
        subst heq
        rw [known, Option.some.injEq] at hview
        subst hview
        exact absurd hstatus hnotActive
    · exact ⟨view, hview, hstatus⟩
  exact
    { session :=
        { faithful := hfaithful
          callback := (CiTransport.path_callback path).trans h.session.callback
          size := by
            show _ ≤ t.slots.length * _
            rw [hlength]
            exact h.session.size
          perSlot := h.session.perSlot
          live := by
            intro index session live
            obtain ⟨hbound, hrest⟩ := h.session.live index session live
            exact ⟨by
              show _ < t.slots.length
              rwa [hlength], hrest⟩
          records := h.session.records
          fragments := h.session.fragments
          manager := h.session.manager
          programs := h.session.programs
          selections := h.session.selections }
      within := fun index session live => hlive (h.within index session live)
      count := by
        rw [length_edit]
        exact h.count.trans hlength.symm
      idle := by
        intro other view hother hcreating hactive hp
        rw [getElem?_edit] at hother
        split at hother
        · rw [Option.map_eq_some_iff] at hother
          obtain ⟨old, _, rfl⟩ := hother
          rcases hnew with rfl | ⟨_, hbroken⟩
          · exact absurd rfl hcreating
          · exact absurd (hbroken.symm.trans hp) (by decide)
        · next hne =>
            have hp' := pending_grows hgrows (fun _ _ => own_settles) hp
            exact idle_of_grows h.session.faithful hfaithful hlength (fun he => hne he.symm) hgrows
              (h.idle other view hother hcreating hactive hp')
      receive := by
        intro other view hother hpending
        rw [getElem?_edit] at hother
        split at hother
        · next heq =>
            subst heq
            rw [Option.map_eq_some_iff] at hother
            obtain ⟨old, hold, rfl⟩ := hother
            have hold' : c.slots[slotId.toNat]? = some old := hold
            have hactive := h.receive slotId old hold' hpending
            rw [known, Option.some.injEq] at hold'
            subst hold'
            exact absurd hactive hnotActive
        · exact h.receive other view hother hpending
      events := fun e he => ⟨(h.events e he).1, fun other hrenews =>
        hlive ((h.events e he).2 other hrenews)⟩ }

theorem edit_self (known : c.slots[slotId.toNat]? = some slot) (hf : f slot = slot) :
    c.edit slotId f = c := by
  have hslots : c.slots.modify slotId.toNat f = c.slots := by
    refine List.ext_getElem? fun i => ?_
    rw [List.getElem?_modify]
    split
    · next heq =>
        rw [← heq, known]
        exact congrArg some hf
    · cases c.slots[i]? <;> rfl
  rw [CiController.edit, hslots]

theorem Sound.move (h : c.Sound) (hm : Move V c c') : c'.Sound := by
  cases hm with
  | session move =>
      exact h.stepped (h.session.move move) (h.within.move move) move.grows move.slots_length
        (events_session h move)
  | created known status notice path whole =>
      exact (h.created known status path (.inl rfl)).emit _
  | @createFailed slotId slot t known status path broken =>
      have hsound := h.created known status path (.inr ⟨rfl, broken⟩)
      rwa [edit_self (c := c.withTransport t) known (by rw [← status])] at hsound
  | @activated slotId slot rest queued known status notice =>
      have hnoted := (h.popped queued).noted (.activated slotId) trivial rfl nofun
      refine (hnoted.turn known _ _ ?_ ?_ ?_ ?_).emit _
      · exact fun hne => absurd rfl hne
      · exact fun _ hne => absurd rfl hne
      · exact fun hne => absurd rfl hne
      · exact fun hne => absurd rfl hne
  | passed queued ready fresh notice => exact (h.popped queued).emit _
  | refused context queued notice => exact (h.popped queued).emit _
  | renewed known notice =>
      refine Sound.emit (Sound.edit h ?_ ?_) _
      · exact fun _ => rfl
      · exact fun _ _ => .inl
  | turned new known change notice rest present sessions idle receive collected =>
      exact h.turn known _ _ (fun _ => sessions) (fun _ _ => idle) (fun _ => receive) fun _ =>
        collected
  | kept f status camStatus present receive => exact h.edit status receive
  | failed reason notice => exact h.emit _
  | armed gate active => exact ⟨h.session, h.within, h.count, h.idle, h.receive, h.events⟩
  | disarmed => exact ⟨h.session, h.within, h.count, h.idle, h.receive, h.events⟩
  | polled idle => exact ⟨h.session, h.within, h.count, h.idle, h.receive, h.events⟩
  | @programmed now change s due programmed =>
      obtain ⟨t, path, hslots, htrace, hsessions, hevents, _⟩ := programmed.path
      refine h.stepped (V := V) (h.session.programmed programmed) ?_
        (programmed.grows h.session h.within) ?_ ?_
      · intro index session hlive
        rw [CiSession.entry, hsessions] at hlive
        exact h.within index session hlive
      · rw [hslots, CiTransport.path_length path]
      · rw [hevents]
        exact h.events
  | probed slotId => exact h.noted (.slotInfo slotId) trivial rfl nofun
  | scheduled nextStatusCheck =>
      exact ⟨h.session, h.within, h.count, h.idle, h.receive, h.events⟩

theorem Sound.work (h : c.Sound) (hm : Work V c c') : c'.Sound := by
  cases hm with
  | move move => exact h.move move
  | info slotId present ready =>
      refine Sound.edit h ?_ ?_
      · exact fun _ => rfl
      · exact fun _ _ => .inl

theorem Sound.step (h : c.Sound) (hm : Step c c') : c'.Sound := by
  cases hm with
  | work work => exact h.work work
  | flags => exact ⟨h.session, h.within, h.count, h.idle, h.receive, h.events⟩
  | reset result sessions idle =>
      exact (h.relinked _).noted (.reset result) trivial rfl fun _ => idle

theorem Sound.worked (h : c.Sound) (hpath : ReflTransGen (Work V) c c') : c'.Sound :=
  Path.invariant hpath h fun _ _ => Sound.work

theorem Sound.stepping (h : c.Sound) (hpath : ReflTransGen Step c c') : c'.Sound :=
  Path.invariant hpath h fun _ _ => Sound.step

end Preservation

end CiController

end LibDvb
