import LibDvb.Ca.Controller.Sound
import LibDvb.Ca.Session.Spec

namespace LibDvb.CiController

open Relation Act Outcome

variable {V : UInt8 → Prop} {c c' : CiController} {slotId : UInt8} {slot : ControllerSlot}

section Slots

variable {Q : Unit → CiController → Prop} {E : Error → CiController → Prop}

theorem wp_slotAt {Q : ControllerSlot → CiController → Prop} :
    wp (slotAt slotId) Q E c ↔ ∃ slot, c.slots[slotId.toNat]? = some slot ∧ Q slot c := by
  rw [slotAt, wp_bind, wp_get, wp_lift, sat_index]
  constructor
  · rintro ⟨hlt, hq⟩
    exact ⟨_, List.getElem?_eq_getElem hlt, hq⟩
  · rintro ⟨slot, known, hq⟩
    obtain ⟨hlt, rfl⟩ := List.getElem?_eq_some_iff.mp known
    exact ⟨hlt, hq⟩

theorem wp_slotAt_known {Q : ControllerSlot → CiController → Prop}
    (known : c.slots[slotId.toNat]? = some slot) : wp (slotAt slotId) Q E c ↔ Q slot c := by
  rw [wp_slotAt]
  constructor
  · rintro ⟨slot', known', hq⟩
    rw [known, Option.some.injEq] at known'
    rwa [known']
  · exact fun hq => ⟨slot, known, hq⟩

theorem wp_modifySlot (known : c.slots[slotId.toNat]? = some slot)
    {f : ControllerSlot → ControllerSlot} :
    wp (modifySlot slotId f) Q E c ↔ Q () (c.edit slotId f) := by
  rw [modifySlot, wp_bind, wp_slotAt_known known, wp_modify]
  rfl

theorem known_edit (known : c.slots[slotId.toNat]? = some slot)
    (f : ControllerSlot → ControllerSlot) :
    (c.edit slotId f).slots[slotId.toNat]? = some (f slot) := by
  rw [getElem?_edit, if_pos rfl, known, Option.map_some]

theorem emit_nil (c : CiController) : c.emit [] = c := by
  rw [emit, List.append_nil]

theorem wp_setCamStatus (known : c.slots[slotId.toNat]? = some slot) {new : CamStatus} :
    wp (setCamStatus slotId new) Q E c ↔
      Q () ((c.edit slotId ({ · with camStatus := new })).emit
        (if slot.camStatus ≠ new then [.camStatusChanged slotId slot.camStatus new] else [])) := by
  rw [setCamStatus, wp_bind, wp_slotAt_known known, wp_bind, wp_modifySlot known]
  split
  · rfl
  · rw [emit_nil, wp_pure]

theorem wp_recompute (known : c.slots[slotId.toNat]? = some slot) :
    wp (recomputeCamStatus slotId) Q E c ↔ Q () (c.renew slotId slot.camStatus) := by
  rw [recomputeCamStatus, wp_bind, wp_get, wp_setCamStatus known]
  rfl

theorem wp_setSlotStatus (known : c.slots[slotId.toNat]? = some slot) {new : CaSlotStatus} :
    wp (setSlotStatus slotId new) Q E c ↔
      Q () (if slot.status = new then c else c.turn slotId slot.status new) := by
  rw [setSlotStatus, wp_bind, wp_slotAt_known known, wp_bind, wp_modifySlot known]
  by_cases hsame : slot.status = new
  · rw [if_neg (not_not_intro hsame), if_pos hsame, wp_pure,
      edit_self known (f := fun s => { s with status := new }) (by rw [← hsame])]
  · rw [if_pos hsame, if_neg hsame]
    rfl

theorem slotId_lt (known : c.slots[slotId.toNat]? = some slot) : slotId.toNat < c.slots.length :=
  (List.getElem?_eq_some_iff.mp known).1

theorem Sound.known (h : c.Sound) (hlt : slotId.toNat < c.session.transport.slots.length) :
    ∃ slot, c.slots[slotId.toNat]? = some slot := by
  rw [← h.count] at hlt
  exact ⟨_, List.getElem?_eq_getElem hlt⟩

theorem Live.known (h : c.Live slotId) : ∃ slot, c.slots[slotId.toNat]? = some slot ∧
    slot.status = .active := live_iff.mp h

end Slots

section Lifts

theorem session_along {α : Type} {m : Act Error CiSession α} {Q : α → CiController → Prop}
    {E : Error → CiController → Prop}
    (hm : Along (CiSession.Move c.Live V) m (fun a s => Q a { c with session := s })
      (fun e s => E e { c with session := s }) c.session) :
    Along (Move V) (zoom sessionLens m) Q E c := by
  refine along_zoom hm rfl (fun s s' _ hmove => ?_) (fun _ _ _ hq => hq) fun _ _ _ he => he
  exact .session (c := { c with session := s }) hmove

theorem transport_along {α : Type} {m : Act Error CiTransport α} {Q : α → CiController → Prop}
    {E : Error → CiController → Prop} (h : c.Sound)
    (hm : Along (QuietStep c.Live V) m (fun a t => Q a (c.withTransport t))
      (fun e t => E e (c.withTransport t)) c.session.transport) :
    Along (Move V) (zoom transportLens m) Q E c :=
  session_along (m := zoom CiSession.transportLens m) (CiSession.zoom_along h.session.callback hm)

theorem kept_along (known : c.slots[slotId.toNat]? = some slot)
    {f : ControllerSlot → ControllerSlot} {Q : Unit → CiController → Prop}
    {E : Error → CiController → Prop} (status : ∀ slot, (f slot).status = slot.status)
    (camStatus : ∀ slot, (f slot).camStatus = slot.camStatus)
    (present : ∀ slot, (f slot).present = slot.present)
    (receive : (f slot).receivePending = true → slot.receivePending = true ∨ slot.status = .active)
    (h : Q () (c.edit slotId f)) : Along (Move V) (modifySlot slotId f) Q E c := by
  refine (wp_modifySlot known).mpr ⟨.single (.kept f status camStatus present ?_), h⟩
  intro slot' known' hpending
  rw [known, Option.some.injEq] at known'
  subst known'
  exact receive hpending

end Lifts

section Collect

variable {event : CaEvent} {rest : List CaEvent}

structure Steady (c c' : CiController) : Prop where
  sessions : c'.session.sessions = c.session.sessions
  resources : c'.session.resources = c.session.resources
  slots : c'.session.transport.slots = c.session.transport.slots
  link : c'.session.transport.link = c.session.transport.link
  silent : Silent c.session.transport.trace c'.session.transport.trace
  views : ∀ (slotId : UInt8) slot', c'.slots[slotId.toNat]? = some slot' →
    ∃ slot, c.slots[slotId.toNat]? = some slot ∧ slot'.present = slot.present ∧
      slot'.receivePending = slot.receivePending ∧
      (slot'.status = slot.status ∨ (slot.status = .creatingTc ∧ slot'.status = .active))

theorem Steady.whole (h : Steady c c') :
    pending c'.session.transport.trace = pending c.session.transport.trace := h.silent.pending

theorem Steady.refl (c : CiController) : Steady c c :=
  ⟨rfl, rfl, rfl, rfl, .refl _, fun _ slot known => ⟨slot, known, rfl, rfl, .inl rfl⟩⟩

theorem Steady.trans {c'' : CiController} (h : Steady c c') (h' : Steady c' c'') : Steady c c'' where
  sessions := h'.sessions.trans h.sessions
  resources := h'.resources.trans h.resources
  slots := h'.slots.trans h.slots
  link := h'.link.trans h.link
  silent := h.silent.trans h'.silent
  views slotId slot'' known'' := by
    obtain ⟨slot', known', hpresent', hreceive', hstatus'⟩ := h'.views slotId slot'' known''
    obtain ⟨slot, known, hpresent, hreceive, hstatus⟩ := h.views slotId slot' known'
    refine ⟨slot, known, hpresent'.trans hpresent, hreceive'.trans hreceive, ?_⟩
    rcases hstatus with hstatus | ⟨hcreating, hactive⟩
    · rw [← hstatus]
      exact hstatus'
    · rcases hstatus' with hsame | ⟨hcreating', _⟩
      · exact .inr ⟨hcreating, hsame.trans hactive⟩
      · rw [hactive] at hcreating'
        cases hcreating'

theorem Steady.emit (h : Steady c c') (events : List CaEvent) : Steady c (c'.emit events) :=
  ⟨h.sessions, h.resources, h.slots, h.link, h.silent, h.views⟩

theorem Steady.popped (h : Steady c c') (rest : List CaEvent) : Steady c (c'.popped rest) :=
  ⟨h.sessions, h.resources, h.slots, h.link, h.silent, h.views⟩

theorem Steady.noted (h : Steady c c') (obs : Obs) (accesses : obs.accesses = false) :
    Steady c (c'.noted obs) where
  sessions := h.sessions
  resources := h.resources
  slots := h.slots
  link := h.link
  silent := h.silent.trans (.note accesses)
  views := h.views

theorem Steady.edit (h : Steady c c') {f : ControllerSlot → ControllerSlot}
    (present : ∀ slot, (f slot).present = slot.present)
    (receive : ∀ slot, (f slot).receivePending = slot.receivePending)
    (status : ∀ slot, c'.slots[slotId.toNat]? = some slot → (f slot).status = slot.status ∨
      (slot.status = .creatingTc ∧ (f slot).status = .active)) : Steady c (c'.edit slotId f) := by
  refine h.trans ⟨rfl, rfl, rfl, rfl, .refl _, fun other slot' known' => ?_⟩
  rw [getElem?_edit] at known'
  split at known'
  · next heq =>
      subst heq
      rw [Option.map_eq_some_iff] at known'
      obtain ⟨slot, known, rfl⟩ := known'
      exact ⟨slot, known, present slot, receive slot, status slot known⟩
  · exact ⟨slot', known', rfl, rfl, .inl rfl⟩

theorem fresh_renew (old : CamStatus) : (c.renew slotId old).Fresh slotId := by
  intro slot known
  have hknown : (c.edit slotId ({ · with camStatus := c.camOf slotId })).slots[slotId.toNat]? =
      some slot := known
  rw [getElem?_edit, if_pos rfl, Option.map_eq_some_iff] at hknown
  obtain ⟨view, hview, rfl⟩ := hknown
  have hlive : (c.renew slotId old).isActive slotId = c.isActive slotId := by
    rw [Bool.eq_iff_iff]
    exact live_edit_of_status fun _ => rfl
  show c.camOf slotId = camStatusOf _ _ _
  rw [hlive]
  rfl

theorem renew_steady (old : CamStatus) : Steady c (c.renew slotId old) :=
  ((Steady.refl c).edit (f := fun slot => { slot with camStatus := c.camOf slotId })
    (fun _ => rfl) (fun _ => rfl) fun _ _ => .inl rfl).emit _

theorem armed_along (gate : Gate) (hlive : c.Live slotId) :
    ReflTransGen (Move V) c { c with pacer := { c.pacer with gate } } := .single (.armed gate hlive)

theorem renewed_passed {c₁ : CiController} (hpath : ReflTransGen (Move V) c c₁) (hsteady : Steady c c₁)
    (queued : c₁.session.events = event :: rest) (ready : ∀ other, event ≠ .transportReady other)
    (renews : ∀ other, event.Renews other → other = slotId) (hV : V event.slotId)
    (notice : V slotId) (known : c₁.slots[slotId.toNat]? = some slot) :
    wp (do recomputeCamStatus slotId; pushEvent event) (fun _ c' => ReflTransGen (Move V) c c' ∧
      Steady c c' ∧ c'.session.events = rest) (fun _ _ => False) (c₁.popped rest) := by
  have hrenewed : Move V c₁ (c₁.renew slotId slot.camStatus) := .renewed known notice
  have hpassed : Move V (c₁.renew slotId slot.camStatus)
      (((c₁.renew slotId slot.camStatus).popped rest).emit [event]) := by
    refine .passed (c := c₁.renew slotId slot.camStatus) queued ready (fun other hrenews => ?_) hV
    rw [renews other hrenews]
    exact fresh_renew _
  rw [wp_bind, wp_recompute (c := c₁.popped rest) known]
  exact ⟨(hpath.tail hrenewed).tail hpassed,
    ((hsteady.trans (renew_steady _)).popped rest).emit _, rfl⟩

theorem passed_along (hpath : ReflTransGen (Move V) c c') (hsteady : Steady c c')
    (queued : c'.session.events = event :: rest) (ready : ∀ other, event ≠ .transportReady other)
    (renews : ∀ other, ¬ event.Renews other) (hV : V event.slotId) :
    wp (pushEvent event) (fun _ c' => ReflTransGen (Move V) c c' ∧ Steady c c' ∧
      c'.session.events = rest) (fun _ _ => False) (c'.popped rest) :=
  ⟨hpath.tail (.passed queued ready (fun other hf => absurd hf (renews other)) hV),
    (hsteady.popped rest).emit _, rfl⟩

theorem armed_steady (c : CiController) (gate : Gate) :
    Steady c { c with pacer := { c.pacer with gate } } :=
  ⟨rfl, rfl, rfl, rfl, .refl _, fun _ slot known => ⟨slot, known, rfl, rfl, .inl rfl⟩⟩

theorem transportReady_along (queued : c.session.events = .transportReady slotId :: rest)
    (hV : V slotId) :
    wp (collectEvent (.transportReady slotId)) (fun _ c' => ReflTransGen (Move V) c c' ∧ Steady c c' ∧
      c'.session.events = rest) (fun _ _ => False) (c.popped rest) := by
  rw [collectEvent, wp_bind, wp_get]
  dsimp only
  split
  · next hcreating =>
      rw [Option.map_eq_some_iff] at hcreating
      obtain ⟨slot, known, hstatus⟩ := hcreating
      have known : c.slots[slotId.toNat]? = some slot := known
      let f : ControllerSlot → ControllerSlot := fun slot =>
        { slot with createSince := none, commandSince := none, nextPoll := none }
      have known' : (c.edit slotId f).slots[slotId.toNat]? = some (f slot) := known_edit known f
      have hkept : Move V c (c.edit slotId f) :=
        .kept f (fun _ => rfl) (fun _ => rfl) (fun _ => rfl) fun _ _ => .inl
      have hactivated := Move.activated (V := V) (c := c.edit slotId f) queued known' hstatus hV
      rw [wp_bind, wp_modifySlot (c := c.popped rest) known, wp_bind,
        wp_setSlotStatus (c := (c.popped rest).edit slotId f) known', if_neg (by rw [hstatus]; decide)]
      rw [← hstatus] at hactivated
      have hedited : Steady c ((c.popped rest).edit slotId f) :=
        ((Steady.refl c).popped rest).edit (fun _ => rfl) (fun _ => rfl) fun _ _ => .inl rfl
      have hturned : Steady c (((c.popped rest).edit slotId f).turn slotId slot.status .active) := by
        refine (hedited.edit (f := fun slot => { slot with status := .active }) (fun _ => rfl)
          (fun _ => rfl) fun view hview => .inr ⟨?_, rfl⟩).emit _
        rw [show ((c.popped rest).edit slotId f).slots[slotId.toNat]? = some (f slot) from known',
          Option.some.injEq] at hview
        rw [← hview]
        exact hstatus
      exact ⟨.tail (.single hkept) hactivated, (hturned.noted (.activated slotId) rfl).emit _, rfl⟩
  · exact ⟨.single (.refused _ queued hV), ((Steady.refl c).popped rest).emit _, rfl⟩

theorem collectEvent_along (h : c.Sound) (queued : c.session.events = event :: rest)
    (hV : V event.slotId) :
    wp (collectEvent event) (fun _ c' => ReflTransGen (Move V) c c' ∧ Steady c c' ∧
      c'.session.events = rest) (fun _ _ => False) (c.popped rest) := by
  have hmem : event ∈ c.session.events := by
    rw [queued]
    exact List.mem_cons_self
  obtain ⟨_, hrenews⟩ := h.events event hmem
  cases event with
  | transportReady slotId => exact transportReady_along queued hV
  | applicationInfo slotId info =>
      have hlive := hrenews slotId rfl
      obtain ⟨slot, known, _⟩ := hlive.known
      rw [collectEvent, wp_bind, wp_get]
      dsimp only
      rw [if_pos (show (c.popped rest).isActive slotId = true from hlive)]
      split
      · next now hnow =>
          rw [wp_bind, wp_modify]
          exact renewed_passed (armed_along (c.pacer.armApplicationInfo now).gate hlive)
            (armed_steady c _) queued nofun (fun _ hsame => hsame.symm) hV hV known
      · exact renewed_passed .refl (.refl c) queued nofun (fun _ hsame => hsame.symm) hV hV known
  | caInfo slotId sessionId caids =>
      have hlive := hrenews slotId rfl
      obtain ⟨slot, known, _⟩ := hlive.known
      rw [collectEvent, wp_bind, wp_get]
      dsimp only
      rw [if_pos (show (c.popped rest).isActive slotId = true from hlive)]
      split
      · next now hnow =>
          split
          · rw [wp_bind, wp_modify]
            exact renewed_passed (armed_along (c.pacer.armCaInfo now).gate hlive)
              (armed_steady c _) queued nofun (fun _ hsame => hsame.symm) hV hV known
          · exact renewed_passed .refl (.refl c) queued nofun (fun _ hsame => hsame.symm) hV hV known
      · exact renewed_passed .refl (.refl c) queued nofun (fun _ hsame => hsame.symm) hV hV known
  | sessionClosed slotId sessionId resourceId =>
      rw [collectEvent, wp_bind, wp_get]
      dsimp only
      split
      · next hbase =>
          obtain ⟨slot, known, _⟩ := (hrenews slotId ⟨rfl, hbase⟩).known
          exact renewed_passed .refl (.refl c) queued nofun (fun _ hsame => hsame.1.symm) hV hV known
      · next hbase =>
          exact passed_along .refl (.refl c) queued nofun (fun _ hsame => hbase hsame.2) hV
  | _ => exact passed_along .refl (.refl c) queued nofun (fun _ => id) hV

theorem collectLoop_along : ∀ (fuel : Nat) (c : CiController), c.Sound →
    c.session.events.length < fuel → (∀ e ∈ c.session.events, V e.slotId) →
    Along (Move V) (collectLoop fuel) (fun _ c' => Steady c c' ∧ c'.session.events = [])
      (fun _ _ => False) c := by
  intro fuel
  induction fuel with
  | zero => exact fun c _ hlen => absurd hlen (Nat.not_lt_zero _)
  | succ fuel ih =>
      intro c h hlen hV
      rw [Along, collectLoop, wp_bind, wp_zoom, CiSession.nextEvent, wp_bind, wp_get]
      split
      · next hevents => exact ⟨.refl, .refl c, hevents⟩
      · next event rest hevents =>
          have hevents : c.session.events = event :: rest := hevents
          rw [hevents] at hlen hV
          rw [wp_bind, wp_modify, wp_pure, wp_bind]
          refine wp_mono (collectEvent_along h hevents (hV event List.mem_cons_self))
            (fun _ c₁ hc₁ => ?_) fun _ _ hf => hf.elim
          obtain ⟨hpath, hsteady, hrest⟩ := hc₁
          have hsound : c₁.Sound := Path.invariant hpath h fun _ _ => Sound.move
          refine wp_mono (ih c₁ hsound ?_ ?_) (fun _ c' hc' => ?_) fun _ _ hf => hf.2.elim
          · rw [hrest]
            simpa using hlen
          · rw [hrest]
            exact fun e he => hV e (List.mem_cons_of_mem _ he)
          · exact ⟨hpath.trans hc'.1, hsteady.trans hc'.2.1, hc'.2.2⟩

theorem collect_along (h : c.Sound) (hV : ∀ e ∈ c.session.events, V e.slotId) :
    Along (Move V) collectSessionEvents (fun _ c' => Steady c c' ∧ c'.session.events = [])
      (fun _ _ => False) c :=
  collectLoop_along _ c h (Nat.lt_succ_self _) hV

end Collect

end LibDvb.CiController
