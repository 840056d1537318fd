import LibDvb.Ca.Controller.Frame

namespace LibDvb.CiController

open Relation Act Outcome

variable {V : UInt8 → Prop} {c c' : CiController} {slotId other : UInt8} {slot : ControllerSlot}

structure Vacant (c : CiController) (slotId : UInt8) : Prop where
  sessions : c.NoSession slotId
  idle : c.IdleAt slotId

theorem Steady.vacant (hs : Steady c c') (h : c.Vacant slotId) : c'.Vacant slotId where
  sessions index session hlive := by
    rw [CiSession.entry, hs.sessions] at hlive
    exact h.sessions index session hlive
  idle slot known := by
    rw [hs.slots] at known
    exact h.idle slot known

theorem dropSlot_along (h : c.Sound) (hV : V slotId) (hlt : slotId.toNat < c.slots.length) :
    Along (Move V) (dropSlot slotId)
      (fun _ c' => ∃ s, c' = { c with session := s } ∧ CiSession.Dropped slotId c.session s)
      (fun _ _ => False) c :=
  session_along (along_mono (CiSession.dropSlot_along h.session hV (h.count ▸ hlt))
    (fun _ s hs => ⟨s, rfl, hs⟩) fun _ _ hf => hf)

section Dropped

variable {s : CiSession}

theorem vacant_dropped (h : CiSession.Dropped slotId c.session s) :
    Vacant { c with session := s } slotId where
  sessions index session hlive := (h.kept index session hlive).2
  idle slot known := by
    rw [show CiController.session { c with session := s } = s from rfl, h.slots, getElem?_modifyAt,
      if_pos rfl, Option.map_eq_some_iff] at known
    obtain ⟨_, _, rfl⟩ := known
    exact ⟨rfl, rfl⟩

theorem Vacant.dropped (hv : c.Vacant other) (h : CiSession.Dropped slotId c.session s) :
    Vacant { c with session := s } other where
  sessions index session hlive := hv.sessions index session (h.kept index session hlive).1
  idle slot known := by
    rw [show CiController.session { c with session := s } = s from rfl, h.slots,
      getElem?_modifyAt] at known
    split at known
    · rw [Option.map_eq_some_iff] at known
      obtain ⟨_, _, rfl⟩ := known
      exact ⟨rfl, rfl⟩
    · exact hv.idle slot known

theorem silent_dropped (h : CiSession.Dropped slotId c.session s) :
    Silent c.session.transport.trace s.transport.trace := by
  rw [h.trace]
  exact .note rfl

end Dropped

-- The slot as `set_cam_status(None)` and `set_slot_status` leave it.
def closed (c : CiController) (slotId : UInt8) (slot : ControllerSlot) (new : CaSlotStatus) :
    CiController :=
  if slot.status = new then c.renew slotId slot.camStatus
  else (c.renew slotId slot.camStatus).turn slotId slot.status new

section Closed

variable {new : CaSlotStatus}

theorem known_renew (known : c.slots[slotId.toNat]? = some slot) (old : CamStatus) :
    (c.renew slotId old).slots[slotId.toNat]? = some { slot with camStatus := c.camOf slotId } :=
  known_edit known _

theorem wp_setCamNone (hc : c.session.Consistent) (hs : c.NoSession slotId)
    (known : c.slots[slotId.toNat]? = some slot) {Q : Unit → CiController → Prop}
    {E : Error → CiController → Prop} :
    wp (setCamStatus slotId .none) Q E c ↔ Q () (c.renew slotId slot.camStatus) := by
  rw [wp_setCamStatus known, renew, camOf_vacant hc hs]

theorem wp_setClosed (known : c.slots[slotId.toNat]? = some slot) {Q : Unit → CiController → Prop}
    {E : Error → CiController → Prop} :
    wp (setSlotStatus slotId new) Q E (c.renew slotId slot.camStatus) ↔
      Q () (c.closed slotId slot new) := by
  rw [wp_setSlotStatus (known_renew known _), closed]

theorem closed_session : (c.closed slotId slot new).session = c.session := by
  rw [closed]
  split <;> rfl

theorem closed_pacer : (c.closed slotId slot new).pacer = c.pacer := by
  rw [closed]
  split <;> rfl

theorem closed_other (hne : other ≠ slotId) :
    (c.closed slotId slot new).slots[other.toNat]? = c.slots[other.toNat]? := by
  have hrenew : (c.renew slotId slot.camStatus).slots[other.toNat]? = c.slots[other.toNat]? := by
    show (c.edit slotId _).slots[other.toNat]? = _
    rw [getElem?_edit, if_neg hne.symm]
  rw [closed]
  split
  · exact hrenew
  · show ((c.renew slotId slot.camStatus).edit slotId _).slots[other.toNat]? = _
    rw [getElem?_edit, if_neg hne.symm, hrenew]

theorem closed_self (hc : c.session.Consistent) (hs : c.NoSession slotId)
    (known : c.slots[slotId.toNat]? = some slot) :
    (c.closed slotId slot new).slots[slotId.toNat]? =
      some { slot with status := new, camStatus := .none } := by
  have hrenew : (c.renew slotId slot.camStatus).slots[slotId.toNat]? =
      some { slot with camStatus := .none } := by
    rw [← camOf_vacant hc hs]
    exact known_edit known _
  rw [closed]
  split
  · next hsame => rw [hrenew, ← hsame]
  · exact known_edit hrenew _

theorem closed_path (known : c.slots[slotId.toNat]? = some slot) (hV : ∀ other, V other)
    (rest : new ≠ .active ∧ new ≠ .creatingTc) (present : slot.present = false ↔ new = .absent)
    (hv : c.Vacant slotId) (receive : slot.receivePending = false)
    (collected : c.session.events = []) :
    ReflTransGen (Move V) c (c.closed slotId slot new) := by
  have hrenewed : Move V c (c.renew slotId slot.camStatus) := .renewed known (hV slotId)
  have known' : (c.renew slotId slot.camStatus).slots[slotId.toNat]? =
      some { slot with camStatus := c.camOf slotId } := known_edit known _
  rw [closed]
  split
  · exact .single hrenewed
  · next hchange =>
      have hturned := Move.turned new known' hchange hV rest present hv.sessions (fun _ => hv.idle)
        receive fun _ => collected
      exact .tail (.single hrenewed) hturned

end Closed

-- The slot as `clear_slot_timers` leaves it.
def untimed (slot : ControllerSlot) : ControllerSlot :=
  { slot with
    createSince := none
    commandSince := none
    receivePending := false
    nextPoll := none
    retryAt := none }

theorem clearSlotTimers_along (known : c.slots[slotId.toNat]? = some slot) :
    Along (Move V) (clearSlotTimers slotId) (fun _ c' => c' = c.edit slotId untimed)
      (fun _ _ => False) c :=
  kept_along known (fun _ => rfl) (fun _ => rfl) (fun _ => rfl) nofun rfl

theorem getElem?_steady (hs : Steady c c') (hcount : c'.slots.length = c.slots.length)
    (known : c.slots[slotId.toNat]? = some slot) : ∃ slot', c'.slots[slotId.toNat]? = some slot' ∧
      slot'.present = slot.present ∧ slot'.receivePending = slot.receivePending := by
  have hlt : slotId.toNat < c'.slots.length := by
    rw [hcount]
    exact slotId_lt known
  have known' := List.getElem?_eq_getElem hlt
  obtain ⟨old, hold, hpresent, hreceive, _⟩ := hs.views slotId _ known'
  rw [known, Option.some.injEq] at hold
  subst hold
  exact ⟨_, known', hpresent, hreceive⟩

theorem close_along (h : c.Sound) (known : c.slots[slotId.toNat]? = some slot) (hV : ∀ other, V other)
    {new : CaSlotStatus} (rest : new ≠ .active ∧ new ≠ .creatingTc)
    (present : slot.present = false ↔ new = .absent) (hv : c.Vacant slotId)
    (receive : slot.receivePending = false) (collected : c.session.events = []) :
    Along (Move V) (do setCamStatus slotId .none; setSlotStatus slotId new)
      (fun _ c' => c'.session = c.session ∧ c'.PresentAt slotId) (fun _ _ => False) c := by
  rw [Along, wp_bind, wp_setCamNone h.session hv.sessions known, wp_setClosed known]
  refine ⟨closed_path known hV rest present hv receive collected, closed_session, fun slot' known' => ?_⟩
  rw [closed_self h.session hv.sessions known, Option.some.injEq] at known'
  subst known'
  exact present

section Recover

structure Emptied (c : CiController) : Prop where
  vacant : ∀ slotId, c.Vacant slotId
  receive : ∀ (slotId : UInt8) slot, c.slots[slotId.toNat]? = some slot → slot.receivePending = false
  collected : c.session.events = []

theorem Sound.vacant_outside (h : c.Sound) (hle : c.slots.length ≤ slotId.toNat) :
    c.Vacant slotId where
  sessions index session hlive heq := by
    have hlt := (h.session.live index session hlive).1
    rw [heq, ← h.count] at hlt
    exact absurd hlt (Nat.not_lt.mpr hle)
  idle slot known := by
    have hlt := (List.getElem?_eq_some_iff.mp known).1
    rw [← h.count] at hlt
    exact absurd hlt (Nat.not_lt.mpr hle)

theorem dropEach_along (h : c.Sound) (hlt : slotId.toNat < c.slots.length) :
    Along (Move fun _ => True) (do dropSlot slotId; clearSlotTimers slotId)
      (fun _ c' => Silent c.session.transport.trace c'.session.transport.trace ∧
        c'.Vacant slotId ∧ (∀ other, c.Vacant other → c'.Vacant other) ∧
        (∀ slot, c'.slots[slotId.toNat]? = some slot → slot.receivePending = false) ∧
        ∀ other : UInt8, other ≠ slotId → c'.slots[other.toNat]? = c.slots[other.toNat]?)
      (fun _ _ => False) c := by
  have known := List.getElem?_eq_getElem hlt
  refine along_bind (dropSlot_along h trivial hlt) fun _ c₁ hpath₁ hc₁ => ?_
  obtain ⟨s, rfl, hdropped⟩ := hc₁
  refine along_mono (clearSlotTimers_along (c := { c with session := s }) known)
    (fun _ c₂ hc₂ => ?_) fun _ _ hf => hf
  subst hc₂
  refine ⟨silent_dropped hdropped, ?_, fun other hv => ?_, fun slot known' => ?_, fun other hne => ?_⟩
  · exact ⟨(vacant_dropped hdropped).sessions, (vacant_dropped hdropped).idle⟩
  · exact ⟨(hv.dropped hdropped).sessions, (hv.dropped hdropped).idle⟩
  · rw [known_edit (c := { c with session := s }) known, Option.some.injEq] at known'
    rw [← known']
    rfl
  · rw [getElem?_edit, if_neg hne.symm]

theorem dropAllSlots_along (h : c.Sound) : Along (Move fun _ => True) dropAllSlots
    (fun _ c' => c'.Emptied ∧ Silent c.session.transport.trace c'.session.transport.trace)
    (fun _ _ => False) c := by
  refine along_get_bind ?_
  refine along_bind (forSlots_along (P := fun slotId c' => c'.Vacant slotId ∧
      ∀ slot, c'.slots[slotId.toNat]? = some slot → slot.receivePending = false)
    (fun c' => c'.Sound ∧ c'.slots.length = c.slots.length ∧
      Silent c.session.transport.trace c'.session.transport.trace) h.count_le ⟨h, rfl, .refl _⟩
    fun slotId c₁ hlt hc₁ => ?_) fun _ c₁ hpath₁ hc₁ => ?_
  · obtain ⟨h₁, hcount, hp⟩ := hc₁
    have heach := dropEach_along h₁ (hcount.symm ▸ hlt)
    refine wp_mono heach (fun _ c₂ hc₂ => ?_) fun _ _ hf => hf
    obtain ⟨hpath, hp', hv, hvacant, hreceive, hothers⟩ := hc₂
    refine ⟨hpath, ⟨h₁.path hpath, (Keeps.path hpath).count.trans hcount, hp.trans hp'⟩,
      ⟨hv, hreceive⟩, fun other hne hdone => ⟨hvacant other hdone.1, ?_⟩⟩
    rw [hothers other hne]
    exact hdone.2
  · obtain ⟨⟨h₁, hcount, hp⟩, hdone⟩ := hc₁
    refine along_mono (collect_along h₁ fun _ _ => trivial) (fun _ c₂ hc₂ => ?_) fun _ _ hf => hf
    obtain ⟨hsteady, hevents⟩ := hc₂
    have hvacant (slotId : UInt8) : c₁.Vacant slotId := by
      by_cases hlt : slotId.toNat < c.slots.length
      · exact (hdone slotId hlt).1
      · exact h₁.vacant_outside (hcount.symm ▸ Nat.not_lt.mp hlt)
    refine ⟨⟨fun slotId => hsteady.vacant (hvacant slotId), fun slotId slot known => ?_, hevents⟩,
      hp.trans hsteady.silent⟩
    obtain ⟨old, hold, _, hreceive, _⟩ := hsteady.views slotId slot known
    rw [hreceive]
    exact (hdone slotId (hcount ▸ slotId_lt hold)).2 old hold

theorem moves_along {α : Type} {m : Act Error CiController α} {Q : α → CiController → Prop}
    {E : Error → CiController → Prop} (hm : Along (Move V) m Q E c) :
    Along Step m (fun a c' => ReflTransGen (Move V) c c' ∧ Q a c')
      (fun e c' => ReflTransGen (Move V) c c' ∧ E e c') c :=
  wp_mono hm (fun _ _ hq => ⟨ReflTransGen.mono (fun _ _ hmove => .work (.move hmove)) _ _ hq.1, hq⟩)
    fun _ _ hq => ⟨ReflTransGen.mono (fun _ _ hmove => .work (.move hmove)) _ _ hq.1, hq⟩

theorem reportFailure_along (h : c.Sound) (failedSlot : Option UInt8) (reason : CaSlotFailure) :
    Along (Move fun _ => True) (reportFailure failedSlot reason) (fun _ c' => c'.session = c.session)
      (fun _ _ => False) c := by
  unfold reportFailure
  split
  · exact along_modify (.failed reason fun _ => trivial) rfl
  · refine along_get_bind (along_mono (forSlots_along (P := fun _ _ => True)
      (fun c' => c'.slots.length = c.slots.length ∧ c'.session = c.session) h.count_le ⟨rfl, rfl⟩
      fun slotId c' hlt hcount => ?_) (fun _ _ hc' => hc'.1.2) fun _ _ hf => hf)
    have known : c'.slots[slotId.toNat]? = some _ := List.getElem?_eq_getElem (hcount.1.symm ▸ hlt)
    rw [Along, wp_bind, wp_slotAt_known known]
    split
    · exact ⟨.single (.failed reason fun _ => trivial), hcount, trivial, fun _ _ _ => trivial⟩
    · exact ⟨.refl, hcount, trivial, fun _ _ _ => trivial⟩

theorem deviceReset_spec (link : CaDevice) :
    wp CaDevice.reset (fun _ _ => True) (fun _ _ => True) link := by
  rw [CaDevice.reset, wp_bind, wp_get]
  rcases link.resets with _ | ⟨result, rest⟩
  · trivial
  · cases result <;> trivial

theorem ioReset_along (he : c.Emptied) : Along Step ioReset
    (fun result c' => ∃ link, c' = (linkLens.set link c).noted (.reset result)) (fun _ _ => False)
      c := by
  have hreset (result : Except Error Unit) (link : CaDevice) :
      ReflTransGen Step c ((linkLens.set link c).noted (.reset result)) :=
    .single (.reset result (fun slotId => (he.vacant slotId).sessions) fun slotId =>
      (he.vacant slotId).idle)
  rw [Along, ioReset, wp_bind, wp_attempt, wp_zoom]
  refine wp_mono (deviceReset_spec _) (fun _ link _ => ?_) (fun e link _ => ?_)
  · exact ⟨hreset (.ok ()) link, link, rfl⟩
  · exact ⟨hreset (.error e) link, link, rfl⟩

structure Halted (c : CiController) : Prop where
  stopped : ∀ (slotId : UInt8) slot, c.slots[slotId.toNat]? = some slot →
    slot.status = .failed ∨ slot.status = .absent
  gate : c.pacer.gate = .notReady
  deferred : c.deferredLinkFailure = false

structure Recovered (c : CiController) : Prop where
  calm : c.Calm
  suspended : c.linkSuspended = true
  halted : c.Halted

structure Rested (c : CiController) (new : CaSlotStatus) (slotId : UInt8) : Prop where
  view : ∀ slot, c.slots[slotId.toNat]? = some slot →
    slot.status = (if slot.present then new else .absent) ∧ slot.camStatus = .none

structure Resting (c c' : CiController) : Prop where
  sound : c'.Sound
  keeps : Keeps c c'
  session : c'.session = c.session
  pacer : c'.pacer = c.pacer
  receive : ∀ (slotId : UInt8) slot, c'.slots[slotId.toNat]? = some slot → slot.receivePending = false

theorem Emptied.resting (he : c.Emptied) (hr : Resting c c') : c'.Emptied where
  vacant slotId := by
    refine ⟨?_, ?_⟩
    · rw [NoSession, hr.session]
      exact (he.vacant slotId).sessions
    · rw [IdleAt, hr.session]
      exact (he.vacant slotId).idle
  receive := hr.receive
  collected := by
    rw [hr.session]
    exact he.collected

theorem closeRested_path (he : c.Emptied) (hr : Resting c c') (known : c'.slots[slotId.toNat]? = some slot)
    {new : CaSlotStatus} (rest : new ≠ .active ∧ new ≠ .creatingTc)
    (present : slot.present = false ↔ new = .absent) :
    ReflTransGen (Move fun _ => True) c' (c'.closed slotId slot new) ∧
      Resting c (c'.closed slotId slot new) := by
  have he' := he.resting hr
  have hpath : ReflTransGen (Move fun _ => True) c' (c'.closed slotId slot new) :=
    closed_path known (fun _ => trivial) rest present (he'.vacant slotId) (he'.receive slotId slot known)
      he'.collected
  refine ⟨hpath, hr.sound.path hpath, hr.keeps.trans (Keeps.path hpath),
    closed_session.trans hr.session, closed_pacer.trans hr.pacer, fun other slot' known' => ?_⟩
  by_cases heq : other = slotId
  · subst heq
    rw [closed_self hr.sound.session (he'.vacant other).sessions known, Option.some.injEq] at known'
    subst known'
    exact he'.receive other slot known
  · rw [closed_other heq] at known'
    exact he'.receive other slot' known'

def unready (retryAt : Option Instant) (slot : ControllerSlot) : ControllerSlot :=
  { slot with ready := false, retryAt }

theorem rest_path (he : c.Emptied) (hr : Resting c c') (known : c'.slots[slotId.toNat]? = some slot)
    (retryAt : Option Instant) {new : CaSlotStatus}
    (rest : new ≠ .active ∧ new ≠ .creatingTc ∧ new ≠ .absent) {c'' : CiController}
    (heq : c'' = (c'.edit slotId (unready retryAt)).closed slotId (unready retryAt slot)
      (if slot.present then new else .absent)) :
    ReflTransGen (Move fun _ => True) c' c'' ∧ Resting c c'' ∧ Rested c'' new slotId ∧
      ∀ other, other ≠ slotId → Rested c' new other → Rested c'' new other := by
  subst heq
  have hkept : Move (fun _ => True) c' (c'.edit slotId (unready retryAt)) :=
    .kept _ (fun _ => rfl) (fun _ => rfl) (fun _ => rfl) fun _ _ => .inl
  have known' := known_edit known (unready retryAt)
  have hr' : Resting c (c'.edit slotId (unready retryAt)) := by
    refine ⟨hr.sound.move hkept, hr.keeps.trans hkept.keeps, hr.session, hr.pacer,
      fun other slot' hother => ?_⟩
    rw [getElem?_edit] at hother
    split at hother
    · rw [Option.map_eq_some_iff] at hother
      obtain ⟨old, hold, rfl⟩ := hother
      exact hr.receive other old hold
    · exact hr.receive other slot' hother
  have hclosed := @closeRested_path _ _ _ _ he hr' known' (if slot.present then new else .absent) ?_ ?_
  · refine ⟨.head hkept hclosed.1, hclosed.2, ⟨fun slot' hslot' => ?_⟩, fun other hne hrested => ?_⟩
    · have he' := he.resting hr'
      rw [closed_self hr'.sound.session (he'.vacant slotId).sessions known',
        Option.some.injEq] at hslot'
      subst hslot'
      exact ⟨rfl, rfl⟩
    · refine ⟨fun slot' hslot' => hrested.view slot' ?_⟩
      rwa [closed_other hne, getElem?_edit, if_neg hne.symm] at hslot'
  · split
    · exact ⟨rest.1, rest.2.1⟩
    · exact ⟨by decide, by decide⟩
  · show slot.present = false ↔ _
    cases slot.present with
    | true => exact iff_of_false (by decide) rest.2.2
    | false => exact iff_of_true rfl rfl

theorem Resting.refl (h : c.Sound) (he : c.Emptied) : Resting c c :=
  ⟨h, .refl c, rfl, rfl, he.receive⟩

theorem failAll_along (h : c.Sound) (he : c.Emptied) (retryAt : Option Instant) :
    Along (Move fun _ => True) (forEach c.slotIds fun slotId => do
        modifySlot slotId ({ · with ready := false, retryAt })
        setCamStatus slotId .none
        setSlotStatus slotId (if (← slotAt slotId).present then .failed else .absent))
      (fun _ c' => Resting c c' ∧ ∀ slotId, Rested c' .failed slotId) (fun _ _ => False) c := by
  refine (along_mono (forSlots_along (P := fun slotId c' => Rested c' .failed slotId)
    (Resting c) h.count_le (.refl h he) fun slotId c' hlt hr => ?_) (fun _ c' hc' => ⟨hc'.1,
      fun slotId => ?_⟩) fun _ _ hf => hf)
  · have known : c'.slots[slotId.toNat]? = some _ :=
      List.getElem?_eq_getElem (hr.keeps.count.symm ▸ hlt)
    have known' := known_edit known (unready retryAt)
    have hvacant := (he.resting hr).vacant slotId
    have hedited : (c'.edit slotId (unready retryAt)).session.Consistent := hr.sound.session
    rw [Along, wp_bind, wp_modifySlot known, wp_bind]
    refine (wp_setCamNone hedited hvacant.sessions known').mpr ?_
    rw [wp_bind, wp_slotAt_known (known_renew known' _), wp_setClosed known']
    exact rest_path he hr known retryAt (by decide) rfl
  · by_cases hlt : slotId.toNat < c.slots.length
    · exact hc'.2 slotId hlt
    · refine ⟨fun slot known => absurd (slotId_lt known) ?_⟩
      rwa [hc'.1.keeps.count]

theorem restoreAll_along (h : c.Sound) (he : c.Emptied) :
    Along (Move fun _ => True) (forEach c.slotIds fun slotId => do
        let present := (← slotAt slotId).present
        modifySlot slotId ({ · with ready := false, retryAt := none })
        setCamStatus slotId .none
        setSlotStatus slotId (if present then .present else .absent))
      (fun _ c' => Resting c c' ∧ ∀ slotId, Rested c' .present slotId) (fun _ _ => False) c := by
  refine (along_mono (forSlots_along (P := fun slotId c' => Rested c' .present slotId)
    (Resting c) h.count_le (.refl h he) fun slotId c' hlt hr => ?_) (fun _ c' hc' => ⟨hc'.1,
      fun slotId => ?_⟩) fun _ _ hf => hf)
  · have known : c'.slots[slotId.toNat]? = some _ :=
      List.getElem?_eq_getElem (hr.keeps.count.symm ▸ hlt)
    have known' := known_edit known (unready none)
    have hvacant := (he.resting hr).vacant slotId
    have hedited : (c'.edit slotId (unready none)).session.Consistent := hr.sound.session
    rw [Along, wp_bind, wp_slotAt_known known]
    dsimp only
    rw [wp_bind, wp_modifySlot known, wp_bind]
    refine (wp_setCamNone hedited hvacant.sessions known').mpr ?_
    rw [wp_setClosed known']
    exact rest_path he hr known none (by decide) rfl
  · by_cases hlt : slotId.toNat < c.slots.length
    · exact hc'.2 slotId hlt
    · refine ⟨fun slot known => absurd (slotId_lt known) ?_⟩
      rwa [hc'.1.keeps.count]

def Marked (slot slot' : ControllerSlot) : Prop :=
  slot'.present = slot.present ∧ slot'.camStatus = slot.camStatus ∧
    (slot'.status = slot.status ∨ slot'.present = true ∧ slot'.status = .failed)

structure Marking (c c' : CiController) : Prop where
  resting : Resting c c'
  views : ∀ (slotId : UInt8) slot', c'.slots[slotId.toNat]? = some slot' →
    ∃ slot, c.slots[slotId.toNat]? = some slot ∧ Marked slot slot'

theorem Resting.move (hr : Resting c c') {c'' : CiController}
    (hm : Move (fun _ => True) c' c'') (session : c''.session = c'.session)
    (pacer : c''.pacer = c'.pacer) (receive : ∀ (slotId : UInt8) slot'',
      c''.slots[slotId.toNat]? = some slot'' → ∃ slot', c'.slots[slotId.toNat]? = some slot' ∧
        slot''.receivePending = slot'.receivePending) : Resting c c'' where
  sound := hr.sound.move hm
  keeps := hr.keeps.trans hm.keeps
  session := session.trans hr.session
  pacer := pacer.trans hr.pacer
  receive slotId slot'' known := by
    obtain ⟨slot', known', hreceive⟩ := receive slotId slot'' known
    rw [hreceive]
    exact hr.receive slotId slot' known'

theorem getElem?_edit_some {f : ControllerSlot → ControllerSlot} {slot' : ControllerSlot}
    (known : (c.edit slotId f).slots[other.toNat]? = some slot') :
    ∃ slot, c.slots[other.toNat]? = some slot ∧ slot' = if slotId = other then f slot else slot := by
  rw [getElem?_edit] at known
  split at known
  · next heq =>
      rw [Option.map_eq_some_iff] at known
      obtain ⟨slot, known, rfl⟩ := known
      exact ⟨slot, known, (if_pos heq).symm⟩
  · next hne => exact ⟨slot', known, (if_neg hne).symm⟩

theorem Marked.refl (slot : ControllerSlot) : Marked slot slot := ⟨rfl, rfl, .inl rfl⟩

theorem Marked.trans {slot' slot'' : ControllerSlot} (h : Marked slot slot')
    (h' : Marked slot' slot'') : Marked slot slot'' := by
  obtain ⟨hpresent, hcam, hstatus⟩ := h
  obtain ⟨hpresent', hcam', hstatus'⟩ := h'
  refine ⟨hpresent'.trans hpresent, hcam'.trans hcam, ?_⟩
  rcases hstatus' with hsame | hfailed
  · rw [hsame, hpresent']
    exact hstatus
  · exact .inr hfailed

theorem marked_edit {f : ControllerSlot → ControllerSlot}
    (receive : ∀ slot, (f slot).receivePending = slot.receivePending)
    (marked : ∀ slot, c.slots[slotId.toNat]? = some slot → Marked slot (f slot)) (other : UInt8)
    (slot' : ControllerSlot) (known' : (c.edit slotId f).slots[other.toNat]? = some slot') :
    ∃ slot, c.slots[other.toNat]? = some slot ∧ slot'.receivePending = slot.receivePending ∧
      Marked slot slot' := by
  obtain ⟨slot, known, rfl⟩ := getElem?_edit_some known'
  refine ⟨slot, known, ?_⟩
  split
  · next heq => exact ⟨receive slot, marked slot (heq ▸ known)⟩
  · exact ⟨rfl, .refl slot⟩

theorem Marking.move (hm : Marking c c') {c'' : CiController} (hmove : Move (fun _ => True) c' c'')
    (session : c''.session = c'.session) (pacer : c''.pacer = c'.pacer)
    (views : ∀ (slotId : UInt8) slot'', c''.slots[slotId.toNat]? = some slot'' →
      ∃ slot', c'.slots[slotId.toNat]? = some slot' ∧
        slot''.receivePending = slot'.receivePending ∧ Marked slot' slot'') : Marking c c'' where
  resting := by
    refine hm.resting.move hmove session pacer fun slotId slot'' known'' => ?_
    obtain ⟨slot', known', hreceive, _⟩ := views slotId slot'' known''
    exact ⟨slot', known', hreceive⟩
  views slotId slot'' known'' := by
    obtain ⟨slot', known', _, hmarked'⟩ := views slotId slot'' known''
    obtain ⟨slot, known, hmarked⟩ := hm.views slotId slot' known'
    exact ⟨slot, known, hmarked.trans hmarked'⟩

theorem markFailed_path (he : c.Emptied) (hm : Marking c c')
    (known : c'.slots[slotId.toNat]? = some slot) (hpresent : slot.present = true)
    {c'' : CiController}
    (heq : c'' = if slot.status = .failed then c' else c'.turn slotId slot.status .failed) :
    ReflTransGen (Move fun _ => True) c' c'' ∧ Marking c c'' ∧
      (∀ slot'', c''.slots[slotId.toNat]? = some slot'' → slot''.status = .failed) ∧
      ∀ other : UInt8, other ≠ slotId → c''.slots[other.toNat]? = c'.slots[other.toNat]? := by
  have he' := he.resting hm.resting
  subst heq
  split
  · next hfailed =>
      refine ⟨.refl, hm, fun slot'' known'' => ?_, fun _ _ => rfl⟩
      rw [known, Option.some.injEq] at known''
      rw [← known'', hfailed]
  · next hchange =>
      have hturned : Move (fun _ => True) c' (c'.turn slotId slot.status .failed) :=
        .turned .failed known hchange (fun _ => trivial) (by decide)
          (iff_of_false (by rw [hpresent]; decide) (by decide)) (he'.vacant slotId).sessions
          (fun _ => (he'.vacant slotId).idle) (he'.receive slotId slot known) fun _ => he'.collected
      refine ⟨.single hturned, hm.move hturned rfl rfl (marked_edit (c := c') (fun _ => rfl)
        fun slot' known' => ?_), fun slot'' known'' => ?_, fun other hne => ?_⟩
      · rw [known, Option.some.injEq] at known'
        subst known'
        exact ⟨rfl, rfl, .inr ⟨hpresent, rfl⟩⟩
      · have hview : (c'.edit slotId ({ · with status := .failed })).slots[slotId.toNat]? =
            some slot'' := known''
        rw [known_edit known, Option.some.injEq] at hview
        rw [← hview]
      · show (c'.edit slotId _).slots[other.toNat]? = _
        rw [getElem?_edit, if_neg hne.symm]

theorem markResetFailed_along (h : c.Sound) (he : c.Emptied) :
    Along (Move fun _ => True) markResetFailed (fun _ c' => Marking c c' ∧
      ∀ (slotId : UInt8) slot, c'.slots[slotId.toNat]? = some slot → slot.present = true →
        slot.status = .failed) (fun _ _ => False) c := by
  refine along_get_bind (along_mono (forSlots_along (P := fun slotId c' =>
    ∀ slot, c'.slots[slotId.toNat]? = some slot → slot.present = true → slot.status = .failed)
    (Marking c) h.count_le ⟨.refl h he, fun _ slot known => ⟨slot, known, rfl, rfl, .inl rfl⟩⟩
      fun slotId c' hlt hm => ?_) (fun _ c' hc' => ⟨hc'.1, fun slotId slot known => ?_⟩)
        fun _ _ hf => hf)
  · obtain ⟨hr, hviews⟩ := hm
    obtain ⟨slot, known⟩ : ∃ slot, c'.slots[slotId.toNat]? = some slot :=
      ⟨_, List.getElem?_eq_getElem (hr.keeps.count.symm ▸ hlt)⟩
    rw [Along, wp_bind, wp_slotAt_known known]
    split
    · next hpresent =>
        let f : ControllerSlot → ControllerSlot := ({ · with retryAt := none })
        have hkept : Move (fun _ => True) c' (c'.edit slotId f) :=
          .kept f (fun _ => rfl) (fun _ => rfl) (fun _ => rfl) fun _ _ => .inl
        have hm₁ : Marking c (c'.edit slotId f) := Marking.move ⟨hr, hviews⟩ hkept rfl rfl
          (marked_edit (fun _ => rfl) fun _ _ => ⟨rfl, rfl, .inl rfl⟩)
        have hfailed : Move (fun _ => True) (c'.edit slotId f)
            ((c'.edit slotId f).emit [.slotFailed slotId .resetFailed]) := .failed _ fun _ => trivial
        have hm₂ : Marking c ((c'.edit slotId f).emit [.slotFailed slotId .resetFailed]) :=
          hm₁.move hfailed rfl rfl fun _ slot known => ⟨slot, known, rfl, .refl slot⟩
        have known₂ : ((c'.edit slotId f).emit [.slotFailed slotId .resetFailed]).slots[slotId.toNat]? =
            some (f slot) := known_edit known f
        rw [wp_bind, wp_modifySlot known, wp_bind, pushEvent, wp_modify]
        refine (wp_setSlotStatus known₂).mpr ?_
        obtain ⟨hpath, hm₃, hstatus, hothers⟩ := markFailed_path he hm₂ known₂ hpresent rfl
        refine ⟨(ReflTransGen.single hkept).trans (.head hfailed hpath), hm₃, fun view known' _ =>
          hstatus view known', fun other hne hdone view known' => hdone view ?_⟩
        rw [hothers other hne] at known'
        rwa [show ((c'.edit slotId f).emit [.slotFailed slotId .resetFailed]).slots =
          (c'.edit slotId f).slots from rfl, getElem?_edit, if_neg hne.symm] at known'
    · next hpresent =>
        refine ⟨.refl, ⟨hr, hviews⟩, fun view known' hview => ?_, fun _ _ hdone => hdone⟩
        have known' : c'.slots[slotId.toNat]? = some view := known'
        rw [known, Option.some.injEq] at known'
        exact absurd (known' ▸ hview) hpresent
  · exact hc'.2 slotId (hc'.1.resting.keeps.count ▸ slotId_lt known) slot known

theorem Resting.trans (hr : Resting c c') {c'' : CiController} (hr' : Resting c' c'') :
    Resting c c'' :=
  ⟨hr'.sound, hr.keeps.trans hr'.keeps, hr'.session.trans hr.session, hr'.pacer.trans hr.pacer,
    hr'.receive⟩

structure Afresh (c : CiController) : Prop where
  sound : c.Sound
  emptied : c.Emptied
  whole : pending c.session.transport.trace = false
  gate : c.pacer.gate = .notReady

theorem Afresh.recovered (ha : c.Afresh) (suspended : c.linkSuspended = true)
    (deferred : c.deferredLinkFailure = false) (hr : Resting c c')
    (views : ∀ (slotId : UInt8) slot, c'.slots[slotId.toNat]? = some slot →
      slot.status = if slot.present then .failed else .absent) : c'.Recovered where
  calm :=
    { sound := hr.sound
      whole := by
        rw [hr.session]
        exact ha.whole
      collected := (ha.emptied.resting hr).collected
      present := by
        intro slotId slot known
        rw [views slotId slot known]
        cases slot.present <;> decide }
  suspended := hr.keeps.linkSuspended.trans suspended
  halted :=
    { stopped := by
        intro slotId slot known
        rw [views slotId slot known]
        cases slot.present with
        | true => exact .inl rfl
        | false => exact .inr rfl
      gate := by
        rw [hr.pacer]
        exact ha.gate
      deferred := hr.keeps.deferred.trans deferred }

theorem afresh_reset (h : c.Sound) (he : c.Emptied) (gate : c.pacer.gate = .notReady)
    (link : CaDevice) (result : Except Error Unit) :
    Afresh ((linkLens.set link c).noted (.reset result)) where
  sound := h.step (.reset result (fun slotId => (he.vacant slotId).sessions) fun slotId =>
    (he.vacant slotId).idle)
  emptied := ⟨fun slotId => ⟨(he.vacant slotId).sessions, (he.vacant slotId).idle⟩, he.receive,
    he.collected⟩
  whole := by
    show pending (c.session.transport.trace ++ [.reset result]) = false
    rw [pending_snoc]
    rfl
  gate := gate

theorem Afresh.flags (ha : c.Afresh) (lastTick : Option Instant) (linkSuspended : Bool)
    (recoveryAt nextStatusCheck : Option Instant) (deferredLinkFailure : Bool) :
    Afresh { c with lastTick, linkSuspended, recoveryAt, nextStatusCheck, deferredLinkFailure } where
  sound := ha.sound.step (.flags lastTick linkSuspended recoveryAt nextStatusCheck deferredLinkFailure)
  emptied := ⟨fun slotId => ⟨(ha.emptied.vacant slotId).sessions, (ha.emptied.vacant slotId).idle⟩,
    ha.emptied.receive, ha.emptied.collected⟩
  whole := ha.whole
  gate := ha.gate

structure Parked (c : CiController) (retryAt : Option Instant) (c' : CiController) : Prop where
  recovered : c'.Recovered
  keeps : c'.lastTick = c.lastTick ∧ c'.config = c.config ∧ c'.session = c.session
  retry : c'.recoveryAt = retryAt
  cleared : ∀ (slotId : UInt8) slot, c'.slots[slotId.toNat]? = some slot → slot.camStatus = .none

theorem suspend_along (ha : c.Afresh) (retryAt : Option Instant) (result : Except Error Unit) :
    Along Step (do
        modify ({ · with
          linkSuspended := true, recoveryAt := retryAt, deferredLinkFailure := false })
        forEach (← get).slotIds fun slotId => do
          modifySlot slotId ({ · with ready := false, retryAt })
          setCamStatus slotId .none
          setSlotStatus slotId (if (← slotAt slotId).present then .failed else .absent)
        modify fun c => { c with nextStatusCheck := c.recoveryAt }
        match result with
        | .ok () => pure ()
        | .error e => do
            markResetFailed
            fail e)
      (fun _ => Parked c retryAt) (fun _ => Parked c retryAt) c := by
  refine along_bind (Q := fun _ c' => c' = { c with
      linkSuspended := true, recoveryAt := retryAt, deferredLinkFailure := false })
    (along_modify (.flags c.lastTick true retryAt c.nextStatusCheck false) rfl) fun _ c₀ _ hc₀ => ?_
  have ha : c₀.Afresh := hc₀ ▸ ha.flags c.lastTick true retryAt c.nextStatusCheck false
  have deferred : c₀.deferredLinkFailure = false := hc₀ ▸ rfl
  have suspended : c₀.linkSuspended = true := hc₀ ▸ rfl
  have hlast : c₀.lastTick = c.lastTick := hc₀ ▸ rfl
  have hconfig : c₀.config = c.config := hc₀ ▸ rfl
  have hsession : c₀.session = c.session := hc₀ ▸ rfl
  have hretry : c₀.recoveryAt = retryAt := hc₀ ▸ rfl
  refine along_get_bind (along_bind (along_mono (moves_along (failAll_along ha.sound ha.emptied
    retryAt)) (fun _ _ hq => hq) fun _ _ hf => hf.2.elim) fun _ c₁ _ hc₁ => ?_)
  obtain ⟨_, hr, hrested⟩ := hc₁
  have hr₁ : Resting c₀ { c₁ with nextStatusCheck := c₁.recoveryAt } :=
    ⟨⟨hr.sound.session, hr.sound.within, hr.sound.count, hr.sound.idle, hr.sound.receive,
      hr.sound.events⟩, ⟨hr.keeps.count, hr.keeps.config, hr.keeps.lastTick, hr.keeps.linkSuspended,
      hr.keeps.recoveryAt, hr.keeps.deferred⟩, hr.session, hr.pacer, hr.receive⟩
  have he₁ : ({ c₁ with nextStatusCheck := c₁.recoveryAt } : CiController).Emptied :=
    ha.emptied.resting hr₁
  refine along_bind (Q := fun _ c' => c' = { c₁ with nextStatusCheck := c₁.recoveryAt })
    (along_modify (.flags c₁.lastTick c₁.linkSuspended c₁.recoveryAt c₁.recoveryAt
      c₁.deferredLinkFailure) rfl) fun _ c₂ _ hc₂ => ?_
  subst hc₂
  split
  · refine along_pure ⟨ha.recovered suspended deferred hr₁ fun slotId slot known => ?_,
      ⟨hr.keeps.lastTick.trans hlast, hr.keeps.config.trans hconfig, hr.session.trans hsession⟩,
      hr.keeps.recoveryAt.trans hretry, fun slotId slot known => ?_⟩
    · exact ((hrested slotId).view slot known).1
    · exact ((hrested slotId).view slot known).2
  · next e =>
      refine along_bind (along_mono (moves_along (markResetFailed_along hr₁.sound he₁))
        (fun _ _ hq => hq) fun _ _ hf => hf.2.elim) fun _ c₃ _ hc₃ => ?_
      obtain ⟨_, hm, hfailed⟩ := hc₃
      have hr₃ := hr₁.trans hm.resting
      refine along_fail ⟨ha.recovered suspended deferred hr₃ fun slotId slot known => ?_,
        ⟨hr₃.keeps.lastTick.trans hlast, hr₃.keeps.config.trans hconfig, hr₃.session.trans hsession⟩,
        hr₃.keeps.recoveryAt.trans hretry, fun slotId slot known => ?_⟩
      · obtain ⟨old, hold, hpresent, _, hstatus⟩ := hm.views slotId slot known
        have hview := ((hrested slotId).view old hold).1
        split
        · next hpresent' => exact hfailed slotId slot known hpresent'
        · next hpresent' =>
            rcases hstatus with hsame | ⟨habsurd, _⟩
            · rw [hsame, hview, if_neg (hpresent ▸ hpresent')]
            · exact absurd habsurd hpresent'
      · obtain ⟨old, hold, _, hcam, _⟩ := hm.views slotId slot known
        rw [hcam]
        exact ((hrested slotId).view old hold).2

def retryAfter (c : CiController) : Except Error Unit → Option Instant
  | .ok _ => c.lastTick.map fun now => deadline now c.config.retryInterval
  | .error _ => none

structure Restarted (c c' : CiController) : Prop where
  recovered : c'.Recovered
  lastTick : c'.lastTick = c.lastTick
  config : c'.config = c.config
  cleared : ∀ (slotId : UInt8) slot, c'.slots[slotId.toNat]? = some slot → slot.camStatus = .none
  once : ∃ trace result, Silent c.session.transport.trace trace ∧
    c'.session.transport.trace = trace ++ [.reset result] ∧ c'.recoveryAt = c.retryAfter result

theorem recoverAll_along (h : c.Sound) (failedSlot : Option UInt8) (reason : CaSlotFailure)
    {now : Instant} (ticked : c.lastTick = some now) :
    Along Step (recoverAll failedSlot reason now) (fun _ => Restarted c) (fun _ => Restarted c) c := by
  unfold recoverAll
  refine along_bind (along_mono (moves_along (reportFailure_along h failedSlot reason))
    (fun _ _ hq => hq) fun _ _ hf => hf.2.elim) fun _ c₁ _ hc₁ => ?_
  obtain ⟨hpath₁, hsession₁⟩ := hc₁
  have h₁ := h.path hpath₁
  refine along_bind (along_mono (moves_along (dropAllSlots_along h₁)) (fun _ _ hq => hq)
    fun _ _ hf => hf.2.elim) fun _ c₂ _ hc₂ => ?_
  obtain ⟨hpath₂, he₂, hsilent₂⟩ := hc₂
  have h₂ := h₁.path hpath₂
  have hdisarmed : Move (fun _ => True) c₂ { c₂ with pacer := c₂.pacer.resetGate } := .disarmed
  refine along_bind (Q := fun _ c' => c' = { c₂ with pacer := c₂.pacer.resetGate })
    (along_modify (.work (.move hdisarmed)) rfl) fun _ c₃ _ hc₃ => ?_
  subst hc₃
  have h₃ := h₂.move hdisarmed
  have he₃ : ({ c₂ with pacer := c₂.pacer.resetGate } : CiController).Emptied :=
    ⟨fun slotId => ⟨(he₂.vacant slotId).sessions, (he₂.vacant slotId).idle⟩, he₂.receive,
      he₂.collected⟩
  refine along_bind (along_mono (ioReset_along he₃) (fun _ _ hq => hq) fun _ _ hf => hf.elim)
    fun result c₄ _ hc₄ => ?_
  obtain ⟨link, rfl⟩ := hc₄
  refine along_get_bind ?_
  dsimp only
  have hkeeps := Keeps.path (hpath₁.trans hpath₂)
  have hconfig : c₂.config = c.config := hkeeps.config
  rw [hsession₁] at hsilent₂
  have hretry (result : Except Error Unit) : (match result with
      | .ok () => some (deadline now c₂.config.retryInterval)
      | .error _ => none) = c.retryAfter result := by
    rw [hconfig]
    cases result with
    | ok _ =>
        rw [retryAfter, ticked]
        rfl
    | error _ => rfl
  have hrestarted {retryAt : Option Instant} {c' : CiController}
      (hparked : Parked ((linkLens.set link { c₂ with pacer := c₂.pacer.resetGate }).noted (.reset result))
        retryAt c') (hretry : retryAt = c.retryAfter result) : Restarted c c' := by
    obtain ⟨hlast', hconfig', hsession'⟩ := hparked.keeps
    refine ⟨hparked.recovered, hlast'.trans hkeeps.lastTick, hconfig'.trans hconfig, hparked.cleared, _,
      result, hsilent₂, ?_, hparked.retry.trans hretry⟩
    rw [hsession']
    rfl
  refine along_mono (suspend_along (afresh_reset h₃ he₃ rfl link result) _ result)
    (fun _ c' hc' => hrestarted hc' (hretry result)) fun _ c' hc' => hrestarted hc' (hretry result)

structure ResetFailed (c c' : CiController) : Prop where
  recovered : c'.Recovered
  lastTick : c'.lastTick = c.lastTick
  cams : ∃ c₁ e, ReflTransGen (Move fun _ => True) c c₁ ∧ c₁.Emptied ∧
    Silent c.session.transport.trace c₁.session.transport.trace ∧
    c'.session.transport.trace = c₁.session.transport.trace ++ [.reset (.error e)] ∧
      ∀ (slotId : UInt8) slot', c'.slots[slotId.toNat]? = some slot' →
        ∃ slot, c₁.slots[slotId.toNat]? = some slot ∧ slot'.camStatus = slot.camStatus
  absent : c.AllAbsent → c'.AllAbsent
  retry : c'.recoveryAt = none
  config : c'.config = c.config

structure ResetDone (c c' : CiController) : Prop where
  calm : c'.Calm
  lastTick : c'.lastTick = c.lastTick
  resumed : c'.linkSuspended = false
  deferred : c'.deferredLinkFailure = false
  cleared : ∀ (slotId : UInt8) slot, c'.slots[slotId.toNat]? = some slot → slot.camStatus = .none
  absent : c.AllAbsent → c'.AllAbsent
  vacant : ∀ slotId, c'.NoSession slotId
  once : ∃ trace, Silent c.session.transport.trace trace ∧
    c'.session.transport.trace = trace ++ [.reset (.ok ())]
  retry : c'.recoveryAt = none
  config : c'.config = c.config

theorem reset_along (h : c.Calm) :
    Along Step reset (fun _ => ResetDone c) (fun _ => ResetFailed c) c := by
  unfold reset
  refine along_bind (along_mono (moves_along (collect_along (V := fun _ => True) h.sound
    fun _ _ => trivial))
    (fun _ _ hq => hq) fun _ _ hf => hf.2.elim) fun _ c₁ _ hc₁ => ?_
  obtain ⟨hpath₁, hsteady₁, _⟩ := hc₁
  have h₁ := h.sound.path hpath₁
  refine along_bind (along_mono (moves_along (dropAllSlots_along h₁)) (fun _ _ hq => hq)
    fun _ _ hf => hf.2.elim) fun _ c₂ _ hc₂ => ?_
  obtain ⟨hpath₂, he₂, hp₂⟩ := hc₂
  have hpath := hpath₁.trans hpath₂
  have hsilent₂ : Silent c.session.transport.trace c₂.session.transport.trace := hsteady₁.silent.trans hp₂
  have hdisarmed : Move (fun _ => True) c₂ { c₂ with pacer := c₂.pacer.resetGate } := .disarmed
  have h₃ := (h.sound.path hpath).move hdisarmed
  have he₃ : ({ c₂ with pacer := c₂.pacer.resetGate } : CiController).Emptied :=
    ⟨fun slotId => ⟨(he₂.vacant slotId).sessions, (he₂.vacant slotId).idle⟩, he₂.receive,
      he₂.collected⟩
  refine along_bind (Q := fun _ c' => c' =
    { c₂ with pacer := c₂.pacer.resetGate, deferredLinkFailure := false }) ?_ fun _ c₃ _ hc₃ => ?_
  · refine ⟨.tail (.single (.work (.move hdisarmed))) ?_, rfl⟩
    exact .flags (c := { c₂ with pacer := c₂.pacer.resetGate }) c₂.lastTick c₂.linkSuspended
      c₂.recoveryAt c₂.nextStatusCheck false
  have h₃' : c₃.Sound := hc₃ ▸ h₃.step (.flags c₂.lastTick c₂.linkSuspended c₂.recoveryAt
    c₂.nextStatusCheck false)
  have he₃' : c₃.Emptied := hc₃ ▸ ⟨fun slotId => ⟨(he₃.vacant slotId).sessions,
    (he₃.vacant slotId).idle⟩, he₃.receive, he₃.collected⟩
  have hlast : c₃.lastTick = c.lastTick := hc₃ ▸ (Keeps.path hpath).lastTick
  have hconfig : c₃.config = c.config := hc₃ ▸ (Keeps.path hpath).config
  have hslots : c₃.slots = c₂.slots := hc₃ ▸ rfl
  have htrace : c₃.session.transport.trace = c₂.session.transport.trace := hc₃ ▸ rfl
  have hgate : c₃.pacer.gate = .notReady := hc₃ ▸ rfl
  have hdeferred : c₃.deferredLinkFailure = false := hc₃ ▸ rfl
  refine along_bind (along_mono (ioReset_along he₃') (fun _ _ hq => hq) fun _ _ hf => hf.elim)
    fun result c₄ _ hc₄ => ?_
  obtain ⟨link, rfl⟩ := hc₄
  have ha := afresh_reset h₃' he₃' hgate link result
  have hpresent₃ (slotId : UInt8) : c₃.PresentAt slotId := by
    rw [PresentAt, hslots]
    exact (h.present slotId).path hpath
  have habsent₃ (habsent : c.AllAbsent) : c₃.AllAbsent := by
    rw [AllAbsent, hslots]
    exact habsent.path h.present hpath
  cases result with
  | ok _ =>
      refine along_get_bind (along_bind (along_mono (moves_along (restoreAll_along ha.sound ha.emptied))
        (fun _ _ hq => hq) fun _ _ hf => hf.2.elim) fun _ c₅ _ hc₅ => ?_)
      obtain ⟨hpath₅, hr, hrested⟩ := hc₅
      refine along_modify (.flags c₅.lastTick false none none false)
        ⟨⟨hr.sound.step (.flags c₅.lastTick false none none false), ?_, ?_, fun slotId slot known => ?_⟩,
          hr.keeps.lastTick.trans hlast, rfl, rfl, fun slotId slot known => ?_, fun habsent => ?_,
          fun slotId => ((ha.emptied.resting hr).vacant slotId).sessions, ⟨c₂.session.transport.trace, hsilent₂, ?_⟩,
          rfl, hr.keeps.config.trans hconfig⟩
      · rw [hr.session]
        exact ha.whole
      · exact (ha.emptied.resting hr).collected
      · rw [((hrested slotId).view slot known).1]
        cases slot.present <;> decide
      · exact ((hrested slotId).view slot known).2
      · have habsent₅ : c₅.AllAbsent :=
          AllAbsent.path (c := (linkLens.set link c₃).noted _) (habsent₃ habsent) hpresent₃ hpath₅
        exact habsent₅
      · show c₅.session.transport.trace = _
        rw [hr.session, ← htrace]
        rfl
  | error e =>
      refine along_bind (Q := fun _ c' => c' = { (linkLens.set link c₃).noted (.reset (.error e)) with
          linkSuspended := true, recoveryAt := none })
        (along_modify (.flags c₃.lastTick true none c₃.nextStatusCheck c₃.deferredLinkFailure) rfl)
          fun _ c₅ _ hc₅ => ?_
      have ha₅ : c₅.Afresh :=
        hc₅ ▸ ha.flags c₃.lastTick true none c₃.nextStatusCheck c₃.deferredLinkFailure
      have hlast₅ : c₅.lastTick = c.lastTick := hc₅ ▸ hlast
      have hslots₅ : c₅.slots = c₂.slots := hc₅ ▸ hslots
      have htrace₅ : c₅.session.transport.trace = c₂.session.transport.trace ++ [.reset (.error e)] := by
        rw [hc₅, ← htrace]
        rfl
      refine along_bind (along_mono (moves_along (markResetFailed_along ha₅.sound ha₅.emptied))
        (fun _ _ hq => hq) fun _ _ hf => hf.2.elim) fun _ c₆ _ hc₆ => ?_
      obtain ⟨hpath₆, hm, hfailed⟩ := hc₆
      refine along_fail ⟨ha₅.recovered (hc₅ ▸ rfl) (hc₅ ▸ hdeferred) hm.resting
        fun slotId slot known => ?_, hm.resting.keeps.lastTick.trans hlast₅, ⟨c₂, e, hpath, he₂, hsilent₂, ?_,
          fun slotId slot known => ?_⟩, fun habsent => ?_, hm.resting.keeps.recoveryAt.trans (hc₅ ▸ rfl),
          hm.resting.keeps.config.trans (hc₅ ▸ hconfig)⟩
      · obtain ⟨old, hold, hpresent, _, hstatus⟩ := hm.views slotId slot known
        rw [hslots₅] at hold
        split
        · next hpresent' => exact hfailed slotId slot known hpresent'
        · next hpresent' =>
            rcases hstatus with hsame | ⟨habsurd, _⟩
            · rw [hsame]
              refine (((h.present slotId).path hpath) old hold).mp ?_
              rw [← hpresent]
              exact Bool.not_eq_true _ ▸ hpresent'
            · exact absurd habsurd hpresent'
      · rw [hm.resting.session]
        exact htrace₅
      · obtain ⟨old, hold, _, hcam, _⟩ := hm.views slotId slot known
        rw [hslots₅] at hold
        exact ⟨old, hold, hcam⟩
      · have hslots₅' : c₅.slots = c₃.slots := hslots₅.trans hslots.symm
        refine AllAbsent.path (c := c₅) ?_ (fun slotId => ?_) hpath₆
        · rw [AllAbsent, hslots₅']
          exact habsent₃ habsent
        · rw [PresentAt, hslots₅']
          exact hpresent₃ slotId

end Recover

theorem dropTo_along (h : c.Sound) (hp : pending c.session.transport.trace = false)
    (hcollected : c.session.events = []) (hV : ∀ other, V other)
    (known : c.slots[slotId.toNat]? = some slot) (failure : Option CaSlotFailure) {new : CaSlotStatus}
    (rest : new ≠ .active ∧ new ≠ .creatingTc) (present : slot.present = false ↔ new = .absent) :
    Along (Move V) (dropTo slotId failure new) (fun _ c' => pending c'.session.transport.trace = false ∧
      c'.session.events = [] ∧ c'.PresentAt slotId) (fun _ _ => False) c := by
  refine along_bind (dropSlot_along h (hV slotId) (slotId_lt known)) fun _ c₁ hpath₁ hc₁ => ?_
  obtain ⟨s, rfl, hdropped⟩ := hc₁
  have h₁ := h.path hpath₁
  refine along_bind (along_mono (collect_along h₁ ((noticed_nil hcollected).path hpath₁))
    (fun _ _ hq => hq) fun _ _ hf => hf.elim) fun _ c₂ hpath₂ hc₂ => ?_
  obtain ⟨hsteady, hevents⟩ := hc₂
  have h₂ := h₁.path hpath₂
  have hvacant : c₂.Vacant slotId := hsteady.vacant (vacant_dropped hdropped)
  have hp₂ : pending c₂.session.transport.trace = false := by
    rw [hsteady.whole]
    exact (silent_dropped hdropped).pending.trans hp
  obtain ⟨slot₂, known₂, hpresent₂, _⟩ := getElem?_steady hsteady (Keeps.path hpath₂).count known
  refine along_bind (along_mono (clearSlotTimers_along known₂) (fun _ _ hq => hq) fun _ _ hf =>
    hf.elim) fun _ c₃ hpath₃ hc₃ => ?_
  subst hc₃
  have hclose {c₄ : CiController} (h₄ : c₄.Sound) (hsession : c₄.session = c₂.session)
      (known₄ : c₄.slots[slotId.toNat]? = some (untimed slot₂)) :
      Along (Move V) (do setCamStatus slotId .none; setSlotStatus slotId new)
        (fun _ c' => pending c'.session.transport.trace = false ∧ c'.session.events = [] ∧
          c'.PresentAt slotId) (fun _ _ => False) c₄ := by
    have hvacant₄ : c₄.Vacant slotId := by
      refine ⟨?_, ?_⟩
      · rw [NoSession, hsession]
        exact hvacant.sessions
      · rw [IdleAt, hsession]
        exact hvacant.idle
    refine along_mono (close_along h₄ known₄ hV rest ?_ hvacant₄ rfl ?_) (fun _ c' hc' => ?_)
      fun _ _ hf => hf
    · rw [← present, ← hpresent₂]
      rfl
    · rw [hsession]
      exact hevents
    · rw [hc'.1, hsession]
      exact ⟨hp₂, hevents, hc'.2⟩
  have h₃ := h₂.path hpath₃
  have known₃ := known_edit known₂ untimed
  dsimp only
  split
  · next reason =>
      have hfailed : Move V (c₂.edit slotId untimed)
          ((c₂.edit slotId untimed).emit [.slotFailed slotId reason]) := .failed reason hV
      exact along_bind (Q := fun _ c' => c' = (c₂.edit slotId untimed).emit [.slotFailed slotId reason])
        (along_modify hfailed rfl) fun _ c₄ hpath₄ hc₄ => hclose (h₃.path hpath₄) (hc₄ ▸ rfl) (hc₄ ▸ known₃)
  · exact hclose h₃ rfl known₃

end LibDvb.CiController
