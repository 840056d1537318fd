import LibDvb.Ca.Controller.History

namespace LibDvb

open Relation

section Records

variable {K R : Type} {P : R → Prop} {f g : K → Option R}

theorem exists_record_congr (k : K) (hother : ∀ j, j ≠ k → g j = f j)
    (hf : ∀ r, f k = some r → ¬ P r) (hg : ∀ r, g k = some r → ¬ P r) :
    (∃ j r, g j = some r ∧ P r) ↔ ∃ j r, f j = some r ∧ P r := by
  constructor
  · rintro ⟨j, r, hj, hr⟩
    have hne : j ≠ k := by
      rintro rfl
      exact hg r hj hr
    exact ⟨j, r, (hother j hne).symm.trans hj, hr⟩
  · rintro ⟨j, r, hj, hr⟩
    have hne : j ≠ k := by
      rintro rfl
      exact hf r hj hr
    exact ⟨j, r, (hother j hne).trans hj, hr⟩

end Records

namespace CiSession

variable {A V : UInt8 → Prop} {s s' : CiSession} {slotId : UInt8} {change : CaPmtChange}

structure Told (s s' : CiSession) (slotId : UInt8) : Prop where
  informed : s'.Informed slotId ↔ s.Informed slotId
  confirmed : s'.Confirmed slotId ↔ s.Confirmed slotId

theorem told_opened (h : s.Consistent) {other : UInt8} {kind : ResourceKind} {t : CiTransport} :
    Told s (s.opened other kind t) slotId := by
  have hfresh := fresh_record h
  cases kind with
  | applicationInfo =>
      refine ⟨exists_record_congr (sessionIdOf s.freshIndex) ?_ ?_ ?_, Iff.rfl⟩
      · intro j hne
        exact KeyMap.get_insert_of_ne hne.symm _
      · intro record hrecord
        have := hfresh .applicationInfo
        rw [ResourceRegistry.recordSlot, hrecord] at this
        cases this
      · intro record hrecord
        simp only [opened, ResourceRegistry.opened, KeyMap.get_insert_self, Option.some.injEq] at hrecord
        rw [← hrecord]
        rintro ⟨_, hinfo⟩
        cases hinfo
  | conditionalAccess =>
      refine ⟨Iff.rfl, exists_record_congr (sessionIdOf s.freshIndex) ?_ ?_ ?_⟩
      · intro j hne
        exact KeyMap.get_insert_of_ne hne.symm _
      · intro record hrecord
        have := hfresh .conditionalAccess
        rw [ResourceRegistry.recordSlot, hrecord] at this
        cases this
      · intro record hrecord
        simp only [opened, ResourceRegistry.opened, KeyMap.get_insert_self, Option.some.injEq] at hrecord
        rw [← hrecord]
        rintro ⟨_, hcaids⟩
        cases hcaids
  | _ => exact ⟨Iff.rfl, Iff.rfl⟩

theorem told_closed (h : s.Consistent) {index : Nat} {session : Session}
    (live : s.entry index = some session) :
    Told s (s.freed index session) slotId ∨
      (CaEvent.sessionClosed session.slotId (sessionIdOf index) session.resourceId).Renews slotId := by
  obtain ⟨kind, hlookup, hkind⟩ := lookup_live h live
  have hresources : (s.freed index session).resources = s.resources.onClose (sessionIdOf index) kind := by
    simp only [freed, hlookup]
  by_cases hslot : session.slotId = slotId
  · cases kind with
    | applicationInfo => exact .inr ⟨hslot, .inl (congrArg ResourceId.base hkind)⟩
    | conditionalAccess => exact .inr ⟨hslot, .inr (congrArg ResourceId.base hkind)⟩
    | _ =>
        left
        constructor
        · rw [Informed, hresources]
          exact Iff.rfl
        · rw [Confirmed, hresources]
          exact Iff.rfl
  · left
    cases kind with
    | applicationInfo =>
        constructor
        · rw [Informed, hresources]
          refine exists_record_congr (sessionIdOf index) ?_ ?_ ?_
          · intro j hne
            simp only [ResourceRegistry.onClose, ApplicationInfoResource.onClose, KeyMap.get_erase]
            exact if_neg hne.symm
          · rintro record hrecord ⟨hother, _⟩
            have hkept : s.resources.recordSlot (sessionIdOf index) .applicationInfo = some record.slotId := by
              rw [ResourceRegistry.recordSlot, hrecord, Option.map_some]
            exact hslot ((h.record_slot live hkept).1.symm.trans hother)
          · intro record hrecord
            simp [ResourceRegistry.onClose, ApplicationInfoResource.onClose] at hrecord
        · rw [Confirmed, hresources]
          exact Iff.rfl
    | conditionalAccess =>
        constructor
        · rw [Informed, hresources]
          exact Iff.rfl
        · rw [Confirmed, hresources]
          refine exists_record_congr (sessionIdOf index) ?_ ?_ ?_
          · intro j hne
            simp only [ResourceRegistry.onClose, ConditionalAccessResource.onClose, KeyMap.get_erase]
            exact if_neg hne.symm
          · rintro record hrecord ⟨hother, _⟩
            have hkept : s.resources.recordSlot (sessionIdOf index) .conditionalAccess = some record.slotId := by
              rw [ResourceRegistry.recordSlot, hrecord, Option.map_some]
            exact hslot ((h.record_slot live hkept).1.symm.trans hother)
          · intro record hrecord
            simp [ResourceRegistry.onClose, ConditionalAccessResource.onClose] at hrecord
    | _ =>
        constructor
        · rw [Informed, hresources]
          exact Iff.rfl
        · rw [Confirmed, hresources]
          exact Iff.rfl

theorem Move.events_initial (hm : Move A V s s') : s.events <+: s'.events := by
  cases hm with
  | event plain slot => exact List.prefix_append _ _
  | opened slot notice bound count path whole => exact List.prefix_append _ _
  | closed live slot => exact List.prefix_append _ _
  | appInfo info known slot => exact List.prefix_append _ _
  | caInfo known slot notice path whole => exact List.prefix_append _ _
  | _ => exact List.prefix_rfl

theorem Move.told (h : s.Consistent) (hfits : s.Fits) (hm : Move A V s s') (slotId : UInt8) :
    Told s s' slotId ∨ (∃ e ∈ s'.events, e.Renews slotId) ∨ pending s'.transport.trace = true ∨
      masked s'.transport.trace = true := by
  cases hm with
  | opened slot notice bound count path whole => exact .inl (told_opened h)
  | closed live slot =>
      rcases told_closed h live with htold | hrenews
      · exact .inl htold
      · exact .inr (.inl ⟨_, List.mem_append_right _ (List.mem_singleton_self _), hrenews⟩)
  | @appInfo sessionId session info known slot =>
      by_cases hslot : session.slotId = slotId
      · exact .inr (.inl ⟨_, List.mem_append_right _ (List.mem_singleton_self _), hslot⟩)
      · left
        refine ⟨exists_record_congr sessionId ?_ ?_ ?_, Iff.rfl⟩
        · intro j hne
          exact KeyMap.get_insert_of_ne hne.symm _
        · rintro record hrecord ⟨hother, _⟩
          rw [known, Option.some.injEq] at hrecord
          exact hslot (hrecord ▸ hother)
        · rintro record hrecord ⟨hother, _⟩
          simp only [ResourceRegistry.informed, KeyMap.get_insert_self, Option.some.injEq] at hrecord
          rw [← hrecord] at hother
          exact hslot hother
  | @caInfo sessionId session caids t known slot notice path whole =>
      by_cases hslot : session.slotId = slotId
      · exact .inr (.inl ⟨_, List.mem_append_right _ (List.mem_singleton_self _), hslot⟩)
      · left
        refine ⟨Iff.rfl, exists_record_congr sessionId ?_ ?_ ?_⟩
        · intro j hne
          exact KeyMap.get_insert_of_ne hne.symm _
        · rintro record hrecord ⟨hother, _⟩
          rw [known, Option.some.injEq] at hrecord
          exact hslot (hrecord ▸ hother)
        · rintro record hrecord ⟨hother, _⟩
          simp only [ResourceRegistry.putCa, KeyMap.get_insert_self, Option.some.injEq] at hrecord
          rw [← hrecord] at hother
          exact hslot hother
  | caInfoFailed known slot path broken =>
      rcases broken with hpending | hmasked | hunfit
      · exact .inr (.inr (.inl hpending))
      · exact .inr (.inr (.inr hmasked))
      · exact absurd hfits hunfit
  | _ => exact .inl ⟨Iff.rfl, Iff.rfl⟩

theorem Programmed.told (hp : Programmed s change s') (slotId : UInt8) : Told s s' slotId := by
  have hcaids {sessions : KeyMap ConditionalAccessSession}
      {select : UInt16 → ConditionalAccessSession → KeyMap Program}
      (records : ∀ sessionId : UInt16, sessions[sessionId]? =
        s.resources.conditionalAccess.sessions[sessionId]?.map fun session =>
          { session with selected := select sessionId session }) :
      (∃ (sessionId : UInt16) (session : _), sessions[sessionId]? = some session ∧
        session.slotId = slotId ∧ session.caids.isSome) ↔ s.Confirmed slotId := by
    constructor
    · rintro ⟨sessionId, session, known, hslot, hsome⟩
      rw [records, Option.map_eq_some_iff] at known
      obtain ⟨old, hold, rfl⟩ := known
      exact ⟨sessionId, old, hold, hslot, hsome⟩
    · rintro ⟨sessionId, session, known, hslot, hsome⟩
      refine ⟨sessionId, { session with selected := select sessionId session }, ?_, hslot, hsome⟩
      rw [records, known, Option.map_some]
  cases hp with
  | idle same => exact ⟨Iff.rfl, Iff.rfl⟩
  | done records path acts whole => exact ⟨Iff.rfl, hcaids records⟩
  | failed records path broken => exact ⟨Iff.rfl, hcaids records⟩

end CiSession

namespace CiController

variable {V : UInt8 → Prop} {c c' : CiController} {slotId other : UInt8} {slot : ControllerSlot}

-- The CAM status of the slot is what its sessions tell, or an event waits after which it is computed.
def Current (c : CiController) (slotId : UInt8) : Prop :=
  c.Fresh slotId ∨ ∃ e ∈ c.session.events, e.Renews slotId

-- A failed write stopped a callback before its event was queued.
def Excused (c : CiController) : Prop := pending c.trace = true ∨ masked c.trace = true

theorem Excused.grows (h : c.Excused) (hgrows : Grows Obs.Unsettled c.trace c'.trace) : c'.Excused := by
  rcases h with hpending | hmasked
  · exact .inl (grows_settles hgrows hpending)
  · exact .inr (masked_initial hgrows.initial hmasked)

theorem Fresh.congr (h : c.Fresh slotId) (hslots : ∀ slot', c'.slots[slotId.toNat]? = some slot' →
      ∃ slot, c.slots[slotId.toNat]? = some slot ∧ slot'.camStatus = slot.camStatus)
    (hcam : c'.camOf slotId = c.camOf slotId) : c'.Fresh slotId := by
  intro slot' known'
  obtain ⟨slot, known, hsame⟩ := hslots slot' known'
  rw [hsame, hcam]
  exact h slot known

theorem camOf_told (h : c.Sound) (h' : c'.Sound) (live : c'.Live slotId ↔ c.Live slotId)
    (told : CiSession.Told c.session c'.session slotId) : c'.camOf slotId = c.camOf slotId :=
  camOf_congr h.session h'.session live told.informed told.confirmed

theorem camOf_same (h : c.Sound) (h' : c'.Sound) (live : c'.Live slotId ↔ c.Live slotId)
    (resources : c'.session.resources = c.session.resources) : c'.camOf slotId = c.camOf slotId := by
  refine camOf_told h h' live ⟨?_, ?_⟩
  · rw [CiSession.Informed, resources]
    exact Iff.rfl
  · rw [CiSession.Confirmed, resources]
    exact Iff.rfl

theorem edit_view {f : ControllerSlot → ControllerSlot}
    (hf : other ≠ slotId ∨ ∀ slot, (f slot).camStatus = slot.camStatus) {slot' : ControllerSlot}
    (known : (c.edit slotId f).slots[other.toNat]? = some slot') :
    ∃ slot, c.slots[other.toNat]? = some slot ∧ slot'.camStatus = slot.camStatus := by
  rw [getElem?_edit] at known
  split at known
  · next heq =>
      rw [Option.map_eq_some_iff] at known
      obtain ⟨slot, hslot, rfl⟩ := known
      rcases hf with hne | hf
      · exact absurd heq.symm hne
      · exact ⟨slot, hslot, hf slot⟩
  · exact ⟨slot', known, rfl⟩

theorem not_renews (h : c.Sound) (hlive : ¬ c.Live slotId) {e : CaEvent} (hmem : e ∈ c.session.events) :
    ¬ e.Renews slotId := by
  intro hrenews
  exact hlive ((h.events e hmem).2 slotId hrenews)

theorem renews_rest {event : CaEvent} {rest : List CaEvent} (queued : c.session.events = event :: rest)
    (hevent : ¬ event.Renews slotId) (h : ∃ e ∈ c.session.events, e.Renews slotId) :
    ∃ e ∈ rest, e.Renews slotId := by
  obtain ⟨e, hmem, hrenews⟩ := h
  rw [queued, List.mem_cons] at hmem
  rcases hmem with rfl | hmem
  · exact absurd hrenews hevent
  · exact ⟨e, hmem, hrenews⟩

theorem Current.kept (h : c.Sound) (h' : c'.Sound) (hcurrent : c.Current slotId)
    (hslots : ∀ slot', c'.slots[slotId.toNat]? = some slot' →
      ∃ slot, c.slots[slotId.toNat]? = some slot ∧ slot'.camStatus = slot.camStatus)
    (live : c'.Live slotId ↔ c.Live slotId) (resources : c'.session.resources = c.session.resources)
    (events : (∃ e ∈ c.session.events, e.Renews slotId) → ∃ e ∈ c'.session.events, e.Renews slotId) :
    c'.Current slotId := by
  rcases hcurrent with hfresh | hrenews
  · exact .inl (hfresh.congr hslots (camOf_same h h' live resources))
  · exact .inr (events hrenews)

theorem fresh_vacant (h : c.Sound) (hs : c.NoSession slotId)
    (hnone : ∀ slot, c.slots[slotId.toNat]? = some slot → slot.camStatus = .none) : c.Fresh slotId := by
  intro slot known
  rw [hnone slot known, camOf_vacant h.session hs]

theorem Current.none (h : c.Sound) (hs : c.NoSession slotId) (hevents : ∀ e ∈ c.session.events, ¬ e.Renews slotId)
    (hcurrent : c.Current slotId) (known : c.slots[slotId.toNat]? = some slot) : slot.camStatus = .none := by
  rcases hcurrent with hfresh | ⟨e, hmem, hrenews⟩
  · rw [hfresh slot known, camOf_vacant h.session hs]
  · exact absurd hrenews (hevents e hmem)

theorem kept_turn (h : c.Sound) (h' : c'.Sound) {old new : CaSlotStatus} (hne : other ≠ slotId)
    (hsame : c' = c.turn slotId old new) (hcurrent : c.Current other) : c'.Current other := by
  subst hsame
  refine hcurrent.kept h h' (fun slot' known => edit_view (.inl hne) known) (live_turn hne.symm) rfl id

theorem Current.move (h : c.Sound) (hsized : c.Sized) (hm : Move V c c') (hcurrent : c.Current slotId) :
    c'.Current slotId ∨ c'.Excused := by
  have h' := h.move hm
  have hview {f : ControllerSlot → ControllerSlot} (hf : ∀ slot, (f slot).camStatus = slot.camStatus) :
      ∀ {other : UInt8} (slot' : ControllerSlot), (c.edit other f).slots[slotId.toNat]? = some slot' →
        ∃ slot, c.slots[slotId.toNat]? = some slot ∧ slot'.camStatus = slot.camStatus :=
    fun _ known => edit_view (.inr hf) known
  have hidle : ∀ slot', c.slots[slotId.toNat]? = some slot' →
      ∃ slot, c.slots[slotId.toNat]? = some slot ∧ slot'.camStatus = slot.camStatus :=
    fun slot' known => ⟨slot', known, rfl⟩
  cases hm with
  | @session s move =>
      rcases move.told h.session hsized.session slotId with htold | hrenews | hpending | hmasked
      · left
        rcases hcurrent with hfresh | ⟨e, hmem, hrenews⟩
        · exact .inl (hfresh.congr hidle (camOf_told h h' Iff.rfl htold))
        · exact .inr ⟨e, move.events_initial.subset hmem, hrenews⟩
      · exact .inl (.inr hrenews)
      · exact .inr (.inl hpending)
      · exact .inr (.inr hmasked)
  | @created other slot t known status notice path whole =>
      left
      refine hcurrent.kept h h' (fun slot' known' => edit_view (f := fun slot => { slot with
        status := .creatingTc }) (.inr fun _ => rfl) known') ?_ rfl id
      by_cases hslot : other = slotId
      · subst hslot
        rw [live_of_status known, status]
        have known' : ((c.withTransport t).turn other .present .creatingTc).slots[other.toNat]? =
          some { slot with status := .creatingTc } := known_edit known _
        rw [live_of_status known']
        exact iff_of_false nofun nofun
      · exact live_turn hslot
  | createFailed known status path broken => exact .inr (.inl broken)
  | @activated other slot rest queued known status notice =>
      left
      have hready : ¬ CaEvent.Renews slotId (.transportReady other) := id
      by_cases hslot : other = slotId
      · subst hslot
        have hlive : ¬ c.Live other := by
          rw [live_of_status known, status]
          decide
        have hvacant : c.NoSession other := noSession_of_status h known (by rw [status]; decide)
        have hnone := hcurrent.none h hvacant (fun e hmem => not_renews h hlive hmem) known
        left
        refine fresh_vacant h' hvacant ?_
        intro slot' known'
        have hedit : (c.edit other ({ · with status := .active })).slots[other.toNat]? = some slot' := known'
        rw [known_edit known, Option.some.injEq] at hedit
        rw [← hedit]
        exact hnone
      · refine hcurrent.kept h h' (fun slot' known' => edit_view (f := fun slot => { slot with
          status := .active }) (.inr fun _ => rfl) known') ?_ rfl (renews_rest queued hready)
        exact @live_turn ((c.popped rest).noted (.activated other)) other .creatingTc .active slotId hslot
  | @passed event rest queued ready fresh notice =>
      left
      by_cases hrenews : event.Renews slotId
      · exact .inl ((fresh slotId hrenews).congr hidle (camOf_same h h' Iff.rfl rfl))
      · exact hcurrent.kept h h' hidle Iff.rfl rfl (renews_rest queued hrenews)
  | refused context queued notice =>
      exact .inl (hcurrent.kept h h' hidle Iff.rfl rfl (renews_rest queued id))
  | @renewed other slot known notice =>
      left
      by_cases hslot : other = slotId
      · subst hslot
        exact .inl (fresh_renew slot.camStatus)
      · exact hcurrent.kept h h' (fun slot' known' => edit_view (.inl (Ne.symm hslot)) known')
          (live_edit_of_status fun _ => rfl) rfl id
  | @turned other slot new known change notice rest present sessions idle receive collected =>
      left
      by_cases hslot : other = slotId
      · subst hslot
        have hnone : slot.camStatus = .none := by
          refine hcurrent.none h sessions (fun e hmem => ?_) known
          by_cases hactive : slot.status = .active
          · rw [collected hactive] at hmem
            cases hmem
          · refine not_renews h ?_ hmem
            rw [live_of_status known]
            exact hactive
        left
        refine fresh_vacant h' sessions ?_
        intro slot' known'
        have hedit : (c.edit other ({ · with status := new })).slots[other.toNat]? = some slot' := known'
        rw [known_edit known, Option.some.injEq] at hedit
        rw [← hedit]
        exact hnone
      · exact kept_turn h h' (Ne.symm hslot) rfl hcurrent
  | kept f status camStatus present receive =>
      exact .inl (hcurrent.kept h h' (hview camStatus) (live_edit_of_status status) rfl id)
  | @programmed now change s due programmed =>
      left
      rcases hcurrent with hfresh | ⟨e, hmem, hrenews⟩
      · exact .inl (hfresh.congr hidle (camOf_told h h' Iff.rfl (programmed.told slotId)))
      · obtain ⟨_, _, _, _, _, hevents, _⟩ := programmed.path
        exact .inr ⟨e, hevents.symm ▸ hmem, hrenews⟩
  | _ => exact .inl (hcurrent.kept h h' hidle Iff.rfl rfl id)

structure Tracks (c : CiController) : Prop where
  sound : c.Sound
  sized : c.Sized
  current : c.Excused ∨ ∀ slotId, c.Current slotId

theorem Tracks.move (h : c.Tracks) (hm : Move V c c') : c'.Tracks := by
  refine ⟨h.sound.move hm, h.sized.move hm, ?_⟩
  rcases h.current with hexcused | hcurrent
  · exact .inl (hexcused.grows (hm.grows h.sound))
  · by_cases hexcused : c'.Excused
    · exact .inl hexcused
    · right
      intro slotId
      exact ((hcurrent slotId).move h.sound h.sized hm).resolve_right hexcused

theorem Tracks.work (h : c.Tracks) (hw : Work V c c') : c'.Tracks := by
  cases hw with
  | move move => exact h.move move
  | info slotId present ready =>
      have h' := h.sound.work (.info (V := V) slotId present ready)
      refine ⟨h', ⟨h.sized.session, h.sized.queue⟩, ?_⟩
      rcases h.current with hexcused | hcurrent
      · exact .inl hexcused
      · right
        intro other
        exact (hcurrent other).kept h.sound h' (fun slot' known => edit_view (f := fun slot => { slot with
          present, ready }) (.inr fun _ => rfl) known) (live_edit_of_status fun _ => rfl) rfl id

theorem Tracks.works (h : c.Tracks) (hpath : Works c c') : c'.Tracks :=
  LibDvb.Path.invariant hpath h fun _ _ => Tracks.work

theorem Tracks.moves (h : c.Tracks) (hpath : ReflTransGen (Move V) c c') : c'.Tracks :=
  LibDvb.Path.invariant hpath h fun _ _ => Tracks.move

structure Exact (c : CiController) : Prop where
  settled : c.Settled
  sized : c.Sized
  fresh : masked c.trace = true ∨ ∀ slotId, c.Fresh slotId

theorem Exact.tracks (h : c.Exact) : c.Tracks := by
  refine ⟨h.settled.calm.sound, h.sized, ?_⟩
  rcases h.fresh with hmasked | hfresh
  · exact .inl (.inr hmasked)
  · exact .inr fun slotId => .inl (hfresh slotId)

theorem Tracks.fresh (h : c.Tracks) (hc : c.Calm) : masked c.trace = true ∨ ∀ slotId, c.Fresh slotId := by
  rcases h.current with hexcused | hcurrent
  · rcases hexcused with hpending | hmasked
    · rw [trace, hc.whole] at hpending
      cases hpending
    · exact .inl hmasked
  · right
    intro slotId
    rcases hcurrent slotId with hfresh | ⟨e, hmem, _⟩
    · exact hfresh
    · rw [hc.collected] at hmem
      cases hmem

theorem fresh_cleared (hlive : ∀ slotId, c.camOf slotId = .none)
    (cleared : ∀ (slotId : UInt8) slot, c.slots[slotId.toNat]? = some slot → slot.camStatus = .none) :
    ∀ slotId, c.Fresh slotId := by
  intro slotId slot known
  rw [cleared slotId slot known, hlive slotId]

theorem Restarted.fresh {c₁ : CiController} (h : Restarted c₁ c) : ∀ slotId, c.Fresh slotId :=
  fresh_cleared (fun slotId => camOf_idle (h.recovered.halted.not_live slotId)) h.cleared

theorem Done.fresh (h : c.Tracks) (hd : Done c c') : masked c'.trace = true ∨ ∀ slotId, c'.Fresh slotId := by
  cases hd with
  | worked path calm => exact (h.works path).fresh calm
  | restarted work steps restarted => exact .inr restarted.fresh

theorem Sized.step (h : c.Sized) (hs : Step c c') : c'.Sized := by
  cases hs with
  | work work =>
      cases work with
      | move move => exact h.move move
      | info slotId present ready => exact ⟨h.session, h.queue⟩
  | _ => exact ⟨h.session, h.queue⟩

theorem Sized.pushed (h : c.Sized) {op : ControllerOp} (hfits : ∀ change ∈ op.changes, change.Fits) :
    Sized { c with pacer := op.push c.pacer } := by
  have hpush {pacer : CaPmtPacer} {change other : CaPmtChange} (hmem : other ∈ (pacer.push change).queue) :
      other ∈ pacer.queue ∨ other = change := by
    cases change <;>
      simp only [CaPmtPacer.push, CaPmtPacer.pushSet, CaPmtPacer.pushRemove, List.mem_append,
        List.mem_filter, List.mem_singleton] at hmem <;>
      rcases hmem with ⟨hmem, _⟩ | hmem
    · exact .inl hmem
    · exact .inr hmem
    · exact .inl hmem
    · exact .inr hmem
  have hpushes (changes : List CaPmtChange) (pacer : CaPmtPacer) {other : CaPmtChange}
      (hmem : other ∈ (changes.foldl CaPmtPacer.push pacer).queue) :
      other ∈ pacer.queue ∨ other ∈ changes := by
    induction changes generalizing pacer with
    | nil => exact .inl hmem
    | cons change rest ih =>
        rcases ih _ hmem with hold | hrest
        · rcases hpush hold with hold | rfl
          · exact .inl hold
          · exact .inr List.mem_cons_self
        · exact .inr (List.mem_cons_of_mem _ hrest)
  refine ⟨h.session, ?_⟩
  intro change hmem
  cases op with
  | setCaPmtInterval interval => exact h.queue change hmem
  | _ =>
      rcases hpushes _ c.pacer hmem with hold | hnew
      · exact h.queue change hold
      · exact hfits change hnew

theorem Sized.turned {op : ControllerOp} {reply : Except Error (Option CaEvent)} (h : c.Sized)
    (ht : Turn c op reply c') (hfits : ∀ change ∈ op.changes, change.Fits) : c'.Sized := by
  obtain ⟨c₁, hsteps, _, hsame⟩ := ht.steps
  have h₁ : c₁.Sized := LibDvb.Path.invariant (I := Sized) hsteps (h.pushed hfits) fun _ _ => Sized.step
  rw [hsame]
  exact ⟨h₁.session, h₁.queue⟩

theorem Tracks.ticking (h : c.Tracks) (now : Instant) (recoveryAt : Option Instant) :
    (c.ticking now recoveryAt).Tracks :=
  ⟨h.sound.step (.flags (some now) false recoveryAt c.nextStatusCheck false), ⟨h.sized.session, h.sized.queue⟩,
    h.current⟩

theorem Exact.turn {op : ControllerOp} {reply : Except Error (Option CaEvent)} (h : c.Exact)
    (ht : Turn c op reply c') (hfits : ∀ change ∈ op.changes, change.Fits) : c'.Exact := by
  refine ⟨ht.settled h.settled, h.sized.turned ht hfits, ?_⟩
  cases ht with
  | popped events => exact h.fresh
  | delivered resumed delivered =>
      obtain ⟨c₁, hpath, hcalm, _, hsame⟩ := delivered.worked
      rw [hsame]
      exact (h.tracks.moves hpath).fresh hcalm
  | pollFailed resumed failed =>
      cases failed with
      | restarted path cause ticked steps restarted => exact .inr restarted.fresh
      | deferred path cause calm unticked same =>
          subst same
          exact (h.tracks.moves path).fresh calm
  | ticked ends silent =>
      cases ends with
      | waiting suspended early same =>
          subst same
          exact h.fresh
      | driven due done => exact done.fresh (h.tracks.ticking _ _)
  | pushed queues refused silent => exact h.fresh
  | commanded sends active done silent => exact done.fresh h.tracks
  | inactive sends active => exact h.fresh
  | reset done steps =>
      exact .inr (fresh_cleared (fun slotId => camOf_vacant done.calm.sound.session (done.vacant slotId))
        done.cleared)
  | resetFailed failed steps =>
      obtain ⟨c₁, e, hpath, hemptied, hsilent, htrace, hcams⟩ := failed.cams
      have h₁ := h.tracks.moves hpath
      have hcalm : c₁.Calm := h.settled.calm.path hpath (hsilent.pending.trans h.settled.calm.whole)
        hemptied.collected
      rcases h₁.fresh hcalm with hmasked | hfresh
      · left
        rw [trace, htrace]
        exact masked_initial (List.prefix_append _ _) hmasked
      · right
        refine fresh_cleared (fun slotId => camOf_idle (failed.recovered.halted.not_live slotId)) ?_
        intro slotId slot known
        obtain ⟨old, hold, hsame⟩ := hcams slotId slot known
        rw [hsame, hfresh slotId old hold, camOf_vacant h₁.sound.session (hemptied.vacant slotId).sessions]

theorem Exact.relinked (h : c.Exact) (link : CaDevice) : (linkLens.set link c).Exact :=
  ⟨h.settled.relinked link, ⟨h.sized.session, h.sized.queue⟩, h.fresh⟩

theorem exact_start (hc : Starts c) : c.Exact := by
  have hb := blank_start hc
  obtain ⟨link, slotsNum, hsession⟩ := hb.session
  refine ⟨settled_start hc, ⟨?_, ?_⟩, .inr (fresh_cleared (fun slotId => ?_) fun slotId slot known => ?_)⟩
  · rw [hsession]
    exact ⟨fun _ _ h => by simp [CiSession.new] at h, fun _ _ h => by simp [CiSession.new] at h⟩
  · rw [hb.queue]
    intro change hmem
    cases hmem
  · refine camOf_vacant hb.sound.session fun index session hlive => ?_
    rw [hsession] at hlive
    cases hlive
  · rw [hb.view known]

end CiController

def Fitting (labels : List ControllerLabel) : Prop :=
  ∀ label ∈ labels, ∀ change ∈ label.op.changes, change.Fits

theorem ControllerRun.exact {start c : CiController} {labels : List ControllerLabel}
    (h : ControllerRun start labels c) (hfits : Fitting labels) : c.Exact := by
  refine h.2.history (I := fun labels c => Fitting labels → c.Exact) (fun _ => CiController.exact_start h.1)
    (fun labels c label c' ih hstep hfits => ?_) hfits
  have hc := ih fun other hmem => hfits other (List.mem_append_left _ hmem)
  exact (hc.relinked label.link).turn (CiController.step_turn hc.settled hstep)
    (hfits label (List.mem_append_right _ (List.mem_singleton_self label)))

def Obs.short : Obs → Bool
  | .wrote _ _ (.error e) _ => e = CaDevice.shortWrite
  | _ => false

theorem masked_of_short {trace : List Obs} (h : ∀ obs ∈ trace, obs.short = false) :
    masked trace = false := by
  rw [masked, List.any_eq_false]
  intro obs hmem hmasked
  cases obs with
  | wrote slotId frame result callback =>
      cases result with
      | ok _ => cases hmasked
      | error e =>
          have hshort : decide (e = CaDevice.shortWrite) = true := (Bool.and_eq_true_iff.mp hmasked).2
          exact Bool.false_ne_true ((h _ hmem).symm.trans hshort)
  | _ => cases hmasked

namespace CiController

structure SlotInvariant (c : CiController) (slotId : UInt8) (slot : ControllerSlot) : Prop where
  present : slot.present = false ↔ slot.status = .absent
  sessions : slot.status ≠ .active → ∀ index session, c.session.entry index = some session →
    session.slotId ≠ slotId
  inactive : slot.status ≠ .active → slot.camStatus = .none ∧ slot.receivePending = false
  idle : slot.status ≠ .creatingTc → slot.status ≠ .active →
    ∀ view, c.session.transport.slots[slotId.toNat]? = some view → view.busy = false ∧ view.queue = []
  current : slot.status = .active → slot.camStatus =
    camStatusOf true (c.session.appInfo slotId).isSome (c.session.hasCaInfo slotId)

variable {c : CiController} {slotId : UInt8} {slot : ControllerSlot}

theorem Exact.slotInvariant (h : c.Exact) (hmasked : masked c.trace = false)
    (known : c.slots[slotId.toNat]? = some slot) : c.SlotInvariant slotId slot := by
  have hfresh : c.Fresh slotId := by
    rcases h.fresh with hm | hfresh
    · rw [hmasked] at hm
      cases hm
    · exact hfresh slotId
  have hcalm := h.settled.calm
  have hidle (hstatus : slot.status ≠ .active) : ¬ c.Live slotId := by
    rw [live_of_status known]
    exact hstatus
  constructor
  · exact hcalm.present slotId slot known
  · intro hstatus
    exact noSession_of_status hcalm.sound known hstatus
  · intro hstatus
    constructor
    · rw [hfresh slot known, camOf_idle (hidle hstatus)]
    · rw [← Bool.not_eq_true]
      exact fun hreceive => hstatus (hcalm.sound.receive slotId slot known hreceive)
  · intro hcreating hactive
    exact hcalm.sound.idle slotId slot known hcreating hactive hcalm.whole
  · intro hactive
    have hlive : c.isActive slotId = true := (live_of_status known).mpr hactive
    rw [hfresh slot known, camOf, hlive]

end CiController

theorem slots_agree {start c : CiController} {labels : List ControllerLabel}
    (h : ControllerRun start labels c) (hfits : Fitting labels) (hshort : ∀ obs ∈ c.trace, obs.short = false)
    {slotId : UInt8} {slot : ControllerSlot} (known : c.slots[slotId.toNat]? = some slot) :
    c.SlotInvariant slotId slot :=
  (h.exact hfits).slotInvariant (masked_of_short hshort) known

def moduleReady : CaDevice := { slotInfo := fun _ => .ok { slotType := caCiLink, flags := 3 } }

def frameRead (frame : Bytes) : CaDevice × ControllerOp :=
  ({ moduleReady with reads := [.frame frame] }, .pollEvent)

def dataFrame (body : Bytes) : Bytes :=
  [0, 1, 0xA0, UInt8.ofNat (body.length + 1), 1] ++ body ++ [0x80, 2, 1, 0]

-- A module comes up, opens the Application Information session and tells its name.
def handshake : List (CaDevice × ControllerOp) :=
  [(moduleReady, .tick 0), ({}, .pollEvent), ({}, .pollEvent),
    frameRead [0, 1, 0x83, 1, 1, 0x80, 2, 1, 0], ({}, .pollEvent),
    frameRead (dataFrame [0x91, 4, 0x00, 0x02, 0x00, 0x41]), frameRead [0, 1, 0x80, 2, 1, 0],
    frameRead (dataFrame [0x90, 2, 0, 1, 0x9F, 0x80, 0x21, 7, 1, 0, 2, 0, 3, 1, 0x41])]

theorem fitting_of_none {labels : List ControllerLabel} (h : ∀ label ∈ labels, label.op.changes = []) :
    Fitting labels := by
  intro label hmem change hchange
  rw [h label hmem] at hchange
  cases hchange

def oneSlot : CiController := CiController.fromParts (CiSession.new (CiTransport.new {} 1)) {}

theorem oneSlot_starts : Starts oneSlot := ⟨{}, {}, {}, rfl⟩

theorem oneSlot_run {calls : List (CaDevice × ControllerOp)} (h : (trail ControllerOp.next oneSlot calls).isSome) :
    ControllerRun oneSlot ((trail ControllerOp.next oneSlot calls).get h).1
      ((trail ControllerOp.next oneSlot calls).get h).2 :=
  ⟨oneSlot_starts, trail_run ControllerStep (fun _ _ _ _ => ControllerOp.next_step) (Option.some_get h).symm⟩

theorem handshake_isSome : (ControllerOp.trail {} {} handshake).isSome := by decide +kernel

def afterHandshake : List ControllerLabel × CiController :=
  (ControllerOp.trail {} {} handshake).get handshake_isSome

theorem handshake_run : ∃ start, ControllerRun start afterHandshake.1 afterHandshake.2 :=
  ControllerRun.of_trail handshake_isSome

theorem handshake_fits : ∀ label ∈ afterHandshake.1, label.op.changes = [] := by decide +kernel

theorem handshake_whole : ∀ obs ∈ afterHandshake.2.trace, obs.short = false := by decide +kernel

theorem handshake_slot : afterHandshake.2.slots[(0 : UInt8).toNat]?.any (fun slot =>
    slot.status = .active ∧ slot.camStatus = .applicationInfo) = true := by decide +kernel

theorem slots_agree_handshake : ∃ start slot, ControllerRun start afterHandshake.1 afterHandshake.2 ∧
    afterHandshake.2.slots[(0 : UInt8).toNat]? = some slot ∧ slot.status = .active ∧
      slot.camStatus = .applicationInfo ∧ afterHandshake.2.SlotInvariant 0 slot := by
  obtain ⟨start, hrun⟩ := handshake_run
  obtain ⟨slot, hslot, hactive⟩ := (Option.any_eq_true _ _).mp handshake_slot
  obtain ⟨hstatus, hcam⟩ := of_decide_eq_true hactive
  exact ⟨start, slot, hrun, hslot, hstatus, hcam,
    slots_agree hrun (fitting_of_none handshake_fits) handshake_whole hslot⟩

end LibDvb
