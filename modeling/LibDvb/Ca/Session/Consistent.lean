import LibDvb.Ca.Session.Move
import LibDvb.Ca.Transport.Run

namespace LibDvb

open Relation

theorem recordSlot_opened (r : ResourceRegistry) (kind : ResourceKind) (slotId : UInt8)
    (sessionId other : UInt16) (k : ResourceKind) {slot : UInt8}
    (h : (r.opened kind slotId sessionId).recordSlot other k = some slot) :
    (k = kind ∧ other = sessionId ∧ slot = slotId) ∨ r.recordSlot other k = some slot := by
  cases kind <;> cases k <;>
    simp only [ResourceRegistry.opened, ResourceRegistry.recordSlot, KeyMap.get_insert] at h ⊢ <;>
    first
      | exact .inr h
      | (split at h
         · next heq =>
             simp only [Option.map_some, Option.some.injEq] at h
             exact .inl ⟨trivial, heq.symm, h.symm⟩
         · exact .inr h)

theorem recordSlot_onClose (r : ResourceRegistry) (kind : ResourceKind) (sessionId other : UInt16)
    (k : ResourceKind) {slot : UInt8}
    (h : (r.onClose sessionId kind).recordSlot other k = some slot) :
    (k = kind → other ≠ sessionId) ∧ r.recordSlot other k = some slot := by
  cases kind <;> cases k <;>
    simp only [ResourceRegistry.onClose, ResourceRegistry.recordSlot,
      ApplicationInfoResource.onClose, ConditionalAccessResource.onClose, DateTimeResource.onClose,
      KeyMap.get_erase] at h ⊢ <;>
    first
      | cases h
      | exact ⟨fun hk => (nomatch hk), h⟩
      | (split at h
         · cases h
         · next hne => exact ⟨fun _ he => hne he.symm, h⟩)

theorem recordSlot_informed (r : ResourceRegistry) (sessionId other : UInt16)
    {session : ApplicationInfoSession} (info : ApplicationInfo)
    (known : r.applicationInfo.sessions[sessionId]? = some session) (k : ResourceKind) :
    (r.informed sessionId session info).recordSlot other k = r.recordSlot other k := by
  cases k with
  | applicationInfo =>
      simp only [ResourceRegistry.informed, ResourceRegistry.recordSlot, KeyMap.get_insert]
      split
      · next heq => rw [← heq, known, Option.map_some, Option.map_some]
      · rfl
  | _ => rfl

theorem recordSlot_putCa (r : ResourceRegistry) (sessionId other : UInt16)
    {session session' : ConditionalAccessSession}
    (known : r.conditionalAccess.sessions[sessionId]? = some session)
    (slot : session'.slotId = session.slotId) (k : ResourceKind) :
    (r.putCa sessionId session').recordSlot other k = r.recordSlot other k := by
  cases k with
  | conditionalAccess =>
      simp only [ResourceRegistry.putCa, ResourceRegistry.recordSlot, KeyMap.get_insert]
      split
      · next heq => rw [← heq, known, Option.map_some, Option.map_some, slot]
      · rfl
  | _ => rfl

def ConditionalAccessSession.Sane (session : ConditionalAccessSession) : Prop :=
  ∀ (programNumber : UInt16) program, session.selected[programNumber]? = some program →
    program.programNumber = programNumber ∧
      ∃ caids, session.caids = some caids ∧ program.selectedBy caids = true

namespace CiSession

def Bound (s : CiSession) (sessionId : UInt16) (slotId : UInt8) (kind : ResourceKind) : Prop :=
  ∃ index session, sessionId = sessionIdOf index ∧ s.entry index = some session ∧
    session.slotId = slotId ∧ session.resourceId = kind.resourceId

structure Consistent (s : CiSession) : Prop where
  faithful : s.transport.Faithful
  callback : s.transport.callback = false
  size : s.sessions.length ≤ s.transport.slots.length * maxSlotSessions
  perSlot : ∀ slotId, s.inUse slotId ≤ maxSlotSessions
  live : ∀ index session, s.entry index = some session →
    session.slotId.toNat < s.transport.slots.length ∧
      (∃ kind : ResourceKind, session.resourceId = kind.resourceId) ∧
      (session.state = .closing → session.resourceId = .mmi)
  records : ∀ sessionId kind slotId, s.resources.recordSlot sessionId kind = some slotId →
    s.Bound sessionId slotId kind
  fragments : ∀ sessionId object, s.resources.mmi.fragments[sessionId]? = some object →
    ∃ slotId, s.Bound sessionId slotId .mmi
  manager : s.resources.rm = ResourceManager.new hostProfile
  programs : ∀ (programNumber : UInt16) program,
    s.resources.conditionalAccess.programs[programNumber]? = some program →
      program.programNumber = programNumber
  selections : ∀ (sessionId : UInt16) session,
    s.resources.conditionalAccess.sessions[sessionId]? = some session → session.Sane

theorem Consistent.count {s : CiSession} (h : s.Consistent) : s.transport.slots.length ≤ 255 :=
  h.faithful.count

section Numbers

theorem toNat_sessionIdOf {index : Nat} (h : index < 65535) :
    (sessionIdOf index).toNat = index + 1 := by
  rw [sessionIdOf, UInt16.toNat_ofNat']
  omega

theorem one_le_sessionIdOf {index : Nat} (h : index < 65535) : 1 ≤ sessionIdOf index := by
  rw [UInt16.le_iff_toNat_le, toNat_sessionIdOf h]
  exact Nat.le_add_left 1 index

theorem subU16_sessionIdOf {index : Nat} (h : index < 65535) :
    subU16 (sessionIdOf index) 1 = .ok (sessionIdOf index - 1) := if_pos (one_le_sessionIdOf h)

theorem toNat_pred {index : Nat} (h : index < 65535) : (sessionIdOf index - 1).toNat = index := by
  rw [UInt16.toNat_sub_of_le _ _ (one_le_sessionIdOf h), toNat_sessionIdOf h]
  rfl

theorem sessionIdOf_inj {i j : Nat} (hi : i < 65535) (hj : j < 65535)
    (h : sessionIdOf i = sessionIdOf j) : i = j := by
  have := congrArg UInt16.toNat h
  rw [toNat_sessionIdOf hi, toNat_sessionIdOf hj] at this
  omega

theorem session_sessionIdOf (s : CiSession) {index : Nat} (h : index < 65535) :
    s.session (sessionIdOf index) = s.entry index := by
  have hnat := toNat_sessionIdOf h
  have hne : sessionIdOf index ≠ 0 := by
    intro he
    rw [he] at hnat
    exact absurd hnat (by simp)
  rw [session, if_neg hne, hnat]
  rfl

theorem session_eq_some {s : CiSession} {sessionId : UInt16} {session : Session}
    (h : s.session sessionId = some session) :
    ∃ index, index = sessionId.toNat - 1 ∧ index < 65535 ∧ sessionId = sessionIdOf index ∧
      s.entry index = some session := by
  unfold CiSession.session at h
  split at h
  · cases h
  · next hne =>
      have hlt := sessionId.toNat_lt
      have hpos : 0 < sessionId.toNat := by
        rw [Nat.pos_iff_ne_zero]
        exact fun hz => hne (UInt16.toNat_inj.mp hz)
      refine ⟨sessionId.toNat - 1, rfl, by omega, ?_, h⟩
      rw [← UInt16.toNat_inj, toNat_sessionIdOf (by omega)]
      omega

end Numbers

section Entries

variable {s : CiSession} {slotId : UInt8} {kind : ResourceKind} {session : Session} {index : Nat}

theorem entry_allocated (index : Nat) :
    (s.allocated slotId kind).entry index =
      if s.freshIndex = index then some { slotId, resourceId := kind.resourceId, state := .active }
      else s.entry index :=
  Table.entry_place (Table.firstFree_le s.sessions) _ index

theorem entry_freshIndex (s : CiSession) : s.entry s.freshIndex = none :=
  Table.entry_firstFree s.sessions

theorem entry_freed (live : s.entry index = some session) (other : Nat) :
    (s.freed index session).entry other = if index = other then none else s.entry other :=
  Table.entry_set (Table.lt_of_entry live) none other

theorem entry_turned (live : s.entry index = some session) (state : SessionState) (other : Nat) :
    (s.turned index session state).entry other =
      if index = other then some { session with state } else s.entry other :=
  Table.entry_set (Table.lt_of_entry live) _ other

theorem inUse_eq_count (s : CiSession) (slotId : UInt8) :
    s.inUse slotId = Table.count (fun session : Session => session.slotId = slotId) s.sessions := by
  unfold inUse Table.count
  congr 1
  funext entry
  cases entry <;> rfl

theorem inUse_allocated (other : UInt8) : (s.allocated slotId kind).inUse other =
    s.inUse other + if slotId = other then 1 else 0 := by
  have hcount := Table.count_place (p := fun session : Session => session.slotId = other)
    { slotId, resourceId := kind.resourceId, state := .active } (Table.firstFree_le s.sessions)
    (Table.entry_firstFree s.sessions)
  simp only [decide_eq_true_eq] at hcount
  rw [inUse_eq_count, inUse_eq_count]
  exact hcount

theorem inUse_freed (live : s.entry index = some session) (other : UInt8) :
    (s.freed index session).inUse other ≤ s.inUse other := by
  rw [inUse_eq_count, inUse_eq_count]
  exact (Table.count_set_none live).trans_le (Nat.sub_le _ _)

theorem inUse_turned (live : s.entry index = some session) (state : SessionState)
    (other : UInt8) : (s.turned index session state).inUse other = s.inUse other := by
  rw [inUse_eq_count, inUse_eq_count]
  exact Table.count_set_some live rfl

theorem Consistent.size_le (h : s.Consistent) : s.sessions.length ≤ 4080 := by
  have := h.size
  have := h.count
  simp only [maxSlotSessions] at *
  omega

theorem Consistent.index_lt (h : s.Consistent) (live : s.entry index = some session) :
    index < 65535 := by
  have := Table.lt_of_entry live
  have := h.size_le
  omega

theorem Consistent.freshIndex_lt (h : s.Consistent) : s.freshIndex < 65535 := by
  have := Table.firstFree_le s.sessions
  have := h.size_le
  simp only [freshIndex]
  omega

theorem fresh_record (h : s.Consistent) (kind : ResourceKind) :
    s.resources.recordSlot (sessionIdOf s.freshIndex) kind = none := by
  cases hrecord : s.resources.recordSlot (sessionIdOf s.freshIndex) kind with
  | none => rfl
  | some slotId =>
      obtain ⟨index, session, hid, live, _⟩ := h.records _ _ _ hrecord
      have hindex := sessionIdOf_inj h.freshIndex_lt (h.index_lt live) hid
      rw [← hindex, entry_freshIndex] at live
      cases live

end Entries

section Preservation

variable {A V : UInt8 → Prop} {s s' : CiSession} {slotId : UInt8} {kind : ResourceKind}
  {session : Session} {index : Nat} {sessionId : UInt16}

theorem Bound.mono (h : s.Bound sessionId slotId kind)
    (hentry : ∀ index session, sessionId = sessionIdOf index → s.entry index = some session →
      ∃ session', s'.entry index = some session' ∧ session'.slotId = session.slotId ∧
        session'.resourceId = session.resourceId) : s'.Bound sessionId slotId kind := by
  obtain ⟨index, session, hid, hlive, hslot, hresource⟩ := h
  obtain ⟨session', hlive', hslot', hresource'⟩ := hentry index session hid hlive
  exact ⟨index, session', hid, hlive', hslot'.trans hslot, hresource'.trans hresource⟩

theorem bound_allocated (other : UInt16) {otherSlot : UInt8} {otherKind : ResourceKind}
    (h : s.Bound other otherSlot otherKind) :
    (s.allocated slotId kind).Bound other otherSlot otherKind := by
  refine h.mono fun index session _ hlive => ⟨session, ?_, rfl, rfl⟩
  rw [entry_allocated, if_neg, hlive]
  rintro rfl
  rw [entry_freshIndex] at hlive
  cases hlive

theorem count_toNat_le (h : ∀ slotId, s.inUse slotId ≤ maxSlotSessions) (k : Nat) :
    Table.count (fun session : Session => session.slotId.toNat = k) s.sessions ≤
      maxSlotSessions := by
  by_cases hk : k < 256
  · have hslot := h (UInt8.ofNat k)
    rw [inUse_eq_count] at hslot
    have hsame : (fun session : Session => decide (session.slotId.toNat = k)) =
        fun session => decide (session.slotId = UInt8.ofNat k) := by
      funext session
      rw [decide_eq_decide, ← UInt8.toNat_inj, UInt8.toNat_ofNat_of_lt' hk]
    rwa [hsame]
  · have hzero : Table.count (fun session : Session => session.slotId.toNat = k) s.sessions = 0 := by
      refine List.countP_eq_zero.mpr fun entry _ => ?_
      cases entry with
      | none => simp
      | some session =>
          have := session.slotId.toNat_lt
          simp only [Option.any_some, decide_eq_true_eq]
          omega
    rw [hzero]
    exact Nat.zero_le _

theorem Consistent.on (h : s.Consistent) {t : CiTransport} (ht : t.Faithful)
    (hlength : t.slots.length = s.transport.slots.length) : (s.on t).Consistent where
  faithful := ⟨ht.count, ht.slots, ht.lawful⟩
  callback := rfl
  size := hlength ▸ h.size
  perSlot := h.perSlot
  live index session hlive := by
    have := h.live index session hlive
    exact ⟨hlength ▸ this.1, this.2⟩
  records := h.records
  fragments := h.fragments
  manager := h.manager
  programs := h.programs
  selections := h.selections

theorem Consistent.allocated (h : s.Consistent) (hbound : slotId.toNat < s.transport.slots.length)
    (hcount : s.inUse slotId < maxSlotSessions) : (s.allocated slotId kind).Consistent where
  faithful := h.faithful
  callback := h.callback
  size := by
    have hsize := h.size
    show (Table.place _ _ _).length ≤ _
    rw [Table.length_place]
    split
    · next hfull =>
        refine Table.length_lt_of_full (fun session : Session => session.slotId.toNat) _ _ _
          slotId.toNat hbound hfull (fun i session hlive => (h.live i session hlive).1)
          (count_toNat_le h.perSlot) ?_
        have hsame : (fun session : Session => decide (session.slotId.toNat = slotId.toNat)) =
            fun session => decide (session.slotId = slotId) := by
          funext session
          rw [decide_eq_decide, UInt8.toNat_inj]
        rwa [hsame, ← inUse_eq_count]
    · exact hsize
  perSlot other := by
    rw [inUse_allocated]
    split
    · next heq => rwa [← heq]
    · exact h.perSlot other
  live index session hlive := by
    rw [entry_allocated] at hlive
    split at hlive
    · cases hlive
      exact ⟨hbound, ⟨kind, rfl⟩, nofun⟩
    · exact h.live index session hlive
  records other otherKind otherSlot hrecord := bound_allocated _ (h.records _ _ _ hrecord)
  fragments other object hfragment := by
    obtain ⟨otherSlot, hbound⟩ := h.fragments other object hfragment
    exact ⟨otherSlot, bound_allocated _ hbound⟩
  manager := h.manager
  programs := h.programs
  selections := h.selections

theorem sane_new (slotId : UInt8) : ConditionalAccessSession.Sane { slotId } := by
  intro programNumber program h
  rw [KeyMap.get_empty] at h
  cases h

theorem Consistent.opened (h : s.Consistent) (hbound : slotId.toNat < s.transport.slots.length)
    (hcount : s.inUse slotId < maxSlotSessions) {t : CiTransport} (ht : t.Faithful)
    (hlength : t.slots.length = s.transport.slots.length) (hcallback : t.callback = false) :
    (s.opened slotId kind t).Consistent := by
  have hallocated : (s.allocated slotId kind).Consistent := h.allocated hbound hcount
  have ha := hallocated.on ht hlength
  exact
    { faithful := ht.move (CiTransport.move_note _ trivial rfl)
      callback := hcallback
      size := ha.size
      perSlot := ha.perSlot
      live := ha.live
      records := by
        intro other otherKind otherSlot hrecord
        rcases recordSlot_opened _ _ _ _ _ _ hrecord with ⟨rfl, rfl, rfl⟩ | hold
        · exact ⟨s.freshIndex, _, rfl, (entry_allocated _).trans (if_pos rfl), rfl, rfl⟩
        · exact ha.records _ _ _ hold
      fragments := by
        have hmmi : (s.opened slotId kind t).resources.mmi = s.resources.mmi := by
          cases kind <;> rfl
        intro other object hfragment
        rw [hmmi] at hfragment
        exact ha.fragments other object hfragment
      manager := by
        have hrm : (s.opened slotId kind t).resources.rm = s.resources.rm := by
          cases kind <;> rfl
        exact hrm.trans h.manager
      programs := by
        have hprograms : (s.opened slotId kind t).resources.conditionalAccess.programs =
            s.resources.conditionalAccess.programs := by
          cases kind <;> rfl
        rw [hprograms]
        exact h.programs
      selections := by
        intro other session hsession
        cases kind with
        | conditionalAccess =>
            simp only [CiSession.opened, ResourceRegistry.opened, KeyMap.get_insert] at hsession
            split at hsession
            · cases hsession
              exact sane_new slotId
            · exact h.selections other session hsession
        | _ => exact h.selections other session hsession }

theorem lookup_live (h : s.Consistent) (live : s.entry index = some session) :
    ∃ kind, ResourceKind.lookup session.resourceId = some kind ∧
      session.resourceId = kind.resourceId := by
  obtain ⟨_, ⟨kind, hkind⟩, _⟩ := h.live index session live
  exact ⟨kind, by rw [hkind, ResourceKind.lookup_resourceId], hkind⟩

theorem resourceId_injective {a b : ResourceKind} (h : a.resourceId = b.resourceId) : a = b :=
  ResourceKind.base_injective (congrArg ResourceId.base h)

theorem Consistent.freed (h : s.Consistent) (live : s.entry index = some session) :
    (s.freed index session).Consistent := by
  obtain ⟨kind, hlookup, hkind⟩ := lookup_live h live
  have hresources : (s.freed index session).resources =
      s.resources.onClose (sessionIdOf index) kind := by
    simp only [CiSession.freed, hlookup]
  have hbound {other : UInt16} {otherSlot : UInt8} {otherKind : ResourceKind}
      (hb : s.Bound other otherSlot otherKind) (hne : otherKind = kind → other ≠ sessionIdOf index) :
      (s.freed index session).Bound other otherSlot otherKind := by
    refine hb.mono fun i session' hid hlive => ⟨session', ?_, rfl, rfl⟩
    rw [entry_freed live, if_neg, hlive]
    rintro rfl
    obtain ⟨j, session'', hid', hlive', _, hresource⟩ := hb
    have hj : j = index := sessionIdOf_inj (h.index_lt hlive') (h.index_lt live) (hid'.symm.trans hid)
    subst hj
    rw [live, Option.some.injEq] at hlive'
    subst hlive'
    exact hne (resourceId_injective (hresource.symm.trans hkind)) hid
  exact
    { faithful := h.faithful
      callback := h.callback
      size := by
        rw [show (s.freed index session).sessions.length = s.sessions.length from List.length_set]
        exact h.size
      perSlot := fun slotId => (inUse_freed live slotId).trans (h.perSlot slotId)
      live := by
        intro i session' hlive
        rw [entry_freed live] at hlive
        split at hlive
        · cases hlive
        · exact h.live i session' hlive
      records := by
        intro other otherKind otherSlot hrecord
        rw [hresources] at hrecord
        obtain ⟨hne, hold⟩ := recordSlot_onClose _ _ _ _ _ hrecord
        exact hbound (h.records _ _ _ hold) hne
      fragments := by
        intro other object hfragment
        rw [hresources] at hfragment
        cases kind with
        | mmi =>
            simp only [ResourceRegistry.onClose, MmiResource.onClose, KeyMap.get_erase] at hfragment
            split at hfragment
            · cases hfragment
            · next hne =>
                obtain ⟨slotId, hb⟩ := h.fragments other object hfragment
                exact ⟨slotId, hbound hb fun _ he => hne he.symm⟩
        | _ =>
            obtain ⟨slotId, hb⟩ := h.fragments other object hfragment
            exact ⟨slotId, hbound hb nofun⟩
      manager := by
        rw [hresources]
        cases kind <;> exact h.manager
      programs := by
        rw [hresources]
        cases kind <;> exact h.programs
      selections := by
        intro other session' hsession
        rw [hresources] at hsession
        cases kind with
        | conditionalAccess =>
            simp only [ResourceRegistry.onClose, ConditionalAccessResource.onClose,
              KeyMap.get_erase] at hsession
            split at hsession
            · cases hsession
            · exact h.selections other session' hsession
        | _ => exact h.selections other session' hsession }

theorem Consistent.turned (h : s.Consistent) (live : s.entry index = some session)
    (mmi : session.resourceId = .mmi) (state : SessionState) :
    (s.turned index session state).Consistent := by
  have hbound {other : UInt16} {otherSlot : UInt8} {otherKind : ResourceKind}
      (hb : s.Bound other otherSlot otherKind) :
      (s.turned index session state).Bound other otherSlot otherKind := by
    refine hb.mono fun i session' _ hlive => ?_
    rw [entry_turned live]
    split
    · next heq =>
        rw [← heq, live, Option.some.injEq] at hlive
        exact ⟨_, rfl, by rw [hlive], by rw [hlive]⟩
    · exact ⟨session', hlive, rfl, rfl⟩
  exact
    { faithful := h.faithful
      callback := h.callback
      size := by
        rw [show (s.turned index session state).sessions.length = s.sessions.length from
          List.length_set]
        exact h.size
      perSlot := fun slotId => by
        rw [inUse_turned live]
        exact h.perSlot slotId
      live := by
        intro i session' hlive
        rw [entry_turned live] at hlive
        split at hlive
        · cases hlive
          obtain ⟨hslot, hkind, _⟩ := h.live index session live
          exact ⟨hslot, hkind, fun _ => mmi⟩
        · exact h.live i session' hlive
      records := fun other otherKind otherSlot hrecord => hbound (h.records _ _ _ hrecord)
      fragments := by
        intro other object hfragment
        obtain ⟨slotId, hb⟩ := h.fragments other object hfragment
        exact ⟨slotId, hbound hb⟩
      manager := h.manager
      programs := h.programs
      selections := h.selections }

theorem Consistent.update (h : s.Consistent) {resources : ResourceRegistry}
    (hslot : ∀ sessionId kind, resources.recordSlot sessionId kind =
      s.resources.recordSlot sessionId kind)
    (hfragments : ∀ sessionId object, resources.mmi.fragments[sessionId]? = some object →
      ∃ slotId, s.Bound sessionId slotId .mmi)
    (hmanager : resources.rm = s.resources.rm)
    (hprograms : ∀ (programNumber : UInt16) program,
      resources.conditionalAccess.programs[programNumber]? = some program →
        program.programNumber = programNumber)
    (hselections : ∀ (sessionId : UInt16) session,
      resources.conditionalAccess.sessions[sessionId]? = some session → session.Sane)
    (events : List CaEvent) : Consistent { s with resources, events } where
  faithful := h.faithful
  callback := h.callback
  size := h.size
  perSlot := h.perSlot
  live := h.live
  records _ _ _ hrecord := h.records _ _ _ ((hslot _ _).symm.trans hrecord)
  fragments := hfragments
  manager := hmanager.trans h.manager
  programs := hprograms
  selections := hselections

theorem Consistent.putCa (h : s.Consistent) {record record' : ConditionalAccessSession}
    (known : s.resources.conditionalAccess.sessions[sessionId]? = some record)
    (slot : record'.slotId = record.slotId) (sane : record'.Sane) (events : List CaEvent) :
    Consistent { s with resources := s.resources.putCa sessionId record', events } := by
  refine h.update (fun other kind => recordSlot_putCa _ _ _ known slot kind) h.fragments rfl
    h.programs (fun other session hsession => ?_) events
  simp only [ResourceRegistry.putCa, KeyMap.get_insert] at hsession
  split at hsession
  · cases hsession
    exact sane
  · exact h.selections other session hsession

theorem Consistent.faithful_callback (h : s.Consistent) {callback : Bool} :
    CiTransport.Faithful { s.transport with callback } :=
  ⟨h.faithful.count, h.faithful.slots, h.faithful.lawful⟩

theorem Consistent.move (h : s.Consistent) (hm : Move A V s s') : s'.Consistent := by
  cases hm with
  | link move quiet => exact h.on (h.faithful_callback.move move) move.length
  | event plain slot => exact h.update (fun _ _ => rfl) h.fragments rfl h.programs h.selections _
  | opened slot notice bound count path whole =>
      exact h.opened bound count (h.faithful.path path) (CiTransport.path_length path)
        ((CiTransport.path_callback path).trans h.callback)
  | openFailed slot bound count path broken =>
      exact (h.allocated bound count).on (h.faithful.path path) (CiTransport.path_length path)
  | closed live slot => exact h.freed live
  | turned state live mmi slot => exact h.turned live mmi state
  | appInfo info known slot =>
      exact h.update (fun other kind => recordSlot_informed _ _ _ info known kind) h.fragments rfl
        h.programs h.selections _
  | @caInfo sessionId record caids t known slot notice path whole =>
      have hlength := CiTransport.path_length path.path
      have hfaithful := h.faithful_callback.path path.path
      refine (h.on hfaithful hlength).putCa known ?_ ?_ _
      · rfl
      intro programNumber program hselected
      obtain ⟨hprogram, hmatch⟩ := ConditionalAccessResource.infoPlan_sound hselected
      exact ⟨h.programs _ _ hprogram, caids, rfl, hmatch⟩
  | @caInfoFailed sessionId record caids t bodies known slot path broken =>
      have hlength := CiTransport.path_length path.path
      have hfaithful := h.faithful_callback.path path.path
      refine (h.on hfaithful hlength).putCa known ?_ ?_ _
      · rfl
      intro programNumber program hselected
      rw [KeyMap.get_empty] at hselected
      cases hselected
  | dateTime keys others =>
      refine h.update (fun other kind => ?_) ?_ ?_ ?_ ?_ _
      · cases kind with
        | dateTime => exact keys other
        | _ => rfl
      · exact h.fragments
      · rfl
      · exact h.programs
      · exact h.selections
  | @mmi index session fragment live mmi slot =>
      refine h.update (fun other kind => ?_) (fun other object hfragment => ?_) ?_ ?_ ?_ _
      · cases kind <;> rfl
      · cases fragment with
        | none =>
            simp only [ResourceRegistry.putFragment, KeyMap.get_erase] at hfragment
            split at hfragment
            · cases hfragment
            · exact h.fragments other object hfragment
        | some fragment =>
            simp only [ResourceRegistry.putFragment, KeyMap.get_insert] at hfragment
            split at hfragment
            · next heq => exact ⟨session.slotId, index, session, heq.symm, live, rfl, mmi⟩
            · exact h.fragments other object hfragment
      · rfl
      · exact h.programs
      · exact h.selections

theorem Consistent.path (h : s.Consistent) (hpath : Path A V s s') : s'.Consistent :=
  LibDvb.Path.invariant hpath h fun _ _ => Consistent.move

theorem sane_changePlan {record : ConditionalAccessSession} (h : record.Sane)
    (change : CaPmtChange) : ConditionalAccessSession.Sane
      { record with selected := (ConditionalAccessResource.changePlan record change).2 } := by
  intro programNumber program hselected
  rcases ConditionalAccessResource.changePlan_sound hselected with hold | ⟨_, hnumber, hcaids⟩
  · exact h programNumber program hold
  · exact ⟨hnumber, hcaids⟩

theorem programs_applyChange {programs : KeyMap Program}
    (h : ∀ (programNumber : UInt16) program, programs[programNumber]? = some program →
      program.programNumber = programNumber) (change : CaPmtChange) :
    ∀ (programNumber : UInt16) program,
      (ConditionalAccessResource.applyChange programs change)[programNumber]? = some program →
        program.programNumber = programNumber := by
  intro programNumber program hprogram
  cases change with
  | set changed =>
      simp only [ConditionalAccessResource.applyChange, KeyMap.get_insert] at hprogram
      split at hprogram
      · next heq =>
          cases hprogram
          exact heq
      · exact h programNumber program hprogram
  | remove number =>
      simp only [ConditionalAccessResource.applyChange, KeyMap.get_erase] at hprogram
      split at hprogram
      · cases hprogram
      · exact h programNumber program hprogram

theorem Consistent.changed (h : s.Consistent) (change : CaPmtChange) {t : CiTransport}
    {sessions : KeyMap ConditionalAccessSession}
    {f : UInt16 → ConditionalAccessSession → ConditionalAccessSession}
    (records : ∀ sessionId : UInt16, sessions[sessionId]? =
      s.resources.conditionalAccess.sessions[sessionId]?.map (f sessionId))
    (slot : ∀ sessionId record, (f sessionId record).slotId = record.slotId)
    (sane : ∀ sessionId record, record.Sane → (f sessionId record).Sane)
    (ht : t.Faithful) (hlength : t.slots.length = s.transport.slots.length) :
    (s.changed change t sessions).Consistent := by
  refine (h.on ht hlength).update (fun sessionId kind => ?_) ?_ ?_ ?_ (fun sessionId record hrecord => ?_) _
  · cases kind with
    | conditionalAccess =>
        simp only [ResourceRegistry.recordSlot, records, Option.map_map]
        congr 1
        funext record
        exact slot sessionId record
    | _ => rfl
  · exact h.fragments
  · rfl
  · exact programs_applyChange h.programs change
  · rw [records, Option.map_eq_some_iff] at hrecord
    obtain ⟨old, hold, rfl⟩ := hrecord
    exact sane sessionId old (h.selections sessionId old hold)

theorem Consistent.programmed {change : CaPmtChange} (h : s.Consistent)
    (hp : Programmed s change s') : s'.Consistent := by
  cases hp with
  | idle _ => exact h
  | done records path acts whole =>
      exact h.changed change records (fun _ _ => rfl) (fun _ _ hsane => sane_changePlan hsane change)
        (h.faithful.path path) (CiTransport.path_length path)
  | @failed t sessions reached records path broken =>
      refine h.changed change records (fun _ _ => rfl) (fun sessionId record hsane => ?_)
        (h.faithful.path path) (CiTransport.path_length path)
      cases reached sessionId with
      | true => exact sane_changePlan hsane change
      | false => exact hsane

theorem consistent_new (link : CaDevice) (slotsNum : UInt8) :
    (CiSession.new (CiTransport.new link slotsNum)).Consistent where
  faithful := CiTransport.faithful_new link slotsNum
  callback := rfl
  size := Nat.zero_le _
  perSlot _ := Nat.zero_le _
  live _ _ hlive := nomatch hlive
  records sessionId kind _ hrecord := by
    cases kind <;> simp [ResourceRegistry.recordSlot, CiSession.new] at hrecord
  fragments _ _ hfragment := by simp [CiSession.new] at hfragment
  manager := rfl
  programs _ _ hprogram := by simp [CiSession.new] at hprogram
  selections _ _ hsession := by simp [CiSession.new] at hsession

end Preservation

def Within (A : UInt8 → Prop) (s : CiSession) : Prop :=
  ∀ index session, s.entry index = some session → A session.slotId

section Within

variable {A V : UInt8 → Prop} {s s' : CiSession} {index : Nat} {session : Session}
  {sessionId : UInt16} {slotId : UInt8} {kind : ResourceKind}

theorem Within.move (h : s.Within A) (hm : Move A V s s') : s'.Within A := by
  have hallocated {slotId kind} (slot : A slotId) (index : Nat) (session : Session)
      (hlive : (s.allocated slotId kind).entry index = some session) : A session.slotId := by
    rw [entry_allocated] at hlive
    split at hlive
    · cases hlive
      exact slot
    · exact h index session hlive
  intro index' session' hlive'
  cases hm with
  | opened slot notice bound count path whole => exact hallocated slot index' session' hlive'
  | openFailed slot bound count path broken => exact hallocated slot index' session' hlive'
  | closed live slot =>
      rw [entry_freed live] at hlive'
      split at hlive'
      · cases hlive'
      · exact h index' session' hlive'
  | @turned index session state live mmi slot =>
      rw [entry_turned live] at hlive'
      split at hlive'
      · cases hlive'
        exact h index session live
      · exact h index' session' hlive'
  | _ => exact h index' session' hlive'

theorem Within.path (h : s.Within A) (hpath : Path A V s s') : s'.Within A :=
  LibDvb.Path.invariant hpath h fun _ _ => Within.move

theorem Move.slots_length (hm : Move A V s s') :
    s'.transport.slots.length = s.transport.slots.length := by
  cases hm with
  | link move quiet => exact move.length
  | opened slot notice bound count path whole =>
      have hlength := CiTransport.path_length path
      exact hlength
  | openFailed slot bound count path broken =>
      have hlength := CiTransport.path_length path
      exact hlength
  | caInfo known slot notice path whole =>
      have hlength := CiTransport.path_length path.path
      exact hlength
  | caInfoFailed known slot path broken =>
      have hlength := CiTransport.path_length path.path
      exact hlength
  | _ => rfl

theorem Path.slots_length (hpath : Path A V s s') :
    s'.transport.slots.length = s.transport.slots.length :=
  LibDvb.Path.order (r := fun a b : CiSession =>
    b.transport.slots.length = a.transport.slots.length) hpath (fun _ => rfl)
    (fun hab hbc => hbc.trans hab) fun _ _ => Move.slots_length

theorem Consistent.record_slot (h : s.Consistent) (live : s.entry index = some session)
    (hrecord : s.resources.recordSlot (sessionIdOf index) kind = some slotId) :
    slotId = session.slotId ∧ session.resourceId = kind.resourceId := by
  obtain ⟨other, session', hid, hlive, hslot, hresource⟩ := h.records _ _ _ hrecord
  have hindex := sessionIdOf_inj (h.index_lt live) (h.index_lt hlive) hid
  subst hindex
  rw [live, Option.some.injEq] at hlive
  subst hlive
  exact ⟨hslot.symm, hresource⟩

theorem Consistent.record_live (h : s.Consistent)
    (hrecord : s.resources.recordSlot sessionId kind = some slotId) :
    slotId.toNat < s.transport.slots.length := by
  obtain ⟨index, session, _, hlive, rfl, _⟩ := h.records _ _ _ hrecord
  exact (h.live index session hlive).1

theorem Within.record (hw : s.Within A) (h : s.Consistent)
    (hrecord : s.resources.recordSlot sessionId kind = some slotId) : A slotId := by
  obtain ⟨index, session, _, hlive, rfl, _⟩ := h.records _ _ _ hrecord
  exact hw index session hlive

end Within

section Fits

variable {A V : UInt8 → Prop} {s s' : CiSession}

theorem Fits.resource (h : s.Fits) : s.resources.conditionalAccess.Fits := h

theorem Fits.putCa (h : s.Fits) {sessionId : UInt16} {record : ConditionalAccessSession}
    (hrecord : ∀ (programNumber : UInt16) program,
      record.selected[programNumber]? = some program → program.Fits) :
    (s.resources.putCa sessionId record).conditionalAccess.Fits where
  programs := h.resource.programs
  selected other session hsession := by
    simp only [ResourceRegistry.putCa, KeyMap.get_insert] at hsession
    split at hsession
    · cases hsession
      exact hrecord
    · exact h.resource.selected other session hsession

theorem fits_empty (programNumber : UInt16) (program : Program)
    (h : (∅ : KeyMap Program)[programNumber]? = some program) : program.Fits := by
  rw [KeyMap.get_empty] at h
  cases h

theorem Fits.move (h : s.Fits) (hm : Move A V s s') : s'.Fits := by
  cases hm with
  | @opened slotId kind t slot notice bound count path whole =>
      cases kind with
      | conditionalAccess => exact h.putCa fits_empty
      | _ => exact h
  | @closed index session live slot =>
      show ConditionalAccessResource.Fits _
      simp only [freed]
      cases ResourceKind.lookup session.resourceId with
      | none => exact h
      | some kind =>
          cases kind with
          | conditionalAccess =>
              refine ⟨h.resource.programs, fun other record hrecord => ?_⟩
              simp only [ResourceRegistry.onClose, ConditionalAccessResource.onClose,
                KeyMap.get_erase] at hrecord
              split at hrecord
              · cases hrecord
              · exact h.resource.selected other record hrecord
          | _ => exact h
  | caInfo known slot notice path whole =>
      refine h.putCa fun programNumber program hselected => ?_
      exact h.resource.programs _ _
        (ConditionalAccessResource.infoPlan_sound hselected).1
  | caInfoFailed known slot path broken => exact h.putCa fits_empty
  | _ => exact h

theorem Fits.programmed {change : CaPmtChange} (h : s.Fits) (hc : change.Fits)
    (hp : Programmed s change s') : s'.Fits := by
  have hprograms (programNumber : UInt16) (program : Program)
      (hprogram : (ConditionalAccessResource.applyChange s.resources.conditionalAccess.programs
        change)[programNumber]? = some program) : program.Fits := by
    cases change with
    | set changed =>
        rw [ConditionalAccessResource.applyChange, KeyMap.get_insert] at hprogram
        split at hprogram
        · cases hprogram
          exact hc
        · exact h.resource.programs _ _ hprogram
    | remove number =>
        rw [ConditionalAccessResource.applyChange, KeyMap.get_erase] at hprogram
        split at hprogram
        · cases hprogram
        · exact h.resource.programs _ _ hprogram
  have hplan {sessionId : UInt16} {session : ConditionalAccessSession}
      (known : s.resources.conditionalAccess.sessions[sessionId]? = some session)
      {programNumber : UInt16} {program : Program}
      (hselected : (ConditionalAccessResource.changePlan session change).2[programNumber]? =
        some program) : program.Fits := by
    rcases ConditionalAccessResource.changePlan_sound hselected with hold | ⟨rfl, _⟩
    · exact h.resource.selected _ _ known _ _ hold
    · exact hc
  cases hp with
  | idle same => exact h
  | done records path acts whole =>
      refine ⟨hprograms, fun sessionId session hsession programNumber program hselected => ?_⟩
      have hsession : _ = some session := (records sessionId).symm.trans hsession
      rw [Option.map_eq_some_iff] at hsession
      obtain ⟨old, known, rfl⟩ := hsession
      exact hplan known hselected
  | @failed t sessions reached records path broken =>
      refine ⟨hprograms, fun sessionId session hsession programNumber program hselected => ?_⟩
      have hsession : _ = some session := (records sessionId).symm.trans hsession
      rw [Option.map_eq_some_iff] at hsession
      obtain ⟨old, known, rfl⟩ := hsession
      dsimp only at hselected
      split at hselected
      · exact hplan known hselected
      · exact h.resource.selected _ _ known _ _ hselected

theorem Fits.path (h : s.Fits) (hpath : Path A V s s') : s'.Fits :=
  LibDvb.Path.invariant hpath h fun _ _ => Fits.move

end Fits

end CiSession

end LibDvb
