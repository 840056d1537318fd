import LibDvb.Ca.Controller.Collect

namespace LibDvb

open Relation

namespace ApplicationInfoResource

variable {self : ApplicationInfoResource} {slotId : UInt8}

theorem maxByKey_isSome (later : UInt16 × Nat × ApplicationInfo → UInt16 × Nat × ApplicationInfo → Bool)
    (xs : List (UInt16 × Nat × ApplicationInfo)) : (maxByKey later xs).isSome ↔ xs ≠ [] := by
  rcases List.eq_nil_or_concat xs with rfl | ⟨init, last, rfl⟩
  · simp [maxByKey]
  · rw [List.concat_eq_append, maxByKey, List.foldl_append]
    simp only [List.foldl_cons, List.foldl_nil, ne_eq, List.append_eq_nil_iff, List.cons_ne_self,
      and_false, not_false_iff, iff_true]
    split
    · rfl
    · split <;> rfl

theorem info_isSome : (self.info slotId).isSome ↔ ∃ (sessionId : UInt16) (session : _),
    self.sessions[sessionId]? = some session ∧ session.slotId = slotId ∧
      session.info.isSome := by
  rw [info, Option.isSome_map, infoSession, Option.isSome_map, maxByKey_isSome, candidates, ne_eq,
    List.filterMap_eq_nil_iff]
  simp only [not_forall, exists_prop]
  constructor
  · rintro ⟨⟨sessionId, session⟩, hmem, hinfo⟩
    dsimp only at hinfo
    split at hinfo
    · next hslot =>
        refine ⟨sessionId, session, KeyMap.mem_toList.mp hmem, hslot, ?_⟩
        rw [Option.isSome_iff_ne_none]
        exact fun hnone => hinfo (by rw [hnone]; rfl)
    · exact absurd rfl hinfo
  · rintro ⟨sessionId, session, known, hslot, hinfo⟩
    refine ⟨(sessionId, session), KeyMap.mem_toList.mpr known, ?_⟩
    obtain ⟨info, hinfo⟩ := Option.isSome_iff_exists.mp hinfo
    simp [hslot, hinfo]

end ApplicationInfoResource

namespace CiSession

variable {s s' : CiSession} {slotId : UInt8}

def Informed (s : CiSession) (slotId : UInt8) : Prop :=
  ∃ (sessionId : UInt16) (session : _), s.resources.applicationInfo.sessions[sessionId]? = some session ∧
    session.slotId = slotId ∧ session.info.isSome

def Confirmed (s : CiSession) (slotId : UInt8) : Prop :=
  ∃ (sessionId : UInt16) (session : _), s.resources.conditionalAccess.sessions[sessionId]? = some session ∧
    session.slotId = slotId ∧ session.caids.isSome

theorem appInfo_isSome : (s.appInfo slotId).isSome ↔ s.Informed slotId :=
  ApplicationInfoResource.info_isSome

theorem Bound.isSession {sessionId : UInt16} {kind : ResourceKind} (h : s.Consistent)
    (hb : s.Bound sessionId slotId kind) (hkind : kind ≠ .mmi) :
    sessionId ∈ s.sessionIds ∧ s.isSession slotId sessionId kind.resourceId = true := by
  obtain ⟨index, session, rfl, live, hslot, hresource⟩ := hb
  refine ⟨List.mem_map.mpr ⟨index, List.mem_range.mpr (Table.lt_of_entry live), rfl⟩, ?_⟩
  have hactive : session.state = .active := by
    cases hstate : session.state with
    | active => rfl
    | closing =>
        have hmmi : session.resourceId = ResourceKind.mmi.resourceId :=
          (h.live index session live).2.2 hstate
        exact absurd (resourceId_injective (hresource.symm.trans hmmi)) hkind
  rw [CiSession.isSession, session_sessionIdOf s (h.index_lt live), live]
  simp [hslot, hresource, hactive]

theorem hasCaInfo_iff (h : s.Consistent) : s.hasCaInfo slotId = true ↔ s.Confirmed slotId := by
  rw [hasCaInfo, List.any_eq_true]
  constructor
  · rintro ⟨sessionId, _, hcaids⟩
    rw [sessionCaids] at hcaids
    split at hcaids
    · rw [ConditionalAccessResource.sessionCaids] at hcaids
      split at hcaids
      · next session known =>
          split at hcaids
          · next hslot => exact ⟨sessionId, session, known, hslot, hcaids⟩
          · cases hcaids
      · cases hcaids
    · cases hcaids
  · rintro ⟨sessionId, session, known, hslot, hcaids⟩
    have hbound : s.Bound sessionId slotId .conditionalAccess := by
      refine h.records sessionId .conditionalAccess slotId ?_
      rw [ResourceRegistry.recordSlot, known, Option.map_some, hslot]
    obtain ⟨hmem, hsession⟩ := hbound.isSession h (by decide)
    refine ⟨sessionId, hmem, ?_⟩
    have hopen : s.isSession slotId sessionId .conditionalAccessSupport = true := hsession
    rw [sessionCaids, if_pos hopen, ConditionalAccessResource.sessionCaids, known]
    dsimp only
    rwa [if_pos hslot]

theorem Consistent.informed (h : s.Consistent) (hi : s.Informed slotId) :
    ∃ sessionId, s.Bound sessionId slotId .applicationInfo := by
  obtain ⟨sessionId, session, known, hslot, _⟩ := hi
  refine ⟨sessionId, h.records sessionId .applicationInfo slotId ?_⟩
  rw [ResourceRegistry.recordSlot, known, Option.map_some, hslot]

theorem Consistent.confirmed (h : s.Consistent) (hi : s.Confirmed slotId) :
    ∃ sessionId, s.Bound sessionId slotId .conditionalAccess := by
  obtain ⟨sessionId, session, known, hslot, _⟩ := hi
  refine ⟨sessionId, h.records sessionId .conditionalAccess slotId ?_⟩
  rw [ResourceRegistry.recordSlot, known, Option.map_some, hslot]

end CiSession

namespace CiController

variable {c c' : CiController} {slotId : UInt8}

theorem camOf_congr (h : c.session.Consistent) (h' : c'.session.Consistent)
    (live : c'.Live slotId ↔ c.Live slotId)
    (informed : c'.session.Informed slotId ↔ c.session.Informed slotId)
    (confirmed : c'.session.Confirmed slotId ↔ c.session.Confirmed slotId) :
    c'.camOf slotId = c.camOf slotId := by
  rw [← CiSession.appInfo_isSome, ← CiSession.appInfo_isSome, ← Bool.eq_iff_iff] at informed
  rw [← CiSession.hasCaInfo_iff h, ← CiSession.hasCaInfo_iff h', ← Bool.eq_iff_iff] at confirmed
  rw [Live, Live, ← Bool.eq_iff_iff] at live
  rw [camOf, camOf, live, informed, confirmed]

theorem camOf_vacant (h : c.session.Consistent) (hs : c.NoSession slotId) :
    c.camOf slotId = .none := by
  have hbound {sessionId : UInt16} {kind : ResourceKind} :
      ¬ c.session.Bound sessionId slotId kind := by
    rintro ⟨index, session, _, live, hslot, _⟩
    exact hs index session live hslot
  have happ : (c.session.appInfo slotId).isSome = false := by
    rw [← Bool.not_eq_true, CiSession.appInfo_isSome]
    intro hi
    obtain ⟨_, hb⟩ := h.informed hi
    exact hbound hb
  have hca : c.session.hasCaInfo slotId = false := by
    rw [← Bool.not_eq_true, CiSession.hasCaInfo_iff h]
    intro hi
    obtain ⟨_, hb⟩ := h.confirmed hi
    exact hbound hb
  rw [camOf, happ, hca]
  cases c.isActive slotId <;> rfl

theorem camOf_idle (hn : ¬ c.Live slotId) : c.camOf slotId = .none := by
  have hactive : c.isActive slotId = false := by
    rw [← Bool.not_eq_true]
    exact hn
  rw [camOf, hactive]
  rfl

end CiController

end LibDvb
