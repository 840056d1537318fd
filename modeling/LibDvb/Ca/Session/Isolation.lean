import LibDvb.Ca.Session.History
import LibDvb.Ca.Session.Run

namespace LibDvb

open Relation

theorem slot_effect {slots : List TransportSlot} {obs : Obs} {slotId : UInt8}
    (h : obs.slot ≠ some slotId) : (obs.effect slots)[slotId.toNat]? = slots[slotId.toNat]? := by
  by_cases hs : slotId.toNat < slots.length
  · rw [getElem?_effect obs (List.getElem?_eq_getElem hs), onSlot_of_ne h, List.getElem?_eq_getElem hs]
  · have hlt : ¬ slotId.toNat < (obs.effect slots).length := by rwa [length_effect]
    rw [List.getElem?_eq_none (Nat.not_lt.mp hs), List.getElem?_eq_none (Nat.not_lt.mp hlt)]

theorem slot_path {P : List Obs → Obs → Prop} {t t' : CiTransport} {slotId : UInt8}
    (h : ReflTransGen (CiTransport.Step P) t t')
    (hP : ∀ trace obs, P trace obs → obs.slot ≠ some slotId) :
    t'.slots[slotId.toNat]? = t.slots[slotId.toNat]? :=
  Path.order (r := fun a b : CiTransport => b.slots[slotId.toNat]? = a.slots[slotId.toNat]?) h
    (fun _ => rfl) (fun hab hbc => hbc.trans hab) fun _ _ ⟨obs, hobs, hmove⟩ => by
      rw [hmove.slots, slot_effect (hP _ obs hobs)]

theorem quiet_slot {A V : UInt8 → Prop} {trace : List Obs} {obs : Obs} {slotId : UInt8}
    (h : obs.Quiet A V trace) (hA : ¬ A slotId) (hV : ¬ V slotId) : obs.slot ≠ some slotId := by
  intro hslot
  cases obs with
  | queued other frame =>
      cases hslot
      exact hA h
  | wrote other frame result callback =>
      cases hslot
      rcases h.2 with hother | hother
      · exact hA hother
      · exact hV hother
  | read frame => exact hV (h slotId hslot)
  | cleared other =>
      cases hslot
      exact hV h
  | taken other =>
      cases hslot
      exact hV h
  | apdu other sessionId tag body =>
      cases hslot
      exact hA h.1
  | dispatched other spdu =>
      cases hslot
      exact hA h
  | readFailed error => cases hslot
  | noFrame => cases hslot
  | _ => exact h.elim

theorem sends_slot {strict : Prop} {trace : List Obs} {obs : Obs} {slotId other : UInt8}
    (h : Sends strict other trace obs) (hne : other ≠ slotId) : obs.slot ≠ some slotId := by
  intro hslot
  obtain ⟨hsends, _⟩ := h
  cases obs with
  | queued sender frame =>
      cases hslot
      exact hne hsends.symm
  | wrote sender frame result callback =>
      cases hslot
      exact hne hsends.symm
  | _ => exact hsends.elim

theorem sendsPmt_slot {trace : List Obs} {obs : Obs} {slotId other : UInt8} {sessionId : UInt16}
    (h : SendsPmt other sessionId trace obs) (hne : other ≠ slotId) : obs.slot ≠ some slotId := by
  rcases h with hsends | ⟨body, rfl⟩
  · exact sends_slot hsends hne
  · exact fun hslot => hne (Option.some.inj hslot)

namespace CiSession

structure Untouched (slotId : UInt8) (s s' : CiSession) : Prop where
  transport : s'.transport.slots[slotId.toNat]? = s.transport.slots[slotId.toNat]?
  entries : ∀ index session, session.slotId = slotId →
    (s'.entry index = some session ↔ s.entry index = some session)
  applicationInfo : KeyMap.SameOn (fun record : ApplicationInfoSession => record.slotId = slotId)
    s.resources.applicationInfo.sessions s'.resources.applicationInfo.sessions
  conditionalAccess : KeyMap.SameOn (fun record : ConditionalAccessSession => record.slotId = slotId)
    s.resources.conditionalAccess.sessions s'.resources.conditionalAccess.sessions
  dateTime : KeyMap.SameOn (fun record : DateTimeSession => record.slotId = slotId)
    s.resources.dateTime.sessions s'.resources.dateTime.sessions
  fragments : ∀ index session, s.entry index = some session → session.slotId = slotId →
    s'.resources.mmi.fragments[sessionIdOf index]? = s.resources.mmi.fragments[sessionIdOf index]?

variable {A V : UInt8 → Prop} {s s' s'' : CiSession} {slotId : UInt8} {index : Nat} {session : Session}
  {kind : ResourceKind}

theorem Untouched.refl (s : CiSession) : Untouched slotId s s where
  transport := rfl
  entries _ _ _ := Iff.rfl
  applicationInfo := .refl _
  conditionalAccess := .refl _
  dateTime := .refl _
  fragments _ _ _ _ := rfl

theorem Untouched.trans (h : Untouched slotId s s') (h' : Untouched slotId s' s'') :
    Untouched slotId s s'' where
  transport := h'.transport.trans h.transport
  entries index session hslot := (h'.entries index session hslot).trans (h.entries index session hslot)
  applicationInfo := h.applicationInfo.trans h'.applicationInfo
  conditionalAccess := h.conditionalAccess.trans h'.conditionalAccess
  dateTime := h.dateTime.trans h'.dateTime
  fragments index session live hslot :=
    (h'.fragments index session ((h.entries index session hslot).mpr live) hslot).trans
      (h.fragments index session live hslot)

theorem Untouched.of_transport {s' : CiSession} (sessions : s'.sessions = s.sessions)
    (resources : s'.resources = s.resources)
    (transport : s'.transport.slots[slotId.toNat]? = s.transport.slots[slotId.toNat]?) :
    Untouched slotId s s' where
  transport := transport
  entries index session _ := by rw [entry, sessions, entry]
  applicationInfo := by
    rw [resources]
    exact .refl _
  conditionalAccess := by
    rw [resources]
    exact .refl _
  dateTime := by
    rw [resources]
    exact .refl _
  fragments _ _ _ _ := by rw [resources]

theorem Consistent.no_record (h : s.Consistent) (free : s.entry index = none) (hindex : index < 65535)
    (kind : ResourceKind) : s.resources.recordSlot (sessionIdOf index) kind = none := by
  by_contra hne
  obtain ⟨slotId, hrecord⟩ := Option.ne_none_iff_exists'.mp hne
  obtain ⟨other, session, hid, live, _⟩ := h.records _ _ _ hrecord
  have hsame := sessionIdOf_inj hindex (h.index_lt live) hid
  subst hsame
  rw [free] at live
  cases live

theorem Consistent.no_fragment (h : s.Consistent) (free : s.entry index = none)
    (hindex : index < 65535) : s.resources.mmi.fragments[sessionIdOf index]? = none := by
  by_contra hne
  obtain ⟨object, hfragment⟩ := Option.ne_none_iff_exists'.mp hne
  obtain ⟨slotId, other, session, hid, live, _⟩ := h.fragments _ _ hfragment
  have hsame := sessionIdOf_inj hindex (h.index_lt live) hid
  subst hsame
  rw [free] at live
  cases live

theorem untouched_allocated {other : UInt8} (hne : other ≠ slotId)
    (kind : ResourceKind) : Untouched slotId s (s.allocated other kind) where
  transport := rfl
  entries index session hslot := by
    rw [entry_allocated]
    split
    · next hfresh =>
        rw [← hfresh, entry_freshIndex]
        constructor
        · rintro ⟨⟩
          exact absurd hslot hne
        · nofun
    · rfl
  applicationInfo := .refl _
  conditionalAccess := .refl _
  dateTime := .refl _
  fragments _ _ _ _ := rfl

theorem untouched_opened (h : s.Consistent) {other : UInt8} (hne : other ≠ slotId) {t : CiTransport}
    (transport : t.slots[slotId.toNat]? = s.transport.slots[slotId.toNat]?) :
    Untouched slotId s (s.opened other kind t) := by
  have hnone (k : ResourceKind) : s.resources.recordSlot (sessionIdOf s.freshIndex) k = none :=
    h.no_record (entry_freshIndex s) h.freshIndex_lt k
  have hallocated := untouched_allocated (s := s) hne kind
  refine ⟨transport, hallocated.entries, ?_, ?_, ?_, ?_⟩
  · cases kind with
    | applicationInfo =>
        refine KeyMap.sameOn_insert hne fun record hrecord => ?_
        have hsome := hnone .applicationInfo
        simp [ResourceRegistry.recordSlot, hrecord] at hsome
    | _ => exact .refl _
  · cases kind with
    | conditionalAccess =>
        refine KeyMap.sameOn_insert hne fun record hrecord => ?_
        have hsome := hnone .conditionalAccess
        simp [ResourceRegistry.recordSlot, hrecord] at hsome
    | _ => exact .refl _
  · cases kind with
    | dateTime =>
        refine KeyMap.sameOn_insert hne fun record hrecord => ?_
        have hsome := hnone .dateTime
        simp [ResourceRegistry.recordSlot, hrecord] at hsome
    | _ => exact .refl _
  · intro index session live hslot
    cases kind <;> rfl

theorem untouched_freed (h : s.Consistent) (live : s.entry index = some session)
    (hne : session.slotId ≠ slotId) : Untouched slotId s (s.freed index session) := by
  obtain ⟨kind, hlookup, hkind⟩ := lookup_live h live
  have hresources : (s.freed index session).resources =
      s.resources.onClose (sessionIdOf index) kind := by
    simp only [CiSession.freed, hlookup]
  have hrecord {record : UInt8} (hrecord : s.resources.recordSlot (sessionIdOf index) kind = some record) :
      record ≠ slotId := by
    rw [(h.record_slot live hrecord).1]
    exact hne
  refine ⟨rfl, ?_, ?_, ?_, ?_, ?_⟩
  · intro other session' hslot
    rw [entry_freed live]
    split
    · next heq =>
        rw [← heq, live]
        constructor
        · rintro ⟨⟩
        · rintro ⟨⟩
          exact absurd hslot hne
    · rfl
  · rw [hresources]
    cases kind with
    | applicationInfo =>
        refine KeyMap.sameOn_erase fun record hknown => ?_
        exact hrecord (congrArg (Option.map ApplicationInfoSession.slotId) hknown)
    | _ => exact .refl _
  · rw [hresources]
    cases kind with
    | conditionalAccess =>
        refine KeyMap.sameOn_erase fun record hknown => ?_
        exact hrecord (congrArg (Option.map ConditionalAccessSession.slotId) hknown)
    | _ => exact .refl _
  · rw [hresources]
    cases kind with
    | dateTime =>
        refine KeyMap.sameOn_erase fun record hknown => ?_
        exact hrecord (congrArg (Option.map DateTimeSession.slotId) hknown)
    | _ => exact .refl _
  · intro other session' live' hslot
    rw [hresources]
    cases kind with
    | mmi =>
        simp only [ResourceRegistry.onClose, MmiResource.onClose, KeyMap.get_erase]
        rw [if_neg]
        intro hid
        have hsame := sessionIdOf_inj (h.index_lt live) (h.index_lt live') hid
        subst hsame
        rw [live, Option.some.injEq] at live'
        exact hne (live' ▸ hslot)
    | _ => rfl

theorem untouched_turned (live : s.entry index = some session) (hne : session.slotId ≠ slotId)
    (state : SessionState) : Untouched slotId s (s.turned index session state) where
  transport := rfl
  entries other session' hslot := by
    rw [entry_turned live]
    split
    · next heq =>
        rw [← heq, live]
        constructor
        · rintro ⟨⟩
          exact absurd hslot hne
        · rintro ⟨⟩
          exact absurd hslot hne
    · rfl
  applicationInfo := .refl _
  conditionalAccess := .refl _
  dateTime := .refl _
  fragments _ _ _ _ := rfl

theorem untouched_putCa {known record : ConditionalAccessSession} {sessionId : UInt16}
    (hknown : s.resources.conditionalAccess.sessions[sessionId]? = some known)
    (hne : known.slotId ≠ slotId) (slot : record.slotId = known.slotId) {t : CiTransport}
    (transport : t.slots[slotId.toNat]? = s.transport.slots[slotId.toNat]?) (events : List CaEvent) :
    Untouched slotId s { s.on t with resources := s.resources.putCa sessionId record, events } where
  transport := transport
  entries _ _ _ := Iff.rfl
  applicationInfo := .refl _
  conditionalAccess := by
    refine KeyMap.sameOn_insert (slot ▸ hne) fun old hold => ?_
    rw [hknown, Option.some.injEq] at hold
    exact hold ▸ hne
  dateTime := .refl _
  fragments _ _ _ _ := rfl

theorem Move.untouched (h : s.Consistent) (hm : Move A V s s') (hA : ¬ A slotId) (hV : ¬ V slotId) :
    Untouched slotId s s' := by
  have hne {p : UInt8 → Prop} {other : UInt8} (hslot : p other) (hp : ¬ p slotId) : other ≠ slotId := by
    rintro rfl
    exact hp hslot
  cases hm with
  | @link callback obs t move quiet =>
      have hslots : t.slots = obs.effect s.transport.slots := move.slots
      have hkept := @slot_effect s.transport.slots _ _ (quiet_slot quiet hA hV)
      rw [← hslots] at hkept
      exact .of_transport rfl rfl hkept
  | event plain slot => exact .of_transport rfl rfl rfl
  | opened slot notice bound count path whole =>
      exact untouched_opened h (hne slot hA) (slot_path path fun _ _ hs => sends_slot hs (hne slot hA))
  | openFailed slot bound count path broken =>
      have hslots := slot_path path fun _ _ hs => sends_slot hs (hne slot hA)
      exact (untouched_allocated (hne slot hA) _).trans (.of_transport rfl rfl hslots)
  | closed live slot => exact untouched_freed h live (hne slot hV)
  | turned state live mmi slot => exact untouched_turned live (hne slot hV) state
  | appInfo info known slot =>
      refine ⟨rfl, fun _ _ _ => Iff.rfl, ?_, .refl _, .refl _, fun _ _ _ _ => rfl⟩
      refine KeyMap.sameOn_insert (hne slot hV) fun record hrecord => ?_
      rw [known, Option.some.injEq] at hrecord
      exact hrecord ▸ hne slot hV
  | caInfo known slot notice path whole =>
      have hslots := slot_path path.path fun _ _ hs => sendsPmt_slot hs (hne slot hA)
      refine untouched_putCa known (hne slot hA) ?_ hslots _
      rfl
  | caInfoFailed known slot path broken =>
      have hslots := slot_path path.path fun _ _ hs => sendsPmt_slot hs (hne slot hA)
      refine untouched_putCa known (hne slot hA) ?_ hslots _
      rfl
  | @dateTime self keys others =>
      refine ⟨rfl, fun _ _ _ => Iff.rfl, .refl _, .refl _, ?_, fun _ _ _ _ => rfl⟩
      intro sessionId record hslot
      have hfixed : ¬ A record.slotId := fun ha => hA (hslot ▸ ha)
      constructor
      · intro hrecord
        have hslots := keys sessionId
        cases hold : s.resources.dateTime.sessions[sessionId]? with
        | none =>
            rw [hold, hrecord] at hslots
            cases hslots
        | some old =>
            have hold_slot : old.slotId = record.slotId := by
              rw [hold, hrecord] at hslots
              exact (Option.some.inj hslots).symm
            have hkept := others sessionId old hold (hold_slot ▸ hfixed)
            rw [← hkept]
            exact hrecord
      · intro hrecord
        exact others sessionId record hrecord hfixed
  | @mmi index session fragment live mmi slot =>
      refine ⟨rfl, fun _ _ _ => Iff.rfl, .refl _, .refl _, .refl _, ?_⟩
      intro other session' live' hslot
      have hid : sessionIdOf index ≠ sessionIdOf other := by
        intro hid
        have hsame := sessionIdOf_inj (h.index_lt live) (h.index_lt live') hid
        subst hsame
        rw [live, Option.some.injEq] at live'
        exact hne slot hV (live' ▸ hslot)
      cases fragment with
      | none =>
          simp only [ResourceRegistry.putFragment, KeyMap.get_erase, if_neg hid]
      | some object =>
          simp only [ResourceRegistry.putFragment, KeyMap.get_insert, if_neg hid]

theorem Path.untouched (h : s.Consistent) (hpath : Path A V s s') (hA : ¬ A slotId) (hV : ¬ V slotId) :
    Untouched slotId s s' := by
  induction hpath with
  | refl => exact .refl s
  | tail hpath hmove ih => exact ih.trans (hmove.untouched (h.path hpath) hA hV)

section Views

variable {sessionId : UInt16} {resourceId : ResourceId}

theorem session_eq_entry (s : CiSession) (hne : sessionId ≠ 0) :
    s.session sessionId = s.entry (sessionId.toNat - 1) := if_neg hne

theorem Untouched.sessions (h : Untouched slotId s s') (sessionId : UInt16) (session : Session)
    (hslot : session.slotId = slotId) :
    s'.session sessionId = some session ↔ s.session sessionId = some session := by
  by_cases hzero : sessionId = 0
  · simp [CiSession.session, hzero]
  · rw [session_eq_entry s' hzero, session_eq_entry s hzero]
    exact h.entries _ session hslot

theorem isSession_iff : s.isSession slotId sessionId resourceId = true ↔
    ∃ session, s.session sessionId = some session ∧ session.slotId = slotId ∧
      session.resourceId.base = resourceId.base ∧ session.state = .active := by
  rw [isSession]
  cases s.session sessionId with
  | none => simp
  | some session => simp [and_assoc]

theorem Untouched.isSession (h : Untouched slotId s s') :
    s'.isSession slotId sessionId resourceId = s.isSession slotId sessionId resourceId := by
  rw [Bool.eq_iff_iff, isSession_iff, isSession_iff]
  constructor
  · rintro ⟨session, hsession, hslot, hrest⟩
    exact ⟨session, (h.sessions sessionId session hslot).mp hsession, hslot, hrest⟩
  · rintro ⟨session, hsession, hslot, hrest⟩
    exact ⟨session, (h.sessions sessionId session hslot).mpr hsession, hslot, hrest⟩

theorem recordCaids_iff {r : ConditionalAccessResource} {caids : List UInt16} :
    r.sessionCaids slotId sessionId = some caids ↔
      ∃ record, r.sessions[sessionId]? = some record ∧ record.slotId = slotId ∧
        record.caids = some caids := by
  rw [ConditionalAccessResource.sessionCaids]
  cases r.sessions[sessionId]? with
  | none => simp
  | some record => simp

theorem Untouched.sessionCaids (h : Untouched slotId s s') (sessionId : UInt16) :
    s'.sessionCaids slotId sessionId = s.sessionCaids slotId sessionId := by
  have hrecord : s'.resources.conditionalAccess.sessionCaids slotId sessionId =
      s.resources.conditionalAccess.sessionCaids slotId sessionId := by
    refine Option.ext fun caids => ?_
    rw [recordCaids_iff, recordCaids_iff]
    constructor
    · rintro ⟨record, hknown, hslot, hcaids⟩
      exact ⟨record, (h.conditionalAccess sessionId record hslot).mp hknown, hslot, hcaids⟩
    · rintro ⟨record, hknown, hslot, hcaids⟩
      exact ⟨record, (h.conditionalAccess sessionId record hslot).mpr hknown, hslot, hcaids⟩
  rw [CiSession.sessionCaids, CiSession.sessionCaids, h.isSession, hrecord]

theorem Untouched.appInfo (h : Untouched slotId s s') : s'.appInfo slotId = s.appInfo slotId := by
  have hfilter := @KeyMap.SameOn.filter ApplicationInfoSession _ _
    (fun record => decide (record.slotId = slotId)) fun k record hslot =>
      h.applicationInfo k record (of_decide_eq_true hslot)
  have hcandidates (r : ApplicationInfoResource) : r.candidates slotId =
      (r.sessions.filter fun _ record => decide (record.slotId = slotId)).toList.filterMap
        fun entry => entry.2.info.map fun info => (entry.1, entry.2.revision, info) := by
    rw [Std.ExtTreeMap.toList_filter, List.filterMap_filter, ApplicationInfoResource.candidates]
    congr 1
    funext entry
    simp
  simp only [CiSession.appInfo, ApplicationInfoResource.info, ApplicationInfoResource.infoSession,
    hcandidates, hfilter]

theorem Consistent.flatMap_caids (h : s.Consistent) (slotId : UInt8) :
    (s.sessionIds.flatMap fun sessionId => (s.sessionCaids slotId sessionId).getD []) =
      ((List.range 4080).map sessionIdOf).flatMap fun sessionId =>
        (s.sessionCaids slotId sessionId).getD [] := by
  obtain ⟨more, hmore⟩ := Nat.exists_eq_add_of_le h.size_le
  rw [hmore, List.range_add, List.map_append, List.flatMap_append, sessionIds, List.self_eq_append_right,
    List.flatMap_eq_nil_iff]
  intro sessionId hmem
  simp only [List.map_map, List.mem_map, List.mem_range, Function.comp_apply] at hmem
  obtain ⟨extra, hextra, rfl⟩ := hmem
  have hnone : s.session (sessionIdOf (s.sessions.length + extra)) = none := by
    rw [session_sessionIdOf s (by omega)]
    exact Table.entry_of_length_le (by omega)
  simp [CiSession.sessionCaids, CiSession.isSession, hnone]

theorem Untouched.caids (h : Untouched slotId s s') (hs : s.Consistent) (hs' : s'.Consistent) :
    s'.caids slotId = s.caids slotId := by
  rw [CiSession.caids, CiSession.caids, hs.flatMap_caids, hs'.flatMap_caids]
  simp only [h.sessionCaids]

end Views

structure Isolated (slotId : UInt8) (s s' : CiSession) : Prop where
  transport : s'.transport.slots[slotId.toNat]? = s.transport.slots[slotId.toNat]?
  sessions : ∀ sessionId session, session.slotId = slotId →
    (s'.session sessionId = some session ↔ s.session sessionId = some session)
  appInfo : s'.appInfo slotId = s.appInfo slotId
  caids : s'.caids slotId = s.caids slotId
  sessionCaids : ∀ sessionId, s'.sessionCaids slotId sessionId = s.sessionCaids slotId sessionId
  selected : ∀ (sessionId : UInt16) (record : ConditionalAccessSession), record.slotId = slotId →
    (s'.resources.conditionalAccess.sessions[sessionId]? = some record ↔
      s.resources.conditionalAccess.sessions[sessionId]? = some record)
  fragments : ∀ sessionId session, s.session sessionId = some session → session.slotId = slotId →
    s'.resources.mmi.fragments[sessionId]? = s.resources.mmi.fragments[sessionId]?
  dateTime : ∀ (sessionId : UInt16) (record : DateTimeSession), record.slotId = slotId →
    (s'.resources.dateTime.sessions[sessionId]? = some record ↔
      s.resources.dateTime.sessions[sessionId]? = some record)

theorem Untouched.isolated (h : Untouched slotId s s') (hs : s.Consistent) (hs' : s'.Consistent) :
    Isolated slotId s s' where
  transport := h.transport
  sessions := h.sessions
  appInfo := h.appInfo
  caids := h.caids hs hs'
  sessionCaids := h.sessionCaids
  selected := h.conditionalAccess
  fragments sessionId session hsession hslot := by
    obtain ⟨index, _, _, rfl, live⟩ := session_eq_some hsession
    exact h.fragments index session live hslot
  dateTime := h.dateTime

end CiSession

open CiSession Act

inductive SessionLabel.ForSlot (slotId : UInt8) (label : SessionLabel) : Prop
  | recv {accept frame} (op : label.op = .recv accept)
      (first : label.link.reads.head? = some (.frame frame)) (slot : frame.head? = some slotId)
  | dropSlot (op : label.op = .dropSlot slotId)

theorem SessionStep.path_slot {s s' : CiSession} {label : SessionLabel} {slotId : UInt8}
    (h : s.Consistent) (hstep : SessionStep s label s') (hlabel : label.ForSlot slotId) :
    Path (· = slotId) (· = slotId) (s.called label.link) s' := by
  have hc := h.called label.link
  have hp := pending_called s label.link
  rw [SessionStep] at hstep
  have hpath : ∀ {α : Type} {m : Act Error CiSession α} {Q : α → CiSession → Prop}
      {E : Error → CiSession → Prop},
      Along (Move (· = slotId) (· = slotId)) m Q E (s.called label.link) →
      wp m (fun _ => Path (· = slotId) (· = slotId) (s.called label.link))
        (fun _ => Path (· = slotId) (· = slotId) (s.called label.link)) (s.called label.link) :=
    fun hm => wp_mono hm (fun _ _ hs => hs.1) fun _ _ hs => hs.1
  suffices hop : wp label.op.run (fun _ => Path (· = slotId) (· = slotId) (s.called label.link))
      (fun _ => Path (· = slotId) (· = slotId) (s.called label.link)) (s.called label.link) by
    have hafter := wp_after hop
    rwa [hstep] at hafter
  cases hlabel with
  | @recv accept frame op first slot =>
      rw [op]
      refine wp_map.mpr (hpath (recvFiltered_along hc hp (fun _ _ hV => hV) ?_))
      intro result hhead other hfirst
      have hresult : some result = some (.frame frame) := hhead.symm.trans first
      rw [Option.some.inj hresult] at hfirst
      exact Option.some.inj (hfirst.symm.trans slot)
  | dropSlot op =>
      rw [op]
      by_cases hs : slotId.toNat < (s.called label.link).transport.slots.length
      · exact hpath (dropSlot_along hc rfl hs)
      · refine wp_mono (dropSlot_invalid hc hs) (fun _ s₁ hs₁ => ?_) fun _ _ hf => hf.elim
        rw [hs₁]
        exact .refl

theorem slot_isolation {slotsNum : UInt8} {labels : List SessionLabel} {s s' : CiSession}
    {label : SessionLabel} {slotId : UInt8} (h : SessionRun slotsNum labels s)
    (hstep : SessionStep s label s') (hlabel : label.ForSlot slotId) :
    (∀ other, other ≠ slotId → Isolated other s s') ∧
      ∃ new, s'.events = s.events ++ new ∧ ∀ e ∈ new, e.slotId = slotId := by
  have hc := h.consistent.1
  have hpath := hstep.path_slot hc hlabel
  refine ⟨fun other hne => ?_, hpath.reported⟩
  have hcalled : Untouched other s (s.called label.link) := .of_transport rfl rfl rfl
  have huntouched : Untouched other s s' := hcalled.trans (hpath.untouched (hc.called label.link) hne hne)
  exact huntouched.isolated hc (hstep.consistent hc)

-- The module in slot 1 opens a Conditional Access session, and the module in slot 0 asks to close it.
def caOpened : List (CaDevice × SessionOp) := [framed 1 [0x91, 4, 0x00, 0x03, 0x00, 0x41]]

theorem caOpened_isSome : (SessionOp.trail 2 caOpened).isSome := by decide +kernel

def afterCaOpened : List SessionLabel × CiSession := (SessionOp.trail 2 caOpened).get caOpened_isSome

theorem caOpened_run : SessionRun 2 afterCaOpened.1 afterCaOpened.2 := SessionRun.of_trail caOpened_isSome

def foreignClose : CaDevice × SessionOp := framed 0 [0x95, 2, 0, 1]

theorem foreignClose_isSome : (SessionOp.next afterCaOpened.2 foreignClose).isSome := by decide +kernel

def afterForeignClose : SessionLabel × CiSession :=
  (SessionOp.next afterCaOpened.2 foreignClose).get foreignClose_isSome

theorem foreignClose_step : SessionStep afterCaOpened.2 afterForeignClose.1 afterForeignClose.2 :=
  SessionOp.next_step (Option.some_get foreignClose_isSome).symm

theorem foreignClose_label : afterForeignClose.1.ForSlot 0 := by
  obtain ⟨hlink, hop⟩ := SessionOp.next_call (Option.some_get foreignClose_isSome).symm
  have hfirst : afterForeignClose.1.link.reads.head? =
      some (.frame (moduleFrame 0 [0x95, 2, 0, 1])) := by
    rw [show afterForeignClose.1.link = foreignClose.1 from hlink]
    rfl
  exact .recv hop hfirst rfl

theorem slot_isolation_foreign_close :
    (∀ other, other ≠ 0 → Isolated other afterCaOpened.2 afterForeignClose.2) ∧
      ∃ new, afterForeignClose.2.events = afterCaOpened.2.events ++ new ∧ ∀ e ∈ new, e.slotId = 0 :=
  slot_isolation caOpened_run foreignClose_step foreignClose_label

end LibDvb
