import LibDvb.Ca.Resource.ApplicationInfo

namespace LibDvb

open Act Outcome

-- An APPLICATION_INFO object that was received, with its number among all of them.
structure Heard where
  order : Nat
  sessionId : UInt16
  slotId : UInt8
  info : ApplicationInfo
  deriving DecidableEq

structure InfoLog where
  count : Nat := 0
  heard : List Heard := []

namespace InfoLog

def hear (log : InfoLog) (sessionId : UInt16) (slotId : UInt8) (info : ApplicationInfo) : InfoLog where
  count := log.count + 1
  heard := log.heard ++ [⟨log.count + 1, sessionId, slotId, info⟩]

def forget (log : InfoLog) (live : Heard → Bool) : InfoLog where
  count := log.count
  heard := log.heard.filter live

def ofSlot (log : InfoLog) (slotId : UInt8) : List Heard := log.heard.filter fun e => e.slotId = slotId

def ofSession (log : InfoLog) (sessionId : UInt16) : List Heard :=
  log.heard.filter fun e => e.sessionId = sessionId

theorem ofSession_hear (log : InfoLog) (sessionId other : UInt16) (slotId : UInt8) (info : ApplicationInfo) :
    (log.hear sessionId slotId info).ofSession other = log.ofSession other ++
      if sessionId = other then [⟨log.count + 1, sessionId, slotId, info⟩] else [] := by
  simp only [ofSession, hear, List.filter_append, List.filter_cons, List.filter_nil, decide_eq_true_eq]

end InfoLog

namespace ApplicationInfoResource

section Ranking

variable {entries : List (UInt16 × Nat × ApplicationInfo)} {x : UInt16 × Nat × ApplicationInfo}

def later (best : Option (UInt16 × Nat × ApplicationInfo)) (entry : UInt16 × Nat × ApplicationInfo) :
    Option (UInt16 × Nat × ApplicationInfo) :=
  match best with
  | none => some entry
  | some current => if outranks current entry then some current else some entry

theorem outranks_of_lt {a b : UInt16 × Nat × ApplicationInfo} (h : b.2.1 < a.2.1) : outranks a b = true := by
  simp [outranks, h]

theorem not_outranks_of_lt {a b : UInt16 × Nat × ApplicationInfo} (h : a.2.1 < b.2.1) : outranks a b = false := by
  simp [outranks, Nat.not_lt_of_lt h, Nat.ne_of_lt h]

theorem later_greatest {best : Option (UInt16 × Nat × ApplicationInfo)} {y : UInt16 × Nat × ApplicationInfo}
    (hbest : ∀ a, best = some a → a = x ∨ a.2.1 < x.2.1) (hy : y = x ∨ y.2.1 < x.2.1) :
    ((best = some x ∨ y = x) → later best y = some x) ∧ ∀ a, later best y = some a → a = x ∨ a.2.1 < x.2.1 := by
  cases best with
  | none =>
      refine ⟨fun h => ?_, fun a ha => ?_⟩
      · rcases h with h | rfl
        · cases h
        · rfl
      · cases ha
        exact hy
  | some current =>
      have hcurrent := hbest current rfl
      rw [later]
      rcases hcurrent with rfl | hlt <;> rcases hy with rfl | hylt
      · simp
      · simp [outranks_of_lt hylt]
      · simp [not_outranks_of_lt hlt]
      · refine ⟨fun h => ?_, fun a ha => ?_⟩
        · rcases h with h | rfl
          · rw [Option.some.injEq] at h
            rw [h] at hlt
            exact absurd hlt (Nat.lt_irrefl _)
          · exact absurd hylt (Nat.lt_irrefl _)
        · split at ha <;> cases ha
          · exact .inr hlt
          · exact .inr hylt

theorem foldl_greatest (best : Option (UInt16 × Nat × ApplicationInfo)) (hmem : best = some x ∨ x ∈ entries)
    (hbest : ∀ a, best = some a → a = x ∨ a.2.1 < x.2.1) (hmax : ∀ y ∈ entries, y = x ∨ y.2.1 < x.2.1) :
    entries.foldl later best = some x := by
  induction entries generalizing best with
  | nil =>
      rcases hmem with h | h
      · exact h
      · cases h
  | cons y rest ih =>
      obtain ⟨hreached, hall⟩ := later_greatest hbest (hmax y List.mem_cons_self)
      refine ih (later best y) ?_ hall fun z hz => hmax z (List.mem_cons_of_mem _ hz)
      rcases hmem with h | h
      · exact .inl (hreached (.inl h))
      · rcases List.mem_cons.mp h with rfl | hrest
        · exact .inl (hreached (.inr rfl))
        · exact .inr hrest

theorem maxByKey_of_greatest (hmem : x ∈ entries) (hmax : ∀ y ∈ entries, y = x ∨ y.2.1 < x.2.1) :
    maxByKey outranks entries = some x :=
  foldl_greatest none (.inr hmem) nofun hmax

end Ranking

def applicationOf (slotId : UInt8) (tag : ApduTag) (body : Bytes) : Option ApplicationInfo :=
  if tag = .applicationInfo then
    match parseApplicationInfo slotId body with
    | .ok info => some info
    | _ => none
  else
    none

def learn (self : ApplicationInfoResource) (sessionId : UInt16) (info : ApplicationInfo) :
    ApplicationInfoResource :=
  match self.sessions[sessionId]? with
  | none => self
  | some session =>
      { sessions := self.sessions.insert sessionId
          { session with info := some info, revision := min (self.revision + 1) u64Max }
        revision := min (self.revision + 1) u64Max }

structure Reflects (r : ApplicationInfoResource) (log : InfoLog) : Prop where
  revision : r.revision = log.count
  orders : log.heard.Pairwise fun e e' => e.order < e'.order
  bound : ∀ e ∈ log.heard, e.order ≤ log.count
  known : ∀ e ∈ log.heard, ∃ record, r.sessions[e.sessionId]? = some record ∧ record.slotId = e.slotId
  latest : ∀ (sessionId : UInt16) record, r.sessions[sessionId]? = some record →
    (log.ofSession sessionId).getLast?.map (fun e => (e.order, e.info)) =
      record.info.map fun info => (record.revision, info)

variable {self self' : ApplicationInfoResource} {log : InfoLog} {sessionId : UInt16} {slotId : UInt8}
  {info : ApplicationInfo}

theorem Reflects.new : Reflects {} {} where
  revision := rfl
  orders := .nil
  bound := nofun
  known := nofun
  latest sessionId record hrecord := by
    cases (KeyMap.get_empty sessionId).symm.trans hrecord

theorem Reflects.learn {record : ApplicationInfoSession} (h : Reflects self log)
    (hrecord : self.sessions[sessionId]? = some record) (hslot : record.slotId = slotId)
    (hcount : log.count < u64Max) : Reflects (self.learn sessionId info) (log.hear sessionId slotId info) := by
  have hrevision : min (self.revision + 1) u64Max = log.count + 1 := by
    rw [h.revision]
    omega
  rw [ApplicationInfoResource.learn, hrecord, hrevision]
  constructor
  · rfl
  · refine List.pairwise_append.mpr ⟨h.orders, List.pairwise_singleton _ _, fun e he e' he' => ?_⟩
    rw [List.mem_singleton.mp he']
    exact Nat.lt_succ_of_le (h.bound e he)
  · intro e he
    rcases List.mem_append.mp he with hold | hnew
    · exact Nat.le_succ_of_le (h.bound e hold)
    · rw [List.mem_singleton.mp hnew]
      exact Nat.le_refl _
  · intro e he
    rw [KeyMap.get_insert]
    rcases List.mem_append.mp he with hold | hnew
    · obtain ⟨known, hknown, hknownSlot⟩ := h.known e hold
      split
      · next heq =>
          rw [← heq, hrecord, Option.some.injEq] at hknown
          exact ⟨_, rfl, by rw [← hknownSlot, ← hknown]⟩
      · exact ⟨known, hknown, hknownSlot⟩
    · rw [List.mem_singleton.mp hnew, if_pos rfl]
      exact ⟨_, rfl, hslot⟩
  · intro other found hfound
    rw [KeyMap.get_insert] at hfound
    rw [InfoLog.ofSession_hear]
    split at hfound
    · next heq =>
        rw [Option.some.injEq] at hfound
        subst hfound
        rw [if_pos heq, List.getLast?_concat]
        rfl
    · next hne =>
        rw [if_neg hne, List.append_nil]
        exact h.latest other found hfound

structure Retains (r r' : ApplicationInfoResource) (fresh gone : UInt16 → Prop) : Prop where
  revision : r'.revision = r.revision
  old : ∀ (sessionId : UInt16) record, r'.sessions[sessionId]? = some record →
    r.sessions[sessionId]? = some record ∨ (fresh sessionId ∧ record.info = none)
  kept : ∀ (sessionId : UInt16) record, r.sessions[sessionId]? = some record →
    r'.sessions[sessionId]? = some record ∨ gone sessionId

theorem Reflects.forget {fresh gone : UInt16 → Prop} {live : Heard → Bool} (h : Reflects self log)
    (retains : Retains self self' fresh gone)
    (hfresh : ∀ sessionId, fresh sessionId → self.sessions[sessionId]? = none)
    (hgone : ∀ e ∈ log.heard, gone e.sessionId → live e = false)
    (hlive : ∀ e ∈ log.heard, ∀ record, self'.sessions[e.sessionId]? = some record →
      record.slotId = e.slotId → live e = true) :
    Reflects self' (log.forget live) := by
  constructor
  · exact retains.revision.trans h.revision
  · exact h.orders.filter live
  · intro e he
    exact h.bound e (List.mem_filter.mp he).1
  · intro e he
    obtain ⟨hmem, halive⟩ := List.mem_filter.mp he
    obtain ⟨record, hrecord, hslot⟩ := h.known e hmem
    rcases retains.kept e.sessionId record hrecord with hkept | hlost
    · exact ⟨record, hkept, hslot⟩
    · rw [hgone e hmem hlost] at halive
      cases halive
  · intro sessionId record hrecord
    rcases retains.old sessionId record hrecord with hold | ⟨hnew, hnone⟩
    · rw [← h.latest sessionId record hold, InfoLog.ofSession, InfoLog.forget, List.filter_filter]
      rw [InfoLog.ofSession, List.filter_congr fun e he => ?_]
      rw [Bool.and_eq_left_iff_imp, decide_eq_true_eq]
      rintro rfl
      obtain ⟨known, hknown, hslot⟩ := h.known e he
      rw [hold, Option.some.injEq] at hknown
      exact hlive e he record hrecord (hknown ▸ hslot)
    · have hempty : (log.forget live).ofSession sessionId = [] := by
        refine List.filter_eq_nil_iff.mpr fun e he => ?_
        rw [decide_eq_true_eq]
        rintro rfl
        obtain ⟨known, hknown, _⟩ := h.known e (List.mem_filter.mp he).1
        rw [hfresh _ hnew] at hknown
        cases hknown
      rw [hempty, hnone]
      rfl

theorem mem_candidates {revision : Nat} : (sessionId, revision, info) ∈ self.candidates slotId ↔
    ∃ record, self.sessions[sessionId]? = some record ∧ record.slotId = slotId ∧ record.info = some info ∧
      record.revision = revision := by
  rw [candidates, List.mem_filterMap]
  constructor
  · rintro ⟨⟨k, record⟩, hmem, hentry⟩
    dsimp only at hentry
    split at hentry
    · next hslot =>
        obtain ⟨found, hfound, heq⟩ := Option.map_eq_some_iff.mp hentry
        cases heq
        exact ⟨record, KeyMap.mem_toList.mp hmem, hslot, hfound, rfl⟩
    · cases hentry
  · rintro ⟨record, hrecord, hslot, hinfo, rfl⟩
    refine ⟨(sessionId, record), KeyMap.mem_toList.mpr hrecord, ?_⟩
    simp [hslot, hinfo]

theorem last_greatest {l : List Heard} (horders : l.Pairwise fun e e' => e.order < e'.order) {e : Heard}
    (hlast : l.getLast? = some e) : ∀ e' ∈ l, e' = e ∨ e'.order < e.order := by
  obtain ⟨rest, rfl⟩ := List.getLast?_eq_some_iff.mp hlast
  intro e' he'
  rcases List.mem_append.mp he' with hrest | hsame
  · exact .inr ((List.pairwise_append.mp horders).2.2 e' hrest e (List.mem_singleton_self e))
  · exact .inl (List.mem_singleton.mp hsame)

theorem Reflects.of_candidate (h : Reflects self log) {revision : Nat}
    (hmem : (sessionId, revision, info) ∈ self.candidates slotId) :
    ∃ e ∈ log.ofSlot slotId, e.sessionId = sessionId ∧ e.order = revision ∧ e.info = info := by
  obtain ⟨record, hrecord, hslot, hinfo, rfl⟩ := mem_candidates.mp hmem
  have hlatest := h.latest sessionId record hrecord
  rw [hinfo, Option.map_some, Option.map_eq_some_iff] at hlatest
  obtain ⟨e, he, heq⟩ := hlatest
  obtain ⟨horder, hinfo⟩ := Prod.mk.inj heq
  obtain ⟨hmem, hsession⟩ := List.mem_filter.mp (List.mem_of_getLast? he)
  rw [decide_eq_true_eq] at hsession
  obtain ⟨known, hknown, hknownSlot⟩ := h.known e hmem
  rw [hsession, hrecord, Option.some.injEq] at hknown
  refine ⟨e, List.mem_filter.mpr ⟨hmem, ?_⟩, hsession, horder, hinfo⟩
  rw [decide_eq_true_eq, ← hknownSlot, ← hknown, hslot]

theorem Reflects.candidate (h : Reflects self log) {e : Heard} (he : (log.ofSlot slotId).getLast? = some e) :
    (e.sessionId, e.order, e.info) ∈ self.candidates slotId := by
  have hgreatest := last_greatest (h.orders.filter _) he
  obtain ⟨hmem, hslot⟩ := List.mem_filter.mp (List.mem_of_getLast? he)
  rw [decide_eq_true_eq] at hslot
  obtain ⟨record, hrecord, hrecordSlot⟩ := h.known e hmem
  have hsession : e ∈ log.ofSession e.sessionId := List.mem_filter.mpr ⟨hmem, decide_eq_true rfl⟩
  obtain ⟨last, hlast⟩ : ∃ last, (log.ofSession e.sessionId).getLast? = some last :=
    ⟨_, List.getLast?_eq_getLast_of_ne_nil (List.ne_nil_of_mem hsession)⟩
  obtain ⟨hlastMem, hlastSession⟩ := List.mem_filter.mp (List.mem_of_getLast? hlast)
  rw [decide_eq_true_eq] at hlastSession
  -- The last object of the session is one of the slot, so it is not later than the last of the slot.
  obtain rfl : last = e := by
    obtain ⟨known, hknown, hknownSlot⟩ := h.known last hlastMem
    rw [hlastSession, hrecord, Option.some.injEq] at hknown
    have hlastSlot : last ∈ log.ofSlot slotId := by
      refine List.mem_filter.mpr ⟨hlastMem, ?_⟩
      rw [decide_eq_true_eq, ← hknownSlot, ← hknown, hrecordSlot, hslot]
    rcases hgreatest last hlastSlot with heq | hlt
    · exact heq
    · rcases last_greatest (h.orders.filter _) hlast e hsession with heq | hgt
      · exact heq.symm
      · omega
  have hlatest := h.latest last.sessionId record hrecord
  rw [hlast, Option.map_some] at hlatest
  obtain ⟨info, hinfo, heq⟩ := Option.map_eq_some_iff.mp hlatest.symm
  obtain ⟨hrevision, rfl⟩ := Prod.mk.inj heq
  exact mem_candidates.mpr ⟨record, hrecord, hrecordSlot.trans hslot, hinfo, hrevision⟩

theorem Reflects.infoSession (h : Reflects self log) {e : Heard} (he : (log.ofSlot slotId).getLast? = some e)
    {entries : List (UInt16 × Nat × ApplicationInfo)} (hentries : entries.Perm (self.candidates slotId)) :
    maxByKey outranks entries = some (e.sessionId, e.order, e.info) := by
  apply maxByKey_of_greatest (hentries.mem_iff.mpr (h.candidate he))
  rintro ⟨sessionId, revision, info⟩ hmem
  obtain ⟨e', he', rfl, rfl, rfl⟩ := h.of_candidate (hentries.mem_iff.mp hmem)
  rcases last_greatest (h.orders.filter _) he e' he' with rfl | hlt
  · exact .inl rfl
  · exact .inr hlt

theorem Reflects.no_candidates (h : Reflects self log) (hnone : log.ofSlot slotId = []) :
    self.candidates slotId = [] := by
  refine List.eq_nil_iff_forall_not_mem.mpr ?_
  rintro ⟨sessionId, revision, info⟩ hmem
  obtain ⟨e, he, _⟩ := h.of_candidate hmem
  rw [hnone] at he
  cases he

theorem Reflects.found (h : Reflects self log) (slotId : UInt8)
    {entries : List (UInt16 × Nat × ApplicationInfo)} (hentries : entries.Perm (self.candidates slotId)) :
    maxByKey outranks entries = (log.ofSlot slotId).getLast?.map fun e => (e.sessionId, e.order, e.info) := by
  cases he : (log.ofSlot slotId).getLast? with
  | none =>
      rw [h.no_candidates (List.getLast?_eq_none_iff.mp he)] at hentries
      rw [hentries.eq_nil]
      rfl
  | some e => exact h.infoSession he hentries

end ApplicationInfoResource

end LibDvb
