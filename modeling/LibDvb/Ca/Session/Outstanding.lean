import LibDvb.Ca.Session.Turnover

namespace LibDvb

open Act Outcome

def Tpdu.payload (frame : Bytes) : Option (TpduTag × Bytes) :=
  match frame[2]?, Asn1.decode (frame.drop 3) with
  | some tag, .ok (_, size) => some (⟨tag⟩, frame.drop (3 + size + 1))
  | _, _ => none

theorem Tpdu.payload_data {slotId : UInt8} {tag : TpduTag} {data : Bytes} (hslot : slotId ≠ 255)
    (htag : tag = .dataLast ∨ tag = .dataMore) (hlen : data.length ≤ maxTpduData) :
    payload (frameOf slotId tag data) = some (tag, data) := by
  obtain ⟨frame, hbuild⟩ := build_data hslot htag hlen
  obtain ⟨_, _, hframe⟩ := build_data_eq htag hbuild
  have hof : frameOf slotId tag data = slotId :: (slotId + 1) :: tag.raw ::
      (Asn1.encode (UInt16.ofNat data.length + 1) ++ (slotId + 1) :: data) := by
    rw [frameOf, hbuild]
    simp [hframe]
  have hdecode := Asn1.decode_encode (UInt16.ofNat data.length + 1) ((slotId + 1) :: data)
  have hdrop : (frameOf slotId tag data).drop (3 + (Asn1.encode (UInt16.ofNat data.length + 1)).length + 1) =
      data := by
    rw [hof, show 3 + (Asn1.encode (UInt16.ofNat data.length + 1)).length + 1 =
      (Asn1.encode (UInt16.ofNat data.length + 1)).length + 1 + 1 + 1 + 1 by omega]
    simp
  have hrest : (frameOf slotId tag data).drop 3 =
      Asn1.encode (UInt16.ofNat data.length + 1) ++ (slotId + 1) :: data := by
    rw [hof]
    rfl
  have htagAt : (frameOf slotId tag data)[2]? = some tag.raw := by
    rw [hof]
    rfl
  simp only [payload, htagAt, hrest, hdecode, hdrop]

theorem Tpdu.frameOf_command (slotId : UInt8) (tag : TpduTag) :
    frameOf slotId tag [] = [] ∨ frameOf slotId tag [] = [slotId, slotId + 1, tag.raw, 1, slotId + 1] := by
  have hone : Asn1.encode (UInt16.ofNat ([] : Bytes).length + 1) = [1] := by decide
  unfold frameOf
  split
  · next frame hbuild =>
      right
      unfold build at hbuild
      by_cases hslot : slotId = 255
      · rw [if_pos hslot] at hbuild
        cases hbuild
      · rw [if_neg hslot] at hbuild
        simp only [hone, List.head?_nil] at hbuild
        split at hbuild
        · cases hbuild
          rfl
        · split at hbuild
          · cases hbuild
          · split at hbuild
            · split at hbuild
              · cases hbuild
              · cases hbuild
                rfl
            · cases hbuild
  · exact .inl rfl

-- The SPDU the host is queueing for a module, and the requests to close a session among those queued
-- since the session was opened or the module answered one.
structure Asking where
  collected : Bytes := []
  count : Nat := 0
  deriving DecidableEq

def answersClose (sessionId : UInt16) (spdu : Bytes) : Bool :=
  match Spdu.parse spdu with
  | .ok (.closeSessionResponse _ other) => other = sessionId
  | _ => false

def Obs.asks (slotId : UInt8) (sessionId : UInt16) (asking : Asking) : Obs → Asking
  | .queued other frame =>
      if other = slotId then
        match Tpdu.payload frame with
        | some (tag, body) =>
            if tag = .dataMore then
              { asking with collected := asking.collected ++ body }
            else if tag = .dataLast then
              { collected := []
                count :=
                  if asking.collected ++ body = Spdu.buildCloseSessionRequest sessionId then asking.count + 1
                  else asking.count }
            else
              asking
        | none => asking
      else
        asking
  | .opened other number =>
      if other = slotId ∧ number = sessionId then { asking with count := 0 } else asking
  | .dispatched other spdu =>
      if other = slotId ∧ answersClose sessionId spdu then { asking with count := 0 } else asking
  | _ => asking

def asking (slotId : UInt8) (sessionId : UInt16) (trace : List Obs) : Asking :=
  trace.foldl (Obs.asks slotId sessionId) {}

def outstanding (slotId : UInt8) (sessionId : UInt16) (trace : List Obs) : Nat :=
  (asking slotId sessionId trace).count

section Asking

variable {slotId other : UInt8} {sessionId : UInt16} {a : Asking} {entries trace trace' : List Obs}

theorem asks_told (delta : List Obs) (a : Asking) :
    delta.foldl (Obs.asks slotId sessionId) a = (told delta).foldl (Obs.asks slotId sessionId) a := by
  induction delta generalizing a with
  | nil => rfl
  | cons obs delta ih =>
      rw [told, List.filter_cons]
      split
      · exact ih _
      · next hsilent =>
          have hsame : obs.asks slotId sessionId a = a := by
            cases obs <;> first | rfl | exact (hsilent rfl).elim
          rw [List.foldl_cons, hsame]
          exact ih a

theorem asking_tells {delta : List Obs} (h : Tells entries trace (trace ++ delta)) (hw : Whole delta) :
    asking slotId sessionId (trace ++ delta) =
      entries.foldl (Obs.asks slotId sessionId) (asking slotId sessionId trace) := by
  rw [asking, List.foldl_append, asks_told, h.whole hw]
  rfl

theorem asks_other (hne : other ≠ slotId) (pieces : List (TpduTag × Bytes)) :
    (queuedPieces other pieces).foldl (Obs.asks slotId sessionId) a = a := by
  induction pieces with
  | nil => rfl
  | cons piece pieces ih =>
      rw [queuedPieces, List.map_cons, List.foldl_cons, Obs.asks, if_neg hne]
      exact ih

theorem asks_pieces (hslot : slotId ≠ 255) (count : Nat) : ∀ (fuel : Nat) (rest collected : Bytes),
    rest.length < fuel →
    (queuedPieces slotId (Tpdu.pieces fuel rest)).foldl (Obs.asks slotId sessionId) ⟨collected, count⟩ =
      ⟨[], if collected ++ rest = Spdu.buildCloseSessionRequest sessionId then count + 1 else count⟩ := by
  intro fuel
  induction fuel with
  | zero => exact fun _ _ h => absurd h (Nat.not_lt_zero _)
  | succ fuel ih =>
      intro rest collected hlen
      rw [Tpdu.pieces]
      split
      · next hlong =>
          have hdata := Tpdu.payload_data hslot (.inr rfl) (List.length_take_le Tpdu.maxTpduData rest)
          have hpos : 0 < Tpdu.maxTpduData := by decide
          rw [queuedPieces, List.map_cons, List.foldl_cons]
          simp only [Obs.asks, if_true, hdata]
          have hnext := ih (rest.drop Tpdu.maxTpduData) (collected ++ rest.take Tpdu.maxTpduData) (by
            rw [List.length_drop]
            omega)
          rw [List.append_assoc, List.take_append_drop] at hnext
          exact hnext
      · next hshort =>
          have hdata := Tpdu.payload_data hslot (.inl rfl) (Nat.not_lt.mp hshort)
          have htag : ¬ TpduTag.dataLast = .dataMore := by decide
          rw [queuedPieces, List.map_cons, List.map_nil, List.foldl_cons, List.foldl_nil]
          simp only [Obs.asks, if_true, hdata, if_neg htag]

theorem asks_spdu (hslot : slotId ≠ 255) (spdu : Bytes) (count : Nat) :
    (queuedSpdu slotId spdu).foldl (Obs.asks slotId sessionId) ⟨[], count⟩ =
      ⟨[], if spdu = Spdu.buildCloseSessionRequest sessionId then count + 1 else count⟩ := by
  have hpieces := @asks_pieces _ sessionId hslot count (spdu.length + 1) spdu [] (Nat.lt_succ_self _)
  rw [List.nil_append] at hpieces
  exact hpieces

theorem asks_invalid (pieces : List (TpduTag × Bytes)) :
    (queuedPieces 255 pieces).foldl (Obs.asks slotId sessionId) a = a := by
  induction pieces with
  | nil => rfl
  | cons piece pieces ih =>
      obtain ⟨e, hbuild⟩ := CiTransport.build_invalid piece.1 piece.2
      have hframe : Tpdu.frameOf 255 piece.1 piece.2 = [] := by rw [Tpdu.frameOf, hbuild]
      have hsame : (Obs.queued 255 (Tpdu.frameOf 255 piece.1 piece.2)).asks slotId sessionId a = a := by
        rw [hframe, Obs.asks]
        split <;> rfl
      rw [queuedPieces, List.map_cons, List.foldl_cons, hsame]
      exact ih

theorem asks_same {spdu : Bytes} (ha : a.collected = []) (hspdu : spdu ≠ Spdu.buildCloseSessionRequest sessionId) :
    (queuedSpdu other spdu).foldl (Obs.asks slotId sessionId) a = a := by
  obtain ⟨collected, count⟩ := a
  obtain rfl : collected = [] := ha
  by_cases hother : other = slotId
  · subst hother
    by_cases hslot : other = 255
    · subst hslot
      exact asks_invalid _
    · rw [asks_spdu hslot, if_neg hspdu]
  · exact asks_other hother _

theorem asks_command (ha : a.collected = []) (tag : TpduTag) :
    (Obs.queued other (Tpdu.frameOf other tag [])).asks slotId sessionId a = a := by
  obtain ⟨collected, count⟩ := a
  obtain rfl : collected = [] := ha
  have hnil : ¬ ([] : Bytes) = Spdu.buildCloseSessionRequest sessionId := nofun
  rw [Obs.asks]
  split
  · rcases Tpdu.frameOf_command other tag with hframe | hframe
    · rw [hframe]
      rfl
    · have hpayload : Tpdu.payload [other, other + 1, tag.raw, 1, other + 1] = some (tag, []) := by
        simp [Tpdu.payload, Asn1.decode, Asn1.sizeIndicator]
      rw [hframe, hpayload]
      dsimp only
      split
      · rfl
      · split
        · rw [List.append_nil, if_neg hnil]
        · rfl
  · rfl

theorem asks_objects {P : UInt8 → UInt16 → Prop} (ha : a.collected = []) (h : Objects P entries) :
    entries.foldl (Obs.asks slotId sessionId) a = a := by
  obtain ⟨objects, -, rfl⟩ := h
  induction objects with
  | nil => rfl
  | cons object objects ih =>
      have hobject : apduSpdu object.1.2 object.2.1 object.2.2 ≠ Spdu.buildCloseSessionRequest sessionId := by
        intro heq
        exact absurd (List.head_eq_of_cons_eq heq) (by decide)
      rw [List.flatMap_cons, List.foldl_append, asks_same ha hobject]
      exact ih

theorem buildCloseSessionRequest_inj {n m : UInt16}
    (h : Spdu.buildCloseSessionRequest n = Spdu.buildCloseSessionRequest m) : n = m := by
  simp only [Spdu.buildCloseSessionRequest, List.append_cancel_left_eq, toBeBytes, List.cons.injEq,
    and_true] at h
  rw [← ofBeBytes_toBeBytes n, h.1, h.2, ofBeBytes_toBeBytes]

end Asking

namespace CiSession

def Accounted (s : CiSession) (slotId : UInt8) (sessionId : UInt16) (asking : Asking) : Prop :=
  asking.collected = [] ∧ ∀ index session, sessionId = sessionIdOf index → s.entry index = some session →
    session.slotId = slotId → asking.count = if session.state = .closing then 1 else 0

variable {s s' : CiSession} {slotId other : UInt8} {sessionId : UInt16} {spdu : Bytes} {entries : List Obs}
  {a : Asking} {label : SessionLabel}

theorem Accounted.of_entries (h : s.Accounted slotId sessionId a)
    (hentry : ∀ index, s'.entry index = s.entry index ∨ s'.entry index = none) :
    s'.Accounted slotId sessionId a := by
  refine ⟨h.1, fun index session hid hlive hslot => ?_⟩
  rcases hentry index with hsame | hnone
  · exact h.2 index session hid (hsame ▸ hlive) hslot
  · rw [hnone] at hlive
    cases hlive

theorem asks_openAnswer (ha : a.collected = []) (status : UInt8) (resourceId : ResourceId) (number : UInt16) :
    (openAnswer other status resourceId number).foldl (Obs.asks slotId sessionId) a = a :=
  asks_same ha fun heq => absurd (List.head_eq_of_cons_eq heq) (by decide)

theorem asks_closeAnswer (ha : a.collected = []) (status : UInt8) (number : UInt16) :
    (closeAnswer other status number).foldl (Obs.asks slotId sessionId) a = a :=
  asks_same ha fun heq => absurd (List.head_eq_of_cons_eq heq) (by decide)

theorem answersClose_false (h : ∀ status sessionId, Spdu.parse spdu ≠ .ok (.closeSessionResponse status sessionId)) :
    answersClose sessionId spdu = false := by
  unfold answersClose
  split
  · next status other hparse => exact absurd hparse (h status other)
  · rfl

theorem asks_dispatched (h : ∀ status sessionId, Spdu.parse spdu ≠ .ok (.closeSessionResponse status sessionId)) :
    (Obs.dispatched other spdu).asks slotId sessionId a = a := by
  rw [Obs.asks, answersClose_false h, if_neg fun hfalse => nomatch hfalse.2]

theorem asks_response {status : UInt8} {place : Nat}
    (response : Spdu.parse spdu = .ok (.closeSessionResponse status (sessionIdOf place))) :
    (Obs.dispatched other spdu).asks slotId sessionId a =
      if other = slotId ∧ sessionIdOf place = sessionId then { a with count := 0 } else a := by
  rw [Obs.asks, answersClose, response]
  simp only [decide_eq_true_eq]

theorem Handled.accounted (h : Handled s other spdu s' entries) (hc : s.Consistent) (hc' : s'.Consistent)
    (ha : s.Accounted slotId sessionId a) :
    s'.Accounted slotId sessionId ((Obs.dispatched other spdu :: entries).foldl (Obs.asks slotId sessionId) a) := by
  have hsame (sessions : s'.sessions = s.sessions) : s'.Accounted slotId sessionId a :=
    ha.of_entries fun index => .inl (entry_congr sessions index)
  cases h with
  | @opened resourceId kind objects request granted sessions resources spoken =>
      rw [List.foldl_cons, asks_dispatched (by simp [request]), List.foldl_append, asks_openAnswer ha.1,
        List.foldl_cons, Obs.asks]
      have hentry : ∀ index, s'.entry index = if s.freshIndex = index then
          some { slotId := other, resourceId := kind.resourceId, state := .active } else s.entry index :=
        fun index => (entry_congr sessions index).trans (entry_allocated index)
      split
      · next hnew =>
          obtain ⟨rfl, rfl⟩ := hnew
          have hempty : ({ a with count := 0 } : Asking).collected = [] := ha.1
          rw [asks_objects hempty spoken]
          refine ⟨ha.1, fun index session hid hlive _ => ?_⟩
          obtain rfl := sessionIdOf_inj hc.freshIndex_lt (hc'.index_lt hlive) hid
          rw [hentry, if_pos rfl, Option.some.injEq] at hlive
          rw [← hlive]
          rfl
      · next hnew =>
          rw [asks_objects ha.1 spoken]
          refine ⟨ha.1, fun index session hid hlive hslot => ?_⟩
          rw [hentry] at hlive
          split at hlive
          · next hfresh =>
              subst hfresh
              rw [Option.some.injEq] at hlive
              rw [← hlive] at hslot
              exact absurd ⟨hslot, hid.symm⟩ hnew
          · exact ha.2 index session hid hlive hslot
  | refused request refused sessions resources =>
      rw [List.foldl_cons, asks_dispatched (by simp [request]), asks_openAnswer ha.1]
      exact hsame sessions
  | @closed place session request live slot sessions =>
      rw [List.foldl_cons, asks_dispatched (by simp [request]), asks_closeAnswer ha.1]
      refine ha.of_entries fun index => ?_
      have hentry : s'.entry index = if place = index then none else s.entry index :=
        (@entry_congr (s.freed place session) s' sessions index).trans (entry_freed live index)
      split at hentry
      · exact .inr hentry
      · exact .inl hentry
  | unknown request unknown sessions =>
      rw [List.foldl_cons, asks_dispatched (by simp [request]), asks_closeAnswer ha.1]
      exact hsame sessions
  | @completed place session status response live slot closing final sessions =>
      have hentry : ∀ index, s'.entry index = if place = index then none else s.entry index := fun index =>
        (@entry_congr (s.freed place session) s' sessions index).trans (entry_freed live index)
      rw [List.foldl_cons, List.foldl_nil, asks_response response]
      split
      · next hanswered =>
          obtain ⟨rfl, rfl⟩ := hanswered
          refine ⟨ha.1, fun index session hid hlive _ => ?_⟩
          obtain rfl := sessionIdOf_inj (hc.index_lt live) (hc'.index_lt hlive) hid
          rw [hentry, if_pos rfl] at hlive
          cases hlive
      · refine ha.of_entries fun index => ?_
        have hplace := hentry index
        split at hplace
        · exact .inr hplace
        · exact .inl hplace
  | @revived place session status response live slot sessions =>
      have hentry : ∀ index, s'.entry index = if place = index then some { session with state := .active }
          else s.entry index := fun index => (entry_congr sessions index).trans (entry_turned live _ index)
      rw [List.foldl_cons, List.foldl_nil, asks_response response]
      split
      · next hanswered =>
          obtain ⟨rfl, rfl⟩ := hanswered
          refine ⟨ha.1, fun index turned hid hlive _ => ?_⟩
          obtain rfl := sessionIdOf_inj (hc.index_lt live) (hc'.index_lt hlive) hid
          rw [hentry, if_pos rfl, Option.some.injEq] at hlive
          rw [← hlive]
          rfl
      · next hanswered =>
          refine ⟨ha.1, fun index turned hid hlive hslot => ?_⟩
          rw [hentry] at hlive
          split at hlive
          · next hplace =>
              subst hplace
              rw [Option.some.injEq] at hlive
              rw [← hlive] at hslot
              exact absurd ⟨slot.symm.trans hslot, hid.symm⟩ hanswered
          · exact ha.2 index turned hid hlive hslot
  | @asked place session data objects apdus live slot active spoken sessions =>
      have hentry : ∀ index, s'.entry index = if place = index then some { session with state := .closing }
          else s.entry index := fun index => (entry_congr sessions index).trans (entry_turned live _ index)
      rw [List.foldl_cons, asks_dispatched (by simp [apdus]), List.foldl_append, asks_objects ha.1 spoken,
        closeRequest]
      by_cases hasked : other = slotId ∧ sessionIdOf place = sessionId
      · obtain ⟨rfl, rfl⟩ := hasked
        have hvalid : other ≠ 255 := by
          rintro rfl
          have hbound := (hc.live place session live).1
          rw [slot] at hbound
          exact absurd hbound (Nat.not_lt.mpr hc.count)
        have hcount := ha.2 place session rfl live slot
        rw [active] at hcount
        obtain ⟨collected, count⟩ := a
        obtain rfl : collected = [] := ha.1
        obtain rfl : count = 0 := hcount
        rw [asks_spdu hvalid, if_pos rfl]
        refine ⟨rfl, fun index turned hid hlive _ => ?_⟩
        obtain rfl := sessionIdOf_inj (hc.index_lt live) (hc'.index_lt hlive) hid
        rw [hentry, if_pos rfl, Option.some.injEq] at hlive
        rw [← hlive]
        rfl
      · have hkept : (queuedSpdu other (Spdu.buildCloseSessionRequest (sessionIdOf place))).foldl
            (Obs.asks slotId sessionId) a = a := by
          by_cases hother : other = slotId
          · exact asks_same ha.1 fun heq => hasked ⟨hother, buildCloseSessionRequest_inj heq⟩
          · exact asks_other hother _
        rw [hkept]
        refine ⟨ha.1, fun index turned hid hlive hslot => ?_⟩
        rw [hentry] at hlive
        split at hlive
        · next hplace =>
            subst hplace
            rw [Option.some.injEq] at hlive
            rw [← hlive] at hslot
            exact absurd ⟨slot.symm.trans hslot, hid.symm⟩ hasked
        · exact ha.2 index turned hid hlive hslot
  | spoken apdus spoken sessions =>
      rw [List.foldl_cons, asks_dispatched (by simp [apdus]), asks_objects ha.1 spoken]
      exact hsame sessions
  | ignored open_ close stale sessions resources =>
      rw [List.foldl_cons, List.foldl_nil, Obs.asks]
      split
      · next hanswered =>
          obtain ⟨rfl, hanswers⟩ := hanswered
          refine ⟨ha.1, fun index session hid hlive hslot => ?_⟩
          rw [entry_congr sessions] at hlive
          have hactive : session.state = .active := by
            unfold answersClose at hanswers
            split at hanswers
            · next status number hparse =>
                refine stale status number session hparse ?_ hslot
                rw [of_decide_eq_true hanswers, hid, session_sessionIdOf s (hc.index_lt hlive)]
                exact hlive
            · cases hanswers
          rw [hactive]
          rfl
      · exact hsame sessions

end CiSession

open CiSession

theorem SessionStep.accounted {s s' : CiSession} {label : SessionLabel} (hc : s.Consistent)
    (hstep : SessionStep s label s')
    (h : ∀ slotId sessionId, s.Accounted slotId sessionId (asking slotId sessionId s.transport.trace))
    (hw : Whole s'.transport.trace) (slotId : UInt8) (sessionId : UInt16) :
    s'.Accounted slotId sessionId (asking slotId sessionId s'.transport.trace) := by
  have ha := h slotId sessionId
  have hsame (sessions : s'.sessions = s.sessions) :
      s'.Accounted slotId sessionId (asking slotId sessionId s.transport.trace) :=
    ha.of_entries fun index => .inl (entry_congr sessions index)
  have htold {entries : List Obs} (htells : Tells entries s.transport.trace s'.transport.trace) :
      asking slotId sessionId s'.transport.trace =
        entries.foldl (Obs.asks slotId sessionId) (asking slotId sessionId s.transport.trace) := by
    obtain ⟨delta, htrace, _⟩ := id htells
    rw [htrace] at htells hw ⊢
    exact asking_tells htells hw.right
  cases hstep.stepped hc with
  | responded delivers responds =>
      rcases responds with ⟨entries, hhandled, htells⟩ | ⟨_, delta, htrace, hbroken⟩
      · rw [htold htells]
        exact hhandled.accounted hc (hstep.consistent hc) ha
      · rw [htrace] at hw
        exact absurd hw.right hbroken
  | talked sessions talks =>
      obtain ⟨entries, hobjects, htells⟩ := talks
      rw [htold htells, asks_objects ha.1 hobjects]
      exact hsame sessions
  | dropped op kept tells =>
      rw [htold tells]
      refine ha.of_entries fun index => ?_
      cases hlive : s'.entry index with
      | none => exact .inr rfl
      | some session => exact .inl ((kept index session).mp hlive).1.symm
  | commanded sessions tells =>
      rw [htold tells, List.foldl_cons, List.foldl_nil, asks_command ha.1]
      exact hsame sessions

theorem SessionRun.accounted {slotsNum : UInt8} {labels : List SessionLabel} {s : CiSession}
    (h : SessionRun slotsNum labels s) (hw : Whole s.transport.trace) (slotId : UInt8) (sessionId : UInt16) :
    s.Accounted slotId sessionId (asking slotId sessionId s.transport.trace) := by
  obtain ⟨link, hrun⟩ := h
  have hreached : s.Consistent ∧ (Whole s.transport.trace → ∀ slotId sessionId,
      s.Accounted slotId sessionId (asking slotId sessionId s.transport.trace)) := by
    refine Run.invariant (I := fun s : CiSession => s.Consistent ∧ (Whole s.transport.trace → ∀ slotId sessionId,
      s.Accounted slotId sessionId (asking slotId sessionId s.transport.trace))) hrun ?_ ?_
    · refine ⟨consistent_new link slotsNum, fun _ slotId sessionId => ⟨rfl, fun index session _ hlive => ?_⟩⟩
      cases hlive
    · intro s label s' hs hstep
      exact ⟨hstep.consistent hs.1, fun hw =>
        hstep.accounted hs.1 (hs.2 (hw.of_initial (hstep.trace_initial hs.1))) hw⟩
  exact hreached.2 hw slotId sessionId

end LibDvb
