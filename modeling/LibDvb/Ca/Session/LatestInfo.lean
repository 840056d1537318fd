import LibDvb.Ca.Session.Information
import LibDvb.Ca.Session.Atomicity

namespace LibDvb

open Act Outcome CiSession ApplicationInfoResource

variable {s s' : CiSession} {label : SessionLabel} {slotId : UInt8} {sessionId : UInt16} {spdu : Bytes}

def ApplicationInfoResource.knows (r : ApplicationInfoResource) (sessionId : UInt16) : Bool :=
  (r.sessions[sessionId]?).isSome

-- The log after the call: it has the objects that came for live sessions, and none of those whose sessions are over.
def InfoLog.after (log : InfoLog) (s : CiSession) (label : SessionLabel) (s' : CiSession) : InfoLog :=
  ((brought s label).foldl (fun log h => log.hear h.1 h.2.1 h.2.2) log).forget fun e => s'.serves e.sessionId e.slotId

inductive InfoRun (slotsNum : UInt8) (P : CiSession → SessionLabel → Prop) :
    List SessionLabel → CiSession → InfoLog → Prop
  | new (link : CaDevice) : InfoRun slotsNum P [] (CiSession.new (CiTransport.new link slotsNum)) {}
  | step {labels s log label s'} (run : InfoRun slotsNum P labels s log) (met : P s label)
      (last : SessionStep s label s') : InfoRun slotsNum P (labels ++ [label]) s' (log.after s label s')

-- A request for an Application Information session is not answered over a link that refuses the answer for good.
def OpensAnswered (s : CiSession) (label : SessionLabel) : Prop :=
  ∀ slotId spdu resourceId, label.Delivers s slotId spdu → Spdu.parse spdu = .ok (.openSessionRequest resourceId) →
    s.verdict slotId resourceId = .ok .applicationInfo → label.link.nextWrite.refuses = false

variable {slotsNum : UInt8} {P : CiSession → SessionLabel → Prop} {labels : List SessionLabel} {log : InfoLog}

theorem InfoRun.sessionRun (h : InfoRun slotsNum P labels s log) : SessionRun slotsNum labels s := by
  induction h with
  | new link => exact ⟨link, .nil⟩
  | step run met last ih =>
      obtain ⟨link, hrun⟩ := ih
      exact ⟨link, hrun.snoc last⟩

theorem InfoLog.count_after (log : InfoLog) (s : CiSession) (label : SessionLabel) (s' : CiSession) :
    (log.after s label s').count = log.count + (brought s label).length := by
  have hcount (news : List (UInt16 × UInt8 × ApplicationInfo)) (log : InfoLog) :
      (news.foldl (fun log h => log.hear h.1 h.2.1 h.2.2) log).count = log.count + news.length := by
    induction news generalizing log with
    | nil => rfl
    | cons h rest ih =>
        have hfirst : (log.hear h.1 h.2.1 h.2.2).count = log.count + 1 := rfl
        rw [List.foldl_cons, ih, hfirst, List.length_cons]
        omega
  exact hcount _ log

theorem known_learn (r : ApplicationInfoResource) (sessionId other : UInt16) (info : ApplicationInfo) :
    ((r.learn sessionId info).sessions[other]?).map ApplicationInfoSession.slotId =
      (r.sessions[other]?).map ApplicationInfoSession.slotId := by
  rw [ApplicationInfoResource.learn]
  cases hrecord : r.sessions[sessionId]? with
  | none => rfl
  | some record =>
      dsimp only
      rw [KeyMap.get_insert]
      split
      · next heq =>
          rw [← heq, hrecord]
          rfl
      · rfl

theorem brought_served {h : UInt16 × UInt8 × ApplicationInfo} (hmem : h ∈ brought s label) :
    s.serves h.1 h.2.1 = true := by
  unfold brought at hmem
  split at hmem
  · split at hmem
    · split at hmem
      · next hserves =>
          obtain ⟨info, _, rfl⟩ := List.mem_map.mp hmem
          exact hserves
      · cases hmem
    · cases hmem
  · cases hmem

theorem known_learnt (s : CiSession) (label : SessionLabel) (sessionId : UInt16) :
    ((learnt s label).sessions[sessionId]?).map ApplicationInfoSession.slotId =
      (s.resources.applicationInfo.sessions[sessionId]?).map ApplicationInfoSession.slotId := by
  rw [learnt]
  generalize s.resources.applicationInfo = r
  induction brought s label generalizing r with
  | nil => rfl
  | cons h rest ih =>
      rw [List.foldl_cons, ih]
      exact known_learn r h.1 sessionId h.2.2

theorem ApplicationInfoResource.Reflects.brought {r : ApplicationInfoResource}
    {news : List (UInt16 × UInt8 × ApplicationInfo)} (h : Reflects r log)
    (hserved : ∀ h ∈ news, (r.sessions[h.1]?).map ApplicationInfoSession.slotId = some h.2.1)
    (hcount : log.count + news.length ≤ u64Max) :
    Reflects (news.foldl (fun r h => r.learn h.1 h.2.2) r) (news.foldl (fun log h => log.hear h.1 h.2.1 h.2.2) log) := by
  induction news generalizing r log with
  | nil => exact h
  | cons first rest ih =>
      rw [List.length_cons] at hcount
      obtain ⟨record, hrecord, hslot⟩ := Option.map_eq_some_iff.mp (hserved first List.mem_cons_self)
      rw [List.foldl_cons, List.foldl_cons]
      refine ih (h.learn hrecord hslot (by omega)) (fun h hmem => ?_) ?_
      · rw [known_learn]
        exact hserved h (List.mem_cons_of_mem _ hmem)
      · have hfirst : (log.hear first.1 first.2.1 first.2.2).count = log.count + 1 := rfl
        rw [hfirst]
        omega

section Introduced

def CiSession.Introduced (s : CiSession) : Prop :=
  ∀ sessionId slotId, s.serves sessionId slotId = true → s.resources.applicationInfo.knows sessionId = true

theorem CiSession.Introduced.record (h : s.Introduced) (hc : s.Consistent) (hserves : s.serves sessionId slotId = true) :
    (s.resources.applicationInfo.sessions[sessionId]?).map ApplicationInfoSession.slotId = some slotId := by
  obtain ⟨record, hrecord⟩ := Option.isSome_iff_exists.mp (h _ _ hserves)
  obtain ⟨session, hsession, hslot, _⟩ := hc.owned.applicationInfo sessionId record hrecord
  obtain ⟨other, hother, hotherSlot, _⟩ := serves_iff.mp hserves
  rw [hsession, Option.some.injEq] at hother
  rw [hrecord, Option.map_some, ← hslot, ← hotherSlot, hother]

def CiSession.Granted (kind : ResourceKind) (slotId : UInt8) (sessionId : UInt16) (s s' : CiSession) : Prop :=
  s'.sessions = s.sessions ∧ (kind = .applicationInfo → s'.resources = s.resources.opened kind slotId sessionId)

theorem grant_introduces {kind : ResourceKind} (h : s.HasSlot slotId)
    (hnext : kind = .applicationInfo → s.transport.link.nextWrite.refuses = false) :
    wlp (grant slotId kind sessionId) (fun _ => s.Granted kind slotId sessionId)
      (fun _ => s.Granted kind slotId sessionId) s := by
  rw [grant, wlp_bind]
  refine wlp_mono (wlp_of_wp (sendSpdu_sent h (length_openResponse _ _ _))) (fun _ s₁ hs₁ => ?_) fun _ s₁ hs₁ => ?_
  · obtain ⟨t, rfl, _⟩ := hs₁
    rw [wlp_bind, wlp_note, wlp_bind, wlp_pushEvent, wlp_bind, wlp_runCallback]
    have hgreeted {ctx : ResourceContext ResourceRegistry} {result : Except Error Unit}
        {base : CiSession} (hsessions : base.sessions = s.sessions)
        (hself : ctx.self = s.resources.opened kind slotId sessionId) :
        wlp (resourceResult slotId result) (fun _ => s.Granted kind slotId sessionId)
          (fun _ => s.Granted kind slotId sessionId) (base.after ctx) := by
      have halike {s' : CiSession} (ha : Alike (base.after ctx) s') : s.Granted kind slotId sessionId s' :=
        ⟨ha.sessions.trans hsessions, fun _ => ha.resources.trans hself⟩
      exact wlp_mono (keeps_resourceResult result _) (fun _ _ => halike) fun _ _ => halike
    exact wlp_mono (onOpen_self kind _) (fun _ _ hself => hgreeted rfl hself) fun _ _ hself => hgreeted rfl hself
  · obtain ⟨t, rfl, hrefuses⟩ := hs₁
    refine ⟨rfl, fun hkind => ?_⟩
    rw [CiTransport.refuses, hnext hkind, Bool.and_false] at hrefuses
    cases hrefuses

def CiSession.OpensNone (s s' : CiSession) : Prop :=
  ∀ sessionId, s.session sessionId = none → s'.session sessionId = none

theorem opensNone_of_sheds {α : Type} {m : Act Error CiSession α} (hm : Keeps Sheds m) : Keeps OpensNone m :=
  fun s => wlp_mono (hm s) (fun _ _ h => h.free) fun _ _ h => h.free

theorem opensNone_dispatchApdu {data : Bytes} : Keeps OpensNone (dispatchApdu slotId sessionId data) := by
  have hrefl (s : CiSession) : OpensNone s s := fun _ h => h
  have htrans {s s' s'' : CiSession} (h : OpensNone s s') (h' : OpensNone s' s'') : OpensNone s s'' :=
    fun _ hn => h' _ (h _ hn)
  refine keeps_bind @htrans (keeps_get hrefl) fun s => ?_
  split
  · split
    · refine keeps_bind @htrans (keeps_lift hrefl _) fun kind => ?_
      refine keeps_bind @htrans (fun s => ?_) fun close => ?_
      · have hsame {s' : CiSession} (hchats : Chats (OnSession slotId sessionId) s s') : OpensNone s s' := by
          intro other hnone
          rw [session_congr hchats.sessions]
          exact hnone
        exact wlp_mono (keeps_dispatchItems _ _ _ s) (fun _ _ => hsame) fun _ _ => hsame
      · split
        · exact opensNone_of_sheds sheds_requestClose
        · exact keeps_pure hrefl ()
    · exact opensNone_of_sheds (sheds_pushEvent _)
  · exact opensNone_of_sheds (sheds_pushEvent _)

theorem opensNone_dispatchSpdu (hopen : ∀ resourceId, Spdu.parse spdu ≠ .ok (.openSessionRequest resourceId)) :
    Keeps OpensNone (dispatchSpdu slotId spdu) := by
  intro s
  rw [dispatchSpdu, wlp_bind]
  cases hparse : Spdu.parse spdu with
  | panic => exact ⟨by rintro _ ⟨⟩, by rintro _ ⟨⟩⟩
  | err e =>
      refine wlp_lift_ok (a := .error e) rfl ?_
      cases e with
      | invalidData context => exact opensNone_of_sheds (sheds_pushEvent _) s
      | _ => exact wlp_fail.mpr fun _ h => h
  | ok parsed =>
      refine wlp_lift_ok (a := .ok parsed) rfl ?_
      cases parsed with
      | sessionNumber sessionId data => exact opensNone_dispatchApdu s
      | openSessionRequest resourceId => exact absurd hparse (hopen resourceId)
      | createSessionResponse status resourceId sessionId => exact opensNone_of_sheds (sheds_pushEvent _) s
      | closeSessionRequest sessionId => exact opensNone_of_sheds sheds_closeSession s
      | closeSessionResponse status sessionId => exact opensNone_of_sheds (sheds_closeSessionComplete status) s

section Request

variable {resourceId : ResourceId} {kind : ResourceKind}

theorem SessionStep.requested {P : CiSession → Prop} (h : s.Consistent) (hstep : SessionStep s label s')
    (hd : label.Delivers s slotId spdu) (request : Spdu.parse spdu = .ok (.openSessionRequest resourceId))
    (hstable : ∀ s t, P s → P { s with transport := t })
    (hopen : ∀ t : CiTransport, t.link.nextWrite = label.link.nextWrite → slotId.toNat < t.slots.length →
      slotId ≠ 255 → wlp (openSession slotId resourceId) (fun _ => P) (fun _ => P) { s with transport := t }) : P s' := by
  obtain ⟨_, _, hbound⟩ := received_slot hd.choose_spec.choose_spec.2.2.2
  refine hstep.hands h hd hstable fun t hwrites hlength => ?_
  rw [dispatchSpdu, wlp_bind, request]
  refine wlp_lift_ok (a := .ok (.openSessionRequest resourceId)) rfl
    (hopen t ?_ (hlength ▸ hbound) (CiTransport.ne_max hbound h.count))
  rw [CaDevice.nextWrite, CaDevice.nextWrite, hwrites]

theorem SessionStep.opens (h : s.Consistent) (hstep : SessionStep s label s') (hd : label.Delivers s slotId spdu)
    (request : Spdu.parse spdu = .ok (.openSessionRequest resourceId))
    (granted : s.verdict slotId resourceId = .ok kind)
    (hnext : kind = .applicationInfo → label.link.nextWrite.refuses = false) :
    (s.allocated slotId kind).Granted kind slotId (sessionIdOf s.freshIndex) s' := by
  refine hstep.requested h hd request (fun _ _ hs => hs) fun t hwrite hbound hvalid => ?_
  have hgranted : ({ s with transport := t } : CiSession).verdict slotId resourceId = .ok kind :=
    (verdict_congr rfl resourceId).trans granted
  have hslot : (({ s with transport := t } : CiSession).allocated slotId kind).HasSlot slotId := ⟨hbound, hvalid⟩
  refine (wlp_congr (openSession_granted hgranted)).mpr (grant_introduces hslot fun hkind => ?_)
  show t.link.nextWrite.refuses = false
  rw [hwrite]
  exact hnext hkind

theorem SessionStep.refuses {status : UInt8} (h : s.Consistent) (hstep : SessionStep s label s')
    (hd : label.Delivers s slotId spdu) (request : Spdu.parse spdu = .ok (.openSessionRequest resourceId))
    (refused : s.verdict slotId resourceId = .error status) : s'.sessions = s.sessions := by
  refine hstep.requested (P := fun s' => s'.sessions = s.sessions) h hd request (fun _ _ hs => hs)
    fun t _ hbound hvalid => ?_
  have hrefused : ({ s with transport := t } : CiSession).verdict slotId resourceId = .error status :=
    (verdict_congr rfl resourceId).trans refused
  exact (wlp_congr (openSession_refused hrefused)).mpr (wlp_of_wp (refuse_sessions ⟨hbound, hvalid⟩))

end Request

theorem SessionStep.introduces (h : s.Consistent) (hstep : SessionStep s label s') (hanswered : OpensAnswered s label)
    (hfree : s.session sessionId = none) (hserves : s'.serves sessionId slotId = true) :
    s'.resources.applicationInfo.knows sessionId = true := by
  obtain ⟨session, hsession, _, hresource⟩ := serves_iff.mp hserves
  have hgone (hopens : OpensNone s s') : False := by
    rw [hopens sessionId hfree] at hsession
    cases hsession
  have hsame (hsessions : s'.sessions = s.sessions) : False :=
    hgone fun other hnone => (session_congr hsessions other).trans hnone
  obtain ⟨index, _, hindex, rfl, hentry⟩ := session_eq_some hsession
  rw [session_sessionIdOf s hindex] at hfree
  cases hstep.stepped h with
  | @responded other spdu delivers responds =>
      by_cases hopen : ∃ resourceId, Spdu.parse spdu = .ok (.openSessionRequest resourceId)
      · obtain ⟨resourceId, request⟩ := hopen
        cases hverdict : s.verdict other resourceId with
        | error status => exact (hsame (hstep.refuses h delivers request hverdict)).elim
        | ok kind =>
            obtain ⟨hsessions, hresources⟩ := hstep.opens h delivers request hverdict fun hkind =>
              hanswered other spdu resourceId delivers request (hkind ▸ hverdict)
            rw [entry_congr hsessions, entry_allocated] at hentry
            split at hentry
            · next hfresh =>
                cases hentry
                obtain rfl : kind = .applicationInfo := resourceId_injective hresource
                rw [ApplicationInfoResource.knows, hresources rfl, hfresh, ResourceRegistry.opened,
                  KeyMap.get_insert_self]
                rfl
            · rw [hfree] at hentry
              cases hentry
      · have hopens : OpensNone s s' := hstep.hands h delivers (fun _ _ hs => hs) fun t _ _ =>
          opensNone_dispatchSpdu (fun resourceId request => hopen ⟨resourceId, request⟩) _
        exact (hgone hopens).elim
  | talked sessions talks => exact (hsame sessions).elim
  | dropped op kept tells =>
      rw [((kept index session).mp hentry).1] at hfree
      cases hfree
  | commanded sessions tells => exact (hsame sessions).elim

theorem SessionStep.served (h : s.Consistent) (hstep : SessionStep s label s') (hlive : s.session sessionId ≠ none)
    (hserves : s'.serves sessionId slotId = true) : s.serves sessionId slotId = true := by
  obtain ⟨session, hsession, hslot, hresource⟩ := serves_iff.mp hserves
  obtain ⟨index, _, hindex, rfl, hentry⟩ := session_eq_some hsession
  rw [session_sessionIdOf s hindex] at hlive
  have hserving {before : Session} (hbefore : s.entry index = some before) (hsame : before.slotId = session.slotId ∧
      before.resourceId = session.resourceId) : s.serves (sessionIdOf index) slotId = true :=
    serves_iff.mpr ⟨before, (session_sessionIdOf s hindex).trans hbefore, hsame.1.trans hslot, hsame.2.trans hresource⟩
  cases hstep.turnover h index with
  | same entry => exact hserving (entry.symm.trans hentry) ⟨rfl, rfl⟩
  | opened fresh entry resources =>
      rw [fresh] at hlive
      exact absurd (entry_freshIndex s) hlive
  | turned live entry =>
      obtain rfl := Option.some.inj (entry.symm.trans hentry)
      exact hserving live ⟨rfl, rfl⟩
  | dropped live op entry => cases entry.symm.trans hentry
  | closed live delivers request entry => cases entry.symm.trans hentry
  | completed live delivers response closing final entry => cases entry.symm.trans hentry

theorem CiSession.Introduced.step (ht : s.Introduced) (h : s.Consistent) (hstep : SessionStep s label s')
    (hanswered : OpensAnswered s label) : s'.Introduced := by
  intro sessionId slotId hserves
  by_cases hfree : s.session sessionId = none
  · exact hstep.introduces h hanswered hfree hserves
  · have hknown := ht.record h (hstep.served h hfree hserves)
    rw [← known_learnt s label sessionId] at hknown
    obtain ⟨record, hrecord, _⟩ := Option.map_eq_some_iff.mp hknown
    rcases (hstep.infoKept h).kept sessionId record hrecord with hkept | hgone
    · rw [ApplicationInfoResource.knows, hkept]
      rfl
    · rw [serves, hgone] at hserves
      cases hserves

theorem InfoRun.introduced (h : InfoRun slotsNum OpensAnswered labels s log) : s.Introduced := by
  induction h with
  | new link =>
      intro sessionId slotId hserves
      obtain ⟨session, hsession, _⟩ := serves_iff.mp hserves
      obtain ⟨index, _, _, _, hentry⟩ := session_eq_some hsession
      cases hentry
  | step run met last ih => exact ih.step run.sessionRun.consistent.1 last met

end Introduced

theorem InfoRun.reflects (h : InfoRun slotsNum OpensAnswered labels s log) (hcount : log.count ≤ u64Max) :
    Reflects s.resources.applicationInfo log := by
  induction h with
  | new link => exact .new
  | @step labels s log label s' run met last ih =>
      have hconsistent := run.sessionRun.consistent.1
      have hconsistent' := last.consistent hconsistent
      rw [InfoLog.count_after] at hcount
      have hserved : ∀ h ∈ brought s label, (s.resources.applicationInfo.sessions[h.1]?).map
          ApplicationInfoSession.slotId = some h.2.1 := fun h hmem => run.introduced.record hconsistent (brought_served hmem)
      have hlearnt : Reflects (learnt s label) _ := (ih (by omega)).brought hserved hcount
      refine hlearnt.forget (last.infoKept hconsistent) (fun sessionId hfree => ?_) (fun e _ hgone => ?_)
        fun e _ record hrecord hslot => ?_
      · cases hrecord : (learnt s label).sessions[sessionId]? with
        | none => rfl
        | some record =>
            have hknown := known_learnt s label sessionId
            rw [hrecord, Option.map_some] at hknown
            obtain ⟨session, hsession, _⟩ :=
              (hconsistent.records sessionId .applicationInfo _ hknown.symm).serving hconsistent
            rw [hfree] at hsession
            cases hsession
      · rw [serves, hgone]
      · apply serves_iff.mpr
        refine @Bound.serving s' _ _ .applicationInfo hconsistent' (hconsistent'.records _ _ _ ?_)
        rw [ResourceRegistry.recordSlot, hrecord, Option.map_some, hslot]

section Menu

variable {s : CiSession} {slotId : UInt8}

def CiSession.Lowest (s : CiSession) (slotId : UInt8) (sessionId : UInt16) : Prop :=
  s.Serving sessionId slotId .applicationInformation ∧
    ∀ other, s.Serving other slotId .applicationInformation → sessionId ≤ other

theorem isSession_iff (h : s.Consistent) {sessionId : UInt16} :
    s.isSession slotId sessionId .applicationInformation = true ↔
      s.Serving sessionId slotId .applicationInformation := by
  rw [isSession, Serving]
  cases hsession : s.session sessionId with
  | none => simp
  | some session =>
      obtain ⟨index, _, _, _, live⟩ := session_eq_some hsession
      obtain ⟨_, ⟨kind, hkind⟩, hclosing⟩ := h.live index session live
      simp only [Bool.and_eq_true, decide_eq_true_eq, Option.some.injEq, exists_eq_left']
      constructor
      · rintro ⟨⟨hslot, hbase⟩, _⟩
        rw [hkind] at hbase ⊢
        exact ⟨hslot, congrArg ResourceKind.resourceId (@ResourceKind.base_injective kind .applicationInfo hbase)⟩
      · rintro ⟨hslot, hresource⟩
        refine ⟨⟨hslot, by rw [hresource]⟩, ?_⟩
        cases hstate : session.state with
        | active => rfl
        | closing =>
            have hmmi := hclosing hstate
            rw [hresource] at hmmi
            cases hmmi

theorem enterMenu_confirmed (h : s.Consistent) {sessionId : UInt16} {info : ApplicationInfo}
    (hinfo : s.resources.applicationInfo.infoSession slotId = some (sessionId, info))
    (hserving : s.Serving sessionId slotId .applicationInformation) :
    enterMenu slotId s = sendApdu slotId sessionId .enterMenu [] s := by
  have hconfirmed : ((s.resources.applicationInfo.infoSession slotId).map Prod.fst).filter (fun sessionId =>
      s.isSession slotId sessionId .applicationInformation) = some sessionId := by
    rw [hinfo, Option.map_some, Option.filter_some, if_pos ((isSession_iff h).mpr hserving)]
  unfold enterMenu
  refine get_bind_run.trans ?_
  dsimp only
  rw [hconfirmed]
  rfl

theorem sessionIds_sorted (h : s.Consistent) : s.sessionIds.Pairwise (· ≤ ·) := by
  have hlength := h.size_le
  rw [sessionIds, List.pairwise_map]
  refine List.pairwise_lt_range.imp_of_mem fun {i j} hi hj hlt => ?_
  rw [List.mem_range] at hi hj
  rw [UInt16.le_iff_toNat_le, toNat_sessionIdOf (by omega), toNat_sessionIdOf (by omega)]
  omega

theorem mem_sessionIds {sessionId : UInt16} {session : Session} (hsession : s.session sessionId = some session) :
    sessionId ∈ s.sessionIds := by
  obtain ⟨index, _, _, rfl, hlive⟩ := session_eq_some hsession
  exact List.mem_map.mpr ⟨index, List.mem_range.mpr (Table.lt_of_entry hlive), rfl⟩

theorem enterMenu_fallback (h : s.Consistent) (hinfo : s.resources.applicationInfo.infoSession slotId = none) :
    (∃ sessionId, s.Lowest slotId sessionId ∧ enterMenu slotId s = sendApdu slotId sessionId .enterMenu [] s) ∨
      ((∀ sessionId, ¬ s.Serving sessionId slotId .applicationInformation) ∧
        ∃ context, enterMenu slotId s = (.err (.invalidProperty context), s)) := by
  have hconfirmed : ((s.resources.applicationInfo.infoSession slotId).map Prod.fst).filter (fun sessionId =>
      s.isSession slotId sessionId .applicationInformation) = none := by
    rw [hinfo]
    rfl
  have hfallback : enterMenu slotId s = (findSession slotId .applicationInformation >>= fun sessionId =>
      sendApdu slotId sessionId .enterMenu []) s := by
    unfold enterMenu
    refine get_bind_run.trans ?_
    dsimp only
    rw [hconfirmed]
  rw [hfallback]
  cases hfind : s.sessionIds.find? fun sessionId => s.isSession slotId sessionId .applicationInformation with
  | some sessionId =>
      have hfound : findSession slotId .applicationInformation s = (.ok sessionId, s) := by
        unfold findSession
        refine get_bind_run.trans ?_
        rw [hfind]
        rfl
      obtain ⟨hthis, before, rest, hsplit, hbefore⟩ := List.find?_eq_some_iff_append.mp hfind
      refine .inl ⟨sessionId, ⟨(isSession_iff h).mp hthis, fun other hother => ?_⟩, bind_run hfound⟩
      have hmem : other ∈ s.sessionIds := by
        obtain ⟨session, hsession, _⟩ := hother
        exact mem_sessionIds hsession
      have hsorted := sessionIds_sorted h
      rw [hsplit] at hmem hsorted
      rcases List.mem_append.mp hmem with hearlier | hlater
      · have hnot := hbefore other hearlier
        rw [(isSession_iff h).mpr hother] at hnot
        cases hnot
      · rcases List.mem_cons.mp hlater with rfl | hrest
        · exact UInt16.le_refl _
        · exact (List.pairwise_cons.mp (List.pairwise_append.mp hsorted).2.1).1 other hrest
  | none =>
      refine .inr ⟨fun sessionId hserving => ?_,
        s!"ca slot {slotId}: no open {ResourceId.applicationInformation.debug} session", ?_⟩
      · have hmem : sessionId ∈ s.sessionIds := by
          obtain ⟨session, hsession, _⟩ := hserving
          exact mem_sessionIds hsession
        exact List.find?_eq_none.mp hfind sessionId hmem ((isSession_iff h).mpr hserving)
      · refine bind_run_err ?_
        unfold findSession
        refine get_bind_run.trans ?_
        rw [hfind]
        rfl

end Menu

section Latest

def hearObject (slotId : UInt8) (sessionId : UInt16) (body : Bytes) : Act Error CiSession Unit := do
  let (result, _) ← runCallback slotId sessionId (ResourceRegistry.onApdu .applicationInfo .applicationInfo body)
  resourceResult slotId result

theorem onApdu_malformed {body : Bytes} {e : Error} {ctx : ResourceContext ApplicationInfoResource}
    (h : parseApplicationInfo ctx.slotId body = .err e) :
    ApplicationInfoResource.onApdu .applicationInfo body ctx = (.err e, ctx) := by
  rw [ApplicationInfoResource.onApdu]
  refine get_bind_run.trans ?_
  rw [if_pos rfl]
  refine bind_run_err ?_
  rw [h]
  rfl

theorem runCallback_failed {m : Act Error (ResourceContext ResourceRegistry) Unit} {e : Error}
    {ctx : ResourceContext ResourceRegistry} (h : m (s.context slotId sessionId) = (.err e, ctx)) :
    runCallback slotId sessionId m s = (.ok (.error e, ctx.closeSession), s.after ctx) := by
  have hresult : (runCallback slotId sessionId m s).1 = (do
      Outcome.ok (← (m (s.context slotId sessionId)).1.attempt,
        (m (s.context slotId sessionId)).2.closeSession)) := rfl
  have hstate : (runCallback slotId sessionId m s).2 = s.after (m (s.context slotId sessionId)).2 := rfl
  rw [h] at hresult hstate
  exact Prod.ext hresult hstate

theorem hearObject_malformed {body : Bytes} (h : s.Consistent)
    (hbad : ∀ info, parseApplicationInfo slotId body ≠ .ok info) : ∃ context,
      hearObject slotId sessionId body s = (.ok (), { s with events := s.events ++ [.malformed slotId context] }) := by
  have hinvalid := parseApplicationInfo_sat slotId body
  cases hparse : parseApplicationInfo slotId body with
  | ok info => exact absurd hparse (hbad info)
  | panic =>
      rw [hparse] at hinvalid
      exact hinvalid.elim
  | err e =>
      rw [hparse] at hinvalid
      obtain ⟨context, rfl⟩ := hinvalid
      refine ⟨context, ?_⟩
      have hcall : ResourceRegistry.onApdu .applicationInfo .applicationInfo body (s.context slotId sessionId) =
          (.err (.invalidData context), s.context slotId sessionId) := by
        have hinner := @onApdu_malformed body _ ((ResourceRegistry.contextLens
          ResourceRegistry.applicationInfoLens).get (s.context slotId sessionId)) hparse
        rw [ResourceRegistry.onApdu, zoom, hinner]
        rfl
      have hrun : runCallback slotId sessionId (ResourceRegistry.onApdu .applicationInfo .applicationInfo body) s =
          (.ok (.error (.invalidData context), false), s) := by
        rw [runCallback_failed hcall, after]
        exact Prod.ext rfl (on_eq h.callback)
      exact (bind_run hrun).trans rfl

structure Latest (s : CiSession) (log : InfoLog) (slotId : UInt8) : Prop where
  info : s.appInfo slotId = (log.ofSlot slotId).getLast?.map Heard.info
  order : ∀ entries : List (UInt16 × Nat × ApplicationInfo),
    entries.Perm (s.resources.applicationInfo.candidates slotId) →
      (maxByKey outranks entries).map (fun entry => entry.2.2) = s.appInfo slotId
  menu : ∀ e, (log.ofSlot slotId).getLast? = some e →
    enterMenu slotId s = sendApdu slotId e.sessionId .enterMenu [] s
  fallback : s.appInfo slotId = none →
    (∃ sessionId, s.Lowest slotId sessionId ∧ enterMenu slotId s = sendApdu slotId sessionId .enterMenu [] s) ∨
      ((∀ sessionId, ¬ s.Serving sessionId slotId .applicationInformation) ∧
        ∃ context, enterMenu slotId s = (.err (.invalidProperty context), s))

theorem InfoRun.latest (h : InfoRun slotsNum OpensAnswered labels s log) (hcount : log.count ≤ u64Max) (slotId : UInt8) :
    Latest s log slotId := by
  have hreflects := h.reflects hcount
  have hconsistent := h.sessionRun.consistent.1
  have hfound := hreflects.found slotId (List.Perm.refl _)
  have hinfo : s.appInfo slotId = (log.ofSlot slotId).getLast?.map Heard.info := by
    rw [appInfo, info, infoSession, hfound, Option.map_map, Option.map_map]
    rfl
  refine ⟨hinfo, fun entries hentries => ?_, fun e he => ?_, fun hnone => ?_⟩
  · rw [hreflects.found slotId hentries, hinfo, Option.map_map]
    rfl
  · have hsession : s.resources.applicationInfo.infoSession slotId = some (e.sessionId, e.info) := by
      rw [infoSession, hfound, he]
      rfl
    obtain ⟨hmem, hslot⟩ := List.mem_filter.mp (List.mem_of_getLast? he)
    rw [decide_eq_true_eq] at hslot
    obtain ⟨record, hrecord, hrecordSlot⟩ := hreflects.known e hmem
    refine enterMenu_confirmed hconsistent hsession ?_
    refine @Bound.serving s _ _ .applicationInfo hconsistent (hconsistent.records _ _ _ ?_)
    rw [ResourceRegistry.recordSlot, hrecord, Option.map_some, hrecordSlot, hslot]
  · refine enterMenu_fallback hconsistent ?_
    rw [appInfo, info, Option.map_eq_none_iff] at hnone
    exact hnone

theorem latest_application_info (h : InfoRun slotsNum OpensAnswered labels s log) (hcount : log.count ≤ u64Max) :
    (∀ slotId, Latest s log slotId) ∧
    ∀ slotId sessionId body, (∀ info, parseApplicationInfo slotId body ≠ .ok info) → ∃ context,
      hearObject slotId sessionId body s =
        (.ok (), { s with events := s.events ++ [.malformed slotId context] }) :=
  ⟨h.latest hcount, fun _ _ _ hbad => hearObject_malformed h.sessionRun.consistent.1 hbad⟩

def smartcard : ApplicationInfo := ⟨1, 0x1234, 0x5678, [0x41]⟩

def smartcardSpdu : Bytes := [0x90, 2, 0, 1, 0x9F, 0x80, 0x21, 7, 1, 0x12, 0x34, 0x56, 0x78, 1, 0x41]

-- A module asks for an Application Information session over the link and tells its application.
def appAsked (link : CaDevice) : CaDevice × SessionOp :=
  ({ link with reads := [.frame (moduleFrame 0 [0x91, 4, 0x00, 0x02, 0x00, 0x41])] }, .recv fun _ => true)

def twoCalls (first second : CaDevice × SessionOp) : Option ((SessionLabel × CiSession) × SessionLabel × CiSession) := do
  let opened ← SessionOp.next (CiSession.new (CiTransport.new {} 1)) first
  let told ← SessionOp.next opened.2 second
  pure (opened, told)

def logAfter (calls : (SessionLabel × CiSession) × SessionLabel × CiSession) : InfoLog :=
  (({} : InfoLog).after (CiSession.new (CiTransport.new {} 1)) calls.1.1 calls.1.2).after calls.1.2 calls.2.1 calls.2.2

theorem twoCalls_run {first second : CaDevice × SessionOp} {calls : (SessionLabel × CiSession) × SessionLabel × CiSession}
    (h : twoCalls first second = some calls)
    (hmet : ∀ s label, label.link = first.1 ∨ label.link = second.1 → P s label) :
    InfoRun 1 P [calls.1.1, calls.2.1] calls.2.2 (logAfter calls) := by
  obtain ⟨opened, hopened, hrest⟩ := Option.bind_eq_some_iff.mp h
  obtain ⟨told, htold, hpair⟩ := Option.bind_eq_some_iff.mp hrest
  obtain rfl := Option.some.inj hpair
  have hfirst := hmet (CiSession.new (CiTransport.new {} 1)) opened.1 (.inl (SessionOp.next_call hopened).1)
  have hsecond := hmet opened.2 told.1 (.inr (SessionOp.next_call htold).1)
  exact ((InfoRun.new {}).step hfirst (SessionOp.next_pair hopened)).step hsecond (SessionOp.next_pair htold)

theorem appTold_isSome : (twoCalls (appAsked {}) (framed 0 smartcardSpdu)).isSome := by decide +kernel

def afterAppTold : (SessionLabel × CiSession) × SessionLabel × CiSession :=
  (twoCalls (appAsked {}) (framed 0 smartcardSpdu)).get appTold_isSome

theorem afterAppTold_count : (logAfter afterAppTold).count = 1 ∧ afterAppTold.2.2.appInfo 0 = some smartcard := by
  decide +kernel

theorem opensAnswered_of_willing {link : CaDevice} (hwilling : link.nextWrite.refuses = false) (hlink : label.link = link) :
    OpensAnswered s label := by
  intro slotId spdu resourceId _ _ _
  rw [hlink]
  exact hwilling

theorem afterAppTold_run :
    InfoRun 1 OpensAnswered [afterAppTold.1.1, afterAppTold.2.1] afterAppTold.2.2 (logAfter afterAppTold) := by
  refine twoCalls_run (Option.some_get appTold_isSome).symm fun s label hlink => ?_
  rcases hlink with hlink | hlink
  · exact opensAnswered_of_willing rfl hlink
  · exact opensAnswered_of_willing rfl hlink

theorem latest_application_info_told :
    InfoRun 1 OpensAnswered [afterAppTold.1.1, afterAppTold.2.1] afterAppTold.2.2 (logAfter afterAppTold) ∧
      (∀ slotId, Latest afterAppTold.2.2 (logAfter afterAppTold) slotId) ∧
        afterAppTold.2.2.appInfo 0 = some smartcard := by
  have hcount : (logAfter afterAppTold).count ≤ u64Max := by
    rw [afterAppTold_count.1]
    decide
  exact ⟨afterAppTold_run, (latest_application_info afterAppTold_run hcount).1, afterAppTold_count.2⟩

-- The answer to the request cannot be written, and the module goes on as if it had come.
theorem halfOpenTold_isSome : (twoCalls (appAsked refusedWrite) (framed 0 smartcardSpdu)).isSome := by decide +kernel

def afterHalfOpenTold : (SessionLabel × CiSession) × SessionLabel × CiSession :=
  (twoCalls (appAsked refusedWrite) (framed 0 smartcardSpdu)).get halfOpenTold_isSome

theorem afterHalfOpenTold_log : (logAfter afterHalfOpenTold).count = 1 ∧
    ((logAfter afterHalfOpenTold).ofSlot 0).map Heard.info = [smartcard] ∧ afterHalfOpenTold.2.2.serves 1 0 = true ∧
      afterHalfOpenTold.2.2.appInfo 0 = none := by decide +kernel

theorem half_open_application_unheard :
    ∃ labels s log, InfoRun 1 (fun _ _ => True) labels s log ∧ log.count ≤ u64Max ∧
      (log.ofSlot 0).map Heard.info = [smartcard] ∧ s.serves 1 0 = true ∧ s.appInfo 0 = none ∧ ¬ Latest s log 0 := by
  obtain ⟨hcount, hlog, hserves, hinfo⟩ := afterHalfOpenTold_log
  have hrun := @twoCalls_run (fun _ _ => True) _ _ _ (Option.some_get halfOpenTold_isSome).symm fun _ _ _ => trivial
  refine ⟨_, _, _, hrun, ?_, hlog, hserves, hinfo, fun hlatest => ?_⟩
  · show (logAfter afterHalfOpenTold).count ≤ u64Max
    rw [hcount]
    decide
  · have hlast : afterHalfOpenTold.2.2.appInfo 0 = ((logAfter afterHalfOpenTold).ofSlot 0).getLast?.map Heard.info :=
      hlatest.info
    rw [hinfo, ← List.getLast?_map, hlog] at hlast
    cases hlast

end Latest

end LibDvb
