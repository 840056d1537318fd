import LibDvb.Ca.Session.Isolation
import LibDvb.Ca.Session.Talk
import LibDvb.Ca.Session.Dispatch
import LibDvb.Ca.Transport.Attempt

namespace LibDvb

open Act Outcome CiSession

def ResourceKind.greets : ResourceKind → Bool
  | rm | applicationInfo | conditionalAccess | dateTime => true
  | hostControl | mmi => false

namespace ResourceContext

variable {R : Type}

theorem sendApdu_sent {ctx : ResourceContext R} {t : CiTransport} {tag : ApduTag} {body : Bytes}
    (hs : ctx.slotId.toNat < ctx.transport.slots.length) (hvalid : ctx.slotId ≠ 255) (hshort : body.length ≤ 16)
    (hbusy : ctx.transport.isBusy ctx.slotId = t.isBusy ctx.slotId)
    (hwrites : ctx.transport.link.writes = t.link.writes) :
    wp (sendApdu tag body) (fun _ ctx' => CiTransport.Sent ctx.slotId t ctx'.transport)
      (fun e _ => t.refuses ctx.slotId = true ∧ t.link.nextWrite.outcome = .error e) ctx := by
  rw [sendApdu, wp_bind, wp_get, wp_zoom]
  refine wp_mono (CiTransport.sendApdu_sent hs hvalid hshort) (fun _ t' ht => ht.before hbusy hwrites) fun e t' ht => ?_
  obtain ⟨hrefuses, hnext⟩ := ht
  refine ⟨(CiTransport.refuses_congr hbusy hwrites).symm.trans hrefuses, ?_⟩
  rw [CaDevice.nextWrite, ← hwrites]
  exact hnext

end ResourceContext

namespace DateTimeResource

theorem length_dateTimeBody (unixSecs : Nat) : (dateTimeBody unixSecs).length = 5 := by
  simp [dateTimeBody, toBeBytes]

theorem sendNow_sent {ctx : ResourceContext DateTimeResource} {t : CiTransport}
    (hs : ctx.slotId.toNat < ctx.transport.slots.length) (hvalid : ctx.slotId ≠ 255)
    (hbusy : ctx.transport.isBusy ctx.slotId = t.isBusy ctx.slotId)
    (hwrites : ctx.transport.link.writes = t.link.writes) :
    wp sendNow (fun _ ctx' => CiTransport.Sent ctx.slotId t ctx'.transport)
      (fun e _ => t.refuses ctx.slotId = true ∧ t.link.nextWrite.outcome = .error e) ctx := by
  have hclock : wp CaDevice.systemTime (fun _ link => link.writes = ctx.transport.link.writes)
      (fun _ _ => False) ctx.transport.link := by
    rw [CaDevice.systemTime, wp_bind, wp_get]
    cases ctx.transport.link.clock <;> exact rfl
  rw [sendNow, wp_bind, wp_zoom, nowBody, wp_bind, wp_zoom]
  refine wp_mono hclock (fun now link hlink => wp_pure.mpr ?_) fun _ _ hf => hf.elim
  have hshort : (dateTimeBody now).length ≤ 16 := by
    rw [length_dateTimeBody]
    decide
  exact ResourceContext.sendApdu_sent hs hvalid hshort hbusy (hlink.trans hwrites)

end DateTimeResource

theorem ResourceRegistry.onOpen_sent {kind : ResourceKind} {ctx : ResourceContext ResourceRegistry}
    (hs : ctx.slotId.toNat < ctx.transport.slots.length) (hvalid : ctx.slotId ≠ 255) :
    wp (onOpen kind)
      (fun _ ctx' => kind.greets = true → CiTransport.Sent ctx.slotId ctx.transport ctx'.transport)
      (fun e _ => kind.greets = true ∧ ctx.transport.refuses ctx.slotId = true ∧
        ctx.transport.link.nextWrite.outcome = .error e) ctx := by
  cases kind with
  | rm =>
      refine wp_zoom.mpr (wp_mono ?_ (fun _ _ ht _ => ht) fun _ _ ht => ⟨rfl, ht⟩)
      exact ResourceContext.sendApdu_sent (R := ResourceManager) hs hvalid (Nat.zero_le _) rfl rfl
  | applicationInfo =>
      refine wp_zoom.mpr (wp_bind.mpr (wp_get.mpr (wp_bind.mpr (wp_modify.mpr ?_))))
      refine wp_mono ?_ (fun _ _ ht _ => ht) fun _ _ ht => ⟨rfl, ht⟩
      exact ResourceContext.sendApdu_sent (R := ApplicationInfoResource) hs hvalid (Nat.zero_le _) rfl rfl
  | conditionalAccess =>
      refine wp_zoom.mpr (wp_bind.mpr (wp_get.mpr (wp_bind.mpr (wp_bind.mpr (wp_get.mpr (wp_modify.mpr ?_))))))
      refine wp_mono ?_ (fun _ _ ht _ => ht) fun _ _ ht => ⟨rfl, ht⟩
      exact ResourceContext.sendApdu_sent (R := ConditionalAccessResource) hs hvalid (Nat.zero_le _) rfl rfl
  | hostControl => exact wp_pure.mpr nofun
  | dateTime =>
      refine wp_zoom.mpr (wp_bind.mpr (wp_get.mpr (wp_bind.mpr (wp_modify.mpr ?_))))
      refine wp_mono ?_ (fun _ _ ht _ => ht) fun _ _ ht => ⟨rfl, ht⟩
      exact DateTimeResource.sendNow_sent hs hvalid rfl rfl
  | mmi => exact wp_pure.mpr nofun

namespace CiSession

variable {s s' : CiSession} {slotId : UInt8} {sessionId : UInt16} {resourceId : ResourceId} {kind : ResourceKind}

-- The write that carries the answer to an open request fails the call: the next one is refused for
-- good, or it is put off and the one of the greeting fails.
def openBreaks (s : CiSession) (slotId : UInt8) (kind : ResourceKind) : Bool :=
  let link := s.transport.link
  s.transport.refuses slotId ||
    !s.transport.isBusy slotId && link.nextWrite.delays && kind.greets && link.secondWrite.refuses &&
      !link.secondWrite.isShort

theorem length_openResponse (status : UInt8) (resourceId : ResourceId) (sessionId : UInt16) :
    (Spdu.buildOpenSessionResponse status resourceId sessionId).length ≤ Tpdu.maxTpduData := by
  have hlength : (Spdu.buildOpenSessionResponse status resourceId sessionId).length = 9 := rfl
  rw [hlength]
  decide

theorem resourceResult_fails {result : Except Error Unit} {s : CiSession} :
    wp (resourceResult slotId result)
      (fun _ s' => s'.sessions = s.sessions ∧ ∀ e, result = .error e → e.IsInvalidData)
      (fun e s' => s'.sessions = s.sessions ∧ result = .error e ∧ ¬ e.IsInvalidData) s := by
  unfold resourceResult
  split
  · exact wp_pure.mpr ⟨rfl, nofun⟩
  · refine ⟨rfl, fun e he => ?_⟩
    cases he
    exact ⟨_, rfl⟩
  · next e hne =>
      refine wp_fail.mpr ⟨rfl, rfl, ?_⟩
      rintro ⟨context, rfl⟩
      exact hne context rfl

theorem short_outcome {result : WriteResult} {e : Error} (h : result.outcome = .error e) :
    e.IsInvalidData ↔ result.isShort = true := by
  cases result with
  | whole => cases h
  | short =>
      cases h
      exact ⟨fun _ => rfl, fun _ => ⟨_, rfl⟩⟩
  | failed kind =>
      cases h
      exact ⟨nofun, nofun⟩

theorem greet_fails (h : s.HasSlot slotId) :
    wp (do
        let (result, _) ← runCallback slotId sessionId (ResourceRegistry.onOpen kind)
        resourceResult slotId result)
      (fun _ s' => s'.sessions = s.sessions ∧ (kind.greets = true → s.transport.refuses slotId = true →
        s.transport.link.nextWrite.isShort = true))
      (fun _ s' => s'.sessions = s.sessions ∧ kind.greets = true ∧ s.transport.refuses slotId = true ∧
        s.transport.link.nextWrite.isShort = false) s := by
  rw [wp_bind, wp_runCallback]
  have hopen := @ResourceRegistry.onOpen_sent kind (s.context slotId sessionId) h.bound h.valid
  refine wp_mono hopen (fun _ ctx hctx => ?_) fun e ctx hctx => ?_
  · refine wp_mono resourceResult_fails (fun _ s' hs' => ⟨hs'.1, fun hgreets hrefuses => ?_⟩) fun _ _ hs' => ?_
    · have hsent := (hctx hgreets).not_refuses
      rw [show s.transport.refuses slotId = false from hsent] at hrefuses
      cases hrefuses
    · exact nomatch hs'.2.1
  · obtain ⟨hgreets, hrefuses, hnext⟩ := hctx
    refine wp_mono resourceResult_fails (fun _ s' hs' => ⟨hs'.1, fun _ _ => ?_⟩) fun _ s' hs' =>
      ⟨hs'.1, hgreets, hrefuses, ?_⟩
    · exact (short_outcome hnext).mp (hs'.2 e rfl)
    · obtain ⟨_, heq, hdata⟩ := hs'
      cases heq
      exact Bool.eq_false_iff.mpr fun hshort => hdata ((short_outcome hnext).mpr hshort)

theorem sendSpdu_sent {spdu : Bytes} (h : s.HasSlot slotId) (hshort : spdu.length ≤ Tpdu.maxTpduData) :
    wp (sendSpdu slotId spdu)
      (fun _ s' => ∃ t, s' = { s with transport := t } ∧ CiTransport.Sent slotId s.transport t ∧
        t.slots.length = s.transport.slots.length)
      (fun _ s' => ∃ t, s' = { s with transport := t } ∧ s.transport.refuses slotId = true) s := by
  have hsend := wp_keeps (CiTransport.sendSpdu_sent h.bound h.valid hshort)
    (@CiTransport.sameLength_sendSpdu slotId spdu)
  exact wp_zoom.mpr (wp_mono hsend (fun _ t ht => ⟨t, rfl, ht⟩) fun _ t ht => ⟨t, rfl, ht.1.1⟩)

theorem openBreaks_sent {t : CiTransport} (h : CiTransport.Sent slotId s.transport t) : s.openBreaks slotId kind =
    (kind.greets && t.refuses slotId && !t.link.nextWrite.isShort) := by
  simp only [openBreaks, h.not_refuses, Bool.false_or]
  cases h with
  | waits busy still => simp [busy, CiTransport.refuses, still]
  | taken idle next busy => simp [WriteResult.delays, next, CiTransport.refuses, busy]
  | delayed idle next still writes =>
      rw [next]
      simp [idle, CiTransport.refuses, still, CaDevice.nextWrite, CaDevice.secondWrite, writes]

theorem grant_breaks (h : s.HasSlot slotId) :
    wp (grant slotId kind sessionId)
      (fun _ s' => s'.sessions = s.sessions ∧ s.openBreaks slotId kind = false)
      (fun _ s' => s'.sessions = s.sessions ∧ s.openBreaks slotId kind = true) s := by
  rw [grant, wp_bind]
  refine wp_mono (sendSpdu_sent h (length_openResponse _ _ _)) (fun _ s₁ hs₁ => ?_) fun _ s₁ hs₁ => ?_
  · obtain ⟨t, rfl, hsent, hlength⟩ := hs₁
    rw [openBreaks_sent hsent, wp_bind, note, wp_zoom, CiTransport.note, wp_modify, wp_bind, pushEvent, wp_modify]
    refine wp_mono (greet_fails ⟨hlength ▸ h.bound, h.valid⟩) (fun _ s₂ hs₂ => ⟨hs₂.1, ?_⟩) fun _ s₂ hs₂ => ⟨hs₂.1, ?_⟩
    · cases hgreets : kind.greets with
      | false => rfl
      | true =>
          cases hrefuses : t.refuses slotId with
          | false => rfl
          | true =>
              have hshort : t.link.nextWrite.isShort = true := hs₂.2 hgreets hrefuses
              rw [hshort]
              rfl
    · obtain ⟨_, hgreets, hrefuses, hshort⟩ := hs₂
      have hrefuses : t.refuses slotId = true := hrefuses
      have hshort : t.link.nextWrite.isShort = false := hshort
      rw [hgreets, hrefuses, hshort]
      rfl
  · obtain ⟨t, rfl, hrefuses⟩ := hs₁
    refine ⟨rfl, ?_⟩
    rw [openBreaks, hrefuses, Bool.true_or]

def OpenAtomic (s : CiSession) (slotId : UInt8) (resourceId : ResourceId) : Prop :=
  ∀ e s', openSession slotId resourceId s = (.err e, s') → s'.sessions = s.sessions

def CloseAtomic (s : CiSession) (slotId : UInt8) (sessionId : UInt16) : Prop :=
  ∀ e s', requestClose slotId sessionId s = (.err e, s') →
    ∃ session, s'.session sessionId = some session ∧ session.slotId = slotId ∧ session.state = .active

theorem allocated_sessions_ne (s : CiSession) (slotId : UInt8) (kind : ResourceKind) :
    (s.allocated slotId kind).sessions ≠ s.sessions := by
  intro h
  have hentry : (s.allocated slotId kind).entry s.freshIndex = s.entry s.freshIndex := by rw [entry, entry, h]
  rw [entry_allocated, if_pos rfl, entry_freshIndex] at hentry
  cases hentry

theorem refuse_sessions {status : UInt8} (h : s.HasSlot slotId) :
    wp (refuse slotId resourceId status) (fun _ s' => s'.sessions = s.sessions)
      (fun _ s' => s'.sessions = s.sessions) s := by
  rw [refuse, wp_bind]
  refine wp_mono (sendSpdu_sent h (length_openResponse _ _ _)) (fun _ s₁ hs₁ => ?_) fun _ s₁ hs₁ => ?_
  · obtain ⟨t, rfl, _⟩ := hs₁
    exact wp_modify.mpr rfl
  · obtain ⟨t, rfl, _⟩ := hs₁
    rfl

theorem openSession_atomic (h : s.HasSlot slotId) (resourceId : ResourceId) :
    s.OpenAtomic slotId resourceId ↔
      ∀ kind, s.verdict slotId resourceId = .ok kind → s.openBreaks slotId kind = false := by
  constructor
  · intro hatomic kind hverdict
    have hgrant := @grant_breaks (s.allocated slotId kind) slotId (sessionIdOf s.freshIndex) kind ⟨h.bound, h.valid⟩
    have hopen := openSession_granted hverdict
    rcases wp_cases.mp hgrant with ⟨_, _, _, hbreaks⟩ | ⟨e, he, hsessions, _⟩
    · exact hbreaks
    · have hsame := hatomic e _ (hopen.trans (Prod.ext he rfl))
      exact absurd (hsessions.symm.trans hsame) (allocated_sessions_ne s slotId kind)
  · intro hcond e s' herr
    cases hverdict : s.verdict slotId resourceId with
    | error status =>
        exact wp_err (Q := fun _ s' => s'.sessions = s.sessions) (E := fun _ s' => s'.sessions = s.sessions)
          (refuse_sessions h) ((openSession_refused hverdict).symm.trans herr)
    | ok kind =>
        have hgrant := @grant_breaks (s.allocated slotId kind) slotId (sessionIdOf s.freshIndex) kind ⟨h.bound, h.valid⟩
        have hbreaks := (wp_err hgrant ((openSession_granted hverdict).symm.trans herr)).2
        have hnot : (s.allocated slotId kind).openBreaks slotId kind = false := hcond kind hverdict
        rw [hnot] at hbreaks
        cases hbreaks

theorem requestClose_fails {index : Nat} {session : Session} (h : s.HasSlot session.slotId) (hindex : index < 65535)
    (live : s.entry index = some session) (active : session.state = .active) :
    wp (requestClose session.slotId (sessionIdOf index)) (fun _ _ => s.transport.refuses session.slotId = false)
      (fun _ s' => s.transport.refuses session.slotId = true ∧
        s'.session (sessionIdOf index) = some { session with state := .closing }) s := by
  have hnat : (sessionIdOf index).toNat - 1 = index := by
    rw [toNat_sessionIdOf hindex]
    rfl
  have hshort : (Spdu.buildCloseSessionRequest (sessionIdOf index)).length ≤ Tpdu.maxTpduData := by
    have hlength : (Spdu.buildCloseSessionRequest (sessionIdOf index)).length = 4 := rfl
    rw [hlength]
    decide
  rw [requestClose, wp_bind, wp_get, session_sessionIdOf s hindex, live]
  dsimp only
  rw [if_pos ⟨rfl, active⟩, wp_bind, wp_modify, hnat]
  refine wp_mono (sendSpdu_sent (s := putSession index _ s) ⟨h.bound, h.valid⟩ hshort) (fun _ s₁ hs₁ => ?_)
    fun _ s₁ hs₁ => ?_
  · obtain ⟨t, rfl, hsent, _⟩ := hs₁
    exact hsent.not_refuses
  · obtain ⟨t, rfl, hrefuses⟩ := hs₁
    refine ⟨hrefuses, ?_⟩
    rw [session_sessionIdOf _ hindex]
    exact (entry_turned live .closing index).trans (if_pos rfl)

theorem requestClose_idle (h : ¬ ∃ session, s.session sessionId = some session ∧ session.slotId = slotId ∧
    session.state = .active) : requestClose slotId sessionId s = (.ok (), s) := by
  apply run_of_wp
  rw [requestClose, wp_bind, wp_get]
  split
  · next session hsession =>
      rw [if_neg fun hactive => h ⟨session, hsession, hactive⟩]
      exact wp_pure.mpr ⟨rfl, rfl⟩
  · exact wp_pure.mpr ⟨rfl, rfl⟩

theorem requestClose_atomic (h : s.HasSlot slotId) (sessionId : UInt16) :
    s.CloseAtomic slotId sessionId ↔
      ∀ session, s.session sessionId = some session → session.slotId = slotId → session.state = .active →
        s.transport.refuses slotId = false := by
  constructor
  · rintro hatomic session hsession rfl hactive
    obtain ⟨index, _, hindex, rfl, live⟩ := session_eq_some hsession
    rcases wp_cases.mp (requestClose_fails h hindex live hactive) with ⟨_, _, hrefuses⟩ | ⟨e, he, _, hclosing⟩
    · exact hrefuses
    · obtain ⟨other, hother, _, hstate⟩ := hatomic e _ (Prod.ext he rfl)
      rw [hclosing, Option.some.injEq] at hother
      rw [← hother] at hstate
      cases hstate
  · intro hcond e s' herr
    by_cases hlive : ∃ session, s.session sessionId = some session ∧ session.slotId = slotId ∧ session.state = .active
    · obtain ⟨session, hsession, rfl, hactive⟩ := hlive
      obtain ⟨index, _, hindex, rfl, live⟩ := session_eq_some hsession
      have hrefuses := (wp_err (requestClose_fails h hindex live hactive) herr).1
      rw [hcond session hsession rfl hactive] at hrefuses
      cases hrefuses
    · rw [requestClose_idle hlive] at herr
      cases herr

end CiSession

theorem open_close_atomic {s : CiSession} {slotId : UInt8} (h : s.HasSlot slotId) :
    (∀ resourceId, s.OpenAtomic slotId resourceId ↔
      ∀ kind, s.verdict slotId resourceId = .ok kind → s.openBreaks slotId kind = false) ∧
    ∀ sessionId, s.CloseAtomic slotId sessionId ↔
      ∀ session, s.session sessionId = some session → session.slotId = slotId → session.state = .active →
        s.transport.refuses slotId = false :=
  ⟨openSession_atomic h, requestClose_atomic h⟩

-- The link refuses the answer to the first open request of the module, and the slot is dropped.
def refusedWrite : CaDevice := { writes := [.failed (.other 5)] }

def orphaned : List (CaDevice × SessionOp) :=
  [({ refusedWrite with reads := [.frame (moduleFrame 0 [0x91, 4, 0x00, 0x01, 0x00, 0x41])] }, .recv fun _ => true),
    ({}, .dropSlot 0)]

-- The module has an MMI session, and its slot waits for nothing.
def mmiOpened : List (CaDevice × SessionOp) :=
  [framed 0 [0x91, 4, 0x00, 0x40, 0x00, 0x41], ({ reads := [.frame [0, 0x80, 2, 1, 0]] }, .recv fun _ => true)]

theorem mmiOpened_isSome : (SessionOp.trail 1 mmiOpened).isSome := by decide +kernel

def afterMmiOpened : CiSession := ((SessionOp.trail 1 mmiOpened).get mmiOpened_isSome).2

def beforeRequest : CiSession := (CiSession.new (CiTransport.new {} 1)).called refusedWrite

theorem beforeRequest_open :
    (openSession 0 .resourceManager beforeRequest).1 = .err (.io (.other 5) "write") ∧
      (openSession 0 .resourceManager beforeRequest).2.sessions = [some ⟨0, .resourceManager, .active⟩] := by
  decide +kernel

def beforeClose : CiSession := afterMmiOpened.called refusedWrite

theorem beforeClose_close :
    beforeClose.transport.slots.length = 1 ∧ beforeClose.session 1 = some ⟨0, .mmi, .active⟩ ∧
      (requestClose 0 1 beforeClose).1 = .err (.io (.other 5) "write") ∧
      (requestClose 0 1 beforeClose).2.session 1 = some ⟨0, .mmi, .closing⟩ := by
  decide +kernel

theorem beforeRequest_slot : beforeRequest.HasSlot 0 := ⟨by decide, by decide⟩

theorem beforeClose_slot : beforeClose.HasSlot 0 := by
  constructor
  · rw [beforeClose_close.1]
    decide
  · decide

theorem open_close_atomic_refused :
    (∀ resourceId, beforeRequest.OpenAtomic 0 resourceId ↔
      ∀ kind, beforeRequest.verdict 0 resourceId = .ok kind → beforeRequest.openBreaks 0 kind = false) ∧
    beforeClose.session 1 = some ⟨0, .mmi, .active⟩ ∧
    ∀ sessionId, beforeClose.CloseAtomic 0 sessionId ↔
      ∀ session, beforeClose.session sessionId = some session → session.slotId = 0 → session.state = .active →
        beforeClose.transport.refuses 0 = false :=
  ⟨(open_close_atomic beforeRequest_slot).1, beforeClose_close.2.1, (open_close_atomic beforeClose_slot).2⟩

theorem open_close_not_atomic :
    (∃ labels s, SessionRun 1 labels s ∧ ∃ link, ¬ (s.called link).OpenAtomic 0 .resourceManager) ∧
    (∃ labels s, SessionRun 1 labels s ∧ ∃ link, ¬ (s.called link).CloseAtomic 0 1) ∧
    (SessionOp.trail 1 orphaned).map (fun r => r.2.events) = some [.sessionClosed 0 1 .resourceManager] := by
  refine ⟨⟨[], _, ⟨{}, .nil⟩, refusedWrite, fun hatomic => ?_⟩,
    ⟨_, _, SessionRun.of_trail mmiOpened_isSome, refusedWrite, fun hatomic => ?_⟩, by decide +kernel⟩
  · have hsame : (openSession 0 .resourceManager beforeRequest).2.sessions = beforeRequest.sessions :=
      hatomic _ _ (Prod.ext beforeRequest_open.1 rfl)
    exact absurd (beforeRequest_open.2.symm.trans hsame) (List.cons_ne_nil _ _)
  · obtain ⟨session, hsession, _, hactive⟩ := hatomic _ _ (Prod.ext beforeClose_close.2.2.1 rfl)
    have hclosing := hsession.symm.trans beforeClose_close.2.2.2
    rw [Option.some.injEq] at hclosing
    rw [hclosing] at hactive
    cases hactive

end LibDvb
