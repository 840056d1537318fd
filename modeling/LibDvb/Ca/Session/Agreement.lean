import LibDvb.Ca.Session.Outstanding
import LibDvb.Ca.Session.Isolation

namespace LibDvb

open Act Outcome CiSession

def Obs.isQueued : Obs → Bool
  | .queued _ _ => true
  | _ => false

def handed (trace : List Obs) : List Obs := trace.filter Obs.isQueued

@[simp] theorem handed_append (trace more : List Obs) : handed (trace ++ more) = handed trace ++ handed more :=
  List.filter_append ..

theorem handed_told (trace : List Obs) : handed (told trace) = handed trace := by
  rw [handed, told, List.filter_filter]
  congr 1
  funext obs
  cases obs <;> rfl

theorem handed_queuedSpdu (slotId : UInt8) (spdu : Bytes) : handed (queuedSpdu slotId spdu) = queuedSpdu slotId spdu := by
  rw [handed, List.filter_eq_self]
  intro obs hmem
  obtain ⟨piece, _, rfl⟩ := List.mem_map.mp hmem
  rfl

theorem handed_objects {P : UInt8 → UInt16 → Prop} {entries : List Obs} (h : Objects P entries) :
    handed entries = entries := by
  obtain ⟨objects, -, rfl⟩ := h
  induction objects with
  | nil => rfl
  | cons object objects ih => rw [List.flatMap_cons, handed_append, ih, handed_queuedSpdu]

structure OpenAnswered (s : CiSession) (slotId : UInt8) (resourceId : ResourceId) (status : UInt8)
    (sessionId : UInt16) (s' : CiSession) : Prop where
  ok : ∀ number, (status = Spdu.ssOk ∧ sessionId = number) ↔ s.session number = none ∧
    ∃ kind : ResourceKind, kind.resourceId.base = resourceId.base ∧
      s'.session number = some { slotId, resourceId := kind.resourceId, state := .active }
  notAllocated : status = Spdu.ssNotAllocated ↔ ∀ kind : ResourceKind, kind.resourceId.base ≠ resourceId.base
  lowerVersion : status = Spdu.ssLowerVersion ↔ ∃ kind : ResourceKind, kind.resourceId.base = resourceId.base ∧
    resourceId.version > kind.resourceId.version
  busy : status = Spdu.ssBusy ↔ (∃ kind : ResourceKind, kind.resourceId.base = resourceId.base ∧
    ¬ resourceId.version > kind.resourceId.version) ∧ maxSlotSessions ≤ s.inUse slotId
  others : ∀ number, number ≠ sessionId → s'.session number = s.session number
  refusal : status ≠ Spdu.ssOk → s'.sessions = s.sessions

namespace CiSession

variable {s s' : CiSession} {slotId : UInt8} {resourceId : ResourceId} {kind : ResourceKind} {spdu : Bytes}
  {label : SessionLabel}

theorem lookup_some : ResourceKind.lookup resourceId = some kind ↔ kind.resourceId.base = resourceId.base := by
  constructor
  · intro h
    have hfound := List.find?_some h
    exact of_decide_eq_true hfound
  · intro h
    have hlookup : ResourceKind.lookup resourceId = ResourceKind.lookup kind.resourceId := by
      rw [ResourceKind.lookup, ResourceKind.lookup, h]
    rw [hlookup, ResourceKind.lookup_resourceId]

theorem lookup_none : ResourceKind.lookup resourceId = none ↔
    ∀ kind : ResourceKind, kind.resourceId.base ≠ resourceId.base := by
  constructor
  · intro h kind hbase
    rw [lookup_some.mpr hbase] at h
    cases h
  · intro h
    cases hlookup : ResourceKind.lookup resourceId with
    | none => rfl
    | some kind => exact absurd (lookup_some.mp hlookup) (h kind)

theorem session_eq (s : CiSession) (number : UInt16) :
    s.session number = if number = 0 then none else s.entry (number.toNat - 1) := rfl

theorem sessionIdOf_pred {number : UInt16} (h : number ≠ 0) :
    number.toNat - 1 < 65535 ∧ sessionIdOf (number.toNat - 1) = number := by
  have hlt := number.toNat_lt
  have hpos : 0 < number.toNat := by
    rw [Nat.pos_iff_ne_zero]
    exact fun hzero => h (UInt16.toNat_inj.mp hzero)
  have hindex : number.toNat - 1 < 65535 := by omega
  refine ⟨hindex, ?_⟩
  rw [← UInt16.toNat_inj, toNat_sessionIdOf hindex]
  omega

theorem session_others {place : Nat} (h : ∀ index, index ≠ place → s'.entry index = s.entry index)
    {number : UInt16} (hne : number ≠ sessionIdOf place) : s'.session number = s.session number := by
  rw [session_eq, session_eq]
  split
  · rfl
  · next hzero =>
      apply h
      rintro rfl
      exact hne (sessionIdOf_pred hzero).2.symm

theorem OpenAnswered.granted (hc : s.Consistent)
    (granted : s.verdict slotId resourceId = .ok kind)
    (sessions : s'.sessions = (s.allocated slotId kind).sessions) :
    OpenAnswered s slotId resourceId Spdu.ssOk (sessionIdOf s.freshIndex) s' := by
  obtain ⟨hlookup, hversion, hcount⟩ := verdict_ok granted
  have hbase := lookup_some.mp hlookup
  have hfresh := hc.freshIndex_lt
  have hopened : s'.session (sessionIdOf s.freshIndex) =
      some { slotId, resourceId := kind.resourceId, state := .active } := by
    rw [session_sessionIdOf s' hfresh, entry_congr sessions, entry_allocated, if_pos rfl]
  have hothers : ∀ number, number ≠ sessionIdOf s.freshIndex → s'.session number = s.session number := by
    intro number hne
    refine session_others (fun index hplace => ?_) hne
    rw [entry_congr sessions, entry_allocated, if_neg (Ne.symm hplace)]
  have hone : ∀ other : ResourceKind, other.resourceId.base = resourceId.base → other = kind := fun other hother =>
    ResourceKind.base_injective (hother.trans hbase.symm)
  refine ⟨fun number => ⟨?_, ?_⟩, ⟨nofun, ?_⟩, ⟨nofun, ?_⟩, ⟨nofun, ?_⟩, hothers, fun hne => absurd rfl hne⟩
  · rintro ⟨_, rfl⟩
    refine ⟨?_, kind, hbase, hopened⟩
    rw [session_sessionIdOf s hfresh]
    exact entry_freshIndex s
  · rintro ⟨hfree, other, _, hlive⟩
    refine ⟨rfl, ?_⟩
    by_contra hne
    rw [hothers number (Ne.symm hne), hfree] at hlive
    cases hlive
  · intro hnone
    exact absurd hbase (hnone kind)
  · rintro ⟨other, hother, hhigher⟩
    rw [hone other hother] at hhigher
    exact absurd hhigher hversion
  · rintro ⟨_, hfull⟩
    exact absurd hcount (Nat.not_lt.mpr hfull)

theorem verdict_error {status : UInt8} (h : s.verdict slotId resourceId = .error status) :
    (status = Spdu.ssNotAllocated ∧ ∀ kind : ResourceKind, kind.resourceId.base ≠ resourceId.base) ∨
    ∃ kind : ResourceKind, kind.resourceId.base = resourceId.base ∧
      ((status = Spdu.ssLowerVersion ∧ resourceId.version > kind.resourceId.version) ∨
        (status = Spdu.ssBusy ∧ ¬ resourceId.version > kind.resourceId.version ∧
          maxSlotSessions ≤ s.inUse slotId)) := by
  unfold verdict at h
  split at h
  · next hlookup =>
      cases h
      exact .inl ⟨rfl, lookup_none.mp hlookup⟩
  · next kind hlookup =>
      refine .inr ⟨kind, lookup_some.mp hlookup, ?_⟩
      split at h
      · next hversion =>
          cases h
          exact .inl ⟨rfl, hversion⟩
      · next hversion =>
          split at h
          · next hfull =>
              cases h
              exact .inr ⟨rfl, hversion, hfull⟩
          · cases h

theorem OpenAnswered.refused {status : UInt8} (refused : s.verdict slotId resourceId = .error status)
    (sessions : s'.sessions = s.sessions) : OpenAnswered s slotId resourceId status 0 s' := by
  have hsame : ∀ number, s'.session number = s.session number := fun number => session_congr sessions number
  have hfree (hok : status ≠ Spdu.ssOk) (number : UInt16) : (status = Spdu.ssOk ∧ (0 : UInt16) = number) ↔
      s.session number = none ∧ ∃ kind : ResourceKind, kind.resourceId.base = resourceId.base ∧
        s'.session number = some { slotId, resourceId := kind.resourceId, state := .active } := by
    constructor
    · exact fun h => absurd h.1 hok
    · rintro ⟨hnone, _, _, hlive⟩
      rw [hsame, hnone] at hlive
      cases hlive
  have hone {kind : ResourceKind} (hbase : kind.resourceId.base = resourceId.base) (other : ResourceKind)
      (hother : other.resourceId.base = resourceId.base) : other = kind :=
    ResourceKind.base_injective (hother.trans hbase.symm)
  rcases verdict_error refused with ⟨rfl, hnone⟩ | ⟨kind, hbase, ⟨rfl, hhigher⟩ | ⟨rfl, hversion, hfull⟩⟩
  · refine ⟨hfree (by decide), ⟨fun _ => hnone, fun _ => rfl⟩, ⟨nofun, ?_⟩, ⟨nofun, ?_⟩,
      fun number _ => hsame number, fun _ => sessions⟩
    · rintro ⟨kind, hbase, _⟩
      exact absurd hbase (hnone kind)
    · rintro ⟨⟨kind, hbase, _⟩, _⟩
      exact absurd hbase (hnone kind)
  · refine ⟨hfree (by decide), ⟨nofun, fun hnone => absurd hbase (hnone kind)⟩,
      ⟨fun _ => ⟨kind, hbase, hhigher⟩, fun _ => rfl⟩, ⟨nofun, ?_⟩, fun number _ => hsame number,
      fun _ => sessions⟩
    rintro ⟨⟨other, hother, hnot⟩, _⟩
    rw [hone hbase other hother] at hnot
    exact absurd hhigher hnot
  · refine ⟨hfree (by decide), ⟨nofun, fun hnone => absurd hbase (hnone kind)⟩, ⟨nofun, ?_⟩,
      ⟨fun _ => ⟨⟨kind, hbase, hversion⟩, hfull⟩, fun _ => rfl⟩, fun number _ => hsame number,
      fun _ => sessions⟩
    rintro ⟨other, hother, hhigher⟩
    rw [hone hbase other hother] at hhigher
    exact absurd hhigher hversion

structure CloseAnswered (s : CiSession) (slotId : UInt8) (sessionId : UInt16) (status : UInt8) (s' : CiSession) :
    Prop where
  ok : (∃ session, s.session sessionId = some session ∧ session.slotId = slotId) → status = Spdu.ssOk ∧
    s'.session sessionId = none ∧ ∀ number, number ≠ sessionId → s'.session number = s.session number
  notAllocated : (¬ ∃ session, s.session sessionId = some session ∧ session.slotId = slotId) →
    status = Spdu.ssNotAllocated ∧ s'.sessions = s.sessions

end CiSession

def SessionLabel.Ends (label : SessionLabel) (s : CiSession) (sessionId : UInt16) (session : Session) : Prop :=
  label.op = .dropSlot session.slotId ∨ ∃ spdu, label.Delivers s session.slotId spdu ∧
    (Spdu.parse spdu = .ok (.closeSessionRequest sessionId) ∨
      session.state = .closing ∧ ∃ status, (status = Spdu.ssOk ∨ status = Spdu.ssNotAllocated) ∧
        Spdu.parse spdu = .ok (.closeSessionResponse status sessionId))

section Step

variable {s s' : CiSession} {label : SessionLabel} {slotId : UInt8} {spdu : Bytes} {delta : List Obs}

theorem SessionStep.handed (hc : s.Consistent) (hstep : SessionStep s label s')
    (hd : label.Delivers s slotId spdu) (htrace : s'.transport.trace = s.transport.trace ++ delta)
    (hw : Whole delta) : ∃ entries, Handled s slotId spdu s' entries ∧ LibDvb.handed delta = LibDvb.handed entries := by
  rcases hstep.responds hc hd with ⟨entries, hhandled, htells⟩ | ⟨_, hbreaks⟩
  · rw [htrace] at htells
    refine ⟨entries, hhandled, ?_⟩
    rw [← handed_told, htells.whole hw]
    rfl
  · rw [htrace] at hbreaks
    exact absurd hw hbreaks.not_whole

theorem SessionStep.open_answered {resourceId : ResourceId} (hc : s.Consistent) (hstep : SessionStep s label s')
    (hd : label.Delivers s slotId spdu) (hrequest : Spdu.parse spdu = .ok (.openSessionRequest resourceId))
    (htrace : s'.transport.trace = s.transport.trace ++ delta) (hw : Whole delta) :
    ∃ status sessionId objects, LibDvb.handed delta = openAnswer slotId status resourceId sessionId ++ objects ∧
      Objects (OnSession slotId sessionId) objects ∧ (status ≠ Spdu.ssOk → objects = []) ∧
      OpenAnswered s slotId resourceId status sessionId s' := by
  obtain ⟨entries, hhandled, hqueued⟩ := hstep.handed hc hd htrace hw
  cases hhandled with
  | @opened requested kind objects request granted sessions resources spoken =>
      obtain rfl : resourceId = requested := by
        rw [hrequest] at request
        cases request
        rfl
      refine ⟨Spdu.ssOk, sessionIdOf s.freshIndex, objects, ?_, spoken, fun hne => absurd rfl hne,
        CiSession.OpenAnswered.granted hc granted sessions⟩
      rw [hqueued, handed_append, openAnswer, handed_queuedSpdu]
      exact congrArg _ (handed_objects spoken)
  | @refused requested status request refused sessions resources =>
      obtain rfl : resourceId = requested := by
        rw [hrequest] at request
        cases request
        rfl
      refine ⟨status, 0, [], ?_, .nil _, fun _ => rfl,
        CiSession.OpenAnswered.refused refused sessions⟩
      rw [hqueued, List.append_nil, openAnswer, handed_queuedSpdu]
  | ignored open_ close stale sessions resources => exact absurd hrequest (open_ resourceId)
  | closed request | unknown request => simp [hrequest] at request
  | completed response | revived response => simp [hrequest] at response
  | asked apdus | spoken apdus => simp [hrequest] at apdus

theorem SessionStep.close_answered {sessionId : UInt16} (hc : s.Consistent) (hstep : SessionStep s label s')
    (hd : label.Delivers s slotId spdu) (hrequest : Spdu.parse spdu = .ok (.closeSessionRequest sessionId))
    (htrace : s'.transport.trace = s.transport.trace ++ delta) (hw : Whole delta) :
    ∃ status, LibDvb.handed delta = closeAnswer slotId status sessionId ∧
      CloseAnswered s slotId sessionId status s' := by
  obtain ⟨entries, hhandled, hqueued⟩ := hstep.handed hc hd htrace hw
  cases hhandled with
  | @closed index session request live slot sessions =>
      obtain rfl : sessionId = sessionIdOf index := by
        rw [hrequest] at request
        cases request
        rfl
      have hentry : ∀ other, s'.entry other = if index = other then none else s.entry other := fun other =>
        (@entry_congr (s.freed index session) s' sessions other).trans (entry_freed live other)
      have hindex := hc.index_lt live
      refine ⟨Spdu.ssOk, by rw [hqueued, closeAnswer, handed_queuedSpdu], ⟨fun _ => ⟨rfl, ?_, ?_⟩, fun hnone => ?_⟩⟩
      · rw [session_sessionIdOf s' hindex, hentry, if_pos rfl]
      · intro number hne
        refine session_others (fun other hother => ?_) hne
        rw [hentry, if_neg (Ne.symm hother)]
      · exact absurd ⟨session, (session_sessionIdOf s hindex).trans live, slot⟩ hnone
  | @unknown number request unknown sessions =>
      obtain rfl : sessionId = number := by
        rw [hrequest] at request
        cases request
        rfl
      refine ⟨Spdu.ssNotAllocated, by rw [hqueued, closeAnswer, handed_queuedSpdu], ⟨?_, fun _ => ⟨rfl, sessions⟩⟩⟩
      rintro ⟨session, hsession, hslot⟩
      exact absurd hslot (unknown session hsession)
  | ignored open_ close stale sessions resources => exact absurd hrequest (close sessionId)
  | opened request | refused request => simp [hrequest] at request
  | completed response | revived response => simp [hrequest] at response
  | asked apdus | spoken apdus => simp [hrequest] at apdus

theorem SessionStep.lives (hc : s.Consistent) (hstep : SessionStep s label s') {sessionId : UInt16}
    {session : Session} (hsession : s.session sessionId = some session) :
    (∃ state, s'.session sessionId = some { session with state }) ∨
      (s'.session sessionId = none ∧ label.Ends s sessionId session) := by
  obtain ⟨index, _, hindex, rfl, hlive⟩ := session_eq_some hsession
  rw [session_sessionIdOf s' hindex]
  cases hstep.turnover hc index with
  | same entry => exact .inl ⟨session.state, by rw [entry, hlive]⟩
  | opened fresh entry resources =>
      rw [fresh, entry_freshIndex] at hlive
      cases hlive
  | @turned other state live entry =>
      obtain rfl : session = other := Option.some.inj (hlive.symm.trans live)
      exact .inl ⟨state, entry⟩
  | @dropped other live op entry =>
      obtain rfl : session = other := Option.some.inj (hlive.symm.trans live)
      exact .inr ⟨entry, .inl op⟩
  | @closed other spdu live delivers request entry =>
      obtain rfl : session = other := Option.some.inj (hlive.symm.trans live)
      exact .inr ⟨entry, .inr ⟨spdu, delivers, .inl request⟩⟩
  | @completed other spdu status live delivers response closing final entry =>
      obtain rfl : session = other := Option.some.inj (hlive.symm.trans live)
      exact .inr ⟨entry, .inr ⟨spdu, delivers, .inr ⟨closing, status, final, response⟩⟩⟩

end Step

theorem session_agreement {slotsNum : UInt8} {labels : List SessionLabel} {s : CiSession}
    (h : SessionRun slotsNum labels s) :
    (∀ label s' slotId spdu delta, SessionStep s label s' → label.Delivers s slotId spdu →
      s'.transport.trace = s.transport.trace ++ delta → Whole delta →
        (∀ resourceId, Spdu.parse spdu = .ok (.openSessionRequest resourceId) →
          ∃ status sessionId objects, handed delta = openAnswer slotId status resourceId sessionId ++ objects ∧
            Objects (OnSession slotId sessionId) objects ∧ (status ≠ Spdu.ssOk → objects = []) ∧
            OpenAnswered s slotId resourceId status sessionId s') ∧
        (∀ sessionId, Spdu.parse spdu = .ok (.closeSessionRequest sessionId) →
          ∃ status, handed delta = closeAnswer slotId status sessionId ∧
            CloseAnswered s slotId sessionId status s')) ∧
    (∀ label s' sessionId session, SessionStep s label s' → s.session sessionId = some session →
      (∃ state, s'.session sessionId = some { session with state }) ∨
        (s'.session sessionId = none ∧ label.Ends s sessionId session)) ∧
    (Whole s.transport.trace → ∀ sessionId session, s.session sessionId = some session →
      outstanding session.slotId sessionId s.transport.trace ≤ 1) := by
  have hc := h.consistent.1
  refine ⟨fun label s' slotId spdu delta hstep hd htrace hw => ⟨fun resourceId hrequest => ?_,
    fun sessionId hrequest => ?_⟩, fun label s' sessionId session hstep => hstep.lives hc, ?_⟩
  · exact hstep.open_answered hc hd hrequest htrace hw
  · exact hstep.close_answered hc hd hrequest htrace hw
  · intro hw sessionId session hsession
    obtain ⟨index, _, hindex, rfl, hlive⟩ := session_eq_some hsession
    rw [outstanding, (h.accounted hw _ _).2 index session rfl hlive rfl]
    split
    · exact Nat.le_refl 1
    · exact Nat.zero_le 1

-- With a session of slot 1 open, the module in slot 0 asks for a date-time session and gets the number 2.
def dateTimeRequest : Bytes := [0x91, 4, 0x00, 0x24, 0x00, 0x41]

theorem dateTimeRequest_isSome : (SessionOp.next afterCaOpened.2 (framed 0 dateTimeRequest)).isSome := by
  decide +kernel

def afterDateTimeRequest : SessionLabel × CiSession :=
  (SessionOp.next afterCaOpened.2 (framed 0 dateTimeRequest)).get dateTimeRequest_isSome

theorem dateTimeRequest_step : SessionStep afterCaOpened.2 afterDateTimeRequest.1 afterDateTimeRequest.2 :=
  SessionOp.next_pair (Option.some_get dateTimeRequest_isSome).symm

theorem dateTimeRequest_delivers : afterDateTimeRequest.1.Delivers afterCaOpened.2 0 dateTimeRequest := by
  obtain ⟨hlink, hop⟩ := SessionOp.next_call (Option.some_get dateTimeRequest_isSome).symm
  refine ⟨_, moduleFrame 0 dateTimeRequest, hop, rfl, ?_, by decide +kernel⟩
  rw [show afterDateTimeRequest.1.link = (framed 0 dateTimeRequest).1 from hlink]
  rfl

def dateTimeAnswer : List Obs :=
  afterDateTimeRequest.2.transport.trace.drop afterCaOpened.2.transport.trace.length

theorem dateTimeAnswer_trace :
    afterDateTimeRequest.2.transport.trace = afterCaOpened.2.transport.trace ++ dateTimeAnswer := by
  decide +kernel

theorem dateTimeAnswer_whole : Whole dateTimeAnswer := by
  rw [Whole]
  decide +kernel

theorem dateTimeRequest_parse : Spdu.parse dateTimeRequest = .ok (.openSessionRequest ⟨0x00240041⟩) := by
  decide +kernel

theorem session_agreement_dateTime :
    ∃ status sessionId objects,
      handed dateTimeAnswer = openAnswer 0 status ⟨0x00240041⟩ sessionId ++ objects ∧
        Objects (OnSession 0 sessionId) objects ∧ (status ≠ Spdu.ssOk → objects = []) ∧
        OpenAnswered afterCaOpened.2 0 ⟨0x00240041⟩ status sessionId afterDateTimeRequest.2 :=
  ((session_agreement caOpened_run).1 _ _ _ _ _ dateTimeRequest_step dateTimeRequest_delivers
    dateTimeAnswer_trace dateTimeAnswer_whole).1 _ dateTimeRequest_parse

end LibDvb
