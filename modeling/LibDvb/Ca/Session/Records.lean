import LibDvb.Ca.Session.Turnover

namespace LibDvb

open Act Outcome CiSession

namespace CiSession

def Serving (s : CiSession) (sessionId : UInt16) (slotId : UInt8) (resourceId : ResourceId) : Prop :=
  ∃ session, s.session sessionId = some session ∧ session.slotId = slotId ∧ session.resourceId = resourceId

structure Owned (s : CiSession) : Prop where
  applicationInfo : ∀ (sessionId : UInt16) record,
    s.resources.applicationInfo.sessions[sessionId]? = some record →
      s.Serving sessionId record.slotId .applicationInformation
  conditionalAccess : ∀ (sessionId : UInt16) record,
    s.resources.conditionalAccess.sessions[sessionId]? = some record →
      s.Serving sessionId record.slotId .conditionalAccessSupport
  dateTime : ∀ (sessionId : UInt16) record, s.resources.dateTime.sessions[sessionId]? = some record →
    s.Serving sessionId record.slotId .dateTime
  fragments : ∀ (sessionId : UInt16) object, s.resources.mmi.fragments[sessionId]? = some object →
    ∃ slotId, s.Serving sessionId slotId .mmi

structure Blank (s : CiSession) (sessionId : UInt16) : Prop where
  applicationInfo : ∀ record, s.resources.applicationInfo.sessions[sessionId]? = some record →
    record.info = none
  conditionalAccess : ∀ record, s.resources.conditionalAccess.sessions[sessionId]? = some record →
    record.caids = none ∧ record.selected = ∅
  dateTime : ∀ record, s.resources.dateTime.sessions[sessionId]? = some record →
    record.interval = 0 ∧ record.sent = none
  fragments : s.resources.mmi.fragments[sessionId]? = none

variable {s s' : CiSession} {slotId : UInt8} {sessionId : UInt16} {index : Nat} {kind : ResourceKind}

theorem Bound.serving (hc : s.Consistent) (h : s.Bound sessionId slotId kind) :
    s.Serving sessionId slotId kind.resourceId := by
  obtain ⟨index, session, rfl, hlive, hslot, hresource⟩ := h
  exact ⟨session, (session_sessionIdOf s (hc.index_lt hlive)).trans hlive, hslot, hresource⟩

theorem Consistent.owned (h : s.Consistent) : s.Owned where
  applicationInfo sessionId record hrecord := by
    refine @Bound.serving _ _ _ .applicationInfo h (h.records _ _ _ ?_)
    rw [ResourceRegistry.recordSlot, hrecord, Option.map_some]
  conditionalAccess sessionId record hrecord := by
    refine @Bound.serving _ _ _ .conditionalAccess h (h.records _ _ _ ?_)
    rw [ResourceRegistry.recordSlot, hrecord, Option.map_some]
  dateTime sessionId record hrecord := by
    refine @Bound.serving _ _ _ .dateTime h (h.records _ _ _ ?_)
    rw [ResourceRegistry.recordSlot, hrecord, Option.map_some]
  fragments sessionId object hobject := by
    obtain ⟨slotId, hbound⟩ := h.fragments sessionId object hobject
    exact ⟨slotId, hbound.serving h⟩

theorem Consistent.blank (h : s.Consistent) (free : s.entry index = none) (hindex : index < 65535) :
    s.Blank (sessionIdOf index) where
  applicationInfo record hrecord := by
    have hnone := h.no_record free hindex .applicationInfo
    rw [ResourceRegistry.recordSlot, hrecord] at hnone
    cases hnone
  conditionalAccess record hrecord := by
    have hnone := h.no_record free hindex .conditionalAccess
    rw [ResourceRegistry.recordSlot, hrecord] at hnone
    cases hnone
  dateTime record hrecord := by
    have hnone := h.no_record free hindex .dateTime
    rw [ResourceRegistry.recordSlot, hrecord] at hnone
    cases hnone
  fragments := h.no_fragment free hindex

theorem Blank.of_resources (h : s.Blank sessionId) (resources : s'.resources = s.resources) :
    s'.Blank sessionId where
  applicationInfo := by
    rw [resources]
    exact h.applicationInfo
  conditionalAccess := by
    rw [resources]
    exact h.conditionalAccess
  dateTime := by
    rw [resources]
    exact h.dateTime
  fragments := by
    rw [resources]
    exact h.fragments

theorem Blank.opened (h : s.Blank sessionId)
    (resources : s'.resources = s.resources.opened kind slotId sessionId) : s'.Blank sessionId := by
  cases kind with
  | applicationInfo =>
      refine ⟨fun record hrecord => ?_, ?_, ?_, ?_⟩
      · rw [resources, ResourceRegistry.opened, KeyMap.get_insert_self, Option.some.injEq] at hrecord
        rw [← hrecord]
      · rw [resources]
        exact h.conditionalAccess
      · rw [resources]
        exact h.dateTime
      · rw [resources]
        exact h.fragments
  | conditionalAccess =>
      refine ⟨?_, fun record hrecord => ?_, ?_, ?_⟩
      · rw [resources]
        exact h.applicationInfo
      · rw [resources, ResourceRegistry.opened, KeyMap.get_insert_self, Option.some.injEq] at hrecord
        rw [← hrecord]
        exact ⟨rfl, rfl⟩
      · rw [resources]
        exact h.dateTime
      · rw [resources]
        exact h.fragments
  | dateTime =>
      refine ⟨?_, ?_, fun record hrecord => ?_, ?_⟩
      · rw [resources]
        exact h.applicationInfo
      · rw [resources]
        exact h.conditionalAccess
      · rw [resources, ResourceRegistry.opened, KeyMap.get_insert_self, Option.some.injEq] at hrecord
        rw [← hrecord]
        exact ⟨rfl, rfl⟩
      · rw [resources]
        exact h.fragments
  | _ => exact h.of_resources resources

end CiSession

variable {s s' : CiSession} {label : SessionLabel}

theorem SessionStep.blank {sessionId : UInt16} (h : s.Consistent) (hstep : SessionStep s label s')
    (hfree : s.session sessionId = none) (hlive : s'.session sessionId ≠ none) : s'.Blank sessionId := by
  obtain ⟨session, hsession⟩ := Option.ne_none_iff_exists'.mp hlive
  obtain ⟨index, _, hindex, rfl, hentry⟩ := session_eq_some hsession
  rw [session_sessionIdOf s hindex] at hfree
  have hbefore := h.blank hfree hindex
  cases hstep.turnover h index with
  | same entry =>
      rw [entry, hfree] at hentry
      cases hentry
  | opened fresh entry resources =>
      rcases resources with hopened | hsame
      · exact hbefore.opened hopened
      · exact hbefore.of_resources hsame
  | turned live entry =>
      rw [hfree] at live
      cases live
  | dropped live op entry =>
      rw [hfree] at live
      cases live
  | closed live delivers request entry =>
      rw [hfree] at live
      cases live
  | completed live delivers response closing final entry =>
      rw [hfree] at live
      cases live

theorem SessionStep.tick_carries {now : Instant} (h : s.Consistent) (hstep : SessionStep s label s')
    (hop : label.op = .tickAt now) :
    s'.sessions = s.sessions ∧ ∃ delta, s'.transport.trace = s.transport.trace ++ .called :: delta ∧
      ∀ obs ∈ delta, obs.Carries fun slotId sessionId => s.Serving sessionId slotId .dateTime := by
  obtain ⟨hsessions, hrings⟩ := hstep.rings hop
  obtain ⟨delta, htrace, _, hall⟩ := hrings.carries
  have hdelta : s'.transport.trace = s.transport.trace ++ [.called] ++ delta := htrace
  refine ⟨hsessions, delta, by rw [hdelta, List.append_assoc]; rfl, fun obs hmem => (hall obs hmem).mono ?_⟩
  intro slotId sessionId hrecorded
  exact @Bound.serving _ _ _ .dateTime h (h.records sessionId .dateTime slotId hrecorded)

theorem records_follow_sessions {slotsNum : UInt8} {labels : List SessionLabel} {s : CiSession}
    (h : SessionRun slotsNum labels s) :
    s.Owned ∧ ∀ label s', SessionStep s label s' →
      (∀ sessionId, s.session sessionId = none → s'.session sessionId ≠ none → s'.Blank sessionId) ∧
      ∀ now, label.op = .tickAt now → s'.sessions = s.sessions ∧
        ∃ delta, s'.transport.trace = s.transport.trace ++ .called :: delta ∧
          ∀ obs ∈ delta, obs.Carries fun slotId sessionId => s.Serving sessionId slotId .dateTime := by
  have hc := h.consistent.1
  refine ⟨hc.owned, fun label s' hstep => ⟨fun sessionId => hstep.blank hc, fun now => hstep.tick_carries hc⟩⟩

-- A Conditional Access session of slot 1 tells its CAIDs and is closed, and slot 0 opens a date-time
-- session that takes its number.
def caForgotten : List (CaDevice × SessionOp) :=
  [framed 1 [0x91, 4, 0x00, 0x03, 0x00, 0x41],
    framed 1 [0x90, 2, 0, 1, 0x9F, 0x80, 0x31, 2, 0x05, 0x00], framed 1 [0x95, 2, 0, 1]]

theorem caForgotten_isSome : (SessionOp.trail 2 caForgotten).isSome := by decide +kernel

def afterCaForgotten : List SessionLabel × CiSession :=
  (SessionOp.trail 2 caForgotten).get caForgotten_isSome

def numberReused : CaDevice × SessionOp := framed 0 [0x91, 4, 0x00, 0x24, 0x00, 0x41]

theorem numberReused_isSome : (SessionOp.next afterCaForgotten.2 numberReused).isSome := by decide +kernel

def afterNumberReused : SessionLabel × CiSession :=
  (SessionOp.next afterCaForgotten.2 numberReused).get numberReused_isSome

theorem numberReused_step : SessionStep afterCaForgotten.2 afterNumberReused.1 afterNumberReused.2 :=
  SessionOp.next_pair (Option.some_get numberReused_isSome).symm

theorem numberReused_live : afterCaForgotten.2.session 1 = none ∧
    afterNumberReused.2.session 1 = some ⟨0, .dateTime, .active⟩ := by decide +kernel

theorem records_follow_sessions_reused : afterCaForgotten.2.Owned ∧ afterNumberReused.2.Blank 1 := by
  have hrecords := records_follow_sessions (SessionRun.of_trail caForgotten_isSome)
  refine ⟨hrecords.1, (hrecords.2 _ _ numberReused_step).1 1 numberReused_live.1 ?_⟩
  rw [numberReused_live.2]
  exact nofun

end LibDvb
