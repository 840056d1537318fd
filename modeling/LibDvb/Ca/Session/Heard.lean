import LibDvb.Ca.Session.Listed
import LibDvb.Ca.Session.Wire

namespace LibDvb

open Relation CaPmt ConditionalAccessResource

def Telling.caAct : Telling → Option CaAct
  | opened sessionId => some (.opened sessionId)
  | object sessionId tag body => if tag = .caPmt then some (.pmt sessionId body) else none

def objectsHeard (sessionId : UInt16) (tellings : List Telling) : List Bytes :=
  (tellings.filterMap Telling.caAct).foldl (CaAct.collect sessionId) []

def HeardOn (sessionId : UInt16) (slotId : UInt8) (trace : List Obs) : Prop :=
  .activated slotId ∈ sinceCleared slotId trace →
    objectsHeard sessionId (handedOver slotId trace) = objectsSince sessionId trace

def Obs.Proper (sessionId : UInt16) (slotId : UInt8) : Obs → Prop
  | .opened other number => number = sessionId → other = slotId
  | .apdu other number tag body => number = sessionId → tag = .caPmt → other = slotId ∧ body.length ≤ 65535
  | .activated other => other ≠ slotId
  | _ => True

section History

variable {sessionId other : UInt16} {slotId : UInt8} {trace delta : List Obs} {obs : Obs} {tellings more : List Telling}
  {objects : List Bytes}

theorem objectsHeard_append : objectsHeard sessionId (tellings ++ more) =
    (more.filterMap Telling.caAct).foldl (CaAct.collect sessionId) (objectsHeard sessionId tellings) := by
  rw [objectsHeard, List.filterMap_append, List.foldl_append]
  rfl

theorem objectsSince_snoc : objectsSince sessionId (trace ++ [obs]) =
    obs.caAct.toList.foldl (CaAct.collect sessionId) (objectsSince sessionId trace) :=
  objectsSince_acts (caActs_snoc trace obs)

theorem handedOver_snoc : handedOver slotId (trace ++ [obs]) =
    if obs = .cleared slotId then []
    else if obs.slot = some slotId then handedOver slotId trace ++ obs.hands.toList else handedOver slotId trace := by
  unfold handedOver
  rw [sinceCleared_snoc]
  split
  · rfl
  · split
    · rw [List.filterMap_append]
      cases hhands : obs.hands <;> simp [hhands]
    · rfl

theorem collect_hands (hproper : obs.Proper sessionId slotId) :
    (obs.hands.toList.filterMap Telling.caAct).foldl (CaAct.collect sessionId) objects =
      obs.caAct.toList.foldl (CaAct.collect sessionId) objects := by
  cases obs with
  | opened slotId' number => rfl
  | apdu slotId' number tag body =>
      rw [Obs.hands, Obs.caAct]
      by_cases htag : tag = .caPmt
      · subst htag
        split
        · rfl
        · next hlong =>
            have hne : number ≠ sessionId := fun heq => hlong (hproper heq rfl).2
            rw [if_pos rfl]
            exact (if_neg hne).symm
      · have hnone : Telling.caAct (.object number tag body) = none := if_neg htag
        rw [if_neg htag]
        split
        · rw [Option.toList_some, List.filterMap_cons_none hnone]
          rfl
        · rfl
  | _ => rfl

theorem collect_elsewhere (hproper : obs.Proper sessionId slotId) (hslot : obs.slot ≠ some slotId) :
    obs.caAct.toList.foldl (CaAct.collect sessionId) objects = objects := by
  cases obs with
  | opened slotId' number => exact if_neg fun heq => hslot (congrArg some (hproper heq))
  | apdu slotId' number tag body =>
      rw [Obs.caAct]
      split
      · next htag => exact if_neg fun heq => hslot (congrArg some (hproper heq htag).1)
      · rfl
  | _ => rfl

theorem HeardOn.snoc (h : HeardOn sessionId slotId trace) (hproper : obs.Proper sessionId slotId) :
    HeardOn sessionId slotId (trace ++ [obs]) := by
  intro hactivated
  rw [handedOver_snoc]
  rw [sinceCleared_snoc] at hactivated
  split at hactivated
  · cases hactivated
  · next hkept =>
      rw [if_neg hkept]
      split at hactivated
      · next hslot =>
          have hold : .activated slotId ∈ sinceCleared slotId trace := by
            refine (List.mem_append.mp hactivated).resolve_right fun hmem => ?_
            rw [← List.mem_singleton.mp hmem] at hproper
            exact hproper rfl
          rw [if_pos hslot, objectsHeard_append, collect_hands hproper, h hold, objectsSince_snoc]
      · next hslot => rw [if_neg hslot, h hactivated, objectsSince_snoc, collect_elsewhere hproper hslot]

theorem HeardOn.append (h : HeardOn sessionId slotId trace) (hproper : ∀ obs ∈ delta, obs.Proper sessionId slotId) :
    HeardOn sessionId slotId (trace ++ delta) := by
  induction delta using List.reverseRecOn with
  | nil => rwa [List.append_nil]
  | append_singleton delta obs ih =>
      rw [← List.append_assoc]
      exact (ih fun other hmem => hproper other (List.mem_append_left _ hmem)).snoc (hproper obs (by simp))

theorem heardOn_opened : HeardOn sessionId slotId (trace ++ [.opened slotId sessionId]) := by
  intro _
  have hslot : (Obs.opened slotId sessionId).slot = some slotId := rfl
  rw [handedOver_snoc, if_neg (by rintro ⟨⟩), if_pos hslot, objectsHeard_append, objectsSince_snoc]
  exact (if_pos rfl).trans (if_pos rfl).symm

end History

section Size

variable {program : Program} {caids : List UInt16} {listManagement : CaPmtListManagement} {command : CaPmtCommand}
  {body : Bytes} {programs : KeyMap Program} {session : ConditionalAccessSession} {change : CaPmtChange}

theorem buildCaPmt_small (h : program.Fits)
    (hbuild : program.buildCaPmt caids listManagement command = .ok (some body)) : body.length ≤ 65535 := by
  obtain ⟨built, hbuilt, hsmall⟩ := buildCaPmt_fits h caids listManagement command
  rw [hbuild] at hbuilt
  cases hbuilt
  exact hsmall body rfl

theorem withdrawal_small {number : UInt16}
    (h : ∀ (number : UInt16) program, session.selected[number]? = some program → program.Fits)
    (hbody : body ∈ (withdrawal session caids number).1) : body.length ≤ 65535 := by
  unfold withdrawal at hbody
  split at hbody
  · cases hbody
  · next program known =>
      split at hbody
      · next built hbuild =>
          rw [List.mem_singleton.mp hbody]
          exact buildCaPmt_small (h number program known) hbuild
      · cases hbody

theorem changePlan_small (h : ∀ (number : UInt16) program, session.selected[number]? = some program → program.Fits)
    (hchange : change.Fits) (hbody : body ∈ (changePlan session change).1) : body.length ≤ 65535 := by
  cases change with
  | set program =>
      simp only [changePlan] at hbody
      split at hbody
      · cases hbody
      · split at hbody
        · next built hbuild =>
            rw [List.mem_singleton.mp hbody]
            exact buildCaPmt_small hchange hbuild
        · exact withdrawal_small h hbody
  | remove number =>
      simp only [changePlan] at hbody
      split at hbody
      · cases hbody
      · exact withdrawal_small h hbody

theorem selectPlan_small {entries : List (UInt16 × Program)} (h : ∀ entry ∈ entries, entry.2.Fits) :
    ∀ selected, ∀ body ∈ (selectPlan caids selected entries).1, body.length ≤ 65535 := by
  induction entries with
  | nil => exact fun _ _ hmem => absurd hmem List.not_mem_nil
  | cons entry rest ih =>
      intro selected body hbody
      have hrest := ih fun other hmem => h other (List.mem_cons_of_mem _ hmem)
      rw [selectPlan] at hbody
      split at hbody
      · next built hbuild =>
          rcases List.mem_cons.mp hbody with rfl | hlater
          · exact buildCaPmt_small (h entry List.mem_cons_self) hbuild
          · exact hrest _ body hlater
      · exact hrest _ body hbody

theorem withdrawPlan_small {entries : List (UInt16 × Program)} (h : ∀ entry ∈ entries, entry.2.Fits)
    (hbody : body ∈ withdrawPlan caids entries) : body.length ≤ 65535 := by
  obtain ⟨entry, hmem, hentry⟩ := List.mem_filterMap.mp hbody
  dsimp only at hentry
  split at hentry
  · next built hbuild => exact buildCaPmt_small (h entry hmem) (hentry ▸ hbuild)
  · cases hentry

theorem infoPlan_small (hprograms : ∀ (number : UInt16) program, programs[number]? = some program → program.Fits)
    (h : ∀ (number : UInt16) program, session.selected[number]? = some program → program.Fits)
    (hbody : body ∈ (infoPlan programs session caids).1) : body.length ≤ 65535 := by
  have hentries {m : KeyMap Program} (hm : ∀ (number : UInt16) program, m[number]? = some program → program.Fits) :
      ∀ entry ∈ m.toList, entry.2.Fits := fun entry hmem => hm entry.1 entry.2 (KeyMap.mem_toList.mp hmem)
  have hselect := @selectPlan_small caids _ (hentries hprograms) ∅
  simp only [infoPlan] at hbody
  split at hbody
  · split at hbody
    · rcases List.mem_append.mp hbody with hbody | hbody
      · exact hselect body hbody
      · exact withdrawPlan_small (hentries h) hbody
    · exact hselect body hbody
  · exact hselect body hbody

end Size

namespace CiSession

variable {A V : UInt8 → Prop} {s s' : CiSession} {change : CaPmtChange}

def Heard (s : CiSession) : Prop :=
  ∀ (sessionId : UInt16) session, s.resources.conditionalAccess.sessions[sessionId]? = some session →
    HeardOn sessionId session.slotId s.transport.trace

theorem Heard.congr (h : s.Heard)
    (records : ∀ (sessionId : UInt16) session, s'.resources.conditionalAccess.sessions[sessionId]? = some session →
      ∃ old, s.resources.conditionalAccess.sessions[sessionId]? = some old ∧ old.slotId = session.slotId)
    (delta : List Obs) (htrace : s'.transport.trace = s.transport.trace ++ delta)
    (hproper : ∀ (sessionId : UInt16) session, s.resources.conditionalAccess.sessions[sessionId]? = some session →
      ∀ obs ∈ delta, obs.Proper sessionId session.slotId) : s'.Heard := by
  intro sessionId session known
  obtain ⟨old, hold, hslot⟩ := records sessionId session known
  rw [htrace, ← hslot]
  exact (h sessionId old hold).append (hproper sessionId old hold)

theorem proper_sends {strict : Prop} {slotId other : UInt8} {sessionId : UInt16} {trace : List Obs} {obs : Obs}
    (h : Sends strict slotId trace obs) : obs.Proper sessionId other := by
  cases obs with
  | queued | wrote => trivial
  | _ => exact h.1.elim

theorem Heard.sent (h : s.Heard) {strict : Prop} {slotId : UInt8} {t : CiTransport}
    (path : ReflTransGen (CiTransport.Step (Sends strict slotId)) s.transport t)
    (records : ∀ (sessionId : UInt16) session, s'.resources.conditionalAccess.sessions[sessionId]? = some session →
      ∃ old, s.resources.conditionalAccess.sessions[sessionId]? = some old ∧ old.slotId = session.slotId)
    (htrace : s'.transport.trace = t.trace) : s'.Heard := by
  obtain ⟨delta, hdelta, _, hall⟩ := CiTransport.Within.path (A := fun obs => ∀ sessionId other, obs.Proper sessionId other)
    path fun _ _ hsends _ _ => proper_sends hsends
  exact h.congr records delta (htrace.trans hdelta) fun sessionId session _ obs hmem => hall obs hmem sessionId session.slotId

theorem Heard.handed (h : s.Heard) {t t' : CiTransport} {more : List CaAct}
    (path : ReflTransGen (CiTransport.Step s.SendsPmts) t t') (same : t.trace = s.transport.trace)
    (acts : caActs t'.trace = caActs t.trace ++ more)
    (small : ∀ sessionId body, CaAct.pmt sessionId body ∈ more → body.length ≤ 65535)
    (records : ∀ (sessionId : UInt16) session, s'.resources.conditionalAccess.sessions[sessionId]? = some session →
      ∃ old, s.resources.conditionalAccess.sessions[sessionId]? = some old ∧ old.slotId = session.slotId)
    (htrace : s'.transport.trace = t'.trace) : s'.Heard := by
  obtain ⟨delta, hdelta, _, hall⟩ := CiTransport.Within.path (A := fun obs => ∃ trace, s.SendsPmts trace obs)
    path fun trace _ hsends => ⟨trace, hsends⟩
  have hacts : caActs delta = more := by
    rw [hdelta, caActs, List.filterMap_append, ← caActs, ← caActs] at acts
    exact List.append_cancel_left acts
  refine h.congr records delta (by rw [htrace, hdelta, same]) fun sessionId session known obs hmem => ?_
  obtain ⟨_, other, owner, hknown, hsends | ⟨body, rfl⟩⟩ := hall obs hmem
  · exact proper_sends hsends
  · rintro rfl _
    obtain rfl : owner = session := Option.some.inj (hknown.symm.trans known)
    refine ⟨rfl, small other body ?_⟩
    rw [← hacts]
    exact List.mem_filterMap.mpr ⟨_, hmem, rfl⟩

theorem Heard.opened (h : s.Heard) (hc : s.Consistent) {slotId : UInt8} {kind : ResourceKind} {t : CiTransport}
    (path : ReflTransGen (CiTransport.Step (Sends True slotId)) s.transport t) : (s.opened slotId kind t).Heard := by
  have hkept (sessionId : UInt16) (session : ConditionalAccessSession)
      (known : s.resources.conditionalAccess.sessions[sessionId]? = some session) :
      HeardOn sessionId session.slotId (s.opened slotId kind t).transport.trace := by
    have hne : sessionIdOf s.freshIndex ≠ sessionId := by
      rintro rfl
      have hfresh := fresh_record hc .conditionalAccess
      rw [ResourceRegistry.recordSlot, known] at hfresh
      cases hfresh
    have hsent : Heard { s with transport := t } := h.sent path (fun _ session known => ⟨session, known, rfl⟩) rfl
    exact (hsent sessionId session known).snoc fun heq => absurd heq hne
  cases kind with
  | conditionalAccess =>
      intro sessionId session known
      simp only [CiSession.opened, ResourceRegistry.opened, KeyMap.get_insert] at known
      split at known
      · next heq =>
          obtain rfl := Option.some.inj known
          rw [← heq]
          exact heardOn_opened
      · exact hkept sessionId session known
  | _ => exact hkept

theorem Heard.freed (h : s.Heard) (index : Nat) (session : Session) : (s.freed index session).Heard := by
  unfold CiSession.freed
  cases hlookup : ResourceKind.lookup session.resourceId with
  | none => exact h
  | some kind =>
      cases kind with
      | conditionalAccess =>
          intro sessionId session known
          simp only [ResourceRegistry.onClose, ConditionalAccessResource.onClose, KeyMap.get_erase] at known
          split at known
          · cases known
          · exact h sessionId session known
      | _ => exact h

theorem Move.heard (hc : s.Consistent) (hfits : s.Fits) (h : s.Heard) (hm : Move A V s s') :
    s'.Heard ∨ pending s'.transport.trace = true ∨ masked s'.transport.trace = true := by
  cases hm with
  | @link callback obs t move quiet =>
      refine .inl (h.congr (fun _ session known => ⟨session, known, rfl⟩) [obs] move.trace ?_)
      intro sessionId session _ other hmem
      rw [List.mem_singleton.mp hmem]
      cases obs with
      | opened | activated => exact quiet.elim
      | apdu slotId number tag body => exact fun _ htag => absurd htag quiet.2
      | _ => trivial
  | opened slot notice bound count path whole => exact .inl (h.opened hc path)
  | openFailed slot bound count path broken => exact .inr (.inl broken)
  | closed live slot => exact .inl (h.freed _ _)
  | @caInfo sessionId session caids t known slot notice path whole =>
      left
      have hpath := ReflTransGen.mono (fun _ _ hstep => CiTransport.Step.mono (fun _ _ hsends =>
        (⟨sessionId, session, known, hsends⟩ : s.SendsPmts _ _)) hstep) _ _ path.path
      refine h.handed hpath rfl path.acts (fun number body hmem => ?_) (fun number record hrecord => ?_) rfl
      · obtain ⟨other, hother, heq⟩ := List.mem_map.mp hmem
        rw [← (CaAct.pmt.inj heq).2]
        exact infoPlan_small hfits.programs (hfits.selected sessionId session known) hother
      · simp only [ResourceRegistry.putCa, KeyMap.get_insert] at hrecord
        split at hrecord
        · next heq =>
            obtain rfl := Option.some.inj hrecord
            exact ⟨session, heq ▸ known, rfl⟩
        · exact ⟨record, hrecord, rfl⟩
  | caInfoFailed known slot path broken =>
      rcases broken with hpending | hmasked | hunfit
      · exact .inr (.inl hpending)
      · exact .inr (.inr hmasked)
      · exact absurd hfits hunfit
  | _ => exact .inl h

theorem Programmed.heard (hfits : s.Fits) (h : s.Heard) (hchange : change.Fits) (hp : Programmed s change s') :
    s'.Heard ∨ pending s'.transport.trace = true := by
  cases hp with
  | idle same => exact .inl h
  | @done t sessions records path acts whole =>
      refine .inl (h.handed path rfl acts (fun number body hmem => ?_) (fun number record hrecord => ?_) rfl)
      · obtain ⟨⟨sessionId, session⟩, hentry, hbody⟩ := List.mem_flatMap.mp hmem
        obtain ⟨other, hother, heq⟩ := List.mem_map.mp hbody
        rw [← (CaAct.pmt.inj heq).2]
        exact changePlan_small (hfits.selected sessionId session (KeyMap.mem_toList.mp hentry)) hchange hother
      · have hknown := (records number).symm.trans hrecord
        rw [Option.map_eq_some_iff] at hknown
        obtain ⟨old, hold, rfl⟩ := hknown
        exact ⟨old, hold, rfl⟩
  | failed records path broken =>
      rcases broken with hpending | hunfit | hunfit
      · exact .inr hpending
      · exact absurd hfits hunfit
      · exact absurd hchange hunfit

end CiSession

end LibDvb
