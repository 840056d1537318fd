import LibDvb.Ca.Resource.Listing
import LibDvb.Ca.Session.Callback

namespace LibDvb

open Relation CaPmt ConditionalAccessResource

def CaAct.collect (sessionId : UInt16) (objects : List Bytes) : CaAct → List Bytes
  | opened other => if other = sessionId then [] else objects
  | pmt other body => if other = sessionId then objects ++ [body] else objects

def objectsSince (sessionId : UInt16) (trace : List Obs) : List Bytes :=
  (caActs trace).foldl (CaAct.collect sessionId) []

section Objects

variable {sessionId other : UInt16} {trace trace' : List Obs} {more : List CaAct} {objects : List Bytes}

theorem objectsSince_acts (h : caActs trace' = caActs trace ++ more) :
    objectsSince sessionId trace' = more.foldl (CaAct.collect sessionId) (objectsSince sessionId trace) := by
  rw [objectsSince, h, List.foldl_append]
  rfl

theorem objectsSince_congr (h : caActs trace' = caActs trace) :
    objectsSince sessionId trace' = objectsSince sessionId trace := by
  rw [objectsSince, h]
  rfl

theorem collect_pmts (bodies : List Bytes) : (bodies.map (CaAct.pmt other)).foldl (CaAct.collect sessionId) objects =
    if other = sessionId then objects ++ bodies else objects := by
  induction bodies generalizing objects with
  | nil => simp
  | cons body rest ih =>
      rw [List.map_cons, List.foldl_cons, ih, CaAct.collect]
      by_cases heq : other = sessionId
      · rw [if_pos heq, if_pos heq, if_pos heq, List.append_assoc]
        rfl
      · rw [if_neg heq, if_neg heq, if_neg heq]

section Plans

variable {entries : List (UInt16 × ConditionalAccessSession)} {plan : ConditionalAccessSession → List Bytes}

theorem collect_others (h : ∀ entry ∈ entries, entry.1 ≠ sessionId) :
    (entries.flatMap fun entry => (plan entry.2).map (CaAct.pmt entry.1)).foldl (CaAct.collect sessionId) objects =
      objects := by
  induction entries generalizing objects with
  | nil => rfl
  | cons entry rest ih =>
      rw [List.flatMap_cons, List.foldl_append, collect_pmts, if_neg (h entry List.mem_cons_self)]
      exact ih fun other hmem => h other (List.mem_cons_of_mem _ hmem)

theorem collect_plans {session : ConditionalAccessSession} (nodup : (entries.map Prod.fst).Nodup)
    (hmem : (sessionId, session) ∈ entries) :
    (entries.flatMap fun entry => (plan entry.2).map (CaAct.pmt entry.1)).foldl (CaAct.collect sessionId) objects =
      objects ++ plan session := by
  induction entries generalizing objects with
  | nil => cases hmem
  | cons entry rest ih =>
      obtain ⟨hfirst, hrest⟩ := List.nodup_cons.mp nodup
      rw [List.flatMap_cons, List.foldl_append, collect_pmts]
      rcases List.mem_cons.mp hmem with rfl | hlater
      · rw [if_pos rfl]
        exact collect_others fun other hother heq => hfirst (List.mem_map.mpr ⟨other, hother, heq⟩)
      · have hne : entry.1 ≠ sessionId := fun heq => hfirst (List.mem_map.mpr ⟨_, hlater, heq.symm⟩)
        rw [if_neg hne]
        exact ih hrest hlater

end Plans

end Objects

namespace ConditionalAccessSession

def desired (session : ConditionalAccessSession) (programs : KeyMap Program) : KeyMap Program :=
  match session.caids with
  | some caids => programs.filter fun _ program => program.selectedBy caids
  | none => ∅

structure Agrees (session : ConditionalAccessSession) (programs : KeyMap Program) (objects : List Bytes) : Prop where
  selected : session.selected = session.desired programs
  replays : CaPmt.replay objects = some session.listing

variable {session : ConditionalAccessSession} {programs : KeyMap Program} {objects : List Bytes} {caids : List UInt16}
  {change : CaPmtChange}

theorem Sane.tellable (h : session.Sane) (hcaids : session.caids = some caids)
    (hfits : ∀ (number : UInt16) program, session.selected[number]? = some program → program.Fits) :
    Tellable caids session.selected := by
  intro number program known
  obtain ⟨hnumber, other, hother, hselected⟩ := h number program known
  obtain rfl := Option.some.inj (hcaids.symm.trans hother)
  exact ⟨hnumber, hfits number program known, hselected⟩

theorem agrees_new (slotId : UInt8) : Agrees { slotId } programs [] := ⟨rfl, rfl⟩

theorem Agrees.changed (h : session.Agrees programs objects) (hsane : session.Sane)
    (hfits : ∀ (number : UInt16) program, session.selected[number]? = some program → program.Fits)
    (hchange : change.Fits) :
    Agrees { session with selected := (changePlan session change).2 } (applyChange programs change)
      (objects ++ (changePlan session change).1) := by
  obtain ⟨hselected, hreplays⟩ := h
  cases hcaids : session.caids with
  | none =>
      have hplan : changePlan session change = ([], session.selected) := by
        cases change <;> simp only [changePlan, hcaids]
      rw [desired, hcaids] at hselected
      rw [listing, hcaids] at hreplays
      rw [hplan, List.append_nil]
      exact ⟨hselected, hreplays⟩
  | some caids =>
      rw [desired, hcaids] at hselected
      rw [listing, hcaids] at hreplays
      obtain ⟨hnew, htold⟩ := changePlan_replays hcaids (hsane.tellable hcaids hfits) hchange hselected
      exact ⟨hnew, (CaPmt.replay_append hreplays).trans htold⟩

theorem Agrees.informed (h : session.Agrees programs objects) (hsane : session.Sane)
    (hfits : ∀ (number : UInt16) program, session.selected[number]? = some program → program.Fits)
    (hprograms : Numbered programs.toList) (caids : List UInt16) :
    Agrees { session with caids := some caids, selected := (infoPlan programs session caids).2 } programs
      (objects ++ (infoPlan programs session caids).1) := by
  refine ⟨infoPlan_filters hprograms, ?_⟩
  rw [CaPmt.replay_append h.replays]
  exact infoPlan_replays hprograms fun old hold => hsane.tellable hold hfits

end ConditionalAccessSession

namespace CiSession

variable {A V : UInt8 → Prop} {s s' : CiSession} {change : CaPmtChange}

def Agrees (s : CiSession) : Prop :=
  ∀ (sessionId : UInt16) session, s.resources.conditionalAccess.sessions[sessionId]? = some session →
    session.Agrees s.resources.conditionalAccess.programs (objectsSince sessionId s.transport.trace)

theorem Consistent.programs_numbered (h : s.Consistent) (hfits : s.Fits) :
    Numbered s.resources.conditionalAccess.programs.toList :=
  numbered_toList h.programs hfits.programs

theorem Agrees.congr (h : s.Agrees) (resource : s'.resources.conditionalAccess = s.resources.conditionalAccess)
    (acts : caActs s'.transport.trace = caActs s.transport.trace) : s'.Agrees := by
  intro sessionId session known
  rw [resource] at known
  rw [resource, objectsSince_congr acts]
  exact h sessionId session known

theorem Agrees.opened (h : s.Agrees) (hc : s.Consistent) {slotId : UInt8} {kind : ResourceKind} {t : CiTransport}
    (path : ReflTransGen (CiTransport.Step (Sends True slotId)) s.transport t) : (s.opened slotId kind t).Agrees := by
  have hacts : caActs (s.opened slotId kind t).transport.trace =
      caActs s.transport.trace ++ [.opened (sessionIdOf s.freshIndex)] := by
    simp only [CiSession.opened, caActs_snoc, caActs_sends path]
    rfl
  have hkept (sessionId : UInt16) (session : ConditionalAccessSession)
      (known : s.resources.conditionalAccess.sessions[sessionId]? = some session) :
      session.Agrees s.resources.conditionalAccess.programs
        (objectsSince sessionId (s.opened slotId kind t).transport.trace) := by
    have hne : sessionIdOf s.freshIndex ≠ sessionId := by
      rintro rfl
      have hfresh := fresh_record hc .conditionalAccess
      rw [ResourceRegistry.recordSlot, known] at hfresh
      cases hfresh
    rw [objectsSince_acts hacts, List.foldl_cons, List.foldl_nil, CaAct.collect, if_neg hne]
    exact h sessionId session known
  cases kind with
  | conditionalAccess =>
      intro sessionId session known
      simp only [CiSession.opened, ResourceRegistry.opened, KeyMap.get_insert] at known
      split at known
      · next heq =>
          obtain rfl := Option.some.inj known
          rw [objectsSince_acts hacts, List.foldl_cons, List.foldl_nil, CaAct.collect, if_pos heq]
          exact ConditionalAccessSession.agrees_new slotId
      · exact hkept sessionId session known
  | _ => exact hkept

theorem Agrees.freed (h : s.Agrees) (index : Nat) (session : Session) : (s.freed index session).Agrees := by
  unfold CiSession.freed
  cases hlookup : ResourceKind.lookup session.resourceId with
  | none => exact h
  | some kind =>
      cases kind with
      | conditionalAccess =>
          intro sessionId session known
          simp only [ResourceRegistry.onClose, ConditionalAccessResource.onClose, KeyMap.get_erase] at known
          split at known
          · cases known
          · exact h sessionId session known
      | _ => exact h

theorem Agrees.informed (h : s.Agrees) (hc : s.Consistent) (hfits : s.Fits) {sessionId : UInt16}
    {session : ConditionalAccessSession} {caids : List UInt16} {t : CiTransport} {events : List CaEvent}
    (known : s.resources.conditionalAccess.sessions[sessionId]? = some session)
    (acts : caActs t.trace = caActs s.transport.trace ++
      (infoPlan s.resources.conditionalAccess.programs session caids).1.map (CaAct.pmt sessionId)) :
    Agrees { s.on t with
      resources := s.resources.putCa sessionId
        { session with
          caids := some caids
          selected := (infoPlan s.resources.conditionalAccess.programs session caids).2 }
      events } := by
  intro other record hother
  have hobjects : objectsSince other t.trace = if sessionId = other then objectsSince other s.transport.trace ++
      (infoPlan s.resources.conditionalAccess.programs session caids).1
      else objectsSince other s.transport.trace := by
    rw [objectsSince_acts acts, collect_pmts]
  simp only [ResourceRegistry.putCa, KeyMap.get_insert] at hother
  simp only [CiSession.on, ResourceRegistry.putCa, hobjects]
  split at hother
  · next heq =>
      subst heq
      obtain rfl := Option.some.inj hother
      rw [if_pos rfl]
      exact (h sessionId session known).informed (hc.selections sessionId session known)
        (hfits.selected sessionId session known) (hc.programs_numbered hfits) caids
  · next hne =>
      rw [if_neg hne]
      exact h other record hother

theorem Move.agrees (hc : s.Consistent) (hfits : s.Fits) (h : s.Agrees) (hm : Move A V s s') :
    s'.Agrees ∨ pending s'.transport.trace = true ∨ masked s'.transport.trace = true := by
  cases hm with
  | @link callback obs t move quiet =>
      refine .inl (h.congr rfl ?_)
      have hnone : obs.caAct = none := by
        cases obs with
        | opened slotId sessionId => exact quiet.elim
        | apdu slotId sessionId tag body => exact if_neg quiet.2
        | _ => rfl
      have htrace : (s.on t).transport.trace = s.transport.trace ++ [obs] := move.trace
      rw [htrace, caActs_snoc, hnone]
      exact List.append_nil _
  | opened slot notice bound count path whole => exact .inl (h.opened hc path)
  | openFailed slot bound count path broken => exact .inr (.inl broken)
  | closed live slot => exact .inl (h.freed _ _)
  | caInfo known slot notice path whole => exact .inl (h.informed hc hfits known path.acts)
  | caInfoFailed known slot path broken =>
      rcases broken with hpending | hmasked | hunfit
      · exact .inr (.inl hpending)
      · exact .inr (.inr hmasked)
      · exact absurd hfits hunfit
  | _ => exact .inl (h.congr rfl rfl)

theorem Programmed.agrees (hc : s.Consistent) (hfits : s.Fits) (h : s.Agrees) (hchange : change.Fits)
    (hp : Programmed s change s') : s'.Agrees ∨ pending s'.transport.trace = true := by
  cases hp with
  | idle same => exact .inl h
  | @done t sessions records path acts whole =>
      left
      intro sessionId session known
      have hknown := (records sessionId).symm.trans known
      rw [Option.map_eq_some_iff] at hknown
      obtain ⟨old, hold, rfl⟩ := hknown
      have hobjects : objectsSince sessionId t.trace =
          objectsSince sessionId s.transport.trace ++ (changePlan old change).1 := by
        rw [objectsSince_acts acts]
        exact @collect_plans sessionId _ _ (fun session => (changePlan session change).1) _ KeyMap.nodup_keys
          (KeyMap.mem_toList.mpr hold)
      have hagrees := (h sessionId old hold).changed (hc.selections sessionId old hold)
        (hfits.selected sessionId old hold) hchange
      rw [← hobjects] at hagrees
      exact hagrees
  | failed records path broken =>
      rcases broken with hpending | hunfit | hunfit
      · exact .inr hpending
      · exact absurd hfits hunfit
      · exact absurd hchange hunfit

end CiSession

end LibDvb
