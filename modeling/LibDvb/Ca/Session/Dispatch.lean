import LibDvb.Ca.Session.Spec
import LibDvb.Ca.Session.Talk

namespace LibDvb.CiSession

open Act Outcome

def verdict (s : CiSession) (slotId : UInt8) (resourceId : ResourceId) : Except UInt8 ResourceKind :=
  match ResourceKind.lookup resourceId with
  | none => .error Spdu.ssNotAllocated
  | some kind =>
      if resourceId.version > kind.resourceId.version then .error Spdu.ssLowerVersion
      else if s.inUse slotId ≥ maxSlotSessions then .error Spdu.ssBusy
      else .ok kind

def answered (resourceId : ResourceId) : ResourceId :=
  ((ResourceKind.lookup resourceId).map ResourceKind.resourceId).getD resourceId

def openAnswer (slotId : UInt8) (status : UInt8) (resourceId : ResourceId) (sessionId : UInt16) : List Obs :=
  queuedSpdu slotId (Spdu.buildOpenSessionResponse status (answered resourceId) sessionId)

def closeAnswer (slotId : UInt8) (status : UInt8) (sessionId : UInt16) : List Obs :=
  queuedSpdu slotId (Spdu.buildCloseSessionResponse status sessionId)

def closeRequest (slotId : UInt8) (sessionId : UInt16) : List Obs :=
  queuedSpdu slotId (Spdu.buildCloseSessionRequest sessionId)

-- What one SPDU of the slot does to the table, and what the host and the module tell each other.
inductive Handled (s : CiSession) (slotId : UInt8) (spdu : Bytes) (s' : CiSession) : List Obs → Prop
  | opened {resourceId kind objects} (request : Spdu.parse spdu = .ok (.openSessionRequest resourceId))
      (granted : s.verdict slotId resourceId = .ok kind)
      (sessions : s'.sessions = (s.allocated slotId kind).sessions)
      (resources : s'.resources = s.resources.opened kind slotId (sessionIdOf s.freshIndex))
      (spoken : Objects (OnSession slotId (sessionIdOf s.freshIndex)) objects) :
      Handled s slotId spdu s' (openAnswer slotId Spdu.ssOk resourceId (sessionIdOf s.freshIndex) ++
        .opened slotId (sessionIdOf s.freshIndex) :: objects)
  | refused {resourceId status} (request : Spdu.parse spdu = .ok (.openSessionRequest resourceId))
      (refused : s.verdict slotId resourceId = .error status) (sessions : s'.sessions = s.sessions)
      (resources : s'.resources = s.resources) :
      Handled s slotId spdu s' (openAnswer slotId status resourceId 0)
  | closed {index session} (request : Spdu.parse spdu = .ok (.closeSessionRequest (sessionIdOf index)))
      (live : s.entry index = some session) (slot : session.slotId = slotId)
      (sessions : s'.sessions = s.sessions.set index none) :
      Handled s slotId spdu s' (closeAnswer slotId Spdu.ssOk (sessionIdOf index))
  | unknown {sessionId} (request : Spdu.parse spdu = .ok (.closeSessionRequest sessionId))
      (unknown : ∀ session, s.session sessionId = some session → session.slotId ≠ slotId)
      (sessions : s'.sessions = s.sessions) :
      Handled s slotId spdu s' (closeAnswer slotId Spdu.ssNotAllocated sessionId)
  | completed {index session status}
      (response : Spdu.parse spdu = .ok (.closeSessionResponse status (sessionIdOf index)))
      (live : s.entry index = some session) (slot : session.slotId = slotId)
      (closing : session.state = .closing) (final : status = Spdu.ssOk ∨ status = Spdu.ssNotAllocated)
      (sessions : s'.sessions = s.sessions.set index none) : Handled s slotId spdu s' []
  | revived {index session status}
      (response : Spdu.parse spdu = .ok (.closeSessionResponse status (sessionIdOf index)))
      (live : s.entry index = some session) (slot : session.slotId = slotId)
      (sessions : s'.sessions = (s.turned index session .active).sessions) : Handled s slotId spdu s' []
  | asked {index session data objects}
      (apdus : Spdu.parse spdu = .ok (.sessionNumber (sessionIdOf index) data))
      (live : s.entry index = some session) (slot : session.slotId = slotId)
      (active : session.state = .active)
      (spoken : Objects (OnSession slotId (sessionIdOf index)) objects)
      (sessions : s'.sessions = (s.turned index session .closing).sessions) :
      Handled s slotId spdu s' (objects ++ closeRequest slotId (sessionIdOf index))
  | spoken {sessionId data objects} (apdus : Spdu.parse spdu = .ok (.sessionNumber sessionId data))
      (spoken : Objects (OnSession slotId sessionId) objects) (sessions : s'.sessions = s.sessions) :
      Handled s slotId spdu s' objects
  | ignored (open_ : ∀ resourceId, Spdu.parse spdu ≠ .ok (.openSessionRequest resourceId))
      (close : ∀ sessionId, Spdu.parse spdu ≠ .ok (.closeSessionRequest sessionId))
      (stale : ∀ status sessionId session, Spdu.parse spdu = .ok (.closeSessionResponse status sessionId) →
        s.session sessionId = some session → session.slotId = slotId → session.state = .active)
      (sessions : s'.sessions = s.sessions) (resources : s'.resources = s.resources) :
      Handled s slotId spdu s' []

-- What is left when the first answer to an SPDU could not be written.
inductive Interrupted (s : CiSession) (slotId : UInt8) (s' : CiSession) : Prop
  | unchanged (sessions : s'.sessions = s.sessions) (resources : s'.resources = s.resources)
  | opened {resourceId kind} (granted : s.verdict slotId resourceId = .ok kind)
      (sessions : s'.sessions = (s.allocated slotId kind).sessions) (resources : s'.resources = s.resources)

def Answers (slotId : UInt8) (spdu : Bytes) (s s' : CiSession) : Prop :=
  (∃ entries, Handled s slotId spdu s' entries ∧ Tells entries s.transport.trace s'.transport.trace) ∨
    (Interrupted s slotId s' ∧ Breaks s.transport.trace s'.transport.trace)

variable {s s' : CiSession} {slotId : UInt8} {sessionId : UInt16} {index : Nat} {session : Session}
  {kind : ResourceKind}

structure HasSlot (s : CiSession) (slotId : UInt8) : Prop where
  bound : slotId.toNat < s.transport.slots.length
  valid : slotId ≠ 255

section Steps

theorem wlp_pushEvent {e : CaEvent} {Q : Unit → CiSession → Prop} {E : Error → CiSession → Prop} :
    wlp (pushEvent e) Q E s ↔ Q () { s with events := s.events ++ [e] } := wlp_modify

theorem wlp_note {obs : Obs} {Q : Unit → CiSession → Prop} {E : Error → CiSession → Prop} :
    wlp (note obs) Q E s ↔
      Q () { s with transport := { s.transport with trace := s.transport.trace ++ [obs] } } :=
  wlp_zoom.trans wlp_modify

theorem wlp_lift_ok {α : Type} {o : Outcome Error α} {a : α} {Q : α → CiSession → Prop}
    {E : Error → CiSession → Prop} (h : o = .ok a) (hq : Q a s) : wlp (lift o) Q E s := by
  subst h
  refine wlp_lift.mpr ⟨fun b hb => ?_, nofun⟩
  rw [← Outcome.ok.inj hb]
  exact hq

theorem sendSpdu_tells (h : s.HasSlot slotId) (spdu : Bytes) : wlp (sendSpdu slotId spdu)
    (fun _ s' => ∃ t, s' = { s with transport := t } ∧ Tells (queuedSpdu slotId spdu) s.transport.trace t.trace ∧
      t.slots.length = s.transport.slots.length)
    (fun _ s' => ∃ t, s' = { s with transport := t } ∧ Breaks s.transport.trace t.trace) s :=
  wlp_zoom.mpr (wlp_mono (CiTransport.sendSpdu_tells spdu h.bound h.valid) (fun _ t ht => ⟨t, rfl, ht⟩)
    fun _ t ht => ⟨t, rfl, ht⟩)

theorem wlp_runCallback {m : Act Error (ResourceContext ResourceRegistry) Unit}
    {Q : Except Error Unit × Bool → CiSession → Prop} {E : Error → CiSession → Prop} :
    wlp (runCallback slotId sessionId m) Q E s ↔
      wlp m (fun _ ctx => Q (.ok (), ctx.closeSession) (s.after ctx))
        (fun e ctx => Q (.error e, ctx.closeSession) (s.after ctx)) (s.context slotId sessionId) := by
  have hstate : (runCallback slotId sessionId m s).2 = s.after (m (s.context slotId sessionId)).2 := rfl
  have hresult : (runCallback slotId sessionId m s).1 = (do
      Outcome.ok (← (m (s.context slotId sessionId)).1.attempt,
        (m (s.context slotId sessionId)).2.closeSession)) := rfl
  unfold wlp
  rw [hstate, hresult]
  cases (m (s.context slotId sessionId)).1 <;> simp [Outcome.attempt]

structure Alike (s s' : CiSession) : Prop where
  sessions : s'.sessions = s.sessions
  resources : s'.resources = s.resources
  transport : s'.transport = s.transport
  unready : ∀ e : CaEvent, e.Steers → e ∈ s'.events → e ∈ s.events

theorem Alike.refl (s : CiSession) : Alike s s := ⟨rfl, rfl, rfl, fun _ _ h => h⟩

theorem Alike.pushed {e : CaEvent} (he : e.Unready) (s : CiSession) :
    Alike s { s with events := s.events ++ [e] } := ⟨rfl, rfl, rfl, fun _ => mem_snoc_unready he⟩

theorem Alike.trans {s'' : CiSession} (h : Alike s s') (h' : Alike s' s'') : Alike s s'' :=
  ⟨h'.sessions.trans h.sessions, h'.resources.trans h.resources, h'.transport.trans h.transport,
    fun e he hmem => h.unready e he (h'.unready e he hmem)⟩

theorem keeps_resourceResult (result : Except Error Unit) : Keeps Alike (resourceResult slotId result) := by
  unfold resourceResult
  split
  · exact keeps_pure .refl ()
  · exact keeps_modify fun s => .pushed (unready_malformed _ _) s
  · exact keeps_fail .refl _

end Steps

section Open

theorem onOpen_self (kind : ResourceKind) (ctx : ResourceContext ResourceRegistry) :
    wlp (ResourceRegistry.onOpen kind) (fun _ ctx' => ctx'.self = ctx.self.opened kind ctx.slotId ctx.sessionId)
      (fun _ ctx' => ctx'.self = ctx.self.opened kind ctx.slotId ctx.sessionId) ctx := by
  have hsend {R : Type} (tag : ApduTag) (body : Bytes) : Keeps (fun ctx ctx' => ctx'.self = ctx.self)
      (ResourceContext.sendApdu tag body : Act Error (ResourceContext R) Unit) :=
    keeps_bind (fun h h' => h'.trans h) (keeps_get fun _ => rfl) fun _ =>
      fun _ => ⟨fun _ _ => rfl, fun _ _ => rfl⟩
  have hnow : Keeps (fun ctx ctx' => ctx'.self = ctx.self) DateTimeResource.sendNow :=
    keeps_bind (fun h h' => h'.trans h) (fun _ => ⟨fun _ _ => rfl, fun _ _ => rfl⟩) fun _ => hsend _ _
  have hset {R : Type} {l : Lens ResourceRegistry R} {self : R} {inner : ResourceContext R}
      (h : inner.self = self) : ((ResourceRegistry.contextLens l).set inner ctx).self = l.set self ctx.self := by
    rw [← h]
    rfl
  cases kind with
  | rm => exact wlp_zoom.mpr (wlp_mono (hsend _ _ _) (fun _ _ h => hset h) fun _ _ h => hset h)
  | applicationInfo =>
      refine wlp_zoom.mpr (wlp_bind.mpr (wlp_get.mpr (wlp_bind.mpr (wlp_modify.mpr ?_))))
      exact wlp_mono (hsend _ _ _) (fun _ _ h => hset h) fun _ _ h => hset h
  | conditionalAccess =>
      refine wlp_zoom.mpr (wlp_bind.mpr (wlp_get.mpr (wlp_bind.mpr (wlp_bind.mpr (wlp_get.mpr
        (wlp_modify.mpr ?_))))))
      exact wlp_mono (hsend _ _ _) (fun _ _ h => hset h) fun _ _ h => hset h
  | hostControl => exact wlp_pure.mpr rfl
  | dateTime =>
      refine wlp_zoom.mpr (wlp_bind.mpr (wlp_get.mpr (wlp_bind.mpr (wlp_modify.mpr ?_))))
      exact wlp_mono (hnow _) (fun _ _ h => hset h) fun _ _ h => hset h
  | mmi => exact wlp_pure.mpr rfl

-- The two ways an open request goes, after the host has decided.
def refuse (slotId : UInt8) (resourceId : ResourceId) (status : UInt8) : Act Error CiSession Unit := do
  sendSpdu slotId (Spdu.buildOpenSessionResponse status (answered resourceId) 0)
  pushEvent (.sessionRefused slotId resourceId status)

def grant (slotId : UInt8) (kind : ResourceKind) (sessionId : UInt16) : Act Error CiSession Unit := do
  sendSpdu slotId (Spdu.buildOpenSessionResponse Spdu.ssOk kind.resourceId sessionId)
  note (.opened slotId sessionId)
  pushEvent (.sessionOpened slotId sessionId kind.resourceId)
  let (result, _) ← runCallback slotId sessionId (ResourceRegistry.onOpen kind)
  resourceResult slotId result

theorem openSession_refused {resourceId : ResourceId} {status : UInt8} (h : s.verdict slotId resourceId = .error status) :
    openSession slotId resourceId s = refuse slotId resourceId status s := by
  unfold verdict at h
  unfold openSession refuse answered
  cases hlookup : ResourceKind.lookup resourceId with
  | none =>
      rw [hlookup] at h
      cases h
      rfl
  | some kind =>
      rw [hlookup] at h
      simp only [Option.map_some, Option.getD_some] at h ⊢
      split at h
      · next hversion =>
          cases h
          rw [if_pos hversion]
          rfl
      · next hversion =>
          split at h
          · next hfull =>
              cases h
              have halloc : allocSession slotId kind.resourceId s = (.ok none, s) :=
                run_of_wp (wp_allocSession.mpr ⟨fun _ => ⟨rfl, rfl⟩, fun hlt =>
                  absurd hfull (Nat.not_le.mpr hlt)⟩)
              rw [if_neg hversion, bind_run halloc]
              rfl
          · cases h

theorem verdict_ok {resourceId : ResourceId} (h : s.verdict slotId resourceId = .ok kind) :
    ResourceKind.lookup resourceId = some kind ∧ ¬ resourceId.version > kind.resourceId.version ∧
      s.inUse slotId < maxSlotSessions := by
  unfold verdict at h
  split at h
  · cases h
  · next found hlookup =>
      split at h
      · cases h
      · next hversion =>
          split at h
          · cases h
          · next hfull =>
              cases h
              exact ⟨hlookup, hversion, Nat.not_le.mp hfull⟩

theorem openSession_granted {resourceId : ResourceId} (h : s.verdict slotId resourceId = .ok kind) :
    openSession slotId resourceId s =
      grant slotId kind (sessionIdOf s.freshIndex) (s.allocated slotId kind) := by
  obtain ⟨hlookup, hversion, hcount⟩ := verdict_ok h
  have halloc : allocSession slotId kind.resourceId s =
      (.ok (some (sessionIdOf s.freshIndex)), s.allocated slotId kind) :=
    run_of_wp (wp_allocSession.mpr ⟨fun hle => absurd hcount (Nat.not_lt.mpr hle), fun _ => ⟨rfl, rfl⟩⟩)
  unfold openSession grant
  simp only [hlookup, Option.map_some, Option.getD_some]
  rw [if_neg hversion, bind_run halloc]
  simp only [ResourceKind.lookup_resourceId]
  rfl

variable {spdu : Bytes} {resourceId : ResourceId}

theorem refuse_answers {status : UInt8} (h : s.HasSlot slotId)
    (request : Spdu.parse spdu = .ok (.openSessionRequest resourceId))
    (refused : s.verdict slotId resourceId = .error status) :
    wlp (refuse slotId resourceId status) (fun _ => Answers slotId spdu s) (fun _ => Answers slotId spdu s) s := by
  rw [refuse, wlp_bind]
  refine wlp_mono (sendSpdu_tells h _) (fun _ s' hs' => ?_) fun _ s' hs' => ?_
  · obtain ⟨t, rfl, htells, _⟩ := hs'
    exact wlp_pushEvent.mpr (.inl ⟨_, .refused request refused rfl rfl, htells⟩)
  · obtain ⟨t, rfl, hbreaks⟩ := hs'
    exact .inr ⟨.unchanged rfl rfl, hbreaks⟩

theorem greet_answers {s₁ : CiSession} (request : Spdu.parse spdu = .ok (.openSessionRequest resourceId))
    (granted : s.verdict slotId resourceId = .ok kind)
    (sessions : s₁.sessions = (s.allocated slotId kind).sessions) (resources : s₁.resources = s.resources)
    (told : Tells (openAnswer slotId Spdu.ssOk resourceId (sessionIdOf s.freshIndex) ++
      [.opened slotId (sessionIdOf s.freshIndex)]) s.transport.trace s₁.transport.trace) :
    wlp (do
        let (result, _) ← runCallback slotId (sessionIdOf s.freshIndex) (ResourceRegistry.onOpen kind)
        resourceResult slotId result)
      (fun _ => Answers slotId spdu s) (fun _ => Answers slotId spdu s) s₁ := by
  rw [wlp_bind, wlp_runCallback]
  have hanswer {ctx : ResourceContext ResourceRegistry} {s₂ : CiSession}
      (hself : ctx.self = s₁.resources.opened kind slotId (sessionIdOf s.freshIndex))
      (hspeaks : Speaks (s₁.context slotId (sessionIdOf s.freshIndex)) ctx)
      (halike : Alike (s₁.after ctx) s₂) : Answers slotId spdu s s₂ := by
    obtain ⟨objects, hobjects, hspoken⟩ := hspeaks.talks
    refine .inl ⟨_, .opened request granted (halike.sessions.trans sessions) ?_ hobjects, ?_⟩
    · rw [halike.resources, ← resources]
      exact hself
    · have htrace := told.trans hspoken
      rw [List.append_assoc] at htrace
      rw [halike.transport]
      exact htrace
  refine wlp_mono (wlp_and (onOpen_self kind _) (onOpen_spoken kind _)) (fun _ ctx hctx => ?_)
    fun e ctx hctx => ?_
  · exact wlp_mono (keeps_resourceResult _ _) (fun _ _ hs => hanswer hctx.1 hctx.2 hs)
      fun _ _ hs => hanswer hctx.1 hctx.2 hs
  · exact wlp_mono (keeps_resourceResult _ _) (fun _ _ hs => hanswer hctx.1 hctx.2 hs)
      fun _ _ hs => hanswer hctx.1 hctx.2 hs

theorem grant_answers (h : s.HasSlot slotId)
    (request : Spdu.parse spdu = .ok (.openSessionRequest resourceId))
    (granted : s.verdict slotId resourceId = .ok kind) :
    wlp (grant slotId kind (sessionIdOf s.freshIndex)) (fun _ => Answers slotId spdu s)
      (fun _ => Answers slotId spdu s) (s.allocated slotId kind) := by
  have hanswered : answered resourceId = kind.resourceId := by
    rw [answered, (verdict_ok granted).1]
    rfl
  rw [grant, ← hanswered, wlp_bind]
  refine wlp_mono (sendSpdu_tells (s := s.allocated slotId kind) ⟨h.bound, h.valid⟩ _) (fun _ s' hs' => ?_)
    fun _ s' hs' => ?_
  · obtain ⟨t, rfl, htells, _⟩ := hs'
    rw [wlp_bind, wlp_note, wlp_bind, wlp_pushEvent]
    exact greet_answers request granted rfl rfl (htells.trans (.note _ _))
  · obtain ⟨t, rfl, hbreaks⟩ := hs'
    exact .inr ⟨.opened granted rfl rfl, hbreaks⟩

theorem openSession_answers (h : s.HasSlot slotId)
    (request : Spdu.parse spdu = .ok (.openSessionRequest resourceId)) :
    wlp (openSession slotId resourceId) (fun _ => Answers slotId spdu s) (fun _ => Answers slotId spdu s) s := by
  cases hverdict : s.verdict slotId resourceId with
  | error status => exact (wlp_congr (openSession_refused hverdict)).mpr (refuse_answers h request hverdict)
  | ok kind => exact (wlp_congr (openSession_granted hverdict)).mpr (grant_answers h request hverdict)

end Open

section Close

variable {spdu : Bytes} {status : UInt8}

theorem wlp_freeSession (h : s.Consistent) (live : s.entry index = some session) (t : CiTransport)
    {Q : Unit → CiSession → Prop} {E : Error → CiSession → Prop}
    (hq : Q () ({ s with transport := t }.freed index session)) :
    wlp (freeSession (sessionIdOf index)) Q E { s with transport := t } := by
  have hindex := h.index_lt live
  obtain ⟨kind, hlookup, _⟩ := lookup_live h live
  have hnat : (sessionIdOf index).toNat - 1 = index := by
    rw [toNat_sessionIdOf hindex]
    rfl
  have hlive : ({ s with transport := t } : CiSession).session (sessionIdOf index) = some session :=
    (session_sessionIdOf _ hindex).trans live
  rw [freed, hlookup] at hq
  simp only [freeSession, wlp_bind, wlp_get, hlive, hlookup, wlp_modify, pushEvent, putSession, hnat]
  exact hq

theorem closeSession_answers (h : s.Consistent) (hs : s.HasSlot slotId)
    (request : Spdu.parse spdu = .ok (.closeSessionRequest sessionId)) :
    wlp (closeSession slotId sessionId) (fun _ => Answers slotId spdu s) (fun _ => Answers slotId spdu s) s := by
  rw [closeSession, wlp_bind, wlp_get]
  dsimp only
  rw [wlp_bind]
  refine wlp_mono (sendSpdu_tells hs _) (fun _ s' hs' => ?_) fun _ s' hs' => ?_
  · obtain ⟨t, rfl, htells, hlength⟩ := hs'
    cases hsession : s.session sessionId with
    | none =>
        simp only [hsession] at htells ⊢
        refine wlp_pushEvent.mpr (.inl ⟨_, .unknown request (fun _ hlive => ?_) rfl, htells⟩)
        rw [hsession] at hlive
        cases hlive
    | some session =>
        by_cases hslot : session.slotId = slotId
        · obtain ⟨index, _, _, rfl, live⟩ := session_eq_some hsession
          simp only [hsession, hslot, decide_true, if_true] at htells ⊢
          exact wlp_freeSession h live t (.inl ⟨_, .closed request live hslot rfl, htells⟩)
        · simp only [hsession, hslot, decide_false, Bool.false_eq_true, if_false] at htells ⊢
          refine wlp_pushEvent.mpr (.inl ⟨_, .unknown request (fun other hlive => ?_) rfl, htells⟩)
          rw [hsession, Option.some.injEq] at hlive
          rw [← hlive]
          exact hslot
  · obtain ⟨t, rfl, hbreaks⟩ := hs'
    exact .inr ⟨.unchanged rfl rfl, hbreaks⟩

theorem closeSessionComplete_answers (h : s.Consistent)
    (response : Spdu.parse spdu = .ok (.closeSessionResponse status sessionId)) :
    wlp (closeSessionComplete slotId sessionId status) (fun _ => Answers slotId spdu s)
      (fun _ => Answers slotId spdu s) s := by
  have hignored (hstale : ∀ session, s.session sessionId = some session → session.slotId = slotId →
      session.state = .active) (context : String) : wlp (pushEvent (.malformed slotId context))
        (fun _ => Answers slotId spdu s) (fun _ => Answers slotId spdu s) s := by
    refine wlp_pushEvent.mpr (.inl ⟨[], .ignored ?_ ?_ ?_ rfl rfl, .refl _⟩)
    · intro resourceId hopen
      rw [response] at hopen
      cases hopen
    · intro other hclose
      rw [response] at hclose
      cases hclose
    · intro status' other session hresponse
      rw [response] at hresponse
      cases hresponse
      exact hstale session
  rw [closeSessionComplete, wlp_bind, wlp_get]
  split
  · next session hsession =>
      split
      · next hclosing =>
          obtain ⟨hslot, hclosing⟩ := hclosing
          obtain ⟨index, _, hindex, rfl, live⟩ := session_eq_some hsession
          split
          · next hfinal =>
              exact wlp_freeSession h live s.transport (.inl ⟨[], .completed response live hslot hclosing hfinal rfl, .refl _⟩)
          · rw [wlp_bind]
            refine wlp_lift_ok (subU16_sessionIdOf hindex) ?_
            rw [wlp_bind, wlp_modify, toNat_pred hindex]
            exact wlp_pushEvent.mpr (.inl ⟨[], .revived response live hslot rfl, .refl _⟩)
      · next hnot =>
          refine hignored (fun other hother hslot => ?_) _
          rw [hsession, Option.some.injEq] at hother
          subst hother
          cases hstate : session.state with
          | active => rfl
          | closing => exact absurd ⟨hslot, hstate⟩ hnot
  · next hnone =>
      refine hignored (fun other hother => ?_) _
      rw [hnone] at hother
      cases hother

end Close

section Apdus

structure Chats (P : UInt8 → UInt16 → Prop) (s s' : CiSession) : Prop where
  sessions : s'.sessions = s.sessions
  talks : Talks P s.transport.trace s'.transport.trace
  length : CiTransport.SameLength s.transport s'.transport
  bland : CiTransport.Within Obs.Bland s.transport s'.transport
  unready : ∀ e : CaEvent, e.Steers → e ∈ s'.events → e ∈ s.events

variable {P : UInt8 → UInt16 → Prop}

theorem Chats.refl (s : CiSession) : Chats P s s := ⟨rfl, .refl .., rfl, .refl _, fun _ _ h => h⟩

theorem Chats.trans {s'' : CiSession} (h : Chats P s s') (h' : Chats P s' s'') : Chats P s s'' :=
  ⟨h'.sessions.trans h.sessions, h.talks.trans h'.talks, h.length.trans h'.length, h.bland.trans h'.bland,
    fun e he hmem => h.unready e he (h'.unready e he hmem)⟩

theorem Alike.chats (h : Alike s s') : Chats P s s' := by
  refine ⟨h.sessions, ?_, ?_, ?_, h.unready⟩
  · rw [h.transport]
    exact .refl ..
  · rw [h.transport]
    rfl
  · rw [h.transport]
    exact .refl _

theorem keeps_runCallback {m : Act Error (ResourceContext ResourceRegistry) Unit} (hm : Spoken m) :
    Keeps (Chats (OnSession slotId sessionId)) (runCallback slotId sessionId m) :=
  fun s => wlp_runCallback.mpr (wlp_mono (hm (s.context slotId sessionId)) (fun _ _ h =>
    ⟨rfl, h.talks, h.length, h.bland, h.unready⟩) fun _ _ h => ⟨rfl, h.talks, h.length, h.bland, h.unready⟩)

theorem keeps_dispatchItems : ∀ (fuel : Nat) (data : Bytes) (close : Bool),
    Keeps (Chats (OnSession slotId sessionId)) (dispatchItems slotId sessionId kind fuel data close) := by
  intro fuel
  induction fuel with
  | zero => exact fun _ _ _ => wlp_fault
  | succ fuel ih =>
      intro data close
      rw [dispatchItems]
      apply keeps_bind .trans (keeps_lift .refl _)
      intro next
      split
      · exact keeps_pure .refl _
      · apply keeps_bind .trans (keeps_runCallback (onApdu_spoken _ _ kind))
        intro result
        apply keeps_bind .trans
        · intro s
          exact wlp_mono (keeps_resourceResult _ s) (fun _ _ h => h.chats) fun _ _ h => h.chats
        · exact fun _ => ih _ _
      · apply keeps_bind .trans
        · exact keeps_modify fun s => (Alike.pushed (unready_malformed _ _) s).chats
        · exact fun _ => keeps_pure .refl _
      · exact keeps_fail .refl _

theorem requestClose_asks (hs : s.HasSlot session.slotId) (hindex : index < 65535)
    (live : s.entry index = some session) :
    wlp (requestClose session.slotId (sessionIdOf index))
      (fun _ s' => (session.state = .closing ∧ s' = s) ∨ session.state = .active ∧
        s'.sessions = (s.turned index session .closing).sessions ∧
        Tells (closeRequest session.slotId (sessionIdOf index)) s.transport.trace s'.transport.trace)
      (fun _ s' => session.state = .active ∧ s'.sessions = (s.turned index session .closing).sessions ∧
        Breaks s.transport.trace s'.transport.trace) s := by
  have hnat : (sessionIdOf index).toNat - 1 = index := by
    rw [toNat_sessionIdOf hindex]
    rfl
  rw [requestClose, wlp_bind, wlp_get, session_sessionIdOf s hindex, live]
  dsimp only
  cases hstate : session.state with
  | closing =>
      rw [if_neg fun h => nomatch h.2]
      exact wlp_pure.mpr (.inl ⟨rfl, rfl⟩)
  | active =>
      rw [if_pos ⟨rfl, rfl⟩, wlp_bind, wlp_modify, hnat]
      refine wlp_mono (sendSpdu_tells (s := putSession index _ s) ⟨hs.bound, hs.valid⟩ _) (fun _ s' hs' => ?_)
        fun _ s' hs' => ?_
      · obtain ⟨t, rfl, htells, _⟩ := hs'
        exact .inr ⟨rfl, rfl, htells⟩
      · obtain ⟨t, rfl, hbreaks⟩ := hs'
        exact ⟨rfl, rfl, hbreaks⟩

theorem dispatchApdu_answers {spdu data : Bytes} (h : s.Consistent) (hs : s.HasSlot slotId)
    (apdus : Spdu.parse spdu = .ok (.sessionNumber sessionId data)) :
    wlp (dispatchApdu slotId sessionId data) (fun _ => Answers slotId spdu s) (fun _ => Answers slotId spdu s) s := by
  have hignored (context : String) : wlp (pushEvent (.malformed slotId context))
      (fun _ => Answers slotId spdu s) (fun _ => Answers slotId spdu s) s :=
    wlp_pushEvent.mpr (.inl ⟨[], .spoken apdus (.nil _) rfl, .refl _⟩)
  have hspoken {s' : CiSession} (hchats : Chats (OnSession slotId sessionId) s s') : Answers slotId spdu s s' := by
    obtain ⟨objects, hobjects, htells⟩ := hchats.talks
    exact .inl ⟨objects, .spoken apdus hobjects hchats.sessions, htells⟩
  rw [dispatchApdu, wlp_bind, wlp_get]
  split
  · next session hsession =>
      obtain ⟨index, _, hindex, rfl, live⟩ := session_eq_some hsession
      split
      · next hslot =>
          subst hslot
          obtain ⟨kind, hlookup, _⟩ := lookup_live h live
          rw [wlp_bind]
          refine wlp_lift_ok (a := kind) (by rw [hlookup]; rfl) ?_
          rw [wlp_bind]
          refine wlp_mono (keeps_dispatchItems _ _ _ s) (fun close s₁ hchats => ?_) fun _ s₁ hchats => hspoken hchats
          split
          · have hlive : s₁.entry index = some session := by
              rw [entry, hchats.sessions]
              exact live
            have hslots : s₁.HasSlot session.slotId := ⟨hchats.length.symm ▸ hs.bound, hs.valid⟩
            obtain ⟨objects, hobjects, htells⟩ := hchats.talks
            have hturned {s₂ : CiSession} (hsessions : s₂.sessions = (s₁.turned index session .closing).sessions) :
                s₂.sessions = (s.turned index session .closing).sessions := by
              rw [hsessions, turned, turned, hchats.sessions]
            refine wlp_mono (requestClose_asks hslots hindex hlive) (fun _ s₂ hs₂ => ?_) fun _ s₂ hs₂ => ?_
            · rcases hs₂ with ⟨_, rfl⟩ | ⟨hactive, hsessions, hasked⟩
              · exact hspoken hchats
              · exact .inl ⟨_, .asked apdus live rfl hactive hobjects (hturned hsessions), htells.trans hasked⟩
            · obtain ⟨hactive, hsessions, hbreaks⟩ := hs₂
              exact .inl ⟨_, .asked apdus live rfl hactive hobjects (hturned hsessions),
                (htells.breaks hbreaks).tells⟩
          · exact wlp_pure.mpr (hspoken hchats)
      · exact hignored _
  · exact hignored _

end Apdus

theorem dispatchSpdu_answers {spdu : Bytes} (h : s.Consistent) (hs : s.HasSlot slotId) :
    wlp (dispatchSpdu slotId spdu) (fun _ => Answers slotId spdu s) (fun _ => Answers slotId spdu s) s := by
  have hignored (hopen : ∀ resourceId, Spdu.parse spdu ≠ .ok (.openSessionRequest resourceId))
      (hclose : ∀ sessionId, Spdu.parse spdu ≠ .ok (.closeSessionRequest sessionId))
      (hresponse : ∀ status sessionId, Spdu.parse spdu ≠ .ok (.closeSessionResponse status sessionId))
      {s' : CiSession} (halike : Alike s s') : Answers slotId spdu s s' := by
    refine .inl ⟨[], .ignored hopen hclose (fun status sessionId _ hparse => ?_) halike.sessions
      halike.resources, ?_⟩
    · exact absurd hparse (hresponse status sessionId)
    · rw [halike.transport]
      exact .refl _
  rw [dispatchSpdu, wlp_bind]
  cases hparse : Spdu.parse spdu with
  | panic => exact ⟨nofun, nofun⟩
  | err e =>
      refine wlp_lift_ok (a := .error e) rfl ?_
      have hstill {s' : CiSession} (halike : Alike s s') : Answers slotId spdu s s' :=
        hignored (by simp [hparse]) (by simp [hparse]) (by simp [hparse]) halike
      cases e with
      | invalidData context => exact wlp_pushEvent.mpr (hstill (.pushed (unready_malformed _ _) s))
      | _ => exact wlp_fail.mpr (hstill (.refl s))
  | ok parsed =>
      refine wlp_lift_ok (a := .ok parsed) rfl ?_
      cases parsed with
      | sessionNumber sessionId data => exact dispatchApdu_answers h hs hparse
      | openSessionRequest resourceId => exact openSession_answers hs hparse
      | createSessionResponse status resourceId sessionId =>
          exact wlp_pushEvent.mpr (hignored (by simp [hparse]) (by simp [hparse]) (by simp [hparse])
            (.pushed (unready_malformed _ _) s))
      | closeSessionRequest sessionId => exact closeSession_answers h hs hparse
      | closeSessionResponse status sessionId => exact closeSessionComplete_answers h hparse

end LibDvb.CiSession
