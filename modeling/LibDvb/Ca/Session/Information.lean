import LibDvb.Ca.Resource.InfoLog
import LibDvb.Ca.Session.Records

namespace LibDvb

open Act Outcome CiSession ApplicationInfoResource

namespace CiSession

variable {s s' s'' : CiSession} {slotId : UInt8} {sessionId : UInt16} {kind : ResourceKind}

structure Sheds (s s' : CiSession) : Prop where
  revision : s'.resources.applicationInfo.revision = s.resources.applicationInfo.revision
  records : ∀ sessionId : UInt16,
    s'.resources.applicationInfo.sessions[sessionId]? = s.resources.applicationInfo.sessions[sessionId]? ∨
      (s'.resources.applicationInfo.sessions[sessionId]? = none ∧ s'.session sessionId = none)
  free : ∀ sessionId, s.session sessionId = none → s'.session sessionId = none

theorem Sheds.refl (s : CiSession) : Sheds s s := ⟨rfl, fun _ => .inl rfl, fun _ h => h⟩

theorem Sheds.trans (h : Sheds s s') (h' : Sheds s' s'') : Sheds s s'' := by
  refine ⟨h'.revision.trans h.revision, fun sessionId => ?_, fun sessionId hnone => h'.free _ (h.free _ hnone)⟩
  rcases h'.records sessionId with hsame | hlost
  · rcases h.records sessionId with hbefore | ⟨hnone, hgone⟩
    · exact .inl (hsame.trans hbefore)
    · exact .inr ⟨hsame.trans hnone, h'.free _ hgone⟩
  · exact .inr hlost

theorem Sheds.of_same (info : s'.resources.applicationInfo = s.resources.applicationInfo)
    (sessions : s'.sessions = s.sessions) : Sheds s s' := by
  refine ⟨by rw [info], fun _ => .inl (by rw [info]), fun sessionId hnone => ?_⟩
  rw [session_congr sessions]
  exact hnone

theorem session_putSession {session : Session} (hsession : s.session sessionId = some session)
    (entry : Option Session) (other : UInt16) :
    (putSession (sessionId.toNat - 1) entry s).session other = if other = sessionId then entry else s.session other := by
  have hzero : sessionId ≠ 0 := by
    rintro rfl
    cases hsession
  obtain ⟨index, hindex, _, _, hlive⟩ := session_eq_some hsession
  have hbound : sessionId.toNat - 1 < s.sessions.length := hindex ▸ Table.lt_of_entry hlive
  have hpos := UInt16.toNat_inj.not.mpr hzero
  rw [UInt16.toNat_zero] at hpos
  simp only [CiSession.session, putSession, List.getElem?_set]
  by_cases hother : other = 0
  · rw [if_pos hother, if_pos hother, if_neg fun heq => hzero (heq.symm.trans hother)]
  · have hotherPos := UInt16.toNat_inj.not.mpr hother
    rw [UInt16.toNat_zero] at hotherPos
    rw [if_neg hother, if_neg hother]
    split
    · next heq =>
        have hsame : other = sessionId := UInt16.toNat_inj.mp (by omega)
        rw [if_pos hsame, Option.join_some]
    · next hne =>
        rw [if_neg]
        rintro rfl
        exact hne rfl

section Sheds

theorem sheds_transport {α : Type} (m : Act Error CiTransport α) : Keeps Sheds (zoom transportLens m) :=
  fun _ => wlp_zoom.mpr ⟨fun _ _ => .of_same rfl rfl, fun _ _ => .of_same rfl rfl⟩

theorem sheds_pushEvent (e : CaEvent) : Keeps Sheds (pushEvent e) := keeps_modify fun _ => .of_same rfl rfl

theorem sheds_get {β : Type} {f : CiSession → Act Error CiSession β} (hf : ∀ s, Keeps Sheds (f s)) :
    Keeps Sheds (get >>= f) := keeps_bind .trans (keeps_get .refl) hf

theorem sheds_resourceResult (result : Except Error Unit) : Keeps Sheds (resourceResult slotId result) := by
  unfold resourceResult
  split
  · exact keeps_pure .refl ()
  · exact sheds_pushEvent _
  · exact keeps_fail .refl _

theorem sheds_runCallback {tag : ApduTag} {body : Bytes} (hkind : kind ≠ .applicationInfo) :
    Keeps Sheds (runCallback slotId sessionId (ResourceRegistry.onApdu kind tag body)) := by
  intro s
  rw [wlp_runCallback]
  cases kind with
  | applicationInfo => exact absurd rfl hkind
  | _ => exact wlp_zoom.mpr ⟨fun _ _ => .of_same rfl rfl, fun _ _ => .of_same rfl rfl⟩

theorem sheds_close {session : Session} {events : List CaEvent} (hsession : s.session sessionId = some session) :
    Sheds s { putSession (sessionId.toNat - 1) none s with
      resources := s.resources.onClose sessionId kind, events } := by
  have hafter := session_putSession hsession none
  refine ⟨by cases kind <;> rfl, fun other => ?_, fun other hnone => ?_⟩
  · cases kind with
    | applicationInfo =>
        have herase := @KeyMap.get_erase _ s.resources.applicationInfo.sessions sessionId other
        split at herase
        · next heq =>
            refine .inr ⟨herase, (hafter other).trans (if_pos heq.symm)⟩
        · exact .inl herase
    | _ => exact .inl rfl
  · refine (hafter other).trans ?_
    split
    · rfl
    · exact hnone

theorem sheds_put {session : Session} (hsession : s.session sessionId = some session) (entry : Option Session) :
    Sheds s (putSession (sessionId.toNat - 1) entry s) := by
  refine ⟨rfl, fun _ => .inl rfl, fun other hnone => ?_⟩
  rw [session_putSession hsession, if_neg]
  · exact hnone
  · rintro rfl
    rw [hsession] at hnone
    cases hnone

theorem sheds_freeSession : Keeps Sheds (freeSession sessionId) := by
  intro s
  rw [freeSession, wlp_bind, wlp_get]
  split
  · exact wlp_pure.mpr (.refl s)
  · next session hsession =>
      rw [wlp_bind, wlp_modify]
      split
      · rw [wlp_bind, wlp_modify, wlp_pushEvent]
        exact sheds_close hsession
      · refine wlp_pushEvent.mpr ?_
        exact (sheds_put hsession none).trans (.of_same rfl rfl)

theorem sheds_requestClose : Keeps Sheds (requestClose slotId sessionId) := by
  intro s
  rw [requestClose, wlp_bind, wlp_get]
  split
  · next session hsession =>
      split
      · rw [wlp_bind, wlp_modify]
        refine wlp_mono (sheds_transport _ _) (fun _ _ h => ?_) fun _ _ h => ?_
        · exact (sheds_put hsession _).trans h
        · exact (sheds_put hsession _).trans h
      · exact wlp_pure.mpr (.refl s)
  · exact wlp_pure.mpr (.refl s)

theorem sheds_closeSession : Keeps Sheds (closeSession slotId sessionId) := by
  apply sheds_get
  intro s
  dsimp only
  apply keeps_bind .trans (sheds_transport _)
  intro _
  split
  all_goals
    split
    · exact sheds_freeSession
    · exact sheds_pushEvent _

theorem sheds_closeSessionComplete (status : UInt8) : Keeps Sheds (closeSessionComplete slotId sessionId status) := by
  intro s
  rw [closeSessionComplete, wlp_bind, wlp_get]
  split
  · next session hsession =>
      split
      · split
        · exact sheds_freeSession s
        · obtain ⟨index, hplace, hindex, rfl, _⟩ := session_eq_some hsession
          rw [wlp_bind, subU16_sessionIdOf hindex]
          refine wlp_lift_ok rfl ?_
          rw [wlp_bind, wlp_modify, wlp_pushEvent, toNat_pred hindex, hplace]
          exact (sheds_put hsession _).trans (.of_same rfl rfl)
      · exact sheds_pushEvent _ s
  · exact sheds_pushEvent _ s

theorem sheds_dispatchItems (hkind : kind ≠ .applicationInfo) : ∀ (fuel : Nat) (data : Bytes) (close : Bool),
    Keeps Sheds (dispatchItems slotId sessionId kind fuel data close) := by
  intro fuel
  induction fuel with
  | zero => exact fun _ _ _ => wlp_fault
  | succ fuel ih =>
      intro data close
      rw [dispatchItems]
      apply keeps_bind .trans (keeps_lift .refl _)
      intro next
      split
      · exact keeps_pure .refl _
      · apply keeps_bind .trans (sheds_runCallback hkind)
        intro result
        exact keeps_bind .trans (sheds_resourceResult _) fun _ => ih _ _
      · exact keeps_bind .trans (sheds_pushEvent _) fun _ => keeps_pure .refl _
      · exact keeps_fail .refl _

theorem sheds_dropSlot : Keeps Sheds (dropSlot slotId) := by
  apply keeps_bind .trans (sheds_transport _)
  intro _
  apply sheds_get
  intro s
  apply keeps_forEach .refl .trans
  intro index _
  apply sheds_get
  intro s
  split
  · split
    · exact sheds_freeSession
    · exact keeps_pure .refl ()
  · exact keeps_pure .refl ()

end Sheds

section Learn

def learned (slotId : UInt8) (sessionId : UInt16) (tag : ApduTag) (body : Bytes) (r : ApplicationInfoResource) :
    ApplicationInfoResource :=
  match applicationOf slotId tag body with
  | some info => r.learn sessionId info
  | none => r

theorem onApdu_learned (tag : ApduTag) (body : Bytes) (ctx : ResourceContext ApplicationInfoResource) :
    wlp (ApplicationInfoResource.onApdu tag body)
      (fun _ ctx' => ctx'.self = learned ctx.slotId ctx.sessionId tag body ctx.self)
      (fun e ctx' => ctx'.self = learned ctx.slotId ctx.sessionId tag body ctx.self ∧ e.IsInvalidData) ctx := by
  rw [ApplicationInfoResource.onApdu, wlp_bind, wlp_get, learned, ApplicationInfoResource.applicationOf]
  split
  · rw [wlp_bind, wlp_lift]
    refine ⟨fun info hinfo => ?_, fun e he => ?_⟩
    · rw [hinfo]
      dsimp only
      rw [ApplicationInfoResource.learn]
      cases hrecord : ctx.self.sessions[ctx.sessionId]? with
      | none => exact wlp_fail.mpr ⟨rfl, _, rfl⟩
      | some record => exact wlp_bind.mpr (wlp_modify.mpr (wlp_modify.mpr rfl))
    · have hinvalid := parseApplicationInfo_sat ctx.slotId body
      rw [he] at hinvalid ⊢
      exact ⟨rfl, hinvalid⟩
  · exact wlp_fail.mpr ⟨rfl, _, rfl⟩

-- The valid objects among those of one SPDU, up to the first that cannot be read.
def itemInfo (slotId : UInt8) (item : Except Error Apdu.Item) : Option ApplicationInfo :=
  match item with
  | .ok item => applicationOf slotId item.tag item.body
  | .error _ => none

def infos (slotId : UInt8) (data : Bytes) : List ApplicationInfo :=
  match Apdu.iter data with
  | .ok items => items.filterMap (itemInfo slotId)
  | _ => []

structure Learns (sessionId : UInt16) (infos : List ApplicationInfo) (s s' : CiSession) : Prop where
  sessions : s'.sessions = s.sessions
  info : s'.resources.applicationInfo =
    infos.foldl (fun r info => r.learn sessionId info) s.resources.applicationInfo

theorem Learns.trans {first rest : List ApplicationInfo} (h : Learns sessionId first s s')
    (h' : Learns sessionId rest s' s'') : Learns sessionId (first ++ rest) s s'' :=
  ⟨h'.sessions.trans h.sessions, by rw [h'.info, h.info, List.foldl_append]⟩

theorem handle_learns {item : Apdu.Item} {rest : List ApplicationInfo} {close : Bool}
    {next : Bool → Act Error CiSession Bool}
    (hnext : ∀ close s, wlp (next close) (fun _ => Learns sessionId rest s) (fun _ => Learns sessionId rest s) s) :
    wlp (do
        let called ← runCallback slotId sessionId (ResourceRegistry.onApdu .applicationInfo item.tag item.body)
        resourceResult slotId called.1
        next (close || called.2))
      (fun _ => Learns sessionId ((applicationOf slotId item.tag item.body).toList ++ rest) s)
      (fun _ => Learns sessionId ((applicationOf slotId item.tag item.body).toList ++ rest) s) s := by
  have hresult {result : Except Error Unit} {s₁ : CiSession} {closing : Bool}
      (hinvalid : ∀ e, result = .error e → e.IsInvalidData)
      (h : Learns sessionId (applicationOf slotId item.tag item.body).toList s s₁) :
      wlp (resourceResult slotId result >>= fun _ => next closing)
        (fun _ => Learns sessionId ((applicationOf slotId item.tag item.body).toList ++ rest) s)
        (fun _ => Learns sessionId ((applicationOf slotId item.tag item.body).toList ++ rest) s) s₁ := by
    have hrest {s₂ : CiSession} (h₂ : Learns sessionId (applicationOf slotId item.tag item.body).toList s s₂) :
        wlp (next closing) (fun _ => Learns sessionId ((applicationOf slotId item.tag item.body).toList ++ rest) s)
          (fun _ => Learns sessionId ((applicationOf slotId item.tag item.body).toList ++ rest) s) s₂ :=
      wlp_mono (hnext closing s₂) (fun _ _ h₃ => h₂.trans h₃) fun _ _ h₃ => h₂.trans h₃
    cases result with
    | ok _ => exact hrest h
    | error e =>
        obtain ⟨context, rfl⟩ := hinvalid e rfl
        exact wlp_bind.mpr (wlp_pushEvent.mpr (hrest ⟨h.sessions, h.info⟩))
  have hlearned {ctx : ResourceContext ApplicationInfoResource} (h : ctx.self = learned slotId sessionId item.tag
      item.body s.resources.applicationInfo) : Learns sessionId (applicationOf slotId item.tag item.body).toList s
        (s.after ((ResourceRegistry.contextLens ResourceRegistry.applicationInfoLens).set ctx
          (s.context slotId sessionId))) := by
    refine ⟨rfl, h.trans ?_⟩
    rw [learned]
    split
    · next hsome => rw [hsome]; rfl
    · next hnone => rw [hnone]; rfl
  rw [wlp_bind, wlp_runCallback, ResourceRegistry.onApdu, wlp_zoom]
  refine wlp_mono (onApdu_learned item.tag item.body _) (fun _ _ h => hresult (by rintro _ ⟨⟩) (hlearned h)) fun e _ h => ?_
  refine hresult (fun e' he' => ?_) (hlearned h.1)
  cases he'
  exact h.2

theorem dispatchItems_learns : ∀ (fuel : Nat) (data : Bytes) (close : Bool) (s : CiSession)
    (items : List (Except Error Apdu.Item)), Apdu.parseAll fuel data = .ok items →
      wlp (dispatchItems slotId sessionId .applicationInfo fuel data close)
        (fun _ => Learns sessionId (items.filterMap (itemInfo slotId)) s)
        (fun _ => Learns sessionId (items.filterMap (itemInfo slotId)) s) s := by
  intro fuel
  induction fuel with
  | zero => exact fun _ _ _ _ _ => wlp_fault
  | succ fuel ih =>
      intro data close s items hitems
      rw [Apdu.parseAll] at hitems
      rw [dispatchItems, wlp_bind]
      cases hnext : Apdu.next data with
      | panic => exact ⟨by rintro _ ⟨⟩, by rintro _ ⟨⟩⟩
      | err e =>
          rw [hnext] at hitems
          cases hitems
      | ok next =>
          rw [hnext, ok_bind] at hitems
          refine wlp_lift_ok (a := next) rfl ?_
          cases next with
          | none =>
              cases hitems
              exact wlp_pure.mpr ⟨rfl, rfl⟩
          | some entry =>
              obtain ⟨item, rest⟩ := entry
              dsimp only at hitems ⊢
              cases hrest : Apdu.parseAll fuel rest with
              | panic =>
                  rw [hrest] at hitems
                  cases hitems
              | err e =>
                  rw [hrest] at hitems
                  cases hitems
              | ok others =>
                  rw [hrest, ok_bind, Outcome.ok.injEq] at hitems
                  subst hitems
                  cases item with
                  | error e =>
                      obtain rfl := Apdu.next_error hnext
                      obtain rfl : others = [] := Apdu.parseAll_nil hrest
                      cases e with
                      | invalidData context =>
                          exact wlp_bind.mpr (wlp_pushEvent.mpr (wlp_pure.mpr ⟨rfl, rfl⟩))
                      | _ => exact wlp_fail.mpr ⟨rfl, rfl⟩
                  | ok item =>
                      have hinfos : (Except.ok item :: others).filterMap (itemInfo slotId) =
                          (applicationOf slotId item.tag item.body).toList ++ others.filterMap (itemInfo slotId) := by
                        rw [List.filterMap_cons, itemInfo]
                        cases applicationOf slotId item.tag item.body <;> rfl
                      rw [hinfos]
                      exact handle_learns fun close s => ih rest close s others hrest

theorem requestClose_resources :
    Keeps (fun s s' => s'.resources = s.resources) (requestClose slotId sessionId) := by
  have hsend (spdu : Bytes) : Keeps (fun s s' => s'.resources = s.resources) (sendSpdu slotId spdu) :=
    fun _ => wlp_zoom.mpr ⟨fun _ _ => rfl, fun _ _ => rfl⟩
  have trans {s s' s'' : CiSession} (h : s'.resources = s.resources) (h' : s''.resources = s'.resources) :
      s''.resources = s.resources := h'.trans h
  have still : Keeps (fun s s' : CiSession => s'.resources = s.resources) (pure () : Act Error CiSession Unit) :=
    fun _ => wlp_pure.mpr rfl
  apply keeps_bind @trans (keeps_get fun _ => rfl)
  intro s
  split
  · split
    · exact keeps_bind @trans (keeps_modify fun _ => rfl) fun _ => hsend _
    · exact still
  · exact still

theorem dispatchApdu_learns {session : Session} {data : Bytes} (hsession : s.session sessionId = some session)
    (hslot : session.slotId = slotId) (hresource : session.resourceId = .applicationInformation) :
    wlp (dispatchApdu slotId sessionId data)
      (fun _ s' => s'.resources.applicationInfo = (infos slotId data).foldl (fun r info => r.learn sessionId info)
        s.resources.applicationInfo)
      (fun _ s' => s'.resources.applicationInfo = (infos slotId data).foldl (fun r info => r.learn sessionId info)
        s.resources.applicationInfo) s := by
  rw [dispatchApdu, wlp_bind, wlp_get, hsession]
  dsimp only
  rw [if_pos hslot, wlp_bind]
  refine wlp_lift_ok (a := .applicationInfo) (by rw [hresource]; rfl) ?_
  obtain ⟨items, hitems⟩ := Apdu.iter_ok data
  rw [wlp_bind, infos, hitems]
  refine wlp_mono (dispatchItems_learns _ data false s items hitems) (fun close s₁ h₁ => ?_) fun _ s₁ h₁ => h₁.info
  split
  · exact wlp_mono (requestClose_resources s₁) (fun _ s₂ h₂ => h₂ ▸ h₁.info) fun _ s₂ h₂ => h₂ ▸ h₁.info
  · exact wlp_pure.mpr h₁.info

end Learn

section Receive

variable {spdu : Bytes}

theorem recvFiltered_hands {P : CiSession → Prop} {accept : UInt8 → Bool} {raw : Bytes} {rest : List ReadResult}
    (h : s.Consistent) (hreads : s.transport.link.reads = .frame raw :: rest)
    (hreceived : received (raw.take Tpdu.maxTpduSize) s.transport.slots = some (.spdu slotId spdu))
    (haccept : accept slotId = true) (hstable : ∀ s t, P s → P { s with transport := t })
    (hP : ∀ t, CiTransport.Unwritten s.transport t → t.slots.length = s.transport.slots.length →
      wlp (dispatchSpdu slotId spdu) (fun _ => P) (fun _ => P) { s with transport := t }) :
    wlp (recvFiltered accept) (fun _ => P) (fun _ => P) s := by
  obtain ⟨hne, hhead, hbound⟩ := received_slot hreceived
  rw [recvFiltered, wlp_bind, wlp_zoom]
  refine wlp_mono (wlp_and (wlp_of_wp (CiTransport.recvApdu_frame h.count hreads hne)) (CiTransport.unwritten_recvApdu _))
    (fun recv t ht => ?_) fun e t ht => ?_
  · obtain ⟨⟨hmove, r, rfl, hrecv⟩, hwrites⟩ := ht
    obtain rfl : .spdu slotId spdu = r := Option.some.inj (hreceived.symm.trans hrecv)
    have hdispatch : wlp (dispatchRecv accept (.spdu slotId spdu)) (fun _ => P) (fun _ => P)
        { s with transport := t } := by
      simp only [dispatchRecv, haccept, if_true]
      rw [wlp_bind, wlp_note]
      exact hP _ hwrites hmove.length
    dsimp only
    rw [wlp_bind]
    refine wlp_mono hdispatch (fun _ s₁ h₁ => ?_) fun _ s₁ h₁ => h₁
    rw [wlp_bind, wlp_zoom]
    exact ⟨fun _ _ => wlp_pure.mpr (hstable s₁ _ h₁), fun _ _ => hstable s₁ _ h₁⟩
  · exact absurd hbound (Nat.not_lt.mpr (ht.1.2 slotId hhead))

end Receive

def serves (s : CiSession) (sessionId : UInt16) (slotId : UInt8) : Bool :=
  match s.session sessionId with
  | some session => session.slotId = slotId && session.resourceId = .applicationInformation
  | none => false

theorem serves_iff : s.serves sessionId slotId = true ↔ s.Serving sessionId slotId .applicationInformation := by
  rw [serves, Serving]
  cases hsession : s.session sessionId with
  | none => simp
  | some session => simp

end CiSession

def SessionLabel.delivered (label : SessionLabel) (s : CiSession) : Option (UInt8 × Bytes) :=
  match label.op, label.link.reads.head? with
  | .recv accept, some (.frame raw) =>
      match received (raw.take Tpdu.maxTpduSize) s.transport.slots with
      | some (.spdu slotId spdu) => if accept slotId then some (slotId, spdu) else none
      | _ => none
  | _, _ => none

def brought (s : CiSession) (label : SessionLabel) : List (UInt16 × UInt8 × ApplicationInfo) :=
  match label.delivered s with
  | some (slotId, spdu) =>
      match Spdu.parse spdu with
      | .ok (.sessionNumber sessionId data) =>
          if s.serves sessionId slotId then (infos slotId data).map fun info => (sessionId, slotId, info) else []
      | _ => []
  | none => []

variable {s s' : CiSession} {label : SessionLabel} {slotId : UInt8} {sessionId : UInt16} {spdu : Bytes}

theorem delivered_iff : label.delivered s = some (slotId, spdu) ↔ label.Delivers s slotId spdu := by
  constructor
  · intro h
    unfold SessionLabel.delivered at h
    split at h
    · next accept raw hop hhead =>
        split at h
        · next found payload hreceived =>
            split at h
            · next haccept =>
                cases h
                exact ⟨accept, raw, hop, haccept, hhead, hreceived⟩
            · cases h
        · cases h
    · cases h
  · rintro ⟨accept, raw, hop, haccept, hhead, hreceived⟩
    simp only [SessionLabel.delivered, hop, hhead, hreceived, haccept, if_true]

def learnt (s : CiSession) (label : SessionLabel) : ApplicationInfoResource :=
  (brought s label).foldl (fun r h => r.learn h.1 h.2.2) s.resources.applicationInfo

def InfoKept (s : CiSession) (label : SessionLabel) (s' : CiSession) : Prop :=
  Retains (learnt s label) s'.resources.applicationInfo (fun sessionId => s.session sessionId = none)
    fun sessionId => s'.session sessionId = none

theorem CiSession.Sheds.infoKept (h : Sheds s s') (hnone : brought s label = []) : InfoKept s label s' := by
  rw [InfoKept, learnt, hnone]
  refine ⟨h.revision, fun sessionId record hrecord => ?_, fun sessionId record hrecord => ?_⟩
  · rcases h.records sessionId with hsame | ⟨hlost, _⟩
    · exact .inl (hsame.symm.trans hrecord)
    · rw [hlost] at hrecord
      cases hrecord
  · rcases h.records sessionId with hsame | ⟨_, hgone⟩
    · exact .inl (hsame.trans hrecord)
    · exact .inr hgone

theorem InfoKept.opened {kind : ResourceKind} (hc : s.Consistent) (hnone : brought s label = [])
    (resources : s'.resources = s.resources.opened kind slotId (sessionIdOf s.freshIndex)) :
    InfoKept s label s' := by
  rw [InfoKept, learnt, hnone, resources, List.foldl_nil]
  have still : Retains s.resources.applicationInfo s.resources.applicationInfo
      (fun sessionId => s.session sessionId = none) fun sessionId => s'.session sessionId = none :=
    ⟨rfl, fun _ _ hrecord => .inl hrecord, fun _ _ hrecord => .inl hrecord⟩
  cases kind with
  | applicationInfo =>
      have hfree : s.session (sessionIdOf s.freshIndex) = none := by
        rw [session_sessionIdOf s hc.freshIndex_lt]
        exact entry_freshIndex s
      have hinsert := @KeyMap.get_insert _ s.resources.applicationInfo.sessions (sessionIdOf s.freshIndex)
      refine ⟨rfl, fun sessionId record hrecord => ?_, fun sessionId record hrecord => ?_⟩
      · have hentry := (hinsert sessionId { slotId }).symm.trans hrecord
        split at hentry
        · next heq =>
            cases hentry
            exact .inr ⟨heq ▸ hfree, rfl⟩
        · exact .inl hentry
      · refine .inl ((hinsert sessionId { slotId }).trans ?_)
        rw [if_neg, hrecord]
        rintro rfl
        have hrecorded : s.resources.recordSlot (sessionIdOf s.freshIndex) .applicationInfo = some record.slotId := by
          rw [ResourceRegistry.recordSlot, hrecord, Option.map_some]
        obtain ⟨session, hsession, _⟩ := (hc.records _ _ _ hrecorded).serving hc
        rw [hfree] at hsession
        cases hsession
  | _ => exact still

theorem InfoKept.of_resources (hnone : brought s label = []) (resources : s'.resources = s.resources) :
    InfoKept s label s' := by
  rw [InfoKept, learnt, hnone, resources]
  exact ⟨rfl, fun _ _ hrecord => .inl hrecord, fun _ _ hrecord => .inl hrecord⟩

theorem CiSession.Responds.infoKept {resourceId : ResourceId} (hc : s.Consistent) (h : Responds slotId spdu s s')
    (request : Spdu.parse spdu = .ok (.openSessionRequest resourceId)) (hnone : brought s label = []) :
    InfoKept s label s' := by
  rcases h with ⟨entries, hhandled, _⟩ | ⟨hinterrupted, _⟩
  · cases hhandled with
    | opened _ granted sessions resources spoken => exact .opened hc hnone resources
    | refused _ refused sessions resources => exact .of_resources hnone resources
    | closed other => cases request.symm.trans other
    | unknown other => cases request.symm.trans other
    | completed other => cases request.symm.trans other
    | revived other => cases request.symm.trans other
    | asked other => cases request.symm.trans other
    | spoken other => cases request.symm.trans other
    | ignored open_ => exact absurd request (open_ resourceId)
  · cases hinterrupted with
    | unchanged sessions resources => exact .of_resources hnone resources
    | opened granted sessions resources => exact .of_resources hnone resources

theorem sheds_dispatchApdu {data : Bytes} (hc : s.Consistent) (h : s.serves sessionId slotId = false)
    (t : CiTransport) :
    wlp (dispatchApdu slotId sessionId data) (fun _ => Sheds s) (fun _ => Sheds s) { s with transport := t } := by
  have hlinked : Sheds s { s with transport := t } := .of_same rfl rfl
  have hpushed (e : CaEvent) : wlp (pushEvent e) (fun _ => Sheds s) (fun _ => Sheds s) { s with transport := t } :=
    wlp_pushEvent.mpr (hlinked.trans (.of_same rfl rfl))
  have hsame : ({ s with transport := t } : CiSession).session sessionId = s.session sessionId := session_congr rfl _
  rw [dispatchApdu, wlp_bind, wlp_get, hsame]
  cases hsession : s.session sessionId with
  | none => exact hpushed _
  | some session =>
      dsimp only
      split
      · next hslot =>
          obtain ⟨index, _, _, _, live⟩ := session_eq_some hsession
          obtain ⟨kind, hlookup, hresource⟩ := lookup_live hc live
          have hkind : kind ≠ .applicationInfo := by
            rintro rfl
            have hserves := serves_iff.mpr ⟨session, hsession, hslot, hresource⟩
            rw [h] at hserves
            cases hserves
          rw [wlp_bind]
          refine wlp_lift_ok (a := kind) (by rw [hlookup]; rfl) ?_
          rw [wlp_bind]
          refine wlp_mono (sheds_dispatchItems hkind _ _ _ _) (fun close s₁ h₁ => ?_) fun _ _ h₁ => hlinked.trans h₁
          split
          · exact wlp_mono (sheds_requestClose s₁) (fun _ _ h₂ => (hlinked.trans h₁).trans h₂)
              fun _ _ h₂ => (hlinked.trans h₁).trans h₂
          · exact wlp_pure.mpr (hlinked.trans h₁)
      · exact hpushed _

theorem sheds_dispatchSpdu (hc : s.Consistent) (hopen : ∀ resourceId, Spdu.parse spdu ≠ .ok (.openSessionRequest resourceId))
    (hobjects : ∀ sessionId data, Spdu.parse spdu = .ok (.sessionNumber sessionId data) →
      s.serves sessionId slotId = false) (t : CiTransport) :
    wlp (dispatchSpdu slotId spdu) (fun _ => Sheds s) (fun _ => Sheds s) { s with transport := t } := by
  have hlinked : Sheds s { s with transport := t } := .of_same rfl rfl
  have hkept {m : Act Error CiSession Unit} (hm : Keeps Sheds m) :
      wlp m (fun _ => Sheds s) (fun _ => Sheds s) { s with transport := t } :=
    wlp_mono (hm _) (fun _ _ h => hlinked.trans h) fun _ _ h => hlinked.trans h
  rw [dispatchSpdu, wlp_bind]
  cases hparse : Spdu.parse spdu with
  | panic => exact ⟨by rintro _ ⟨⟩, by rintro _ ⟨⟩⟩
  | err e =>
      refine wlp_lift_ok (a := .error e) rfl ?_
      cases e with
      | invalidData context => exact hkept (sheds_pushEvent _)
      | _ => exact wlp_fail.mpr hlinked
  | ok parsed =>
      refine wlp_lift_ok (a := .ok parsed) rfl ?_
      cases parsed with
      | sessionNumber sessionId data => exact sheds_dispatchApdu hc (hobjects sessionId data hparse) t
      | openSessionRequest resourceId => exact absurd hparse (hopen resourceId)
      | createSessionResponse status resourceId sessionId => exact hkept (sheds_pushEvent _)
      | closeSessionRequest sessionId => exact hkept sheds_closeSession
      | closeSessionResponse status sessionId => exact hkept (sheds_closeSessionComplete status)

theorem SessionStep.hands {P : CiSession → Prop} (h : s.Consistent) (hstep : SessionStep s label s')
    (hd : label.Delivers s slotId spdu) (hstable : ∀ s t, P s → P { s with transport := t })
    (hP : ∀ t : CiTransport, t.link.writes = label.link.writes → t.slots.length = s.transport.slots.length →
      wlp (dispatchSpdu slotId spdu) (fun _ => P) (fun _ => P) { s with transport := t }) : P s' := by
  obtain ⟨accept, raw, hop, haccept, hhead, hreceived⟩ := hd
  obtain ⟨rest, hreads⟩ := List.head?_eq_some_iff.mp hhead
  have hall := recvFiltered_hands (h.called label.link) hreads hreceived haccept hstable hP
  rw [SessionStep, hop] at hstep
  exact wlp_result (wlp_map.mpr hall) hstep

theorem SessionStep.infoKept_delivers (h : s.Consistent) (hstep : SessionStep s label s')
    (hd : label.Delivers s slotId spdu) : InfoKept s label s' := by
  have hcalled : Sheds s (s.called label.link) := .of_same rfl rfl
  have hdelivered := delivered_iff.mpr hd
  have hhands {P : CiSession → Prop} (hstable : ∀ s t, P s → P { s with transport := t })
      (hP : ∀ t, wlp (dispatchSpdu slotId spdu) (fun _ => P) (fun _ => P) { s with transport := t }) : P s' :=
    hstep.hands h hd hstable fun t _ _ => hP t
  by_cases hopen : ∃ resourceId, Spdu.parse spdu = .ok (.openSessionRequest resourceId)
  · obtain ⟨resourceId, request⟩ := hopen
    have hresponds : CiSession.Responds slotId spdu s s' := hstep.responds h hd
    refine CiSession.Responds.infoKept h hresponds request ?_
    rw [brought, hdelivered]
    dsimp only
    rw [request]
  by_cases hobjects : ∃ sessionId data, Spdu.parse spdu = .ok (.sessionNumber sessionId data) ∧
      s.serves sessionId slotId = true
  · obtain ⟨sessionId, data, hparse, hserves⟩ := hobjects
    obtain ⟨session, hsession, hslot, hresource⟩ := serves_iff.mp hserves
    have hlearnt : learnt s label = (infos slotId data).foldl (fun r info => r.learn sessionId info)
        s.resources.applicationInfo := by
      rw [learnt, brought, hdelivered]
      dsimp only
      rw [hparse]
      dsimp only
      rw [if_pos hserves, List.foldl_map]
    have hafter : s'.resources.applicationInfo = learnt s label := by
      apply @hhands (fun s' => s'.resources.applicationInfo = learnt s label) fun _ _ hs => hs
      intro t
      rw [dispatchSpdu, wlp_bind, hparse, hlearnt]
      refine wlp_lift_ok (a := .ok (.sessionNumber sessionId data)) rfl ?_
      have hlinked : ({ s with transport := t } : CiSession).session sessionId = some session :=
        (session_congr rfl _).trans hsession
      exact dispatchApdu_learns hlinked hslot hresource
    rw [InfoKept, hafter]
    exact ⟨rfl, fun _ _ hrecord => .inl hrecord, fun _ _ hrecord => .inl hrecord⟩
  · have hsheds : Sheds s s' := hhands (fun _ _ hs => hs.trans (.of_same rfl rfl))
      (sheds_dispatchSpdu h (fun resourceId request => hopen ⟨resourceId, request⟩) fun sessionId data hparse =>
        Bool.eq_false_iff.mpr fun hserves => hobjects ⟨sessionId, data, hparse, hserves⟩)
    refine hsheds.infoKept ?_
    rw [brought, hdelivered]
    dsimp only
    split
    · next sessionId data hparse =>
        rw [if_neg fun hserves => hobjects ⟨sessionId, data, hparse, hserves⟩]
    · rfl

theorem keeps_op {op : SessionOp} (hrecv : ∀ accept, op ≠ .recv accept) : Keeps Sheds op.run := by
  have hzoom {σ α : Type} (l : Lens CiSession σ) (m : Act Error σ α)
      (hl : ∀ t s, (l.set t s).resources.applicationInfo = s.resources.applicationInfo ∧
        (l.set t s).sessions = s.sessions) : Keeps Sheds (zoom l m) :=
    fun s => wlp_zoom.mpr ⟨fun _ _ => .of_same (hl _ s).1 (hl _ s).2, fun _ _ => .of_same (hl _ s).1 (hl _ s).2⟩
  have hmap {α : Type} {m : Act Error CiSession α} (hm : Keeps Sheds m) :
      Keeps Sheds ((fun _ => ()) <$> m) := fun s => wlp_map.mpr (hm s)
  have hfind {slotId : UInt8} {resourceId : ResourceId} {tag : ApduTag} {body : Bytes} : Keeps Sheds (do
      let sessionId ← findSession slotId resourceId
      sendApdu slotId sessionId tag body) := by
    refine keeps_bind .trans (sheds_get fun s => ?_) fun _ => sheds_transport _
    split
    · exact keeps_pure .refl _
    · exact keeps_fail .refl _
  have hrequire {slotId : UInt8} {sessionId : UInt16} {resourceId : ResourceId} {tag : ApduTag} {body : Bytes} :
      Keeps Sheds (do
        requireSession slotId sessionId resourceId
        sendApdu slotId sessionId tag body) := by
    refine keeps_bind .trans (sheds_get fun s => ?_) fun _ => sheds_transport _
    split
    · exact keeps_pure .refl _
    · exact keeps_fail .refl _
  cases op with
  | recv accept => exact absurd rfl (hrecv accept)
  | tickAt now => exact hzoom _ _ fun _ _ => ⟨rfl, rfl⟩
  | dropSlot slotId => exact sheds_dropSlot
  | nextEvent =>
      apply hmap
      apply sheds_get
      intro s
      split
      · exact keeps_pure .refl _
      · exact keeps_bind .trans (keeps_modify fun _ => .of_same rfl rfl) fun _ => keeps_pure .refl _
  | setProgram program => exact hmap (hzoom _ _ fun _ _ => ⟨rfl, rfl⟩)
  | removeProgram programNumber => exact hmap (hzoom _ _ fun _ _ => ⟨rfl, rfl⟩)
  | enterMenu slotId =>
      apply sheds_get
      intro s
      dsimp only
      split
      · exact sheds_transport _
      · exact hfind
  | mmiMenuAnswer slotId sessionId choice => exact hrequire
  | mmiAnswer slotId sessionId answer => exact hrequire
  | mmiClose slotId sessionId => exact hrequire
  | askRelease slotId => exact hfind
  | sendTpdu slotId tag => exact sheds_transport _
  | flush slotId => exact sheds_transport _
  | takeDataPending slotId => exact hmap (sheds_transport _)

theorem SessionStep.infoKept (h : s.Consistent) (hstep : SessionStep s label s') : InfoKept s label s' := by
  have hcalled : Sheds s (s.called label.link) := .of_same rfl rfl
  cases hdelivered : label.delivered s with
  | some found => exact hstep.infoKept_delivers h (delivered_iff.mp hdelivered)
  | none =>
      have hnone : brought s label = [] := by rw [brought, hdelivered]
      have hafter (hwlp : wlp label.op.run (fun _ => Sheds (s.called label.link))
          (fun _ => Sheds (s.called label.link)) (s.called label.link)) : InfoKept s label s' :=
        (hcalled.trans (wlp_result hwlp hstep)).infoKept hnone
      by_cases hrecv : ∃ accept, label.op = .recv accept
      · obtain ⟨accept, hop⟩ := hrecv
        apply hafter
        rw [hop]
        refine wlp_map.mpr (wlp_mono (recvFiltered_still (h.called label.link) ?_)
          (fun _ _ hs => .of_same (by rw [hs.resources]) hs.sessions)
          fun _ _ hs => .of_same (by rw [hs.resources]) hs.sessions)
        intro raw rest slotId spdu hreads haccept hreceived
        have hd : label.delivered s = some (slotId, spdu) := delivered_iff.mpr
          ⟨accept, raw, hop, haccept, List.head?_eq_some_iff.mpr ⟨rest, hreads⟩, hreceived⟩
        rw [hdelivered] at hd
        cases hd
      · exact hafter (keeps_op (fun accept hop => hrecv ⟨accept, hop⟩) _)

end LibDvb
