import LibDvb.Ca.Session
import LibDvb.Ca.Transport.Handshake

namespace LibDvb

open Act Outcome

structure Speaks {R : Type} (ctx ctx' : ResourceContext R) : Prop where
  slotId : ctx'.slotId = ctx.slotId
  sessionId : ctx'.sessionId = ctx.sessionId
  talks : Talks (OnSession ctx.slotId ctx.sessionId) ctx.transport.trace ctx'.transport.trace
  length : CiTransport.SameLength ctx.transport ctx'.transport
  bland : CiTransport.Within Obs.Bland ctx.transport ctx'.transport
  unready : ∀ e : CaEvent, e.Steers → e ∈ ctx'.events → e ∈ ctx.events

section Speaks

variable {R : Type} {ctx ctx' ctx'' : ResourceContext R}

theorem Speaks.refl (ctx : ResourceContext R) : Speaks ctx ctx := ⟨rfl, rfl, .refl .., rfl, .refl _, fun _ _ h => h⟩

theorem Speaks.trans (h : Speaks ctx ctx') (h' : Speaks ctx' ctx'') : Speaks ctx ctx'' where
  slotId := h'.slotId.trans h.slotId
  sessionId := h'.sessionId.trans h.sessionId
  talks := by
    have htalks := h'.talks
    rw [h.slotId, h.sessionId] at htalks
    exact h.talks.trans htalks
  length := h.length.trans h'.length
  bland := h.bland.trans h'.bland
  unready e he hmem := h.unready e he (h'.unready e he hmem)

end Speaks

def Spoken {R α : Type} (m : Act Error (ResourceContext R) α) : Prop := Keeps Speaks m

section Actions

variable {R α β : Type}

theorem spoken_pure (a : α) : Spoken (pure a : Act Error (ResourceContext R) α) := keeps_pure .refl a

theorem spoken_fail (e : Error) : Spoken (fail e : Act Error (ResourceContext R) α) := keeps_fail .refl e

theorem spoken_lift (o : Outcome Error α) : Spoken (lift o : Act Error (ResourceContext R) α) :=
  keeps_lift .refl o

theorem spoken_bind {m : Act Error (ResourceContext R) α} {f : α → Act Error (ResourceContext R) β}
    (hm : Spoken m) (hf : ∀ a, Spoken (f a)) : Spoken (m >>= f) := keeps_bind .trans hm hf

theorem spoken_get {f : ResourceContext R → Act Error (ResourceContext R) β} (hf : ∀ ctx, Spoken (f ctx)) :
    Spoken (get >>= f) := spoken_bind (keeps_get .refl) hf

theorem spoken_lift_bind {o : Outcome Error α} {Q : α → Prop} {f : α → Act Error (ResourceContext R) β}
    (ho : o.Yields Q) (hf : ∀ a, Q a → Spoken (f a)) : Spoken (lift o >>= f) := by
  intro ctx
  rw [wlp_bind, wlp_lift]
  exact ⟨fun a ha => hf a (ho a ha) ctx, fun _ _ => .refl ctx⟩

theorem spoken_modify {f : ResourceContext R → ResourceContext R}
    (h : ∀ ctx, (f ctx).slotId = ctx.slotId ∧ (f ctx).sessionId = ctx.sessionId ∧
      (f ctx).transport = ctx.transport)
    (hevents : ∀ ctx (e : CaEvent), e.Steers → e ∈ (f ctx).events → e ∈ ctx.events) :
    Spoken (modify f : Act Error (ResourceContext R) Unit) := by
  refine keeps_modify fun ctx => ?_
  obtain ⟨hslot, hsession, htransport⟩ := h ctx
  refine ⟨hslot, hsession, ?_, ?_, ?_, hevents ctx⟩
  · rw [htransport]
    exact .refl ..
  · rw [htransport]
    rfl
  · rw [htransport]
    exact .refl _

theorem spoken_update (f : R → R) : Spoken (ResourceContext.update f) :=
  spoken_modify (fun _ => ⟨rfl, rfl, rfl⟩) fun _ _ _ h => h

theorem mem_snoc_unready {events : List CaEvent} {e other : CaEvent} (he : e.Unready) (hother : other.Steers)
    (h : other ∈ events ++ [e]) : other ∈ events := by
  rcases List.mem_append.mp h with hmem | hmem
  · exact hmem
  · rw [List.mem_singleton.mp hmem] at hother
    exact absurd hother he

theorem spoken_event {e : CaEvent} (he : e.Unready) :
    Spoken (ResourceContext.event e : Act Error (ResourceContext R) Unit) :=
  spoken_modify (fun _ => ⟨rfl, rfl, rfl⟩) fun _ _ => mem_snoc_unready he

theorem spoken_sendApdu (tag : ApduTag) (body : Bytes) :
    Spoken (ResourceContext.sendApdu tag body : Act Error (ResourceContext R) Unit) := by
  intro ctx
  rw [ResourceContext.sendApdu, wlp_bind, wlp_get]
  have hsend : wlp (CiTransport.sendApdu ctx.slotId ctx.sessionId tag body) _ _ ctx.transport :=
    wlp_and (wlp_and (CiTransport.sendApdu_talks ctx.sessionId tag body ctx.transport)
      (CiTransport.sameLength_sendApdu ctx.sessionId tag body ctx.transport))
      (CiTransport.bland_sendApdu ctx.sessionId tag body ctx.transport)
  exact wlp_zoom.mpr (wlp_mono hsend (fun _ _ ht => ⟨rfl, rfl, ht.1.1, ht.1.2, ht.2, fun _ _ h => h⟩)
    fun _ _ ht => ⟨rfl, rfl, ht.1.1, ht.1.2, ht.2, fun _ _ h => h⟩)

theorem spoken_context {l : Lens ResourceRegistry R} {m : Act Error (ResourceContext R) α} (hm : Spoken m) :
    Spoken (zoom (ResourceRegistry.contextLens l) m) :=
  keeps_zoom hm fun _ _ h => ⟨h.slotId, h.sessionId, h.talks, h.length, h.bland, h.unready⟩

end Actions

section Callbacks

variable (tag : ApduTag) (body : Bytes)

theorem rm_spoken : Spoken (ResourceManager.onApdu tag) := by
  apply spoken_get
  intro ctx
  split
  · exact spoken_sendApdu _ _
  · split
    · exact spoken_sendApdu _ _
    · split
      · exact spoken_sendApdu _ _
      · exact spoken_fail _

theorem applicationInfo_spoken : Spoken (ApplicationInfoResource.onApdu tag body) := by
  apply spoken_get
  intro ctx
  split
  · apply spoken_bind (spoken_lift _)
    intro info
    split
    · exact spoken_fail _
    · exact spoken_bind (spoken_update _) fun _ => spoken_event id
  · exact spoken_fail _

theorem selectPrograms_spoken (caids : List UInt16) (programs : List (UInt16 × Program)) :
    ∀ selected, Spoken (ConditionalAccessResource.selectPrograms caids selected programs) := by
  induction programs with
  | nil => exact fun selected => spoken_pure selected
  | cons entry rest ih =>
      intro selected
      rw [ConditionalAccessResource.selectPrograms]
      apply spoken_bind (spoken_lift _)
      intro object
      cases object with
      | none => exact ih selected
      | some body => exact spoken_bind (spoken_sendApdu _ _) fun _ => ih _

theorem withdrawPrograms_spoken (caids : List UInt16) (programs : List (UInt16 × Program)) :
    Spoken (ConditionalAccessResource.withdrawPrograms caids programs) := by
  induction programs with
  | nil => exact spoken_pure ()
  | cons entry rest ih =>
      rw [ConditionalAccessResource.withdrawPrograms]
      apply spoken_bind (spoken_lift _)
      intro object
      cases object with
      | none => exact spoken_bind (spoken_pure ()) fun _ => ih
      | some body => exact spoken_bind (spoken_sendApdu _ _) fun _ => ih

theorem putSession_spoken (session : ConditionalAccessSession) :
    Spoken (ConditionalAccessResource.putSession session) := spoken_get fun _ => spoken_update _

theorem synchronizeSession_spoken (session : ConditionalAccessSession) (caids : List UInt16) :
    Spoken (ConditionalAccessResource.synchronizeSession session caids) := by
  apply spoken_get
  intro ctx
  apply spoken_bind (putSession_spoken _)
  intro _
  apply spoken_bind (selectPrograms_spoken caids _ _)
  intro selected
  dsimp only
  split
  · split
    · exact spoken_bind (withdrawPrograms_spoken _ _) fun _ => putSession_spoken _
    · exact putSession_spoken _
  · exact putSession_spoken _

theorem conditionalAccess_spoken : Spoken (ConditionalAccessResource.onApdu tag body) := by
  apply spoken_get
  intro ctx
  split
  · apply spoken_bind (spoken_lift _)
    intro caids
    split
    · exact spoken_fail _
    · exact spoken_bind (synchronizeSession_spoken _ _) fun _ => spoken_event id
  · split
    · exact spoken_pure ()
    · exact spoken_fail _

theorem hostControl_spoken : Spoken (HostControlResource.onApdu tag body) := by
  have hparsed {parsed : Outcome Error CaEvent} (h : parsed.Yields CaEvent.Unready) :
      Spoken (lift parsed >>= fun e => ResourceContext.event (R := Unit) e) :=
    spoken_lift_bind h fun _ he => spoken_event he
  apply spoken_get
  intro ctx
  split
  · exact hparsed (HostControlResource.parseTune_unready _ _)
  · split
    · exact hparsed (HostControlResource.parseReplace_unready _ _)
    · split
      · exact hparsed (HostControlResource.parseClearReplace_unready _ _)
      · exact spoken_fail _

theorem sendNow_spoken : Spoken DateTimeResource.sendNow := by
  have hnow : Spoken (zoom ResourceContext.transportLens DateTimeResource.nowBody :
      Act Error (ResourceContext DateTimeResource) Bytes) := by
    intro ctx
    rw [wlp_zoom, DateTimeResource.nowBody, wlp_bind, wlp_zoom]
    have hany : wlp CaDevice.systemTime (fun _ _ => True) (fun _ _ => True) ctx.transport.link :=
      ⟨fun _ _ => trivial, fun _ _ => trivial⟩
    exact wlp_mono hany (fun _ _ _ => wlp_pure.mpr ⟨rfl, rfl, .refl .., rfl, .refl _, fun _ _ h => h⟩)
      fun _ _ _ => ⟨rfl, rfl, .refl .., rfl, .refl _, fun _ _ h => h⟩
  exact spoken_bind hnow fun _ => spoken_sendApdu _ _

theorem dateTime_spoken : Spoken (DateTimeResource.onApdu tag body) := by
  apply spoken_get
  intro ctx
  dsimp only
  split
  · split
    · exact spoken_bind (spoken_update _) fun _ => sendNow_spoken
    · exact sendNow_spoken
  · exact spoken_fail _

theorem takeObject_spoken (last : Bytes) : Spoken (MmiResource.takeObject last) := by
  apply spoken_get
  intro ctx
  split
  · exact spoken_bind (spoken_update _) fun _ => spoken_pure _
  · exact spoken_pure _

theorem onMore_spoken : Spoken (MmiResource.onMore body) := by
  apply spoken_get
  intro ctx
  dsimp only
  split
  · exact spoken_bind (spoken_update _) fun _ => spoken_fail _
  · exact spoken_update _

theorem mmi_spoken : Spoken (MmiResource.onApdu tag body) := by
  apply spoken_get
  intro ctx
  split
  · exact onMore_spoken _
  · split
    · refine spoken_bind (spoken_event id) fun _ => ?_
      exact spoken_modify (fun _ => ⟨rfl, rfl, rfl⟩) fun _ _ _ h => h
    · split
      · exact spoken_sendApdu _ _
      · split
        · exact spoken_bind (takeObject_spoken _) fun _ => spoken_event id
        · split
          · exact spoken_lift_bind (MmiResource.parseEnq_unready _ _ _) fun _ he => spoken_event he
          · split
            · exact spoken_bind (takeObject_spoken _) fun _ =>
                spoken_bind (spoken_lift _) fun _ => spoken_event id
            · split
              · exact spoken_bind (takeObject_spoken _) fun _ =>
                  spoken_bind (spoken_lift _) fun _ => spoken_event id
              · exact spoken_fail _

theorem onApdu_spoken (kind : ResourceKind) : Spoken (ResourceRegistry.onApdu kind tag body) := by
  cases kind with
  | rm => exact spoken_context (rm_spoken tag)
  | applicationInfo => exact spoken_context (applicationInfo_spoken tag body)
  | conditionalAccess => exact spoken_context (conditionalAccess_spoken tag body)
  | hostControl => exact spoken_context (hostControl_spoken tag body)
  | dateTime => exact spoken_context (dateTime_spoken tag body)
  | mmi => exact spoken_context (mmi_spoken tag body)

theorem onOpen_spoken (kind : ResourceKind) : Spoken (ResourceRegistry.onOpen kind) := by
  cases kind with
  | rm => exact spoken_context (spoken_sendApdu _ _)
  | applicationInfo =>
      exact spoken_context (spoken_get fun _ => spoken_bind (spoken_update _) fun _ => spoken_sendApdu _ _)
  | conditionalAccess =>
      exact spoken_context (spoken_get fun _ => spoken_bind (putSession_spoken _) fun _ => spoken_sendApdu _ _)
  | hostControl => exact spoken_pure ()
  | dateTime =>
      exact spoken_context (spoken_get fun _ => spoken_bind (spoken_update _) fun _ => sendNow_spoken)
  | mmi => exact spoken_pure ()

end Callbacks

end LibDvb
