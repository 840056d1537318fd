import LibDvb.Ca.Session.Delivery

namespace LibDvb

open Act Outcome

namespace CiSession

variable {s s' s'' : CiSession} {slotId : UInt8} {sessionId : UInt16}

structure Bland (s s' : CiSession) : Prop where
  trace : CiTransport.Within Obs.Bland s.transport s'.transport
  length : CiTransport.SameLength s.transport s'.transport
  unready : ∀ e : CaEvent, e.Steers → e ∈ s'.events → e ∈ s.events

theorem Bland.refl (s : CiSession) : Bland s s := ⟨.refl _, rfl, fun _ _ h => h⟩

theorem Bland.trans (h : Bland s s') (h' : Bland s' s'') : Bland s s'' :=
  ⟨h.trace.trans h'.trace, h.length.trans h'.length, fun e he hmem => h.unready e he (h'.unready e he hmem)⟩

theorem Chats.bland_chats {P : UInt8 → UInt16 → Prop} (h : Chats P s s') : Bland s s' := ⟨h.bland, h.length, h.unready⟩

theorem bland_of_chats {P : UInt8 → UInt16 → Prop} {α : Type} {m : Act Error CiSession α} (hm : Keeps (Chats P) m) :
    Keeps Bland m :=
  fun s => wlp_mono (hm s) (fun _ _ h => h.bland_chats) fun _ _ h => h.bland_chats

theorem bland_transport {α : Type} {m : Act Error CiTransport α} (hm : Keeps (CiTransport.Within Obs.Bland) m)
    (hlength : Keeps CiTransport.SameLength m) : Keeps Bland (zoom transportLens m) := by
  intro s
  rw [wlp_zoom]
  exact wlp_mono (wlp_and (hm s.transport) (hlength s.transport)) (fun _ _ h => ⟨h.1, h.2, fun _ _ hmem => hmem⟩)
    fun _ _ h => ⟨h.1, h.2, fun _ _ hmem => hmem⟩

theorem bland_note {obs : Obs} (h : obs.Bland) (he : ∀ slots, obs.effect slots = slots) : Keeps Bland (note obs) :=
  bland_transport (CiTransport.within_note h he) (CiTransport.sameLength_note obs)

theorem bland_sendSpdu {spdu : Bytes} (hspdu : spdu ≠ []) : Keeps Bland (sendSpdu slotId spdu) :=
  bland_transport (CiTransport.bland_sendSpdu hspdu) (CiTransport.sameLength_sendSpdu spdu)

theorem bland_flush : Keeps Bland (zoom transportLens (CiTransport.flush slotId)) :=
  bland_transport CiTransport.bland_flush CiTransport.sameLength_flush

theorem bland_pushEvent {e : CaEvent} (he : e.Unready) : Keeps Bland (pushEvent e) :=
  keeps_modify fun _ => ⟨.refl _, rfl, fun _ => mem_snoc_unready he⟩

theorem bland_modify {f : CiSession → CiSession} (htransport : ∀ s, (f s).transport = s.transport)
    (hevents : ∀ s, (f s).events = s.events) : Keeps Bland (modify f : Act Error CiSession Unit) := by
  refine keeps_modify fun s => ⟨?_, ?_, ?_⟩
  · rw [htransport]
    exact .refl _
  · rw [htransport]
    rfl
  · rw [hevents]
    exact fun _ _ h => h

theorem bland_get {β : Type} {f : CiSession → Act Error CiSession β} (hf : ∀ s, Keeps Bland (f s)) :
    Keeps Bland (get >>= f) := keeps_bind .trans (keeps_get .refl) hf

theorem bland_lift {α β : Type} {o : Outcome Error α} {f : α → Act Error CiSession β} (hf : ∀ a, Keeps Bland (f a)) :
    Keeps Bland (lift o >>= f) := keeps_bind .trans (keeps_lift .refl o) hf

theorem bland_modify_bind {β : Type} {f : CiSession → CiSession} {g : Unit → Act Error CiSession β}
    (htransport : ∀ s, (f s).transport = s.transport) (hevents : ∀ s, (f s).events = s.events)
    (hg : Keeps Bland (g ())) : Keeps Bland ((modify f : Act Error CiSession Unit) >>= g) :=
  keeps_bind .trans (bland_modify htransport hevents) fun _ => hg

section Open

theorem bland_onOpen (kind : ResourceKind) : Keeps Bland (do
    let (result, _) ← runCallback slotId sessionId (ResourceRegistry.onOpen kind)
    resourceResult slotId result) := by
  apply keeps_bind .trans (bland_of_chats (keeps_runCallback (onOpen_spoken kind)))
  intro result s
  exact wlp_mono (keeps_resourceResult result.1 s) (fun _ _ h => (h.chats (P := fun _ _ => True)).bland_chats)
    fun _ _ h => (h.chats (P := fun _ _ => True)).bland_chats

theorem bland_openSession (resourceId : ResourceId) : Keeps Bland (openSession slotId resourceId) := by
  intro s
  cases hverdict : s.verdict slotId resourceId with
  | error status =>
      rw [wlp_congr (openSession_refused hverdict)]
      have hrefuse : Keeps Bland (refuse slotId resourceId status) := by
        apply keeps_bind .trans (bland_sendSpdu (by simp [Spdu.buildOpenSessionResponse]))
        exact fun _ => bland_pushEvent id
      exact hrefuse s
  | ok kind =>
      rw [wlp_congr (openSession_granted hverdict)]
      have hgrant : Keeps Bland (grant slotId kind (sessionIdOf s.freshIndex)) := by
        apply keeps_bind .trans (bland_sendSpdu (by simp [Spdu.buildOpenSessionResponse]))
        intro _
        have hopened : (Obs.opened slotId (sessionIdOf s.freshIndex)).Bland := trivial
        apply keeps_bind .trans (bland_note hopened fun _ => rfl)
        intro _
        exact keeps_bind .trans (bland_pushEvent id) fun _ => bland_onOpen kind
      have hallocated : Bland s (s.allocated slotId kind) := ⟨.refl _, rfl, fun _ _ h => h⟩
      exact wlp_mono (hgrant (s.allocated slotId kind)) (fun _ _ h => hallocated.trans h)
        fun _ _ h => hallocated.trans h

end Open

section Close

theorem bland_freeSession : Keeps Bland (freeSession sessionId) := by
  apply bland_get
  intro s
  split
  · exact keeps_pure .refl ()
  · refine bland_modify_bind (fun _ => rfl) (fun _ => rfl) ?_
    split
    · refine bland_modify_bind (fun _ => rfl) (fun _ => rfl) ?_
      exact bland_pushEvent id
    · exact bland_pushEvent id

theorem bland_requestClose : Keeps Bland (requestClose slotId sessionId) := by
  apply bland_get
  intro s
  split
  · split
    · exact bland_modify_bind (fun _ => rfl) (fun _ => rfl) (bland_sendSpdu (by simp [Spdu.buildCloseSessionRequest]))
    · exact keeps_pure .refl ()
  · exact keeps_pure .refl ()

theorem bland_closeSession : Keeps Bland (closeSession slotId sessionId) := by
  apply bland_get
  intro s
  dsimp only
  apply keeps_bind .trans (bland_sendSpdu (by simp [Spdu.buildCloseSessionResponse]))
  intro _
  have hknown (known : Bool) : Keeps Bland (if known then freeSession sessionId else
      pushEvent (.malformed slotId s!"ca slot {slotId}: close request for unknown session {sessionId}")) := by
    cases known with
    | true => exact bland_freeSession
    | false => exact bland_pushEvent id
  exact hknown _

theorem bland_closeSessionComplete (status : UInt8) : Keeps Bland (closeSessionComplete slotId sessionId status) := by
  apply bland_get
  intro s
  split
  · split
    · split
      · exact bland_freeSession
      · apply bland_lift
        intro index
        refine bland_modify_bind (fun _ => rfl) (fun _ => rfl) ?_
        exact bland_pushEvent id
    · exact bland_pushEvent id
  · exact bland_pushEvent id

end Close

section Dispatch

theorem bland_dispatchApdu (data : Bytes) : Keeps Bland (dispatchApdu slotId sessionId data) := by
  apply bland_get
  intro s
  split
  · split
    · apply bland_lift
      intro kind
      apply keeps_bind .trans (bland_of_chats (keeps_dispatchItems _ _ _))
      intro close
      split
      · exact bland_requestClose
      · exact keeps_pure .refl ()
    · exact bland_pushEvent id
  · exact bland_pushEvent id

theorem bland_dispatchSpdu (data : Bytes) : Keeps Bland (dispatchSpdu slotId data) := by
  apply bland_lift
  intro parsed
  split
  · exact bland_dispatchApdu _
  · exact bland_openSession _
  · exact bland_closeSession
  · exact bland_closeSessionComplete _
  · exact bland_pushEvent id
  · exact bland_pushEvent id
  · exact keeps_fail .refl _

end Dispatch

end CiSession

end LibDvb
