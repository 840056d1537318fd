import LibDvb.Basis.Adds
import LibDvb.Ca.Session.Bland

namespace LibDvb

open Act Outcome

def Obs.Unasked : Obs → Prop
  | .queued _ frame => ∀ slotId, frame ≠ Tpdu.pollFrame slotId
  | .slotInfo _ => False
  | _ => True

theorem Obs.Bland.unasked {obs : Obs} (h : obs.Bland) : obs.Unasked := by
  cases obs with
  | queued other frame => exact fun slotId => (h slotId).2.2
  | slotInfo slotId => exact h.elim
  | _ => trivial

namespace CiTransport

variable {slotId : UInt8}

def Unasked (t t' : CiTransport) : Prop := Adds Obs.Unasked t.trace t'.trace

theorem Unasked.refl (t : CiTransport) : Unasked t t := Adds.refl _

theorem Unasked.trans {t t' t'' : CiTransport} (h : Unasked t t') (h' : Unasked t' t'') : Unasked t t'' := Adds.trans h h'

theorem Within.unasked {A : Obs → Prop} {t t' : CiTransport} (h : Within A t t') (ha : ∀ obs, A obs → obs.Unasked) :
    Unasked t t' := by
  obtain ⟨delta, htrace, _, hall⟩ := h
  exact ⟨delta, htrace, fun obs hmem => ha obs (hall obs hmem)⟩

theorem unasked_note {obs : Obs} (h : obs.Unasked) : Keeps Unasked (note obs) := keeps_modify fun t => adds_snoc h t.trace

theorem unasked_modifySlot (f : TransportSlot → TransportSlot) : Keeps Unasked (modifySlot slotId f) := by
  intro t
  exact wlp_modifySlot (.refl t)

theorem unasked_flush : Keeps Unasked (flush slotId) := fun t =>
  wlp_mono (bland_flush t) (fun _ _ h => h.unasked fun _ => Obs.Bland.unasked)
    fun _ _ h => h.unasked fun _ => Obs.Bland.unasked

theorem unasked_sendTpdu {tag : TpduTag} {data : Bytes}
    (hframe : ∀ other, Tpdu.frameOf slotId tag data ≠ Tpdu.pollFrame other) : Keeps Unasked (sendTpdu slotId tag data) := by
  have hsend : Keeps (Within Obs.Unasked) (sendTpdu slotId tag data) := within_sendTpdu (fun _ _ _ => trivial) hframe
  exact fun t => wlp_mono (hsend t) (fun _ _ h => h.unasked fun _ h => h) fun _ _ h => h.unasked fun _ h => h

theorem unasked_takeDataPending : Keeps Unasked (takeDataPending slotId) := by
  apply keeps_bind .trans (keeps_get .refl)
  intro t
  split
  · apply keeps_bind .trans (unasked_modifySlot _)
    exact fun _ => keeps_bind .trans (unasked_note trivial) fun _ => keeps_pure .refl _
  · exact keeps_pure .refl _

theorem unasked_recvParsed (parsed : Tpdu.RTpdu) : Keeps Unasked (recvParsed parsed) := by
  apply keeps_bind .trans (unasked_modifySlot _)
  intro _
  split
  · exact keeps_pure .refl _
  · split
    · apply keeps_bind .trans (keeps_bind .trans (keeps_get .refl) fun _ => keeps_lift .refl _)
      intro slot
      split
      · exact keeps_bind .trans (unasked_modifySlot _) fun _ => keeps_pure .refl _
      · apply keeps_bind .trans (unasked_modifySlot _)
        intro _
        split
        · exact keeps_pure .refl _
        · exact keeps_bind .trans (unasked_modifySlot _) fun _ => keeps_pure .refl _
    · split <;> exact keeps_pure .refl _

theorem unasked_recvFrame (frame : Bytes) : Keeps Unasked (recvFrame frame) := by
  have hparse (slotsNum : UInt8) (frameSlot : Option UInt8) : Keeps Unasked (recvBytes frame slotsNum frameSlot) := by
    apply keeps_bind .trans (keeps_lift .refl _)
    intro result
    split
    · exact unasked_recvParsed _
    · split
      · exact keeps_pure .refl _
      · exact keeps_fail .refl _
    · exact keeps_fail .refl _
  rw [recvFrame]
  split
  · exact keeps_fail .refl _
  · have hread : (Obs.read frame).Unasked := trivial
    apply keeps_bind .trans (unasked_note hread)
    intro _
    apply keeps_bind .trans (keeps_get .refl)
    intro t
    dsimp only
    split
    · next slotId _ => exact keeps_bind .trans (unasked_modifySlot _) fun _ => hparse t.slotsNum (some slotId)
    · exact hparse t.slotsNum none

theorem unasked_recvApdu : Keeps Unasked recvApdu := by
  have hrecv : Keeps Unasked (zoom linkLens (CaDevice.recvMsg Tpdu.maxTpduSize)) :=
    fun t => ⟨fun _ _ => .refl t, fun _ _ => .refl t⟩
  apply keeps_bind .trans (keeps_attempt hrecv)
  intro result
  split
  · exact keeps_bind .trans (unasked_note trivial) fun _ => keeps_pure .refl _
  · exact unasked_recvFrame _
  · exact keeps_bind .trans (unasked_note trivial) fun _ => keeps_fail .refl _

theorem unasked_clearSlot : Keeps Unasked (clearSlot slotId) := by
  apply keeps_bind .trans (keeps_get .refl)
  intro t
  split
  · exact keeps_bind .trans (unasked_modifySlot _) fun _ => unasked_note trivial
  · exact keeps_pure .refl _

end CiTransport

namespace CiSession

variable {heard : Bool} {slotId : UInt8} {s s' : CiSession}

structure Idles (heard : Bool) (s s' : CiSession) : Prop where
  trace : CiTransport.Unasked s.transport s'.transport
  events : ∀ e : CaEvent, e.Steers → e ∈ s'.events → e ∈ s.events ∨ heard = true ∧ ∃ slotId, e = .transportReady slotId

theorem Idles.refl (s : CiSession) : Idles heard s s := ⟨.refl _, fun _ _ h => .inl h⟩

theorem Idles.trans {s'' : CiSession} (h : Idles heard s s') (h' : Idles heard s' s'') : Idles heard s s'' := by
  refine ⟨h.trace.trans h'.trace, fun e he hmem => ?_⟩
  rcases h'.events e he hmem with hmem | hheard
  · exact h.events e he hmem
  · exact .inr hheard

theorem Bland.idles (h : Bland s s') : Idles heard s s' :=
  ⟨h.trace.unasked fun _ => Obs.Bland.unasked, fun e he hmem => .inl (h.unready e he hmem)⟩

theorem idles_transport {α : Type} {m : Act Error CiTransport α} (hm : Keeps CiTransport.Unasked m) :
    Keeps (Idles heard) (zoom transportLens m) :=
  keeps_zoom hm fun _ _ h => ⟨h, fun _ _ hmem => .inl hmem⟩

theorem idles_dropSlot : Keeps (Idles heard) (dropSlot slotId) := by
  apply keeps_bind .trans (idles_transport CiTransport.unasked_clearSlot)
  intro _
  apply keeps_bind .trans (keeps_get .refl)
  intro s
  apply keeps_forEach .refl .trans
  intro index _
  have hfree (sessionId : UInt16) : Keeps (Idles heard) (freeSession sessionId) := fun s =>
    wlp_mono (bland_freeSession s) (fun _ _ h => h.idles) fun _ _ h => h.idles
  apply keeps_bind .trans (keeps_get .refl)
  intro s
  split
  · split
    · exact hfree _
    · exact keeps_pure .refl ()
  · exact keeps_pure .refl ()

theorem idles_tickAt (now : Instant) : Keeps (Idles heard) (tickAt now) :=
  keeps_zoom (onTick_rings now) fun _ _ h =>
    ⟨h.carries.unasked fun _ hobs => hobs.bland.unasked, fun _ _ hmem => .inl hmem⟩

theorem idles_setProgram (program : Program) : Keeps (Idles heard) (setProgram program) :=
  keeps_zoom (announces_setProgram program) fun _ _ h =>
    ⟨h.bland.unasked fun _ => Obs.Bland.unasked, fun _ _ hmem => .inl hmem⟩

theorem idles_removeProgram (programNumber : UInt16) : Keeps (Idles heard) (removeProgram programNumber) :=
  keeps_zoom (announces_removeProgram programNumber) fun _ _ h =>
    ⟨h.bland.unasked fun _ => Obs.Bland.unasked, fun _ _ hmem => .inl hmem⟩

theorem idles_dispatchRecv (accept : UInt8 → Bool) (recv : TransportRecv) :
    Keeps (Idles true) (dispatchRecv accept recv) := by
  have hevent {e : CaEvent} (he : e.Steers → ∃ slotId, e = .transportReady slotId) :
      Keeps (Idles true) (pushEvent e) := by
    refine keeps_modify fun s => ⟨.refl _, fun other hsteers hmem => ?_⟩
    rcases List.mem_append.mp hmem with hmem | hmem
    · exact .inl hmem
    · rw [List.mem_singleton.mp hmem] at hsteers ⊢
      exact .inr ⟨rfl, he hsteers⟩
  cases recv with
  | tcReply other => exact hevent fun _ => ⟨other, rfl⟩
  | spdu other spdu =>
      rw [dispatchRecv]
      split
      · have hnote : (Obs.dispatched other spdu).Unasked := trivial
        apply keeps_bind .trans (idles_transport (CiTransport.unasked_note hnote))
        exact fun _ s => wlp_mono (bland_dispatchSpdu spdu s) (fun _ _ h => h.idles) fun _ _ h => h.idles
      · exact hevent (by rintro ⟨⟩)
  | status other => exact keeps_pure .refl ()
  | malformed other context => exact hevent (by rintro ⟨⟩)

theorem idles_recvController (activeSlots : List Bool) : Keeps (Idles true) (recvController activeSlots) := by
  apply keeps_bind .trans (idles_transport CiTransport.unasked_recvApdu)
  intro result
  split
  · exact keeps_pure .refl _
  · apply keeps_bind .trans (idles_dispatchRecv _ _)
    intro _
    exact keeps_bind .trans (idles_transport CiTransport.unasked_flush) fun _ => keeps_pure .refl _

end CiSession

end LibDvb
