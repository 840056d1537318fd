import LibDvb.Ca.Controller.SlotEnd
import LibDvb.Ca.Controller.Run

namespace LibDvb

open Relation Act Outcome

theorem replies_of_received {frame : Bytes} {slots : List TransportSlot} {slotId : UInt8}
    (h : received frame slots = some (.tcReply slotId)) : Tpdu.replies (UInt8.ofNat slots.length) slotId frame = true := by
  unfold received at h
  unfold Tpdu.replies
  dsimp only at h
  split at h
  · next parsed hparse =>
      obtain ⟨slot, _, hreceive⟩ := Option.map_eq_some_iff.mp h
      rw [hparse]
      unfold TransportSlot.receive at hreceive
      dsimp only at hreceive
      split at hreceive
      · next htag =>
          cases hreceive
          simp [htag]
      · split at hreceive
        · split at hreceive
          · cases hreceive
          · split at hreceive <;> cases hreceive
        · split at hreceive <;> cases hreceive
  · obtain ⟨_, _, heq⟩ := Option.map_eq_some_iff.mp h
    cases heq
  · cases h

namespace CiSession

variable {s s' : CiSession} {slotId : UInt8}

structure Treated (accept : UInt8 → Bool) (recv : TransportRecv) (s s' : CiSession) : Prop where
  bland : CiTransport.Within Obs.Bland s.transport s'.transport
  ready : ∀ slotId, recv ≠ .tcReply slotId → .transportReady slotId ∈ s'.events → .transportReady slotId ∈ s.events
  refused : accept recv.slotId = false → s'.transport = s.transport

theorem Treated.of_bland {accept : UInt8 → Bool} {recv : TransportRecv} (haccept : accept recv.slotId = true)
    (h : Bland s s') : Treated accept recv s s' :=
  ⟨h.trace, fun slotId _ => h.unready (.transportReady slotId) trivial, fun hrefused => nomatch haccept.symm.trans hrefused⟩

theorem treated_event {accept : UInt8 → Bool} {recv : TransportRecv} {e : CaEvent}
    (h : ∀ slotId, recv ≠ .tcReply slotId → e ≠ .transportReady slotId) :
    wlp (pushEvent e) (fun _ => Treated accept recv s) (fun _ => Treated accept recv s) s := by
  refine wlp_modify.mpr ⟨.refl _, fun slotId hrecv hmem => ?_, fun _ => rfl⟩
  rcases List.mem_append.mp hmem with hmem | hmem
  · exact hmem
  · exact absurd (List.mem_singleton.mp hmem).symm (h slotId hrecv)

theorem dispatchRecv_treated (accept : UInt8 → Bool) (recv : TransportRecv) (s : CiSession) :
    wlp (dispatchRecv accept recv) (fun _ => Treated accept recv s) (fun _ => Treated accept recv s) s := by
  cases recv with
  | tcReply other => exact treated_event fun slotId hne heq => hne (by rw [CaEvent.transportReady.inj heq])
  | spdu other spdu =>
      rw [dispatchRecv]
      split
      · next haccept =>
          have hbland : Keeps Bland (do
              note (.dispatched other spdu)
              dispatchSpdu other spdu) :=
            keeps_bind .trans (bland_note trivial fun _ => rfl) fun _ => bland_dispatchSpdu spdu
          exact wlp_mono (hbland s) (fun _ _ h => .of_bland haccept h) fun _ _ h => .of_bland haccept h
      · exact treated_event (by rintro _ _ ⟨⟩)
  | status other => exact wlp_pure.mpr ⟨.refl _, fun _ _ hmem => hmem, fun _ => rfl⟩
  | malformed other context => exact treated_event (by rintro _ _ ⟨⟩)

end CiSession

namespace CiController

variable {c c' : CiController} {count : Nat} {slotId other : UInt8} {slot : ControllerSlot} {stage : SlotStage}
  {v : SlotView} {s : CiSession}

section Talk

theorem At.talk (h : c.At count slotId slot stage)
    (within : CiTransport.Within (Obs.Apart slotId) c.session.transport s.transport)
    (unready : stage.replied = false → .transportReady slotId ∉ s.events)
    (still : slot.status = .creatingTc →
      s.transport.slots[slotId.toNat]? = c.session.transport.slots[slotId.toNat]?) :
    Leads count slotId ⟨slot, c.trace, stage⟩ (fun slot' stage' _ => slot' = slot ∧ stage' = stage)
      (sessionLens.set s c) := by
  obtain ⟨hat, delta, htrace, hall⟩ := @At.follows _ (sessionLens.set s c) _ _ _ _ _ _ stage h rfl h.known within unready
  refine ⟨slot, stage, hat, ?_, rfl, rfl⟩
  rw [htrace]
  by_cases hcreating : slot.status = .creatingTc
  · refine .single (.aside hall ?_)
    have hpast : some ((sessionLens.set s c).past count slotId) = some (c.past count slotId) := by
      rw [← hat.transport, ← h.transport]
      exact still hcreating
    rw [← htrace]
    exact Option.some.inj hpast
  · exact .single (.talked hall hcreating)

end Talk

section Receive

def Aside (slotId : UInt8) (s s' : CiSession) : Prop :=
  CiTransport.Within (Obs.Apart slotId) s.transport s'.transport ∧
    (.transportReady slotId ∈ s'.events → .transportReady slotId ∈ s.events) ∧
    (s'.transport.slots[slotId.toNat]? = s.transport.slots[slotId.toNat]? ∨
      ∀ result, s.transport.link.reads.head? = some result → result.first ≠ some slotId)

theorem aside_of_move {obs : Obs} {t : CiTransport} (hmove : CiTransport.Move obs c.session.transport t)
    (hapart : obs.Apart slotId) (hstill : obs.effect c.session.transport.slots = c.session.transport.slots ∨
      ∀ result, c.session.transport.link.reads.head? = some result → result.first ≠ some slotId) :
    Aside slotId c.session { c.session with transport := t } := by
  refine ⟨.move hmove hapart, fun hmem => hmem, hstill.imp_left fun heffect => ?_⟩
  show t.slots[slotId.toNat]? = _
  rw [hmove.slots, heffect]

theorem aside_of_other {accept : UInt8 → Bool} {frame : Bytes} {recv : TransportRecv} {t : CiTransport}
    (hmove : CiTransport.Move (.read frame) c.session.transport t) (htakes : CiTransport.Takes c.session.transport frame t)
    (hhead : frame.head? = some recv.slotId) (hne : recv.slotId ≠ slotId) :
    wlp (do
        CiSession.dispatchRecv accept recv
        zoom CiSession.transportLens (CiTransport.flush recv.slotId)
        pure (some recv.slotId))
      (fun recv s => recv ≠ some slotId ∧ Aside slotId c.session s) (fun _ s => Aside slotId c.session s)
      { c.session with transport := t } := by
  have hread : CiTransport.Within (Obs.Apart slotId) c.session.transport t := by
    refine .move hmove fun heq => hne ?_
    rw [hhead] at heq
    exact Option.some.inj heq
  have hother : ∀ result, c.session.transport.link.reads.head? = some result → result.first ≠ some slotId := by
    intro result hresult heq
    obtain ⟨first, hfirst, hsame⟩ := htakes.first
    rw [hfirst, Option.some.injEq] at hresult
    rw [← hresult, hsame, hhead] at heq
    exact hne (Option.some.inj heq)
  have hnotReply : recv ≠ .tcReply slotId := by
    rintro rfl
    exact hne rfl
  have haside {s : CiSession} {t' : CiTransport} (ht : CiSession.Treated accept recv { c.session with transport := t } s)
      (hflush : CiTransport.Within (Obs.Apart slotId) s.transport t') : Aside slotId c.session { s with transport := t' } :=
    ⟨(hread.trans (ht.bland.mono fun _ hobs => hobs.apart slotId)).trans hflush, ht.ready slotId hnotReply, .inr hother⟩
  rw [wlp_bind]
  refine wlp_mono (CiSession.dispatchRecv_treated accept recv _) (fun _ s hs => ?_) fun _ s hs => haside hs (.refl _)
  rw [wlp_bind, wlp_zoom]
  have hflush := @CiTransport.within_flush recv.slotId (Obs.Apart slotId) (fun _ _ _ => trivial) s.transport
  exact wlp_mono hflush (fun _ t' ht' => wlp_pure.mpr ⟨fun heq => hne (Option.some.inj heq), haside hs ht'⟩)
    fun _ t' ht' => haside hs ht'

theorem At.heard {accept : UInt8 → Bool} {frame : Bytes} {recv : TransportRecv} {t : CiTransport}
    (h : c.At count slotId slot stage) (hcollected : c.session.events = [])
    (hquiet : stage = .idle ∨ slot.status.Rests ∧ ∃ reply, stage = .heard reply)
    (haccept : slot.status = .creatingTc → accept slotId = false)
    (hmove : CiTransport.Move (.read frame) c.session.transport t)
    (hreceived : received frame c.session.transport.slots = some recv) (hhead : frame.head? = some recv.slotId)
    (hself : recv.slotId = slotId) :
    wlp (do
        CiSession.dispatchRecv accept recv
        zoom CiSession.transportLens (CiTransport.flush recv.slotId)
        pure (some recv.slotId))
      (fun recv s => recv = some slotId ∧ Leads count slotId ⟨slot, c.trace, stage⟩
        (fun _ stage' _ => ∃ reply, stage' = .heard reply) (sessionLens.set s c))
      (fun _ s => Leads count slotId ⟨slot, c.trace, stage⟩
        (fun _ stage' _ => (∃ reply, stage' = .heard reply) ∨ ∃ reply, stage' = .lost reply) (sessionLens.set s c))
      { c.session with transport := t } := by
  subst hself
  let replied : Bool := Tpdu.replies (UInt8.ofNat count) recv.slotId frame
  have hreply : replied = false → recv ≠ .tcReply recv.slotId := by
    intro hquiet heq
    have hreplies : Tpdu.replies (UInt8.ofNat c.session.transport.slots.length) recv.slotId frame = true :=
      replies_of_received (hreceived.trans (congrArg some heq))
    rw [h.length] at hreplies
    exact absurd (hreplies.symm.trans hquiet) (by decide)
  have hnone : .transportReady recv.slotId ∉ c.session.events := by
    rw [hcollected]
    exact List.not_mem_nil
  have hat := @At.moved _ _ _ _ .idle _ t (.heard replied) (h.staged fun _ => hnone) hmove fun _ => rfl
  have hread : SlotStep (UInt8.ofNat count) recv.slotId ⟨slot, c.trace, stage⟩
      ⟨slot, (c.withTransport t).trace, .heard replied⟩ := by
    rw [hat.2]
    exact .read hhead hquiet
  have htreated {s : CiSession} (ht : CiSession.Treated accept recv { c.session with transport := t } s) :
      Leads count recv.slotId ⟨slot, c.trace, stage⟩ (fun slot' stage' _ => slot' = slot ∧ stage' = .heard replied)
        (sessionLens.set s c) := by
    refine (@At.talk (c.withTransport t) count recv.slotId slot (.heard replied) s hat.1
      (ht.bland.mono fun _ hobs => hobs.apart _) (fun hquiet hmem => ?_) fun hcreating => ?_).before (.single hread)
    · refine hat.1.unready hquiet ?_
      exact ht.ready recv.slotId (hreply hquiet) hmem
    · rw [ht.refused (haccept hcreating)]
      rfl
  rw [wlp_bind]
  refine wlp_mono (CiSession.dispatchRecv_treated accept recv _) (fun _ s hs => ?_) fun _ s hs => ?_
  · obtain ⟨slot₁, stage₁, h₁, hpath₁, rfl, rfl⟩ := htreated hs
    rw [wlp_bind]
    have hflush := h₁.flush
    rw [wlp_zoom] at hflush
    rw [wlp_zoom]
    refine wlp_mono hflush (fun _ t' hf => wlp_pure.mpr ⟨rfl, ?_⟩) fun _ t' hr => ?_
    · exact ⟨_, _, h₁.flushed hf, hpath₁.trans (hf.path count _ rfl), replied, rfl⟩
    · exact ((h₁.refused hr (fun hc => hc) (fun _ _ => rfl) rfl).before hpath₁).mono fun _ _ _ hs => .inr hs
  · exact (htreated hs).mono fun _ _ _ hs => .inl ⟨_, hs.2⟩

theorem At.reads {accept : UInt8 → Bool} (h : c.At count slotId slot stage) (hcollected : c.session.events = [])
    (hquiet : stage = .idle ∨ slot.status.Rests ∧ ∃ reply, stage = .heard reply)
    (haccept : slot.status = .creatingTc → accept slotId = false) :
    wlp (CiSession.recvFiltered accept)
      (fun recv s => recv ≠ some slotId ∧ Aside slotId c.session s ∨
        recv = some slotId ∧ Leads count slotId ⟨slot, c.trace, stage⟩
          (fun _ stage' _ => ∃ reply, stage' = .heard reply) (sessionLens.set s c))
      (fun _ s => Aside slotId c.session s ∨ Leads count slotId ⟨slot, c.trace, stage⟩
        (fun _ stage' _ => (∃ reply, stage' = .heard reply) ∨ ∃ reply, stage' = .lost reply) (sessionLens.set s c))
      c.session := by
  have hn : c.session.transport.slots.length ≤ 255 := h.length ▸ h.small
  rw [CiSession.recvFiltered, wlp_bind, wlp_zoom]
  refine wlp_mono (wlp_of_wp (CiTransport.recvApdu_spec hn)) (fun recv t ht => ?_) fun e t ht => ?_
  · rcases ht with ⟨rfl, hmove⟩ | ⟨frame, recv, htakes, hmove, rfl, hreceived, hhead, hlt⟩
    · exact wlp_pure.mpr (.inl ⟨by rintro ⟨⟩, aside_of_move hmove trivial (.inl rfl)⟩)
    · by_cases hself : recv.slotId = slotId
      · exact wlp_mono (h.heard hcollected hquiet haccept hmove hreceived hhead hself) (fun _ _ hl => .inr hl)
          fun _ _ hl => .inr hl
      · exact wlp_mono (aside_of_other hmove htakes hhead hself) (fun _ _ hl => .inl hl) fun _ _ hl => .inl hl
  · rcases ht with ⟨hmove, _⟩ | ⟨frame, htakes, hmove, hlarge⟩
    · exact .inl (aside_of_move hmove trivial (.inl rfl))
    · have hne : frame.head? ≠ some slotId := by
        intro heq
        exact absurd (hlarge slotId heq) (Nat.not_le.mpr h.hasSlot)
      refine .inl (aside_of_move hmove hne (.inr fun result hresult heq => hne ?_))
      obtain ⟨first, hfirst, hsame⟩ := htakes.first
      have hresult' : first = result := Option.some.inj (hfirst.symm.trans hresult)
      rw [← hsame, hresult', heq]

theorem Leads.same {S : ControllerSlot → SlotStage → CiController → Prop} (h : Leads count slotId v S c')
    (known : c'.slots[slotId.toNat]? = some slot) :
    Leads count slotId v (fun slot' stage' c' => slot' = slot ∧ S slot' stage' c') c' :=
  h.mono fun _ _ hat hs => ⟨Option.some.inj (hat.known.symm.trans known), hs⟩

theorem At.recvController (h : c.At count slotId slot stage) (hc : c.Calm)
    (hquiet : stage = .idle ∨ slot.status.Rests ∧ ∃ reply, stage = .heard reply) :
    wlp recvController
      (fun recv => Leads count slotId ⟨slot, c.trace, stage⟩ fun slot' stage' _ =>
        slot' = slot ∧ (recv ≠ some slotId → stage' = stage) ∧ (recv = some slotId → ∃ reply, stage' = .heard reply))
      (fun _ => Leads count slotId ⟨slot, c.trace, stage⟩ fun slot' stage' _ =>
        slot' = slot ∧ (stage' = stage ∨ (∃ reply, stage' = .heard reply) ∨ ∃ reply, stage' = .lost reply)) c := by
  let accept (slotId : UInt8) : Bool :=
    (c.slots.map fun slot => decide (slot.status = .active))[slotId.toNat]?.getD false
  have haccept (slotId : UInt8) (hslot : accept slotId = true) : c.Live slotId := by
    rw [Live, isActive, ← hslot]
    dsimp only [accept]
    rw [List.getElem?_map]
    cases c.slots[slotId.toNat]? <;> rfl
  have hdead (hcreating : slot.status = .creatingTc) : ¬ c.Live slotId := by
    rw [live_of_status h.known, hcreating]
    decide
  let first (other : UInt8) : Prop :=
    ∃ result, c.session.transport.link.reads.head? = some result ∧ result.first = some other
  have hpath := @CiSession.recvFiltered_along c.Live first c.session accept hc.sound.session hc.whole
    (fun other hslot _ => haccept other hslot) fun result hhead other hother => ⟨result, hhead, hother⟩
  have haside {s : CiSession} (hs : CiSession.Path c.Live first c.session s) (ha : Aside slotId c.session s) :
      Leads count slotId ⟨slot, c.trace, stage⟩ (fun slot' stage' _ => slot' = slot ∧ stage' = stage)
        (sessionLens.set s c) := by
    refine h.talk ha.1 (fun hr hmem => h.unready hr (ha.2.1 hmem)) fun hcreating => ?_
    rcases ha.2.2 with hsame | hother
    · exact hsame
    · refine (hs.untouched hc.sound.session (hdead hcreating) ?_).transport
      rintro ⟨result, hhead, hresult⟩
      exact hother result hhead hresult
  have hreads := h.reads hc.collected hquiet fun hcreating => Bool.eq_false_of_not_eq_true fun hslot =>
    hdead hcreating (haccept slotId hslot)
  rw [CiController.recvController, wlp_bind, wlp_get]
  dsimp only
  rw [wlp_zoom]
  refine wlp_mono (wlp_and hreads (wlp_of_wp hpath)) (fun recv s hs => ?_) fun e s hs => ?_
  · rcases hs.1 with ⟨hne, ha⟩ | ⟨hself, hl⟩
    · exact (haside hs.2.1 ha).mono fun _ _ _ hs => ⟨hs.1, fun _ => hs.2, fun heq => absurd heq hne⟩
    · exact (hl.same h.known).mono fun _ _ _ hs => ⟨hs.1, fun hne => absurd hself hne, fun _ => hs.2⟩
  · rcases hs.1 with ha | hl
    · exact (haside hs.2.1 ha).mono fun _ _ _ hs => ⟨hs.1, .inl hs.2⟩
    · exact (hl.same h.known).mono fun _ _ _ hs => ⟨hs.1, .inr hs.2⟩

end Receive

end CiController

end LibDvb
