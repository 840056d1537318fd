import LibDvb.Ca.Session.Dispatch
import LibDvb.Ca.Session.Isolation

namespace LibDvb

open Act Outcome CiSession

def SessionLabel.Delivers (label : SessionLabel) (s : CiSession) (slotId : UInt8) (spdu : Bytes) : Prop :=
  ∃ accept raw, label.op = .recv accept ∧ accept slotId = true ∧
    label.link.reads.head? = some (.frame raw) ∧
    received (raw.take Tpdu.maxTpduSize) s.transport.slots = some (.spdu slotId spdu)

namespace CiSession

variable {s s' s₁ s₂ : CiSession} {slotId : UInt8} {spdu : Bytes} {entries : List Obs}

theorem verdict_congr (hsessions : s₁.sessions = s.sessions) (resourceId : ResourceId) :
    s₁.verdict slotId resourceId = s.verdict slotId resourceId := by
  rw [verdict, verdict, inUse, inUse, hsessions]

theorem entry_congr (hsessions : s₁.sessions = s.sessions) (index : Nat) : s₁.entry index = s.entry index := by
  rw [entry, entry, hsessions]

theorem session_congr (hsessions : s₁.sessions = s.sessions) (sessionId : UInt16) :
    s₁.session sessionId = s.session sessionId := by
  rw [CiSession.session, CiSession.session, hsessions]

theorem freshIndex_congr (hsessions : s₁.sessions = s.sessions) : s₁.freshIndex = s.freshIndex := by
  rw [freshIndex, freshIndex, hsessions]

theorem allocated_congr (hsessions : s₁.sessions = s.sessions) (kind : ResourceKind) :
    (s₁.allocated slotId kind).sessions = (s.allocated slotId kind).sessions := by
  simp only [allocated, freshIndex_congr hsessions, hsessions]

theorem Handled.congr (h : Handled s₁ slotId spdu s₂ entries) (hsessions : s₁.sessions = s.sessions)
    (hresources : s₁.resources = s.resources) (hsessions' : s'.sessions = s₂.sessions)
    (hresources' : s'.resources = s₂.resources) : Handled s slotId spdu s' entries := by
  cases h with
  | opened request granted sessions resources spoken =>
      rw [freshIndex_congr hsessions] at resources spoken ⊢
      refine .opened request (verdict_congr hsessions _ ▸ granted) ?_ ?_ spoken
      · rw [hsessions', sessions, allocated_congr hsessions]
      · rw [hresources', resources, hresources]
  | refused request refused sessions resources =>
      exact .refused request (verdict_congr hsessions _ ▸ refused) (by rw [hsessions', sessions, hsessions])
        (by rw [hresources', resources, hresources])
  | closed request live slot sessions =>
      exact .closed request (entry_congr hsessions _ ▸ live) slot (by rw [hsessions', sessions, hsessions])
  | unknown request unknown sessions =>
      exact .unknown request (session_congr hsessions _ ▸ unknown) (by rw [hsessions', sessions, hsessions])
  | completed response live slot closing final sessions =>
      exact .completed response (entry_congr hsessions _ ▸ live) slot closing final
        (by rw [hsessions', sessions, hsessions])
  | @revived index session status response live slot sessions =>
      refine .revived response (entry_congr hsessions _ ▸ live) slot ?_
      rw [hsessions', sessions, turned, turned, hsessions]
  | @asked index session data objects apdus live slot active spoken sessions =>
      refine .asked apdus (entry_congr hsessions _ ▸ live) slot active spoken ?_
      rw [hsessions', sessions, turned, turned, hsessions]
  | spoken apdus spoken sessions => exact .spoken apdus spoken (by rw [hsessions', sessions, hsessions])
  | ignored open_ close stale sessions resources =>
      refine .ignored open_ close (fun status sessionId session => ?_) (by rw [hsessions', sessions, hsessions])
        (by rw [hresources', resources, hresources])
      rw [← session_congr hsessions]
      exact stale status sessionId session

theorem Interrupted.congr (h : Interrupted s₁ slotId s₂) (hsessions : s₁.sessions = s.sessions)
    (hresources : s₁.resources = s.resources) (hsessions' : s'.sessions = s₂.sessions)
    (hresources' : s'.resources = s₂.resources) : Interrupted s slotId s' := by
  cases h with
  | unchanged sessions resources =>
      exact .unchanged (by rw [hsessions', sessions, hsessions]) (by rw [hresources', resources, hresources])
  | opened granted sessions resources =>
      refine .opened (verdict_congr hsessions _ ▸ granted) ?_ (by rw [hresources', resources, hresources])
      rw [hsessions', sessions, allocated_congr hsessions]

def Responds (slotId : UInt8) (spdu : Bytes) (s s' : CiSession) : Prop :=
  (∃ entries, Handled s slotId spdu s' entries ∧
    Tells (.dispatched slotId spdu :: entries) s.transport.trace s'.transport.trace) ∨
  (Interrupted s slotId s' ∧ Breaks s.transport.trace s'.transport.trace)

structure Still (s s' : CiSession) : Prop where
  sessions : s'.sessions = s.sessions
  resources : s'.resources = s.resources
  tells : Tells [] s.transport.trace s'.transport.trace

theorem Still.refl (s : CiSession) : Still s s := ⟨rfl, rfl, .refl _⟩

theorem Still.trans (h : Still s s₁) (h' : Still s₁ s₂) : Still s s₂ :=
  ⟨h'.sessions.trans h.sessions, h'.resources.trans h.resources, h.tells.trans h'.tells⟩

theorem Alike.still (h : Alike s s') : Still s s' := by
  refine ⟨h.sessions, h.resources, ?_⟩
  rw [h.transport]
  exact .refl _

theorem keeps_flush : Keeps Still (zoom transportLens (CiTransport.flush slotId)) :=
  keeps_zoom CiTransport.keeps_flush fun _ _ h => ⟨rfl, rfl, h⟩

theorem Responds.before (h : Still s s₁) (h' : Responds slotId spdu s₁ s') : Responds slotId spdu s s' := by
  rcases h' with ⟨entries, hhandled, htells⟩ | ⟨hinterrupted, hbreaks⟩
  · exact .inl ⟨entries, hhandled.congr h.sessions h.resources rfl rfl, h.tells.trans htells⟩
  · exact .inr ⟨hinterrupted.congr h.sessions h.resources rfl rfl, h.tells.breaks hbreaks⟩

theorem Responds.after (h : Responds slotId spdu s s₁) (h' : Still s₁ s') : Responds slotId spdu s s' := by
  rcases h with ⟨entries, hhandled, htells⟩ | ⟨hinterrupted, hbreaks⟩
  · have hall := htells.trans h'.tells
    rw [List.append_nil] at hall
    exact .inl ⟨entries, hhandled.congr rfl rfl h'.sessions h'.resources, hall⟩
  · exact .inr ⟨hinterrupted.congr rfl rfl h'.sessions h'.resources, hbreaks.trans h'.tells⟩

theorem Answers.responds (h : Answers slotId spdu
    { s with transport := { s.transport with trace := s.transport.trace ++ [.dispatched slotId spdu] } } s') :
    Responds slotId spdu s s' := by
  have hnote := Tells.note (.dispatched slotId spdu) s.transport.trace
  rcases h with ⟨entries, hhandled, htells⟩ | ⟨hinterrupted, hbreaks⟩
  · exact .inl ⟨entries, hhandled.congr rfl rfl rfl rfl, hnote.trans htells⟩
  · exact .inr ⟨hinterrupted.congr rfl rfl rfl rfl, hnote.breaks hbreaks⟩

section Receive

variable {accept : UInt8 → Bool}

theorem received_slot {frame : Bytes} {slots : List TransportSlot}
    (h : received frame slots = some (.spdu slotId spdu)) :
    frame ≠ [] ∧ frame.head? = some slotId ∧ slotId.toNat < slots.length := by
  obtain ⟨hhead, slot, hslot⟩ := received_known h
  refine ⟨?_, hhead, (List.getElem?_eq_some_iff.mp hslot).1⟩
  rintro rfl
  cases hhead

theorem dispatchRecv_responds {t : CiTransport} {frame : Bytes} (h : s.Consistent)
    (hmove : CiTransport.Move (.read frame) s.transport t)
    (hreceived : received frame s.transport.slots = some (.spdu slotId spdu)) (haccept : accept slotId = true) :
    wlp (dispatchRecv accept (.spdu slotId spdu)) (fun _ => Responds slotId spdu { s with transport := t })
      (fun _ => Responds slotId spdu { s with transport := t }) { s with transport := t } := by
  obtain ⟨_, _, hbound⟩ := received_slot hreceived
  have hallowed : (Obs.dispatched slotId spdu).Allowed t.slots t.trace := by
    refine ⟨s.transport.trace, frame, hmove.trace, ?_⟩
    rw [hmove.length, ← h.faithful.slots]
    exact hreceived
  have hnoted : Consistent { s with
      transport := { t with trace := t.trace ++ [.dispatched slotId spdu] } } :=
    h.linked (.tail (.single ⟨_, trivial, hmove⟩) ⟨_, trivial, CiTransport.move_note _ hallowed rfl⟩)
  have hslot : HasSlot { s with transport := { t with trace := t.trace ++ [.dispatched slotId spdu] } } slotId := by
    constructor
    · rw [← hmove.length] at hbound
      exact hbound
    · rintro rfl
      exact absurd hbound (Nat.not_lt.mpr h.count)
  simp only [dispatchRecv, haccept, if_true]
  rw [wlp_bind, wlp_note]
  exact wlp_mono (dispatchSpdu_answers hnoted hslot) (fun _ _ ha => ha.responds) fun _ _ ha => ha.responds

theorem recvFiltered_responds {raw : Bytes} {rest : List ReadResult} (h : s.Consistent)
    (hreads : s.transport.link.reads = .frame raw :: rest)
    (hreceived : received (raw.take Tpdu.maxTpduSize) s.transport.slots = some (.spdu slotId spdu))
    (haccept : accept slotId = true) :
    wlp (recvFiltered accept) (fun _ => Responds slotId spdu s) (fun _ => Responds slotId spdu s) s := by
  obtain ⟨hne, hhead, hbound⟩ := received_slot hreceived
  rw [recvFiltered, wlp_bind, wlp_zoom]
  refine wlp_mono (wlp_of_wp (CiTransport.recvApdu_frame h.count hreads hne)) (fun recv t ht => ?_)
    fun e t ht => ?_
  · obtain ⟨hmove, r, rfl, hrecv⟩ := ht
    obtain rfl : .spdu slotId spdu = r := Option.some.inj (hreceived.symm.trans hrecv)
    have hstill : Still s { s with transport := t } := ⟨rfl, rfl, [.read _], hmove.trace, fun _ => rfl⟩
    have hresponds := dispatchRecv_responds h hmove hreceived haccept
    dsimp only
    rw [wlp_bind]
    refine wlp_mono hresponds (fun _ s₁ h₁ => ?_) fun _ s₁ h₁ => h₁.before hstill
    rw [wlp_bind]
    exact wlp_mono (keeps_flush s₁) (fun _ s₂ h₂ => wlp_pure.mpr ((h₁.before hstill).after h₂))
      fun _ s₂ h₂ => (h₁.before hstill).after h₂
  · exact absurd hbound (Nat.not_lt.mpr (ht.2 slotId hhead))

theorem recvFiltered_still (h : s.Consistent)
    (hnone : ∀ raw rest slotId spdu, s.transport.link.reads = .frame raw :: rest → accept slotId = true →
      received (raw.take Tpdu.maxTpduSize) s.transport.slots ≠ some (.spdu slotId spdu)) :
    wlp (recvFiltered accept) (fun _ => Still s) (fun _ => Still s) s := by
  rw [recvFiltered, wlp_bind, wlp_zoom]
  refine wlp_mono (wlp_of_wp (CiTransport.recvApdu_spec h.count)) (fun recv t ht => ?_) fun e t ht => ?_
  · rcases ht with ⟨rfl, hmove⟩ | ⟨frame, r, htakes, hmove, rfl, hreceived, _⟩
    · exact wlp_pure.mpr ⟨rfl, rfl, [.noFrame], hmove.trace, fun _ => rfl⟩
    · have hstill : Still s { s with transport := t } := ⟨rfl, rfl, [.read _], hmove.trace, fun _ => rfl⟩
      have hdispatch : wlp (dispatchRecv accept r) (fun _ => Still s) (fun _ => Still s)
          { s with transport := t } := by
        have hevent {e : CaEvent} : wlp (pushEvent e) (fun _ => Still s) (fun _ => Still s)
            { s with transport := t } :=
          wlp_pushEvent.mpr (hstill.trans ⟨rfl, rfl, .refl _⟩)
        cases r with
        | tcReply slotId => exact hevent
        | spdu slotId spdu =>
            obtain ⟨_, raw, hreads, rfl⟩ := htakes
            cases haccept : accept slotId with
            | true => exact absurd hreceived (hnone raw _ slotId spdu hreads haccept)
            | false =>
                simp only [dispatchRecv, haccept, Bool.false_eq_true, if_false]
                exact hevent
        | status slotId => exact wlp_pure.mpr hstill
        | malformed slotId context => exact hevent
      dsimp only
      rw [wlp_bind]
      refine wlp_mono hdispatch (fun _ s₁ h₁ => ?_) fun _ _ h₁ => h₁
      rw [wlp_bind]
      exact wlp_mono (keeps_flush s₁) (fun _ s₂ h₂ => wlp_pure.mpr (h₁.trans h₂)) fun _ s₂ h₂ => h₁.trans h₂
  · rcases ht with ⟨hmove, _⟩ | ⟨frame, _, hmove, _⟩
    · exact ⟨rfl, rfl, [.readFailed e], hmove.trace, fun _ => rfl⟩
    · exact ⟨rfl, rfl, [.read frame], hmove.trace, fun _ => rfl⟩

end Receive

section Programs

structure Announces (u u' : ConditionalAccessResource.Update) : Prop where
  talks : Talks (fun _ _ => True) u.transport.trace u'.transport.trace
  bland : CiTransport.Within Obs.Bland u.transport u'.transport

theorem Announces.refl (u : ConditionalAccessResource.Update) : Announces u u := ⟨.refl .., .refl _⟩

theorem Announces.trans {u u' u'' : ConditionalAccessResource.Update} (h : Announces u u')
    (h' : Announces u' u'') : Announces u u'' := ⟨h.talks.trans h'.talks, h.bland.trans h'.bland⟩

theorem announces_sendCaPmt (sessionId : UInt16) (body : Bytes) :
    Keeps Announces (ConditionalAccessResource.sendCaPmt slotId sessionId body) := by
  intro u
  have hsend : wlp (CiTransport.sendApdu slotId sessionId .caPmt body) _ _ u.transport :=
    wlp_and (CiTransport.sendApdu_talks sessionId .caPmt body u.transport)
      (CiTransport.bland_sendApdu sessionId .caPmt body u.transport)
  exact wlp_zoom.mpr (wlp_mono hsend (fun _ _ ht => ⟨ht.1.mono fun _ _ _ => trivial, ht.2⟩)
    fun _ _ ht => ⟨ht.1.mono fun _ _ _ => trivial, ht.2⟩)

theorem announces_putSelected (sessionId : UInt16) (session : ConditionalAccessSession)
    (selected : KeyMap Program) :
    Keeps Announces (ConditionalAccessResource.putSelected sessionId session selected) :=
  keeps_modify fun _ => ⟨.refl .., .refl _⟩

theorem announces_setProgramOn (program : Program) (sessionId : UInt16) :
    Keeps Announces (ConditionalAccessResource.setProgramOn program sessionId) := by
  apply keeps_bind .trans (keeps_get .refl)
  intro u
  apply keeps_bind .trans (keeps_lift .refl _)
  intro session
  split
  · exact keeps_pure .refl ()
  · apply keeps_bind .trans (keeps_lift .refl _)
    intro object
    split
    · exact keeps_bind .trans (announces_sendCaPmt _ _) fun _ => announces_putSelected _ _ _
    · split
      · exact keeps_pure .refl ()
      · apply keeps_bind .trans (keeps_lift .refl _)
        exact fun _ => keeps_bind .trans (announces_sendCaPmt _ _) fun _ => announces_putSelected _ _ _

theorem announces_setProgram (program : Program) : Keeps Announces (ConditionalAccessResource.setProgram program) := by
  apply keeps_bind .trans (keeps_get .refl)
  intro u
  dsimp only
  split
  · exact keeps_pure .refl []
  · apply keeps_bind .trans
    · exact keeps_modify fun _ => ⟨.refl .., .refl _⟩
    · intro _
      apply keeps_bind .trans
      · exact keeps_forEach .refl .trans fun sessionId _ => announces_setProgramOn program sessionId
      · exact fun _ => keeps_bind .trans (keeps_get .refl) fun _ => keeps_pure .refl _

theorem announces_removeProgramOn (programNumber sessionId : UInt16) :
    Keeps Announces (ConditionalAccessResource.removeProgramOn programNumber sessionId) := by
  apply keeps_bind .trans (keeps_get .refl)
  intro u
  apply keeps_bind .trans (keeps_lift .refl _)
  intro session
  split
  · exact keeps_pure .refl ()
  · split
    · exact keeps_fail .refl _
    · apply keeps_bind .trans (keeps_lift .refl _)
      exact fun _ => keeps_bind .trans (announces_sendCaPmt _ _) fun _ => announces_putSelected _ _ _

theorem announces_removeProgram (programNumber : UInt16) :
    Keeps Announces (ConditionalAccessResource.removeProgram programNumber) := by
  apply keeps_bind .trans (keeps_get .refl)
  intro u
  dsimp only
  split
  · exact keeps_pure .refl []
  · apply keeps_bind .trans
    · exact keeps_modify fun _ => ⟨.refl .., .refl _⟩
    · intro _
      apply keeps_bind .trans
      · exact keeps_forEach .refl .trans fun sessionId _ => announces_removeProgramOn programNumber sessionId
      · exact fun _ => keeps_bind .trans (keeps_get .refl) fun _ => keeps_pure .refl _

end Programs

section Timer

def Recorded (timer : DateTimeResource.Timer) (slotId : UInt8) (sessionId : UInt16) : Prop :=
  timer.self.sessions[sessionId]?.map DateTimeSession.slotId = some slotId

structure Rings (timer timer' : DateTimeResource.Timer) : Prop where
  keys : ∀ sessionId : UInt16, timer'.self.sessions[sessionId]?.map DateTimeSession.slotId =
    timer.self.sessions[sessionId]?.map DateTimeSession.slotId
  talks : Talks (Recorded timer) timer.transport.trace timer'.transport.trace
  carries : CiTransport.Within (Obs.Carries (Recorded timer)) timer.transport timer'.transport

theorem Rings.refl (timer : DateTimeResource.Timer) : Rings timer timer := ⟨fun _ => rfl, .refl .., .refl _⟩

theorem Rings.trans {timer timer' timer'' : DateTimeResource.Timer} (h : Rings timer timer')
    (h' : Rings timer' timer'') : Rings timer timer'' where
  keys sessionId := (h'.keys sessionId).trans (h.keys sessionId)
  talks := h.talks.trans (h'.talks.mono fun _ sessionId hslot => (h.keys sessionId).symm.trans hslot)
  carries := h.carries.trans (h'.carries.mono fun _ hobs =>
    hobs.mono fun _ sessionId hslot => (h.keys sessionId).symm.trans hslot)

theorem putSent_rings {timer : DateTimeResource.Timer} {sessionId : UInt16} {record : DateTimeSession}
    (known : timer.self.sessions[sessionId]?.map DateTimeSession.slotId = some record.slotId) (now : Instant) :
    wlp (DateTimeResource.putSent sessionId record now) (fun _ => Rings timer) (fun _ => Rings timer) timer := by
  refine wlp_modify.mpr ⟨fun other => ?_, .refl .., .refl _⟩
  rw [KeyMap.get_insert]
  split
  · next heq =>
      rw [← heq, known]
      rfl
  · rfl

structure SpeaksOn (slotId : UInt8) (sessionId : UInt16) (t t' : CiTransport) : Prop where
  talks : Talks (OnSession slotId sessionId) t.trace t'.trace
  carries : CiTransport.Within (Obs.Carries (OnSession slotId sessionId)) t t'

theorem tickSession_rings (now : Instant) (sessionId : UInt16) :
    Keeps Rings (DateTimeResource.tickSession now sessionId) := by
  intro timer
  rw [DateTimeResource.tickSession, wlp_bind, wlp_get]
  split
  · exact wlp_pure.mpr (.refl timer)
  · next record hknown =>
      have known : timer.self.sessions[sessionId]?.map DateTimeSession.slotId = some record.slotId := by
        rw [hknown]
        rfl
      split
      · exact wlp_pure.mpr (.refl timer)
      · split
        · exact putSent_rings known now
        · split
          · exact wlp_pure.mpr (.refl timer)
          · rw [wlp_bind, wlp_zoom]
            have hsend : wlp (do
                let body ← DateTimeResource.nowBody
                CiTransport.sendApdu record.slotId sessionId .dateTime body)
                (fun _ => SpeaksOn record.slotId sessionId timer.transport)
                (fun _ => SpeaksOn record.slotId sessionId timer.transport) timer.transport := by
              rw [wlp_bind, DateTimeResource.nowBody, wlp_bind, wlp_zoom]
              have hany : wlp CaDevice.systemTime (fun _ _ => True) (fun _ _ => True) timer.transport.link :=
                ⟨fun _ _ => trivial, fun _ _ => trivial⟩
              refine wlp_mono hany (fun _ link _ => wlp_pure.mpr ?_) fun _ _ _ => ⟨.refl .., .refl _⟩
              exact wlp_mono (wlp_and (CiTransport.sendApdu_talks _ _ _ _) (CiTransport.sendApdu_carries _ _ _ _))
                (fun _ _ ht => ⟨ht.1, ht.2⟩) fun _ _ ht => ⟨ht.1, ht.2⟩
            have hrings {t : CiTransport} (ht : SpeaksOn record.slotId sessionId timer.transport t) :
                Rings timer { timer with transport := t } := by
              have hrecorded : ∀ slot session, OnSession record.slotId sessionId slot session →
                  Recorded timer slot session := by
                rintro _ _ ⟨rfl, rfl⟩
                exact known
              exact ⟨fun _ => rfl, ht.talks.mono hrecorded, ht.carries.mono fun _ hobs => hobs.mono hrecorded⟩
            refine wlp_mono hsend (fun _ t ht => ?_) fun _ t ht => hrings ht
            exact wlp_mono (@putSent_rings { timer with transport := t } _ _ known now)
              (fun _ _ hs => (hrings ht).trans hs) fun _ _ hs => (hrings ht).trans hs

theorem onTick_rings (now : Instant) : Keeps Rings (DateTimeResource.onTick now) :=
  keeps_bind .trans (keeps_get .refl) fun _ => keeps_forEach .refl .trans fun _ _ => tickSession_rings now _

end Timer

section Commands

theorem chats_sendApdu {sessionId : UInt16} (tag : ApduTag) (body : Bytes) :
    Keeps (Chats fun _ _ => True) (sendApdu slotId sessionId tag body) := by
  intro s
  have hsend : wlp (CiTransport.sendApdu slotId sessionId tag body) _ _ s.transport :=
    wlp_and (wlp_and (CiTransport.sendApdu_talks sessionId tag body s.transport)
      (CiTransport.sameLength_sendApdu sessionId tag body s.transport))
      (CiTransport.bland_sendApdu sessionId tag body s.transport)
  exact wlp_zoom.mpr (wlp_mono hsend
    (fun _ _ ht => ⟨rfl, ht.1.1.mono fun _ _ _ => trivial, ht.1.2, ht.2, fun _ _ h => h⟩)
    fun _ _ ht => ⟨rfl, ht.1.1.mono fun _ _ _ => trivial, ht.1.2, ht.2, fun _ _ h => h⟩)

theorem chats_findSession {resourceId : ResourceId} {m : UInt16 → Act Error CiSession Unit}
    (hm : ∀ sessionId, Keeps (Chats fun _ _ => True) (m sessionId)) :
    Keeps (Chats fun _ _ => True) (findSession slotId resourceId >>= m) := by
  refine keeps_bind .trans ?_ hm
  apply keeps_bind .trans (keeps_get .refl)
  intro s
  split
  · exact keeps_pure .refl _
  · exact keeps_fail .refl _

theorem chats_requireSession {sessionId : UInt16} {resourceId : ResourceId} {m : Act Error CiSession Unit}
    (hm : Keeps (Chats fun _ _ => True) m) :
    Keeps (Chats fun _ _ => True) (requireSession slotId sessionId resourceId >>= fun _ => m) := by
  refine keeps_bind .trans ?_ fun _ => hm
  apply keeps_bind .trans (keeps_get .refl)
  intro s
  split
  · exact keeps_pure .refl _
  · exact keeps_fail .refl _

theorem chats_enterMenu : Keeps (Chats fun _ _ => True) (enterMenu slotId) := by
  apply keeps_bind .trans (keeps_get .refl)
  intro s
  dsimp only
  split
  · exact chats_sendApdu _ _
  · exact chats_findSession fun _ => chats_sendApdu _ _

theorem sendTpdu_commands (tag : TpduTag) : Keeps (fun s s' : CiSession => s'.sessions = s.sessions ∧
    s'.resources = s.resources ∧ (Tells [] s.transport.trace s'.transport.trace ∨
      Tells [.queued slotId (Tpdu.frameOf slotId tag [])] s.transport.trace s'.transport.trace))
    (zoom transportLens (CiTransport.sendTpdu slotId tag [])) := by
  intro s
  rw [wlp_zoom]
  by_cases hs : slotId.toNat < s.transport.slots.length
  · cases hbuild : Tpdu.build slotId tag [] with
    | ok frame =>
        exact wlp_mono (CiTransport.sendTpdu_tells hs ⟨frame, hbuild⟩) (fun _ _ ht => ⟨rfl, rfl, .inr ht.1⟩)
          fun _ _ ht => ⟨rfl, rfl, .inl ht.tells⟩
    | err e =>
        rw [CiTransport.sendTpdu, wlp_bind]
        refine wlp_of_wp ((CiTransport.wp_checkSlot hs).mpr ?_)
        rw [hbuild, wlp_bind, wlp_lift]
        exact ⟨by rintro _ ⟨⟩, fun _ _ => ⟨rfl, rfl, .inl (.refl _)⟩⟩
    | panic => exact absurd hbuild (Tpdu.build_ne_panic _ _ _)
  · refine wlp_mono (CiTransport.sendTpdu_invalid tag [] (.inr hs)) (fun _ _ hf => hf.elim) fun _ t ht => ?_
    rw [ht]
    exact ⟨rfl, rfl, .inl (.refl _)⟩

end Commands

end CiSession

inductive Stepped (s : CiSession) (label : SessionLabel) (s' : CiSession) : Prop
  | responded {slotId spdu} (delivers : label.Delivers s slotId spdu) (responds : Responds slotId spdu s s')
  | talked (sessions : s'.sessions = s.sessions)
      (talks : Talks (fun _ _ => True) s.transport.trace s'.transport.trace)
  | dropped {slotId} (op : label.op = .dropSlot slotId)
      (kept : ∀ index session, s'.entry index = some session ↔
        s.entry index = some session ∧ session.slotId ≠ slotId)
      (tells : Tells [] s.transport.trace s'.transport.trace)
  | commanded {slotId tag} (sessions : s'.sessions = s.sessions)
      (tells : Tells [.queued slotId (Tpdu.frameOf slotId tag [])] s.transport.trace s'.transport.trace)

section Step

variable {s s' : CiSession} {label : SessionLabel} {slotId : UInt8} {spdu : Bytes}

theorem still_called (s : CiSession) (link : CaDevice) : Still s (s.called link) :=
  ⟨rfl, rfl, [.called], rfl, fun _ => rfl⟩

theorem SessionStep.responds (h : s.Consistent) (hstep : SessionStep s label s')
    (hd : label.Delivers s slotId spdu) : Responds slotId spdu s s' := by
  obtain ⟨accept, raw, hop, haccept, hhead, hreceived⟩ := hd
  obtain ⟨rest, hreads⟩ := List.head?_eq_some_iff.mp hhead
  have hresponds := recvFiltered_responds (h.called label.link) hreads hreceived haccept
  rw [SessionStep, hop] at hstep
  have hafter : Responds slotId spdu (s.called label.link) s' :=
    wlp_result (wlp_map.mpr hresponds) hstep
  exact hafter.before (still_called s label.link)

theorem CiSession.Still.stepped (h : Still s s') : Stepped s label s' :=
  .talked h.sessions ⟨[], .nil _, h.tells⟩

theorem Stepped.of_talks {P : UInt8 → UInt16 → Prop} {link : CaDevice} (sessions : s'.sessions = s.sessions)
    (talks : Talks P (s.called link).transport.trace s'.transport.trace) : Stepped s label s' := by
  obtain ⟨entries, hobjects, htells⟩ := talks
  exact .talked sessions ⟨entries, hobjects.mono fun _ _ _ => trivial, (still_called s link).tells.trans htells⟩

theorem SessionStep.dropped (h : s.Consistent) (hstep : SessionStep s label s')
    (hop : label.op = .dropSlot slotId) : Stepped s label s' := by
  have hc := h.called label.link
  have hothers : ∀ other, other ≠ slotId → Untouched other (s.called label.link) s' := fun other hne =>
    (hstep.path_slot h (.dropSlot hop)).untouched hc hne hne
  have hgone : Tells [] (s.called label.link).transport.trace s'.transport.trace ∧
      ∀ index session, s'.entry index = some session → session.slotId ≠ slotId := by
    rw [SessionStep, hop] at hstep
    by_cases hs : slotId.toNat < (s.called label.link).transport.slots.length
    · have hdropped : Dropped slotId (s.called label.link) s' :=
        wlp_result (wlp_of_wp (wp_mono (dropSlot_along (A := fun _ => True) (V := fun _ => True) hc trivial hs)
          (fun _ _ hd => hd.2) fun _ _ hf => hf.2.elim)) hstep
      exact ⟨⟨[.cleared slotId], hdropped.trace, fun _ => rfl⟩, fun index session hlive =>
        (hdropped.kept index session hlive).2⟩
    · have hsame : s' = s.called label.link :=
        wlp_result (P := (· = s.called label.link)) (wlp_of_wp (wp_mono (dropSlot_invalid hc hs)
          (fun _ _ heq => heq) fun _ _ hf => hf.elim)) hstep
      subst hsame
      refine ⟨.refl _, fun index session hlive => ?_⟩
      rintro rfl
      exact hs (hc.live index session hlive).1
  refine .dropped hop (fun index session => ?_) ((still_called s label.link).tells.trans hgone.1)
  constructor
  · intro hlive
    have hne := hgone.2 index session hlive
    exact ⟨((hothers session.slotId hne).entries index session rfl).mp hlive, hne⟩
  · rintro ⟨hlive, hne⟩
    exact ((hothers session.slotId hne).entries index session rfl).mpr hlive

theorem SessionStep.rings {now : Instant} (hstep : SessionStep s label s') (hop : label.op = .tickAt now) :
    s'.sessions = s.sessions ∧ Rings (timerLens.get (s.called label.link)) (timerLens.get s') := by
  rw [SessionStep, hop] at hstep
  exact wlp_result (P := fun s' => s'.sessions = s.sessions ∧
    Rings (timerLens.get (s.called label.link)) (timerLens.get s'))
    (wlp_zoom.mpr (wlp_mono (onTick_rings now _) (fun _ _ ht => ⟨rfl, ht⟩) fun _ _ ht => ⟨rfl, ht⟩)) hstep

theorem SessionStep.stepped (h : s.Consistent) (hstep : SessionStep s label s') : Stepped s label s' := by
  have hstill := still_called s label.link
  have hchats {m : Act Error CiSession Unit} (hm : Keeps (Chats fun _ _ => True) m)
      (hrun : label.op.run = m) : Stepped s label s' := by
    rw [SessionStep, hrun] at hstep
    have hafter : Chats (fun _ _ => True) (s.called label.link) s' := wlp_result (hm _) hstep
    exact .of_talks hafter.sessions hafter.talks
  have hannounced {α : Type} {m : Act Error ConditionalAccessResource.Update α} (hm : Keeps Announces m)
      (hrun : label.op.run = (fun _ => ()) <$> zoom updateLens m) : Stepped s label s' := by
    rw [SessionStep, hrun] at hstep
    have hupdate : wlp (zoom updateLens m)
        (fun _ s₁ => s₁.sessions = s.sessions ∧
          Talks (fun _ _ => True) (s.called label.link).transport.trace s₁.transport.trace)
        (fun _ s₁ => s₁.sessions = s.sessions ∧
          Talks (fun _ _ => True) (s.called label.link).transport.trace s₁.transport.trace) (s.called label.link) := by
      rw [wlp_zoom]
      exact wlp_mono (hm _) (fun _ _ hu => ⟨rfl, hu.talks⟩) fun _ _ hu => ⟨rfl, hu.talks⟩
    have hafter := wlp_result (wlp_map.mpr hupdate) hstep
    exact .of_talks hafter.1 hafter.2
  have hkept (hafter : wlp label.op.run (fun _ => Still (s.called label.link)) (fun _ => Still (s.called label.link))
      (s.called label.link)) : Stepped s label s' := by
    have hlast : Still (s.called label.link) s' := wlp_result hafter hstep
    exact (hstill.trans hlast).stepped
  cases hop : label.op with
  | recv accept =>
      by_cases hd : ∃ slotId spdu, label.Delivers s slotId spdu
      · obtain ⟨slotId, spdu, hd⟩ := hd
        exact .responded hd (hstep.responds h hd)
      · apply hkept
        rw [hop]
        refine wlp_map.mpr (recvFiltered_still (h.called label.link) ?_)
        intro raw rest slotId spdu hreads haccept hreceived
        exact hd ⟨slotId, spdu, accept, raw, hop, haccept, List.head?_eq_some_iff.mpr ⟨rest, hreads⟩, hreceived⟩
  | tickAt now =>
      have hafter := hstep.rings hop
      exact .of_talks hafter.1 hafter.2.talks
  | dropSlot slotId => exact hstep.dropped h hop
  | nextEvent =>
      apply hkept
      rw [hop]
      refine wlp_map.mpr ?_
      rw [CiSession.nextEvent, wlp_bind, wlp_get]
      split
      · exact wlp_pure.mpr (.refl _)
      · exact wlp_bind.mpr (wlp_modify.mpr (wlp_pure.mpr ⟨rfl, rfl, .refl _⟩))
  | setProgram program => exact hannounced (announces_setProgram program) (by rw [hop]; rfl)
  | removeProgram programNumber => exact hannounced (announces_removeProgram programNumber) (by rw [hop]; rfl)
  | enterMenu slotId => exact hchats chats_enterMenu (by rw [hop, SessionOp.run])
  | mmiMenuAnswer slotId sessionId choice =>
      exact hchats (chats_requireSession (chats_sendApdu _ _)) (by rw [hop]; rfl)
  | mmiAnswer slotId sessionId answer =>
      exact hchats (chats_requireSession (chats_sendApdu _ _)) (by rw [hop]; rfl)
  | mmiClose slotId sessionId =>
      exact hchats (chats_requireSession (chats_sendApdu _ _)) (by rw [hop]; rfl)
  | askRelease slotId =>
      exact hchats (chats_findSession fun _ => chats_sendApdu _ _) (by rw [hop]; rfl)
  | sendTpdu slotId tag =>
      rw [SessionStep, hop] at hstep
      have hafter := wlp_result (@sendTpdu_commands slotId tag _) hstep
      obtain ⟨hsessions, _, hquiet | htells⟩ := hafter
      · exact .of_talks (P := fun _ _ => True) hsessions ⟨[], .nil _, hquiet⟩
      · exact .commanded hsessions (hstill.tells.trans htells)
  | flush slotId =>
      apply hkept
      rw [hop]
      exact keeps_flush _
  | takeDataPending slotId =>
      apply hkept
      rw [hop]
      refine wlp_map.mpr (wlp_zoom.mpr ?_)
      rw [CiTransport.takeDataPending, wlp_bind, wlp_get]
      split
      · rw [wlp_bind]
        refine CiTransport.wlp_modifySlot ?_
        rw [wlp_bind, CiTransport.wlp_note, wlp_pure]
        exact ⟨rfl, rfl, .note _ _⟩
      · exact wlp_pure.mpr ⟨rfl, rfl, .refl _⟩

theorem SessionStep.trace_initial (h : s.Consistent) (hstep : SessionStep s label s') :
    s.transport.trace <+: s'.transport.trace := by
  have hbefore {entries : List Obs} (htells : Tells entries s.transport.trace s'.transport.trace) :
      s.transport.trace <+: s'.transport.trace := by
    obtain ⟨delta, htrace, _⟩ := htells
    exact ⟨delta, htrace.symm⟩
  cases hstep.stepped h with
  | responded delivers responds =>
      rcases responds with ⟨_, _, htells⟩ | ⟨_, delta, htrace, _⟩
      · exact hbefore htells
      · exact ⟨delta, htrace.symm⟩
  | talked sessions talks =>
      obtain ⟨_, _, htells⟩ := talks
      exact hbefore htells
  | dropped op kept tells => exact hbefore tells
  | commanded sessions tells => exact hbefore tells

end Step

end LibDvb
