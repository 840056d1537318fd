import LibDvb.Ca.Session.Dispatch

namespace LibDvb

open Act Outcome

-- The entry is a remark of the layers above the transport.
def Obs.Aside : Obs → Prop
  | .dispatched _ _ => True
  | .activated _ => True
  | .slotInfo _ => True
  | .reset _ => True
  | _ => False

-- A relation of transports that every call of the layers above keeps.
structure Habit (R : CiTransport → CiTransport → Prop) : Prop where
  refl : ∀ t, R t t
  trans : ∀ {t u v}, R t u → R u v → R t v
  outside : ∀ (t : CiTransport) callback, R t { t with callback }
  clock : Keeps R (zoom CiTransport.linkLens CaDevice.systemTime)
  restart : Keeps R (zoom CiTransport.linkLens CaDevice.reset)
  slotInfo : ∀ slotId, Keeps R (zoom CiTransport.linkLens (CaDevice.readSlotInfo slotId))
  aside : ∀ obs : Obs, obs.Aside → Keeps R (CiTransport.note obs)
  flush : ∀ slotId, Keeps R (CiTransport.flush slotId)
  command : ∀ slotId, ∀ tag ∈ [TpduTag.rcv, .createTc, .dataLast], Keeps R (CiTransport.sendTpdu slotId tag [])
  object : ∀ slotId sessionId (tag : ApduTag) body, tag.raw.toNat < 0x1000000 →
    Keeps R (CiTransport.sendApdu slotId sessionId tag body)
  granted : ∀ slotId resourceId sessionId, Keeps R (do
    CiTransport.sendSpdu slotId (Spdu.buildOpenSessionResponse Spdu.ssOk resourceId sessionId)
    CiTransport.note (.opened slotId sessionId))
  refused : ∀ slotId status resourceId, status ≠ Spdu.ssOk →
    Keeps R (CiTransport.sendSpdu slotId (Spdu.buildOpenSessionResponse status resourceId 0))
  closing : ∀ slotId sessionId, Keeps R (CiTransport.sendSpdu slotId (Spdu.buildCloseSessionRequest sessionId))
  closed : ∀ slotId status sessionId,
    Keeps R (CiTransport.sendSpdu slotId (Spdu.buildCloseSessionResponse status sessionId))
  received : Keeps R CiTransport.recvApdu
  taken : ∀ slotId, Keeps R (CiTransport.takeDataPending slotId)
  cleared : ∀ slotId, Keeps R (CiTransport.clearSlot slotId)

def Over {σ : Type} (R : CiTransport → CiTransport → Prop) (on : σ → CiTransport) (s s' : σ) : Prop := R (on s) (on s')

namespace Habit

variable {R : CiTransport → CiTransport → Prop} {σ τ α β : Type} {on : σ → CiTransport}

section Actions

theorem still (h : Habit R) (s : σ) : Over R on s s := h.refl (on s)

theorem chain (h : Habit R) {s s' s'' : σ} (hs : Over R on s s') (hs' : Over R on s' s'') : Over R on s s'' :=
  h.trans hs hs'

theorem pure (h : Habit R) (a : α) : Keeps (Over R on) (Pure.pure a : Act Error σ α) :=
  keeps_pure h.still a

theorem fail (h : Habit R) (e : Error) : Keeps (Over R on) (Act.fail e : Act Error σ α) :=
  keeps_fail h.still e

theorem lift (h : Habit R) (o : Outcome Error α) : Keeps (Over R on) (Act.lift o : Act Error σ α) :=
  keeps_lift h.still o

theorem bind (h : Habit R) {m : Act Error σ α} {f : α → Act Error σ β} (hm : Keeps (Over R on) m)
    (hf : ∀ a, Keeps (Over R on) (f a)) : Keeps (Over R on) (m >>= f) := keeps_bind h.chain hm hf

theorem get (h : Habit R) {f : σ → Act Error σ β} (hf : ∀ s, Keeps (Over R on) (f s)) :
    Keeps (Over R on) (Act.get >>= f) := h.bind (keeps_get h.still) hf

theorem modify (h : Habit R) {f : σ → σ} (hf : ∀ s, on (f s) = on s) :
    Keeps (Over R on) (Act.modify f : Act Error σ Unit) := by
  refine keeps_modify fun s => ?_
  rw [Over, hf]
  exact h.refl _

theorem forEach (h : Habit R) {xs : List α} {f : α → Act Error σ Unit} (hf : ∀ x ∈ xs, Keeps (Over R on) (f x)) :
    Keeps (Over R on) (Act.forEach xs f) := keeps_forEach h.still h.chain hf

theorem zoom {l : Lens σ τ} {m : Act Error τ α} (inner : τ → CiTransport) (hm : Keeps (Over R inner) m)
    (hget : ∀ s, inner (l.get s) = on s) (hset : ∀ t s, on (l.set t s) = inner t) : Keeps (Over R on) (Act.zoom l m) := by
  refine keeps_zoom hm fun s t ht => ?_
  rw [Over, hget] at ht
  rw [Over, hset]
  exact ht

theorem transport {l : Lens σ CiTransport} {m : Act Error CiTransport α} (hm : Keeps R m)
    (hget : ∀ s, l.get s = on s) (hset : ∀ t s, on (l.set t s) = t) : Keeps (Over R on) (Act.zoom l m) :=
  zoom (fun t => t) hm hget hset

theorem pair (h : Habit R) {m n : Act Error σ Unit} {f : Unit → Act Error σ β}
    (hm : Keeps (Over R on) (m >>= fun _ => n)) (hf : ∀ a, Keeps (Over R on) (f a)) :
    Keeps (Over R on) (m >>= fun _ => n >>= f) := by
  intro s
  have hboth := h.bind hm hf s
  simp only [wlp_bind] at hboth ⊢
  exact hboth

end Actions

section Resources

variable {P : Type}

theorem sendApdu (h : Habit R) {tag : ApduTag} (htag : tag.raw.toNat < 0x1000000) (body : Bytes) :
    Keeps (Over R ResourceContext.transport) (ResourceContext.sendApdu tag body : Act Error (ResourceContext P) Unit) :=
  h.get fun ctx => transport (h.object ctx.slotId ctx.sessionId tag body htag) (fun _ => rfl) fun _ _ => rfl

theorem update (h : Habit R) (f : P → P) : Keeps (Over R ResourceContext.transport) (ResourceContext.update f) :=
  h.modify fun _ => rfl

theorem event (h : Habit R) (e : CaEvent) :
    Keeps (Over R ResourceContext.transport) (ResourceContext.event e : Act Error (ResourceContext P) Unit) :=
  h.modify fun _ => rfl

theorem nowBody (h : Habit R) : Keeps R DateTimeResource.nowBody := by
  have hread : Keeps (Over R fun t => t) (Act.zoom CiTransport.linkLens CaDevice.systemTime) := h.clock
  exact h.bind hread fun _ => h.pure _

theorem rm_onApdu (h : Habit R) (tag : ApduTag) :
    Keeps (Over R ResourceContext.transport) (ResourceManager.onApdu tag) := by
  apply h.get
  intro ctx
  split
  · exact h.sendApdu (by decide) _
  · split
    · exact h.sendApdu (by decide) _
    · split
      · exact h.sendApdu (by decide) _
      · exact h.fail _

theorem applicationInfo_onApdu (h : Habit R) (tag : ApduTag) (body : Bytes) :
    Keeps (Over R ResourceContext.transport) (ApplicationInfoResource.onApdu tag body) := by
  apply h.get
  intro ctx
  split
  · apply h.bind (h.lift _)
    intro info
    split
    · exact h.fail _
    · exact h.bind (h.update _) fun _ => h.event _
  · exact h.fail _

theorem selectPrograms (h : Habit R) (caids : List UInt16) (programs : List (UInt16 × Program)) : ∀ selected,
    Keeps (Over R ResourceContext.transport) (ConditionalAccessResource.selectPrograms caids selected programs) := by
  induction programs with
  | nil => exact fun selected => h.pure selected
  | cons entry rest ih =>
      intro selected
      rw [ConditionalAccessResource.selectPrograms]
      apply h.bind (h.lift _)
      intro object
      cases object with
      | none => exact ih selected
      | some body => exact h.bind (h.sendApdu (by decide) _) fun _ => ih _

theorem withdrawPrograms (h : Habit R) (caids : List UInt16) (programs : List (UInt16 × Program)) :
    Keeps (Over R ResourceContext.transport) (ConditionalAccessResource.withdrawPrograms caids programs) := by
  induction programs with
  | nil => exact h.pure ()
  | cons entry rest ih =>
      rw [ConditionalAccessResource.withdrawPrograms]
      apply h.bind (h.lift _)
      intro object
      cases object with
      | none => exact h.bind (h.pure ()) fun _ => ih
      | some body => exact h.bind (h.sendApdu (by decide) _) fun _ => ih

theorem putSession (h : Habit R) (session : ConditionalAccessSession) :
    Keeps (Over R ResourceContext.transport) (ConditionalAccessResource.putSession session) :=
  h.get fun _ => h.update _

theorem synchronizeSession (h : Habit R) (session : ConditionalAccessSession) (caids : List UInt16) :
    Keeps (Over R ResourceContext.transport) (ConditionalAccessResource.synchronizeSession session caids) := by
  apply h.get
  intro ctx
  apply h.bind (h.putSession _)
  intro _
  apply h.bind (h.selectPrograms caids _ _)
  intro selected
  dsimp only
  split
  · split
    · exact h.bind (h.withdrawPrograms _ _) fun _ => h.putSession _
    · exact h.putSession _
  · exact h.putSession _

theorem conditionalAccess_onApdu (h : Habit R) (tag : ApduTag) (body : Bytes) :
    Keeps (Over R ResourceContext.transport) (ConditionalAccessResource.onApdu tag body) := by
  apply h.get
  intro ctx
  split
  · apply h.bind (h.lift _)
    intro caids
    split
    · exact h.fail _
    · exact h.bind (h.synchronizeSession _ _) fun _ => h.event _
  · split
    · exact h.pure ()
    · exact h.fail _

theorem hostControl_onApdu (h : Habit R) (tag : ApduTag) (body : Bytes) :
    Keeps (Over R ResourceContext.transport) (HostControlResource.onApdu tag body) := by
  apply h.get
  intro ctx
  split
  · exact h.bind (h.lift _) fun _ => h.event _
  · split
    · exact h.bind (h.lift _) fun _ => h.event _
    · split
      · exact h.bind (h.lift _) fun _ => h.event _
      · exact h.fail _

theorem sendNow (h : Habit R) : Keeps (Over R ResourceContext.transport) DateTimeResource.sendNow :=
  h.bind (transport h.nowBody (fun _ => rfl) fun _ _ => rfl) fun _ => h.sendApdu (by decide) _

theorem dateTime_onApdu (h : Habit R) (tag : ApduTag) (body : Bytes) :
    Keeps (Over R ResourceContext.transport) (DateTimeResource.onApdu tag body) := by
  apply h.get
  intro ctx
  dsimp only
  split
  · split
    · exact h.bind (h.update _) fun _ => h.sendNow
    · exact h.sendNow
  · exact h.fail _

theorem takeObject (h : Habit R) (last : Bytes) :
    Keeps (Over R ResourceContext.transport) (MmiResource.takeObject last) := by
  apply h.get
  intro ctx
  split
  · exact h.bind (h.update _) fun _ => h.pure _
  · exact h.pure _

theorem onMore (h : Habit R) (body : Bytes) : Keeps (Over R ResourceContext.transport) (MmiResource.onMore body) := by
  apply h.get
  intro ctx
  dsimp only
  split
  · exact h.bind (h.update _) fun _ => h.fail _
  · exact h.update _

theorem mmi_onApdu (h : Habit R) (tag : ApduTag) (body : Bytes) :
    Keeps (Over R ResourceContext.transport) (MmiResource.onApdu tag body) := by
  apply h.get
  intro ctx
  split
  · exact h.onMore _
  · split
    · exact h.bind (h.event _) fun _ => h.modify fun _ => rfl
    · split
      · exact h.sendApdu (by decide) _
      · split
        · exact h.bind (h.takeObject _) fun _ => h.event _
        · split
          · exact h.bind (h.lift _) fun _ => h.event _
          · split
            · exact h.bind (h.takeObject _) fun _ => h.bind (h.lift _) fun _ => h.event _
            · split
              · exact h.bind (h.takeObject _) fun _ => h.bind (h.lift _) fun _ => h.event _
              · exact h.fail _

theorem context {l : Lens ResourceRegistry P} {m : Act Error (ResourceContext P) α}
    (hm : Keeps (Over R ResourceContext.transport) m) :
    Keeps (Over R ResourceContext.transport) (Act.zoom (ResourceRegistry.contextLens l) m) :=
  zoom ResourceContext.transport hm (fun _ => rfl) fun _ _ => rfl

theorem onApdu (h : Habit R) (kind : ResourceKind) (tag : ApduTag) (body : Bytes) :
    Keeps (Over R ResourceContext.transport) (ResourceRegistry.onApdu kind tag body) := by
  cases kind with
  | rm => exact context (h.rm_onApdu tag)
  | applicationInfo => exact context (h.applicationInfo_onApdu tag body)
  | conditionalAccess => exact context (h.conditionalAccess_onApdu tag body)
  | hostControl => exact context (h.hostControl_onApdu tag body)
  | dateTime => exact context (h.dateTime_onApdu tag body)
  | mmi => exact context (h.mmi_onApdu tag body)

theorem onOpen (h : Habit R) (kind : ResourceKind) :
    Keeps (Over R ResourceContext.transport) (ResourceRegistry.onOpen kind) := by
  cases kind with
  | rm => exact context (h.sendApdu (by decide) _)
  | applicationInfo => exact context (h.get fun _ => h.bind (h.update _) fun _ => h.sendApdu (by decide) _)
  | conditionalAccess => exact context (h.get fun _ => h.bind (h.putSession _) fun _ => h.sendApdu (by decide) _)
  | hostControl => exact h.pure ()
  | dateTime => exact context (h.get fun _ => h.bind (h.update _) fun _ => h.sendNow)
  | mmi => exact h.pure ()

end Resources

section Session

variable {slotId : UInt8} {sessionId : UInt16}

open CiSession

theorem session {m : Act Error CiTransport α} (h : Keeps R m) :
    Keeps (Over R CiSession.transport) (Act.zoom CiSession.transportLens m) :=
  transport h (fun _ => rfl) fun _ _ => rfl

theorem sessionPair (h : Habit R) {m n : Act Error CiTransport Unit} {f : Unit → Act Error CiSession β}
    (hm : Keeps R (m >>= fun _ => n)) (hf : ∀ a, Keeps (Over R CiSession.transport) (f a)) :
    Keeps (Over R CiSession.transport) (Act.zoom CiSession.transportLens m >>= fun _ =>
      Act.zoom CiSession.transportLens n >>= f) := by
  refine h.pair (fun s => ?_) hf
  have hboth := session hm s
  simp only [wlp_bind, wlp_zoom] at hboth ⊢
  exact hboth

theorem pushEvent (h : Habit R) (e : CaEvent) : Keeps (Over R CiSession.transport) (CiSession.pushEvent e) :=
  h.modify fun _ => rfl

theorem runCallback (h : Habit R) {m : Act Error (ResourceContext ResourceRegistry) Unit}
    (hm : Keeps (Over R ResourceContext.transport) m) :
    Keeps (Over R CiSession.transport) (CiSession.runCallback slotId sessionId m) := by
  intro s
  have hinside : R s.transport { s.transport with callback := true } := h.outside s.transport true
  have hafter (ctx : ResourceContext ResourceRegistry) (hctx : R { s.transport with callback := true } ctx.transport) :
      R s.transport { ctx.transport with callback := false } :=
    h.trans (h.trans hinside hctx) (h.outside ctx.transport false)
  exact wlp_runCallback.mpr (wlp_mono (hm (s.context slotId sessionId)) (fun _ ctx hctx => hafter ctx hctx)
    fun _ ctx hctx => hafter ctx hctx)

theorem resourceResult (h : Habit R) (result : Except Error Unit) :
    Keeps (Over R CiSession.transport) (CiSession.resourceResult slotId result) := by
  unfold CiSession.resourceResult
  split
  · exact h.pure ()
  · exact h.pushEvent _
  · exact h.fail _

theorem verdict_refuses {s : CiSession} {resourceId : ResourceId} {status : UInt8}
    (h : s.verdict slotId resourceId = .error status) : status ≠ Spdu.ssOk := by
  unfold CiSession.verdict at h
  split at h
  · cases h
    decide
  · split at h
    · cases h
      decide
    · split at h
      · cases h
        decide
      · cases h

theorem openSession (h : Habit R) (resourceId : ResourceId) :
    Keeps (Over R CiSession.transport) (CiSession.openSession slotId resourceId) := by
  intro s
  cases hverdict : s.verdict slotId resourceId with
  | error status =>
      rw [wlp_congr (openSession_refused hverdict)]
      exact h.bind (session (h.refused slotId status _ (verdict_refuses hverdict))) (fun _ => h.pushEvent _) s
  | ok kind =>
      rw [wlp_congr (openSession_granted hverdict)]
      have hgrant : Keeps (Over R CiSession.transport) (grant slotId kind (sessionIdOf s.freshIndex)) := by
        apply h.sessionPair (h.granted slotId kind.resourceId (sessionIdOf s.freshIndex))
        intro _
        apply h.bind (h.pushEvent _)
        intro _
        exact h.bind (h.runCallback (h.onOpen kind)) fun result => h.resourceResult result.1
      exact hgrant (s.allocated slotId kind)

theorem requestClose (h : Habit R) : Keeps (Over R CiSession.transport) (CiSession.requestClose slotId sessionId) := by
  apply h.get
  intro s
  split
  · split
    · exact h.bind (h.modify fun _ => rfl) fun _ => session (h.closing slotId sessionId)
    · exact h.pure ()
  · exact h.pure ()

theorem dispatchItems (h : Habit R) (kind : ResourceKind) : ∀ (fuel : Nat) (data : Bytes) (closeSession : Bool),
    Keeps (Over R CiSession.transport) (CiSession.dispatchItems slotId sessionId kind fuel data closeSession) := by
  intro fuel
  induction fuel with
  | zero => exact fun _ _ _ => wlp_fault
  | succ fuel ih =>
      intro data closeSession
      apply h.bind (h.lift _)
      intro item
      split
      · exact h.pure _
      · apply h.bind (h.runCallback (h.onApdu kind _ _))
        intro result
        exact h.bind (h.resourceResult result.1) fun _ => ih _ _
      · exact h.bind (h.pushEvent _) fun _ => h.pure _
      · exact h.fail _

theorem dispatchApdu (h : Habit R) (data : Bytes) :
    Keeps (Over R CiSession.transport) (CiSession.dispatchApdu slotId sessionId data) := by
  apply h.get
  intro s
  split
  · split
    · apply h.bind (h.lift _)
      intro kind
      apply h.bind (h.dispatchItems kind _ _ _)
      intro close
      split
      · exact h.requestClose
      · exact h.pure ()
    · exact h.pushEvent _
  · exact h.pushEvent _

theorem freeSession (h : Habit R) : Keeps (Over R CiSession.transport) (CiSession.freeSession sessionId) := by
  apply h.get
  intro s
  split
  · exact h.pure ()
  · refine h.bind (h.modify fun _ => rfl) fun _ => ?_
    split
    · exact h.bind (h.modify fun _ => rfl) fun _ => h.pushEvent _
    · exact h.pushEvent _

theorem closeSession (h : Habit R) : Keeps (Over R CiSession.transport) (CiSession.closeSession slotId sessionId) := by
  apply h.get
  intro s
  apply h.bind (session (h.closed slotId _ sessionId))
  intro _
  have hknown (known : Bool) : Keeps (Over R CiSession.transport) (if known then CiSession.freeSession sessionId else
      CiSession.pushEvent (.malformed slotId s!"ca slot {slotId}: close request for unknown session {sessionId}")) := by
    cases known with
    | true => exact h.freeSession
    | false => exact h.pushEvent _
  exact hknown _

theorem closeSessionComplete (h : Habit R) (status : UInt8) :
    Keeps (Over R CiSession.transport) (CiSession.closeSessionComplete slotId sessionId status) := by
  apply h.get
  intro s
  split
  · split
    · split
      · exact h.freeSession
      · apply h.bind (h.lift _)
        intro index
        exact h.bind (h.modify fun _ => rfl) fun _ => h.pushEvent _
    · exact h.pushEvent _
  · exact h.pushEvent _

theorem dispatchSpdu (h : Habit R) (data : Bytes) :
    Keeps (Over R CiSession.transport) (CiSession.dispatchSpdu slotId data) := by
  apply h.bind (h.lift _)
  intro parsed
  split
  · exact h.dispatchApdu _
  · exact h.openSession _
  · exact h.closeSession
  · exact h.closeSessionComplete _
  · exact h.pushEvent _
  · exact h.pushEvent _
  · exact h.fail _

theorem dispatchRecv (h : Habit R) (accept : UInt8 → Bool) (recv : TransportRecv) :
    Keeps (Over R CiSession.transport) (CiSession.dispatchRecv accept recv) := by
  cases recv with
  | tcReply other => exact h.pushEvent _
  | spdu other spdu =>
      rw [CiSession.dispatchRecv]
      split
      · exact h.bind (session (h.aside (.dispatched other spdu) trivial)) fun _ => h.dispatchSpdu _
      · exact h.pushEvent _
  | status other => exact h.pure ()
  | malformed other context => exact h.pushEvent _

theorem recvFiltered (h : Habit R) (accept : UInt8 → Bool) :
    Keeps (Over R CiSession.transport) (CiSession.recvFiltered accept) := by
  apply h.bind (session h.received)
  intro result
  split
  · exact h.pure _
  · apply h.bind (h.dispatchRecv _ _)
    intro _
    exact h.bind (session (h.flush _)) fun _ => h.pure _

theorem tickSession (h : Habit R) (now : Instant) (sessionId : UInt16) :
    Keeps (Over R DateTimeResource.Timer.transport) (DateTimeResource.tickSession now sessionId) := by
  apply h.get
  intro timer
  split
  · exact h.pure ()
  · split
    · exact h.pure ()
    · split
      · exact h.modify fun _ => rfl
      · split
        · exact h.pure ()
        · have hsend (slotId : UInt8) : Keeps R (do
              let body ← DateTimeResource.nowBody
              CiTransport.sendApdu slotId sessionId .dateTime body) :=
            keeps_bind @h.trans h.nowBody fun body => h.object slotId sessionId .dateTime body (by decide)
          exact h.bind (transport (hsend _) (fun _ => rfl) fun _ _ => rfl) fun _ => h.modify fun _ => rfl

theorem tickAt (h : Habit R) (now : Instant) : Keeps (Over R CiSession.transport) (CiSession.tickAt now) :=
  zoom DateTimeResource.Timer.transport
    (h.get fun _ => h.forEach fun sessionId _ => h.tickSession now sessionId) (fun _ => rfl) fun _ _ => rfl

theorem dropSlot (h : Habit R) : Keeps (Over R CiSession.transport) (CiSession.dropSlot slotId) := by
  apply h.bind (session (h.cleared slotId))
  intro _
  apply h.get
  intro s
  apply h.forEach
  intro index _
  apply h.get
  intro s
  split
  · split
    · exact h.freeSession
    · exact h.pure ()
  · exact h.pure ()

theorem sendCaPmt (h : Habit R) (body : Bytes) : Keeps (Over R ConditionalAccessResource.Update.transport)
    (ConditionalAccessResource.sendCaPmt slotId sessionId body) :=
  transport (h.object slotId sessionId .caPmt body (by decide)) (fun _ => rfl) fun _ _ => rfl

theorem putSelected (h : Habit R) (record : ConditionalAccessSession) (selected : KeyMap Program) :
    Keeps (Over R ConditionalAccessResource.Update.transport)
      (ConditionalAccessResource.putSelected sessionId record selected) := h.modify fun _ => rfl

theorem setProgramOn (h : Habit R) (program : Program) (sessionId : UInt16) :
    Keeps (Over R ConditionalAccessResource.Update.transport)
      (ConditionalAccessResource.setProgramOn program sessionId) := by
  apply h.get
  intro update
  apply h.bind (h.lift _)
  intro record
  split
  · exact h.pure ()
  · dsimp only
    apply h.bind (h.lift _)
    intro object
    split
    · exact h.bind (h.sendCaPmt _) fun _ => h.putSelected _ _
    · split
      · exact h.pure ()
      · apply h.bind (h.lift _)
        intro body
        exact h.bind (h.sendCaPmt _) fun _ => h.putSelected _ _

theorem removeProgramOn (h : Habit R) (programNumber sessionId : UInt16) :
    Keeps (Over R ConditionalAccessResource.Update.transport)
      (ConditionalAccessResource.removeProgramOn programNumber sessionId) := by
  apply h.get
  intro update
  apply h.bind (h.lift _)
  intro record
  split
  · exact h.pure ()
  · split
    · exact h.fail _
    · apply h.bind (h.lift _)
      intro body
      exact h.bind (h.sendCaPmt _) fun _ => h.putSelected _ _

theorem setProgram (h : Habit R) (program : Program) :
    Keeps (Over R CiSession.transport) (CiSession.setProgram program) := by
  refine zoom ConditionalAccessResource.Update.transport ?_ (fun _ => rfl) fun _ _ => rfl
  apply h.get
  intro update
  dsimp only
  split
  · exact h.pure _
  · refine h.bind (h.modify fun _ => rfl) fun _ => ?_
    apply h.bind (h.forEach fun sessionId _ => h.setProgramOn program sessionId)
    exact fun _ => h.get fun _ => h.pure _

theorem removeProgram (h : Habit R) (programNumber : UInt16) :
    Keeps (Over R CiSession.transport) (CiSession.removeProgram programNumber) := by
  refine zoom ConditionalAccessResource.Update.transport ?_ (fun _ => rfl) fun _ _ => rfl
  apply h.get
  intro update
  dsimp only
  split
  · exact h.pure _
  · refine h.bind (h.modify fun _ => rfl) fun _ => ?_
    apply h.bind (h.forEach fun sessionId _ => h.removeProgramOn programNumber sessionId)
    exact fun _ => h.get fun _ => h.pure _

theorem nextEvent (h : Habit R) : Keeps (Over R CiSession.transport) CiSession.nextEvent := by
  apply h.get
  intro s
  split
  · exact h.pure _
  · exact h.bind (h.modify fun _ => rfl) fun _ => h.pure _

theorem send (h : Habit R) {tag : ApduTag} (htag : tag.raw.toNat < 0x1000000) (body : Bytes) :
    Keeps (Over R CiSession.transport) (CiSession.sendApdu slotId sessionId tag body) :=
  session (h.object slotId sessionId tag body htag)

theorem findSession (h : Habit R) (resourceId : ResourceId) :
    Keeps (Over R CiSession.transport) (CiSession.findSession slotId resourceId) := by
  apply h.get
  intro s
  split
  · exact h.pure _
  · exact h.fail _

theorem requireSession (h : Habit R) (resourceId : ResourceId) :
    Keeps (Over R CiSession.transport) (CiSession.requireSession slotId sessionId resourceId) := by
  apply h.get
  intro s
  split
  · exact h.pure ()
  · exact h.fail _

theorem enterMenu (h : Habit R) : Keeps (Over R CiSession.transport) (CiSession.enterMenu slotId) := by
  apply h.get
  intro s
  dsimp only
  split
  · exact h.bind (h.pure _) fun _ => h.send (by decide) _
  · exact h.bind (h.findSession _) fun _ => h.send (by decide) _

theorem mmiMenuAnswer (h : Habit R) (choice : UInt8) :
    Keeps (Over R CiSession.transport) (CiSession.mmiMenuAnswer slotId sessionId choice) :=
  h.bind (h.requireSession _) fun _ => h.send (by decide) _

theorem mmiAnswer (h : Habit R) (answer : Option Bytes) :
    Keeps (Over R CiSession.transport) (CiSession.mmiAnswer slotId sessionId answer) :=
  h.bind (h.requireSession _) fun _ => h.send (by decide) _

theorem mmiClose (h : Habit R) : Keeps (Over R CiSession.transport) (CiSession.mmiClose slotId sessionId) :=
  h.bind (h.requireSession _) fun _ => h.send (by decide) _

theorem askRelease (h : Habit R) : Keeps (Over R CiSession.transport) (CiSession.askRelease slotId) :=
  h.bind (h.findSession _) fun _ => h.send (by decide) _

end Session

end Habit

end LibDvb
