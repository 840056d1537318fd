import LibDvb.Ca.Session.Consistent

namespace LibDvb

open Relation Act Outcome

def QuietStep (A V : UInt8 → Prop) : CiTransport → CiTransport → Prop :=
  CiTransport.Step fun trace obs => obs.Quiet A V trace

theorem broken_outside {e : Error} {trace : List Obs} (h : Broken True false e trace) :
    pending trace = true ∧ e.IsWrite := by
  obtain ⟨hwrite, htransient, before, slotId, frame, rfl, _⟩ := h
  simp [Obs.settles, Obs.fatal, htransient, hwrite]

theorem isWrite_cases {e : Error} (h : e.IsWrite) :
    e = CaDevice.shortWrite ∨ (¬ e.IsInvalidData ∧ e ≠ CaDevice.shortWrite) := by
  rcases h with rfl | ⟨kind, rfl⟩
  · exact .inl rfl
  · exact .inr ⟨fun ⟨_, h⟩ => (nomatch h), nofun⟩

theorem broken_inside {e : Error} {trace : List Obs} (h : Broken True true e trace) :
    e.IsWrite ∧ ((e.IsInvalidData ∧ pending trace = false ∧ masked trace = true) ∨
      (¬ e.IsInvalidData ∧ pending trace = true)) := by
  obtain ⟨hwrite, htransient, before, slotId, frame, rfl, hbefore⟩ := h
  refine ⟨hwrite, ?_⟩
  rcases isWrite_cases hwrite with rfl | ⟨hdata, hne⟩
  · exact .inl ⟨⟨_, rfl⟩, by simp [hbefore trivial, Obs.fatal], by simp [Obs.masked]⟩
  · exact .inr ⟨hdata, by simp [Obs.settles, Obs.fatal, htransient, hne]⟩

section Links

variable {A V : UInt8 → Prop} {t t' : CiTransport} {slotId : UInt8} {sessionId : UInt16}
  {tag : ApduTag} {body : Bytes} {bodies more : List Bytes}

theorem quiet_sends {trace : List Obs} {obs : Obs} (hA : A slotId) (h : Sends True slotId trace obs) :
    obs.Quiet A V trace := by
  obtain ⟨hsends, hstrict⟩ := h
  cases obs with
  | queued other frame => exact (show other = slotId from hsends) ▸ hA
  | wrote other frame result callback =>
      exact ⟨hstrict trivial rfl, .inl ((show other = slotId from hsends) ▸ hA)⟩
  | _ => exact hsends.elim

theorem quiet_of_sends (hA : A slotId)
    (h : ReflTransGen (CiTransport.Step (Sends True slotId)) t t') :
    ReflTransGen (QuietStep A V) t t' :=
  ReflTransGen.mono (fun _ _ hs => CiTransport.Step.mono (fun _ _ => quiet_sends hA) hs) _ _ h

theorem sendApdu_quiet {link : CaDevice} (hlink : link.reads = t.link.reads)
    (hs : slotId.toNat < t.slots.length) (hn : t.slots.length ≤ 255) (hA : A slotId)
    (hp : pending t.trace = false) (htag : tag ≠ .caPmt) :
    wp (CiTransport.sendApdu slotId sessionId tag body)
      (fun _ t' => ReflTransGen (QuietStep A V) t t' ∧ pending t'.trace = false)
      (fun e t' => ReflTransGen (QuietStep A V) t t' ∧ (Broken True t.callback e t'.trace ∨
        (65535 < body.length ∧ pending t'.trace = false ∧ ∃ context, e = .invalidProperty context)))
      { t with link } := by
  have hmove : CiTransport.Move (.apdu slotId sessionId tag body) { t with link }
      { t with link, trace := t.trace ++ [.apdu slotId sessionId tag body] } :=
    CiTransport.move_note _ trivial rfl
  have hnote : QuietStep A V t
      { t with link, trace := t.trace ++ [.apdu slotId sessionId tag body] } :=
    ⟨.apdu slotId sessionId tag body, ⟨hA, htag⟩, hmove.relink (hlink ▸ List.suffix_rfl)⟩
  refine wp_mono (CiTransport.sendApdu_spec (t := { t with link }) sessionId tag body hs hn
    fun _ : True => hp) (fun _ t' h => ?_) (fun e t' h => ?_)
  · exact ⟨.head hnote (quiet_of_sends hA h.1), h.2.2 trivial⟩
  · refine ⟨.head hnote (quiet_of_sends hA h.1), ?_⟩
    rcases h.2 with ⟨_, hbroken⟩ | ⟨hlong, rfl, rfl⟩
    · exact .inl hbroken
    · exact .inr ⟨hlong, by simp [hp, Obs.fatal], _, rfl⟩

theorem caActs_sends {strict : Prop}
    (h : ReflTransGen (CiTransport.Step (Sends strict slotId)) t t') :
    caActs t'.trace = caActs t.trace := by
  refine Path.order (r := fun a b : CiTransport => caActs b.trace = caActs a.trace) h
    (fun _ => rfl) (fun hab hbc => hbc.trans hab) fun a b ⟨obs, ⟨hsends, _⟩, hmove⟩ => ?_
  rw [hmove.trace, caActs_snoc]
  cases obs with
  | queued other frame => simp [Obs.caAct]
  | wrote other frame result callback => simp [Obs.caAct]
  | _ => exact hsends.elim

theorem PmtPath.refl : PmtPath slotId sessionId [] t t := ⟨.refl, by simp⟩

theorem PmtPath.trans {t'' : CiTransport} (h : PmtPath slotId sessionId bodies t t')
    (h' : PmtPath slotId sessionId more t' t'') :
    PmtPath slotId sessionId (bodies ++ more) t t'' :=
  ⟨h.path.trans h'.path, by rw [h'.acts, h.acts, List.map_append, List.append_assoc]⟩

theorem sendApdu_pmt (hs : slotId.toNat < t.slots.length) (hn : t.slots.length ≤ 255)
    (hp : pending t.trace = false) :
    wp (CiTransport.sendApdu slotId sessionId .caPmt body)
      (fun _ t' => PmtPath slotId sessionId [body] t t' ∧ body.length ≤ 65535 ∧
        pending t'.trace = false)
      (fun e t' => PmtPath slotId sessionId [body] t t' ∧
        (Broken True t.callback e t'.trace ∨
          (65535 < body.length ∧ pending t'.trace = false ∧
            ∃ context, e = .invalidProperty context))) t := by
  have hnote : CiTransport.Step (SendsPmt slotId sessionId) t
      { t with trace := t.trace ++ [.apdu slotId sessionId .caPmt body] } :=
    ⟨_, .inr ⟨body, rfl⟩, CiTransport.move_note _ trivial rfl⟩
  have hpath {t' : CiTransport} (h : ReflTransGen (CiTransport.Step (Sends True slotId))
      { t with trace := t.trace ++ [.apdu slotId sessionId .caPmt body] } t') :
      PmtPath slotId sessionId [body] t t' :=
    ⟨.head hnote (ReflTransGen.mono
      (fun _ _ hs => CiTransport.Step.mono (fun _ _ => .inl) hs) _ _ h), by
        rw [caActs_sends h]
        simp [Obs.caAct]⟩
  refine wp_mono (CiTransport.sendApdu_spec sessionId .caPmt body hs hn fun _ : True => hp)
    (fun _ t' h => ⟨hpath h.1, h.2.1, h.2.2 trivial⟩) (fun e t' h => ⟨hpath h.1, ?_⟩)
  rcases h.2 with ⟨_, hbroken⟩ | ⟨hlong, rfl, rfl⟩
  · exact .inl hbroken
  · exact .inr ⟨hlong, by simp [hp, Obs.fatal], _, rfl⟩

end Links

namespace CiSession

variable {A V : UInt8 → Prop} {s s' : CiSession} {slotId : UInt8} {sessionId : UInt16}

def context (s : CiSession) (slotId : UInt8) (sessionId : UInt16) :
    ResourceContext ResourceRegistry where
  self := s.resources
  transport := { s.transport with callback := true }
  events := s.events
  slotId
  sessionId

def after (s : CiSession) (ctx : ResourceContext ResourceRegistry) : CiSession :=
  { s with
    transport := { ctx.transport with callback := false }
    resources := ctx.self
    events := ctx.events }

theorem wp_runCallback {m : Act Error (ResourceContext ResourceRegistry) Unit}
    {Q : Except Error Unit × Bool → CiSession → Prop} {E : Error → CiSession → Prop} :
    wp (runCallback slotId sessionId m) Q E s ↔
      wp m (fun _ ctx => Q (.ok (), ctx.closeSession) (s.after ctx))
        (fun e ctx => Q (.error e, ctx.closeSession) (s.after ctx)) (s.context slotId sessionId) := by
  unfold wp runCallback
  show Outcome.Sat (do Outcome.ok (← (m (s.context slotId sessionId)).1.attempt, _)) _ _ ↔ _
  cases hm : (m (s.context slotId sessionId)).1 <;> simp [Outcome.attempt] <;> rfl

theorem on_transport (hcb : s.transport.callback = false) {callback : Bool} :
    s.on { s.transport with callback } = s := by
  obtain ⟨⟨link, slots, trace, called⟩, resources, sessions, events⟩ := s
  have hcalled : called = false := hcb
  rw [hcalled]
  rfl

theorem path_link {callback : Bool} {t : CiTransport} (hcb : s.transport.callback = false)
    (hpath : ReflTransGen (QuietStep A V) { s.transport with callback } t) :
    Path A V s (s.on t) := by
  induction hpath with
  | refl =>
      rw [on_transport hcb]
      exact .refl
  | @tail a b hab hbc ih =>
      obtain ⟨obs, hquiet, hmove⟩ := hbc
      have hcalled : a.callback = callback := CiTransport.path_callback hab
      have hlink : CiTransport.Move obs { (s.on a).transport with callback } b := by
        rw [← hcalled]
        exact hmove
      exact ih.tail (.link hlink hquiet)

structure CanSend (A : UInt8 → Prop) (s : CiSession) (slotId : UInt8) : Prop where
  slot : A slotId
  bound : slotId.toNat < s.transport.slots.length
  count : s.transport.slots.length ≤ 255
  callback : s.transport.callback = false
  whole : pending s.transport.trace = false

structure CallbackFault (s : CiSession) (e : Error) (trace : List Obs) : Prop where
  data : e.IsInvalidData → pending trace = false
  write : pending trace = true → e.IsWrite
  fits : s.Fits → ¬ e.IsInvalidData → pending trace = true

theorem CallbackFault.malformed {e : Error} {trace : List Obs} (hp : pending trace = false)
    (he : e.IsInvalidData) : CallbackFault s e trace where
  data _ := hp
  write h := by
    rw [hp] at h
    cases h
  fits _ h := absurd he h

theorem CallbackFault.broken {e : Error} {trace : List Obs} (h : Broken True true e trace) :
    CallbackFault s e trace := by
  obtain ⟨hwrite, ⟨hdata, hp, _⟩ | ⟨hdata, hp⟩⟩ := broken_inside h
  · exact .malformed hp hdata
  · exact ⟨fun h => absurd h hdata, fun _ => hwrite, fun _ _ => hp⟩

structure Called (A V : UInt8 → Prop) (s : CiSession) (kind : ResourceKind)
    (ctx : ResourceContext ResourceRegistry) : Prop where
  path : Path A V s (s.after ctx)
  close : ctx.closeSession = true → kind = .mmi

theorem wp_contextSend {R : Type} {ctx : ResourceContext R} {link : CaDevice} {tag : ApduTag}
    {body : Bytes} {Q : Unit → ResourceContext R → Prop} {E : Error → ResourceContext R → Prop}
    (h : CanSend A s ctx.slotId) (hlink : link.reads = s.transport.link.reads)
    (ht : ctx.transport = { s.transport with link, callback := true }) (htag : tag ≠ .caPmt)
    (hbody : body.length ≤ 65535)
    (hQ : ∀ t, ReflTransGen (QuietStep A V) { s.transport with callback := true } t →
      pending t.trace = false → Q () { ctx with transport := t })
    (hE : ∀ e t, ReflTransGen (QuietStep A V) { s.transport with callback := true } t →
      Broken True true e t.trace → E e { ctx with transport := t }) :
    wp (ResourceContext.sendApdu tag body) Q E ctx := by
  have hsend := @sendApdu_quiet A V { s.transport with callback := true } ctx.slotId ctx.sessionId
    tag body link hlink h.bound h.count h.slot h.whole htag
  rw [ResourceContext.sendApdu, wp_bind, wp_get, wp_zoom]
  show wp _ _ _ ctx.transport
  rw [ht]
  refine wp_mono hsend (fun _ t h => hQ t h.1 h.2) (fun e t h => ?_)
  rcases h.2 with hbroken | ⟨hlong, _⟩
  · exact hE e t h.1 hbroken
  · exact absurd hbody (Nat.not_le.mpr hlong)

section Open

theorem CanSend.resources (h : CanSend A s slotId) (resources : ResourceRegistry) :
    CanSend A { s with resources } slotId :=
  ⟨h.slot, h.bound, h.count, h.callback, h.whole⟩

theorem nowBody_spec (t : CiTransport) :
    wp DateTimeResource.nowBody (fun body t' => body.length = 5 ∧ ∃ link : CaDevice,
      link.reads = t.link.reads ∧ t' = { t with link }) (fun _ _ => False) t := by
  have hbody (now : Nat) : (DateTimeResource.dateTimeBody now).length = 5 := rfl
  simp only [DateTimeResource.nowBody, CaDevice.systemTime, wp_bind, wp_zoom, wp_get]
  cases hclock : (CiTransport.linkLens.get t).clock with
  | nil => exact ⟨hbody 0, t.link, rfl, rfl⟩
  | cons now rest => exact ⟨hbody now, { t.link with clock := rest }, rfl, rfl⟩

theorem sendNow_spec {ctx : ResourceContext DateTimeResource}
    {Q : Unit → ResourceContext DateTimeResource → Prop}
    {E : Error → ResourceContext DateTimeResource → Prop} (h : CanSend A s ctx.slotId)
    (ht : ctx.transport = { s.transport with callback := true })
    (hQ : ∀ t, ReflTransGen (QuietStep A V) { s.transport with callback := true } t →
      pending t.trace = false → Q () { ctx with transport := t })
    (hE : ∀ e t, ReflTransGen (QuietStep A V) { s.transport with callback := true } t →
      Broken True true e t.trace → E e { ctx with transport := t }) :
    wp DateTimeResource.sendNow Q E ctx := by
  rw [DateTimeResource.sendNow, wp_bind, wp_zoom]
  refine wp_mono (nowBody_spec _) (fun body t hbody => ?_) (fun _ _ he => he.elim)
  obtain ⟨hlength, link, hreads, rfl⟩ := hbody
  have hlink : link.reads = s.transport.link.reads := by
    rw [hreads]
    show ctx.transport.link.reads = _
    rw [ht]
  refine wp_contextSend h hlink ?_ (by decide) (by omega) hQ hE
  show CiTransport.mk link ctx.transport.slots ctx.transport.trace ctx.transport.callback = _
  rw [ht]

theorem onOpen_spec (h : CanSend A s slotId) (kind : ResourceKind) :
    wp (ResourceRegistry.onOpen kind)
      (fun _ ctx => Path A V { s with resources := s.resources.opened kind slotId sessionId }
        (s.after ctx) ∧ pending ctx.transport.trace = false)
      (fun e ctx => Path A V { s with resources := s.resources.opened kind slotId sessionId }
        (s.after ctx) ∧ CallbackFault s e ctx.transport.trace) (s.context slotId sessionId) := by
  have hlink (resources : ResourceRegistry) {t : CiTransport}
      (hpath : ReflTransGen (QuietStep A V) { s.transport with callback := true } t) :
      Path A V { s with resources } (CiSession.on { s with resources } t) :=
    path_link (s := { s with resources }) h.callback hpath
  cases kind with
  | rm =>
      simp only [ResourceRegistry.onOpen, wp_zoom, ResourceManager.onOpen]
      exact wp_contextSend (V := V) h rfl rfl (by decide) (by decide)
        (fun t hpath hp => ⟨hlink s.resources hpath, hp⟩)
        (fun e t hpath hb => ⟨hlink s.resources hpath, .broken hb⟩)
  | applicationInfo =>
      simp only [ResourceRegistry.onOpen, wp_zoom, ApplicationInfoResource.onOpen,
        ResourceContext.update, wp_bind, wp_get, wp_modify]
      exact wp_contextSend (V := V) h rfl rfl (by decide) (by decide)
        (fun t hpath hp => ⟨hlink _ hpath, hp⟩) (fun e t hpath hb => ⟨hlink _ hpath, .broken hb⟩)
  | conditionalAccess =>
      simp only [ResourceRegistry.onOpen, wp_zoom, ConditionalAccessResource.onOpen,
        ConditionalAccessResource.putSession, ResourceContext.update, wp_bind, wp_get, wp_modify]
      exact wp_contextSend (V := V) h rfl rfl (by decide) (by decide)
        (fun t hpath hp => ⟨hlink _ hpath, hp⟩) (fun e t hpath hb => ⟨hlink _ hpath, .broken hb⟩)
  | dateTime =>
      simp only [ResourceRegistry.onOpen, wp_zoom, DateTimeResource.onOpen, ResourceContext.update,
        wp_bind, wp_get, wp_modify]
      exact sendNow_spec (V := V) h rfl (fun t hpath hp => ⟨hlink _ hpath, hp⟩)
        (fun e t hpath hb => ⟨hlink _ hpath, .broken hb⟩)
  | hostControl => exact ⟨hlink s.resources .refl, h.whole⟩
  | mmi => exact ⟨hlink s.resources .refl, h.whole⟩

end Open

def Calls (A V : UInt8 → Prop) (s : CiSession) (kind : ResourceKind) (slotId : UInt8)
    (sessionId : UInt16) (m : Act Error (ResourceContext ResourceRegistry) Unit) : Prop :=
  wp m (fun _ ctx => Called A V s kind ctx ∧ pending ctx.transport.trace = false)
    (fun e ctx => Called A V s kind ctx ∧ CallbackFault s e ctx.transport.trace)
    (s.context slotId sessionId)

section Apdu

variable {index : Nat} {session : Session} {kind : ResourceKind} {tag : ApduTag} {body : Bytes}

theorem called_still (h : CanSend A s slotId) (sessionId : UInt16) :
    Called A V s kind (s.context slotId sessionId) where
  path := path_link h.callback .refl
  close := nofun

theorem called_link {t : CiTransport} (h : CanSend A s slotId)
    (hpath : ReflTransGen (QuietStep A V) { s.transport with callback := true } t) :
    Called A V s kind { s.context slotId sessionId with transport := t } where
  path := path_link h.callback hpath
  close := nofun

theorem path_move (hcb : s.transport.callback = false) (hm : Move A V s s')
    (hsame : s'.transport = s.transport) {callback : Bool} :
    Path A V s (s'.on { s.transport with callback }) := by
  rw [← hsame, on_transport (hsame ▸ hcb)]
  exact .single hm

theorem called_event {e : CaEvent} (h : CanSend A s slotId) (sessionId : UInt16) (plain : e.Plain)
    (slot : V e.slotId) :
    Called A V s kind { s.context slotId sessionId with events := s.events ++ [e] } where
  path := path_move h.callback (.event plain slot) rfl
  close := nofun

theorem rm_onApdu (h : s.Consistent) (hc : CanSend A s slotId) :
    Calls A V s .rm slotId sessionId (ResourceRegistry.onApdu .rm tag body) := by
  have hprofile : s.resources.rm.profile.length ≤ 65535 := by
    rw [h.manager]
    decide
  have hsend {tag' : ApduTag} {body' : Bytes} (htag : tag' ≠ .caPmt) (hbody : body'.length ≤ 65535) :
      wp (ResourceContext.sendApdu (R := ResourceManager) tag' body')
        (fun _ ctx => Called A V s .rm ((ResourceRegistry.contextLens
          ResourceRegistry.rmLens).set ctx (s.context slotId sessionId)) ∧
            pending ctx.transport.trace = false)
        (fun e ctx => Called A V s .rm ((ResourceRegistry.contextLens
          ResourceRegistry.rmLens).set ctx (s.context slotId sessionId)) ∧
            CallbackFault s e ctx.transport.trace)
        ((ResourceRegistry.contextLens ResourceRegistry.rmLens).get
          (s.context slotId sessionId)) :=
    wp_contextSend (V := V) hc rfl rfl htag hbody (fun t hpath hp => ⟨called_link hc hpath, hp⟩)
      (fun e t hpath hb => ⟨called_link hc hpath, .broken hb⟩)
  rw [Calls, ResourceRegistry.onApdu, wp_zoom, ResourceManager.onApdu, wp_bind, wp_get]
  split
  · exact hsend (by decide) (by decide)
  split
  · exact hsend (by decide) hprofile
  split
  · exact hsend (by decide) (by decide)
  · exact ⟨called_still hc sessionId, .malformed hc.whole ⟨_, rfl⟩⟩

theorem applicationInfo_onApdu (h : s.Consistent) (hc : CanSend A s session.slotId)
    (hV : V session.slotId) (live : s.entry index = some session) :
    Calls A V s .applicationInfo session.slotId (sessionIdOf index)
      (ResourceRegistry.onApdu .applicationInfo tag body) := by
  have hmalformed {e : Error} (he : e.IsInvalidData) :
      Called A V s .applicationInfo (s.context session.slotId (sessionIdOf index)) ∧
        CallbackFault s e s.transport.trace :=
    ⟨called_still hc _, .malformed hc.whole he⟩
  rw [Calls, ResourceRegistry.onApdu, wp_zoom, ApplicationInfoResource.onApdu, wp_bind, wp_get]
  split
  · rw [wp_bind, wp_lift]
    refine (ApplicationInfoResource.parseApplicationInfo_sat _ _).mono (fun info _ => ?_)
      (fun e he => hmalformed he)
    split
    · exact hmalformed ⟨_, rfl⟩
    · next record hrecord =>
        have hknown : s.resources.applicationInfo.sessions[sessionIdOf index]? = some record :=
          hrecord
        have hslot : record.slotId = session.slotId := by
          have hkept : s.resources.recordSlot (sessionIdOf index) .applicationInfo =
              some record.slotId := by
            rw [ResourceRegistry.recordSlot, hknown, Option.map_some]
          exact (h.record_slot live hkept).1
        simp only [ResourceContext.update, ResourceContext.event, wp_bind, wp_modify]
        refine ⟨⟨?_, by rintro ⟨⟩⟩, hc.whole⟩
        have hmove := Move.appInfo (A := A) (V := V) info hknown (by rwa [hslot])
        rw [hslot] at hmove
        exact path_move hc.callback hmove rfl
  · exact hmalformed ⟨_, rfl⟩

theorem hostControl_onApdu (hc : CanSend A s slotId) (hV : V slotId) :
    Calls A V s .hostControl slotId sessionId
      (ResourceRegistry.onApdu .hostControl tag body) := by
  have hmalformed {e : Error} (he : e.IsInvalidData) :
      Called A V s .hostControl (s.context slotId sessionId) ∧
        CallbackFault s e s.transport.trace :=
    ⟨called_still hc _, .malformed hc.whole he⟩
  have hevent {o : Outcome Error CaEvent}
      (ho : o.Sat (fun e => e.Plain ∧ e.slotId = slotId) Error.IsInvalidData) :
      wp (lift o >>= ResourceContext.event (R := Unit))
        (fun _ ctx => Called A V s .hostControl ((ResourceRegistry.contextLens
          ResourceRegistry.hostControlLens).set ctx (s.context slotId sessionId)) ∧
            pending ctx.transport.trace = false)
        (fun e ctx => Called A V s .hostControl ((ResourceRegistry.contextLens
          ResourceRegistry.hostControlLens).set ctx (s.context slotId sessionId)) ∧
            CallbackFault s e ctx.transport.trace)
        ((ResourceRegistry.contextLens ResourceRegistry.hostControlLens).get
          (s.context slotId sessionId)) := by
    rw [wp_bind, wp_lift]
    refine ho.mono (fun e he => ?_) (fun e he => hmalformed he)
    exact ⟨called_event hc _ he.1 (by rwa [he.2]), hc.whole⟩
  rw [Calls, ResourceRegistry.onApdu, wp_zoom, HostControlResource.onApdu, wp_bind, wp_get]
  split
  · exact hevent (HostControlResource.parseTune_sat _ _)
  split
  · exact hevent (HostControlResource.parseReplace_sat _ _)
  split
  · exact hevent (HostControlResource.parseClearReplace_sat _ _)
  · exact hmalformed ⟨_, rfl⟩

theorem dateTime_keys {record record' : DateTimeSession} (self : DateTimeResource)
    (known : self.sessions[sessionId]? = some record) (slot : record'.slotId = record.slotId)
    (other : UInt16) : (self.sessions.insert sessionId record')[other]?.map DateTimeSession.slotId =
      self.sessions[other]?.map DateTimeSession.slotId := by
  rw [KeyMap.get_insert]
  split
  · next heq => rw [← heq, known, Option.map_some, Option.map_some, slot]
  · rfl

theorem dateTime_others {record record' : DateTimeSession} {self : DateTimeResource}
    (known : self.sessions[sessionId]? = some record) (slot : A record.slotId) (other : UInt16)
    (session : DateTimeSession) (hsession : self.sessions[other]? = some session)
    (hslot : ¬ A session.slotId) :
    (self.sessions.insert sessionId record')[other]? = some session := by
  rw [KeyMap.get_insert, if_neg, hsession]
  rintro rfl
  rw [known, Option.some.injEq] at hsession
  exact hslot (hsession ▸ slot)

theorem dateTime_onApdu (h : s.Consistent) (hc : CanSend A s session.slotId)
    (live : s.entry index = some session) :
    Calls A V s .dateTime session.slotId (sessionIdOf index)
      (ResourceRegistry.onApdu .dateTime tag body) := by
  have hsend {resources : ResourceRegistry} (hfirst : Path A V s { s with resources }) {t : CiTransport}
      (hpath : ReflTransGen (QuietStep A V) { s.transport with callback := true } t) :
      Path A V s (CiSession.on { s with resources } t) :=
    hfirst.trans (path_link (s := { s with resources }) hc.callback hpath)
  rw [Calls, ResourceRegistry.onApdu, wp_zoom, DateTimeResource.onApdu, wp_bind, wp_get]
  split
  · dsimp only
    split
    · next record hrecord =>
        have hslot : A record.slotId := by
          have hkept : s.resources.recordSlot (sessionIdOf index) .dateTime = some record.slotId :=
            congrArg (Option.map DateTimeSession.slotId) hrecord
          rw [(h.record_slot live hkept).1]
          exact hc.slot
        simp only [ResourceContext.update, wp_bind, wp_modify]
        refine sendNow_spec (V := V) hc rfl (fun t hpath hp => ⟨⟨hsend ?_ hpath, by rintro ⟨⟩⟩, hp⟩)
          (fun e t hpath hb => ⟨⟨hsend ?_ hpath, by rintro ⟨⟩⟩, .broken hb⟩)
        all_goals exact .single (.dateTime (dateTime_keys _ hrecord rfl) (dateTime_others hrecord hslot))
    · exact sendNow_spec (V := V) hc rfl (fun t hpath hp => ⟨called_link hc hpath, hp⟩)
        (fun e t hpath hb => ⟨called_link hc hpath, .broken hb⟩)
  · exact ⟨called_still hc _, .malformed hc.whole ⟨_, rfl⟩⟩

theorem takeObject_spec (last : Bytes) {ctx : ResourceContext MmiResource} :
    wp (MmiResource.takeObject last)
      (fun _ ctx' => ctx' = ctx ∨
        ctx' = { ctx with self := { fragments := ctx.self.fragments.erase ctx.sessionId } })
      (fun _ _ => False) ctx := by
  rw [MmiResource.takeObject, wp_bind, wp_get]
  split
  · exact .inr rfl
  · exact .inl rfl

theorem mmi_onApdu (hc : CanSend A s session.slotId) (hV : V session.slotId)
    (live : s.entry index = some session) (hmmi : session.resourceId = .mmi) :
    Calls A V s .mmi session.slotId (sessionIdOf index)
      (ResourceRegistry.onApdu .mmi tag body) := by
  have hfragment (fragment : Option Bytes) : Path A V s
      (CiSession.on { s with resources := s.resources.putFragment (sessionIdOf index) fragment }
        { s.transport with callback := true }) :=
    path_move hc.callback (.mmi fragment live hmmi hV) rfl
  have hthen (fragment : Option Bytes) {e : CaEvent} (plain : e.Plain)
      (slot : e.slotId = session.slotId) : Path A V s
        (CiSession.on
          { s with
            resources := s.resources.putFragment (sessionIdOf index) fragment
            events := s.events ++ [e] } { s.transport with callback := true }) :=
    (hfragment fragment).tail (.event plain (by rwa [slot]))
  have htake (last : Bytes) {m : Bytes → Act Error (ResourceContext MmiResource) Unit}
      (hm : ∀ object ctx Q E, (∀ e : CaEvent, e.Plain → e.slotId = session.slotId →
        Q () { ctx with events := ctx.events ++ [e] }) → wp (m object) Q E ctx) :
      wp (MmiResource.takeObject last >>= m)
        (fun _ ctx => Called A V s .mmi ((ResourceRegistry.contextLens
          ResourceRegistry.mmiLens).set ctx (s.context session.slotId (sessionIdOf index))) ∧
            pending ctx.transport.trace = false)
        (fun e ctx => Called A V s .mmi ((ResourceRegistry.contextLens
          ResourceRegistry.mmiLens).set ctx (s.context session.slotId (sessionIdOf index))) ∧
            CallbackFault s e ctx.transport.trace)
        ((ResourceRegistry.contextLens ResourceRegistry.mmiLens).get
          (s.context session.slotId (sessionIdOf index))) := by
    rw [wp_bind]
    refine wp_mono (takeObject_spec last) (fun object ctx hctx => ?_) (fun _ _ h => h.elim)
    refine hm object ctx _ _ fun e plain slot => ?_
    rcases hctx with rfl | rfl
    · exact ⟨called_event hc _ plain (by rwa [slot]), hc.whole⟩
    · exact ⟨⟨hthen none plain slot, fun _ => rfl⟩, hc.whole⟩
  rw [Calls, ResourceRegistry.onApdu, wp_zoom, MmiResource.onApdu, wp_bind, wp_get]
  split
  · rw [MmiResource.onMore, wp_bind, wp_get]
    dsimp only
    split
    · exact ⟨⟨hfragment none, nofun⟩, .malformed hc.whole ⟨_, rfl⟩⟩
    · exact ⟨⟨hfragment (some _), nofun⟩, hc.whole⟩
  split
  · simp only [ResourceContext.event, wp_bind, wp_modify]
    refine ⟨⟨?_, fun _ => rfl⟩, hc.whole⟩
    have hplain : (CaEvent.mmiClose session.slotId (sessionIdOf index)
        (if body.head? = some MmiResource.closeMmiDelay then body[1]? else none)).Plain := trivial
    exact path_move hc.callback (.event hplain hV) rfl
  split
  · have hreply : (MmiResource.displayReply body).length ≤ 65535 := by
      unfold MmiResource.displayReply
      repeat' split
      all_goals simp
    exact wp_contextSend (V := V) hc rfl rfl (by decide) hreply
      (fun t hpath hp => ⟨called_link hc hpath, hp⟩)
      (fun e t hpath hb => ⟨called_link hc hpath, .broken hb⟩)
  split
  · exact htake body fun object ctx Q E hQ => hQ _ trivial rfl
  split
  · rw [wp_bind, wp_lift]
    refine (MmiResource.parseEnq_sat _ _ _).mono (fun e he => ?_) (fun e he => ?_)
    · exact ⟨called_event hc _ he.1 (by rw [he.2]; exact hV), hc.whole⟩
    · exact ⟨called_still hc _, .malformed hc.whole he⟩
  split
  · exact htake body fun object ctx Q E hQ => wp_bind.mpr
      ((MmiResource.parseMenu_sat object).mono (fun _ _ => hQ _ trivial rfl) fun _ h => h.elim)
  split
  · exact htake body fun object ctx Q E hQ => wp_bind.mpr
      ((MmiResource.parseMenu_sat object).mono (fun _ _ => hQ _ trivial rfl) fun _ h => h.elim)
  · exact ⟨called_still hc _, .malformed hc.whole ⟨_, rfl⟩⟩

end Apdu

end CiSession

end LibDvb
