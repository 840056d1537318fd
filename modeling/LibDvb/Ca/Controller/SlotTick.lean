import LibDvb.Ca.Controller.SlotPoll

namespace LibDvb

open Relation Act Outcome

namespace ConditionalAccessResource

variable {u u' u'' : Update} {slotId : UInt8}

structure Spread (slotId : UInt8) (u u' : Update) : Prop where
  grows : slotId ∈ u.touchedSlots → slotId ∈ u'.touchedSlots
  beside : slotId ∉ u'.touchedSlots → CiTransport.Within (Obs.Foreign slotId) u.transport u'.transport

theorem Spread.refl (u : Update) : Spread slotId u u := ⟨fun h => h, fun _ => .refl _⟩

theorem Spread.trans (h : Spread slotId u u') (h' : Spread slotId u' u'') : Spread slotId u u'' :=
  ⟨fun hmem => h'.grows (h.grows hmem), fun hmem => (h.beside fun hold => hmem (h'.grows hold)).trans (h'.beside hmem)⟩

def Tells {α : Type} (slotId : UInt8) (m : Act Error Update α) : Prop :=
  ∀ u, wlp m (fun _ => Spread slotId u) (fun _ _ => True) u

theorem tells_of_keeps {α : Type} {m : Act Error Update α} (hm : Act.Keeps (Spread slotId) m) : Tells slotId m :=
  fun u => wlp_mono (hm u) (fun _ _ h => h) fun _ _ _ => trivial

theorem tells_bind {α β : Type} {m : Act Error Update α} {f : α → Act Error Update β} (hm : Tells slotId m)
    (hf : ∀ a, Tells slotId (f a)) : Tells slotId (m >>= f) := by
  intro u
  rw [wlp_bind]
  exact wlp_mono (hm u) (fun a u₁ h => wlp_mono (hf a u₁) (fun _ _ h' => h.trans h') fun _ _ _ => trivial)
    fun _ _ _ => trivial

theorem tells_get {β : Type} {f : Update → Act Error Update β} (hf : ∀ u, Tells slotId (f u)) :
    Tells slotId (get >>= f) := tells_bind (tells_of_keeps (keeps_get .refl)) hf

theorem tells_lift {α β : Type} (o : Outcome Error α) {f : α → Act Error Update β} (hf : ∀ a, Tells slotId (f a)) :
    Tells slotId (lift o >>= f) := tells_bind (tells_of_keeps (keeps_lift .refl o)) hf

theorem tells_pure {α : Type} (a : α) : Tells slotId (pure a) := tells_of_keeps (keeps_pure .refl a)

theorem tells_forEach {α : Type} {f : α → Act Error Update Unit} (hf : ∀ a, Tells slotId (f a)) (as : List α) :
    Tells slotId (forEach as f) := by
  induction as with
  | nil => exact tells_pure ()
  | cons a rest ih => exact tells_bind (hf a) fun _ => ih

theorem tells_sendCaPmt (session : ConditionalAccessSession) (sessionId : UInt16) (body : Bytes) (selected : KeyMap Program) :
    Tells slotId (sendCaPmt session.slotId sessionId body >>= fun _ => putSelected sessionId session selected) := by
  intro u
  rw [wlp_bind]
  have hput {u₁ : Update} (htouched : u₁.touchedSlots = u.touchedSlots)
      (hbeside : session.slotId ≠ slotId → CiTransport.Within (Obs.Foreign slotId) u.transport u₁.transport) :
      wlp (putSelected sessionId session selected) (fun _ => Spread slotId u) (fun _ _ => True) u₁ := by
    refine wlp_modify.mpr ⟨fun hmem => List.mem_append_left _ (htouched ▸ hmem), fun hmem => hbeside fun heq => ?_⟩
    exact hmem (List.mem_append_right _ (List.mem_singleton.mpr heq.symm))
  have hforeign (hne : session.slotId ≠ slotId) (obs : Obs) (hslot : obs.slot = some session.slotId) :
      obs.Foreign slotId := foreign_of_ne fun heq => hne (Option.some.inj (hslot.symm.trans heq))
  by_cases heq : session.slotId = slotId
  · refine wlp_zoom.mpr (wlp_mono (wlp_self _ _) (fun _ t _ => hput rfl fun hne => absurd heq hne) fun _ _ _ => trivial)
  · have hsend : Act.Keeps (CiTransport.Within (Obs.Foreign slotId))
        (CiTransport.sendApdu session.slotId sessionId .caPmt body) := by
      refine CiTransport.within_sendApdu (fun _ _ _ => hforeign heq _ rfl) (hforeign heq _ rfl) fun obs hmem => ?_
      obtain ⟨piece, _, rfl⟩ := List.mem_map.mp hmem
      exact hforeign heq _ rfl
    refine wlp_zoom.mpr (wlp_mono (hsend u.transport) (fun _ t ht => hput rfl fun _ => ht) fun _ _ _ => trivial)

theorem tells_setProgramOn (program : Program) (sessionId : UInt16) : Tells slotId (setProgramOn program sessionId) := by
  apply tells_get
  intro u
  apply tells_lift
  intro session
  split
  · exact tells_pure ()
  · apply tells_lift
    intro body
    split
    · exact tells_sendCaPmt session sessionId _ _
    · split
      · exact tells_pure ()
      · exact tells_lift _ fun _ => tells_sendCaPmt session sessionId _ _

theorem tells_removeProgramOn (programNumber sessionId : UInt16) : Tells slotId (removeProgramOn programNumber sessionId) := by
  apply tells_get
  intro u
  apply tells_lift
  intro session
  split
  · exact tells_pure ()
  · split
    · exact tells_of_keeps (keeps_fail .refl _)
    · exact tells_lift _ fun _ => tells_sendCaPmt session sessionId _ _

def Covers (slotId : UInt8) (m : Act Error Update (List UInt8)) : Prop :=
  ∀ u, wlp m (fun slotIds u' => slotId ∉ slotIds → CiTransport.Within (Obs.Foreign slotId) u.transport u'.transport)
    (fun _ _ => True) u

theorem covers_loop {f : UInt16 → Act Error Update Unit} (hf : ∀ sessionId, Tells slotId (f sessionId)) (sessionIds : List UInt16) :
    Covers slotId (do
      forEach sessionIds f
      pure (sortDedup (← get).touchedSlots)) := by
  intro u
  rw [wlp_bind]
  refine wlp_mono (tells_forEach hf sessionIds u) (fun _ u₁ h => ?_) fun _ _ _ => trivial
  rw [wlp_bind, wlp_get, wlp_pure, CiSession.mem_sortDedup]
  exact h.beside

theorem covers_setProgram (program : Program) : Covers slotId (setProgram program) := by
  intro u
  rw [setProgram, wlp_bind, wlp_get]
  dsimp only
  split
  · exact wlp_pure.mpr fun _ => .refl _
  · rw [wlp_bind, wlp_modify]
    exact covers_loop (tells_setProgramOn program) _ _

theorem covers_removeProgram (programNumber : UInt16) : Covers slotId (removeProgram programNumber) := by
  intro u
  rw [removeProgram, wlp_bind, wlp_get]
  dsimp only
  split
  · exact wlp_pure.mpr fun _ => .refl _
  · rw [wlp_bind, wlp_modify]
    exact covers_loop (tells_removeProgramOn programNumber) _ _

end ConditionalAccessResource

namespace CiController

variable {c c' : CiController} {count : Nat} {slotId other : UInt8} {slot : ControllerSlot} {stage : SlotStage}
  {v : SlotView} {now : Instant}

section Work

theorem Beside.past (h : Beside slotId c c') : c'.past count slotId = c.past count slotId := by
  obtain ⟨delta, htrace, _, hall⟩ := h.within
  have htrace' : c'.trace = c.trace ++ delta := htrace
  rw [CiController.past, htrace']
  exact still_of_foreign hall

theorem At.works {α : Type} {m : Act Error CiSession α} {Q : α → CiSession → Prop} {E : Error → CiSession → Prop}
    (h : c.At count slotId slot stage) (hs : c.Sound) (bland : Act.Keeps CiSession.Bland m)
    (along : Along (CiSession.Move c.Live c.Live) m Q E c.session) :
    wlp (zoom sessionLens m)
      (fun a => Leads count slotId ⟨slot, c.trace, stage⟩ fun slot' stage' c' =>
        slot' = slot ∧ stage' = stage ∧ ReflTransGen (Move c.Live) c c' ∧ Q a c'.session)
      (fun e => Leads count slotId ⟨slot, c.trace, stage⟩ fun slot' stage' c' =>
        slot' = slot ∧ stage' = stage ∧ ReflTransGen (Move c.Live) c c' ∧ E e c'.session) c := by
  have hleads {s : CiSession} (hbland : CiSession.Bland c.session s) (hpath : CiSession.Path c.Live c.Live c.session s) :
      Leads count slotId ⟨slot, c.trace, stage⟩ (fun slot' stage' _ => slot' = slot ∧ stage' = stage)
        (sessionLens.set s c) := by
    refine h.talk (hbland.trace.mono fun _ hobs => hobs.apart slotId)
      (fun hr hmem => h.unready hr (hbland.unready _ trivial hmem)) fun hcreating => ?_
    have hdead : ¬ c.Live slotId := by
      rw [live_of_status h.known, hcreating]
      decide
    exact (hpath.untouched hs.session hdead hdead).transport
  have hmoves := @session_along c.Live c _ m (fun a c' => Q a c'.session) (fun e c' => E e c'.session) along
  refine wlp_zoom.mpr (wlp_mono (wlp_and (bland c.session) (wlp_and (wlp_of_wp along) (wlp_zoom.mp (wlp_of_wp hmoves))))
    (fun a s hs => ?_) fun e s hs => ?_)
  · obtain ⟨hbland, ⟨hpath, _⟩, hmoves, hq⟩ := hs
    exact (hleads hbland hpath).mono fun _ _ _ hs => ⟨hs.1, hs.2, hmoves, hq⟩
  · obtain ⟨hbland, ⟨hpath, _⟩, hmoves, he⟩ := hs
    exact (hleads hbland hpath).mono fun _ _ _ hs => ⟨hs.1, hs.2, hmoves, he⟩

theorem bland_tickAt (now : Instant) : Act.Keeps CiSession.Bland (CiSession.tickAt now) := by
  refine keeps_zoom (CiSession.onTick_rings now) fun s _ h => ?_
  have hbland := h.carries.mono fun _ hobs => hobs.bland
  exact ⟨hbland, hbland.sameLength, fun _ _ hmem => hmem⟩

theorem At.sessionTick (h : c.At count slotId slot .idle) (hc : c.Calm) (ticked : c.lastTick = some now) :
    wlp (sessionTick now)
      (fun _ => Leads count slotId ⟨slot, c.trace, .idle⟩ fun _ stage' _ => stage' = .idle)
      (fun _ => Leads count slotId ⟨slot, c.trace, .idle⟩ fun _ stage' _ => stage' = .idle) c := by
  have halong := CiSession.tickAt_along (V := c.Live) hc.sound.session hc.sound.within hc.whole now
  rw [CiController.sessionTick, wlp_bind, wlp_attempt]
  refine wlp_mono (h.works hc.sound (bland_tickAt now) halong) (fun _ c₁ hl => ?_) fun e c₁ hl => ?_
  · exact wlp_pure.mpr (hl.mono fun _ _ _ hs => hs.2.1)
  · obtain ⟨slot₁, stage₁, h₁, hpath₁, rfl, rfl, hmoves, hwrite⟩ := hl
    dsimp only
    rw [if_pos (isLinkError_write hwrite), wlp_bind, wlp_attempt]
    refine wlp_mono (h₁.recovers (hc.sound.path hmoves) ((Keeps.path hmoves).lastTick.trans ticked) _ _)
      (fun _ _ hl => wlp_fail.mpr ?_) fun _ _ hl => wlp_fail.mpr ?_
    · exact (hl.before hpath₁).mono fun _ _ _ hs => hs.1
    · exact (hl.before hpath₁).mono fun _ _ _ hs => hs.1

end Work

section Drive

theorem Like.timed {slot' : ControllerSlot} {config : CiControllerConfig} (h : slot.Like slot') (ht : slot.Timed config now) :
    slot'.Timed config now := by
  refine ⟨fun hc => ?_, fun hc hnone => ?_, fun ha => ?_⟩
  · rw [h.createSince]
    exact ht.create (h.status ▸ hc)
  · rw [h.createSince] at hnone
    rw [h.commandSince]
    exact ht.write (h.status ▸ hc) hnone
  · rw [h.commandSince]
    exact ht.command (h.status ▸ ha)

theorem Like.watched {slot' : ControllerSlot} {transport : TransportSlot} (h : slot.Like slot') (hw : slot.Watched transport) :
    slot'.Watched transport := by
  intro ha hb
  rw [h.commandSince]
  exact hw (h.status ▸ ha) hb

def Tended (count : Nat) (slotId : UInt8) (now : Instant) (slot : ControllerSlot) (c : CiController) : Prop :=
  slot.Timed c.config now ∧ slot.Watched (c.past count slotId)

theorem Tended.beside {slot' : ControllerSlot} (h : c.Tended count slotId now slot) (hb : Beside slotId c c')
    (hlike : slot.Like slot') (config : c'.config = c.config) : c'.Tended count slotId now slot' := by
  refine ⟨?_, ?_⟩
  · rw [config]
    exact Like.timed hlike h.1
  · rw [hb.past]
    exact Like.watched hlike h.2

theorem At.driveTurn (h : c.At count slotId slot .idle) (hc : c.Calm) (rested : SlotView.Rested ⟨slot, c.trace, .idle⟩)
    (hlt : other.toNat < c.slots.length) (now : Instant) :
    wlp (CiController.driveSlot other now)
      (fun failure => Leads count slotId ⟨slot, c.trace, .idle⟩ fun slot' stage' c' => stage' = .idle ∧ c'.Calm ∧ Keeps c c' ∧
        (failure = none → other = slotId ∨ c.Tended count slotId now slot → c'.Tended count slotId now slot'))
      (fun _ => Leads count slotId ⟨slot, c.trace, .idle⟩ fun _ stage' c' =>
        (stage' = .idle ∨ ∃ reply, stage' = .lost reply) ∧ c'.Sound ∧ Keeps c c') c := by
  have halong := wlp_of_wp (driveSlot_along (V := fun _ => True) hc hlt (fun _ => trivial) now)
  by_cases heq : other = slotId
  · subst heq
    have hrest (hrests : slot.status.Rests) : (c.past count other).Idle ∧ slot.Timeless := by
      have hidle := hc.sound.idle other slot h.known hrests.1 hrests.2 hc.whole
      exact ⟨hidle _ h.transport, rested rfl hrests⟩
    refine wlp_mono (wlp_and (h.driveSlot hrest now) halong) (fun failure c₁ hl => ?_) fun e c₁ hl => ?_
    · obtain ⟨hleads, hpath, hstill⟩ := hl
      refine hleads.mono fun slot₁ stage₁ _ hs => ⟨hs.1, hc.along hpath hstill, .path hpath, fun hnone _ => ?_⟩
      rw [Tended, (Keeps.path hpath).config]
      exact hs.2.2 hnone
    · exact hl.1.mono fun _ _ _ hs => ⟨.inr hs, hc.sound.path hl.2.1, .path hl.2.1⟩
  · have hspared : Spares slotId (CiController.driveSlot other now) := beside_driveSlot heq now
    refine wlp_mono (wlp_and (wlp_and (hspared c) (h.spared hspared)) halong) (fun failure c₁ hl => ?_) fun e c₁ hl => ?_
    · obtain ⟨⟨hbeside, hleads⟩, hpath, hstill⟩ := hl
      refine hleads.mono fun slot₁ stage₁ _ hs => ⟨hs.2, hc.along hpath hstill, .path hpath, fun _ htended => ?_⟩
      exact (htended.resolve_left heq).beside hbeside hs.1 (Keeps.path hpath).config
    · exact hl.1.2.mono fun _ _ _ hs => ⟨.inl hs.2, hc.sound.path hl.2.1, .path hl.2.1⟩

theorem At.driveSlots (now : Instant) : ∀ (ids : List UInt8) (c : CiController) (slot : ControllerSlot), c.Calm →
    c.lastTick = some now → (∀ other ∈ ids, other.toNat < c.slots.length) → c.At count slotId slot .idle →
    SlotView.Rested ⟨slot, c.trace, .idle⟩ → slotId ∈ ids ∨ c.Tended count slotId now slot →
    wlp (CiController.driveSlots now ids)
      (fun _ => Leads count slotId ⟨slot, c.trace, .idle⟩ fun slot' stage' c' =>
        stage' = .idle ∧ (c'.linkSuspended = true ∨ c'.Tended count slotId now slot'))
      (fun _ => Leads count slotId ⟨slot, c.trace, .idle⟩ fun _ stage' _ => stage' = .idle) c := by
  intro ids
  induction ids with
  | nil => exact fun c slot _ _ _ h _ htended => wlp_pure.mpr (h.leads ⟨rfl, .inr (htended.resolve_left nofun)⟩)
  | cons other rest ih =>
      intro c slot hc ticked hlt h rested htended
      rw [CiController.driveSlots, wlp_bind, wlp_attempt]
      refine wlp_mono (h.driveTurn hc rested (hlt other List.mem_cons_self) now) (fun failure c₁ hl => ?_) fun e c₁ hl => ?_
      · obtain ⟨slot₁, stage₁, h₁, hpath₁, rfl, hc₁, hkeeps, htended₁⟩ := hl
        have ticked₁ := hkeeps.lastTick.trans ticked
        cases failure with
        | none =>
            have hnext : slotId ∈ rest ∨ c₁.Tended count slotId now slot₁ := by
              rcases htended with hmem | htended
              · rcases List.mem_cons.mp hmem with heq | hmem
                · exact .inr (htended₁ rfl (.inl heq.symm))
                · exact .inl hmem
              · exact .inr (htended₁ rfl (.inr htended))
            refine wlp_mono (ih c₁ slot₁ hc₁ ticked₁ (fun other hmem => ?_) h₁ (rested.path hpath₁) hnext)
              (fun _ _ hl => hl.before hpath₁) fun _ _ hl => hl.before hpath₁
            exact hkeeps.count.symm ▸ hlt other (List.mem_cons_of_mem _ hmem)
        | some reason =>
            have hrecovers := wlp_of_wp (recoverAll_along hc₁.sound (some other) reason ticked₁)
            refine wlp_mono (wlp_and (h₁.recovers hc₁.sound ticked₁ (some other) reason) hrecovers) (fun _ _ hl => ?_)
              fun _ _ hl => (hl.1.before hpath₁).mono fun _ _ _ hs => hs.1
            exact (hl.1.before hpath₁).mono fun _ _ _ hs => ⟨hs.1, .inl hl.2.2.recovered.suspended⟩
      · obtain ⟨slot₁, stage₁, h₁, hpath₁, _, hs₁, hkeeps⟩ := hl
        rw [wlp_bind, wlp_attempt]
        refine wlp_mono (h₁.recovers hs₁ (hkeeps.lastTick.trans ticked) _ _) (fun _ _ hl => wlp_fail.mpr ?_)
          fun _ _ hl => wlp_fail.mpr ?_
        · exact (hl.before hpath₁).mono fun _ _ _ hs => hs.1
        · exact (hl.before hpath₁).mono fun _ _ _ hs => hs.1

end Drive

section Dispatch

theorem programmed_still {A : UInt8 → Prop} {s s' : CiSession} {change : CaPmtChange} (h : s.Consistent) (hw : s.Within A)
    (hp : CiSession.Programmed s change s') (hA : ¬ A slotId) :
    s'.transport.slots[slotId.toNat]? = s.transport.slots[slotId.toNat]? := by
  obtain ⟨t, hpath, hslots, _⟩ := hp.path
  rw [hslots]
  refine slot_path hpath fun _ _ hs => ?_
  obtain ⟨sessionId, session, known, hsend⟩ := hs
  have hrecord : s.resources.recordSlot sessionId .conditionalAccess = some session.slotId := by
    rw [ResourceRegistry.recordSlot, known, Option.map_some]
  exact sendsPmt_slot hsend fun heq => hA (heq ▸ hw.record h hrecord)

theorem At.marksAll (now : Instant) : ∀ (ids : List UInt8) (c : CiController) (slot : ControllerSlot), c.session.events = [] →
    (∀ other ∈ ids, other.toNat < c.slots.length) → c.At count slotId slot .idle → slot.Timed c.config now →
    slotId ∈ ids ∨ slot.Watched (c.past count slotId) → wlp (Act.forEach ids fun other => markOutstanding other now)
      (fun _ => Leads count slotId ⟨slot, c.trace, .idle⟩ fun slot' stage' c' => stage' = .idle ∧ c'.Tended count slotId now slot')
      (fun _ _ => False) c := by
  intro ids
  induction ids with
  | nil => exact fun c slot _ _ h timed watched => wlp_pure.mpr (h.leads ⟨rfl, timed, watched.resolve_left nofun⟩)
  | cons other rest ih =>
      intro c slot hevents hlt h timed watched
      have hmark := markOutstanding_along (V := fun _ => True) (List.getElem?_eq_getElem (hlt other List.mem_cons_self)) now
      have hrest {c₁ : CiController} {slot₁ : ControllerSlot} (h₁ : c₁.At count slotId slot₁ .idle)
          (hpath₁ : ReflTransGen (SlotStep (UInt8.ofNat count) slotId) ⟨slot, c.trace, .idle⟩ ⟨slot₁, c₁.trace, .idle⟩)
          (hkeeps : Keeps c c₁) (hsession : c₁.session = c.session) (timed₁ : slot₁.Timed c.config now)
          (watched₁ : slotId ∈ rest ∨ slot₁.Watched (c₁.past count slotId)) :
          wlp (Act.forEach rest fun other => markOutstanding other now)
            (fun _ => Leads count slotId ⟨slot, c.trace, .idle⟩ fun slot' stage' c' =>
              stage' = .idle ∧ c'.Tended count slotId now slot') (fun _ _ => False) c₁ := by
        rw [← hkeeps.config] at timed₁
        refine wlp_mono (ih c₁ slot₁ (hsession ▸ hevents) (fun other hmem => ?_) h₁ timed₁ watched₁)
          (fun _ _ hl => hl.before hpath₁) fun _ _ hf => hf
        exact hkeeps.count.symm ▸ hlt other (List.mem_cons_of_mem _ hmem)
      rw [Act.forEach, wlp_bind]
      by_cases heq : other = slotId
      · subst heq
        have hready : .transportReady other ∉ c.session.events := by
          rw [hevents]
          exact List.not_mem_nil
        refine wlp_mono (wlp_and (h.marks (E := fun _ _ => True) (.inl rfl) (fun _ => rfl) hready now) (wlp_of_wp hmark)) (fun _ c₁ hl => ?_)
          fun _ _ hf => hf.2.2
        obtain ⟨⟨slot₁, stage₁, h₁, hpath₁, rfl, rfl, hsame⟩, hmoves, hsession⟩ := hl
        refine hrest h₁ hpath₁ (.path hmoves) hsession (timed.marked _) (.inr ?_)
        rw [hsame]
        exact ControllerSlot.watched_marked now _ slot
      · have hspared : Spares slotId (CiController.markOutstanding other now) := beside_markOutstanding heq now
        refine wlp_mono (wlp_and (wlp_and (hspared c) (h.spared hspared)) (wlp_of_wp hmark)) (fun _ c₁ hl => ?_)
          fun _ _ hf => hf.2.2
        obtain ⟨⟨hbeside, slot₁, stage₁, h₁, hpath₁, hlike, rfl⟩, hmoves, hsession⟩ := hl
        refine hrest h₁ hpath₁ (.path hmoves) hsession (Like.timed hlike timed) (watched.imp (fun hmem => ?_) fun hw => ?_)
        · exact (List.mem_cons.mp hmem).resolve_left fun hsame => heq hsame.symm
        · rw [hbeside.past]
          exact Like.watched hlike hw

theorem bland_update {m : Act Error ConditionalAccessResource.Update (List UInt8)}
    (hm : Act.Keeps CiSession.Announces m) : Act.Keeps CiSession.Bland (zoom CiSession.updateLens m) :=
  keeps_zoom hm fun _ _ h => ⟨h.bland, h.bland.sameLength, fun _ _ hmem => hmem⟩

theorem At.paced (h : c.At count slotId slot stage) (pacer : CaPmtPacer) :
    ({ c with pacer } : CiController).At count slotId slot stage :=
  ⟨h.known, h.bound, h.small, h.wide, h.replayed, h.unready⟩

theorem At.programmed {change : CaPmtChange} {s : CiSession} (h : c.At count slotId slot stage) (hs : c.Sound)
    (bland : CiSession.Bland c.session s) (done : CiSession.Programmed c.session change s) :
    Leads count slotId ⟨slot, c.trace, stage⟩ (fun slot' stage' _ => slot' = slot ∧ stage' = stage) (sessionLens.set s c) := by
  refine h.talk (bland.trace.mono fun _ hobs => hobs.apart slotId)
    (fun hr hmem => h.unready hr (bland.unready _ trivial hmem)) fun hcreating => ?_
  have hdead : ¬ c.Live slotId := by
    rw [live_of_status h.known, hcreating]
    decide
  exact programmed_still hs.session hs.within done hdead

theorem update_spec {change : CaPmtChange} {m : Act Error ConditionalAccessResource.Update (List UInt8)} {s : CiSession}
    (covers : ConditionalAccessResource.Covers slotId m) (announces : Act.Keeps CiSession.Announces m)
    (spec : wp (zoom CiSession.updateLens m) (fun slotIds s' => CiSession.Programmed s change s' ∧
        pending s'.transport.trace = false ∧ ∀ slotId ∈ slotIds, slotId.toNat < s.transport.slots.length)
      (fun e s' => CiSession.ChangeStopped s change e s') s) :
    wlp (zoom CiSession.updateLens m)
      (fun slotIds s' => (CiSession.Bland s s' ∧ CiSession.Programmed s change s') ∧
        (∀ other ∈ slotIds, other.toNat < s.transport.slots.length) ∧
          (slotId ∉ slotIds → CiTransport.Within (Obs.Foreign slotId) s.transport s'.transport))
      (fun _ s' => CiSession.Bland s s' ∧ CiSession.Programmed s change s') s := by
  have hcovers : wlp (zoom CiSession.updateLens m)
      (fun slotIds s' => slotId ∉ slotIds → CiTransport.Within (Obs.Foreign slotId) s.transport s'.transport)
      (fun _ _ => True) s := covers (CiSession.updateLens.get s)
  refine wlp_mono (wlp_and (wlp_and (bland_update announces s) hcovers) (wlp_of_wp spec)) (fun slotIds s' hs => ?_)
    fun _ s' hs => ⟨hs.1.1, hs.2.programmed⟩
  exact ⟨⟨hs.1.1, hs.2.1⟩, hs.2.2.2, hs.1.2⟩

theorem At.dispatched {change : CaPmtChange} {command : Act Error CiSession (List UInt8)}
    (h : c.At count slotId slot .idle) (hc : c.Calm) (ticked : c.lastTick = some now)
    (tended : c.Tended count slotId now slot) (due : (c.pacer.poll now).1 = some change)
    (spec : wlp command (fun slotIds s' => (CiSession.Bland c.session s' ∧ CiSession.Programmed c.session change s') ∧
        (∀ other ∈ slotIds, other.toNat < c.session.transport.slots.length) ∧
          (slotId ∉ slotIds → CiTransport.Within (Obs.Foreign slotId) c.session.transport s'.transport))
      (fun _ s' => CiSession.Bland c.session s' ∧ CiSession.Programmed c.session change s') c.session) :
    wlp (do finishProgramCommand (← attempt (zoom sessionLens command)))
      (fun _ => Leads count slotId ⟨slot, c.trace, .idle⟩ fun slot' stage' c' =>
        stage' = .idle ∧ c'.Tended count slotId now slot')
      (fun _ => Leads count slotId ⟨slot, c.trace, .idle⟩ fun _ stage' _ => stage' = .idle)
      { c with pacer := (c.pacer.poll now).2 } := by
  have h₁ : ({ c with pacer := (c.pacer.poll now).2 } : CiController).At count slotId slot .idle := h.paced _
  have hs₁ : ({ c with pacer := (c.pacer.poll now).2 } : CiController).Sound := hc.sound.paced _
  rw [wlp_bind, wlp_attempt]
  refine wlp_zoom.mpr (wlp_mono spec (fun slotIds s hs => ?_) fun e s hs => ?_)
  · obtain ⟨⟨hbland, hdone⟩, hbound, hcovers⟩ := hs
    obtain ⟨slot₂, stage₂, h₂, hpath₂, rfl, rfl⟩ := h₁.programmed hs₁ hbland hdone
    have hevents : s.events = [] := by
      obtain ⟨_, _, _, _, _, hevents, _⟩ := hdone.path
      exact hevents.trans hc.collected
    rw [finishProgramCommand, wlp_bind, wlp_get]
    split
    · next tick htick =>
        obtain rfl : tick = now := Option.some.inj (htick.symm.trans ticked)
        refine wlp_mono (At.marksAll tick slotIds _ slot₂ hevents (fun other hmem => ?_) h₂ tended.1 ?_)
          (fun _ _ hl => hl.before hpath₂) fun _ _ hf => hf.elim
        · exact hc.sound.count ▸ hbound other hmem
        · by_cases hmem : slotId ∈ slotIds
          · exact .inl hmem
          · obtain ⟨delta, htrace, _, hall⟩ := hcovers hmem
            have htrace' : (sessionLens.set s { c with pacer := (c.pacer.poll tick).2 }).trace = c.trace ++ delta := htrace
            rw [CiController.past, htrace', still_of_foreign hall]
            exact .inr tended.2
    · next hnone => exact absurd (hnone.symm.trans ticked) (by rintro ⟨⟩)
  · obtain ⟨hbland, hdone⟩ := hs
    obtain ⟨slot₂, stage₂, h₂, hpath₂, rfl, rfl⟩ := h₁.programmed hs₁ hbland hdone
    rw [finishProgramCommand]
    dsimp only
    split
    · have hmove : Move (fun _ => True) c { c with pacer := (c.pacer.poll now).2, session := s } := .programmed due hdone
      rw [wlp_bind]
      refine wlp_mono (h₂.recoverAtEventTime (hc.sound.path (.single hmove)) ticked none) (fun _ _ hl => wlp_fail.mpr ?_)
        fun _ _ hl => ?_
      · exact (hl.before hpath₂).mono fun _ _ _ hs => hs.1
      · exact (hl.before hpath₂).mono fun _ _ _ hs => hs.1
    · exact wlp_fail.mpr ⟨slot₂, _, h₂, hpath₂, rfl⟩

theorem At.dispatchCaPmt (h : c.At count slotId slot .idle) (hc : c.Calm) (ticked : c.lastTick = some now)
    (tended : c.Tended count slotId now slot) :
    wlp (dispatchCaPmt now)
      (fun _ => Leads count slotId ⟨slot, c.trace, .idle⟩ fun slot' stage' c' =>
        stage' = .idle ∧ c'.Tended count slotId now slot')
      (fun _ => Leads count slotId ⟨slot, c.trace, .idle⟩ fun _ stage' _ => stage' = .idle) c := by
  rw [CiController.dispatchCaPmt, wlp_bind, CiController.pollPacer, wlp_bind, wlp_get]
  dsimp only
  rw [wlp_bind, wlp_modify, wlp_pure]
  cases hdue : (c.pacer.poll now).1 with
  | none => exact wlp_pure.mpr ⟨slot, .idle, h.paced _, .refl, rfl, tended⟩
  | some change =>
      cases change with
      | set program =>
          exact h.dispatched hc ticked tended hdue (update_spec (ConditionalAccessResource.covers_setProgram program)
            (CiSession.announces_setProgram program) (CiSession.setProgram_spec hc.sound.session hc.whole program))
      | remove programNumber =>
          exact h.dispatched hc ticked tended hdue (update_spec (ConditionalAccessResource.covers_removeProgram programNumber)
            (CiSession.announces_removeProgram programNumber)
            (CiSession.removeProgram_spec hc.sound.session hc.whole programNumber))

end Dispatch

section Tick

def Minded (count : Nat) (slotId : UInt8) (now : Instant) (slot : ControllerSlot) (stage : SlotStage) (c : CiController) : Prop :=
  stage = .idle ∧ (c.linkSuspended = true ∨ c.Tended count slotId now slot)

theorem At.tickLink (h : c.At count slotId slot .idle) (hc : c.Calm) (ticked : c.lastTick = some now)
    (resumed : c.linkSuspended = false) (rested : SlotView.Rested ⟨slot, c.trace, .idle⟩) :
    wlp (tickLink now) (fun _ => Leads count slotId ⟨slot, c.trace, .idle⟩ (Minded count slotId now))
      (fun _ => Leads count slotId ⟨slot, c.trace, .idle⟩ fun _ stage' _ => stage' = .idle) c := by
  have hrest {c₁ : CiController} {slot₁ : ControllerSlot} (h₁ : c₁.At count slotId slot₁ .idle) (hc₁ : c₁.Calm)
      (hkeeps₁ : Keeps c c₁)
      (hpath₁ : ReflTransGen (SlotStep (UInt8.ofNat count) slotId) ⟨slot, c.trace, .idle⟩ ⟨slot₁, c₁.trace, .idle⟩) :
      wlp (do
        CiController.sessionTick now
        CiController.driveSlots now (← get).slotIds
        CiController.collectSessionEvents
        CiController.dispatchCaPmt now) (fun _ => Leads count slotId ⟨slot, c.trace, .idle⟩ (Minded count slotId now))
        (fun _ => Leads count slotId ⟨slot, c.trace, .idle⟩ fun _ stage' _ => stage' = .idle) c₁ := by
    have ticked₁ := hkeeps₁.lastTick.trans ticked
    rw [wlp_bind]
    refine wlp_mono (wlp_and (h₁.sessionTick hc₁ ticked₁) (wlp_of_wp (sessionTick_along hc₁ ticked₁)))
      (fun _ c₂ hl => ?_) fun _ _ hl => hl.1.before hpath₁
    obtain ⟨⟨slot₂, stage₂, h₂, hpath₂, rfl⟩, hworks₂, hc₂⟩ := hl
    have hpath₂ := hpath₁.trans hpath₂
    have hkeeps₂ := hkeeps₁.trans hworks₂.keeps
    have ticked₂ := hkeeps₂.lastTick.trans ticked
    have hlt : ∀ other ∈ c₂.slotIds, other.toNat < c₂.slots.length := fun _ => (CiController.mem_slotIds hc₂.sound.count_le).mp
    have hdrive := At.driveSlots now c₂.slotIds c₂ slot₂ hc₂ ticked₂ hlt h₂ (rested.path hpath₂) (.inl h₂.mem_slotIds)
    rw [wlp_bind, wlp_get, wlp_bind]
    refine wlp_mono (wlp_and hdrive (wlp_of_wp (driveSlots_along now c₂.slotIds c₂ hc₂ ticked₂ hlt)))
      (fun _ c₃ hl => ?_) fun _ _ hl => hl.1.before hpath₂
    obtain ⟨⟨slot₃, stage₃, h₃, hpath₃, rfl, htended⟩, hdone⟩ := hl
    have hpath₃ := hpath₂.trans hpath₃
    rw [wlp_bind]
    cases hdone with
    | worked hworks₃ hc₃ =>
        have hkeeps₃ := hkeeps₂.trans hworks₃.keeps
        have htended₃ : c₃.Tended count slotId now slot₃ := htended.resolve_left fun hs =>
          Bool.false_ne_true (resumed.symm.trans (hkeeps₃.linkSuspended.symm.trans hs))
        rw [wlp_run (collect_run hc₃.collected)]
        exact wlp_mono (h₃.dispatchCaPmt hc₃ (hkeeps₃.lastTick.trans ticked) htended₃)
          (fun _ _ hl => (hl.before hpath₃).mono fun _ _ _ hs => ⟨hs.1, .inr hs.2⟩) fun _ _ hl => hl.before hpath₃
    | restarted work steps restarted =>
        rw [wlp_run (collect_run restarted.recovered.calm.collected)]
        exact wlp_of_wp ((dispatchCaPmt_halted restarted.recovered.halted.gate now).mpr
          ⟨slot₃, .idle, h₃, hpath₃, rfl, .inl restarted.recovered.suspended⟩)
  rw [CiController.tickLink, wlp_bind, wlp_get]
  split
  · rw [wlp_bind]
    refine wlp_mono (wlp_and (h.refreshSlotInfo hc ticked) (wlp_of_wp (refreshSlotInfo_along hc ticked)))
      (fun _ c₁ hl => ?_) fun _ _ hl => hl.1
    obtain ⟨⟨slot₁, stage₁, h₁, hpath₁, rfl⟩, hworks₁, hc₁⟩ := hl
    rw [wlp_bind, wlp_modify]
    refine hrest ⟨h₁.known, h₁.bound, h₁.small, h₁.wide, h₁.replayed, h₁.unready⟩
      (hc₁.flags c₁.lastTick c₁.linkSuspended c₁.recoveryAt _ c₁.deferredLinkFailure) ?_ hpath₁
    exact hworks₁.keeps.trans ⟨rfl, rfl, rfl, rfl, rfl, rfl⟩
  · exact hrest h hc (.refl c) .refl

theorem Resides.tick (rested : v.Rested) (h : Resides count slotId v c) (hc : c.Calm) (now : Instant) :
    wlp (tick now) (fun _ => Leads count slotId v (Minded count slotId now)) (fun _ => Resides count slotId v) c := by
  obtain ⟨slot, stage, hat, hpath, hpaused⟩ := h
  have hflags (lastTick : Option Instant) (linkSuspended : Bool) (recoveryAt : Option Instant) (deferredLinkFailure : Bool) :
      ({ c with lastTick, linkSuspended, recoveryAt, deferredLinkFailure } : CiController).At count slotId slot stage :=
    ⟨hat.known, hat.bound, hat.small, hat.wide, hat.replayed, hat.unready⟩
  have hcalm (lastTick : Option Instant) (linkSuspended : Bool) (recoveryAt : Option Instant) (deferredLinkFailure : Bool) :
      ({ c with lastTick, linkSuspended, recoveryAt, deferredLinkFailure } : CiController).Calm :=
    hc.flags lastTick linkSuspended recoveryAt c.nextStatusCheck deferredLinkFailure
  rw [CiController.tick, wlp_bind, wlp_modify, wlp_bind]
  rw [wlp_run (collect_run (c := { c with lastTick := some now }) hc.collected), wlp_bind, wlp_get]
  split
  · next hdeferred =>
      rw [wlp_bind, wlp_modify]
      have hrecovers := wlp_of_wp (recoverAll_along (hcalm (some now) c.linkSuspended c.recoveryAt false).sound none .linkFailed rfl)
      refine wlp_mono (wlp_and ((hflags (some now) c.linkSuspended c.recoveryAt false).recovers
        (hcalm (some now) c.linkSuspended c.recoveryAt false).sound rfl none .linkFailed) hrecovers) (fun _ _ hl => ?_)
        fun _ _ hl => ?_
      · exact (hl.1.before hpath).mono fun _ _ _ hs => ⟨hs.1, .inl hl.2.2.recovered.suspended⟩
      · exact (hl.1.before hpath).mono fun _ _ _ hs => .inl hs.1
  · next hdeferred =>
      have hidle : stage = .idle := hpaused.resolve_right fun hs => hdeferred hs.1
      subst hidle
      have hlink (recoveryAt : Option Instant) (c₁ : CiController)
          (heq : c₁ = { c with lastTick := some now, linkSuspended := false, recoveryAt }) :
          wlp (CiController.tickLink now) (fun _ => Leads count slotId v (Minded count slotId now))
            (fun _ => Resides count slotId v) c₁ := by
        subst heq
        refine wlp_mono ((hflags (some now) false recoveryAt c.deferredLinkFailure).tickLink
          (hcalm (some now) false recoveryAt c.deferredLinkFailure) rfl rfl (rested.path hpath)) (fun _ _ hl => hl.before hpath)
          fun _ _ hl => hl.resides hpath
      rw [wlp_bind, wlp_get]
      split
      · next hsuspended =>
          rw [wlp_bind, wlp_get]
          split
          · rw [wlp_bind, wlp_modify]
            exact hlink none _ rfl
          · exact wlp_pure.mpr ⟨slot, .idle, hflags (some now) c.linkSuspended c.recoveryAt c.deferredLinkFailure, hpath,
              rfl, .inl hsuspended⟩
      · next hsuspended =>
          refine hlink c.recoveryAt _ ?_
          rw [← Bool.eq_false_of_not_eq_true hsuspended]

end Tick

end CiController

end LibDvb
