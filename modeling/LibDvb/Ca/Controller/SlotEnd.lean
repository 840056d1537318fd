import LibDvb.Ca.Controller.SlotPath

namespace LibDvb

open Relation Act Outcome

def ControllerSlot.Kept (slot slot' : ControllerSlot) : Prop :=
  slot.Like slot' ∨ slot.status = .creatingTc ∧ slot.activated.Like slot'

theorem ControllerSlot.Kept.trans {slot slot' slot'' : ControllerSlot} (h : slot.Kept slot') (h' : slot'.Kept slot'') :
    slot.Kept slot'' := by
  rcases h with hlike | ⟨hcreating, hlike⟩
  · rcases h' with hlike' | ⟨hcreating', hlike'⟩
    · exact .inl (hlike.trans hlike')
    · refine .inr ⟨hlike.status ▸ hcreating', hlike'.status, hlike'.createSince, hlike'.commandSince, ?_⟩
      exact hlike'.receivePending.trans hlike.receivePending
  · rcases h' with hlike' | ⟨hcreating', _⟩
    · exact .inr ⟨hcreating, hlike.trans hlike'⟩
    · have hactive : slot'.status = .active := hlike.status
      rw [hactive] at hcreating'
      cases hcreating'

theorem ControllerSlot.Like.timeless {slot slot' : ControllerSlot} (h : slot.Like slot') (ht : slot.Timeless) :
    slot'.Timeless := ⟨h.createSince.trans ht.1, h.commandSince.trans ht.2⟩

theorem ControllerSlot.Kept.timeless {slot slot' : ControllerSlot} (h : slot.Kept slot') (ht : slot.Timeless) :
    slot'.Timeless := by
  rcases h with hlike | ⟨_, hlike⟩
  · exact hlike.timeless ht
  · exact hlike.timeless ⟨rfl, rfl⟩

theorem ControllerSlot.Kept.creating {slot slot' : ControllerSlot} (h : slot.Kept slot')
    (status : slot'.status = .creatingTc) : slot.status = .creatingTc := by
  rcases h with hlike | ⟨hcreating, _⟩
  · exact hlike.status ▸ status
  · exact hcreating

def Razed (slot : ControllerSlot) (stage : SlotStage) : Prop := (∃ reply, stage = .gone reply) ∧ slot.Timeless

namespace CiController

variable {c c' : CiController} {count : Nat} {slotId other : UInt8} {slot : ControllerSlot} {stage : SlotStage}
  {v : SlotView}

section Collect

def Heeds (slot : ControllerSlot) (stage : SlotStage) : Prop :=
  slot.status = .creatingTc → stage.replied = true → (∃ indicated, stage = .noted indicated true) ∨ stage = .gone true

theorem At.noted {obs : Obs} (h : c.At count slotId slot stage) (he : ∀ slots, obs.effect slots = slots) :
    (c.noted obs).At count slotId slot stage := by
  refine ⟨h.known, h.bound, h.small, h.wide, ?_, h.unready⟩
  show c.session.transport.slots = replay count (c.trace ++ [obs])
  rw [replay_snoc, he, h.replayed]

theorem At.collectEvent {event : CaEvent} (h : c.At count slotId slot stage)
    (hreply : event = .transportReady slotId → slot.status = .creatingTc →
      (∃ indicated, stage = .noted indicated true) ∨ stage = .gone true) :
    wlp (collectEvent event)
      (fun _ => Leads count slotId ⟨slot, c.trace, stage⟩ fun slot' stage' _ => slot.Kept slot' ∧ stage' = stage)
      (fun _ => Leads count slotId ⟨slot, c.trace, stage⟩ fun slot' stage' _ => slot.Kept slot' ∧ stage' = stage) c := by
  have hspared {m : Act Error CiController Unit} (hm : Spares slotId m) : wlp m
      (fun _ => Leads count slotId ⟨slot, c.trace, stage⟩ fun slot' stage' _ => slot.Kept slot' ∧ stage' = stage)
      (fun _ => Leads count slotId ⟨slot, c.trace, stage⟩ fun slot' stage' _ => slot.Kept slot' ∧ stage' = stage) c :=
    wlp_mono (h.spared hm) (fun _ _ hl => hl.mono fun _ _ _ hs => ⟨.inl hs.1, hs.2⟩)
      fun _ _ hl => hl.mono fun _ _ _ hs => ⟨.inl hs.1, hs.2⟩
  by_cases hevent : event = .transportReady slotId
  · subst hevent
    rw [CiController.collectEvent, wlp_bind, wlp_get]
    dsimp only
    rw [h.known]
    split
    · next hstatus =>
        have hcreating : slot.status = .creatingTc := Option.some.inj hstatus
        have h₁ := h.edit ({ · with createSince := none, commandSince := none, nextPoll := none })
        have h₂ := h₁.turn slot.status .active
        have h₃ := @At.noted _ _ _ _ _ (.activated slotId) h₂ fun _ => rfl
        rw [wlp_bind, h.wlp_modifySlot, wlp_bind, h₁.wlp_setSlotStatus, if_neg (by rw [hcreating]; decide)]
        refine ⟨fun _ _ => ⟨_, stage, ⟨h₃.known, h₃.bound, h₃.small, h₃.wide, h₃.replayed, h₃.unready⟩, .single ?_,
          .inr ⟨hcreating, .refl _⟩, rfl⟩, by rintro _ ⟨⟩⟩
        rcases hreply rfl hcreating with ⟨indicated, rfl⟩ | rfl
        · exact .activated hcreating
        · exact .reactivated hcreating
    · exact hspared (beside_pushEvent _)
  · exact hspared (beside_collectEvent hevent)

theorem At.popped {event : CaEvent} {rest : List CaEvent} (h : c.At count slotId slot stage)
    (queued : c.session.events = event :: rest) : (c.popped rest).At count slotId slot stage := by
  refine ⟨h.known, h.bound, h.small, h.wide, h.replayed, fun hr hmem => h.unready hr ?_⟩
  rw [queued]
  exact List.mem_cons_of_mem _ hmem

theorem At.collectLoop : ∀ (fuel : Nat) (c : CiController) (slot : ControllerSlot), c.At count slotId slot stage →
    Heeds slot stage → wlp (collectLoop fuel)
      (fun _ => Leads count slotId ⟨slot, c.trace, stage⟩ fun slot' stage' c' =>
        slot.Kept slot' ∧ stage' = stage ∧ c'.session.events = [])
      (fun _ => Leads count slotId ⟨slot, c.trace, stage⟩ fun slot' stage' _ => slot.Kept slot' ∧ stage' = stage) c := by
  intro fuel
  induction fuel with
  | zero => exact fun _ _ _ _ => wlp_fault
  | succ fuel ih =>
      intro c slot h heeds
      rw [CiController.collectLoop, wlp_bind, wlp_zoom, CiSession.nextEvent, wlp_bind, wlp_get]
      cases queued : (sessionLens.get c).events with
      | nil => exact wlp_pure.mpr (wlp_pure.mpr (h.leads ⟨.inl (.refl slot), rfl, queued⟩))
      | cons event rest =>
          have h₁ := h.popped queued
          rw [wlp_bind, wlp_modify, wlp_pure]
          refine leads_bind (h₁.collectEvent fun hevent hcreating => heeds hcreating ?_)
            fun _ slot₂ stage₂ c₂ h₂ hs₂ => ?_
          · by_contra hquiet
            refine h.unready (Bool.eq_false_of_not_eq_true hquiet) ?_
            show _ ∈ (sessionLens.get c).events
            rw [queued, hevent]
            exact List.mem_cons_self
          · obtain ⟨hkept, rfl⟩ := hs₂
            refine wlp_mono (ih c₂ slot₂ h₂ fun hcreating => heeds (hkept.creating hcreating))
              (fun _ _ hl => hl.mono fun _ _ _ hs => ⟨hkept.trans hs.1, hs.2⟩)
              fun _ _ hl => hl.mono fun _ _ _ hs => ⟨hkept.trans hs.1, hs.2⟩

theorem At.collectSessionEvents (h : c.At count slotId slot stage) (heeds : Heeds slot stage) :
    wlp collectSessionEvents
      (fun _ => Leads count slotId ⟨slot, c.trace, stage⟩ fun slot' stage' c' =>
        slot.Kept slot' ∧ stage' = stage ∧ c'.session.events = [])
      (fun _ => Leads count slotId ⟨slot, c.trace, stage⟩ fun slot' stage' _ => slot.Kept slot' ∧ stage' = stage) c := by
  rw [CiController.collectSessionEvents, wlp_bind, wlp_get]
  exact At.collectLoop _ c slot h heeds

end Collect

section Teardown

variable {S T : ControllerSlot → SlotStage → Prop}

theorem At.wreck {reply : Bool} {f : ControllerSlot → ControllerSlot} (h : c.At count slotId slot (.gone reply))
    (status : (f slot).status = .creatingTc → slot.status = .creatingTc) :
    Leads count slotId ⟨slot, c.trace, .gone reply⟩ (fun slot' stage' _ => slot' = f slot ∧ stage' = .gone reply)
      (c.edit slotId f) := by
  have hstep : SlotStep (UInt8.ofNat count) slotId ⟨slot, c.trace, .gone reply⟩
      ⟨f slot, c.trace ++ [], .gone reply⟩ := .wrecked (fun _ => nofun) status
  rw [List.append_nil] at hstep
  exact .of_step hstep (h.edit f) ⟨rfl, rfl⟩

theorem At.forEach {f : UInt8 → Act Error CiController Unit}
    (hS : ∀ slot slot' stage, slot.Like slot' → S slot stage → S slot' stage)
    (hT : ∀ slot slot' stage, slot.Like slot' → T slot stage → T slot' stage)
    (hspares : ∀ other, other ≠ slotId → Spares slotId (f other))
    (hself : ∀ (c : CiController) slot stage, c.At count slotId slot stage → S slot stage → wlp (f slotId)
      (fun _ => Leads count slotId ⟨slot, c.trace, stage⟩ fun slot' stage' _ => S slot' stage' ∧ T slot' stage')
      (fun _ => Leads count slotId ⟨slot, c.trace, stage⟩ fun slot' stage' _ => S slot' stage') c) (ids : List UInt8) :
    ∀ (c : CiController) slot stage, c.At count slotId slot stage → S slot stage → slotId ∈ ids ∨ T slot stage →
      wlp (forEach ids f)
        (fun _ => Leads count slotId ⟨slot, c.trace, stage⟩ fun slot' stage' _ => S slot' stage' ∧ T slot' stage')
        (fun _ => Leads count slotId ⟨slot, c.trace, stage⟩ fun slot' stage' _ => S slot' stage') c := by
  induction ids with
  | nil =>
      intro c slot stage h hs ht
      exact wlp_pure.mpr (h.leads ⟨hs, ht.resolve_left nofun⟩)
  | cons other rest ih =>
      intro c slot stage h hs ht
      rw [Act.forEach]
      refine @leads_bind _ _ _ _ _ _ _ _ (fun _ slot' stage' _ => S slot' stage' ∧ (slotId ∈ rest ∨ T slot' stage'))
        _ _ ?_ fun _ slot₁ stage₁ c₁ h₁ hs₁ => ih c₁ slot₁ stage₁ h₁ hs₁.1 hs₁.2
      by_cases heq : other = slotId
      · subst heq
        exact wlp_mono (hself c slot stage h hs) (fun _ _ hl => hl.mono fun _ _ _ hst => ⟨hst.1, .inr hst.2⟩)
          fun _ _ hl => hl
      · refine wlp_mono (h.spared (hspares other heq)) (fun _ _ hl => hl.mono fun slot₁ _ _ hst => ?_)
          fun _ _ hl => hl.mono fun slot₁ _ _ hst => ?_
        · obtain ⟨hlike, rfl⟩ := hst
          refine ⟨hS _ _ _ hlike hs, ht.imp (fun hmem => ?_) fun ht => hT _ _ _ hlike ht⟩
          rcases List.mem_cons.mp hmem with hsame | hmem
          · exact absurd hsame.symm heq
          · exact hmem
        · obtain ⟨hlike, rfl⟩ := hst
          exact hS _ _ _ hlike hs

theorem razed_like {slot slot' : ControllerSlot} {stage : SlotStage} (hlike : slot.Like slot') (h : Razed slot stage) :
    Razed slot' stage := ⟨h.1, hlike.timeless h.2⟩

theorem At.dropSlot (h : c.At count slotId slot stage) :
    wlp (dropSlot slotId)
      (fun _ => Leads count slotId ⟨slot, c.trace, stage⟩ fun slot' stage' _ =>
        slot' = slot ∧ ∃ reply, stage' = .gone reply)
      (fun _ => Leads count slotId ⟨slot, c.trace, stage⟩ fun slot' stage' _ =>
        slot' = slot ∧ ∃ reply, stage' = .gone reply) c := by
  have hcleared {s : CiSession} (hmove : CiTransport.Move (.cleared slotId) c.session.transport s.transport)
      (hready : ∀ e : CaEvent, e.Steers → e ∈ s.events → e ∈ c.session.events) :
      Leads count slotId ⟨slot, c.trace, stage⟩ (fun slot' stage' _ => slot' = slot ∧ ∃ reply, stage' = .gone reply)
        (sessionLens.set s c) := by
    have hat : (sessionLens.set s c).At count slotId slot (.gone stage.replied) := by
      refine ⟨h.known, h.bound, h.small, h.wide, ?_, fun hr hmem => h.unready hr (hready (.transportReady slotId) trivial hmem)⟩
      show s.transport.slots = replay count s.transport.trace
      have hslots : c.session.transport.slots = replay count c.session.transport.trace := h.replayed
      rw [hmove.slots, hmove.trace, replay_snoc]
      exact congrArg (Obs.effect · (.cleared slotId)) hslots
    refine ⟨slot, _, hat, .single ?_, rfl, _, rfl⟩
    have htrace : (sessionLens.set s c).trace = c.trace ++ [.cleared slotId] := hmove.trace
    rw [htrace]
    exact .cleared fun hc => hc
  rw [CiController.dropSlot, wlp_zoom]
  exact wlp_mono (wlp_dropSlot h.hasSlot) (fun _ s hs => hcleared hs.1 hs.2) fun _ s hs => hcleared hs.1 hs.2

theorem At.dropAllSlots (h : c.At count slotId slot stage) :
    wlp dropAllSlots (fun _ => Leads count slotId ⟨slot, c.trace, stage⟩ fun slot' stage' c' =>
      Razed slot' stage' ∧ c'.session.events = []) (fun _ _ => True) c := by
  have hloop := @At.forEach count slotId (fun _ _ => True) Razed (fun other => do
      CiController.dropSlot other
      clearSlotTimers other) (fun _ _ _ _ _ => trivial) (fun _ _ _ => razed_like)
    (fun other hne => keeps_bind .trans (beside_dropSlot hne) fun _ => beside_clearSlotTimers hne)
    (fun c₁ slot₁ stage₁ h₁ _ => by
      refine leads_bind (wlp_mono h₁.dropSlot (fun _ _ hl => hl) fun _ _ hl => hl.mono fun _ _ _ _ => trivial)
        fun _ slot₂ stage₂ c₂ h₂ hs₂ => ?_
      obtain ⟨rfl, reply, rfl⟩ := hs₂
      rw [clearSlotTimers, h₂.wlp_modifySlot]
      refine (@At.wreck _ _ _ _ _ untimed h₂ fun hc => hc).mono fun slot' stage' _ hs => ?_
      obtain ⟨rfl, rfl⟩ := hs
      exact ⟨trivial, ⟨reply, rfl⟩, rfl, rfl⟩) c.slotIds c slot stage h trivial (.inl h.mem_slotIds)
  rw [CiController.dropAllSlots, wlp_bind, wlp_get, wlp_bind]
  refine wlp_mono hloop (fun _ c₁ hl => ?_) fun _ _ _ => trivial
  obtain ⟨slot₁, stage₁, h₁, hpath, _, ⟨reply, rfl⟩, htimeless⟩ := hl
  have heeds : Heeds slot₁ (.gone reply) := fun _ hr => .inr (congrArg _ hr)
  refine wlp_mono (h₁.collectSessionEvents heeds) (fun _ c₂ hl => ?_) fun _ _ _ => trivial
  refine (hl.before hpath).mono fun slot' stage' _ hs => ?_
  obtain ⟨hkept, rfl, hevents⟩ := hs
  exact ⟨⟨⟨reply, rfl⟩, hkept.timeless htimeless⟩, hevents⟩

def Razes {α : Type} (count : Nat) (slotId : UInt8) (m : Act Error CiController α) : Prop :=
  ∀ (c : CiController) slot stage, c.At count slotId slot stage → Razed slot stage →
    wlp m (fun _ => Leads count slotId ⟨slot, c.trace, stage⟩ fun slot' stage' _ => Razed slot' stage')
      (fun _ => Leads count slotId ⟨slot, c.trace, stage⟩ fun slot' stage' _ => Razed slot' stage') c

theorem Razes.at {α : Type} {m : Act Error CiController α} (hm : Razes count slotId m)
    (h : c.At count slotId slot stage) (hr : Razed slot stage) :
    wlp m (fun _ => Leads count slotId ⟨slot, c.trace, stage⟩ fun slot' stage' _ => Razed slot' stage')
      (fun _ => Leads count slotId ⟨slot, c.trace, stage⟩ fun slot' stage' _ => Razed slot' stage') c :=
  hm c slot stage h hr

theorem razes_of_spares {α : Type} {m : Act Error CiController α} (hm : Spares slotId m) : Razes count slotId m := by
  intro c slot stage h hr
  have hlike : ∀ slot' stage', slot.Like slot' ∧ stage' = stage → Razed slot' stage' := by
    rintro slot' _ ⟨hlike, rfl⟩
    exact razed_like hlike hr
  exact wlp_mono (h.spared hm) (fun _ _ hl => hl.mono fun _ _ _ => hlike _ _) fun _ _ hl => hl.mono fun _ _ _ => hlike _ _

theorem razes_bind {α β : Type} {m : Act Error CiController α} {f : α → Act Error CiController β}
    (hm : Razes count slotId m) (hf : ∀ a, Razes count slotId (f a)) : Razes count slotId (m >>= f) :=
  fun c slot stage h hr => leads_bind (hm c slot stage h hr) fun a slot₁ stage₁ c₁ h₁ hr₁ => hf a c₁ slot₁ stage₁ h₁ hr₁

theorem razes_pure {α : Type} (a : α) : Razes count slotId (pure a) := razes_of_spares (keeps_pure .refl a)

theorem razes_fail {α : Type} (e : Error) : Razes count slotId (fail e : Act Error CiController α) :=
  razes_of_spares (keeps_fail .refl e)

theorem razes_get {β : Type} {f : CiController → Act Error CiController β} (hf : ∀ c, Razes count slotId (f c)) :
    Razes count slotId (get >>= f) := razes_bind (razes_of_spares (keeps_get .refl)) hf

theorem razes_modify {f : CiController → CiController} (hslots : ∀ c, (f c).slots = c.slots)
    (hsession : ∀ c, (f c).session = c.session) : Razes count slotId (modify f : Act Error CiController Unit) :=
  razes_of_spares (beside_modify hslots hsession)

theorem razes_slotAt : Razes count slotId (slotAt other) := razes_of_spares beside_slotAt

theorem razes_forEach {ids : List UInt8} {f : UInt8 → Act Error CiController Unit}
    (hf : ∀ other, Razes count slotId (f other)) : Razes count slotId (forEach ids f) := by
  induction ids with
  | nil => exact razes_pure ()
  | cons other rest ih => exact razes_bind (hf other) fun _ => ih

theorem razes_modifySlot {f : ControllerSlot → ControllerSlot} (hf : ∀ slot : ControllerSlot, slot.Like (f slot)) :
    Razes count slotId (modifySlot other f) := razes_of_spares (beside_modifySlot fun _ => hf)

theorem At.setRest {new : CaSlotStatus} {reply : Bool} (h : c.At count slotId slot (.gone reply)) (hnew : new.Rests)
    {E : Error → CiController → Prop} : wlp (CiController.setSlotStatus slotId new)
      (fun _ => Leads count slotId ⟨slot, c.trace, .gone reply⟩ fun slot' stage' _ =>
        slot' = { slot with status := new } ∧ stage' = .gone reply) E c := by
  rw [h.wlp_setSlotStatus]
  refine .of_step ?_ (h.setSlotStatus new) ⟨rfl, rfl⟩
  have hstep : SlotStep (UInt8.ofNat count) slotId ⟨slot, c.trace, .gone reply⟩
      ⟨{ slot with status := new }, c.trace ++ [], .gone reply⟩ := .wrecked (fun _ => nofun) fun hc => absurd hc hnew.1
  rw [List.append_nil] at hstep
  split
  · exact hstep
  · exact hstep

theorem razes_setSlotStatus {new : CaSlotStatus} (hnew : new.Rests) :
    Razes count slotId (setSlotStatus other new) := by
  by_cases heq : other = slotId
  · subst heq
    intro c slot stage h hr
    obtain ⟨⟨reply, rfl⟩, htimeless⟩ := hr
    refine wlp_mono (h.setRest hnew) (fun _ _ hl => hl.mono fun slot' stage' _ hs => ?_) fun _ _ hl => hl
    obtain ⟨rfl, rfl⟩ := hs
    exact ⟨⟨reply, rfl⟩, htimeless⟩
  · exact razes_of_spares (beside_setSlotStatus heq new)

theorem razes_markResetFailed : Razes count slotId markResetFailed := by
  apply razes_get
  intro c
  apply razes_forEach
  intro other
  apply razes_bind razes_slotAt
  intro slot
  split
  · apply razes_bind
    · exact razes_modifySlot fun _ => ⟨rfl, rfl, rfl, rfl⟩
    intro _
    apply razes_bind (razes_of_spares (beside_pushEvent _))
    exact fun _ => razes_setSlotStatus CaSlotStatus.rests_failed
  · exact razes_pure ()

end Teardown

section Recover

theorem leads_total {α : Type} {m : Act Error CiController α} {R : CiController → CiController → Prop}
    {P : α → CiController → Prop} {S : α → ControllerSlot → SlotStage → CiController → Prop}
    {T : Error → ControllerSlot → SlotStage → CiController → Prop} {E : Error → CiController → Prop}
    (hp : Along R m P (fun _ _ => False) c) (h : wlp m (fun a => Leads count slotId v (S a)) E c) :
    wlp m (fun a => Leads count slotId v fun slot stage c' => S a slot stage c' ∧ ReflTransGen R c c' ∧ P a c')
      (fun e => Leads count slotId v (T e)) c :=
  wlp_mono (wlp_and h (wlp_of_wp hp)) (fun _ _ hl => hl.1.mono fun _ _ _ hs => ⟨hs, hl.2⟩) fun _ _ hl => hl.2.2.elim

theorem At.recoverAll (h : c.At count slotId slot stage) (hs : c.Sound)
    (failedSlot : Option UInt8) (reason : CaSlotFailure) (now : Instant) :
    wlp (recoverAll failedSlot reason now)
      (fun _ => Leads count slotId ⟨slot, c.trace, stage⟩ fun slot' stage' _ => Razed slot' stage')
      (fun _ => Leads count slotId ⟨slot, c.trace, stage⟩ fun slot' stage' _ => Razed slot' stage') c := by
  unfold CiController.recoverAll
  refine leads_bind (leads_total (reportFailure_along hs failedSlot reason)
    (h.spared (beside_reportFailure failedSlot reason))) fun _ slot₁ stage₁ c₁ h₁ hs₁ => ?_
  obtain ⟨_, hpath₁, _⟩ := hs₁
  refine leads_bind (leads_total (dropAllSlots_along (hs.path hpath₁)) h₁.dropAllSlots)
    fun _ slot₂ stage₂ c₂ h₂ hs₂ => ?_
  refine Razes.at ?_ h₂ hs₂.1.1
  apply razes_bind
  · exact razes_modify (fun _ => rfl) fun _ => rfl
  intro _
  apply razes_bind (razes_of_spares beside_ioReset)
  intro result
  apply razes_get
  intro c₃
  dsimp only
  apply razes_bind
  · exact razes_modify (fun _ => rfl) fun _ => rfl
  intro _
  apply razes_get
  intro c₄
  apply razes_bind
  · apply razes_forEach
    intro other
    apply razes_bind
    · exact razes_modifySlot fun _ => ⟨rfl, rfl, rfl, rfl⟩
    intro _
    apply razes_bind (razes_of_spares (beside_setCamStatus _))
    intro _
    apply razes_bind razes_slotAt
    intro slot
    apply razes_setSlotStatus
    split
    · exact CaSlotStatus.rests_failed
    · exact CaSlotStatus.rests_absent
  intro _
  apply razes_bind
  · exact razes_modify (fun _ => rfl) fun _ => rfl
  intro _
  split
  · exact razes_pure ()
  · exact razes_bind razes_markResetFailed fun _ => razes_fail _

theorem Leads.rested (h : Leads count slotId v (fun slot stage _ => Razed slot stage) c)
    (hrests : ∀ slot, c.slots[slotId.toNat]? = some slot → slot.status.Rests) (hevents : c.session.events = []) :
    Leads count slotId v (fun slot stage _ => stage = .idle ∧ slot.status.Rests) c := by
  obtain ⟨slot, stage, hat, hpath, ⟨reply, rfl⟩, htimeless⟩ := h
  have hslot := hrests slot hat.known
  refine ⟨slot, .idle, hat.staged fun _ => ?_, hpath.tail (.rested hslot htimeless.1 htimeless.2), rfl, hslot⟩
  rw [hevents]
  exact List.not_mem_nil

theorem Recovered.rests (h : c.Recovered) (known : c.slots[slotId.toNat]? = some slot) : slot.status.Rests := by
  rcases h.halted.stopped slotId slot known with hstatus | hstatus
  · exact hstatus ▸ CaSlotStatus.rests_failed
  · exact hstatus ▸ CaSlotStatus.rests_absent

theorem Leads.recovered (h : Leads count slotId v (fun slot stage _ => Razed slot stage) c) (hr : c.Recovered) :
    Leads count slotId v (fun slot stage _ => stage = .idle ∧ slot.status.Rests) c :=
  h.rested (fun _ known => hr.rests known) hr.calm.collected

theorem At.recovers (h : c.At count slotId slot stage) (hs : c.Sound) {now : Instant}
    (ticked : c.lastTick = some now) (failedSlot : Option UInt8) (reason : CaSlotFailure) :
    wlp (CiController.recoverAll failedSlot reason now)
      (fun _ => Leads count slotId ⟨slot, c.trace, stage⟩ fun slot' stage' _ => stage' = .idle ∧ slot'.status.Rests)
      (fun _ => Leads count slotId ⟨slot, c.trace, stage⟩ fun slot' stage' _ => stage' = .idle ∧ slot'.status.Rests) c :=
  wlp_mono (wlp_and (h.recoverAll hs failedSlot reason now) (wlp_of_wp (recoverAll_along hs failedSlot reason ticked)))
    (fun _ _ hl => hl.1.recovered hl.2.2.recovered) fun _ _ hl => hl.1.recovered hl.2.2.recovered

theorem collect_run (hevents : c.session.events = []) : CiController.collectSessionEvents c = (.ok (), c) :=
  run_of_wp ((collect_nil hevents).mpr ⟨rfl, rfl⟩)

theorem At.restores (h : c.At count slotId slot stage) (hr : Razed slot stage) :
    wlp (Act.forEach c.slotIds fun slotId => do
        let present := (← CiController.slotAt slotId).present
        CiController.modifySlot slotId ({ · with ready := false, retryAt := none })
        CiController.setCamStatus slotId .none
        CiController.setSlotStatus slotId (if present then .present else .absent))
      (fun _ => Leads count slotId ⟨slot, c.trace, stage⟩ fun slot' stage' _ => Razed slot' stage' ∧ slot'.status.Rests)
      (fun _ => Leads count slotId ⟨slot, c.trace, stage⟩ fun slot' stage' _ => Razed slot' stage') c := by
  refine @At.forEach count slotId Razed (fun slot _ => slot.status.Rests) _ (fun _ _ _ => razed_like)
    (fun _ _ _ hlike hrests => hlike.status ▸ hrests) (fun other hne => ?_) (fun c₁ slot₁ stage₁ h₁ hr₁ => ?_)
    c.slotIds c slot stage h hr (.inl h.mem_slotIds)
  · apply keeps_bind .trans beside_slotAt
    intro slot
    apply keeps_bind .trans
    · exact beside_modifySlot fun heq => absurd heq hne
    intro _
    exact keeps_bind .trans (beside_setCamStatus _) fun _ => beside_setSlotStatus hne _
  · rw [wlp_bind, h₁.wlp_slotAt]
    refine leads_bind (Razes.at (razes_modifySlot fun _ => ⟨rfl, rfl, rfl, rfl⟩) h₁ hr₁) fun _ slot₂ stage₂ c₂ h₂ hr₂ => ?_
    refine leads_bind (Razes.at (razes_of_spares (beside_setCamStatus _)) h₂ hr₂) fun _ slot₃ stage₃ c₃ h₃ hr₃ => ?_
    obtain ⟨⟨reply, rfl⟩, htimeless⟩ := hr₃
    have hnew : (if slot₁.present then CaSlotStatus.present else .absent).Rests := by
      split
      · exact CaSlotStatus.rests_present
      · exact CaSlotStatus.rests_absent
    refine wlp_mono (h₃.setRest hnew) (fun _ _ hl => hl.mono fun slot' _ _ hs => ?_) fun _ _ hl => hl
    obtain ⟨rfl, rfl⟩ := hs
    exact ⟨⟨⟨reply, rfl⟩, htimeless⟩, hnew⟩

theorem At.reset (h : c.At count slotId slot stage) (hc : c.Calm) :
    wlp reset
      (fun _ => Leads count slotId ⟨slot, c.trace, stage⟩ fun slot' stage' _ => stage' = .idle ∧ slot'.status.Rests)
      (fun _ => Leads count slotId ⟨slot, c.trace, stage⟩ fun slot' stage' _ => stage' = .idle ∧ slot'.status.Rests) c := by
  have hrazed : wlp CiController.reset
      (fun _ => Leads count slotId ⟨slot, c.trace, stage⟩ fun slot' stage' _ => Razed slot' stage' ∧ slot'.status.Rests)
      (fun _ => Leads count slotId ⟨slot, c.trace, stage⟩ fun slot' stage' _ => Razed slot' stage') c := by
    unfold CiController.reset
    rw [wlp_bind, wlp_run (collect_run hc.collected)]
    refine leads_bind (leads_total (dropAllSlots_along hc.sound) h.dropAllSlots) fun _ slot₁ stage₁ c₁ h₁ hs₁ => ?_
    refine leads_bind (Razes.at (razes_modify (fun _ => rfl) fun _ => rfl) h₁ hs₁.1.1) fun _ slot₂ stage₂ c₂ h₂ hr₂ => ?_
    refine leads_bind (Razes.at (razes_of_spares beside_ioReset) h₂ hr₂) fun result slot₃ stage₃ c₃ h₃ hr₃ => ?_
    split
    · rw [wlp_bind, wlp_get]
      refine leads_bind (h₃.restores hr₃) fun _ slot₄ stage₄ c₄ h₄ hs₄ => ?_
      refine wlp_mono (h₄.spared (beside_modify (fun _ => rfl) fun _ => rfl)) (fun _ _ hl => hl.mono fun _ _ _ hs => ?_)
        fun _ _ hl => hl.mono fun _ _ _ hs => ?_
      · obtain ⟨hlike, rfl⟩ := hs
        exact ⟨razed_like hlike hs₄.1, hlike.status ▸ hs₄.2⟩
      · obtain ⟨hlike, rfl⟩ := hs
        exact razed_like hlike hs₄.1
    · refine leads_bind (Razes.at (razes_modify (fun _ => rfl) fun _ => rfl) h₃ hr₃) fun _ slot₄ stage₄ c₄ h₄ hr₄ => ?_
      refine leads_bind (Razes.at razes_markResetFailed h₄ hr₄) fun _ slot₅ stage₅ c₅ h₅ hr₅ => ?_
      exact wlp_fail.mpr (h₅.leads hr₅)
  refine wlp_mono (wlp_and hrazed (wlp_of_wp (reset_along hc))) (fun _ c' hl => ?_) fun _ c' hl => hl.1.recovered hl.2.2.recovered
  obtain ⟨slot', stage', h', hpath, hrazed', hrests⟩ := hl.1
  refine Leads.rested ⟨slot', stage', h', hpath, hrazed'⟩ (fun slot'' known => ?_) hl.2.2.calm.collected
  rw [← Option.some.inj (h'.known.symm.trans known)]
  exact hrests

end Recover

section Info

variable {failure : Option CaSlotFailure} {new : CaSlotStatus}

theorem At.dropTo (h : c.At count slotId slot stage) (hnew : new.Rests) :
    wlp (dropTo slotId failure new)
      (fun _ => Leads count slotId ⟨slot, c.trace, stage⟩ fun slot' stage' _ => Razed slot' stage' ∧ slot'.status.Rests)
      (fun _ _ => True) c := by
  rw [CiController.dropTo, wlp_bind]
  refine wlp_mono h.dropSlot (fun _ c₁ hl => ?_) fun _ _ _ => trivial
  obtain ⟨slot₁, stage₁, h₁, hpath₁, rfl, reply, rfl⟩ := hl
  have heeds : Heeds slot₁ (.gone reply) := fun _ hr => .inr (congrArg _ hr)
  rw [wlp_bind]
  refine wlp_mono (h₁.collectSessionEvents heeds) (fun _ c₂ hl => ?_) fun _ _ _ => trivial
  obtain ⟨slot₂, stage₂, h₂, hpath₂, _, rfl, _⟩ := hl.before hpath₁
  have hwreck := @At.wreck _ _ _ _ _ untimed h₂ fun hc => hc
  rw [wlp_bind, clearSlotTimers, h₂.wlp_modifySlot]
  obtain ⟨slot₃, stage₃, h₃, hpath₃, rfl, rfl⟩ := hwreck.before hpath₂
  have hrazed : Razed (untimed slot₂) (.gone reply) := ⟨⟨reply, rfl⟩, rfl, rfl⟩
  have hclose {c₃ : CiController} {slot₃ : ControllerSlot} {stage₃ : SlotStage} (h₃ : c₃.At count slotId slot₃ stage₃)
      (hr₃ : Razed slot₃ stage₃) : wlp (do
        setCamStatus slotId .none
        CiController.setSlotStatus slotId new)
      (fun _ => Leads count slotId ⟨slot₃, c₃.trace, stage₃⟩ fun slot' stage' _ =>
        Razed slot' stage' ∧ slot'.status.Rests)
      (fun _ => Leads count slotId ⟨slot₃, c₃.trace, stage₃⟩ fun slot' stage' _ => Razed slot' stage') c₃ := by
    refine leads_bind (Razes.at (razes_of_spares (beside_setCamStatus .none)) h₃ hr₃) fun _ slot₄ stage₄ c₄ h₄ hr₄ => ?_
    obtain ⟨⟨reply, rfl⟩, htimeless⟩ := hr₄
    refine wlp_mono (h₄.setRest hnew) (fun _ _ hl => hl.mono fun slot' _ _ hs => ?_) fun _ _ hl => hl
    obtain ⟨rfl, rfl⟩ := hs
    exact ⟨⟨⟨reply, rfl⟩, htimeless⟩, hnew⟩
  dsimp only
  split
  · refine wlp_mono (leads_bind (Razes.at (razes_of_spares (beside_pushEvent _)) h₃ hrazed)
      fun _ slot₄ stage₄ c₄ h₄ hr₄ => hclose h₄ hr₄) (fun _ _ hl => hl.before hpath₃) fun _ _ _ => trivial
  · exact wlp_mono (hclose h₃ hrazed) (fun _ _ hl => hl.before hpath₃) fun _ _ _ => trivial

theorem At.dropToOther (h : c.At count slotId slot .idle) (hne : other ≠ slotId) :
    wlp (CiController.dropTo other failure new)
      (fun _ => Leads count slotId ⟨slot, c.trace, .idle⟩ fun _ stage' _ => stage' = .idle)
      (fun _ => Leads count slotId ⟨slot, c.trace, .idle⟩ fun _ stage' _ => stage' = .idle) c := by
  have hspared {α : Type} {m : Act Error CiController α} (hm : Spares slotId m) {c : CiController} {slot : ControllerSlot}
      (h : c.At count slotId slot .idle) : wlp m
        (fun _ => Leads count slotId ⟨slot, c.trace, .idle⟩ fun _ stage' _ => stage' = .idle)
        (fun _ => Leads count slotId ⟨slot, c.trace, .idle⟩ fun _ stage' _ => stage' = .idle) c :=
    wlp_mono (h.spared hm) (fun _ _ hl => hl.mono fun _ _ _ hs => hs.2) fun _ _ hl => hl.mono fun _ _ _ hs => hs.2
  rw [CiController.dropTo]
  refine leads_bind (hspared (beside_dropSlot hne) h) fun _ slot₁ stage₁ c₁ h₁ hs₁ => ?_
  subst hs₁
  refine leads_bind (wlp_mono (h₁.collectSessionEvents fun _ => nofun) (fun _ _ hl => hl.mono fun _ _ _ hs => hs.2.1)
    fun _ _ hl => hl.mono fun _ _ _ hs => hs.2) fun _ slot₂ stage₂ c₂ h₂ hs₂ => ?_
  subst hs₂
  refine hspared ?_ h₂
  apply keeps_bind .trans (beside_clearSlotTimers hne)
  intro _
  have hclose : Spares slotId (do
      setCamStatus other .none
      CiController.setSlotStatus other new) :=
    keeps_bind .trans (beside_setCamStatus .none) fun _ => beside_setSlotStatus hne new
  dsimp only
  split
  · exact keeps_bind .trans (beside_pushEvent _) fun _ => hclose
  · exact hclose

def Calmed (slot : ControllerSlot) (stage : SlotStage) : Prop := stage = .idle ∨ Razed slot stage ∧ slot.status.Rests

theorem At.applySlotInfo (h : c.At count slotId slot .idle) (info : CaSlotInfo) :
    wlp (applySlotInfo other info)
      (fun _ => Leads count slotId ⟨slot, c.trace, .idle⟩ fun slot' stage' _ => Calmed slot' stage')
      (fun _ _ => True) c := by
  have hmodify (present ready : Bool) : Spares slotId (CiController.modifySlot other ({ · with present, ready })) :=
    beside_modifySlot fun _ _ => ⟨rfl, rfl, rfl, rfl⟩
  unfold CiController.applySlotInfo
  dsimp only
  rw [wlp_bind]
  refine wlp_mono (h.spared (hmodify _ _)) (fun _ c₁ hl => ?_) fun _ _ _ => trivial
  obtain ⟨slot₁, stage₁, h₁, hpath₁, hlike₁, rfl⟩ := hl
  have hidle {m : Act Error CiController Unit} {E : Error → CiController → Prop}
      (hm : wlp m (fun _ => Leads count slotId ⟨slot₁, c₁.trace, .idle⟩ fun _ stage' _ => stage' = .idle) E c₁) :
      wlp m (fun _ => Leads count slotId ⟨slot, c.trace, .idle⟩ fun slot' stage' _ => Calmed slot' stage')
        (fun _ _ => True) c₁ :=
    wlp_mono hm (fun _ _ hl => (hl.before hpath₁).mono fun _ _ _ hs => .inl hs) fun _ _ _ => trivial
  have hnothing : wlp (pure () : Act Error CiController Unit)
      (fun _ => Leads count slotId ⟨slot, c.trace, .idle⟩ fun slot' stage' _ => Calmed slot' stage')
      (fun _ _ => True) c₁ := @hidle _ (fun _ _ => True) (wlp_pure.mpr (h₁.leads rfl))
  by_cases heq : other = slotId
  · subst heq
    have hdrop {failure : Option CaSlotFailure} {new : CaSlotStatus} (hnew : new.Rests) :
        wlp (CiController.dropTo other failure new)
          (fun _ => Leads count other ⟨slot, c.trace, .idle⟩ fun slot' stage' _ => Calmed slot' stage')
          (fun _ _ => True) c₁ :=
      wlp_mono (h₁.dropTo hnew) (fun _ _ hl => (hl.before hpath₁).mono fun _ _ _ hs => .inr hs) fun _ _ _ => trivial
    rw [wlp_bind, h₁.wlp_slotAt]
    split
    · split
      · exact hdrop CaSlotStatus.rests_absent
      · exact hnothing
    · split
      · split
        · exact hdrop CaSlotStatus.rests_failed
        · exact hnothing
      · split
        · next habsent =>
            have hrests : slot₁.status.Rests := habsent ▸ CaSlotStatus.rests_absent
            refine @hidle _ (fun _ _ => True) ?_
            rw [h₁.wlp_setSlotStatus, if_neg (by rw [habsent]; decide)]
            exact @Leads.of_step _ _ _ _ _ { slot₁ with status := .present } .idle
              (.turned hrests CaSlotStatus.rests_present rfl rfl) (h₁.turn _ _) rfl
        · split
          · exact hdrop CaSlotStatus.rests_present
          · exact hnothing
  · rw [wlp_bind]
    refine wlp_mono (h₁.spared beside_slotAt) (fun slot₂ c₂ hl => ?_) fun _ _ _ => trivial
    obtain ⟨slot₃, stage₃, h₃, hpath₃, _, rfl⟩ := hl.before hpath₁
    have hends {m : Act Error CiController Unit} {E : Error → CiController → Prop}
        (hm : wlp m (fun _ => Leads count slotId ⟨slot₃, c₂.trace, .idle⟩ fun _ stage' _ => stage' = .idle) E c₂) :
        wlp m (fun _ => Leads count slotId ⟨slot, c.trace, .idle⟩ fun slot' stage' _ => Calmed slot' stage')
          (fun _ _ => True) c₂ :=
      wlp_mono hm (fun _ _ hl => (hl.before hpath₃).mono fun _ _ _ hs => .inl hs) fun _ _ _ => trivial
    have hstays : wlp (pure () : Act Error CiController Unit)
        (fun _ => Leads count slotId ⟨slot, c.trace, .idle⟩ fun slot' stage' _ => Calmed slot' stage')
        (fun _ _ => True) c₂ := @hends _ (fun _ _ => True) (wlp_pure.mpr (h₃.leads rfl))
    split
    · split
      · exact hends (h₃.dropToOther heq)
      · exact hstays
    · split
      · split
        · exact hends (h₃.dropToOther heq)
        · exact hstays
      · split
        · exact hends (wlp_mono (h₃.spared (beside_setSlotStatus heq .present))
            (fun _ _ hl => hl.mono fun _ _ _ hs => hs.2) fun _ _ hl => hl)
        · split
          · exact hends (h₃.dropToOther heq)
          · exact hstays

theorem Leads.calmed (h : Leads count slotId v (fun slot stage _ => Calmed slot stage) c)
    (hevents : c.session.events = []) : Leads count slotId v (fun _ stage _ => stage = .idle) c := by
  obtain ⟨slot, stage, hat, hpath, rfl | ⟨hrazed, hrests⟩⟩ := h
  · exact ⟨slot, _, hat, hpath, rfl⟩
  · refine (Leads.rested ⟨slot, stage, hat, hpath, hrazed⟩ (fun slot' known => ?_) hevents).mono fun _ _ _ hs => hs.1
    rw [← Option.some.inj (hat.known.symm.trans known)]
    exact hrests

theorem At.slotInfos (now : Instant) : ∀ (ids : List UInt8) (c : CiController) (slot : ControllerSlot), c.Calm →
    c.lastTick = some now → c.At count slotId slot .idle → wlp (slotInfos now ids)
      (fun _ => Leads count slotId ⟨slot, c.trace, .idle⟩ fun _ stage' _ => stage' = .idle)
      (fun _ => Leads count slotId ⟨slot, c.trace, .idle⟩ fun _ stage' _ => stage' = .idle) c := by
  intro ids
  induction ids with
  | nil => exact fun c slot _ _ h => wlp_pure.mpr (h.leads rfl)
  | cons other rest ih =>
      intro c slot hc ticked h
      have hprobed : wlp (ioSlotInfo other) (fun _ c' => c'.Calm ∧ c'.lastTick = some now)
          (fun _ c' => c'.Calm ∧ c'.lastTick = some now) c := by
        refine wlp_of_wp (wp_mono (ioSlotInfo_spec c) (fun _ c' hc' => ?_) fun _ c' hc' => ?_)
        · rw [hc']
          exact ⟨hc.probed other, ticked⟩
        · rw [hc']
          exact ⟨hc.probed other, ticked⟩
      have hinfo := wlp_and hprobed (h.spared (beside_ioSlotInfo : Spares slotId (CiController.ioSlotInfo other)))
      rw [CiController.slotInfos, wlp_bind, wlp_attempt]
      refine wlp_mono hinfo (fun info c₁ hl => ?_) fun e c₁ hl => ?_
      · obtain ⟨⟨hc₁, ticked₁⟩, slot₁, stage₁, h₁, hpath₁, _, rfl⟩ := hl
        rw [wlp_bind]
        refine wlp_mono (ih c₁ slot₁ hc₁ ticked₁ h₁) (fun _ _ hl => wlp_pure.mpr (hl.before hpath₁))
          fun _ _ hl => hl.before hpath₁
      · obtain ⟨⟨hc₁, ticked₁⟩, slot₁, stage₁, h₁, hpath₁, _, rfl⟩ := hl
        rw [wlp_bind, wlp_attempt]
        refine wlp_mono (h₁.recovers hc₁.sound ticked₁ _ _) (fun _ _ hl => wlp_fail.mpr ?_) fun _ _ hl => wlp_fail.mpr ?_
        · exact (hl.before hpath₁).mono fun _ _ _ hs => hs.1
        · exact (hl.before hpath₁).mono fun _ _ _ hs => hs.1

theorem At.refreshSlotInfo (h : c.At count slotId slot .idle) (hc : c.Calm) {now : Instant}
    (ticked : c.lastTick = some now) :
    wlp (refreshSlotInfo now) (fun _ => Leads count slotId ⟨slot, c.trace, .idle⟩ fun _ stage' _ => stage' = .idle)
      (fun _ => Leads count slotId ⟨slot, c.trace, .idle⟩ fun _ stage' _ => stage' = .idle) c := by
  have happly : ∀ (infos : List (UInt8 × CaSlotInfo)) (c : CiController) (slot : ControllerSlot), c.Calm →
      (∀ entry ∈ infos, entry.1.toNat < c.slots.length) → c.At count slotId slot .idle →
      wlp (Act.forEach infos fun entry => CiController.applySlotInfo entry.1 entry.2)
        (fun _ => Leads count slotId ⟨slot, c.trace, .idle⟩ fun _ stage' _ => stage' = .idle)
        (fun _ => Leads count slotId ⟨slot, c.trace, .idle⟩ fun _ stage' _ => stage' = .idle) c := by
    intro infos
    induction infos with
    | nil => exact fun c slot _ _ h => wlp_pure.mpr (h.leads rfl)
    | cons entry rest ih =>
        intro c slot hc hlt h
        have hstep : wlp (CiController.applySlotInfo entry.1 entry.2)
            (fun _ => Leads count slotId ⟨slot, c.trace, .idle⟩ fun _ stage' c' =>
              stage' = .idle ∧ Works c c' ∧ c'.Calm)
            (fun _ => Leads count slotId ⟨slot, c.trace, .idle⟩ fun _ stage' _ => stage' = .idle) c :=
          wlp_mono (wlp_and (h.applySlotInfo entry.2)
              (wlp_of_wp (applySlotInfo_along hc (hlt entry List.mem_cons_self) entry.2)))
            (fun _ _ hl => (hl.1.calmed hl.2.2.collected).mono fun _ _ _ hs => ⟨hs, hl.2⟩) fun _ _ hl => hl.2.2.elim
        refine leads_bind hstep fun _ slot₁ stage₁ c₁ h₁ hs₁ => ?_
        obtain ⟨rfl, hworks, hc₁⟩ := hs₁
        refine ih c₁ slot₁ hc₁ (fun entry' hmem => ?_) h₁
        rw [hworks.keeps.count]
        exact hlt entry' (List.mem_cons_of_mem _ hmem)
  rw [CiController.refreshSlotInfo, wlp_bind, wlp_get]
  have hinfos := leads_with (At.slotInfos now c.slotIds c slot hc ticked h)
    (wlp_of_wp (slotInfos_along now c.slotIds c hc ticked))
  refine leads_bind (wlp_mono hinfos (fun _ _ hl => hl) fun _ _ hl => hl.mono fun _ _ _ hs => hs.1)
    fun infos slot₁ stage₁ c₁ h₁ hs₁ => ?_
  obtain ⟨rfl, hworks, hc₁, hmem⟩ := hs₁
  refine happly infos c₁ slot₁ hc₁ (fun entry hentry => ?_) h₁
  rw [hworks.keeps.count]
  exact (CiController.mem_slotIds hc.sound.count_le).mp (hmem entry hentry)

end Info

end CiController

end LibDvb
