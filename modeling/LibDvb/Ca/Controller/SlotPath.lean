import LibDvb.Ca.Controller.Beside

namespace LibDvb

open Relation Act Outcome

def Waits (since now : Instant) (timeout : Duration) : Prop := since = now ∨ elapsed since now timeout = false

structure ControllerSlot.Timed (config : CiControllerConfig) (now : Instant) (slot : ControllerSlot) : Prop where
  create : slot.status = .creatingTc → ∀ since, slot.createSince = some since →
    Waits since now config.createTcTimeout
  write : slot.status = .creatingTc → slot.createSince = none → ∀ since, slot.commandSince = some since →
    Waits since now config.responseTimeout
  command : slot.status = .active → ∀ since, slot.commandSince = some since → Waits since now config.responseTimeout

def ControllerSlot.Watched (transport : TransportSlot) (slot : ControllerSlot) : Prop :=
  slot.status = .active → transport.busy = true ∨ transport.queue ≠ [] → slot.commandSince ≠ none

theorem ControllerSlot.timed_of_rests {slot : ControllerSlot} (h : slot.status.Rests) (config : CiControllerConfig)
    (now : Instant) : slot.Timed config now :=
  ⟨fun hc => absurd hc h.1, fun hc => absurd hc h.1, fun ha => absurd ha h.2⟩

theorem ControllerSlot.timed_of_timeless {slot : ControllerSlot} (h : slot.Timeless) (config : CiControllerConfig)
    (now : Instant) : slot.Timed config now := by
  refine ⟨fun _ since hcreate => ?_, fun _ _ since hcommand => ?_, fun _ since hcommand => ?_⟩
  · rw [h.1] at hcreate
    cases hcreate
  · rw [h.2] at hcommand
    cases hcommand
  · rw [h.2] at hcommand
    cases hcommand

theorem ControllerSlot.watched_of_ne {slot : ControllerSlot} (h : slot.status ≠ .active) (transport : TransportSlot) :
    slot.Watched transport := fun ha => absurd ha h

theorem ControllerSlot.Timed.marked {slot : ControllerSlot} {config : CiControllerConfig} {now : Instant}
    (h : slot.Timed config now) (transport : TransportSlot) : (slot.marked now transport).Timed config now := by
  have hset {timeout : Duration} (hwaits : ∀ since, slot.commandSince = some since → Waits since now timeout) :
      ∀ since, some (slot.commandSince.getD now) = some since → Waits since now timeout := by
    intro since hsome
    rw [Option.some.injEq] at hsome
    cases hcommand : slot.commandSince with
    | none =>
        rw [hcommand] at hsome
        exact .inl hsome.symm
    | some stamp =>
        rw [hcommand] at hsome
        exact hwaits since (hsome ▸ hcommand)
  unfold ControllerSlot.marked
  split
  · next hcreating =>
      exact ⟨fun _ since hcreate => .inl (Option.some.inj hcreate).symm, fun _ hnone => absurd hnone (Option.some_ne_none now),
        fun ha => absurd (hcreating.1.symm.trans ha) (by decide)⟩
  · split
    · next hcreating =>
        exact ⟨h.create, fun hc hnone => hset (h.write hc hnone), fun ha => absurd (hcreating.1.symm.trans ha) (by decide)⟩
    · split
      · next hactive =>
          have hne : slot.status ≠ .creatingTc := by
            rw [hactive.1]
            decide
          exact ⟨fun hc => absurd hc hne, fun hc => absurd hc hne, fun ha => hset (h.command ha)⟩
      · exact h

theorem ControllerSlot.watched_marked (now : Instant) (transport : TransportSlot) (slot : ControllerSlot) :
    (slot.marked now transport).Watched transport := by
  intro hactive hwaits
  rw [marked_status] at hactive
  have hne : slot.status ≠ .creatingTc := by
    rw [hactive]
    decide
  rw [marked, if_neg fun hc => hne hc.1, if_neg fun hc => hne hc.1, if_pos ⟨hactive, hwaits⟩]
  exact Option.some_ne_none _

theorem ControllerSlot.marked_rests {slot : ControllerSlot} (h : slot.status.Rests) (now : Instant)
    (transport : TransportSlot) : slot.marked now transport = slot := by
  simp [marked, h.1, h.2]

theorem ControllerSlot.marked_kept (now : Instant) (transport : TransportSlot) (slot : ControllerSlot) :
    (slot.marked now transport).status = slot.status ∧
      (slot.marked now transport).receivePending = slot.receivePending := by
  unfold marked
  split
  · exact ⟨rfl, rfl⟩
  · split
    · exact ⟨rfl, rfl⟩
    · split <;> exact ⟨rfl, rfl⟩

theorem ControllerSlot.marked_create {slot : ControllerSlot} (h : slot.status ≠ .creatingTc) (now : Instant)
    (transport : TransportSlot) : (slot.marked now transport).createSince = slot.createSince := by
  unfold marked
  rw [if_neg fun hc => h hc.1, if_neg fun hc => h hc.1]
  split <;> rfl

namespace CiController

variable {c c' : CiController} {count : Nat} {slotId : UInt8} {slot : ControllerSlot} {stage : SlotStage}
  {v : SlotView}

-- The controller holds the slot at a stage, and its transport has followed the history.
structure At (count : Nat) (slotId : UInt8) (slot : ControllerSlot) (stage : SlotStage) (c : CiController) :
    Prop where
  known : c.slots[slotId.toNat]? = some slot
  bound : slotId.toNat < count
  small : count ≤ 255
  wide : c.slots.length = count
  replayed : c.session.transport.slots = replay count c.trace
  unready : stage.replied = false → .transportReady slotId ∉ c.session.events

def Leads (count : Nat) (slotId : UInt8) (v : SlotView) (S : ControllerSlot → SlotStage → CiController → Prop)
    (c : CiController) : Prop :=
  ∃ slot stage, c.At count slotId slot stage ∧
    ReflTransGen (SlotStep (UInt8.ofNat count) slotId) v ⟨slot, c.trace, stage⟩ ∧ S slot stage c

abbrev past (count : Nat) (slotId : UInt8) (c : CiController) : TransportSlot :=
  slotHistory (UInt8.ofNat count) slotId c.trace

section Basics

variable {S T : ControllerSlot → SlotStage → CiController → Prop}

theorem At.length (h : c.At count slotId slot stage) : c.session.transport.slots.length = count := by
  rw [h.replayed, length_replay]

theorem At.transport (h : c.At count slotId slot stage) :
    c.session.transport.slots[slotId.toNat]? = some (c.past count slotId) := by
  rw [h.replayed, getElem?_replay h.bound]

theorem At.hasSlot (h : c.At count slotId slot stage) : slotId.toNat < c.session.transport.slots.length := by
  rw [h.length]
  exact h.bound

theorem At.isBusy (h : c.At count slotId slot stage) :
    c.session.transport.isBusy slotId = (c.past count slotId).busy := by
  rw [CiTransport.isBusy, h.transport]

theorem At.queueLen (h : c.At count slotId slot stage) :
    c.session.transport.queueLen slotId = (c.past count slotId).queue.length := by
  rw [CiTransport.queueLen, h.transport]

theorem At.mem_slotIds (h : c.At count slotId slot stage) : slotId ∈ c.slotIds :=
  (CiController.mem_slotIds (h.wide.trans_le h.small)).mpr (slotId_lt h.known)

theorem At.edit (h : c.At count slotId slot stage) (f : ControllerSlot → ControllerSlot) :
    (c.edit slotId f).At count slotId (f slot) stage :=
  ⟨known_edit h.known f, h.bound, h.small, length_edit.trans h.wide, h.replayed, h.unready⟩

theorem At.leads (h : c.At count slotId slot stage) (hs : S slot stage c) :
    Leads count slotId ⟨slot, c.trace, stage⟩ S c := ⟨slot, stage, h, .refl, hs⟩

theorem Leads.of_step {slot' : ControllerSlot} {stage' : SlotStage}
    (hstep : SlotStep (UInt8.ofNat count) slotId v ⟨slot', c'.trace, stage'⟩) (h : c'.At count slotId slot' stage')
    (hs : S slot' stage' c') : Leads count slotId v S c' := ⟨slot', stage', h, .single hstep, hs⟩

theorem Leads.mono (h : Leads count slotId v S c)
    (hs : ∀ slot stage, c.At count slotId slot stage → S slot stage c → T slot stage c) : Leads count slotId v T c := by
  obtain ⟨slot, stage, hat, hpath, hS⟩ := h
  exact ⟨slot, stage, hat, hpath, hs slot stage hat hS⟩

theorem Leads.bind (h : Leads count slotId v S c)
    (ht : ∀ slot stage, c.At count slotId slot stage → S slot stage c →
      Leads count slotId ⟨slot, c.trace, stage⟩ T c') : Leads count slotId v T c' := by
  obtain ⟨slot, stage, hat, hpath, hS⟩ := h
  obtain ⟨slot', stage', hat', hpath', hT⟩ := ht slot stage hat hS
  exact ⟨slot', stage', hat', hpath.trans hpath', hT⟩

theorem Leads.before {v' : SlotView} (h : Leads count slotId v' S c)
    (hpath : ReflTransGen (SlotStep (UInt8.ofNat count) slotId) v v') : Leads count slotId v S c := by
  obtain ⟨slot, stage, hat, hpath', hS⟩ := h
  exact ⟨slot, stage, hat, hpath.trans hpath', hS⟩

theorem leads_bind {α β : Type} {m : Act Error CiController α} {f : α → Act Error CiController β}
    {S : α → ControllerSlot → SlotStage → CiController → Prop}
    {Q : β → ControllerSlot → SlotStage → CiController → Prop}
    {T : Error → ControllerSlot → SlotStage → CiController → Prop}
    (hm : wlp m (fun a => Leads count slotId v (S a)) (fun e => Leads count slotId v (T e)) c)
    (hf : ∀ a slot stage c₁, c₁.At count slotId slot stage → S a slot stage c₁ →
      wlp (f a) (fun b => Leads count slotId ⟨slot, c₁.trace, stage⟩ (Q b))
        (fun e => Leads count slotId ⟨slot, c₁.trace, stage⟩ (T e)) c₁) :
    wlp (m >>= f) (fun b => Leads count slotId v (Q b)) (fun e => Leads count slotId v (T e)) c := by
  rw [wlp_bind]
  refine wlp_mono hm (fun a c₁ h => ?_) fun _ _ h => h
  obtain ⟨slot, stage, hat, hpath, hS⟩ := h
  exact wlp_mono (hf a slot stage c₁ hat hS) (fun _ _ h' => h'.before hpath) fun _ _ h' => h'.before hpath

theorem leads_with {α : Type} {m : Act Error CiController α} {P : α → CiController → Prop}
    {F : Error → CiController → Prop}
    {S : α → ControllerSlot → SlotStage → CiController → Prop}
    {T : Error → ControllerSlot → SlotStage → CiController → Prop}
    (h : wlp m (fun a => Leads count slotId v (S a)) (fun e => Leads count slotId v (T e)) c) (hp : wlp m P F c) :
    wlp m (fun a => Leads count slotId v fun slot stage c' => S a slot stage c' ∧ P a c')
      (fun e => Leads count slotId v fun slot stage c' => T e slot stage c' ∧ F e c') c :=
  wlp_mono (wlp_and h hp) (fun _ _ h => h.1.mono fun _ _ _ hS => ⟨hS, h.2⟩)
    fun _ _ h => h.1.mono fun _ _ _ hT => ⟨hT, h.2⟩

theorem At.follows {A : Obs → Prop} {slot' : ControllerSlot} {stage' : SlotStage} (h : c.At count slotId slot stage)
    (count' : c'.slots.length = c.slots.length) (known : c'.slots[slotId.toNat]? = some slot')
    (within : CiTransport.Within A c.session.transport c'.session.transport)
    (unready : stage'.replied = false → .transportReady slotId ∉ c'.session.events) :
    c'.At count slotId slot' stage' ∧ ∃ delta, c'.trace = c.trace ++ delta ∧ ∀ obs ∈ delta, A obs := by
  obtain ⟨delta, htrace, hslots, hall⟩ := within
  refine ⟨⟨known, h.bound, h.small, count'.trans h.wide, ?_, unready⟩, delta, htrace, hall⟩
  rw [hslots, h.replayed, ← replay_append, ← htrace]

theorem At.moved {obs : Obs} {t : CiTransport} {stage' : SlotStage} (h : c.At count slotId slot stage)
    (hmove : CiTransport.Move obs c.session.transport t) (unready : stage'.replied = false → stage.replied = false) :
    (c.withTransport t).At count slotId slot stage' ∧ (c.withTransport t).trace = c.trace ++ [obs] := by
  refine ⟨⟨h.known, h.bound, h.small, h.wide, ?_, fun hr => h.unready (unready hr)⟩, hmove.trace⟩
  show t.slots = replay count t.trace
  rw [hmove.slots, hmove.trace, h.replayed, replay_snoc]

theorem edit_congr (known : c.slots[slotId.toNat]? = some slot) {f g : ControllerSlot → ControllerSlot}
    (h : f slot = g slot) : c.edit slotId f = c.edit slotId g := by
  have hslots : c.slots.modify slotId.toNat f = c.slots.modify slotId.toNat g := by
    refine List.ext_getElem? fun i => ?_
    rw [List.getElem?_modify, List.getElem?_modify]
    split
    · next heq =>
        rw [← heq, known]
        exact congrArg some h
    · rfl
  rw [CiController.edit, CiController.edit, hslots]

theorem At.beside (h : c.At count slotId slot stage) (hb : Beside slotId c c') :
    Leads count slotId ⟨slot, c.trace, stage⟩ (fun slot' stage' _ => slot.Like slot' ∧ stage' = stage) c' := by
  obtain ⟨slot', known', hlike⟩ := hb.view slot h.known
  obtain ⟨hat, delta, htrace, hall⟩ := h.follows hb.count known' hb.within fun hr hmem => h.unready hr (hb.unready hmem)
  refine ⟨slot', stage, hat, ?_, hlike, rfl⟩
  rw [htrace]
  exact .head (.aside (fun obs hmem => (hall obs hmem).1) (still_of_foreign hall))
    (.single (.edited hlike.status hlike.createSince (fun _ => hlike.commandSince) hlike.receivePending))

theorem At.spared {α : Type} {m : Act Error CiController α} (h : c.At count slotId slot stage)
    (hm : Spares slotId m) :
    wlp m (fun _ => Leads count slotId ⟨slot, c.trace, stage⟩ fun slot' stage' _ => slot.Like slot' ∧ stage' = stage)
      (fun _ => Leads count slotId ⟨slot, c.trace, stage⟩ fun slot' stage' _ => slot.Like slot' ∧ stage' = stage) c :=
  wlp_mono (hm c) (fun _ _ hb => h.beside hb) fun _ _ hb => h.beside hb

variable {Q : Unit → CiController → Prop} {E : Error → CiController → Prop}

theorem At.wlp_slotAt {Q : ControllerSlot → CiController → Prop} (h : c.At count slotId slot stage) :
    wlp (slotAt slotId) Q E c ↔ Q slot c :=
  wlp_run (run_of_wp ((wp_slotAt_known h.known).mpr ⟨rfl, rfl⟩))

theorem At.wlp_modifySlot (h : c.At count slotId slot stage) {f : ControllerSlot → ControllerSlot} :
    wlp (modifySlot slotId f) Q E c ↔ Q () (c.edit slotId f) :=
  wlp_run (run_of_wp ((wp_modifySlot h.known).mpr ⟨rfl, rfl⟩))

theorem At.wlp_setSlotStatus (h : c.At count slotId slot stage) {new : CaSlotStatus} :
    wlp (setSlotStatus slotId new) Q E c ↔
      Q () (if slot.status = new then c else c.turn slotId slot.status new) :=
  wlp_run (run_of_wp ((wp_setSlotStatus h.known).mpr ⟨rfl, rfl⟩))

theorem At.wlp_markOutstanding (h : c.At count slotId slot stage) {now : Instant} :
    wlp (markOutstanding slotId now) Q E c ↔
      Q () (c.edit slotId (ControllerSlot.marked now (c.past count slotId))) := by
  have hqueue : c.session.transport.queueLen slotId ≠ 0 ↔ (c.past count slotId).queue ≠ [] := by
    rw [h.queueLen, ne_eq, List.length_eq_zero_iff]
  have hedit {f : ControllerSlot → ControllerSlot} (hf : slot.marked now (c.past count slotId) = f slot) :
      c.edit slotId (ControllerSlot.marked now (c.past count slotId)) = c.edit slotId f := edit_congr h.known hf
  rw [markOutstanding, wlp_bind, wlp_get]
  dsimp only
  rw [wlp_bind, h.wlp_slotAt, h.isBusy]
  split
  · next hfirst => rw [h.wlp_modifySlot, hedit (by rw [ControllerSlot.marked, if_pos hfirst])]
  · next hfirst =>
      split
      · next hsecond =>
          rw [hqueue] at hsecond
          rw [h.wlp_modifySlot, hedit (by rw [ControllerSlot.marked, if_neg hfirst, if_pos hsecond])]
      · next hsecond =>
          rw [hqueue] at hsecond
          split
          · next hthird =>
              rw [hqueue] at hthird
              rw [h.wlp_modifySlot, hedit (by
                rw [ControllerSlot.marked, if_neg hfirst, if_neg hsecond, if_pos hthird])]
          · next hthird =>
              rw [hqueue] at hthird
              rw [wlp_pure, edit_self h.known (by
                rw [ControllerSlot.marked, if_neg hfirst, if_neg hsecond, if_neg hthird])]

theorem At.turn (h : c.At count slotId slot stage) (old new : CaSlotStatus) :
    (c.turn slotId old new).At count slotId { slot with status := new } stage := by
  have hedit := h.edit ({ · with status := new })
  exact ⟨hedit.known, h.bound, h.small, hedit.wide, h.replayed, h.unready⟩

theorem At.setSlotStatus (h : c.At count slotId slot stage) (new : CaSlotStatus) :
    (if slot.status = new then c else c.turn slotId slot.status new).At count slotId
      { slot with status := new } stage := by
  split
  · next hsame => exact hsame ▸ h
  · exact h.turn _ _

theorem At.staged {stage' : SlotStage} (h : c.At count slotId slot stage)
    (unready : stage'.replied = false → .transportReady slotId ∉ c.session.events) :
    c.At count slotId slot stage' := ⟨h.known, h.bound, h.small, h.wide, h.replayed, unready⟩

end Basics

section Send

def Flushed (slotId : UInt8) (c c' : CiController) : Prop :=
  c' = c ∨ ∃ t frame result callback, c' = c.withTransport t ∧
    CiTransport.Move (.wrote slotId frame result callback) c.session.transport t ∧
      (Obs.wrote slotId frame result callback).refused = false

def Refusing (slotId : UInt8) (c c' : CiController) : Prop :=
  ∃ t frame result callback, c' = c.withTransport t ∧
    CiTransport.Move (.wrote slotId frame result callback) c.session.transport t

theorem At.flush (h : c.At count slotId slot stage) :
    wlp (zoom transportLens (CiTransport.flush slotId)) (fun _ => Flushed slotId c) (fun _ => Refusing slotId c) c := by
  rw [wlp_zoom, CiTransport.flush, wlp_bind]
  refine wlp_of_wp ((CiTransport.wp_checkSlot h.hasSlot).mpr ?_)
  refine wlp_mono (wlp_of_wp (CiTransport.flushSlot_wrote h.hasSlot)) (fun _ t ht => ?_) fun e t ht => ?_
  · rcases ht with rfl | ⟨frame, result, hmove, htransient⟩
    · exact .inl rfl
    · refine .inr ⟨t, frame, result, _, rfl, hmove, ?_⟩
      cases result with
      | ok _ => rfl
      | error e =>
          show (!e.transient) = false
          rw [htransient e rfl]
          rfl
  · obtain ⟨_, _, frame, hmove⟩ := ht
    exact ⟨t, frame, _, _, rfl, hmove⟩

theorem Flushed.slots (h : Flushed slotId c c') : c'.slots = c.slots := by
  rcases h with rfl | ⟨t, frame, result, callback, rfl, _⟩ <;> rfl

theorem Flushed.events (h : Flushed slotId c c') : c'.session.events = c.session.events := by
  rcases h with rfl | ⟨t, frame, result, callback, rfl, _⟩ <;> rfl

theorem At.flushed (h : c.At count slotId slot stage) (hf : Flushed slotId c c') :
    c'.At count slotId slot stage := by
  rcases hf with rfl | ⟨t, frame, result, callback, rfl, hmove, _⟩
  · exact h
  · exact (h.moved hmove fun hr => hr).1

theorem Flushed.path (h : Flushed slotId c c') (count : Nat) (slot : ControllerSlot) (hstage : stage.sent = stage) :
    ReflTransGen (SlotStep (UInt8.ofNat count) slotId) ⟨slot, c.trace, stage⟩ ⟨slot, c'.trace, stage⟩ := by
  rcases h with rfl | ⟨t, frame, result, callback, rfl, hmove, hkept⟩
  · exact .refl
  · have hstep : SlotStep (UInt8.ofNat count) slotId _ _ := @SlotStep.wrote _ _ slot c.trace stage _ _ _ hkept
    rw [hstage, ← hmove.trace] at hstep
    exact .single hstep

theorem Flushed.talk (h : Flushed slotId c c') (count : Nat) (status : slot.status ≠ .creatingTc) :
    ReflTransGen (SlotStep (UInt8.ofNat count) slotId) ⟨slot, c.trace, stage⟩ ⟨slot, c'.trace, stage⟩ := by
  rcases h with rfl | ⟨t, frame, result, callback, rfl, hmove, _⟩
  · exact .refl
  · have hstep : SlotStep (UInt8.ofNat count) slotId _ _ :=
      @SlotStep.talked _ _ slot c.trace stage [.wrote slotId frame result callback]
        (fun obs hmem => by rw [List.mem_singleton.mp hmem]; trivial) status
    rw [← hmove.trace] at hstep
    exact .single hstep

theorem At.refused {slot' : ControllerSlot} {stage' : SlotStage} (h : c.At count slotId slot stage)
    (hr : Refusing slotId c c') (status : slot.status = .creatingTc → slot'.status = .creatingTc)
    (kept : slot'.status = .creatingTc → slot'.createSince ≠ none → slot = slot') (hstage : stage'.replied = stage.replied) :
    Leads count slotId ⟨slot', c.trace, stage'⟩ (fun _ stage'' _ => ∃ reply, stage'' = .lost reply) c' := by
  obtain ⟨t, frame, result, callback, rfl, hmove⟩ := hr
  obtain ⟨hat, htrace⟩ := @At.moved c count slotId slot stage _ t (.lost stage'.replied) h hmove
    fun hr => hstage ▸ hr
  refine .of_step ?_ hat ⟨_, rfl⟩
  rw [htrace]
  exact .lost status kept

def queued (c : CiController) (slotId : UInt8) (frame : Bytes) : CiController :=
  c.withTransport { c.session.transport with
    slots := modifyAt slotId (fun slot => { slot with queue := slot.queue ++ [frame] }) c.session.transport.slots
    trace := c.trace ++ [.queued slotId frame] }

theorem At.queue (h : c.At count slotId slot stage) (frame : Bytes) :
    (c.queued slotId frame).At count slotId slot stage := by
  refine ⟨h.known, h.bound, h.small, h.wide, ?_, h.unready⟩
  show modifyAt _ _ c.session.transport.slots = replay count (c.trace ++ [.queued slotId frame])
  rw [replay_snoc, ← h.replayed]
  rfl

theorem At.ne_max (h : c.At count slotId slot stage) : slotId ≠ 255 := by
  rintro rfl
  have := h.bound
  have := h.small
  have hmax : (255 : UInt8).toNat = 255 := rfl
  omega

theorem At.sendTpdu {tag : TpduTag} {frame : Bytes} {Q : Unit → CiController → Prop}
    {E : Error → CiController → Prop} (h : c.At count slotId slot stage)
    (hbuild : Tpdu.build slotId tag [] = .ok frame) :
    wlp (zoom transportLens (CiTransport.sendTpdu slotId tag [])) Q E c ↔
      wlp (zoom transportLens (CiTransport.flush slotId)) Q E (c.queued slotId frame) := by
  have hcheck : CiTransport.checkSlot slotId c.session.transport = (.ok (), c.session.transport) :=
    run_of_wp ((CiTransport.wp_checkSlot h.hasSlot).mpr ⟨rfl, rfl⟩)
  have hmodify (f : TransportSlot → TransportSlot) : CiTransport.modifySlot slotId f c.session.transport =
      (.ok (), { c.session.transport with slots := modifyAt slotId f c.session.transport.slots }) :=
    run_of_wp (CiTransport.wp_modifySlot.mpr ⟨h.hasSlot, rfl, rfl⟩)
  refine wlp_congr ?_
  have hsend : CiTransport.sendTpdu slotId tag [] c.session.transport =
      CiTransport.flush slotId (c.queued slotId frame).session.transport := by
    rw [CiTransport.sendTpdu, bind_run hcheck, hbuild]
    exact bind_run (hmodify _)
  unfold zoom
  rw [show transportLens.get c = c.session.transport from rfl, hsend]
  rfl

theorem At.marks (h : c.At count slotId slot stage)
    (hstage : stage = .idle ∨ ∃ indicated reply, stage = .noted indicated reply)
    (hactive : slot.status = .active → stage = .idle) (hready : .transportReady slotId ∉ c.session.events)
    {E : Error → CiController → Prop} (now : Instant) :
    wlp (markOutstanding slotId now) (fun _ => Leads count slotId ⟨slot, c.trace, stage⟩ fun slot' stage' c' =>
      slot' = slot.marked now (c.past count slotId) ∧ stage' = .idle ∧
        c' = c.edit slotId (ControllerSlot.marked now (c.past count slotId))) E c := by
  rw [h.wlp_markOutstanding]
  have hat := (@At.staged _ _ _ _ _ .idle h fun _ => hready).edit (ControllerSlot.marked now (c.past count slotId))
  refine ⟨_, _, hat, ?_, rfl, rfl, rfl⟩
  obtain ⟨hstatus, hreceive⟩ := slot.marked_kept now (c.past count slotId)
  by_cases hcreating : slot.status = .creatingTc
  · exact .single (.marked now hcreating hstage)
  · by_cases hlive : slot.status = .active
    · rw [hactive hlive]
      exact .single (.edited hstatus (ControllerSlot.marked_create hcreating now _) (fun hne => absurd hlive hne)
        hreceive)
    · rw [ControllerSlot.marked_rests ⟨hcreating, hlive⟩ now (c.past count slotId)]
      rcases hstage with rfl | ⟨indicated, reply, rfl⟩
      · exact .refl
      · exact .single (.settled ⟨hcreating, hlive⟩)

theorem At.flushReceivePending (h : c.At count slotId slot .idle) (now : Instant) :
    wlp (flushReceivePending slotId now)
      (fun _ => Leads count slotId ⟨slot, c.trace, .idle⟩ fun slot' stage' c' =>
        stage' = .idle ∧ c'.session.events = c.session.events ∧ (slot' = slot ∧ c' = c ∨
          slot' = ControllerSlot.marked now (c'.past count slotId) { slot with receivePending := false }))
      (fun _ => Leads count slotId ⟨slot, c.trace, .idle⟩ fun _ stage' _ => ∃ reply, stage' = .lost reply) c := by
  rw [CiController.flushReceivePending, wlp_bind, h.wlp_slotAt, wlp_bind, wlp_get]
  dsimp only
  rw [h.isBusy, h.queueLen]
  split
  · exact wlp_pure.mpr (h.leads ⟨rfl, rfl, .inl ⟨rfl, rfl⟩⟩)
  · next hready =>
      simp only [not_or, ne_eq, not_not, Bool.not_eq_true', Bool.not_eq_true, List.length_eq_zero_iff] at hready
      obtain ⟨hactive, hreceive, hidle, hempty⟩ := hready
      have hne : slot.status ≠ .creatingTc := by
        rw [hactive]
        decide
      have hbuild := Tpdu.build_rcv h.ne_max
      let slot₁ : ControllerSlot := { slot with receivePending := false }
      let c₁ := c.queued slotId (Tpdu.receiveFrame slotId)
      have h₁ : c₁.At count slotId slot .idle := h.queue _
      have hreceived : SlotStep (UInt8.ofNat count) slotId ⟨slot, c.trace, .idle⟩ ⟨slot₁, c₁.trace, .idle⟩ :=
        .received hactive (Bool.eq_true_of_not_eq_false hreceive) ⟨hidle, hempty⟩
      rw [wlp_bind, h.sendTpdu hbuild]
      refine wlp_mono h₁.flush (fun _ c₂ hf => ?_) fun e c₂ hr => ?_
      · have h₂ := h₁.flushed hf
        have h₃ : (c₂.edit slotId ({ · with receivePending := false })).At count slotId slot₁ .idle :=
          h₂.edit ({ · with receivePending := false })
        rw [wlp_bind, h₂.wlp_modifySlot]
        refine wlp_mono (h₃.marks (.inl rfl) (fun _ => rfl) (h₃.unready rfl) now) (fun _ c₄ hl => ?_) fun _ _ hl => hl
        have hpath := (ReflTransGen.single hreceived).trans (@Flushed.talk _ _ _ slot₁ .idle hf count hne)
        refine (hl.before hpath).mono fun slot' stage' _ hs => ?_
        obtain ⟨rfl, rfl, rfl⟩ := hs
        exact ⟨rfl, hf.events, .inr rfl⟩
      · have hlost := @At.refused _ _ _ _ _ _ slot₁ .idle h₁ hr (fun hs => hs) (fun hc => absurd hc hne) rfl
        exact hlost.before (.single hreceived)

end Send

section Drive

theorem Flushed.config (h : Flushed slotId c c') : c'.config = c.config := by
  rcases h with rfl | ⟨t, frame, result, callback, rfl, _⟩ <;> rfl

theorem Flushed.sent (h : Flushed slotId c c') (count : Nat) (slot : ControllerSlot) :
    ∃ stage, (stage = .idle ∨ ∃ indicated reply, stage = .noted indicated reply) ∧ stage.replied = false ∧
      ReflTransGen (SlotStep (UInt8.ofNat count) slotId) ⟨slot, c.trace, .idle⟩ ⟨slot, c'.trace, stage⟩ := by
  rcases h with rfl | ⟨t, frame, result, callback, rfl, hmove, hkept⟩
  · exact ⟨.idle, .inl rfl, rfl, .refl⟩
  · have hstep : SlotStep (UInt8.ofNat count) slotId _ _ := @SlotStep.wrote _ _ slot c.trace .idle _ _ _ hkept
    rw [← hmove.trace] at hstep
    exact ⟨.noted false false, .inr ⟨false, false, rfl⟩, rfl, .single hstep⟩

theorem At.drivePresent (h : c.At count slotId slot .idle) (status : slot.status = .present)
    (idle : (c.past count slotId).Idle) (create : slot.createSince = none) (now : Instant) :
    wlp (drivePresent slotId now)
      (fun _ => Leads count slotId ⟨slot, c.trace, .idle⟩ fun slot' stage' c' =>
        stage' = .idle ∧ c'.session.events = c.session.events ∧ (slot' = slot ∨ slot' =
          ControllerSlot.marked now (c'.past count slotId) { slot with receivePending := false, status := .creatingTc }))
      (fun _ => Leads count slotId ⟨slot, c.trace, .idle⟩ fun _ stage' _ => ∃ reply, stage' = .lost reply) c := by
  rw [CiController.drivePresent, wlp_bind, h.wlp_slotAt]
  split
  · let slot₁ : ControllerSlot := { slot with receivePending := false, status := .creatingTc }
    let c₁ := c.queued slotId (Tpdu.createFrame slotId)
    have h₁ : c₁.At count slotId slot .idle := h.queue _
    have hcreated : SlotStep (UInt8.ofNat count) slotId ⟨slot, c.trace, .idle⟩
        ⟨slot₁, c₁.trace, .noted false false⟩ := .created status idle
    rw [wlp_bind, h.sendTpdu (Tpdu.build_createTc h.ne_max)]
    refine wlp_mono h₁.flush (fun _ c₂ hf => ?_) fun e c₂ hr => ?_
    · have h₂ := h₁.flushed hf
      have h₃ := h₂.edit ({ · with receivePending := false })
      have hnew : slot.status ≠ .creatingTc := by
        rw [status]
        decide
      have h₄ := @At.staged _ _ _ _ _ (.noted false false) (h₃.turn slot.status .creatingTc) fun _ => h₃.unready rfl
      rw [wlp_bind, h₂.wlp_modifySlot, wlp_bind, h₃.wlp_setSlotStatus, if_neg hnew]
      refine wlp_mono (h₄.marks (.inr ⟨false, false, rfl⟩) (by rintro ⟨⟩) (h₃.unready rfl) now)
        (fun _ c₅ hl => ?_) fun _ _ hl => hl
      have hpath := (ReflTransGen.single hcreated).trans (@Flushed.path _ _ _ (.noted false false) hf count slot₁ rfl)
      refine (hl.before hpath).mono fun slot' stage' _ hs => ?_
      obtain ⟨rfl, rfl, rfl⟩ := hs
      exact ⟨rfl, hf.events, .inr rfl⟩
    · have hlost := @At.refused _ _ _ _ _ _ slot₁ (.noted false false) h₁ hr (fun _ => rfl)
        (fun _ hset => absurd create hset) rfl
      exact hlost.before (.single hcreated)
  · exact wlp_pure.mpr (h.leads ⟨rfl, rfl, .inl rfl⟩)

theorem At.driveCreating (h : c.At count slotId slot .idle) (status : slot.status = .creatingTc) (now : Instant) :
    wlp (driveCreating slotId now)
      (fun failure => Leads count slotId ⟨slot, c.trace, .idle⟩ fun slot' stage' c' =>
        stage' = .idle ∧ c'.session.events = c.session.events ∧
          (failure = none → slot'.Timed c.config now ∧ slot'.Watched (c'.past count slotId)))
      (fun _ => Leads count slotId ⟨slot, c.trace, .idle⟩ fun _ stage' _ => ∃ reply, stage' = .lost reply) c := by
  rw [CiController.driveCreating, wlp_bind]
  refine wlp_mono h.flush (fun _ c₁ hf => ?_) fun e c₁ hr => @At.refused _ _ _ _ _ _ slot .idle h hr (fun hs => hs) (fun _ _ => rfl) rfl
  obtain ⟨stage, hsettled, hquiet, hpath⟩ := hf.sent count slot
  have hready : .transportReady slotId ∉ c₁.session.events := by
    rw [hf.events]
    exact h.unready rfl
  have h₁ : c₁.At count slotId slot stage := (h.flushed hf).staged fun _ => hready
  have hne : slot.status ≠ .active := by
    rw [status]
    decide
  rw [wlp_bind]
  refine wlp_mono (h₁.marks hsettled (fun ha => absurd ha hne) hready now) (fun _ c₂ hl => ?_) fun _ _ hf => hf
  obtain ⟨slot₂, stage₂, h₂, hpath₂, rfl, rfl, rfl⟩ := hl
  have hpath := hpath.trans hpath₂
  have hcreating : (slot.marked now (c₁.past count slotId)).status = .creatingTc :=
    (slot.marked_kept now _).1.trans status
  have hnotActive : (slot.marked now (c₁.past count slotId)).status ≠ .active := by
    rw [hcreating]
    decide
  have hends {failure : Option CaSlotFailure} (htimed : failure = none →
      (slot.marked now (c₁.past count slotId)).Timed c.config now) :
      wlp (pure failure : Act Error CiController (Option CaSlotFailure))
        (fun failure => Leads count slotId ⟨slot, c.trace, .idle⟩ fun slot' stage' c' =>
          stage' = .idle ∧ c'.session.events = c.session.events ∧
            (failure = none → slot'.Timed c.config now ∧ slot'.Watched (c'.past count slotId)))
        (fun _ => Leads count slotId ⟨slot, c.trace, .idle⟩ fun _ stage' _ => ∃ reply, stage' = .lost reply)
        (c₁.edit slotId (ControllerSlot.marked now (c₁.past count slotId))) :=
    wlp_pure.mpr ⟨_, _, h₂, hpath, rfl, hf.events, fun hnone =>
      ⟨htimed hnone, ControllerSlot.watched_of_ne hnotActive _⟩⟩
  rw [wlp_bind, h₂.wlp_slotAt, wlp_bind, wlp_get]
  have hconfig : (c₁.edit slotId (ControllerSlot.marked now (c₁.past count slotId))).config = c.config := hf.config
  rw [hconfig]
  dsimp only
  split
  · next since hcreate hcommand =>
      refine hends fun hnone => ⟨fun _ since' hsome => ?_, fun _ _ since' hsome => ?_, fun ha => absurd ha hnotActive⟩
      · rw [hcreate] at hsome
        cases hsome
      · rw [hcommand, Option.some.injEq] at hsome
        rw [← hsome]
        exact .inr (by simpa using hnone)
  · next hcreate hcommand =>
      refine hends fun _ => ⟨fun _ since hsome => ?_, fun _ _ since hsome => ?_, fun ha => absurd ha hnotActive⟩
      · rw [hcreate] at hsome
        cases hsome
      · rw [hcommand] at hsome
        cases hsome
  · next since hcreate =>
      refine hends fun hnone => ⟨fun _ since' hsome => ?_, fun _ hunset => ?_, fun ha => absurd ha hnotActive⟩
      · rw [hcreate, Option.some.injEq] at hsome
        rw [← hsome]
        exact .inr (by simpa using hnone)
      · rw [hcreate] at hunset
        cases hunset

theorem At.driveActive (h : c.At count slotId slot .idle) (status : slot.status = .active) (now : Instant) :
    wlp (driveActive slotId now)
      (fun failure => Leads count slotId ⟨slot, c.trace, .idle⟩ fun slot' stage' c' =>
        stage' = .idle ∧ c'.session.events = c.session.events ∧
          (failure = none → slot'.Timed c.config now ∧ slot'.Watched (c'.past count slotId)))
      (fun _ => Leads count slotId ⟨slot, c.trace, .idle⟩ fun _ stage' _ => ∃ reply, stage' = .lost reply) c := by
  have hne : slot.status ≠ .creatingTc := by
    rw [status]
    decide
  -- The controller sets the deadline of the command after what it did for the slot.
  have hedited {slot' : ControllerSlot} {c' : CiController} (h' : c'.At count slotId slot' .idle)
      (hlive : slot'.status = .active) (f : ControllerSlot → ControllerSlot)
      (hlike : (f slot').status = slot'.status ∧ (f slot').createSince = slot'.createSince ∧
        (f slot').receivePending = slot'.receivePending) :
      ReflTransGen (SlotStep (UInt8.ofNat count) slotId) ⟨slot', c'.trace, .idle⟩ ⟨f slot', c'.trace, .idle⟩ :=
    .single (.edited hlike.1 hlike.2.1 (fun hn => absurd hlive hn) hlike.2.2)
  have htimed {slot' : ControllerSlot} (hstatus : slot'.status = .active)
      (hcommand : ∀ since, slot'.commandSince = some since → Waits since now c.config.responseTimeout) :
      slot'.Timed c.config now := by
    have hn : slot'.status ≠ .creatingTc := by
      rw [hstatus]
      decide
    exact ⟨fun hc => absurd hc hn, fun hc => absurd hc hn, fun _ => hcommand⟩
  rw [CiController.driveActive, wlp_bind]
  refine wlp_mono h.flush (fun _ c₁ hf => ?_) fun e c₁ hr => @At.refused _ _ _ _ _ _ slot .idle h hr (fun hs => hs) (fun _ _ => rfl) rfl
  have h₁ := h.flushed hf
  have hpath₁ := @Flushed.talk _ _ _ slot .idle hf count hne
  rw [wlp_bind, wlp_get, wlp_bind, wlp_get]
  dsimp only
  rw [h₁.isBusy, h₁.queueLen, hf.config]
  split
  · have h₂ := h₁.edit ({ · with commandSince := some (slot.commandSince.getD now) })
    have hpath₂ := hedited h₁ status ({ · with commandSince := some (slot.commandSince.getD now) }) ⟨rfl, rfl, rfl⟩
    rw [wlp_bind, h₁.wlp_slotAt, wlp_bind, h₁.wlp_modifySlot]
    split
    · exact wlp_pure.mpr ⟨_, _, h₂, hpath₁.trans hpath₂, rfl, hf.events, nofun⟩
    · next helapsed =>
        rw [Bool.not_eq_true] at helapsed
        refine wlp_pure.mpr ⟨_, _, h₂, hpath₁.trans hpath₂, rfl, hf.events, fun _ => ⟨htimed status fun since hsome => ?_,
          fun _ _ => Option.some_ne_none _⟩⟩
        rw [← Option.some.inj hsome]
        exact .inr helapsed
  · next hquiet =>
      rw [not_or, ne_eq, not_not, Bool.not_eq_true, List.length_eq_zero_iff] at hquiet
      have h₂ := h₁.edit ({ · with commandSince := none })
      have hpath₂ := hpath₁.trans (hedited h₁ status ({ · with commandSince := none }) ⟨rfl, rfl, rfl⟩)
      have hidle : ∀ transport : TransportSlot, transport = c₁.past count slotId →
          ¬ (transport.busy = true ∨ transport.queue ≠ []) := by
        rintro _ rfl (hbusy | hqueue)
        · rw [hquiet.1] at hbusy
          cases hbusy
        · exact hqueue hquiet.2
      rw [wlp_bind, h₁.wlp_modifySlot, wlp_bind, h₂.wlp_slotAt]
      split
      · rw [wlp_bind]
        refine wlp_mono (h₂.flushReceivePending now) (fun _ c₃ hl => ?_) fun _ _ hl => hl.before hpath₂
        refine wlp_pure.mpr ((hl.before hpath₂).mono fun slot' stage' _ hs => ?_)
        obtain ⟨rfl, hevents, hsame | hmarked⟩ := hs
        · obtain ⟨rfl, rfl⟩ := hsame
          exact ⟨rfl, hf.events, fun _ => ⟨htimed status nofun, fun _ hb => absurd hb (hidle _ rfl)⟩⟩
        · rw [hmarked]
          have hunmarked : ({ slot with commandSince := none, receivePending := false } : ControllerSlot).Timed c.config now :=
            htimed status nofun
          exact ⟨rfl, hevents.trans hf.events, fun _ => ⟨hunmarked.marked _, ControllerSlot.watched_marked now _ _⟩⟩
      · split
        · obtain ⟨frame, hbuild⟩ := Tpdu.build_data h.ne_max (.inl rfl)
            (show ([] : Bytes).length ≤ Tpdu.maxTpduData from Nat.zero_le _)
          have h₃ := h₂.queue frame
          have hapart : (Obs.queued slotId frame).Apart slotId := by
            intro _
            have hframe : Tpdu.frameOf slotId .dataLast [] = frame := by
              rw [Tpdu.frameOf, hbuild]
            rw [← hframe]
            exact Tpdu.frameOf_data_ne (.inl rfl)
          have hpath₃ := hpath₂.trans (.single (@SlotStep.talked (UInt8.ofNat count) slotId _ _ .idle [.queued slotId frame]
            (fun obs hmem => by rwa [List.mem_singleton.mp hmem]) hne))
          rw [wlp_bind, h₂.sendTpdu hbuild]
          refine wlp_mono h₃.flush (fun _ c₄ hf₄ => ?_) fun e c₄ hr => ?_
          · have h₄ := h₃.flushed hf₄
            have hpath₄ := hpath₃.trans (@Flushed.talk _ _ _ _ .idle hf₄ count hne)
            have h₅ := h₄.edit ({ · with
              commandSince := some now
              nextPoll := some (deadline now c.config.transportPollInterval) })
            have hpath₅ := hpath₄.trans (hedited h₄ status ({ · with
              commandSince := some now
              nextPoll := some (deadline now c.config.transportPollInterval) }) ⟨rfl, rfl, rfl⟩)
            rw [wlp_bind, h₄.wlp_modifySlot]
            exact wlp_pure.mpr ⟨_, _, h₅, hpath₅, rfl, hf₄.events.trans hf.events, fun _ =>
              ⟨htimed status fun since hsome => .inl (Option.some.inj hsome).symm, fun _ _ => Option.some_ne_none _⟩⟩
          · exact (@At.refused _ _ _ _ _ _ _ .idle h₃ hr (fun hs => hs) (fun _ _ => rfl) rfl).before hpath₃
        · exact wlp_pure.mpr ⟨_, _, h₂, hpath₂, rfl, hf.events, fun _ =>
            ⟨htimed status nofun, fun _ hb => absurd hb (hidle _ rfl)⟩⟩

theorem At.driveSlot (h : c.At count slotId slot .idle)
    (rest : slot.status.Rests → (c.past count slotId).Idle ∧ slot.Timeless) (now : Instant) :
    wlp (driveSlot slotId now)
      (fun failure => Leads count slotId ⟨slot, c.trace, .idle⟩ fun slot' stage' c' =>
        stage' = .idle ∧ c'.session.events = c.session.events ∧
          (failure = none → slot'.Timed c.config now ∧ slot'.Watched (c'.past count slotId)))
      (fun _ => Leads count slotId ⟨slot, c.trace, .idle⟩ fun _ stage' _ => ∃ reply, stage' = .lost reply) c := by
  have hbody (c₁ : CiController) (slot₁ : ControllerSlot) (h₁ : c₁.At count slotId slot₁ .idle)
      (rest₁ : slot₁.status.Rests → (c₁.past count slotId).Idle ∧ slot₁.Timeless) (hconfig : c₁.config = c.config)
      (hevents : c₁.session.events = c.session.events) : wlp (driveStatus slotId now)
      (fun failure => Leads count slotId ⟨slot₁, c₁.trace, .idle⟩ fun slot' stage' c' =>
        stage' = .idle ∧ c'.session.events = c.session.events ∧
          (failure = none → slot'.Timed c.config now ∧ slot'.Watched (c'.past count slotId)))
      (fun _ => Leads count slotId ⟨slot₁, c₁.trace, .idle⟩ fun _ stage' _ => ∃ reply, stage' = .lost reply) c₁ := by
    rw [driveStatus, wlp_bind, h₁.wlp_slotAt, ← hevents, ← hconfig]
    have hrests (status : slot₁.status.Rests) : Leads count slotId ⟨slot₁, c₁.trace, .idle⟩ (fun slot' stage' c' =>
        stage' = .idle ∧ c'.session.events = c₁.session.events ∧
          ((none : Option CaSlotFailure) = none → slot'.Timed c₁.config now ∧ slot'.Watched (c'.past count slotId))) c₁ :=
      h₁.leads ⟨rfl, rfl, fun _ => ⟨ControllerSlot.timed_of_rests status .., ControllerSlot.watched_of_ne status.2 _⟩⟩
    cases hstatus : slot₁.status with
    | absent => exact wlp_pure.mpr (hrests (hstatus ▸ CaSlotStatus.rests_absent))
    | failed => exact wlp_pure.mpr (hrests (hstatus ▸ CaSlotStatus.rests_failed))
    | present =>
        have hstill : slot₁.status.Rests := hstatus ▸ CaSlotStatus.rests_present
        obtain ⟨hidle, htimeless⟩ := rest₁ hstill
        rw [wlp_bind]
        refine wlp_mono (h₁.drivePresent hstatus hidle htimeless.1 now) (fun _ c₂ hl => ?_) fun _ _ hl => hl
        refine wlp_pure.mpr (hl.mono fun slot' stage' _ hs => ?_)
        obtain ⟨rfl, hevents', rfl | rfl⟩ := hs
        · exact ⟨rfl, hevents', fun _ => ⟨ControllerSlot.timed_of_rests hstill .., ControllerSlot.watched_of_ne hstill.2 _⟩⟩
        · have htimed := @ControllerSlot.timed_of_timeless { slot₁ with receivePending := false, status := .creatingTc }
            htimeless c₁.config now
          exact ⟨rfl, hevents', fun _ => ⟨htimed.marked _, ControllerSlot.watched_marked now _ _⟩⟩
    | creatingTc => exact h₁.driveCreating hstatus now
    | active => exact h₁.driveActive hstatus now
  rw [CiController.driveSlot, wlp_bind, h.wlp_slotAt]
  split
  · next hretry =>
      have hfailed : slot.status.Rests := hretry.1 ▸ CaSlotStatus.rests_failed
      let slot₁ : ControllerSlot := { slot with retryAt := none, status := .present }
      have h₁ := h.edit ({ · with retryAt := none })
      have h₂ := h₁.turn slot.status .present
      have hpath : ReflTransGen (SlotStep (UInt8.ofNat count) slotId) ⟨slot, c.trace, .idle⟩ ⟨slot₁, c.trace, .idle⟩ :=
        .single (.turned hfailed CaSlotStatus.rests_present rfl rfl)
      rw [wlp_bind, h.wlp_modifySlot, wlp_bind, h₁.wlp_setSlotStatus, if_neg (by rw [hretry.1]; decide)]
      refine wlp_mono (hbody _ slot₁ h₂ (fun _ => ?_) rfl rfl) (fun _ _ hl => hl.before hpath) fun _ _ hl => hl.before hpath
      exact rest hfailed
  · exact hbody c slot h rest rfl rfl

end Drive

end CiController

end LibDvb
