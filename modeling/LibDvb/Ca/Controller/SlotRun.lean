import LibDvb.Ca.Controller.SlotTick

namespace LibDvb.CiController

open Relation Act Outcome

variable {c c' : CiController} {count : Nat} {slotId other : UInt8} {slot : ControllerSlot} {stage : SlotStage}
  {v : SlotView} {now : Instant}

section Calls

theorem Resides.relinked (h : Resides count slotId v c) (link : CaDevice) : Resides count slotId v (linkLens.set link c) := by
  obtain ⟨slot, stage, hat, hpath, hpaused⟩ := h
  exact ⟨slot, stage, ⟨hat.known, hat.bound, hat.small, hat.wide, hat.replayed, hat.unready⟩, hpath, hpaused⟩

theorem Resides.paced (h : Resides count slotId v c) (pacer : CaPmtPacer) : Resides count slotId v { c with pacer } := by
  obtain ⟨slot, stage, hat, hpath, hpaused⟩ := h
  exact ⟨slot, stage, hat.paced pacer, hpath, hpaused⟩

theorem Resides.slotCommand {op : ControllerOp} {command : Act Error CiSession Unit} (h : Resides count slotId v c)
    (hs : c.Settled) (sends : op.command = some (other, command)) :
    wlp (slotCommand other command) (fun _ => Resides count slotId v) (fun _ => Resides count slotId v) c := by
  have hrequire : wlp (requireActive other) (fun _ c' => c' = c ∧ c.Live other) (fun _ c' => c' = c) c := by
    rw [requireActive, wlp_bind, status, wlp_bind, wlp_get]
    cases hview : c.slots[other.toNat]? with
    | none => exact wlp_fail.mpr rfl
    | some slot =>
        rw [wlp_pure]
        split
        · next hactive => exact wlp_pure.mpr ⟨rfl, (live_of_status hview).mpr hactive⟩
        · exact wlp_fail.mpr rfl
  rw [CiController.slotCommand, wlp_bind]
  refine wlp_mono hrequire (fun _ c₁ hc₁ => ?_) fun _ c₁ hc₁ => hc₁ ▸ h
  obtain ⟨rfl, hlive⟩ := hc₁
  obtain ⟨slot, stage, hat, hpath, hpaused⟩ := h
  obtain ⟨now, hnow⟩ := hs.ticked hlive
  have hidle : stage = .idle := hpaused.resolve_right fun hd => by
    rw [(hs.deferred hd.1).1] at hnow
    cases hnow
  subst hidle
  have hserves : CiSession.Serves c₁.Live c₁.Live c₁.session other :=
    ⟨hs.calm.sound.session, hlive, hlive, hs.calm.sound.count ▸ slotId_lt hlive.known.choose_spec.1, hs.calm.whole⟩
  rw [wlp_bind, wlp_attempt]
  refine wlp_mono (hat.works hs.calm.sound (bland_command sends) (command_along sends hserves)) (fun _ c₂ hl => ?_)
    fun e c₂ hl => ?_
  · obtain ⟨slot₂, stage₂, h₂, hpath₂, rfl, rfl, hmoves, _, hevents⟩ := hl
    have hpath₂ := hpath.trans hpath₂
    have hready : .transportReady slotId ∉ c₂.session.events := by
      rw [hevents, hs.calm.collected]
      exact List.not_mem_nil
    rw [finishSlotCommand, wlp_bind, wlp_get]
    split
    · next tick htick =>
        by_cases heq : other = slotId
        · subst heq
          exact wlp_mono (h₂.marks (.inl rfl) (fun _ => rfl) hready tick) (fun _ _ hl =>
            Leads.resides (hl.mono fun _ _ _ hs => hs.2.1) hpath₂) fun _ _ hf => hf
        · have hspared : Spares slotId (CiController.markOutstanding other tick) := beside_markOutstanding heq tick
          exact wlp_mono (h₂.spared hspared) (fun _ _ hl => Leads.resides (hl.mono fun _ _ _ hs => hs.2) hpath₂)
            fun _ _ hl => Leads.resides (hl.mono fun _ _ _ hs => hs.2) hpath₂
    · exact wlp_pure.mpr ⟨slot₂, .idle, h₂, hpath₂, .inl rfl⟩
  · obtain ⟨slot₂, stage₂, h₂, hpath₂, rfl, rfl, hmoves, _⟩ := hl
    have hpath₂ := hpath.trans hpath₂
    rw [finishSlotCommand]
    dsimp only
    split
    · rw [wlp_bind]
      refine wlp_mono (h₂.recoverAtEventTime (hs.calm.sound.path hmoves) ((Keeps.path hmoves).lastTick.trans hnow) _)
        (fun _ _ hl => wlp_fail.mpr ?_) fun _ _ hl => ?_
      · exact Leads.resides (hl.mono fun _ _ _ hs => hs.1) hpath₂
      · exact Leads.resides (hl.mono fun _ _ _ hs => hs.1) hpath₂
    · exact wlp_fail.mpr ⟨slot₂, .idle, h₂, hpath₂, .inl rfl⟩

theorem Resides.reset (h : Resides count slotId v c) (hc : c.Calm) :
    wlp reset (fun _ => Resides count slotId v) (fun _ => Resides count slotId v) c := by
  obtain ⟨slot, stage, hat, hpath, hpaused⟩ := h
  exact wlp_mono (hat.reset hc) (fun _ _ hl => Leads.resides (hl.mono fun _ _ _ hs => hs.1) hpath)
    fun _ _ hl => Leads.resides (hl.mono fun _ _ _ hs => hs.1) hpath

end Calls

section Step

theorem Resides.op (rested : v.Rested) (h : Resides count slotId v c) (hs : c.Settled) (op : ControllerOp) :
    wlp op.run (fun _ => Resides count slotId v) (fun _ => Resides count slotId v) c := by
  have hcommand {other : UInt8} {command : Act Error CiSession Unit} (sends : op.command = some (other, command)) :
      wlp op.run (fun _ => Resides count slotId v) (fun _ => Resides count slotId v) c := by
    rw [command_run sends]
    exact wlp_map.mpr (h.slotCommand hs sends)
  cases op with
  | pollEvent => exact h.pollEvent rested hs.calm hs.unticked
  | tick now =>
      refine wlp_map.mpr (wlp_mono (h.tick rested hs.calm now) (fun _ _ hl => ?_) fun _ _ hl => hl)
      exact hl.mono fun _ _ _ hs => .inl hs.1
  | setProgram lib pmtSection =>
      refine wlp_map.mpr ?_
      rw [CiController.setProgram, wlp_bind]
      refine wlp_lift.mpr ⟨fun program _ => ?_, fun _ _ => h⟩
      rw [wlp_bind, wlp_modify, wlp_pure]
      exact h.paced _
  | queueProgram program => exact wlp_map.mpr (wlp_modify.mpr (h.paced _))
  | removeProgram programNumber =>
      refine wlp_map.mpr ?_
      rw [CiController.removeProgram]
      split
      · exact wlp_fail.mpr h
      · exact wlp_modify.mpr (h.paced _)
  | setCaPmtInterval interval => exact wlp_map.mpr (wlp_modify.mpr (h.paced _))
  | reset => exact wlp_map.mpr (h.reset hs.calm)
  | enterMenu slotId => exact hcommand rfl
  | mmiMenuAnswer slotId sessionId choice => exact hcommand rfl
  | mmiListClose slotId sessionId => exact hcommand rfl
  | mmiAnswer slotId sessionId answer => exact hcommand rfl
  | mmiClose slotId sessionId => exact hcommand rfl
  | askRelease slotId => exact hcommand rfl

theorem Resides.step {label : ControllerLabel} (rested : v.Rested) (h : Resides count slotId v c) (hs : c.Settled)
    (hstep : ControllerStep c label c') : Resides count slotId v c' :=
  wlp_result ((h.relinked label.link).op rested (hs.relinked label.link) label.op) hstep

theorem Resides.run {labels : List ControllerLabel} (rested : v.Rested) (h : Resides count slotId v c) (hs : c.Settled)
    (hrun : Run ControllerStep c labels c') : Resides count slotId v c' := by
  refine (hrun.invariant (I := fun c => c.Settled ∧ Resides count slotId v c) ⟨hs, h⟩ fun c label c' hc hstep => ?_).2
  exact ⟨hc.1.step hstep, hc.2.step rested hc.1 hstep⟩

theorem Step.slots_length (hs : Step c c') : c'.slots.length = c.slots.length := by
  cases hs with
  | work work => exact work.keeps.count
  | flags lastTick linkSuspended recoveryAt nextStatusCheck deferredLinkFailure => rfl
  | reset result sessions idle => rfl

theorem run_slots_length {labels : List ControllerLabel} (hs : c.Settled) (hrun : Run ControllerStep c labels c') :
    c'.slots.length = c.slots.length := by
  refine (hrun.invariant (I := fun c' => c'.Settled ∧ c'.slots.length = c.slots.length) ⟨hs, rfl⟩
    fun c₁ label c₂ hc hstep => ⟨hc.1.step hstep, ?_⟩).2
  obtain ⟨c₃, hsteps, _, hsame⟩ := (step_turn hc.1 hstep).steps
  have hlength := LibDvb.Path.order (r := fun a b : CiController => b.slots.length = a.slots.length) hsteps (fun _ => rfl)
    (fun h h' => h'.trans h) fun _ _ => Step.slots_length
  rw [hsame]
  exact hlength.trans hc.2

theorem Blank.resides (hb : c.Blank) (hlt : slotId.toNat < c.slots.length) :
    Resides c.slots.length slotId .origin c := by
  obtain ⟨link, slotsNum, hsession⟩ := hb.session
  have htrace : c.trace = [] := congrArg (fun s : CiSession => s.transport.trace) hsession
  obtain ⟨slot, known⟩ := known_of_lt hlt
  refine ⟨slot, .idle, ⟨known, hlt, hb.sound.count_le, rfl, ?_, fun _ hmem => ?_⟩, ?_, .inl rfl⟩
  · rw [htrace, hb.count, hsession]
    simp [CiSession.new, CiTransport.new]
  · rw [hsession] at hmem
    cases hmem
  · rw [htrace, hb.view known]
    exact .refl

end Step

end LibDvb.CiController

namespace LibDvb

open CiController

variable {start c : CiController} {labels : List ControllerLabel} {slotId : UInt8}

theorem ControllerRun.resides (h : ControllerRun start labels c) (hlt : slotId.toNat < c.slots.length) :
    Resides c.slots.length slotId .origin c := by
  have hs := settled_start h.1
  have hcount := run_slots_length hs h.2
  rw [hcount] at hlt ⊢
  exact ((blank_start h.1).resides hlt).run SlotView.rested_origin hs h.2

end LibDvb
