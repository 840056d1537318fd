import LibDvb.Ca.Controller.SlotTalk

namespace LibDvb.CiController

open Relation Act Outcome

variable {c c' : CiController} {count : Nat} {slotId other : UInt8} {slot : ControllerSlot} {stage : SlotStage}
  {v v' : SlotView} {now : Instant}

section Finish

theorem At.recoverAtEventTime (h : c.At count slotId slot stage) (hs : c.Sound) (ticked : c.lastTick = some now)
    (failedSlot : Option UInt8) :
    wlp (recoverAtEventTime failedSlot)
      (fun _ => Leads count slotId ⟨slot, c.trace, stage⟩ fun slot' stage' _ => stage' = .idle ∧ slot'.status.Rests)
      (fun _ => Leads count slotId ⟨slot, c.trace, stage⟩ fun slot' stage' _ => stage' = .idle ∧ slot'.status.Rests) c := by
  rw [CiController.recoverAtEventTime, wlp_bind, wlp_get, ticked]
  dsimp only
  rw [wlp_bind, wlp_attempt]
  exact wlp_mono (h.recovers hs ticked _ _) (fun _ _ hl => wlp_pure.mpr hl) fun _ _ hl => wlp_pure.mpr hl

theorem flushReceivePending_inactive (known : c.slots[slotId.toNat]? = some slot) (status : slot.status ≠ .active)
    (now : Instant) : flushReceivePending slotId now c = (.ok (), c) := by
  have hslot : slotAt slotId c = (.ok slot, c) := run_of_wp ((wp_slotAt_known known).mpr ⟨rfl, rfl⟩)
  rw [flushReceivePending, bind_run hslot]
  refine (bind_run (s := c) rfl).trans ?_
  rw [if_pos (.inl status)]
  rfl

theorem At.afterCollect (h : c.At count slotId slot stage) (hc : c.Calm)
    (hstage : stage = .idle ∨ ∃ indicated reply, stage = .noted indicated reply)
    (hactive : slot.status = .active → stage = .idle) (hunticked : c.lastTick = none → slot.status.Rests) :
    wlp (do
      match (← get).lastTick with
      | some now => do
          match ← attempt (CiController.flushReceivePending slotId now) with
          | .ok () => markOutstanding slotId now
          | .error e => do
              CiController.recoverAtEventTime (some slotId)
              fail e
      | none => pure ())
      (fun _ => Leads count slotId ⟨slot, c.trace, stage⟩ fun _ stage' _ => stage' = .idle)
      (fun _ => Leads count slotId ⟨slot, c.trace, stage⟩ fun _ stage' _ => stage' = .idle) c := by
  have hready : .transportReady slotId ∉ c.session.events := by
    rw [hc.collected]
    exact List.not_mem_nil
  rw [wlp_bind, wlp_get]
  split
  · next now hnow =>
      rw [wlp_bind, wlp_attempt]
      by_cases hlive : slot.status = .active
      · obtain rfl := hactive hlive
        have halong := flushReceivePending_along (V := fun _ => True) hc (slotId_lt h.known) now
        refine wlp_mono (wlp_and (h.flushReceivePending now) (wlp_of_wp halong)) (fun _ c₁ hl => ?_) fun e c₁ hl => ?_
        · obtain ⟨⟨slot₁, stage₁, h₁, hpath₁, rfl, hevents₁, _⟩, _⟩ := hl
          have hready₁ : .transportReady slotId ∉ c₁.session.events := by
            rw [hevents₁]
            exact hready
          refine wlp_mono (h₁.marks (.inl rfl) (fun _ => rfl) hready₁ now) (fun _ _ hl => ?_) fun _ _ hl => hl
          exact (hl.before hpath₁).mono fun _ _ _ hs => hs.2.1
        · obtain ⟨⟨slot₁, stage₁, h₁, hpath₁, _⟩, hpath, _⟩ := hl
          rw [wlp_bind]
          refine wlp_mono (h₁.recoverAtEventTime (hc.sound.path hpath) ((Keeps.path hpath).lastTick.trans hnow) _)
            (fun _ _ hl => wlp_fail.mpr ?_) fun _ _ hl => ?_
          · exact (hl.before hpath₁).mono fun _ _ _ hs => hs.1
          · exact (hl.before hpath₁).mono fun _ _ _ hs => hs.1
      · rw [wlp_run (flushReceivePending_inactive h.known hlive now)]
        refine wlp_mono (h.marks hstage (fun ha => absurd ha hlive) hready now) (fun _ _ hl => ?_) fun _ _ hl => hl
        exact hl.mono fun _ _ _ hs => hs.2.1
  · next hnone =>
      have hrests := hunticked hnone
      refine wlp_pure.mpr ⟨slot, .idle, h.staged fun _ => hready, ?_, rfl⟩
      rcases hstage with rfl | ⟨indicated, reply, rfl⟩
      · exact .refl
      · exact .single (.settled hrests)

theorem At.afterCollectOther (h : c.At count slotId slot stage) (hc : c.Calm) (hne : other ≠ slotId)
    (hlt : other.toNat < c.slots.length) :
    wlp (do
      match (← get).lastTick with
      | some now => do
          match ← attempt (CiController.flushReceivePending other now) with
          | .ok () => markOutstanding other now
          | .error e => do
              CiController.recoverAtEventTime (some other)
              fail e
      | none => pure ())
      (fun _ => Leads count slotId ⟨slot, c.trace, stage⟩ fun slot' stage' _ => slot.Like slot' ∧ stage' = stage)
      (fun _ => Leads count slotId ⟨slot, c.trace, stage⟩ fun _ stage' _ => stage' = .idle) c := by
  rw [wlp_bind, wlp_get]
  split
  · next now hnow =>
      rw [wlp_bind, wlp_attempt]
      have halong := flushReceivePending_along (V := fun _ => True) hc hlt now
      refine wlp_mono (wlp_and (h.spared (beside_flushReceivePending hne now)) (wlp_of_wp halong))
        (fun _ c₁ hl => ?_) fun e c₁ hl => ?_
      · obtain ⟨⟨slot₁, stage₁, h₁, hpath₁, hlike₁, rfl⟩, hpath, _⟩ := hl
        have hlt₁ : other.toNat < c₁.slots.length := (Keeps.path hpath).count.symm ▸ hlt
        have hmark := markOutstanding_along (V := fun _ => True) (List.getElem?_eq_getElem hlt₁) now
        refine wlp_mono (wlp_and (h₁.spared (beside_markOutstanding hne now)) (wlp_of_wp hmark)) (fun _ _ hl => ?_)
          fun _ _ hl => hl.2.2.elim
        exact (hl.1.before hpath₁).mono fun _ _ _ hs => ⟨hlike₁.trans hs.1, hs.2⟩
      · obtain ⟨⟨slot₁, stage₁, h₁, hpath₁, _⟩, hpath, _⟩ := hl
        rw [wlp_bind]
        refine wlp_mono (h₁.recoverAtEventTime (hc.sound.path hpath) ((Keeps.path hpath).lastTick.trans hnow) _)
          (fun _ _ hl => wlp_fail.mpr ?_) fun _ _ hl => ?_
        · exact (hl.before hpath₁).mono fun _ _ _ hs => hs.1
        · exact (hl.before hpath₁).mono fun _ _ _ hs => hs.1
  · exact wlp_pure.mpr (h.leads ⟨.refl slot, rfl⟩)

end Finish

section Turn

theorem At.takeDataPending {reply : Bool} (h : c.At count slotId slot (.heard reply)) {E : Error → CiController → Prop} :
    wlp (zoom transportLens (CiTransport.takeDataPending slotId))
      (fun indicated => Leads count slotId ⟨slot, c.trace, .heard reply⟩ fun slot' stage' c' =>
        slot' = slot ∧ stage' = .noted indicated reply ∧ c'.lastTick = c.lastTick) E c := by
  have hvalue : wlp (CiTransport.takeDataPending slotId) (fun indicated _ => indicated = (c.past count slotId).dataPending)
      (fun _ _ => True) c.session.transport := by
    rw [CiTransport.takeDataPending, wlp_bind, wlp_get, h.transport]
    rw [wlp_bind]
    refine CiTransport.wlp_modifySlot ?_
    rw [wlp_bind, CiTransport.wlp_note, wlp_pure]
  have hmove := wlp_of_wp (CiTransport.takeDataPending_spec h.hasSlot)
  rw [wlp_zoom]
  refine wlp_mono (wlp_and hvalue hmove) (fun indicated t ht => ?_) fun _ _ hf => hf.2.elim
  obtain ⟨rfl, hmove, _⟩ := ht
  obtain ⟨hat, htrace⟩ := @At.moved _ _ _ _ (.heard reply) _ t (.noted (c.past count slotId).dataPending reply) h hmove
    fun hr => hr
  refine .of_step ?_ hat ⟨rfl, rfl, rfl⟩
  rw [show (transportLens.set t c).trace = _ from htrace]
  exact .taken

theorem wlp_status (known : c.slots[slotId.toNat]? = some slot) {Q : CaSlotStatus → CiController → Prop}
    {E : Error → CiController → Prop} : wlp (status slotId) Q E c ↔ Q slot.status c :=
  wlp_run (run_of_wp ((status_known known).mpr ⟨rfl, rfl⟩))

theorem At.afterRecv {reply : Bool} (h : c.At count slotId slot (.heard reply)) (hs : c.Sound)
    (present : ∀ slotId, c.PresentAt slotId) (hp : pending c.session.transport.trace = false)
    (hunticked : c.lastTick = none → slot.status.Rests) :
    wlp (afterRecv slotId)
      (fun _ => Leads count slotId ⟨slot, c.trace, .heard reply⟩ fun _ stage' _ => stage' = .idle)
      (fun _ => Leads count slotId ⟨slot, c.trace, .heard reply⟩ fun _ stage' _ => stage' = .idle) c := by
  have htail {c₁ : CiController} {slot₁ : ControllerSlot} (h₁ : c₁.At count slotId slot₁ (.heard reply))
      (hpath₁ : ReflTransGen (Move fun _ => True) c c₁) (hp₁ : pending c₁.session.transport.trace = false)
      (hrests : c.lastTick = none → slot₁.status.Rests) : wlp (do
        let dataPending ← zoom transportLens (CiTransport.takeDataPending slotId)
        CiController.collectSessionEvents
        if dataPending then
          if (← status slotId) = .active then
            modifySlot slotId ({ · with receivePending := true })
        match (← get).lastTick with
        | some now => do
            match ← attempt (CiController.flushReceivePending slotId now) with
            | .ok () => markOutstanding slotId now
            | .error e => do
                CiController.recoverAtEventTime (some slotId)
                fail e
        | none => pure ())
      (fun _ => Leads count slotId ⟨slot₁, c₁.trace, .heard reply⟩ fun _ stage' _ => stage' = .idle)
      (fun _ => Leads count slotId ⟨slot₁, c₁.trace, .heard reply⟩ fun _ stage' _ => stage' = .idle) c₁ := by
    have hs₁ := hs.path hpath₁
    have htake := takeDataPending_along (V := fun _ => True) hs₁ (slotId_lt h₁.known) trivial
    rw [wlp_bind]
    refine wlp_mono (wlp_and (h₁.takeDataPending (E := fun _ _ => True)) (wlp_of_wp htake)) (fun indicated c₂ hl => ?_)
      fun _ _ hf => hf.2.2.elim
    obtain ⟨⟨slot₂, stage₂, h₂, hviews₂, rfl, rfl, _⟩, hpath₂, _, hp₂⟩ := hl
    have hpath₂ := hpath₁.trans hpath₂
    have heeds : Heeds slot₂ (.noted indicated reply) := by
      rintro _ (rfl : reply = true)
      exact .inl ⟨indicated, rfl⟩
    have hcollect := collect_along (V := fun _ => True) (hs.path hpath₂) fun _ _ => trivial
    rw [wlp_bind]
    refine wlp_mono (wlp_and (h₂.collectSessionEvents heeds) (wlp_of_wp hcollect)) (fun _ c₃ hl => ?_)
      fun _ _ hf => hf.2.2.elim
    obtain ⟨⟨slot₃, stage₃, h₃, hviews₃, hkept, rfl, hevents₃⟩, hpath₃, hsteady₃, _⟩ := hl
    have hpath₃ := hpath₂.trans hpath₃
    have hp₃ : pending c₃.session.transport.trace = false := by
      rw [hsteady₃.whole, hp₂, hp₁]
    have hviews := hviews₂.trans hviews₃
    have hrests₃ : c₃.lastTick = none → slot₃.status.Rests := by
      rw [(Keeps.path hpath₃).lastTick]
      intro hnone
      rcases hkept with hlike | ⟨hcreating, _⟩
      · exact hlike.status ▸ hrests hnone
      · exact absurd hcreating (hrests hnone).1
    have hfinish {c₄ : CiController} {slot₄ : ControllerSlot} {stage₄ : SlotStage} (h₄ : c₄.At count slotId slot₄ stage₄)
        (hviews₄ : ReflTransGen (SlotStep (UInt8.ofNat count) slotId) ⟨slot₂, c₁.trace, .heard reply⟩
          ⟨slot₄, c₄.trace, stage₄⟩) (hc₄ : c₄.Calm)
        (hstage : stage₄ = .idle ∨ ∃ indicated reply, stage₄ = .noted indicated reply)
        (hactive : slot₄.status = .active → stage₄ = .idle) (hrests₄ : c₄.lastTick = none → slot₄.status.Rests) :=
      wlp_mono (h₄.afterCollect hc₄ hstage hactive hrests₄) (fun _ _ hl => hl.before hviews₄)
        fun _ _ hl => hl.before hviews₄
    have hc₃ : c₃.Calm := ⟨hs.path hpath₃, hp₃, hevents₃, fun other => (present other).path hpath₃⟩
    have hready {c₄ : CiController} (hsame : c₄.session = c₃.session) : .transportReady slotId ∉ c₄.session.events := by
      rw [hsame, hevents₃]
      exact List.not_mem_nil
    dsimp only
    split
    · next hindicated =>
        subst hindicated
        rw [wlp_bind, wlp_status h₃.known]
        split
        · next hactive =>
            have hset : { slot₃ with receivePending := slot₃.receivePending || true } =
                { slot₃ with receivePending := true } := by rw [Bool.or_true]
            have hstep : SlotStep (UInt8.ofNat count) slotId ⟨slot₃, c₃.trace, .noted true reply⟩
                ⟨{ slot₃ with receivePending := true }, c₃.trace, .idle⟩ := hset ▸ .indicated hactive
            have h₄ := @At.staged _ _ _ _ _ .idle (h₃.edit ({ · with receivePending := true })) fun _ => hready rfl
            have hkept₄ : Move (fun _ => True) c₃ (c₃.edit slotId ({ · with receivePending := true })) := by
              refine .kept _ (fun _ => rfl) (fun _ => rfl) (fun _ => rfl) fun slot' known' _ => ?_
              rw [h₃.known, Option.some.injEq] at known'
              exact .inr (known' ▸ hactive)
            rw [wlp_bind, h₃.wlp_modifySlot]
            refine hfinish h₄ (hviews.tail hstep) (hc₃.path (.single hkept₄) hp₃ hevents₃) (.inl rfl) (fun _ => rfl) ?_
            exact fun hnone => absurd hactive (hrests₃ hnone).2
        · next hactive => exact hfinish h₃ hviews hc₃ (.inr ⟨true, reply, rfl⟩) (fun ha => absurd ha hactive) hrests₃
    · next hindicated =>
        by_cases hactive : slot₃.status = .active
        · obtain rfl : indicated = false := Bool.eq_false_of_not_eq_true hindicated
          have hset : { slot₃ with receivePending := slot₃.receivePending || false } = slot₃ := by rw [Bool.or_false]
          have hstep : SlotStep (UInt8.ofNat count) slotId ⟨slot₃, c₃.trace, .noted false reply⟩
              ⟨{ slot₃ with receivePending := slot₃.receivePending || false }, c₃.trace, .idle⟩ := .indicated hactive
          rw [hset] at hstep
          have h₄ := @At.staged _ _ _ _ _ .idle h₃ fun _ => hready rfl
          exact hfinish h₄ (hviews.tail hstep) hc₃ (.inl rfl) (fun _ => rfl) hrests₃
        · exact hfinish h₃ hviews hc₃ (.inr ⟨indicated, reply, rfl⟩) (fun ha => absurd ha hactive) hrests₃
  rw [CiController.afterRecv, wlp_bind, h.wlp_slotAt]
  dsimp only
  split
  · next hactive =>
      have hkept : Move (fun _ => True) c (c.edit slotId ({ · with commandSince := none })) :=
        .kept _ (fun _ => rfl) (fun _ => rfl) (fun _ => rfl) fun _ _ => .inl
      have hstep : SlotStep (UInt8.ofNat count) slotId ⟨slot, c.trace, .heard reply⟩
          ⟨{ slot with commandSince := none }, c.trace, .heard reply⟩ :=
        .edited rfl rfl (fun hne => absurd hactive hne) rfl
      rw [wlp_bind, h.wlp_modifySlot]
      exact wlp_mono (htail (h.edit ({ · with commandSince := none })) (.single hkept) hp hunticked)
        (fun _ _ hl => hl.before (.single hstep)) fun _ _ hl => hl.before (.single hstep)
  · exact htail h .refl hp hunticked

theorem At.afterRecvOther (h : c.At count slotId slot stage) (heeds : Heeds slot stage) (hs : c.Sound)
    (present : ∀ slotId, c.PresentAt slotId) (hp : pending c.session.transport.trace = false) (hne : other ≠ slotId)
    (hlt : other.toNat < c.slots.length) :
    wlp (CiController.afterRecv other)
      (fun _ => Leads count slotId ⟨slot, c.trace, stage⟩ fun slot' stage' _ => slot.Kept slot' ∧ stage' = stage)
      (fun _ => Leads count slotId ⟨slot, c.trace, stage⟩ fun _ stage' _ => stage' = .idle) c := by
  have hfinish {c₄ : CiController} {slot₄ : ControllerSlot} (h₄ : c₄.At count slotId slot₄ stage)
      (hviews₄ : ReflTransGen (SlotStep (UInt8.ofNat count) slotId) ⟨slot, c.trace, stage⟩ ⟨slot₄, c₄.trace, stage⟩)
      (hkept : slot.Kept slot₄) (hc₄ : c₄.Calm) (hlt₄ : other.toNat < c₄.slots.length) : wlp (do
        match (← get).lastTick with
        | some now => do
            match ← attempt (CiController.flushReceivePending other now) with
            | .ok () => markOutstanding other now
            | .error e => do
                CiController.recoverAtEventTime (some other)
                fail e
        | none => pure ())
      (fun _ => Leads count slotId ⟨slot, c.trace, stage⟩ fun slot' stage' _ => slot.Kept slot' ∧ stage' = stage)
      (fun _ => Leads count slotId ⟨slot, c.trace, stage⟩ fun _ stage' _ => stage' = .idle) c₄ := by
    refine wlp_mono (h₄.afterCollectOther hc₄ hne hlt₄) (fun _ _ hl => ?_) fun _ _ hl => hl.before hviews₄
    exact (hl.before hviews₄).mono fun _ _ _ hs => ⟨hkept.trans (.inl hs.1), hs.2⟩
  have htail {c₁ : CiController} {slot₁ : ControllerSlot} (h₁ : c₁.At count slotId slot₁ stage)
      (hviews₁ : ReflTransGen (SlotStep (UInt8.ofNat count) slotId) ⟨slot, c.trace, stage⟩ ⟨slot₁, c₁.trace, stage⟩)
      (hlike₁ : slot.Like slot₁) (hpath₁ : ReflTransGen (Move fun _ => True) c c₁)
      (hp₁ : pending c₁.session.transport.trace = false) : wlp (do
        let dataPending ← zoom transportLens (CiTransport.takeDataPending other)
        CiController.collectSessionEvents
        if dataPending then
          if (← status other) = .active then
            modifySlot other ({ · with receivePending := true })
        match (← get).lastTick with
        | some now => do
            match ← attempt (CiController.flushReceivePending other now) with
            | .ok () => markOutstanding other now
            | .error e => do
                CiController.recoverAtEventTime (some other)
                fail e
        | none => pure ())
      (fun _ => Leads count slotId ⟨slot, c.trace, stage⟩ fun slot' stage' _ => slot.Kept slot' ∧ stage' = stage)
      (fun _ => Leads count slotId ⟨slot, c.trace, stage⟩ fun _ stage' _ => stage' = .idle) c₁ := by
    have htake := takeDataPending_along (V := fun _ => True) (hs.path hpath₁) ((Keeps.path hpath₁).count.symm ▸ hlt) trivial
    rw [wlp_bind]
    refine wlp_mono (wlp_and (h₁.spared (beside_takeDataPending hne)) (wlp_of_wp htake)) (fun indicated c₂ hl => ?_)
      fun _ _ hf => hf.2.2.elim
    obtain ⟨⟨slot₂, stage₂, h₂, hviews₂, hlike₂, rfl⟩, hpath₂, _, hp₂⟩ := hl
    have hpath₂ := hpath₁.trans hpath₂
    have hlike := hlike₁.trans hlike₂
    have hcollect := collect_along (V := fun _ => True) (hs.path hpath₂) fun _ _ => trivial
    rw [wlp_bind]
    refine wlp_mono (wlp_and (h₂.collectSessionEvents fun hc => heeds (hlike.status ▸ hc)) (wlp_of_wp hcollect))
      (fun _ c₃ hl => ?_) fun _ _ hf => hf.2.2.elim
    obtain ⟨⟨slot₃, stage₃, h₃, hviews₃, hkept, rfl, hevents₃⟩, hpath₃, hsteady₃, _⟩ := hl
    have hpath₃ := hpath₂.trans hpath₃
    have hp₃ : pending c₃.session.transport.trace = false := by
      rw [hsteady₃.whole, hp₂, hp₁]
    have hlt₃ : other.toNat < c₃.slots.length := (Keeps.path hpath₃).count.symm ▸ hlt
    have hviews := hviews₁.trans (hviews₂.trans hviews₃)
    have hc₃ : c₃.Calm := ⟨hs.path hpath₃, hp₃, hevents₃, fun other => (present other).path hpath₃⟩
    have hkept₃ : slot.Kept slot₃ := ControllerSlot.Kept.trans (.inl hlike) hkept
    dsimp only
    split
    · obtain ⟨slot', known'⟩ := known_of_lt hlt₃
      rw [wlp_bind, wlp_status known']
      split
      · next hactive =>
          have hmove : Move (fun _ => True) c₃ (c₃.edit other ({ · with receivePending := true })) := by
            refine .kept _ (fun _ => rfl) (fun _ => rfl) (fun _ => rfl) fun slot'' known'' _ => ?_
            rw [known', Option.some.injEq] at known''
            exact .inr (known'' ▸ hactive)
          have hbeside : Beside slotId c₃ (c₃.edit other ({ · with receivePending := true })) :=
            beside_edit fun heq => absurd heq hne
          obtain ⟨slot₄, stage₄, h₄, hviews₄, hlike₄, rfl⟩ := h₃.beside hbeside
          have hmodify : wlp (modifySlot other ({ · with receivePending := true })) (fun _ c' =>
              c' = c₃.edit other ({ · with receivePending := true })) (fun _ _ => False) c₃ :=
            wlp_of_wp ((wp_modifySlot known').mpr rfl)
          rw [wlp_bind]
          refine wlp_mono hmodify (fun _ c₄ hc₄ => ?_) fun _ _ hf => hf.elim
          subst hc₄
          exact hfinish h₄ (hviews.trans hviews₄) (hkept₃.trans (.inl hlike₄))
            (hc₃.path (.single hmove) hp₃ hevents₃) (length_edit.symm ▸ hlt₃)
      · exact hfinish h₃ hviews hkept₃ hc₃ hlt₃
    · exact hfinish h₃ hviews hkept₃ hc₃ hlt₃
  obtain ⟨slot', known'⟩ := known_of_lt hlt
  have hslot : slotAt other c = (.ok slot', c) := run_of_wp ((wp_slotAt_known known').mpr ⟨rfl, rfl⟩)
  rw [CiController.afterRecv, wlp_bind, wlp_run hslot]
  dsimp only
  split
  · have hmove : Move (fun _ => True) c (c.edit other ({ · with commandSince := none })) :=
      .kept _ (fun _ => rfl) (fun _ => rfl) (fun _ => rfl) fun _ _ => .inl
    have hbeside : Beside slotId c (c.edit other ({ · with commandSince := none })) :=
      beside_edit fun heq => absurd heq hne
    obtain ⟨slot₁, stage₁, h₁, hviews₁, hlike₁, rfl⟩ := h.beside hbeside
    have hmodify : wlp (modifySlot other ({ · with commandSince := none })) (fun _ c' =>
        c' = c.edit other ({ · with commandSince := none })) (fun _ _ => False) c :=
      wlp_of_wp ((wp_modifySlot known').mpr rfl)
    rw [wlp_bind]
    refine wlp_mono hmodify (fun _ c₁ hc₁ => ?_) fun _ _ hf => hf.elim
    subst hc₁
    exact htail h₁ hviews₁ hlike₁ (.single hmove) hp
  · exact htail h .refl (.refl slot) .refl hp

end Turn

section Poll

-- A slot between two calls: nothing is under way, but that the answer to a frame was cut off by a failure
-- before the first tick.
def Paused (slot : ControllerSlot) (stage : SlotStage) (c : CiController) : Prop :=
  stage = .idle ∨ c.deferredLinkFailure = true ∧ slot.status.Rests ∧ ∃ reply, stage = .heard reply

def Resides (count : Nat) (slotId : UInt8) (v : SlotView) (c : CiController) : Prop := Leads count slotId v Paused c

theorem Paused.quiet (h : Paused slot stage c) : stage = .idle ∨ slot.status.Rests ∧ ∃ reply, stage = .heard reply :=
  h.imp_right fun hs => hs.2

theorem Paused.heeds (h : Paused slot stage c) : Heeds slot stage := by
  rcases h with rfl | ⟨_, hrests, _⟩
  · exact fun _ => nofun
  · exact fun hcreating => absurd hcreating hrests.1

theorem Paused.kept {slot' : ControllerSlot} (h : Paused slot stage c) (hkept : slot.Kept slot')
    (hdeferred : c'.deferredLinkFailure = c.deferredLinkFailure) : Paused slot' stage c' := by
  rcases h with rfl | ⟨hd, hrests, hheard⟩
  · exact .inl rfl
  · refine .inr ⟨hdeferred.trans hd, ?_, hheard⟩
    rcases hkept with hlike | ⟨hcreating, _⟩
    · exact hlike.status ▸ hrests
    · exact absurd hcreating hrests.1

theorem Leads.resides (h : Leads count slotId v' (fun _ stage _ => stage = .idle) c)
    (hpath : ReflTransGen (SlotStep (UInt8.ofNat count) slotId) v v') : Resides count slotId v c :=
  (h.before hpath).mono fun _ _ _ hs => .inl hs

theorem Resides.drained (h : Resides count slotId v c) (events : List CaEvent) : Resides count slotId v { c with events } := by
  obtain ⟨slot, stage, hat, hpath, hpaused⟩ := h
  exact ⟨slot, stage, ⟨hat.known, hat.bound, hat.small, hat.wide, hat.replayed, hat.unready⟩, hpath, hpaused⟩

theorem Resides.popEvent (h : Resides count slotId v c) :
    wlp popEvent (fun event c' => Resides count slotId v c' ∧ (event = none → c' = c)) (fun _ _ => False) c :=
  wlp_of_wp (wp_popEvent.mpr ⟨fun _ => ⟨h, fun _ => rfl⟩, fun _ rest _ => ⟨h.drained rest, nofun⟩⟩)

theorem At.pollFailed (h : c.At count slotId slot stage) (hs : c.Sound)
    (hviews : ReflTransGen (SlotStep (UInt8.ofNat count) slotId) v ⟨slot, c.trace, stage⟩)
    (hstage : stage = .idle ∨ (∃ reply, stage = .heard reply) ∨ ∃ reply, stage = .lost reply)
    (hunticked : c.lastTick = none → slot.status.Rests ∧ slot.Timeless) (e : Error)
    {Q : Option CaEvent → CiController → Prop} :
    wlp (pollFailed e) Q (fun _ => Resides count slotId v) c := by
  rw [CiController.pollFailed, wlp_bind, wlp_get]
  split
  · next now hnow =>
      rw [wlp_bind, wlp_attempt]
      exact wlp_mono (h.recovers hs hnow _ _) (fun _ _ hl => wlp_fail.mpr ((hl.mono fun _ _ _ hs => hs.1).resides hviews))
        fun _ _ hl => wlp_fail.mpr ((hl.mono fun _ _ _ hs => hs.1).resides hviews)
  · next hnone =>
      obtain ⟨hrests, htimeless⟩ := hunticked hnone
      have hat {stage' : SlotStage} (hstage' : stage'.replied = stage.replied) :
          ({ c with deferredLinkFailure := true } : CiController).At count slotId slot stage' :=
        ⟨h.known, h.bound, h.small, h.wide, h.replayed, fun hr => h.unready (hstage' ▸ hr)⟩
      rw [wlp_bind, wlp_modify, wlp_fail]
      rcases hstage with rfl | ⟨reply, rfl⟩ | ⟨reply, rfl⟩
      · exact ⟨slot, _, hat rfl, hviews, .inl rfl⟩
      · exact ⟨slot, _, hat rfl, hviews, .inr ⟨rfl, hrests, reply, rfl⟩⟩
      · exact ⟨slot, .heard reply, hat rfl, hviews.tail (.abandoned hrests htimeless.1 htimeless.2),
          .inr ⟨rfl, hrests, reply, rfl⟩⟩

theorem AllAbsent.rests (h : c.AllAbsent) (known : c.slots[slotId.toNat]? = some slot) : slot.status.Rests :=
  h slotId slot known ▸ CaSlotStatus.rests_absent

theorem Resides.pollLoop (rested : v.Rested) : ∀ (fuel : Nat) (c : CiController), c.Calm → (c.lastTick = none → c.AllAbsent) →
    Resides count slotId v c →
    wlp (pollLoop fuel) (fun _ => Resides count slotId v) (fun _ => Resides count slotId v) c := by
  intro fuel
  induction fuel with
  | zero => exact fun _ _ _ _ => wlp_fault
  | succ fuel ih =>
      intro c hc hunticked hresides
      obtain ⟨slot, stage, h, hviews, hpaused⟩ := hresides
      have htimeless (hrests : slot.status.Rests) : slot.Timeless := by
        refine rested.path hviews ?_ hrests
        rcases hpaused with rfl | ⟨_, _, reply, rfl⟩ <;> rfl
      have hrecv := wlp_of_wp (recvController_along (V := fun _ => True) hc fun _ _ _ _ => trivial)
      rw [CiController.pollLoop, wlp_bind, wlp_attempt]
      refine wlp_mono (wlp_and (h.recvController hc hpaused.quiet) hrecv) (fun recv c₁ hl => ?_) fun e c₁ hl => ?_
      · obtain ⟨⟨slot₁, stage₁, h₁, hviews₁, rfl, hother, hself⟩, hpath₁, hp₁, hnone, hsome⟩ := hl
        have horigin := hviews.trans hviews₁
        cases recv with
        | none =>
            obtain rfl := hother (by rintro ⟨⟩)
            have hresides₁ : Resides count slotId v c₁ :=
              ⟨slot₁, stage₁, h₁, horigin, hpaused.kept (.inl (.refl slot₁)) (Keeps.path hpath₁).deferred⟩
            exact wlp_mono hresides₁.popEvent (fun _ _ hl => hl.1) fun _ _ hf => hf.elim
        | some other =>
            have hlt := (hsome other rfl).1
            have hs₁ := hc.sound.path hpath₁
            have hpresent₁ (other : UInt8) : c₁.PresentAt other := (hc.present other).path hpath₁
            have hlt₁ : other.toNat < c₁.slots.length := (Keeps.path hpath₁).count.symm ▸ hlt
            have hrests₁ : c₁.lastTick = none → slot₁.status.Rests := by
              rw [(Keeps.path hpath₁).lastTick]
              exact fun hnone => (hunticked hnone).rests h.known
            have halong := wlp_of_wp (afterRecv_along (V := fun _ => True) hs₁ hpresent₁ hp₁ (fun _ _ => trivial) hlt₁ trivial)
            have hafter : wlp (CiController.afterRecv other) (fun _ => Resides count slotId v)
                (fun _ => Resides count slotId v) c₁ := by
              by_cases heq : other = slotId
              · obtain ⟨reply, rfl⟩ := hself (congrArg some heq)
                subst heq
                exact wlp_mono (h₁.afterRecv hs₁ hpresent₁ hp₁ hrests₁) (fun _ _ hl => hl.resides horigin)
                  fun _ _ hl => hl.resides horigin
              · obtain rfl := hother fun hsame => heq (Option.some.inj hsame)
                refine wlp_mono (wlp_and (h₁.afterRecvOther hpaused.heeds hs₁ hpresent₁ hp₁ heq hlt₁) halong)
                  (fun _ c₂ hl => (hl.1.before horigin).mono fun _ _ _ hs => ?_) fun _ _ hl => hl.1.resides horigin
                obtain ⟨hkept, rfl⟩ := hs
                exact hpaused.kept hkept (Keeps.path (hpath₁.trans hl.2.1)).deferred
            dsimp only
            rw [wlp_bind]
            refine wlp_mono (wlp_and hafter halong) (fun _ c₂ hl => ?_) fun _ _ hl => hl.1
            obtain ⟨hresides₂, hpath₂, hstill₂⟩ := hl
            have hpath₂ := hpath₁.trans hpath₂
            have hc₂ := hc.along hpath₂ hstill₂
            have hunticked₂ (hlast : c₂.lastTick = none) : c₂.AllAbsent :=
              (hunticked ((Keeps.path hpath₂).lastTick.symm.trans hlast)).path hc.present hpath₂
            rw [wlp_bind]
            refine wlp_mono hresides₂.popEvent (fun event c₃ hl => ?_) fun _ _ hf => hf.elim
            cases event with
            | some event => exact wlp_pure.mpr hl.1
            | none =>
                rw [hl.2 rfl]
                exact ih c₂ hc₂ hunticked₂ hresides₂
      · obtain ⟨⟨slot₁, stage₁, h₁, hviews₁, rfl, hstage₁⟩, hpath₁, _⟩ := hl
        refine h₁.pollFailed (hc.sound.path hpath₁) (hviews.trans hviews₁) ?_ (fun hnone => ?_) e
        · rcases hstage₁ with rfl | hruined
          · rcases hpaused with rfl | ⟨_, _, hheard⟩
            · exact .inl rfl
            · exact .inr (.inl hheard)
          · exact .inr hruined
        · have hrests := (hunticked ((Keeps.path hpath₁).lastTick.symm.trans hnone)).rests h.known
          exact ⟨hrests, htimeless hrests⟩

theorem Resides.pollEvent (rested : v.Rested) (h : Resides count slotId v c) (hc : c.Calm) (hunticked : c.lastTick = none → c.AllAbsent) :
    wlp pollEvent (fun _ => Resides count slotId v) (fun _ => Resides count slotId v) c := by
  rw [CiController.pollEvent, wlp_bind, wlp_run (collect_run hc.collected), wlp_bind]
  refine wlp_mono h.popEvent (fun event c' hl => ?_) fun _ _ hf => hf.elim
  cases event with
  | some event => exact wlp_pure.mpr hl.1
  | none =>
      rw [hl.2 rfl]
      dsimp only
      rw [wlp_bind, wlp_get]
      split
      · exact wlp_pure.mpr h
      · exact Resides.pollLoop rested _ c hc hunticked h

end Poll

end LibDvb.CiController
