import LibDvb.Ca.Controller.CamStatus
import LibDvb.Ca.Controller.SlotRun

namespace LibDvb

open Relation Act Outcome

def TransportSlot.Holds (frame : Bytes) (slot : TransportSlot) : Prop := slot.queue = [frame] ∧ slot.busy = false

def TransportSlot.Awaits (slot : TransportSlot) : Prop := slot.queue = [] ∧ slot.busy = true

section Launch

variable {slotsNum slotId : UInt8} {v v' : SlotView}

-- A connection attempt whose deadline is not set has its TT_CREATE_TC in the queue, with a deadline for the write, or
-- its write is looked at now.
def SlotView.Launched (slotsNum slotId : UInt8) (v : SlotView) : Prop :=
  v.slot.status = .creatingTc → v.slot.createSince = none → v.stage.ruined = false →
    (slotHistory slotsNum slotId v.trace).Holds (Tpdu.createFrame slotId) ∧ (v.stage = .idle → v.slot.commandSince ≠ none) ∨
      (slotHistory slotsNum slotId v.trace).Awaits ∧ v.stage ≠ .idle

theorem SlotStage.sent_ne_idle (stage : SlotStage) : stage.sent ≠ .idle := by
  cases stage <;> nofun

theorem SlotView.Launched.step (h : v.Launched slotsNum slotId) (hstep : SlotStep slotsNum slotId v v') :
    v'.Launched slotsNum slotId := by
  cases hstep with
  | aside apart still =>
      intro hcreating hunset hstage
      rw [still]
      exact h hcreating hunset hstage
  | talked apart status => exact fun hcreating => absurd hcreating status
  | edited status create command receive =>
      intro hcreating hunset hstage
      rw [status] at hcreating
      have hne : CaSlotStatus.creatingTc ≠ .active := by decide
      refine (h hcreating (create ▸ hunset) hstage).imp_left fun hs => ⟨hs.1, fun hidle => ?_⟩
      rw [command (hcreating ▸ hne)]
      exact hs.2 hidle
  | turned old new create command => exact fun hcreating => absurd hcreating new.1
  | @read slot trace stage frame head quiet =>
      intro hcreating hunset _
      have hidle : stage = .idle := quiet.resolve_right fun hs => hs.1.1 hcreating
      subst hidle
      rcases h hcreating hunset rfl with ⟨hholds, _⟩ | ⟨_, hne⟩
      · refine .inl ⟨?_, by rintro ⟨⟩⟩
        rw [slotHistory_snoc, Obs.onSlot, if_pos head]
        exact ⟨(queue_afterRead _ _ _).trans hholds.1, busy_afterRead _ _ _⟩
      · exact absurd rfl hne
  | @wrote slot trace stage frame result callback kept =>
      intro hcreating hunset hstage
      rw [SlotStage.ruined_sent] at hstage
      rw [slotHistory_snoc]
      cases result with
      | ok _ =>
          refine .inr ⟨?_, stage.sent_ne_idle⟩
          rw [Obs.onSlot, if_pos rfl]
          rcases h hcreating hunset hstage with ⟨hholds, _⟩ | ⟨hawaits, _⟩
          · exact ⟨congrArg List.tail hholds.1, rfl⟩
          · exact ⟨congrArg List.tail hawaits.1, rfl⟩
      | error e =>
          have htransient : e.transient = true := by
            simpa [Obs.refused] using kept
          rw [Obs.onSlot, if_neg fun hs => Bool.false_ne_true (hs.2.symm.trans htransient)]
          exact (h hcreating hunset hstage).imp (fun hs => ⟨hs.1, fun hidle => absurd hidle stage.sent_ne_idle⟩)
            fun hs => ⟨hs.1, stage.sent_ne_idle⟩
  | lost status kept => rintro _ _ ⟨⟩
  | taken =>
      intro hcreating hunset _
      rw [slotHistory_snoc, Obs.onSlot, if_pos rfl]
      exact (h hcreating hunset rfl).imp (fun hs => ⟨hs.1, by rintro ⟨⟩⟩) fun hs => ⟨hs.1, by rintro ⟨⟩⟩
  | activated status => rintro ⟨⟩
  | indicated status => exact fun hcreating => absurd (status.symm.trans hcreating) (by decide)
  | @marked slot trace stage now status settled =>
      intro _ hunset _
      have hstage : stage.ruined = false := by
        rcases settled with rfl | ⟨_, _, rfl⟩ <;> rfl
      rw [ControllerSlot.marked] at hunset ⊢
      split at hunset
      · cases hunset
      · next hbusy =>
          rw [if_neg hbusy]
          have hcreate : slot.createSince = none := by
            split at hunset
            · exact hunset
            · split at hunset <;> exact hunset
          rcases h status hcreate hstage with ⟨hholds, _⟩ | ⟨hawaits, _⟩
          · have hqueue : (slotHistory slotsNum slotId trace).queue ≠ [] := by
              rw [hholds.1]
              exact List.cons_ne_nil _ _
            rw [if_pos ⟨status, hqueue⟩]
            exact .inl ⟨hholds, fun _ => Option.some_ne_none _⟩
          · exact absurd ⟨status, hawaits.2, hcreate⟩ hbusy
  | settled rests => exact fun hcreating => absurd hcreating rests.1
  | received status receive idle => exact fun hcreating => absurd (status.symm.trans hcreating) (by decide)
  | created status idle =>
      intro _ _ _
      refine .inl ⟨?_, by rintro ⟨⟩⟩
      rw [slotHistory_snoc, Obs.onSlot, if_pos rfl]
      exact ⟨congrArg (· ++ _) idle.2, idle.1⟩
  | abandoned rests create command => exact fun hcreating => absurd hcreating rests.1
  | cleared status => rintro _ _ ⟨⟩
  | wrecked apart status => rintro _ _ ⟨⟩
  | reactivated status => rintro ⟨⟩
  | rested rests create command => exact fun hcreating => absurd hcreating rests.1

theorem SlotView.Launched.path (h : v.Launched slotsNum slotId) (hpath : ReflTransGen (SlotStep slotsNum slotId) v v') :
    v'.Launched slotsNum slotId := Path.invariant hpath h fun _ _ => SlotView.Launched.step

theorem SlotView.launched_origin : SlotView.origin.Launched slotsNum slotId := nofun

end Launch

section Attempt

variable {slotsNum slotId : UInt8} {v v' : SlotView} {since : Instant} {before : List Obs}

def Obs.EndsAttempt (slotsNum slotId : UInt8) : Obs → Prop
  | .read frame => Tpdu.replies slotsNum slotId frame = true
  | .cleared other => other = slotId
  | _ => False

theorem SlotStep.grows (hstep : SlotStep slotsNum slotId v v') : ∃ delta, v'.trace = v.trace ++ delta := by
  cases hstep with
  | aside apart still => exact ⟨_, rfl⟩
  | talked apart status => exact ⟨_, rfl⟩
  | read head quiet => exact ⟨_, rfl⟩
  | wrote kept => exact ⟨_, rfl⟩
  | lost status kept => exact ⟨_, rfl⟩
  | taken => exact ⟨_, rfl⟩
  | activated status => exact ⟨_, rfl⟩
  | received status receive idle => exact ⟨_, rfl⟩
  | created status idle => exact ⟨_, rfl⟩
  | cleared status => exact ⟨_, rfl⟩
  | wrecked apart status => exact ⟨_, rfl⟩
  | reactivated status => exact ⟨_, rfl⟩
  | _ => exact ⟨[], (List.append_nil _).symm⟩

structure SlotView.Attempts (since : Instant) (v : SlotView) : Prop where
  status : v.slot.status = .creatingTc
  createSince : v.slot.createSince = some since
  unanswered : v.stage.replied = false
  standing : ∀ reply, v.stage ≠ .gone reply

theorem SlotView.Attempts.step (h : v.Attempts since) (hstep : SlotStep slotsNum slotId v v') :
    v'.Attempts since ∨ ∃ obs, v'.trace = v.trace ++ [obs] ∧ obs.EndsAttempt slotsNum slotId := by
  obtain ⟨hcreating, hcreate, hunanswered, hstanding⟩ := h
  cases hstep with
  | aside apart still => exact .inl ⟨hcreating, hcreate, hunanswered, hstanding⟩
  | talked apart status => exact absurd hcreating status
  | edited status create command receive =>
      exact .inl ⟨status.trans hcreating, create.trans hcreate, hunanswered, hstanding⟩
  | turned old new create command => exact absurd hcreating old.1
  | @read slot trace stage frame head quiet =>
      cases hreplies : Tpdu.replies slotsNum slotId frame with
      | true => exact .inr ⟨.read frame, rfl, hreplies⟩
      | false => exact .inl ⟨hcreating, hcreate, rfl, nofun⟩
  | @wrote slot trace stage frame result callback kept =>
      refine .inl ⟨hcreating, hcreate, ?_, ?_⟩
      · cases stage <;> exact hunanswered
      · cases stage with
        | gone reply => exact absurd rfl (hstanding reply)
        | _ => exact nofun
  | lost status kept =>
      refine .inl ?_
      rw [kept hcreating (by rw [hcreate]; exact Option.some_ne_none since)]
      exact ⟨hcreating, hcreate, hunanswered, nofun⟩
  | taken => exact .inl ⟨hcreating, hcreate, hunanswered, nofun⟩
  | activated status => cases hunanswered
  | indicated status => exact absurd (hcreating.symm.trans status) (by decide)
  | @marked slot trace stage now status settled =>
      refine .inl ⟨(slot.marked_status _ _).trans status, ?_, rfl, nofun⟩
      rw [ControllerSlot.marked, if_neg fun hs => Option.some_ne_none since (hcreate.symm.trans hs.2.2)]
      split
      · exact hcreate
      · split <;> exact hcreate
  | settled rests => exact absurd hcreating rests.1
  | received status receive idle => exact absurd (hcreating.symm.trans status) (by decide)
  | created status idle => exact absurd (hcreating.symm.trans status) (by decide)
  | abandoned rests create command => exact absurd hcreating rests.1
  | cleared status => exact .inr ⟨.cleared slotId, rfl, rfl⟩
  | wrecked apart status => exact absurd rfl (hstanding _)
  | reactivated status => exact absurd rfl (hstanding _)
  | rested rests create command => exact absurd rfl (hstanding _)

theorem SlotView.Attempts.path (h : v.Attempts since) (hpath : ReflTransGen (SlotStep slotsNum slotId) v v') :
    ∃ delta, v'.trace = v.trace ++ delta ∧ (v'.Attempts since ∨ ∃ obs ∈ delta, obs.EndsAttempt slotsNum slotId) := by
  induction hpath with
  | refl => exact ⟨[], (List.append_nil _).symm, .inl h⟩
  | tail _ hstep ih =>
      obtain ⟨delta, hdelta, hstands | ⟨obs, hmem, hends⟩⟩ := ih
      · rcases hstands.step hstep with hstands' | ⟨obs, htrace, hends⟩
        · obtain ⟨more, hmore⟩ := hstep.grows
          exact ⟨delta ++ more, by rw [hmore, hdelta, List.append_assoc], .inl hstands'⟩
        · refine ⟨delta ++ [obs], by rw [htrace, hdelta, List.append_assoc], .inr ⟨obs, ?_, hends⟩⟩
          exact List.mem_append_right _ List.mem_cons_self
      · obtain ⟨more, hmore⟩ := hstep.grows
        refine ⟨delta ++ more, by rw [hmore, hdelta, List.append_assoc], .inr ⟨obs, ?_, hends⟩⟩
        exact List.mem_append_left _ hmem

end Attempt

namespace CiController

variable {c c' start : CiController} {slotId : UInt8} {slot : ControllerSlot} {labels : List ControllerLabel}

structure Guarded (c : CiController) (now : Instant) (slotId : UInt8) (slot : ControllerSlot) (transport : TransportSlot) :
    Prop where
  creating : slot.status = .creatingTc →
    (∃ since, slot.createSince = some since ∧ Waits since now c.config.createTcTimeout) ∨
      slot.createSince = none ∧ transport.Holds (Tpdu.createFrame slotId) ∧
        ∃ since, slot.commandSince = some since ∧ Waits since now c.config.responseTimeout
  active : slot.status = .active → transport.busy = true ∨ transport.queue ≠ [] →
    ∃ since, slot.commandSince = some since ∧ Waits since now c.config.responseTimeout

theorem Resides.attempting {count : Nat} {v : SlotView} {since : Instant} (h : Resides count slotId v c)
    (known : c.slots[slotId.toNat]? = some slot) (status : slot.status = .creatingTc)
    (create : slot.createSince = some since) : SlotView.Attempts since ⟨slot, c.trace, .idle⟩ ∧
      Resides count slotId ⟨slot, c.trace, .idle⟩ c ∧
        ReflTransGen (SlotStep (UInt8.ofNat count) slotId) v ⟨slot, c.trace, .idle⟩ := by
  obtain ⟨slot', stage, hat, hpath, hpaused⟩ := h
  obtain rfl : slot' = slot := Option.some.inj (hat.known.symm.trans known)
  obtain rfl : stage = .idle := hpaused.resolve_right fun hs => hs.2.1.1 status
  exact ⟨⟨status, create, rfl, nofun⟩, hat.leads (.inl rfl), hpath⟩

theorem Tended.guarded {count : Nat} {now : Instant} {stage : SlotStage} (h : c.Tended count slotId now slot)
    (launched : SlotView.Launched (UInt8.ofNat count) slotId ⟨slot, c.trace, stage⟩) (idle : stage = .idle) :
    c.Guarded now slotId slot (c.past count slotId) := by
  subst idle
  refine ⟨fun hcreating => ?_, fun hactive hwaits => ?_⟩
  · cases hcreate : slot.createSince with
    | some since => exact .inl ⟨since, rfl, h.1.create hcreating since hcreate⟩
    | none =>
        rcases launched hcreating hcreate rfl with ⟨hholds, hcommand⟩ | ⟨_, hne⟩
        · obtain ⟨since, hsince⟩ := Option.ne_none_iff_exists'.mp (hcommand rfl)
          exact .inr ⟨rfl, hholds, since, hsince, h.1.write hcreating hcreate since hsince⟩
        · exact absurd rfl hne
  · obtain ⟨since, hsince⟩ := Option.ne_none_iff_exists'.mp (h.2 hactive hwaits)
    exact ⟨since, hsince, h.1.command hactive since hsince⟩

end CiController

section Run

open CiController

variable {start c c' : CiController} {labels : List ControllerLabel}

theorem no_slot_waits_without_deadline (h : ControllerRun start labels c) :
    (c.lastTick = none → ∀ slot ∈ c.slots, slot.status ≠ .creatingTc ∧ slot.status ≠ .active) ∧
    (∀ link now reply c', ControllerStep c ⟨link, .tick now, .ok reply⟩ c' → c'.linkSuspended = false →
      ∀ (slotId : UInt8) slot transport, c'.slots[slotId.toNat]? = some slot →
        c'.session.transport.slots[slotId.toNat]? = some transport → c'.Guarded now slotId slot transport) ∧
    (∀ (slotId : UInt8) slot since labels' c', c.slots[slotId.toNat]? = some slot → slot.status = .creatingTc →
      slot.createSince = some since → Run ControllerStep c labels' c' → ∃ delta, c'.trace = c.trace ++ delta ∧
        ((∃ slot', c'.slots[slotId.toNat]? = some slot' ∧ slot'.status = .creatingTc ∧ slot'.createSince = some since) ∨
          ∃ obs ∈ delta, obs.EndsAttempt (UInt8.ofNat c.slots.length) slotId)) := by
  have hs := h.settled
  refine ⟨fun hnone slot hmem => ?_, fun link now reply c' hstep hresumed slotId slot transport known hslot => ?_,
    fun slotId slot since labels' c' known status create hrun => ?_⟩
  · obtain ⟨i, hi, rfl⟩ := List.getElem_of_mem hmem
    have hi' : (UInt8.ofNat i).toNat = i := by
      have := hs.calm.sound.count_le
      rw [UInt8.toNat_ofNat']
      omega
    rw [hs.unticked hnone (UInt8.ofNat i) c.slots[i] (by rw [hi', List.getElem?_eq_getElem hi])]
    exact CaSlotStatus.rests_absent
  · have hcount : c'.slots.length = c.slots.length := run_slots_length hs (.snoc .nil hstep)
    have hresides := h.resides (hcount ▸ slotId_lt known)
    have htick : wlp (ControllerOp.tick now).run
        (fun _ => Leads c.slots.length slotId .origin (Minded c.slots.length slotId now))
        (fun _ => Resides c.slots.length slotId .origin) (linkLens.set link c) :=
      wlp_map.mpr ((hresides.relinked link).tick SlotView.rested_origin (hs.relinked link).calm now)
    have hminded := htick.1 reply (congrArg Prod.fst hstep)
    rw [show ((ControllerOp.tick now).run (linkLens.set link c)).2 = c' from congrArg Prod.snd hstep] at hminded
    obtain ⟨slot', stage, hat, hpath, hidle, htended⟩ := hminded
    obtain rfl : slot' = slot := Option.some.inj (hat.known.symm.trans known)
    obtain rfl : c'.past c.slots.length slotId = transport := Option.some.inj (hat.transport.symm.trans hslot)
    refine Tended.guarded (htended.resolve_left ?_) (SlotView.launched_origin.path hpath) hidle
    rw [hresumed]
    exact Bool.false_ne_true
  · obtain ⟨hattempts, hresides, hpath⟩ := (h.resides (slotId_lt known)).attempting known status create
    obtain ⟨slot', stage, hat, hpath', _⟩ := hresides.run (SlotView.rested_origin.path hpath) hs hrun
    obtain ⟨delta, hdelta, hstands | hends⟩ := hattempts.path hpath'
    · exact ⟨delta, hdelta, .inl ⟨slot', hat.known, hstands.status, hstands.createSince⟩⟩
    · exact ⟨delta, hdelta, .inr hends⟩

def connecting : CiController := ((ControllerOp.tick 0).run (linkLens.set moduleReady oneSlot)).2

theorem connecting_step : ControllerStep oneSlot ⟨moduleReady, .tick 0, .ok none⟩ connecting :=
  Prod.ext (show ((ControllerOp.tick 0).run (linkLens.set moduleReady oneSlot)).1 = .ok none by decide +kernel) rfl

theorem connecting_slot : connecting.slots[(0 : UInt8).toNat]?.any (fun slot => slot.status = .creatingTc) = true ∧
    connecting.session.transport.slots[(0 : UInt8).toNat]?.isSome ∧ connecting.linkSuspended = false := by decide +kernel

theorem no_slot_waits_without_deadline_connecting :
    ∃ slot transport, connecting.slots[(0 : UInt8).toNat]? = some slot ∧ slot.status = .creatingTc ∧
      connecting.session.transport.slots[(0 : UInt8).toNat]? = some transport ∧
        connecting.Guarded 0 0 slot transport := by
  obtain ⟨hany, hsome, hresumed⟩ := connecting_slot
  obtain ⟨slot, hslot, hstatus⟩ := (Option.any_eq_true _ _).mp hany
  obtain ⟨transport, htransport⟩ := Option.isSome_iff_exists.mp hsome
  have hrun : ControllerRun oneSlot [] oneSlot := ⟨oneSlot_starts, .nil⟩
  exact ⟨slot, transport, hslot, of_decide_eq_true hstatus, htransport,
    (no_slot_waits_without_deadline hrun).2.1 _ _ _ _ connecting_step hresumed 0 slot transport hslot htransport⟩

end Run

end LibDvb
