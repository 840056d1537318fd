import LibDvb.Ca.Controller.Stroke
import LibDvb.Ca.Controller.Unerring

namespace LibDvb.CiController

open Relation Act Outcome

variable {heard tried : Bool} {retry : Option Instant} {c c' c'' : CiController} {slotId other : UInt8} {slot : ControllerSlot}

section Failing

def Unfailing (c c' : CiController) : Prop := ∀ (slotId : UInt8) slot', c'.slots[slotId.toNat]? = some slot' →
  slot'.status = .failed → ∃ slot, c.slots[slotId.toNat]? = some slot ∧ slot.status = .failed

theorem Unfailing.refl (c : CiController) : Unfailing c c := fun _ slot known hfailed => ⟨slot, known, hfailed⟩

theorem Unfailing.trans (h : Unfailing c c') (h' : Unfailing c' c'') : Unfailing c c'' := by
  intro slotId slot'' known'' hfailed''
  obtain ⟨slot', known', hfailed'⟩ := h' slotId slot'' known'' hfailed''
  exact h slotId slot' known' hfailed'

theorem unfailing_session {α : Type} (m : Act Error CiSession α) : Act.Keeps Unfailing (zoom sessionLens m) :=
  fun c => ⟨fun _ _ => .refl c, fun _ _ => .refl c⟩

theorem unfailing_edit {f : ControllerSlot → ControllerSlot} (hf : ∀ slot, (f slot).status = .failed → slot.status = .failed) :
    Unfailing c (c.edit slotId f) := by
  intro other slot' known' hfailed
  rw [getElem?_edit] at known'
  split at known'
  · obtain ⟨slot, known, rfl⟩ := Option.map_eq_some_iff.mp known'
    exact ⟨slot, known, hf slot hfailed⟩
  · exact ⟨slot', known', hfailed⟩

theorem unfailing_modify {f : CiController → CiController} (hf : ∀ c, (f c).slots = c.slots) :
    Act.Keeps Unfailing (modify f : Act Error CiController Unit) :=
  keeps_modify fun c _ slot' known' hfailed => ⟨slot', hf c ▸ known', hfailed⟩

theorem unfailing_pushEvent (e : CaEvent) : Act.Keeps Unfailing (pushEvent e) := unfailing_modify fun _ => rfl

theorem unfailing_renewed (event : CaEvent) : Act.Keeps Unfailing (do
    recomputeCamStatus slotId
    pushEvent event) := by
  have hcam (new : CamStatus) : Act.Keeps Unfailing (setCamStatus slotId new) :=
    fun c => wlp_setCamStatus fun _ _ => unfailing_edit (c := c) fun _ h => h
  exact keeps_bind .trans (keeps_bind .trans (keeps_get .refl) fun _ => hcam _) fun _ => unfailing_pushEvent event

theorem unfailing_collectEvent (event : CaEvent) : Act.Keeps Unfailing (collectEvent event) := by
  apply keeps_bind .trans (keeps_get .refl)
  intro c
  split
  · split
    · intro c
      rw [wlp_bind]
      refine wlp_modifySlot fun _ _ => ?_
      rw [wlp_bind]
      refine wlp_setSlotStatus (by rintro _ _ ⟨⟩) fun events _ => ?_
      rw [edit_edit, wlp_bind, note, wlp_zoom, CiTransport.note, wlp_modify, pushEvent, wlp_modify]
      exact unfailing_edit (c := c) (by rintro _ ⟨⟩)
    · exact unfailing_pushEvent _
  · split
    · dsimp only
      split
      · exact keeps_bind .trans (unfailing_modify fun _ => rfl) fun _ => unfailing_renewed _
      · exact unfailing_renewed _
    · exact unfailing_pushEvent _
  · split
    · dsimp only
      split
      · split
        · exact keeps_bind .trans (unfailing_modify fun _ => rfl) fun _ => unfailing_renewed _
        · exact unfailing_renewed _
      · exact unfailing_renewed _
    · exact unfailing_pushEvent _
  · dsimp only
    split
    · exact unfailing_renewed _
    · exact unfailing_pushEvent _
  · exact unfailing_pushEvent _

theorem unfailing_collectSessionEvents : Act.Keeps Unfailing collectSessionEvents := by
  have hloop (fuel : Nat) : Act.Keeps Unfailing (collectLoop fuel) := by
    induction fuel with
    | zero => exact fun _ => wlp_fault
    | succ fuel ih =>
        apply keeps_bind .trans (unfailing_session _)
        intro event
        split
        · exact keeps_pure .refl ()
        · exact keeps_bind .trans (unfailing_collectEvent _) fun _ => ih
  exact keeps_bind .trans (keeps_get .refl) fun _ => hloop _

end Failing

section Drop

theorem bides_dropSlot : Waits heard (dropSlot slotId) := bides_session CiSession.idles_dropSlot

theorem edit_emit (events : List CaEvent) (f : ControllerSlot → ControllerSlot) :
    (c.emit events).edit slotId f = (c.edit slotId f).emit events := rfl

theorem bides_rested {new : CaSlotStatus} {told : List CaEvent} (htold : ∀ e ∈ told, e.Mute) (rests : new ≠ .active)
    (retries : ∀ slot, c.slots[slotId.toNat]? = some slot → new = .present → slot.status ≠ .failed) :
    wlp (do
        setCamStatus slotId .none
        setSlotStatus slotId new)
      (fun _ => Bides heard c) (fun _ => Bides heard c) ((c.edit slotId untimed).emit told) := by
  rw [wlp_bind]
  refine wlp_setCamStatus fun events hevents => ?_
  rw [edit_emit, edit_edit]
  refine wlp_setSlotStatus (fun slot known hnew => ?_) fun events' hevents' => ?_
  · have hslot : (c.edit slotId (({ · with camStatus := .none }) ∘ untimed)).slots[slotId.toNat]? = some slot := known
    rw [getElem?_edit, if_pos rfl] at hslot
    obtain ⟨old, hold, rfl⟩ := Option.map_eq_some_iff.mp hslot
    exact retries old hold hnew
  · rw [edit_emit, edit_emit, edit_edit]
    have hedit : Bides heard c (c.edit slotId (({ · with status := new }) ∘ ({ · with camStatus := .none }) ∘ untimed)) :=
      bides_edit fun _ _ => ⟨.inr rfl, .inr rfl, fun h => absurd h rests⟩
    exact ((hedit.trans (bides_emits htold)).trans (bides_emits hevents)).trans (bides_emits hevents')

theorem dropTo_softly {new : CaSlotStatus} (failure : Option CaSlotFailure) (rests : new ≠ .active)
    (retries : ∀ slot, c.slots[slotId.toNat]? = some slot → new = .present → slot.status ≠ .failed) :
    wlp (dropTo slotId failure new) (fun _ => ReflTransGen (Soft heard) c) (fun _ => ReflTransGen (Soft heard) c) c := by
  have hdrop := keeps_and (softly_of_waits (@bides_dropSlot heard slotId)) (unfailing_session (CiSession.dropSlot slotId))
  have hcollect := keeps_and (@collectSessionEvents_softly heard) unfailing_collectSessionEvents
  rw [dropTo, wlp_bind]
  refine wlp_mono (hdrop c) (fun _ c₁ h₁ => ?_) fun _ _ h₁ => h₁.1
  rw [wlp_bind]
  refine wlp_mono (hcollect c₁) (fun _ c₂ h₂ => ?_) fun _ _ h₂ => h₁.1.trans h₂.1
  have hpath := h₁.1.trans h₂.1
  have hretries (slot : ControllerSlot) (known : c₂.slots[slotId.toNat]? = some slot) (hnew : new = .present) :
      slot.status ≠ .failed := by
    intro hfailed
    obtain ⟨old, hold, hfailed⟩ := h₁.2.trans h₂.2 slotId slot known hfailed
    exact retries old hold hnew hfailed
  have hrested {told : List CaEvent} (htold : ∀ e ∈ told, e.Mute) := @bides_rested heard c₂ slotId new told htold rests hretries
  have hrest {told : List CaEvent} (htold : ∀ e ∈ told, e.Mute) :=
    wlp_mono (hrested htold) (fun _ _ h₃ => hpath.tail (.waits h₃)) fun _ _ h₃ => hpath.tail (.waits h₃)
  rw [wlp_bind, clearSlotTimers]
  refine wlp_modifySlot fun _ _ => ?_
  cases failure with
  | none =>
      have hnone := @hrest [] nofun
      rw [emit_nil] at hnone
      exact hnone
  | some reason =>
      refine wlp_bind.mpr (wlp_modify.mpr (@hrest [.slotFailed slotId reason] fun e hmem => ?_))
      rw [List.mem_singleton.mp hmem]
      exact ⟨fun _ => rfl, nofun⟩

theorem applySlotInfo_softly (info : CaSlotInfo) : Softly heard (applySlotInfo slotId info) := by
  intro c
  rw [applySlotInfo, wlp_bind]
  refine wlp_modifySlot fun _ _ => ?_
  generalize hedited : c.edit slotId _ = c₁
  have hbides : Bides heard c c₁ := by
    rw [← hedited]
    exact bides_edit fun _ _ => .of_same rfl rfl rfl
  have hafter {m : Act Error CiController Unit}
      (hm : wlp m (fun _ => ReflTransGen (Soft heard) c₁) (fun _ => ReflTransGen (Soft heard) c₁) c₁) :
      wlp m (fun _ => ReflTransGen (Soft heard) c) (fun _ => ReflTransGen (Soft heard) c) c₁ :=
    wlp_mono hm (fun _ _ h => .head (.waits hbides) h) fun _ _ h => .head (.waits hbides) h
  rw [wlp_bind]
  refine wlp_slotAt fun slot known => ?_
  split
  · split
    · exact hafter (dropTo_softly none nofun fun _ _ h => nomatch h)
    · exact wlp_pure.mpr (.single (.waits hbides))
  · split
    · split
      · exact hafter (dropTo_softly _ nofun fun _ _ h => nomatch h)
      · exact wlp_pure.mpr (.single (.waits hbides))
    · split
      · next habsent =>
          refine hafter (wlp_mono (bides_setSlotStatus nofun fun other hother _ => ?_)
            (fun _ _ h => .single (.waits h)) fun _ _ h => .single (.waits h))
          rw [known, Option.some.injEq] at hother
          rw [← hother, habsent]
          nofun
      · split
        · next hused =>
            refine hafter (dropTo_softly none nofun fun other hother _ => ?_)
            rw [known, Option.some.injEq] at hother
            rw [← hother]
            rcases hused.1 with hstatus | hstatus <;> rw [hstatus] <;> nofun
        · exact wlp_pure.mpr (.single (.waits hbides))

end Drop

section Recovery

-- The deadlines of the slots are cleared, or wait for `retry`; the gate may have been turned.
structure Levels (heard tried : Bool) (retry : Option Instant) (c c' : CiController) : Prop where
  lastTick : c'.lastTick = c.lastTick
  config : c'.config = c.config
  pacer : c'.pacer = { c.pacer with gate := c'.pacer.gate }
  slots : ∀ (slotId : UInt8) slot', c'.slots[slotId.toNat]? = some slot' →
    ∃ slot, c.slots[slotId.toNat]? = some slot ∧ (slot'.nextPoll = slot.nextPoll ∨ slot'.nextPoll = none) ∧
      (slot'.retryAt = slot.retryAt ∨ slot'.retryAt = none ∨ slot'.retryAt = retry)
  session : CiSession.Idles heard c.session c'.session
  events : Adds (fun e => tried = false → e.Retries → e ∈ c.session.events) c.events c'.events

theorem Levels.refl (c : CiController) : Levels heard tried retry c c :=
  ⟨rfl, rfl, rfl, fun _ slot known => ⟨slot, known, .inl rfl, .inl rfl⟩, .refl _, .refl _⟩

theorem Levels.trans (h : Levels heard tried retry c c') (h' : Levels heard tried retry c' c'') :
    Levels heard tried retry c c'' where
  lastTick := h'.lastTick.trans h.lastTick
  config := h'.config.trans h.config
  pacer := by
    have hpacer := h'.pacer
    rw [h.pacer] at hpacer
    exact hpacer
  slots slotId slot'' known'' := by
    obtain ⟨slot', known', hpoll', hretry'⟩ := h'.slots slotId slot'' known''
    obtain ⟨slot, known, hpoll, hretry⟩ := h.slots slotId slot' known'
    refine ⟨slot, known, lapse_trans hpoll hpoll', ?_⟩
    rcases hretry' with hsame | hcleared | hset
    · rw [hsame]
      exact hretry
    · exact .inr (.inl hcleared)
    · exact .inr (.inr hset)
  session := h.session.trans h'.session
  events := by
    refine h.events.trans (h'.events.mono fun e he htried hretries => ?_)
    rcases h.session.events e hretries.steers (he htried hretries) with hmem | ⟨_, other, rfl⟩
    · exact hmem
    · obtain ⟨_, hready⟩ := hretries
      cases hready

theorem Levels.of_none (h : Levels heard tried none c c') : Levels heard tried retry c c' where
  lastTick := h.lastTick
  config := h.config
  pacer := h.pacer
  slots slotId slot' known' := by
    obtain ⟨slot, known, hpoll, hretry⟩ := h.slots slotId slot' known'
    exact ⟨slot, known, hpoll, hretry.imp_right fun hnone => .inl (or_self_iff.mp hnone)⟩
  session := h.session
  events := h.events

structure Stays (c c' : CiController) : Prop where
  suspended : c'.linkSuspended = c.linkSuspended
  recoveryAt : c'.recoveryAt = c.recoveryAt
  statusCheck : c'.nextStatusCheck = c.nextStatusCheck

theorem Stays.refl (c : CiController) : Stays c c := ⟨rfl, rfl, rfl⟩

theorem Stays.trans (h : Stays c c') (h' : Stays c' c'') : Stays c c'' :=
  ⟨h'.suspended.trans h.suspended, h'.recoveryAt.trans h.recoveryAt, h'.statusCheck.trans h.statusCheck⟩

theorem levels_turned (gate : Gate) (nextStatusCheck : Option Instant) (linkSuspended : Bool)
    (recoveryAt : Option Instant) (deferredLinkFailure : Bool) : Levels heard tried retry c
      { c with pacer := { c.pacer with gate }, nextStatusCheck, linkSuspended, recoveryAt, deferredLinkFailure } :=
  ⟨rfl, rfl, rfl, fun _ slot known => ⟨slot, known, .inl rfl, .inl rfl⟩, .refl _, .refl _⟩

theorem Bides.levels (h : Bides heard c c') : Levels heard tried retry c c' where
  lastTick := h.lastTick
  config := h.config
  pacer := by rw [h.pacer]
  slots slotId slot' known' := by
    obtain ⟨slot, known, hlapses⟩ := h.slots slotId slot' known'
    exact ⟨slot, known, hlapses.nextPoll, hlapses.retryAt.imp_right .inl⟩
  session := h.session
  events := h.events.mono fun _ he _ => he.2

theorem Bides.stays (h : Bides heard c c') : Stays c c' := ⟨h.suspended, h.recoveryAt, h.statusCheck⟩

theorem levels_edit {f : ControllerSlot → ControllerSlot} (hf : ∀ slot : ControllerSlot,
    ((f slot).nextPoll = slot.nextPoll ∨ (f slot).nextPoll = none) ∧
      ((f slot).retryAt = slot.retryAt ∨ (f slot).retryAt = none ∨ (f slot).retryAt = retry)) :
    Levels heard tried retry c (c.edit slotId f) := by
  refine ⟨rfl, rfl, rfl, fun other slot' known' => ?_, .refl _, .refl _⟩
  rw [getElem?_edit] at known'
  split at known'
  · obtain ⟨slot, known, rfl⟩ := Option.map_eq_some_iff.mp known'
    exact ⟨slot, known, hf slot⟩
  · exact ⟨slot', known', .inl rfl, .inl rfl⟩

theorem levels_emits {events : List CaEvent} (h : ∀ e ∈ events, tried = false → ¬ e.Retries) :
    Levels heard tried retry c (c.emit events) :=
  ⟨rfl, rfl, rfl, fun _ slot known => ⟨slot, known, .inl rfl, .inl rfl⟩, .refl _,
    ⟨events, rfl, fun e hmem htried hretries => absurd hretries (h e hmem htried)⟩⟩

structure Fades (heard tried : Bool) (retry : Option Instant) (c c' : CiController) : Prop where
  levels : Levels heard tried retry c c'
  stays : Stays c c'

theorem Fades.refl (c : CiController) : Fades heard tried retry c c := ⟨.refl c, .refl c⟩

theorem Fades.trans (h : Fades heard tried retry c c') (h' : Fades heard tried retry c' c'') :
    Fades heard tried retry c c'' := ⟨h.levels.trans h'.levels, h.stays.trans h'.stays⟩

theorem Soft.fades (h : Soft heard c c') : Fades heard tried retry c c' := by
  cases h with
  | waits bides => exact ⟨bides.levels, bides.stays⟩
  | @armed now hold event c₁ ticked held bides =>
      have hgate : Levels heard tried retry c (c.withGate (.armed (deadline now hold))) :=
        ⟨rfl, rfl, rfl, fun _ slot known => ⟨slot, known, .inl rfl, .inl rfl⟩, .refl _, .refl _⟩
      refine ⟨(hgate.trans bides.levels).trans (levels_emits fun e hmem _ hretries => ?_),
        ⟨bides.suspended, bides.recoveryAt, bides.statusCheck⟩⟩
      rw [List.mem_singleton.mp hmem] at hretries
      obtain ⟨_, rfl⟩ := hretries
      cases held
  | @activated slotId c' ready bides =>
      have hedit : Levels heard tried retry c (c.edit slotId ControllerSlot.inUse) :=
        levels_edit fun _ => ⟨.inr rfl, .inl rfl⟩
      exact ⟨hedit.trans bides.levels, ⟨bides.suspended, bides.recoveryAt, bides.statusCheck⟩⟩

theorem fades_of_path (hpath : ReflTransGen (Soft heard) c c') : Fades heard tried retry c c' :=
  Path.order hpath .refl .trans fun _ _ => Soft.fades

theorem fades_of_softly {α : Type} {m : Act Error CiController α} (hm : Softly heard m) :
    Act.Keeps (Fades heard tried retry) m :=
  fun c => wlp_mono (hm c) (fun _ _ h => fades_of_path h) fun _ _ h => fades_of_path h

theorem fades_dropAllSlots : Act.Keeps (Fades heard tried retry) dropAllSlots := by
  apply keeps_bind .trans (keeps_get .refl)
  intro c
  apply keeps_bind .trans
  · apply keeps_forEach .refl .trans
    intro slotId _
    apply keeps_bind .trans (fades_of_softly (softly_of_waits bides_dropSlot))
    intro _ c
    exact wlp_modifySlot fun _ _ => ⟨levels_edit fun _ => ⟨.inr rfl, .inr (.inl rfl)⟩, ⟨rfl, rfl, rfl⟩⟩
  · exact fun _ => fades_of_softly collectSessionEvents_softly

theorem bides_reportFailure (failedSlot : Option UInt8) (reason : CaSlotFailure) :
    Waits heard (reportFailure failedSlot reason) := by
  have hfailed (slotId : UInt8) : Waits heard (pushEvent (.slotFailed slotId reason)) :=
    bides_pushEvent (fun _ => rfl) nofun
  unfold reportFailure
  split
  · exact hfailed _
  · apply bides_get
    intro c
    apply keeps_forEach .refl .trans
    intro slotId _
    apply keeps_bind .trans bides_slotAt
    intro slot
    split
    · exact hfailed _
    · exact keeps_pure .refl ()

theorem bides_ioReset : Waits heard ioReset := by
  apply keeps_bind .trans (keeps_attempt (bides_link _))
  intro result
  have hunasked : (Obs.reset result).Unasked := trivial
  exact keeps_bind .trans (bides_note hunasked) fun _ => keeps_pure .refl _

structure Wanes (heard tried : Bool) (retry : Option Instant) (c c' : CiController) : Prop where
  fades : Fades heard tried retry c c'
  pacer : c'.pacer = c.pacer

theorem Wanes.refl (c : CiController) : Wanes heard tried retry c c := ⟨.refl c, rfl⟩

theorem Wanes.trans (h : Wanes heard tried retry c c') (h' : Wanes heard tried retry c' c'') :
    Wanes heard tried retry c c'' := ⟨h.fades.trans h'.fades, h'.pacer.trans h.pacer⟩

theorem Bides.wanes (h : Bides heard c c') : Wanes heard tried retry c c' := ⟨⟨h.levels, h.stays⟩, h.pacer⟩

theorem wanes_of_waits {α : Type} {m : Act Error CiController α} (hm : Waits heard m) :
    Act.Keeps (Wanes heard tried retry) m :=
  fun c => wlp_mono (hm c) (fun _ _ h => h.wanes) fun _ _ h => h.wanes

theorem wanes_modifySlot {f : ControllerSlot → ControllerSlot} (hf : ∀ slot : ControllerSlot,
    ((f slot).nextPoll = slot.nextPoll ∨ (f slot).nextPoll = none) ∧
      ((f slot).retryAt = slot.retryAt ∨ (f slot).retryAt = none ∨ (f slot).retryAt = retry)) :
    Act.Keeps (Wanes heard tried retry) (modifySlot slotId f) :=
  fun _ => wlp_modifySlot fun _ _ => ⟨⟨levels_edit hf, ⟨rfl, rfl, rfl⟩⟩, rfl⟩

theorem wanes_setSlotStatus {new : CaSlotStatus} (hnew : tried = false → new ≠ .present) :
    Act.Keeps (Wanes heard tried retry) (setSlotStatus slotId new) := by
  apply keeps_bind .trans (wanes_of_waits bides_slotAt)
  intro slot
  apply keeps_bind .trans
  · exact wanes_modifySlot fun _ => ⟨.inl rfl, .inl rfl⟩
  intro _
  split
  · refine keeps_modify fun c => ⟨⟨levels_emits fun e hmem htried => ?_, ⟨rfl, rfl, rfl⟩⟩, rfl⟩
    rw [List.mem_singleton.mp hmem]
    exact not_retries (hnew htried)
  · exact keeps_pure .refl ()

theorem wanes_markResetFailed : Act.Keeps (Wanes heard tried retry) markResetFailed := by
  apply keeps_bind .trans (keeps_get .refl)
  intro c
  apply keeps_forEach .refl .trans
  intro slotId _
  apply keeps_bind .trans (wanes_of_waits bides_slotAt)
  intro slot
  split
  · apply keeps_bind .trans
    · exact wanes_modifySlot fun _ => ⟨.inl rfl, .inr (.inl rfl)⟩
    intro _
    have hfailed : Waits heard (pushEvent (.slotFailed slotId .resetFailed)) := bides_pushEvent (fun _ => rfl) nofun
    exact keeps_bind .trans (wanes_of_waits hfailed) fun _ => wanes_setSlotStatus fun _ => nofun
  · exact keeps_pure .refl ()

structure Rearmed (heard : Bool) (retry : Option Instant) (c c' : CiController) : Prop where
  levels : Levels heard false retry c c'
  gate : c'.pacer.gate = .notReady
  suspended : c'.linkSuspended = true
  recoveryAt : c'.recoveryAt = retry
  statusCheck : c'.nextStatusCheck = retry

def Recovers (heard : Bool) (c c' : CiController) : Prop :=
  ∃ retry, (retry = none ∨ ∃ now, c.lastTick = some now ∧ retry = some (deadline now c.config.retryInterval)) ∧
    Rearmed heard retry c c'

theorem wanes_settle {ready : ControllerSlot → ControllerSlot} {rest : Bool → CaSlotStatus}
    (hready : ∀ slot : ControllerSlot, (ready slot).nextPoll = slot.nextPoll ∧ (ready slot).retryAt = retry)
    (hrest : ∀ present, tried = false → rest present ≠ .present) (slotId : UInt8) :
    Act.Keeps (Wanes heard tried retry) (do
      modifySlot slotId ready
      setCamStatus slotId .none
      setSlotStatus slotId (rest (← slotAt slotId).present)) := by
  apply keeps_bind .trans
  · exact wanes_modifySlot fun slot => ⟨.inl (hready slot).1, .inr (.inr (hready slot).2)⟩
  intro _
  apply keeps_bind .trans (wanes_of_waits (bides_setCamStatus _))
  intro _
  apply keeps_bind .trans (wanes_of_waits bides_slotAt)
  exact fun slot => wanes_setSlotStatus (hrest _)

theorem unerring_settle (ready : ControllerSlot → ControllerSlot) (rest : Bool → CaSlotStatus) (slotId : UInt8) :
    Unerring (do
      modifySlot slotId ready
      setCamStatus slotId .none
      setSlotStatus slotId (rest (← slotAt slotId).present)) := by
  apply unerring_bind (unerring_modifySlot _)
  intro _
  apply unerring_bind (unerring_setCamStatus _)
  intro _
  exact unerring_bind unerring_slotAt fun _ => unerring_setSlotStatus _

theorem Rearmed.wanes (h : Rearmed heard retry c c') (h' : Wanes heard false retry c' c'') : Rearmed heard retry c c'' where
  levels := h.levels.trans h'.fades.levels
  gate := h'.pacer ▸ h.gate
  suspended := h'.fades.stays.suspended.trans h.suspended
  recoveryAt := h'.fades.stays.recoveryAt.trans h.recoveryAt
  statusCheck := h'.fades.stays.statusCheck.trans h.statusCheck

theorem rearmed_slots {finish : Act Error CiController Unit} {Q : Unit → CiController → Prop}
    {E : Error → CiController → Prop} (h : Levels heard false retry c c') (gate : c'.pacer.gate = .notReady)
    (hfinish : ∀ c'', Rearmed heard retry c c'' → wlp finish Q E c'') :
    wlp (do
        modify ({ · with linkSuspended := true, recoveryAt := retry, deferredLinkFailure := false })
        forEach (← get).slotIds fun slotId => do
          modifySlot slotId ({ · with ready := false, retryAt := retry })
          setCamStatus slotId .none
          setSlotStatus slotId (if (← slotAt slotId).present then .failed else .absent)
        modify fun c => { c with nextStatusCheck := c.recoveryAt }
        finish) Q E c' := by
  have hloop := keeps_forEach .refl .trans fun slotId (_ : slotId ∈ c'.slotIds) => @wanes_settle heard false retry
    ({ · with ready := false, retryAt := retry }) (fun present => if present then .failed else .absent)
    (fun _ => ⟨rfl, rfl⟩) (fun present _ => by cases present <;> nofun) slotId
  have hsafe := unerring_forEach fun slotId (_ : slotId ∈ c'.slotIds) => unerring_settle
    ({ · with ready := false, retryAt := retry }) (fun present => if present then .failed else .absent) slotId
  rw [wlp_bind, wlp_modify, wlp_bind, wlp_get, wlp_bind]
  refine wlp_mono (hsafe.wlp (hloop _)) (fun _ c₁ h₁ => ?_) fun _ _ hf => hf.elim
  rw [wlp_bind, wlp_modify]
  have hlevels := (h.trans (levels_turned c'.pacer.gate c'.nextStatusCheck true retry false)).trans h₁.fades.levels
  have hstays := h₁.fades.stays
  refine hfinish _ ⟨hlevels.trans (levels_turned c₁.pacer.gate c₁.recoveryAt c₁.linkSuspended c₁.recoveryAt
    c₁.deferredLinkFailure), ?_, hstays.suspended, hstays.recoveryAt, hstays.recoveryAt⟩
  exact (congrArg CaPmtPacer.gate h₁.pacer).trans gate

theorem recoverAll_recovers (failedSlot : Option UInt8) (reason : CaSlotFailure) {now : Instant}
    (ticked : c.lastTick = some now) :
    wlp (recoverAll failedSlot reason now) (fun _ => Recovers heard c) (fun _ => Recovers heard c) c := by
  rw [recoverAll, wlp_bind]
  refine wlp_mono ((unerring_reportFailure _ _).wlp (@bides_reportFailure heard failedSlot reason c))
    (fun _ c₁ h₁ => ?_) fun _ _ hf => hf.elim
  rw [wlp_bind]
  refine wlp_mono (unerring_dropAllSlots.wlp (@fades_dropAllSlots heard false none c₁)) (fun _ c₂ h₂ => ?_)
    fun _ _ hf => hf.elim
  rw [wlp_bind, wlp_modify, wlp_bind]
  refine wlp_mono (unerring_ioReset.wlp (@bides_ioReset heard _)) (fun result c₃ h₃ => ?_) fun _ _ hf => hf.elim
  rw [wlp_bind, wlp_get]
  have hlevels (retry : Option Instant) : Levels heard false retry c c₃ :=
    ((h₁.levels.trans h₂.levels.of_none).trans (levels_turned .notReady c₂.nextStatusCheck c₂.linkSuspended c₂.recoveryAt
      c₂.deferredLinkFailure)).trans h₃.levels
  have hgate : c₃.pacer.gate = .notReady := congrArg CaPmtPacer.gate h₃.pacer
  cases result with
  | ok _ =>
      refine rearmed_slots (hlevels (some (deadline now c₃.config.retryInterval))) hgate fun c₆ h₆ => wlp_pure.mpr ?_
      exact ⟨_, .inr ⟨now, ticked, by rw [(hlevels none).config]⟩, h₆⟩
  | error e =>
      refine rearmed_slots (hlevels none) hgate fun c₆ h₆ => wlp_bind.mpr ?_
      refine wlp_mono (unerring_markResetFailed.wlp (@wanes_markResetFailed heard false none c₆)) (fun _ c₇ h₇ => ?_)
        fun _ _ hf => hf.elim
      exact wlp_fail.mpr ⟨none, .inl rfl, h₆.wanes h₇⟩

end Recovery

end LibDvb.CiController
