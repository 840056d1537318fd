import LibDvb.Ca.Controller.Indication
import LibDvb.Ca.Controller.ProgramQueue
import LibDvb.Ca.Controller.Wire
import LibDvb.Ca.Session.Heard

namespace LibDvb

open Relation CaPmt

def SlotView.Connected (slotId : UInt8) (v : SlotView) : Prop :=
  v.stage.ruined = false → v.slot.status = .active → .activated slotId ∈ sinceCleared slotId v.trace

section Connection

variable {slotsNum slotId : UInt8} {v v' : SlotView} {slot slot' : ControllerSlot} {trace delta : List Obs}
  {stage stage' : SlotStage} {obs : Obs}

theorem mem_sinceCleared (h : obs ∈ sinceCleared slotId trace) (hkept : .cleared slotId ∉ delta) :
    obs ∈ sinceCleared slotId (trace ++ delta) := by
  rw [sinceCleared_append hkept]
  exact List.mem_append_left _ h

theorem not_cleared_of_apart (apart : ∀ obs ∈ delta, obs.Apart slotId) : .cleared slotId ∉ delta :=
  fun hmem => apart _ hmem rfl

theorem SlotView.Connected.moved (h : SlotView.Connected slotId ⟨slot, trace, stage⟩) (hkept : .cleared slotId ∉ delta)
    (status : slot'.status = slot.status) (ruined : stage'.ruined = false → stage.ruined = false) :
    SlotView.Connected slotId ⟨slot', trace ++ delta, stage'⟩ :=
  fun hruined hactive => mem_sinceCleared (h (ruined hruined) (status ▸ hactive)) hkept

theorem SlotView.Connected.kept (h : SlotView.Connected slotId ⟨slot, trace, stage⟩)
    (status : slot'.status = slot.status) (ruined : stage'.ruined = false → stage.ruined = false) :
    SlotView.Connected slotId ⟨slot', trace, stage'⟩ :=
  fun hruined hactive => h (ruined hruined) (status ▸ hactive)

theorem connected_rests (rests : slot.status.Rests) : SlotView.Connected slotId ⟨slot, trace, stage⟩ :=
  fun _ hactive => absurd hactive rests.2

theorem SlotView.Connected.step (h : v.Connected slotId) (hstep : SlotStep slotsNum slotId v v') :
    v'.Connected slotId := by
  cases hstep with
  | aside apart still => exact h.moved (not_cleared_of_apart apart) rfl id
  | talked apart status => exact h.moved (not_cleared_of_apart apart) rfl id
  | edited status create command receive => exact h.kept status id
  | turned old new create command => exact connected_rests new
  | @read slot trace stage frame head quiet =>
      refine h.moved (by simp) rfl fun _ => ?_
      rcases quiet with hidle | ⟨_, reply, hheard⟩
      · exact hidle ▸ rfl
      · exact hheard ▸ rfl
  | wrote kept => exact h.moved (by simp) rfl fun hruined => by rwa [SlotStage.ruined_sent] at hruined
  | lost status kept => exact fun hruined => by cases hruined
  | taken => exact h.moved (by simp) rfl fun _ => rfl
  | activated status =>
      intro _ _
      rw [sinceCleared_snoc, if_neg (by rintro ⟨⟩)]
      exact (if_pos rfl).symm ▸ List.mem_append_right _ (List.mem_singleton_self _)
  | indicated status => exact h.kept rfl fun _ => rfl
  | marked now status settled =>
      refine fun _ hactive => ?_
      rw [ControllerSlot.marked_status, status] at hactive
      cases hactive
  | settled rests => exact connected_rests rests
  | received status receive idle => exact h.moved (by simp) rfl id
  | created status idle => exact fun _ hactive => by cases hactive
  | abandoned rests create command => exact connected_rests rests
  | cleared status => exact fun hruined => by cases hruined
  | wrecked apart status => exact fun hruined => by cases hruined
  | reactivated status => exact fun hruined => by cases hruined
  | rested rests create command => exact connected_rests rests

theorem SlotView.connected_origin : SlotView.origin.Connected slotId := fun _ hactive => by cases hactive

end Connection

namespace CiController

variable {V : UInt8 → Prop} {c c' : CiController}

theorem Move.heard (h : c.Sound) (hsized : c.Sized) (hheard : c.session.Heard) (hm : Move V c c') :
    c'.session.Heard ∨ c'.Excused := by
  have hsent {slotId : UInt8} {t : CiTransport}
      (path : ReflTransGen (CiTransport.Step (Sends True slotId)) c.session.transport t) :
      CiSession.Heard { c.session with transport := t } :=
    hheard.sent path (fun _ session known => ⟨session, known, rfl⟩) rfl
  cases hm with
  | session move =>
      rcases move.heard h.session hsized.session hheard with hheard | hpending | hmasked
      · exact .inl hheard
      · exact .inr (.inl hpending)
      · exact .inr (.inr hmasked)
  | created known status notice path whole => exact .inl (hsent path)
  | createFailed known status path broken => exact .inr (.inl broken)
  | @activated slotId slot rest queued known status notice =>
      refine .inl fun sessionId session hrecord => (hheard sessionId session hrecord).snoc ?_
      -- a slot that waits for its connection has no session
      rintro rfl
      have hslot : c.session.resources.recordSlot sessionId .conditionalAccess = some session.slotId :=
        congrArg (Option.map ConditionalAccessSession.slotId) hrecord
      obtain ⟨index, live, _, hlive, hslotId, _⟩ := h.session.records _ _ _ hslot
      have hactive := h.within index live hlive
      rw [hslotId, live_of_status known, status] at hactive
      cases hactive
  | programmed due programmed =>
      have hchange := hsized.queue _ (poll_queue due ▸ List.mem_cons_self)
      rcases programmed.heard hsized.session hheard hchange with hheard | hpending
      · exact .inl hheard
      · exact .inr (.inl hpending)
  | probed slotId => exact .inl fun sessionId session hrecord => (hheard sessionId session hrecord).snoc trivial
  | _ => exact .inl hheard

structure Hears (c : CiController) : Prop where
  sound : c.Sound
  sized : c.Sized
  heard : c.Excused ∨ c.session.Heard

theorem Hears.move (h : c.Hears) (hm : Move V c c') : c'.Hears := by
  refine ⟨h.sound.move hm, h.sized.move hm, ?_⟩
  rcases h.heard with hexcused | hheard
  · exact .inl (hexcused.grows (hm.grows h.sound))
  · exact (hm.heard h.sound h.sized hheard).symm

theorem Hears.step (h : c.Hears) (hs : Step c c') : c'.Hears := by
  refine ⟨h.sound.step hs, h.sized.step hs, ?_⟩
  cases hs with
  | work work =>
      cases work with
      | move move => exact (h.move move).heard
      | info slotId present ready => exact h.heard
  | flags lastTick linkSuspended recoveryAt nextStatusCheck deferredLinkFailure => exact h.heard
  | reset result sessions idle =>
      right
      intro sessionId session known
      have hrecord : c.session.resources.recordSlot sessionId .conditionalAccess = some session.slotId :=
        congrArg (Option.map ConditionalAccessSession.slotId) known
      obtain ⟨index, live, _, hlive, hslot, _⟩ := h.sound.session.records _ _ _ hrecord
      exact absurd hslot (sessions _ index live hlive)

theorem Hears.turned {op : ControllerOp} {reply : Except Error (Option CaEvent)} (h : c.Hears)
    (ht : Turn c op reply c') (hfits : ∀ change ∈ op.changes, change.Fits) : c'.Hears := by
  obtain ⟨c₁, hsteps, _, hsame⟩ := ht.steps
  have hpushed : Hears { c with pacer := op.push c.pacer } :=
    ⟨h.sound.paced _, h.sized.pushed hfits, h.heard⟩
  have h₁ : c₁.Hears := LibDvb.Path.invariant hsteps hpushed fun _ _ => Hears.step
  rw [hsame]
  have hsound := h₁.sound
  exact ⟨⟨hsound.session, hsound.within, hsound.count, hsound.idle, hsound.receive, hsound.events⟩,
    ⟨h₁.sized.session, h₁.sized.queue⟩, h₁.heard⟩

theorem Hears.relinked (h : c.Hears) (link : CaDevice) : (linkLens.set link c).Hears :=
  ⟨h.sound.relinked link, ⟨h.sized.session, h.sized.queue⟩, h.heard⟩

theorem hears_start (hc : Starts c) : c.Hears := by
  refine ⟨(settled_start hc).calm.sound, (exact_start hc).sized, .inr ?_⟩
  obtain ⟨link, slotsNum, hsession⟩ := (blank_start hc).session
  intro sessionId session known
  rw [hsession] at known
  simp [CiSession.new] at known

end CiController

section Run

open CiController

variable {start c : CiController} {labels : List ControllerLabel} {slotId : UInt8}

theorem ControllerRun.hears (h : ControllerRun start labels c) (hfits : Fitting labels) : c.Hears := by
  refine (h.2.history (I := fun labels c => Fitting labels → c.Settled ∧ c.Hears)
    (fun _ => ⟨settled_start h.1, hears_start h.1⟩) (fun labels c label c' ih hstep hfits => ?_) hfits).2
  obtain ⟨hsettled, hhears⟩ := ih fun other hmem => hfits other (List.mem_append_left _ hmem)
  have hturn := step_turn hsettled hstep
  exact ⟨hturn.settled (hsettled.relinked label.link), (hhears.relinked label.link).turned hturn
    (hfits label (List.mem_append_right _ (List.mem_singleton_self label)))⟩

theorem ControllerRun.connected (h : ControllerRun start labels c) (hlive : c.Live slotId) :
    .activated slotId ∈ sinceCleared slotId c.trace := by
  obtain ⟨slot, known, hactive⟩ := live_iff.mp hlive
  have hlt : slotId.toNat < c.slots.length := slotId_lt known
  obtain ⟨other, stage, hat, hpath, hpaused⟩ := h.resides hlt
  obtain rfl : other = slot := Option.some.inj (hat.known.symm.trans known)
  obtain rfl : stage = .idle := hpaused.resolve_right fun hs => hs.2.1.2 hactive
  have hconnected := LibDvb.Path.invariant (I := SlotView.Connected slotId) hpath SlotView.connected_origin
    fun _ _ => SlotView.Connected.step
  exact hconnected rfl hactive

theorem ControllerRun.lists (h : ControllerRun start labels c) (hfits : Fitting labels)
    (hshort : ∀ obs ∈ c.trace, obs.short = false) {sessionId : UInt16} {session : ConditionalAccessSession}
    {caids : List UInt16} (known : c.session.resources.conditionalAccess.sessions[sessionId]? = some session)
    (hcaids : session.caids = some caids) {slot : TransportSlot}
    (hslot : c.session.transport.slots[session.slotId.toNat]? = some slot) (hempty : slot.queue = [])
    (hwhole : Whole (sinceCleared session.slotId c.trace)) :
    CaPmt.replay (objectsHeard sessionId (decoded (acceptedFrames session.slotId (sinceCleared session.slotId c.trace)))) =
      some (listingOf caids (c.programs.filter fun _ program => program.selectedBy caids)) := by
  have hlisted := h.listed hfits
  have hexcused : ¬ c.Excused := by
    rintro (hpending | hmasked)
    · rw [CiController.trace, (h.exact hfits).settled.calm.whole] at hpending
      cases hpending
    · rw [masked_of_short hshort] at hmasked
      cases hmasked
  have hagrees := hlisted.agrees.resolve_left hexcused sessionId session known
  have hheard := (h.hears hfits).heard.resolve_left hexcused sessionId session known
  have hlive : c.Live session.slotId := by
    have hrecord : c.session.resources.recordSlot sessionId .conditionalAccess = some session.slotId :=
      congrArg (Option.map ConditionalAccessSession.slotId) known
    obtain ⟨index, live, _, hentry, hslotId, _⟩ := hlisted.sound.session.records _ _ _ hrecord
    exact hslotId ▸ hlisted.sound.within index live hentry
  have hdecoded := h.decoded_waiting hslot hwhole
  rw [hempty, List.append_nil] at hdecoded
  obtain ⟨hselected, hreplays⟩ := hagrees
  rw [ConditionalAccessSession.desired, hcaids] at hselected
  rw [ConditionalAccessSession.listing, hcaids] at hreplays
  rw [hdecoded, hheard (h.connected hlive)]
  exact hreplays.trans (congrArg (fun selected => some (listingOf caids selected)) hselected)

theorem ControllerRun.programs (h : ControllerRun start labels c) (hqueue : c.pacer.queue = []) :
    c.programs = applied ∅ (accepted labels) := by
  have happlied := h.selects.applied
  rwa [hqueue] at happlied

theorem module_descrambles (h : ControllerRun start labels c) (hfits : Fitting labels)
    (hshort : ∀ obs ∈ c.trace, obs.short = false) {sessionId : UInt16} {session : ConditionalAccessSession}
    {caids : List UInt16} (known : c.session.resources.conditionalAccess.sessions[sessionId]? = some session)
    (hcaids : session.caids = some caids) {slot : TransportSlot}
    (hslot : c.session.transport.slots[session.slotId.toNat]? = some slot) (hempty : slot.queue = [])
    (hqueue : c.pacer.queue = []) (hwhole : Whole (sinceCleared session.slotId c.trace)) :
    CaPmt.replay (objectsHeard sessionId (decoded (acceptedFrames session.slotId (sinceCleared session.slotId c.trace)))) =
      some (listingOf caids ((applied ∅ (accepted labels)).filter fun _ program => program.selectedBy caids)) := by
  rw [← h.programs hqueue]
  exact h.lists hfits hshort known hcaids hslot hempty hwhole

end Run

def describes : List (CaDevice × ControllerOp) := descrambles ++ [frameRead [0, 1, 0x80, 2, 1, 0]]

theorem describes_isSome : (ControllerOp.trail {} {} describes).isSome := by decide +kernel

def afterDescribes : List ControllerLabel × CiController := (ControllerOp.trail {} {} describes).get describes_isSome

theorem describes_run : ∃ start, ControllerRun start afterDescribes.1 afterDescribes.2 :=
  ControllerRun.of_trail describes_isSome

theorem describes_facts :
    (∀ label ∈ afterDescribes.1, ∀ change ∈ label.op.changes, change = .set (scrambled 7) ∨ change = .set (scrambled 8)) ∧
      (∀ obs ∈ afterDescribes.2.trace, obs.short = false) ∧ afterDescribes.2.pacer.queue = [] ∧
      (afterDescribes.2.session.resources.conditionalAccess.sessions[(1 : UInt16)]?).map
        (fun session => (session.caids, session.slotId)) = some (some [0x0100], 0) ∧
      (afterDescribes.2.session.transport.slots[(0 : UInt8).toNat]?).map TransportSlot.queue = some [] ∧
      Whole (sinceCleared 0 afterDescribes.2.trace) ∧ (accepted afterDescribes.1).length = 2 ∧
      (objectsHeard 1 (decoded (acceptedFrames 0 (sinceCleared 0 afterDescribes.2.trace)))).length = 2 := by
  unfold Whole
  decide +kernel

theorem module_descrambles_describes : ∃ start, ControllerRun start afterDescribes.1 afterDescribes.2 ∧
    (accepted afterDescribes.1).length = 2 ∧
    (objectsHeard 1 (decoded (acceptedFrames 0 (sinceCleared 0 afterDescribes.2.trace)))).length = 2 ∧
    CaPmt.replay (objectsHeard 1 (decoded (acceptedFrames 0 (sinceCleared 0 afterDescribes.2.trace)))) =
      some (listingOf [0x0100] ((applied ∅ (accepted afterDescribes.1)).filter fun _ program =>
        program.selectedBy [0x0100])) := by
  obtain ⟨start, hrun⟩ := describes_run
  obtain ⟨hchanges, hshort, hqueue, hsession, hslot, hkept, haccepted, hheard⟩ := describes_facts
  obtain ⟨session, known, hsession⟩ := Option.map_eq_some_iff.mp hsession
  obtain ⟨hcaids, hslotId⟩ := Prod.mk.inj hsession
  obtain ⟨slot, hslot, hempty⟩ := Option.map_eq_some_iff.mp hslot
  have hfits : Fitting afterDescribes.1 := by
    intro label hmem change hchange
    rcases hchanges label hmem change hchange with rfl | rfl
    · exact scrambled_fits 7
    · exact scrambled_fits 8
  have hmodule := module_descrambles hrun hfits hshort known hcaids (hslotId.symm ▸ hslot) hempty hqueue
    (hslotId.symm ▸ hkept)
  rw [hslotId] at hmodule
  exact ⟨start, hrun, haccepted, hheard, hmodule⟩

end LibDvb
