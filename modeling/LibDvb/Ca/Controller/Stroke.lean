import LibDvb.Ca.Controller.Run
import LibDvb.Ca.Session.Idle

namespace LibDvb

open Relation Act Outcome

def CaEvent.hold (settle : Duration) : CaEvent → Option Duration
  | .applicationInfo _ _ => some settle
  | .caInfo _ _ caids => if caids = [] then none else some 0
  | _ => none

def CaEvent.Retries (e : CaEvent) : Prop := ∃ slotId, e = .slotStatusChanged slotId .failed .present

theorem CaEvent.Retries.steers {e : CaEvent} (h : e.Retries) : e.Steers := by
  obtain ⟨slotId, rfl⟩ := h
  trivial

def CaEvent.Mute (e : CaEvent) : Prop := (∀ settle, e.hold settle = none) ∧ ¬ e.Retries

theorem not_retries {slotId : UInt8} {old new : CaSlotStatus} (h : new ≠ .present) :
    ¬ (CaEvent.slotStatusChanged slotId old new).Retries := by
  rintro ⟨other, heq⟩
  rw [CaEvent.slotStatusChanged.injEq] at heq
  exact h heq.2.2

theorem mute_turned {slotId : UInt8} {old new : CaSlotStatus} (h : new = .present → old ≠ .failed) :
    (CaEvent.slotStatusChanged slotId old new).Mute := by
  refine ⟨fun _ => rfl, ?_⟩
  rintro ⟨other, heq⟩
  rw [CaEvent.slotStatusChanged.injEq] at heq
  exact h heq.2.2 heq.2.1

structure ControllerSlot.Lapses (slot slot' : ControllerSlot) : Prop where
  nextPoll : slot'.nextPoll = slot.nextPoll ∨ slot'.nextPoll = none
  retryAt : slot'.retryAt = slot.retryAt ∨ slot'.retryAt = none
  active : slot'.status = .active → slot.status = .active ∧ slot'.nextPoll = slot.nextPoll

theorem ControllerSlot.Lapses.refl (slot : ControllerSlot) : slot.Lapses slot := ⟨.inl rfl, .inl rfl, fun h => ⟨h, rfl⟩⟩

def ControllerSlot.inUse (slot : ControllerSlot) : ControllerSlot :=
  { slot with status := .active, nextPoll := none }

theorem lapse_trans {a b c : Option Instant} (h : b = a ∨ b = none) (h' : c = b ∨ c = none) : c = a ∨ c = none := by
  rcases h' with rfl | rfl
  · exact h
  · exact .inr rfl

theorem ControllerSlot.Lapses.trans {slot slot' slot'' : ControllerSlot} (h : slot.Lapses slot')
    (h' : slot'.Lapses slot'') : slot.Lapses slot'' where
  nextPoll := lapse_trans h.nextPoll h'.nextPoll
  retryAt := lapse_trans h.retryAt h'.retryAt
  active hactive := by
    obtain ⟨hactive', hsame'⟩ := h'.active hactive
    obtain ⟨hactive, hsame⟩ := h.active hactive'
    exact ⟨hactive, hsame'.trans hsame⟩

theorem ControllerSlot.Lapses.of_same {slot slot' : ControllerSlot} (status : slot'.status = slot.status)
    (nextPoll : slot'.nextPoll = slot.nextPoll) (retryAt : slot'.retryAt = slot.retryAt) : slot.Lapses slot' :=
  ⟨.inl nextPoll, .inl retryAt, fun h => ⟨status ▸ h, nextPoll⟩⟩

namespace CiController

variable {heard : Bool} {c c' c'' : CiController} {slotId other : UInt8} {slot : ControllerSlot}

def withGate (c : CiController) (gate : Gate) : CiController := { c with pacer := { c.pacer with gate } }

structure Bides (heard : Bool) (c c' : CiController) : Prop where
  lastTick : c'.lastTick = c.lastTick
  config : c'.config = c.config
  suspended : c'.linkSuspended = c.linkSuspended
  recoveryAt : c'.recoveryAt = c.recoveryAt
  statusCheck : c'.nextStatusCheck = c.nextStatusCheck
  pacer : c'.pacer = c.pacer
  slots : ∀ (slotId : UInt8) slot', c'.slots[slotId.toNat]? = some slot' →
    ∃ slot, c.slots[slotId.toNat]? = some slot ∧ slot.Lapses slot'
  session : CiSession.Idles heard c.session c'.session
  events : Adds (fun e => (c.lastTick ≠ none → e.hold c.pacer.settle = none) ∧ (e.Retries → e ∈ c.session.events))
    c.events c'.events

theorem Bides.refl (c : CiController) : Bides heard c c :=
  ⟨rfl, rfl, rfl, rfl, rfl, rfl, fun _ slot known => ⟨slot, known, .refl slot⟩, .refl _, .refl _⟩

theorem Bides.trans (h : Bides heard c c') (h' : Bides heard c' c'') : Bides heard c c'' where
  lastTick := h'.lastTick.trans h.lastTick
  config := h'.config.trans h.config
  suspended := h'.suspended.trans h.suspended
  recoveryAt := h'.recoveryAt.trans h.recoveryAt
  statusCheck := h'.statusCheck.trans h.statusCheck
  pacer := h'.pacer.trans h.pacer
  slots slotId slot'' known'' := by
    obtain ⟨slot', known', hlapses'⟩ := h'.slots slotId slot'' known''
    obtain ⟨slot, known, hlapses⟩ := h.slots slotId slot' known'
    exact ⟨slot, known, hlapses.trans hlapses'⟩
  session := h.session.trans h'.session
  events := by
    refine h.events.trans (h'.events.mono fun e he => ?_)
    rw [h.lastTick, h.pacer] at he
    refine ⟨he.1, fun hretries => ?_⟩
    rcases h.session.events e hretries.steers (he.2 hretries) with hmem | ⟨_, other, rfl⟩
    · exact hmem
    · obtain ⟨_, hready⟩ := hretries
      cases hready

abbrev Waits {α : Type} (heard : Bool) (m : Act Error CiController α) : Prop := Act.Keeps (Bides heard) m

theorem bides_get {β : Type} {f : CiController → Act Error CiController β} (hf : ∀ c, Waits heard (f c)) :
    Waits heard (get >>= f) := keeps_bind .trans (keeps_get .refl) hf

theorem bides_session {α : Type} {m : Act Error CiSession α} (hm : Act.Keeps (CiSession.Idles heard) m) :
    Waits heard (zoom sessionLens m) :=
  keeps_zoom hm fun _ _ h => ⟨rfl, rfl, rfl, rfl, rfl, rfl, fun _ slot known => ⟨slot, known, .refl slot⟩, h, .refl _⟩

theorem bides_transport {α : Type} {m : Act Error CiTransport α} (hm : Act.Keeps CiTransport.Unasked m) :
    Waits heard (zoom transportLens m) :=
  keeps_zoom hm fun _ _ h => ⟨rfl, rfl, rfl, rfl, rfl, rfl, fun _ slot known => ⟨slot, known, .refl slot⟩,
    ⟨h, fun _ _ hmem => .inl hmem⟩, .refl _⟩

theorem bides_link {α : Type} (m : Act Error CaDevice α) : Waits heard (zoom linkLens m) := by
  have hlink (c : CiController) (link : CaDevice) : Bides heard c (linkLens.set link c) :=
    ⟨rfl, rfl, rfl, rfl, rfl, rfl, fun _ slot known => ⟨slot, known, .refl slot⟩,
      ⟨.refl c.session.transport, fun _ _ hmem => .inl hmem⟩, .refl _⟩
  exact fun c => ⟨fun _ _ => hlink c _, fun _ _ => hlink c _⟩

theorem bides_note {obs : Obs} (h : obs.Unasked) : Waits heard (note obs) := bides_transport (CiTransport.unasked_note h)

theorem bides_noted {obs : Obs} (h : obs.Unasked) : Bides heard c (c.noted obs) :=
  ⟨rfl, rfl, rfl, rfl, rfl, rfl, fun _ slot known => ⟨slot, known, .refl slot⟩,
    ⟨adds_snoc h _, fun _ _ hmem => .inl hmem⟩, .refl _⟩

theorem bides_emit {e : CaEvent} (hold : c.lastTick ≠ none → e.hold c.pacer.settle = none)
    (retries : e.Retries → e ∈ c.session.events) : Bides heard c (c.emit [e]) :=
  ⟨rfl, rfl, rfl, rfl, rfl, rfl, fun _ slot known => ⟨slot, known, .refl slot⟩, .refl _, adds_snoc ⟨hold, retries⟩ _⟩

theorem bides_pushEvent {e : CaEvent} (hold : ∀ settle, e.hold settle = none) (retries : ¬ e.Retries) :
    Waits heard (pushEvent e) :=
  keeps_modify fun _ => bides_emit (fun _ => hold _) fun h => absurd h retries

theorem bides_edit {f : ControllerSlot → ControllerSlot}
    (hf : ∀ slot, c.slots[slotId.toNat]? = some slot → slot.Lapses (f slot)) : Bides heard c (c.edit slotId f) := by
  refine ⟨rfl, rfl, rfl, rfl, rfl, rfl, fun other slot' known' => ?_, .refl _, .refl _⟩
  rw [getElem?_edit] at known'
  split at known'
  · next heq =>
      subst heq
      obtain ⟨slot, known, rfl⟩ := Option.map_eq_some_iff.mp known'
      exact ⟨slot, known, hf slot known⟩
  · exact ⟨slot', known', .refl slot'⟩

theorem bides_edits {f g : ControllerSlot → ControllerSlot} (h : ∀ slot, (f slot).Lapses (g slot)) :
    Bides heard (c.edit slotId f) (c.edit slotId g) := by
  refine ⟨rfl, rfl, rfl, rfl, rfl, rfl, fun other slot' known' => ?_, .refl _, .refl _⟩
  rw [getElem?_edit] at known' ⊢
  split at known'
  · next heq =>
      obtain ⟨slot, known, rfl⟩ := Option.map_eq_some_iff.mp known'
      rw [if_pos heq, known]
      exact ⟨f slot, rfl, h slot⟩
  · next hne =>
      rw [if_neg hne]
      exact ⟨slot', known', .refl slot'⟩

theorem edit_edit (f g : ControllerSlot → ControllerSlot) : (c.edit slotId f).edit slotId g = c.edit slotId (g ∘ f) := by
  simp only [edit, List.modify_modify_eq]

theorem bides_slotAt : Waits heard (slotAt slotId) := bides_get fun _ => keeps_lift .refl _

theorem wlp_slotAt {Q : ControllerSlot → CiController → Prop} {E : Error → CiController → Prop}
    (h : ∀ slot, c.slots[slotId.toNat]? = some slot → Q slot c) : wlp (slotAt slotId) Q E c := by
  rw [slotAt, wlp_bind, wlp_get, wlp_lift]
  unfold index
  split
  · next slot known =>
      refine ⟨fun other hother => h other ?_, by rintro _ ⟨⟩⟩
      rw [← Outcome.ok.inj hother]
      exact known
  · exact ⟨by rintro _ ⟨⟩, by rintro _ ⟨⟩⟩

theorem wlp_modifySlot {f : ControllerSlot → ControllerSlot} {Q : Unit → CiController → Prop}
    {E : Error → CiController → Prop} (h : ∀ slot, c.slots[slotId.toNat]? = some slot → Q () (c.edit slotId f)) :
    wlp (modifySlot slotId f) Q E c := by
  rw [modifySlot, wlp_bind]
  exact wlp_slotAt fun slot known => wlp_modify.mpr (h slot known)

theorem bides_modifySlot {f : ControllerSlot → ControllerSlot} (hf : ∀ slot : ControllerSlot, slot.Lapses (f slot)) :
    Waits heard (modifySlot slotId f) := fun _ => wlp_modifySlot fun _ _ => bides_edit fun slot _ => hf slot

theorem bides_emits {events : List CaEvent} (h : ∀ e ∈ events, e.Mute) : Bides heard c (c.emit events) :=
  ⟨rfl, rfl, rfl, rfl, rfl, rfl, fun _ slot known => ⟨slot, known, .refl slot⟩, .refl _,
    ⟨events, rfl, fun e hmem => ⟨fun _ => (h e hmem).1 _, fun hretries => absurd hretries (h e hmem).2⟩⟩⟩

theorem wlp_setCamStatus {new : CamStatus} {Q : Unit → CiController → Prop} {E : Error → CiController → Prop}
    (h : ∀ events : List CaEvent, (∀ e ∈ events, e.Mute) →
      Q () ((c.edit slotId ({ · with camStatus := new })).emit events)) : wlp (setCamStatus slotId new) Q E c := by
  rw [setCamStatus, wlp_bind]
  refine wlp_slotAt fun slot _ => ?_
  rw [wlp_bind]
  refine wlp_modifySlot fun _ _ => ?_
  split
  · refine wlp_modify.mpr (h [.camStatusChanged slotId slot.camStatus new] fun e hmem => ?_)
    rw [List.mem_singleton.mp hmem]
    exact ⟨fun _ => rfl, by rintro ⟨_, ⟨⟩⟩⟩
  · exact wlp_pure.mpr (emit_nil (c.edit slotId _) ▸ h [] (by rintro _ ⟨⟩))

theorem bides_camStatus (new : CamStatus) {events : List CaEvent} (h : ∀ e ∈ events, e.Mute) :
    Bides heard c ((c.edit slotId ({ · with camStatus := new })).emit events) := by
  have hedit : Bides heard c (c.edit slotId ({ · with camStatus := new })) := bides_edit fun _ _ => .of_same rfl rfl rfl
  exact hedit.trans (bides_emits h)

theorem bides_setCamStatus (new : CamStatus) : Waits heard (setCamStatus slotId new) :=
  fun _ => wlp_setCamStatus fun _ hevents => bides_camStatus new hevents

theorem wlp_recomputeCamStatus (heard : Bool) {Q : Unit → CiController → Prop} {E : Error → CiController → Prop}
    (h : ∀ c', Bides heard c c' → Q () c') : wlp (recomputeCamStatus slotId) Q E c := by
  rw [recomputeCamStatus, wlp_bind, wlp_get]
  exact wlp_setCamStatus fun _ hevents => h _ (bides_camStatus _ hevents)

theorem wlp_setSlotStatus {new : CaSlotStatus} {Q : Unit → CiController → Prop} {E : Error → CiController → Prop}
    (retries : ∀ slot, c.slots[slotId.toNat]? = some slot → new = .present → slot.status ≠ .failed)
    (h : ∀ events : List CaEvent, (∀ e ∈ events, e.Mute) →
      Q () ((c.edit slotId ({ · with status := new })).emit events)) : wlp (setSlotStatus slotId new) Q E c := by
  rw [setSlotStatus, wlp_bind]
  refine wlp_slotAt fun slot known => ?_
  rw [wlp_bind]
  refine wlp_modifySlot fun _ _ => ?_
  split
  · refine wlp_modify.mpr (h [.slotStatusChanged slotId slot.status new] fun e hmem => ?_)
    rw [List.mem_singleton.mp hmem]
    exact mute_turned (retries slot known)
  · exact wlp_pure.mpr (emit_nil (c.edit slotId _) ▸ h [] (by rintro _ ⟨⟩))

theorem bides_setSlotStatus {new : CaSlotStatus} (rests : new ≠ .active)
    (retries : ∀ slot, c.slots[slotId.toNat]? = some slot → new = .present → slot.status ≠ .failed) :
    wlp (setSlotStatus slotId new) (fun _ => Bides heard c) (fun _ => Bides heard c) c := by
  refine wlp_setSlotStatus retries fun events hevents => ?_
  have hedit : Bides heard c (c.edit slotId ({ · with status := new })) :=
    bides_edit fun _ _ => ⟨.inl rfl, .inl rfl, fun h => absurd h rests⟩
  exact hedit.trans (bides_emits hevents)

theorem bides_markOutstanding (now : Instant) : Waits heard (markOutstanding slotId now) := by
  apply bides_get
  intro c
  apply keeps_bind .trans bides_slotAt
  intro slot
  have hmark {f : ControllerSlot → ControllerSlot} (hf : ∀ slot, (f slot).status = slot.status ∧
      (f slot).nextPoll = slot.nextPoll ∧ (f slot).retryAt = slot.retryAt) : Waits heard (modifySlot slotId f) :=
    bides_modifySlot fun slot => ControllerSlot.Lapses.of_same (hf slot).1 (hf slot).2.1 (hf slot).2.2
  split
  · exact hmark fun _ => ⟨rfl, rfl, rfl⟩
  · split
    · exact hmark fun _ => ⟨rfl, rfl, rfl⟩
    · split
      · exact hmark fun _ => ⟨rfl, rfl, rfl⟩
      · exact keeps_pure .refl ()

inductive Soft (heard : Bool) (c : CiController) : CiController → Prop
  | waits {c' : CiController} (bides : Bides heard c c') : Soft heard c c'
  | armed {now hold event} {c' : CiController} (ticked : c.lastTick = some now) (held : event.hold c.pacer.settle = some hold)
      (bides : Bides heard (c.withGate (.armed (deadline now hold))) c') : Soft heard c (c'.emit [event])
  | activated {slotId : UInt8} {c' : CiController} (ready : .transportReady slotId ∈ c.session.events)
      (bides : Bides heard (c.edit slotId ControllerSlot.inUse) c') : Soft heard c c'

abbrev Softly {α : Type} (heard : Bool) (m : Act Error CiController α) : Prop :=
  Act.Keeps (ReflTransGen (Soft heard)) m

theorem softly_of_waits {α : Type} {m : Act Error CiController α} (hm : Waits heard m) : Softly heard m :=
  fun c => wlp_mono (hm c) (fun _ _ h => .single (.waits h)) fun _ _ h => .single (.waits h)

theorem softly_bind {α β : Type} {m : Act Error CiController α} {f : α → Act Error CiController β}
    (hm : Softly heard m) (hf : ∀ a, Softly heard (f a)) : Softly heard (m >>= f) :=
  keeps_bind ReflTransGen.trans hm hf

theorem softly_get {β : Type} {f : CiController → Act Error CiController β} (hf : ∀ c, Softly heard (f c)) :
    Softly heard (get >>= f) := softly_bind (keeps_get fun _ => .refl) hf

section Collect

theorem deadline_zero (now : Instant) : deadline now 0 = now := by
  unfold deadline Instant.checkedAdd
  split <;> rfl

variable {event : CaEvent} {rest : List CaEvent}

theorem bides_popped (queued : c.session.events = event :: rest) : Bides heard c (c.popped rest) := by
  refine ⟨rfl, rfl, rfl, rfl, rfl, rfl, fun _ slot known => ⟨slot, known, .refl slot⟩, ⟨.refl _, fun e _ hmem => .inl ?_⟩,
    .refl _⟩
  rw [queued]
  exact List.mem_cons_of_mem _ hmem

theorem softly_armed {now : Instant} {hold : Duration} (queued : c.session.events = event :: rest)
    (ticked : c.lastTick = some now) (held : event.hold c.pacer.settle = some hold)
    {f : CiController → CiController} (hf : f (c.popped rest) = (c.popped rest).withGate (.armed (deadline now hold))) :
    wlp (do
        modify f
        recomputeCamStatus slotId
        pushEvent event)
      (fun _ => ReflTransGen (Soft heard) c) (fun _ => ReflTransGen (Soft heard) c) (c.popped rest) := by
  rw [wlp_bind, wlp_modify, hf, wlp_bind]
  refine wlp_recomputeCamStatus heard fun c' h => wlp_modify.mpr ?_
  have hgated := @bides_popped heard (c.withGate (.armed (deadline now hold))) event rest queued
  exact .single (.armed ticked held (hgated.trans h))

theorem softly_renewed (queued : c.session.events = event :: rest) (hold : c.lastTick ≠ none → event.hold c.pacer.settle = none)
    (retries : ¬ event.Retries) :
    wlp (do
        recomputeCamStatus slotId
        pushEvent event)
      (fun _ => ReflTransGen (Soft heard) c) (fun _ => ReflTransGen (Soft heard) c) (c.popped rest) := by
  rw [wlp_bind]
  refine wlp_recomputeCamStatus heard fun c' h => wlp_modify.mpr ?_
  have hbides := (bides_popped queued).trans h
  refine .single (.waits (hbides.trans (bides_emit (fun hne => ?_) fun h => absurd h retries)))
  rw [hbides.pacer]
  exact hold (hbides.lastTick ▸ hne)

theorem softly_passed (queued : c.session.events = event :: rest) {e : CaEvent}
    (hold : e.hold c.pacer.settle = none) (retries : e.Retries → e = event) :
    wlp (pushEvent e) (fun _ => ReflTransGen (Soft heard) c) (fun _ => ReflTransGen (Soft heard) c) (c.popped rest) := by
  refine wlp_modify.mpr (.single (.waits ?_))
  refine ⟨rfl, rfl, rfl, rfl, rfl, rfl, fun _ slot known => ⟨slot, known, .refl slot⟩,
    (bides_popped queued).session, adds_snoc ⟨fun _ => hold, fun h => ?_⟩ _⟩
  rw [queued, retries h]
  exact List.mem_cons_self

theorem softly_activated (queued : c.session.events = .transportReady slotId :: rest) :
    wlp (do
        modifySlot slotId ({ · with createSince := none, commandSince := none, nextPoll := none })
        setSlotStatus slotId .active
        note (.activated slotId)
        pushEvent (.transportReady slotId))
      (fun _ => ReflTransGen (Soft heard) c) (fun _ => ReflTransGen (Soft heard) c) (c.popped rest) := by
  have hready : .transportReady slotId ∈ c.session.events := queued ▸ List.mem_cons_self
  have hunasked : (Obs.activated slotId).Unasked := trivial
  have hpopped : Bides heard (c.edit slotId ControllerSlot.inUse) ((c.popped rest).edit slotId ControllerSlot.inUse) :=
    @bides_popped heard (c.edit slotId ControllerSlot.inUse) (.transportReady slotId) rest queued
  have hslot := hpopped.trans (@bides_edits heard (c.popped rest) slotId ControllerSlot.inUse
    (({ · with status := .active }) ∘ ({ · with createSince := none, commandSince := none, nextPoll := none }))
    fun slot => .of_same rfl rfl rfl)
  rw [wlp_bind]
  refine wlp_modifySlot fun _ _ => ?_
  rw [wlp_bind]
  refine wlp_setSlotStatus (by rintro _ _ ⟨⟩) fun events hevents => ?_
  rw [edit_edit]
  have hnoted := (hslot.trans (bides_emits hevents)).trans (bides_noted hunasked)
  rw [wlp_bind, note, wlp_zoom, CiTransport.note, wlp_modify, pushEvent, wlp_modify]
  exact .single (.activated hready (hnoted.trans (bides_emit (fun _ => rfl) (by rintro ⟨_, ⟨⟩⟩))))

theorem collectEvent_softly (queued : c.session.events = event :: rest) :
    wlp (collectEvent event) (fun _ => ReflTransGen (Soft heard) c) (fun _ => ReflTransGen (Soft heard) c)
      (c.popped rest) := by
  rw [collectEvent, wlp_bind, wlp_get]
  split
  · next slotId =>
      split
      · exact softly_activated queued
      · exact softly_passed queued rfl (by rintro ⟨_, ⟨⟩⟩)
  · next slotId info =>
      split
      · dsimp only
        split
        · next now ticked => exact softly_armed queued ticked rfl rfl
        · next ticked => exact softly_renewed queued (fun hne => absurd ticked hne) (by rintro ⟨_, ⟨⟩⟩)
      · exact softly_passed queued rfl (by rintro ⟨_, ⟨⟩⟩)
  · next slotId sessionId caids =>
      split
      · dsimp only
        split
        · next now ticked =>
            split
            · next hcaids => exact softly_armed queued ticked (if_neg hcaids) (by rw [deadline_zero]; rfl)
            · next hcaids => exact softly_renewed queued (fun _ => if_pos (not_not.mp hcaids)) (by rintro ⟨_, ⟨⟩⟩)
        · next ticked => exact softly_renewed queued (fun hne => absurd ticked hne) (by rintro ⟨_, ⟨⟩⟩)
      · exact softly_passed queued rfl (by rintro ⟨_, ⟨⟩⟩)
  · next slotId sessionId resourceId =>
      dsimp only
      split
      · exact softly_renewed queued (fun _ => rfl) (by rintro ⟨_, ⟨⟩⟩)
      · exact softly_passed queued rfl (by rintro ⟨_, ⟨⟩⟩)
  · next hready happ hca hclosed =>
      refine softly_passed queued ?_ fun _ => rfl
      cases event with
      | applicationInfo other info => exact absurd rfl (happ other info)
      | caInfo other sessionId caids => exact absurd rfl (hca other sessionId caids)
      | _ => rfl

theorem collectLoop_softly (fuel : Nat) : Softly heard (collectLoop fuel) := by
  induction fuel with
  | zero => exact fun _ => wlp_fault
  | succ fuel ih =>
      intro c
      rw [collectLoop, wlp_bind, wlp_zoom, CiSession.nextEvent, wlp_bind, wlp_get]
      cases queued : c.session.events with
      | nil =>
          have hevents : (sessionLens.get c).events = [] := queued
          rw [hevents, wlp_pure, wlp_pure]
          exact .refl
      | cons event rest =>
          have hevents : (sessionLens.get c).events = event :: rest := queued
          rw [hevents, wlp_bind, wlp_modify, wlp_pure, wlp_bind]
          refine wlp_mono (collectEvent_softly queued) (fun _ c' h => ?_) fun _ _ h => h
          exact wlp_mono (ih c') (fun _ _ h' => h.trans h') fun _ _ h' => h.trans h'

theorem collectSessionEvents_softly : Softly heard collectSessionEvents := softly_get fun _ => collectLoop_softly _

end Collect

end CiController

end LibDvb
