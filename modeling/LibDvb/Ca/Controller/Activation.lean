import LibDvb.Ca.Controller.Indication
import LibDvb.Ca.Controller.Waiting

namespace LibDvb

open Relation Act Outcome

-- No TT_CTC_REPLY of the slot is read while its TT_CREATE_TC waits for the link.
def Unhurried (slotsNum slotId : UInt8) (trace : List Obs) : Prop :=
  ∀ before frame after, trace = before ++ .read frame :: after → Tpdu.replies slotsNum slotId frame = true →
    Tpdu.createFrame slotId ∉ (slotHistory slotsNum slotId before).queue

section History

variable {slotsNum slotId : UInt8} {trace delta : List Obs} {obs : Obs} {frame : Bytes} {stage : Handshake}

def Obs.replies (slotsNum slotId : UInt8) : Obs → Bool
  | .read frame => Tpdu.replies slotsNum slotId frame
  | _ => false

theorem unhurried_iff {past : List Obs} : Unhurried slotsNum slotId past ↔
    ∀ i, i < past.length → past[i]?.any (Obs.replies slotsNum slotId) = true →
      (slotHistory slotsNum slotId (past.take i)).queue.contains (Tpdu.createFrame slotId) = false := by
  constructor
  · intro h i hi hany
    rw [List.getElem?_eq_getElem hi, Option.any_some] at hany
    have hsplit : past = past.take i ++ past[i] :: past.drop (i + 1) := by
      rw [List.cons_getElem_drop_succ, List.take_append_drop]
    revert hsplit hany
    generalize past[i] = obs
    intro hreplies hsplit
    cases obs with
    | read frame => simpa using h _ frame _ hsplit hreplies
    | _ => cases hreplies
  · intro h before frame after heq hreplies
    have hlast := h before.length (by simp [heq]) (by simpa [heq, Obs.replies] using hreplies)
    simpa [heq] using hlast

instance : Decidable (Unhurried slotsNum slotId trace) := decidable_of_iff _ unhurried_iff.symm

theorem Unhurried.left (h : Unhurried slotsNum slotId (trace ++ delta)) : Unhurried slotsNum slotId trace := by
  intro before frame after heq
  exact h before frame (after ++ delta) (by rw [heq, List.append_assoc, List.cons_append])

theorem Lawful.left {count : Nat} (h : Lawful count (trace ++ delta)) : Lawful count trace := by
  intro before obs after heq
  exact h before obs (after ++ delta) (by rw [heq, List.append_assoc, List.cons_append])

theorem head_of_replies (h : Tpdu.replies slotsNum slotId frame = true) : frame.head? = some slotId := by
  rw [Tpdu.replies] at h
  split at h
  · next parsed hparse =>
      have hparts := Bool.and_eq_true_iff.mp h
      rw [(CiTransport.parse_slot hparse).1, of_decide_eq_true hparts.2]
  · cases h

theorem shake_apart (h : obs.Apart slotId) : obs.shake slotsNum slotId stage = stage ∨
    stage = .asked ∧ obs.shake slotsNum slotId stage = .accepted := by
  cases obs with
  | queued other frame => exact .inl (if_neg fun heq => (h heq.1).1 heq.2)
  | wrote other frame result callback =>
      cases result with
      | ok _ =>
          rw [Obs.shake]
          split
          · next heq => exact .inr ⟨heq.1, rfl⟩
          · exact .inl rfl
      | error e => exact .inl rfl
  | cleared other => exact .inl (if_neg fun heq => h heq.2)
  | read frame => exact .inl (if_neg fun heq => h (head_of_replies heq.2))
  | _ => exact .inl rfl

theorem handshake_apart (apart : ∀ obs ∈ delta, obs.Apart slotId) :
    handshakeOf slotsNum slotId (trace ++ delta) = handshakeOf slotsNum slotId trace ∨
      handshakeOf slotsNum slotId trace = .asked ∧ handshakeOf slotsNum slotId (trace ++ delta) = .accepted := by
  induction delta using List.reverseRecOn with
  | nil => exact .inl (by rw [List.append_nil])
  | append_singleton delta obs ih =>
      have hlast := @shake_apart slotsNum slotId obs (handshakeOf slotsNum slotId (trace ++ delta)) (apart obs (by simp))
      rw [← List.append_assoc, handshake_snoc]
      rcases ih fun other hmem => apart other (List.mem_append_left _ hmem) with hsame | ⟨hasked, haccepted⟩
      · rw [hsame] at hlast ⊢
        exact hlast
      · rw [haccepted] at hlast ⊢
        rcases hlast with hlast | ⟨habsurd, _⟩
        · exact .inr ⟨hasked, hlast⟩
        · cases habsurd

theorem answered_apart (apart : ∀ obs ∈ delta, obs.Apart slotId) (h : handshakeOf slotsNum slotId trace = .answered) :
    handshakeOf slotsNum slotId (trace ++ delta) = .answered := by
  rcases @handshake_apart slotsNum slotId trace delta apart with hsame | ⟨hasked, _⟩
  · exact hsame.trans h
  · cases h.symm.trans hasked

theorem kept_wrote {count : Nat} {result : Except Error Unit} {callback : Bool} (hlt : slotId.toNat < count)
    (hlawful : Lawful count (trace ++ [.wrote slotId frame result callback]))
    (kept : (Obs.wrote slotId frame result callback).refused = false)
    (hasked : handshakeOf (UInt8.ofNat count) slotId (trace ++ [.wrote slotId frame result callback]) = .asked)
    (hmem : Tpdu.createFrame slotId ∈ (slotHistory (UInt8.ofNat count) slotId trace).queue) :
    Tpdu.createFrame slotId ∈
      (slotHistory (UInt8.ofNat count) slotId (trace ++ [.wrote slotId frame result callback])).queue := by
  rw [slotHistory_snoc]
  cases result with
  | ok _ =>
      rw [handshake_snoc, Obs.shake] at hasked
      obtain ⟨slot, hslot, _, hhead⟩ := hlawful.of_snoc.2
      rw [getElem?_replay hlt, Option.some.injEq] at hslot
      subst hslot
      obtain ⟨rest, hqueue⟩ := List.head?_eq_some_iff.mp hhead
      rw [Obs.onSlot, if_pos rfl]
      rw [hqueue] at hmem ⊢
      refine (List.mem_cons.mp hmem).resolve_left fun heq => ?_
      split at hasked
      · cases hasked
      · next hne => exact hne ⟨hasked, rfl, heq.symm⟩
  | error e =>
      have htransient : e.transient = true := by
        simpa [Obs.refused] using kept
      rwa [Obs.onSlot, if_neg fun hs => Bool.false_ne_true (hs.2.symm.trans htransient)]

end History

-- How far the connection attempt of a slot has come: an active slot has its answer, and the TT_CREATE_TC of a slot that
-- waits for one is in the queue or was taken by the link.
structure SlotView.Shaken (slotsNum slotId : UInt8) (v : SlotView) : Prop where
  active : v.stage.ruined = false → v.slot.status = .active → handshakeOf slotsNum slotId v.trace = .answered
  creating : v.stage.ruined = false → v.slot.status = .creatingTc → handshakeOf slotsNum slotId v.trace ≠ .idle ∧
    (handshakeOf slotsNum slotId v.trace = .asked →
      Tpdu.createFrame slotId ∈ (slotHistory slotsNum slotId v.trace).queue)
  replied : v.stage.replied = true → v.slot.status = .creatingTc → handshakeOf slotsNum slotId v.trace = .answered

section Shake

variable {count : Nat} {slotsNum slotId : UInt8} {v v' : SlotView} {slot slot' : ControllerSlot} {trace trace' : List Obs}
  {stage stage' : SlotStage}

theorem shaken_rests (rests : slot.status.Rests) : SlotView.Shaken slotsNum slotId ⟨slot, trace, stage⟩ :=
  ⟨fun _ hactive => absurd hactive rests.2, fun _ hcreating => absurd hcreating rests.1,
    fun _ hcreating => absurd hcreating rests.1⟩

theorem SlotView.Shaken.moved (h : SlotView.Shaken slotsNum slotId ⟨slot, trace, stage⟩)
    (shake : handshakeOf slotsNum slotId trace' = handshakeOf slotsNum slotId trace ∨
      handshakeOf slotsNum slotId trace = .asked ∧ handshakeOf slotsNum slotId trace' = .accepted)
    (kept : handshakeOf slotsNum slotId trace' = .asked →
      Tpdu.createFrame slotId ∈ (slotHistory slotsNum slotId trace).queue →
        Tpdu.createFrame slotId ∈ (slotHistory slotsNum slotId trace').queue)
    (status : slot'.status = slot.status) (ruined : stage'.ruined = false → stage.ruined = false)
    (replied : stage'.replied = true → stage.replied = true) :
    SlotView.Shaken slotsNum slotId ⟨slot', trace', stage'⟩ := by
  have hanswered : handshakeOf slotsNum slotId trace = .answered → handshakeOf slotsNum slotId trace' = .answered := by
    intro hs
    rcases shake with hsame | ⟨hasked, _⟩
    · exact hsame.trans hs
    · cases hs.symm.trans hasked
  refine ⟨fun hstage hactive => hanswered (h.active (ruined hstage) (status ▸ hactive)), fun hstage hcreating => ?_,
    fun hreplied hcreating => hanswered (h.replied (replied hreplied) (status ▸ hcreating))⟩
  obtain ⟨hbegun, hwaits⟩ := h.creating (ruined hstage) (status ▸ hcreating)
  dsimp only at hbegun hwaits ⊢
  rcases shake with hsame | ⟨_, haccepted⟩
  · exact ⟨hsame ▸ hbegun, fun hasked => kept hasked (hwaits (hsame ▸ hasked))⟩
  · rw [haccepted]
    exact ⟨by rintro ⟨⟩, by rintro ⟨⟩⟩

theorem SlotStage.replied_sent (stage : SlotStage) : stage.sent.replied = stage.replied := by
  cases stage <;> rfl

theorem SlotView.Shaken.read {frame : Bytes} (h : SlotView.Shaken slotsNum slotId ⟨slot, trace, .idle⟩)
    (head : frame.head? = some slotId) (hunhurried : Unhurried slotsNum slotId (trace ++ [.read frame])) :
    SlotView.Shaken slotsNum slotId
      ⟨slot, trace ++ [.read frame], .heard (Tpdu.replies slotsNum slotId frame)⟩ := by
  have hqueue : (slotHistory slotsNum slotId (trace ++ [.read frame])).queue = (slotHistory slotsNum slotId trace).queue := by
    rw [slotHistory_snoc, Obs.onSlot, if_pos head, queue_afterRead]
  have hshake : handshakeOf slotsNum slotId (trace ++ [.read frame]) =
      if handshakeOf slotsNum slotId trace = .accepted ∧ Tpdu.replies slotsNum slotId frame = true then .answered
      else handshakeOf slotsNum slotId trace := handshake_snoc
  refine ⟨fun _ hactive => ?_, fun _ hcreating => ?_, fun hreplied hcreating => ?_⟩
  · have hanswered : handshakeOf slotsNum slotId trace = .answered := h.active rfl hactive
    rw [hshake, hanswered, if_neg (by rintro ⟨⟨⟩, _⟩)]
  · obtain ⟨hbegun, hwaits⟩ := h.creating rfl hcreating
    dsimp only at hbegun hwaits ⊢
    rw [hshake, hqueue]
    split
    · exact ⟨by rintro ⟨⟩, by rintro ⟨⟩⟩
    · exact ⟨hbegun, hwaits⟩
  · obtain ⟨hbegun, hwaits⟩ := h.creating rfl hcreating
    have hnone := hunhurried trace frame [] rfl hreplied
    dsimp only at hbegun hwaits ⊢
    rw [hshake]
    -- The link has the TT_CREATE_TC, as it is not in the queue.
    cases hstage : handshakeOf slotsNum slotId trace with
    | idle => exact absurd hstage hbegun
    | asked => exact absurd (hwaits hstage) hnone
    | accepted => exact if_pos ⟨rfl, hreplied⟩
    | answered => exact if_neg (by rintro ⟨⟨⟩, _⟩)

theorem SlotView.Shaken.step (hlt : slotId.toNat < count) (h : v.Shaken (UInt8.ofNat count) slotId)
    (hlawful : Lawful count v'.trace) (hunhurried : Unhurried (UInt8.ofNat count) slotId v'.trace)
    (hstep : SlotStep (UInt8.ofNat count) slotId v v') : v'.Shaken (UInt8.ofNat count) slotId := by
  cases hstep with
  | aside apart still => exact h.moved (handshake_apart apart) (fun _ hmem => still ▸ hmem) rfl id id
  | talked apart status =>
      exact ⟨fun hstage hactive => answered_apart apart (h.active hstage hactive),
        fun _ hcreating => absurd hcreating status, fun _ hcreating => absurd hcreating status⟩
  | edited status create command receive => exact h.moved (.inl rfl) (fun _ => id) status id id
  | turned old new create command => exact shaken_rests new
  | @read slot trace stage frame head quiet =>
      rcases quiet with rfl | ⟨rests, _⟩
      · exact h.read head hunhurried
      · exact shaken_rests rests
  | @wrote slot trace stage frame result callback kept =>
      refine h.moved ?_ (kept_wrote hlt hlawful kept) rfl (fun hs => stage.ruined_sent ▸ hs)
        fun hs => stage.replied_sent ▸ hs
      rw [handshake_snoc]
      exact shake_apart trivial
  | lost status kept =>
      refine ⟨by rintro ⟨⟩, by rintro ⟨⟩, fun hreplied hcreating => ?_⟩
      exact answered_apart (fun obs hmem => List.mem_singleton.mp hmem ▸ trivial) (h.replied hreplied (status hcreating))
  | taken =>
      refine h.moved (.inl handshake_snoc) (fun _ hmem => ?_) rfl id id
      rw [slotHistory_snoc, Obs.onSlot, if_pos rfl]
      exact hmem
  | activated status =>
      refine ⟨fun _ _ => ?_, by rintro _ ⟨⟩, by rintro _ ⟨⟩⟩
      rw [handshake_snoc]
      exact h.replied rfl status
  | indicated status => exact h.moved (.inl rfl) (fun _ => id) rfl (fun _ => rfl) (by rintro ⟨⟩)
  | @marked slot trace stage now status settled =>
      have hstage : stage.ruined = false := by
        rcases settled with rfl | ⟨_, _, rfl⟩ <;> rfl
      exact h.moved (.inl rfl) (fun _ => id) (slot.marked_status now _) (fun _ => hstage) (by rintro ⟨⟩)
  | settled rests => exact shaken_rests rests
  | received status receive idle =>
      refine ⟨fun hstage hactive => ?_, fun _ hcreating => ?_, by rintro ⟨⟩⟩
      · rw [handshake_snoc, Obs.shake, if_neg fun hs => Tpdu.createFrame_ne_receiveFrame _ _ hs.2.symm]
        exact h.active hstage hactive
      · cases status.symm.trans hcreating
  | created status idle =>
      refine ⟨by rintro _ ⟨⟩, fun _ _ => ?_, by rintro ⟨⟩⟩
      rw [handshake_snoc, Obs.shake, if_pos ⟨rfl, rfl⟩, slotHistory_snoc, Obs.onSlot, if_pos rfl]
      exact ⟨by rintro ⟨⟩, fun _ => List.mem_append_right _ List.mem_cons_self⟩
  | abandoned rests create command => exact shaken_rests rests
  | @cleared slot slot' trace stage status =>
      refine ⟨by rintro ⟨⟩, by rintro ⟨⟩, fun hreplied hcreating => ?_⟩
      have hanswered : handshakeOf (UInt8.ofNat count) slotId trace = .answered := h.replied hreplied (status hcreating)
      simp [hanswered, Obs.shake]
  | wrecked apart status =>
      exact ⟨by rintro ⟨⟩, by rintro ⟨⟩, fun hreplied hcreating =>
        answered_apart apart (h.replied hreplied (status hcreating))⟩
  | reactivated status => exact ⟨by rintro ⟨⟩, by rintro ⟨⟩, by rintro _ ⟨⟩⟩
  | rested rests create command => exact shaken_rests rests

theorem SlotView.shaken_origin : SlotView.origin.Shaken slotsNum slotId :=
  ⟨by rintro _ ⟨⟩, by rintro _ ⟨⟩, by rintro ⟨⟩⟩

theorem SlotView.Shaken.path (hlt : slotId.toNat < count) (h : v.Shaken (UInt8.ofNat count) slotId)
    (hlawful : Lawful count v'.trace) (hunhurried : Unhurried (UInt8.ofNat count) slotId v'.trace)
    (hpath : ReflTransGen (SlotStep (UInt8.ofNat count) slotId) v v') : v'.Shaken (UInt8.ofNat count) slotId := by
  induction hpath with
  | refl => exact h
  | tail _ hstep ih =>
      obtain ⟨delta, hdelta⟩ := hstep.grows
      have hearlier := ih (hdelta ▸ hlawful).left (hdelta ▸ hunhurried).left
      exact hearlier.step hlt hlawful hunhurried hstep

def Obs.Courteous (slotsNum slotId : UInt8) (trace : List Obs) (obs : Obs) : Prop :=
  (obs = .activated slotId → handshakeOf slotsNum slotId trace = .answered) ∧
    (obs = .queued slotId (Tpdu.createFrame slotId) → (slotHistory slotsNum slotId trace).Idle)

theorem courteous_of_ne {obs : Obs} (hactivated : obs ≠ .activated slotId)
    (hqueued : obs ≠ .queued slotId (Tpdu.createFrame slotId)) : obs.Courteous slotsNum slotId trace :=
  ⟨fun heq => absurd heq hactivated, fun heq => absurd heq hqueued⟩

theorem courteous_apart {obs : Obs} (apart : obs.Apart slotId) : obs.Courteous slotsNum slotId trace := by
  apply courteous_of_ne
  · rintro rfl
    exact apart rfl
  · rintro rfl
    exact (apart rfl).1 rfl

theorem SlotView.Shaken.courteous (h : v.Shaken slotsNum slotId) (hstep : SlotStep slotsNum slotId v v') :
    Grows (Obs.Courteous slotsNum slotId) v.trace v'.trace := by
  cases hstep with
  | aside apart still => exact grows_append fun obs hmem _ => courteous_apart (apart obs hmem)
  | talked apart status => exact grows_append fun obs hmem _ => courteous_apart (apart obs hmem)
  | read head quiet => exact .note (courteous_of_ne (by rintro ⟨⟩) (by rintro ⟨⟩))
  | wrote kept => exact .note (courteous_of_ne (by rintro ⟨⟩) (by rintro ⟨⟩))
  | lost status kept => exact .note (courteous_of_ne (by rintro ⟨⟩) (by rintro ⟨⟩))
  | taken => exact .note (courteous_of_ne (by rintro ⟨⟩) (by rintro ⟨⟩))
  | activated status => exact .note ⟨fun _ => h.replied rfl status, by rintro ⟨⟩⟩
  | received status receive idle =>
      refine .note (courteous_of_ne (by rintro ⟨⟩) fun heq => ?_)
      exact Tpdu.createFrame_ne_receiveFrame slotId slotId (Obs.queued.inj heq).2.symm
  | created status idle => exact .note ⟨by rintro ⟨⟩, fun _ => idle⟩
  | cleared status => exact .note (courteous_of_ne (by rintro ⟨⟩) (by rintro ⟨⟩))
  | wrecked apart status => exact grows_append fun obs hmem _ => courteous_apart (apart obs hmem)
  | reactivated status => exact .note ⟨fun _ => h.replied rfl status, by rintro ⟨⟩⟩
  | _ => exact .refl

theorem SlotView.Shaken.grows (hlt : slotId.toNat < count) (h : v.Shaken (UInt8.ofNat count) slotId)
    (hlawful : Lawful count v'.trace) (hunhurried : Unhurried (UInt8.ofNat count) slotId v'.trace)
    (hpath : ReflTransGen (SlotStep (UInt8.ofNat count) slotId) v v') :
    Grows (Obs.Courteous (UInt8.ofNat count) slotId) v.trace v'.trace := by
  induction hpath with
  | refl => exact .refl
  | tail hpath hstep ih =>
      obtain ⟨delta, hdelta⟩ := hstep.grows
      have hlawful' := (hdelta ▸ hlawful).left
      have hunhurried' := (hdelta ▸ hunhurried).left
      exact (ih hlawful' hunhurried').trans ((h.path hlt hlawful' hunhurried' hpath).courteous hstep)

theorem createFrame_not_queued (hlt : slotId.toNat < count) (hlawful : Lawful count trace)
    (hcourteous : ∀ before obs after, trace = before ++ obs :: after → obs.Courteous (UInt8.ofNat count) slotId before)
    (hshake : handshakeOf (UInt8.ofNat count) slotId trace ≠ .asked) :
    Tpdu.createFrame slotId ∉ (slotHistory (UInt8.ofNat count) slotId trace).queue := by
  have hcount : (slotHistory (UInt8.ofNat count) slotId trace).queue.count (Tpdu.createFrame slotId) ≤
      if handshakeOf (UInt8.ofNat count) slotId trace = .asked then 1 else 0 := by
    clear hshake
    induction trace using List.reverseRecOn with
    | nil => exact Nat.zero_le _
    | append_singleton trace obs ih =>
        obtain ⟨hbefore, hallowed⟩ := hlawful.of_snoc
        rw [slotHistory_snoc, handshake_snoc]
        refine count_onSlot (ih hbefore fun before other after htrace => ?_) ?_ ?_
        · exact hcourteous before other (after ++ [obs]) (by simp [htrace])
        · rintro frame result callback rfl
          obtain ⟨slot, hslot, _, hhead⟩ := hallowed
          rw [getElem?_replay hlt, Option.some.injEq] at hslot
          exact hslot ▸ hhead
        · exact fun heq => ((hcourteous trace obs [] rfl).2 heq).2
  rw [if_neg hshake] at hcount
  exact List.count_eq_zero.mp (Nat.le_zero.mp hcount)

end Shake

section Run

open CiController

variable {start c : CiController} {labels : List ControllerLabel}

def CiController.Handshaken (c : CiController) : Prop :=
  ∀ slotId : UInt8, slotId.toNat < c.slots.length →
    (∀ before after, c.trace = before ++ .activated slotId :: after →
      Answered (UInt8.ofNat c.slots.length) slotId before) ∧
    ∀ slot transport, c.slots[slotId.toNat]? = some slot → slot.status = .active →
      c.session.transport.slots[slotId.toNat]? = some transport →
        Tpdu.createFrame slotId ∉ transport.queue ∧ Answered (UInt8.ofNat c.slots.length) slotId c.trace

theorem activation_follows_handshake (h : ControllerRun start labels c) (hunhurried : ∀ slotId : UInt8,
    slotId.toNat < c.slots.length → Unhurried (UInt8.ofNat c.slots.length) slotId c.trace) : c.Handshaken := by
  intro slotId hlt
  obtain ⟨slot, stage, hat, hpath, hpaused⟩ := h.resides hlt
  have hsound := h.settled.calm.sound
  have hlawful : Lawful c.slots.length c.trace := by
    rw [hsound.count]
    exact hsound.session.faithful.lawful
  have hshaken := SlotView.shaken_origin.path hlt hlawful (hunhurried slotId hlt) hpath
  have hcourteous : ∀ before obs after, c.trace = before ++ obs :: after →
      obs.Courteous (UInt8.ofNat c.slots.length) slotId before :=
    (SlotView.shaken_origin.grows hlt hlawful (hunhurried slotId hlt) hpath).entry (List.nil_append c.trace).symm
  refine ⟨fun before after htrace => ?_, fun other transport known hactive hslot => ?_⟩
  · exact answered_of_handshake ((hcourteous before _ after htrace).1 rfl)
  · obtain rfl : slot = other := Option.some.inj (hat.known.symm.trans known)
    obtain rfl : stage = .idle := hpaused.resolve_right fun hs => hs.2.1.2 hactive
    obtain rfl : c.past c.slots.length slotId = transport := Option.some.inj (hat.transport.symm.trans hslot)
    have hanswered : handshakeOf (UInt8.ofNat c.slots.length) slotId c.trace = .answered := hshaken.active rfl hactive
    refine ⟨createFrame_not_queued hlt hlawful hcourteous ?_, answered_of_handshake hanswered⟩
    rw [hanswered]
    rintro ⟨⟩

theorem indicatedTwice_unhurried (slotId : UInt8) (h : slotId.toNat < afterIndicatedTwice.2.slots.length) :
    Unhurried (UInt8.ofNat afterIndicatedTwice.2.slots.length) slotId afterIndicatedTwice.2.trace := by
  have hcount : afterIndicatedTwice.2.slots.length = 1 := by decide +kernel
  obtain rfl : slotId = 0 := by
    rw [hcount] at h
    exact UInt8.toNat_inj.mp (Nat.lt_one_iff.mp h)
  decide +kernel

theorem activation_follows_handshake_indicatedTwice : afterIndicatedTwice.2.Handshaken :=
  activation_follows_handshake (oneSlot_run indicatedTwice_isSome) indicatedTwice_unhurried

-- The link does not take the TT_CREATE_TC, and a TT_CTC_REPLY that was there before is read.
def staleReply : List (CaDevice × ControllerOp) :=
  [({ moduleReady with writes := [.failed .wouldBlock] }, .tick 0), ({}, .pollEvent), ({}, .pollEvent),
    ({ moduleReady with
        reads := [.frame [0, 1, 0x83, 1, 1, 0x80, 2, 1, 0]], writes := [.failed .wouldBlock, .failed .wouldBlock] },
      .pollEvent)]

theorem staleReply_isSome : (trail ControllerOp.next oneSlot staleReply).isSome := by decide +kernel

def afterStaleReply : List ControllerLabel × CiController :=
  (trail ControllerOp.next oneSlot staleReply).get staleReply_isSome

theorem staleReply_slot : afterStaleReply.2.slots[(0 : UInt8).toNat]?.any (fun slot => slot.status = .active) = true ∧
    afterStaleReply.2.session.transport.slots[(0 : UInt8).toNat]?.any
      (fun transport => Tpdu.createFrame 0 ∈ transport.queue) = true := by decide +kernel

theorem activation_without_handshake :
    ControllerRun oneSlot afterStaleReply.1 afterStaleReply.2 ∧ ¬ afterStaleReply.2.Handshaken := by
  refine ⟨oneSlot_run staleReply_isSome, fun hs => ?_⟩
  obtain ⟨hactive, hqueued⟩ := staleReply_slot
  obtain ⟨slot, known, hstatus⟩ := (Option.any_eq_true _ _).mp hactive
  obtain ⟨transport, hslot, hmem⟩ := (Option.any_eq_true _ _).mp hqueued
  have hlt : (0 : UInt8).toNat < afterStaleReply.2.slots.length := slotId_lt known
  exact ((hs 0 hlt).2 slot transport known (of_decide_eq_true hstatus) hslot).1 (of_decide_eq_true hmem)

end Run

end LibDvb
