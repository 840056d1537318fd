import LibDvb.Basis.Adds
import LibDvb.Ca.Controller.Escalation
import LibDvb.Ca.Controller.SlotRun

namespace LibDvb

open Relation Act Outcome

def Tpdu.indicates (slotsNum : UInt8) (frame : Bytes) : Bool :=
  match Tpdu.parse frame slotsNum with
  | .ok parsed => parsed.dataIndicator
  | _ => false

namespace Obs

def Heard (slotId : UInt8) : Obs → Prop
  | read frame => frame.head? = some slotId
  | _ => False

def Indicates (slotsNum slotId : UInt8) : Obs → Prop
  | read frame => frame.head? = some slotId ∧ Tpdu.indicates slotsNum frame = true
  | _ => False

theorem Indicates.heard {slotsNum slotId : UInt8} {obs : Obs} (h : obs.Indicates slotsNum slotId) :
    obs.Heard slotId := by
  cases obs with
  | read frame => exact h.1
  | _ => exact h.elim

end Obs

def requested (slotId : UInt8) : Obs := .queued slotId (Tpdu.receiveFrame slotId)

-- A frame of the slot with DATA_INDICATOR was read since the last T_RCV, and it is not older than the frame that
-- activated the slot.
def Indicated (slotsNum slotId : UInt8) (trace : List Obs) : Prop :=
  ∃ before obs after, trace = before ++ obs :: after ∧ obs.Indicates slotsNum slotId ∧ requested slotId ∉ after ∧
    ∀ early late, after = early ++ .activated slotId :: late → ∀ other ∈ early, ¬ other.Heard slotId

def LastIndicates (slotsNum slotId : UInt8) (trace : List Obs) : Prop :=
  ∃ before obs after, trace = before ++ obs :: after ∧ obs.Indicates slotsNum slotId ∧
    ∀ other ∈ after, ¬ other.Heard slotId

section History

variable {slotsNum slotId : UInt8} {trace delta : List Obs} {obs : Obs} {frame : Bytes}

theorem split_order {α : Type} {xs xs' ys ys' : List α} {x y : α} (h : xs ++ x :: xs' = ys ++ y :: ys') :
    (x = y ∧ xs' = ys') ∨ y :: ys' <:+ xs' ∨ x ∈ ys' := by
  rcases List.append_eq_append_iff.mp h with ⟨mid, rfl, hmid⟩ | ⟨mid, rfl, hmid⟩
  · rcases List.cons_eq_append_iff.mp hmid with ⟨rfl, hcons⟩ | ⟨rest, rfl, hrest⟩
    · exact .inl ⟨(List.cons.inj hcons).1.symm, (List.cons.inj hcons).2.symm⟩
    · exact .inr (.inl (hrest ▸ List.suffix_append rest _))
  · rcases List.cons_eq_append_iff.mp hmid with ⟨rfl, hcons⟩ | ⟨rest, rfl, hrest⟩
    · exact .inl ⟨(List.cons.inj hcons).1, (List.cons.inj hcons).2⟩
    · exact .inr (.inr (hrest ▸ List.mem_append_right _ List.mem_cons_self))

theorem lastIndicates_snoc : LastIndicates slotsNum slotId (trace ++ [obs]) ↔
    obs.Indicates slotsNum slotId ∨ ¬ obs.Heard slotId ∧ LastIndicates slotsNum slotId trace := by
  constructor
  · rintro ⟨before, other, after, htrace, hindicates, hlast⟩
    rcases snoc_split.mp htrace with ⟨rfl, rfl, rfl⟩ | ⟨rest, rfl, rfl⟩
    · exact .inl hindicates
    · refine .inr ⟨hlast obs (by simp), before, other, rest, rfl, hindicates, fun heard hmem => ?_⟩
      exact hlast heard (List.mem_append_left _ hmem)
  · rintro (hindicates | ⟨hheard, before, other, after, rfl, hindicates, hlast⟩)
    · exact ⟨trace, obs, [], rfl, hindicates, fun _ hmem => absurd hmem List.not_mem_nil⟩
    · refine ⟨before, other, after ++ [obs], by simp, hindicates, fun heard hmem => ?_⟩
      rcases List.mem_append.mp hmem with hmem | hmem
      · exact hlast heard hmem
      · rwa [List.mem_singleton.mp hmem]

theorem indicated_snoc : Indicated slotsNum slotId (trace ++ [obs]) ↔
    obs.Indicates slotsNum slotId ∨ obs ≠ requested slotId ∧ Indicated slotsNum slotId trace ∧
      (obs = .activated slotId → LastIndicates slotsNum slotId trace) := by
  constructor
  · rintro ⟨before, other, after, htrace, hindicates, hsince, hfresh⟩
    rcases snoc_split.mp htrace with ⟨rfl, rfl, rfl⟩ | ⟨rest, rfl, rfl⟩
    · exact .inl hindicates
    · refine .inr ⟨fun heq => hsince (by simp [heq]), ⟨before, other, rest, rfl, hindicates, fun hmem => ?_,
        fun early late hsplit => ?_⟩, fun heq => ?_⟩
      · exact hsince (List.mem_append_left _ hmem)
      · exact hfresh early (late ++ [obs]) (by rw [hsplit]; simp)
      · exact ⟨before, other, rest, rfl, hindicates, hfresh rest [] (by rw [heq])⟩
  · rintro (hindicates | ⟨hne, ⟨before, other, after, rfl, hindicates, hsince, hfresh⟩, hlatest⟩)
    · refine ⟨trace, obs, [], rfl, hindicates, List.not_mem_nil, fun early late hsplit => ?_⟩
      simp at hsplit
    · by_cases hactivated : obs = .activated slotId
      · obtain ⟨before', other', after', htrace, hindicates', hlast⟩ := hlatest hactivated
        refine ⟨before', other', after' ++ [obs], by rw [htrace]; simp, hindicates', fun hmem => ?_,
          fun early late hsplit heard hmem => ?_⟩
        · rcases List.mem_append.mp hmem with hmem | hmem
          · rcases split_order htrace with ⟨_, rfl⟩ | hsuffix | hnewer
            · exact hsince hmem
            · exact hsince (hsuffix.subset (List.mem_cons_of_mem _ hmem))
            · exact hlast other hnewer hindicates.heard
          · exact hne (List.mem_singleton.mp hmem).symm
        · have hearly : heard ∈ after' := by
            rcases snoc_split.mp hsplit with ⟨_, rfl, _⟩ | ⟨rest, _, rfl⟩
            · exact hmem
            · exact List.mem_append_left _ hmem
          exact hlast heard hearly
      · refine ⟨before, other, after ++ [obs], by simp, hindicates, fun hmem => ?_, fun early late hsplit => ?_⟩
        · rcases List.mem_append.mp hmem with hmem | hmem
          · exact hsince hmem
          · exact hne (List.mem_singleton.mp hmem).symm
        · rcases snoc_split.mp hsplit with ⟨_, _, heq⟩ | ⟨rest, _, hrest⟩
          · exact absurd heq.symm hactivated
          · exact hfresh early rest hrest

theorem not_heard_of_apart (h : obs.Apart slotId) : ¬ obs.Heard slotId := by
  cases obs with
  | read frame => exact h
  | _ => exact id

theorem lastIndicates_still (h : ¬ obs.Heard slotId) :
    LastIndicates slotsNum slotId (trace ++ [obs]) ↔ LastIndicates slotsNum slotId trace := by
  rw [lastIndicates_snoc]
  exact ⟨fun hs => hs.elim (fun hindicates => absurd hindicates.heard h) And.right, fun hs => .inr ⟨h, hs⟩⟩

theorem indicated_still (h : ¬ obs.Heard slotId) (hne : obs ≠ requested slotId) (hold : obs ≠ .activated slotId) :
    Indicated slotsNum slotId (trace ++ [obs]) ↔ Indicated slotsNum slotId trace := by
  rw [indicated_snoc]
  exact ⟨fun hs => hs.elim (fun hindicates => absurd hindicates.heard h) fun hs => hs.2.1,
    fun hs => .inr ⟨hne, hs, fun heq => absurd heq hold⟩⟩

theorem lastIndicates_read (head : frame.head? = some slotId) :
    LastIndicates slotsNum slotId (trace ++ [.read frame]) ↔ Tpdu.indicates slotsNum frame = true := by
  rw [lastIndicates_snoc]
  exact ⟨fun hs => hs.elim And.right fun hs => absurd head hs.1, fun hs => .inl ⟨head, hs⟩⟩

theorem indicated_read (head : frame.head? = some slotId) : Indicated slotsNum slotId (trace ++ [.read frame]) ↔
    Indicated slotsNum slotId trace ∨ Tpdu.indicates slotsNum frame = true := by
  rw [indicated_snoc]
  constructor
  · exact fun hs => hs.elim (fun hindicates => .inr hindicates.2) fun hs => .inl hs.2.1
  · rintro (hs | hs)
    · exact .inr ⟨by rintro ⟨⟩, hs, by rintro ⟨⟩⟩
    · exact .inl ⟨head, hs⟩

theorem not_indicated_requested : ¬ Indicated slotsNum slotId (trace ++ [requested slotId]) := by
  rw [indicated_snoc]
  rintro (hs | ⟨hne, _⟩)
  · exact hs
  · exact hne rfl

theorem indicated_activated : Indicated slotsNum slotId (trace ++ [.activated slotId]) ↔
    Indicated slotsNum slotId trace ∧ LastIndicates slotsNum slotId trace := by
  rw [indicated_snoc]
  exact ⟨fun hs => hs.elim False.elim fun hs => ⟨hs.2.1, hs.2.2 rfl⟩,
    fun hs => .inr ⟨by rintro ⟨⟩, hs.1, fun _ => hs.2⟩⟩

end History

-- What a slot keeps of the DATA_INDICATORs of its module: `indicated` is what the frame at work has brought, and
-- `reply` tells that it is a TT_CTC_REPLY.
structure Remembers (slotsNum slotId : UInt8) (slot : ControllerSlot) (trace : List Obs) (indicated reply : Bool) : Prop where
  active : slot.status = .active → .activated slotId ∈ trace ∧
    (Indicated slotsNum slotId trace ↔ slot.receivePending = true ∨ indicated = true)
  creating : slot.status = .creatingTc → slot.receivePending = false ∧
    (reply = true → (indicated = true ↔ LastIndicates slotsNum slotId trace) ∧
      (LastIndicates slotsNum slotId trace → Indicated slotsNum slotId trace))

def SlotView.Attends (slotsNum slotId : UInt8) (v : SlotView) : Prop :=
  match v.stage with
  | .idle => (slotHistory slotsNum slotId v.trace).dataPending = false ∧ Remembers slotsNum slotId v.slot v.trace false false
  | .heard reply => Remembers slotsNum slotId v.slot v.trace (slotHistory slotsNum slotId v.trace).dataPending reply
  | .noted indicated reply => (slotHistory slotsNum slotId v.trace).dataPending = false ∧
      Remembers slotsNum slotId v.slot v.trace indicated reply
  | .lost _ => True
  | .gone _ => (slotHistory slotsNum slotId v.trace).dataPending = false

section Attend

variable {slotsNum slotId : UInt8} {v v' : SlotView} {slot slot' : ControllerSlot} {trace trace' delta : List Obs}
  {obs : Obs} {frame : Bytes} {stage : SlotStage} {indicated reply : Bool}

theorem remembers_rests (rests : slot.status.Rests) : Remembers slotsNum slotId slot trace indicated reply :=
  ⟨fun hactive => absurd hactive rests.2, fun hcreating => absurd hcreating rests.1⟩

structure Unheard (slotsNum slotId : UInt8) (trace trace' : List Obs) : Prop where
  pending : (slotHistory slotsNum slotId trace').dataPending = (slotHistory slotsNum slotId trace).dataPending
  latest : LastIndicates slotsNum slotId trace' ↔ LastIndicates slotsNum slotId trace
  indicated : Indicated slotsNum slotId trace' ↔ Indicated slotsNum slotId trace
  activated : .activated slotId ∈ trace → .activated slotId ∈ trace'

theorem Unheard.refl (trace : List Obs) : Unheard slotsNum slotId trace trace := ⟨rfl, Iff.rfl, Iff.rfl, id⟩

theorem Remembers.still (h : Remembers slotsNum slotId slot trace indicated reply) (hs : Unheard slotsNum slotId trace trace')
    (status : slot'.status = slot.status) (receive : slot'.receivePending = slot.receivePending) :
    Remembers slotsNum slotId slot' trace' indicated reply := by
  refine ⟨fun hactive => ?_, fun hcreating => ?_⟩
  · rw [hs.indicated, receive]
    exact (h.active (status ▸ hactive)).imp_left hs.activated
  · rw [hs.latest, hs.indicated, receive]
    exact h.creating (status ▸ hcreating)

theorem SlotView.Attends.still (h : SlotView.Attends slotsNum slotId ⟨slot, trace, stage⟩)
    (hs : Unheard slotsNum slotId trace trace') (status : slot'.status = slot.status)
    (receive : slot'.receivePending = slot.receivePending) : SlotView.Attends slotsNum slotId ⟨slot', trace', stage⟩ := by
  cases stage with
  | idle => exact ⟨hs.pending.trans h.1, h.2.still hs status receive⟩
  | heard reply =>
      rw [Attends, hs.pending]
      exact Remembers.still h hs status receive
  | noted indicated reply => exact ⟨hs.pending.trans h.1, h.2.still hs status receive⟩
  | lost reply => trivial
  | gone reply => exact hs.pending.trans h

theorem SlotView.Attends.sent (h : SlotView.Attends slotsNum slotId ⟨slot, trace, stage⟩) :
    SlotView.Attends slotsNum slotId ⟨slot, trace, stage.sent⟩ := by
  cases stage <;> exact h

theorem dataPending_onSlot (hheard : ¬ obs.Heard slotId) (hcleared : obs ≠ .cleared slotId) (htaken : obs ≠ .taken slotId)
    (slot : TransportSlot) : (obs.onSlot slotsNum slotId slot).dataPending = slot.dataPending := by
  cases obs with
  | queued other frame => rw [Obs.onSlot]; split <;> rfl
  | wrote other frame result callback => cases result <;> (rw [Obs.onSlot]; split <;> rfl)
  | read frame => rw [Obs.onSlot, if_neg (show ¬ frame.head? = some slotId from hheard)]
  | cleared other => rw [Obs.onSlot, if_neg fun heq => hcleared (congrArg Obs.cleared heq)]
  | taken other => rw [Obs.onSlot, if_neg fun heq => htaken (congrArg Obs.taken heq)]
  | _ => rfl

theorem dataPending_queued (frame : Bytes) : (slotHistory slotsNum slotId (trace ++ [.queued slotId frame])).dataPending =
    (slotHistory slotsNum slotId trace).dataPending := by
  rw [slotHistory_snoc, Obs.onSlot, if_pos rfl]

theorem unheard_snoc (hheard : ¬ obs.Heard slotId) (hcleared : obs ≠ .cleared slotId) (htaken : obs ≠ .taken slotId)
    (hne : obs ≠ requested slotId) (hold : obs ≠ .activated slotId) : Unheard slotsNum slotId trace (trace ++ [obs]) where
  pending := by
    rw [slotHistory_snoc]
    exact dataPending_onSlot hheard hcleared htaken _
  latest := lastIndicates_still hheard
  indicated := indicated_still hheard hne hold
  activated := List.mem_append_left _

theorem Unheard.trans {trace'' : List Obs} (h : Unheard slotsNum slotId trace trace')
    (h' : Unheard slotsNum slotId trace' trace'') : Unheard slotsNum slotId trace trace'' :=
  ⟨h'.pending.trans h.pending, h'.latest.trans h.latest, h'.indicated.trans h.indicated, h'.activated ∘ h.activated⟩

theorem unheard_apart (apart : ∀ obs ∈ delta, obs.Apart slotId) : Unheard slotsNum slotId trace (trace ++ delta) := by
  induction delta using List.reverseRecOn with
  | nil => exact (List.append_nil trace).symm ▸ .refl trace
  | append_singleton delta obs ih =>
      have hapart := apart obs (by simp)
      rw [← List.append_assoc]
      refine (ih fun other hmem => apart other (List.mem_append_left _ hmem)).trans
        (unheard_snoc (not_heard_of_apart hapart) ?_ ?_ ?_ ?_)
      · rintro rfl
        exact hapart rfl
      · rintro rfl
        exact hapart rfl
      · rintro rfl
        exact (hapart rfl).2 rfl
      · rintro rfl
        exact hapart rfl

theorem unheard_wrote (frame : Bytes) (result : Except Error Unit) (callback : Bool) :
    Unheard slotsNum slotId trace (trace ++ [.wrote slotId frame result callback]) :=
  unheard_snoc id (by rintro ⟨⟩) (by rintro ⟨⟩) (by rintro ⟨⟩) (by rintro ⟨⟩)

theorem dataPending_read (head : frame.head? = some slotId)
    (h : (slotHistory slotsNum slotId trace).dataPending = false) :
    (slotHistory slotsNum slotId (trace ++ [.read frame])).dataPending = Tpdu.indicates slotsNum frame := by
  rw [slotHistory_snoc, Obs.onSlot, if_pos head, TransportSlot.afterRead, Tpdu.indicates]
  cases Tpdu.parse frame slotsNum with
  | ok parsed => exact dataPending_receive parsed _
  | err e => exact h
  | panic => exact h

theorem Remembers.read (h : Remembers slotsNum slotId slot trace false false) (head : frame.head? = some slotId) :
    Remembers slotsNum slotId slot (trace ++ [.read frame]) (Tpdu.indicates slotsNum frame) reply := by
  refine ⟨fun hactive => ?_, fun hcreating => ?_⟩
  · obtain ⟨hmem, hindicated⟩ := h.active hactive
    refine ⟨List.mem_append_left _ hmem, ?_⟩
    rw [indicated_read head, hindicated]
    simp
  · rw [lastIndicates_read head, indicated_read head]
    exact ⟨(h.creating hcreating).1, fun _ => ⟨Iff.rfl, .inr⟩⟩

theorem ControllerSlot.marked_receivePending (now : Instant) (transport : TransportSlot) (slot : ControllerSlot) :
    (slot.marked now transport).receivePending = slot.receivePending := by
  unfold marked
  split
  · rfl
  · split
    · rfl
    · split <;> rfl

theorem SlotView.Attends.step (h : v.Attends slotsNum slotId) (hstep : SlotStep slotsNum slotId v v') :
    v'.Attends slotsNum slotId := by
  cases hstep with
  | aside apart still => exact h.still (unheard_apart apart) rfl rfl
  | talked apart status => exact h.still (unheard_apart apart) rfl rfl
  | edited status create command receive => exact h.still (.refl _) status receive
  | @turned slot slot' trace stage old new create command =>
      cases stage with
      | idle => exact ⟨h.1, remembers_rests new⟩
      | heard reply => exact remembers_rests new
      | noted indicated reply => exact ⟨h.1, remembers_rests new⟩
      | lost reply => trivial
      | gone reply => exact h
  | @read slot trace stage frame head quiet =>
      rcases quiet with rfl | ⟨rests, _⟩
      · rw [Attends, dataPending_read head h.1]
        exact h.2.read head
      · exact remembers_rests rests
  | wrote kept => exact (h.still (unheard_wrote _ _ _) rfl rfl).sent
  | lost status kept => trivial
  | @taken slot trace reply =>
      have hlast : (slotHistory slotsNum slotId (trace ++ [.taken slotId])).dataPending = false := by
        rw [slotHistory_snoc, Obs.onSlot, if_pos rfl]
      have hindicated : Indicated slotsNum slotId (trace ++ [.taken slotId]) ↔ Indicated slotsNum slotId trace :=
        indicated_still id (by rintro ⟨⟩) (by rintro ⟨⟩)
      have hlast' : LastIndicates slotsNum slotId (trace ++ [.taken slotId]) ↔ LastIndicates slotsNum slotId trace :=
        lastIndicates_still id
      refine ⟨hlast, fun hactive => ?_, fun hcreating => ?_⟩
      · rw [hindicated]
        exact (h.active hactive).imp_left (List.mem_append_left _)
      · rw [hlast', hindicated]
        exact h.creating hcreating
  | @activated slot trace indicated status =>
      obtain ⟨hreceive, hreply⟩ := h.2.creating status
      obtain ⟨hlatest, hindicated⟩ := hreply rfl
      refine ⟨?_, fun _ => ⟨by simp, ?_⟩, fun hcreating => ?_⟩
      · rw [slotHistory_snoc]
        exact h.1
      · rw [indicated_activated, hlatest, show slot.activated.receivePending = false from hreceive]
        exact ⟨fun hs => .inr hs.2, fun hs => hs.elim (by rintro ⟨⟩) fun hs => ⟨hindicated hs, hs⟩⟩
      · cases hcreating
  | @indicated slot trace indicated reply status =>
      refine ⟨h.1, fun hactive => ?_, fun hcreating => ?_⟩
      · obtain ⟨hmem, hindicated⟩ := h.2.active status
        refine ⟨hmem, hindicated.trans ?_⟩
        simp
      · exact absurd (status.symm.trans hcreating) (by decide)
  | @marked slot trace stage now status settled =>
      have hnot : slot.status ≠ .active := status ▸ by decide
      have hquiet : (slotHistory slotsNum slotId trace).dataPending = false ∧ slot.receivePending = false := by
        rcases settled with rfl | ⟨_, _, rfl⟩
        · exact ⟨h.1, (h.2.creating status).1⟩
        · exact ⟨h.1, (h.2.creating status).1⟩
      refine ⟨hquiet.1, fun hactive => absurd ((slot.marked_status now _).symm.trans hactive) hnot,
        fun _ => ⟨?_, by rintro ⟨⟩⟩⟩
      rw [ControllerSlot.marked_receivePending]
      exact hquiet.2
  | settled rests => exact ⟨h.1, remembers_rests rests⟩
  | @received slot trace status receive idle =>
      refine ⟨?_, fun hactive => ⟨?_, ?_⟩, fun hcreating => ?_⟩
      · rw [dataPending_queued]
        exact h.1
      · exact List.mem_append_left _ (h.2.active status).1
      · exact iff_of_false not_indicated_requested (by simp)
      · exact absurd (status.symm.trans hcreating) (by decide)
  | @created slot trace status idle =>
      refine ⟨?_, by rintro ⟨⟩, fun _ => ⟨rfl, by rintro ⟨⟩⟩⟩
      rw [dataPending_queued]
      exact h.1
  | abandoned rests create command => exact remembers_rests rests
  | cleared status =>
      rw [Attends, slotHistory_snoc, Obs.onSlot, if_pos rfl]
  | wrecked apart status => exact (unheard_apart apart).pending.trans h
  | reactivated status =>
      rw [Attends, slotHistory_snoc]
      exact h
  | rested rests create command => exact ⟨h, remembers_rests rests⟩

theorem SlotView.attends_origin : SlotView.origin.Attends slotsNum slotId := ⟨rfl, by rintro ⟨⟩, by rintro ⟨⟩⟩

theorem SlotView.Attends.path (h : v.Attends slotsNum slotId) (hpath : ReflTransGen (SlotStep slotsNum slotId) v v') :
    v'.Attends slotsNum slotId := Path.invariant hpath h fun _ _ => SlotView.Attends.step

-- A T_RCV is queued for an active slot that has nothing else to send and owes one.
def Obs.Fetches (slotsNum slotId : UInt8) (trace : List Obs) (obs : Obs) : Prop :=
  obs = requested slotId → (slotHistory slotsNum slotId trace).Idle ∧ .activated slotId ∈ trace ∧
    Indicated slotsNum slotId trace

theorem grows_apart (apart : ∀ obs ∈ delta, obs.Apart slotId) :
    Grows (Obs.Fetches slotsNum slotId) trace (trace ++ delta) := by
  refine grows_append fun obs hmem _ => ?_
  rintro rfl
  exact absurd rfl (apart _ hmem rfl).2

theorem grows_one (h : obs ≠ requested slotId) : Grows (Obs.Fetches slotsNum slotId) trace (trace ++ [obs]) :=
  .note fun heq => absurd heq h

theorem SlotView.Attends.fetches (h : v.Attends slotsNum slotId) (hstep : SlotStep slotsNum slotId v v') :
    Grows (Obs.Fetches slotsNum slotId) v.trace v'.trace := by
  cases hstep with
  | aside apart still => exact grows_apart apart
  | talked apart status => exact grows_apart apart
  | read head quiet => exact grows_one (by rintro ⟨⟩)
  | wrote kept => exact grows_one (by rintro ⟨⟩)
  | lost status kept => exact grows_one (by rintro ⟨⟩)
  | taken => exact grows_one (by rintro ⟨⟩)
  | activated status => exact grows_one (by rintro ⟨⟩)
  | received status receive idle =>
      obtain ⟨hmem, hindicated⟩ := h.2.active status
      exact .note fun _ => ⟨idle, hmem, hindicated.mpr (.inl receive)⟩
  | created status idle =>
      refine grows_one fun heq => ?_
      exact Tpdu.createFrame_ne_receiveFrame slotId slotId (Obs.queued.inj heq).2
  | cleared status => exact grows_one (by rintro ⟨⟩)
  | wrecked apart status => exact grows_apart apart
  | reactivated status => exact grows_one (by rintro ⟨⟩)
  | _ => exact .refl

theorem SlotView.Attends.fetched (h : v.Attends slotsNum slotId) (hpath : ReflTransGen (SlotStep slotsNum slotId) v v') :
    Grows (Obs.Fetches slotsNum slotId) v.trace v'.trace := by
  induction hpath with
  | refl => exact .refl
  | tail hpath hstep ih => exact ih.trans ((h.path hpath).fetches hstep)

end Attend

namespace CiController

variable {c : CiController} {slotId : UInt8} {slot : ControllerSlot} {transport : TransportSlot} {now : Instant}

theorem flushReceivePending_rests (known : c.slots[slotId.toNat]? = some slot)
    (hslot : c.session.transport.slots[slotId.toNat]? = some transport)
    (h : ¬ (slot.status = .active ∧ slot.receivePending = true ∧ transport.Idle)) :
    flushReceivePending slotId now c = (.ok (), c) := by
  have hwp : wp (flushReceivePending slotId now) (fun _ c' => c' = c) (fun _ _ => False) c := by
    rw [flushReceivePending, wp_bind, wp_slotAt_known known, wp_bind, wp_get]
    refine if_pos ?_ ▸ wp_pure.mpr rfl
    by_contra hnone
    simp only [not_or, not_not, Bool.not_eq_true', Bool.not_eq_false] at hnone
    obtain ⟨hactive, hreceive, hbusy, hqueue⟩ := hnone
    refine h ⟨hactive, hreceive, ?_, ?_⟩
    · simpa [CiTransport.isBusy, hslot] using hbusy
    · simpa [CiTransport.queueLen, hslot] using hqueue
  exact run_of_wp (wp_mono hwp (fun _ _ hs => ⟨rfl, hs⟩) fun _ _ hf => hf)

end CiController

section Run

open CiController

variable {start c : CiController} {labels : List ControllerLabel} {slotId : UInt8}

theorem receive_follows_indicator (h : ControllerRun start labels c) (hlt : slotId.toNat < c.slots.length) :
    (∀ slot, c.slots[slotId.toNat]? = some slot → slot.status = .active → .activated slotId ∈ c.trace ∧
      (slot.receivePending = true ↔ Indicated (UInt8.ofNat c.slots.length) slotId c.trace)) ∧
    (∀ before after, c.trace = before ++ requested slotId :: after →
      (slotHistory (UInt8.ofNat c.slots.length) slotId before).Idle ∧ .activated slotId ∈ before ∧
        Indicated (UInt8.ofNat c.slots.length) slotId before) ∧
    (∀ before between after, c.trace = before ++ requested slotId :: (between ++ requested slotId :: after) →
      ∃ obs ∈ between, obs.Indicates (UInt8.ofNat c.slots.length) slotId) ∧
    ∀ slot transport now, c.slots[slotId.toNat]? = some slot →
      c.session.transport.slots[slotId.toNat]? = some transport →
        ¬ (slot.status = .active ∧ slot.receivePending = true ∧ transport.Idle) →
          flushReceivePending slotId now c = (.ok (), c) := by
  obtain ⟨slot, stage, hat, hpath, hpaused⟩ := h.resides hlt
  have hattends := SlotView.attends_origin.path hpath
  have hrequests : ∀ before after, c.trace = before ++ requested slotId :: after →
      (slotHistory (UInt8.ofNat c.slots.length) slotId before).Idle ∧ .activated slotId ∈ before ∧
        Indicated (UInt8.ofNat c.slots.length) slotId before := by
    intro before after htrace
    exact (SlotView.attends_origin.fetched hpath).entry (List.nil_append c.trace).symm before _ after htrace rfl
  refine ⟨fun other known hactive => ?_, hrequests, fun before between after htrace => ?_,
    fun other transport now known hslot hrests => flushReceivePending_rests known hslot hrests⟩
  · obtain rfl : slot = other := Option.some.inj (hat.known.symm.trans known)
    obtain rfl : stage = .idle := hpaused.resolve_right fun hs => hs.2.1.2 hactive
    obtain ⟨hmem, hindicated⟩ := hattends.2.active hactive
    exact ⟨hmem, by rw [hindicated]; simp⟩
  · have hsecond := hrequests (before ++ requested slotId :: between) after (by rw [htrace]; simp)
    obtain ⟨_, _, early, obs, late, hsplit, hindicates, hsince, _⟩ := hsecond
    rcases split_order hsplit with ⟨rfl, _⟩ | hsuffix | hmem
    · exact hindicates.elim
    · exact ⟨obs, hsuffix.subset List.mem_cons_self, hindicates⟩
    · exact absurd hmem hsince

-- The TT_CTC_REPLY that activates the slot has DATA_INDICATOR set, and so has the answer to the T_RCV.
def indicatedTwice : List (CaDevice × ControllerOp) :=
  [(moduleReady, .tick 0), ({}, .pollEvent), ({}, .pollEvent), frameRead [0, 1, 0x83, 1, 1, 0x80, 2, 1, 0x80],
    ({}, .pollEvent), frameRead [0, 1, 0xA0, 1, 1, 0x80, 2, 1, 0x80]]

theorem indicatedTwice_isSome : (trail ControllerOp.next oneSlot indicatedTwice).isSome := by decide +kernel

def afterIndicatedTwice : List ControllerLabel × CiController :=
  (trail ControllerOp.next oneSlot indicatedTwice).get indicatedTwice_isSome

theorem indicatedTwice_slots : (0 : UInt8).toNat < afterIndicatedTwice.2.slots.length := by decide +kernel

theorem receive_follows_indicator_twice :
    (∀ slot, afterIndicatedTwice.2.slots[(0 : UInt8).toNat]? = some slot → slot.status = .active →
      .activated 0 ∈ afterIndicatedTwice.2.trace ∧ (slot.receivePending = true ↔
        Indicated (UInt8.ofNat afterIndicatedTwice.2.slots.length) 0 afterIndicatedTwice.2.trace)) ∧
    (∀ before after, afterIndicatedTwice.2.trace = before ++ requested 0 :: after →
      (slotHistory (UInt8.ofNat afterIndicatedTwice.2.slots.length) 0 before).Idle ∧ .activated 0 ∈ before ∧
        Indicated (UInt8.ofNat afterIndicatedTwice.2.slots.length) 0 before) ∧
    (∀ before between after,
      afterIndicatedTwice.2.trace = before ++ requested 0 :: (between ++ requested 0 :: after) →
        ∃ obs ∈ between, obs.Indicates (UInt8.ofNat afterIndicatedTwice.2.slots.length) 0) ∧
    ∀ slot transport now, afterIndicatedTwice.2.slots[(0 : UInt8).toNat]? = some slot →
      afterIndicatedTwice.2.session.transport.slots[(0 : UInt8).toNat]? = some transport →
        ¬ (slot.status = .active ∧ slot.receivePending = true ∧ transport.Idle) →
          flushReceivePending 0 now afterIndicatedTwice.2 = (.ok (), afterIndicatedTwice.2) :=
  receive_follows_indicator (oneSlot_run indicatedTwice_isSome) indicatedTwice_slots

end Run

end LibDvb
