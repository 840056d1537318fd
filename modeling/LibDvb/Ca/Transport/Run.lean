import LibDvb.Ca.Transport.Move

namespace LibDvb

open Relation

inductive TransportOp where
  | sendSpdu (slotId : UInt8) (spdu : Bytes)
  | sendApdu (slotId : UInt8) (sessionId : UInt16) (tag : ApduTag) (body : Bytes)
  | sendTpdu (slotId : UInt8) (tag : TpduTag) (data : Bytes)
  | flush (slotId : UInt8)
  | recvApdu
  | takeDataPending (slotId : UInt8)
  | clearSlot (slotId : UInt8)
  deriving DecidableEq

def TransportOp.run : TransportOp → Act Error CiTransport (Option TransportRecv)
  | sendSpdu slotId spdu => (fun _ => none) <$> CiTransport.sendSpdu slotId spdu
  | sendApdu slotId sessionId tag body =>
      (fun _ => none) <$> CiTransport.sendApdu slotId sessionId tag body
  | sendTpdu slotId tag data => (fun _ => none) <$> CiTransport.sendTpdu slotId tag data
  | flush slotId => (fun _ => none) <$> CiTransport.flush slotId
  | recvApdu => CiTransport.recvApdu
  | takeDataPending slotId => (fun _ => none) <$> CiTransport.takeDataPending slotId
  | clearSlot slotId => (fun _ => none) <$> CiTransport.clearSlot slotId

structure TransportLabel where
  link : CaDevice
  op : TransportOp
  reply : Except Error (Option TransportRecv)

def TransportStep (t : CiTransport) (label : TransportLabel) (t' : CiTransport) : Prop :=
  label.op.run { t with link := label.link } = (Outcome.ofExcept label.reply, t')

def TransportOp.next (t : CiTransport) (call : CaDevice × TransportOp) :
    Option (TransportLabel × CiTransport) :=
  match call.2.run { t with link := call.1 } with
  | (.ok reply, t') => some (⟨call.1, call.2, .ok reply⟩, t')
  | (.err e, t') => some (⟨call.1, call.2, .error e⟩, t')
  | (.panic, _) => none

theorem TransportOp.next_step {t t' : CiTransport} {call : CaDevice × TransportOp}
    {label : TransportLabel} (h : next t call = some (label, t')) : TransportStep t label t' := by
  unfold next at h
  split at h
  · next hrun =>
      cases h
      exact hrun
  · next hrun =>
      cases h
      exact hrun
  · cases h

def TransportRun (slotsNum : UInt8) (labels : List TransportLabel) (t : CiTransport) : Prop :=
  ∃ link, Run TransportStep (CiTransport.new link slotsNum) labels t

def TransportOp.trail (slotsNum : UInt8) (calls : List (CaDevice × TransportOp)) :
    Option (List TransportLabel × CiTransport) :=
  LibDvb.trail next (CiTransport.new {} slotsNum) calls

theorem TransportRun.of_trail {slotsNum : UInt8} {calls : List (CaDevice × TransportOp)}
    (h : (TransportOp.trail slotsNum calls).isSome) :
    TransportRun slotsNum ((TransportOp.trail slotsNum calls).get h).1
      ((TransportOp.trail slotsNum calls).get h).2 :=
  ⟨{}, trail_run TransportStep (fun _ _ _ _ => TransportOp.next_step) (Option.some_get h).symm⟩

theorem TransportStep.of_reply {t : CiTransport} {link : CaDevice} {op : TransportOp}
    {reply : Except Error (Option TransportRecv)}
    (h : (op.run { t with link }).1 = Outcome.ofExcept reply) :
    TransportStep t ⟨link, op, reply⟩ (op.run { t with link }).2 :=
  Prod.ext h rfl

namespace CiTransport

open Act Outcome

structure Faithful (t : CiTransport) : Prop where
  count : t.slots.length ≤ 255
  slots : t.slots = replay t.slots.length t.trace
  lawful : Lawful t.slots.length t.trace

variable {t t' : CiTransport} {P : List Obs → Obs → Prop} {slotId : UInt8}

theorem faithful_new (link : CaDevice) (slotsNum : UInt8) : (new link slotsNum).Faithful where
  count := by
    have := slotsNum.toNat_lt
    simp only [new, List.length_replicate]
    omega
  slots := by simp [new]
  lawful := lawful_nil _

theorem Faithful.move {obs : Obs} (h : t.Faithful) (hm : Move obs t t') : t'.Faithful where
  count := by
    rw [hm.length]
    exact h.count
  slots := by
    rw [hm.length, hm.trace, replay_snoc, hm.slots, ← h.slots]
  lawful := by
    rw [hm.length, hm.trace]
    refine h.lawful.snoc ?_
    rw [← h.slots]
    exact hm.allowed

theorem Faithful.path (h : t.Faithful) (hpath : ReflTransGen (Step P) t t') : t'.Faithful :=
  Path.invariant hpath h fun _ _ ha ⟨_, _, hm⟩ => ha.move hm

theorem wp_checkSlot_invalid {Q : Unit → CiTransport → Prop} {E : Error → CiTransport → Prop}
    (hs : ¬ slotId.toNat < t.slots.length) (h : ∀ e, E e t) : wp (checkSlot slotId) Q E t := by
  simp only [checkSlot, wp_bind, wp_get, if_neg hs, wp_fail]
  exact h _

theorem along_checkSlot {α : Type} {m : Act Error CiTransport α} {Q : α → CiTransport → Prop}
    {E : Error → CiTransport → Prop} (hE : ∀ e, E e t)
    (hm : slotId.toNat < t.slots.length → Along (Step P) m Q E t) :
    Along (Step P) (checkSlot slotId >>= fun _ => m) Q E t := by
  by_cases hs : slotId.toNat < t.slots.length
  · refine along_bind (Q := fun _ t' => t' = t) ((wp_checkSlot hs).mpr ⟨.refl, rfl⟩) ?_
    rintro _ _ _ rfl
    exact hm hs
  · exact wp_bind.mpr (wp_checkSlot_invalid hs fun e => ⟨.refl, hE e⟩)

end CiTransport

open Act Outcome CiTransport

-- The functions keep to the moves of the transport whatever their arguments are and whatever the
-- link answers, also after a write that failed.
section Any

variable {t : CiTransport} {slotId : UInt8}

def AnyStep : CiTransport → CiTransport → Prop := Step fun _ _ => True

theorem along_any {α : Type} {m : Act Error CiTransport α} {Q : α → CiTransport → Prop}
    {E : Error → CiTransport → Prop} (h : Along (Step (Sends False slotId)) m Q E t) :
    Along AnyStep m (fun _ _ => True) (fun _ _ => True) t :=
  along_mono (along_weaken h fun _ _ hs => hs.mono fun _ _ _ => trivial) (fun _ _ _ => trivial)
    fun _ _ _ => trivial

theorem along_of_move {α : Type} {m : Act Error CiTransport α} {obs : Obs}
    (h : wp m (fun _ t' => Move obs t t' ∧ t'.link = t.link) (fun _ _ => False) t) :
    Along AnyStep m (fun _ _ => True) (fun _ _ => True) t :=
  wp_mono h (fun _ _ h => ⟨.single ⟨obs, trivial, h.1⟩, trivial⟩) fun _ _ h => h.elim

theorem sendSpdu_along (spdu : Bytes) (hn : t.slots.length ≤ 255) :
    Along AnyStep (sendSpdu slotId spdu) (fun _ _ => True) (fun _ _ => True) t := by
  refine along_checkSlot (fun _ => trivial) fun hs => ?_
  exact along_any (sendFragments_spec hs hn False.elim _ _ (Nat.lt_succ_self _))

theorem sendApdu_along (sessionId : UInt16) (tag : ApduTag) (body : Bytes)
    (hn : t.slots.length ≤ 255) :
    Along AnyStep (sendApdu slotId sessionId tag body) (fun _ _ => True) (fun _ _ => True) t := by
  refine along_bind (Q := fun _ _ => True) (along_modify ?_ trivial) fun _ t' hpath _ => ?_
  · exact ⟨.apdu slotId sessionId tag body, trivial, move_note _ trivial rfl⟩
  · split
    · exact along_fail trivial
    · exact sendSpdu_along _ (by rwa [path_length hpath])

theorem sendTpdu_along (tag : TpduTag) (data : Bytes) :
    Along AnyStep (sendTpdu slotId tag data) (fun _ _ => True) (fun _ _ => True) t := by
  by_cases hs : slotId.toNat < t.slots.length
  · cases hbuild : Tpdu.build slotId tag data with
    | ok frame => exact along_any (sendTpdu_spec hs False.elim hbuild)
    | err e =>
        refine along_checkSlot (fun _ => trivial) fun _ => ?_
        rw [hbuild]
        exact wp_bind.mpr ⟨.refl, trivial⟩
    | panic => exact absurd hbuild (Tpdu.build_ne_panic slotId tag data)
  · exact along_checkSlot (fun _ => trivial) fun hs' => absurd hs' hs

theorem flush_along : Along AnyStep (flush slotId) (fun _ _ => True) (fun _ _ => True) t :=
  along_checkSlot (fun _ => trivial) fun hs => along_any
    (along_weaken (flushSlot_spec hs False.elim) fun _ _ => Step.mono fun _ _ => Writes.sends)

theorem recvApdu_along (hn : t.slots.length ≤ 255) :
    Along AnyStep recvApdu (fun _ _ => True) (fun _ _ => True) t := by
  refine wp_mono (recvApdu_spec hn) (fun _ _ h => ⟨?_, trivial⟩) (fun _ _ h => ⟨?_, trivial⟩)
  · rcases h with ⟨_, hmove⟩ | ⟨frame, _, _, hmove, _⟩
    · exact .single ⟨_, trivial, hmove⟩
    · exact .single ⟨_, trivial, hmove⟩
  · rcases h with ⟨hmove, _⟩ | ⟨frame, _, hmove, _⟩
    · exact .single ⟨_, trivial, hmove⟩
    · exact .single ⟨_, trivial, hmove⟩

theorem takeDataPending_along :
    Along AnyStep (takeDataPending slotId) (fun _ _ => True) (fun _ _ => True) t := by
  by_cases hs : slotId.toNat < t.slots.length
  · exact along_of_move (takeDataPending_spec hs)
  · have hnone : t.slots[slotId.toNat]? = none := List.getElem?_eq_none (Nat.not_lt.mp hs)
    refine along_get_bind ?_
    simp only [hnone]
    exact along_pure trivial

theorem clearSlot_along : Along AnyStep (clearSlot slotId) (fun _ _ => True) (fun _ _ => True) t := by
  by_cases hs : slotId.toNat < t.slots.length
  · exact along_of_move (clearSlot_spec hs)
  · have hnone : t.slots[slotId.toNat]? = none := List.getElem?_eq_none (Nat.not_lt.mp hs)
    refine along_get_bind ?_
    simp only [hnone]
    exact along_pure trivial

theorem TransportOp.along (op : TransportOp) (hn : t.slots.length ≤ 255) :
    Along AnyStep op.run (fun _ _ => True) (fun _ _ => True) t := by
  cases op with
  | sendSpdu slotId spdu => exact wp_map.mpr (sendSpdu_along spdu hn)
  | sendApdu slotId sessionId tag body => exact wp_map.mpr (sendApdu_along sessionId tag body hn)
  | sendTpdu slotId tag data => exact wp_map.mpr (sendTpdu_along tag data)
  | flush slotId => exact wp_map.mpr flush_along
  | recvApdu => exact recvApdu_along hn
  | takeDataPending slotId => exact wp_map.mpr takeDataPending_along
  | clearSlot slotId => exact wp_map.mpr clearSlot_along

end Any

theorem TransportStep.path {t t' : CiTransport} {label : TransportLabel}
    (hn : t.slots.length ≤ 255) (h : TransportStep t label t') :
    ReflTransGen AnyStep { t with link := label.link } t' := by
  have halong := label.op.along (t := { t with link := label.link }) hn
  rw [TransportStep] at h
  have hpath := wp_after (I := ReflTransGen AnyStep { t with link := label.link })
    (wp_mono halong (fun _ _ h => h.1) fun _ _ h => h.1)
  rwa [h] at hpath

theorem TransportRun.faithful {slotsNum : UInt8} {labels : List TransportLabel} {t : CiTransport}
    (h : TransportRun slotsNum labels t) : t.Faithful ∧ t.slots.length = slotsNum.toNat := by
  obtain ⟨link, hrun⟩ := h
  refine Run.invariant (I := fun t => t.Faithful ∧ t.slots.length = slotsNum.toNat) hrun
    ⟨faithful_new link slotsNum, List.length_replicate⟩ fun t label t' ht hstep => ?_
  obtain ⟨hfaithful, hlength⟩ := ht
  have hpath := hstep.path hfaithful.count
  have hrelinked : CiTransport.Faithful { t with link := label.link } :=
    ⟨hfaithful.count, hfaithful.slots, hfaithful.lawful⟩
  exact ⟨hrelinked.path hpath, (path_length hpath).trans hlength⟩

end LibDvb
