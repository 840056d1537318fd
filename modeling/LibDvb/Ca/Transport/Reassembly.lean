import LibDvb.Ca.Transport.Run

namespace LibDvb

def frameTag (frame : Bytes) : Option TpduTag := frame[2]?.map TpduTag.mk

-- The fragments of a slot that no TT_DATA_LAST has closed yet, and whether one of them was lost.
structure Chain where
  fragments : List Bytes := []
  dropped : Bool := false
  deriving DecidableEq, Repr

def Chain.add (slotsNum : UInt8) (frame : Bytes) (chain : Chain) : Chain :=
  match Tpdu.parse frame slotsNum with
  | .ok parsed =>
      if chain.fragments.flatten.length + parsed.body.length > Tpdu.maxTpduSize then
        { chain with dropped := true }
      else
        { chain with fragments := chain.fragments ++ [parsed.body] }
  | _ => { chain with dropped := true }

def chainStep (slotsNum slotId : UInt8) (chain : Chain) : Obs → Chain
  | .read frame =>
      if frame.head? = some slotId then
        if frameTag frame = some .dataMore then chain.add slotsNum frame
        else if frameTag frame = some .dataLast then {}
        else chain
      else
        chain
  | .cleared other => if other = slotId then {} else chain
  | _ => chain

def openChain (slotsNum slotId : UInt8) (trace : List Obs) : Chain :=
  trace.foldl (chainStep slotsNum slotId) {}

def Reassembled (slotsNum slotId : UInt8) (before after : List Obs) (spdu : Bytes) : Prop :=
  ∃ frame parsed, after = before ++ [.read frame] ∧ frame.head? = some slotId ∧
    Tpdu.parse frame slotsNum = .ok parsed ∧ parsed.tag = .dataLast ∧
    (openChain slotsNum slotId before).dropped = false ∧
    spdu = (openChain slotsNum slotId before).fragments.flatten ++ parsed.body

def Undamaged (slotsNum : UInt8) (slot : TransportSlot) (frame : Bytes) : Prop :=
  match Tpdu.parse frame slotsNum with
  | .ok parsed => parsed.tag = .dataMore →
      slot.rxBuffer.length + parsed.body.length ≤ Tpdu.maxTpduSize
  | _ => frameTag frame ≠ some .dataMore ∧ (frameTag frame = some .dataLast → slot.rxBuffer = [])

instance (slotsNum : UInt8) (slot : TransportSlot) (frame : Bytes) :
    Decidable (Undamaged slotsNum slot frame) :=
  match h : Tpdu.parse frame slotsNum with
  | .ok _ => decidable_of_iff _ (by simp only [Undamaged, h]; exact Iff.rfl)
  | .err _ => decidable_of_iff _ (by simp only [Undamaged, h]; exact Iff.rfl)
  | .panic => decidable_of_iff _ (by simp only [Undamaged, h]; exact Iff.rfl)

def readFrame : Obs → Option Bytes
  | .read frame => some frame
  | _ => none

def UndamagedReads (slotsNum slotId : UInt8) (trace : List Obs) : Prop :=
  ∀ before frame after, trace = before ++ .read frame :: after → frame.head? = some slotId →
    Undamaged slotsNum (slotHistory slotsNum slotId before) frame

section Chain

variable {slotsNum slotId : UInt8} {trace : List Obs} {obs : Obs} {frame : Bytes}

@[simp] theorem openChain_snoc : openChain slotsNum slotId (trace ++ [obs]) =
    chainStep slotsNum slotId (openChain slotsNum slotId trace) obs := by
  simp [openChain]

theorem UndamagedReads.of_snoc (h : UndamagedReads slotsNum slotId (trace ++ [obs])) :
    UndamagedReads slotsNum slotId trace :=
  fun before frame after heq => h before frame (after ++ [obs])
    (by rw [heq, List.append_assoc, List.cons_append])

theorem undamagedReads_of_all
    (h : ∀ k : Fin trace.length, ∀ frame ∈ readFrame (trace.get k), frame.head? = some slotId →
      Undamaged slotsNum (slotHistory slotsNum slotId (trace.take k)) frame) :
    UndamagedReads slotsNum slotId trace := by
  rintro before frame after rfl hhead
  have hk : before.length < (before ++ .read frame :: after).length := by simp
  simpa using h ⟨before.length, hk⟩ frame (by simp [readFrame]) hhead

theorem frameTag_parse {parsed : Tpdu.RTpdu} (h : Tpdu.parse frame slotsNum = .ok parsed) :
    frameTag frame = some parsed.tag := by
  have hsat := Tpdu.parse_sat frame slotsNum
  rw [h] at hsat
  obtain ⟨_, _, htag, _⟩ := hsat
  rw [frameTag, htag, Option.map_some]

theorem rxBuffer_more {parsed : Tpdu.RTpdu} {slot : TransportSlot} (htag : parsed.tag = .dataMore)
    (hfit : slot.rxBuffer.length + parsed.body.length ≤ Tpdu.maxTpduSize) :
    (slot.receive parsed).2.rxBuffer = slot.rxBuffer ++ parsed.body := by
  simp [TransportSlot.receive, htag, Nat.not_lt.mpr hfit, TpduTag.dataMore, TpduTag.ctcReply]

theorem rxBuffer_last {parsed : Tpdu.RTpdu} {slot : TransportSlot} (htag : parsed.tag = .dataLast) :
    (slot.receive parsed).2.rxBuffer = [] := by
  have hreply : TpduTag.dataLast ≠ .ctcReply := by decide
  have hmore : TpduTag.dataLast ≠ .dataMore := by decide
  simp only [TransportSlot.receive, htag, if_neg hreply, or_true, if_true, hmore, false_or]
  split
  · rfl
  · split
    · next hempty => exact hempty
    · rfl

theorem rxBuffer_other {parsed : Tpdu.RTpdu} {slot : TransportSlot} (hmore : parsed.tag ≠ .dataMore)
    (hlast : parsed.tag ≠ .dataLast) : (slot.receive parsed).2.rxBuffer = slot.rxBuffer := by
  simp only [TransportSlot.receive, hmore, hlast, or_self, if_false]
  split
  · rfl
  · split <;> rfl

theorem spdu_receive {parsed : Tpdu.RTpdu} {slot : TransportSlot} {spdu : Bytes}
    (h : (slot.receive parsed).1 = .spdu slotId spdu) :
    parsed.tag = .dataLast ∧ spdu = slot.rxBuffer ++ parsed.body := by
  unfold TransportSlot.receive at h
  dsimp only at h
  split at h
  · cases h
  split at h
  · next hdata =>
      split at h
      · cases h
      split at h
      · cases h
      · next hclose =>
          simp only [TransportRecv.spdu.injEq] at h
          obtain ⟨hmore, _⟩ := not_or.mp hclose
          exact ⟨hdata.resolve_left hmore, h.2.symm⟩
  split at h
  · cases h
  · cases h

theorem buffer_read (slot : TransportSlot) (chain : Chain) (hdropped : chain.dropped = false)
    (hbuffer : slot.rxBuffer = chain.fragments.flatten) (hhead : frame.head? = some slotId)
    (h : Undamaged slotsNum slot frame) :
    (chainStep slotsNum slotId chain (.read frame)).dropped = false ∧
      (slot.afterRead slotsNum frame).rxBuffer =
        (chainStep slotsNum slotId chain (.read frame)).fragments.flatten := by
  simp only [chainStep, if_pos hhead, TransportSlot.afterRead]
  cases hparse : Tpdu.parse frame slotsNum with
  | ok parsed =>
      simp only [Undamaged, hparse] at h
      simp only [frameTag_parse hparse, Option.some.injEq]
      by_cases hmore : parsed.tag = .dataMore
      · have hfit := h hmore
        simp only [if_pos hmore, Chain.add, hparse, ← hbuffer, if_neg (Nat.not_lt.mpr hfit)]
        refine ⟨hdropped, ?_⟩
        rw [List.flatten_concat, ← hbuffer]
        exact rxBuffer_more hmore hfit
      · rw [if_neg hmore]
        by_cases hlast : parsed.tag = .dataLast
        · rw [if_pos hlast]
          exact ⟨rfl, rxBuffer_last hlast⟩
        · rw [if_neg hlast]
          exact ⟨hdropped, (rxBuffer_other hmore hlast).trans hbuffer⟩
  | _ =>
      simp only [Undamaged, hparse] at h
      obtain ⟨hmore, hlast⟩ := h
      rw [if_neg hmore]
      split
      · next htag => exact ⟨rfl, hlast htag⟩
      · exact ⟨hdropped, hbuffer⟩

theorem buffer_onSlot (slot : TransportSlot) (chain : Chain) (hdropped : chain.dropped = false)
    (hbuffer : slot.rxBuffer = chain.fragments.flatten)
    (h : ∀ frame, obs = .read frame → frame.head? = some slotId → Undamaged slotsNum slot frame) :
    (chainStep slotsNum slotId chain obs).dropped = false ∧
      (obs.onSlot slotsNum slotId slot).rxBuffer =
        (chainStep slotsNum slotId chain obs).fragments.flatten := by
  cases obs with
  | read frame =>
      by_cases hhead : frame.head? = some slotId
      · rw [Obs.onSlot, if_pos hhead]
        exact buffer_read slot chain hdropped hbuffer hhead (h frame rfl hhead)
      · simp only [chainStep, Obs.onSlot, if_neg hhead]
        exact ⟨hdropped, hbuffer⟩
  | cleared other =>
      simp only [chainStep, Obs.onSlot]
      split
      · exact ⟨rfl, rfl⟩
      · exact ⟨hdropped, hbuffer⟩
  | wrote other frame result callback =>
      cases result <;> simp only [chainStep, Obs.onSlot] <;> split <;> exact ⟨hdropped, hbuffer⟩
  | _ =>
      simp only [chainStep, Obs.onSlot]
      first
        | exact ⟨hdropped, hbuffer⟩
        | (split <;> exact ⟨hdropped, hbuffer⟩)

theorem buffer_openChain (h : UndamagedReads slotsNum slotId trace) :
    (openChain slotsNum slotId trace).dropped = false ∧
      (slotHistory slotsNum slotId trace).rxBuffer =
        (openChain slotsNum slotId trace).fragments.flatten := by
  induction trace using List.reverseRecOn with
  | nil => exact ⟨rfl, rfl⟩
  | append_singleton trace obs ih =>
      obtain ⟨hdropped, hbuffer⟩ := ih h.of_snoc
      rw [openChain_snoc, slotHistory_snoc]
      refine buffer_onSlot _ _ hdropped hbuffer fun frame hobs hhead => ?_
      exact h trace frame [] (by rw [hobs]) hhead

end Chain

open Act CiTransport

variable {slotsNum slotId : UInt8} {labels : List TransportLabel} {t t' : CiTransport}
  {label : TransportLabel} {spdu : Bytes}

theorem recvApdu_step (hn : t.slots.length ≤ 255) (hstep : TransportStep t label t')
    (hop : label.op = .recvApdu) (hreply : label.reply = .ok (some (.spdu slotId spdu))) :
    ∃ frame, t'.trace = t.trace ++ [.read frame] ∧ frame.head? = some slotId ∧
      slotId.toNat < t.slots.length ∧ received frame t.slots = some (.spdu slotId spdu) := by
  have hspec := recvApdu_spec (t := { t with link := label.link }) hn
  rw [TransportStep, hop, hreply] at hstep
  rcases wp_ok hspec hstep with ⟨hnone, _⟩ | ⟨frame, recv, _, hmove, hrecv, hreceived, hhead, hlt⟩
  · cases hnone
  · obtain rfl := Option.some.inj hrecv
    exact ⟨frame, hmove.trace, hhead, hlt, hreceived⟩

theorem received_spdu {frame : Bytes} {slots : List TransportSlot} {slot : TransportSlot}
    (hslot : slots[slotId.toNat]? = some slot) (hhead : frame.head? = some slotId)
    (h : received frame slots = some (.spdu slotId spdu)) :
    ∃ parsed, Tpdu.parse frame (UInt8.ofNat slots.length) = .ok parsed ∧
      parsed.tag = .dataLast ∧ spdu = slot.rxBuffer ++ parsed.body := by
  unfold received at h
  dsimp only at h
  split at h
  · next parsed hparse =>
      obtain rfl : parsed.slotId = slotId := by
        have := (parse_slot hparse).1
        rw [hhead, Option.some.injEq] at this
        exact this.symm
      rw [hslot, Option.map_some, Option.some.injEq] at h
      exact ⟨parsed, hparse, spdu_receive h⟩
  · cases hframe : Tpdu.frameSlotId frame (UInt8.ofNat slots.length) <;> simp [hframe] at h
  · cases h

theorem spdu_reassembled (hrun : TransportRun slotsNum labels t)
    (hstep : TransportStep t label t') (hop : label.op = .recvApdu)
    (hreply : label.reply = .ok (some (.spdu slotId spdu)))
    (hreads : UndamagedReads slotsNum slotId t'.trace) :
    Reassembled slotsNum slotId t.trace t'.trace spdu := by
  obtain ⟨hfaithful, hcount⟩ := hrun.faithful
  obtain ⟨frame, htrace, hhead, hlt, hreceived⟩ :=
    recvApdu_step hfaithful.count hstep hop hreply
  have hnum : UInt8.ofNat t.slots.length = slotsNum := by rw [hcount, UInt8.ofNat_toNat]
  have hslot : t.slots[slotId.toNat]? = some (slotHistory slotsNum slotId t.trace) := by
    rw [← hnum, hfaithful.slots, getElem?_replay (by simpa using hlt), length_replay]
  obtain ⟨parsed, hparse, htag, hspdu⟩ := received_spdu hslot hhead hreceived
  rw [htrace] at hreads
  obtain ⟨hdropped, hbuffer⟩ := buffer_openChain hreads.of_snoc
  rw [hnum] at hparse
  exact ⟨frame, parsed, htrace, hhead, hparse, htag, hdropped, by rw [hspdu, hbuffer]⟩

def firstFragments (length : UInt8) : List (CaDevice × TransportOp) :=
  [({ reads := [.frame [0, 1, 0xA1, 2, 1, 0xAA, 0x80, 2, 1, 0]] }, .recvApdu),
    ({ reads := [.frame [0, 1, 0xA1, length, 1, 0xBB, 0x80, 2, 1, 0]] }, .recvApdu)]

def lastFragment : CaDevice :=
  { reads := [.frame [0, 1, 0xA0, 2, 1, 0xCC, 0x80, 2, 1, 0]] }

theorem spdu_reassembled_fragments :
    ∃ labels t t', TransportRun 1 labels t ∧
      TransportStep t ⟨lastFragment, .recvApdu, .ok (some (.spdu 0 [0xAA, 0xBB, 0xCC]))⟩ t' ∧
      Reassembled 1 0 t.trace t'.trace [0xAA, 0xBB, 0xCC] := by
  have hrun := @TransportRun.of_trail 1 (firstFragments 2) rfl
  have hstep := @TransportStep.of_reply ((TransportOp.trail 1 (firstFragments 2)).get rfl).2
    lastFragment .recvApdu (.ok (some (.spdu 0 [0xAA, 0xBB, 0xCC]))) (by decide +kernel)
  refine ⟨_, _, _, hrun, hstep, spdu_reassembled hrun hstep rfl rfl ?_⟩
  exact undamagedReads_of_all (by decide +kernel)

theorem spdu_without_fragment :
    ¬ ∀ (slotsNum slotId : UInt8) (labels : List TransportLabel) (t t' : CiTransport)
        (label : TransportLabel) (spdu : Bytes), TransportRun slotsNum labels t →
      TransportStep t label t' → label.op = .recvApdu →
      label.reply = .ok (some (.spdu slotId spdu)) →
      Reassembled slotsNum slotId t.trace t'.trace spdu := by
  intro h
  have hrun := @TransportRun.of_trail 1 (firstFragments 9) rfl
  have hstep := @TransportStep.of_reply ((TransportOp.trail 1 (firstFragments 9)).get rfl).2
    lastFragment .recvApdu (.ok (some (.spdu 0 [0xAA, 0xCC]))) (by decide +kernel)
  obtain ⟨_, _, _, _, _, _, hdropped, _⟩ := h 1 0 _ _ _ _ _ hrun hstep rfl rfl
  exact absurd hdropped (by decide +kernel)

end LibDvb
