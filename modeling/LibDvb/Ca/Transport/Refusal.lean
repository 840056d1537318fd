import LibDvb.Ca.Transport.Attempt

namespace LibDvb

open Act Outcome

-- The error of the link if it refuses one of `n` frames for good. It is offered the first of them
-- again as long as it puts it off.
def CaDevice.refusal : Nat → List WriteResult → Option Error
  | 0, _ => none
  | _, [] => none
  | n + 1, result :: rest =>
      match result.outcome with
      | .ok () => none
      | .error e => if e.transient then refusal n rest else some e

namespace CiTransport

variable {t t' t'' t₁ : CiTransport} {slotId : UInt8} {n m : Nat} {e : Error}

-- The error of the link if the slot is given `n` more frames; a busy slot only queues them.
def refusal (t : CiTransport) (slotId : UInt8) (n : Nat) : Option Error :=
  if t.isBusy slotId then none else CaDevice.refusal n t.link.writes

structure Offered (slotId : UInt8) (n : Nat) (t t' : CiTransport) : Prop where
  accepted : t.refusal slotId n = none
  rest : ∀ m, t'.refusal slotId m = t.refusal slotId (n + m)
  length : t'.slots.length = t.slots.length

def Refused (slotId : UInt8) (n : Nat) (t : CiTransport) (e : Error) : Prop :=
  ∀ m, t.refusal slotId (n + m) = some e

theorem refusal_zero : t.refusal slotId 0 = none := by
  rw [refusal, CaDevice.refusal, ite_self]

theorem refusal_busy (h : t.isBusy slotId = true) : t.refusal slotId n = none := if_pos h

theorem refusal_idle (h : t.isBusy slotId = false) :
    t.refusal slotId (n + 1) =
      match t.link.nextWrite.outcome with
      | .ok () => none
      | .error e => if e.transient then CaDevice.refusal n t.link.writes.tail else some e := by
  rw [refusal, h, if_neg Bool.false_ne_true, CaDevice.nextWrite]
  cases t.link.writes with
  | nil => rfl
  | cons result rest => rfl

theorem Offered.refl (slotId : UInt8) (t : CiTransport) : Offered slotId 0 t t where
  accepted := refusal_zero
  rest m := by rw [Nat.zero_add]
  length := rfl

theorem Offered.trans (h : Offered slotId n t t') (h' : Offered slotId m t' t'') : Offered slotId (n + m) t t'' where
  accepted := (h.rest m).symm.trans h'.accepted
  rest k := by rw [h'.rest, h.rest, Nat.add_assoc]
  length := h'.length.trans h.length

theorem Offered.refused (h : Offered slotId n t t') (h' : Refused slotId m t' e) : Refused slotId (n + m) t e := by
  intro k
  rw [Nat.add_assoc, ← h.rest]
  exact h' k

theorem Refused.mono (h : Refused slotId n t e) (hle : n ≤ m) : Refused slotId m t e := by
  intro k
  have hsum : n + (m - n + k) = m + k := by omega
  rw [← hsum]
  exact h _

theorem Sent.refusal_eq (h : Sent slotId t t') :
    t.refusal slotId 1 = none ∧ ∀ m, t'.refusal slotId m = t.refusal slotId (1 + m) := by
  cases h with
  | waits busy still =>
      refine ⟨refusal_busy busy, fun m => ?_⟩
      rw [refusal_busy busy, refusal_busy still]
  | taken idle next busy =>
      have hnone (m : Nat) : t.refusal slotId (m + 1) = none := by rw [refusal_idle idle, next]
      refine ⟨hnone 0, fun m => ?_⟩
      rw [refusal_busy busy, Nat.add_comm, hnone]
  | delayed idle next still writes =>
      have hdelayed (m : Nat) : t.refusal slotId (m + 1) = CaDevice.refusal m t.link.writes.tail := by
        rw [refusal_idle idle]
        cases heq : t.link.nextWrite.outcome with
        | ok reply =>
            rw [WriteResult.delays, heq] at next
            cases next
        | error e =>
            rw [WriteResult.delays, heq] at next
            exact if_pos next
      refine ⟨?_, fun m => ?_⟩
      · rw [hdelayed 0, CaDevice.refusal]
      · rw [Nat.add_comm, hdelayed, refusal, still, writes, if_neg Bool.false_ne_true]

theorem refused_of_refuses (h : t.refuses slotId = true) (he : t.link.nextWrite.outcome = .error e) :
    Refused slotId 1 t e := by
  rw [refuses, Bool.and_eq_true, Bool.not_eq_true', WriteResult.refuses, he, Bool.not_eq_true'] at h
  intro m
  rw [Nat.add_comm, refusal_idle h.1, he]
  exact if_neg (Bool.eq_false_iff.mp h.2)

theorem sendTpdu_offers {tag : TpduTag} {data : Bytes} (hs : slotId.toNat < t.slots.length)
    (hbuild : ∃ frame, Tpdu.build slotId tag data = .ok frame) :
    wlp (sendTpdu slotId tag data) (fun _ t' => Offered slotId 1 t t') (fun e _ => Refused slotId 1 t e) t := by
  refine wlp_mono (wlp_and (wlp_of_wp (sendTpdu_sent hs hbuild)) (sendTpdu_tells hs hbuild)) (fun _ t' h => ?_)
    fun e _ h => refused_of_refuses h.1.1 h.1.2
  obtain ⟨hsent, _, hlength⟩ := h
  exact ⟨hsent.refusal_eq.1, hsent.refusal_eq.2, hlength⟩

theorem sendFragments_offers (hvalid : slotId ≠ 255) : ∀ (fuel : Nat) (rest : Bytes) (t : CiTransport),
    slotId.toNat < t.slots.length → wlp (sendFragments slotId fuel rest)
      (fun _ t' => Offered slotId (Tpdu.pieces fuel rest).length t t')
      (fun e _ => Refused slotId (Tpdu.pieces fuel rest).length t e) t := by
  intro fuel
  induction fuel with
  | zero => exact fun _ _ _ => wlp_fault
  | succ fuel ih =>
      intro rest t hs
      rw [sendFragments, Tpdu.pieces]
      split
      · next hlong =>
          have htake : (slice rest 0 Tpdu.maxTpduData : Outcome Error Bytes) =
              .ok (rest.take Tpdu.maxTpduData) := by
            rw [slice, if_pos ⟨Nat.zero_le _, Nat.le_of_lt hlong⟩, List.drop_zero]
          rw [htake, wlp_bind, wlp_lift]
          refine ⟨fun _ h => ?_, by rintro _ ⟨⟩⟩
          rw [← Outcome.ok.inj h, wlp_bind, List.length_cons, Nat.add_comm]
          have hbuild := Tpdu.build_data hvalid (.inr rfl) (List.length_take_le Tpdu.maxTpduData rest)
          refine wlp_mono (sendTpdu_offers hs hbuild) (fun _ t' ht => ?_) fun _ _ h => h.mono (Nat.le_add_right ..)
          refine wlp_mono (ih _ t' (ht.length ▸ hs)) (fun _ _ h => ht.trans h) fun _ _ h => ht.refused h
      · next hshort =>
          exact sendTpdu_offers hs (Tpdu.build_data hvalid (.inl rfl) (Nat.not_lt.mp hshort))

def frameCount (sessionId : UInt16) (tag : ApduTag) (body : Bytes) : Nat :=
  (Tpdu.pieces ((apduSpdu sessionId tag body).length + 1) (apduSpdu sessionId tag body)).length

theorem sendApdu_offers {sessionId : UInt16} {tag : ApduTag} {body : Bytes} (hs : slotId.toNat < t.slots.length)
    (hn : t.slots.length ≤ 255) (hbody : body.length ≤ 65535) :
    wp (sendApdu slotId sessionId tag body)
      (fun _ t' => Offered slotId (frameCount sessionId tag body) t t')
      (fun e _ => Refused slotId (frameCount sessionId tag body) t e) t := by
  have hpartial : wlp (sendApdu slotId sessionId tag body)
      (fun _ t' => Offered slotId (frameCount sessionId tag body) t t')
      (fun e _ => Refused slotId (frameCount sessionId tag body) t e) t := by
    rw [sendApdu, wlp_bind, wlp_note, if_neg (Nat.not_lt.mpr hbody), sendSpdu, wlp_bind]
    refine wlp_of_wp ((wp_checkSlot (t := { t with trace := t.trace ++ [.apdu slotId sessionId tag body] }) hs).mpr ?_)
    refine wlp_mono (sendFragments_offers (ne_max hs hn) _ _ _ hs) (fun _ _ h => ?_) fun _ _ h => h
    exact ⟨h.accepted, h.rest, h.length⟩
  have htotal := (@sendApdu_along t slotId sessionId tag body hn).wp
  exact wp_mono (wp_wlp htotal hpartial) (fun _ _ h => h.2) fun _ _ h => h.2

end CiTransport

end LibDvb
