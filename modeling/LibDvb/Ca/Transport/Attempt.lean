import LibDvb.Ca.Transport.Outgoing

namespace LibDvb

open Act Outcome

def WriteResult.outcome : WriteResult → Except Error Unit
  | whole => .ok ()
  | short => .error CaDevice.shortWrite
  | failed kind => .error (.io kind "write")

def WriteResult.delays (result : WriteResult) : Bool :=
  match result.outcome with
  | .ok () => false
  | .error e => e.transient

def WriteResult.refuses (result : WriteResult) : Bool :=
  match result.outcome with
  | .ok () => false
  | .error e => !e.transient

def WriteResult.isShort : WriteResult → Bool
  | short => true
  | _ => false

def CaDevice.nextWrite (link : CaDevice) : WriteResult := link.writes.headD .whole

def CaDevice.secondWrite (link : CaDevice) : WriteResult := link.writes.tail.headD .whole

theorem CaDevice.sendMsg_next (msg : Bytes) (link : CaDevice) :
    wp (CaDevice.sendMsg msg) (fun _ link' => link.nextWrite.outcome = .ok () ∧ link'.writes = link.writes.tail)
      (fun e link' => link.nextWrite.outcome = .error e ∧ link'.writes = link.writes.tail) link := by
  rw [CaDevice.sendMsg, CaDevice.nextWrite, wp_bind, wp_get]
  cases hwrites : link.writes with
  | nil => exact ⟨rfl, hwrites⟩
  | cons result rest => cases result <;> exact ⟨rfl, rfl⟩

namespace CiTransport

variable {t t' t₁ : CiTransport} {slotId : UInt8}

def refuses (t : CiTransport) (slotId : UInt8) : Bool := !t.isBusy slotId && t.link.nextWrite.refuses

-- A frame was given to the slot: it waits behind another command, the link took the first frame of
-- the slot, or the link put it off.
inductive Sent (slotId : UInt8) (t t' : CiTransport) : Prop
  | waits (busy : t.isBusy slotId = true) (still : t'.isBusy slotId = true)
  | taken (idle : t.isBusy slotId = false) (next : t.link.nextWrite.outcome = .ok ())
      (busy : t'.isBusy slotId = true)
  | delayed (idle : t.isBusy slotId = false) (next : t.link.nextWrite.delays = true)
      (still : t'.isBusy slotId = false) (writes : t'.link.writes = t.link.writes.tail)

theorem refuses_congr (hbusy : t₁.isBusy slotId = t.isBusy slotId) (hwrites : t₁.link.writes = t.link.writes) :
    t₁.refuses slotId = t.refuses slotId := by
  simp only [refuses, hbusy, CaDevice.nextWrite, hwrites]

theorem Sent.before (h : Sent slotId t₁ t') (hbusy : t₁.isBusy slotId = t.isBusy slotId)
    (hwrites : t₁.link.writes = t.link.writes) : Sent slotId t t' := by
  cases h with
  | waits busy still => exact .waits (hbusy ▸ busy) still
  | taken idle next busy =>
      rw [CaDevice.nextWrite, hwrites] at next
      exact .taken (hbusy ▸ idle) next busy
  | delayed idle next still writes =>
      rw [CaDevice.nextWrite, hwrites] at next
      exact .delayed (hbusy ▸ idle) next still (writes.trans (congrArg List.tail hwrites))

theorem Sent.not_refuses (h : Sent slotId t t') : t.refuses slotId = false := by
  cases h with
  | waits busy still => rw [refuses, busy, Bool.not_true, Bool.false_and]
  | taken idle next busy => rw [refuses, WriteResult.refuses, next, Bool.and_false]
  | delayed idle next still writes =>
      rw [WriteResult.delays] at next
      rw [refuses, WriteResult.refuses, idle]
      split at next
      · cases next
      · next e heq =>
          rw [next]
          rfl

theorem isBusy_some {slot : TransportSlot} (h : t.slots[slotId.toNat]? = some slot) :
    t.isBusy slotId = slot.busy := by
  rw [isBusy, h]

theorem isBusy_modifyAt {f : TransportSlot → TransportSlot} {slot : TransportSlot} {link : CaDevice}
    {trace : List Obs} {callback : Bool} (h : t.slots[slotId.toNat]? = some slot) :
    (CiTransport.mk link (modifyAt slotId f t.slots) trace callback).isBusy slotId = (f slot).busy := by
  apply isBusy_some
  rw [getElem?_modifyAt, if_pos rfl, h]
  rfl

theorem flush_sent {slot : TransportSlot} {frame : Bytes} {rest : List Bytes}
    (hslot : t.slots[slotId.toNat]? = some slot) (hqueue : slot.queue = frame :: rest) :
    wp (flush slotId) (fun _ t' => Sent slotId t t')
      (fun e _ => t.refuses slotId = true ∧ t.link.nextWrite.outcome = .error e) t := by
  obtain ⟨hs, hget⟩ := List.getElem?_eq_some_iff.mp hslot
  have hbusy := isBusy_some hslot
  rw [flush, wp_bind, wp_checkSlot hs, flushSlot, wp_bind, wp_slotAt]
  refine ⟨hs, ?_⟩
  rw [hget]
  by_cases hslotBusy : slot.busy = true
  · rw [if_pos hslotBusy]
    exact wp_pure.mpr (.waits (hbusy.trans hslotBusy) (hbusy.trans hslotBusy))
  · have hidle : t.isBusy slotId = false := by
      rw [hbusy]
      exact Bool.eq_false_iff.mpr hslotBusy
    rw [if_neg hslotBusy, hqueue]
    simp only [wp_bind, wp_attempt, wp_zoom, wp_get, wp_note]
    refine wp_mono (CaDevice.sendMsg_next frame t.link) (fun _ link hlink => ?_) fun e link hlink => ?_
    · refine wp_modifySlot.mpr ⟨hs, ?_⟩
      apply Sent.taken hidle hlink.1
      exact isBusy_modifyAt (t := t) hslot
    · obtain ⟨hnext, hwrites⟩ := hlink
      split
      · next htransient =>
          refine wp_pure.mpr (.delayed hidle ?_ hidle hwrites)
          rw [WriteResult.delays, hnext]
          exact htransient
      · next hfatal =>
          rw [wp_bind]
          refine wp_modifySlot.mpr ⟨hs, wp_fail.mpr ⟨?_, hnext⟩⟩
          rw [refuses, hidle, WriteResult.refuses, hnext]
          simpa using hfatal

theorem sendTpdu_sent {tag : TpduTag} {data : Bytes} (hs : slotId.toNat < t.slots.length)
    (hbuild : ∃ frame, Tpdu.build slotId tag data = .ok frame) :
    wp (sendTpdu slotId tag data) (fun _ t' => Sent slotId t t')
      (fun e _ => t.refuses slotId = true ∧ t.link.nextWrite.outcome = .error e) t := by
  obtain ⟨frame, hbuild⟩ := hbuild
  have hslot : t.slots[slotId.toNat]? = some t.slots[slotId.toNat] := List.getElem?_eq_getElem hs
  rw [sendTpdu, wp_bind, wp_checkSlot hs, wp_bind, wp_lift, hbuild, Outcome.sat_ok, wp_bind]
  refine wp_modifySlot.mpr ⟨hs, ?_⟩
  rw [wp_bind, wp_note]
  have hbusy : (CiTransport.mk t.link (modifyAt slotId (fun slot => { slot with queue := slot.queue ++ [frame] })
      t.slots) (t.trace ++ [.queued slotId frame]) t.callback).isBusy slotId = t.isBusy slotId := by
    rw [isBusy_some hslot]
    exact isBusy_modifyAt (t := t) hslot
  obtain ⟨first, rest, hqueue⟩ : ∃ first rest, t.slots[slotId.toNat].queue ++ [frame] = first :: rest :=
    List.exists_cons_of_ne_nil (List.append_ne_nil_of_right_ne_nil _ (List.cons_ne_nil frame []))
  have hqueued : (modifyAt slotId (fun slot => { slot with queue := slot.queue ++ [frame] }) t.slots)[slotId.toNat]? =
      some { t.slots[slotId.toNat] with queue := t.slots[slotId.toNat].queue ++ [frame] } := by
    rw [getElem?_modifyAt, if_pos rfl, hslot]
    rfl
  refine wp_mono (flush_sent hqueued hqueue) (fun _ t' ht => ht.before hbusy rfl) fun e t' ht => ?_
  · rw [refuses_congr hbusy rfl] at ht
    exact ht

theorem sendSpdu_sent {spdu : Bytes} (hs : slotId.toNat < t.slots.length) (hvalid : slotId ≠ 255)
    (hshort : spdu.length ≤ Tpdu.maxTpduData) :
    wp (sendSpdu slotId spdu) (fun _ t' => Sent slotId t t')
      (fun e _ => t.refuses slotId = true ∧ t.link.nextWrite.outcome = .error e) t := by
  rw [sendSpdu, wp_bind, wp_checkSlot hs, sendFragments, if_neg (Nat.not_lt.mpr hshort)]
  exact sendTpdu_sent hs (Tpdu.build_data hvalid (.inl rfl) hshort)

theorem sendApdu_sent {sessionId : UInt16} {tag : ApduTag} {body : Bytes} (hs : slotId.toNat < t.slots.length)
    (hvalid : slotId ≠ 255) (hshort : body.length ≤ 16) :
    wp (sendApdu slotId sessionId tag body) (fun _ t' => Sent slotId t t')
      (fun e _ => t.refuses slotId = true ∧ t.link.nextWrite.outcome = .error e) t := by
  have hsmall : ¬ body.length > 65535 := by omega
  have hspdu : (Spdu.buildSessionNumber sessionId ++ Apdu.build tag body).length ≤ Tpdu.maxTpduData := by
    have hencode := Asn1.length_encode (UInt16.ofNat body.length)
    have hmax : 64 ≤ Tpdu.maxTpduData := by decide
    simp only [Spdu.buildSessionNumber, Apdu.build, toBeBytes, List.length_append, List.length_cons,
      List.length_nil]
    omega
  rw [sendApdu, wp_bind, wp_note, if_neg hsmall]
  refine wp_mono (sendSpdu_sent (t := { t with trace := t.trace ++ [.apdu slotId sessionId tag body] }) hs hvalid
    hspdu) (fun _ t' ht => ht.before rfl rfl) fun e t' ht => ht

end CiTransport

end LibDvb
