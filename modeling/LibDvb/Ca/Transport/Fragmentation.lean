import LibDvb.Ca.Transport.Outgoing
import LibDvb.Ca.Transport.CommandResponse

namespace LibDvb

open Act Outcome

def DataFrame (slotId : UInt8) (tag : TpduTag) (data frame : Bytes) : Prop :=
  frame.length ≤ Tpdu.maxTpduSize ∧ ∃ tcId field n, tcId.toNat = slotId.toNat + 1 ∧
    frame = slotId :: tcId :: tag.raw :: (field ++ tcId :: data) ∧
    Asn1.decode (frame.drop 3) = .ok (n, field.length) ∧ n.toNat = data.length + 1

def Fragments (slotId : UInt8) (spdu : Bytes) (frames : List Bytes) : Prop :=
  ∃ (more : List Bytes) (last : Bytes) (firsts : List Bytes) (final : Bytes),
    (∀ data ∈ more, data.length = Tpdu.maxTpduData) ∧ last.length ≤ Tpdu.maxTpduData ∧
    (last = [] → more = []) ∧ more.flatten ++ last = spdu ∧ frames = firsts ++ [final] ∧
    List.Forall₂ (DataFrame slotId .dataMore) more firsts ∧ DataFrame slotId .dataLast last final

section Fragments

variable {slotId : UInt8} {tag : TpduTag} {data frame spdu : Bytes} {frames : List Bytes}

theorem dataFrame_of_build (htag : tag = .dataLast ∨ tag = .dataMore)
    (h : Tpdu.build slotId tag data = .ok frame) : DataFrame slotId tag data frame := by
  obtain ⟨hslot, hlen, hframe⟩ := Tpdu.build_data_eq htag h
  have hfield := Asn1.length_encode (UInt16.ofNat data.length + 1)
  have hcons : frame = slotId :: (slotId + 1) :: tag.raw ::
      (Asn1.encode (UInt16.ofNat data.length + 1) ++ (slotId + 1) :: data) := by
    rw [hframe]
    simp
  constructor
  · have hsize : Tpdu.maxTpduData = 2041 ∧ Tpdu.maxTpduSize = 2048 := ⟨rfl, rfl⟩
    rw [hcons]
    simp only [List.length_cons, List.length_append]
    omega
  · refine ⟨slotId + 1, _, _, ?_, hcons, ?_, Tpdu.toNat_declared hlen⟩
    · exact Tpdu.toNat_tcId hslot
    · rw [hcons]
      exact Asn1.decode_encode _ _

theorem Fragments.last (h : DataFrame slotId .dataLast spdu frame) (hlen : spdu.length ≤ Tpdu.maxTpduData) :
    Fragments slotId spdu [frame] :=
  ⟨[], spdu, [], frame, nofun, hlen, fun _ => rfl, rfl, rfl, .nil, h⟩

theorem Fragments.cons (h : Fragments slotId (spdu.drop Tpdu.maxTpduData) frames)
    (hframe : DataFrame slotId .dataMore (spdu.take Tpdu.maxTpduData) frame)
    (hlong : Tpdu.maxTpduData < spdu.length) : Fragments slotId spdu (frame :: frames) := by
  obtain ⟨more, last, firsts, final, hfull, hlen, hempty, hspdu, hframes, hfirsts, hfinal⟩ := h
  refine ⟨spdu.take Tpdu.maxTpduData :: more, last, frame :: firsts, final, ?_, hlen, ?_, ?_, ?_,
    .cons hframe hfirsts, hfinal⟩
  · intro data hdata
    rcases List.mem_cons.mp hdata with rfl | hdata
    · rw [List.length_take]
      omega
    · exact hfull data hdata
  · intro hnil
    rw [hempty hnil, hnil] at hspdu
    have hrest := congrArg List.length hspdu
    simp only [List.flatten_nil, List.append_nil, List.length_nil, List.length_drop] at hrest
    omega
  · rw [List.flatten_cons, List.append_assoc, hspdu, List.take_append_drop]
  · rw [hframes, List.cons_append]

end Fragments

namespace CiTransport

variable {t t' : CiTransport} {slotId : UInt8}

def commandStream (slotId : UInt8) (t : CiTransport) : List Bytes :=
  acceptedFrames slotId t.trace ++ (t.slots[slotId.toNat]?.map TransportSlot.queue).getD []

theorem commandStream_eq {slot : TransportSlot} (h : t.slots[slotId.toNat]? = some slot) :
    t.commandStream slotId = acceptedFrames slotId t.trace ++ slot.queue := by
  simp [commandStream, h]

theorem commandStream_modifyAt {f : TransportSlot → TransportSlot} {slot : TransportSlot} {link : CaDevice}
    {trace : List Obs} {callback : Bool} (h : t.slots[slotId.toNat]? = some slot) :
    (CiTransport.mk link (modifyAt slotId f t.slots) trace callback).commandStream slotId =
      acceptedFrames slotId trace ++ (f slot).queue := by
  refine commandStream_eq ?_
  rw [getElem?_modifyAt, if_pos rfl, h]
  rfl

theorem flush_stream : wlp (flush slotId) (fun _ t' => t'.commandStream slotId = t.commandStream slotId ∧
    t'.slots.length = t.slots.length) (fun _ _ => True) t := by
  rw [flush, wlp_bind]
  by_cases hs : slotId.toNat < t.slots.length
  · refine wlp_of_wp ((wp_checkSlot hs).mpr ?_)
    rw [flushSlot, wlp_bind]
    refine wlp_slotAt fun slot hslot => ?_
    split
    · exact wlp_pure.mpr ⟨rfl, rfl⟩
    split
    · exact wlp_pure.mpr ⟨rfl, rfl⟩
    · next frame rest hqueue =>
        have hany : wlp (CaDevice.sendMsg frame) (fun _ _ => True) (fun _ _ => True) t.link :=
          ⟨fun _ _ => trivial, fun _ _ => trivial⟩
        simp only [wlp_bind, wlp_attempt, wlp_zoom, wlp_get, wlp_note]
        refine wlp_mono hany (fun _ link _ => ?_) fun e link _ => ?_
        · refine wlp_modifySlot ⟨?_, length_modifyAt ..⟩
          refine (commandStream_modifyAt (t := t) hslot).trans ?_
          rw [commandStream_eq hslot, hqueue]
          simp [linkLens, Obs.acceptedFor]
        · split
          · refine wlp_pure.mpr ⟨?_, rfl⟩
            simp [commandStream, linkLens, Obs.acceptedFor]
          · exact wlp_bind.mpr (wlp_modifySlot (wlp_fail.mpr trivial))
  · exact wlp_of_wp (wp_checkSlot_invalid hs fun _ => trivial)

theorem sendTpdu_stream {tag : TpduTag} {data frame : Bytes} (hs : slotId.toNat < t.slots.length)
    (hbuild : Tpdu.build slotId tag data = .ok frame) : wlp (sendTpdu slotId tag data)
      (fun _ t' => t'.commandStream slotId = t.commandStream slotId ++ [frame] ∧
        t'.slots.length = t.slots.length) (fun _ _ => True) t := by
  rw [sendTpdu, wlp_bind]
  refine wlp_of_wp ((wp_checkSlot hs).mpr ?_)
  rw [hbuild, wlp_bind, wlp_lift]
  refine ⟨fun _ h => ?_, by rintro _ ⟨⟩⟩
  rw [← Outcome.ok.inj h, wlp_bind]
  refine wlp_modifySlot ?_
  rw [wlp_bind, wlp_note]
  refine wlp_mono flush_stream (fun _ t' ht => ⟨?_, ht.2.trans (length_modifyAt ..)⟩) fun _ _ _ => trivial
  have hslot := List.getElem?_eq_getElem hs
  rw [ht.1, commandStream_modifyAt (t := t) hslot, commandStream_eq hslot]
  simp [Obs.acceptedFor]

theorem sendFragments_stream (hvalid : slotId ≠ 255) : ∀ (fuel : Nat) (rest : Bytes) (t : CiTransport),
    slotId.toNat < t.slots.length → wlp (sendFragments slotId fuel rest)
      (fun _ t' => ∃ frames, t'.commandStream slotId = t.commandStream slotId ++ frames ∧
        Fragments slotId rest frames) (fun _ _ => True) t := by
  intro fuel
  induction fuel with
  | zero => exact fun _ _ _ => wlp_fault
  | succ fuel ih =>
      intro rest t hs
      rw [sendFragments]
      split
      · next hlong =>
          have htake : (slice rest 0 Tpdu.maxTpduData : Outcome Error Bytes) =
              .ok (rest.take Tpdu.maxTpduData) := by
            rw [slice, if_pos ⟨Nat.zero_le _, Nat.le_of_lt hlong⟩, List.drop_zero]
          rw [htake, wlp_bind, wlp_lift]
          refine ⟨fun _ h => ?_, by rintro _ ⟨⟩⟩
          rw [← Outcome.ok.inj h, wlp_bind]
          obtain ⟨frame, hbuild⟩ := Tpdu.build_data hvalid (.inr rfl) (List.length_take_le Tpdu.maxTpduData rest)
          refine wlp_mono (sendTpdu_stream hs hbuild) (fun _ t' ht => ?_) fun _ _ _ => trivial
          obtain ⟨hstream, hlength⟩ := ht
          refine wlp_mono (ih _ t' (hlength ▸ hs)) (fun _ t'' ht' => ?_) fun _ _ _ => trivial
          obtain ⟨frames, hstream', hfragments⟩ := ht'
          refine ⟨frame :: frames, by rw [hstream', hstream, List.append_assoc, List.singleton_append], ?_⟩
          exact hfragments.cons (dataFrame_of_build (.inr rfl) hbuild) hlong
      · next hshort =>
          obtain ⟨frame, hbuild⟩ := Tpdu.build_data hvalid (.inl rfl) (Nat.not_lt.mp hshort)
          refine wlp_mono (sendTpdu_stream hs hbuild) (fun _ t' ht => ⟨[frame], ht.1, ?_⟩) fun _ _ _ => trivial
          exact .last (dataFrame_of_build (.inl rfl) hbuild) (Nat.not_lt.mp hshort)

theorem sendSpdu_stream (spdu : Bytes) (hs : slotId.toNat < t.slots.length) (hn : t.slots.length ≤ 255) :
    wp (sendSpdu slotId spdu)
      (fun _ t' => ∃ frames, t'.commandStream slotId = t.commandStream slotId ++ frames ∧
        Fragments slotId spdu frames) (fun _ _ => True) t := by
  have hstream := sendFragments_stream (ne_max hs hn) (spdu.length + 1) spdu t hs
  have htotal := (@sendSpdu_along t slotId spdu hn).wp
  have hpartial : wlp (sendSpdu slotId spdu)
      (fun _ t' => ∃ frames, t'.commandStream slotId = t.commandStream slotId ++ frames ∧
        Fragments slotId spdu frames) (fun _ _ => True) t := by
    rw [sendSpdu, wlp_bind]
    exact wlp_of_wp ((wp_checkSlot hs).mpr hstream)
  exact wp_mono (wp_wlp htotal hpartial) (fun _ _ ht => ht.2) fun _ _ _ => trivial

theorem sendApdu_eq {sessionId : UInt16} {tag : ApduTag} {body : Bytes} (h : body.length ≤ 65535) :
    sendApdu slotId sessionId tag body t = sendSpdu slotId (apduSpdu sessionId tag body)
      { t with trace := t.trace ++ [.apdu slotId sessionId tag body] } := by
  rw [sendApdu, if_neg (Nat.not_lt.mpr h)]
  rfl

theorem sendApdu_long {sessionId : UInt16} {tag : ApduTag} {body : Bytes} (h : 65535 < body.length) :
    sendApdu slotId sessionId tag body t =
      (.err (.invalidProperty s!"ca apdu body is too large: {body.length} bytes"),
        { t with trace := t.trace ++ [.apdu slotId sessionId tag body] }) := by
  rw [sendApdu, if_pos h]
  rfl

end CiTransport

open CiTransport

theorem length_apduSpdu (sessionId : UInt16) (tag : ApduTag) (body : Bytes) :
    body.length < (apduSpdu sessionId tag body).length := by
  have hbuilt : 4 + body.length ≤ (Apdu.build tag body).length := Apdu.length_build ⟨tag, body⟩
  rw [apduSpdu, List.length_append]
  omega

theorem apduSpdu_parses {sessionId : UInt16} {tag : ApduTag} {body : Bytes} (htag : tag.raw.toNat < 0x1000000)
    (hbody : body.length ≤ 65535) : ∃ apdu,
      Spdu.parse (apduSpdu sessionId tag body) = .ok (.sessionNumber sessionId apdu) ∧
        Apdu.iter apdu = .ok [.ok { tag, body }] := by
  refine ⟨_, Spdu.parse_sessionNumber sessionId _, ?_⟩
  simpa using Apdu.iter_build [{ tag, body }] (by simpa using htag) (by simpa using hbody)

theorem outbound_fragmentation {t : CiTransport} {slotId : UInt8} (hs : slotId.toNat < t.slots.length)
    (hn : t.slots.length ≤ 255) :
    (∀ spdu, wp (sendSpdu slotId spdu)
      (fun _ t' => ∃ frames, t'.commandStream slotId = t.commandStream slotId ++ frames ∧
        Fragments slotId spdu frames) (fun _ _ => True) t) ∧
    (∀ sessionId tag body, tag.raw.toNat < 0x1000000 → body.length ≤ 65535 → ∃ spdu apdu,
      Spdu.parse spdu = .ok (.sessionNumber sessionId apdu) ∧ Apdu.iter apdu = .ok [.ok { tag, body }] ∧
        wp (sendApdu slotId sessionId tag body)
          (fun _ t' => ∃ frames, t'.commandStream slotId = t.commandStream slotId ++ frames ∧
            Fragments slotId spdu frames) (fun _ _ => True) t) ∧
    ∀ sessionId tag body, 65535 < body.length → wp (sendApdu slotId sessionId tag body) (fun _ _ => False)
      (fun _ t' => t'.slots = t.slots ∧ t'.link = t.link ∧ t'.commandStream slotId = t.commandStream slotId) t := by
  have hnoted (sessionId : UInt16) (tag : ApduTag) (body : Bytes) :
      commandStream slotId { t with trace := t.trace ++ [.apdu slotId sessionId tag body] } =
        t.commandStream slotId := by
    simp [commandStream, Obs.acceptedFor]
  refine ⟨fun spdu => sendSpdu_stream spdu hs hn, ?_, ?_⟩
  · intro sessionId tag body htag hbody
    obtain ⟨apdu, hspdu, hapdu⟩ := @apduSpdu_parses sessionId tag body htag hbody
    refine ⟨_, apdu, hspdu, hapdu, ?_⟩
    have hsend := sendSpdu_stream (t := { t with trace := t.trace ++ [.apdu slotId sessionId tag body] })
      (apduSpdu sessionId tag body) hs hn
    rw [hnoted] at hsend
    unfold wp at hsend ⊢
    rw [sendApdu_eq hbody]
    exact hsend
  · intro sessionId tag body hbody
    unfold wp
    rw [sendApdu_long hbody]
    exact ⟨rfl, rfl, hnoted sessionId tag body⟩

@[irreducible] def longSpdu : Bytes := apduSpdu 1 .caPmt (List.replicate Tpdu.maxTpduData 0)

theorem outbound_fragmentation_long : Tpdu.maxTpduData < longSpdu.length ∧ wp (sendSpdu 0 longSpdu)
    (fun _ t' => ∃ frames, t'.commandStream 0 = (new {} 1).commandStream 0 ++ frames ∧
      Fragments 0 longSpdu frames) (fun _ _ => True) (new {} 1) := by
  refine ⟨?_, (@outbound_fragmentation (new {} 1) 0 (by decide) (by decide)).1 longSpdu⟩
  have hlonger := length_apduSpdu 1 .caPmt (List.replicate Tpdu.maxTpduData 0)
  rwa [List.length_replicate, ← longSpdu] at hlonger

end LibDvb
