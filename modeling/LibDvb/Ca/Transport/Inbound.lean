import LibDvb.Ca.Transport.Run

namespace LibDvb

open Act Outcome CiTransport

def recvOne (frame : Bytes) (t : CiTransport) : Outcome Error (Option TransportRecv) × CiTransport :=
  CiTransport.recvApdu { t with link := { t.link with reads := [.frame frame] } }

def recvFrames : List Bytes → CiTransport → List (Outcome Error (Option TransportRecv)) × CiTransport
  | [], t => ([], t)
  | frame :: frames, t =>
      ((recvOne frame t).1 :: (recvFrames frames (recvOne frame t).2).1,
        (recvFrames frames (recvOne frame t).2).2)

def Fragment (slotId : UInt8) (tag : TpduTag) (chunk frame : Bytes) : Prop :=
  ∃ object status, Tpdu.build slotId tag chunk = .ok object ∧
    frame = Tpdu.withStatus slotId status object ∧ frame.length ≤ Tpdu.maxTpduSize

inductive Beside (slotId : UInt8) : Bytes → Prop
  | status (value : UInt8) : Beside slotId (Tpdu.withStatus slotId value [slotId, slotId + 1])
  | other {frame : Bytes} {first : UInt8} (head : frame.head? = some first) (ne : first ≠ slotId) :
      Beside slotId frame

inductive Interleaved (slotId : UInt8) : List Bytes → List Bytes → Prop
  | nil : Interleaved slotId [] []
  | chunk {chunk frame : Bytes} {chunks frames : List Bytes}
      (fragment : Fragment slotId .dataMore chunk frame) (rest : Interleaved slotId chunks frames) :
      Interleaved slotId (chunk :: chunks) (frame :: frames)
  | beside {frame : Bytes} {chunks frames : List Bytes} (beside : Beside slotId frame)
      (rest : Interleaved slotId chunks frames) : Interleaved slotId chunks (frame :: frames)

def NoSpdu (slotId : UInt8) (reply : Outcome Error (Option TransportRecv)) : Prop :=
  ∀ spdu, reply ≠ .ok (some (.spdu slotId spdu))

structure Collecting (slotsNum slotId : UInt8) (buffer : Bytes) (t : CiTransport) : Prop where
  count : t.slots.length = slotsNum.toNat
  buffer : t.slots[slotId.toNat]?.map TransportSlot.rxBuffer = some buffer

variable {slotsNum slotId : UInt8} {t : CiTransport} {buffer chunk frame : Bytes}

theorem slotsNum_eq (h : t.slots.length = slotsNum.toNat) : UInt8.ofNat t.slots.length = slotsNum := by
  rw [h, UInt8.ofNat_toNat]

theorem recv_frame (hcount : t.slots.length ≤ 255) (hne : frame ≠ []) :
    wp CiTransport.recvApdu
      (fun recv t' => t'.slots = (Obs.read (frame.take Tpdu.maxTpduSize)).effect t.slots ∧
        ∃ r, recv = some r ∧ received (frame.take Tpdu.maxTpduSize) t.slots = some r ∧
          frame.head? = some r.slotId)
      (fun _ t' => t'.slots = (Obs.read (frame.take Tpdu.maxTpduSize)).effect t.slots ∧
        ∀ first, frame.head? = some first → t.slots.length ≤ first.toNat)
      { t with link := { t.link with reads := [.frame frame] } } := by
  have hempty : frame.take Tpdu.maxTpduSize ≠ [] := by
    intro hnil
    rcases List.take_eq_nil_iff.mp hnil with hzero | hnil
    · exact absurd hzero (by decide)
    · exact hne hnil
  have hhead : (frame.take Tpdu.maxTpduSize).head? = frame.head? := by
    rw [List.head?_take, if_neg (by decide)]
  rw [CiTransport.recvApdu, wp_bind, wp_attempt, wp_zoom, CaDevice.recvMsg, wp_bind, wp_get]
  simp only [CiTransport.linkLens, wp_bind, wp_modify, if_neg hempty, wp_pure]
  refine wp_mono (recvFrame_spec (frame.take Tpdu.maxTpduSize) hempty hcount) (fun recv t' h => ?_)
    (fun e t' h => ⟨h.1.slots, fun first hfirst => h.2.2 first (hhead.trans hfirst)⟩)
  obtain ⟨hmove, _, r, hrecv, hreceived, hslot, _⟩ := h
  exact ⟨hmove.slots, r, hrecv, hreceived, hhead ▸ hslot⟩

theorem fragment_length {tag : TpduTag} (h : Fragment slotId tag chunk frame)
    (htag : tag = .dataLast ∨ tag = .dataMore) : frame ≠ [] ∧ frame.take Tpdu.maxTpduSize = frame ∧
      frame.head? = some slotId := by
  obtain ⟨object, status, hbuild, rfl, hlen⟩ := h
  obtain ⟨_, _, rfl⟩ := Tpdu.build_data_eq htag hbuild
  exact ⟨by simp [Tpdu.withStatus], List.take_of_length_le hlen, rfl⟩

theorem Collecting.bound (h : Collecting slotsNum slotId buffer t) : slotId.toNat < t.slots.length := by
  have hsome := h.buffer
  by_contra hle
  rw [List.getElem?_eq_none (Nat.not_lt.mp hle)] at hsome
  cases hsome

theorem Collecting.count_le (h : Collecting slotsNum slotId buffer t) : t.slots.length ≤ 255 := by
  have := slotsNum.toNat_lt
  rw [h.count]
  omega

theorem recv_parsed (h : Collecting slotsNum slotId buffer t) (hne : frame ≠ [])
    (hwhole : frame.take Tpdu.maxTpduSize = frame) (hhead : frame.head? = some slotId)
    {parsed : Tpdu.RTpdu} (hparse : Tpdu.parse frame slotsNum = .ok parsed)
    (hslotId : parsed.slotId = slotId) :
    ∃ slot : TransportSlot, slot.rxBuffer = buffer ∧ (recvOne frame t).1 = .ok (some (slot.receive parsed).1) ∧
      Collecting slotsNum slotId (slot.receive parsed).2.rxBuffer (recvOne frame t).2 := by
  have hspec := recv_frame h.count_le hne
  rw [hwhole] at hspec
  obtain ⟨slot, hslot, hbuffer⟩ := Option.map_eq_some_iff.mp h.buffer
  have heffect : ∀ slots', slots' = (Obs.read frame).effect t.slots →
      slots'.length = slotsNum.toNat ∧ slots'[slotId.toNat]?.map TransportSlot.rxBuffer =
        some (({ slot with busy := false } : TransportSlot).receive parsed).2.rxBuffer := by
    rintro slots' rfl
    constructor
    · rw [length_effect, h.count]
    · rw [getElem?_effect _ hslot]
      simp only [Obs.onSlot, if_pos hhead, slotsNum_eq h.count, TransportSlot.afterRead, hparse,
        Option.map_some]
  rcases wp_cases.mp hspec with ⟨recv, hok, hslots, r, rfl, hreceived, _⟩ | ⟨e, herr, _, hlarge⟩
  · obtain ⟨hcount, hafter⟩ := heffect _ hslots
    have hreply : r = (({ slot with busy := false } : TransportSlot).receive parsed).1 := by
      simp only [received, slotsNum_eq h.count, hparse, hslotId, hslot, Option.map_some,
        Option.some.injEq] at hreceived
      rw [← hreceived]
      exact (TransportSlot.receive_busy parsed slot false).symm
    exact ⟨{ slot with busy := false }, hbuffer, hreply ▸ hok, hcount, hafter⟩
  · exact absurd (hlarge slotId hhead) (Nat.not_le.mpr h.bound)

theorem recv_beside (h : Collecting slotsNum slotId buffer t) (hs : slotId < slotsNum)
    (hbeside : Beside slotId frame) :
    NoSpdu slotId (recvOne frame t).1 ∧ Collecting slotsNum slotId buffer (recvOne frame t).2 := by
  cases hbeside with
  | status value =>
      have hparse := Tpdu.parse_status hs value
      have hlength : (Tpdu.withStatus slotId value [slotId, slotId + 1]).length ≤ Tpdu.maxTpduSize := by
        simp [Tpdu.withStatus, Tpdu.maxTpduSize]
      obtain ⟨slot, hbuffer, hreply, hafter⟩ := recv_parsed h (by simp [Tpdu.withStatus])
        (List.take_of_length_le hlength) rfl hparse rfl
      have hreceive (parsed : Tpdu.RTpdu) (htag : parsed.tag = .sb) : slot.receive parsed =
          (.status parsed.slotId, { slot with dataPending := parsed.dataIndicator }) := by
        simp [TransportSlot.receive, htag, TpduTag.sb, TpduTag.ctcReply, TpduTag.dataMore, TpduTag.dataLast]
      rw [hreceive _ rfl] at hreply hafter
      refine ⟨?_, hbuffer ▸ hafter⟩
      intro spdu hspdu
      rw [hreply] at hspdu
      cases hspdu
  | @other _ first hfirst hother =>
      have hne : frame ≠ [] := by
        rintro rfl
        cases hfirst
      have hhead : (frame.take Tpdu.maxTpduSize).head? = some first := by
        rw [List.head?_take, if_neg (by decide), hfirst]
      have hkept : ∀ slots', slots' = (Obs.read (frame.take Tpdu.maxTpduSize)).effect t.slots →
          slots'.length = slotsNum.toNat ∧ slots'[slotId.toNat]? = t.slots[slotId.toNat]? := by
        rintro slots' rfl
        refine ⟨by rw [length_effect, h.count], ?_⟩
        simp only [Obs.effect, hhead]
        rw [getElem?_modifyAt, if_neg hother]
      have hspec := recv_frame h.count_le hne
      rcases wp_cases.mp hspec with ⟨recv, hok, hslots, r, rfl, _, hslot⟩ | ⟨e, herr, hslots, _⟩
      · obtain ⟨hcount, hsame⟩ := hkept _ hslots
        refine ⟨?_, hcount, hsame ▸ h.buffer⟩
        intro spdu hreply
        have hreply' : some r = some (.spdu slotId spdu) := Outcome.ok.inj (hok.symm.trans hreply)
        rw [hfirst, Option.some.inj hreply'] at hslot
        exact hother (Option.some.inj hslot)
      · obtain ⟨hcount, hsame⟩ := hkept _ hslots
        refine ⟨?_, hcount, hsame ▸ h.buffer⟩
        intro spdu hreply
        cases herr.symm.trans hreply

theorem receive_data (slot : TransportSlot) {parsed : Tpdu.RTpdu}
    (htag : parsed.tag = .dataMore ∨ parsed.tag = .dataLast)
    (hfits : slot.rxBuffer.length + parsed.body.length ≤ Tpdu.maxTpduSize) :
    slot.receive parsed =
      if parsed.tag = .dataMore ∨ slot.rxBuffer ++ parsed.body = [] then
        (.status parsed.slotId,
          { slot with dataPending := parsed.dataIndicator, rxBuffer := slot.rxBuffer ++ parsed.body })
      else
        (.spdu parsed.slotId (slot.rxBuffer ++ parsed.body),
          { slot with dataPending := parsed.dataIndicator, rxBuffer := [] }) := by
  have hreply : parsed.tag ≠ .ctcReply := by
    intro heq
    rw [heq] at htag
    revert htag
    decide
  rw [TransportSlot.receive]
  dsimp only
  rw [if_neg hreply, if_pos htag, if_neg (Nat.not_lt.mpr hfits)]

theorem recv_chunk (h : Collecting slotsNum slotId buffer t) (hs : slotId < slotsNum)
    (hfragment : Fragment slotId .dataMore chunk frame)
    (hfits : buffer.length + chunk.length ≤ Tpdu.maxTpduSize) :
    NoSpdu slotId (recvOne frame t).1 ∧
      Collecting slotsNum slotId (buffer ++ chunk) (recvOne frame t).2 := by
  obtain ⟨hne, hwhole, hhead⟩ := fragment_length hfragment (.inr rfl)
  obtain ⟨object, status, hbuild, rfl, _⟩ := hfragment
  have hparse := Tpdu.parse_data hs (.inr rfl) hbuild status
  obtain ⟨slot, rfl, hreply, hafter⟩ := recv_parsed h hne hwhole hhead hparse rfl
  rw [receive_data slot (.inl rfl) hfits, if_pos (.inl rfl)] at hreply hafter
  refine ⟨?_, hafter⟩
  intro spdu hspdu
  rw [hreply] at hspdu
  cases hspdu

theorem recv_last (h : Collecting slotsNum slotId buffer t) (hs : slotId < slotsNum)
    (hfragment : Fragment slotId .dataLast chunk frame)
    (hfits : buffer.length + chunk.length ≤ Tpdu.maxTpduSize) (hsome : buffer ++ chunk ≠ []) :
    (recvOne frame t).1 = .ok (some (.spdu slotId (buffer ++ chunk))) ∧
      Collecting slotsNum slotId [] (recvOne frame t).2 := by
  obtain ⟨hne, hwhole, hhead⟩ := fragment_length hfragment (.inl rfl)
  obtain ⟨object, status, hbuild, rfl, _⟩ := hfragment
  have hparse := Tpdu.parse_data hs (.inl rfl) hbuild status
  obtain ⟨slot, rfl, hreply, hafter⟩ := recv_parsed h hne hwhole hhead hparse rfl
  have hclosed : ¬ (TpduTag.dataLast = .dataMore ∨ slot.rxBuffer ++ chunk = []) := by
    rintro (htag | hnil)
    · exact absurd htag (by decide)
    · exact hsome hnil
  rw [receive_data slot (.inr rfl) hfits, if_neg hclosed] at hreply hafter
  exact ⟨hreply, hafter⟩

theorem recvFrames_interleaved (hs : slotId < slotsNum) {chunks frames : List Bytes}
    (h : Interleaved slotId chunks frames) : ∀ (buffer : Bytes) (t : CiTransport),
      Collecting slotsNum slotId buffer t → buffer.length + chunks.flatten.length ≤ Tpdu.maxTpduSize →
      (∀ reply ∈ (recvFrames frames t).1, NoSpdu slotId reply) ∧
        Collecting slotsNum slotId (buffer ++ chunks.flatten) (recvFrames frames t).2 := by
  induction h with
  | nil =>
      intro buffer t ht _
      rw [List.flatten_nil, List.append_nil]
      constructor
      · intro reply hmem
        cases hmem
      · exact ht
  | @chunk chunk frame chunks frames fragment rest ih =>
      intro buffer t ht hfits
      rw [List.flatten_cons, List.length_append] at hfits
      obtain ⟨hreply, hafter⟩ := recv_chunk ht hs fragment (by omega)
      obtain ⟨hreplies, hlast⟩ := ih _ _ hafter (by rw [List.length_append]; omega)
      rw [List.flatten_cons, ← List.append_assoc]
      refine ⟨?_, hlast⟩
      intro reply hmem
      rcases List.mem_cons.mp hmem with rfl | hmem
      · exact hreply
      · exact hreplies reply hmem
  | @beside frame chunks frames beside rest ih =>
      intro buffer t ht hfits
      obtain ⟨hreply, hafter⟩ := recv_beside ht hs beside
      obtain ⟨hreplies, hlast⟩ := ih _ _ hafter hfits
      refine ⟨?_, hlast⟩
      intro reply hmem
      rcases List.mem_cons.mp hmem with rfl | hmem
      · exact hreply
      · exact hreplies reply hmem

theorem recvFrames_append (frames more : List Bytes) (t : CiTransport) :
    (recvFrames (frames ++ more) t).1 =
      (recvFrames frames t).1 ++ (recvFrames more (recvFrames frames t).2).1 := by
  induction frames generalizing t with
  | nil => rfl
  | cons frame frames ih =>
      simp only [List.cons_append, recvFrames]
      rw [ih]

theorem length_recvFrames (frames : List Bytes) (t : CiTransport) :
    (recvFrames frames t).1.length = frames.length := by
  induction frames generalizing t with
  | nil => rfl
  | cons frame frames ih =>
      simp only [recvFrames, List.length_cons]
      rw [ih]

def sessionSpdu (sessionId : UInt16) (items : List Apdu.Item) : Bytes :=
  Spdu.buildSessionNumber sessionId ++ items.flatMap fun item => Apdu.build item.tag item.body

theorem inbound_round_trip {slotsNum slotId : UInt8} {t : CiTransport} {sessionId : UInt16}
    {items : List Apdu.Item} {chunks frames after : List Bytes} {last lastFrame : Bytes}
    (hs : slotId < slotsNum) (hempty : Collecting slotsNum slotId [] t)
    (htags : ∀ item ∈ items, item.tag.raw.toNat < 0x1000000)
    (hlength : (sessionSpdu sessionId items).length ≤ Tpdu.maxTpduSize)
    (hsplit : chunks.flatten ++ last = sessionSpdu sessionId items)
    (hframes : Interleaved slotId chunks frames) (hlast : Fragment slotId .dataLast last lastFrame)
    (hafter : Interleaved slotId [] after) :
    ∃ early late, (recvFrames (frames ++ lastFrame :: after) t).1 =
        early ++ .ok (some (.spdu slotId (sessionSpdu sessionId items))) :: late ∧
      early.length = frames.length ∧ (∀ reply ∈ early ++ late, NoSpdu slotId reply) ∧
      ∃ apdus, Spdu.parse (sessionSpdu sessionId items) = .ok (.sessionNumber sessionId apdus) ∧
        Apdu.iter apdus = .ok (items.map .ok) := by
  have hwidth := congrArg List.length hsplit
  rw [List.length_append] at hwidth
  obtain ⟨hearly, hcollected⟩ := recvFrames_interleaved hs hframes [] t hempty (by
    rw [List.length_nil]
    omega)
  rw [List.nil_append] at hcollected
  have hsome : chunks.flatten ++ last ≠ [] := by
    rw [hsplit]
    simp [sessionSpdu, Spdu.buildSessionNumber]
  obtain ⟨hreply, hcleared⟩ := recv_last hcollected hs hlast (by omega) hsome
  obtain ⟨hlate, _⟩ := recvFrames_interleaved hs hafter [] _ hcleared (Nat.zero_le _)
  have hbodies : ∀ item ∈ items, item.body.length ≤ 65535 := by
    intro item hmem
    obtain ⟨before, behind, rfl⟩ := List.append_of_mem hmem
    have hitem := Apdu.length_build item
    have hbound : Tpdu.maxTpduSize = 2048 := rfl
    simp only [sessionSpdu, List.flatMap_append, List.flatMap_cons, List.length_append] at hlength
    omega
  refine ⟨(recvFrames frames t).1, (recvFrames after (recvOne lastFrame (recvFrames frames t).2).2).1,
    ?_, length_recvFrames frames t, ?_, _, Spdu.parse_sessionNumber sessionId _,
    Apdu.iter_build items htags hbodies⟩
  · rw [recvFrames_append, recvFrames, ← hsplit, ← hreply]
  · intro reply hmem
    rcases List.mem_append.mp hmem with hmem | hmem
    · exact hearly reply hmem
    · exact hlate reply hmem

-- Slot 0 of two: a piece, a status, a frame of the other slot, a piece, and the empty last piece.
def enquiry : Apdu.Item := { tag := .applicationInfo, body := [1, 2, 3] }

def enquiryFrames : List Bytes :=
  [[0, 1, 0xA1, 8, 1, 0x90, 2, 0, 5, 0x9F, 0x80, 0x21, 0x80, 2, 1, 0x80], [0, 1, 0x80, 2, 1, 0],
    [1, 2, 3], [0, 1, 0xA1, 5, 1, 3, 1, 2, 3, 0x80, 2, 1, 0x80]]

theorem enquiryFrames_interleaved :
    Interleaved 0 [[0x90, 2, 0, 5, 0x9F, 0x80, 0x21], [3, 1, 2, 3]] enquiryFrames :=
  .chunk ⟨_, 0x80, rfl, rfl, by decide⟩
    (.beside (.status 0) (.beside (.other rfl (by decide)) (.chunk ⟨_, 0x80, rfl, rfl, by decide⟩ .nil)))

theorem enquiryLast : Fragment 0 .dataLast [] [0, 1, 0xA0, 1, 1, 0x80, 2, 1, 0] :=
  ⟨[0, 1, 0xA0, 1, 1], 0, rfl, rfl, by decide⟩

theorem inbound_round_trip_enquiry :
    ∃ early late, (recvFrames (enquiryFrames ++ [[0, 1, 0xA0, 1, 1, 0x80, 2, 1, 0]]) (new {} 2)).1 =
        early ++ .ok (some (.spdu 0 (sessionSpdu 5 [enquiry]))) :: late ∧
      early.length = enquiryFrames.length ∧ (∀ reply ∈ early ++ late, NoSpdu 0 reply) ∧
      ∃ apdus, Spdu.parse (sessionSpdu 5 [enquiry]) = .ok (.sessionNumber 5 apdus) ∧
        Apdu.iter apdus = .ok ([enquiry].map .ok) :=
  inbound_round_trip (by decide : (0 : UInt8) < 2) ⟨rfl, rfl⟩ (by decide) (by decide) rfl
    enquiryFrames_interleaved enquiryLast .nil

end LibDvb
