import LibDvb.Ca.Transport.Outgoing

namespace LibDvb

open Act Outcome

def Tpdu.createFrame (slotId : UInt8) : Bytes := [slotId, slotId + 1, TpduTag.createTc.raw, 1, slotId + 1]

def Tpdu.receiveFrame (slotId : UInt8) : Bytes := [slotId, slotId + 1, TpduTag.rcv.raw, 1, slotId + 1]

def Tpdu.pollFrame (slotId : UInt8) : Bytes := [slotId, slotId + 1, TpduTag.dataLast.raw, 1, slotId + 1]

theorem Tpdu.build_createTc {slotId : UInt8} (h : slotId ≠ 255) :
    Tpdu.build slotId .createTc [] = .ok (createFrame slotId) := by
  simp [Tpdu.build, h, createFrame]

theorem Tpdu.build_rcv {slotId : UInt8} (h : slotId ≠ 255) :
    Tpdu.build slotId .rcv [] = .ok (receiveFrame slotId) := by
  simp [Tpdu.build, h, receiveFrame]

theorem Tpdu.build_dataLast_nil {slotId : UInt8} (h : slotId ≠ 255) :
    Tpdu.build slotId .dataLast [] = .ok (pollFrame slotId) := by
  simp [Tpdu.build, h, pollFrame, TpduTag.dataLast, TpduTag.rcv, TpduTag.createTc, TpduTag.ctcReply, TpduTag.deleteTc,
    TpduTag.dtcReply, TpduTag.requestTc, TpduTag.newTc, TpduTag.tcError, Asn1.encode]

theorem Tpdu.createFrame_ne_pollFrame (slotId other : UInt8) : createFrame slotId ≠ pollFrame other := by
  simp [createFrame, pollFrame, TpduTag.dataLast, TpduTag.createTc]

theorem Tpdu.receiveFrame_ne_pollFrame (slotId other : UInt8) : receiveFrame slotId ≠ pollFrame other := by
  simp [receiveFrame, pollFrame, TpduTag.dataLast, TpduTag.rcv]

theorem Tpdu.createFrame_ne_receiveFrame (slotId other : UInt8) : createFrame slotId ≠ receiveFrame other := by
  simp [createFrame, receiveFrame, TpduTag.rcv, TpduTag.createTc]

theorem Tpdu.frameOf_data_third {slotId : UInt8} {tag : TpduTag} {data frame : Bytes}
    (htag : tag = .dataLast ∨ tag = .dataMore) (h : frameOf slotId tag data = frame) :
    frame = [] ∨ frame[2]? = some tag.raw := by
  subst h
  unfold frameOf
  split
  · next frame hbuild =>
      obtain ⟨_, _, hframe⟩ := build_data_eq htag hbuild
      rw [hframe]
      exact .inr (by simp)
  · exact .inl rfl

theorem Tpdu.frameOf_data_ne {slotId other : UInt8} {tag : TpduTag} {data : Bytes}
    (htag : tag = .dataLast ∨ tag = .dataMore) :
    frameOf slotId tag data ≠ createFrame other ∧ frameOf slotId tag data ≠ receiveFrame other := by
  constructor
  · intro h
    rcases frameOf_data_third htag h with hnil | hthird
    · cases hnil
    · rcases htag with rfl | rfl <;> simp [createFrame, TpduTag.dataLast, TpduTag.dataMore, TpduTag.createTc] at hthird
  · intro h
    rcases frameOf_data_third htag h with hnil | hthird
    · cases hnil
    · rcases htag with rfl | rfl <;> simp [receiveFrame, TpduTag.dataLast, TpduTag.dataMore, TpduTag.rcv] at hthird

theorem Tpdu.frameOf_data_ne_poll {slotId other : UInt8} {tag : TpduTag} {data : Bytes}
    (htag : tag = .dataLast ∨ tag = .dataMore) (hdata : data ≠ []) : frameOf slotId tag data ≠ pollFrame other := by
  intro h
  unfold frameOf at h
  split at h
  · next frame hbuild =>
      obtain ⟨_, _, hframe⟩ := build_data_eq htag hbuild
      have hfield := (Asn1.length_encode (UInt16.ofNat data.length + 1)).1
      have hlength := congrArg List.length (hframe.symm.trans h)
      have hpos := List.length_pos_iff.mpr hdata
      simp only [pollFrame, List.length_append, List.length_cons, List.length_nil] at hlength
      omega
  · cases h

theorem Tpdu.pieces_ne_nil {fuel : Nat} {rest data : Bytes} {tag : TpduTag} (hrest : rest ≠ [])
    (h : (tag, data) ∈ pieces fuel rest) : data ≠ [] := by
  induction fuel generalizing rest with
  | zero => cases h
  | succ fuel ih =>
      rw [pieces] at h
      split at h
      · next hlong =>
          rcases List.mem_cons.mp h with heq | hmem
          · cases heq
            exact fun hnil => (List.take_eq_nil_iff.mp hnil).elim (by rintro ⟨⟩) hrest
          · refine ih (fun hnil => ?_) hmem
            exact absurd hlong (Nat.not_lt.mpr (List.drop_eq_nil_iff.mp hnil))
      · cases List.mem_singleton.mp h
        exact hrest

theorem Tpdu.pieces_tag {fuel : Nat} {rest data : Bytes} {tag : TpduTag} (h : (tag, data) ∈ pieces fuel rest) :
    tag = .dataLast ∨ tag = .dataMore := by
  induction fuel generalizing rest with
  | zero => cases h
  | succ fuel ih =>
      rw [pieces] at h
      split at h
      · rcases List.mem_cons.mp h with heq | hmem
        · cases heq
          exact .inr rfl
        · exact ih hmem
      · cases List.mem_singleton.mp h
        exact .inl rfl

theorem Tpdu.frameOf_bland {fuel : Nat} {slotId : UInt8} {spdu data : Bytes} {tag : TpduTag}
    (h : (tag, data) ∈ pieces fuel spdu) (hspdu : spdu ≠ []) (other : UInt8) :
    frameOf slotId tag data ≠ createFrame other ∧ frameOf slotId tag data ≠ receiveFrame other ∧
      frameOf slotId tag data ≠ pollFrame other := by
  obtain ⟨hcreate, hreceive⟩ := @frameOf_data_ne slotId other tag data (pieces_tag h)
  exact ⟨hcreate, hreceive, frameOf_data_ne_poll (pieces_tag h) (pieces_ne_nil hspdu h)⟩

def Tpdu.replies (slotsNum slotId : UInt8) (frame : Bytes) : Bool :=
  match Tpdu.parse frame slotsNum with
  | .ok parsed => parsed.tag = .ctcReply && parsed.slotId = slotId
  | _ => false

-- How far the last connection attempt of a slot has come: its TT_CREATE_TC is queued, the link has
-- taken it, and a TT_CTC_REPLY was read after that. An attempt whose TT_CREATE_TC is dropped from the
-- queue is given up.
inductive Handshake where
  | idle
  | asked
  | accepted
  | answered
  deriving DecidableEq, Repr

def Obs.shake (slotsNum slotId : UInt8) (stage : Handshake) : Obs → Handshake
  | .queued other frame => if other = slotId ∧ frame = Tpdu.createFrame slotId then .asked else stage
  | .wrote other frame (.ok ()) _ =>
      if stage = .asked ∧ other = slotId ∧ frame = Tpdu.createFrame slotId then .accepted else stage
  | .cleared other => if stage = .asked ∧ other = slotId then .idle else stage
  | .read frame => if stage = .accepted ∧ Tpdu.replies slotsNum slotId frame then .answered else stage
  | _ => stage

def handshakeOf (slotsNum slotId : UInt8) (trace : List Obs) : Handshake :=
  trace.foldl (Obs.shake slotsNum slotId) .idle

-- An entry that is no part of a connection attempt, but for the write of a frame, and no part of the
-- watch over the slots: only data frames that carry something are queued.
def Obs.Bland : Obs → Prop
  | .queued _ frame => ∀ slotId, frame ≠ Tpdu.createFrame slotId ∧ frame ≠ Tpdu.receiveFrame slotId ∧
      frame ≠ Tpdu.pollFrame slotId
  | .slotInfo _ => False
  | .cleared _ => False
  | .taken _ => False
  | .read _ => False
  | .activated _ => False
  | _ => True

section Stages

variable {slotsNum slotId : UInt8} {trace delta : List Obs} {obs : Obs}

@[simp] theorem handshake_snoc : handshakeOf slotsNum slotId (trace ++ [obs]) =
    obs.shake slotsNum slotId (handshakeOf slotsNum slotId trace) := by
  simp [handshakeOf]

theorem count_tail_le (queue : List Bytes) (frame : Bytes) : queue.tail.count frame ≤ queue.count frame :=
  (List.tail_sublist queue).count_le frame

theorem count_onSlot {slot : TransportSlot} {stage : Handshake}
    (hcount : slot.queue.count (Tpdu.createFrame slotId) ≤ if stage = .asked then 1 else 0)
    (hhead : ∀ frame result callback, obs = .wrote slotId frame result callback → slot.queue.head? = some frame)
    (hfresh : obs = .queued slotId (Tpdu.createFrame slotId) → slot.queue = []) :
    (obs.onSlot slotsNum slotId slot).queue.count (Tpdu.createFrame slotId) ≤
      if obs.shake slotsNum slotId stage = .asked then 1 else 0 := by
  cases obs with
  | queued other frame =>
      simp only [Obs.onSlot, Obs.shake]
      split
      · next heq =>
          subst heq
          by_cases hframe : frame = Tpdu.createFrame other
          · subst hframe
            simp [hfresh rfl]
          · simpa [hframe] using hcount
      · next hne => simpa [hne] using hcount
  | wrote other frame result callback =>
      by_cases heq : other = slotId
      · subst heq
        have hqueue := hhead frame result callback rfl
        obtain ⟨rest, hslot⟩ := List.head?_eq_some_iff.mp hqueue
        have htail := count_tail_le slot.queue (Tpdu.createFrame other)
        cases result with
        | ok _ =>
            simp only [Obs.onSlot, Obs.shake, if_true]
            by_cases hframe : frame = Tpdu.createFrame other
            · have hrest : slot.queue.tail.count (Tpdu.createFrame other) = 0 := by
                rw [hslot, ← hframe, List.count_cons_self] at hcount
                rw [hslot, List.tail_cons, ← hframe]
                split at hcount <;> omega
              rw [hrest]
              exact Nat.zero_le _
            · rw [if_neg (show ¬ (stage = .asked ∧ True ∧ frame = Tpdu.createFrame other) from fun h => hframe h.2.2)]
              exact Nat.le_trans htail hcount
        | error e =>
            simp only [Obs.onSlot, Obs.shake]
            split
            · exact Nat.le_trans htail hcount
            · exact hcount
      · have hstage : (Obs.wrote other frame result callback).shake slotsNum slotId stage = stage := by
          cases result with
          | ok _ => exact if_neg fun h => heq h.2.1
          | error e => rfl
        have hother : (Obs.wrote other frame result callback).slot ≠ some slotId := fun h => heq (Option.some.inj h)
        rw [onSlot_of_ne hother, hstage]
        exact hcount
  | cleared other =>
      simp only [Obs.onSlot, Obs.shake]
      split
      · exact Nat.zero_le _
      · next hne => simpa [hne] using hcount
  | read frame =>
      have hqueue : ((Obs.read frame).onSlot slotsNum slotId slot).queue = slot.queue := by
        simp only [Obs.onSlot]
        split
        · exact queue_afterRead slotsNum frame slot
        · rfl
      rw [hqueue, Obs.shake]
      split
      · next haccepted =>
          rw [haccepted.1] at hcount
          exact hcount
      · exact hcount
  | taken other =>
      simp only [Obs.onSlot, Obs.shake]
      split <;> exact hcount
  | _ => exact hcount

end Stages

def Asked (slotId : UInt8) (trace : List Obs) : Prop :=
  ∃ before since, trace = before ++ .queued slotId (Tpdu.createFrame slotId) :: since ∧
    .queued slotId (Tpdu.createFrame slotId) ∉ since ∧ .cleared slotId ∉ since

def Accepted (slotId : UInt8) (trace : List Obs) : Prop :=
  ∃ before callback since, trace = before ++ .wrote slotId (Tpdu.createFrame slotId) (.ok ()) callback :: since ∧
    Asked slotId before ∧ .queued slotId (Tpdu.createFrame slotId) ∉ since

def Answered (slotsNum slotId : UInt8) (trace : List Obs) : Prop :=
  ∃ before frame since, trace = before ++ .read frame :: since ∧ Tpdu.replies slotsNum slotId frame = true ∧
    Accepted slotId before ∧ .queued slotId (Tpdu.createFrame slotId) ∉ since

section Meaning

variable {slotsNum slotId : UInt8} {trace : List Obs} {obs : Obs}

def Handshake.Meant (slotsNum slotId : UInt8) (trace : List Obs) : Handshake → Prop
  | .idle => True
  | .asked => Asked slotId trace
  | .accepted => Accepted slotId trace
  | .answered => Answered slotsNum slotId trace

theorem not_mem_snoc {x : Obs} {since : List Obs} (h : x ∉ since) (hne : obs ≠ x) : x ∉ since ++ [obs] := by
  intro hmem
  rcases List.mem_append.mp hmem with hmem | hmem
  · exact h hmem
  · exact hne (List.mem_singleton.mp hmem).symm

theorem Handshake.Meant.snoc {stage : Handshake} (h : stage.Meant slotsNum slotId trace)
    (hqueued : obs ≠ .queued slotId (Tpdu.createFrame slotId))
    (hcleared : stage = .asked → obs ≠ .cleared slotId) : stage.Meant slotsNum slotId (trace ++ [obs]) := by
  cases stage with
  | idle => trivial
  | asked =>
      obtain ⟨before, since, rfl, hnone, hkept⟩ := h
      exact ⟨before, since ++ [obs], by simp, not_mem_snoc hnone hqueued, not_mem_snoc hkept (hcleared rfl)⟩
  | accepted =>
      obtain ⟨before, callback, since, rfl, hasked, hnone⟩ := h
      exact ⟨before, callback, since ++ [obs], by simp, hasked, not_mem_snoc hnone hqueued⟩
  | answered =>
      obtain ⟨before, frame, since, rfl, hreplies, haccepted, hnone⟩ := h
      exact ⟨before, frame, since ++ [obs], by simp, hreplies, haccepted, not_mem_snoc hnone hqueued⟩

theorem handshake_meant (trace : List Obs) : (handshakeOf slotsNum slotId trace).Meant slotsNum slotId trace := by
  induction trace using List.reverseRecOn with
  | nil => trivial
  | append_singleton trace obs ih =>
      rw [handshake_snoc]
      generalize handshakeOf slotsNum slotId trace = stage at ih
      cases obs with
      | queued other frame =>
          simp only [Obs.shake]
          split
          · next heq =>
              rw [heq.1, heq.2]
              exact ⟨trace, [], rfl, List.not_mem_nil, List.not_mem_nil⟩
          · next hne =>
              apply ih.snoc
              · intro heq
                cases heq
                exact hne ⟨rfl, rfl⟩
              · exact fun _ => nofun
      | wrote other frame result callback =>
          cases result with
          | ok _ =>
              simp only [Obs.shake]
              split
              · next heq =>
                  rw [heq.1] at ih
                  rw [heq.2.1, heq.2.2]
                  exact ⟨trace, callback, [], rfl, ih, List.not_mem_nil⟩
              · exact ih.snoc nofun fun _ => nofun
          | error e => exact ih.snoc nofun fun _ => nofun
      | cleared other =>
          simp only [Obs.shake]
          split
          · trivial
          · next hne =>
              refine ih.snoc (fun h => nomatch h) fun hasked heq => ?_
              cases heq
              exact hne ⟨hasked, rfl⟩
      | read frame =>
          simp only [Obs.shake]
          split
          · next heq =>
              rw [heq.1] at ih
              exact ⟨trace, frame, [], rfl, heq.2, ih, List.not_mem_nil⟩
          · exact ih.snoc nofun fun _ => nofun
      | _ => exact ih.snoc nofun fun _ => nofun

theorem answered_of_handshake (h : handshakeOf slotsNum slotId trace = .answered) :
    Answered slotsNum slotId trace := by
  have hmeant := @handshake_meant slotsNum slotId trace
  rw [h] at hmeant
  exact hmeant

end Meaning

theorem Obs.Carries.bland {P : UInt8 → UInt16 → Prop} {obs : Obs} (h : obs.Carries P) : obs.Bland := by
  cases obs with
  | queued slotId frame =>
      obtain ⟨sessionId, tag, body, _, hmem⟩ := h
      obtain ⟨⟨piece, data⟩, hpiece, heq⟩ := List.mem_map.mp hmem
      cases heq
      exact fun other => Tpdu.frameOf_bland hpiece (by simp [apduSpdu, Spdu.buildSessionNumber]) other
  | wrote slotId frame result callback => trivial
  | apdu slotId sessionId tag body => trivial
  | _ => exact h.elim

namespace CiTransport

variable {slotId : UInt8}

theorem bland_flush : Keeps (Within Obs.Bland) (flush slotId) := within_flush fun _ _ _ => trivial

theorem bland_sendSpdu {spdu : Bytes} (hspdu : spdu ≠ []) : Keeps (Within Obs.Bland) (sendSpdu slotId spdu) := by
  refine keeps_bind .trans within_checkSlot fun _ => ?_
  refine within_sendFragments (fun _ _ _ => trivial) _ _ fun obs hmem => ?_
  obtain ⟨⟨piece, data⟩, hpiece, rfl⟩ := List.mem_map.mp hmem
  exact fun other => Tpdu.frameOf_bland hpiece hspdu other

theorem bland_sendApdu (sessionId : UInt16) (tag : ApduTag) (body : Bytes) :
    Keeps (Within Obs.Bland) (sendApdu slotId sessionId tag body) := by
  intro t
  have hmono {t' : CiTransport} (h : Within (Obs.Carries (OnSession slotId sessionId)) t t') :
      Within Obs.Bland t t' := h.mono fun _ hobs => hobs.bland
  exact wlp_mono (sendApdu_carries sessionId tag body t) (fun _ _ h => hmono h) fun _ _ h => hmono h

end CiTransport

end LibDvb
