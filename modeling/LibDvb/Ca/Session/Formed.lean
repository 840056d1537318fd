import LibDvb.Ca.Session.Wire

namespace LibDvb

open Act Outcome

variable {slotId : UInt8} {frame : Bytes}

structure Tpdu.Formed (slotId : UInt8) (tag : TpduTag) (data frame : Bytes) : Prop where
  slot : slotId ≠ 255
  spelled : frame = slotId :: (slotId + 1) :: tag.raw ::
    (Asn1.encode (UInt16.ofNat (data.length + 1)) ++ (slotId + 1) :: data)
  carries : (tag = .createTc ∨ tag = .rcv) ∧ data = [] ∨ tag = .dataLast ∧ data.length ≤ maxTpduData ∨
    tag = .dataMore ∧ data.length = maxTpduData

theorem Tpdu.Formed.length_le {tag : TpduTag} {data : Bytes} (h : Tpdu.Formed slotId tag data frame) :
    frame.length ≤ Tpdu.maxTpduSize := by
  have hfield := (Asn1.length_encode (UInt16.ofNat (data.length + 1))).2
  have hdata : data.length ≤ Tpdu.maxTpduData := by
    rcases h.carries with ⟨_, rfl⟩ | ⟨_, hle⟩ | ⟨_, heq⟩
    · exact Nat.zero_le _
    · exact hle
    · exact heq.le
  rw [h.spelled]
  simp only [List.length_cons, List.length_append, Tpdu.maxTpduSize, Tpdu.maxTpduData] at *
  omega

theorem formed_data {tag : TpduTag} {data : Bytes} (hslot : slotId ≠ 255) (htag : tag = .dataLast ∨ tag = .dataMore)
    (hlen : data.length ≤ Tpdu.maxTpduData) (hmore : tag = .dataMore → data.length = Tpdu.maxTpduData) :
    Tpdu.Formed slotId tag data (Tpdu.frameOf slotId tag data) := by
  obtain ⟨frame, hbuild⟩ := Tpdu.build_data hslot htag hlen
  obtain ⟨_, _, hframe⟩ := Tpdu.build_data_eq htag hbuild
  refine ⟨hslot, ?_, .inr ?_⟩
  · rw [Tpdu.frameOf, hbuild]
    dsimp only
    rw [hframe, UInt16.ofNat_add]
    simp
  · rcases htag with rfl | rfl
    · exact .inl ⟨rfl, hlen⟩
    · exact .inr ⟨rfl, hmore rfl⟩

theorem formed_pieces (hslot : slotId ≠ 255) : ∀ (fuel : Nat) (rest : Bytes) {tag : TpduTag} {data : Bytes},
    (tag, data) ∈ Tpdu.pieces fuel rest → Tpdu.Formed slotId tag data (Tpdu.frameOf slotId tag data) := by
  intro fuel
  induction fuel with
  | zero => rintro rest tag data ⟨⟩
  | succ fuel ih =>
      intro rest tag data hmem
      rw [Tpdu.pieces] at hmem
      split at hmem
      · next hlong =>
          rcases List.mem_cons.mp hmem with heq | hmem
          · cases heq
            have hfull : (rest.take Tpdu.maxTpduData).length = Tpdu.maxTpduData :=
              List.length_take_of_le (Nat.le_of_lt hlong)
            exact formed_data hslot (.inr rfl) hfull.le fun _ => hfull
          · exact ih _ hmem
      · next hshort =>
          cases List.mem_singleton.mp hmem
          exact formed_data hslot (.inl rfl) (Nat.not_lt.mp hshort) (by rintro ⟨⟩)

theorem Utterance.formed (hslot : slotId ≠ 255) (utterance : Utterance) (h : frame ∈ utterance.frames slotId) :
    ∃ tag data, Tpdu.Formed slotId tag data frame := by
  cases utterance with
  | create =>
      rw [List.mem_singleton.mp h]
      exact ⟨.createTc, [], hslot, rfl, .inl ⟨.inl rfl, rfl⟩⟩
  | receive =>
      rw [List.mem_singleton.mp h]
      exact ⟨.rcv, [], hslot, rfl, .inl ⟨.inr rfl, rfl⟩⟩
  | poll =>
      rw [List.mem_singleton.mp h]
      exact ⟨.dataLast, [], hslot, rfl, .inr (.inl ⟨rfl, Nat.zero_le _⟩)⟩
  | spdu bytes carries =>
      obtain ⟨⟨tag, data⟩, hmem, rfl⟩ := List.mem_map.mp h
      exact ⟨tag, data, formed_pieces hslot _ _ hmem⟩

def CiTransport.Logs (P : Obs → Prop) (t t' : CiTransport) : Prop :=
  t.slots.length ≤ 255 → CiTransport.Within P t t'

section Logs

open CiTransport

variable {P : Obs → Prop} {t t' : CiTransport}

theorem logs_trans {t'' : CiTransport} (h : Logs P t t') (h' : Logs P t' t'') : Logs P t t'' := by
  intro hn
  have hfirst := h hn
  have hlength : t'.slots.length = t.slots.length := hfirst.sameLength
  exact hfirst.trans (h' (hlength ▸ hn))

theorem keeps_logs {α : Type} {m : Act Error CiTransport α} (hm : Keeps (Within P) m) : Keeps (Logs P) m :=
  fun t => wlp_mono (hm t) (fun _ _ h _ => h) fun _ _ h _ => h

theorem habit_logs (hentry : ∀ obs : Obs, (∀ slotId frame, obs ≠ .queued slotId frame) → P obs)
    (hframe : ∀ slotId, slotId ≠ 255 → ∀ (utterance : Utterance), ∀ frame ∈ utterance.frames slotId,
      P (.queued slotId frame)) : Habit (Logs P) := by
  have hwrote (slotId : UInt8) (frame : Bytes) (result : Except Error Unit) (callback : Bool) :
      P (.wrote slotId frame result callback) := hentry _ (by rintro _ _ ⟨⟩)
  have hsame {t t' : CiTransport} (h : t' = t) : Within P t t' := by
    rw [h]
    exact .refl t
  have hspdu (slotId : UInt8) {spdu : Bytes} (hne : spdu ≠ []) : Keeps (Within P) (sendSpdu slotId spdu) := by
    intro t
    by_cases hslot : slotId = 255
    · exact wlp_mono (sendSpdu_invalid _ (.inl hslot)) (fun _ _ hf => hf.elim) fun _ _ ht => hsame ht
    · refine keeps_bind .trans within_checkSlot (fun _ => ?_) t
      refine within_sendFragments (hwrote slotId) _ _ fun obs hmem => ?_
      obtain ⟨piece, hpiece, rfl⟩ := List.mem_map.mp hmem
      exact hframe slotId hslot (.spdu spdu hne) _ (List.mem_map.mpr ⟨piece, hpiece, rfl⟩)
  have hnote {obs : Obs} (hobs : ∀ slotId frame, obs ≠ .queued slotId frame) (he : ∀ slots, obs.effect slots = slots) :
      Keeps (Within P) (note obs) := within_note (hentry obs hobs) he
  have hmove {obs : Obs} {t t' : CiTransport} (h : Move obs t t') (hobs : ∀ slotId frame, obs ≠ .queued slotId frame) :
      Logs P t t' := fun _ => .move h (hentry obs hobs)
  constructor
  · exact fun t _ => .refl t
  · exact logs_trans
  · exact fun t _ _ => Within.refl t
  · exact fun t => ⟨fun _ _ _ => Within.refl t, fun _ _ _ => Within.refl t⟩
  · exact fun t => ⟨fun _ _ _ => Within.refl t, fun _ _ _ => Within.refl t⟩
  · exact fun _ t => ⟨fun _ _ _ => Within.refl t, fun _ _ _ => Within.refl t⟩
  · intro obs hobs
    refine keeps_logs (hnote ?_ ?_)
    · rintro slotId frame rfl
      exact hobs
    · cases obs with
      | dispatched | activated | slotInfo | reset => exact fun _ => rfl
      | _ => exact hobs.elim
  · exact fun slotId => keeps_logs (within_flush (hwrote slotId))
  · intro slotId tag htag t
    by_cases hslot : slotId = 255
    · exact wlp_mono (sendTpdu_invalid _ _ (.inl hslot)) (fun _ _ hf => hf.elim) fun _ _ ht _ => hsame ht
    · obtain ⟨talk, htalk, _⟩ := spontaneous_command hslot htag
      have hmem : Tpdu.frameOf slotId tag [] ∈ talk.flatMap (Utterance.frames slotId) := htalk ▸ List.mem_singleton_self _
      obtain ⟨utterance, _, hmem⟩ := List.mem_flatMap.mp hmem
      exact keeps_logs (within_sendTpdu (hwrote slotId) (hframe slotId hslot utterance _ hmem)) t
  · intro slotId sessionId tag body _
    refine keeps_logs (keeps_bind .trans (hnote (by rintro _ _ ⟨⟩) fun _ => rfl) fun _ => ?_)
    split
    · exact keeps_fail .refl _
    · exact hspdu slotId (by rintro ⟨⟩)
  · intro slotId resourceId sessionId
    refine keeps_logs (keeps_bind .trans (hspdu slotId (by rintro ⟨⟩)) fun _ => ?_)
    exact hnote (by rintro _ _ ⟨⟩) fun _ => rfl
  · exact fun slotId status resourceId _ => keeps_logs (hspdu slotId (by rintro ⟨⟩))
  · exact fun slotId sessionId => keeps_logs (hspdu slotId (by rintro ⟨⟩))
  · exact fun slotId status sessionId => keeps_logs (hspdu slotId (by rintro ⟨⟩))
  · intro t
    by_cases hn : t.slots.length ≤ 255
    · refine wlp_of_wp (wp_mono (recvApdu_spec hn) (fun _ t' ht => ?_) fun _ t' ht => ?_)
      · rcases ht with ⟨_, h⟩ | ⟨_, _, _, h, _⟩
        · exact hmove h (by rintro _ _ ⟨⟩)
        · exact hmove h (by rintro _ _ ⟨⟩)
      · rcases ht with ⟨h, _⟩ | ⟨_, _, h, _⟩
        · exact hmove h (by rintro _ _ ⟨⟩)
        · exact hmove h (by rintro _ _ ⟨⟩)
    · exact ⟨fun _ _ h => absurd h hn, fun _ _ h => absurd h hn⟩
  · intro slotId t
    by_cases hs : slotId.toNat < t.slots.length
    · refine wlp_of_wp (wp_mono (takeDataPending_spec hs) (fun _ t' ht => ?_) fun _ _ hf => hf.elim)
      exact hmove ht.1 (by rintro _ _ ⟨⟩)
    · have hnone : t.slots[slotId.toNat]? = none := List.getElem?_eq_none (Nat.not_lt.mp hs)
      simp only [takeDataPending, wlp_bind, wlp_get, hnone, wlp_pure]
      exact fun _ => .refl t
  · intro slotId t
    by_cases hs : slotId.toNat < t.slots.length
    · refine wlp_of_wp (wp_mono (clearSlot_spec hs) (fun _ t' ht => ?_) fun _ _ hf => hf.elim)
      exact hmove ht.1 (by rintro _ _ ⟨⟩)
    · have hnone : t.slots[slotId.toNat]? = none := List.getElem?_eq_none (Nat.not_lt.mp hs)
      simp only [clearSlot, wlp_bind, wlp_get, hnone, wlp_pure]
      exact fun _ => .refl t

end Logs

end LibDvb
