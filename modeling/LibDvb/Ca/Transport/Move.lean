import LibDvb.Basis.Path
import LibDvb.Ca.Transport.Trace

namespace LibDvb

def Error.IsWrite (e : Error) : Prop := e = CaDevice.shortWrite ∨ ∃ kind, e = .io kind "write"

def Obs.sends (slotId : UInt8) : Obs → Prop
  | .queued other _ => other = slotId
  | .wrote other _ _ _ => other = slotId
  | _ => False

-- Frames queued and written for one slot. A caller is `strict` when it stops at a failed write
-- until the link is reset.
def Sends (strict : Prop) (slotId : UInt8) (trace : List Obs) (obs : Obs) : Prop :=
  obs.sends slotId ∧ (strict → obs.writes → pending trace = false)

def Writes (strict : Prop) (slotId : UInt8) (trace : List Obs) (obs : Obs) : Prop :=
  (∃ frame result callback, obs = .wrote slotId frame result callback) ∧
    (strict → pending trace = false)

theorem Writes.sends {strict : Prop} {slotId : UInt8} {trace : List Obs} {obs : Obs}
    (h : Writes strict slotId trace obs) : Sends strict slotId trace obs := by
  obtain ⟨⟨frame, result, callback, rfl⟩, hp⟩ := h
  exact ⟨rfl, fun hstrict _ => hp hstrict⟩

def Broken (strict : Prop) (callback : Bool) (e : Error) (trace : List Obs) : Prop :=
  e.IsWrite ∧ e.transient = false ∧ ∃ before slotId frame,
    trace = before ++ [.wrote slotId frame (.error e) callback] ∧ (strict → pending before = false)

namespace CiTransport

open Act Outcome Relation

structure Move (obs : Obs) (t t' : CiTransport) : Prop where
  allowed : obs.Allowed t.slots t.trace
  slots : t'.slots = obs.effect t.slots
  trace : t'.trace = t.trace ++ [obs]
  callback : t'.callback = t.callback
  reads : t'.link.reads <:+ t.link.reads

def Step (P : List Obs → Obs → Prop) (t t' : CiTransport) : Prop :=
  ∃ obs, P t.trace obs ∧ Move obs t t'

variable {t t' : CiTransport} {P P' : List Obs → Obs → Prop} {strict : Prop} {slotId : UInt8}

theorem Step.mono (h : ∀ trace obs, P trace obs → P' trace obs) (hs : Step P t t') :
    Step P' t t' := by
  obtain ⟨obs, hobs, hmove⟩ := hs
  exact ⟨obs, h _ obs hobs, hmove⟩

theorem Move.length {obs : Obs} (h : Move obs t t') : t'.slots.length = t.slots.length := by
  rw [h.slots, length_effect]

theorem path_length (h : ReflTransGen (Step P) t t') : t'.slots.length = t.slots.length :=
  Path.order (r := fun a b : CiTransport => b.slots.length = a.slots.length) h (fun _ => rfl)
    (fun hab hbc => hbc.trans hab) fun _ _ ⟨_, _, hm⟩ => hm.length

theorem path_callback (h : ReflTransGen (Step P) t t') : t'.callback = t.callback :=
  Path.order (r := fun a b : CiTransport => b.callback = a.callback) h (fun _ => rfl)
    (fun hab hbc => hbc.trans hab) fun _ _ ⟨_, _, hm⟩ => hm.callback

theorem path_reads (h : ReflTransGen (Step P) t t') : t'.link.reads <:+ t.link.reads :=
  Path.order (r := fun a b : CiTransport => b.link.reads <:+ a.link.reads) h
    (fun _ => List.suffix_rfl) (fun hab hbc => hbc.trans hab) fun _ _ ⟨_, _, hm⟩ => hm.reads

theorem wp_note {obs : Obs} {Q : Unit → CiTransport → Prop} {E : Error → CiTransport → Prop} :
    wp (note obs) Q E t ↔ Q () { t with trace := t.trace ++ [obs] } := Iff.rfl

theorem wp_slotAt {Q : TransportSlot → CiTransport → Prop} {E : Error → CiTransport → Prop} :
    wp (slotAt slotId) Q E t ↔ ∃ h : slotId.toNat < t.slots.length, Q t.slots[slotId.toNat] t := by
  rw [slotAt, wp_bind, wp_get, wp_lift, sat_index]

theorem wp_modifySlot {f : TransportSlot → TransportSlot} {Q : Unit → CiTransport → Prop}
    {E : Error → CiTransport → Prop} :
    wp (modifySlot slotId f) Q E t ↔
      slotId.toNat < t.slots.length ∧ Q () { t with slots := modifyAt slotId f t.slots } := by
  rw [modifySlot, wp_bind, wp_slotAt]
  simp [modifyAt]

theorem wp_checkSlot {Q : Unit → CiTransport → Prop} {E : Error → CiTransport → Prop}
    (hs : slotId.toNat < t.slots.length) : wp (checkSlot slotId) Q E t ↔ Q () t := by
  simp [checkSlot, hs]

theorem sendMsg_spec (frame : Bytes) (link : CaDevice) :
    wp (CaDevice.sendMsg frame) (fun _ link' => link'.reads = link.reads)
      (fun e link' => link'.reads = link.reads ∧ e.IsWrite) link := by
  rw [CaDevice.sendMsg, wp_bind, wp_get]
  rcases link.writes with _ | ⟨result, rest⟩
  · exact rfl
  · cases result with
    | whole => exact rfl
    | short => exact ⟨rfl, .inl rfl⟩
    | failed kind => exact ⟨rfl, .inr ⟨kind, rfl⟩⟩

theorem move_note (obs : Obs) (ha : obs.Allowed t.slots t.trace) (he : obs.effect t.slots = t.slots) :
    Move obs t { t with trace := t.trace ++ [obs] } :=
  ⟨ha, he.symm, rfl, rfl, List.suffix_rfl⟩

theorem modifyAt_congr {f g : TransportSlot → TransportSlot} {slots : List TransportSlot}
    (h : ∀ slot, slots[slotId.toNat]? = some slot → f slot = g slot) :
    modifyAt slotId f slots = modifyAt slotId g slots := by
  refine List.ext_getElem? fun i => ?_
  simp only [modifyAt, List.getElem?_modify]
  by_cases hi : slotId.toNat = i
  · subst hi
    cases hslot : slots[slotId.toNat]? with
    | none => rfl
    | some slot => simp [h slot hslot]
  · simp [hi]

theorem pending_wrote {trace : List Obs} {frame : Bytes} {callback : Bool}
    {result : Except Error Unit} (hp : pending trace = false)
    (h : ∀ e, result = .error e → e.transient = true) :
    pending (trace ++ [.wrote slotId frame result callback]) = false := by
  cases result with
  | ok _ => simp [hp, Obs.fatal]
  | error e => simp [hp, Obs.fatal, h e rfl]

theorem flushSlot_wrote (hs : slotId.toNat < t.slots.length) :
    wp (flushSlot slotId)
      (fun _ t' => t' = t ∨ ∃ frame result, Move (.wrote slotId frame result t.callback) t t' ∧
        ∀ e, result = .error e → e.transient = true)
      (fun e t' => e.IsWrite ∧ e.transient = false ∧
        ∃ frame, Move (.wrote slotId frame (.error e) t.callback) t t') t := by
  have hslot : t.slots[slotId.toNat]? = some t.slots[slotId.toNat] := List.getElem?_eq_getElem hs
  rw [flushSlot, wp_bind, wp_slotAt]
  refine ⟨hs, ?_⟩
  cases hbusy : t.slots[slotId.toNat].busy with
  | true => exact .inl rfl
  | false =>
      cases hq : t.slots[slotId.toNat].queue with
      | nil => exact .inl rfl
      | cons frame rest =>
          have hqueue {slot : TransportSlot} (h : t.slots[slotId.toNat]? = some slot) :
              slot.queue.tail = rest := by
            rw [hslot, Option.some.injEq] at h
            rw [← h, hq, List.tail_cons]
          have hallowed (result : Except Error Unit) :
              (Obs.wrote slotId frame result t.callback).Allowed t.slots t.trace :=
            ⟨_, hslot, hbusy, by rw [hq, List.head?_cons]⟩
          simp only [Bool.false_eq_true, if_false, wp_bind, wp_attempt, wp_zoom, wp_get, wp_note]
          refine wp_mono (sendMsg_spec frame t.link) (fun _ link hreads => ?_)
            (fun e link hlink => ?_)
          · rw [wp_modifySlot]
            refine ⟨hs, .inr ⟨frame, .ok (), ⟨hallowed _, ?_, rfl, rfl, hreads ▸ List.suffix_rfl⟩, by rintro _ ⟨⟩⟩⟩
            exact modifyAt_congr fun slot h => by rw [hqueue h]
          · cases htransient : e.transient with
            | true =>
                refine .inr ⟨frame, .error e, ⟨hallowed _, ?_, rfl, rfl, hlink.1 ▸ List.suffix_rfl⟩, ?_⟩
                · simp only [Obs.effect, htransient, if_true]
                  rfl
                · rintro _ ⟨⟩
                  exact htransient
            | false =>
                simp only [Bool.false_eq_true, if_false, wp_bind, wp_modifySlot, wp_fail]
                refine ⟨hs, hlink.2, htransient, frame, hallowed _, ?_, rfl, rfl, hlink.1 ▸ List.suffix_rfl⟩
                simp only [Obs.effect, htransient, Bool.false_eq_true, if_false]
                exact modifyAt_congr fun slot h => by rw [hqueue h]

theorem flushSlot_spec (hs : slotId.toNat < t.slots.length) (hp : strict → pending t.trace = false) :
    Along (Step (Writes strict slotId)) (flushSlot slotId) (fun _ t' => strict → pending t'.trace = false)
      (fun e t' => Broken strict t.callback e t'.trace) t := by
  refine wp_mono (flushSlot_wrote hs) (fun _ t' ht => ?_) fun e t' ht => ?_
  · rcases ht with rfl | ⟨frame, result, hmove, htransient⟩
    · exact ⟨.refl, hp⟩
    · refine ⟨.single ⟨_, ⟨⟨frame, result, _, rfl⟩, hp⟩, hmove⟩, fun h => ?_⟩
      rw [hmove.trace]
      exact pending_wrote (hp h) htransient
  · obtain ⟨hwrite, htransient, frame, hmove⟩ := ht
    exact ⟨.single ⟨_, ⟨⟨frame, _, _, rfl⟩, hp⟩, hmove⟩, hwrite, htransient, t.trace, slotId, frame, hmove.trace, hp⟩

theorem flush_spec (hs : slotId.toNat < t.slots.length) (hp : strict → pending t.trace = false) :
    Along (Step (Writes strict slotId)) (flush slotId) (fun _ t' => strict → pending t'.trace = false)
      (fun e t' => Broken strict t.callback e t'.trace) t := by
  refine along_bind (Q := fun _ t' => t' = t) ?_ ?_
  · exact (wp_checkSlot hs).mpr ⟨.refl, rfl⟩
  · rintro _ _ _ rfl
    exact flushSlot_spec hs hp

theorem sendTpdu_spec {tag : TpduTag} {data frame : Bytes}
    (hs : slotId.toNat < t.slots.length) (hp : strict → pending t.trace = false)
    (hbuild : Tpdu.build slotId tag data = .ok frame) :
    Along (Step (Sends strict slotId)) (sendTpdu slotId tag data)
      (fun _ t' => strict → pending t'.trace = false) (fun e t' => Broken strict t.callback e t'.trace) t := by
  have hmove : Step (Sends strict slotId) t
      { t with
        slots := (Obs.queued slotId frame).effect t.slots
        trace := t.trace ++ [.queued slotId frame] } :=
    ⟨.queued slotId frame, ⟨rfl, fun _ h => nomatch h⟩, hs, rfl, rfl, rfl, List.suffix_rfl⟩
  have hp₁ : strict → pending (t.trace ++ [.queued slotId frame]) = false := fun h => by
    simp [hp h, Obs.fatal]
  rw [Along, sendTpdu]
  simp only [wp_bind, wp_checkSlot hs, wp_lift, hbuild, sat_ok, wp_modifySlot, wp_note]
  refine ⟨hs, wp_mono (along_weaken (flush_spec ?_ hp₁) fun _ _ => Step.mono fun _ _ => Writes.sends)
    (fun _ _ h => ?_) (fun _ _ h => ?_)⟩
  · simpa using hs
  · exact ⟨.head hmove h.1, h.2⟩
  · exact ⟨.head hmove h.1, h.2⟩

theorem ne_max (hs : slotId.toNat < t.slots.length) (hn : t.slots.length ≤ 255) :
    slotId ≠ 255 := by
  rintro rfl
  exact absurd hs (Nat.not_lt.mpr hn)

theorem sendFragments_spec (hs : slotId.toNat < t.slots.length) (hn : t.slots.length ≤ 255)
    (hp : strict → pending t.trace = false) :
    ∀ (fuel : Nat) (rest : Bytes), rest.length < fuel →
      Along (Step (Sends strict slotId)) (sendFragments slotId fuel rest)
        (fun _ t' => strict → pending t'.trace = false) (fun e t' => Broken strict t.callback e t'.trace) t := by
  intro fuel
  induction fuel generalizing t with
  | zero => exact fun rest h => absurd h (Nat.not_lt_zero _)
  | succ fuel ih =>
      intro rest hlen
      rw [sendFragments]
      by_cases hlong : rest.length > Tpdu.maxTpduData
      · have hbuild : ∃ frame,
            Tpdu.build slotId .dataMore ((rest.take Tpdu.maxTpduData).drop 0) = .ok frame :=
          Tpdu.build_data (ne_max hs hn) (.inr rfl) (List.length_take_le _ _)
        obtain ⟨frame, hbuild⟩ := hbuild
        have hslice : (slice rest 0 Tpdu.maxTpduData : Outcome Error Bytes) =
            .ok ((rest.take Tpdu.maxTpduData).drop 0) := by
          simp [slice, Nat.le_of_lt hlong]
        rw [if_pos hlong]
        refine along_ok_bind hslice (along_bind (sendTpdu_spec hs hp hbuild) fun _ t' hpath hp' => ?_)
        rw [← path_callback hpath]
        refine ih ?_ ?_ hp' _ ?_
        · rw [path_length hpath]
          exact hs
        · rw [path_length hpath]
          exact hn
        · rw [List.length_drop]
          have : 0 < Tpdu.maxTpduData := by decide
          omega
      · obtain ⟨frame, hbuild⟩ := Tpdu.build_data (ne_max hs hn) (.inl rfl) (Nat.not_lt.mp hlong)
        rw [if_neg hlong]
        exact sendTpdu_spec hs hp hbuild

theorem sendSpdu_spec (spdu : Bytes) (hs : slotId.toNat < t.slots.length)
    (hn : t.slots.length ≤ 255) (hp : strict → pending t.trace = false) :
    Along (Step (Sends strict slotId)) (sendSpdu slotId spdu) (fun _ t' => strict → pending t'.trace = false)
      (fun e t' => Broken strict t.callback e t'.trace) t := by
  refine along_bind (Q := fun _ t' => t' = t) ((wp_checkSlot hs).mpr ⟨.refl, rfl⟩) ?_
  rintro _ _ _ rfl
  exact sendFragments_spec hs hn hp _ _ (Nat.lt_succ_self _)

theorem sendApdu_spec (sessionId : UInt16) (tag : ApduTag) (body : Bytes)
    (hs : slotId.toNat < t.slots.length) (hn : t.slots.length ≤ 255)
    (hp : strict → pending t.trace = false) :
    let t₁ := { t with trace := t.trace ++ [.apdu slotId sessionId tag body] }
    wp (sendApdu slotId sessionId tag body)
      (fun _ t' => ReflTransGen (Step (Sends strict slotId)) t₁ t' ∧ body.length ≤ 65535 ∧
        (strict → pending t'.trace = false))
      (fun e t' => ReflTransGen (Step (Sends strict slotId)) t₁ t' ∧
        ((body.length ≤ 65535 ∧ Broken strict t.callback e t'.trace) ∨
          (65535 < body.length ∧ t' = t₁ ∧
            e = .invalidProperty s!"ca apdu body is too large: {body.length} bytes"))) t := by
  intro t₁
  rw [sendApdu, wp_bind, wp_note]
  by_cases hlong : body.length > 65535
  · rw [if_pos hlong]
    exact ⟨.refl, .inr ⟨hlong, rfl, rfl⟩⟩
  · rw [if_neg hlong]
    have hp₁ : strict → pending t₁.trace = false := fun h => by simp [t₁, hp h, Obs.fatal]
    have hshort := Nat.not_lt.mp hlong
    exact wp_mono (sendSpdu_spec (t := t₁) _ hs hn hp₁) (fun _ _ h => ⟨h.1, hshort, h.2⟩)
      (fun _ _ h => ⟨h.1, .inl ⟨hshort, h.2⟩⟩)

theorem wp_recvParsed {parsed : Tpdu.RTpdu} {slot : TransportSlot}
    {Q : Option TransportRecv → CiTransport → Prop} {E : Error → CiTransport → Prop}
    (h : t.slots[parsed.slotId.toNat]? = some slot) :
    wp (recvParsed parsed) Q E t ↔ Q (some (slot.receive parsed).1)
      { t with slots := modifyAt parsed.slotId (fun slot => (slot.receive parsed).2) t.slots } := by
  obtain ⟨hs, hget⟩ := List.getElem?_eq_some_iff.mp h
  have houtcome {recv : TransportRecv} {slot' : TransportSlot} {f : TransportSlot → TransportSlot}
      (hreceive : slot.receive parsed = (recv, slot')) (hf : f slot = slot') :
      Q (some recv) { t with slots := modifyAt parsed.slotId f t.slots } ↔
        Q (some (slot.receive parsed).1)
          { t with slots := modifyAt parsed.slotId (fun slot => (slot.receive parsed).2) t.slots } := by
    have hslots : modifyAt parsed.slotId f t.slots =
        modifyAt parsed.slotId (fun slot => (slot.receive parsed).2) t.slots := by
      refine modifyAt_congr fun other hother => ?_
      rw [h, Option.some.injEq] at hother
      rw [← hother, hf, hreceive]
    rw [hslots, hreceive]
  have hat {f : TransportSlot → TransportSlot}
      (hb : parsed.slotId.toNat < (modifyAt parsed.slotId f t.slots).length) :
      (modifyAt parsed.slotId f t.slots)[parsed.slotId.toNat] = f slot := by
    simp [modifyAt, hget]
  simp only [recvParsed, wp_bind, wp_modifySlot, hs, true_and]
  by_cases hreply : parsed.tag = .ctcReply
  · rw [if_pos hreply, wp_pure]
    exact houtcome (by simp only [TransportSlot.receive, if_pos hreply]) rfl
  rw [if_neg hreply]
  by_cases hdata : parsed.tag = .dataMore ∨ parsed.tag = .dataLast
  · simp only [if_pos hdata, wp_bind, wp_slotAt, length_modifyAt, hs, exists_true_left, hat]
    by_cases hover : slot.rxBuffer.length + parsed.body.length > Tpdu.maxTpduSize
    · simp only [if_pos hover, wp_bind, wp_modifySlot, length_modifyAt, hs, true_and, wp_pure,
        modifyAt_modifyAt]
      exact houtcome (by
        simp only [TransportSlot.receive, if_neg hreply, if_pos hdata, if_pos hover,
          Function.comp_apply]) rfl
    · simp only [if_neg hover, wp_bind, wp_modifySlot, length_modifyAt, hs, true_and,
        modifyAt_modifyAt]
      by_cases hmore : parsed.tag = .dataMore ∨ slot.rxBuffer ++ parsed.body = []
      · rw [if_pos hmore, wp_pure]
        exact houtcome (by
          simp only [TransportSlot.receive, if_neg hreply, if_pos hdata, if_neg hover,
            if_pos hmore, Function.comp_apply]) rfl
      · simp only [if_neg hmore, wp_bind, wp_modifySlot, length_modifyAt, hs, true_and, wp_pure,
          modifyAt_modifyAt]
        exact houtcome (by
          simp only [TransportSlot.receive, if_neg hreply, if_pos hdata, if_neg hover,
            if_neg hmore, Function.comp_apply]) rfl
  · rw [if_neg hdata]
    by_cases hsb : parsed.tag = .sb
    · rw [if_pos hsb, wp_pure]
      exact houtcome (by
        simp only [TransportSlot.receive, if_neg hreply, if_neg hdata, if_pos hsb]) rfl
    · rw [if_neg hsb, wp_pure]
      exact houtcome (by
        simp only [TransportSlot.receive, if_neg hreply, if_neg hdata, if_neg hsb]) rfl

theorem parse_slot {frame : Bytes} {parsed : Tpdu.RTpdu} {slotsNum : UInt8}
    (h : Tpdu.parse frame slotsNum = .ok parsed) :
    frame.head? = some parsed.slotId ∧ parsed.slotId < slotsNum := by
  have hsat := Tpdu.parse_sat frame slotsNum
  rw [h] at hsat
  exact ⟨hsat.1, hsat.2.1⟩

theorem toNat_slotsNum (hn : t.slots.length ≤ 255) : t.slotsNum.toNat = t.slots.length := by
  rw [slotsNum, UInt8.toNat_ofNat']
  omega

theorem move_read {frame : Bytes} {slots : List TransportSlot}
    (h : (Obs.read frame).effect t.slots = slots) :
    Move (.read frame) t { t with slots, trace := t.trace ++ [.read frame] } :=
  ⟨trivial, h.symm, rfl, rfl, List.suffix_rfl⟩

theorem recvFrame_spec (frame : Bytes) (hne : frame ≠ []) (hn : t.slots.length ≤ 255) :
    wp (recvFrame frame)
      (fun recv t' => Move (.read frame) t t' ∧ t'.link = t.link ∧ ∃ r, recv = some r ∧
        received frame t.slots = some r ∧ frame.head? = some r.slotId ∧
        r.slotId.toNat < t.slots.length)
      (fun _ t' => Move (.read frame) t t' ∧ t'.link = t.link ∧
        ∀ slotId, frame.head? = some slotId → t.slots.length ≤ slotId.toNat) t := by
  have hlen : frame.length ≠ 0 := fun h => hne (List.length_eq_zero_iff.mp h)
  have hsat := Tpdu.parse_sat frame t.slotsNum
  obtain ⟨first, hhead⟩ : ∃ first, frame.head? = some first :=
    ⟨frame.head hne, List.head?_eq_some_head hne⟩
  simp only [recvFrame, if_neg hlen, wp_bind, wp_note, wp_get]
  by_cases hfirst : first < t.slotsNum
  · have hs : first.toNat < t.slots.length := by
      rw [← toNat_slotsNum hn]
      exact UInt8.lt_iff_toNat_lt.mp hfirst
    have hslot : t.slots[first.toNat]? = some t.slots[first.toNat] := List.getElem?_eq_getElem hs
    have hframe : Tpdu.frameSlotId frame t.slotsNum = some first :=
      Tpdu.frameSlotId_eq_some.mpr ⟨hhead, hfirst⟩
    have heffect (f : TransportSlot → TransportSlot)
        (hf : ∀ slot, TransportSlot.afterRead t.slotsNum frame slot = f slot) :
        (Obs.read frame).effect t.slots = modifyAt first f t.slots := by
      simp only [Obs.effect, hhead]
      exact modifyAt_congr fun slot _ => hf slot
    rw [slotsNum] at hframe hsat heffect
    simp only [slotsNum, hframe, wp_bind, wp_modifySlot, hs, true_and, wp_lift, sat_attempt]
    cases hparse : Tpdu.parse frame (UInt8.ofNat t.slots.length) with
    | panic => exact absurd (hparse ▸ hsat) sat_panic
    | err e =>
        rw [hparse] at hsat
        obtain ⟨context, rfl⟩ := hsat
        refine ⟨move_read (heffect _ fun slot => ?_), rfl, .malformed first context, rfl, ?_, hhead, hs⟩
        · simp only [TransportSlot.afterRead, hparse]
        · simp only [received, hparse, hframe, Option.map_some]
    | ok parsed =>
        have hparsed : parsed.slotId = first := by
          have := (parse_slot hparse).1
          rw [hhead, Option.some.injEq] at this
          exact this.symm
        subst hparsed
        have hslot₁ : (modifyAt parsed.slotId (fun slot => { slot with busy := false })
            t.slots)[parsed.slotId.toNat]? =
              some { t.slots[parsed.slotId.toNat] with busy := false } := by
          rw [getElem?_modifyAt, if_pos rfl, hslot, Option.map_some]
        rw [sat_ok, wp_recvParsed hslot₁]
        refine ⟨move_read ?_, rfl, _, rfl, ?_, ?_, ?_⟩
        · rw [modifyAt_modifyAt]
          refine heffect _ fun slot => ?_
          simp only [TransportSlot.afterRead, hparse, Function.comp_apply]
        · simp only [received, hparse, hslot, Option.map_some, TransportSlot.receive_busy]
        · rw [TransportSlot.receive_slotId]
          exact hhead
        · rw [TransportSlot.receive_slotId]
          exact hs
  · have hnone : Tpdu.frameSlotId frame t.slotsNum = none := by
      cases h : Tpdu.frameSlotId frame t.slotsNum with
      | none => rfl
      | some slotId =>
          obtain ⟨hslotId, hlt⟩ := Tpdu.frameSlotId_eq_some.mp h
          rw [hhead, Option.some.injEq] at hslotId
          exact absurd (hslotId ▸ hlt) hfirst
    have hlarge : t.slots.length ≤ first.toNat := by
      rw [← toNat_slotsNum hn]
      exact Nat.not_lt.mp fun h => hfirst (UInt8.lt_iff_toNat_lt.mpr h)
    have heffect : (Obs.read frame).effect t.slots = t.slots := by
      simp only [Obs.effect, hhead, modifyAt]
      exact List.modify_eq_self hlarge
    rw [slotsNum] at hnone hsat hfirst
    simp only [slotsNum, hnone, wp_bind, wp_lift, sat_attempt]
    cases hparse : Tpdu.parse frame (UInt8.ofNat t.slots.length) with
    | panic => exact absurd (hparse ▸ hsat) sat_panic
    | ok parsed =>
        obtain ⟨hslotId, hlt⟩ := parse_slot hparse
        rw [hhead, Option.some.injEq] at hslotId
        exact absurd (hslotId ▸ hlt) hfirst
    | err e =>
        rw [hparse] at hsat
        obtain ⟨context, rfl⟩ := hsat
        refine ⟨move_read heffect, rfl, fun slotId hslotId => ?_⟩
        rw [hhead, Option.some.injEq] at hslotId
        exact hslotId ▸ hlarge

theorem Move.relink {obs : Obs} {link : CaDevice} (h : Move obs { t with link } t')
    (hreads : link.reads <:+ t.link.reads) : Move obs t t' :=
  ⟨h.allowed, h.slots, h.trace, h.callback, h.reads.trans hreads⟩

def Takes (t : CiTransport) (frame : Bytes) (t' : CiTransport) : Prop :=
  frame ≠ [] ∧ ∃ raw, t.link.reads = .frame raw :: t'.link.reads ∧
    frame = raw.take Tpdu.maxTpduSize

theorem Takes.first {frame : Bytes} (h : Takes t frame t') :
    ∃ result, t.link.reads.head? = some result ∧ result.first = frame.head? := by
  obtain ⟨_, raw, hreads, rfl⟩ := h
  refine ⟨.frame raw, by simp [hreads], ?_⟩
  rw [List.head?_take, if_neg (by decide)]
  rfl

theorem recvApdu_spec (hn : t.slots.length ≤ 255) :
    wp recvApdu
      (fun recv t' => (recv = none ∧ Move .noFrame t t') ∨
        ∃ frame r, Takes t frame t' ∧ Move (.read frame) t t' ∧ recv = some r ∧
          received frame t.slots = some r ∧ frame.head? = some r.slotId ∧
          r.slotId.toNat < t.slots.length)
      (fun e t' => (Move (.readFailed e) t t' ∧ (∀ frame, ¬ Takes t frame t') ∧
          ∃ result ∈ t.link.reads, result.first = none) ∨
        ∃ frame, Takes t frame t' ∧ Move (.read frame) t t' ∧
          ∀ slotId, frame.head? = some slotId → t.slots.length ≤ slotId.toNat) t := by
  rw [recvApdu, wp_bind, wp_attempt, wp_zoom, CaDevice.recvMsg, wp_bind, wp_get]
  cases hreads : (linkLens.get t).reads with
  | nil => exact .inl ⟨rfl, move_note .noFrame trivial rfl⟩
  | cons result rest =>
      have hlink : t.link.reads = result :: rest := hreads
      have hle : rest <:+ t.link.reads := by simp [hlink]
      simp only [wp_bind, wp_modify]
      cases result with
      | failed kind =>
          by_cases hkind : kind = .wouldBlock
          · simp only [if_pos hkind, wp_pure]
            exact .inl ⟨rfl, (move_note .noFrame trivial rfl).relink hle⟩
          · simp only [if_neg hkind, wp_fail]
            refine .inl ⟨(move_note (.readFailed _) trivial rfl).relink hle, ?_,
              .failed kind, by simp [hlink], rfl⟩
            rintro frame ⟨_, raw, hraw, _⟩
            rw [hlink] at hraw
            cases hraw
      | frame bytes =>
          by_cases hempty : bytes.take Tpdu.maxTpduSize = []
          · simp only [if_pos hempty, wp_fail]
            have hnone : (ReadResult.frame bytes).first = none := by
              rcases List.take_eq_nil_iff.mp hempty with hzero | rfl
              · exact absurd hzero (by decide)
              · rfl
            refine .inl ⟨(move_note (.readFailed _) trivial rfl).relink hle, ?_,
              .frame bytes, by simp [hlink], hnone⟩
            rintro frame ⟨hne, raw, hraw, rfl⟩
            rw [hlink] at hraw
            cases hraw
            exact hne hempty
          · simp only [if_neg hempty, wp_pure]
            have hspec := recvFrame_spec (bytes.take Tpdu.maxTpduSize) hempty
              (t := linkLens.set { linkLens.get t with reads := rest } t) hn
            refine wp_mono hspec (fun recv t' h => .inr ?_) (fun e t' h => .inr ?_)
            · obtain ⟨hmove, hlink', r, hr⟩ := h
              refine ⟨_, r, ⟨hempty, bytes, ?_, rfl⟩, hmove.relink hle, hr⟩
              rw [hlink, hlink']
              rfl
            · obtain ⟨hmove, hlink', hlarge⟩ := h
              refine ⟨_, ⟨hempty, bytes, ?_, rfl⟩, hmove.relink hle, hlarge⟩
              rw [hlink, hlink']
              rfl

theorem clearSlot_spec (hs : slotId.toNat < t.slots.length) :
    wp (clearSlot slotId) (fun _ t' => Move (.cleared slotId) t t' ∧ t'.link = t.link)
      (fun _ _ => False) t := by
  have hslot : t.slots[slotId.toNat]? = some t.slots[slotId.toNat] := List.getElem?_eq_getElem hs
  simp only [clearSlot, wp_bind, wp_get, hslot, wp_modifySlot, wp_note]
  exact ⟨hs, ⟨hs, rfl, rfl, rfl, List.suffix_rfl⟩, trivial⟩

theorem takeDataPending_spec (hs : slotId.toNat < t.slots.length) :
    wp (takeDataPending slotId) (fun _ t' => Move (.taken slotId) t t' ∧ t'.link = t.link)
      (fun _ _ => False) t := by
  have hslot : t.slots[slotId.toNat]? = some t.slots[slotId.toNat] := List.getElem?_eq_getElem hs
  simp only [takeDataPending, wp_bind, wp_get, hslot, wp_modifySlot, wp_note, wp_pure]
  exact ⟨hs, ⟨hs, rfl, rfl, rfl, List.suffix_rfl⟩, trivial⟩

end CiTransport

theorem received_known {slotId : UInt8} {frame spdu : Bytes} {slots : List TransportSlot}
    (h : received frame slots = some (.spdu slotId spdu)) :
    frame.head? = some slotId ∧ ∃ slot, slots[slotId.toNat]? = some slot := by
  unfold received at h
  dsimp only at h
  split at h
  · next parsed hparse =>
      obtain ⟨slot, hslot, hrecv⟩ := Option.map_eq_some_iff.mp h
      have hslotId := TransportSlot.receive_slotId parsed slot
      rw [hrecv] at hslotId
      cases hslotId
      exact ⟨(CiTransport.parse_slot hparse).1, slot, hslot⟩
  · cases hframe : Tpdu.frameSlotId frame (UInt8.ofNat slots.length) <;> simp [hframe] at h
  · cases h

end LibDvb
