import LibDvb.Ca.Transport.Run

namespace LibDvb

open Act Outcome

def Obs.tells : Obs → Bool
  | .queued _ _ => true
  | .opened _ _ => true
  | .dispatched _ _ => true
  | _ => false

def told (trace : List Obs) : List Obs := trace.filter Obs.tells

@[simp] theorem told_append (trace more : List Obs) : told (trace ++ more) = told trace ++ told more :=
  List.filter_append ..

def Breaks (trace trace' : List Obs) : Prop :=
  ∃ delta, trace' = trace ++ delta ∧ ¬ Whole delta

def Tells (entries trace trace' : List Obs) : Prop :=
  ∃ delta, trace' = trace ++ delta ∧ (Whole delta → told delta = entries)

section Tells

variable {entries more trace trace' trace'' : List Obs} {obs : Obs}

theorem Whole.left (h : Whole (trace ++ more)) : Whole trace :=
  fun obs hmem => h obs (List.mem_append_left _ hmem)

theorem Whole.right (h : Whole (trace ++ more)) : Whole more :=
  fun obs hmem => h obs (List.mem_append_right _ hmem)

theorem Whole.append (h : Whole trace) (h' : Whole more) : Whole (trace ++ more) := by
  intro obs hmem
  rcases List.mem_append.mp hmem with hmem | hmem
  · exact h obs hmem
  · exact h' obs hmem

theorem Tells.refl (trace : List Obs) : Tells [] trace trace := ⟨[], by simp, fun _ => rfl⟩

theorem Tells.trans (h : Tells entries trace trace') (h' : Tells more trace' trace'') :
    Tells (entries ++ more) trace trace'' := by
  obtain ⟨delta, rfl, hdelta⟩ := h
  obtain ⟨delta', rfl, hdelta'⟩ := h'
  refine ⟨delta ++ delta', List.append_assoc .., fun hw => ?_⟩
  rw [told_append, hdelta hw.left, hdelta' hw.right]

theorem Tells.note (obs : Obs) (trace : List Obs) : Tells (told [obs]) trace (trace ++ [obs]) :=
  ⟨[obs], rfl, fun _ => rfl⟩

theorem Breaks.tells (h : Breaks trace trace') : Tells entries trace trace' := by
  obtain ⟨delta, rfl, hdelta⟩ := h
  exact ⟨delta, rfl, fun hw => absurd hw hdelta⟩

theorem Tells.breaks (h : Tells entries trace trace') (h' : Breaks trace' trace'') : Breaks trace trace'' := by
  obtain ⟨delta, rfl, _⟩ := h
  obtain ⟨delta', rfl, hdelta'⟩ := h'
  exact ⟨delta ++ delta', List.append_assoc .., fun hw => hdelta' hw.right⟩

theorem Breaks.trans (h : Breaks trace trace') (h' : Tells entries trace' trace'') : Breaks trace trace'' := by
  obtain ⟨delta, rfl, hdelta⟩ := h
  obtain ⟨delta', rfl, _⟩ := h'
  exact ⟨delta ++ delta', List.append_assoc .., fun hw => hdelta hw.left⟩

theorem Tells.whole {delta : List Obs} (h : Tells entries trace (trace ++ delta)) (hw : Whole delta) :
    told delta = entries := by
  obtain ⟨delta', heq, hdelta⟩ := h
  rw [List.append_cancel_left heq] at hw ⊢
  exact hdelta hw

theorem Breaks.not_whole {delta : List Obs} (h : Breaks trace (trace ++ delta)) : ¬ Whole delta := by
  obtain ⟨delta', heq, hdelta⟩ := h
  rw [List.append_cancel_left heq]
  exact hdelta

end Tells

def Tpdu.frameOf (slotId : UInt8) (tag : TpduTag) (data : Bytes) : Bytes :=
  match Tpdu.build slotId tag data with
  | .ok frame => frame
  | _ => []

-- The pieces `send_spdu` cuts an SPDU into.
def Tpdu.pieces : Nat → Bytes → List (TpduTag × Bytes)
  | 0, _ => []
  | fuel + 1, rest =>
      if rest.length > maxTpduData then
        (.dataMore, rest.take maxTpduData) :: pieces fuel (rest.drop maxTpduData)
      else
        [(.dataLast, rest)]

def queuedPieces (slotId : UInt8) (pieces : List (TpduTag × Bytes)) : List Obs :=
  pieces.map fun (tag, data) => .queued slotId (Tpdu.frameOf slotId tag data)

def queuedSpdu (slotId : UInt8) (spdu : Bytes) : List Obs :=
  queuedPieces slotId (Tpdu.pieces (spdu.length + 1) spdu)

def apduSpdu (sessionId : UInt16) (tag : ApduTag) (body : Bytes) : Bytes :=
  Spdu.buildSessionNumber sessionId ++ Apdu.build tag body

def Objects (P : UInt8 → UInt16 → Prop) (entries : List Obs) : Prop :=
  ∃ objects : List ((UInt8 × UInt16) × ApduTag × Bytes), (∀ o ∈ objects, P o.1.1 o.1.2) ∧
    entries = objects.flatMap fun ((slotId, sessionId), tag, body) =>
      queuedSpdu slotId (apduSpdu sessionId tag body)

def OnSession (slotId : UInt8) (sessionId : UInt16) (slot : UInt8) (session : UInt16) : Prop :=
  slot = slotId ∧ session = sessionId

def Talks (P : UInt8 → UInt16 → Prop) (trace trace' : List Obs) : Prop :=
  ∃ entries, Objects P entries ∧ Tells entries trace trace'

section Talks

variable {P P' : UInt8 → UInt16 → Prop} {slotId : UInt8} {sessionId : UInt16}
  {entries more trace trace' trace'' : List Obs}

theorem Objects.nil (P : UInt8 → UInt16 → Prop) : Objects P [] := ⟨[], nofun, rfl⟩

theorem Objects.single (h : P slotId sessionId) (tag : ApduTag) (body : Bytes) :
    Objects P (queuedSpdu slotId (apduSpdu sessionId tag body)) := by
  refine ⟨[((slotId, sessionId), tag, body)], ?_, by simp⟩
  intro o hmem
  rw [List.mem_singleton.mp hmem]
  exact h

theorem Objects.append (h : Objects P entries) (h' : Objects P more) : Objects P (entries ++ more) := by
  obtain ⟨objects, hall, rfl⟩ := h
  obtain ⟨objects', hall', rfl⟩ := h'
  refine ⟨objects ++ objects', ?_, by rw [List.flatMap_append]⟩
  intro o hmem
  rcases List.mem_append.mp hmem with hmem | hmem
  · exact hall o hmem
  · exact hall' o hmem

theorem Objects.mono (h : Objects P entries) (hp : ∀ slotId sessionId, P slotId sessionId → P' slotId sessionId) :
    Objects P' entries := by
  obtain ⟨objects, hall, rfl⟩ := h
  exact ⟨objects, fun o hmem => hp _ _ (hall o hmem), rfl⟩

theorem Talks.refl (P : UInt8 → UInt16 → Prop) (trace : List Obs) : Talks P trace trace :=
  ⟨[], .nil P, .refl trace⟩

theorem Talks.trans (h : Talks P trace trace') (h' : Talks P trace' trace'') : Talks P trace trace'' := by
  obtain ⟨entries, hobjects, htells⟩ := h
  obtain ⟨more, hmore, htells'⟩ := h'
  exact ⟨entries ++ more, hobjects.append hmore, htells.trans htells'⟩

theorem Talks.mono (h : Talks P trace trace') (hp : ∀ slotId sessionId, P slotId sessionId → P' slotId sessionId) :
    Talks P' trace trace' := by
  obtain ⟨entries, hobjects, htells⟩ := h
  exact ⟨entries, hobjects.mono hp, htells⟩

theorem Breaks.talks (h : Breaks trace trace') : Talks P trace trace' := ⟨[], .nil P, h.tells⟩

end Talks

def Obs.Carries (P : UInt8 → UInt16 → Prop) : Obs → Prop
  | .apdu slotId sessionId _ _ => P slotId sessionId
  | .queued slotId frame => ∃ sessionId tag body, P slotId sessionId ∧
      .queued slotId frame ∈ queuedSpdu slotId (apduSpdu sessionId tag body)
  | .wrote _ _ _ _ => True
  | _ => False

theorem Obs.Carries.mono {P P' : UInt8 → UInt16 → Prop} {obs : Obs} (h : obs.Carries P)
    (hp : ∀ slotId sessionId, P slotId sessionId → P' slotId sessionId) : obs.Carries P' := by
  cases obs with
  | apdu slotId sessionId tag body => exact hp _ _ h
  | queued slotId frame =>
      obtain ⟨sessionId, tag, body, hsession, hmem⟩ := h
      exact ⟨sessionId, tag, body, hp _ _ hsession, hmem⟩
  | wrote slotId frame result callback => trivial
  | _ => exact h.elim

namespace CiTransport

variable {t t' : CiTransport} {slotId : UInt8}

theorem wlp_slotAt {Q : TransportSlot → CiTransport → Prop} {E : Error → CiTransport → Prop}
    (h : ∀ slot, t.slots[slotId.toNat]? = some slot → Q slot t) : wlp (slotAt slotId) Q E t := by
  rw [slotAt, wlp_bind, wlp_get, wlp_lift]
  unfold index
  split
  · next slot hslot =>
      refine ⟨fun other hother => h other ?_, by rintro _ ⟨⟩⟩
      rw [← Outcome.ok.inj hother]
      exact hslot
  · exact ⟨by rintro _ ⟨⟩, by rintro _ ⟨⟩⟩

theorem wlp_modifySlot {f : TransportSlot → TransportSlot} {Q : Unit → CiTransport → Prop}
    {E : Error → CiTransport → Prop} (h : Q () { t with slots := modifyAt slotId f t.slots }) :
    wlp (modifySlot slotId f) Q E t := by
  rw [modifySlot, wlp_bind]
  exact wlp_slotAt fun _ _ => wlp_modify.mpr h

theorem wlp_note {obs : Obs} {Q : Unit → CiTransport → Prop} {E : Error → CiTransport → Prop} :
    wlp (note obs) Q E t ↔ Q () { t with trace := t.trace ++ [obs] } := wlp_modify

theorem flushSlot_tells : wlp (flushSlot slotId)
    (fun _ t' => Tells [] t.trace t'.trace ∧ t'.slots.length = t.slots.length)
    (fun _ t' => Breaks t.trace t'.trace) t := by
  rw [flushSlot, wlp_bind]
  refine wlp_slotAt fun slot _ => ?_
  split
  · exact wlp_pure.mpr ⟨.refl _, rfl⟩
  · split
    · exact wlp_pure.mpr ⟨.refl _, rfl⟩
    · next frame rest _ =>
        have hwrote (result : Except Error Unit) (callback : Bool) :
            Tells [] t.trace (t.trace ++ [.wrote slotId frame result callback]) := .note _ _
        have hany : wlp (CaDevice.sendMsg frame) (fun _ _ => True) (fun _ _ => True) t.link :=
          ⟨fun _ _ => trivial, fun _ _ => trivial⟩
        simp only [wlp_bind, wlp_attempt, wlp_zoom, wlp_get, wlp_note]
        refine wlp_mono hany (fun _ link _ => ?_) fun e link _ => ?_
        · exact wlp_modifySlot ⟨hwrote _ _, length_modifyAt ..⟩
        · split
          · exact wlp_pure.mpr ⟨hwrote _ _, rfl⟩
          · next hfatal =>
              refine wlp_bind.mpr (wlp_modifySlot (wlp_fail.mpr ⟨_, rfl, fun hw => hfatal ?_⟩))
              have hwhole := hw _ (List.mem_singleton_self _)
              simpa [Obs.refused] using hwhole

theorem flush_tells (hs : slotId.toNat < t.slots.length) : wlp (flush slotId)
    (fun _ t' => Tells [] t.trace t'.trace ∧ t'.slots.length = t.slots.length)
    (fun _ t' => Breaks t.trace t'.trace) t := by
  rw [flush, wlp_bind]
  exact wlp_of_wp ((wp_checkSlot hs).mpr flushSlot_tells)

theorem keeps_flush : Keeps (fun t t' => Tells [] t.trace t'.trace) (flush slotId) := by
  intro t
  by_cases hs : slotId.toNat < t.slots.length
  · exact wlp_mono (flush_tells hs) (fun _ _ ht => ht.1) fun _ _ ht => ht.tells
  · rw [flush, wlp_bind]
    exact wlp_mono (wlp_of_wp (wp_checkSlot_invalid (Q := fun _ _ => False) (E := fun _ t' => t' = t) hs
      fun _ => rfl)) (fun _ _ hf => hf.elim) fun _ t' ht => ht ▸ .refl _

theorem recvApdu_frame {raw : Bytes} {rest : List ReadResult} (hn : t.slots.length ≤ 255)
    (hreads : t.link.reads = .frame raw :: rest) (hne : raw.take Tpdu.maxTpduSize ≠ []) :
    wp recvApdu
      (fun recv t' => Move (.read (raw.take Tpdu.maxTpduSize)) t t' ∧
        ∃ r, recv = some r ∧ received (raw.take Tpdu.maxTpduSize) t.slots = some r)
      (fun _ t' => Move (.read (raw.take Tpdu.maxTpduSize)) t t' ∧
        ∀ slotId, (raw.take Tpdu.maxTpduSize).head? = some slotId → t.slots.length ≤ slotId.toNat) t := by
  have hle : rest <:+ t.link.reads := by simp [hreads]
  rw [recvApdu, wp_bind, wp_attempt, wp_zoom, CaDevice.recvMsg, wp_bind, wp_get]
  rw [show (linkLens.get t).reads = .frame raw :: rest from hreads]
  simp only [wp_bind, wp_modify, if_neg hne, wp_pure]
  refine wp_mono (recvFrame_spec _ hne hn) (fun recv t' h => ?_) fun e t' h => ?_
  · obtain ⟨hmove, _, r, hrecv, hreceived, _⟩ := h
    exact ⟨hmove.relink hle, r, hrecv, hreceived⟩
  · exact ⟨h.1.relink hle, h.2.2⟩

theorem sendTpdu_tells {tag : TpduTag} {data : Bytes} (hs : slotId.toNat < t.slots.length)
    (hbuild : ∃ frame, Tpdu.build slotId tag data = .ok frame) : wlp (sendTpdu slotId tag data)
      (fun _ t' => Tells [.queued slotId (Tpdu.frameOf slotId tag data)] t.trace t'.trace ∧
        t'.slots.length = t.slots.length)
      (fun _ t' => Breaks t.trace t'.trace) t := by
  obtain ⟨frame, hbuild⟩ := hbuild
  have hframe : Tpdu.frameOf slotId tag data = frame := by rw [Tpdu.frameOf, hbuild]
  rw [sendTpdu, wlp_bind]
  refine wlp_of_wp ((wp_checkSlot hs).mpr ?_)
  rw [hbuild, hframe, wlp_bind, wlp_lift]
  refine ⟨fun _ h => ?_, by rintro _ ⟨⟩⟩
  rw [← Outcome.ok.inj h, wlp_bind]
  refine wlp_modifySlot ?_
  rw [wlp_bind, wlp_note]
  have hnote := Tells.note (.queued slotId frame) t.trace
  refine wlp_mono (flush_tells ?_) (fun _ t' ht => ?_) fun _ t' ht => hnote.breaks ht
  · rw [length_modifyAt]
    exact hs
  · exact ⟨hnote.trans ht.1, ht.2.trans (length_modifyAt ..)⟩

theorem sendFragments_tells (hslot : slotId ≠ 255) : ∀ (fuel : Nat) (rest : Bytes) (t : CiTransport),
    slotId.toNat < t.slots.length → wlp (sendFragments slotId fuel rest)
      (fun _ t' => Tells (queuedPieces slotId (Tpdu.pieces fuel rest)) t.trace t'.trace ∧
        t'.slots.length = t.slots.length)
      (fun _ t' => Breaks t.trace t'.trace) t := by
  intro fuel
  induction fuel with
  | zero => exact fun _ _ _ => wlp_fault
  | succ fuel ih =>
      intro rest t hs
      rw [sendFragments, Tpdu.pieces]
      split
      · next hlong =>
          have htake : (slice rest 0 Tpdu.maxTpduData : Outcome Error Bytes) =
              .ok (rest.take Tpdu.maxTpduData) := by
            rw [slice, if_pos ⟨Nat.zero_le _, Nat.le_of_lt hlong⟩, List.drop_zero]
          rw [htake, wlp_bind, wlp_lift]
          refine ⟨fun _ h => ?_, by rintro _ ⟨⟩⟩
          rw [← Outcome.ok.inj h, wlp_bind]
          have hbuild := Tpdu.build_data hslot (.inr rfl) (List.length_take_le Tpdu.maxTpduData rest)
          refine wlp_mono (sendTpdu_tells hs hbuild) (fun _ t' ht => ?_) fun _ _ ht => ht
          obtain ⟨htells, hlength⟩ := ht
          refine wlp_mono (ih _ t' (hlength ▸ hs)) (fun _ t'' ht' => ?_) fun _ _ ht' => htells.breaks ht'
          exact ⟨htells.trans ht'.1, ht'.2.trans hlength⟩
      · next hshort =>
          have hbuild := Tpdu.build_data hslot (.inl rfl) (Nat.not_lt.mp hshort)
          exact sendTpdu_tells hs hbuild

theorem sendSpdu_tells (spdu : Bytes) (hs : slotId.toNat < t.slots.length) (hslot : slotId ≠ 255) :
    wlp (sendSpdu slotId spdu)
      (fun _ t' => Tells (queuedSpdu slotId spdu) t.trace t'.trace ∧ t'.slots.length = t.slots.length)
      (fun _ t' => Breaks t.trace t'.trace) t := by
  rw [sendSpdu, wlp_bind]
  exact wlp_of_wp ((wp_checkSlot hs).mpr (sendFragments_tells hslot _ _ t hs))

section Within

def Within (A : Obs → Prop) (t t' : CiTransport) : Prop :=
  ∃ delta, t'.trace = t.trace ++ delta ∧ t'.slots = delta.foldl Obs.effect t.slots ∧ ∀ obs ∈ delta, A obs

variable {A A' : Obs → Prop}

theorem Within.mono (h : Within A t t') (ha : ∀ obs, A obs → A' obs) : Within A' t t' := by
  obtain ⟨delta, htrace, hslots, hall⟩ := h
  exact ⟨delta, htrace, hslots, fun obs hmem => ha obs (hall obs hmem)⟩

theorem Within.refl (t : CiTransport) : Within A t t := ⟨[], by simp, rfl, nofun⟩

theorem Within.trans {t'' : CiTransport} (h : Within A t t') (h' : Within A t' t'') : Within A t t'' := by
  obtain ⟨delta, htrace, hslots, hall⟩ := h
  obtain ⟨delta', htrace', hslots', hall'⟩ := h'
  refine ⟨delta ++ delta', by rw [htrace', htrace, List.append_assoc], ?_, fun obs hmem => ?_⟩
  · rw [hslots', hslots, List.foldl_append]
  · rcases List.mem_append.mp hmem with hmem | hmem
    · exact hall obs hmem
    · exact hall' obs hmem

theorem Within.move {obs : Obs} (h : Move obs t t') (ha : A obs) : Within A t t' := by
  refine ⟨[obs], h.trace, h.slots, fun other hmem => ?_⟩
  rw [List.mem_singleton.mp hmem]
  exact ha

theorem Within.path {P : List Obs → Obs → Prop} (h : Relation.ReflTransGen (Step P) t t')
    (ha : ∀ trace obs, P trace obs → A obs) : Within A t t' :=
  LibDvb.Path.order h .refl .trans fun _ _ ⟨obs, hobs, hmove⟩ => .move hmove (ha _ obs hobs)

theorem within_note {obs : Obs} (h : A obs) (he : ∀ slots, obs.effect slots = slots) :
    Keeps (Within A) (note obs) := by
  refine keeps_modify fun t => ⟨[obs], rfl, (he t.slots).symm, fun other hmem => ?_⟩
  rw [List.mem_singleton.mp hmem]
  exact h

theorem within_checkSlot : Keeps (Within A) (checkSlot slotId) := by
  apply keeps_bind .trans (keeps_get .refl)
  intro t
  split
  · exact keeps_pure .refl ()
  · exact keeps_fail .refl _

theorem within_flush (hwrote : ∀ frame result callback, A (.wrote slotId frame result callback)) :
    Keeps (Within A) (flush slotId) := by
  intro t
  by_cases hs : slotId.toNat < t.slots.length
  · have hpath {t' : CiTransport} (h : Relation.ReflTransGen (Step (Writes False slotId)) t t') : Within A t t' := by
      refine .path h fun _ obs hobs => ?_
      obtain ⟨⟨frame, result, callback, rfl⟩, _⟩ := hobs
      exact hwrote frame result callback
    exact wlp_of_wp (wp_mono (@flush_spec t False slotId hs nofun) (fun _ _ ht => hpath ht.1) fun _ _ ht => hpath ht.1)
  · rw [flush, wlp_bind]
    exact wlp_of_wp (wp_checkSlot_invalid hs fun _ => .refl t)

theorem within_sendTpdu {tag : TpduTag} {data : Bytes}
    (hwrote : ∀ frame result callback, A (.wrote slotId frame result callback))
    (hqueued : A (.queued slotId (Tpdu.frameOf slotId tag data))) : Keeps (Within A) (sendTpdu slotId tag data) := by
  apply keeps_bind .trans within_checkSlot
  intro _ t
  rw [wlp_bind, wlp_lift]
  refine ⟨fun frame hframe => ?_, fun _ _ => .refl t⟩
  have hnote : A (.queued slotId frame) := by
    rw [Tpdu.frameOf, hframe] at hqueued
    exact hqueued
  rw [wlp_bind]
  refine wlp_modifySlot ?_
  rw [wlp_bind, wlp_note]
  have hqueue : Within A t { t with
      slots := modifyAt slotId (fun slot => { slot with queue := slot.queue ++ [frame] }) t.slots
      trace := t.trace ++ [.queued slotId frame] } := by
    refine ⟨[.queued slotId frame], rfl, rfl, fun obs hmem => ?_⟩
    rw [List.mem_singleton.mp hmem]
    exact hnote
  exact wlp_mono (within_flush hwrote _) (fun _ _ ht => hqueue.trans ht) fun _ _ ht => hqueue.trans ht

theorem within_sendFragments (hwrote : ∀ frame result callback, A (.wrote slotId frame result callback)) :
    ∀ (fuel : Nat) (rest : Bytes), (∀ obs ∈ queuedPieces slotId (Tpdu.pieces fuel rest), A obs) →
      Keeps (Within A) (sendFragments slotId fuel rest) := by
  intro fuel
  induction fuel with
  | zero => exact fun _ _ _ => wlp_fault
  | succ fuel ih =>
      intro rest hall
      rw [Tpdu.pieces] at hall
      rw [sendFragments]
      split
      · next hlong =>
          rw [if_pos hlong] at hall
          intro t
          rw [wlp_bind, wlp_lift]
          refine ⟨fun piece hpiece => ?_, fun _ _ => .refl t⟩
          rw [slice, if_pos ⟨Nat.zero_le _, Nat.le_of_lt hlong⟩, List.drop_zero] at hpiece
          rw [← Outcome.ok.inj hpiece]
          have hfirst := hall _ List.mem_cons_self
          exact keeps_bind .trans (within_sendTpdu hwrote hfirst)
            (fun _ => ih _ fun obs hmem => hall obs (List.mem_cons_of_mem _ hmem)) t
      · next hshort =>
          rw [if_neg hshort] at hall
          exact within_sendTpdu hwrote (hall _ (List.mem_singleton_self _))

theorem within_sendApdu {sessionId : UInt16} {tag : ApduTag} {body : Bytes}
    (hwrote : ∀ frame result callback, A (.wrote slotId frame result callback))
    (hapdu : A (.apdu slotId sessionId tag body))
    (hqueued : ∀ obs ∈ queuedSpdu slotId (apduSpdu sessionId tag body), A obs) :
    Keeps (Within A) (sendApdu slotId sessionId tag body) := by
  apply keeps_bind .trans (within_note hapdu fun _ => rfl)
  intro _
  split
  · exact keeps_fail .refl _
  · exact keeps_bind .trans within_checkSlot fun _ => within_sendFragments hwrote _ _ hqueued

theorem sendApdu_carries (sessionId : UInt16) (tag : ApduTag) (body : Bytes) :
    Keeps (Within (Obs.Carries (OnSession slotId sessionId))) (sendApdu slotId sessionId tag body) := by
  refine within_sendApdu (fun _ _ _ => trivial) ⟨rfl, rfl⟩ fun obs hmem => ?_
  obtain ⟨⟨piece, data⟩, _, rfl⟩ := List.mem_map.mp hmem
  exact ⟨sessionId, tag, body, ⟨rfl, rfl⟩, hmem⟩

end Within

section Unwritten

def Unwritten (t t' : CiTransport) : Prop := t'.link.writes = t.link.writes

theorem Unwritten.refl (t : CiTransport) : Unwritten t t := rfl

theorem Unwritten.trans {t'' : CiTransport} (h : Unwritten t t') (h' : Unwritten t' t'') : Unwritten t t'' := Eq.trans h' h

theorem unwritten_slotAt : Keeps Unwritten (slotAt slotId) :=
  keeps_bind .trans (keeps_get Unwritten.refl) fun _ => keeps_lift Unwritten.refl _

theorem unwritten_modifySlot (f : TransportSlot → TransportSlot) : Keeps Unwritten (modifySlot slotId f) :=
  keeps_bind .trans unwritten_slotAt fun _ => keeps_modify fun _ => rfl

theorem unwritten_note (obs : Obs) : Keeps Unwritten (note obs) := keeps_modify fun _ => rfl

theorem unwritten_recvParsed (parsed : Tpdu.RTpdu) : Keeps Unwritten (recvParsed parsed) := by
  refine keeps_bind .trans (unwritten_modifySlot _) fun _ => ?_
  split
  · exact keeps_pure Unwritten.refl _
  · split
    · refine keeps_bind .trans unwritten_slotAt fun slot => ?_
      split
      · exact keeps_bind .trans (unwritten_modifySlot _) fun _ => keeps_pure Unwritten.refl _
      · refine keeps_bind .trans (unwritten_modifySlot _) fun _ => ?_
        split
        · exact keeps_pure Unwritten.refl _
        · exact keeps_bind .trans (unwritten_modifySlot _) fun _ => keeps_pure Unwritten.refl _
    · split
      · exact keeps_pure Unwritten.refl _
      · exact keeps_pure Unwritten.refl _

-- What is made of a frame that was read.
def recvBytes (frame : Bytes) (slotsNum : UInt8) (frameSlot : Option UInt8) :
    Act Error CiTransport (Option TransportRecv) := do
  match ← lift (Tpdu.parse frame slotsNum).attempt with
  | .ok parsed => recvParsed parsed
  | .error (.invalidData context) =>
      match frameSlot with
      | some slotId => pure (some (.malformed slotId context))
      | none => fail (.invalidData context)
  | .error e => fail e

theorem unwritten_recvFrame (frame : Bytes) : Keeps Unwritten (recvFrame frame) := by
  have hparse (slotsNum : UInt8) (frameSlot : Option UInt8) : Keeps Unwritten (recvBytes frame slotsNum frameSlot) := by
    refine keeps_bind .trans (keeps_lift Unwritten.refl _) fun result => ?_
    split
    · exact unwritten_recvParsed _
    · split
      · exact keeps_pure Unwritten.refl _
      · exact keeps_fail Unwritten.refl _
    · exact keeps_fail Unwritten.refl _
  rw [recvFrame]
  split
  · exact keeps_fail Unwritten.refl _
  · refine keeps_bind .trans (unwritten_note _) fun _ => keeps_bind .trans (keeps_get Unwritten.refl) fun t => ?_
    dsimp only
    split
    · exact keeps_bind .trans (unwritten_modifySlot _) fun _ => hparse t.slotsNum (some _)
    · exact hparse t.slotsNum none

theorem unwritten_recvMsg (size : Nat) : Keeps Unwritten (zoom linkLens (CaDevice.recvMsg size)) := by
  have hinner : Keeps (fun link link' : CaDevice => link'.writes = link.writes) (CaDevice.recvMsg size) := by
    intro link
    rw [CaDevice.recvMsg, wlp_bind, wlp_get]
    split
    · exact wlp_pure.mpr rfl
    · rw [wlp_bind, wlp_modify]
      split
      · split
        · exact wlp_fail.mpr rfl
        · exact wlp_pure.mpr rfl
      · split
        · exact wlp_pure.mpr rfl
        · exact wlp_fail.mpr rfl
  exact keeps_zoom hinner fun _ _ h => h

theorem unwritten_recvApdu : Keeps Unwritten recvApdu := by
  refine keeps_bind .trans (keeps_attempt (unwritten_recvMsg _)) fun result => ?_
  split
  · exact keeps_bind .trans (unwritten_note _) fun _ => keeps_pure Unwritten.refl _
  · exact unwritten_recvFrame _
  · exact keeps_bind .trans (unwritten_note _) fun _ => keeps_fail Unwritten.refl _

end Unwritten

section Length

def SameLength (t t' : CiTransport) : Prop := t'.slots.length = t.slots.length

theorem SameLength.refl (t : CiTransport) : SameLength t t := rfl

theorem SameLength.trans {t'' : CiTransport} (h : SameLength t t') (h' : SameLength t' t'') :
    SameLength t t'' := Eq.trans h' h

theorem Within.sameLength {A : Obs → Prop} (h : Within A t t') : SameLength t t' := by
  obtain ⟨delta, _, hslots, _⟩ := h
  rw [SameLength, hslots, length_foldl_effect]

theorem sameLength_modifySlot (f : TransportSlot → TransportSlot) : Keeps SameLength (modifySlot slotId f) :=
  keeps_bind .trans (keeps_bind .trans (keeps_get SameLength.refl) fun _ => keeps_lift SameLength.refl _) fun _ =>
    keeps_modify fun _ => List.length_modify ..

theorem sameLength_note (obs : Obs) : Keeps SameLength (note obs) := keeps_modify fun _ => rfl

theorem sameLength_checkSlot : Keeps SameLength (checkSlot slotId) := by
  apply keeps_bind .trans (keeps_get SameLength.refl)
  intro t
  split
  · exact keeps_pure SameLength.refl ()
  · exact keeps_fail SameLength.refl _

theorem sameLength_flushSlot : Keeps SameLength (flushSlot slotId) := by
  apply keeps_bind .trans
  · exact keeps_bind .trans (keeps_get SameLength.refl) fun _ => keeps_lift SameLength.refl _
  · intro slot
    split
    · exact keeps_pure SameLength.refl ()
    · split
      · exact keeps_pure SameLength.refl ()
      · apply keeps_bind .trans
        · exact keeps_attempt fun _ => ⟨fun _ _ => rfl, fun _ _ => rfl⟩
        · intro result
          apply keeps_bind .trans (keeps_get SameLength.refl)
          intro t
          apply keeps_bind .trans (sameLength_note _)
          intro _
          split
          · exact sameLength_modifySlot _
          · split
            · exact keeps_pure SameLength.refl ()
            · exact keeps_bind .trans (sameLength_modifySlot _) fun _ => keeps_fail SameLength.refl _

theorem sameLength_flush : Keeps SameLength (flush slotId) :=
  keeps_bind .trans sameLength_checkSlot fun _ => sameLength_flushSlot

theorem sameLength_sendTpdu (tag : TpduTag) (data : Bytes) : Keeps SameLength (sendTpdu slotId tag data) := by
  apply keeps_bind .trans sameLength_checkSlot
  intro _
  apply keeps_bind .trans (keeps_lift SameLength.refl _)
  intro frame
  apply keeps_bind .trans (sameLength_modifySlot _)
  intro _
  exact keeps_bind .trans (sameLength_note _) fun _ => sameLength_flush

theorem sameLength_sendFragments : ∀ (fuel : Nat) (rest : Bytes),
    Keeps SameLength (sendFragments slotId fuel rest) := by
  intro fuel
  induction fuel with
  | zero => exact fun _ _ => wlp_fault
  | succ fuel ih =>
      intro rest
      rw [sendFragments]
      split
      · apply keeps_bind .trans (keeps_lift SameLength.refl _)
        exact fun _ => keeps_bind .trans (sameLength_sendTpdu _ _) fun _ => ih _
      · exact sameLength_sendTpdu _ _

theorem sameLength_sendSpdu (spdu : Bytes) : Keeps SameLength (sendSpdu slotId spdu) :=
  keeps_bind .trans sameLength_checkSlot fun _ => sameLength_sendFragments _ _

theorem sameLength_sendApdu (sessionId : UInt16) (tag : ApduTag) (body : Bytes) :
    Keeps SameLength (sendApdu slotId sessionId tag body) := by
  apply keeps_bind .trans (sameLength_note _)
  intro _
  split
  · exact keeps_fail SameLength.refl _
  · exact sameLength_sendSpdu _

end Length

theorem build_invalid (tag : TpduTag) (data : Bytes) : ∃ e, Tpdu.build 255 tag data = .err e := by
  refine ⟨.invalidProperty s!"ca tpdu invalid slot id {(255 : UInt8)}", ?_⟩
  rfl

theorem sendTpdu_invalid (tag : TpduTag) (data : Bytes) (h : slotId = 255 ∨ ¬ slotId.toNat < t.slots.length) :
    wlp (sendTpdu slotId tag data) (fun _ _ => False) (fun _ t' => t' = t) t := by
  rw [sendTpdu, wlp_bind]
  by_cases hs : slotId.toNat < t.slots.length
  · refine wlp_of_wp ((wp_checkSlot hs).mpr ?_)
    rcases h with rfl | hn
    · obtain ⟨e, hbuild⟩ := build_invalid tag data
      rw [hbuild, wlp_bind, wlp_lift]
      exact ⟨by rintro _ ⟨⟩, fun _ _ => rfl⟩
    · exact absurd hs hn
  · exact wlp_of_wp (wp_checkSlot_invalid hs fun _ => rfl)

theorem sendSpdu_invalid (spdu : Bytes) (h : slotId = 255 ∨ ¬ slotId.toNat < t.slots.length) :
    wlp (sendSpdu slotId spdu) (fun _ _ => False) (fun _ t' => t' = t) t := by
  rw [sendSpdu, wlp_bind]
  by_cases hs : slotId.toNat < t.slots.length
  · refine wlp_of_wp ((wp_checkSlot hs).mpr ?_)
    rw [sendFragments]
    split
    · rw [wlp_bind, wlp_lift]
      refine ⟨fun _ _ => ?_, fun _ _ => rfl⟩
      rw [wlp_bind]
      exact wlp_mono (sendTpdu_invalid _ _ h) (fun _ _ hf => hf.elim) fun _ _ ht => ht
    · exact sendTpdu_invalid _ _ h
  · exact wlp_of_wp (wp_checkSlot_invalid hs fun _ => rfl)

theorem sendApdu_talks (sessionId : UInt16) (tag : ApduTag) (body : Bytes) :
    Keeps (fun t t' => Talks (OnSession slotId sessionId) t.trace t'.trace)
      (sendApdu slotId sessionId tag body) := by
  intro t
  have hnote : Talks (OnSession slotId sessionId) t.trace (t.trace ++ [.apdu slotId sessionId tag body]) :=
    ⟨[], .nil _, .note _ _⟩
  rw [sendApdu, wlp_bind, wlp_note]
  split
  · exact wlp_fail.mpr hnote
  · by_cases h : slotId = 255 ∨ ¬ slotId.toNat < t.slots.length
    · refine wlp_mono (sendSpdu_invalid _ h) (fun _ _ hf => hf.elim) fun _ t' ht => ?_
      rw [ht]
      exact hnote
    · obtain ⟨hslot, hs⟩ := not_or.mp h
      refine wlp_mono (sendSpdu_tells _ (Classical.not_not.mp hs) hslot) (fun _ t' ht => ?_) fun _ t' ht => ?_
      · exact hnote.trans ⟨_, .single ⟨rfl, rfl⟩ .., ht.1⟩
      · exact hnote.trans ht.talks

end CiTransport

end LibDvb
