import LibDvb.Ca.Controller.Teardown

namespace LibDvb

theorem isLinkError_write {e : Error} (h : e.IsWrite) : isLinkError e = true := by
  rcases h with rfl | ⟨kind, rfl⟩ <;> rfl

namespace CiController

open Relation Act Outcome

variable {V : UInt8 → Prop} {c c' : CiController} {slotId other : UInt8} {slot : ControllerSlot}

def Still (c : CiController) : Prop :=
  pending c.session.transport.trace = false ∧ c.session.events = []

theorem Calm.still (h : c.Calm) : c.Still := ⟨h.whole, h.collected⟩

theorem Calm.along (h : c.Calm) (hpath : ReflTransGen (Move V) c c') (hs : c'.Still) : c'.Calm :=
  h.path hpath hs.1 hs.2

theorem known_of_lt (hlt : slotId.toNat < c.slots.length) :
    ∃ slot, c.slots[slotId.toNat]? = some slot := ⟨_, List.getElem?_eq_getElem hlt⟩

theorem markOutstanding_along (known : c.slots[slotId.toNat]? = some slot) (now : Instant) :
    Along (Move V) (markOutstanding slotId now) (fun _ c' => c'.session = c.session)
      (fun _ _ => False) c := by
  have hkept {f : ControllerSlot → ControllerSlot} (status : ∀ slot, (f slot).status = slot.status)
      (camStatus : ∀ slot, (f slot).camStatus = slot.camStatus)
      (present : ∀ slot, (f slot).present = slot.present)
      (receive : ∀ slot, (f slot).receivePending = slot.receivePending) :
      Along (Move V) (modifySlot slotId f) (fun _ c' => c'.session = c.session)
        (fun _ _ => False) c :=
    kept_along known status camStatus present (fun hp => .inl (receive slot ▸ hp)) rfl
  refine along_get_bind ?_
  dsimp only
  rw [Along, wp_bind, wp_slotAt_known known]
  split
  · exact hkept (fun _ => rfl) (fun _ => rfl) (fun _ => rfl) fun _ => rfl
  split
  · exact hkept (fun _ => rfl) (fun _ => rfl) (fun _ => rfl) fun _ => rfl
  split
  · exact hkept (fun _ => rfl) (fun _ => rfl) (fun _ => rfl) fun _ => rfl
  · exact along_pure rfl

section Send

theorem flush_along (h : c.Calm) (hV : V slotId) (hlt : slotId.toNat < c.slots.length) :
    Along (Move V) (zoom transportLens (CiTransport.flush slotId))
      (fun _ c' => c'.Still ∧ c'.slots = c.slots) (fun e _ => e.IsWrite) c := by
  refine session_along (m := zoom CiSession.transportLens (CiTransport.flush slotId)) ?_
  refine along_mono (CiSession.flush_along h.sound.session (.inr hV) (h.sound.count ▸ hlt) h.whole)
    (fun _ s hs => ?_) fun e s hs => hs.1.write hs.2.1
  obtain ⟨hp, t, rfl⟩ := hs
  exact ⟨⟨hp, h.collected⟩, rfl⟩

theorem sendTpdu_along (h : c.Calm) (hlive : c.Live slotId) {tag : TpduTag} {frame : Bytes}
    (hbuild : Tpdu.build slotId tag [] = .ok frame) :
    Along (Move V) (zoom transportLens (CiTransport.sendTpdu slotId tag []))
      (fun _ c' => c'.Still ∧ c'.slots = c.slots)
      (fun e c' => e.IsWrite ∧ pending c'.session.transport.trace = true) c := by
  obtain ⟨slot, known, _⟩ := hlive.known
  have hlt : slotId.toNat < c.session.transport.slots.length := h.sound.count ▸ slotId_lt known
  have hsend := CiTransport.sendTpdu_spec (t := c.session.transport) hlt (fun _ : True => h.whole) hbuild
  rw [h.sound.session.callback] at hsend
  refine transport_along h.sound (along_mono (along_weaken hsend fun _ _ =>
    CiTransport.Step.mono fun _ _ => quiet_sends hlive) (fun _ t hp => ⟨⟨hp trivial, h.collected⟩, rfl⟩)
      fun e t hb => ⟨(broken_outside hb).2, (broken_outside hb).1⟩)

theorem Calm.ne_max (h : c.Calm) (hlt : slotId.toNat < c.slots.length) : slotId ≠ 255 :=
  CiTransport.ne_max (h.sound.count ▸ hlt) h.sound.session.count

theorem flushReceivePending_along (h : c.Calm) (hlt : slotId.toNat < c.slots.length)
    (now : Instant) :
    Along (Move V) (flushReceivePending slotId now) (fun _ c' => c'.Still)
      (fun e c' => e.IsWrite ∧ pending c'.session.transport.trace = true) c := by
  obtain ⟨slot, known⟩ := known_of_lt hlt
  rw [Along, flushReceivePending, wp_bind, wp_slotAt_known known, wp_bind, wp_get]
  dsimp only
  split
  · exact ⟨.refl, h.still⟩
  · next hready =>
      simp only [not_or, not_not, ne_eq] at hready
      obtain ⟨frame, hbuild⟩ := Tpdu.build_command (h.ne_max hlt) (.inl rfl)
      refine along_bind (sendTpdu_along h ((live_of_status known).mpr hready.1) hbuild)
        fun _ c₁ hpath₁ hc₁ => ?_
      obtain ⟨hs₁, hslots₁⟩ := hc₁
      have known₁ : c₁.slots[slotId.toNat]? = some slot := hslots₁ ▸ known
      refine along_bind (Q := fun _ c' => c'.session = c₁.session ∧
        c'.slots.length = c₁.slots.length) (kept_along known₁ (fun _ => rfl) (fun _ => rfl)
          (fun _ => rfl) (by rintro ⟨⟩) ⟨rfl, length_edit⟩) fun _ c₂ hpath₂ hc₂ => ?_
      obtain ⟨hsession₂, hcount₂⟩ := hc₂
      have hlt₂ : slotId.toNat < c₂.slots.length := hcount₂ ▸ slotId_lt known₁
      refine along_mono (markOutstanding_along (List.getElem?_eq_getElem hlt₂) now)
        (fun _ c₃ hc₃ => ?_) fun _ _ hf => hf.elim
      rw [Still, hc₃, hsession₂]
      exact hs₁

end Send

section Slot

theorem drivePresent_along (h : c.Calm) (known : c.slots[slotId.toNat]? = some slot)
    (status : slot.status = .present) (hV : ∀ other, V other) (now : Instant) :
    Along (Move V) (drivePresent slotId now) (fun _ c' => c'.Still) (fun _ _ => True) c := by
  have hlt := slotId_lt known
  rw [Along, drivePresent, wp_bind, wp_slotAt_known known]
  split
  · obtain ⟨frame, hbuild⟩ := Tpdu.build_command (h.ne_max hlt) (.inr rfl)
    have hsend := CiTransport.sendTpdu_spec (t := c.session.transport) (h.sound.count ▸ hlt)
      (fun _ : True => h.whole) hbuild
    rw [h.sound.session.callback] at hsend
    rw [wp_bind, wp_zoom]
    refine wp_mono hsend (fun _ t ht => ?_) (fun e t ht => ?_)
    · obtain ⟨hpath, hwhole⟩ := ht
      have hwhole := hwhole trivial
      let f : ControllerSlot → ControllerSlot := ({ · with receivePending := false })
      have hkept : Move V c (c.edit slotId f) :=
        .kept f (fun _ => rfl) (fun _ => rfl) (fun _ => rfl) (by rintro _ _ ⟨⟩)
      have known₁ := known_edit known f
      have hcreated : Move V (c.edit slotId f)
          (((c.edit slotId f).withTransport t).turn slotId .present .creatingTc) :=
        .created known₁ status hV hpath hwhole
      have known₂ : ((c.withTransport t).edit slotId f).slots[slotId.toNat]? = some (f slot) := known₁
      rw [wp_bind]
      refine (wp_modifySlot (c := c.withTransport t) known).mpr ?_
      have hf : (f slot).status = .present := status
      rw [wp_bind, wp_setSlotStatus known₂, hf, if_neg (by decide)]
      have known₃ : (((c.edit slotId f).withTransport t).turn slotId .present
          .creatingTc).slots[slotId.toNat]? = some { f slot with status := .creatingTc } :=
        known_edit (c := (c.edit slotId f).withTransport t) known₁ _
      refine wp_mono (markOutstanding_along (V := V) known₃ now) (fun _ c' hc' => ?_)
        fun _ _ hf => hf.2.elim
      refine ⟨.head hkept (.head hcreated hc'.1), ?_⟩
      rw [Still, hc'.2]
      exact ⟨hwhole, h.collected⟩
    · exact ⟨.single (.createFailed known status ht.1 (broken_outside ht.2).1), trivial⟩
  · exact ⟨.refl, h.still⟩

theorem driveCreating_along (h : c.Calm) (hV : V slotId) (hlt : slotId.toNat < c.slots.length)
    (now : Instant) :
    Along (Move V) (driveCreating slotId now) (fun _ c' => c'.Still) (fun _ _ => True) c := by
  refine along_bind (along_mono (flush_along h hV hlt) (fun _ _ hq => hq) fun _ _ _ => trivial)
    fun _ c₁ hpath₁ hc₁ => ?_
  obtain ⟨hs₁, hslots₁⟩ := hc₁
  have hlt₁ : slotId.toNat < c₁.slots.length := hslots₁ ▸ hlt
  refine along_bind (along_mono (markOutstanding_along (List.getElem?_eq_getElem hlt₁) now)
    (fun _ _ hq => hq) fun _ _ hf => hf.elim) fun _ c₂ hpath₂ hs₂ => ?_
  have known₂ : c₂.slots[slotId.toNat]? = some _ :=
    List.getElem?_eq_getElem ((Keeps.path hpath₂).count.symm ▸ hlt₁)
  have hstill : c₂.Still := by
    rw [Still, hs₂]
    exact hs₁
  rw [Along, wp_bind, wp_slotAt_known known₂, wp_bind, wp_get]
  dsimp only
  split
  all_goals exact ⟨.refl, hstill⟩

theorem driveActive_along (h : c.Calm) (hV : V slotId) (known : c.slots[slotId.toNat]? = some slot)
    (status : slot.status = .active) (now : Instant) :
    Along (Move V) (driveActive slotId now) (fun _ c' => c'.Still) (fun _ _ => True) c := by
  have hlt := slotId_lt known
  refine along_bind (along_mono (flush_along h hV hlt) (fun _ _ hq => hq) fun _ _ _ => trivial)
    fun _ c₁ hpath₁ hc₁ => ?_
  obtain ⟨hs₁, hslots₁⟩ := hc₁
  have h₁ := h.along hpath₁ hs₁
  have known₁ : c₁.slots[slotId.toNat]? = some slot := hslots₁ ▸ known
  refine along_get_bind (along_get_bind ?_)
  dsimp only
  split
  · rw [Along, wp_bind, wp_slotAt_known known₁, wp_bind]
    let f : ControllerSlot → ControllerSlot :=
      fun old => { old with commandSince := some (slot.commandSince.getD now) }
    have hkept : Move V c₁ (c₁.edit slotId f) :=
      .kept f (fun _ => rfl) (fun _ => rfl) (fun _ => rfl) fun _ _ => .inl
    refine (wp_modifySlot known₁).mpr ?_
    split
    all_goals exact ⟨.single hkept, hs₁⟩
  · let f : ControllerSlot → ControllerSlot := ({ · with commandSince := none })
    have hkept : Move V c₁ (c₁.edit slotId f) :=
      .kept f (fun _ => rfl) (fun _ => rfl) (fun _ => rfl) fun _ _ => .inl
    have known₂ := known_edit known₁ f
    have h₂ : (c₁.edit slotId f).Calm := h₁.along (.single hkept) hs₁
    refine along_bind (Q := fun _ c' => c' = c₁.edit slotId f) (kept_along known₁ (fun _ => rfl)
      (fun _ => rfl) (fun _ => rfl) .inl rfl) fun _ c₂ _ hc₂ => ?_
    subst hc₂
    rw [Along, wp_bind, wp_slotAt_known known₂]
    split
    · refine along_bind (along_mono (flushReceivePending_along h₂ (slotId_lt known₂) now)
        (fun _ _ hq => hq) fun _ _ _ => trivial) fun _ c₃ _ hs₃ => ?_
      exact along_pure hs₃
    · split
      · obtain ⟨frame, hbuild⟩ := Tpdu.build_data (h₂.ne_max (slotId_lt known₂)) (.inl rfl)
          (show ([] : Bytes).length ≤ _ from Nat.zero_le _)
        have hlive : (c₁.edit slotId f).Live slotId := (live_of_status known₂).mpr status
        refine along_bind (along_mono (sendTpdu_along h₂ hlive hbuild) (fun _ _ hq => hq)
          fun _ _ _ => trivial) fun _ c₃ _ hc₃ => ?_
        obtain ⟨hs₃, hslots₃⟩ := hc₃
        have known₃ : c₃.slots[slotId.toNat]? = some (f slot) := hslots₃ ▸ known₂
        refine along_bind (Q := fun _ c' => c'.Still) (kept_along known₃ (fun _ => rfl)
          (fun _ => rfl) (fun _ => rfl) .inl hs₃) fun _ c₄ _ hs₄ => ?_
        exact along_pure hs₄
      · exact along_pure hs₁

theorem setIdleStatus_along (h : c.Sound) (hcollected : c.session.events = []) (hV : ∀ other, V other)
    (known : c.slots[slotId.toNat]? = some slot)
    (idle : slot.status ≠ .creatingTc ∧ slot.status ≠ .active) {new : CaSlotStatus}
    (rest : new ≠ .active ∧ new ≠ .creatingTc) (present : slot.present = false ↔ new = .absent) :
    Along (Move V) (setSlotStatus slotId new) (fun _ c' => c'.session = c.session ∧
      c'.slots[slotId.toNat]? = some { slot with status := new }) (fun _ _ => False) c := by
  rw [Along, wp_setSlotStatus known]
  split
  · next hsame =>
      refine ⟨.refl, rfl, ?_⟩
      rw [known, ← hsame]
  · next hchange =>
      have hreceive : slot.receivePending = false := by
        rw [← Bool.not_eq_true]
        exact fun hp => idle.2 (h.receive slotId slot known hp)
      exact ⟨.single (.turned new known hchange hV rest present (noSession_of_status h known idle.2)
        (h.idle slotId slot known idle.1 idle.2) hreceive fun _ => hcollected), rfl,
        known_edit known _⟩

-- `drive_slot` after the retry: what it does in each status.
def driveStatus (slotId : UInt8) (now : Instant) : Act Error CiController (Option CaSlotFailure) := do
  match (← slotAt slotId).status with
  | .absent => pure none
  | .failed => pure none
  | .present => do
      drivePresent slotId now
      pure none
  | .creatingTc => driveCreating slotId now
  | .active => driveActive slotId now

theorem driveSlot_along (h : c.Calm) (hlt : slotId.toNat < c.slots.length) (hV : ∀ other, V other)
    (now : Instant) :
    Along (Move V) (driveSlot slotId now) (fun _ c' => c'.Still) (fun _ _ => True) c := by
  obtain ⟨slot, known⟩ := known_of_lt hlt
  have hstatus {c₁ : CiController} (h₁ : c₁.Calm) (hlt₁ : slotId.toNat < c₁.slots.length) :
      Along (Move V) (driveStatus slotId now) (fun _ c' => c'.Still) (fun _ _ => True) c₁ := by
    obtain ⟨slot₁, known₁⟩ := known_of_lt hlt₁
    rw [Along, driveStatus, wp_bind, wp_slotAt_known known₁]
    split
    · exact ⟨.refl, h₁.still⟩
    · exact ⟨.refl, h₁.still⟩
    · next hpresent =>
        exact along_bind (drivePresent_along h₁ known₁ hpresent hV now) fun _ _ _ hs => along_pure hs
    · exact driveCreating_along h₁ (hV slotId) hlt₁ now
    · next hactive => exact driveActive_along h₁ (hV slotId) known₁ hactive now
  rw [Along, driveSlot, wp_bind, wp_slotAt_known known]
  split
  · next hretry =>
      let f : ControllerSlot → ControllerSlot := ({ · with retryAt := none })
      have hkept : Move V c (c.edit slotId f) :=
        .kept f (fun _ => rfl) (fun _ => rfl) (fun _ => rfl) fun _ _ => .inl
      have h₁ : (c.edit slotId f).Calm := h.along (.single hkept) h.still
      have known₁ := known_edit known f
      have hpresent : slot.present = false ↔ slot.status = .absent := h.present slotId slot known
      refine along_bind (Q := fun _ c' => c' = c.edit slotId f) (kept_along known (fun _ => rfl)
        (fun _ => rfl) (fun _ => rfl) .inl rfl) fun _ c₁ _ hc₁ => ?_
      subst hc₁
      refine along_bind (along_mono (setIdleStatus_along h₁.sound h₁.collected hV
        known₁ ?_ (by decide) ?_) (fun _ _ hq => hq) fun _ _ hf => hf.elim) fun _ c₂ hpath₂ hc₂ => ?_
      · rw [show (f slot).status = .failed from hretry.1]
        decide
      · rw [show (f slot).present = slot.present from rfl, hpresent, hretry.1]
        decide
      · have hs₂ : c₂.Still := by
          rw [Still, hc₂.1]
          exact h₁.still
        exact hstatus (h₁.along hpath₂ hs₂) (slotId_lt hc₂.2)
  · exact hstatus h hlt

end Slot

end CiController

end LibDvb
