import LibDvb.Ca.Controller.Cam

namespace LibDvb.CiController

open Relation Act Outcome

variable {V : UInt8 → Prop} {c c' : CiController} {slotId other : UInt8} {slot : ControllerSlot}

def PresentAt (c : CiController) (slotId : UInt8) : Prop :=
  ∀ slot, c.slots[slotId.toNat]? = some slot → (slot.present = false ↔ slot.status = .absent)

structure Keeps (c c' : CiController) : Prop where
  count : c'.slots.length = c.slots.length
  config : c'.config = c.config
  lastTick : c'.lastTick = c.lastTick
  linkSuspended : c'.linkSuspended = c.linkSuspended
  recoveryAt : c'.recoveryAt = c.recoveryAt
  deferred : c'.deferredLinkFailure = c.deferredLinkFailure

theorem Keeps.refl (c : CiController) : Keeps c c := ⟨rfl, rfl, rfl, rfl, rfl, rfl⟩

theorem Keeps.trans {c'' : CiController} (h : Keeps c c') (h' : Keeps c' c'') : Keeps c c'' :=
  ⟨h'.count.trans h.count, h'.config.trans h.config, h'.lastTick.trans h.lastTick,
    h'.linkSuspended.trans h.linkSuspended, h'.recoveryAt.trans h.recoveryAt,
    h'.deferred.trans h.deferred⟩

theorem keeps_edit (f : ControllerSlot → ControllerSlot) : Keeps c (c.edit slotId f) :=
  ⟨length_edit, rfl, rfl, rfl, rfl, rfl⟩

theorem Move.keeps (hm : Move V c c') : Keeps c c' := by
  cases hm with
  | session move => exact ⟨rfl, rfl, rfl, rfl, rfl, rfl⟩
  | created known status notice path whole => exact ⟨length_edit, rfl, rfl, rfl, rfl, rfl⟩
  | createFailed known status path broken => exact ⟨rfl, rfl, rfl, rfl, rfl, rfl⟩
  | activated queued known status notice => exact ⟨length_edit, rfl, rfl, rfl, rfl, rfl⟩
  | passed queued ready fresh notice => exact ⟨rfl, rfl, rfl, rfl, rfl, rfl⟩
  | refused context queued notice => exact ⟨rfl, rfl, rfl, rfl, rfl, rfl⟩
  | renewed known notice => exact ⟨length_edit, rfl, rfl, rfl, rfl, rfl⟩
  | turned new known change notice rest present sessions idle receive collected =>
      exact ⟨length_edit, rfl, rfl, rfl, rfl, rfl⟩
  | kept f status camStatus present receive => exact keeps_edit f
  | failed reason notice => exact ⟨rfl, rfl, rfl, rfl, rfl, rfl⟩
  | armed gate active => exact ⟨rfl, rfl, rfl, rfl, rfl, rfl⟩
  | disarmed => exact ⟨rfl, rfl, rfl, rfl, rfl, rfl⟩
  | polled idle => exact ⟨rfl, rfl, rfl, rfl, rfl, rfl⟩
  | programmed due programmed => exact ⟨rfl, rfl, rfl, rfl, rfl, rfl⟩
  | probed slotId => exact ⟨rfl, rfl, rfl, rfl, rfl, rfl⟩
  | scheduled nextStatusCheck => exact ⟨rfl, rfl, rfl, rfl, rfl, rfl⟩

theorem Keeps.path (hpath : ReflTransGen (Move V) c c') : Keeps c c' :=
  LibDvb.Path.order hpath Keeps.refl Keeps.trans fun _ _ => Move.keeps

theorem PresentAt.edit {f : ControllerSlot → ControllerSlot} (h : c.PresentAt other)
    (hf : ∀ slot, c.slots[slotId.toNat]? = some slot → c.PresentAt slotId →
      ((f slot).present = false ↔ (f slot).status = .absent)) : (c.edit slotId f).PresentAt other := by
  intro slot known
  rw [getElem?_edit] at known
  split at known
  · next heq =>
      subst heq
      rw [Option.map_eq_some_iff] at known
      obtain ⟨old, hold, rfl⟩ := known
      exact hf old hold h
  · exact h slot known

theorem PresentAt.move (h : c.PresentAt other) (hm : Move V c c') : c'.PresentAt other := by
  have hstays (slot : ControllerSlot) {old : CaSlotStatus} (new : CaSlotStatus)
      (hp : slot.present = false ↔ slot.status = .absent) (hold : slot.status = old) (ho : old ≠ .absent) (hn : new ≠ .absent) :
      slot.present = false ↔ new = .absent := by
    rw [hp, hold]
    exact iff_of_false ho hn
  cases hm with
  | @created slotId slot t known status notice path whole =>
      refine PresentAt.edit (c := c.withTransport t) h fun slot' known' hp => ?_
      have hsame : c.slots[slotId.toNat]? = some slot' := known'
      rw [known, Option.some.injEq] at hsame
      subst hsame
      exact hstays slot .creatingTc (hp slot known) status (by decide) (by decide)
  | @activated slotId slot rest queued known status notice =>
      refine PresentAt.edit (c := (c.popped rest).noted (.activated slotId)) h
        fun slot' known' hp => ?_
      have hsame : c.slots[slotId.toNat]? = some slot' := known'
      rw [known, Option.some.injEq] at hsame
      subst hsame
      exact hstays slot .active (hp slot known) status (by decide) (by decide)
  | renewed known notice => exact PresentAt.edit h fun slot' known' hp => hp slot' known'
  | turned new known change notice rest present sessions idle receive collected =>
      refine PresentAt.edit h fun slot' known' hp => ?_
      rw [known, Option.some.injEq] at known'
      subst known'
      exact present
  | kept f status camStatus present receive =>
      refine PresentAt.edit h fun slot' known' hp => ?_
      rw [status, present]
      exact hp slot' known'
  | _ => exact h

theorem PresentAt.path (h : c.PresentAt other) (hpath : ReflTransGen (Move V) c c') :
    c'.PresentAt other :=
  LibDvb.Path.invariant (I := fun c => c.PresentAt other) hpath h fun _ _ => PresentAt.move

def Noticed (V : UInt8 → Prop) (c : CiController) : Prop := ∀ e ∈ c.session.events, V e.slotId

theorem noticed_nil (h : c.session.events = []) : c.Noticed V := by
  intro e he
  rw [h] at he
  cases he

theorem Noticed.move (h : c.Noticed V) (hm : Move V c c') : c'.Noticed V := by
  have hrest {e : CaEvent} {rest : List CaEvent} (queued : c.session.events = e :: rest) :
      ∀ e ∈ rest, V e.slotId := fun e' he' => h e' (queued ▸ List.mem_cons_of_mem _ he')
  cases hm with
  | session move => exact move.noticed h
  | activated queued known status notice => exact hrest queued
  | passed queued ready fresh notice => exact hrest queued
  | refused context queued notice => exact hrest queued
  | programmed due programmed =>
      obtain ⟨_, _, _, _, _, hevents, _⟩ := programmed.path
      intro e he
      exact h e (hevents ▸ he)
  | _ => exact h

theorem Noticed.path (h : c.Noticed V) (hpath : ReflTransGen (Move V) c c') : c'.Noticed V :=
  LibDvb.Path.invariant hpath h fun _ _ => Noticed.move

theorem Sound.path (h : c.Sound) (hpath : ReflTransGen (Move V) c c') : c'.Sound :=
  LibDvb.Path.invariant hpath h fun _ _ => Sound.move

structure Calm (c : CiController) : Prop where
  sound : c.Sound
  whole : pending c.session.transport.trace = false
  collected : c.session.events = []
  present : ∀ slotId, c.PresentAt slotId

theorem Calm.path (h : c.Calm) (hpath : ReflTransGen (Move V) c c')
    (whole : pending c'.session.transport.trace = false) (collected : c'.session.events = []) :
    c'.Calm :=
  ⟨h.sound.path hpath, whole, collected, fun slotId => (h.present slotId).path hpath⟩

def AllAbsent (c : CiController) : Prop :=
  ∀ (slotId : UInt8) slot, c.slots[slotId.toNat]? = some slot → slot.status = .absent

theorem AllAbsent.edit {f : ControllerSlot → ControllerSlot} (ha : c.AllAbsent)
    (hf : ∀ slot, (f slot).status = slot.status) : (c.edit slotId f).AllAbsent := by
  intro other slot known
  rw [getElem?_edit] at known
  split at known
  · rw [Option.map_eq_some_iff] at known
    obtain ⟨old, hold, rfl⟩ := known
    exact (hf old).trans (ha other old hold)
  · exact ha other slot known

theorem AllAbsent.move (ha : c.AllAbsent) (hp : ∀ slotId, c.PresentAt slotId) (hm : Move V c c') :
    c'.AllAbsent := by
  have hno {slotId : UInt8} {slot : ControllerSlot} {status : CaSlotStatus} {P : Prop}
      (known : c.slots[slotId.toNat]? = some slot) (hstatus : slot.status = status)
      (hne : status ≠ .absent) : P :=
    absurd (hstatus.symm.trans (ha slotId slot known)) hne
  cases hm with
  | created known status notice path whole => exact hno known status (by decide)
  | activated queued known status notice => exact hno known status (by decide)
  | renewed known notice => exact AllAbsent.edit ha fun _ => rfl
  | turned new known change notice rest present sessions idle receive collected =>
      have habsent := ha _ _ known
      have hnew := present.mp ((hp _ _ known).mpr habsent)
      exact absurd (habsent.trans hnew.symm) change
  | kept f status camStatus present receive => exact AllAbsent.edit ha status
  | _ => exact ha

theorem AllAbsent.path (ha : c.AllAbsent) (hp : ∀ slotId, c.PresentAt slotId)
    (hpath : ReflTransGen (Move V) c c') : c'.AllAbsent := by
  refine (LibDvb.Path.invariant (I := fun c => c.AllAbsent ∧ ∀ slotId, c.PresentAt slotId) hpath
    ⟨ha, hp⟩ fun a b h hm => ?_).1
  exact ⟨h.1.move h.2 hm, fun slotId => (h.2 slotId).move hm⟩

theorem AllAbsent.not_live (ha : c.AllAbsent) (slotId : UInt8) : ¬ c.Live slotId := by
  intro hlive
  obtain ⟨slot, known, hactive⟩ := hlive.known
  rw [ha slotId slot known] at hactive
  cases hactive

theorem Sound.count_le (h : c.Sound) : c.slots.length ≤ 255 := h.count.trans_le h.session.count

theorem mem_slotIds (h : c.slots.length ≤ 255) :
    slotId ∈ c.slotIds ↔ slotId.toNat < c.slots.length := by
  have hnum : c.slotsNum.toNat = c.slots.length := by
    rw [slotsNum, UInt8.toNat_ofNat']
    omega
  rw [slotIds, hnum, List.mem_map]
  constructor
  · rintro ⟨i, hi, rfl⟩
    have hlt := List.mem_range.mp hi
    rw [UInt8.toNat_ofNat']
    omega
  · intro hlt
    exact ⟨slotId.toNat, List.mem_range.mpr hlt, UInt8.ofNat_toNat⟩

theorem forSlots_along {R : CiController → CiController → Prop} {P : UInt8 → CiController → Prop}
    {E : Error → CiController → Prop} (I : CiController → Prop) {f : UInt8 → Act Error CiController Unit}
    (hn : c.slots.length ≤ 255) (h : I c)
    (hf : ∀ slotId c', slotId.toNat < c.slots.length → I c' →
      Along R (f slotId) (fun _ c'' => I c'' ∧ P slotId c'' ∧
        ∀ other, other ≠ slotId → P other c' → P other c'') E c') :
    Along R (forEach c.slotIds f)
      (fun _ c' => I c' ∧ ∀ slotId : UInt8, slotId.toNat < c.slots.length → P slotId c') E c := by
  refine along_mono (along_forEach (fun left c' => I c' ∧ ∀ slotId : UInt8,
    slotId.toNat < c.slots.length → slotId ∈ left ∨ P slotId c') (fun slotId left c' hsuffix hc' => ?_) c
      ⟨h, fun slotId hlt => .inl ((mem_slotIds hn).mpr hlt)⟩)
    (fun _ c' hc' => ⟨hc'.1, fun slotId hlt => (hc'.2 slotId hlt).resolve_left nofun⟩) fun _ _ he => he
  · obtain ⟨hi, hdone⟩ := hc'
    have hlt := (mem_slotIds hn).mp (hsuffix.subset List.mem_cons_self)
    refine along_mono (hf slotId c' hlt hi) (fun _ c'' hc'' => ⟨hc''.1, fun other hother => ?_⟩)
      fun _ _ he => he
    by_cases heq : other = slotId
    · rw [heq]
      exact .inr hc''.2.1
    · rcases hdone other hother with hmem | hp
      · exact .inl ((List.mem_cons.mp hmem).resolve_left heq)
      · exact .inr (hc''.2.2 other heq hp)

end LibDvb.CiController
