import LibDvb.Ca.Controller.SlotStep

namespace LibDvb

open Relation Act Outcome

structure ControllerSlot.Like (slot slot' : ControllerSlot) : Prop where
  status : slot'.status = slot.status
  createSince : slot'.createSince = slot.createSince
  commandSince : slot'.commandSince = slot.commandSince
  receivePending : slot'.receivePending = slot.receivePending

theorem ControllerSlot.Like.refl (slot : ControllerSlot) : slot.Like slot := ⟨rfl, rfl, rfl, rfl⟩

theorem ControllerSlot.Like.trans {slot slot' slot'' : ControllerSlot} (h : slot.Like slot') (h' : slot'.Like slot'') :
    slot.Like slot'' :=
  ⟨h'.status.trans h.status, h'.createSince.trans h.createSince, h'.commandSince.trans h.commandSince,
    h'.receivePending.trans h.receivePending⟩

namespace CiController

variable {c c' c'' : CiController} {slotId other : UInt8} {slot : ControllerSlot}

section Beside

-- The controller did nothing for the slot, but for its CAM status and what the driver tells of it.
structure Beside (slotId : UInt8) (c c' : CiController) : Prop where
  count : c'.slots.length = c.slots.length
  view : ∀ slot, c.slots[slotId.toNat]? = some slot → ∃ slot', c'.slots[slotId.toNat]? = some slot' ∧ slot.Like slot'
  within : CiTransport.Within (Obs.Foreign slotId) c.session.transport c'.session.transport
  unready : .transportReady slotId ∈ c'.session.events → .transportReady slotId ∈ c.session.events

theorem Beside.refl (c : CiController) : Beside slotId c c :=
  ⟨rfl, fun slot known => ⟨slot, known, .refl slot⟩, .refl _, fun h => h⟩

theorem Beside.trans (h : Beside slotId c c') (h' : Beside slotId c' c'') : Beside slotId c c'' where
  count := h'.count.trans h.count
  view slot known := by
    obtain ⟨slot', known', hlike⟩ := h.view slot known
    obtain ⟨slot'', known'', hlike'⟩ := h'.view slot' known'
    exact ⟨slot'', known'', hlike.trans hlike'⟩
  within := h.within.trans h'.within
  unready hmem := h.unready (h'.unready hmem)

abbrev Spares {α : Type} (slotId : UInt8) (m : Act Error CiController α) : Prop := Act.Keeps (Beside slotId) m

theorem beside_of_same (hslots : c'.slots = c.slots) (hsession : c'.session = c.session) : Beside slotId c c' where
  count := congrArg _ hslots
  view slot known := ⟨slot, hslots ▸ known, .refl slot⟩
  within := by
    rw [hsession]
    exact .refl _
  unready := by
    rw [hsession]
    exact fun h => h

theorem beside_modify {f : CiController → CiController} (hslots : ∀ c, (f c).slots = c.slots)
    (hsession : ∀ c, (f c).session = c.session) : Spares slotId (modify f : Act Error CiController Unit) :=
  keeps_modify fun c => beside_of_same (hslots c) (hsession c)

theorem beside_pushEvent (e : CaEvent) : Spares slotId (pushEvent e) :=
  beside_modify (fun _ => rfl) fun _ => rfl

theorem beside_get {β : Type} {f : CiController → Act Error CiController β} (hf : ∀ c, Spares slotId (f c)) :
    Spares slotId (get >>= f) := keeps_bind .trans (keeps_get .refl) hf

theorem beside_slotAt : Spares slotId (slotAt other) := beside_get fun _ => keeps_lift .refl _

theorem beside_edit {f : ControllerSlot → ControllerSlot} (h : other = slotId → ∀ slot : ControllerSlot, slot.Like (f slot)) :
    Beside slotId c (c.edit other f) where
  count := length_edit
  view slot known := by
    rw [getElem?_edit, known]
    split
    · next heq => exact ⟨f slot, rfl, h heq slot⟩
    · exact ⟨slot, rfl, .refl slot⟩
  within := .refl _
  unready h := h

theorem beside_modifySlot {f : ControllerSlot → ControllerSlot}
    (h : other = slotId → ∀ slot : ControllerSlot, slot.Like (f slot)) : Spares slotId (modifySlot other f) :=
  keeps_bind .trans beside_slotAt fun _ => keeps_modify fun _ => beside_edit h

theorem beside_setCamStatus (new : CamStatus) : Spares slotId (setCamStatus other new) := by
  apply keeps_bind .trans beside_slotAt
  intro slot
  dsimp only
  apply keeps_bind .trans
  · exact beside_modifySlot fun _ _ => ⟨rfl, rfl, rfl, rfl⟩
  intro _
  split
  · exact beside_pushEvent _
  · exact keeps_pure .refl ()

theorem beside_setSlotStatus (hne : other ≠ slotId) (new : CaSlotStatus) :
    Spares slotId (setSlotStatus other new) := by
  apply keeps_bind .trans beside_slotAt
  intro slot
  apply keeps_bind .trans (beside_modifySlot fun heq => absurd heq hne)
  intro _
  split
  · exact beside_pushEvent _
  · exact keeps_pure .refl ()

theorem beside_transport {α : Type} {m : Act Error CiTransport α}
    (hm : Act.Keeps (CiTransport.Within (Obs.Foreign slotId)) m) : Spares slotId (zoom transportLens m) :=
  keeps_zoom hm fun _ _ h => ⟨rfl, fun slot known => ⟨slot, known, .refl slot⟩, h, fun h => h⟩

theorem beside_link {α : Type} (m : Act Error CaDevice α) : Spares slotId (zoom linkLens m) :=
  fun c => ⟨fun _ _ => ⟨rfl, fun slot known => ⟨slot, known, .refl slot⟩, .refl c.session.transport, fun h => h⟩,
    fun _ _ => ⟨rfl, fun slot known => ⟨slot, known, .refl slot⟩, .refl c.session.transport, fun h => h⟩⟩

theorem beside_note {obs : Obs} (h : obs.Foreign slotId) (he : ∀ slots, obs.effect slots = slots) :
    Spares slotId (note obs) := beside_transport (CiTransport.within_note h he)

theorem beside_recomputeCamStatus : Spares slotId (recomputeCamStatus other) :=
  beside_get fun _ => beside_setCamStatus _

theorem beside_clearSlotTimers (hne : other ≠ slotId) : Spares slotId (clearSlotTimers other) :=
  beside_modifySlot fun heq => absurd heq hne

theorem foreign_wrote (hne : other ≠ slotId) (frame : Bytes) (result : Except Error Unit) (callback : Bool) :
    (Obs.wrote other frame result callback).Foreign slotId :=
  foreign_of_ne fun heq => hne (Option.some.inj heq)

theorem beside_flush (hne : other ≠ slotId) : Spares slotId (zoom transportLens (CiTransport.flush other)) :=
  beside_transport (CiTransport.within_flush (foreign_wrote hne))

theorem beside_sendTpdu (hne : other ≠ slotId) (tag : TpduTag) (data : Bytes) :
    Spares slotId (zoom transportLens (CiTransport.sendTpdu other tag data)) :=
  beside_transport (CiTransport.within_sendTpdu (foreign_wrote hne)
    (foreign_of_ne fun heq => hne (Option.some.inj heq)))

theorem beside_markOutstanding (hne : other ≠ slotId) (now : Instant) :
    Spares slotId (markOutstanding other now) := by
  apply beside_get
  intro c
  apply keeps_bind .trans beside_slotAt
  intro slot
  split
  · exact beside_modifySlot fun heq => absurd heq hne
  · split
    · exact beside_modifySlot fun heq => absurd heq hne
    · split
      · exact beside_modifySlot fun heq => absurd heq hne
      · exact keeps_pure .refl ()

theorem beside_flushReceivePending (hne : other ≠ slotId) (now : Instant) :
    Spares slotId (flushReceivePending other now) := by
  apply keeps_bind .trans beside_slotAt
  intro slot
  apply beside_get
  intro c
  dsimp only
  split
  · exact keeps_pure .refl ()
  · apply keeps_bind .trans (beside_sendTpdu hne _ _)
    intro _
    apply keeps_bind .trans (beside_modifySlot fun heq => absurd heq hne)
    exact fun _ => beside_markOutstanding hne now

theorem beside_drivePresent (hne : other ≠ slotId) (now : Instant) :
    Spares slotId (drivePresent other now) := by
  apply keeps_bind .trans beside_slotAt
  intro slot
  split
  · apply keeps_bind .trans (beside_sendTpdu hne _ _)
    intro _
    apply keeps_bind .trans (beside_modifySlot fun heq => absurd heq hne)
    intro _
    apply keeps_bind .trans (beside_setSlotStatus hne _)
    exact fun _ => beside_markOutstanding hne now
  · exact keeps_pure .refl ()

theorem beside_driveCreating (hne : other ≠ slotId) (now : Instant) :
    Spares slotId (driveCreating other now) := by
  apply keeps_bind .trans (beside_flush hne)
  intro _
  apply keeps_bind .trans (beside_markOutstanding hne now)
  intro _
  apply keeps_bind .trans beside_slotAt
  intro slot
  apply beside_get
  intro c
  dsimp only
  split <;> exact keeps_pure .refl _

theorem beside_driveActive (hne : other ≠ slotId) (now : Instant) :
    Spares slotId (driveActive other now) := by
  apply keeps_bind .trans (beside_flush hne)
  intro _
  apply beside_get
  intro c
  apply beside_get
  intro _
  dsimp only
  split
  · apply keeps_bind .trans beside_slotAt
    intro slot
    apply keeps_bind .trans (beside_modifySlot fun heq => absurd heq hne)
    intro _
    split <;> exact keeps_pure .refl _
  · apply keeps_bind .trans (beside_modifySlot fun heq => absurd heq hne)
    intro _
    apply keeps_bind .trans beside_slotAt
    intro slot
    split
    · exact keeps_bind .trans (beside_flushReceivePending hne now) fun _ => keeps_pure .refl _
    · split
      · apply keeps_bind .trans (beside_sendTpdu hne _ _)
        intro _
        exact keeps_bind .trans (beside_modifySlot fun heq => absurd heq hne) fun _ => keeps_pure .refl _
      · exact keeps_pure .refl _

theorem beside_takeDataPending (hne : other ≠ slotId) :
    Spares slotId (zoom transportLens (CiTransport.takeDataPending other)) := by
  apply beside_transport
  intro t
  rw [CiTransport.takeDataPending, wlp_bind, wlp_get]
  split
  · rw [wlp_bind]
    refine CiTransport.wlp_modifySlot ?_
    rw [wlp_bind, CiTransport.wlp_note, wlp_pure]
    refine ⟨[.taken other], rfl, rfl, fun obs hmem => ?_⟩
    rw [List.mem_singleton.mp hmem]
    exact foreign_of_ne fun heq => hne (Option.some.inj heq)
  · exact wlp_pure.mpr (.refl t)

theorem beside_driveSlot (hne : other ≠ slotId) (now : Instant) : Spares slotId (driveSlot other now) := by
  have hstatus : Spares slotId (driveStatus other now) := by
    apply keeps_bind .trans beside_slotAt
    intro slot
    split
    · exact keeps_pure .refl _
    · exact keeps_pure .refl _
    · exact keeps_bind .trans (beside_drivePresent hne now) fun _ => keeps_pure .refl _
    · exact beside_driveCreating hne now
    · exact beside_driveActive hne now
  apply keeps_bind .trans beside_slotAt
  intro slot
  split
  · apply keeps_bind .trans (beside_modifySlot fun heq => absurd heq hne)
    intro _
    exact keeps_bind .trans (beside_setSlotStatus hne _) fun _ => hstatus
  · exact hstatus

theorem beside_ioSlotInfo : Spares slotId (ioSlotInfo other) := by
  have hforeign : (Obs.slotInfo other).Foreign slotId := ⟨trivial, fun _ _ => rfl⟩
  exact keeps_bind .trans (beside_note hforeign fun _ => rfl) fun _ => beside_link _

theorem beside_ioReset : Spares slotId ioReset := by
  apply keeps_bind .trans (keeps_attempt (beside_link _))
  intro result
  have hforeign : (Obs.reset result).Foreign slotId := ⟨trivial, fun _ _ => rfl⟩
  exact keeps_bind .trans (beside_note hforeign fun _ => rfl) fun _ => keeps_pure .refl _

theorem beside_reportFailure (failedSlot : Option UInt8) (reason : CaSlotFailure) :
    Spares slotId (reportFailure failedSlot reason) := by
  unfold reportFailure
  split
  · exact beside_pushEvent _
  · apply beside_get
    intro c
    apply keeps_forEach .refl .trans
    intro other _
    apply keeps_bind .trans beside_slotAt
    intro slot
    split
    · exact beside_pushEvent _
    · exact keeps_pure .refl ()

theorem beside_collectEvent {event : CaEvent} (h : event ≠ .transportReady slotId) :
    Spares slotId (collectEvent event) := by
  have hrenewed (other : UInt8) (told : CaEvent) : Spares slotId (do
      recomputeCamStatus other
      pushEvent told) := keeps_bind .trans beside_recomputeCamStatus fun _ => beside_pushEvent _
  apply beside_get
  intro c
  split
  · next other =>
      have hne : other ≠ slotId := fun heq => h (congrArg CaEvent.transportReady heq)
      have hforeign : (Obs.activated other).Foreign slotId := foreign_of_ne fun heq => hne (Option.some.inj heq)
      split
      · apply keeps_bind .trans (beside_modifySlot fun heq => absurd heq hne)
        intro _
        apply keeps_bind .trans (beside_setSlotStatus hne _)
        intro _
        exact keeps_bind .trans (beside_note hforeign fun _ => rfl) fun _ => beside_pushEvent _
      · exact beside_pushEvent _
  · split
    · dsimp only
      split
      · exact keeps_bind .trans (beside_modify (fun _ => rfl) fun _ => rfl) fun _ => hrenewed _ _
      · exact hrenewed _ _
    · exact beside_pushEvent _
  · split
    · dsimp only
      split
      · split
        · exact keeps_bind .trans (beside_modify (fun _ => rfl) fun _ => rfl) fun _ => hrenewed _ _
        · exact hrenewed _ _
      · exact hrenewed _ _
    · exact beside_pushEvent _
  · dsimp only
    split
    · exact hrenewed _ _
    · exact beside_pushEvent _
  · exact beside_pushEvent _

end Beside

section Drop

structure Tables (s s' : CiSession) : Prop where
  transport : s'.transport = s.transport
  unready : ∀ e : CaEvent, e.Steers → e ∈ s'.events → e ∈ s.events

theorem Tables.refl (s : CiSession) : Tables s s := ⟨rfl, fun _ _ h => h⟩

theorem Tables.trans {s s' s'' : CiSession} (h : Tables s s') (h' : Tables s' s'') : Tables s s'' :=
  ⟨h'.transport.trans h.transport, fun e he hmem => h.unready e he (h'.unready e he hmem)⟩

theorem tables_freeSession (sessionId : UInt16) : Act.Keeps Tables (CiSession.freeSession sessionId) := by
  have hmodify {f : CiSession → CiSession} (htransport : ∀ s, (f s).transport = s.transport)
      (hevents : ∀ s, (f s).events = s.events) : Act.Keeps Tables (modify f : Act Error CiSession Unit) :=
    keeps_modify fun s => ⟨htransport s, fun _ _ hmem => hevents s ▸ hmem⟩
  have hclosed (slotId : UInt8) (resourceId : ResourceId) :
      Act.Keeps Tables (CiSession.pushEvent (.sessionClosed slotId sessionId resourceId)) :=
    keeps_modify fun _ => ⟨rfl, fun _ he => @mem_snoc_unready _ (.sessionClosed slotId sessionId resourceId) _ id he⟩
  apply keeps_bind .trans (keeps_get .refl)
  intro s
  split
  · exact keeps_pure .refl ()
  · apply keeps_bind .trans
    · exact hmodify (fun _ => rfl) fun _ => rfl
    · intro _
      split
      · exact keeps_bind .trans (hmodify (fun _ => rfl) fun _ => rfl) fun _ => hclosed _ _
      · exact hclosed _ _

theorem tables_closing (slotId : UInt8) (indices : List Nat) : Act.Keeps Tables (forEach indices fun index => do
    match ((← Act.get).sessions[index]?).join with
    | some session => if session.slotId = slotId then CiSession.freeSession (CiSession.sessionIdOf index) else pure ()
    | none => pure ()) := by
  apply keeps_forEach .refl .trans
  intro index _
  apply keeps_bind .trans (keeps_get .refl)
  intro s
  split
  · split
    · exact tables_freeSession _
    · exact keeps_pure .refl ()
  · exact keeps_pure .refl ()

theorem wlp_dropSlot {s : CiSession} (hs : slotId.toNat < s.transport.slots.length) :
    wlp (CiSession.dropSlot slotId) (fun _ s' => CiTransport.Move (.cleared slotId) s.transport s'.transport ∧
        ∀ e : CaEvent, e.Steers → e ∈ s'.events → e ∈ s.events)
      (fun _ s' => CiTransport.Move (.cleared slotId) s.transport s'.transport ∧
        ∀ e : CaEvent, e.Steers → e ∈ s'.events → e ∈ s.events) s := by
  rw [CiSession.dropSlot, wlp_bind, wlp_zoom]
  refine wlp_mono (wlp_of_wp (CiTransport.clearSlot_spec hs)) (fun _ t ht => ?_) fun _ _ hf => hf.elim
  rw [wlp_bind, wlp_get]
  refine wlp_mono (tables_closing slotId _ _) (fun _ s' hs' => ?_) fun _ s' hs' => ?_
  · rw [hs'.transport]
    exact ⟨ht.1, hs'.unready⟩
  · rw [hs'.transport]
    exact ⟨ht.1, hs'.unready⟩

theorem beside_dropSlot (hne : other ≠ slotId) : Spares slotId (dropSlot other) := by
  have hforeign : (Obs.cleared other).Foreign slotId := foreign_of_ne fun heq => hne (Option.some.inj heq)
  have hclear : Act.Keeps (CiTransport.Within (Obs.Foreign slotId)) (CiTransport.clearSlot other) := by
    apply keeps_bind .trans (keeps_get .refl)
    intro t u
    split
    · rw [wlp_bind]
      refine CiTransport.wlp_modifySlot ?_
      rw [CiTransport.wlp_note]
      refine ⟨[.cleared other], rfl, rfl, fun obs hmem => ?_⟩
      rw [List.mem_singleton.mp hmem]
      exact hforeign
    · exact wlp_pure.mpr (.refl u)
  have hdrop : Act.Keeps (fun s s' : CiSession => CiTransport.Within (Obs.Foreign slotId) s.transport s'.transport ∧
      ∀ e : CaEvent, e.Steers → e ∈ s'.events → e ∈ s.events) (CiSession.dropSlot other) := by
    intro s
    rw [CiSession.dropSlot, wlp_bind, wlp_zoom]
    refine wlp_mono (hclear s.transport) (fun _ t ht => ?_) fun _ t ht => ⟨ht, fun _ _ hmem => hmem⟩
    rw [wlp_bind, wlp_get]
    exact wlp_mono (tables_closing other _ _) (fun _ _ hs' => ⟨hs'.transport.symm ▸ ht, hs'.unready⟩)
      fun _ _ hs' => ⟨hs'.transport.symm ▸ ht, hs'.unready⟩
  exact keeps_zoom hdrop fun c s h => ⟨rfl, fun slot known => ⟨slot, known, .refl slot⟩, h.1, h.2 (.transportReady slotId) trivial⟩

end Drop

end CiController

end LibDvb
