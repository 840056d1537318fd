import LibDvb.Ca.Controller.Rearm

namespace LibDvb

open Relation Act Outcome

def Obs.Polls (slotId : UInt8) (obs : Obs) : Prop := obs.Unasked ∨ obs = .queued slotId (Tpdu.pollFrame slotId)

namespace CiController

-- One thing the controller does about its deadlines. Only a call that is told the time does what they
-- guard, and not while the link is suspended.
inductive Stroke (heard : Bool) (told : Option Instant) (c : CiController) : CiController → Prop
  | soft {c' : CiController} (soft : Soft heard c c') : Stroke heard told c c'
  | recovered {c' : CiController} (recovers : Recovers heard c c') : Stroke heard told c c'
  | retried {now slotId slot retryAt} (clocked : told = some now) (resumed : c.linkSuspended = false)
      (known : c.slots[slotId.toNat]? = some slot) (stands : slot.retryAt = some retryAt) (due : retryAt ≤ now) :
      Stroke heard told c ((c.edit slotId ({ · with retryAt := none, status := .present })).emit
        [.slotStatusChanged slotId .failed .present])
  | polled {now slotId slot t} (clocked : told = some now) (resumed : c.linkSuspended = false)
      (known : c.slots[slotId.toNat]? = some slot) (active : slot.status = .active)
      (due : ∀ nextPoll, slot.nextPoll = some nextPoll → nextPoll ≤ now)
      (trace : Adds (Obs.Polls slotId) c.session.transport.trace t.trace) :
      Stroke heard told c (c.withTransport t)
  | awaited {now slotId slot} (clocked : told = some now) (resumed : c.linkSuspended = false)
      (ticked : c.lastTick = some now) (known : c.slots[slotId.toNat]? = some slot) (active : slot.status = .active)
      (due : ∀ nextPoll, slot.nextPoll = some nextPoll → nextPoll ≤ now) :
      Stroke heard told c (c.edit slotId ({ · with
        commandSince := some now
        nextPoll := some (deadline now c.config.transportPollInterval) }))
  | probed {now} (slotId : UInt8) (clocked : told = some now) (resumed : c.linkSuspended = false)
      (due : ∀ statusCheck, c.nextStatusCheck = some statusCheck → statusCheck ≤ now) :
      Stroke heard told c (c.noted (.slotInfo slotId))
  | scheduled {now} (clocked : told = some now) (resumed : c.linkSuspended = false) (ticked : c.lastTick = some now)
      (due : ∀ statusCheck, c.nextStatusCheck = some statusCheck → statusCheck ≤ now) :
      Stroke heard told c { c with nextStatusCheck := some (deadline now c.config.slotStatusInterval) }
  | passed {now} (clocked : told = some now) (ticked : c.lastTick = some now) :
      Stroke heard told c { c with pacer := (c.pacer.poll now).2 }

variable {heard : Bool} {told : Option Instant} {c c' c'' : CiController} {slotId other : UInt8} {slot : ControllerSlot}

abbrev Strokes (heard : Bool) (told : Option Instant) : CiController → CiController → Prop :=
  ReflTransGen (Stroke heard told)

theorem strokes_of_path (hpath : ReflTransGen (Soft heard) c c') : Strokes heard told c c' :=
  ReflTransGen.mono (fun _ _ => .soft) _ _ hpath

theorem strokes_of_bides (h : Bides heard c c') : Strokes heard told c c' := .single (.soft (.waits h))

theorem Soft.stays (h : Soft heard c c') : c'.lastTick = c.lastTick ∧ c'.linkSuspended = c.linkSuspended := by
  have hfades := @Soft.fades heard false none _ _ h
  exact ⟨hfades.levels.lastTick, hfades.stays.suspended⟩

theorem Stroke.lastTick (h : Stroke heard told c c') : c'.lastTick = c.lastTick := by
  cases h with
  | soft soft => exact soft.stays.1
  | recovered recovers =>
      obtain ⟨retry, _, hrearmed⟩ := recovers
      exact hrearmed.levels.lastTick
  | _ => rfl

theorem strokes_lastTick (hpath : Strokes heard told c c') : c'.lastTick = c.lastTick :=
  Path.order (r := fun c c' : CiController => c'.lastTick = c.lastTick) hpath (fun _ => rfl) (fun h h' => h'.trans h)
    fun _ _ => Stroke.lastTick

theorem suspended_of_path (hpath : ReflTransGen (Soft heard) c c') : c'.linkSuspended = c.linkSuspended :=
  Path.order (r := fun c c' : CiController => c'.linkSuspended = c.linkSuspended) hpath (fun _ => rfl)
    (fun h h' => h'.trans h) fun _ _ h => h.stays.2

section Tick

variable {now : Instant} {α : Type}

def Paced (heard : Bool) (now : Instant) (c c' : CiController) : Prop :=
  c.lastTick = some now → c.linkSuspended = false → Strokes heard (some now) c c' ∧ c'.linkSuspended = false

theorem Paced.refl (c : CiController) : Paced heard now c c := fun _ resumed => ⟨.refl, resumed⟩

theorem Paced.trans (h : Paced heard now c c') (h' : Paced heard now c' c'') : Paced heard now c c'' := by
  intro ticked resumed
  obtain ⟨hpath, hresumed⟩ := h ticked resumed
  obtain ⟨hpath', hresumed'⟩ := h' ((strokes_lastTick hpath).trans ticked) hresumed
  exact ⟨hpath.trans hpath', hresumed'⟩

theorem paced_of_path (hpath : ReflTransGen (Soft heard) c c') : Paced heard now c c' :=
  fun _ resumed => ⟨strokes_of_path hpath, (suspended_of_path hpath).trans resumed⟩

theorem Bides.paced (h : Bides heard c c') : Paced heard now c c' := paced_of_path (.single (.waits h))

theorem paced_of_softly {m : Act Error CiController α} (hm : Softly heard m) : Act.Keeps (Paced heard now) m :=
  fun c => wlp_mono (hm c) (fun _ _ h => paced_of_path h) fun _ _ h => paced_of_path h

theorem paced_of_waits {m : Act Error CiController α} (hm : Waits heard m) : Act.Keeps (Paced heard now) m :=
  paced_of_softly (softly_of_waits hm)

theorem bides_flush : Waits heard (zoom transportLens (CiTransport.flush slotId)) :=
  bides_transport CiTransport.unasked_flush

theorem frameOf_empty_ne_poll {tag : TpduTag} {frame : Bytes} (hmax : Tpdu.frameOf 255 tag [] = [])
    (hbuild : slotId ≠ 255 → Tpdu.build slotId tag [] = .ok frame) (hne : frame ≠ Tpdu.pollFrame other) :
    Tpdu.frameOf slotId tag [] ≠ Tpdu.pollFrame other := by
  by_cases hslot : slotId = 255
  · rw [hslot, hmax]
    exact (List.cons_ne_nil _ _).symm
  · rw [Tpdu.frameOf, hbuild hslot]
    exact hne

theorem bides_flushReceivePending : Waits heard (flushReceivePending slotId now) := by
  apply keeps_bind .trans bides_slotAt
  intro slot
  apply bides_get
  intro c
  dsimp only
  split
  · exact keeps_pure .refl ()
  · apply keeps_bind .trans (bides_transport (CiTransport.unasked_sendTpdu fun other =>
      frameOf_empty_ne_poll rfl Tpdu.build_rcv (Tpdu.receiveFrame_ne_pollFrame slotId other)))
    intro _
    apply keeps_bind .trans
    · exact bides_modifySlot fun _ => .of_same rfl rfl rfl
    · exact fun _ => bides_markOutstanding now

theorem bides_driveCreating : Waits heard (driveCreating slotId now) := by
  apply keeps_bind .trans bides_flush
  intro _
  apply keeps_bind .trans (bides_markOutstanding now)
  intro _
  apply keeps_bind .trans bides_slotAt
  intro slot
  apply bides_get
  intro c
  dsimp only
  split <;> exact keeps_pure .refl _

theorem bides_drivePresent : Waits heard (drivePresent slotId now) := by
  apply keeps_bind .trans bides_slotAt
  intro slot
  split
  · apply keeps_bind .trans (bides_transport (CiTransport.unasked_sendTpdu fun other =>
      frameOf_empty_ne_poll rfl Tpdu.build_createTc (Tpdu.createFrame_ne_pollFrame slotId other)))
    intro _
    apply keeps_bind .trans
    · exact bides_modifySlot fun _ => .of_same rfl rfl rfl
    intro _
    apply keeps_bind .trans
    · exact fun _ => bides_setSlotStatus nofun fun _ _ h => nomatch h
    · exact fun _ => bides_markOutstanding now
  · exact keeps_pure .refl ()

theorem paced_poll (known : c.slots[slotId.toNat]? = some slot) (active : slot.status = .active)
    (due : ∀ nextPoll, slot.nextPoll = some nextPoll → nextPoll ≤ now) :
    wlp (do
        zoom transportLens (CiTransport.sendTpdu slotId .dataLast [])
        modifySlot slotId ({ · with
          commandSince := some now
          nextPoll := some (deadline now c.config.transportPollInterval) }))
      (fun _ => Paced heard now c) (fun _ => Paced heard now c) c := by
  have hqueued : (Obs.queued slotId (Tpdu.frameOf slotId .dataLast [])).Polls slotId := by
    by_cases hslot : slotId = 255
    · rw [hslot]
      exact .inl fun other => (List.cons_ne_nil _ _).symm
    · rw [Tpdu.frameOf, Tpdu.build_dataLast_nil hslot]
      exact .inr rfl
  have hwrote (frame : Bytes) (result : Except Error Unit) (callback : Bool) :
      (Obs.wrote slotId frame result callback).Polls slotId := .inl trivial
  have hsend (t : CiTransport) := @CiTransport.within_sendTpdu slotId _ .dataLast [] hwrote hqueued t
  have hpolled (ticked : c.lastTick = some now) (resumed : c.linkSuspended = false) {t : CiTransport}
      (h : CiTransport.Within (Obs.Polls slotId) c.session.transport t) :
      Stroke heard (some now) c (c.withTransport t) := by
    obtain ⟨delta, htrace, _, hall⟩ := h
    exact .polled rfl resumed known active due ⟨delta, htrace, hall⟩
  rw [wlp_bind, wlp_zoom]
  refine wlp_mono (hsend c.session.transport) (fun _ t ht => ?_) fun _ t ht ticked resumed => ?_
  · refine wlp_modifySlot fun _ _ ticked resumed => ⟨.tail (.single (hpolled ticked resumed ht)) ?_, resumed⟩
    exact .awaited rfl resumed ticked known active due
  · exact ⟨.single (hpolled ticked resumed ht), resumed⟩

theorem paced_driveActive (active : ∀ slot, c.slots[slotId.toNat]? = some slot → slot.status = .active) :
    wlp (driveActive slotId now) (fun _ => Paced heard now c) (fun _ => Paced heard now c) c := by
  rw [driveActive, wlp_bind, wlp_zoom]
  have hflush := @CiTransport.unasked_flush slotId c.session.transport
  have hflushed {t : CiTransport} (ht : CiTransport.Unasked c.session.transport t) : Bides heard c (transportLens.set t c) :=
    ⟨rfl, rfl, rfl, rfl, rfl, rfl, fun _ slot known => ⟨slot, known, .refl slot⟩, ⟨ht, fun _ _ hmem => .inl hmem⟩, .refl _⟩
  refine wlp_mono hflush (fun _ t ht => ?_) fun _ t ht => (hflushed ht).paced
  have h₁ : Bides heard c (transportLens.set t c) := hflushed ht
  have hactive₁ (slot : ControllerSlot) (known : (transportLens.set t c).slots[slotId.toNat]? = some slot) :
      slot.status = .active := active slot known
  generalize transportLens.set t c = c₁ at h₁ hactive₁ ⊢
  refine wlp_mono (Q := fun _ => Paced heard now c₁) (E := fun _ => Paced heard now c₁) ?_
    (fun _ _ h => h₁.paced.trans h) fun _ _ h => h₁.paced.trans h
  rw [wlp_bind, wlp_get, wlp_bind, wlp_get]
  dsimp only
  split
  · refine paced_of_waits (keeps_bind .trans bides_slotAt fun slot => keeps_bind .trans ?_ fun _ => ?_) c₁
    · exact bides_modifySlot fun _ => .of_same rfl rfl rfl
    · split <;> exact keeps_pure .refl _
  · rw [wlp_bind]
    refine wlp_modifySlot fun old hold => ?_
    have h₂ : Bides heard c₁ (c₁.edit slotId ({ · with commandSince := none })) := bides_edit fun _ _ => .of_same rfl rfl rfl
    rw [wlp_bind]
    refine wlp_slotAt fun slot known => ?_
    have hslot : slot.status = .active := by
      rw [known_edit hold, Option.some.injEq] at known
      rw [← known]
      exact hactive₁ old hold
    refine wlp_mono (Q := fun _ => Paced heard now (c₁.edit slotId ({ · with commandSince := none })))
      (E := fun _ => Paced heard now (c₁.edit slotId ({ · with commandSince := none }))) ?_
      (fun _ _ h => h₂.paced.trans h) fun _ _ h => h₂.paced.trans h
    split
    · exact paced_of_waits (keeps_bind .trans bides_flushReceivePending fun _ => keeps_pure .refl _) _
    · split
      · next hdue =>
          have hpoll := @paced_poll heard _ slotId slot now known hslot fun nextPoll hnext => by
            rw [hnext] at hdue
            exact of_decide_eq_true hdue
          rw [wlp_bind] at hpoll ⊢
          refine wlp_mono hpoll (fun _ c₃ h₃ => ?_) fun _ _ h => h
          rw [wlp_bind]
          exact wlp_mono h₃ (fun _ _ h => wlp_pure.mpr h) fun _ _ h => h
      · exact wlp_pure.mpr (.refl _)

theorem paced_retry {retryAt : Instant} (known : c.slots[slotId.toNat]? = some slot)
    (stands : slot.retryAt = some retryAt) (due : retryAt ≤ now) :
    Paced heard now c ((c.edit slotId ({ · with retryAt := none, status := .present })).emit
      [.slotStatusChanged slotId .failed .present]) :=
  fun _ resumed => ⟨.single (.retried rfl resumed known stands due), resumed⟩

theorem paced_driveSlot : Act.Keeps (Paced heard now) (driveSlot slotId now) := by
  have hstatus : Act.Keeps (Paced heard now) (driveStatus slotId now) := by
    intro c
    rw [driveStatus, wlp_bind]
    refine wlp_slotAt fun slot known => ?_
    split
    · exact wlp_pure.mpr (.refl c)
    · exact wlp_pure.mpr (.refl c)
    · exact paced_of_waits (keeps_bind .trans bides_drivePresent fun _ => keeps_pure .refl _) c
    · exact paced_of_waits bides_driveCreating c
    · next hactive =>
        refine paced_driveActive fun other hother => ?_
        rw [known, Option.some.injEq] at hother
        rw [← hother]
        exact hactive
  intro c
  rw [driveSlot, wlp_bind]
  refine wlp_slotAt fun slot known => ?_
  split
  · next hretry =>
      obtain ⟨hfailed, hany⟩ := hretry
      obtain ⟨retryAt, stands, hle⟩ := (Option.any_eq_true _ _).mp hany
      have hpaced := @paced_retry heard c slotId slot now retryAt known stands (of_decide_eq_true hle)
      have known₁ := known_edit known ({ · with retryAt := none })
      rw [wlp_bind]
      refine wlp_modifySlot fun _ _ => ?_
      rw [setSlotStatus, wlp_bind, wlp_bind]
      refine wlp_slotAt fun slot₁ hslot₁ => ?_
      rw [known₁, Option.some.injEq] at hslot₁
      have hfailed₁ : slot₁.status = .failed := by
        rw [← hslot₁]
        exact hfailed
      rw [wlp_bind]
      refine wlp_modifySlot fun _ _ => ?_
      rw [hfailed₁, if_pos (by decide), edit_edit, pushEvent, wlp_modify]
      exact wlp_mono (hstatus _) (fun _ _ h => hpaced.trans h) fun _ _ h => hpaced.trans h
  · exact hstatus c

theorem strokes_recoverAll (failedSlot : Option UInt8) (reason : CaSlotFailure) (ticked : c.lastTick = some now) :
    wlp (recoverAll failedSlot reason now) (fun _ => Strokes heard told c) (fun _ => Strokes heard told c) c :=
  wlp_mono (recoverAll_recovers failedSlot reason ticked) (fun _ _ h => .single (.recovered h))
    fun _ _ h => .single (.recovered h)

theorem strokes_recover {failedSlot : Option UInt8} {reason : CaSlotFailure} {e : Error} (ticked : c.lastTick = some now)
    {Q : α → CiController → Prop} :
    wlp (do
        let _ ← attempt (recoverAll failedSlot reason now)
        fail e) Q (fun _ => Strokes heard told c) c := by
  rw [wlp_bind, wlp_attempt]
  exact wlp_mono (strokes_recoverAll failedSlot reason ticked) (fun _ _ h => wlp_fail.mpr h) fun _ _ h => wlp_fail.mpr h

theorem strokes_driveSlots : ∀ (ids : List UInt8) (c : CiController), c.lastTick = some now → c.linkSuspended = false →
    wlp (driveSlots now ids) (fun _ => Strokes heard (some now) c) (fun _ => Strokes heard (some now) c) c := by
  intro ids
  induction ids with
  | nil => exact fun c _ _ => wlp_pure.mpr .refl
  | cons slotId rest ih =>
      intro c ticked resumed
      rw [driveSlots, wlp_bind, wlp_attempt]
      refine wlp_mono (@paced_driveSlot heard slotId now c) (fun failure c₁ h₁ => ?_) fun e c₁ h₁ => ?_
      · obtain ⟨hpath, hresumed⟩ := h₁ ticked resumed
        have hticked := (strokes_lastTick hpath).trans ticked
        cases failure with
        | none => exact wlp_mono (ih c₁ hticked hresumed) (fun _ _ h => hpath.trans h) fun _ _ h => hpath.trans h
        | some reason =>
            exact wlp_mono (strokes_recoverAll _ reason hticked) (fun _ _ h => hpath.trans h) fun _ _ h => hpath.trans h
      · obtain ⟨hpath, _⟩ := h₁ ticked resumed
        exact wlp_mono (strokes_recover ((strokes_lastTick hpath).trans ticked)) (fun _ _ h => h)
          fun _ _ h => hpath.trans h

def Checks (c : CiController) (now : Instant) : Prop := ∀ statusCheck, c.nextStatusCheck = some statusCheck → statusCheck ≤ now

theorem strokes_slotInfos : ∀ (ids : List UInt8) (c : CiController), c.lastTick = some now → c.linkSuspended = false →
    c.Checks now → wlp (slotInfos now ids) (fun _ c' => Strokes heard (some now) c c' ∧ Stays c c')
      (fun _ => Strokes heard (some now) c) c := by
  intro ids
  induction ids with
  | nil => exact fun c _ _ _ => wlp_pure.mpr ⟨.refl, .refl c⟩
  | cons slotId rest ih =>
      intro c ticked resumed due
      have hprobed : Stroke heard (some now) c (c.noted (.slotInfo slotId)) := .probed slotId rfl resumed due
      rw [slotInfos, wlp_bind, wlp_attempt]
      refine wlp_mono (wlp_of_wp (ioSlotInfo_spec c)) (fun info c₁ h₁ => ?_) fun e c₁ h₁ => ?_
      · subst h₁
        dsimp only
        rw [wlp_bind]
        refine wlp_mono (ih (c.noted (.slotInfo slotId)) ticked resumed due) (fun infos c' h => wlp_pure.mpr ?_)
          fun _ _ h => .head hprobed h
        exact ⟨.head hprobed h.1, h.2.suspended, h.2.recoveryAt, h.2.statusCheck⟩
      · subst h₁
        have hticked : (c.noted (.slotInfo slotId)).lastTick = some now := ticked
        exact wlp_mono (strokes_recover hticked) (fun _ _ h => h) fun _ _ h => .head hprobed h

theorem strokes_refreshSlotInfo (ticked : c.lastTick = some now) (resumed : c.linkSuspended = false) (due : c.Checks now) :
    wlp (refreshSlotInfo now) (fun _ c' => Strokes heard (some now) c c' ∧ Stays c c')
      (fun _ => Strokes heard (some now) c) c := by
  rw [refreshSlotInfo, wlp_bind, wlp_get, wlp_bind]
  refine wlp_mono (strokes_slotInfos c.slotIds c ticked resumed due) (fun infos c₁ h₁ => ?_) fun _ _ h => h
  have hloop : Softly heard (forEach infos fun entry => applySlotInfo entry.1 entry.2) :=
    keeps_forEach (fun _ => .refl) ReflTransGen.trans fun entry _ => applySlotInfo_softly entry.2
  refine wlp_mono (hloop c₁) (fun _ c₂ h₂ => ?_) fun _ _ h₂ => h₁.1.trans (strokes_of_path h₂)
  have hfades : Fades heard false none c₁ c₂ := fades_of_path h₂
  exact ⟨h₁.1.trans (strokes_of_path h₂), h₁.2.trans hfades.stays⟩

theorem strokes_sessionTick (ticked : c.lastTick = some now) :
    wlp (sessionTick now) (fun _ => Bides heard c) (fun _ => Strokes heard told c) c := by
  have htick : Waits heard (zoom sessionLens (CiSession.tickAt now)) := bides_session (CiSession.idles_tickAt now)
  rw [sessionTick, wlp_bind, wlp_attempt]
  refine wlp_mono (htick c) (fun _ _ h => wlp_pure.mpr h) fun e c₁ h₁ => ?_
  dsimp only
  split
  · exact wlp_mono (strokes_recover (h₁.lastTick.trans ticked)) (fun _ _ h => h)
      fun _ _ h => (strokes_of_bides h₁).trans h
  · exact wlp_fail.mpr (strokes_of_bides h₁)

theorem strokes_recoverAtEventTime (failedSlot : Option UInt8) :
    Act.Keeps (Strokes heard told) (recoverAtEventTime failedSlot) := by
  intro c
  rw [recoverAtEventTime, wlp_bind, wlp_get]
  split
  · next now ticked =>
      rw [wlp_bind, wlp_attempt]
      exact wlp_mono (strokes_recoverAll failedSlot .linkFailed ticked) (fun _ _ h => wlp_pure.mpr h)
        fun _ _ h => wlp_pure.mpr h
  · exact wlp_pure.mpr .refl

theorem strokes_of_waits {m : Act Error CiController α} (hm : Waits heard m) : Act.Keeps (Strokes heard told) m :=
  fun c => wlp_mono (hm c) (fun _ _ h => strokes_of_bides h) fun _ _ h => strokes_of_bides h

theorem strokes_of_softly {m : Act Error CiController α} (hm : Softly heard m) : Act.Keeps (Strokes heard told) m :=
  fun c => wlp_mono (hm c) (fun _ _ h => strokes_of_path h) fun _ _ h => strokes_of_path h

theorem strokes_finishProgramCommand (result : Except Error (List UInt8)) :
    Act.Keeps (Strokes heard told) (finishProgramCommand result) := by
  cases result with
  | ok slotIds =>
      apply keeps_bind ReflTransGen.trans (keeps_get fun _ => .refl)
      intro c
      split
      · exact strokes_of_waits (keeps_forEach .refl .trans fun _ _ => bides_markOutstanding _)
      · exact keeps_pure (fun _ => .refl) ()
  | error e =>
      rw [finishProgramCommand]
      dsimp only
      split
      · exact keeps_bind ReflTransGen.trans (strokes_recoverAtEventTime none) fun _ => keeps_fail (fun _ => .refl) e
      · exact keeps_fail (fun _ => .refl) e

theorem strokes_dispatchCaPmt (ticked : c.lastTick = some now) :
    wlp (dispatchCaPmt now) (fun _ => Strokes heard (some now) c) (fun _ => Strokes heard (some now) c) c := by
  have hpassed : Stroke heard (some now) c { c with pacer := (c.pacer.poll now).2 } := .passed rfl ticked
  have hafter {m : Act Error CiController Unit} (hm : Act.Keeps (Strokes heard (some now)) m) :
      wlp m (fun _ => Strokes heard (some now) c) (fun _ => Strokes heard (some now) c)
        { c with pacer := (c.pacer.poll now).2 } :=
    wlp_mono (hm _) (fun _ _ h => .head hpassed h) fun _ _ h => .head hpassed h
  have hprogram {m : Act Error CiSession (List UInt8)} (hm : Act.Keeps (CiSession.Idles heard) m) :
      Act.Keeps (Strokes heard (some now)) (do finishProgramCommand (← attempt (zoom sessionLens m))) :=
    keeps_bind ReflTransGen.trans (strokes_of_waits (keeps_attempt (bides_session hm))) strokes_finishProgramCommand
  rw [dispatchCaPmt, wlp_bind, pollPacer, wlp_bind, wlp_get]
  dsimp only
  rw [wlp_bind, wlp_modify, wlp_pure]
  split
  · exact wlp_pure.mpr (.single hpassed)
  · exact hafter (hprogram (CiSession.idles_setProgram _))
  · exact hafter (hprogram (CiSession.idles_removeProgram _))

theorem strokes_tickLink (ticked : c.lastTick = some now) (resumed : c.linkSuspended = false) :
    wlp (tickLink now) (fun _ => Strokes heard (some now) c) (fun _ => Strokes heard (some now) c) c := by
  have hrest {c₁ : CiController} (hpath : Strokes heard (some now) c c₁) (resumed₁ : c₁.linkSuspended = false) :
      wlp (do
        sessionTick now
        driveSlots now (← get).slotIds
        collectSessionEvents
        dispatchCaPmt now) (fun _ => Strokes heard (some now) c) (fun _ => Strokes heard (some now) c) c₁ := by
    have ticked₁ := (strokes_lastTick hpath).trans ticked
    rw [wlp_bind]
    refine wlp_mono (strokes_sessionTick ticked₁) (fun _ c₂ h₂ => ?_) fun _ _ h => hpath.trans h
    have ticked₂ := h₂.lastTick.trans ticked₁
    have hpath₂ := hpath.trans (strokes_of_bides h₂)
    rw [wlp_bind, wlp_get, wlp_bind]
    refine wlp_mono (strokes_driveSlots c₂.slotIds c₂ ticked₂ (h₂.suspended.trans resumed₁)) (fun _ c₃ h₃ => ?_)
      fun _ _ h => hpath₂.trans h
    have hpath₃ := hpath₂.trans h₃
    rw [wlp_bind]
    refine wlp_mono (collectSessionEvents_softly c₃) (fun _ c₄ h₄ => ?_) fun _ _ h => hpath₃.trans (strokes_of_path h)
    have hpath₄ := hpath₃.trans (strokes_of_path h₄)
    exact wlp_mono (strokes_dispatchCaPmt ((strokes_lastTick hpath₄).trans ticked)) (fun _ _ h => hpath₄.trans h)
      fun _ _ h => hpath₄.trans h
  rw [tickLink, wlp_bind, wlp_get]
  split
  · next hall =>
      have due : c.Checks now := fun statusCheck hstatus => by
        rw [hstatus] at hall
        exact of_decide_eq_true hall
      rw [wlp_bind]
      refine wlp_mono (strokes_refreshSlotInfo ticked resumed due) (fun _ c₁ h₁ => ?_) fun _ _ h => h
      have ticked₁ := (strokes_lastTick h₁.1).trans ticked
      have resumed₁ := h₁.2.suspended.trans resumed
      rw [wlp_bind, wlp_modify]
      refine hrest (h₁.1.tail (.scheduled rfl resumed₁ ticked₁ ?_)) resumed₁
      rw [h₁.2.statusCheck]
      exact due
  · exact hrest .refl resumed

end Tick

end CiController

end LibDvb
