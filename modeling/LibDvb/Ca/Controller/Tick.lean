import LibDvb.Ca.Controller.Drive

namespace LibDvb.CiController

open Relation Act Outcome

variable {V : UInt8 → Prop} {c c' c'' : CiController} {slotId other : UInt8} {slot : ControllerSlot}

abbrev Works : CiController → CiController → Prop := ReflTransGen (Work fun _ => True)

theorem works_of_path (hpath : ReflTransGen (Move fun _ => True) c c') : Works c c' :=
  ReflTransGen.mono (fun _ _ => .move) _ _ hpath

theorem steps_of_works (hpath : Works c c') : ReflTransGen Step c c' :=
  ReflTransGen.mono (fun _ _ => .work) _ _ hpath

inductive Done (c c' : CiController) : Prop
  | worked (path : Works c c') (calm : c'.Calm)
  | restarted {c₁} (work : Works c c₁) (steps : ReflTransGen Step c₁ c') (restarted : Restarted c₁ c')

section Info

theorem Work.keeps (hw : Work V c c') : Keeps c c' := by
  cases hw with
  | move move => exact move.keeps
  | info slotId present ready => exact keeps_edit _

theorem Works.keeps (hpath : Works c c') : Keeps c c' :=
  LibDvb.Path.order hpath Keeps.refl Keeps.trans fun _ _ => Work.keeps

theorem works_along {α : Type} {m : Act Error CiController α} {Q : α → CiController → Prop}
    {E : Error → CiController → Prop} (hm : Along (Move fun _ => True) m Q E c) :
    Along (Work fun _ => True) m (fun a c' => ReflTransGen (Move fun _ => True) c c' ∧ Q a c')
      (fun e c' => ReflTransGen (Move fun _ => True) c c' ∧ E e c') c :=
  wp_mono hm (fun _ _ hq => ⟨works_of_path hq.1, hq⟩) fun _ _ hq => ⟨works_of_path hq.1, hq⟩

theorem applySlotInfo_along (h : c.Calm) (hlt : slotId.toNat < c.slots.length) (info : CaSlotInfo) :
    Along (Work fun _ => True) (applySlotInfo slotId info) (fun _ c' => c'.Calm) (fun _ _ => False)
      c := by
  obtain ⟨slot, known⟩ := known_of_lt hlt
  unfold applySlotInfo
  dsimp only
  generalize hpresent : (decide ((info.flags &&& (caCiModulePresent ||| caCiModuleReady)) ≠ 0)) =
    present
  generalize hready : (decide ((info.flags &&& caCiModuleReady) ≠ 0)) = ready
  let f : ControllerSlot → ControllerSlot := ({ · with present, ready })
  have hinfo : Work (fun _ => True) c (c.edit slotId f) := .info slotId present ready
  have h₁ : (c.edit slotId f).Sound := h.sound.work hinfo
  have known₁ := known_edit known f
  -- The slots but this one are present as their status tells.
  have hcalm {c' : CiController} (hpath : ReflTransGen (Move fun _ => True) (c.edit slotId f) c')
      (hs : c'.Still) (hp : c'.PresentAt slotId) : c'.Calm := by
    refine ⟨h₁.path hpath, hs.1, hs.2, fun other => ?_⟩
    by_cases heq : other = slotId
    · rw [heq]
      exact hp
    · refine PresentAt.path (fun view hview => ?_) hpath
      rw [getElem?_edit, if_neg fun he => heq he.symm] at hview
      exact h.present other view hview
  have hsame (hp : (f slot).present = false ↔ (f slot).status = .absent) :
      (c.edit slotId f).Calm := by
    refine hcalm .refl h.still fun view hview => ?_
    rw [known₁, Option.some.injEq] at hview
    rw [← hview]
    exact hp
  have hdrop (failure : Option CaSlotFailure) (new : CaSlotStatus)
      (rest : new ≠ .active ∧ new ≠ .creatingTc) (hp : present = false ↔ new = .absent) :
      Along (Work fun _ => True) (dropTo slotId failure new) (fun _ c' => c'.Calm)
        (fun _ _ => False) (c.edit slotId f) :=
    along_mono (works_along (dropTo_along h₁ h.whole h.collected (fun _ => trivial) known₁ failure rest hp))
      (fun _ c' hc' => hcalm hc'.1 ⟨hc'.2.1, hc'.2.2.1⟩ hc'.2.2.2) fun _ _ hf => hf.2
  refine along_bind (Q := fun _ c' => c' = c.edit slotId f)
    ((wp_modifySlot known).mpr ⟨.single hinfo, rfl⟩) fun _ c₁ _ hc₁ => ?_
  subst hc₁
  rw [Along, wp_bind, wp_slotAt_known known₁]
  cases present with
  | false =>
      rw [if_pos (by rfl)]
      split
      · exact hdrop none .absent (by decide) (by decide)
      · next hstatus =>
          rw [ne_eq, not_not] at hstatus
          exact ⟨.refl, hsame (iff_of_true rfl hstatus)⟩
  | true =>
      have hat (hstatus : (f slot).status ≠ .absent) : (c.edit slotId f).Calm :=
        hsame (iff_of_false (by rintro ⟨⟩) hstatus)
      rw [if_neg (by decide)]
      split
      · split
        · exact hdrop _ .failed (by decide) (by decide)
        · next hstatus =>
            simp only [not_or, ne_eq, not_not] at hstatus
            exact ⟨.refl, hat (by rw [hstatus.1]; decide)⟩
      split
      · next hstatus =>
          refine along_mono (works_along (setIdleStatus_along h₁ h.collected (fun _ => trivial) known₁ ?_
            (by decide) (iff_of_false (by rintro ⟨⟩) (by rintro ⟨⟩)))) (fun _ c' hc' => ?_) fun _ _ hf => hf.2
          · rw [hstatus]
            decide
          · obtain ⟨hpath, hsession, hview⟩ := hc'
            refine hcalm hpath ?_ fun view known' => ?_
            · rw [Still, hsession]
              exact h.still
            · rw [hview, Option.some.injEq] at known'
              rw [← known']
              exact iff_of_false (by rintro ⟨⟩) (by rintro ⟨⟩)
      · next hstatus =>
          split
          · exact hdrop none .present (by decide) (by decide)
          · exact ⟨.refl, hat hstatus⟩

theorem Done.after (hpath : Works c c') (hd : Done c' c'') : Done c c'' := by
  cases hd with
  | worked path calm => exact .worked (hpath.trans path) calm
  | restarted work steps restarted => exact .restarted (hpath.trans work) steps restarted

theorem Done.of_moves (hpath : ReflTransGen (Move fun _ => True) c c') (hr : ReflTransGen Step c' c'')
    (restarted : Restarted c' c'') : Done c c'' := .restarted (works_of_path hpath) hr restarted

theorem wp_recover (h : c.Sound) {failedSlot : Option UInt8} {reason : CaSlotFailure} {now : Instant}
    (ticked : c.lastTick = some now) {α : Type} {f : Except Error Unit → Act Error CiController α} {Q : α → CiController → Prop}
    {E : Error → CiController → Prop}
    (hf : ∀ result c', ReflTransGen Step c c' → Restarted c c' → wp (f result) Q E c') :
    wp (attempt (recoverAll failedSlot reason now) >>= f) Q E c := by
  rw [wp_bind, wp_attempt]
  exact wp_mono (recoverAll_along h failedSlot reason ticked) (fun _ c' hc' => hf _ c' hc'.1 hc'.2)
    fun _ c' hc' => hf _ c' hc'.1 hc'.2

theorem ioSlotInfo_spec (c : CiController) : wp (ioSlotInfo slotId)
    (fun _ c' => c' = c.noted (.slotInfo slotId)) (fun _ c' => c' = c.noted (.slotInfo slotId)) c := by
  simp only [ioSlotInfo, note, CiTransport.note, CaDevice.readSlotInfo, wp_bind, wp_zoom, wp_modify,
    wp_get]
  split <;> rfl

theorem Calm.probed (h : c.Calm) (slotId : UInt8) : (c.noted (.slotInfo slotId)).Calm := by
  have hprobed : Move (fun _ => True) c (c.noted (.slotInfo slotId)) := .probed slotId
  refine h.path (.single hprobed) ?_ h.collected
  show pending (c.session.transport.trace ++ [.slotInfo slotId]) = false
  rw [pending_snoc, h.whole]
  rfl

theorem slotInfos_along (now : Instant) : ∀ (ids : List UInt8) (c : CiController), c.Calm →
    c.lastTick = some now → wp (slotInfos now ids) (fun infos c' => Works c c' ∧ c'.Calm ∧ ∀ entry ∈ infos, entry.1 ∈ ids)
      (fun _ => Done c) c := by
  intro ids
  induction ids with
  | nil => exact fun c h _ => ⟨.refl, h, by simp⟩
  | cons slotId rest ih =>
      intro c h ticked
      have h₁ := h.probed slotId
      have hworks : Works c (c.noted (.slotInfo slotId)) := .single (.move (.probed slotId))
      rw [slotInfos, wp_bind, wp_attempt]
      refine wp_mono (ioSlotInfo_spec c) (fun info c₁ hc₁ => ?_) (fun e c₁ hc₁ => ?_)
      · subst hc₁
        dsimp only
        rw [wp_bind]
        refine wp_mono (ih _ h₁ ticked) (fun infos c' hc' => ?_) (fun e c' hc' => hc'.after hworks)
        obtain ⟨hpath, hcalm, hmem⟩ := hc'
        refine ⟨hworks.trans hpath, hcalm, fun entry hentry => ?_⟩
        rcases List.mem_cons.mp hentry with rfl | hentry
        · exact List.mem_cons_self
        · exact List.mem_cons_of_mem _ (hmem entry hentry)
      · subst hc₁
        dsimp only
        exact wp_recover h₁.sound ticked fun _ c' hpath hr => .restarted hworks hpath hr

end Info

section Parts

theorem refreshSlotInfo_along (h : c.Calm) {now : Instant} (ticked : c.lastTick = some now) :
    wp (refreshSlotInfo now) (fun _ c' => Works c c' ∧ c'.Calm) (fun _ => Done c) c := by
  rw [refreshSlotInfo, wp_bind, wp_get, wp_bind]
  refine wp_mono (slotInfos_along now c.slotIds c h ticked) (fun infos c₁ hc₁ => ?_) fun _ _ hd => hd
  obtain ⟨hpath₁, h₁, hmem⟩ := hc₁
  refine wp_mono (wp_forEach_invariant (I := fun c' => Works c₁ c' ∧ c'.Calm)
    (fun entry hentry c' hc' => ?_) ⟨.refl, h₁⟩) (fun _ c' hc' => ⟨hpath₁.trans hc'.1, hc'.2⟩)
      fun _ _ hd => hd
  have hlt : entry.1.toNat < c'.slots.length := by
    rw [hc'.1.keeps.count, hpath₁.keeps.count]
    exact (mem_slotIds h.sound.count_le).mp (hmem entry hentry)
  exact wp_mono (applySlotInfo_along hc'.2 hlt entry.2) (fun _ c'' hc'' =>
    ⟨hc'.1.trans hc''.1, hc''.2⟩) fun _ _ hf => hf.2.elim

theorem sessionTick_along (h : c.Calm) {now : Instant} (ticked : c.lastTick = some now) :
    wp (sessionTick now) (fun _ c' => Works c c' ∧ c'.Calm) (fun _ => Done c) c := by
  have htick : Along (Move fun _ => True) (zoom sessionLens (CiSession.tickAt now))
      (fun _ c' => c'.Still) (fun e _ => e.IsWrite) c := by
    refine session_along (along_mono (CiSession.tickAt_along h.sound.session h.sound.within h.whole
      now) (fun _ s hs => ⟨hs.1, ?_⟩) fun _ _ he => he)
    show s.events = []
    rw [hs.2]
    exact h.collected
  rw [sessionTick, wp_bind, wp_attempt]
  refine wp_mono htick (fun _ c₁ hc₁ => ?_) (fun e c₁ hc₁ => ?_)
  · exact ⟨works_of_path hc₁.1, h.along hc₁.1 hc₁.2⟩
  · dsimp only
    rw [if_pos (isLinkError_write hc₁.2)]
    exact wp_recover (h.sound.path hc₁.1) ((Keeps.path hc₁.1).lastTick.trans ticked) fun _ c' hpath hr =>
      .of_moves hc₁.1 hpath hr

theorem driveSlots_along (now : Instant) : ∀ (ids : List UInt8) (c : CiController), c.Calm →
    c.lastTick = some now → (∀ slotId ∈ ids, slotId.toNat < c.slots.length) →
    wp (driveSlots now ids) (fun _ => Done c) (fun _ => Done c) c := by
  intro ids
  induction ids with
  | nil => exact fun c h _ _ => .worked .refl h
  | cons slotId rest ih =>
      intro c h ticked hlt
      rw [driveSlots, wp_bind, wp_attempt]
      refine wp_mono (driveSlot_along (V := fun _ => True) h (hlt slotId List.mem_cons_self) (fun _ => trivial)
        now)
        (fun failure c₁ hc₁ => ?_) (fun e c₁ hc₁ => ?_)
      · have h₁ := h.along hc₁.1 hc₁.2
        have ticked₁ := (Keeps.path hc₁.1).lastTick.trans ticked
        cases failure with
        | none =>
            have hlt₁ (other : UInt8) (hmem : other ∈ rest) : other.toNat < c₁.slots.length :=
              (Keeps.path hc₁.1).count.symm ▸ hlt other (List.mem_cons_of_mem _ hmem)
            have hworks := works_of_path hc₁.1
            exact wp_mono (ih c₁ h₁ ticked₁ hlt₁) (fun _ _ hd => hd.after hworks) fun _ _ hd => hd.after hworks
        | some reason =>
            exact wp_mono (recoverAll_along h₁.sound _ reason ticked₁)
              (fun _ c' hc' => .of_moves hc₁.1 hc'.1 hc'.2) fun _ c' hc' => .of_moves hc₁.1 hc'.1 hc'.2
      · dsimp only
        exact wp_recover (h.sound.path hc₁.1) ((Keeps.path hc₁.1).lastTick.trans ticked)
          fun _ c' hpath hr => .of_moves hc₁.1 hpath hr

theorem recoverAtEventTime_along (h : c.Sound) {now : Instant} (tick : c.lastTick = some now)
    (failedSlot : Option UInt8) :
    wp (recoverAtEventTime failedSlot) (fun _ c' => ReflTransGen Step c c' ∧ Restarted c c')
      (fun _ _ => False) c := by
  rw [recoverAtEventTime, wp_bind, wp_get, tick]
  exact wp_recover h tick fun _ c' hpath hr => ⟨hpath, hr⟩

theorem programmed_along (h : c.Calm) {now tick : Instant} (ticked : c.lastTick = some tick)
    {change : CaPmtChange} (due : (c.pacer.poll now).1 = some change)
    {m : Act Error CiSession (List UInt8)}
    (hm : wp m (fun slotIds s => CiSession.Programmed c.session change s ∧
        pending s.transport.trace = false ∧
          ∀ slotId ∈ slotIds, slotId.toNat < c.session.transport.slots.length)
      (fun e s => CiSession.ChangeStopped c.session change e s) c.session) :
    wp (do finishProgramCommand (← attempt (zoom sessionLens m))) (fun _ => Done c) (fun _ => Done c)
      { c with pacer := (c.pacer.poll now).2 } := by
  have hmove {s : CiSession} (hs : CiSession.Programmed c.session change s) :
      Move (fun _ => True) c { c with pacer := (c.pacer.poll now).2, session := s } :=
    .programmed due hs
  have hcalm {s : CiSession} (hs : CiSession.Programmed c.session change s)
      (hp : pending s.transport.trace = false) :
      ({ c with pacer := (c.pacer.poll now).2, session := s } : CiController).Calm := by
    obtain ⟨_, _, _, _, _, hevents, _⟩ := hs.path
    exact h.path (.single (hmove hs)) hp (hevents.trans h.collected)
  rw [wp_bind, wp_attempt, wp_zoom]
  refine wp_mono hm (fun slotIds s hs => ?_) (fun e s hs => ?_)
  · obtain ⟨hprogrammed, hp, hbound⟩ := hs
    let c₁ : CiController := { c with pacer := (c.pacer.poll now).2, session := s }
    show wp (finishProgramCommand (.ok slotIds)) _ _ c₁
    have hticked : c₁.lastTick = some tick := ticked
    rw [finishProgramCommand, wp_bind, wp_get, hticked]
    refine wp_mono (wp_forEach_invariant (I := fun c' => Works c₁ c' ∧ c'.Calm)
      (fun slotId hslot c' hc' => ?_) ⟨.refl, hcalm hprogrammed hp⟩) (fun _ c' hc' =>
        .worked (.head (.move (hmove hprogrammed)) hc'.1) hc'.2) fun _ _ hd => hd
    have hlt : slotId.toNat < c'.slots.length := by
      rw [hc'.1.keeps.count]
      exact h.sound.count ▸ hbound slotId hslot
    refine wp_mono (markOutstanding_along (V := fun _ => True) (List.getElem?_eq_getElem hlt) tick)
      (fun _ c'' hc'' => ⟨hc'.1.trans (works_of_path hc''.1), hc'.2.along hc''.1 ?_⟩)
        fun _ _ hf => hf.2.elim
    rw [Still, hc''.2]
    exact hc'.2.still
  · obtain ⟨hprogrammed, hwrite, _⟩ := hs
    let c₁ : CiController := { c with pacer := (c.pacer.poll now).2, session := s }
    have hticked : c₁.lastTick = some tick := ticked
    have hpath : ReflTransGen (Move fun _ => True) c c₁ := .single (hmove hprogrammed)
    show wp (finishProgramCommand (.error e)) _ _ c₁
    rw [finishProgramCommand]
    dsimp only
    split
    · rw [wp_bind]
      exact wp_mono (recoverAtEventTime_along (h.sound.path hpath) hticked none)
        (fun _ c' hc' => .of_moves hpath hc'.1 hc'.2) fun _ _ hf => hf.elim
    · next hlink =>
        refine .worked (works_of_path hpath) (hcalm hprogrammed ?_)
        rw [← Bool.not_eq_true]
        exact fun hp => hlink (isLinkError_write (hwrite hp))

theorem dispatchCaPmt_along (h : c.Calm) {tick : Instant} (ticked : c.lastTick = some tick)
    (now : Instant) : wp (dispatchCaPmt now) (fun _ => Done c) (fun _ => Done c) c := by
  rw [dispatchCaPmt, wp_bind, pollPacer, wp_bind, wp_get]
  dsimp only
  rw [wp_bind, wp_modify, wp_pure]
  cases hdue : (c.pacer.poll now).1 with
  | none =>
      have hmove : Move (fun _ => True) c { c with pacer := (c.pacer.poll now).2 } := .polled hdue
      exact .worked (works_of_path (.single hmove)) (h.path (.single hmove) h.whole h.collected)
  | some change =>
      cases change with
      | set program =>
          exact programmed_along h ticked hdue (CiSession.setProgram_spec h.sound.session h.whole program)
      | remove programNumber =>
          exact programmed_along h ticked hdue
            (CiSession.removeProgram_spec h.sound.session h.whole programNumber)

theorem collect_nil (hevents : c.session.events = []) {Q : Unit → CiController → Prop}
    {E : Error → CiController → Prop} : wp collectSessionEvents Q E c ↔ Q () c := by
  rw [collectSessionEvents, wp_bind, wp_get, hevents, List.length_nil, collectLoop, wp_bind, wp_zoom,
    CiSession.nextEvent, wp_bind, wp_get, show (sessionLens.get c).events = [] from hevents]
  rfl

theorem dispatchCaPmt_halted (gate : c.pacer.gate = .notReady) (now : Instant)
    {Q : Unit → CiController → Prop} {E : Error → CiController → Prop} :
    wp (dispatchCaPmt now) Q E c ↔ Q () c := by
  have hpoll : c.pacer.poll now = (none, c.pacer) := by
    rw [CaPmtPacer.poll, gate]
  rw [dispatchCaPmt, wp_bind, pollPacer, wp_bind, wp_get]
  dsimp only
  rw [wp_bind, wp_modify, wp_pure, hpoll]
  rfl

end Parts

section Tick

theorem tickLink_along (h : c.Calm) {now : Instant} (ticked : c.lastTick = some now) :
    wp (tickLink now) (fun _ => Done c) (fun _ => Done c) c := by
  have hrest {c₁ : CiController} (hpath : Works c c₁) (h₁ : c₁.Calm) :
      wp (do
        sessionTick now
        driveSlots now (← get).slotIds
        collectSessionEvents
        dispatchCaPmt now) (fun _ => Done c) (fun _ => Done c) c₁ := by
    rw [wp_bind]
    refine wp_mono (sessionTick_along h₁ (hpath.keeps.lastTick.trans ticked)) (fun _ c₂ hc₂ => ?_) fun _ _ hd => hd.after hpath
    obtain ⟨hpath₂, h₂⟩ := hc₂
    have hworks := hpath.trans hpath₂
    rw [wp_bind, wp_get, wp_bind]
    refine wp_mono (driveSlots_along now c₂.slotIds c₂ h₂ ((Works.keeps hworks).lastTick.trans ticked) fun slotId hmem =>
      (mem_slotIds h₂.sound.count_le).mp hmem) (fun _ c₃ hc₃ => ?_) fun _ _ hd => hd.after hworks
    rw [wp_bind]
    have hdone := hc₃.after hworks
    cases hc₃ with
    | worked hpath₃ h₃ =>
        have hall : Works c c₃ := hworks.trans hpath₃
        refine (collect_nil h₃.collected).mpr ?_
        have hticked : c₃.lastTick = some now := hall.keeps.lastTick.trans ticked
        exact wp_mono (dispatchCaPmt_along h₃ hticked now) (fun _ _ hd => hd.after hall)
          fun _ _ hd => hd.after hall
    | restarted work steps restarted =>
        refine (collect_nil restarted.recovered.calm.collected).mpr ?_
        exact (dispatchCaPmt_halted restarted.recovered.halted.gate now).mpr hdone
  rw [tickLink, wp_bind, wp_get]
  split
  · rw [wp_bind]
    refine wp_mono (refreshSlotInfo_along h ticked) (fun _ c₁ hc₁ => ?_) fun _ _ hd => hd
    obtain ⟨hpath₁, h₁⟩ := hc₁
    have hmove : Move (fun _ => True) c₁
        { c₁ with nextStatusCheck := some (deadline now c₁.config.slotStatusInterval) } := .scheduled _
    rw [wp_bind, wp_modify]
    exact hrest (hpath₁.trans (works_of_path (.single hmove)))
      (h₁.path (.single hmove) h₁.whole h₁.collected)
  · exact hrest .refl h

def ticking (c : CiController) (now : Instant) (recoveryAt : Option Instant) : CiController :=
  { c with
    lastTick := some now
    linkSuspended := false
    recoveryAt
    deferredLinkFailure := false }

inductive TickEnd (c : CiController) (now : Instant) (c' : CiController) : Prop
  | waiting (suspended : c.linkSuspended = true)
      (early : ∀ recoveryAt, c.recoveryAt = some recoveryAt → now < recoveryAt)
      (same : c' = { c with lastTick := some now })
  | driven {recoveryAt : Option Instant}
      (due : c.linkSuspended = true → ∃ recoveryAt, c.recoveryAt = some recoveryAt ∧ recoveryAt ≤ now)
      (done : Done (c.ticking now recoveryAt) c')

theorem Calm.flags (h : c.Calm) (lastTick : Option Instant) (linkSuspended : Bool)
    (recoveryAt nextStatusCheck : Option Instant) (deferredLinkFailure : Bool) :
    Calm { c with lastTick, linkSuspended, recoveryAt, nextStatusCheck, deferredLinkFailure } :=
  ⟨h.sound.step (.flags lastTick linkSuspended recoveryAt nextStatusCheck deferredLinkFailure),
    h.whole, h.collected, h.present⟩

theorem Calm.ticking (h : c.Calm) (now : Instant) (recoveryAt : Option Instant) :
    (c.ticking now recoveryAt).Calm := h.flags (some now) false recoveryAt c.nextStatusCheck false

theorem ticking_eq {now : Instant} {suspended deferred : Bool} (hs : suspended = false)
    (hd : deferred = false) : { c with
      lastTick := some now, linkSuspended := suspended, deferredLinkFailure := deferred } =
        c.ticking now c.recoveryAt := by
  rw [hs, hd]
  rfl

theorem tick_along (h : c.Calm) (deferred : c.deferredLinkFailure = true → c.linkSuspended = false)
    (now : Instant) :
    wp (tick now) (fun _ => TickEnd c now) (fun _ => TickEnd c now) c := by
  have hdriven (recoveryAt : Option Instant)
      (due : c.linkSuspended = true → ∃ recoveryAt, c.recoveryAt = some recoveryAt ∧ recoveryAt ≤ now) :
      wp (tickLink now) (fun _ => TickEnd c now) (fun _ => TickEnd c now) (c.ticking now recoveryAt) :=
    wp_mono (tickLink_along (h.ticking now recoveryAt) rfl) (fun _ _ hd => .driven due hd)
      fun _ _ hd => .driven due hd
  rw [tick, wp_bind, wp_modify, wp_bind]
  refine (collect_nil (c := { c with lastTick := some now }) h.collected).mpr ?_
  rw [wp_bind, wp_get]
  split
  · next hdeferred =>
      have hsame := @ticking_eq c now _ _ (deferred hdeferred) rfl
      have due : c.linkSuspended = true → ∃ recoveryAt, c.recoveryAt = some recoveryAt ∧ recoveryAt ≤ now :=
        fun hs => absurd ((deferred hdeferred).symm.trans hs) Bool.false_ne_true
      rw [wp_bind, wp_modify]
      show wp (recoverAll none .linkFailed now) _ _ { c with
        lastTick := some now, linkSuspended := c.linkSuspended, deferredLinkFailure := false }
      rw [hsame]
      exact wp_mono (recoverAll_along (h.ticking now c.recoveryAt).sound none .linkFailed rfl)
        (fun _ c' hc' => .driven due (.restarted .refl hc'.1 hc'.2)) fun _ c' hc' =>
          .driven due (.restarted .refl hc'.1 hc'.2)
  · next hdeferred =>
      have hdeferred : c.deferredLinkFailure = false := Bool.eq_false_of_not_eq_true hdeferred
      rw [wp_bind, wp_get]
      split
      · next hsuspended =>
          rw [wp_bind, wp_get]
          split
          · next hdue =>
              rw [wp_bind, wp_modify]
              show wp (tickLink now) _ _ { c with
                lastTick := some now, linkSuspended := false, recoveryAt := none,
                deferredLinkFailure := c.deferredLinkFailure }
              rw [hdeferred]
              refine hdriven none fun _ => ?_
              obtain ⟨recoveryAt, hsome, hle⟩ := (Option.any_eq_true _ _).mp hdue
              exact ⟨recoveryAt, hsome, of_decide_eq_true hle⟩
          · next hearly =>
              refine .waiting hsuspended (fun recoveryAt hrecovery => ?_) rfl
              rw [hrecovery] at hearly
              simpa using hearly
      · next hsuspended =>
          have hsame := @ticking_eq c now _ _
            (Bool.eq_false_of_not_eq_true hsuspended) hdeferred
          show wp (tickLink now) _ _ { c with
            lastTick := some now, linkSuspended := c.linkSuspended,
            deferredLinkFailure := c.deferredLinkFailure }
          rw [hsame]
          exact hdriven c.recoveryAt fun hs => absurd hs hsuspended

end Tick

end LibDvb.CiController
