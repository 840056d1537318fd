import LibDvb.Ca.Controller.Tick

namespace LibDvb

open Relation

theorem pending_grows_idle {A V : UInt8 → Prop} {count : Nat} {trace trace' : List Obs}
    (hA : ∀ slotId, ¬ A slotId) (h : Grows (Obs.Own A V) trace trace') (hlawful : Lawful count trace')
    (hidle : ∀ slotId : UInt8, slotId.toNat < count →
      (slotHistory (UInt8.ofNat count) slotId trace).Idle)
    (hp : pending trace = false) : pending trace' = false := by
  induction h with
  | refl => exact hp
  | @tail before _ hgrows hstep ih =>
      obtain ⟨obs, hown, rfl⟩ := hstep
      obtain ⟨hinit, hallowed⟩ := hlawful.of_snoc
      have hbefore := ih hinit
      rw [pending_snoc, hbefore]
      cases obs with
      | wrote slotId frame result callback =>
          obtain ⟨slot, hslot, _, hqueue⟩ := hallowed
          have hlt : slotId.toNat < count := by
            have := (List.getElem?_eq_some_iff.mp hslot).1
            rwa [length_replay] at this
          have hidle' := onSlot_idle_history hlt (hA slotId) hgrows hinit (hidle slotId hlt)
          rw [getElem?_replay hlt, Option.some.injEq] at hslot
          rw [← hslot, hidle'.2] at hqueue
          cases hqueue
      | reset result => rfl
      | _ => rfl

namespace CiController

open Act Outcome

variable {V : UInt8 → Prop} {c c' c'' : CiController} {slotId other : UInt8} {slot : ControllerSlot}

section Unticked

theorem Sound.idle_history (h : c.Sound) (ha : c.AllAbsent) (hp : pending c.session.transport.trace = false)
    (slotId : UInt8) (hlt : slotId.toNat < c.session.transport.slots.length) :
    (slotHistory (UInt8.ofNat c.session.transport.slots.length) slotId
      c.session.transport.trace).Idle := by
  obtain ⟨slot, known⟩ := h.known hlt
  have hstatus := ha slotId slot known
  refine h.idle slotId slot known (by rw [hstatus]; decide) (by rw [hstatus]; decide) hp _ ?_
  rw [h.session.faithful.slots, getElem?_replay]
  · rw [← h.session.faithful.slots]
  · exact hlt

theorem whole_move (h : c.Sound) (ha : c.AllAbsent) (hp : pending c.session.transport.trace = false)
    (hm : Move V c c') : pending c'.session.transport.trace = false := by
  have hno {slotId : UInt8} {slot : ControllerSlot} {status : CaSlotStatus} {P : Prop}
      (known : c.slots[slotId.toNat]? = some slot) (hstatus : slot.status = status)
      (hne : status ≠ .absent) : P :=
    absurd (hstatus.symm.trans (ha slotId slot known)) hne
  cases hm with
  | @session s move =>
      have hs := h.session.move move
      have hlawful := hs.faithful.lawful
      rw [move.slots_length] at hlawful
      exact pending_grows_idle ha.not_live move.grows hlawful (h.idle_history ha hp) hp
  | created known status notice path whole => exact hno known status (by decide)
  | createFailed known status path broken => exact hno known status (by decide)
  | activated queued known status notice => exact hno known status (by decide)
  | @programmed now change s due programmed =>
      have hs := h.session.programmed programmed
      obtain ⟨t, hpath, hslots, _⟩ := programmed.path
      have hlawful := hs.faithful.lawful
      rw [hslots, CiTransport.path_length hpath] at hlawful
      exact pending_grows_idle (V := V) ha.not_live (programmed.grows h.session h.within) hlawful
        (h.idle_history ha hp) hp
  | probed slotId =>
      show pending (c.session.transport.trace ++ [.slotInfo slotId]) = false
      rw [pending_snoc, hp]
      rfl
  | _ => exact hp

theorem Calm.whole_path (h : c.Calm) (ha : c.AllAbsent) (hpath : ReflTransGen (Move V) c c') :
    pending c'.session.transport.trace = false := by
  refine (LibDvb.Path.invariant (I := fun c => (c.Sound ∧ c.AllAbsent ∧ ∀ slotId, c.PresentAt slotId) ∧
    pending c.session.transport.trace = false) hpath ⟨⟨h.sound, ha, h.present⟩, h.whole⟩
      fun a b hi hm => ?_).2
  obtain ⟨⟨hs, ha, hp⟩, hwhole⟩ := hi
  exact ⟨⟨hs.move hm, ha.move hp hm, fun slotId => (hp slotId).move hm⟩, whole_move hs ha hwhole hm⟩

end Unticked

section Sized

structure Sized (c : CiController) : Prop where
  session : c.session.Fits
  queue : ∀ change ∈ c.pacer.queue, change.Fits

theorem poll_queue {pacer : CaPmtPacer} {now : Instant} {change : CaPmtChange}
    (due : (pacer.poll now).1 = some change) :
    pacer.queue = change :: (pacer.poll now).2.queue := by
  unfold CaPmtPacer.poll at due ⊢
  split at due
  · cases due
  · split at due <;> cases due
  · next stamp hgate =>
      split at due
      · cases due
      · next hgated =>
          rw [if_neg hgated]
          exact (List.cons_head?_tail due).symm

theorem poll_idle {pacer : CaPmtPacer} {now : Instant} (idle : (pacer.poll now).1 = none) :
    (pacer.poll now).2.queue = pacer.queue := by
  unfold CaPmtPacer.poll at idle ⊢
  split
  · rfl
  · split <;> rfl
  · next stamp hgate =>
      rw [hgate] at idle
      dsimp only at idle
      split
      · rfl
      · next hgated =>
          rw [if_neg hgated] at idle
          have hempty : pacer.queue = [] := List.head?_eq_none_iff.mp idle
          rw [hempty]
          rfl

theorem Sized.move (h : c.Sized) (hm : Move V c c') : c'.Sized := by
  cases hm with
  | session move => exact ⟨h.session.move move, h.queue⟩
  | @polled now idle =>
      refine ⟨h.session, fun change hchange => h.queue change ?_⟩
      have hqueue : (c.pacer.poll now).2.queue = c.pacer.queue := poll_idle idle
      rwa [← hqueue]
  | @programmed now change s due programmed =>
      have hqueue := poll_queue due
      refine ⟨h.session.programmed (h.queue change ?_) programmed, fun other hother =>
        h.queue other ?_⟩
      · rw [hqueue]
        exact List.mem_cons_self
      · rw [hqueue]
        exact List.mem_cons_of_mem _ hother
  | _ => exact ⟨h.session, h.queue⟩

theorem Sized.path (h : c.Sized) (hpath : ReflTransGen (Move V) c c') : c'.Sized :=
  LibDvb.Path.invariant hpath h fun _ _ => Sized.move

end Sized

section Recv

def reads (c : CiController) : List ReadResult := c.session.transport.link.reads

def Watches (V : UInt8 → Prop) (c : CiController) : Prop :=
  ∀ result ∈ c.reads, ∀ slotId, result.first = some slotId → V slotId

theorem recvController_along (h : c.Calm) (hV : c.Watches V) :
    Along (Move V) recvController
      (fun recv c' => pending c'.session.transport.trace = false ∧
        (recv = none → c'.session.events = []) ∧ ∀ slotId, recv = some slotId →
          slotId.toNat < c.slots.length ∧ V slotId ∧ c'.reads.length < c.reads.length)
      (fun _ c' => (c.session.Fits → pending c'.session.transport.trace = true ∨ c.session.Unreadable) ∧
        (c'.session.events = [] ∨ pending c'.session.transport.trace = true ∨
          ∃ slotId, c.Live slotId)) c := by
  let accept (slotId : UInt8) : Bool :=
    (c.slots.map fun slot => decide (slot.status = .active))[slotId.toNat]?.getD false
  have haccept (slotId : UInt8) (hslot : accept slotId = true) : c.Live slotId := by
    rw [Live, isActive, ← hslot]
    dsimp only [accept]
    rw [List.getElem?_map]
    cases c.slots[slotId.toNat]? <;> rfl
  have hrecv := @CiSession.recvFiltered_along c.Live V c.session accept h.sound.session h.whole
    (fun slotId hslot _ => haccept slotId hslot)
    fun result hhead => hV result (List.mem_of_head? hhead)
  refine along_get_bind (session_along (along_mono hrecv (fun recv s hs => ?_) fun e s hs => ?_))
  · obtain ⟨hp, hnone, hsome⟩ := hs
    refine ⟨hp, fun hrecv => (hnone hrecv).trans h.collected, fun slotId hslot => ?_⟩
    obtain ⟨hlt, hnotice, hreads⟩ := hsome slotId hslot
    exact ⟨h.sound.count ▸ hlt, hnotice, hreads⟩
  · obtain ⟨_, hfits, hevents⟩ := hs
    refine ⟨hfits, ?_⟩
    rcases hevents with hsame | hbroken | ⟨slotId, hslot⟩
    · exact .inl (hsame.trans h.collected)
    · exact .inr (.inl hbroken)
    · exact .inr (.inr ⟨slotId, haccept slotId hslot⟩)

structure PollBroken (V : UInt8 → Prop) (c c' : CiController) : Prop where
  ticked : c.lastTick ≠ none
  broken : ∃ c₁, ReflTransGen (Move V) c c₁ ∧ pending c₁.session.transport.trace = true ∧
    ReflTransGen Step c₁ c' ∧ Restarted c₁ c'

theorem PollBroken.after (hpath : ReflTransGen (Move V) c c') (hb : PollBroken V c' c'') :
    PollBroken V c c'' := by
  obtain ⟨c₁, hpath₁, hrest⟩ := hb.broken
  exact ⟨(Keeps.path hpath).lastTick ▸ hb.ticked, c₁, hpath.trans hpath₁, hrest⟩

theorem takeDataPending_along (h : c.Sound) (hlt : slotId.toNat < c.slots.length) (hV : V slotId) :
    Along (Move V) (zoom transportLens (CiTransport.takeDataPending slotId))
      (fun _ c' => c'.slots = c.slots ∧
        pending c'.session.transport.trace = pending c.session.transport.trace)
      (fun _ _ => False) c := by
  refine transport_along h (wp_mono (CiTransport.takeDataPending_spec (h.count ▸ hlt))
    (fun pend t ht => ⟨.single ⟨.taken slotId, hV, ht.1⟩, rfl, ?_⟩) fun _ _ hf => hf.elim)
  show pending t.trace = _
  rw [ht.1.trace, pending_snoc]
  simp [Obs.settles, Obs.fatal]

theorem afterCollect_along (h : c.Calm) (hlt : slotId.toNat < c.slots.length) :
    wp (do
      match (← get).lastTick with
      | some now => do
          match ← attempt (flushReceivePending slotId now) with
          | .ok () => markOutstanding slotId now
          | .error e => do
              recoverAtEventTime (some slotId)
              fail e
      | none => pure ()) (fun _ c' => ReflTransGen (Move V) c c' ∧ c'.Still)
      (fun _ c' => PollBroken V c c') c := by
  rw [wp_bind, wp_get]
  split
  · next now hnow =>
      rw [wp_bind, wp_attempt]
      refine wp_mono (flushReceivePending_along (V := V) h hlt now) (fun _ c₁ hc₁ => ?_) (fun e c₁ hc₁ => ?_)
      · obtain ⟨hpath₁, hs₁⟩ := hc₁
        have hlt₁ : slotId.toNat < c₁.slots.length := (Keeps.path hpath₁).count.symm ▸ hlt
        refine wp_mono (markOutstanding_along (V := V) (List.getElem?_eq_getElem hlt₁) now)
          (fun _ c₂ hc₂ => ⟨hpath₁.trans hc₂.1, ?_⟩) fun _ _ hf => hf.2.elim
        rw [Still, hc₂.2]
        exact hs₁
      · obtain ⟨hpath₁, _, hbroken⟩ := hc₁
        have hticked : c₁.lastTick = some now := (Keeps.path hpath₁).lastTick.trans hnow
        rw [wp_bind]
        refine wp_mono (recoverAtEventTime_along (h.sound.path hpath₁) hticked (some slotId))
          (fun _ c₂ hc₂ => ?_) fun _ _ hf => hf.elim
        exact ⟨hnow ▸ Option.some_ne_none now, c₁, hpath₁, hbroken, hc₂⟩
  · exact ⟨.refl, h.still⟩

theorem status_known (known : c.slots[slotId.toNat]? = some slot) {Q : CaSlotStatus → CiController → Prop}
    {E : Error → CiController → Prop} : wp (status slotId) Q E c ↔ Q slot.status c := by
  rw [status, wp_bind, wp_get, known]
  rfl

theorem afterRecv_along (h : c.Sound) (present : ∀ slotId, c.PresentAt slotId)
    (hp : pending c.session.transport.trace = false) (hnoticed : c.Noticed V)
    (hlt : slotId.toNat < c.slots.length) (hV : V slotId) :
    wp (afterRecv slotId) (fun _ c' => ReflTransGen (Move V) c c' ∧ c'.Still)
      (fun _ c' => PollBroken V c c') c := by
  have hfinish {c₁ : CiController} (hpath : ReflTransGen (Move V) c c₁) (hs : c₁.Still) :
      wp (do
        match (← get).lastTick with
        | some now => do
            match ← attempt (flushReceivePending slotId now) with
            | .ok () => markOutstanding slotId now
            | .error e => do
                recoverAtEventTime (some slotId)
                fail e
        | none => pure ()) (fun _ c' => ReflTransGen (Move V) c c' ∧ c'.Still)
        (fun _ c' => PollBroken V c c') c₁ := by
    have h₁ : c₁.Calm := ⟨h.path hpath, hs.1, hs.2, fun other => (present other).path hpath⟩
    exact wp_mono (afterCollect_along (V := V) h₁ ((Keeps.path hpath).count.symm ▸ hlt))
      (fun _ _ hc => ⟨hpath.trans hc.1, hc.2⟩) fun _ _ hb => hb.after hpath
  have htake {c₁ : CiController} (hpath : ReflTransGen (Move V) c c₁)
      (hp₁ : pending c₁.session.transport.trace = false) :
      wp (do
        let dataPending ← zoom transportLens (CiTransport.takeDataPending slotId)
        collectSessionEvents
        if dataPending then
          if (← status slotId) = .active then
            modifySlot slotId ({ · with receivePending := true })
        match (← get).lastTick with
        | some now => do
            match ← attempt (flushReceivePending slotId now) with
            | .ok () => markOutstanding slotId now
            | .error e => do
                recoverAtEventTime (some slotId)
                fail e
        | none => pure ()) (fun _ c' => ReflTransGen (Move V) c c' ∧ c'.Still)
        (fun _ c' => PollBroken V c c') c₁ := by
    have hlt₁ : slotId.toNat < c₁.slots.length := (Keeps.path hpath).count.symm ▸ hlt
    rw [wp_bind]
    refine wp_mono (takeDataPending_along (V := V) (h.path hpath) hlt₁ hV) (fun pend c₂ hc₂ => ?_)
      fun _ _ hf => hf.2.elim
    obtain ⟨hpath₂, _, hp₂⟩ := hc₂
    have hpath₂ := hpath.trans hpath₂
    rw [wp_bind]
    refine wp_mono (collect_along (h.path hpath₂) (hnoticed.path hpath₂)) (fun _ c₃ hc₃ => ?_)
      fun _ _ hf => hf.2.elim
    obtain ⟨hpath₃, hsteady₃, hevents₃⟩ := hc₃
    have hpath₃ := hpath₂.trans hpath₃
    have hs₃ : c₃.Still := ⟨by rw [hsteady₃.whole, hp₂, hp₁], hevents₃⟩
    dsimp only
    split
    · obtain ⟨slot, known⟩ : ∃ slot, c₃.slots[slotId.toNat]? = some slot :=
        known_of_lt ((Keeps.path hpath₃).count.symm ▸ hlt)
      rw [wp_bind, status_known known]
      split
      · next hactive =>
          let f : ControllerSlot → ControllerSlot := ({ · with receivePending := true })
          have hkept : Move V c₃ (c₃.edit slotId f) := by
            refine .kept f (fun _ => rfl) (fun _ => rfl) (fun _ => rfl) fun slot' known' _ => ?_
            rw [known, Option.some.injEq] at known'
            exact .inr (known' ▸ hactive)
          rw [wp_bind, wp_modifySlot known]
          exact hfinish (hpath₃.tail hkept) hs₃
      · exact hfinish hpath₃ hs₃
    · exact hfinish hpath₃ hs₃
  obtain ⟨slot, known⟩ := known_of_lt hlt
  rw [afterRecv, wp_bind, wp_slotAt_known known]
  dsimp only
  split
  · have hkept : Move V c (c.edit slotId ({ · with commandSince := none })) :=
      .kept _ (fun _ => rfl) (fun _ => rfl) (fun _ => rfl) fun _ _ => .inl
    rw [wp_bind, wp_modifySlot known]
    exact htake (.single hkept) hp
  · exact htake .refl hp

theorem reads_move (hm : Move V c c') : c'.reads <:+ c.reads := by
  cases hm with
  | session move => exact CiSession.reads_move move
  | created known status notice path whole =>
      have hreads := CiTransport.path_reads path
      exact hreads
  | createFailed known status path broken =>
      have hreads := CiTransport.path_reads path
      exact hreads
  | @programmed now change s due programmed =>
      obtain ⟨t, hpath, _, _, _, _, hlink⟩ := programmed.path
      show s.transport.link.reads <:+ _
      rw [hlink]
      exact CiTransport.path_reads hpath
  | _ => exact List.suffix_rfl

theorem reads_path (hpath : ReflTransGen (Move V) c c') : c'.reads <:+ c.reads :=
  LibDvb.Path.order (r := fun a b : CiController => b.reads <:+ a.reads) hpath
    (fun _ => List.suffix_rfl) (fun hab hbc => hbc.trans hab) fun _ _ => reads_move

def Cause (c c₁ : CiController) : Prop :=
  c.Sized → pending c₁.session.transport.trace = true ∨
    ∃ result ∈ c.reads, ∀ slotId, result.first = some slotId → c.slots.length ≤ slotId.toNat

inductive PollFailed (V : UInt8 → Prop) (c c' : CiController) : Prop
  | restarted {c₁} (path : ReflTransGen (Move V) c c₁) (cause : Cause c c₁)
      (ticked : c.lastTick ≠ none) (steps : ReflTransGen Step c₁ c') (restarted : Restarted c₁ c')
  | deferred {c₁} (path : ReflTransGen (Move V) c c₁) (cause : Cause c c₁) (calm : c₁.Calm)
      (unticked : c.lastTick = none) (same : c' = { c₁ with deferredLinkFailure := true })

structure Delivered (V : UInt8 → Prop) (c : CiController) (event : Option CaEvent)
    (c' : CiController) : Prop where
  worked : ∃ c₁, ReflTransGen (Move V) c c₁ ∧ c₁.Calm ∧ c₁.events = event.toList ++ c'.events ∧
    c' = { c₁ with events := c'.events }

theorem Cause.after {c₁ : CiController} (hpath : ReflTransGen (Move V) c c')
    (hc : Cause c' c₁) : Cause c c₁ := by
  intro hsized
  rcases hc (hsized.path hpath) with hbroken | ⟨result, hmem, hlarge⟩
  · exact .inl hbroken
  · refine .inr ⟨result, (reads_path hpath).subset hmem, fun slotId hslot => ?_⟩
    rw [← (Keeps.path hpath).count]
    exact hlarge slotId hslot

theorem PollFailed.after (hpath : ReflTransGen (Move V) c c')
    (hf : PollFailed V c' c'') : PollFailed V c c'' := by
  cases hf with
  | restarted path cause ticked steps restarted =>
      exact .restarted (hpath.trans path) (cause.after hpath)
        ((Keeps.path hpath).lastTick ▸ ticked) steps restarted
  | deferred path cause calm unticked same =>
      exact .deferred (hpath.trans path) (cause.after hpath) calm
        ((Keeps.path hpath).lastTick.symm.trans unticked) same

theorem wp_popEvent {Q : Option CaEvent → CiController → Prop} {E : Error → CiController → Prop} :
    wp popEvent Q E c ↔ (c.events = [] → Q none c) ∧
      ∀ event rest, c.events = event :: rest → Q (some event) { c with events := rest } := by
  rw [popEvent, wp_bind, wp_get]
  split
  · next hnil => simp [hnil]
  · next event rest hcons => simp [hcons]

theorem pollFailed_along (h : c.Calm) {c₁ : CiController} (hpath : ReflTransGen (Move V) c c₁)
    (hunticked : c.lastTick = none → c.AllAbsent) (cause : Cause c c₁)
    (hevents : c₁.session.events = [] ∨ pending c₁.session.transport.trace = true ∨
      ∃ slotId, c.Live slotId) (e : Error) {Q : Option CaEvent → CiController → Prop} :
    wp (pollFailed e) Q (fun _ c' => PollFailed V c c') c₁ := by
  rw [pollFailed, wp_bind, wp_get]
  split
  · next now hnow =>
      have hticked : c.lastTick ≠ none := by
        rw [← (Keeps.path hpath).lastTick, hnow]
        exact Option.some_ne_none now
      exact wp_recover (h.sound.path hpath) hnow fun _ c' hsteps hr =>
        .restarted hpath cause hticked hsteps hr
  · next hnow =>
      have hnone : c.lastTick = none := (Keeps.path hpath).lastTick.symm.trans hnow
      have habsent := hunticked hnone
      have hwhole := h.whole_path habsent hpath
      refine .deferred hpath cause (h.path hpath hwhole ?_) hnone rfl
      rcases hevents with hnil | hbroken | ⟨slotId, hlive⟩
      · exact hnil
      · rw [hwhole] at hbroken
        cases hbroken
      · exact absurd hlive (habsent.not_live slotId)

theorem pollLoop_along : ∀ (fuel : Nat) (c : CiController), c.Calm → c.Watches V →
    (c.lastTick = none → c.AllAbsent) → c.reads.length < fuel →
    wp (pollLoop fuel) (Delivered V c) (fun _ c' => PollFailed V c c') c := by
  intro fuel
  induction fuel with
  | zero => exact fun c _ _ _ hlen => absurd hlen (Nat.not_lt_zero _)
  | succ fuel ih =>
      intro c h hV hunticked hlen
      rw [pollLoop, wp_bind, wp_attempt]
      refine wp_mono (recvController_along h hV) (fun recv c₁ hc₁ => ?_) (fun e c₁ hc₁ => ?_)
      · obtain ⟨hpath₁, hp₁, hnone, hsome⟩ := hc₁
        cases recv with
        | none =>
            refine wp_popEvent.mpr ⟨fun hnil => ?_, fun event rest hcons => ?_⟩
            · exact ⟨c₁, hpath₁, h.path hpath₁ hp₁ (hnone rfl), by simp [hnil], rfl⟩
            · exact ⟨c₁, hpath₁, h.path hpath₁ hp₁ (hnone rfl), hcons, rfl⟩
        | some slotId =>
            obtain ⟨hlt, hnotice, hreads⟩ := hsome slotId rfl
            dsimp only
            rw [wp_bind]
            refine wp_mono (afterRecv_along (h.sound.path hpath₁)
              (fun other => (h.present other).path hpath₁) hp₁ ((noticed_nil h.collected).path hpath₁)
              ((Keeps.path hpath₁).count.symm ▸ hlt) hnotice) (fun _ c₂ hc₂ => ?_) (fun e c' hb => ?_)
            · have hpath₂ := hpath₁.trans hc₂.1
              have h₂ := h.along hpath₂ hc₂.2
              rw [wp_bind]
              refine wp_popEvent.mpr ⟨fun hnil => ?_, fun event rest hcons => ?_⟩
              · have hsuffix := reads_path hc₂.1
                refine wp_mono (ih c₂ h₂ ?_ (fun hlast => ?_) ?_) (fun event c' hd => ?_)
                  fun _ _ hf => hf.after hpath₂
                · exact fun result hmem => hV result ((reads_path hpath₂).subset hmem)
                · exact (hunticked ((Keeps.path hpath₂).lastTick.symm.trans hlast)).path h.present hpath₂
                · have := hsuffix.length_le
                  omega
                · obtain ⟨c₃, hpath₃, hrest⟩ := hd.worked
                  exact ⟨c₃, hpath₂.trans hpath₃, hrest⟩
              · exact ⟨c₂, hpath₂, h₂, hcons, rfl⟩
            · have hb := hb.after hpath₁
              obtain ⟨c₂, hpath₂, hbroken, hsteps, hr⟩ := hb.broken
              exact .restarted hpath₂ (fun _ => .inl hbroken) hb.ticked hsteps hr
      · obtain ⟨hpath₁, hfits, hevents⟩ := hc₁
        refine pollFailed_along h hpath₁ hunticked (fun hsized => ?_) hevents e
        rcases hfits hsized.session with hbroken | ⟨result, hmem, hlarge⟩
        · exact .inl hbroken
        · refine .inr ⟨result, hmem, fun slotId hslot => ?_⟩
          rw [h.sound.count]
          exact hlarge slotId hslot

theorem pollEvent_along (h : c.Calm) (hV : c.Watches V) (hunticked : c.lastTick = none → c.AllAbsent) :
    wp pollEvent (Delivered V c) (fun _ c' => PollFailed V c c') c := by
  rw [pollEvent, wp_bind]
  refine (collect_nil h.collected).mpr ?_
  rw [wp_bind]
  refine wp_popEvent.mpr ⟨fun hnil => ?_, fun event rest hcons => ?_⟩
  · dsimp only
    rw [wp_bind, wp_get]
    split
    · exact ⟨c, .refl, h, (List.nil_append c.events).symm, rfl⟩
    · exact pollLoop_along _ c h hV hunticked (Nat.lt_succ_self _)
  · exact ⟨c, .refl, h, hcons, rfl⟩

end Recv

end CiController

end LibDvb
