import LibDvb.Ca.Controller.Poll
import LibDvb.Ca.Session.Bland

namespace LibDvb

open Relation

inductive ControllerOp where
  | pollEvent
  | tick (now : Instant)
  | setProgram (lib : Mpegts) (pmtSection : Bytes)
  | queueProgram (program : Program)
  | removeProgram (programNumber : UInt16)
  | setCaPmtInterval (interval : Duration)
  | enterMenu (slotId : UInt8)
  | mmiMenuAnswer (slotId : UInt8) (sessionId : UInt16) (choice : UInt8)
  | mmiListClose (slotId : UInt8) (sessionId : UInt16)
  | mmiAnswer (slotId : UInt8) (sessionId : UInt16) (answer : Option Bytes)
  | mmiClose (slotId : UInt8) (sessionId : UInt16)
  | askRelease (slotId : UInt8)
  | reset

def ControllerOp.run : ControllerOp → Act Error CiController (Option CaEvent)
  | pollEvent => CiController.pollEvent
  | tick now => (fun _ => none) <$> CiController.tick now
  | setProgram lib pmtSection => (fun _ => none) <$> CiController.setProgram lib pmtSection
  | queueProgram program => (fun _ => none) <$> CiController.queueProgram program
  | removeProgram programNumber => (fun _ => none) <$> CiController.removeProgram programNumber
  | setCaPmtInterval interval => (fun _ => none) <$> CiController.setCaPmtInterval interval
  | enterMenu slotId => (fun _ => none) <$> CiController.enterMenu slotId
  | mmiMenuAnswer slotId sessionId choice =>
      (fun _ => none) <$> CiController.mmiMenuAnswer slotId sessionId choice
  | mmiListClose slotId sessionId => (fun _ => none) <$> CiController.mmiListClose slotId sessionId
  | mmiAnswer slotId sessionId answer =>
      (fun _ => none) <$> CiController.mmiAnswer slotId sessionId answer
  | mmiClose slotId sessionId => (fun _ => none) <$> CiController.mmiClose slotId sessionId
  | askRelease slotId => (fun _ => none) <$> CiController.askRelease slotId
  | reset => (fun _ => none) <$> CiController.reset

structure ControllerLabel where
  link : CaDevice
  op : ControllerOp
  reply : Except Error (Option CaEvent)

def ControllerStep (c : CiController) (label : ControllerLabel) (c' : CiController) : Prop :=
  label.op.run (CiController.linkLens.set label.link c) = (Outcome.ofExcept label.reply, c')

def ControllerOp.next (c : CiController) (call : CaDevice × ControllerOp) :
    Option (ControllerLabel × CiController) :=
  match call.2.run (CiController.linkLens.set call.1 c) with
  | (.ok reply, c') => some (⟨call.1, call.2, .ok reply⟩, c')
  | (.err e, c') => some (⟨call.1, call.2, .error e⟩, c')
  | (.panic, _) => none

theorem ControllerOp.next_step {c c' : CiController} {call : CaDevice × ControllerOp}
    {label : ControllerLabel} (h : next c call = some (label, c')) : ControllerStep c label c' := by
  unfold next at h
  split at h
  · next hrun =>
      cases h
      exact hrun
  · next hrun =>
      cases h
      exact hrun
  · cases h

-- A run made by `calls` on the controller that `with_config` makes.
def ControllerOp.trail (config : CiControllerConfig) (link : CaDevice)
    (calls : List (CaDevice × ControllerOp)) : Option (List ControllerLabel × CiController) :=
  match CiController.withConfig config link with
  | (.ok c, _) => LibDvb.trail next c calls
  | _ => none

def ControllerOp.changes : ControllerOp → List CaPmtChange
  | setProgram lib pmtSection =>
      match Program.parse lib pmtSection with
      | .ok program => [.set program]
      | .error _ => []
  | queueProgram program => [.set program]
  | removeProgram programNumber => if programNumber = 0 then [] else [.remove programNumber]
  | _ => []

def CaPmtPacer.push (pacer : CaPmtPacer) : CaPmtChange → CaPmtPacer
  | .set program => pacer.pushSet program
  | .remove programNumber => pacer.pushRemove programNumber

def ControllerOp.push (op : ControllerOp) (pacer : CaPmtPacer) : CaPmtPacer :=
  match op with
  | setCaPmtInterval interval => pacer.setInterval interval
  | op => op.changes.foldl CaPmtPacer.push pacer

def ControllerOp.Queues : ControllerOp → Prop
  | setProgram _ _ => True
  | queueProgram _ => True
  | removeProgram _ => True
  | setCaPmtInterval _ => True
  | _ => False

def ControllerOp.command : ControllerOp → Option (UInt8 × Act Error CiSession Unit)
  | enterMenu slotId => some (slotId, CiSession.enterMenu slotId)
  | mmiMenuAnswer slotId sessionId choice =>
      some (slotId, CiSession.mmiMenuAnswer slotId sessionId choice)
  | mmiListClose slotId sessionId => some (slotId, CiSession.mmiListClose slotId sessionId)
  | mmiAnswer slotId sessionId answer => some (slotId, CiSession.mmiAnswer slotId sessionId answer)
  | mmiClose slotId sessionId => some (slotId, CiSession.mmiClose slotId sessionId)
  | askRelease slotId => some (slotId, CiSession.askRelease slotId)
  | _ => none

def deliveredBy (reply : Except Error (Option CaEvent)) : List CaEvent := reply.toOption.join.toList

-- `with_config` made the controller.
def Starts (c : CiController) : Prop :=
  ∃ config link link', CiController.withConfig config link = (.ok c, link')

def ControllerRun (start : CiController) (labels : List ControllerLabel) (c : CiController) : Prop :=
  Starts start ∧ Run ControllerStep start labels c

namespace CiController

open Act Outcome

variable {V : UInt8 → Prop} {c c' c'' : CiController} {slotId other : UInt8} {slot : ControllerSlot}

structure Settled (c : CiController) : Prop where
  calm : c.Calm
  halted : c.linkSuspended = true → c.Halted
  deferred : c.deferredLinkFailure = true → c.lastTick = none ∧ c.linkSuspended = false
  unticked : c.lastTick = none → c.AllAbsent

-- The state `from_parts` makes.
structure Blank (c : CiController) : Prop where
  session : ∃ link slotsNum, c.session = CiSession.new (CiTransport.new link slotsNum)
  slots : ∀ slot ∈ c.slots, slot = {}
  count : c.slots.length = c.session.transport.slots.length
  events : c.events = []
  gate : c.pacer.gate = .notReady
  queue : c.pacer.queue = []
  suspended : c.linkSuspended = false
  deferred : c.deferredLinkFailure = false
  lastTick : c.lastTick = none

theorem blank_fromParts (link : CaDevice) (slotsNum : UInt8) (config : CiControllerConfig) :
    Blank (fromParts (CiSession.new (CiTransport.new link slotsNum)) config) where
  session := ⟨link, slotsNum, rfl⟩
  slots slot hslot := List.eq_of_mem_replicate hslot
  count := by
    simp [fromParts, CiSession.new, CiTransport.new, CiTransport.slotsNum]
  events := rfl
  gate := rfl
  queue := rfl
  suspended := rfl
  deferred := rfl
  lastTick := rfl

theorem start_fromParts (hc : Starts c) : ∃ link slotsNum config,
    c = fromParts (CiSession.new (CiTransport.new link slotsNum)) config := by
  obtain ⟨config, link, link', hrun⟩ := hc
  refine wp_ok (Q := fun c _ => ∃ link slotsNum config, c = fromParts (CiSession.new (CiTransport.new link slotsNum)) config)
    (E := fun _ _ => True) (m := withConfig config) (s := link) ?_ hrun
  rw [withConfig, wp_bind, CaDevice.readCaps, wp_bind, wp_get]
  split
  · next caps hcaps =>
      rw [wp_pure]
      split
      · trivial
      split
      · trivial
      split
      · trivial
      · rw [wp_bind]
        refine wp_mono (deviceReset_spec link) (fun _ link₁ _ => ?_) fun _ _ _ => trivial
        exact ⟨link₁, _, config, rfl⟩
  · trivial

theorem blank_start (hc : Starts c) : c.Blank := by
  obtain ⟨link, slotsNum, config, rfl⟩ := start_fromParts hc
  exact blank_fromParts link slotsNum config

theorem Blank.view (hb : c.Blank) (known : c.slots[slotId.toNat]? = some slot) : slot = {} :=
  hb.slots slot (List.mem_of_getElem? known)

theorem Blank.sound (hb : c.Blank) : c.Sound := by
  obtain ⟨link, slotsNum, hsession⟩ := hb.session
  have hconsistent : c.session.Consistent := hsession ▸ CiSession.consistent_new link slotsNum
  have hentry (index : Nat) : c.session.entry index = none := by
    rw [hsession]
    rfl
  refine ⟨hconsistent, fun index session hlive => ?_, hb.count, fun slotId slot known _ _ _ view hview => ?_,
    fun slotId slot known hp => ?_, fun e he => ?_⟩
  · rw [hentry] at hlive
    cases hlive
  · rw [hsession] at hview
    have := List.eq_of_mem_replicate (List.mem_of_getElem? hview)
    subst this
    exact ⟨rfl, rfl⟩
  · rw [hb.view known] at hp
    cases hp
  · rw [hsession] at he
    cases he

theorem settled_start (hc : Starts c) : c.Settled := by
  have hb := blank_start hc
  obtain ⟨link, slotsNum, hsession⟩ := hb.session
  refine ⟨⟨hb.sound, ?_, ?_, fun slotId slot known => ?_⟩, fun hs => ?_, fun hd => ?_,
    fun _ slotId slot known => ?_⟩
  · rw [hsession]
    rfl
  · rw [hsession]
    rfl
  · rw [hb.view known]
    exact iff_of_true rfl rfl
  · rw [hb.suspended] at hs
    cases hs
  · rw [hb.deferred] at hd
    cases hd
  · rw [hb.view known]

section Turn

inductive Turn (c : CiController) : ControllerOp → Except Error (Option CaEvent) → CiController → Prop
  | popped {event : Option CaEvent} {rest : List CaEvent} (events : c.events = event.toList ++ rest) :
      Turn c .pollEvent (.ok event) { c with events := rest }
  | delivered {event : Option CaEvent} {c' : CiController} (resumed : c.linkSuspended = false)
      (delivered : Delivered (fun _ => True) c event c') : Turn c .pollEvent (.ok event) c'
  | pollFailed {e : Error} {c' : CiController} (resumed : c.linkSuspended = false)
      (failed : PollFailed (fun _ => True) c c') : Turn c .pollEvent (.error e) c'
  | ticked {now : Instant} {reply : Except Error (Option CaEvent)} {c' : CiController}
      (ends : TickEnd c now c') (silent : deliveredBy reply = []) :
      Turn c (.tick now) reply c'
  | pushed {op : ControllerOp} {reply : Except Error (Option CaEvent)} (queues : op.Queues)
      (refused : ∀ e, reply = .error e → op.changes = []) (silent : deliveredBy reply = []) :
      Turn c op reply { c with pacer := op.push c.pacer }
  | commanded {op : ControllerOp} {reply : Except Error (Option CaEvent)} {slotId : UInt8}
      {command : Act Error CiSession Unit} {c' : CiController}
      (sends : op.command = some (slotId, command)) (active : c.Live slotId) (done : Done c c') (silent : deliveredBy reply = []) :
      Turn c op reply c'
  | inactive {op : ControllerOp} {e : Error} {slotId : UInt8} {command : Act Error CiSession Unit}
      (sends : op.command = some (slotId, command)) (active : ¬ c.Live slotId) : Turn c op (.error e) c
  | reset {c' : CiController} (done : ResetDone c c') (steps : ReflTransGen Step c c') : Turn c .reset (.ok none) c'
  | resetFailed {e : Error} {c' : CiController} (failed : ResetFailed c c') (steps : ReflTransGen Step c c') :
      Turn c .reset (.error e) c'

theorem slotCommand_along (h : c.Calm) (ticked : c.Live slotId → ∃ now, c.lastTick = some now)
    {command : Act Error CiSession Unit}
    (hm : c.Live slotId → Along (CiSession.Move c.Live fun _ => True) command
      (fun _ s => pending s.transport.trace = false ∧ s.events = c.session.events)
      (fun e s => (pending s.transport.trace = true → e.IsWrite) ∧ s.events = c.session.events)
      c.session) :
    wp (slotCommand slotId command) (fun _ c' => c.Live slotId ∧ Done c c')
      (fun _ c' => c.Live slotId ∧ Done c c' ∨ ¬ c.Live slotId ∧ c' = c) c := by
  rw [slotCommand, wp_bind, requireActive, wp_bind, status, wp_bind, wp_get]
  cases hview : c.slots[slotId.toNat]? with
  | none =>
      refine .inr ⟨fun hlive => ?_, rfl⟩
      obtain ⟨slot, known, _⟩ := hlive.known
      rw [hview] at known
      cases known
  | some slot =>
      rw [wp_pure]
      split
      · next hactive =>
          have hlive : c.Live slotId := (live_of_status hview).mpr hactive
          obtain ⟨now, hnow⟩ := ticked hlive
          rw [wp_pure, wp_bind, wp_attempt]
          refine wp_mono (session_along (V := fun _ => True) (c := c)
            (Q := fun _ c' => c'.Still ∧ c'.slots = c.slots)
            (E := fun e c' => (pending c'.session.transport.trace = true → e.IsWrite) ∧
              c'.session.events = []) (along_mono (hm hlive) (fun _ s hs => ?_) fun e s hs => ?_))
            (fun _ c₁ hc₁ => ?_) (fun e c₁ hc₁ => ?_)
          · exact ⟨⟨hs.1, hs.2.trans h.collected⟩, rfl⟩
          · exact ⟨hs.1, hs.2.trans h.collected⟩
          · obtain ⟨hpath₁, hs₁, hslots₁⟩ := hc₁
            have known₁ : c₁.slots[slotId.toNat]? = some slot := hslots₁ ▸ hview
            rw [finishSlotCommand, wp_bind, wp_get, (Keeps.path hpath₁).lastTick, hnow]
            refine wp_mono (markOutstanding_along (V := fun _ => True) known₁ now) (fun _ c₂ hc₂ => ?_)
              fun _ _ hf => hf.2.elim
            have hpath₂ := hpath₁.trans hc₂.1
            refine ⟨hlive, .worked (works_of_path hpath₂) (h.along hpath₂ ?_)⟩
            rw [Still, hc₂.2]
            exact hs₁
          · obtain ⟨hpath₁, hwrite, hevents₁⟩ := hc₁
            rw [finishSlotCommand]
            dsimp only
            split
            · rw [wp_bind]
              refine wp_mono (recoverAtEventTime_along (h.sound.path hpath₁)
                ((Keeps.path hpath₁).lastTick.trans hnow) (some slotId)) (fun _ c₂ hc₂ => ?_)
                  fun _ _ hf => hf.elim
              exact .inl ⟨hlive, .of_moves hpath₁ hc₂.1 hc₂.2⟩
            · next hlink =>
                refine .inl ⟨hlive, .worked (works_of_path hpath₁) (h.path hpath₁ ?_ hevents₁)⟩
                rw [← Bool.not_eq_true]
                exact fun hp => hlink (isLinkError_write (hwrite hp))
      · next hactive =>
          exact .inr ⟨fun hlive => hactive ((live_of_status hview).mp hlive), rfl⟩

theorem Calm.serves (h : c.Calm) (hlive : c.Live slotId) :
    CiSession.Serves c.Live (fun _ => True) c.session slotId := by
  obtain ⟨slot, known, _⟩ := hlive.known
  exact ⟨h.sound.session, hlive, trivial, h.sound.count ▸ slotId_lt known, h.whole⟩

theorem command_along {op : ControllerOp} {command : Act Error CiSession Unit}
    (hc : op.command = some (slotId, command)) (hs : CiSession.Serves c.Live V c.session slotId) :
    Along (CiSession.Move c.Live V) command
      (fun _ s => pending s.transport.trace = false ∧ s.events = c.session.events)
      (fun e s => (pending s.transport.trace = true → e.IsWrite) ∧ s.events = c.session.events)
      c.session := by
  cases op with
  | enterMenu slotId =>
      cases hc
      exact CiSession.enterMenu_along hs
  | mmiMenuAnswer slotId sessionId choice =>
      cases hc
      exact CiSession.mmiMenuAnswer_along hs sessionId choice
  | mmiListClose slotId sessionId =>
      cases hc
      exact CiSession.mmiMenuAnswer_along hs sessionId 0
  | mmiAnswer slotId sessionId answer =>
      cases hc
      exact CiSession.mmiAnswer_along hs sessionId answer
  | mmiClose slotId sessionId =>
      cases hc
      exact CiSession.mmiClose_along hs sessionId
  | askRelease slotId =>
      cases hc
      exact CiSession.askRelease_along hs
  | _ => cases hc

theorem command_run {op : ControllerOp} {command : Act Error CiSession Unit}
    (hc : op.command = some (slotId, command)) :
    op.run = (fun _ => none) <$> slotCommand slotId command := by
  cases op <;> cases hc <;> rfl

theorem bland_command {op : ControllerOp} {command : Act Error CiSession Unit}
    (hc : op.command = some (slotId, command)) : Act.Keeps CiSession.Bland command := by
  have hanswer (slotId : UInt8) (sessionId : UInt16) (choice : UInt8) :
      Act.Keeps CiSession.Bland (CiSession.mmiMenuAnswer slotId sessionId choice) :=
    CiSession.bland_of_chats (CiSession.chats_requireSession (CiSession.chats_sendApdu _ _))
  cases op with
  | enterMenu slotId =>
      cases hc
      exact CiSession.bland_of_chats CiSession.chats_enterMenu
  | mmiMenuAnswer slotId sessionId choice =>
      cases hc
      exact hanswer slotId sessionId choice
  | mmiListClose slotId sessionId =>
      cases hc
      exact hanswer slotId sessionId 0
  | mmiAnswer slotId sessionId answer =>
      cases hc
      exact CiSession.bland_of_chats (CiSession.chats_requireSession (CiSession.chats_sendApdu _ _))
  | mmiClose slotId sessionId =>
      cases hc
      exact CiSession.bland_of_chats (CiSession.chats_requireSession (CiSession.chats_sendApdu _ _))
  | askRelease slotId =>
      cases hc
      exact CiSession.bland_of_chats (CiSession.chats_findSession fun _ => CiSession.chats_sendApdu _ _)
  | _ => cases hc

theorem Settled.ticked (h : c.Settled) (hlive : c.Live slotId) : ∃ now, c.lastTick = some now := by
  cases hlast : c.lastTick with
  | some now => exact ⟨now, rfl⟩
  | none => exact absurd hlive ((h.unticked hlast).not_live slotId)

theorem command_turn (h : c.Settled) {op : ControllerOp} {command : Act Error CiSession Unit}
    (hc : op.command = some (slotId, command)) :
    wp op.run (fun reply c' => Turn c op (.ok reply) c') (fun e c' => Turn c op (.error e) c') c := by
  rw [command_run hc, wp_map]
  refine wp_mono (slotCommand_along h.calm h.ticked fun hlive =>
    command_along hc (h.calm.serves hlive)) (fun _ c' hc' => ?_) (fun e c' hc' => ?_)
  · exact .commanded hc hc'.1 hc'.2 rfl
  · rcases hc' with ⟨hlive, hdone⟩ | ⟨hlive, rfl⟩
    · exact .commanded hc hlive hdone rfl
    · exact .inactive hc hlive

theorem pollEvent_suspended (h : c.Calm) (hs : c.linkSuspended = true) :
    wp pollEvent (fun event c' => c.events = event.toList ++ c'.events ∧ c' = { c with events := c'.events })
      (fun _ _ => False) c := by
  rw [pollEvent, wp_bind]
  refine (collect_nil h.collected).mpr ?_
  rw [wp_bind]
  refine wp_popEvent.mpr ⟨fun hnil => ?_, fun event rest hcons => ⟨hcons, rfl⟩⟩
  dsimp only
  rw [wp_bind, wp_get, if_pos hs]
  exact ⟨rfl, rfl⟩

theorem op_turn (h : c.Settled) (op : ControllerOp) :
    wp op.run (fun reply c' => Turn c op (.ok reply) c') (fun e c' => Turn c op (.error e) c') c := by
  cases op with
  | pollEvent =>
      cases hs : c.linkSuspended with
      | true =>
          exact wp_mono (pollEvent_suspended h.calm hs) (fun event c' hc' => hc'.2 ▸ .popped hc'.1)
            fun _ _ hf => hf.elim
      | false =>
          exact wp_mono (pollEvent_along h.calm (fun _ _ _ _ => trivial) h.unticked)
            (fun _ _ hc' => .delivered hs hc') fun _ _ hc' => .pollFailed hs hc'
  | tick now =>
      rw [ControllerOp.run, wp_map]
      exact wp_mono (tick_along h.calm (fun hd => (h.deferred hd).2) now) (fun _ _ hc' => .ticked hc' rfl)
        fun _ _ hc' => .ticked hc' rfl
  | setProgram lib pmtSection =>
      have hpush : (ControllerOp.setProgram lib pmtSection).push c.pacer =
          (ControllerOp.setProgram lib pmtSection).changes.foldl CaPmtPacer.push c.pacer := rfl
      have hturn (reply : Except Error (Option CaEvent)) :=
        @Turn.pushed c (.setProgram lib pmtSection) reply trivial
      rw [hpush, ControllerOp.changes] at hturn
      rw [ControllerOp.run, wp_map, setProgram, wp_bind, wp_lift]
      cases hparse : Program.parse lib pmtSection with
      | ok program =>
          rw [hparse] at hturn
          exact hturn (.ok none) (fun _ he => nomatch he) rfl
      | error e =>
          rw [hparse] at hturn
          exact hturn (.error e) (fun _ _ => rfl) rfl
  | queueProgram program => exact .pushed trivial (fun _ he => nomatch he) rfl
  | removeProgram programNumber =>
      have hpush : (ControllerOp.removeProgram programNumber).push c.pacer =
          (ControllerOp.removeProgram programNumber).changes.foldl CaPmtPacer.push c.pacer := rfl
      have hturn (reply : Except Error (Option CaEvent)) :=
        @Turn.pushed c (.removeProgram programNumber) reply trivial
      rw [hpush, ControllerOp.changes] at hturn
      rw [ControllerOp.run, wp_map, removeProgram]
      split
      · next hzero =>
          rw [if_pos hzero] at hturn
          exact hturn (.error _) (fun _ _ => rfl) rfl
      · next hzero =>
          rw [if_neg hzero] at hturn
          exact hturn (.ok none) (fun _ he => nomatch he) rfl
  | setCaPmtInterval interval => exact .pushed trivial (fun _ _ => rfl) rfl
  | reset =>
      rw [ControllerOp.run, wp_map]
      exact wp_mono (reset_along h.calm) (fun _ _ hc' => .reset hc'.2 hc'.1) fun _ _ hc' =>
        .resetFailed hc'.2 hc'.1
  | _ => exact command_turn h rfl

theorem Settled.relinked (h : c.Settled) (link : CaDevice) : (linkLens.set link c).Settled :=
  ⟨⟨h.calm.sound.relinked link, h.calm.whole, h.calm.collected, h.calm.present⟩,
    fun hs => ⟨(h.halted hs).stopped, (h.halted hs).gate, (h.halted hs).deferred⟩, h.deferred, h.unticked⟩

theorem Halted.not_live (h : c.Halted) (slotId : UInt8) : ¬ c.Live slotId := by
  intro hlive
  obtain ⟨slot, known, hactive⟩ := hlive.known
  rcases h.stopped slotId slot known with hfailed | habsent
  · exact absurd (hfailed.symm.trans hactive) (by decide)
  · exact absurd (habsent.symm.trans hactive) (by decide)

theorem Settled.resumed (h : c.Settled) (hlive : c.Live slotId) : c.linkSuspended = false := by
  rw [← Bool.not_eq_true]
  intro hs
  exact (h.halted hs).not_live slotId hlive

theorem Recovered.settled (h : c.Recovered) (hunticked : c.lastTick = none → c.AllAbsent) : c.Settled :=
  ⟨h.calm, fun _ => h.halted, fun hd => absurd (h.halted.deferred.symm.trans hd) Bool.false_ne_true,
    hunticked⟩

theorem Calm.settled (h : c.Calm) (hs : c.linkSuspended = false) (hd : c.deferredLinkFailure = false)
    (hunticked : c.lastTick = none → c.AllAbsent) : c.Settled :=
  ⟨h, fun hs' => absurd (hs.symm.trans hs') Bool.false_ne_true,
    fun hd' => absurd (hd.symm.trans hd') Bool.false_ne_true, hunticked⟩

theorem Done.settled (hd : Done c c') (hs : c.linkSuspended = false) (hdeferred : c.deferredLinkFailure = false)
    (hlast : c.lastTick ≠ none) : c'.Settled := by
  cases hd with
  | worked path calm =>
      have hkeeps := Works.keeps path
      exact calm.settled (hkeeps.linkSuspended.trans hs) (hkeeps.deferred.trans hdeferred)
        fun hnone => absurd (hkeeps.lastTick.symm.trans hnone) hlast
  | restarted work steps restarted =>
      refine restarted.recovered.settled fun hnone => absurd ?_ hlast
      rw [← work.keeps.lastTick, ← restarted.lastTick]
      exact hnone

theorem Settled.drained (h : c.Settled) (events : List CaEvent) : Settled { c with events } :=
  ⟨⟨h.calm.sound.drained events, h.calm.whole, h.calm.collected, h.calm.present⟩,
    fun hs => ⟨(h.halted hs).stopped, (h.halted hs).gate, (h.halted hs).deferred⟩, h.deferred, h.unticked⟩

theorem Settled.pushed (h : c.Settled) {pacer : CaPmtPacer} (gate : pacer.gate = c.pacer.gate) :
    Settled { c with pacer } :=
  ⟨⟨h.calm.sound.paced pacer, h.calm.whole, h.calm.collected, h.calm.present⟩,
    fun hs => ⟨(h.halted hs).stopped, gate.trans (h.halted hs).gate, (h.halted hs).deferred⟩, h.deferred, h.unticked⟩

theorem push_gate (op : ControllerOp) (pacer : CaPmtPacer) : (op.push pacer).gate = pacer.gate := by
  have hchanges (changes : List CaPmtChange) (pacer : CaPmtPacer) :
      (changes.foldl CaPmtPacer.push pacer).gate = pacer.gate := by
    induction changes generalizing pacer with
    | nil => rfl
    | cons change rest ih =>
        rw [List.foldl_cons, ih]
        cases change <;> rfl
  cases op with
  | setCaPmtInterval interval => rfl
  | _ => exact hchanges _ pacer

theorem Turn.settled {op : ControllerOp} {reply : Except Error (Option CaEvent)} (h : c.Settled)
    (ht : Turn c op reply c') : c'.Settled := by
  have hmoved {c₁ : CiController} (hpath : ReflTransGen (Move fun _ => True) c c₁) :
      c₁.lastTick = none → c₁.AllAbsent := fun hnone =>
    (h.unticked ((Keeps.path hpath).lastTick.symm.trans hnone)).path h.calm.present hpath
  cases ht with
  | @popped event rest events => exact h.drained rest
  | delivered resumed delivered =>
      obtain ⟨c₁, hpath, hcalm, _, hsame⟩ := delivered.worked
      have hkeeps := Keeps.path hpath
      have h₁ : c₁.Settled := ⟨hcalm, fun hs => absurd (hkeeps.linkSuspended.trans resumed ▸ hs)
        Bool.false_ne_true, fun hd => ?_, hmoved hpath⟩
      · exact hsame ▸ h₁.drained c'.events
      · obtain ⟨hlast, hs⟩ := h.deferred (hkeeps.deferred ▸ hd)
        exact ⟨hkeeps.lastTick.trans hlast, hkeeps.linkSuspended.trans hs⟩
  | pollFailed resumed failed =>
      cases failed with
      | restarted path cause ticked steps restarted =>
          refine restarted.recovered.settled fun hnone => absurd ?_ ticked
          rw [← (Keeps.path path).lastTick, ← restarted.lastTick]
          exact hnone
      | @deferred c₁ path cause calm unticked same =>
          have hkeeps := Keeps.path path
          subst same
          exact ⟨calm.flags c₁.lastTick c₁.linkSuspended c₁.recoveryAt c₁.nextStatusCheck true,
            fun hs => absurd (hkeeps.linkSuspended.trans resumed ▸ hs) Bool.false_ne_true,
            fun _ => ⟨hkeeps.lastTick.trans unticked, hkeeps.linkSuspended.trans resumed⟩,
            fun hnone => (hmoved path hnone : c₁.AllAbsent)⟩
  | @ticked now reply c' ends silent =>
      cases ends with
      | waiting suspended early same =>
          subst same
          refine ⟨h.calm.flags (some now) c.linkSuspended c.recoveryAt c.nextStatusCheck
            c.deferredLinkFailure, fun hs => ?_, fun hd => ?_, nofun⟩
          · exact ⟨(h.halted hs).stopped, (h.halted hs).gate, (h.halted hs).deferred⟩
          · exact absurd ((h.deferred hd).2.symm.trans suspended) Bool.false_ne_true
      | driven due done => exact done.settled rfl rfl (Option.some_ne_none now)
  | pushed queues refused silent => exact h.pushed (push_gate op c.pacer)
  | commanded sends active done silent =>
      obtain ⟨now, hnow⟩ := h.ticked active
      refine done.settled (h.resumed active) ?_ (hnow ▸ Option.some_ne_none now)
      rw [← Bool.not_eq_true]
      exact fun hd => absurd (hnow.symm.trans (h.deferred hd).1) (Option.some_ne_none now)
  | inactive sends active => exact h
  | reset done steps =>
      exact done.calm.settled done.resumed done.deferred fun hnone =>
        done.absent (h.unticked (done.lastTick.symm.trans hnone))
  | resetFailed failed steps =>
      exact failed.recovered.settled fun hnone =>
        failed.absent (h.unticked (failed.lastTick.symm.trans hnone))

end Turn

theorem command_push {op : ControllerOp} {command : Act Error CiSession Unit}
    (hc : op.command = some (slotId, command)) (pacer : CaPmtPacer) : op.push pacer = pacer := by
  cases op <;> cases hc <;> rfl

theorem Done.steps (hd : Done c c') : ReflTransGen Step c c' := by
  cases hd with
  | worked path calm => exact steps_of_works path
  | restarted work steps restarted => exact (steps_of_works work).trans steps

theorem steps_of_path (hpath : ReflTransGen (Move fun _ => True) c c') : ReflTransGen Step c c' :=
  steps_of_works (works_of_path hpath)

theorem Turn.steps {op : ControllerOp} {reply : Except Error (Option CaEvent)}
    (ht : Turn c op reply c') : ∃ c₁, ReflTransGen Step { c with pacer := op.push c.pacer } c₁ ∧
      c₁.events = deliveredBy reply ++ c'.events ∧ c' = { c₁ with events := c'.events } := by
  cases ht with
  | popped events => exact ⟨c, .refl, events, rfl⟩
  | delivered resumed delivered =>
      obtain ⟨c₁, hpath, _, hevents, hsame⟩ := delivered.worked
      exact ⟨c₁, steps_of_path hpath, hevents, hsame⟩
  | pollFailed resumed failed =>
      refine ⟨c', ?_, rfl, rfl⟩
      cases failed with
      | restarted path cause ticked steps restarted => exact (steps_of_path path).trans steps
      | @deferred c₁ path cause calm unticked same =>
          subst same
          exact (steps_of_path path).tail (.flags c₁.lastTick c₁.linkSuspended c₁.recoveryAt
            c₁.nextStatusCheck true)
  | @ticked now reply c' ends silent =>
      refine ⟨c', ?_, by rw [silent, List.nil_append], rfl⟩
      cases ends with
      | waiting suspended early same =>
          subst same
          exact .single (.flags (some now) c.linkSuspended c.recoveryAt c.nextStatusCheck
            c.deferredLinkFailure)
      | @driven recoveryAt due done =>
          exact .head (.flags (some now) false recoveryAt c.nextStatusCheck false) done.steps
  | pushed queues refused silent => exact ⟨_, .refl, by rw [silent, List.nil_append], rfl⟩
  | commanded sends active done silent =>
      refine ⟨c', ?_, by rw [silent, List.nil_append], rfl⟩
      rw [command_push sends]
      exact done.steps
  | inactive sends active =>
      refine ⟨c, ?_, rfl, rfl⟩
      rw [command_push sends]
  | reset done steps => exact ⟨c', steps, rfl, rfl⟩
  | resetFailed failed steps => exact ⟨c', steps, rfl, rfl⟩

section Runs

theorem step_turn {label : ControllerLabel} (h : c.Settled) (hstep : ControllerStep c label c') :
    Turn (linkLens.set label.link c) label.op label.reply c' := by
  have hturn := op_turn (h.relinked label.link) label.op
  unfold ControllerStep at hstep
  cases hreply : label.reply with
  | ok reply =>
      rw [hreply, ofExcept_ok] at hstep
      have hok := wp_ok hturn hstep
      exact hok
  | error e =>
      rw [hreply, ofExcept_error] at hstep
      have herr := wp_err hturn hstep
      exact herr

theorem Settled.step {label : ControllerLabel} (h : c.Settled) (hstep : ControllerStep c label c') :
    c'.Settled :=
  Turn.settled (h.relinked label.link) (step_turn h hstep)

end Runs

end CiController

section Runs

variable {start c : CiController} {labels : List ControllerLabel}

theorem ControllerRun.of_trail {config : CiControllerConfig} {link : CaDevice}
    {calls : List (CaDevice × ControllerOp)} (h : (ControllerOp.trail config link calls).isSome) :
    ∃ start, ControllerRun start ((ControllerOp.trail config link calls).get h).1
      ((ControllerOp.trail config link calls).get h).2 := by
  have hsome := (Option.some_get h).symm
  generalize (ControllerOp.trail config link calls).get h = result at hsome ⊢
  rw [ControllerOp.trail] at hsome
  split at hsome
  · next start link' hstart =>
      exact ⟨start, ⟨config, link, link', hstart⟩,
        trail_run ControllerStep (fun _ _ _ _ => ControllerOp.next_step) hsome⟩
  · cases hsome

theorem ControllerRun.settled (h : ControllerRun start labels c) : c.Settled :=
  h.2.invariant (CiController.settled_start h.1) fun _ _ _ => CiController.Settled.step

end Runs

end LibDvb
