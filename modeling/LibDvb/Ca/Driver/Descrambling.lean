import LibDvb.Ca.Controller.Hearing
import LibDvb.Ca.Driver.Drain
import LibDvb.Ca.Driver.Obey

namespace LibDvb

open Relation CiController

def Command.changes (command : Command) : List CaPmtChange := command.op.toList.flatMap ControllerOp.changes

section Changes

variable {op : ControllerOp} {internal : Bool} {c c' : CiController} {labels : List ControllerLabel}

theorem own_changes (own : op.own internal = true) : op.changes = [] := by
  cases op with
  | tick now => rfl
  | pollEvent => rfl
  | reset => rfl
  | _ => cases own

theorem flatMap_served (calls : List DriverCall) :
    (calls.map DriverCall.label).flatMap (fun label => label.op.changes) =
      ((calls.filter fun call => !call.own).map fun call => call.label.op).flatMap ControllerOp.changes := by
  induction calls with
  | nil => rfl
  | cons call calls ih =>
      rw [List.map_cons, List.flatMap_cons, ih]
      cases hown : call.own with
      | true =>
          rw [List.filter_cons_of_neg (by simp [hown]), own_changes hown]
          rfl
      | false =>
          rw [List.filter_cons_of_pos (by simp [hown]), List.map_cons, List.flatMap_cons]

theorem flatMap_op (commands : List Command) :
    (commands.filterMap Command.op).flatMap ControllerOp.changes = commands.flatMap Command.changes := by
  induction commands with
  | nil => rfl
  | cons command commands ih =>
      rw [List.flatMap_cons, ← ih, Command.changes]
      cases hop : command.op with
      | none => rw [List.filterMap_cons, hop]; rfl
      | some op => rw [List.filterMap_cons, hop, List.flatMap_cons, Option.toList_some, List.flatMap_singleton]

theorem accepted_steps (hc : c.Settled) (h : Run ControllerStep c labels c') :
    accepted labels = labels.flatMap fun label => label.op.changes := by
  refine (h.history (I := fun labels c => c.Settled ∧ accepted labels = labels.flatMap fun label => label.op.changes)
    ⟨hc, rfl⟩ fun labels c label c' hi hstep => ⟨hi.1.step hstep, ?_⟩).2
  rw [accepted, List.flatMap_append, ← accepted, hi.2, List.flatMap_append]
  refine congrArg _ ?_
  rw [List.flatMap_singleton, List.flatMap_singleton]
  cases hreply : label.reply with
  | ok reply => rfl
  | error e =>
      have hturn := step_turn hi.1 hstep
      rw [hreply] at hturn
      exact hturn.refused.symm

end Changes

section System

variable {lib : Mpegts} {before : List ControllerLabel} {labels : List SystemLabel} {s : CiSystem}

theorem CiDriver.Follows.passed {made : CiController} {d d' : CiDriver} (h : d.Follows made) (settled : made.Settled)
    (hpass : CiDriver.Pass d d') : d'.Follows made :=
  hpass.invariant h (fun _ _ hd hmove => (hd.move settled hmove).1) (fun _ hd => hd.still rfl rfl rfl)
    fun _ _ _ hd => hd.still rfl rfl rfl

theorem SystemStarts.follows (h : SystemStarts before s) :
    ∃ first made, ControllerRun first before made ∧ s.driver.Follows made := by
  obtain ⟨_, _, first, c, clock, around, registered, hrun, henter⟩ := h
  have hpass := (CiDriver.enter_pass registered ((CiDriver.new c clock).within around)).1 ()
  rw [henter] at hpass
  have hnew : (CiDriver.new c clock).Follows c := ⟨⟨linkLens.get c, c, .nil, rfl⟩, rfl, List.prefix_refl _⟩
  exact ⟨first, c, hrun, (hnew.within around).passed hrun.settled (hpass rfl)⟩

theorem SystemRun.follows (h : SystemRun lib before labels s) :
    ∃ first made, ControllerRun first before made ∧ s.driver.Follows made := by
  obtain ⟨start, hstarts, hsteps⟩ := h
  obtain ⟨first, made, hrun, hfollows⟩ := hstarts.follows
  refine ⟨first, made, hrun, hsteps.invariant (I := fun s => s.driver.Follows made) hfollows fun s label s' hs hstep => ?_⟩
  cases hstep with
  | asked call held =>
      rw [CiSystem.asked]
      split
      · exact hs
      · exact hs
  | cloned held => exact hs
  | released held => exact hs
  | turned receives step => exact (hs.within _).passed hrun.settled step.pass

theorem driver_descrambles (h : SystemRun lib before labels s) (hbefore : Fitting before)
    (hfits : ∀ command ∈ commandsOf lib labels, ∀ change ∈ command.changes, change.Fits)
    (hshort : ∀ obs ∈ s.driver.controller.trace, obs.short = false) (hgoing : s.driver.returned = none)
    (hcommands : s.commands = []) {sessionId : UInt16} {session : ConditionalAccessSession} {caids : List UInt16}
    (known : s.driver.controller.session.resources.conditionalAccess.sessions[sessionId]? = some session)
    (hcaids : session.caids = some caids) {slot : TransportSlot}
    (hslot : s.driver.controller.session.transport.slots[session.slotId.toNat]? = some slot) (hempty : slot.queue = [])
    (hqueue : s.driver.controller.pacer.queue = [])
    (hwhole : Whole (sinceCleared session.slotId s.driver.controller.trace)) :
    CaPmt.replay (objectsHeard sessionId
        (decoded (acceptedFrames session.slotId (sinceCleared session.slotId s.driver.controller.trace)))) =
      some (listingOf caids ((applied ∅ (accepted before ++ (commandsOf lib labels).flatMap Command.changes)).filter
        fun _ program => program.selectedBy caids)) := by
  obtain ⟨first, made, hrun, hfollows⟩ := h.follows
  obtain ⟨link, c, hsteps, hcontroller⟩ := hfollows.run
  obtain ⟨taken, rest, haccounts⟩ := h.accounts
  have htaken : commandsOf lib labels = taken := by
    obtain ⟨hrest, _⟩ := haccounts.fate.going hgoing
    rw [haccounts.sent, hrest, hcommands, List.append_nil]
  have hchanges : (s.driver.calls.map DriverCall.label).flatMap (fun label => label.op.changes) =
      (commandsOf lib labels).flatMap Command.changes := by
    rw [flatMap_served, ← CiDriver.served, haccounts.served, flatMap_op, htaken]
  have hall : ControllerRun first (before ++ s.driver.calls.map DriverCall.label) c := ⟨hrun.1, hrun.2.append hsteps⟩
  have hfitting : Fitting (before ++ s.driver.calls.map DriverCall.label) := by
    intro label hmem change hchange
    rcases List.mem_append.mp hmem with hmem | hmem
    · exact hbefore label hmem change hchange
    · have hflat : change ∈ (commandsOf lib labels).flatMap Command.changes :=
        hchanges ▸ List.mem_flatMap.mpr ⟨label, hmem, hchange⟩
      obtain ⟨command, hcommand, hchange⟩ := List.mem_flatMap.mp hflat
      exact hfits command hcommand change hchange
  rw [hcontroller] at hshort known hslot hqueue hwhole ⊢
  have haccepted : accepted (before ++ s.driver.calls.map DriverCall.label) =
      accepted before ++ (commandsOf lib labels).flatMap Command.changes := by
    rw [accepted, List.flatMap_append, ← accepted, ← accepted, accepted_steps hrun.settled hsteps, hchanges]
  rw [← haccepted, ← hall.programs hqueue]
  exact hall.lists hfitting hshort known hcaids hslot hempty hwhole

end System

-- A section of program 7 with one CA descriptor, and what the parser makes of it.
def newsSection : Bytes :=
  [0x02, 0xB0, 0x13, 0x00, 0x07, 0xC1, 0x00, 0x00, 0xFF, 0xFF, 0xF0, 0x06, 0x09, 0x04, 0x01, 0x00, 0xE0, 0x64,
    0xC3, 0xEA, 0xA6, 0xAE]

def newsParser : Mpegts where
  pmtSection bytes :=
    if bytes = newsSection then
      .ok {
        programNumber := 7
        version := 0
        descriptors := some [.ok ⟨0x09, [0x09, 0x04, 0x01, 0x00, 0xE0, 0x64]⟩]
        streams := [] }
    else
      .error "invalid section"
  caDescriptorTag := 0x09
  caSystemId descriptor := .ok (ofBeBytes (descriptor.bytes.getD 2 0) (descriptor.bytes.getD 3 0))

def frameArrives (frame : Bytes) : SystemLabel :=
  .turn ⟨{ link := { moduleReady with reads := [.frame frame] }, edge := true }, .readable (.ok ())⟩

def tickPasses : SystemLabel := .turn ⟨{ link := moduleReady, pause := 10 ^ 8 }, .timer⟩

-- A handle sends the section before the module comes up.
def handlesDescramble : List SystemLabel :=
  [.ask (.setCaPmtInterval 0), .ask (.setProgram newsSection),
    .turn ⟨{ link := moduleReady }, .command (some (.setCaPmtInterval 0))⟩,
    .turn ⟨{ link := moduleReady }, .command (some (.setProgram (scrambled 7)))⟩,
    frameArrives [0, 1, 0x83, 1, 1, 0x80, 2, 1, 0], frameArrives (dataFrame [0x91, 4, 0x00, 0x03, 0x00, 0x41]),
    frameArrives [0, 1, 0x80, 2, 1, 0], frameArrives (dataFrame [0x90, 2, 0, 1, 0x9F, 0x80, 0x31, 2, 0x01, 0x00]),
    tickPasses, frameArrives [0, 1, 0x80, 2, 1, 0], tickPasses, frameArrives [0, 1, 0x80, 2, 1, 0]]

theorem handlesDescramble_isSome :
    (trail (CiSystem.next newsParser) { driver := supervising } handlesDescramble).isSome := by decide +kernel

def afterHandlesDescramble : List SystemLabel × CiSystem :=
  (trail (CiSystem.next newsParser) { driver := supervising } handlesDescramble).get handlesDescramble_isSome

theorem handlesDescramble_run : SystemRun newsParser [] afterHandlesDescramble.1 afterHandlesDescramble.2 :=
  ready_run handlesDescramble_isSome

theorem handlesDescramble_facts :
    (commandsOf newsParser afterHandlesDescramble.1).flatMap Command.changes = [.set (scrambled 7)] ∧
      (∀ obs ∈ afterHandlesDescramble.2.driver.controller.trace, obs.short = false) ∧
      afterHandlesDescramble.2.driver.returned.isNone ∧ afterHandlesDescramble.2.commands = [] ∧
      afterHandlesDescramble.2.driver.controller.pacer.queue = [] ∧
      (afterHandlesDescramble.2.driver.controller.session.resources.conditionalAccess.sessions[(1 : UInt16)]?).map
        (fun session => (session.caids, session.slotId)) = some (some [0x0100], 0) ∧
      (afterHandlesDescramble.2.driver.controller.session.transport.slots[(0 : UInt8).toNat]?).map TransportSlot.queue =
        some [] ∧
      Whole (sinceCleared 0 afterHandlesDescramble.2.driver.controller.trace) := by
  unfold Whole
  decide +kernel

theorem driver_descrambles_section :
    CaPmt.replay (objectsHeard 1 (decoded (acceptedFrames 0
        (sinceCleared 0 afterHandlesDescramble.2.driver.controller.trace)))) =
      some (listingOf [0x0100] ((applied ∅ [.set (scrambled 7)]).filter fun _ program =>
        program.selectedBy [0x0100])) := by
  obtain ⟨hchanges, hshort, hgoing, hcommands, hqueue, hsession, hslot, hkept⟩ := handlesDescramble_facts
  obtain ⟨session, known, hsession⟩ := Option.map_eq_some_iff.mp hsession
  obtain ⟨hcaids, hslotId⟩ := Prod.mk.inj hsession
  obtain ⟨slot, hslot, hempty⟩ := Option.map_eq_some_iff.mp hslot
  have hfits : ∀ command ∈ commandsOf newsParser afterHandlesDescramble.1, ∀ change ∈ command.changes, change.Fits := by
    intro command hcommand change hchange
    have hmem := List.mem_flatMap.mpr ⟨command, hcommand, hchange⟩
    rw [hchanges] at hmem
    rw [List.mem_singleton.mp hmem]
    exact scrambled_fits 7
  have hmodule := driver_descrambles handlesDescramble_run (by simp [Fitting]) hfits hshort
    (Option.isNone_iff_eq_none.mp hgoing) hcommands known hcaids (hslotId.symm ▸ hslot) hempty hqueue (hslotId.symm ▸ hkept)
  rw [hslotId, hchanges] at hmodule
  exact hmodule

end LibDvb
