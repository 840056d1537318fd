import LibDvb.Ca.Controller.CamStatus
import LibDvb.Ca.Session.Listed
import LibDvb.Ca.Session.Selecting

namespace LibDvb

open Relation Act Outcome

namespace CiSession

structure Obeys (s : CiSession) : Prop where
  set : ∀ program : Program, program.Fits → wp (setProgram program) (fun _ _ => True) (fun e _ => e.IsWrite) s
  remove : ∀ programNumber : UInt16, wp (removeProgram programNumber) (fun _ _ => True) (fun e _ => e.IsWrite) s

theorem ChangeStopped.isWrite {s s' : CiSession} {change : CaPmtChange} {e : Error} (h : ChangeStopped s change e s')
    (hfits : s.Fits) (hchange : change.Fits) : e.IsWrite := by
  rcases h.broken with hpending | hunfit | hunfit
  · exact h.write hpending
  · exact absurd hfits hunfit
  · exact absurd hchange hunfit

theorem Consistent.obeys {s : CiSession} (h : s.Consistent) (hfits : s.Fits)
    (whole : pending s.transport.trace = false) : s.Obeys := by
  constructor
  · intro program hprogram
    exact wp_mono (setProgram_spec h whole program) (fun _ _ _ => trivial) fun _ _ hs => hs.isWrite hfits hprogram
  · intro programNumber
    exact wp_mono (removeProgram_spec h whole programNumber) (fun _ _ _ => trivial) fun _ _ hs => hs.isWrite hfits trivial

end CiSession

namespace CiController

variable {V : UInt8 → Prop} {c c' : CiController}

theorem Move.agrees (h : c.Sound) (hsized : c.Sized) (ha : c.session.Agrees) (hm : Move V c c') :
    c'.session.Agrees ∨ c'.Excused := by
  cases hm with
  | session move =>
      rcases move.agrees h.session hsized.session ha with hagrees | hpending | hmasked
      · exact .inl hagrees
      · exact .inr (.inl hpending)
      · exact .inr (.inr hmasked)
  | created known status notice path whole => exact .inl (ha.congr rfl (caActs_sends path))
  | createFailed known status path broken => exact .inr (.inl broken)
  | activated queued known status notice => exact .inl (ha.congr rfl ((caActs_snoc _ _).trans (List.append_nil _)))
  | programmed due programmed =>
      have hchange := hsized.queue _ (poll_queue due ▸ List.mem_cons_self)
      rcases programmed.agrees h.session hsized.session ha hchange with hagrees | hpending
      · exact .inl hagrees
      · exact .inr (.inl hpending)
  | probed slotId => exact .inl (ha.congr rfl ((caActs_snoc _ _).trans (List.append_nil _)))
  | _ => exact .inl (ha.congr rfl rfl)

structure Listed (c : CiController) : Prop where
  sound : c.Sound
  sized : c.Sized
  agrees : c.Excused ∨ c.session.Agrees

theorem Listed.move (h : c.Listed) (hm : Move V c c') : c'.Listed := by
  refine ⟨h.sound.move hm, h.sized.move hm, ?_⟩
  rcases h.agrees with hexcused | hagrees
  · exact .inl (hexcused.grows (hm.grows h.sound))
  · exact (hm.agrees h.sound h.sized hagrees).symm

theorem Listed.step (h : c.Listed) (hs : Step c c') : c'.Listed := by
  refine ⟨h.sound.step hs, h.sized.step hs, ?_⟩
  cases hs with
  | work work =>
      cases work with
      | move move => exact (h.move move).agrees
      | info slotId present ready => exact h.agrees
  | flags lastTick linkSuspended recoveryAt nextStatusCheck deferredLinkFailure => exact h.agrees
  | reset result sessions idle =>
      right
      -- no session is left that could have a record
      intro sessionId session known
      have hrecord : c.session.resources.recordSlot sessionId .conditionalAccess = some session.slotId :=
        congrArg (Option.map ConditionalAccessSession.slotId) known
      obtain ⟨index, live, _, hlive, hslot, _⟩ := h.sound.session.records _ _ _ hrecord
      exact absurd hslot (sessions _ index live hlive)

theorem Listed.turned {op : ControllerOp} {reply : Except Error (Option CaEvent)} (h : c.Listed)
    (ht : Turn c op reply c') (hfits : ∀ change ∈ op.changes, change.Fits) : c'.Listed := by
  obtain ⟨c₁, hsteps, _, hsame⟩ := ht.steps
  have hpushed : Listed { c with pacer := op.push c.pacer } :=
    ⟨h.sound.paced _, h.sized.pushed hfits, h.agrees⟩
  have h₁ : c₁.Listed := LibDvb.Path.invariant hsteps hpushed fun _ _ => Listed.step
  rw [hsame]
  have hsound := h₁.sound
  exact ⟨⟨hsound.session, hsound.within, hsound.count, hsound.idle, hsound.receive, hsound.events⟩,
    ⟨h₁.sized.session, h₁.sized.queue⟩, h₁.agrees⟩

theorem Listed.relinked (h : c.Listed) (link : CaDevice) : (linkLens.set link c).Listed :=
  ⟨h.sound.relinked link, ⟨h.sized.session, h.sized.queue⟩, h.agrees⟩

theorem listed_start (hc : Starts c) : c.Listed := by
  refine ⟨(settled_start hc).calm.sound, (exact_start hc).sized, .inr ?_⟩
  obtain ⟨link, slotsNum, hsession⟩ := (blank_start hc).session
  intro sessionId session known
  rw [hsession] at known
  simp [CiSession.new] at known

end CiController

theorem ControllerRun.listed {start c : CiController} {labels : List ControllerLabel}
    (h : ControllerRun start labels c) (hfits : Fitting labels) : c.Listed := by
  refine (h.2.history (I := fun labels c => Fitting labels → c.Settled ∧ c.Listed)
    (fun _ => ⟨CiController.settled_start h.1, CiController.listed_start h.1⟩)
    (fun labels c label c' ih hstep hfits => ?_) hfits).2
  obtain ⟨hsettled, hlisted⟩ := ih fun other hmem => hfits other (List.mem_append_left _ hmem)
  have hturn := CiController.step_turn hsettled hstep
  exact ⟨hturn.settled (hsettled.relinked label.link), (hlisted.relinked label.link).turned hturn
    (hfits label (List.mem_append_right _ (List.mem_singleton_self label)))⟩

theorem ca_pmt_agreement {start c : CiController} {labels : List ControllerLabel}
    (h : ControllerRun start labels c) (hfits : Fitting labels) (hshort : ∀ obs ∈ c.trace, obs.short = false) :
    (∀ (sessionId : UInt16) session caids,
      c.session.resources.conditionalAccess.sessions[sessionId]? = some session → session.caids = some caids →
        session.selected =
            c.session.resources.conditionalAccess.programs.filter (fun _ program => program.selectedBy caids) ∧
          CaPmt.replay (objectsSince sessionId c.trace) = some (listingOf caids session.selected)) ∧
      ∀ link c', ReflTransGen CiController.Step (CiController.linkLens.set link c) c' → pending c'.trace = false →
        c'.session.Obeys := by
  have hlisted := h.listed hfits
  constructor
  · intro sessionId session caids known hcaids
    rcases hlisted.agrees with (hpending | hmasked) | hagrees
    · rw [CiController.trace, (h.exact hfits).settled.calm.whole] at hpending
      cases hpending
    · rw [masked_of_short hshort] at hmasked
      cases hmasked
    · obtain ⟨hselected, hreplays⟩ := hagrees sessionId session known
      rw [ConditionalAccessSession.desired, hcaids] at hselected
      rw [ConditionalAccessSession.listing, hcaids] at hreplays
      exact ⟨hselected, hreplays⟩
  · intro link c' hsteps whole
    have h' : c'.Listed := LibDvb.Path.invariant hsteps (hlisted.relinked link) fun _ _ => CiController.Listed.step
    exact h'.sound.session.obeys h'.sized.session whole

def scrambled (programNumber : UInt16) : Program :=
  { programNumber
    version := 0
    descriptors := [⟨0x0100, [0x09, 0x04, 0x01, 0x00, 0xE0, 0x64]⟩]
    streams := [] }

theorem scrambled_fits (programNumber : UInt16) : (scrambled programNumber).Fits :=
  ⟨by simp [scrambled, infoLength], fun _ hmem => absurd hmem List.not_mem_nil, by simp [scrambled, infoLength]⟩

-- The module opens the Conditional Access session and tells its list, and is told two programs.
def descrambles : List (CaDevice × ControllerOp) :=
  [({}, .setCaPmtInterval 0), ({}, .queueProgram (scrambled 7)), ({}, .queueProgram (scrambled 8)),
    (moduleReady, .tick 0), ({}, .pollEvent), ({}, .pollEvent), frameRead [0, 1, 0x83, 1, 1, 0x80, 2, 1, 0],
    ({}, .pollEvent), frameRead (dataFrame [0x91, 4, 0x00, 0x03, 0x00, 0x41]), frameRead [0, 1, 0x80, 2, 1, 0],
    frameRead (dataFrame [0x90, 2, 0, 1, 0x9F, 0x80, 0x31, 2, 0x01, 0x00]), ({}, .pollEvent), ({}, .tick 1),
    ({}, .tick 2), frameRead [0, 1, 0x80, 2, 1, 0], ({}, .tick 3)]

theorem descrambles_isSome : (ControllerOp.trail {} {} descrambles).isSome := by decide +kernel

def afterDescrambles : List ControllerLabel × CiController :=
  (ControllerOp.trail {} {} descrambles).get descrambles_isSome

theorem descrambles_run : ∃ start, ControllerRun start afterDescrambles.1 afterDescrambles.2 :=
  ControllerRun.of_trail descrambles_isSome

theorem descrambles_changes : ∀ label ∈ afterDescrambles.1, ∀ change ∈ label.op.changes,
    change = .set (scrambled 7) ∨ change = .set (scrambled 8) := by decide +kernel

theorem descrambles_fits : Fitting afterDescrambles.1 := by
  intro label hmem change hchange
  rcases descrambles_changes label hmem change hchange with rfl | rfl
  · exact scrambled_fits 7
  · exact scrambled_fits 8

theorem descrambles_whole : ∀ obs ∈ afterDescrambles.2.trace, obs.short = false := by decide +kernel

theorem descrambles_session :
    afterDescrambles.2.session.resources.conditionalAccess.sessions[(1 : UInt16)]?.any (fun session =>
      session.caids = some [0x0100] ∧ session.selected[(8 : UInt16)]? = some (scrambled 8)) = true := by decide +kernel

theorem descrambles_objects : (objectsSince 1 afterDescrambles.2.trace).length = 2 := by decide +kernel

theorem ca_pmt_agreement_descrambles : ∃ start, ∃ session : ConditionalAccessSession,
    ControllerRun start afterDescrambles.1 afterDescrambles.2 ∧
    session.selected[(8 : UInt16)]? = some (scrambled 8) ∧
    session.selected = afterDescrambles.2.session.resources.conditionalAccess.programs.filter (fun _ program =>
      program.selectedBy [0x0100]) ∧
    (objectsSince 1 afterDescrambles.2.trace).length = 2 ∧
    CaPmt.replay (objectsSince 1 afterDescrambles.2.trace) = some (listingOf [0x0100] session.selected) := by
  obtain ⟨start, hrun⟩ := descrambles_run
  obtain ⟨session, known, htold⟩ := (Option.any_eq_true _ _).mp descrambles_session
  obtain ⟨hcaids, hselected⟩ := of_decide_eq_true htold
  obtain ⟨hagrees, hreplays⟩ :=
    (ca_pmt_agreement hrun descrambles_fits descrambles_whole).1 1 session [0x0100] known hcaids
  exact ⟨start, session, hrun, hselected, hagrees, descrambles_objects, hreplays⟩

end LibDvb
