import LibDvb.Ca.Controller.History

namespace LibDvb

open Relation

def ControllerOp.clock : ControllerOp → Option Instant → Option Instant
  | tick now, _ => some now
  | _, lastTick => lastTick

def Obs.resetResult : Obs → Option (Except Error Unit)
  | .reset result => some result
  | _ => none

def resets (trace : List Obs) : List (Except Error Unit) := trace.filterMap Obs.resetResult

section Resets

variable {trace trace' : List Obs}

theorem resets_append : resets (trace ++ trace') = resets trace ++ resets trace' :=
  List.filterMap_append

theorem resets_nil (h : ∀ obs ∈ trace, obs.settles = false) : resets trace = [] := by
  rw [resets, List.filterMap_eq_nil_iff]
  intro obs hmem
  have hsettles := h obs hmem
  cases obs with
  | reset result => cases hsettles
  | _ => rfl

end Resets

namespace CiController

variable {c c' : CiController}

def Due (c : CiController) (op : ControllerOp) : Prop :=
  c.linkSuspended = true → ∃ now recoveryAt, op = .tick now ∧ c.recoveryAt = some recoveryAt ∧ recoveryAt ≤ now

inductive Beat (c : CiController) (op : ControllerOp) (c' : CiController) : Prop
  | waited (suspended : c'.linkSuspended = c.linkSuspended) (recoveryAt : c'.recoveryAt = c.recoveryAt)
      (trace : c'.trace = c.trace)
  | worked (due : c.Due op) (suspended : c'.linkSuspended = false)
      (grows : Grows Obs.Unsettled c.trace c'.trace) (whole : pending c'.trace = false)
  | restarted {mid rest now result} (due : c.Due op) (ticked : c'.lastTick = some now)
      (suspended : c'.linkSuspended = true) (grows : Grows Obs.Unsettled c.trace mid)
      (silent : Silent mid rest) (trace : c'.trace = rest ++ [.reset result])
      (retry : c'.recoveryAt = match result with
        | .ok _ => some (deadline now c'.config.retryInterval)
        | .error _ => none)
  | reset {rest} (op : op = .reset) (suspended : c'.linkSuspended = false)
      (silent : Silent c.trace rest) (trace : c'.trace = rest ++ [.reset (.ok ())])
  | resetFailed {rest e} (op : op = .reset) (suspended : c'.linkSuspended = true)
      (retry : c'.recoveryAt = none) (silent : Silent c.trace rest)
      (trace : c'.trace = rest ++ [.reset (.error e)])

theorem Beat.of_restarted {op : ControllerOp} {c₁ : CiController} (due : c.Due op)
    (grows : Grows Obs.Unsettled c.trace c₁.trace) {now : Instant} (ticked : c₁.lastTick = some now)
    (restarted : Restarted c₁ c') : Beat c op c' := by
  obtain ⟨rest, result, hsilent, htrace, hretry⟩ := restarted.once
  refine .restarted due (restarted.lastTick.trans ticked) restarted.recovered.suspended grows hsilent htrace ?_
  rw [hretry, restarted.config]
  cases result with
  | ok _ => rw [retryAfter, ticked, Option.map_some]
  | error _ => rfl

theorem Beat.of_done {op : ControllerOp} {c₀ : CiController} (h : c₀.Calm) (due : c.Due op)
    (trace : c₀.trace = c.trace) (suspended : c₀.linkSuspended = false) {now : Instant}
    (ticked : c₀.lastTick = some now) (hd : Done c₀ c') :
    c'.lastTick = c₀.lastTick ∧ c'.config = c₀.config ∧ Beat c op c' := by
  cases hd with
  | worked path calm =>
      have hkeeps := Works.keeps path
      have hgrows := Works.grows h.sound path
      rw [trace] at hgrows
      exact ⟨hkeeps.lastTick, hkeeps.config, .worked due (hkeeps.linkSuspended.trans suspended) hgrows calm.whole⟩
  | restarted work steps restarted =>
      have hkeeps := Works.keeps work
      have hgrows := Works.grows h.sound work
      rw [trace] at hgrows
      exact ⟨restarted.lastTick.trans hkeeps.lastTick, restarted.config.trans hkeeps.config,
        .of_restarted due hgrows (hkeeps.lastTick.trans ticked) restarted⟩

theorem Turn.beat (h : c.Settled) {op : ControllerOp} {reply : Except Error (Option CaEvent)}
    (ht : Turn c op reply c') :
    c'.lastTick = op.clock c.lastTick ∧ c'.config = c.config ∧ Beat c op c' := by
  have hdue {op : ControllerOp} (resumed : c.linkSuspended = false) : c.Due op := by
    intro hs
    rw [resumed] at hs
    cases hs
  cases ht with
  | popped events => exact ⟨rfl, rfl, .waited rfl rfl rfl⟩
  | delivered resumed delivered =>
      obtain ⟨c₁, hpath, hcalm, _, hsame⟩ := delivered.worked
      have hkeeps := Keeps.path hpath
      have hgrows := moves_grows h.calm.sound hpath
      rw [hsame]
      exact ⟨hkeeps.lastTick, hkeeps.config, .worked (hdue resumed) (hkeeps.linkSuspended.trans resumed) hgrows
        hcalm.whole⟩
  | pollFailed resumed failed =>
      cases failed with
      | @restarted c₁ path cause ticked steps restarted =>
          have hkeeps := Keeps.path path
          obtain ⟨now, hnow⟩ := Option.ne_none_iff_exists'.mp ticked
          exact ⟨restarted.lastTick.trans hkeeps.lastTick, restarted.config.trans hkeeps.config,
            .of_restarted (hdue resumed) (moves_grows h.calm.sound path) (hkeeps.lastTick.trans hnow) restarted⟩
      | @deferred c₁ path cause calm unticked same =>
          have hkeeps := Keeps.path path
          have hgrows := moves_grows h.calm.sound path
          subst same
          exact ⟨hkeeps.lastTick, hkeeps.config, .worked (hdue resumed) (hkeeps.linkSuspended.trans resumed)
            hgrows calm.whole⟩
  | @ticked now reply c' ends silent =>
      cases ends with
      | waiting suspended early same =>
          subst same
          exact ⟨rfl, rfl, .waited rfl rfl rfl⟩
      | @driven recoveryAt due done =>
          refine Beat.of_done (h.calm.ticking now recoveryAt) ?_ rfl rfl rfl done
          intro hs
          obtain ⟨at', hat, hle⟩ := due hs
          exact ⟨now, at', rfl, hat, hle⟩
  | pushed queues refused silent =>
      refine ⟨?_, rfl, .waited rfl rfl rfl⟩
      cases op with
      | tick => exact queues.elim
      | _ => rfl
  | @commanded op reply slotId command c' sends active done silent =>
      obtain ⟨now, hnow⟩ := h.ticked active
      have hresumed := h.resumed active
      have hclock : op.clock c.lastTick = c.lastTick := by
        cases op with
        | tick => cases sends
        | _ => rfl
      rw [hclock]
      exact Beat.of_done h.calm (hdue hresumed) rfl hresumed hnow done
  | @inactive op e slotId command sends active =>
      refine ⟨?_, rfl, .waited rfl rfl rfl⟩
      cases op with
      | tick => cases sends
      | _ => rfl
  | reset done steps =>
      obtain ⟨rest, hsilent, htrace⟩ := done.once
      exact ⟨done.lastTick, done.config, .reset rfl done.resumed hsilent htrace⟩
  | resetFailed failed steps =>
      obtain ⟨c₁, e, _, _, hsilent, htrace, _⟩ := failed.cams
      exact ⟨failed.lastTick, failed.config, .resetFailed rfl failed.recovered.suspended failed.retry hsilent htrace⟩

end CiController

section PerCall

variable {α : Type} {start c c' : CiController} {labels : List ControllerLabel} {label : ControllerLabel}

def ControllerLabel.after (label : ControllerLabel) (c : CiController) : CiController :=
  (label.op.run (CiController.linkLens.set label.link c)).2

def callHistory (f : CiController → CiController → α) (start : CiController) (labels : List ControllerLabel) :
    List α × CiController :=
  labels.foldl (fun past label => (past.1 ++ [f past.2 (label.after past.2)], label.after past.2)) ([], start)

def perCall (f : CiController → CiController → α) (start : CiController) (labels : List ControllerLabel) :
    List α := (callHistory f start labels).1

theorem after_step (h : ControllerStep c label c') : label.after c = c' := by
  rw [ControllerLabel.after, h]

theorem callHistory_snoc (f : CiController → CiController → α) (start : CiController)
    (labels : List ControllerLabel) (label : ControllerLabel) :
    callHistory f start (labels ++ [label]) = ((callHistory f start labels).1 ++
      [f (callHistory f start labels).2 (label.after (callHistory f start labels).2)],
        label.after (callHistory f start labels).2) := by
  simp [callHistory]

theorem callHistory_run (f : CiController → CiController → α) (h : Run ControllerStep start labels c) :
    (callHistory f start labels).2 = c := by
  induction h with
  | nil => rfl
  | snoc _ last ih => rw [callHistory_snoc, ih, after_step last]

theorem perCall_snoc (f : CiController → CiController → α) (h : Run ControllerStep start labels c)
    (hstep : ControllerStep c label c') :
    perCall f start (labels ++ [label]) = perCall f start labels ++ [f c c'] := by
  rw [perCall, callHistory_snoc, callHistory_run f h, after_step hstep]
  rfl

end PerCall

end LibDvb
