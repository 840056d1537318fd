import LibDvb.Ca.Controller.Run

namespace LibDvb

open Relation

def Obs.Unsettled (trace : List Obs) (obs : Obs) : Prop :=
  obs.settles = false ∧ (obs.writes = true → pending trace = false)

section Unsettled

variable {A V : UInt8 → Prop} {slotId : UInt8} {trace trace' : List Obs} {obs : Obs}

theorem own_unsettled (h : obs.Own A V trace) : obs.Unsettled trace := by
  constructor
  · exact own_settles h
  · intro hwrites
    cases obs with
    | wrote slotId frame result callback => exact h
    | _ => cases hwrites

theorem sends_unsettled (h : Sends True slotId trace obs) : obs.Unsettled trace := by
  obtain ⟨hsends, hstrict⟩ := h
  constructor
  · cases obs with
    | reset result => exact hsends.elim
    | called => exact hsends.elim
    | _ => rfl
  · intro hwrites
    exact hstrict trivial hwrites

theorem grows_settles (h : Grows Obs.Unsettled trace trace') (hp : pending trace = true) :
    pending trace' = true := by
  by_contra hwhole
  rw [Bool.not_eq_true] at hwhole
  have := pending_grows h (fun _ _ hobs => hobs.1) hwhole
  rw [hp] at this
  cases this

theorem masked_initial (h : trace <+: trace') (hm : masked trace = true) : masked trace' = true := by
  obtain ⟨delta, rfl⟩ := h
  rw [masked, List.any_append, Bool.or_eq_true]
  exact .inl hm

end Unsettled

namespace CiController

variable {V : UInt8 → Prop} {c c' : CiController}

abbrev trace (c : CiController) : List Obs := c.session.transport.trace

theorem Move.grows (h : c.Sound) (hm : Move V c c') : Grows Obs.Unsettled c.trace c'.trace := by
  cases hm with
  | session move => exact move.grows.mono fun _ _ => own_unsettled
  | created known status notice path whole =>
      exact (Grows.of_path path).mono fun _ _ => sends_unsettled
  | createFailed known status path broken =>
      exact (Grows.of_path path).mono fun _ _ => sends_unsettled
  | activated queued known status notice => exact .note ⟨rfl, nofun⟩
  | programmed due programmed =>
      exact (programmed.grows (V := V) h.session h.within).mono fun _ _ => own_unsettled
  | probed slotId => exact .note ⟨rfl, nofun⟩
  | _ => exact .refl

theorem Work.grows (h : c.Sound) (hw : Work V c c') : Grows Obs.Unsettled c.trace c'.trace := by
  cases hw with
  | move move => exact move.grows h
  | info slotId present ready => exact .refl

theorem grows_path {R : CiController → CiController → Prop} (h : c.Sound) (hpath : ReflTransGen R c c')
    (hsound : ∀ c c', Sound c → R c c' → c'.Sound)
    (hgrows : ∀ c c', Sound c → R c c' → Grows Obs.Unsettled c.trace c'.trace) :
    Grows Obs.Unsettled c.trace c'.trace := by
  induction hpath with
  | refl => exact .refl
  | tail hfirst hlast ih =>
      exact ih.trans (hgrows _ _ (LibDvb.Path.invariant hfirst h hsound) hlast)

theorem Works.grows (h : c.Sound) (hpath : Works c c') : Grows Obs.Unsettled c.trace c'.trace :=
  grows_path h hpath (fun _ _ => Sound.work) fun _ _ => Work.grows

theorem moves_grows (h : c.Sound) (hpath : ReflTransGen (Move V) c c') :
    Grows Obs.Unsettled c.trace c'.trace :=
  grows_path h hpath (fun _ _ => Sound.move) fun _ _ => Move.grows

theorem Step.initial (h : c.Sound) (hs : Step c c') : c.trace <+: c'.trace := by
  cases hs with
  | work work => exact (work.grows h).initial
  | flags lastTick linkSuspended recoveryAt nextStatusCheck deferredLinkFailure => exact List.prefix_rfl
  | reset result sessions idle => exact List.prefix_append _ _

theorem steps_initial (h : c.Sound) (hpath : ReflTransGen Step c c') : c.trace <+: c'.trace := by
  induction hpath with
  | refl => exact List.prefix_rfl
  | tail hfirst hlast ih => exact ih.trans (hlast.initial (h.stepping hfirst))

theorem Turn.initial {op : ControllerOp} {reply : Except Error (Option CaEvent)} (hs : c.Settled)
    (ht : Turn c op reply c') : c.trace <+: c'.trace := by
  obtain ⟨c₁, hpath, _, hsame⟩ := ht.steps
  have hinitial := steps_initial (hs.calm.sound.paced (op.push c.pacer)) hpath
  rw [hsame]
  exact hinitial

end CiController

end LibDvb
