import LibDvb.Ca.Session.Consistent

namespace LibDvb

open Relation

def Grows (P : List Obs → Obs → Prop) : List Obs → List Obs → Prop :=
  ReflTransGen fun trace trace' => ∃ obs, P trace obs ∧ trace' = trace ++ [obs]

section Grows

variable {P P' : List Obs → Obs → Prop} {trace trace' : List Obs}

theorem Grows.mono (h : Grows P trace trace') (hp : ∀ trace obs, P trace obs → P' trace obs) :
    Grows P' trace trace' :=
  ReflTransGen.mono (fun _ _ ⟨obs, hobs, heq⟩ => ⟨obs, hp _ obs hobs, heq⟩) _ _ h

theorem Grows.note {obs : Obs} (h : P trace obs) : Grows P trace (trace ++ [obs]) :=
  .single ⟨obs, h, rfl⟩

theorem grows_append {delta : List Obs} (h : ∀ obs ∈ delta, ∀ trace, P trace obs) : Grows P trace (trace ++ delta) := by
  induction delta using List.reverseRecOn with
  | nil => exact (List.append_nil trace).symm ▸ .refl
  | append_singleton delta obs ih =>
      refine (ih fun other hmem => h other (List.mem_append_left _ hmem)).tail ⟨obs, h obs (by simp) _, ?_⟩
      rw [List.append_assoc]

theorem Grows.of_path {t t' : CiTransport} (h : ReflTransGen (CiTransport.Step P) t t') :
    Grows P t.trace t'.trace := by
  induction h with
  | refl => exact .refl
  | tail _ hstep ih =>
      obtain ⟨obs, hobs, hmove⟩ := hstep
      exact ih.tail ⟨obs, hobs, hmove.trace⟩

theorem Grows.initial (h : Grows P trace trace') : trace <+: trace' :=
  Path.order (r := fun a b : List Obs => a <+: b) h (fun _ => List.prefix_rfl)
    (fun hab hbc => hab.trans hbc) fun _ _ ⟨_, _, heq⟩ => heq ▸ List.prefix_append _ _

theorem Grows.all {A : Obs → Prop} (h : Grows P trace trace')
    (hA : ∀ trace obs, P trace obs → A obs) :
    ∃ delta, trace' = trace ++ delta ∧ ∀ obs ∈ delta, A obs := by
  induction h with
  | refl => exact ⟨[], by simp⟩
  | tail _ hstep ih =>
      obtain ⟨delta, rfl, hall⟩ := ih
      obtain ⟨obs, hobs, rfl⟩ := hstep
      refine ⟨delta ++ [obs], by rw [List.append_assoc], fun o ho => ?_⟩
      rcases List.mem_append.mp ho with ho | ho
      · exact hall o ho
      · rw [List.mem_singleton.mp ho]
        exact hA _ _ hobs

end Grows

-- The entries that the session layer makes: what it sends and opens is for the slots in `A`, what
-- it reads and clears is for the slots in `V`, and it writes nothing after a failed write.
def Obs.Own (A V : UInt8 → Prop) (trace : List Obs) : Obs → Prop
  | .queued slotId _ => A slotId
  | .wrote _ _ _ _ => pending trace = false
  | .read frame => ∀ slotId, frame.head? = some slotId → V slotId
  | .cleared slotId => V slotId
  | .taken slotId => V slotId
  | .apdu slotId _ _ _ => A slotId
  | .opened slotId _ => A slotId
  | .dispatched slotId _ => A slotId
  | .readFailed _ => True
  | .noFrame => True
  | _ => False

theorem own_quiet {A V : UInt8 → Prop} {trace : List Obs} {obs : Obs} (h : obs.Quiet A V trace) :
    obs.Own A V trace := by
  cases obs with
  | apdu slotId sessionId tag body => exact h.1
  | wrote slotId frame result callback => exact h.1
  | opened slotId sessionId => exact h.elim
  | _ => exact h

theorem own_sends {A V : UInt8 → Prop} {slotId : UInt8} {trace : List Obs} {obs : Obs}
    (hA : A slotId) (h : Sends True slotId trace obs) : obs.Own A V trace := by
  obtain ⟨hsends, hstrict⟩ := h
  cases obs with
  | queued other frame => exact (show other = slotId from hsends) ▸ hA
  | wrote other frame result callback => exact hstrict trivial rfl
  | _ => exact hsends.elim

theorem own_sendsPmt {A V : UInt8 → Prop} {slotId : UInt8} {sessionId : UInt16} {trace : List Obs}
    {obs : Obs} (hA : A slotId) (h : SendsPmt slotId sessionId trace obs) : obs.Own A V trace := by
  rcases h with hsends | ⟨body, rfl⟩
  · exact own_sends hA hsends
  · exact hA

namespace CiSession

variable {A V : UInt8 → Prop} {s s' : CiSession} {change : CaPmtChange}

theorem Move.grows (hm : Move A V s s') :
    Grows (Obs.Own A V) s.transport.trace s'.transport.trace := by
  cases hm with
  | @link callback obs t move quiet =>
      have htrace : t.trace = s.transport.trace ++ [obs] := move.trace
      exact .single ⟨obs, own_quiet quiet, htrace⟩
  | @opened slotId kind t slot notice bound count path whole =>
      have hsent := (Grows.of_path path).mono fun _ _ => own_sends (V := V) slot
      have hnote : (Obs.opened slotId (sessionIdOf s.freshIndex)).Own A V t.trace := slot
      exact hsent.trans (Grows.note hnote)
  | openFailed slot bound count path broken =>
      exact (Grows.of_path path).mono fun _ _ => own_sends slot
  | caInfo known slot notice path whole =>
      exact (Grows.of_path path.path).mono fun _ _ => own_sendsPmt slot
  | caInfoFailed known slot path broken =>
      exact (Grows.of_path path.path).mono fun _ _ => own_sendsPmt slot
  | _ => exact .refl

theorem Move.reported (hm : Move A V s s') :
    ∃ new, s'.events = s.events ++ new ∧ ∀ e ∈ new, V e.slotId := by
  have hone {e : CaEvent} (hnew : V e.slotId) :
      ∃ new, s.events ++ [e] = s.events ++ new ∧ ∀ e ∈ new, V e.slotId := by
    refine ⟨[e], rfl, ?_⟩
    intro other hmem
    rwa [List.mem_singleton.mp hmem]
  have hnone : ∃ new, s.events = s.events ++ new ∧ ∀ e ∈ new, V e.slotId :=
    ⟨[], by rw [List.append_nil], fun _ hmem => nomatch hmem⟩
  cases hm with
  | event plain slot => exact hone slot
  | opened slot notice bound count path whole => exact hone notice
  | closed live slot => exact hone slot
  | appInfo info known slot => exact hone slot
  | caInfo known slot notice path whole => exact hone notice
  | _ => exact hnone

theorem Path.reported (hpath : Path A V s s') :
    ∃ new, s'.events = s.events ++ new ∧ ∀ e ∈ new, V e.slotId := by
  induction hpath with
  | refl => exact ⟨[], by rw [List.append_nil], fun _ hmem => nomatch hmem⟩
  | tail _ hmove ih =>
      obtain ⟨new, hnew, hall⟩ := ih
      obtain ⟨more, hmore, hall'⟩ := hmove.reported
      refine ⟨new ++ more, by rw [hmore, hnew, List.append_assoc], ?_⟩
      intro e hmem
      rcases List.mem_append.mp hmem with hmem | hmem
      · exact hall e hmem
      · exact hall' e hmem

theorem Move.noticed (hm : Move A V s s') (h : ∀ e ∈ s.events, V e.slotId) :
    ∀ e ∈ s'.events, V e.slotId := by
  obtain ⟨new, hnew, hall⟩ := hm.reported
  intro e hmem
  rw [hnew, List.mem_append] at hmem
  rcases hmem with hold | hmem
  · exact h e hold
  · exact hall e hmem

theorem Path.grows (hpath : Path A V s s') :
    Grows (Obs.Own A V) s.transport.trace s'.transport.trace := by
  induction hpath with
  | refl => exact .refl
  | tail _ hmove ih => exact ih.trans hmove.grows

theorem own_sendsPmts (h : s.Consistent) (hw : s.Within A) {trace : List Obs} {obs : Obs}
    (hs : s.SendsPmts trace obs) : obs.Own A V trace := by
  obtain ⟨sessionId, session, known, hsend⟩ := hs
  have hrecord : s.resources.recordSlot sessionId .conditionalAccess = some session.slotId := by
    rw [ResourceRegistry.recordSlot, known, Option.map_some]
  exact own_sendsPmt (hw.record h hrecord) hsend

theorem Programmed.path (hp : Programmed s change s') :
    ∃ t, ReflTransGen (CiTransport.Step s.SendsPmts) s.transport t ∧
      s'.transport.slots = t.slots ∧ s'.transport.trace = t.trace ∧ s'.sessions = s.sessions ∧
        s'.events = s.events ∧ s'.transport.link = t.link := by
  cases hp with
  | idle _ => exact ⟨_, .refl, rfl, rfl, rfl, rfl, rfl⟩
  | done records path acts whole => exact ⟨_, path, rfl, rfl, rfl, rfl, rfl⟩
  | failed records path broken => exact ⟨_, path, rfl, rfl, rfl, rfl, rfl⟩

theorem Programmed.grows (h : s.Consistent) (hw : s.Within A) (hp : Programmed s change s') :
    Grows (Obs.Own A V) s.transport.trace s'.transport.trace := by
  obtain ⟨t, hpath, _, htrace, _⟩ := hp.path
  rw [htrace]
  exact (Grows.of_path hpath).mono fun _ _ => own_sendsPmts h hw

end CiSession

end LibDvb
