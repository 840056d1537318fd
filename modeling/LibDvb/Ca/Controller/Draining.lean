import LibDvb.Ca.Controller.History
import LibDvb.Ca.Controller.Span

namespace LibDvb

open Relation Act Outcome

section Yields

variable {ε σ α β : Type} {P : α → Prop} {Q : β → Prop}

def Act.Yields (P : α → Prop) (m : Act ε σ α) : Prop := ∀ s, wlp m (fun a _ => P a) (fun _ _ => True) s

theorem yields_pure {a : α} (h : P a) : Yields P (pure a : Act ε σ α) := fun _ => wlp_pure.mpr h

theorem yields_fail (e : ε) : Yields P (fail e : Act ε σ α) := fun _ => wlp_fail.mpr trivial

theorem yields_bind {m : Act ε σ α} {f : α → Act ε σ β} (hf : ∀ a, Yields Q (f a)) : Yields Q (m >>= f) := by
  intro s
  rw [wlp_bind]
  exact ⟨fun a _ => hf a _, fun _ _ => trivial⟩

end Yields

namespace CiTransport

variable {t : CiTransport}

theorem yields_recvParsed (parsed : Tpdu.RTpdu) : Yields (fun recv => recv.isSome = true) (recvParsed parsed) := by
  apply yields_bind
  intro _
  split
  · exact yields_pure rfl
  split
  · apply yields_bind
    intro slot
    split
    · exact yields_bind fun _ => yields_pure rfl
    · apply yields_bind
      intro _
      split
      · exact yields_pure rfl
      · exact yields_bind fun _ => yields_pure rfl
  split
  · exact yields_pure rfl
  · exact yields_pure rfl

theorem yields_recvFrame (frame : Bytes) : Yields (fun recv => recv.isSome = true) (recvFrame frame) := by
  rw [recvFrame]
  split
  · exact yields_fail _
  · apply yields_bind
    intro _
    apply yields_bind
    intro t
    dsimp only
    split
    · refine yields_bind fun _ => yields_bind fun parsed => ?_
      split
      · exact yields_recvParsed _
      · exact yields_pure rfl
      · exact yields_fail _
    · refine yields_bind fun parsed => ?_
      split
      · exact yields_recvParsed _
      · exact yields_fail _
      · exact yields_fail _

theorem recvApdu_none :
    wlp recvApdu (fun recv t' => recv = none → t'.trace = t.trace ++ [.noFrame]) (fun _ _ => True) t := by
  rw [recvApdu, wlp_bind, wlp_attempt, wlp_zoom]
  refine wlp_mono (wlp_self _ _) (fun frame link _ => ?_) fun e link _ => ?_
  · cases frame with
    | none =>
        dsimp only
        rw [wlp_bind, note, wlp_modify, wlp_pure]
        exact fun _ => rfl
    | some frame =>
        refine wlp_mono (yields_recvFrame frame _) (fun recv _ hsome hnone => ?_) fun _ _ _ => trivial
        rw [hnone] at hsome
        cases hsome
  · dsimp only
    rw [wlp_bind, note, wlp_modify, wlp_fail]
    trivial

end CiTransport

namespace CiSession

variable {s : CiSession}

theorem recvFiltered_none (accept : UInt8 → Bool) : wlp (recvFiltered accept)
    (fun slotId s' => slotId = none → s'.transport.trace = s.transport.trace ++ [.noFrame]) (fun _ _ => True) s := by
  have hsome (recv : TransportRecv) : Yields (fun slotId : Option UInt8 => slotId.isSome = true) (do
      dispatchRecv accept recv
      zoom transportLens (CiTransport.flush recv.slotId)
      pure (some recv.slotId)) :=
    yields_bind fun _ => yields_bind fun _ => yields_pure rfl
  rw [recvFiltered, wlp_bind, wlp_zoom]
  refine wlp_mono CiTransport.recvApdu_none (fun recv t ht => ?_) fun _ _ _ => trivial
  cases recv with
  | none => exact wlp_pure.mpr fun _ => ht rfl
  | some recv =>
      refine wlp_mono (hsome recv _) (fun slotId _ hslot hnone => ?_) fun _ _ _ => trivial
      rw [hnone] at hslot
      cases hslot

end CiSession

namespace CiController

variable {heard : Bool} {told : Option Instant} {c c' : CiController} {now : Instant}

theorem recvController_none :
    wlp recvController (fun slotId c' => slotId = none → c'.trace = c.trace ++ [.noFrame]) (fun _ _ => True) c := by
  rw [recvController, wlp_bind, wlp_get, wlp_zoom]
  exact CiSession.recvFiltered_none _

section Extends

def Extends (c c' : CiController) : Prop := c.trace <+: c'.trace ∧ c.events <+: c'.events

theorem Extends.refl (c : CiController) : Extends c c := ⟨List.prefix_refl _, List.prefix_refl _⟩

theorem Extends.trans {c'' : CiController} (h : Extends c c') (h' : Extends c' c'') : Extends c c'' :=
  ⟨h.1.trans h'.1, h.2.trans h'.2⟩

theorem Levels.extends {tried : Bool} {retry : Option Instant} (h : Levels heard tried retry c c') : Extends c c' := by
  obtain ⟨delta, htrace, _⟩ := h.session.trace
  obtain ⟨more, hevents, _⟩ := h.events
  exact ⟨⟨delta, htrace.symm⟩, ⟨more, hevents.symm⟩⟩

theorem Stroke.extends (h : Stroke heard told c c') : Extends c c' := by
  cases h with
  | soft soft => exact (@Soft.fades heard false none _ _ soft).levels.extends
  | recovered recovers =>
      obtain ⟨retry, _, hrearmed⟩ := recovers
      exact hrearmed.levels.extends
  | retried => exact ⟨List.prefix_refl _, List.prefix_append _ _⟩
  | polled _ _ _ _ _ trace =>
      obtain ⟨delta, htrace, _⟩ := trace
      exact ⟨⟨delta, htrace.symm⟩, List.prefix_refl _⟩
  | probed slotId => exact ⟨List.prefix_append _ _, List.prefix_refl _⟩
  | _ => exact .refl _

theorem strokes_extend (hpath : Strokes heard told c c') : Extends c c' :=
  Path.order hpath .refl .trans fun _ _ => Stroke.extends

theorem Span.extends {op : ControllerOp} {events : List CaEvent} (h : Span c op events c') :
    c.trace <+: c'.trace ∧ c.events <+: events ++ c'.events := by
  cases h with
  | @ticked now _ ticks =>
      cases ticks with
      | waited => exact Extends.refl c
      | @driven recoveryAt _ _ strokes =>
          have hticking : Extends c (c.ticking now recoveryAt) := .refl c
          exact hticking.trans (strokes_extend strokes)
  | worked _ _ hands =>
      obtain ⟨c₁, hpath, hevents, hsame⟩ := hands
      rw [hsame, ← hevents]
      exact strokes_extend hpath
  | pushed => exact Extends.refl c
  | cleared clears => exact clears.levels.extends

theorem step_extends {label : ControllerLabel} (h : c.Settled) (hstep : ControllerStep c label c') :
    c.trace <+: c'.trace ∧ c.events <+: deliveredBy label.reply ++ c'.events :=
  (step_span h hstep).extends

end Extends

section Drains

-- The link was read last, and it had no frame.
def Drains (c c' : CiController) : Prop := ∃ seen, c.trace <+: seen ∧ c'.trace = seen ++ [.noFrame]

theorem Drains.head {c'' : CiController} (hpath : Strokes heard told c c') (h : Drains c' c'') : Drains c c'' := by
  obtain ⟨seen, hseen, htrace⟩ := h
  exact ⟨seen, (strokes_extend hpath).1.trans hseen, htrace⟩

theorem drains_pollLoop (fuel : Nat) (c : CiController) :
    wlp (pollLoop fuel) (fun event c' => event = none → Drains c c') (fun _ _ => True) c := by
  induction fuel generalizing c with
  | zero => exact wlp_fault
  | succ fuel ih =>
      rw [pollLoop, wlp_bind, wlp_attempt]
      refine wlp_mono (wlp_and (@strokes_recvController none c) (@recvController_none c)) (fun slotId c₁ h₁ => ?_)
        fun e c₁ _ => ?_
      · cases slotId with
        | none =>
            refine wlp_mono (@hands_popEvent true none c₁) (fun event c₂ h₂ hnone => ?_) fun _ _ _ => trivial
            rw [h₂.2 hnone]
            exact ⟨c.trace, List.prefix_refl _, h₁.2 rfl⟩
        | some slotId =>
            dsimp only
            rw [wlp_bind]
            refine wlp_mono (@strokes_afterRecv true none slotId c₁) (fun _ c₂ h₂ => ?_) fun _ _ _ => trivial
            rw [wlp_bind]
            refine wlp_mono (@hands_popEvent true none c₂) (fun event c₃ h₃ => ?_) fun _ _ _ => trivial
            cases event with
            | none =>
                rw [h₃.2 rfl]
                exact wlp_mono (ih c₂) (fun _ _ h hnone => (h hnone).head (h₁.1.trans h₂)) fun _ _ h => h
            | some event => exact wlp_pure.mpr (by rintro ⟨⟩)
      · exact wlp_mono (@strokes_pollFailed true none c₁ e _) (fun _ _ h => h) fun _ _ _ => trivial

theorem drains_pollEvent :
    wlp pollEvent (fun event c' => event = none → c'.linkSuspended = false → Drains c c') (fun _ _ => True) c := by
  rw [pollEvent, wlp_bind]
  refine wlp_mono (@collectSessionEvents_softly true c) (fun _ c₁ h₁ => ?_) fun _ _ _ => trivial
  have hpath : Strokes true none c c₁ := strokes_of_path h₁
  rw [wlp_bind]
  refine wlp_mono (@hands_popEvent true none c₁) (fun event c₂ h₂ => ?_) fun _ _ _ => trivial
  cases event with
  | some event => exact wlp_pure.mpr (by rintro ⟨⟩)
  | none =>
      rw [h₂.2 rfl]
      dsimp only
      rw [wlp_bind, wlp_get]
      split
      · next hsuspended => exact wlp_pure.mpr fun _ hresumed => absurd (hsuspended.symm.trans hresumed) (by decide)
      · exact wlp_mono (drains_pollLoop _ c₁) (fun _ _ h hnone _ => (h hnone).head hpath) fun _ _ h => h

theorem step_drains {link : CaDevice} (hstep : ControllerStep c ⟨link, .pollEvent, .ok none⟩ c')
    (resumed : c'.linkSuspended = false) : Drains c c' := by
  have hrun : pollEvent (linkLens.set link c) = (.ok none, c') := hstep
  have hdrains := (@drains_pollEvent (linkLens.set link c)).1 none (by rw [hrun]) rfl
  rw [hrun] at hdrains
  exact hdrains resumed

end Drains

end CiController

end LibDvb
