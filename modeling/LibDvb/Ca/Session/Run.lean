import LibDvb.Ca.Session.Spec

namespace LibDvb

open Relation Act Outcome

-- A call of the session layer, or one of the calls its owner makes on the transport below it.
inductive SessionOp where
  | recv (accept : UInt8 → Bool)
  | tickAt (now : Instant)
  | dropSlot (slotId : UInt8)
  | nextEvent
  | setProgram (program : Program)
  | removeProgram (programNumber : UInt16)
  | enterMenu (slotId : UInt8)
  | mmiMenuAnswer (slotId : UInt8) (sessionId : UInt16) (choice : UInt8)
  | mmiAnswer (slotId : UInt8) (sessionId : UInt16) (answer : Option Bytes)
  | mmiClose (slotId : UInt8) (sessionId : UInt16)
  | askRelease (slotId : UInt8)
  | sendTpdu (slotId : UInt8) (tag : TpduTag)
  | flush (slotId : UInt8)
  | takeDataPending (slotId : UInt8)

def SessionOp.run : SessionOp → Act Error CiSession Unit
  | recv accept => (fun _ => ()) <$> CiSession.recvFiltered accept
  | tickAt now => CiSession.tickAt now
  | dropSlot slotId => CiSession.dropSlot slotId
  | nextEvent => (fun _ => ()) <$> CiSession.nextEvent
  | setProgram program => (fun _ => ()) <$> CiSession.setProgram program
  | removeProgram programNumber => (fun _ => ()) <$> CiSession.removeProgram programNumber
  | enterMenu slotId => CiSession.enterMenu slotId
  | mmiMenuAnswer slotId sessionId choice => CiSession.mmiMenuAnswer slotId sessionId choice
  | mmiAnswer slotId sessionId answer => CiSession.mmiAnswer slotId sessionId answer
  | mmiClose slotId sessionId => CiSession.mmiClose slotId sessionId
  | askRelease slotId => CiSession.askRelease slotId
  | sendTpdu slotId tag => zoom CiSession.transportLens (CiTransport.sendTpdu slotId tag [])
  | flush slotId => zoom CiSession.transportLens (CiTransport.flush slotId)
  | takeDataPending slotId =>
      (fun _ => ()) <$> zoom CiSession.transportLens (CiTransport.takeDataPending slotId)

structure SessionLabel where
  link : CaDevice
  op : SessionOp
  reply : Except Error Unit

def CiSession.called (link : CaDevice) (s : CiSession) : CiSession :=
  { s with transport := { s.transport with link, trace := s.transport.trace ++ [.called] } }

def SessionStep (s : CiSession) (label : SessionLabel) (s' : CiSession) : Prop :=
  label.op.run (s.called label.link) = (Outcome.ofExcept label.reply, s')

def SessionRun (slotsNum : UInt8) (labels : List SessionLabel) (s : CiSession) : Prop :=
  ∃ link, Run SessionStep (CiSession.new (CiTransport.new link slotsNum)) labels s

def SessionOp.next (s : CiSession) (call : CaDevice × SessionOp) : Option (SessionLabel × CiSession) :=
  match call.2.run (s.called call.1) with
  | (.ok reply, s') => some (⟨call.1, call.2, .ok reply⟩, s')
  | (.err e, s') => some (⟨call.1, call.2, .error e⟩, s')
  | (.panic, _) => none

theorem SessionOp.next_step {s s' : CiSession} {call : CaDevice × SessionOp} {label : SessionLabel}
    (h : SessionOp.next s call = some (label, s')) : SessionStep s label s' := by
  unfold SessionOp.next at h
  split at h
  · next hrun =>
      cases h
      exact hrun
  · next hrun =>
      cases h
      exact hrun
  · cases h

theorem SessionOp.next_pair {s : CiSession} {call : CaDevice × SessionOp} {r : SessionLabel × CiSession}
    (h : SessionOp.next s call = some r) : SessionStep s r.1 r.2 := next_step h

theorem SessionOp.next_call {s s' : CiSession} {call : CaDevice × SessionOp} {label : SessionLabel}
    (h : SessionOp.next s call = some (label, s')) : label.link = call.1 ∧ label.op = call.2 := by
  unfold SessionOp.next at h
  split at h
  · cases h
    exact ⟨rfl, rfl⟩
  · cases h
    exact ⟨rfl, rfl⟩
  · cases h

def SessionOp.trail (slotsNum : UInt8) (calls : List (CaDevice × SessionOp)) :
    Option (List SessionLabel × CiSession) :=
  LibDvb.trail SessionOp.next (CiSession.new (CiTransport.new {} slotsNum)) calls

theorem SessionRun.of_trail {slotsNum : UInt8} {calls : List (CaDevice × SessionOp)}
    (h : (SessionOp.trail slotsNum calls).isSome) :
    SessionRun slotsNum ((SessionOp.trail slotsNum calls).get h).1
      ((SessionOp.trail slotsNum calls).get h).2 :=
  ⟨{}, trail_run SessionStep (fun _ _ _ _ => SessionOp.next_step) (Option.some_get h).symm⟩

namespace CiSession

variable {s : CiSession} {slotId : UInt8}

inductive Evolves (s : CiSession) : CiSession → Prop
  | moved {s' : CiSession} (path : Path (fun _ => True) (fun _ => True) s s') : Evolves s s'
  | programmed {change : CaPmtChange} {s' : CiSession} (programmed : Programmed s change s') : Evolves s s'
  | linked {t : CiTransport} (path : ReflTransGen AnyStep s.transport t) : Evolves s { s with transport := t }
  | popped (events : List CaEvent) : Evolves s { s with events }

theorem Consistent.called (h : s.Consistent) (link : CaDevice) : (s.called link).Consistent where
  faithful := ⟨h.faithful.count, h.faithful.move (CiTransport.move_note .called trivial rfl) |>.slots,
    h.faithful.move (CiTransport.move_note .called trivial rfl) |>.lawful⟩
  callback := h.callback
  size := h.size
  perSlot := h.perSlot
  live := h.live
  records := h.records
  fragments := h.fragments
  manager := h.manager
  programs := h.programs
  selections := h.selections

theorem pending_called (s : CiSession) (link : CaDevice) :
    pending (s.called link).transport.trace = false := by
  simp [CiSession.called, Obs.settles]

theorem on_transport_eq {t : CiTransport} (hpath : ReflTransGen AnyStep s.transport t)
    (h : s.Consistent) : s.on t = { s with transport := t } :=
  on_eq ((CiTransport.path_callback hpath).trans h.callback)

theorem Consistent.linked (h : s.Consistent) {t : CiTransport}
    (hpath : ReflTransGen AnyStep s.transport t) : Consistent { s with transport := t } := by
  rw [← on_transport_eq hpath h]
  exact h.on (h.faithful.path hpath) (CiTransport.path_length hpath)

theorem Programmed.slots_length {s s' : CiSession} {change : CaPmtChange} (h : Programmed s change s') :
    s'.transport.slots.length = s.transport.slots.length := by
  cases h with
  | idle same => rfl
  | done records path acts whole =>
      have hlength := CiTransport.path_length path
      exact hlength
  | failed records path broken =>
      have hlength := CiTransport.path_length path
      exact hlength

theorem Consistent.evolves {s s' : CiSession} (h : s.Consistent) (he : Evolves s s') :
    s'.Consistent ∧ s'.transport.slots.length = s.transport.slots.length := by
  cases he with
  | moved path => exact ⟨h.path path, path.slots_length⟩
  | programmed programmed => exact ⟨h.programmed programmed, programmed.slots_length⟩
  | linked path => exact ⟨h.linked path, CiTransport.path_length path⟩
  | popped events =>
      exact ⟨h.update (fun _ _ => rfl) h.fragments rfl h.programs h.selections events, rfl⟩

section Calls

variable {α : Type} {sessionId : UInt16} {resourceId : ResourceId}

def Relinks (m : Act Error CiSession α) (s : CiSession) : Prop :=
  wp m (fun _ => Evolves s) (fun _ => Evolves s) s

theorem evolves_self (s : CiSession) : Evolves s s := .moved .refl

theorem relinks_zoom {m : Act Error CiTransport α}
    (h : Along AnyStep m (fun _ _ => True) (fun _ _ => True) s.transport) :
    Relinks (zoom transportLens m) s :=
  wp_zoom.mpr (wp_mono h (fun _ _ ht => .linked ht.1) fun _ _ ht => .linked ht.1)

theorem relinks_sendApdu (h : s.Consistent) (tag : ApduTag) (body : Bytes) :
    Relinks (sendApdu slotId sessionId tag body) s :=
  relinks_zoom (LibDvb.sendApdu_along sessionId tag body h.count)

theorem relinks_requireSession {m : Act Error CiSession Unit} (hm : Relinks m s) :
    Relinks (requireSession slotId sessionId resourceId >>= fun _ => m) s := by
  rw [Relinks, requireSession, wp_bind, wp_bind, wp_get]
  split
  · exact hm
  · exact evolves_self s

theorem relinks_findSession {m : UInt16 → Act Error CiSession Unit} (hm : ∀ sessionId, Relinks (m sessionId) s) :
    Relinks (findSession slotId resourceId >>= m) s := by
  rw [Relinks, findSession, wp_bind, wp_bind, wp_get]
  split
  · exact hm _
  · exact evolves_self s

theorem relinks_enterMenu (h : s.Consistent) : Relinks (enterMenu slotId) s := by
  rw [Relinks, enterMenu, wp_bind, wp_get]
  dsimp only
  split
  · exact relinks_sendApdu h _ _
  · exact relinks_findSession fun sessionId => relinks_sendApdu h _ _

theorem dropSlot_invalid (h : s.Consistent) (hs : ¬ slotId.toNat < s.transport.slots.length) :
    wp (dropSlot slotId) (fun _ s' => s' = s) (fun _ _ => False) s := by
  have hnone : s.transport.slots[slotId.toNat]? = none := List.getElem?_eq_none (Nat.not_lt.mp hs)
  have hclear : wp (zoom transportLens (CiTransport.clearSlot slotId)) (fun _ s' => s' = s)
      (fun _ _ => False) s := by
    simp only [wp_zoom, CiTransport.clearSlot, wp_bind, wp_get, transportLens, hnone, wp_pure]
  rw [dropSlot, wp_bind]
  refine wp_mono hclear (fun _ s' hs' => ?_) fun _ _ hf => hf
  subst hs'
  rw [wp_bind, wp_get]
  refine wp_forEach_invariant (I := fun s₁ => s₁ = s') ?_ rfl
  intro index _ s₁ hs₁
  subst hs₁
  rw [wp_bind, wp_get]
  cases hlive : (s₁.sessions[index]?).join with
  | none => exact rfl
  | some session =>
      have hslot : session.slotId ≠ slotId := by
        rintro rfl
        exact hs (h.live index session hlive).1
      dsimp only
      rw [if_neg hslot]
      exact rfl

end Calls

end CiSession

open CiSession

theorem SessionOp.evolves {s : CiSession} (h : s.Consistent) (hp : pending s.transport.trace = false)
    (op : SessionOp) : wp op.run (fun _ => Evolves s) (fun _ => Evolves s) s := by
  have hmoved {α : Type} {m : Act Error CiSession α} {Q : α → CiSession → Prop}
      {E : Error → CiSession → Prop} (hm : Along (Move (fun _ => True) (fun _ => True)) m Q E s) :
      wp m (fun _ => Evolves s) (fun _ => Evolves s) s :=
    wp_mono hm (fun _ _ hs => .moved hs.1) fun _ _ hs => .moved hs.1
  cases op with
  | recv accept =>
      exact wp_map.mpr (hmoved (recvFiltered_along h hp (fun _ _ _ => trivial) fun _ _ _ _ => trivial))
  | tickAt now => exact hmoved (tickAt_along h (fun _ _ _ => trivial) hp now)
  | dropSlot slotId =>
      by_cases hs : slotId.toNat < s.transport.slots.length
      · exact hmoved (dropSlot_along h trivial hs)
      · refine wp_mono (dropSlot_invalid h hs) (fun _ s' hs' => ?_) fun _ _ hf => hf.elim
        rw [hs']
        exact evolves_self s
  | nextEvent =>
      refine wp_map.mpr ?_
      rw [CiSession.nextEvent, wp_bind, wp_get]
      split
      · exact evolves_self s
      · exact .popped _
  | setProgram program =>
      exact wp_map.mpr (wp_mono (setProgram_spec h hp program) (fun _ _ hs => .programmed hs.1)
        fun _ _ hs => .programmed hs.programmed)
  | removeProgram programNumber =>
      exact wp_map.mpr (wp_mono (removeProgram_spec h hp programNumber) (fun _ _ hs => .programmed hs.1)
        fun _ _ hs => .programmed hs.programmed)
  | enterMenu slotId => exact relinks_enterMenu h
  | mmiMenuAnswer slotId sessionId choice => exact relinks_requireSession (relinks_sendApdu h _ _)
  | mmiAnswer slotId sessionId answer => exact relinks_requireSession (relinks_sendApdu h _ _)
  | mmiClose slotId sessionId => exact relinks_requireSession (relinks_sendApdu h _ _)
  | askRelease slotId => exact relinks_findSession fun sessionId => relinks_sendApdu h _ _
  | sendTpdu slotId tag => exact relinks_zoom (LibDvb.sendTpdu_along tag [])
  | flush slotId => exact relinks_zoom LibDvb.flush_along
  | takeDataPending slotId => exact wp_map.mpr (relinks_zoom takeDataPending_along)

theorem SessionStep.evolves {s s' : CiSession} {label : SessionLabel} (h : s.Consistent)
    (hstep : SessionStep s label s') : Evolves (s.called label.link) s' := by
  have hafter := wp_after (SessionOp.evolves (h.called label.link) (pending_called s label.link) label.op)
  rw [SessionStep] at hstep
  rwa [hstep] at hafter

theorem SessionStep.consistent {s s' : CiSession} {label : SessionLabel} (h : s.Consistent)
    (hstep : SessionStep s label s') : s'.Consistent :=
  ((h.called label.link).evolves (hstep.evolves h)).1

theorem SessionRun.consistent {slotsNum : UInt8} {labels : List SessionLabel} {s : CiSession}
    (h : SessionRun slotsNum labels s) :
    s.Consistent ∧ s.transport.slots.length = slotsNum.toNat := by
  obtain ⟨link, hrun⟩ := h
  refine Run.invariant (I := fun s : CiSession =>
    s.Consistent ∧ s.transport.slots.length = slotsNum.toNat) hrun
      ⟨consistent_new link slotsNum, List.length_replicate⟩ fun s label s' hs hstep => ?_
  obtain ⟨hc, hlength⟩ := hs
  obtain ⟨hc', hlength'⟩ := (hc.called label.link).evolves (hstep.evolves hc)
  exact ⟨hc', hlength'.trans hlength⟩

def moduleFrame (slotId : UInt8) (spdu : Bytes) : Bytes :=
  [slotId, slotId + 1, 0xA0, UInt8.ofNat spdu.length + 1, slotId + 1] ++ spdu ++ [0x80, 2, slotId + 1, 0]

def framed (slotId : UInt8) (spdu : Bytes) : CaDevice × SessionOp :=
  ({ reads := [.frame (moduleFrame slotId spdu)] }, .recv fun _ => true)

end LibDvb
