import LibDvb.Ca.Session.Selecting

namespace LibDvb.CiSession

open Relation Act Outcome

variable {A V : UInt8 → Prop} {s s' : CiSession} {slotId : UInt8} {sessionId : UInt16}
  {index : Nat} {session : Session} {kind : ResourceKind}

-- An error that reaches the controller: a write failed for good, or a CA_PMT was too large.
structure Fault (s : CiSession) (e : Error) (trace : List Obs) : Prop where
  write : pending trace = true → e.IsWrite
  fits : s.Fits → pending trace = true

theorem Fault.of_broken {e : Error} {trace : List Obs} (h : Broken True false e trace) :
    Fault s e trace :=
  ⟨fun _ => (broken_outside h).2, fun _ => (broken_outside h).1⟩

theorem Fault.path {e : Error} {trace : List Obs} (h : Fault s' e trace)
    (hpath : Path A V s s') : Fault s e trace :=
  ⟨h.write, fun hfits => h.fits (hfits.path hpath)⟩

structure Serves (A V : UInt8 → Prop) (s : CiSession) (slotId : UInt8) : Prop where
  consistent : s.Consistent
  slot : A slotId
  notice : V slotId
  bound : slotId.toNat < s.transport.slots.length
  whole : pending s.transport.trace = false

theorem Serves.path (h : Serves A V s slotId) (hpath : Path A V s s')
    (hp : pending s'.transport.trace = false) : Serves A V s' slotId where
  consistent := h.consistent.path hpath
  slot := h.slot
  notice := h.notice
  bound := by
    rw [hpath.slots_length]
    exact h.bound
  whole := hp

theorem Serves.canSend (h : Serves A V s slotId) : CanSend A s slotId :=
  ⟨h.slot, h.bound, h.consistent.count, h.consistent.callback, h.whole⟩

theorem pushEvent_along {e : CaEvent} {Q : Unit → CiSession → Prop} {E : Error → CiSession → Prop}
    (plain : e.Plain) (slot : V e.slotId) (h : Q () { s with events := s.events ++ [e] }) :
    Along (Move A V) (pushEvent e) Q E s :=
  along_modify (.event plain slot) h

theorem zoom_sends {m : Act Error CiTransport Unit} (h : Serves A V s slotId)
    (hm : Along (CiTransport.Step (Sends True slotId)) m
      (fun _ t' => True → pending t'.trace = false)
      (fun e t' => Broken True s.transport.callback e t'.trace) s.transport) :
    wp (zoom transportLens m)
      (fun _ s' => ∃ t, ReflTransGen (CiTransport.Step (Sends True slotId)) s.transport t ∧
        pending t.trace = false ∧ s' = { s with transport := t })
      (fun e s' => ∃ t, ReflTransGen (CiTransport.Step (Sends True slotId)) s.transport t ∧
        pending t.trace = true ∧ e.IsWrite ∧ s' = { s with transport := t }) s := by
  refine wp_zoom.mpr (wp_mono hm (fun _ t ht => ?_) (fun e t ht => ?_))
  · exact ⟨t, ht.1, ht.2 trivial, rfl⟩
  · have hbroken := ht.2
    rw [h.consistent.callback] at hbroken
    obtain ⟨hp, hwrite⟩ := broken_outside hbroken
    exact ⟨t, ht.1, hp, hwrite, rfl⟩

theorem zoom_along {α : Type} {m : Act Error CiTransport α} {Q : α → CiSession → Prop}
    {E : Error → CiSession → Prop} (hcb : s.transport.callback = false)
    (hm : Along (QuietStep A V) m (fun a t => Q a { s with transport := t })
      (fun e t => E e { s with transport := t }) s.transport) :
    Along (Move A V) (zoom transportLens m) Q E s := by
  have hpath {t : CiTransport} (h : ReflTransGen (QuietStep A V) s.transport t) :
      Path A V s { s with transport := t } := by
    rw [← on_eq ((CiTransport.path_callback h).trans hcb)]
    exact @path_link _ _ _ s.transport.callback _ hcb h
  exact wp_zoom.mpr (wp_mono hm (fun _ t ht => ⟨hpath ht.1, ht.2⟩) fun _ t ht => ⟨hpath ht.1, ht.2⟩)

theorem sends_along {m : Act Error CiTransport Unit} (h : Serves A V s slotId)
    (hm : Along (CiTransport.Step (Sends True slotId)) m
      (fun _ t' => True → pending t'.trace = false)
      (fun e t' => Broken True s.transport.callback e t'.trace) s.transport) :
    Along (Move A V) (zoom transportLens m)
      (fun _ s' => pending s'.transport.trace = false ∧ s'.sessions = s.sessions)
      (fun e s' => Fault s e s'.transport.trace) s := by
  rw [h.consistent.callback] at hm
  refine zoom_along h.consistent.callback (along_mono (along_weaken hm fun _ _ =>
    CiTransport.Step.mono fun _ _ => quiet_sends h.slot) (fun _ _ hp => ⟨hp trivial, rfl⟩)
      fun _ _ hb => .of_broken hb)

theorem flush_along (h : s.Consistent) (hslot : A slotId ∨ V slotId)
    (hs : slotId.toNat < s.transport.slots.length) (hp : pending s.transport.trace = false) :
    Along (Move A V) (zoom transportLens (CiTransport.flush slotId))
      (fun _ s' => pending s'.transport.trace = false ∧ ∃ t, s' = { s with transport := t })
      (fun e s' => Fault s e s'.transport.trace ∧ pending s'.transport.trace = true ∧
        ∃ t, s' = { s with transport := t }) s := by
  have hm := CiTransport.flush_spec (t := s.transport) hs fun _ : True => hp
  rw [h.callback] at hm
  refine zoom_along h.callback (along_mono (along_weaken hm fun _ _ =>
    CiTransport.Step.mono fun _ _ hw => ?_) (fun _ t hp' => ⟨hp' trivial, t, rfl⟩)
      fun _ t hb => ⟨.of_broken hb, (broken_outside hb).1, t, rfl⟩)
  obtain ⟨⟨frame, result, callback, rfl⟩, hp'⟩ := hw
  exact ⟨hp' trivial, hslot⟩

theorem sendSpdu_along (h : Serves A V s slotId) (spdu : Bytes) :
    Along (Move A V) (sendSpdu slotId spdu)
      (fun _ s' => pending s'.transport.trace = false ∧ s'.sessions = s.sessions)
      (fun e s' => Fault s e s'.transport.trace) s :=
  sends_along h (CiTransport.sendSpdu_spec spdu h.bound h.consistent.count fun _ => h.whole)

section Callback

variable {m : Act Error (ResourceContext ResourceRegistry) Unit}

def Returned (s : CiSession) (result : Except Error Unit) (trace : List Obs) : Prop :=
  match result with
  | .ok _ => pending trace = false
  | .error e => CallbackFault s e trace

theorem runCallback_along (h : Calls A V s kind slotId sessionId m) :
    Along (Move A V) (runCallback slotId sessionId m)
      (fun r s' => s'.sessions = s.sessions ∧ (r.2 = true → kind = .mmi) ∧
        Returned s r.1 s'.transport.trace) (fun _ _ => False) s := by
  refine wp_runCallback.mpr (wp_mono h (fun _ ctx hctx => ?_) (fun e ctx hctx => ?_))
  · exact ⟨hctx.1.path, rfl, hctx.1.close, hctx.2⟩
  · exact ⟨hctx.1.path, rfl, hctx.1.close, hctx.2⟩

theorem resourceResult_along {result : Except Error Unit}
    (h : Returned s' result s.transport.trace) (hV : V slotId) :
    Along (Move A V) (resourceResult slotId result)
      (fun _ s₁ => s₁.sessions = s.sessions ∧ pending s₁.transport.trace = false)
      (fun e s₁ => Fault s' e s₁.transport.trace) s := by
  unfold resourceResult
  split
  · exact along_pure ⟨rfl, h⟩
  · next context =>
      have hfault : CallbackFault s' (.invalidData context) s.transport.trace := h
      exact pushEvent_along trivial hV ⟨rfl, hfault.data ⟨context, rfl⟩⟩
  · next e hdata =>
      have hfault : CallbackFault s' e s.transport.trace := h
      refine along_fail ⟨hfault.write, fun hfits => hfault.fits hfits ?_⟩
      rintro ⟨context, rfl⟩
      exact hdata context rfl

end Callback

section Table

theorem wp_allocSession {Q : Option UInt16 → CiSession → Prop} {E : Error → CiSession → Prop} :
    wp (allocSession slotId kind.resourceId) Q E s ↔
      (maxSlotSessions ≤ s.inUse slotId → Q none s) ∧
        (s.inUse slotId < maxSlotSessions →
          Q (some (sessionIdOf s.freshIndex)) (s.allocated slotId kind)) := by
  rw [allocSession, wp_bind, wp_get]
  by_cases hfull : s.inUse slotId ≥ maxSlotSessions
  · simp only [if_pos hfull, wp_pure]
    exact ⟨fun h => ⟨fun _ => h, fun hlt => absurd hfull (Nat.not_le.mpr hlt)⟩,
      fun h => h.1 hfull⟩
  · have hlt := Nat.not_le.mp hfull
    have hstate : wp (do
        let index := s.sessions.findIdx Option.isNone
        if index = s.sessions.length then
          modify fun s => { s with sessions := s.sessions ++ [none] }
        modify (putSession index
          (some { slotId, resourceId := kind.resourceId, state := .active }))
        pure (some (sessionIdOf index))) Q E s ↔
          Q (some (sessionIdOf s.freshIndex)) (s.allocated slotId kind) := by
      have hplace : (if s.freshIndex = s.sessions.length then s.sessions ++ [none]
          else s.sessions).set s.freshIndex
            (some { slotId, resourceId := kind.resourceId, state := .active }) =
          (s.allocated slotId kind).sessions := rfl
      dsimp only
      split
      · next hlast =>
          rw [if_pos (show s.freshIndex = s.sessions.length from hlast)] at hplace
          simp only [wp_bind, wp_modify, wp_pure, putSession]
          rw [show s.sessions.findIdx Option.isNone = s.freshIndex from rfl, hplace]
          rfl
      · next hlast =>
          rw [if_neg (show ¬ s.freshIndex = s.sessions.length from hlast)] at hplace
          simp only [wp_bind, wp_modify, wp_pure, putSession]
          rw [show s.sessions.findIdx Option.isNone = s.freshIndex from rfl, hplace]
          rfl
    rw [if_neg hfull, hstate]
    exact ⟨fun h => ⟨fun hle => absurd hle hfull, fun _ => h⟩, fun h => h.2 hlt⟩

theorem wp_freeSession (h : s.Consistent) (live : s.entry index = some session)
    {Q : Unit → CiSession → Prop} {E : Error → CiSession → Prop} :
    wp (freeSession (sessionIdOf index)) Q E s ↔ Q () (s.freed index session) := by
  have hindex := h.index_lt live
  obtain ⟨kind, hlookup, _⟩ := lookup_live h live
  have hnat : (sessionIdOf index).toNat - 1 = index := by
    rw [toNat_sessionIdOf hindex]
    rfl
  simp only [freeSession, wp_bind, wp_get, session_sessionIdOf s hindex, live, hlookup, wp_modify,
    pushEvent, putSession, freed, hnat]

theorem freeSession_along (h : s.Consistent) (hV : V session.slotId)
    (live : s.entry index = some session) :
    Along (Move A V) (freeSession (sessionIdOf index))
      (fun _ s' => s' = s.freed index session) (fun _ _ => False) s :=
  (wp_freeSession h live).mpr ⟨.single (.closed live hV), rfl⟩

end Table

section Dispatch

theorem refuse_along (h : Serves A V s slotId) (resourceId responseResourceId : ResourceId)
    {status : UInt8} (hstatus : status ≠ Spdu.ssOk) :
    Along (Move A V) (do
        sendSpdu slotId (Spdu.buildOpenSessionResponse status responseResourceId 0)
        if status ≠ Spdu.ssOk then
          pushEvent (.sessionRefused slotId resourceId status)
        else do
          note (.opened slotId 0)
          pushEvent (.sessionOpened slotId 0 responseResourceId)
          let kind ← lift (expect (ResourceKind.lookup responseResourceId))
          let (result, _) ← runCallback slotId 0 (ResourceRegistry.onOpen kind)
          resourceResult slotId result)
      (fun _ s' => pending s'.transport.trace = false)
      (fun e s' => Fault s e s'.transport.trace) s := by
  refine along_bind (sendSpdu_along h _) fun _ s' hpath hs' => ?_
  rw [if_pos hstatus]
  exact pushEvent_along trivial h.notice hs'.1

theorem accept_along (h : Serves A V s slotId) (resourceId : ResourceId) (kind : ResourceKind)
    (hcount : s.inUse slotId < maxSlotSessions) :
    wp (do
        sendSpdu slotId
          (Spdu.buildOpenSessionResponse Spdu.ssOk kind.resourceId (sessionIdOf s.freshIndex))
        if Spdu.ssOk ≠ Spdu.ssOk then
          pushEvent (.sessionRefused slotId resourceId Spdu.ssOk)
        else do
          note (.opened slotId (sessionIdOf s.freshIndex))
          pushEvent (.sessionOpened slotId (sessionIdOf s.freshIndex) kind.resourceId)
          let opened ← lift (expect (ResourceKind.lookup kind.resourceId))
          let (result, _) ← runCallback slotId (sessionIdOf s.freshIndex)
            (ResourceRegistry.onOpen opened)
          resourceResult slotId result)
      (fun _ s' => Path A V s s' ∧ pending s'.transport.trace = false)
      (fun e s' => Path A V s s' ∧ Fault s e s'.transport.trace) (s.allocated slotId kind) := by
  have hc : (s.allocated slotId kind).Consistent := h.consistent.allocated h.bound hcount
  have hserves : Serves A V (s.allocated slotId kind) slotId :=
    ⟨hc, h.slot, h.notice, h.bound, h.whole⟩
  rw [wp_bind]
  refine wp_mono (zoom_sends hserves (CiTransport.sendSpdu_spec _ h.bound h.consistent.count
    fun _ => h.whole)) (fun _ s' hs' => ?_) (fun e s' hs' => ?_)
  · obtain ⟨t, hpath, hp, rfl⟩ := hs'
    have hlength := CiTransport.path_length hpath
    have hcb := (CiTransport.path_callback hpath).trans h.consistent.callback
    have hmove : Move A V s (s.opened slotId kind t) := .opened h.slot h.notice h.bound hcount hpath hp
    rw [if_neg (fun hne => hne rfl)]
    simp only [note, pushEvent, wp_bind, wp_zoom, CiTransport.note, wp_modify, wp_lift, sat_expect]
    refine ⟨kind, ResourceKind.lookup_resourceId kind, ?_⟩
    have hwhole : pending (t.trace ++ [.opened slotId (sessionIdOf s.freshIndex)]) = false := by
      simp [hp, Obs.fatal]
    have hsend : CanSend A
        { s.allocated slotId kind with
          transport := { t with trace := t.trace ++ [.opened slotId (sessionIdOf s.freshIndex)] }
          events := s.events ++
            [.sessionOpened slotId (sessionIdOf s.freshIndex) kind.resourceId] } slotId :=
      { slot := h.slot
        bound := by
          show slotId.toNat < t.slots.length
          rw [hlength]
          exact h.bound
        count := by
          show t.slots.length ≤ 255
          rw [hlength]
          exact h.consistent.count
        callback := hcb
        whole := hwhole }
    have hopen := @onOpen_spec _ V _ _ (sessionIdOf s.freshIndex) hsend kind
    refine wp_runCallback.mpr (wp_mono hopen (fun _ ctx hctx => ?_) (fun e ctx hctx => ?_))
    · have hfirst : Path A V s (CiSession.after _ ctx) := .head hmove hctx.1
      exact ⟨hfirst, hctx.2⟩
    · have hfirst : Path A V s (CiSession.after _ ctx) := .head hmove hctx.1
      refine wp_mono (@resourceResult_along A V _ _ _ (.error e) hctx.2 h.notice)
        (fun _ s₁ hs₁ => ⟨hfirst.trans hs₁.1, hs₁.2.2⟩)
        (fun e' s₁ hs₁ => ⟨hfirst.trans hs₁.1, hs₁.2.write, hs₁.2.fits⟩)
  · obtain ⟨t, hpath, hp, hwrite, rfl⟩ := hs'
    have hcb := (CiTransport.path_callback hpath).trans h.consistent.callback
    have hmove : Move A V s ((s.allocated slotId kind).on t) :=
      .openFailed h.slot h.bound hcount hpath hp
    rw [on_eq hcb] at hmove
    exact ⟨.single hmove, fun _ => hwrite, fun _ => hp⟩

theorem openSession_along (h : Serves A V s slotId) (resourceId : ResourceId) :
    Along (Move A V) (openSession slotId resourceId)
      (fun _ s' => pending s'.transport.trace = false)
      (fun e s' => Fault s e s'.transport.trace) s := by
  unfold openSession
  cases hlookup : ResourceKind.lookup resourceId with
  | none => exact refuse_along h resourceId _ (by decide)
  | some kind =>
      simp only [Option.map_some, Option.getD_some]
      split
      · exact refuse_along h resourceId _ (by decide)
      · rw [Along, wp_bind, wp_allocSession]
        refine ⟨fun _ => refuse_along h resourceId _ (by decide), fun hcount => ?_⟩
        exact accept_along h resourceId kind hcount

theorem requestClose_along (h : Serves A V s session.slotId) (live : s.entry index = some session)
    (mmi : session.resourceId = .mmi) :
    Along (Move A V) (requestClose session.slotId (sessionIdOf index))
      (fun _ s' => pending s'.transport.trace = false)
      (fun e s' => Fault s e s'.transport.trace) s := by
  have hindex := h.consistent.index_lt live
  have hnat : (sessionIdOf index).toNat - 1 = index := by
    rw [toNat_sessionIdOf hindex]
    rfl
  refine along_get_bind ?_
  rw [session_sessionIdOf s hindex, live]
  dsimp only
  split
  · have hmove : Move A V s (s.turned index session .closing) := .turned .closing live mmi h.notice
    refine along_bind (Q := fun _ s' => s' = s.turned index session .closing)
      (along_modify ?_ ?_) fun _ s' hpath hs' => ?_
    · rw [hnat]
      exact hmove
    · rw [hnat]
      rfl
    · subst hs'
      have hserves := h.path hpath h.whole
      exact along_mono (sendSpdu_along hserves _) (fun _ _ hq => hq.1)
        fun _ _ hfault => hfault.path hpath
  · exact along_pure h.whole

theorem dispatchItems_along (h : Serves A V s session.slotId) (live : s.entry index = some session)
    (hkind : session.resourceId = kind.resourceId) :
    ∀ (fuel : Nat) (data : Bytes) (close : Bool), data.length < fuel →
      (close = true → kind = .mmi) →
      Along (Move A V) (dispatchItems session.slotId (sessionIdOf index) kind fuel data close)
        (fun close s' => (close = true → kind = .mmi) ∧ s'.sessions = s.sessions ∧
          pending s'.transport.trace = false)
        (fun e s' => Fault s e s'.transport.trace) s := by
  intro fuel
  induction fuel generalizing s with
  | zero => exact fun data _ hlen => absurd hlen (Nat.not_lt_zero _)
  | succ fuel ih =>
      intro data close hlen hclose
      have hnext := Apdu.next_sat data
      rw [dispatchItems]
      cases hdata : Apdu.next data with
      | panic => exact absurd (hdata ▸ hnext) sat_panic
      | err e =>
          rw [hdata] at hnext
          exact hnext.elim
      | ok result =>
          rw [hdata] at hnext
          refine along_ok_bind rfl ?_
          cases result with
          | none => exact along_pure ⟨hclose, rfl, h.whole⟩
          | some entry =>
              obtain ⟨item, rest⟩ := entry
              obtain ⟨hrest, herror⟩ := hnext item rest rfl
              cases item with
              | error e =>
                  obtain ⟨context, rfl⟩ := herror e rfl
                  refine along_bind (Q := fun _ s' => s'.sessions = s.sessions ∧
                    pending s'.transport.trace = false)
                    (pushEvent_along trivial h.notice ⟨rfl, h.whole⟩) fun _ s' _ hs' => ?_
                  exact along_pure ⟨hclose, hs'⟩
              | ok item =>
                  refine along_bind (along_mono (runCallback_along (onApdu_spec h.consistent
                    h.canSend h.notice live hkind)) (fun _ _ hq => hq) fun _ _ hf => hf.elim)
                    fun r s' hpath hr => ?_
                  obtain ⟨hsessions, hmmi, hreturned⟩ := hr
                  refine along_bind (along_mono (resourceResult_along hreturned h.notice)
                    (fun _ _ hq => hq) fun _ _ hf => hf) fun _ s₁ hpath₁ hs₁ => ?_
                  have hpath' := hpath.trans hpath₁
                  have hsame : s₁.sessions = s.sessions := hs₁.1.trans hsessions
                  have hlive : s₁.entry index = some session := by
                    rw [entry, hsame]
                    exact live
                  refine along_mono (ih (h.path hpath' hs₁.2) hlive rest (close || r.2) (by omega)
                    fun hor => ?_) (fun close' s₂ hq => ?_) fun e s₂ hf => hf.path hpath'
                  · rcases Bool.or_eq_true_iff.mp hor with hc | hr
                    · exact hclose hc
                    · exact hmmi hr
                  · exact ⟨hq.1, hq.2.1.trans hsame, hq.2.2⟩

theorem malformed_along (h : Serves A V s slotId) (context : String) :
    Along (Move A V) (pushEvent (.malformed slotId context))
      (fun _ s' => pending s'.transport.trace = false)
      (fun e s' => Fault s e s'.transport.trace) s :=
  pushEvent_along trivial h.notice h.whole

theorem dispatchApdu_along (h : Serves A V s slotId) (sessionId : UInt16) (data : Bytes) :
    Along (Move A V) (dispatchApdu slotId sessionId data)
      (fun _ s' => pending s'.transport.trace = false)
      (fun e s' => Fault s e s'.transport.trace) s := by
  refine along_get_bind ?_
  split
  · next session hsession =>
      obtain ⟨index, _, hindex, rfl, live⟩ := session_eq_some hsession
      split
      · next hslot =>
          subst hslot
          obtain ⟨kind, hlookup, hkind⟩ := lookup_live h.consistent live
          refine along_ok_bind (a := kind) (by rw [hlookup]; rfl) ?_
          refine along_bind (dispatchItems_along h live hkind _ data false
            (Nat.lt_succ_self _) nofun) fun close s' hpath hs' => ?_
          obtain ⟨hmmi, hsame, hp⟩ := hs'
          split
          · next hclose =>
              have hlive : s'.entry index = some session := by
                rw [entry, hsame]
                exact live
              have hresource : session.resourceId = .mmi := by
                rw [hkind, hmmi hclose]
                rfl
              exact along_mono (requestClose_along (h.path hpath hp) hlive hresource)
                (fun _ _ hq => hq) fun _ _ hf => hf.path hpath
          · exact along_pure hp
      · exact malformed_along h _
  · exact malformed_along h _

theorem closeSession_along (h : Serves A V s slotId) (sessionId : UInt16) :
    Along (Move A V) (closeSession slotId sessionId)
      (fun _ s' => pending s'.transport.trace = false)
      (fun e s' => Fault s e s'.transport.trace) s := by
  refine along_get_bind ?_
  dsimp only
  refine along_bind (sendSpdu_along h _) fun _ s' hpath hs' => ?_
  obtain ⟨hp, hsame⟩ := hs'
  have h' := h.path hpath hp
  cases hsession : s.session sessionId with
  | none => exact along_mono (malformed_along h' _) (fun _ _ hq => hq) fun _ _ hf => hf.path hpath
  | some session =>
      obtain ⟨index, _, hindex, rfl, live⟩ := session_eq_some hsession
      have hlive : s'.entry index = some session := by
        rw [entry, hsame]
        exact live
      dsimp only
      split
      · next hslot =>
          have hslot := of_decide_eq_true hslot
          subst hslot
          refine along_mono (freeSession_along h'.consistent h.notice hlive)
            (fun _ s₁ hs₁ => ?_) fun _ _ hf => hf.elim
          rw [hs₁]
          exact hp
      · exact along_mono (malformed_along h' _) (fun _ _ hq => hq) fun _ _ hf => hf.path hpath

theorem closeSessionComplete_along (h : Serves A V s slotId) (sessionId : UInt16) (status : UInt8) :
    Along (Move A V) (closeSessionComplete slotId sessionId status)
      (fun _ s' => pending s'.transport.trace = false)
      (fun e s' => Fault s e s'.transport.trace) s := by
  refine along_get_bind ?_
  split
  · next session hsession =>
      obtain ⟨index, hsub, hindex, rfl, live⟩ := session_eq_some hsession
      split
      · next hclosing =>
          obtain ⟨rfl, hstate⟩ := hclosing
          split
          · refine along_mono (freeSession_along h.consistent h.notice live) (fun _ s₁ hs₁ => ?_)
              fun _ _ hf => hf.elim
            rw [hs₁]
            exact h.whole
          · have hmmi := (h.consistent.live index session live).2.2 hstate
            refine along_ok_bind (subU16_sessionIdOf hindex) ?_
            refine along_bind (Q := fun _ s' => s' = s.turned index session .active)
              (along_modify ?_ ?_) fun _ s' hpath hs' => ?_
            · rw [toNat_pred hindex]
              exact .turned .active live hmmi h.notice
            · rw [toNat_pred hindex]
              rfl
            · subst hs'
              exact along_mono (malformed_along (h.path hpath h.whole) _) (fun _ _ hq => hq)
                fun _ _ hf => hf.path hpath
      · exact malformed_along h _
  · exact malformed_along h _

theorem dispatchSpdu_along (h : Serves A V s slotId) (data : Bytes) :
    Along (Move A V) (dispatchSpdu slotId data)
      (fun _ s' => pending s'.transport.trace = false)
      (fun e s' => Fault s e s'.transport.trace) s := by
  have hparse := Spdu.parse_sat data
  unfold dispatchSpdu
  cases hdata : Spdu.parse data with
  | panic => exact absurd (hdata ▸ hparse) sat_panic
  | err e =>
      rw [hdata] at hparse
      obtain ⟨context, rfl⟩ := hparse
      exact along_ok_bind rfl (malformed_along h _)
  | ok spdu =>
      refine along_ok_bind rfl ?_
      cases spdu with
      | sessionNumber sessionId apdu => exact dispatchApdu_along h sessionId apdu
      | openSessionRequest resourceId => exact openSession_along h resourceId
      | closeSessionRequest sessionId => exact closeSession_along h sessionId
      | closeSessionResponse status sessionId => exact closeSessionComplete_along h sessionId status
      | createSessionResponse => exact malformed_along h _

end Dispatch

section Receive

structure Received (V : UInt8 → Prop) (s : CiSession) (recv : TransportRecv) (s' : CiSession) :
    Prop where
  frame : ∃ frame, s'.transport.trace = s.transport.trace ++ [.read frame] ∧
    received frame s.transport.slots = some recv
  bound : recv.slotId.toNat < s.transport.slots.length
  notice : V recv.slotId
  reads : s'.transport.link.reads.length < s.transport.link.reads.length
  whole : pending s'.transport.trace = false

def Unreadable (s : CiSession) : Prop :=
  ∃ result ∈ s.transport.link.reads,
    ∀ slotId, result.first = some slotId → s.transport.slots.length ≤ slotId.toNat

theorem recvApdu_along (h : s.Consistent) (hp : pending s.transport.trace = false)
    (hV : ∀ result, s.transport.link.reads.head? = some result →
      ∀ slotId, result.first = some slotId → V slotId) :
    Along (Move A V) (zoom transportLens CiTransport.recvApdu)
      (fun recv s' => (recv = none ∧ pending s'.transport.trace = false ∧
          ∃ t, s' = { s with transport := t }) ∨ ∃ r, recv = some r ∧ Received V s r s')
      (fun _ s' => pending s'.transport.trace = false ∧ s.Unreadable ∧
        ∃ t, s' = { s with transport := t }) s := by
  have hquiet {frame : Bytes} {t t' : CiTransport} (htakes : CiTransport.Takes s.transport frame t')
      (hmove : CiTransport.Move (.read frame) s.transport t) :
      ReflTransGen (QuietStep A V) s.transport t := by
    obtain ⟨result, hmem, hfirst⟩ := htakes.first
    refine .single ⟨.read frame, fun slotId hslot => ?_, hmove⟩
    exact hV result hmem slotId (hfirst.trans hslot)
  have hsettled {obs : Obs} {t : CiTransport} (hmove : CiTransport.Move obs s.transport t)
      (hobs : obs.settles = false ∧ obs.fatal = false) : pending t.trace = false := by
    rw [hmove.trace]
    simp [hp, hobs]
  refine zoom_along h.callback (wp_mono (CiTransport.recvApdu_spec h.count) (fun recv t ht => ?_)
    (fun e t ht => ?_))
  · rcases ht with ⟨rfl, hmove⟩ | ⟨frame, r, htakes, hmove, rfl, hreceived, hhead, hbound⟩
    · exact ⟨.single ⟨.noFrame, trivial, hmove⟩,
        .inl ⟨rfl, hsettled hmove ⟨rfl, rfl⟩, t, rfl⟩⟩
    · obtain ⟨result, hmem, hfirst⟩ := htakes.first
      refine ⟨hquiet htakes hmove, .inr ⟨r, rfl, ⟨frame, hmove.trace, hreceived⟩, hbound,
        hV result hmem _ (hfirst.trans hhead), ?_, hsettled hmove ⟨rfl, rfl⟩⟩⟩
      obtain ⟨_, raw, hreads, _⟩ := htakes
      simp [hreads]
  · rcases ht with ⟨hmove, _, result, hmem, hnone⟩ | ⟨frame, htakes, hmove, hlarge⟩
    · refine ⟨.single ⟨.readFailed e, trivial, hmove⟩, hsettled hmove ⟨rfl, rfl⟩,
        ⟨result, hmem, ?_⟩, t, rfl⟩
      intro slotId hslot
      rw [hnone] at hslot
      cases hslot
    · obtain ⟨result, hmem, hfirst⟩ := htakes.first
      refine ⟨hquiet htakes hmove, hsettled hmove ⟨rfl, rfl⟩,
        ⟨result, List.mem_of_head? hmem, fun slotId hslot => ?_⟩, t, rfl⟩
      exact hlarge slotId (hfirst.symm.trans hslot)

theorem dispatchRecv_along {accept : UInt8 → Bool} {recv : TransportRecv} (h : s.Consistent)
    (hA : ∀ slotId, accept slotId = true → V slotId → A slotId) (hrecv : Received V s recv s')
    (hpath : Path A V s s') :
    Along (Move A V) (dispatchRecv accept recv)
      (fun _ s₁ => pending s₁.transport.trace = false)
      (fun e s₁ => Fault s e s₁.transport.trace ∧ ∃ slotId, accept slotId = true) s' := by
  have h' := h.path hpath
  have hbound : recv.slotId.toNat < s'.transport.slots.length := by
    rw [hpath.slots_length]
    exact hrecv.bound
  unfold dispatchRecv
  split
  · next slotId => exact pushEvent_along trivial hrecv.notice hrecv.whole
  · next slotId spdu =>
      split
      · next haccept =>
          have hallowed : (Obs.dispatched slotId spdu).Allowed s'.transport.slots
              s'.transport.trace := by
            obtain ⟨frame, htrace, hreceived⟩ := hrecv.frame
            refine ⟨s.transport.trace, frame, htrace, ?_⟩
            rw [hpath.slots_length, ← h.faithful.slots]
            exact hreceived
          have hslot := hA slotId haccept hrecv.notice
          have hnote : Along (Move A V)
              (note (.dispatched slotId spdu))
              (fun _ s₁ => pending s₁.transport.trace = false) (fun _ _ => False) s' := by
            refine zoom_along h'.callback (along_modify ?_ ?_)
            · exact ⟨.dispatched slotId spdu, hslot, CiTransport.move_note _ hallowed rfl⟩
            · simp [hrecv.whole, Obs.fatal]
          refine along_bind (along_mono hnote (fun _ _ hq => hq) fun _ _ hf => hf.elim)
            fun _ s₁ hpath₁ hp₁ => ?_
          have hserves : Serves A V s' slotId :=
            ⟨h', hslot, hrecv.notice, hbound, hrecv.whole⟩
          exact along_mono (dispatchSpdu_along (hserves.path hpath₁ hp₁) spdu) (fun _ _ hq => hq)
            fun _ _ hf => ⟨hf.path (hpath.trans hpath₁), slotId, haccept⟩
      · exact pushEvent_along trivial hrecv.notice hrecv.whole
  · exact along_pure hrecv.whole
  · next slotId context => exact pushEvent_along trivial hrecv.notice hrecv.whole

theorem reads_move (hm : Move A V s s') :
    s'.transport.link.reads <:+ s.transport.link.reads := by
  cases hm with
  | link move quiet => exact move.reads
  | opened slot notice bound count path whole =>
      have hreads := CiTransport.path_reads path
      exact hreads
  | openFailed slot bound count path broken =>
      have hreads := CiTransport.path_reads path
      exact hreads
  | caInfo known slot notice path whole =>
      have hreads := CiTransport.path_reads path.path
      exact hreads
  | caInfoFailed known slot path broken =>
      have hreads := CiTransport.path_reads path.path
      exact hreads
  | _ => exact List.suffix_rfl

theorem reads_path (hpath : Path A V s s') :
    s'.transport.link.reads <:+ s.transport.link.reads :=
  LibDvb.Path.order (r := fun a b : CiSession =>
    b.transport.link.reads <:+ a.transport.link.reads) hpath (fun _ => List.suffix_rfl)
    (fun hab hbc => hbc.trans hab) fun _ _ => reads_move

theorem recvFiltered_along {accept : UInt8 → Bool} (h : s.Consistent)
    (hp : pending s.transport.trace = false)
    (hA : ∀ slotId, accept slotId = true → V slotId → A slotId)
    (hV : ∀ result, s.transport.link.reads.head? = some result →
      ∀ slotId, result.first = some slotId → V slotId) :
    Along (Move A V) (recvFiltered accept)
      (fun recv s' => pending s'.transport.trace = false ∧
        (recv = none → s'.events = s.events) ∧ ∀ slotId, recv = some slotId →
          slotId.toNat < s.transport.slots.length ∧ V slotId ∧
            s'.transport.link.reads.length < s.transport.link.reads.length)
      (fun e s' => (pending s'.transport.trace = true → e.IsWrite) ∧
        (s.Fits → pending s'.transport.trace = true ∨ s.Unreadable) ∧
        (s'.events = s.events ∨ pending s'.transport.trace = true ∨
          ∃ slotId, accept slotId = true)) s := by
  refine along_bind (along_mono (recvApdu_along h hp hV) (fun _ _ hq => hq)
    fun e s' hq => ?_) fun recv s₁ hpath₁ hrecv => ?_
  · obtain ⟨hp', hunreadable, t, rfl⟩ := hq
    refine ⟨fun hbroken => ?_, fun _ => .inr hunreadable, .inl rfl⟩
    rw [hp'] at hbroken
    cases hbroken
  · rcases hrecv with ⟨rfl, hp₁, t, rfl⟩ | ⟨r, rfl, hreceived⟩
    · exact along_pure ⟨hp₁, fun _ => rfl, nofun⟩
    · refine along_bind (along_mono (dispatchRecv_along h hA hreceived hpath₁) (fun _ _ hq => hq)
        fun e s₂ hf => ⟨hf.1.write, fun hfits => .inl (hf.1.fits hfits), .inr (.inr hf.2)⟩)
          fun _ s₂ hpath₂ hp₂ => ?_
      have hpath : Path A V s s₂ := hpath₁.trans hpath₂
      have h₂ := h.path hpath
      refine along_bind (along_mono (@flush_along _ _ _ r.slotId h₂ (.inr hreceived.notice) ?_ hp₂)
        (fun _ _ hq => hq) fun e s₃ hf => ?_) fun _ s₃ hpath₃ hs₃ => ?_
      · rw [hpath.slots_length]
        exact hreceived.bound
      · exact ⟨hf.1.write, fun hfits => .inl ((hf.1.path hpath).fits hfits), .inr (.inl hf.2.1)⟩
      · refine along_pure ⟨hs₃.1, nofun, fun slotId hslot => ?_⟩
        rw [Option.some.injEq] at hslot
        subst hslot
        exact ⟨hreceived.bound, hreceived.notice,
          ((reads_path (hpath₂.trans hpath₃)).length_le).trans_lt hreceived.reads⟩

end Receive

section Tick

theorem sendDateTime_quiet {t : CiTransport} (hs : slotId.toNat < t.slots.length)
    (hn : t.slots.length ≤ 255) (hA : A slotId) (hp : pending t.trace = false) :
    Along (QuietStep A V) (do
        let body ← DateTimeResource.nowBody
        CiTransport.sendApdu slotId sessionId .dateTime body)
      (fun _ t' => pending t'.trace = false) (fun e t' => Broken True t.callback e t'.trace) t := by
  refine wp_bind.mpr (wp_mono (nowBody_spec t) (fun body t' hbody => ?_) fun _ _ hf => hf.elim)
  obtain ⟨hlength, link, hlink, rfl⟩ := hbody
  refine wp_mono (sendApdu_quiet hlink hs hn hA hp (by decide)) (fun _ _ ht => ht)
    (fun e t' ht => ⟨ht.1, ?_⟩)
  rcases ht.2 with hbroken | ⟨hlong, _⟩
  · exact hbroken
  · omega

def Ticked (A V : UInt8 → Prop) (s : CiSession) (timer : DateTimeResource.Timer) : Prop :=
  Path A V s (timerLens.set timer s) ∧ pending timer.transport.trace = false

theorem putSent_spec {timer : DateTimeResource.Timer} {record : DateTimeSession}
    (h : Ticked A V s timer) (known : timer.self.sessions[sessionId]? = some record)
    (slot : A record.slotId) (now : Instant) {E : Error → DateTimeResource.Timer → Prop} :
    wp (DateTimeResource.putSent sessionId record now) (fun _ => Ticked A V s) E timer := by
  refine ⟨h.1.tail ?_, h.2⟩
  exact .dateTime (s := timerLens.set timer s) (dateTime_keys _ known rfl) (dateTime_others known slot)

theorem tickSession_spec {timer : DateTimeResource.Timer} (h : s.Consistent) (hw : s.Within A)
    (ht : Ticked A V s timer) (now : Instant) :
    wp (DateTimeResource.tickSession now sessionId) (fun _ => Ticked A V s)
      (fun e timer' => Path A V s (timerLens.set timer' s) ∧ e.IsWrite) timer := by
  obtain ⟨hpath, hp⟩ := ht
  have h' := h.path hpath
  rw [DateTimeResource.tickSession, wp_bind, wp_get]
  split
  · exact ⟨hpath, hp⟩
  · next record hrecord =>
      have hslot : (timerLens.set timer s).resources.recordSlot sessionId .dateTime =
          some record.slotId := congrArg (Option.map DateTimeSession.slotId) hrecord
      have hA : A record.slotId := (hw.path hpath).record h' hslot
      have hbound : record.slotId.toNat < timer.transport.slots.length := h'.record_live hslot
      split
      · exact ⟨hpath, hp⟩
      split
      · exact putSent_spec ⟨hpath, hp⟩ hrecord hA now
      split
      · exact ⟨hpath, hp⟩
      · rw [wp_bind, wp_zoom]
        have hcb : timer.transport.callback = false := h'.callback
        have hlink {t : CiTransport} (hquiet : ReflTransGen (QuietStep A V) timer.transport t) :
            Path A V s (timerLens.set { timer with transport := t } s) := by
          have hlinked : Path A V (timerLens.set timer s) ((timerLens.set timer s).on t) :=
            @path_link _ _ _ timer.transport.callback _ hcb hquiet
          rw [on_eq ((CiTransport.path_callback hquiet).trans hcb)] at hlinked
          exact hpath.trans hlinked
        refine wp_mono (sendDateTime_quiet (V := V) hbound h'.count hA hp) (fun _ t hquiet => ?_)
          (fun e t hquiet => ?_)
        · have hticked : Ticked A V s { timer with transport := t } := ⟨hlink hquiet.1, hquiet.2⟩
          exact putSent_spec hticked hrecord hA now
        · have hbroken : Broken True timer.transport.callback e t.trace := hquiet.2
          rw [hcb] at hbroken
          exact ⟨hlink hquiet.1, (broken_outside hbroken).2⟩

theorem tickAt_along (h : s.Consistent) (hw : s.Within A) (hp : pending s.transport.trace = false)
    (now : Instant) :
    Along (Move A V) (tickAt now)
      (fun _ s' => pending s'.transport.trace = false ∧ s'.events = s.events)
      (fun e _ => e.IsWrite) s := by
  rw [Along, tickAt, wp_zoom, DateTimeResource.onTick, wp_bind, wp_get]
  refine wp_mono (wp_forEach_invariant (I := Ticked A V s)
    (fun sessionId _ timer ht => tickSession_spec h hw ht now) ⟨.refl, hp⟩)
      (fun _ _ ht => ⟨ht.1, ht.2, rfl⟩) (fun _ _ ht => ht)

end Tick

section Drop

structure Dropped (slotId : UInt8) (s s' : CiSession) : Prop where
  slots : s'.transport.slots = modifyAt slotId (fun _ => {}) s.transport.slots
  trace : s'.transport.trace = s.transport.trace ++ [.cleared slotId]
  kept : ∀ index session, s'.entry index = some session →
    s.entry index = some session ∧ session.slotId ≠ slotId

-- One turn of the loop of `drop_slot`.
def dropAt (slotId : UInt8) (index : Nat) : Act Error CiSession Unit := do
  match ((← get).sessions[index]?).join with
  | some session => if session.slotId = slotId then freeSession (sessionIdOf index) else pure ()
  | none => pure ()

theorem dropSlot_along (h : s.Consistent) (hV : V slotId)
    (hs : slotId.toNat < s.transport.slots.length) :
    Along (Move A V) (dropSlot slotId) (fun _ => Dropped slotId s) (fun _ _ => False) s := by
  refine along_bind (Q := fun _ s' => s'.transport.slots =
      modifyAt slotId (fun _ => {}) s.transport.slots ∧
        s'.transport.trace = s.transport.trace ++ [.cleared slotId] ∧ s'.sessions = s.sessions)
    (zoom_along h.callback (wp_mono (CiTransport.clearSlot_spec hs) (fun _ t ht => ?_)
      fun _ _ hf => hf.elim)) fun _ s₁ hpath₁ hs₁ => ?_
  · exact ⟨.single ⟨.cleared slotId, hV, ht.1⟩, ht.1.slots, ht.1.trace, rfl⟩
  obtain ⟨hslots, htrace, hsessions⟩ := hs₁
  have h₁ := h.path hpath₁
  refine along_get_bind ?_
  have hloop := @along_forEach _ _ _ (Move A V) (fun _ _ => False) (List.range s₁.sessions.length) (dropAt slotId)
    (fun rest s' => s'.Consistent ∧ s'.transport = s₁.transport ∧ ∀ index session,
      s'.entry index = some session →
        s₁.entry index = some session ∧ (session.slotId = slotId → index ∈ rest)) ?_ s₁ ?_
  · refine along_mono hloop (fun _ s' hs' => ?_) fun _ _ hf => hf
    obtain ⟨_, htransport, hkept⟩ := hs'
    refine ⟨by rw [htransport, hslots], by rw [htransport, htrace], fun index session hlive => ?_⟩
    obtain ⟨hold, hnone⟩ := hkept index session hlive
    refine ⟨?_, fun heq => absurd (hnone heq) List.not_mem_nil⟩
    rw [entry, ← hsessions]
    exact hold
  · rintro index rest s' _ ⟨hc, htransport, hkept⟩
    have hentry : ((s'.sessions[index]?).join) = s'.entry index := rfl
    refine along_get_bind ?_
    rw [hentry]
    cases hlive : s'.entry index with
    | none =>
        refine along_pure ⟨hc, htransport, fun other session hother => ?_⟩
        obtain ⟨hold, hmem⟩ := hkept other session hother
        refine ⟨hold, fun heq => (List.mem_cons.mp (hmem heq)).resolve_left ?_⟩
        rintro rfl
        rw [hlive] at hother
        cases hother
    | some session =>
        dsimp only
        split
        · next hslot =>
            refine along_mono (freeSession_along hc (by rwa [hslot]) hlive) (fun _ s₂ hs₂ => ?_)
              fun _ _ hf => hf
            subst hs₂
            refine ⟨hc.freed hlive, htransport, fun other session' hother => ?_⟩
            rw [entry_freed hlive] at hother
            split at hother
            · cases hother
            · next hne =>
                obtain ⟨hold, hmem⟩ := hkept other session' hother
                exact ⟨hold, fun heq => (List.mem_cons.mp (hmem heq)).resolve_left
                  fun he => hne he.symm⟩
        · next hslot =>
            refine along_pure ⟨hc, htransport, fun other session' hother => ?_⟩
            obtain ⟨hold, hmem⟩ := hkept other session' hother
            refine ⟨hold, fun heq => (List.mem_cons.mp (hmem heq)).resolve_left ?_⟩
            rintro rfl
            rw [hlive, Option.some.injEq] at hother
            subst hother
            exact hslot heq
  · exact ⟨h₁, rfl, fun index session hlive =>
      ⟨hlive, fun _ => List.mem_range.mpr (Table.lt_of_entry hlive)⟩⟩

end Drop

section Command

theorem command_along (h : Serves A V s slotId) (sessionId : UInt16) {tag : ApduTag}
    (htag : tag ≠ .caPmt) (body : Bytes) :
    Along (Move A V) (sendApdu slotId sessionId tag body)
      (fun _ s' => pending s'.transport.trace = false ∧ s'.events = s.events)
      (fun e s' => (pending s'.transport.trace = true → e.IsWrite) ∧ s'.events = s.events) s := by
  refine zoom_along h.consistent.callback (wp_mono (sendApdu_quiet (t := s.transport) rfl h.bound
    h.consistent.count h.slot h.whole htag) (fun _ _ ht => ⟨ht.1, ht.2, rfl⟩)
      fun e t ht => ⟨ht.1, fun hp => ?_, rfl⟩)
  rcases ht.2 with hbroken | ⟨_, hwhole, _⟩
  · rw [h.consistent.callback] at hbroken
    exact (broken_outside hbroken).2
  · exact absurd (hwhole.symm.trans hp) (by decide)

theorem fail_along {α : Type} (h : Serves A V s slotId) (e : Error)
    {Q : α → CiSession → Prop} : Along (Move A V) (fail e : Act Error CiSession α) Q
      (fun e s' => (pending s'.transport.trace = true → e.IsWrite) ∧ s'.events = s.events) s := by
  refine along_fail ⟨fun hp => ?_, rfl⟩
  rw [h.whole] at hp
  cases hp

theorem requireSession_along (h : Serves A V s slotId) (sessionId : UInt16)
    (resourceId : ResourceId) {m : Act Error CiSession Unit}
    (hm : Along (Move A V) m (fun _ s' => pending s'.transport.trace = false ∧ s'.events = s.events)
      (fun e s' => (pending s'.transport.trace = true → e.IsWrite) ∧ s'.events = s.events) s) :
    Along (Move A V) (requireSession slotId sessionId resourceId >>= fun _ => m)
      (fun _ s' => pending s'.transport.trace = false ∧ s'.events = s.events)
      (fun e s' => (pending s'.transport.trace = true → e.IsWrite) ∧ s'.events = s.events) s := by
  refine along_bind (Q := fun _ s' => s' = s) ?_ ?_
  · refine along_get_bind ?_
    split
    · exact along_pure rfl
    · exact fail_along h _
  · rintro _ _ _ rfl
    exact hm

theorem findSession_along (h : Serves A V s slotId) (resourceId : ResourceId)
    {m : UInt16 → Act Error CiSession Unit}
    (hm : ∀ sessionId, Along (Move A V) (m sessionId)
      (fun _ s' => pending s'.transport.trace = false ∧ s'.events = s.events)
      (fun e s' => (pending s'.transport.trace = true → e.IsWrite) ∧ s'.events = s.events) s) :
    Along (Move A V) (findSession slotId resourceId >>= m)
      (fun _ s' => pending s'.transport.trace = false ∧ s'.events = s.events)
      (fun e s' => (pending s'.transport.trace = true → e.IsWrite) ∧ s'.events = s.events) s := by
  refine along_bind (Q := fun _ s' => s' = s) ?_ ?_
  · refine along_get_bind ?_
    split
    · exact along_pure rfl
    · exact fail_along h _
  · rintro sessionId _ _ rfl
    exact hm sessionId

theorem enterMenu_along (h : Serves A V s slotId) :
    Along (Move A V) (enterMenu slotId) (fun _ s' => pending s'.transport.trace = false ∧ s'.events = s.events)
      (fun e s' => (pending s'.transport.trace = true → e.IsWrite) ∧ s'.events = s.events) s := by
  refine along_get_bind ?_
  dsimp only
  split
  · exact command_along h _ (by decide) _
  · exact findSession_along h _ fun sessionId => command_along h sessionId (by decide) _

theorem mmiMenuAnswer_along (h : Serves A V s slotId) (sessionId : UInt16) (choice : UInt8) :
    Along (Move A V) (mmiMenuAnswer slotId sessionId choice)
      (fun _ s' => pending s'.transport.trace = false ∧ s'.events = s.events)
      (fun e s' => (pending s'.transport.trace = true → e.IsWrite) ∧ s'.events = s.events) s :=
  requireSession_along h _ _ (command_along h _ (by decide) _)

theorem mmiAnswer_along (h : Serves A V s slotId) (sessionId : UInt16) (answer : Option Bytes) :
    Along (Move A V) (mmiAnswer slotId sessionId answer)
      (fun _ s' => pending s'.transport.trace = false ∧ s'.events = s.events)
      (fun e s' => (pending s'.transport.trace = true → e.IsWrite) ∧ s'.events = s.events) s :=
  requireSession_along h _ _ (command_along h _ (by decide) _)

theorem mmiClose_along (h : Serves A V s slotId) (sessionId : UInt16) :
    Along (Move A V) (mmiClose slotId sessionId)
      (fun _ s' => pending s'.transport.trace = false ∧ s'.events = s.events)
      (fun e s' => (pending s'.transport.trace = true → e.IsWrite) ∧ s'.events = s.events) s :=
  requireSession_along h _ _ (command_along h _ (by decide) _)

theorem askRelease_along (h : Serves A V s slotId) :
    Along (Move A V) (askRelease slotId) (fun _ s' => pending s'.transport.trace = false ∧ s'.events = s.events)
      (fun e s' => (pending s'.transport.trace = true → e.IsWrite) ∧ s'.events = s.events) s :=
  findSession_along h _ fun sessionId => command_along h sessionId (by decide) _

end Command

end LibDvb.CiSession
