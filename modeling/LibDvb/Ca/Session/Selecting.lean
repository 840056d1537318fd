import LibDvb.Ca.Session.Callback

namespace LibDvb

open Relation Act Outcome

def PmtFault (callback : Bool) (programs : List (UInt16 × Program)) (e : Error)
    (trace : List Obs) : Prop :=
  Broken True callback e trace ∨
    (pending trace = false ∧
      ∃ programNumber program, (programNumber, program) ∈ programs ∧ ¬ program.Fits)

theorem PmtFault.mono {callback : Bool} {programs programs' : List (UInt16 × Program)} {e : Error}
    {trace : List Obs} (h : PmtFault callback programs e trace) (hsub : programs ⊆ programs') :
    PmtFault callback programs' e trace := by
  rcases h with hbroken | ⟨hp, programNumber, program, hmem, hfits⟩
  · exact .inl hbroken
  · exact .inr ⟨hp, programNumber, program, hsub hmem, hfits⟩

theorem not_fits_of_build {program : Program} {caids : List UInt16} {lm : CaPmtListManagement}
    {command : CaPmtCommand} {e : Error} (h : program.buildCaPmt caids lm command = .error e) :
    ¬ program.Fits := by
  intro hfits
  obtain ⟨body, hbody, _⟩ := buildCaPmt_fits hfits caids lm command
  rw [h] at hbody
  cases hbody

theorem not_fits_of_long {program : Program} {caids : List UInt16} {lm : CaPmtListManagement}
    {command : CaPmtCommand} {body : Bytes}
    (h : program.buildCaPmt caids lm command = .ok (some body)) (hlong : 65535 < body.length) :
    ¬ program.Fits := by
  intro hfits
  obtain ⟨built, hbuilt, hle⟩ := buildCaPmt_fits hfits caids lm command
  rw [h, Except.ok.injEq] at hbuilt
  subst hbuilt
  exact absurd (hle body rfl) (Nat.not_le.mpr hlong)

section Context

variable {R : Type} {ctx : ResourceContext R} {body : Bytes}

theorem contextSend_pmt (hs : ctx.slotId.toNat < ctx.transport.slots.length)
    (hn : ctx.transport.slots.length ≤ 255) (hp : pending ctx.transport.trace = false)
    (hcb : ctx.transport.callback = true) :
    wp (ResourceContext.sendApdu .caPmt body)
      (fun _ ctx' => ∃ t, ctx' = { ctx with transport := t } ∧
        PmtPath ctx.slotId ctx.sessionId [body] ctx.transport t ∧ pending t.trace = false)
      (fun e ctx' => ∃ t, ctx' = { ctx with transport := t } ∧
        PmtPath ctx.slotId ctx.sessionId [body] ctx.transport t ∧
          (Broken True true e t.trace ∨ (65535 < body.length ∧ pending t.trace = false ∧
            ∃ context, e = .invalidProperty context))) ctx := by
  rw [ResourceContext.sendApdu, wp_bind, wp_get, wp_zoom]
  refine wp_mono (sendApdu_pmt hs hn hp) (fun _ t h => ⟨t, rfl, h.1, h.2.2⟩)
    (fun e t h => ⟨t, rfl, h.1, ?_⟩)
  show Broken True true e t.trace ∨ _
  have hbroken : Broken True ctx.transport.callback e t.trace ∨ _ := h.2
  rw [hcb] at hbroken
  exact hbroken

end Context

namespace ConditionalAccessResource

variable {ctx : ResourceContext ConditionalAccessResource}

def Handed (ctx : ResourceContext ConditionalAccessResource) (bodies : List Bytes)
    (ctx' : ResourceContext ConditionalAccessResource) : Prop :=
  ∃ t, ctx' = { ctx with transport := t } ∧
    PmtPath ctx.slotId ctx.sessionId bodies ctx.transport t

theorem selectPrograms_spec (caids : List UInt16) (programs : List (UInt16 × Program)) :
    ∀ (selected : KeyMap Program) (ctx : ResourceContext ConditionalAccessResource),
      ctx.slotId.toNat < ctx.transport.slots.length → ctx.transport.slots.length ≤ 255 →
      pending ctx.transport.trace = false → ctx.transport.callback = true →
      wp (selectPrograms caids selected programs)
        (fun result ctx' => Handed ctx (selectPlan caids selected programs).1 ctx' ∧
          pending ctx'.transport.trace = false ∧ result = (selectPlan caids selected programs).2)
        (fun e ctx' => ∃ bodies, Handed ctx bodies ctx' ∧
          PmtFault true programs e ctx'.transport.trace) ctx := by
  induction programs with
  | nil => exact fun selected ctx _ _ hp _ => ⟨⟨ctx.transport, rfl, .refl⟩, hp, rfl⟩
  | cons entry rest ih =>
      obtain ⟨programNumber, program⟩ := entry
      intro selected ctx hs hn hp hcb
      have hrest : rest ⊆ (programNumber, program) :: rest := List.subset_cons_self ..
      simp only [selectPrograms, wp_bind, wp_lift]
      cases hbuild : program.buildCaPmt caids (if selected.isEmpty then .only else .add)
          .okDescrambling with
      | error e =>
          exact ⟨[], ⟨ctx.transport, rfl, .refl⟩, .inr ⟨hp, programNumber, program,
            List.mem_cons_self .., not_fits_of_build hbuild⟩⟩
      | ok built =>
          cases built with
          | none =>
              simp only [ofExcept_ok, sat_ok, selectPlan, hbuild]
              refine wp_mono (ih selected ctx hs hn hp hcb) (fun _ _ h => h) (fun e ctx' h => ?_)
              obtain ⟨bodies, hhanded, hfault⟩ := h
              exact ⟨bodies, hhanded, hfault.mono hrest⟩
          | some body =>
              simp only [ofExcept_ok, sat_ok, selectPlan, hbuild, wp_bind]
              refine wp_mono (contextSend_pmt hs hn hp hcb) (fun _ ctx' h => ?_) (fun e ctx' h => ?_)
              · obtain ⟨t, rfl, hpath, hp'⟩ := h
                have hlength := CiTransport.path_length hpath.path
                have hcb' := CiTransport.path_callback hpath.path
                refine wp_mono (ih (selected.insert programNumber program) _ (by rwa [hlength])
                  (by rwa [hlength]) hp' (hcb'.trans hcb)) (fun result ctx' h => ?_)
                  (fun e ctx' h => ?_)
                · obtain ⟨⟨t', rfl, hpath'⟩, hp', hresult⟩ := h
                  exact ⟨⟨t', rfl, hpath.trans hpath'⟩, hp', hresult⟩
                · obtain ⟨bodies, ⟨t', rfl, hpath'⟩, hfault⟩ := h
                  exact ⟨_, ⟨t', rfl, hpath.trans hpath'⟩, hfault.mono hrest⟩
              · obtain ⟨t, rfl, hpath, hbroken | ⟨hlong, hp', context, rfl⟩⟩ := h
                · exact ⟨_, ⟨t, rfl, hpath⟩, .inl hbroken⟩
                · exact ⟨_, ⟨t, rfl, hpath⟩, .inr ⟨hp', programNumber, program,
                    List.mem_cons_self .., not_fits_of_long hbuild hlong⟩⟩

theorem withdrawPrograms_spec (caids : List UInt16) (programs : List (UInt16 × Program)) :
    ∀ ctx : ResourceContext ConditionalAccessResource,
      ctx.slotId.toNat < ctx.transport.slots.length → ctx.transport.slots.length ≤ 255 →
      pending ctx.transport.trace = false → ctx.transport.callback = true →
      wp (withdrawPrograms caids programs)
        (fun _ ctx' => Handed ctx (withdrawPlan caids programs) ctx' ∧
          pending ctx'.transport.trace = false)
        (fun e ctx' => ∃ bodies, Handed ctx bodies ctx' ∧
          PmtFault true programs e ctx'.transport.trace) ctx := by
  induction programs with
  | nil => exact fun ctx _ _ hp _ => ⟨⟨ctx.transport, rfl, .refl⟩, hp⟩
  | cons entry rest ih =>
      obtain ⟨programNumber, program⟩ := entry
      intro ctx hs hn hp hcb
      have hrest : rest ⊆ (programNumber, program) :: rest := List.subset_cons_self ..
      simp only [withdrawPrograms, wp_bind, wp_lift]
      cases hbuild : program.buildCaPmt caids .update .notSelected with
      | error e =>
          exact ⟨[], ⟨ctx.transport, rfl, .refl⟩, .inr ⟨hp, programNumber, program,
            List.mem_cons_self .., not_fits_of_build hbuild⟩⟩
      | ok built =>
          cases built with
          | none =>
              have hplan : withdrawPlan caids ((programNumber, program) :: rest) =
                  withdrawPlan caids rest := by
                simp only [withdrawPlan, List.filterMap_cons, hbuild]
              rw [hplan]
              simp only [ofExcept_ok, sat_ok]
              refine wp_mono (ih ctx hs hn hp hcb) (fun _ _ h => h) (fun e ctx' h => ?_)
              obtain ⟨bodies, hhanded, hfault⟩ := h
              exact ⟨bodies, hhanded, hfault.mono hrest⟩
          | some body =>
              have hplan : withdrawPlan caids ((programNumber, program) :: rest) =
                  body :: withdrawPlan caids rest := by
                simp only [withdrawPlan, List.filterMap_cons, hbuild]
              rw [hplan]
              simp only [ofExcept_ok, sat_ok, wp_bind]
              refine wp_mono (contextSend_pmt hs hn hp hcb) (fun _ ctx' h => ?_) (fun e ctx' h => ?_)
              · obtain ⟨t, rfl, hpath, hp'⟩ := h
                have hlength := CiTransport.path_length hpath.path
                have hcb' := CiTransport.path_callback hpath.path
                refine wp_mono (ih _ (by rwa [hlength]) (by rwa [hlength]) hp' (hcb'.trans hcb))
                  (fun _ ctx' h => ?_) (fun e ctx' h => ?_)
                · obtain ⟨⟨t', rfl, hpath'⟩, hp'⟩ := h
                  exact ⟨⟨t', rfl, hpath.trans hpath'⟩, hp'⟩
                · obtain ⟨bodies, ⟨t', rfl, hpath'⟩, hfault⟩ := h
                  exact ⟨_, ⟨t', rfl, hpath.trans hpath'⟩, hfault.mono hrest⟩
              · obtain ⟨t, rfl, hpath, hbroken | ⟨hlong, hp', context, rfl⟩⟩ := h
                · exact ⟨_, ⟨t, rfl, hpath⟩, .inl hbroken⟩
                · exact ⟨_, ⟨t, rfl, hpath⟩, .inr ⟨hp', programNumber, program,
                    List.mem_cons_self .., not_fits_of_long hbuild hlong⟩⟩

def put (ctx : ResourceContext ConditionalAccessResource) (session : ConditionalAccessSession)
    (t : CiTransport) : ResourceContext ConditionalAccessResource :=
  { ctx with
    self := { ctx.self with sessions := ctx.self.sessions.insert ctx.sessionId session }
    transport := t }

theorem put_put (ctx : ResourceContext ConditionalAccessResource)
    (session session' : ConditionalAccessSession) (t t' : CiTransport) :
    put (put ctx session t) session' t' = put ctx session' t' := by
  simp only [put, KeyMap.insert_insert]

theorem wp_putSession {session : ConditionalAccessSession}
    {Q : Unit → ResourceContext ConditionalAccessResource → Prop}
    {E : Error → ResourceContext ConditionalAccessResource → Prop} :
    wp (putSession session) Q E ctx ↔ Q () (put ctx session ctx.transport) := Iff.rfl

theorem synchronizeSession_spec (session : ConditionalAccessSession) (caids : List UInt16)
    (hs : ctx.slotId.toNat < ctx.transport.slots.length) (hn : ctx.transport.slots.length ≤ 255)
    (hp : pending ctx.transport.trace = false) (hcb : ctx.transport.callback = true) :
    wp (synchronizeSession session caids)
      (fun _ ctx' => ∃ t, PmtPath ctx.slotId ctx.sessionId
          (infoPlan ctx.self.programs session caids).1 ctx.transport t ∧ pending t.trace = false ∧
        ctx' = put ctx
          { session with
            caids := some caids
            selected := (infoPlan ctx.self.programs session caids).2 } t)
      (fun e ctx' => ∃ t bodies programs, PmtPath ctx.slotId ctx.sessionId bodies ctx.transport t ∧
        PmtFault true programs e t.trace ∧
        (programs = ctx.self.programs.toList ∨ programs = session.selected.toList) ∧
        ctx' = put ctx { session with caids := some caids, selected := ∅ } t) ctx := by
  simp only [synchronizeSession, wp_bind, wp_get, wp_putSession]
  refine wp_mono (selectPrograms_spec caids _ ∅ _ hs hn hp hcb) (fun selected ctx' h => ?_)
    (fun e ctx' h => ?_)
  · obtain ⟨⟨t, rfl, hpath⟩, hp', rfl⟩ := h
    have hlength := CiTransport.path_length hpath.path
    have hcb' := CiTransport.path_callback hpath.path
    simp only [infoPlan]
    split
    · cases hcaids : session.caids with
      | none => exact ⟨t, hpath, hp', put_put ..⟩
      | some oldCaids =>
          dsimp only
          rw [wp_bind]
          refine wp_mono (withdrawPrograms_spec oldCaids _ _ (by rwa [hlength])
            (by rwa [hlength]) hp' (hcb'.trans hcb)) (fun _ ctx' h => ?_) (fun e ctx' h => ?_)
          · obtain ⟨⟨t', rfl, hpath'⟩, hp''⟩ := h
            exact ⟨t', hpath.trans hpath', hp'', put_put ..⟩
          · obtain ⟨bodies, ⟨t', rfl, hpath'⟩, hfault⟩ := h
            exact ⟨t', _, _, hpath.trans hpath', hfault, .inr rfl, rfl⟩
    · exact ⟨t, hpath, hp', put_put ..⟩
  · obtain ⟨bodies, ⟨t, rfl, hpath⟩, hfault⟩ := h
    exact ⟨t, _, _, hpath, hfault, .inl rfl, rfl⟩

section Change

variable {u : Update} {sessionId : UInt16} {session : ConditionalAccessSession}
  {change : CaPmtChange}

structure Update.Sends (u : Update) (sessionId : UInt16) (session : ConditionalAccessSession) :
    Prop where
  known : u.self.sessions[sessionId]? = some session
  sane : session.Sane
  bound : session.slotId.toNat < u.transport.slots.length
  count : u.transport.slots.length ≤ 255
  callback : u.transport.callback = false
  whole : pending u.transport.trace = false

def ChangeFault (session : ConditionalAccessSession) (change : CaPmtChange) (e : Error)
    (trace : List Obs) : Prop :=
  Broken True false e trace ∨ (pending trace = false ∧ ¬ (change.Fits ∧
    ∀ (programNumber : UInt16) program,
      session.selected[programNumber]? = some program → program.Fits))

def Applied (u : Update) (sessionId : UInt16) (session : ConditionalAccessSession)
    (plan : List Bytes × KeyMap Program) (u' : Update) : Prop :=
  PmtPath session.slotId sessionId plan.1 u.transport u'.transport ∧
    pending u'.transport.trace = false ∧
    u'.self = { u.self with
      sessions := u.self.sessions.insert sessionId { session with selected := plan.2 } } ∧
    ∀ slotId ∈ u'.touchedSlots, slotId ∈ u.touchedSlots ∨ slotId = session.slotId

def Stopped (u : Update) (sessionId : UInt16) (session : ConditionalAccessSession)
    (change : CaPmtChange) (e : Error) (u' : Update) : Prop :=
  (∃ bodies, PmtPath session.slotId sessionId bodies u.transport u'.transport) ∧
    u'.self = u.self ∧ ChangeFault session change e u'.transport.trace

theorem applied_still (h : u.Sends sessionId session) :
    Applied u sessionId session ([], session.selected) u := by
  refine ⟨.refl, h.whole, ?_, fun _ => .inl⟩
  rw [show ({ session with selected := session.selected } : ConditionalAccessSession) = session
    from rfl, KeyMap.insert_self_eq h.known]

theorem stopped_still (h : u.Sends sessionId session) {e : Error}
    (hfault : ¬ (change.Fits ∧ ∀ (programNumber : UInt16) program,
      session.selected[programNumber]? = some program → program.Fits)) :
    Stopped u sessionId session change e u :=
  ⟨⟨[], .refl⟩, rfl, .inr ⟨h.whole, hfault⟩⟩

theorem sendCaPmt_spec (h : u.Sends sessionId session) {body : Bytes} (selected : KeyMap Program)
    (hlong : 65535 < body.length → ¬ (change.Fits ∧ ∀ (programNumber : UInt16) program,
      session.selected[programNumber]? = some program → program.Fits)) :
    wp (sendCaPmt session.slotId sessionId body >>= fun _ =>
        putSelected sessionId session selected)
      (fun _ => Applied u sessionId session ([body], selected))
      (Stopped u sessionId session change) u := by
  rw [wp_bind, sendCaPmt, wp_zoom]
  refine wp_mono (sendApdu_pmt h.bound h.count h.whole) (fun _ t ht => ?_) (fun e t ht => ?_)
  · refine ⟨ht.1, ht.2.2, rfl, fun slotId hslot => ?_⟩
    rcases List.mem_append.mp hslot with hold | hnew
    · exact .inl hold
    · exact .inr (List.mem_singleton.mp hnew)
  · refine ⟨⟨_, ht.1⟩, rfl, ?_⟩
    rcases ht.2 with hbroken | ⟨hbody, hp, _⟩
    · refine .inl ?_
      rw [← h.callback]
      exact hbroken
    · exact .inr ⟨hp, hlong hbody⟩

theorem withdraw_spec (h : u.Sends sessionId session) {caids : List UInt16}
    {programNumber : UInt16} {program : Program} (otherwise : String)
    (hcaids : session.caids = some caids)
    (hselected : session.selected[programNumber]? = some program) :
    wp (lift (withdraw session caids program otherwise) >>= fun body =>
        sendCaPmt session.slotId sessionId body >>= fun _ =>
          putSelected sessionId session (session.selected.erase programNumber))
      (fun _ => Applied u sessionId session (withdrawal session caids programNumber))
      (Stopped u sessionId session change) u := by
  have hmatch : program.selectedBy caids = true := by
    obtain ⟨_, caids', hcaids', hmatch⟩ := h.sane programNumber program hselected
    rw [hcaids, Option.some.injEq] at hcaids'
    rwa [hcaids']
  rw [wp_bind, wp_lift, withdraw]
  simp only [sat_bind]
  cases hbuild : program.buildCaPmt caids .update .notSelected with
  | error e =>
      exact stopped_still h fun hfits => not_fits_of_build hbuild (hfits.2 _ _ hselected)
  | ok built =>
      have hsome := selectedBy_of_buildCaPmt hbuild
      rw [hmatch] at hsome
      obtain ⟨body, rfl⟩ := Option.isSome_iff_exists.mp hsome.symm
      simp only [ofExcept_ok, sat_ok, withdrawal, hselected, hbuild]
      exact sendCaPmt_spec h _ fun hlong hfits =>
        not_fits_of_long hbuild hlong (hfits.2 _ _ hselected)

theorem setProgramOn_spec (program : Program) (h : u.Sends sessionId session) :
    wp (setProgramOn program sessionId)
      (fun _ => Applied u sessionId session (changePlan session (.set program)))
      (Stopped u sessionId session (.set program)) u := by
  simp only [setProgramOn, wp_bind, wp_get, wp_lift, sat_expect]
  refine ⟨session, h.known, ?_⟩
  cases hcaids : session.caids with
  | none =>
      simp only [changePlan, hcaids]
      exact applied_still h
  | some caids =>
      simp only [wp_bind, wp_lift, changePlan, hcaids]
      show Outcome.Sat (Outcome.ofExcept (program.buildCaPmt caids (listManagement session program)
        .okDescrambling)) _ _
      cases hbuild : program.buildCaPmt caids (listManagement session program) .okDescrambling with
      | error e => exact stopped_still h fun hfits => not_fits_of_build hbuild hfits.1
      | ok built =>
          cases built with
          | some body =>
              exact sendCaPmt_spec h _ fun hlong hfits => not_fits_of_long hbuild hlong hfits.1
          | none =>
              simp only [ofExcept_ok, sat_ok]
              cases hprevious : session.selected[program.programNumber]? with
              | none =>
                  simp only [withdrawal, hprevious]
                  exact applied_still h
              | some previous => exact withdraw_spec h _ hcaids hprevious

theorem removeProgramOn_spec (programNumber : UInt16) (h : u.Sends sessionId session) :
    wp (removeProgramOn programNumber sessionId)
      (fun _ => Applied u sessionId session (changePlan session (.remove programNumber)))
      (Stopped u sessionId session (.remove programNumber)) u := by
  simp only [removeProgramOn, wp_bind, wp_get, wp_lift, sat_expect]
  refine ⟨session, h.known, ?_⟩
  cases hselected : session.selected[programNumber]? with
  | none =>
      cases hcaids : session.caids with
      | none =>
          simp only [changePlan, hcaids]
          exact applied_still h
      | some caids =>
          simp only [changePlan, hcaids, withdrawal, hselected]
          exact applied_still h
  | some program =>
      obtain ⟨_, caids, hcaids, _⟩ := h.sane programNumber program hselected
      simp only [hcaids, changePlan]
      exact withdraw_spec h _ hcaids hselected

end Change

end ConditionalAccessResource

namespace CiSession

open ConditionalAccessResource

variable {A V : UInt8 → Prop} {s : CiSession} {index : Nat} {session : Session} {tag : ApduTag}
  {body : Bytes}

theorem callbackFault_of_pmt {programs : List (UInt16 × Program)} {e : Error} {trace : List Obs}
    (h : PmtFault true programs e trace)
    (hfits : s.Fits → ∀ programNumber program, (programNumber, program) ∈ programs → program.Fits) :
    CallbackFault s e trace := by
  rcases h with hbroken | ⟨hp, programNumber, program, hmem, hnot⟩
  · exact .broken hbroken
  · refine ⟨fun _ => hp, fun h => ?_, fun hs _ => absurd (hfits hs _ _ hmem) hnot⟩
    rw [hp] at h
    cases h

theorem broken_of_pmt {programs : List (UInt16 × Program)} {e : Error} {trace : List Obs}
    (h : PmtFault true programs e trace)
    (hfits : s.Fits → ∀ programNumber program, (programNumber, program) ∈ programs → program.Fits) :
    pending trace = true ∨ masked trace = true ∨ ¬ s.Fits := by
  rcases h with hbroken | ⟨_, programNumber, program, hmem, hnot⟩
  · obtain ⟨_, ⟨_, _, hmasked⟩ | ⟨_, hp⟩⟩ := broken_inside hbroken
    · exact .inr (.inl hmasked)
    · exact .inl hp
  · exact .inr (.inr fun hs => hnot (hfits hs _ _ hmem))

theorem conditionalAccess_onApdu (h : s.Consistent) (hc : CanSend A s session.slotId)
    (hV : V session.slotId) (live : s.entry index = some session) :
    Calls A V s .conditionalAccess session.slotId (sessionIdOf index)
      (ResourceRegistry.onApdu .conditionalAccess tag body) := by
  have hmalformed {e : Error} (he : e.IsInvalidData) :
      Called A V s .conditionalAccess (s.context session.slotId (sessionIdOf index)) ∧
        CallbackFault s e s.transport.trace :=
    ⟨called_still hc _, .malformed hc.whole he⟩
  rw [Calls, ResourceRegistry.onApdu, wp_zoom, ConditionalAccessResource.onApdu, wp_bind, wp_get]
  split
  · rw [wp_bind, wp_lift]
    refine (parseCaInfo_sat _ _).mono (fun caids _ => ?_) (fun e he => hmalformed he)
    split
    · exact hmalformed ⟨_, rfl⟩
    · next record hrecord =>
        have hknown : s.resources.conditionalAccess.sessions[sessionIdOf index]? = some record :=
          hrecord
        have hslot : record.slotId = session.slotId := by
          have hkept : s.resources.recordSlot (sessionIdOf index) .conditionalAccess =
              some record.slotId := by
            rw [ResourceRegistry.recordSlot, hknown, Option.map_some]
          exact (h.record_slot live hkept).1
        obtain ⟨slotId, resourceId, state⟩ := session
        subst hslot
        rw [wp_bind]
        refine wp_mono (synchronizeSession_spec record caids hc.bound hc.count hc.whole rfl)
          (fun _ ctx hctx => ?_) (fun e ctx hctx => ?_)
        · obtain ⟨t, hpath, hp, rfl⟩ := hctx
          have hmove := @Move.caInfo A V _ _ _ caids t hknown hc.slot hV hpath hp
          exact ⟨⟨.single hmove, by rintro ⟨⟩⟩, hp⟩
        · obtain ⟨t, bodies, programs, hpath, hfault, hprograms, rfl⟩ := hctx
          have hfits (hs : s.Fits) (programNumber : UInt16) (program : Program)
              (hmem : (programNumber, program) ∈ programs) : program.Fits := by
            rcases hprograms with rfl | rfl
            · exact hs.resource.programs _ _ (KeyMap.mem_toList.mp hmem)
            · exact hs.resource.selected _ _ hknown _ _
                (KeyMap.mem_toList.mp hmem)
          have hmove := @Move.caInfoFailed A V _ _ _ caids _ _ hknown hc.slot hpath
            (broken_of_pmt hfault hfits)
          exact ⟨⟨.single hmove, by rintro ⟨⟩⟩, callbackFault_of_pmt hfault hfits⟩
  split
  · exact ⟨called_still hc _, hc.whole⟩
  · exact hmalformed ⟨_, rfl⟩

section Change

variable {change : CaPmtChange} {f : UInt16 → Act Error Update Unit}

structure Changing (s : CiSession) (change : CaPmtChange)
    (done : List (UInt16 × ConditionalAccessSession)) (u : Update) : Prop where
  programs : u.self.programs = applyChange s.resources.conditionalAccess.programs change
  records : ∀ sessionId : UInt16, u.self.sessions[sessionId]? =
    s.resources.conditionalAccess.sessions[sessionId]?.map fun session =>
      { session with
        selected :=
          if sessionId ∈ done.map Prod.fst then (changePlan session change).2
          else session.selected }
  path : ReflTransGen (CiTransport.Step s.SendsPmts) s.transport u.transport
  acts : caActs u.transport.trace = caActs s.transport.trace ++
    done.flatMap fun (sessionId, session) =>
      (changePlan session change).1.map (CaAct.pmt sessionId)
  whole : pending u.transport.trace = false
  touched : ∀ slotId ∈ u.touchedSlots, slotId.toNat < s.transport.slots.length

structure ChangeFailed (s : CiSession) (change : CaPmtChange) (e : Error) (u : Update) : Prop where
  programs : u.self.programs = applyChange s.resources.conditionalAccess.programs change
  records : ∃ reached : UInt16 → Bool, ∀ sessionId : UInt16, u.self.sessions[sessionId]? =
    s.resources.conditionalAccess.sessions[sessionId]?.map fun session =>
      { session with
        selected :=
          if reached sessionId then (changePlan session change).2 else session.selected }
  path : ReflTransGen (CiTransport.Step s.SendsPmts) s.transport u.transport
  broken : pending u.transport.trace = true ∨ ¬ s.Fits ∨ ¬ change.Fits
  write : pending u.transport.trace = true → e.IsWrite

structure ChangeStopped (s : CiSession) (change : CaPmtChange) (e : Error) (s' : CiSession) : Prop where
  programmed : Programmed s change s'
  write : pending s'.transport.trace = true → e.IsWrite
  broken : pending s'.transport.trace = true ∨ ¬ s.Fits ∨ ¬ change.Fits

theorem sendsPmts_path {sessionId : UInt16} {session : ConditionalAccessSession} {t t' : CiTransport}
    {bodies : List Bytes}
    (known : s.resources.conditionalAccess.sessions[sessionId]? = some session)
    (h : PmtPath session.slotId sessionId bodies t t') :
    ReflTransGen (CiTransport.Step s.SendsPmts) t t' :=
  ReflTransGen.mono (fun _ _ hs => CiTransport.Step.mono
    (fun _ _ hsend => ⟨sessionId, session, known, hsend⟩) hs) _ _ h.path

theorem changeAll_spec (h : s.Consistent)
    (hf : ∀ (u : Update) sessionId session, u.Sends sessionId session →
      wp (f sessionId) (fun _ => Applied u sessionId session (changePlan session change))
        (Stopped u sessionId session change) u)
    (rest : List (UInt16 × ConditionalAccessSession)) :
    ∀ (done : List (UInt16 × ConditionalAccessSession)) (u : Update),
      s.resources.conditionalAccess.sessions.toList = done ++ rest → Changing s change done u →
      wp (forEach (rest.map Prod.fst) f)
        (fun _ u' => Changing s change s.resources.conditionalAccess.sessions.toList u')
        (ChangeFailed s change) u := by
  induction rest with
  | nil =>
      intro done u hsplit hu
      rw [List.append_nil] at hsplit
      rw [hsplit]
      exact hu
  | cons entry rest ih =>
      obtain ⟨sessionId, session⟩ := entry
      intro done u hsplit hu
      have hknown : s.resources.conditionalAccess.sessions[sessionId]? = some session := by
        rw [← KeyMap.mem_toList, hsplit]
        exact List.mem_append_right _ (List.mem_cons_self ..)
      have hfresh : sessionId ∉ done.map Prod.fst := by
        have hnodup := KeyMap.nodup_keys (m := s.resources.conditionalAccess.sessions)
        rw [hsplit, List.map_append, List.nodup_append] at hnodup
        intro hmem
        exact hnodup.2.2 _ hmem _ (List.mem_cons_self ..) rfl
      have hlength := CiTransport.path_length hu.path
      have hrecord : s.resources.recordSlot sessionId .conditionalAccess = some session.slotId := by
        rw [ResourceRegistry.recordSlot, hknown, Option.map_some]
      have hsends : u.Sends sessionId session :=
        { known := by
            rw [hu.records, hknown, Option.map_some, if_neg hfresh]
          sane := h.selections sessionId session hknown
          bound := by
            rw [hlength]
            exact h.record_live hrecord
          count := by
            rw [hlength]
            exact h.count
          callback := (CiTransport.path_callback hu.path).trans h.callback
          whole := hu.whole }
      rw [List.map_cons, forEach, wp_bind]
      refine wp_mono (hf u sessionId session hsends) (fun _ u' happ => ?_) (fun e u' hstop => ?_)
      · obtain ⟨hpath, hwhole, hself, htouched⟩ := happ
        refine ih (done ++ [(sessionId, session)]) u'
          (by rw [hsplit, List.append_assoc, List.singleton_append]) ?_
        exact
          { programs := by
              rw [hself]
              exact hu.programs
            records := by
              intro other
              rw [hself]
              simp only [KeyMap.get_insert, List.map_append, List.map_cons, List.map_nil,
                List.mem_append, List.mem_singleton]
              split
              · next heq =>
                  rw [← heq, hknown]
                  simp
              · next hne =>
                  rw [hu.records]
                  have hne' : ¬ other = sessionId := fun heq => hne heq.symm
                  simp only [hne', or_false]
            path := hu.path.trans (sendsPmts_path hknown hpath)
            acts := by
              rw [hpath.acts, hu.acts, List.flatMap_append, List.append_assoc]
              simp
            whole := hwhole
            touched := by
              intro slotId hslot
              rcases htouched slotId hslot with hold | rfl
              · exact hu.touched slotId hold
              · exact h.record_live hrecord }
      · obtain ⟨⟨bodies, hpath⟩, hself, hfault⟩ := hstop
        have hfits (hs : s.Fits) (programNumber : UInt16) (program : Program)
            (hselected : session.selected[programNumber]? = some program) : program.Fits :=
          hs.resource.selected _ _ hknown _ _ hselected
        exact
          { programs := by
              rw [hself]
              exact hu.programs
            records := by
              refine ⟨fun other => decide (other ∈ done.map Prod.fst), fun other => ?_⟩
              rw [hself, hu.records]
              simp only [decide_eq_true_eq]
            path := hu.path.trans (sendsPmts_path hknown hpath)
            broken := by
              rcases hfault with hbroken | ⟨_, hnot⟩
              · exact .inl (broken_outside hbroken).1
              · by_cases hs : s.Fits
                · exact .inr (.inr fun hchange => hnot ⟨hchange, hfits hs⟩)
                · exact .inr (.inl hs)
            write := by
              intro hp
              rcases hfault with hbroken | ⟨hwhole, _⟩
              · exact (broken_outside hbroken).2
              · rw [hwhole] at hp
                cases hp }

theorem on_eq {t : CiTransport} (hcb : t.callback = false) :
    s.on t = { s with transport := t } := by
  rw [CiSession.on, ← hcb]

theorem mem_sortDedup {slotIds : List UInt8} {slotId : UInt8} :
    slotId ∈ sortDedup slotIds ↔ slotId ∈ slotIds := by
  rw [sortDedup, List.mem_dedup, List.mem_mergeSort]

theorem changeLoop_spec (h : s.Consistent) (hp : pending s.transport.trace = false)
    (hf : ∀ (u : Update) sessionId session, u.Sends sessionId session →
      wp (f sessionId) (fun _ => Applied u sessionId session (changePlan session change))
        (Stopped u sessionId session change) u) :
    wp (forEach s.resources.conditionalAccess.sessions.keys f)
      (fun _ u' => Programmed s change (updateLens.set u' s) ∧
        pending u'.transport.trace = false ∧
          ∀ slotId ∈ u'.touchedSlots, slotId.toNat < s.transport.slots.length)
      (fun e u' => ChangeStopped s change e (updateLens.set u' s))
      { self := { s.resources.conditionalAccess with
          programs := applyChange s.resources.conditionalAccess.programs change }
        transport := s.transport } := by
  have hchanged {u : Update}
      (hpath : ReflTransGen (CiTransport.Step s.SendsPmts) s.transport u.transport)
      (hprograms : u.self.programs = applyChange s.resources.conditionalAccess.programs change) :
      updateLens.set u s = s.changed change u.transport u.self.sessions := by
    rw [changed, on_eq ((CiTransport.path_callback hpath).trans h.callback), ← hprograms]
    rfl
  rw [KeyMap.keys_eq]
  refine wp_mono (changeAll_spec h hf _ [] _ rfl ?_) (fun _ u' hu => ?_) (fun e u' hu => ?_)
  · exact
      { programs := rfl
        records := by simp
        path := .refl
        acts := by simp
        whole := hp
        touched := by simp }
  · refine ⟨?_, hu.whole, hu.touched⟩
    rw [hchanged hu.path hu.programs]
    refine .done (fun sessionId => ?_) hu.path hu.acts hu.whole
    rw [hu.records]
    cases hknown : s.resources.conditionalAccess.sessions[sessionId]? with
    | none => rfl
    | some session =>
        have hmem : sessionId ∈ s.resources.conditionalAccess.sessions.toList.map Prod.fst :=
          List.mem_map.mpr ⟨(sessionId, session), KeyMap.mem_toList.mpr hknown, rfl⟩
        simp only [Option.map_some, if_pos hmem]
  · refine ⟨?_, hu.write, hu.broken⟩
    rw [hchanged hu.path hu.programs]
    obtain ⟨reached, hrecords⟩ := hu.records
    exact .failed hrecords hu.path hu.broken

theorem setProgram_spec (h : s.Consistent) (hp : pending s.transport.trace = false)
    (program : Program) :
    wp (CiSession.setProgram program)
      (fun slotIds s' => Programmed s (.set program) s' ∧ pending s'.transport.trace = false ∧
        ∀ slotId ∈ slotIds, slotId.toNat < s.transport.slots.length)
      (fun e s' => ChangeStopped s (.set program) e s') s := by
  rw [CiSession.setProgram, wp_zoom, ConditionalAccessResource.setProgram, wp_bind, wp_get]
  dsimp only
  split
  · next hsame =>
      exact ⟨.idle (KeyMap.insert_self_eq hsame), hp, by simp⟩
  · simp only [wp_bind, wp_modify]
    refine wp_mono (changeLoop_spec h hp fun u sessionId session => setProgramOn_spec program)
      (fun _ u' hu => ?_) (fun _ _ hu => hu)
    exact ⟨hu.1, hu.2.1, fun slotId hslot => hu.2.2 slotId (mem_sortDedup.mp hslot)⟩

theorem removeProgram_spec (h : s.Consistent) (hp : pending s.transport.trace = false)
    (programNumber : UInt16) :
    wp (CiSession.removeProgram programNumber)
      (fun slotIds s' => Programmed s (.remove programNumber) s' ∧
        pending s'.transport.trace = false ∧
        ∀ slotId ∈ slotIds, slotId.toNat < s.transport.slots.length)
      (fun e s' => ChangeStopped s (.remove programNumber) e s') s := by
  rw [CiSession.removeProgram, wp_zoom, ConditionalAccessResource.removeProgram, wp_bind, wp_get]
  dsimp only
  split
  · next hsame =>
      exact ⟨.idle (KeyMap.erase_of_none hsame), hp, by simp⟩
  · simp only [wp_bind, wp_modify]
    refine wp_mono (changeLoop_spec h hp fun u sessionId session =>
      removeProgramOn_spec programNumber) (fun _ u' hu => ?_) (fun _ _ hu => hu)
    exact ⟨hu.1, hu.2.1, fun slotId hslot => hu.2.2 slotId (mem_sortDedup.mp hslot)⟩

end Change

theorem onApdu_spec {kind : ResourceKind} (h : s.Consistent) (hc : CanSend A s session.slotId)
    (hV : V session.slotId) (live : s.entry index = some session)
    (hkind : session.resourceId = kind.resourceId) :
    Calls A V s kind session.slotId (sessionIdOf index)
      (ResourceRegistry.onApdu kind tag body) := by
  cases kind with
  | rm => exact rm_onApdu h hc
  | applicationInfo => exact applicationInfo_onApdu h hc hV live
  | conditionalAccess => exact conditionalAccess_onApdu h hc hV live
  | hostControl => exact hostControl_onApdu hc hV
  | dateTime => exact dateTime_onApdu h hc live
  | mmi => exact mmi_onApdu hc hV live hkind

end CiSession

end LibDvb
