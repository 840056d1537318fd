import LibDvb.Ca.Capmt.Decode
import LibDvb.Ca.Session.Atomicity
import LibDvb.Ca.Transport.Refusal

namespace LibDvb

open Act Outcome CiTransport CiSession

-- What a session is to be sent for one program: the body of a CA_PMT, or nothing if the CAID list
-- does not select the program.
abbrev BuiltPmt : Type := Except Error (Option Bytes)

namespace ConditionalAccessResource

def selectObjects (caids : List UInt16) : Bool → List (UInt16 × Program) → List BuiltPmt
  | _, [] => []
  | chosen, (_, program) :: rest =>
      program.buildCaPmt caids (if chosen then .add else .only) .okDescrambling ::
        selectObjects caids (chosen || program.selectedBy caids) rest

def withdrawObjects (caids : List UInt16) (programs : List (UInt16 × Program)) : List BuiltPmt :=
  programs.map fun (_, program) => program.buildCaPmt caids .update .notSelected

-- The objects that a CA_INFO with the list `caids` asks for: the desired programs are selected, and
-- if the list selects none of them, those selected under the old list are withdrawn.
def infoObjects (programs : KeyMap Program) (record : ConditionalAccessSession) (caids : List UInt16) :
    List BuiltPmt :=
  selectObjects caids false programs.toList ++
    if programs.toList.any fun (_, program) => program.selectedBy caids then []
    else
      match record.caids with
      | some oldCaids => withdrawObjects oldCaids record.selected.toList
      | none => []

end ConditionalAccessResource

-- What stands in the way of sending the objects one after the other, `frames` frames ahead of them:
-- an object that cannot be built or is too large, or the link, which refuses one of the frames.
def obstacle (t : CiTransport) (slotId : UInt8) (sessionId : UInt16) : Nat → List BuiltPmt → Option Error
  | frames, [] => t.refusal slotId frames
  | frames, .error e :: _ => (t.refusal slotId frames).or (some e)
  | frames, .ok none :: rest => obstacle t slotId sessionId frames rest
  | frames, .ok (some body) :: rest =>
      if body.length > 65535 then
        (t.refusal slotId frames).or
          (some (.invalidProperty s!"ca apdu body is too large: {body.length} bytes"))
      else
        obstacle t slotId sessionId (frames + frameCount sessionId .caPmt body) rest

section Obstacle

variable {t t' t'' : CiTransport} {slotId : UInt8} {sessionId : UInt16} {n k : Nat} {e : Error} {body : Bytes}
  {objects more : List BuiltPmt}

theorem obstacle_offered (h : Offered slotId n t t') : ∀ (objects : List BuiltPmt) (k : Nat),
    obstacle t' slotId sessionId k objects = obstacle t slotId sessionId (n + k) objects := by
  intro objects
  induction objects with
  | nil => exact h.rest
  | cons object rest ih =>
      intro k
      rcases object with e | _ | body
      · rw [obstacle, obstacle, h.rest]
      · exact ih k
      · rw [obstacle, obstacle, h.rest, ih, Nat.add_assoc]

theorem obstacle_refused (h : Refused slotId n t e) : ∀ (objects : List BuiltPmt) (k : Nat), n ≤ k →
    obstacle t slotId sessionId k objects = some e := by
  have hrefusal {k : Nat} (hle : n ≤ k) : t.refusal slotId k = some e := h.mono hle 0
  intro objects
  induction objects with
  | nil => exact fun _ hle => hrefusal hle
  | cons object rest ih =>
      intro k hle
      rcases object with e | _ | body
      · rw [obstacle, hrefusal hle, Option.some_or]
      · exact ih k hle
      · rw [obstacle, hrefusal hle, Option.some_or, ih _ (Nat.le_add_right_of_le hle), ite_self]

structure Passes (slotId : UInt8) (sessionId : UInt16) (objects : List BuiltPmt) (t t' : CiTransport) : Prop where
  ahead : ∀ more, obstacle t' slotId sessionId 0 more = obstacle t slotId sessionId 0 (objects ++ more)
  length : t'.slots.length = t.slots.length

def Stops (slotId : UInt8) (sessionId : UInt16) (objects : List BuiltPmt) (t : CiTransport) (e : Error) : Prop :=
  ∀ more, obstacle t slotId sessionId 0 (objects ++ more) = some e

theorem Passes.refl (slotId : UInt8) (sessionId : UInt16) (t : CiTransport) : Passes slotId sessionId [] t t :=
  ⟨fun _ => rfl, rfl⟩

theorem Passes.skip (slotId : UInt8) (sessionId : UInt16) (t : CiTransport) :
    Passes slotId sessionId [.ok none] t t := ⟨fun _ => rfl, rfl⟩

theorem Passes.trans (h : Passes slotId sessionId objects t t') (h' : Passes slotId sessionId more t' t'') :
    Passes slotId sessionId (objects ++ more) t t'' where
  ahead last := by rw [h'.ahead, h.ahead, List.append_assoc]
  length := h'.length.trans h.length

theorem Passes.stops (h : Passes slotId sessionId objects t t') (h' : Stops slotId sessionId more t' e) :
    Stops slotId sessionId (objects ++ more) t e := by
  intro last
  rw [List.append_assoc, ← h.ahead]
  exact h' last

theorem Stops.append (h : Stops slotId sessionId objects t e) (more : List BuiltPmt) :
    Stops slotId sessionId (objects ++ more) t e := by
  intro last
  rw [List.append_assoc]
  exact h _

theorem clear_of_passes (h : Passes slotId sessionId objects t t') : obstacle t slotId sessionId 0 objects = none := by
  rw [← List.append_nil objects, ← h.ahead]
  exact refusal_zero

theorem stops_long (hlong : 65535 < body.length) : Stops slotId sessionId [.ok (some body)] t
    (.invalidProperty s!"ca apdu body is too large: {body.length} bytes") := by
  intro more
  rw [List.singleton_append, obstacle, if_pos hlong, refusal_zero, Option.none_or]

theorem stops_error (slotId : UInt8) (sessionId : UInt16) (t : CiTransport) (e : Error) :
    Stops slotId sessionId [.error e] t e := by
  intro more
  rw [List.singleton_append, obstacle, refusal_zero, Option.none_or]

theorem sendObject (hs : slotId.toNat < t.slots.length) (hn : t.slots.length ≤ 255) :
    wp (CiTransport.sendApdu slotId sessionId .caPmt body) (fun _ => Passes slotId sessionId [.ok (some body)] t)
      (fun e _ => Stops slotId sessionId [.ok (some body)] t e) t := by
  by_cases hbody : body.length ≤ 65535
  · have hobstacle (more : List BuiltPmt) : obstacle t slotId sessionId 0 ([.ok (some body)] ++ more) =
        obstacle t slotId sessionId (frameCount sessionId .caPmt body) more := by
      rw [List.singleton_append, obstacle, if_neg (Nat.not_lt.mpr hbody), Nat.zero_add]
    refine wp_mono (sendApdu_offers hs hn hbody) (fun _ t' h => ⟨fun more => ?_, h.length⟩) fun e t' h more => ?_
    · rw [hobstacle]
      exact obstacle_offered h more 0
    · rw [hobstacle]
      exact obstacle_refused h more _ (Nat.le_refl _)
  · have hlong := Nat.lt_of_not_le hbody
    rw [CiTransport.sendApdu, wp_bind, wp_note, if_pos hlong]
    exact wp_fail.mpr (stops_long hlong)

end Obstacle

namespace ConditionalAccessResource

variable {ctx ctx' ctx'' : ResourceContext ConditionalAccessResource} {caids : List UInt16} {e : Error}
  {body : Bytes} {objects more : List BuiltPmt}

structure SentAll (objects : List BuiltPmt) (ctx ctx' : ResourceContext ConditionalAccessResource) : Prop where
  frame : ctx' = { ctx with transport := ctx'.transport }
  passes : Passes ctx.slotId ctx.sessionId objects ctx.transport ctx'.transport

structure SentSome (objects : List BuiltPmt) (e : Error) (ctx ctx' : ResourceContext ConditionalAccessResource) :
    Prop where
  frame : ctx' = { ctx with transport := ctx'.transport }
  stops : Stops ctx.slotId ctx.sessionId objects ctx.transport e

theorem SentAll.refl (ctx : ResourceContext ConditionalAccessResource) : SentAll [] ctx ctx := ⟨rfl, .refl ..⟩

theorem SentAll.skip (ctx : ResourceContext ConditionalAccessResource) : SentAll [.ok none] ctx ctx :=
  ⟨rfl, .skip ..⟩

theorem sentSome_error (ctx : ResourceContext ConditionalAccessResource) (e : Error) :
    SentSome [.error e] e ctx ctx := ⟨rfl, stops_error _ _ _ e⟩

theorem SentAll.slotId (h : SentAll objects ctx ctx') : ctx'.slotId = ctx.slotId := by rw [h.frame]

theorem SentAll.sessionId (h : SentAll objects ctx ctx') : ctx'.sessionId = ctx.sessionId := by rw [h.frame]

theorem SentAll.trans (h : SentAll objects ctx ctx') (h' : SentAll more ctx' ctx'') :
    SentAll (objects ++ more) ctx ctx'' where
  frame := by rw [h'.frame, h.frame]
  passes := h.passes.trans (h.slotId ▸ h.sessionId ▸ h'.passes)

theorem SentAll.stopped (h : SentAll objects ctx ctx') (h' : SentSome more e ctx' ctx'') :
    SentSome (objects ++ more) e ctx ctx'' where
  frame := by rw [h'.frame, h.frame]
  stops := h.passes.stops (h.slotId ▸ h.sessionId ▸ h'.stops)

theorem SentSome.append (h : SentSome objects e ctx ctx') (more : List BuiltPmt) : SentSome (objects ++ more) e ctx ctx' :=
  ⟨h.frame, h.stops.append more⟩

structure Placed (ctx : ResourceContext ConditionalAccessResource) : Prop where
  slot : ctx.slotId.toNat < ctx.transport.slots.length
  slots : ctx.transport.slots.length ≤ 255

theorem Placed.passed (h : Placed ctx) (hp : SentAll objects ctx ctx') : Placed ctx' where
  slot := by
    rw [hp.slotId, hp.passes.length]
    exact h.slot
  slots := by
    rw [hp.passes.length]
    exact h.slots

theorem sendObject_passes (h : Placed ctx) : wp (ResourceContext.sendApdu .caPmt body)
    (fun _ => SentAll [.ok (some body)] ctx) (fun e => SentSome [.ok (some body)] e ctx) ctx := by
  rw [ResourceContext.sendApdu, wp_bind, wp_get, wp_zoom]
  exact wp_mono (sendObject h.slot h.slots) (fun _ _ h => ⟨rfl, h⟩) fun _ _ h => ⟨rfl, h⟩

theorem selectPrograms_passes (caids : List UInt16) (programs : List (UInt16 × Program)) :
    ∀ (selected : KeyMap Program) (ctx : ResourceContext ConditionalAccessResource), Placed ctx →
      wp (selectPrograms caids selected programs)
        (fun result ctx' => SentAll (selectObjects caids (!selected.isEmpty) programs) ctx ctx' ∧
          result.isEmpty = (selected.isEmpty && !programs.any fun (_, program) => program.selectedBy caids))
        (fun e => SentSome (selectObjects caids (!selected.isEmpty) programs) e ctx) ctx := by
  induction programs with
  | nil =>
      intro selected ctx _
      exact wp_pure.mpr ⟨.refl ctx, by rw [List.any_nil, Bool.not_false, Bool.and_true]⟩
  | cons entry rest ih =>
      obtain ⟨programNumber, program⟩ := entry
      intro selected ctx h
      have hmanagement : (if !selected.isEmpty then CaPmtListManagement.add else .only) =
          if selected.isEmpty then .only else .add := by
        cases selected.isEmpty <;> rfl
      rw [selectObjects, hmanagement]
      simp only [selectPrograms, wp_bind, wp_lift, List.any_cons]
      cases hbuild : program.buildCaPmt caids (if selected.isEmpty then .only else .add) .okDescrambling with
      | error e =>
          rw [Outcome.ofExcept_error, Outcome.sat_err]
          exact (sentSome_error ctx e).append _
      | ok built =>
          rw [Outcome.ofExcept_ok, Outcome.sat_ok, selectedBy_of_buildCaPmt hbuild]
          cases built with
          | none =>
              have hrest := ih selected ctx h
              simp only [Option.isSome_none, Bool.or_false, Bool.false_or]
              exact wp_mono hrest (fun _ _ hr => ⟨(SentAll.skip ctx).trans hr.1, hr.2⟩)
                fun _ _ hr => (SentAll.skip ctx).stopped hr
          | some body =>
              rw [wp_bind]
              refine wp_mono (sendObject_passes h) (fun _ ctx' hsent => ?_) fun _ _ hs => hs.append _
              have hinserted : (selected.insert programNumber program).isEmpty = false := by simp
              have hrest := ih (selected.insert programNumber program) ctx' (h.passed hsent)
              simp only [hinserted, Bool.not_false, Bool.false_and] at hrest
              simp only [Option.isSome_some, Bool.or_true, Bool.true_or, Bool.not_true, Bool.and_false]
              exact wp_mono hrest (fun _ _ hr => ⟨hsent.trans hr.1, hr.2⟩) fun _ _ hr => hsent.stopped hr

theorem withdrawPrograms_passes (caids : List UInt16) (programs : List (UInt16 × Program)) :
    ∀ ctx : ResourceContext ConditionalAccessResource, Placed ctx →
      wp (withdrawPrograms caids programs) (fun _ => SentAll (withdrawObjects caids programs) ctx)
        (fun e => SentSome (withdrawObjects caids programs) e ctx) ctx := by
  induction programs with
  | nil => exact fun ctx _ => wp_pure.mpr (.refl ctx)
  | cons entry rest ih =>
      obtain ⟨programNumber, program⟩ := entry
      intro ctx h
      rw [withdrawObjects, List.map_cons]
      simp only [withdrawPrograms, wp_bind, wp_lift]
      cases hbuild : program.buildCaPmt caids .update .notSelected with
      | error e =>
          rw [Outcome.ofExcept_error, Outcome.sat_err]
          exact (sentSome_error ctx e).append _
      | ok built =>
          rw [Outcome.ofExcept_ok, Outcome.sat_ok]
          cases built with
          | none =>
              exact wp_mono (ih ctx h) (fun _ _ hr => (SentAll.skip ctx).trans hr)
                fun _ _ hr => (SentAll.skip ctx).stopped hr
          | some body =>
              rw [wp_bind]
              refine wp_mono (sendObject_passes h) (fun _ ctx' hsent => ?_) fun _ _ hs => hs.append _
              exact wp_mono (ih ctx' (h.passed hsent)) (fun _ _ hr => hsent.trans hr) fun _ _ hr => hsent.stopped hr

variable {record : ConditionalAccessSession}

structure Replaced (record : ConditionalAccessSession) (caids : List UInt16) (selected : KeyMap Program)
    (ctx ctx' : ResourceContext ConditionalAccessResource) : Prop where
  record : ctx'.self.sessions[ctx.sessionId]? = some { record with caids := some caids, selected }
  events : ctx'.events = ctx.events

def infoObstacle (ctx : ResourceContext ConditionalAccessResource) (record : ConditionalAccessSession)
    (caids : List UInt16) : Option Error :=
  obstacle ctx.transport ctx.slotId ctx.sessionId 0 (infoObjects ctx.self.programs record caids)

def replacing (ctx : ResourceContext ConditionalAccessResource) (record : ConditionalAccessSession)
    (caids : List UInt16) : ResourceContext ConditionalAccessResource :=
  { ctx with
    self :=
      { ctx.self with
        sessions := ctx.self.sessions.insert ctx.sessionId { record with caids := some caids, selected := ∅ } } }

theorem SentAll.replaced (h : SentAll objects (replacing ctx record caids) ctx') :
    Replaced record caids ∅ ctx ctx' where
  record := by
    rw [h.frame]
    exact KeyMap.get_insert_self ..
  events := by
    rw [h.frame]
    rfl

theorem SentSome.replaced (h : SentSome objects e (replacing ctx record caids) ctx') :
    Replaced record caids ∅ ctx ctx' where
  record := by
    rw [h.frame]
    exact KeyMap.get_insert_self ..
  events := by
    rw [h.frame]
    rfl

theorem synchronizeSession_replaces (h : Placed ctx) : wp (synchronizeSession record caids)
    (fun _ ctx' => infoObstacle ctx record caids = none ∧ ∃ selected, Replaced record caids selected ctx ctx')
    (fun e ctx' => infoObstacle ctx record caids = some e ∧ Replaced record caids ∅ ctx ctx') ctx := by
  have hfinish {objects : List BuiltPmt} {ctx' : ResourceContext ConditionalAccessResource}
      (selected : KeyMap Program) (hp : SentAll objects (replacing ctx record caids) ctx')
      (hobjects : objects = infoObjects ctx.self.programs record caids) :
      wp (putSession { record with caids := some caids, selected })
        (fun _ ctx' => infoObstacle ctx record caids = none ∧ ∃ selected, Replaced record caids selected ctx ctx')
        (fun e ctx' => infoObstacle ctx record caids = some e ∧ Replaced record caids ∅ ctx ctx') ctx' := by
    rw [putSession, wp_bind, wp_get]
    refine wp_modify.mpr ⟨?_, selected, ?_, hp.replaced.events⟩
    · rw [infoObstacle, ← hobjects]
      exact clear_of_passes hp.passes
    · rw [hp.sessionId]
      exact KeyMap.get_insert_self ..
  have hplaced : Placed (replacing ctx record caids) := ⟨h.slot, h.slots⟩
  rw [synchronizeSession, wp_bind, wp_get, wp_bind, putSession, wp_bind, wp_get, ResourceContext.update, wp_modify,
    wp_bind]
  refine wp_mono (selectPrograms_passes caids ctx.self.programs.toList ∅ (replacing ctx record caids) hplaced)
    (fun selected ctx₁ hselect => ?_) fun e ctx₁ hstop => ?_
  · obtain ⟨hpassed, hempty⟩ := hselect
    have hnone : (∅ : KeyMap Program).isEmpty = true := Std.ExtTreeMap.isEmpty_empty
    rw [hnone, Bool.true_and] at hempty
    rw [hnone, Bool.not_true] at hpassed
    have hplan (rest : List BuiltPmt) (hrest : rest =
        if ctx.self.programs.toList.any (fun (_, program) => program.selectedBy caids) then []
        else
          match record.caids with
          | some oldCaids => withdrawObjects oldCaids record.selected.toList
          | none => []) :
        selectObjects caids false ctx.self.programs.toList ++ rest = infoObjects ctx.self.programs record caids := by
      rw [hrest, infoObjects]
    cases hany : ctx.self.programs.toList.any fun (_, program) => program.selectedBy caids with
    | true =>
        rw [hany, Bool.not_true] at hempty
        rw [hempty, if_neg Bool.false_ne_true]
        refine hfinish selected hpassed ?_
        rw [← List.append_nil (selectObjects ..)]
        exact hplan [] (by rw [hany, if_pos rfl])
    | false =>
        rw [hany, Bool.not_false] at hempty
        rw [hempty, if_pos rfl]
        cases hold : record.caids with
        | none =>
            refine hfinish selected hpassed ?_
            rw [← List.append_nil (selectObjects ..)]
            exact hplan [] (by rw [hany, hold, if_neg Bool.false_ne_true])
        | some oldCaids =>
            have hobjects := hplan (withdrawObjects oldCaids record.selected.toList)
              (by rw [hany, hold, if_neg Bool.false_ne_true])
            rw [wp_bind]
            refine wp_mono (withdrawPrograms_passes oldCaids record.selected.toList ctx₁ (hplaced.passed hpassed))
              (fun _ ctx₂ hwithdrawn => hfinish selected (hpassed.trans hwithdrawn) hobjects) fun e ctx₂ hstop => ?_
            have hstopped := hpassed.stopped hstop
            rw [hobjects] at hstopped
            refine ⟨?_, hstopped.replaced⟩
            rw [infoObstacle, ← List.append_nil (infoObjects ..)]
            exact hstopped.stops []
  · have hnone : (∅ : KeyMap Program).isEmpty = true := Std.ExtTreeMap.isEmpty_empty
    rw [hnone, Bool.not_true] at hstop
    refine ⟨?_, hstop.replaced⟩
    exact hstop.stops _

theorem caInfo_replaces (h : Placed ctx) (hrecord : ctx.self.sessions[ctx.sessionId]? = some record) :
    wp (onApdu .caInfo body)
      (fun _ ctx' => body.length % 2 = 0 ∧ infoObstacle ctx record (pairs body) = none ∧
        ∃ selected, ctx'.self.sessions[ctx.sessionId]? = some { record with caids := some (pairs body), selected } ∧
          ctx'.events = ctx.events ++ [.caInfo ctx.slotId ctx.sessionId (pairs body)])
      (fun e ctx' => (body.length % 2 ≠ 0 ∧ e.IsInvalidData ∧ ctx' = ctx) ∨
        (body.length % 2 = 0 ∧ infoObstacle ctx record (pairs body) = some e ∧
          Replaced record (pairs body) ∅ ctx ctx')) ctx := by
  rw [onApdu, wp_bind, wp_get, if_pos rfl, wp_bind, wp_lift, parseCaInfo]
  split
  · next hodd =>
      rw [Outcome.sat_err]
      exact .inl ⟨hodd, ⟨_, rfl⟩, rfl⟩
  · next heven =>
      have heven := of_not_not heven
      rw [Outcome.sat_ok, hrecord, wp_bind]
      refine wp_mono (synchronizeSession_replaces h) (fun _ ctx' hr => ?_) fun e ctx' hr => .inr ⟨heven, hr⟩
      obtain ⟨hclear, selected, hreplaced⟩ := hr
      refine wp_modify.mpr ⟨heven, hclear, selected, hreplaced.record, ?_⟩
      rw [hreplaced.events]

theorem caInfo_unknown (hrecord : ctx.self.sessions[ctx.sessionId]? = none) :
    wp (onApdu .caInfo body) (fun _ _ => False) (fun e ctx' => e.IsInvalidData ∧ ctx' = ctx) ctx := by
  rw [onApdu, wp_bind, wp_get, if_pos rfl, wp_bind, wp_lift, parseCaInfo]
  split
  · rw [Outcome.sat_err]
    exact ⟨⟨_, rfl⟩, rfl⟩
  · rw [Outcome.sat_ok, hrecord]
    exact wp_fail.mpr ⟨⟨_, rfl⟩, rfl⟩

end ConditionalAccessResource

namespace CiSession

variable {s s' : CiSession} {slotId : UInt8} {sessionId : UInt16} {body : Bytes} {result : Except Error Unit}
  {record : ConditionalAccessSession} {e : Error}

def caRecord (s : CiSession) (sessionId : UInt16) : Option ConditionalAccessSession :=
  s.resources.conditionalAccess.sessions[sessionId]?

def hearCaInfo (slotId : UInt8) (sessionId : UInt16) (body : Bytes) : Act Error CiSession (Except Error Unit × Bool) :=
  runCallback slotId sessionId (ResourceRegistry.onApdu .conditionalAccess .caInfo body)

def InfoWhole (s : CiSession) (slotId : UInt8) (sessionId : UInt16) (body : Bytes) (result : Except Error Unit)
    (s' : CiSession) : Prop :=
  match result with
  | .error (.invalidData _) => s'.caRecord sessionId = s.caRecord sessionId ∧ s'.events = s.events
  | _ =>
      (s'.caRecord sessionId).bind ConditionalAccessSession.caids = some (ConditionalAccessResource.pairs body) ∧
        s'.events = s.events ++ [.caInfo slotId sessionId (ConditionalAccessResource.pairs body)]

def InfoAtomic (s : CiSession) (slotId : UInt8) (sessionId : UInt16) (body : Bytes) : Prop :=
  ∃ result closes s', hearCaInfo slotId sessionId body s = (.ok (result, closes), s') ∧
    s.InfoWhole slotId sessionId body result s'

def infoObstacle (s : CiSession) (slotId : UInt8) (sessionId : UInt16) (record : ConditionalAccessSession)
    (body : Bytes) : Option Error :=
  obstacle s.transport slotId sessionId 0
    (ConditionalAccessResource.infoObjects s.resources.conditionalAccess.programs record
      (ConditionalAccessResource.pairs body))

def AlreadyCleared (record : ConditionalAccessSession) (body : Bytes) : Prop :=
  record.caids = some (ConditionalAccessResource.pairs body) ∧ record.selected = ∅

def InfoUnimpeded (s : CiSession) (slotId : UInt8) (sessionId : UInt16) (body : Bytes) : Prop :=
  body.length % 2 ≠ 0 ∨ ∀ record, s.caRecord sessionId = some record →
    ∀ e, s.infoObstacle slotId sessionId record body = some e → e.IsInvalidData ∧ AlreadyCleared record body

theorem infoWhole_data (he : e.IsInvalidData) : s.InfoWhole slotId sessionId body (.error e) s' ↔
    s'.caRecord sessionId = s.caRecord sessionId ∧ s'.events = s.events := by
  obtain ⟨context, rfl⟩ := he
  rfl

theorem infoWhole_other (he : ¬ e.IsInvalidData) : s.InfoWhole slotId sessionId body (.error e) s' ↔
    (s'.caRecord sessionId).bind ConditionalAccessSession.caids = some (ConditionalAccessResource.pairs body) ∧
      s'.events = s.events ++ [.caInfo slotId sessionId (ConditionalAccessResource.pairs body)] := by
  cases e with
  | invalidData context => exact absurd ⟨context, rfl⟩ he
  | _ => rfl

theorem infoObstacle_callback (objects : List BuiltPmt) (callback : Bool) :
    obstacle { s.transport with callback } slotId sessionId 0 objects = obstacle s.transport slotId sessionId 0 objects := by
  have hoffered : Offered slotId 0 s.transport { s.transport with callback } :=
    ⟨refusal_zero, fun m => by rw [Nat.zero_add]; rfl, rfl⟩
  exact obstacle_offered hoffered objects 0

theorem hearCaInfo_known (hs : slotId.toNat < s.transport.slots.length) (hn : s.transport.slots.length ≤ 255)
    (hrecord : s.caRecord sessionId = some record) :
    ∃ result closes s', hearCaInfo slotId sessionId body s = (.ok (result, closes), s') ∧
      ((result = .ok () ∧ s.infoObstacle slotId sessionId record body = none ∧
          (s'.caRecord sessionId).bind ConditionalAccessSession.caids = some (ConditionalAccessResource.pairs body) ∧
          s'.events = s.events ++ [.caInfo slotId sessionId (ConditionalAccessResource.pairs body)]) ∨
        ∃ e, result = .error e ∧ s'.events = s.events ∧
          ((body.length % 2 ≠ 0 ∧ e.IsInvalidData ∧ s'.caRecord sessionId = some record) ∨
            (body.length % 2 = 0 ∧ s.infoObstacle slotId sessionId record body = some e ∧
              s'.caRecord sessionId =
                some { record with caids := some (ConditionalAccessResource.pairs body), selected := ∅ }))) := by
  have hcall : wp (hearCaInfo slotId sessionId body) (fun called s' =>
      (called.1 = .ok () ∧ s.infoObstacle slotId sessionId record body = none ∧
          (s'.caRecord sessionId).bind ConditionalAccessSession.caids = some (ConditionalAccessResource.pairs body) ∧
          s'.events = s.events ++ [.caInfo slotId sessionId (ConditionalAccessResource.pairs body)]) ∨
        ∃ e, called.1 = .error e ∧ s'.events = s.events ∧
          ((body.length % 2 ≠ 0 ∧ e.IsInvalidData ∧ s'.caRecord sessionId = some record) ∨
            (body.length % 2 = 0 ∧ s.infoObstacle slotId sessionId record body = some e ∧
              s'.caRecord sessionId =
                some { record with caids := some (ConditionalAccessResource.pairs body), selected := ∅ })))
      (fun _ _ => False) s := by
    rw [hearCaInfo, wp_runCallback, ResourceRegistry.onApdu, wp_zoom]
    refine wp_mono (ConditionalAccessResource.caInfo_replaces ⟨hs, hn⟩ hrecord) (fun _ ctx hr => .inl ⟨rfl, ?_⟩)
      fun e ctx hr => .inr ⟨e, rfl, ?_⟩
    · obtain ⟨_, hclear, selected, hsession, hevents⟩ := hr
      refine ⟨(infoObstacle_callback _ true).symm.trans hclear, ?_, hevents⟩
      rw [caRecord]
      exact congrArg (Option.bind · ConditionalAccessSession.caids) hsession
    · rcases hr with ⟨hodd, he, rfl⟩ | ⟨heven, hstop, hreplaced⟩
      · exact ⟨rfl, .inl ⟨hodd, he, hrecord⟩⟩
      · exact ⟨hreplaced.events, .inr ⟨heven, (infoObstacle_callback _ true).symm.trans hstop, hreplaced.record⟩⟩
  rcases wp_cases.mp hcall with ⟨called, hrun, hcases⟩ | ⟨_, _, hf⟩
  · exact ⟨called.1, called.2, _, Prod.ext hrun rfl, hcases⟩
  · exact hf.elim

theorem hearCaInfo_unknown (hrecord : s.caRecord sessionId = none) :
    s.InfoAtomic slotId sessionId body := by
  have hcall : wp (hearCaInfo slotId sessionId body)
      (fun called s' => s.InfoWhole slotId sessionId body called.1 s') (fun _ _ => False) s := by
    rw [hearCaInfo, wp_runCallback, ResourceRegistry.onApdu, wp_zoom]
    refine wp_mono (ConditionalAccessResource.caInfo_unknown hrecord) (fun _ _ hf => hf.elim) fun e ctx hr => ?_
    obtain ⟨he, rfl⟩ := hr
    exact (infoWhole_data he).mpr ⟨rfl, rfl⟩
  rcases wp_cases.mp hcall with ⟨called, hrun, hwhole⟩ | ⟨_, _, hf⟩
  · exact ⟨called.1, called.2, _, Prod.ext hrun rfl, hwhole⟩
  · exact hf.elim

theorem ca_info_atomic (hs : slotId.toNat < s.transport.slots.length) (hn : s.transport.slots.length ≤ 255)
    (sessionId : UInt16) (body : Bytes) :
    s.InfoAtomic slotId sessionId body ↔ s.InfoUnimpeded slotId sessionId body := by
  cases hrecord : s.caRecord sessionId with
  | none =>
      refine ⟨fun _ => .inr fun record hknown => ?_, fun _ => hearCaInfo_unknown hrecord⟩
      cases hrecord.symm.trans hknown
  | some record =>
      obtain ⟨result, closes, s', hrun, hcases⟩ := @hearCaInfo_known s slotId sessionId body record hs hn hrecord
      have hatomic : s.InfoAtomic slotId sessionId body ↔ s.InfoWhole slotId sessionId body result s' := by
        constructor
        · rintro ⟨result₁, closes₁, s₁, hrun₁, hwhole⟩
          obtain ⟨hpair, rfl⟩ := Prod.mk.inj (hrun.symm.trans hrun₁)
          obtain ⟨rfl, _⟩ := Prod.mk.inj (Outcome.ok.inj hpair)
          exact hwhole
        · exact fun hwhole => ⟨result, closes, s', hrun, hwhole⟩
      rw [hatomic]
      rcases hcases with ⟨rfl, hclear, hinfo⟩ | ⟨e, rfl, hevents, hcases⟩
      · refine ⟨fun _ => .inr fun known hknown e hobstacle => ?_, fun _ => hinfo⟩
        obtain rfl := Option.some.inj (hrecord.symm.trans hknown)
        cases hclear.symm.trans hobstacle
      · rcases hcases with ⟨hodd, he, hsame⟩ | ⟨heven, hobstacle, hcleared⟩
        · exact ⟨fun _ => .inl hodd, fun _ => (infoWhole_data he).mpr ⟨hsame.trans hrecord.symm, hevents⟩⟩
        · constructor
          · intro hwhole
            have hdata : e.IsInvalidData := by
              by_contra hother
              obtain ⟨_, hevent⟩ := (infoWhole_other hother).mp hwhole
              have hlength := congrArg List.length (hevents.symm.trans hevent)
              rw [List.length_append, List.length_singleton] at hlength
              omega
            obtain ⟨hsame, _⟩ := (infoWhole_data hdata).mp hwhole
            have hrecords := Option.some.inj (hcleared.symm.trans (hsame.trans hrecord))
            refine .inr fun known hknown failed hfailed => ?_
            obtain rfl := Option.some.inj (hrecord.symm.trans hknown)
            obtain rfl := Option.some.inj (hobstacle.symm.trans hfailed)
            rw [AlreadyCleared, ← hrecords]
            exact ⟨hdata, rfl, rfl⟩
          · rintro (hodd | hunimpeded)
            · exact absurd heven hodd
            · obtain ⟨hdata, hcaids, hselected⟩ := hunimpeded record hrecord e hobstacle
              refine (infoWhole_data hdata).mpr ⟨?_, hevents⟩
              rw [hcleared, hrecord, ← hcaids, ← hselected]

end CiSession

-- The module has told its CAID list and was sent one program.
def caidsTold : List (CaDevice × SessionOp) :=
  [({}, .setProgram oneDescriptor), framed 0 [0x91, 4, 0x00, 0x03, 0x00, 0x41],
    framed 0 [0x90, 2, 0x00, 0x01, 0x9F, 0x80, 0x31, 2, 0x01, 0x00],
    ({ reads := [.frame [0, 0x80, 2, 1, 0]] }, .recv fun _ => true),
    ({ reads := [.frame [0, 0x80, 2, 1, 0]] }, .recv fun _ => true)]

theorem caidsTold_isSome : (SessionOp.trail 1 caidsTold).isSome := by decide +kernel

def afterCaidsTold : CiSession := ((SessionOp.trail 1 caidsTold).get caidsTold_isSome).2

-- The link cuts the CA_PMT short that withdraws the program from a list without its system.
def cutShort : CaDevice := { writes := [.short] }

def relisted : CaDevice × SessionOp :=
  ({ cutShort with reads := [.frame (moduleFrame 0 [0x90, 2, 0x00, 0x01, 0x9F, 0x80, 0x31, 2, 0x05, 0x00])] },
    .recv fun _ => true)

def CiSession.listed (s : CiSession) : Option (Option (List UInt16) × Nat) :=
  (s.caRecord 1).map fun record => (record.caids, record.selected.size)

theorem infoAtomic_listed {s : CiSession} {slotId : UInt8} {body : Bytes} {closes : Bool} {selected : Nat}
    (hresult : (hearCaInfo slotId 1 body s).1 = .ok (.ok (), closes))
    (hlisted : (hearCaInfo slotId 1 body s).2.listed = some (some (ConditionalAccessResource.pairs body), selected))
    (hevents : (hearCaInfo slotId 1 body s).2.events =
      s.events ++ [.caInfo slotId 1 (ConditionalAccessResource.pairs body)]) : s.InfoAtomic slotId 1 body := by
  refine ⟨.ok (), closes, (hearCaInfo slotId 1 body s).2, Prod.ext hresult rfl, ?_, hevents⟩
  obtain ⟨record, hrecord, hpair⟩ := Option.map_eq_some_iff.mp hlisted
  rw [hrecord, Option.bind_some, (Prod.mk.inj hpair).1]

theorem afterCaidsTold_hears :
    (hearCaInfo 0 1 [0x05, 0x00] (afterCaidsTold.called cutShort)).1 = .ok (.error CaDevice.shortWrite, false) ∧
      (afterCaidsTold.called cutShort).listed = some (some [0x0100], 1) ∧
      (hearCaInfo 0 1 [0x05, 0x00] (afterCaidsTold.called cutShort)).2.listed = some (some [0x0500], 0) ∧
      (hearCaInfo 0 1 [0x05, 0x00] (afterCaidsTold.called {})).1 = .ok (.ok (), false) ∧
      (hearCaInfo 0 1 [0x05, 0x00] (afterCaidsTold.called {})).2.listed = some (some [0x0500], 0) ∧
      (hearCaInfo 0 1 [0x05, 0x00] (afterCaidsTold.called {})).2.events =
        (afterCaidsTold.called {}).events ++ [.caInfo 0 1 [0x0500]] := by
  decide +kernel

theorem torn_cutShort : ¬ (afterCaidsTold.called cutShort).InfoAtomic 0 1 [0x05, 0x00] := by
  obtain ⟨hresult, hbefore, hafter, _⟩ := afterCaidsTold_hears
  rintro ⟨result, closes, s', hrun, hwhole⟩
  have hstate : (hearCaInfo 0 1 [0x05, 0x00] (afterCaidsTold.called cutShort)).2 = s' := congrArg Prod.snd hrun
  have hoks := (congrArg Prod.fst hrun).symm.trans hresult
  obtain ⟨rfl, _⟩ := Prod.mk.inj (Outcome.ok.inj hoks)
  have hsame : s'.caRecord 1 = (afterCaidsTold.called cutShort).caRecord 1 := hwhole.1
  rw [hstate, CiSession.listed, hsame] at hafter
  cases hafter.symm.trans hbefore

theorem atomic_taken : (afterCaidsTold.called {}).InfoAtomic 0 1 [0x05, 0x00] := by
  obtain ⟨_, _, _, hresult, hlisted, hevents⟩ := afterCaidsTold_hears
  exact infoAtomic_listed hresult hlisted hevents

-- The program is withdrawn over a link that cuts the object short, and over one that takes it.
theorem ca_info_atomic_told :
    (¬ (afterCaidsTold.called cutShort).InfoAtomic 0 1 [0x05, 0x00] ∧
      ¬ (afterCaidsTold.called cutShort).InfoUnimpeded 0 1 [0x05, 0x00]) ∧
    (afterCaidsTold.called {}).InfoAtomic 0 1 [0x05, 0x00] ∧ (afterCaidsTold.called {}).InfoUnimpeded 0 1 [0x05, 0x00] := by
  refine ⟨⟨torn_cutShort, fun hunimpeded => torn_cutShort ?_⟩, atomic_taken, ?_⟩
  · exact (@ca_info_atomic _ 0 (by decide +kernel) (by decide +kernel) 1 [0x05, 0x00]).mpr hunimpeded
  · exact (@ca_info_atomic _ 0 (by decide +kernel) (by decide +kernel) 1 [0x05, 0x00]).mp atomic_taken

theorem ca_info_torn :
    (∃ labels s, SessionRun 1 labels s ∧ ∃ link, ¬ (s.called link).InfoAtomic 0 1 [0x05, 0x00]) ∧
    (SessionOp.trail 1 (caidsTold ++ [relisted])).map (fun r => (r.1.getLast?.map SessionLabel.reply, r.2.listed)) =
      some (some (.ok ()), some (some [0x0500], 0)) :=
  ⟨⟨_, _, SessionRun.of_trail caidsTold_isSome, cutShort, torn_cutShort⟩, by decide +kernel⟩

end LibDvb
