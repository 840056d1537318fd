import LibDvb.Ca.Session.Dispatch

namespace LibDvb

open Act Outcome CiSession

inductive ObjectKind where
  | text
  | menu
  | list
  deriving DecidableEq, Repr

namespace ObjectKind

def more : ObjectKind → ApduTag
  | text => .textMore
  | menu => .menuMore
  | list => .listMore

def last : ObjectKind → ApduTag
  | text => .textLast
  | menu => .menuLast
  | list => .listLast

def Delivers (kind : ObjectKind) (slotId : UInt8) (sessionId : UInt16) (object : Bytes) (e : CaEvent) : Prop :=
  match kind with
  | text => e = .mmiText slotId sessionId object
  | menu => ∃ menu, MmiResource.parseMenu object = .ok menu ∧ e = .mmiMenu slotId sessionId menu
  | list => ∃ menu, MmiResource.parseMenu object = .ok menu ∧ e = .mmiList slotId sessionId menu

theorem last_injective {k k' : ObjectKind} (h : k.last = k'.last) : k = k' := by
  revert h
  cases k <;> cases k' <;> decide

theorem more_ne_last (k k' : ObjectKind) : k.more ≠ k'.last := by
  cases k <;> cases k' <;> decide

end ObjectKind

def CaEvent.isObject : CaEvent → Bool
  | mmiText _ _ _ => true
  | mmiMenu _ _ _ => true
  | mmiList _ _ _ => true
  | _ => false

theorem ObjectKind.Delivers.isObject {kind : ObjectKind} {slotId : UInt8} {sessionId : UInt16} {object : Bytes}
    {e : CaEvent} (h : kind.Delivers slotId sessionId object e) : e.isObject = true := by
  cases kind with
  | text =>
      rw [show e = _ from h]
      rfl
  | menu =>
      obtain ⟨menu, _, rfl⟩ := h
      rfl
  | list =>
      obtain ⟨menu, _, rfl⟩ := h
      rfl

-- What becomes of the buffer of a session, and what is delivered, when an object of it is handled.
inductive Reaction (slotId : UInt8) (sessionId : UInt16) (buffer : Option Bytes) (tag : ApduTag) (body : Bytes) :
    Option Bytes → List CaEvent → Prop
  | more (kind : ObjectKind) (htag : tag = kind.more)
      (fits : (buffer.getD []).length + body.length ≤ MmiResource.maxObjectSize) :
      Reaction slotId sessionId buffer tag body (some (buffer.getD [] ++ body)) []
  | overflow (kind : ObjectKind) (htag : tag = kind.more) (context : String)
      (long : MmiResource.maxObjectSize < (buffer.getD []).length + body.length) :
      Reaction slotId sessionId buffer tag body none [.malformed slotId context]
  | last (kind : ObjectKind) (htag : tag = kind.last) (e : CaEvent)
      (delivers : kind.Delivers slotId sessionId (buffer.getD [] ++ body) e) :
      Reaction slotId sessionId buffer tag body none [e]
  | other (hmore : ∀ kind : ObjectKind, tag ≠ kind.more) (hlast : ∀ kind : ObjectKind, tag ≠ kind.last)
      (events : List CaEvent) (plain : ∀ e ∈ events, e.isObject = false) :
      Reaction slotId sessionId buffer tag body buffer events

namespace MmiResource

variable {slotId : UInt8} {sessionId : UInt16} {tag : ApduTag} {body : Bytes}
  {ctx : ResourceContext MmiResource}

-- What the session layer makes of the error of a callback.
def reported (slotId : UInt8) : Option Error → List CaEvent
  | some (.invalidData context) => [.malformed slotId context]
  | _ => []

theorem reported_plain (slotId : UInt8) (failed : Option Error) : ∀ e ∈ reported slotId failed, e.isObject = false := by
  unfold reported
  split
  · intro e he
    rw [List.mem_singleton.mp he]
    rfl
  · exact nofun

structure Reacts (tag : ApduTag) (body : Bytes) (failed : Option Error) (ctx ctx' : ResourceContext MmiResource) :
    Prop where
  reaction : ∃ new, ctx'.events = ctx.events ++ new ∧
    Reaction ctx.slotId ctx.sessionId ctx.self.fragments[ctx.sessionId]? tag body
      ctx'.self.fragments[ctx.sessionId]? (new ++ reported ctx.slotId failed)
  others : ∀ other : UInt16, other ≠ ctx.sessionId →
    ctx'.self.fragments[other]? = ctx.self.fragments[other]?

theorem Reacts.still {ctx' : ResourceContext MmiResource} {failed : Option Error} {new : List CaEvent}
    (hmore : ∀ kind : ObjectKind, tag ≠ kind.more) (hlast : ∀ kind : ObjectKind, tag ≠ kind.last)
    (self : ctx'.self = ctx.self) (events : ctx'.events = ctx.events ++ new)
    (plain : ∀ e ∈ new, e.isObject = false) : Reacts tag body failed ctx ctx' := by
  refine ⟨⟨new, events, ?_⟩, fun other _ => by rw [self]⟩
  rw [self]
  apply Reaction.other hmore hlast
  intro e he
  rcases List.mem_append.mp he with hnew | hreported
  · exact plain e hnew
  · exact reported_plain _ _ e hreported

theorem onMore_reacts (kind : ObjectKind) : wlp (onMore body) (fun _ => Reacts kind.more body none ctx)
    (fun e => Reacts kind.more body (some e) ctx) ctx := by
  rw [onMore, wlp_bind, wlp_get]
  dsimp only
  split
  · next long =>
      refine wlp_bind.mpr (wlp_modify.mpr (wlp_fail.mpr ⟨⟨[], (List.append_nil _).symm, ?_⟩, ?_⟩))
      · rw [KeyMap.get_erase, if_pos rfl]
        exact .overflow kind rfl _ long
      · intro other hother
        rw [KeyMap.get_erase, if_neg (Ne.symm hother)]
  · next fits =>
      refine wlp_modify.mpr ⟨⟨[], (List.append_nil _).symm, ?_⟩, ?_⟩
      · rw [KeyMap.get_insert_self]
        exact .more kind rfl (Nat.le_of_not_lt fits)
      · intro other hother
        rw [KeyMap.get_insert_of_ne (Ne.symm hother)]

theorem takeObject_takes {Q : Bytes → ResourceContext MmiResource → Prop}
    {E : Error → ResourceContext MmiResource → Prop}
    (h : Q (ctx.self.fragments[ctx.sessionId]?.getD [] ++ body)
      { ctx with self := { fragments := ctx.self.fragments.erase ctx.sessionId } }) :
    wlp (takeObject body) Q E ctx := by
  rw [takeObject, wlp_bind, wlp_get]
  cases hobject : ctx.self.fragments[ctx.sessionId]? with
  | some object =>
      rw [hobject] at h
      exact wlp_bind.mpr (wlp_modify.mpr (wlp_pure.mpr h))
  | none =>
      rw [hobject, KeyMap.erase_of_none hobject] at h
      exact wlp_pure.mpr h

theorem take_reacts (kind : ObjectKind) {m : Bytes → Act Error (ResourceContext MmiResource) Unit}
    (hm : ∀ (object : Bytes) (ctx' : ResourceContext MmiResource), ∃ e,
      kind.Delivers ctx.slotId ctx.sessionId object e ∧ m object ctx' = ResourceContext.event e ctx') :
    wlp (takeObject body >>= m) (fun _ => Reacts kind.last body none ctx)
      (fun e => Reacts kind.last body (some e) ctx) ctx := by
  apply wlp_bind.mpr
  apply takeObject_takes
  obtain ⟨e, hdelivers, hrun⟩ := hm (ctx.self.fragments[ctx.sessionId]?.getD [] ++ body)
    { ctx with self := { fragments := ctx.self.fragments.erase ctx.sessionId } }
  refine (wlp_congr hrun).mpr (wlp_modify.mpr ⟨⟨[e], rfl, ?_⟩, ?_⟩)
  · rw [KeyMap.get_erase, if_pos rfl]
    exact .last kind rfl e hdelivers
  · intro other hother
    rw [KeyMap.get_erase, if_neg (Ne.symm hother)]

theorem parseMenu_ok (object : Bytes) : ∃ menu, parseMenu object = .ok menu := by
  have h := parseMenu_sat object
  cases hparse : parseMenu object with
  | ok menu => exact ⟨menu, rfl⟩
  | err e =>
      rw [hparse] at h
      exact h.elim
  | panic =>
      rw [hparse] at h
      exact h.elim

theorem parseEnq_plain (slotId : UInt8) (sessionId : UInt16) (body : Bytes) :
    (parseEnq slotId sessionId body).Yields fun e => e.isObject = false := by
  unfold parseEnq
  split
  · exact yields_err _
  · iterate 3 apply yields_bind; intro _
    exact yields_ok rfl

theorem onApdu_reacts : wlp (onApdu tag body) (fun _ => Reacts tag body none ctx)
    (fun e => Reacts tag body (some e) ctx) ctx := by
  rw [onApdu, wlp_bind, wlp_get]
  split
  · next hmore =>
      rcases hmore with rfl | rfl | rfl
      · exact onMore_reacts .text
      · exact onMore_reacts .menu
      · exact onMore_reacts .list
  next hmore =>
  have more (kind : ObjectKind) : tag ≠ kind.more := by
    intro htag
    apply hmore
    cases kind <;> simp [htag, ObjectKind.more]
  split
  · next htag =>
      subst htag
      refine wlp_bind.mpr (wlp_modify.mpr (wlp_modify.mpr ?_))
      exact .still more (fun kind => by cases kind <;> decide) rfl rfl (by simp [CaEvent.isObject])
  split
  · next htag =>
      subst htag
      have last : ∀ kind : ObjectKind, ApduTag.displayControl ≠ kind.last := fun kind => by cases kind <;> decide
      refine wlp_bind.mpr (wlp_get.mpr (wlp_zoom.mpr (wlp_mono (Q := fun _ _ => True) (E := fun _ _ => True)
        ⟨fun _ _ => trivial, fun _ _ => trivial⟩ (fun _ _ _ => ?_) fun _ _ _ => ?_)))
      · exact .still more last rfl (List.append_nil _).symm (by rintro _ ⟨⟩)
      · exact .still more last rfl (List.append_nil _).symm (by rintro _ ⟨⟩)
  split
  · next htag =>
      subst htag
      exact take_reacts .text fun object ctx' => ⟨_, rfl, rfl⟩
  split
  · next htag =>
      subst htag
      have last : ∀ kind : ObjectKind, ApduTag.enq ≠ kind.last := fun kind => by cases kind <;> decide
      refine wlp_bind.mpr (wlp_lift.mpr ⟨fun e he => wlp_modify.mpr ?_, fun e _ => ?_⟩)
      · refine .still more last rfl rfl fun made hmade => ?_
        rw [List.mem_singleton.mp hmade]
        exact parseEnq_plain _ _ _ e he
      · exact .still more last rfl (List.append_nil _).symm (by rintro _ ⟨⟩)
  split
  · next htag =>
      subst htag
      apply take_reacts .menu
      intro object ctx'
      obtain ⟨menu, hmenu⟩ := parseMenu_ok object
      refine ⟨_, ⟨menu, hmenu, rfl⟩, ?_⟩
      rw [hmenu]
      rfl
  split
  · next htag =>
      subst htag
      apply take_reacts .list
      intro object ctx'
      obtain ⟨menu, hmenu⟩ := parseMenu_ok object
      refine ⟨_, ⟨menu, hmenu, rfl⟩, ?_⟩
      rw [hmenu]
      rfl
  · next htext _ hmenu hlist =>
      apply wlp_fail.mpr
      refine .still more (fun kind => ?_) rfl (List.append_nil _).symm (by rintro _ ⟨⟩)
      cases kind with
      | text => exact htext
      | menu => exact hmenu
      | list => exact hlist

end MmiResource

inductive MmiOp where
  | apdu (slotId : UInt8) (sessionId : UInt16) (tag : ApduTag) (body : Bytes)
  | close (sessionId : UInt16)

def MmiOp.run : MmiOp → Act Error CiSession Unit
  | apdu slotId sessionId tag body => do
      let (result, _) ← runCallback slotId sessionId (ResourceRegistry.onApdu .mmi tag body)
      resourceResult slotId result
  | close sessionId => modify fun s => { s with resources := s.resources.onClose sessionId .mmi }

structure MmiLabel where
  start : CiSession
  op : MmiOp
  events : List CaEvent

structure MmiStep (self : MmiResource) (label : MmiLabel) (self' : MmiResource) : Prop where
  before : label.start.resources.mmi = self
  runs : ∃ (reply : Except Error Unit) (s' : CiSession), label.op.run label.start = (Outcome.ofExcept reply, s') ∧
    s'.resources.mmi = self' ∧ s'.events = label.start.events ++ label.events

variable {self self' : MmiResource} {label : MmiLabel} {labels : List MmiLabel} {slotId : UInt8}
  {sessionId : UInt16} {tag : ApduTag} {body : Bytes} {s : CiSession}

def MmiOp.Leaves (slotId : UInt8) (sessionId : UInt16) (tag : ApduTag) (body : Bytes) (s s' : CiSession) : Prop :=
  (∃ new, s'.events = s.events ++ new ∧ Reaction slotId sessionId s.resources.mmi.fragments[sessionId]? tag body
    s'.resources.mmi.fragments[sessionId]? new) ∧
  ∀ other : UInt16, other ≠ sessionId → s'.resources.mmi.fragments[other]? = s.resources.mmi.fragments[other]?

theorem MmiOp.apdu_leaves : wlp (MmiOp.apdu slotId sessionId tag body).run
    (fun _ => MmiOp.Leaves slotId sessionId tag body s) (fun _ => MmiOp.Leaves slotId sessionId tag body s) s := by
  rw [MmiOp.run, wlp_bind, wlp_runCallback, ResourceRegistry.onApdu, wlp_zoom]
  refine wlp_mono MmiResource.onApdu_reacts (fun _ ctx h => ?_) fun e ctx h => ?_
  · obtain ⟨⟨new, hevents, hreaction⟩, hothers⟩ := h
    simp only [MmiResource.reported, List.append_nil] at hreaction
    exact wlp_pure.mpr ⟨⟨new, hevents, hreaction⟩, hothers⟩
  · obtain ⟨⟨new, hevents, hreaction⟩, hothers⟩ := h
    cases e with
    | invalidData context =>
        have hpushed := (congrArg (· ++ [.malformed slotId context]) hevents).trans (List.append_assoc ..)
        exact wlp_pushEvent.mpr ⟨⟨_, hpushed, hreaction⟩, hothers⟩
    | _ =>
        simp only [MmiResource.reported, List.append_nil] at hreaction
        exact wlp_fail.mpr ⟨⟨new, hevents, hreaction⟩, hothers⟩

theorem MmiStep.apdu (h : MmiStep self label self') (hop : label.op = .apdu slotId sessionId tag body) :
    Reaction slotId sessionId self.fragments[sessionId]? tag body self'.fragments[sessionId]? label.events ∧
      ∀ other : UInt16, other ≠ sessionId → self'.fragments[other]? = self.fragments[other]? := by
  obtain ⟨rfl, reply, s', hrun, rfl, hevents⟩ := h
  rw [hop] at hrun
  obtain ⟨⟨new, hnew, hreaction⟩, hothers⟩ := wlp_result MmiOp.apdu_leaves hrun
  rw [hnew, List.append_cancel_left_eq] at hevents
  subst hevents
  exact ⟨hreaction, hothers⟩

theorem MmiStep.close (h : MmiStep self label self') (hop : label.op = .close sessionId) :
    self' = self.onClose sessionId ∧ label.events = [] := by
  obtain ⟨rfl, reply, s', hrun, rfl, hevents⟩ := h
  rw [hop] at hrun
  obtain ⟨_, rfl⟩ := Prod.mk.inj hrun
  refine ⟨rfl, ?_⟩
  simpa using hevents

theorem MmiOp.adds_events (op : MmiOp) (s : CiSession) :
    wlp op.run (fun _ s' => ∃ new, s'.events = s.events ++ new) (fun _ s' => ∃ new, s'.events = s.events ++ new) s := by
  cases op with
  | apdu slotId sessionId tag body =>
      refine wlp_mono MmiOp.apdu_leaves (fun _ s' h => ?_) fun _ s' h => ?_
      · obtain ⟨⟨new, hnew, _⟩, _⟩ := h
        exact ⟨new, hnew⟩
      · obtain ⟨⟨new, hnew, _⟩, _⟩ := h
        exact ⟨new, hnew⟩
  | close sessionId => exact wlp_modify.mpr ⟨[], (List.append_nil _).symm⟩

theorem MmiStep.of_run {op : MmiOp} {start s' : CiSession} {reply : Except Error Unit}
    (hrun : op.run start = (Outcome.ofExcept reply, s')) :
    ∃ label, label.op = op ∧ MmiStep start.resources.mmi label s'.resources.mmi ∧
      s'.events = start.events ++ label.events := by
  obtain ⟨new, hnew⟩ := wlp_result (MmiOp.adds_events op start) hrun
  exact ⟨⟨start, op, new⟩, rfl, ⟨rfl, reply, s', hrun, rfl, hnew⟩, hnew⟩

def Discusses (s s' : CiSession) : Prop :=
  ∃ labels rest, Run MmiStep s.resources.mmi labels s'.resources.mmi ∧
    s'.events = s.events ++ labels.flatMap MmiLabel.events ++ rest ∧ ∀ e ∈ rest, e.isObject = false

theorem Discusses.refl (s : CiSession) : Discusses s s := ⟨[], [], .nil, by simp, by rintro _ ⟨⟩⟩

theorem Discusses.after {op : MmiOp} {start s' s'' : CiSession} {reply : Except Error Unit}
    (hrun : op.run start = (Outcome.ofExcept reply, s')) (h : Discusses s' s'') : Discusses start s'' := by
  obtain ⟨label, _, hstep, hevents⟩ := MmiStep.of_run hrun
  obtain ⟨labels, rest, hlabels, hrest, hplain⟩ := h
  refine ⟨label :: labels, rest, hlabels.cons hstep, ?_, hplain⟩
  rw [hrest, hevents, List.flatMap_cons, List.append_assoc, List.append_assoc, List.append_assoc, List.append_assoc]

theorem dispatchItems_discusses (fuel : Nat) (data : Bytes) (closeSession : Bool) (s : CiSession) :
    wlp (dispatchItems slotId sessionId .mmi fuel data closeSession) (fun _ => Discusses s) (fun _ => Discusses s) s := by
  induction fuel generalizing data closeSession s with
  | zero => exact wlp_fault
  | succ fuel ih =>
      rw [dispatchItems, wlp_bind, wlp_lift]
      refine ⟨fun found _ => ?_, fun _ _ => .refl s⟩
      split
      · exact wlp_pure.mpr (.refl s)
      · next item rest _ =>
          refine wlp_bind.mpr (wlp_mono (wlp_self _ _) (fun called s₁ hcalled => ?_) fun e s₁ hcalled => ?_)
          · obtain ⟨result, close⟩ := called
            have hrun : (MmiOp.apdu slotId sessionId item.tag item.body).run s = resourceResult slotId result s₁ :=
              bind_run hcalled
            refine wlp_bind.mpr (wlp_mono (wlp_self _ _) (fun _ s₂ hresult => ?_) fun e s₂ hresult => ?_)
            · have hcall {s' : CiSession} (h : Discusses s₂ s') : Discusses s s' :=
                @Discusses.after _ _ _ _ (.ok ()) (hrun.trans hresult) h
              exact wlp_mono (ih rest _ s₂) (fun _ _ => hcall) fun _ _ => hcall
            · exact @Discusses.after _ _ _ _ (.error e) (hrun.trans hresult) (.refl s₂)
          · have hrun : (MmiOp.apdu slotId sessionId item.tag item.body).run s = (.err e, s₁) := bind_run_err hcalled
            exact @Discusses.after _ _ _ _ (.error e) hrun (.refl s₁)
      · next context _ _ =>
          refine wlp_bind.mpr (wlp_pushEvent.mpr (wlp_pure.mpr ⟨[], [.malformed slotId context], .nil, ?_, ?_⟩))
          · simp
          · intro e he
            rw [List.mem_singleton.mp he]
            rfl
      · exact wlp_fail.mpr (.refl s)

end LibDvb
