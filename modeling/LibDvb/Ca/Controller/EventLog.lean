import LibDvb.Ca.Controller.CamStatus

namespace LibDvb

open Relation

-- What an application knows that follows the events.
@[ext] structure View where
  status : UInt8 → CaSlotStatus := fun _ => .absent
  cam : UInt8 → CamStatus := fun _ => .none
  session : UInt16 → Option (UInt8 × ResourceId) := fun _ => none

namespace View

variable {o o' : View} {e : CaEvent} {events events' : List CaEvent}

def after (o : View) : CaEvent → View
  | .slotStatusChanged slotId _ new => { o with status := Function.update o.status slotId new }
  | .camStatusChanged slotId _ new => { o with cam := Function.update o.cam slotId new }
  | .sessionOpened slotId sessionId resourceId =>
      { o with session := Function.update o.session sessionId (some (slotId, resourceId)) }
  | .sessionClosed _ sessionId _ => { o with session := Function.update o.session sessionId none }
  | _ => o

-- The event goes on from what is known. A slot changes its status without open sessions only.
def Admits (o : View) : CaEvent → Prop
  | .slotStatusChanged slotId old _ => o.status slotId = old ∧
      ∀ sessionId resourceId, o.session sessionId ≠ some (slotId, resourceId)
  | .camStatusChanged slotId old _ => o.cam slotId = old
  | .sessionOpened _ sessionId _ => o.session sessionId = none
  | .sessionClosed slotId sessionId resourceId => o.session sessionId = some (slotId, resourceId)
  | _ => True

def replay (o : View) (events : List CaEvent) : View := events.foldl after o

def AdmitsAll : View → List CaEvent → Prop
  | _, [] => True
  | o, e :: rest => o.Admits e ∧ AdmitsAll (o.after e) rest

theorem replay_append : o.replay (events ++ events') = (o.replay events).replay events' :=
  List.foldl_append

theorem admitsAll_append : o.AdmitsAll (events ++ events') ↔
    o.AdmitsAll events ∧ (o.replay events).AdmitsAll events' := by
  induction events generalizing o with
  | nil => simp [AdmitsAll, replay]
  | cons e rest ih => simp [AdmitsAll, replay, ih, and_assoc]

theorem admitsAll_snoc : o.AdmitsAll (events ++ [e]) ↔ o.AdmitsAll events ∧ (o.replay events).Admits e := by
  rw [admitsAll_append]
  simp [AdmitsAll]

theorem after_session (hs : e.OfSession) (h : o.session = o'.session) :
    (o.after e).session = (o'.after e).session := by
  cases e <;> first | exact h | simp [after, h]

theorem admits_session (hs : e.OfSession) (h : o.session = o'.session) (ha : o.Admits e) : o'.Admits e := by
  cases e with
  | slotStatusChanged => exact hs.elim
  | camStatusChanged => exact hs.elim
  | sessionOpened slotId sessionId resourceId => exact (congrFun h sessionId).symm.trans ha
  | sessionClosed slotId sessionId resourceId => exact (congrFun h sessionId).symm.trans ha
  | _ => trivial

theorem replay_session (hs : ∀ e ∈ events, e.OfSession) (h : o.session = o'.session) :
    (o.replay events).session = (o'.replay events).session := by
  induction events generalizing o o' with
  | nil => exact h
  | cons e rest ih =>
      exact ih (fun other hmem => hs other (List.mem_cons_of_mem _ hmem))
        (after_session (hs e List.mem_cons_self) h)

theorem admitsAll_session (hs : ∀ e ∈ events, e.OfSession) (h : o.session = o'.session)
    (ha : o.AdmitsAll events) : o'.AdmitsAll events := by
  induction events generalizing o o' with
  | nil => trivial
  | cons e rest ih =>
      obtain ⟨hfirst, hrest⟩ := ha
      have he := hs e List.mem_cons_self
      exact ⟨admits_session he h hfirst, ih (fun other hmem => hs other (List.mem_cons_of_mem _ hmem))
        (after_session he h) hrest⟩

theorem plain_after (h : e.Plain) : o.after e = o ∧ o.Admits e := by
  cases e with
  | slotStatusChanged => exact h.elim
  | camStatusChanged => exact h.elim
  | sessionOpened => exact h.elim
  | sessionClosed => exact h.elim
  | _ => exact ⟨rfl, trivial⟩

end View

namespace CiSession

variable {A V : UInt8 → Prop} {s s' : CiSession}

def table (s : CiSession) (sessionId : UInt16) : Option (UInt8 × ResourceId) :=
  (s.session sessionId).map fun session => (session.slotId, session.resourceId)

theorem table_sessionIdOf {index : Nat} (h : index < 65535) : s.table (sessionIdOf index) =
    (s.entry index).map fun session => (session.slotId, session.resourceId) := by
  rw [table, session_sessionIdOf s h]

theorem table_eq {f : UInt16 → Option (UInt8 × ResourceId)} (hzero : f 0 = none)
    (h : ∀ index, index < 65535 → f (sessionIdOf index) =
      (s.entry index).map fun session => (session.slotId, session.resourceId)) : s.table = f := by
  funext sessionId
  by_cases hz : sessionId = 0
  · subst hz
    rw [hzero]
    rfl
  · have hpos : sessionId.toNat ≠ 0 := fun he => hz (UInt16.toNat_inj.mp he)
    have hlt : sessionId.toNat - 1 < 65535 := by
      have := sessionId.toNat_lt
      omega
    have hid : sessionId = sessionIdOf (sessionId.toNat - 1) := by
      rw [← UInt16.toNat_inj, toNat_sessionIdOf hlt]
      omega
    rw [hid, table_sessionIdOf hlt, h _ hlt]

theorem sessionIdOf_ne_zero {index : Nat} (h : index < 65535) : sessionIdOf index ≠ 0 := by
  intro he
  have := toNat_sessionIdOf h
  rw [he] at this
  simp at this

theorem table_zero : s.table 0 = none := rfl

theorem table_update {index : Nat} (hlt : index < 65535) (entry : Option Session)
    (h : ∀ other, s'.entry other = if index = other then entry else s.entry other) :
    s'.table = Function.update s.table (sessionIdOf index)
      (entry.map fun session => (session.slotId, session.resourceId)) := by
  apply table_eq
  · rw [Function.update_of_ne (sessionIdOf_ne_zero hlt).symm]
    exact table_zero
  · intro other hother
    rw [h other]
    by_cases heq : index = other
    · rw [if_pos heq, heq, Function.update_self]
    · have hne : sessionIdOf other ≠ sessionIdOf index :=
        fun he => heq (sessionIdOf_inj hother hlt he).symm
      rw [if_neg heq, Function.update_of_ne hne, table_sessionIdOf hother]

theorem table_congr (h : s'.sessions = s.sessions) : s'.table = s.table := by
  funext sessionId
  rw [table, table, session, session, h]

theorem Move.logged {o : View} (h : s.Consistent) (hm : Move A V s s')
    (hwhole : pending s'.transport.trace = false) (ha : o.AdmitsAll s.events)
    (htable : (o.replay s.events).session = s.table) :
    o.AdmitsAll s'.events ∧ (o.replay s'.events).session = s'.table ∧
      ∀ slotId sessionId resourceId, .sessionOpened slotId sessionId resourceId ∈ s'.events →
        .sessionOpened slotId sessionId resourceId ∈ s.events ∨ A slotId := by
  have htold {e : CaEvent} (hafter : ∀ o : View, o.after e = o ∧ o.Admits e)
      (hopen : ∀ slotId sessionId resourceId, e ≠ .sessionOpened slotId sessionId resourceId)
      (hsame : s'.sessions = s.sessions) (hevents : s'.events = s.events ++ [e]) :
      o.AdmitsAll s'.events ∧ (o.replay s'.events).session = s'.table ∧
        ∀ slotId sessionId resourceId, .sessionOpened slotId sessionId resourceId ∈ s'.events →
          .sessionOpened slotId sessionId resourceId ∈ s.events ∨ A slotId := by
    rw [hevents, View.admitsAll_snoc, View.replay_append, table_congr hsame]
    refine ⟨⟨ha, (hafter _).2⟩, ?_, ?_⟩
    · rw [← htable]
      exact congrArg View.session (hafter _).1
    · intro slotId sessionId resourceId hmem
      rcases List.mem_append.mp hmem with hmem | hmem
      · exact .inl hmem
      · exact absurd (List.mem_singleton.mp hmem).symm (hopen slotId sessionId resourceId)
  have hsame (hsessions : s'.sessions = s.sessions) (hevents : s'.events = s.events) :
      o.AdmitsAll s'.events ∧ (o.replay s'.events).session = s'.table ∧
        ∀ slotId sessionId resourceId, .sessionOpened slotId sessionId resourceId ∈ s'.events →
          .sessionOpened slotId sessionId resourceId ∈ s.events ∨ A slotId := by
    rw [hevents, table_congr hsessions]
    exact ⟨ha, htable, fun _ _ _ hmem => .inl hmem⟩
  cases hm with
  | link move quiet => exact hsame rfl rfl
  | event plain slot =>
      refine htold (fun o => View.plain_after plain) ?_ rfl rfl
      rintro slotId sessionId resourceId rfl
      exact plain
  | @opened slotId kind t slot notice bound count path whole =>
      have hnone : s.table (sessionIdOf s.freshIndex) = none := by
        rw [table_sessionIdOf h.freshIndex_lt, entry_freshIndex, Option.map_none]
      have hupdate : (s.opened slotId kind t).table = Function.update s.table
          (sessionIdOf s.freshIndex) (some (slotId, kind.resourceId)) :=
        table_update h.freshIndex_lt _ entry_allocated
      have hevents : (s.opened slotId kind t).events =
          s.events ++ [.sessionOpened slotId (sessionIdOf s.freshIndex) kind.resourceId] := rfl
      rw [hevents, View.admitsAll_snoc, View.replay_append, hupdate, ← htable]
      refine ⟨⟨ha, ?_⟩, rfl, ?_⟩
      · rw [View.Admits, htable]
        exact hnone
      · intro other sessionId resourceId hmem
        rcases List.mem_append.mp hmem with hmem | hmem
        · exact .inl hmem
        · cases List.mem_singleton.mp hmem
          exact .inr slot
  | openFailed slot bound count path broken =>
      exact absurd (broken.symm.trans hwhole) nofun
  | @closed index session live slot =>
      have hlt := h.index_lt live
      have hknown : s.table (sessionIdOf index) = some (session.slotId, session.resourceId) := by
        rw [table_sessionIdOf hlt, live, Option.map_some]
      have hupdate : (s.freed index session).table = Function.update s.table (sessionIdOf index) none :=
        table_update hlt none (entry_freed live)
      have hevents : (s.freed index session).events =
          s.events ++ [.sessionClosed session.slotId (sessionIdOf index) session.resourceId] := rfl
      rw [hevents, View.admitsAll_snoc, View.replay_append, hupdate, ← htable]
      refine ⟨⟨ha, ?_⟩, rfl, ?_⟩
      · rw [View.Admits, htable]
        exact hknown
      · intro other sessionId resourceId hmem
        rcases List.mem_append.mp hmem with hmem | hmem
        · exact .inl hmem
        · cases List.mem_singleton.mp hmem
  | @turned index session state live mmi slot =>
      have hlt := h.index_lt live
      have hupdate := table_update hlt _ (entry_turned live state)
      have hknown : s.table (sessionIdOf index) = some (session.slotId, session.resourceId) := by
        rw [table_sessionIdOf hlt, live, Option.map_some]
      rw [Option.map_some, ← hknown, Function.update_eq_self] at hupdate
      rw [hupdate]
      exact ⟨ha, htable, fun _ _ _ hmem => .inl hmem⟩
  | @appInfo sessionId session info known slot =>
      exact htold (e := .applicationInfo session.slotId info) (fun o => ⟨rfl, trivial⟩)
        (fun _ _ _ he => nomatch he) rfl rfl
  | @caInfo sessionId session caids t known slot notice path whole =>
      exact htold (e := .caInfo session.slotId sessionId caids) (fun o => ⟨rfl, trivial⟩)
        (fun _ _ _ he => nomatch he) rfl rfl
  | caInfoFailed known slot path broken => exact hsame rfl rfl
  | dateTime keys others => exact hsame rfl rfl
  | mmi fragment live mmi slot => exact hsame rfl rfl

end CiSession

namespace CiController

variable {V : UInt8 → Prop} {c c' : CiController} {slotId other : UInt8} {slot : ControllerSlot}
  {past : List CaEvent}

-- What `status`, `cam_status` and the session table say.
def view (c : CiController) : View where
  status slotId := (c.slots[slotId.toNat]?.getD {}).status
  cam slotId := (c.slots[slotId.toNat]?.getD {}).camStatus
  session := c.session.table

theorem view_status (known : c.slots[slotId.toNat]? = some slot) : c.view.status slotId = slot.status := by
  simp [view, known]

theorem view_cam (known : c.slots[slotId.toNat]? = some slot) : c.view.cam slotId = slot.camStatus := by
  simp [view, known]

theorem live_view : c.Live slotId ↔ c.view.status slotId = .active := by
  rw [live_iff]
  cases hslot : c.slots[slotId.toNat]? with
  | none => simp [view, hslot]
  | some slot => simp [view, hslot]

theorem view_edit {α : Type} {f : ControllerSlot → ControllerSlot} (get : ControllerSlot → α)
    (known : c.slots[slotId.toNat]? = some slot) :
    (fun other : UInt8 => get ((c.edit slotId f).slots[other.toNat]?.getD {})) =
      Function.update (fun other : UInt8 => get (c.slots[other.toNat]?.getD {})) slotId (get (f slot)) := by
  funext other
  rw [getElem?_edit]
  by_cases heq : slotId = other
  · subst heq
    rw [if_pos rfl, known, Option.map_some, Option.getD_some, Function.update_self]
  · rw [if_neg heq, Function.update_of_ne (Ne.symm heq)]

theorem view_edit_same {α : Type} {f : ControllerSlot → ControllerSlot} (get : ControllerSlot → α)
    (hf : ∀ slot, get (f slot) = get slot) :
    (fun other : UInt8 => get ((c.edit slotId f).slots[other.toNat]?.getD {})) =
      fun other : UInt8 => get (c.slots[other.toNat]?.getD {}) := by
  funext other
  rw [getElem?_edit]
  split
  · cases c.slots[other.toNat]? with
    | none => rfl
    | some slot => exact hf slot
  · rfl

def log (c : CiController) (past : List CaEvent) : View := View.replay {} (past ++ c.events)

structure Logged (past : List CaEvent) (c : CiController) : Prop where
  admitted : View.AdmitsAll {} (past ++ c.events)
  waiting : (c.log past).AdmitsAll c.session.events
  status : (c.log past).status = c.view.status
  cam : (c.log past).cam = c.view.cam
  table : ((c.log past).replay c.session.events).session = c.session.table
  live : ∀ sessionId other resourceId, (c.log past).session sessionId = some (other, resourceId) → c.Live other
  opening : ∀ other sessionId resourceId,
    .sessionOpened other sessionId resourceId ∈ c.session.events → c.Live other

theorem Logged.same (h : c.Logged past) (events : c'.events = c.events)
    (waiting : c'.session.events = c.session.events) (sessions : c'.session.sessions = c.session.sessions)
    (status : c'.view.status = c.view.status) (cam : c'.view.cam = c.view.cam) : c'.Logged past := by
  have hlive (other : UInt8) : c'.Live other ↔ c.Live other := by
    rw [live_view, live_view, status]
  have hlog : c'.log past = c.log past := by rw [log, log, events]
  constructor
  · rw [events]
    exact h.admitted
  · rw [hlog, waiting]
    exact h.waiting
  · rw [hlog, status]
    exact h.status
  · rw [hlog, cam]
    exact h.cam
  · rw [hlog, waiting, CiSession.table_congr sessions]
    exact h.table
  · intro sessionId other resourceId hknown
    rw [hlive]
    rw [hlog] at hknown
    exact h.live sessionId other resourceId hknown
  · intro other sessionId resourceId hmem
    rw [hlive]
    rw [waiting] at hmem
    exact h.opening other sessionId resourceId hmem

theorem Logged.emitted (h : c.Logged past) (hs : ∀ e ∈ c.session.events, e.OfSession) {e : CaEvent} (events : c'.events = c.events ++ [e])
    (waiting : c'.session.events = c.session.events) (sessions : c'.session.sessions = c.session.sessions)
    (admits : (c.log past).Admits e) (untold : ((c.log past).after e).session = (c.log past).session)
    (status : c'.view.status = ((c.log past).after e).status)
    (cam : c'.view.cam = ((c.log past).after e).cam)
    (live : ∀ sessionId other resourceId, (c.log past).session sessionId = some (other, resourceId) →
      c'.Live other)
    (opening : ∀ other sessionId resourceId,
      .sessionOpened other sessionId resourceId ∈ c.session.events → c'.Live other) : c'.Logged past := by
  have hlog : c'.log past = (c.log past).after e := by
    rw [log, log, events, ← List.append_assoc, View.replay_append]
    rfl
  constructor
  · rw [events, ← List.append_assoc, View.admitsAll_snoc]
    exact ⟨h.admitted, admits⟩
  · rw [hlog, waiting]
    exact View.admitsAll_session hs untold.symm h.waiting
  · rw [hlog, status]
  · rw [hlog, cam]
  · rw [hlog, waiting, CiSession.table_congr sessions, ← h.table]
    exact View.replay_session hs untold
  · intro sessionId other resourceId hknown
    rw [hlog, untold] at hknown
    exact live sessionId other resourceId hknown
  · intro other sessionId resourceId hmem
    rw [waiting] at hmem
    exact opening other sessionId resourceId hmem

theorem Logged.told (h : c.Logged past) (hs : ∀ e ∈ c.session.events, e.OfSession) {e : CaEvent}
    (silent : ∀ o : View, o.after e = o ∧ o.Admits e) : (c.emit [e]).Logged past := by
  have hafter := (silent (c.log past)).1
  refine h.emitted hs rfl rfl rfl (silent _).2 (by rw [hafter]) ?_ ?_ h.live h.opening
  · rw [hafter]
    exact h.status.symm
  · rw [hafter]
    exact h.cam.symm

theorem Logged.passed (h : c.Logged past) {e : CaEvent} {rest : List CaEvent}
    (queued : c.session.events = e :: rest) (hs : e.OfSession) : ((c.popped rest).emit [e]).Logged past := by
  have hwaiting := h.waiting
  have htable := h.table
  rw [queued] at hwaiting htable
  have hlog : ((c.popped rest).emit [e]).log past = (c.log past).after e := by
    rw [log, log]
    show View.replay {} (past ++ (c.events ++ [e])) = _
    rw [← List.append_assoc, View.replay_append]
    rfl
  have hview : ((c.log past).after e).status = (c.log past).status ∧
      ((c.log past).after e).cam = (c.log past).cam := by
    cases e <;> first | exact ⟨rfl, rfl⟩ | exact hs.elim
  constructor
  · show View.AdmitsAll {} (past ++ (c.events ++ [e]))
    rw [← List.append_assoc, View.admitsAll_snoc]
    exact ⟨h.admitted, hwaiting.1⟩
  · rw [hlog]
    exact hwaiting.2
  · rw [hlog, hview.1]
    exact h.status
  · rw [hlog, hview.2]
    exact h.cam
  · rw [hlog]
    exact htable
  · intro sessionId other resourceId hknown
    rw [hlog] at hknown
    have hold : (c.log past).session sessionId = some (other, resourceId) ∨
        e = .sessionOpened other sessionId resourceId := by
      cases e with
      | sessionOpened slotId openedId openedResource =>
          by_cases heq : openedId = sessionId
          · subst heq
            right
            simp only [View.after, Function.update_self, Option.some.injEq, Prod.mk.injEq] at hknown
            rw [hknown.1, hknown.2]
          · left
            simp only [View.after, Function.update_of_ne (Ne.symm heq)] at hknown
            exact hknown
      | sessionClosed slotId closedId closedResource =>
          left
          by_cases heq : closedId = sessionId
          · subst heq
            simp [View.after] at hknown
          · simp only [View.after, Function.update_of_ne (Ne.symm heq)] at hknown
            exact hknown
      | slotStatusChanged => exact hs.elim
      | camStatusChanged => exact hs.elim
      | _ => exact .inl hknown
    rcases hold with hold | rfl
    · exact h.live sessionId other resourceId hold
    · exact h.opening other sessionId resourceId (queued ▸ List.mem_cons_self)
  · intro other sessionId resourceId hmem
    exact h.opening other sessionId resourceId (queued ▸ List.mem_cons_of_mem _ hmem)

theorem Logged.turn (h : c.Logged past) (hs : ∀ e ∈ c.session.events, e.OfSession) (known : c.slots[slotId.toNat]? = some slot)
    (new : CaSlotStatus)
    (sessions : ∀ sessionId resourceId, (c.log past).session sessionId ≠ some (slotId, resourceId))
    (opening : ∀ sessionId resourceId, .sessionOpened slotId sessionId resourceId ∉ c.session.events) :
    (c.turn slotId slot.status new).Logged past := by
  have hstatus : (c.turn slotId slot.status new).view.status = Function.update c.view.status slotId new :=
    view_edit ControllerSlot.status known
  have hlive (other : UInt8) (hne : other ≠ slotId) (hlive : c.Live other) :
      (c.turn slotId slot.status new).Live other := (live_turn hne.symm).mpr hlive
  refine h.emitted hs rfl rfl rfl ⟨?_, sessions⟩ rfl ?_ ?_ ?_ ?_
  · rw [h.status, view_status known]
  · rw [hstatus, ← h.status]
    rfl
  · exact (view_edit_same (f := fun slot => { slot with status := new }) ControllerSlot.camStatus
      fun _ => rfl).trans h.cam.symm
  · intro sessionId other resourceId hknown
    refine hlive other ?_ (h.live sessionId other resourceId hknown)
    rintro rfl
    exact sessions sessionId resourceId hknown
  · intro other sessionId resourceId hmem
    refine hlive other ?_ (h.opening other sessionId resourceId hmem)
    rintro rfl
    exact opening sessionId resourceId hmem

theorem Logged.turn_idle (h : c.Logged past) (hs : ∀ e ∈ c.session.events, e.OfSession) (known : c.slots[slotId.toNat]? = some slot)
    (idle : slot.status ≠ .active) (new : CaSlotStatus) : (c.turn slotId slot.status new).Logged past := by
  have hlive : ¬ c.Live slotId := by
    rw [live_of_status known]
    exact idle
  apply h.turn hs known
  · intro sessionId resourceId hknown
    exact hlive (h.live sessionId slotId resourceId hknown)
  · intro sessionId resourceId hmem
    exact hlive (h.opening slotId sessionId resourceId hmem)

theorem Logged.renewed (h : c.Logged past) (hs : ∀ e ∈ c.session.events, e.OfSession) (known : c.slots[slotId.toNat]? = some slot) :
    (c.renew slotId slot.camStatus).Logged past := by
  have hcam : (c.renew slotId slot.camStatus).view.cam = Function.update c.view.cam slotId (c.camOf slotId) :=
    view_edit ControllerSlot.camStatus known
  have hstatus : (c.renew slotId slot.camStatus).view.status = c.view.status :=
    view_edit_same ControllerSlot.status fun _ => rfl
  by_cases hsame : slot.camStatus = c.camOf slotId
  · refine h.same ?_ rfl rfl hstatus ?_
    · show c.events ++ (if slot.camStatus ≠ c.camOf slotId then _ else []) = c.events
      rw [if_neg (not_not.mpr hsame), List.append_nil]
    · rw [hcam, ← hsame, ← view_cam known, Function.update_eq_self]
  · have hlive (other : UInt8) (hlive : c.Live other) : (c.renew slotId slot.camStatus).Live other := by
      rw [live_view, hstatus, ← live_view]
      exact hlive
    refine h.emitted hs (e := .camStatusChanged slotId slot.camStatus (c.camOf slotId)) ?_ rfl rfl ?_ rfl ?_ ?_
      ?_ ?_
    · show c.events ++ (if slot.camStatus ≠ c.camOf slotId then _ else []) = _
      rw [if_pos hsame]
    · show (c.log past).cam slotId = slot.camStatus
      rw [h.cam, view_cam known]
    · rw [hstatus, ← h.status]
      rfl
    · rw [hcam, ← h.cam]
      rfl
    · intro sessionId other resourceId hknown
      exact hlive other (h.live sessionId other resourceId hknown)
    · intro other sessionId resourceId hmem
      exact hlive other (h.opening other sessionId resourceId hmem)

theorem Logged.stepped (h : c.Logged past) {s : CiSession}
    (hm : CiSession.Move c.Live V c.session s) (hs : c.Sound) (whole : pending s.transport.trace = false) :
    Logged past { c with session := s } := by
  obtain ⟨hwaiting, htable, hopening⟩ := hm.logged hs.session whole h.waiting h.table
  refine ⟨h.admitted, hwaiting, h.status, h.cam, htable, h.live, ?_⟩
  intro other sessionId resourceId hmem
  rcases hopening other sessionId resourceId hmem with hmem | hlive
  · exact h.opening other sessionId resourceId hmem
  · exact hlive

theorem Logged.skipped (h : c.Logged past) {e : CaEvent} {rest : List CaEvent}
    (queued : c.session.events = e :: rest) (silent : ∀ o : View, o.after e = o ∧ o.Admits e) :
    (c.popped rest).Logged past := by
  have hwaiting := h.waiting
  have htable := h.table
  rw [queued] at hwaiting htable
  have hafter : (c.log past).after e = c.log past := (silent _).1
  refine ⟨h.admitted, ?_, h.status, h.cam, ?_, h.live, ?_⟩
  · show (c.log past).AdmitsAll rest
    rw [← hafter]
    exact hwaiting.2
  · show ((c.log past).replay rest).session = c.session.table
    rw [← hafter]
    exact htable
  · intro other sessionId resourceId hmem
    exact h.opening other sessionId resourceId (queued ▸ List.mem_cons_of_mem _ hmem)

theorem table_vacant (hs : c.NoSession slotId) (sessionId : UInt16) (resourceId : ResourceId) :
    c.session.table sessionId ≠ some (slotId, resourceId) := by
  intro hknown
  rw [CiSession.table, Option.map_eq_some_iff] at hknown
  obtain ⟨session, hsession, hpair⟩ := hknown
  obtain ⟨index, _, _, _, live⟩ := CiSession.session_eq_some hsession
  exact hs index session live (congrArg Prod.fst hpair)

theorem Logged.move (h : c.Logged past) (hs : c.Sound) (hm : Move V c c')
    (whole : pending c'.trace = false) : c'.Logged past := by
  have hevents : ∀ e ∈ c.session.events, e.OfSession := fun e hmem => (hs.events e hmem).1
  cases hm with
  | session move => exact h.stepped move hs whole
  | @created slotId slot t known status notice path hwhole =>
      have ht : (c.withTransport t).Logged past := h.same rfl rfl rfl rfl rfl
      rw [← status]
      exact ht.turn_idle hevents known (by rw [status]; decide) .creatingTc
  | createFailed known status path broken => exact absurd (broken.symm.trans whole) nofun
  | @activated slotId slot rest queued known status notice =>
      have hsilent : ∀ o : View, o.after (.transportReady slotId) = o ∧ o.Admits (.transportReady slotId) :=
        fun o => ⟨rfl, trivial⟩
      have hrest : ∀ e ∈ rest, e.OfSession := fun e hmem => hevents e (queued ▸ List.mem_cons_of_mem _ hmem)
      have hpopped : ((c.popped rest).noted (.activated slotId)).Logged past :=
        (h.skipped queued hsilent).same rfl rfl rfl rfl rfl
      rw [← status]
      exact (hpopped.turn_idle hrest known (by rw [status]; decide) .active).told hrest hsilent
  | @passed event rest queued ready fresh notice =>
      exact h.passed queued (hevents event (queued ▸ List.mem_cons_self))
  | @refused slotId rest context queued notice =>
      have hrest : ∀ e ∈ rest, e.OfSession := fun e hmem => hevents e (queued ▸ List.mem_cons_of_mem _ hmem)
      exact (h.skipped queued fun o => ⟨rfl, trivial⟩).told hrest fun o => ⟨rfl, trivial⟩
  | renewed known notice => exact h.renewed hevents known
  | @turned slotId slot new known change notice rest present sessions idle receive collected =>
      by_cases hactive : slot.status = .active
      · have hempty := collected hactive
        apply h.turn hevents known
        · have htable := h.table
          rw [hempty] at htable
          intro sessionId resourceId hknown
          have hshown : (c.log past).session = c.session.table := htable
          rw [hshown] at hknown
          exact table_vacant sessions sessionId resourceId hknown
        · rw [hempty]
          exact fun _ _ => List.not_mem_nil
      · exact h.turn_idle hevents known hactive new
  | kept f status camStatus present receive =>
      exact h.same rfl rfl rfl (view_edit_same ControllerSlot.status status)
        (view_edit_same ControllerSlot.camStatus camStatus)
  | failed reason notice => exact h.told hevents fun o => ⟨rfl, trivial⟩
  | @programmed now change s due programmed =>
      obtain ⟨_, _, _, _, hsessions, hqueue, _⟩ := programmed.path
      exact h.same rfl hqueue hsessions rfl rfl
  | _ => exact h.same rfl rfl rfl rfl rfl

theorem Logged.step (h : c.Logged past) (hs : c.Sound) (hstep : Step c c') (whole : Whole c'.trace) :
    c'.Logged past := by
  cases hstep with
  | work work =>
      cases work with
      | move move => exact h.move hs move whole.pending
      | info slotId present ready =>
          exact h.same rfl rfl rfl (view_edit_same ControllerSlot.status fun _ => rfl)
            (view_edit_same ControllerSlot.camStatus fun _ => rfl)
  | flags => exact h.same rfl rfl rfl rfl rfl
  | reset => exact h.same rfl rfl rfl rfl rfl

theorem Logged.steps (h : c.Logged past) (hs : c.Sound) (hpath : ReflTransGen Step c c')
    (whole : Whole c'.trace) : c'.Logged past := by
  induction hpath with
  | refl => exact h
  | tail hpath hstep ih =>
      have hsound := hs.stepping hpath
      exact (ih (whole.of_initial (hstep.initial hsound))).step hsound hstep whole

theorem Logged.turned (h : c.Logged past) (hs : c.Settled) {op : ControllerOp}
    {reply : Except Error (Option CaEvent)} (ht : Turn c op reply c') (whole : Whole c'.trace) :
    c'.Logged (past ++ deliveredBy reply) := by
  obtain ⟨c₁, hpath, hevents, hsame⟩ := ht.steps
  have hpaced : Logged past { c with pacer := op.push c.pacer } := h.same rfl rfl rfl rfl rfl
  have hwhole : Whole c₁.trace := by
    rw [hsame] at whole
    exact whole
  have h₁ := hpaced.steps (hs.calm.sound.paced _) hpath hwhole
  have hpast : past ++ deliveredBy reply ++ c'.events = past ++ c₁.events := by
    rw [hevents, List.append_assoc]
  have hlog : c'.log (past ++ deliveredBy reply) = c₁.log past := by rw [log, log, hpast]
  have hview : c'.view = c₁.view := by
    rw [hsame]
    rfl
  have hsession : c'.session = c₁.session := by rw [hsame]
  have hlive (other : UInt8) : c'.Live other ↔ c₁.Live other := by rw [live_view, live_view, hview]
  constructor
  · rw [hpast]
    exact h₁.admitted
  · rw [hlog, hsession]
    exact h₁.waiting
  · rw [hlog, hview]
    exact h₁.status
  · rw [hlog, hview]
    exact h₁.cam
  · rw [hlog, hsession]
    exact h₁.table
  · intro sessionId other resourceId hknown
    rw [hlog] at hknown
    exact (hlive other).mpr (h₁.live sessionId other resourceId hknown)
  · intro other sessionId resourceId hmem
    rw [hsession] at hmem
    exact (hlive other).mpr (h₁.opening other sessionId resourceId hmem)

theorem logged_start (hc : Starts c) : c.Logged [] := by
  have hb := blank_start hc
  obtain ⟨link, slotsNum, hsession⟩ := hb.session
  have hevents : c.session.events = [] := by
    rw [hsession]
    rfl
  have hslot (slotId : UInt8) : c.slots[slotId.toNat]?.getD {} = {} := by
    cases hslot : c.slots[slotId.toNat]? with
    | none => rfl
    | some slot => exact hb.view hslot
  have hlog : c.log [] = {} := by
    rw [log, hb.events]
    rfl
  have htable : c.session.table = fun _ => none := by
    funext sessionId
    rw [hsession, CiSession.table, CiSession.session]
    split <;> rfl
  constructor
  · rw [hb.events]
    trivial
  · rw [hevents]
    trivial
  · rw [hlog]
    funext slotId
    exact (congrArg ControllerSlot.status (hslot slotId)).symm
  · rw [hlog]
    funext slotId
    exact (congrArg ControllerSlot.camStatus (hslot slotId)).symm
  · rw [hlog, hevents, htable]
    rfl
  · rw [hlog]
    rintro _ _ _ ⟨⟩
  · rw [hevents]
    rintro _ _ _ ⟨⟩

end CiController

def delivered (labels : List ControllerLabel) : List CaEvent :=
  labels.flatMap fun label => deliveredBy label.reply

theorem ControllerRun.logged {start c : CiController} {labels : List ControllerLabel}
    (h : ControllerRun start labels c) (hwhole : Whole c.trace) : c.Logged (delivered labels) := by
  have hrun := h.2.history (I := fun labels c => c.Settled ∧ (Whole c.trace → c.Logged (delivered labels)))
    ⟨CiController.settled_start h.1, fun _ => CiController.logged_start h.1⟩ ?_
  · exact hrun.2 hwhole
  · intro labels c label c' ih hstep
    obtain ⟨hsettled, hlogged⟩ := ih
    have hturn := CiController.step_turn hsettled hstep
    have hrelinked := hsettled.relinked label.link
    have hinitial := hturn.initial hrelinked
    refine ⟨hsettled.step hstep, fun hwhole => ?_⟩
    have hold : (CiController.linkLens.set label.link c).Logged (delivered labels) :=
      (hlogged (hwhole.of_initial hinitial)).same rfl rfl rfl rfl rfl
    have hnew := hold.turned hrelinked hturn hwhole
    have hdelivered : delivered (labels ++ [label]) = delivered labels ++ deliveredBy label.reply := by
      simp [delivered]
    rw [hdelivered]
    exact hnew

theorem event_log_complete {start c : CiController} {labels : List ControllerLabel}
    (h : ControllerRun start labels c) (hwhole : Whole c.trace) :
    View.AdmitsAll {} (delivered labels ++ c.events) ∧
      View.replay {} (delivered labels ++ c.events) = c.view := by
  have hlogged := h.logged hwhole
  refine ⟨hlogged.admitted, ?_⟩
  have hsession : (c.log (delivered labels)).session = c.view.session := by
    have htable := hlogged.table
    rw [h.settled.calm.collected] at htable
    exact htable
  exact View.ext hlogged.status hlogged.cam hsession

theorem handshake_accepted : ∀ obs ∈ afterHandshake.2.trace, obs.refused = false := by decide +kernel

theorem event_log_complete_handshake : ∃ start, ControllerRun start afterHandshake.1 afterHandshake.2 ∧
    View.AdmitsAll {} (delivered afterHandshake.1 ++ afterHandshake.2.events) ∧
      View.replay {} (delivered afterHandshake.1 ++ afterHandshake.2.events) = afterHandshake.2.view := by
  obtain ⟨start, hrun⟩ := handshake_run
  exact ⟨start, hrun, event_log_complete hrun handshake_accepted⟩

end LibDvb
