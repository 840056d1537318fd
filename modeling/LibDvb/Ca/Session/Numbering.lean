import LibDvb.Ca.Session.Turnover

namespace LibDvb

namespace CiSession

structure Numbered (slotsNum : UInt8) (s : CiSession) : Prop where
  perSlot : ∀ slotId, s.inUse slotId ≤ maxSlotSessions
  size : s.sessions.length ≤ slotsNum.toNat * maxSlotSessions
  whole : ∀ index, index ≤ s.sessions.length → (sessionIdOf index).toNat = index + 1
  range : ∀ index session, s.entry index = some session →
    1 ≤ (sessionIdOf index).toNat ∧ (sessionIdOf index).toNat ≤ slotsNum.toNat * maxSlotSessions
  found : ∀ index session, s.entry index = some session → s.session (sessionIdOf index) = some session
  place : ∀ sessionId session, s.session sessionId = some session →
    subU16 sessionId 1 = .ok (sessionId - 1) ∧ s.entry (sessionId - 1).toNat = some session ∧
      sessionIdOf (sessionId - 1).toNat = sessionId
  distinct : ∀ index other session session', s.entry index = some session →
    s.entry other = some session' → index ≠ other → sessionIdOf index ≠ sessionIdOf other
  zero : s.session 0 = none

structure LeastFree (s : CiSession) (sessionId : UInt16) : Prop where
  positive : sessionId ≠ 0
  free : s.session sessionId = none
  least : ∀ other, other ≠ 0 → other < sessionId → ∃ session, s.session other = some session

inductive Allots (s : CiSession) (slotId : UInt8) (resourceId : ResourceId) :
    Option UInt16 → CiSession → Prop
  | refused (full : maxSlotSessions ≤ s.inUse slotId) : Allots s slotId resourceId none s
  | allotted {sessionId : UInt16} {s' : CiSession} (room : s.inUse slotId < maxSlotSessions)
      (least : s.LeastFree sessionId)
      (taken : s'.session sessionId = some { slotId, resourceId, state := .active })
      (others : ∀ other, other ≠ sessionId → s'.session other = s.session other) :
      Allots s slotId resourceId (some sessionId) s'

variable {s : CiSession} {slotsNum slotId : UInt8} {sessionId : UInt16} {kind : ResourceKind}
  {index : Nat} {session : Session}

theorem Consistent.numbered (h : s.Consistent) (hlength : s.transport.slots.length = slotsNum.toNat) :
    s.Numbered slotsNum where
  perSlot := h.perSlot
  size := hlength ▸ h.size
  whole index hle := toNat_sessionIdOf (by have := h.size_le; omega)
  range index session live := by
    have hsize := h.size
    have hlt := Table.lt_of_entry live
    rw [toNat_sessionIdOf (h.index_lt live), ← hlength]
    exact ⟨Nat.le_add_left 1 index, hlt.trans_le hsize⟩
  found index session live := (session_sessionIdOf s (h.index_lt live)).trans live
  place sessionId session hsession := by
    obtain ⟨index, _, hindex, rfl, live⟩ := session_eq_some hsession
    rw [toNat_pred hindex]
    exact ⟨subU16_sessionIdOf hindex, live, rfl⟩
  distinct index other session session' live live' hne hid :=
    hne (sessionIdOf_inj (h.index_lt live) (h.index_lt live') hid)
  zero := if_pos rfl

theorem Consistent.leastFree (h : s.Consistent) : s.LeastFree (sessionIdOf s.freshIndex) where
  positive hzero := by
    have hnat := toNat_sessionIdOf h.freshIndex_lt
    rw [hzero] at hnat
    exact absurd hnat (by simp)
  free := (session_sessionIdOf s h.freshIndex_lt).trans (entry_freshIndex s)
  least other hne hlt := by
    rw [UInt16.lt_iff_toNat_lt, toNat_sessionIdOf h.freshIndex_lt] at hlt
    have hpos : other.toNat ≠ 0 := fun hz => hne (UInt16.toNat_inj.mp hz)
    rw [session_eq_entry s hne]
    exact Table.entry_of_lt_firstFree (show other.toNat - 1 < s.freshIndex by omega)

theorem Consistent.allots (h : s.Consistent) (hroom : s.inUse slotId < maxSlotSessions) :
    s.Allots slotId kind.resourceId (some (sessionIdOf s.freshIndex)) (s.allocated slotId kind) := by
  refine .allotted hroom h.leastFree ?_ fun other hne => ?_
  · rw [session_sessionIdOf _ h.freshIndex_lt, entry_allocated, if_pos rfl]
  · by_cases hzero : other = 0
    · subst hzero
      exact (if_pos rfl).trans (if_pos rfl).symm
    · rw [session_eq_entry _ hzero, session_eq_entry _ hzero, entry_allocated, if_neg]
      intro hplace
      have hpos : other.toNat ≠ 0 := fun hz => hzero (UInt16.toNat_inj.mp hz)
      refine hne (UInt16.toNat_inj.mp ?_)
      rw [toNat_sessionIdOf h.freshIndex_lt, hplace]
      omega

theorem Consistent.allocSession (h : s.Consistent) (hbound : slotId.toNat < s.transport.slots.length)
    (kind : ResourceKind) :
    ∃ result s', CiSession.allocSession slotId kind.resourceId s = (.ok result, s') ∧
      s.Allots slotId kind.resourceId result s' ∧ s'.Consistent ∧ s'.transport = s.transport := by
  by_cases hroom : s.inUse slotId < maxSlotSessions
  · have hrun : CiSession.allocSession slotId kind.resourceId s =
        (.ok (some (sessionIdOf s.freshIndex)), s.allocated slotId kind) :=
      Act.run_of_wp (wp_allocSession.mpr
        ⟨fun hfull => absurd hroom (Nat.not_lt.mpr hfull), fun _ => ⟨rfl, rfl⟩⟩)
    exact ⟨_, _, hrun, h.allots hroom, h.allocated hbound hroom, rfl⟩
  · have hfull := Nat.not_lt.mp hroom
    have hrun : CiSession.allocSession slotId kind.resourceId s = (.ok none, s) :=
      Act.run_of_wp (wp_allocSession.mpr ⟨fun _ => ⟨rfl, rfl⟩, fun hlt => absurd hlt hroom⟩)
    exact ⟨_, _, hrun, .refused hfull, h, rfl⟩

theorem freeSession_total (sessionId : UInt16) :
    Act.wp (freeSession sessionId) (fun _ _ => True) (fun _ _ => False) s := by
  rw [freeSession, Act.wp_bind, Act.wp_get]
  split
  · trivial
  · rw [Act.wp_bind, Act.wp_modify]
    dsimp only
    split
    · trivial
    · trivial

theorem closeSessionComplete_total (slotId : UInt8) (sessionId : UInt16) (status : UInt8) :
    Act.wp (closeSessionComplete slotId sessionId status) (fun _ _ => True) (fun _ _ => False) s := by
  rw [closeSessionComplete, Act.wp_bind, Act.wp_get]
  split
  · next session hsession =>
      obtain ⟨index, _, hindex, rfl, _⟩ := session_eq_some hsession
      split
      · split
        · exact freeSession_total _
        · rw [Act.wp_bind, subU16_sessionIdOf hindex]
          trivial
      · trivial
  · trivial

end CiSession

open CiSession

variable {slotsNum : UInt8} {labels : List SessionLabel} {s s' : CiSession} {label : SessionLabel}

theorem SessionStep.numbers (h : s.Consistent) (hstep : SessionStep s label s') {index : Nat}
    {session : Session} (live : s'.entry index = some session) :
    (∃ state, s.entry index = some { session with state }) ∨ s.LeastFree (sessionIdOf index) := by
  cases hstep.turnover h index with
  | same entry => exact .inl ⟨session.state, entry.symm.trans live⟩
  | opened fresh entry resources =>
      rw [fresh]
      exact .inr h.leastFree
  | @turned old state before entry =>
      rw [entry, Option.some.injEq] at live
      subst live
      exact .inl ⟨old.state, before⟩
  | dropped before op entry => cases entry.symm.trans live
  | closed before delivers request entry => cases entry.symm.trans live
  | completed before delivers response closing final entry => cases entry.symm.trans live

theorem session_numbers (h : SessionRun slotsNum labels s) :
    s.Numbered slotsNum ∧
      (∀ slotId (kind : ResourceKind), slotId.toNat < slotsNum.toNat →
        ∃ result s', allocSession slotId kind.resourceId s = (.ok result, s') ∧
          s.Allots slotId kind.resourceId result s' ∧ s'.Numbered slotsNum) ∧
      (∀ label s', SessionStep s label s' → ∀ index session, s'.entry index = some session →
        (∃ state, s.entry index = some { session with state }) ∨ s.LeastFree (sessionIdOf index)) ∧
      (∀ slotId sessionId status, (closeSessionComplete slotId sessionId status s).1 ≠ .panic) ∧
      ∀ link (op : SessionOp), (op.run (s.called link)).1 ≠ .panic := by
  obtain ⟨hconsistent, hlength⟩ := h.consistent
  refine ⟨hconsistent.numbered hlength, fun slotId kind hslot => ?_, fun label s' hstep index session live => ?_,
    fun slotId sessionId status => ?_, fun link op => ?_⟩
  · obtain ⟨result, s', hrun, hallots, hafter, htransport⟩ := hconsistent.allocSession (hlength ▸ hslot) kind
    exact ⟨result, s', hrun, hallots, hafter.numbered (htransport ▸ hlength)⟩
  · exact hstep.numbers hconsistent live
  · exact Act.wp_ne_panic (closeSessionComplete_total slotId sessionId status)
  · exact Act.wp_ne_panic (SessionOp.evolves (hconsistent.called link) (pending_called s link) op)

-- The modules in slots 1 and 0 open a session each, and the first of them is closed again.
def reclosed : List (CaDevice × SessionOp) :=
  [framed 1 [0x91, 4, 0x00, 0x03, 0x00, 0x41], framed 0 [0x91, 4, 0x00, 0x03, 0x00, 0x41],
    framed 1 [0x95, 2, 0, 1]]

theorem reclosed_isSome : (SessionOp.trail 2 reclosed).isSome := by decide +kernel

def afterReclosed : List SessionLabel × CiSession := (SessionOp.trail 2 reclosed).get reclosed_isSome

theorem session_numbers_reclosed :
    afterReclosed.2.Numbered 2 ∧
      (∀ slotId (kind : ResourceKind), slotId.toNat < (2 : UInt8).toNat →
        ∃ result s', allocSession slotId kind.resourceId afterReclosed.2 = (.ok result, s') ∧
          afterReclosed.2.Allots slotId kind.resourceId result s' ∧ s'.Numbered 2) ∧
      (∀ label s', SessionStep afterReclosed.2 label s' →
        ∀ index session, s'.entry index = some session →
          (∃ state, afterReclosed.2.entry index = some { session with state }) ∨
            afterReclosed.2.LeastFree (sessionIdOf index)) ∧
      (∀ slotId sessionId status,
        (closeSessionComplete slotId sessionId status afterReclosed.2).1 ≠ .panic) ∧
      ∀ link (op : SessionOp), (op.run (afterReclosed.2.called link)).1 ≠ .panic :=
  session_numbers (SessionRun.of_trail reclosed_isSome)

end LibDvb
