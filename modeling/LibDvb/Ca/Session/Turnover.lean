import LibDvb.Ca.Session.Delivery

namespace LibDvb

open CiSession

inductive Turnover (s : CiSession) (label : SessionLabel) (s' : CiSession) (index : Nat) : Prop
  | same (entry : s'.entry index = s.entry index)
  | opened {slotId kind} (fresh : index = s.freshIndex)
      (entry : s'.entry index = some { slotId, resourceId := kind.resourceId, state := .active })
      (resources : s'.resources = s.resources.opened kind slotId (sessionIdOf index) ∨
        s'.resources = s.resources)
  | turned {session : Session} {state} (live : s.entry index = some session)
      (entry : s'.entry index = some { session with state })
  | dropped {session} (live : s.entry index = some session) (op : label.op = .dropSlot session.slotId)
      (entry : s'.entry index = none)
  | closed {session spdu} (live : s.entry index = some session) (delivers : label.Delivers s session.slotId spdu)
      (request : Spdu.parse spdu = .ok (.closeSessionRequest (sessionIdOf index)))
      (entry : s'.entry index = none)
  | completed {session spdu status} (live : s.entry index = some session)
      (delivers : label.Delivers s session.slotId spdu)
      (response : Spdu.parse spdu = .ok (.closeSessionResponse status (sessionIdOf index)))
      (closing : session.state = .closing) (final : status = Spdu.ssOk ∨ status = Spdu.ssNotAllocated)
      (entry : s'.entry index = none)

namespace CiSession

variable {s s' : CiSession} {slotId : UInt8} {spdu : Bytes} {entries : List Obs} {label : SessionLabel}

theorem turnover_allocated {kind : ResourceKind} (sessions : s'.sessions = (s.allocated slotId kind).sessions)
    (resources : s'.resources = s.resources.opened kind slotId (sessionIdOf s.freshIndex) ∨
      s'.resources = s.resources) (index : Nat) : Turnover s label s' index := by
  have hentry := entry_congr sessions index
  rw [entry_allocated] at hentry
  split at hentry
  · next hfresh =>
      subst hfresh
      exact .opened rfl hentry resources
  · exact .same hentry

theorem Handled.turnover (h : Handled s slotId spdu s' entries) (hd : label.Delivers s slotId spdu) (index : Nat) :
    Turnover s label s' index := by
  cases h with
  | opened request granted sessions resources spoken => exact turnover_allocated sessions (.inl resources) index
  | refused request refused sessions resources => exact .same (entry_congr sessions index)
  | @closed place session request live slot sessions =>
      have hentry : s'.entry index = if place = index then none else s.entry index :=
        (entry_congr (s := s.freed place session) sessions index).trans (entry_freed live index)
      split at hentry
      · next hplace =>
          subst hplace slot
          exact .closed live hd request hentry
      · exact .same hentry
  | unknown request unknown sessions => exact .same (entry_congr sessions index)
  | @completed place session status response live slot closing final sessions =>
      have hentry : s'.entry index = if place = index then none else s.entry index :=
        (entry_congr (s := s.freed place session) sessions index).trans (entry_freed live index)
      split at hentry
      · next hplace =>
          subst hplace slot
          exact .completed live hd response closing final hentry
      · exact .same hentry
  | @revived place session status response live slot sessions =>
      have hentry := entry_congr sessions index
      rw [entry_turned live] at hentry
      split at hentry
      · next hplace =>
          subst hplace
          exact .turned live hentry
      · exact .same hentry
  | @asked place session data objects apdus live slot active spoken sessions =>
      have hentry := entry_congr sessions index
      rw [entry_turned live] at hentry
      split at hentry
      · next hplace =>
          subst hplace
          exact .turned live hentry
      · exact .same hentry
  | spoken apdus spoken sessions => exact .same (entry_congr sessions index)
  | ignored open_ close stale sessions resources => exact .same (entry_congr sessions index)

theorem Interrupted.turnover (h : Interrupted s slotId s') (index : Nat) : Turnover s label s' index := by
  cases h with
  | unchanged sessions resources => exact .same (entry_congr sessions index)
  | opened granted sessions resources => exact turnover_allocated sessions (.inr resources) index

end CiSession

variable {s s' : CiSession} {label : SessionLabel}

theorem SessionStep.turnover (h : s.Consistent) (hstep : SessionStep s label s') (index : Nat) :
    Turnover s label s' index := by
  cases hstep.stepped h with
  | responded delivers responds =>
      rcases responds with ⟨entries, hhandled, _⟩ | ⟨hinterrupted, _⟩
      · exact hhandled.turnover delivers index
      · exact hinterrupted.turnover index
  | talked sessions talks => exact .same (entry_congr sessions index)
  | @dropped slotId op kept tells =>
      cases hlive : s.entry index with
      | none =>
          cases hlive' : s'.entry index with
          | none => exact .same (hlive'.trans hlive.symm)
          | some session =>
              have hbefore := ((kept index session).mp hlive').1
              rw [hlive] at hbefore
              cases hbefore
      | some session =>
          by_cases hslot : session.slotId = slotId
          · refine .dropped hlive (hslot ▸ op) (Option.eq_none_iff_forall_not_mem.mpr fun other hother => ?_)
            obtain ⟨hbefore, hne⟩ := (kept index other).mp hother
            rw [hlive, Option.some.injEq] at hbefore
            exact hne (hbefore ▸ hslot)
          · exact .same (((kept index session).mpr ⟨hlive, hslot⟩).trans hlive.symm)
  | commanded sessions tells => exact .same (entry_congr sessions index)

end LibDvb
