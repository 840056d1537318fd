import LibDvb.Ca.Controller.Run

namespace LibDvb

def ControllerOp.Resumes (c : CiController) : ControllerOp → Prop
  | reset => True
  | tick now => ∃ recoveryAt, c.recoveryAt = some recoveryAt ∧ recoveryAt ≤ now
  | _ => False

namespace CiController

variable {c c' : CiController}

structure Dormant (c : CiController) : Prop where
  stopped : ∀ (slotId : UInt8) slot, c.slots[slotId.toNat]? = some slot →
    slot.status = .failed ∨ slot.status = .absent
  vacant : ∀ index, c.session.entry index = none
  idle : ∀ slot ∈ c.session.transport.slots, slot.Idle
  gate : c.pacer.gate = .notReady

theorem Calm.idle_all (h : c.Calm) (hidle : ∀ (slotId : UInt8) slot,
    c.slots[slotId.toNat]? = some slot → slot.status ≠ .creatingTc ∧ slot.status ≠ .active) :
    ∀ slot ∈ c.session.transport.slots, slot.Idle := by
  intro slot hmem
  obtain ⟨i, hi, hslot⟩ := List.mem_iff_getElem.mp hmem
  have hcount := h.sound.count
  have hnat : (UInt8.ofNat i).toNat = i := by
    have hle := h.sound.session.count
    rw [UInt8.toNat_ofNat']
    omega
  have hlt : (UInt8.ofNat i).toNat < c.slots.length := by
    rw [hnat, hcount]
    exact hi
  obtain ⟨view, known⟩ := known_of_lt hlt
  obtain ⟨hcreating, hactive⟩ := hidle _ view known
  apply h.sound.idle _ view known hcreating hactive h.whole
  rw [hnat, ← hslot]
  exact List.getElem?_eq_getElem hi

theorem Settled.dormant (h : c.Settled) (hs : c.linkSuspended = true) : c.Dormant where
  stopped := (h.halted hs).stopped
  vacant index := by
    cases hentry : c.session.entry index with
    | none => rfl
    | some session =>
        exact absurd (h.calm.sound.within index session hentry) ((h.halted hs).not_live session.slotId)
  idle := by
    apply h.calm.idle_all
    intro slotId slot known
    rcases (h.halted hs).stopped slotId slot known with hstatus | hstatus <;> rw [hstatus] <;> decide
  gate := (h.halted hs).gate

theorem Turn.suspended {op : ControllerOp} {reply : Except Error (Option CaEvent)} (h : c.Settled)
    (hs : c.linkSuspended = true) (ht : Turn c op reply c') (hop : ¬ op.Resumes c) :
    c'.linkSuspended = true ∧ c'.session = c.session := by
  cases ht with
  | popped events => exact ⟨hs, rfl⟩
  | delivered resumed delivered => exact absurd (resumed.symm.trans hs) Bool.false_ne_true
  | pollFailed resumed failed => exact absurd (resumed.symm.trans hs) Bool.false_ne_true
  | ticked ends silent =>
      cases ends with
      | waiting suspended early same =>
          subst same
          exact ⟨hs, rfl⟩
      | driven due done => exact absurd (due hs) hop
  | pushed queues refused silent => exact ⟨hs, rfl⟩
  | commanded sends active done silent => exact absurd active ((h.halted hs).not_live _)
  | inactive sends active => exact ⟨hs, rfl⟩
  | reset done steps => exact absurd trivial hop
  | resetFailed failed steps => exact absurd trivial hop

end CiController

theorem suspension_total {start c : CiController} {labels : List ControllerLabel}
    (h : ControllerRun start labels c) (hs : c.linkSuspended = true) :
    c.Dormant ∧ ∀ label c', ControllerStep c label c' → ¬ label.op.Resumes c →
      c'.linkSuspended = true ∧ c'.session.transport.link = label.link ∧
        c'.session.transport.trace = c.session.transport.trace := by
  constructor
  · exact h.settled.dormant hs
  · intro label c' hstep hop
    obtain ⟨hs', hsession⟩ := (CiController.step_turn h.settled hstep).suspended
      (h.settled.relinked label.link) hs hop
    rw [hsession]
    exact ⟨hs', rfl, rfl⟩

def slotInfoFails : CaDevice := { slotInfo := fun _ => .error 5 }

theorem suspension_total_slot_info : ∃ start labels c, ControllerRun start labels c ∧
    c.linkSuspended = true ∧ c.Dormant ∧
      ∀ label c', ControllerStep c label c' → ¬ label.op.Resumes c →
        c'.linkSuspended = true ∧ c'.session.transport.link = label.link ∧
          c'.session.transport.trace = c.session.transport.trace := by
  obtain ⟨start, hrun⟩ := @ControllerRun.of_trail {} {} [(slotInfoFails, .tick 0)] (by decide +kernel)
  have hs : ((ControllerOp.trail {} {} [(slotInfoFails, .tick 0)]).get
      (by decide +kernel)).2.linkSuspended = true := by
    decide +kernel
  exact ⟨start, _, _, hrun, hs, suspension_total hrun hs⟩

end LibDvb
