import LibDvb.Ca.Controller.Recovery

namespace LibDvb

open Relation Act Outcome

-- An entry that leaves the connection of a slot and the requests of its module alone, but for data
-- frames that are queued and frames that are written.
def Obs.Apart (slotId : UInt8) : Obs → Prop
  | .queued other frame =>
      other = slotId → frame ≠ Tpdu.createFrame slotId ∧ frame ≠ Tpdu.receiveFrame slotId
  | .read frame => frame.head? ≠ some slotId
  | .cleared other => other ≠ slotId
  | .taken other => other ≠ slotId
  | .activated other => other ≠ slotId
  | _ => True

def Obs.Foreign (slotId : UInt8) (obs : Obs) : Prop :=
  obs.Apart slotId ∧ ∀ slotsNum slot, obs.onSlot slotsNum slotId slot = slot

-- What the controller is about to do for a slot: nothing; it has read a frame of the slot, and then
-- taken the DATA_INDICATOR of the frame; a write for the slot has failed for good; the slot is dropped.
inductive SlotStage where
  | idle
  | heard (reply : Bool)
  | noted (indicated reply : Bool)
  | lost (reply : Bool)
  | gone (reply : Bool)
  deriving DecidableEq, Repr

def SlotStage.replied : SlotStage → Bool
  | idle => false
  | heard reply => reply
  | noted _ reply => reply
  | lost reply => reply
  | gone reply => reply

def SlotStage.sent : SlotStage → SlotStage
  | idle => noted false false
  | stage => stage

def SlotStage.ruined : SlotStage → Bool
  | lost _ => true
  | gone _ => true
  | _ => false

def CaSlotStatus.Rests (status : CaSlotStatus) : Prop := status ≠ .creatingTc ∧ status ≠ .active

theorem CaSlotStatus.rests_absent : absent.Rests := by constructor <;> decide

theorem CaSlotStatus.rests_present : present.Rests := by constructor <;> decide

theorem CaSlotStatus.rests_failed : failed.Rests := by constructor <;> decide

-- The slot as `mark_outstanding` leaves it.
def ControllerSlot.marked (now : Instant) (transport : TransportSlot) (slot : ControllerSlot) : ControllerSlot :=
  if slot.status = .creatingTc ∧ transport.busy ∧ slot.createSince = none then
    { slot with createSince := some now, commandSince := none }
  else if slot.status = .creatingTc ∧ transport.queue ≠ [] then
    { slot with commandSince := some (slot.commandSince.getD now) }
  else if slot.status = .active ∧ (transport.busy ∨ transport.queue ≠ []) then
    { slot with commandSince := some (slot.commandSince.getD now) }
  else slot

def ControllerSlot.activated (slot : ControllerSlot) : ControllerSlot :=
  { slot with createSince := none, commandSince := none, nextPoll := none, status := .active }

def ControllerSlot.Timeless (slot : ControllerSlot) : Prop := slot.createSince = none ∧ slot.commandSince = none

theorem ControllerSlot.marked_status (now : Instant) (transport : TransportSlot) (slot : ControllerSlot) :
    (slot.marked now transport).status = slot.status := by
  unfold marked
  split
  · rfl
  · split
    · rfl
    · split <;> rfl

structure SlotView where
  slot : ControllerSlot
  trace : List Obs
  stage : SlotStage

inductive SlotStep (slotsNum slotId : UInt8) : SlotView → SlotView → Prop
  | aside {slot trace stage delta} (apart : ∀ obs ∈ delta, obs.Apart slotId)
      (still : slotHistory slotsNum slotId (trace ++ delta) = slotHistory slotsNum slotId trace) :
      SlotStep slotsNum slotId ⟨slot, trace, stage⟩ ⟨slot, trace ++ delta, stage⟩
  | talked {slot trace stage delta} (apart : ∀ obs ∈ delta, obs.Apart slotId)
      (status : slot.status ≠ .creatingTc) :
      SlotStep slotsNum slotId ⟨slot, trace, stage⟩ ⟨slot, trace ++ delta, stage⟩
  | edited {slot slot' trace stage} (status : slot'.status = slot.status)
      (create : slot'.createSince = slot.createSince)
      (command : slot.status ≠ .active → slot'.commandSince = slot.commandSince)
      (receive : slot'.receivePending = slot.receivePending) :
      SlotStep slotsNum slotId ⟨slot, trace, stage⟩ ⟨slot', trace, stage⟩
  | turned {slot slot' trace stage} (old : slot.status.Rests) (new : slot'.status.Rests)
      (create : slot'.createSince = slot.createSince) (command : slot'.commandSince = slot.commandSince) :
      SlotStep slotsNum slotId ⟨slot, trace, stage⟩ ⟨slot', trace, stage⟩
  | read {slot trace stage frame} (head : frame.head? = some slotId)
      (quiet : stage = .idle ∨ slot.status.Rests ∧ ∃ reply, stage = .heard reply) :
      SlotStep slotsNum slotId ⟨slot, trace, stage⟩
        ⟨slot, trace ++ [.read frame], .heard (Tpdu.replies slotsNum slotId frame)⟩
  | wrote {slot trace stage frame result callback}
      (kept : (Obs.wrote slotId frame result callback).refused = false) :
      SlotStep slotsNum slotId ⟨slot, trace, stage⟩
        ⟨slot, trace ++ [.wrote slotId frame result callback], stage.sent⟩
  | lost {slot slot' trace stage frame result callback}
      (status : slot'.status = .creatingTc → slot.status = .creatingTc)
      (kept : slot.status = .creatingTc → slot.createSince ≠ none → slot' = slot) :
      SlotStep slotsNum slotId ⟨slot, trace, stage⟩
        ⟨slot', trace ++ [.wrote slotId frame result callback], .lost stage.replied⟩
  | taken {slot trace reply} : SlotStep slotsNum slotId ⟨slot, trace, .heard reply⟩
      ⟨slot, trace ++ [.taken slotId], .noted (slotHistory slotsNum slotId trace).dataPending reply⟩
  | activated {slot trace indicated} (status : slot.status = .creatingTc) :
      SlotStep slotsNum slotId ⟨slot, trace, .noted indicated true⟩
        ⟨slot.activated, trace ++ [.activated slotId], .noted indicated true⟩
  | indicated {slot trace indicated reply} (status : slot.status = .active) :
      SlotStep slotsNum slotId ⟨slot, trace, .noted indicated reply⟩
        ⟨{ slot with receivePending := slot.receivePending || indicated }, trace, .idle⟩
  | marked {slot trace stage} (now : Instant) (status : slot.status = .creatingTc)
      (settled : stage = .idle ∨ ∃ indicated reply, stage = .noted indicated reply) :
      SlotStep slotsNum slotId ⟨slot, trace, stage⟩
        ⟨slot.marked now (slotHistory slotsNum slotId trace), trace, .idle⟩
  | settled {slot trace indicated reply} (rests : slot.status.Rests) :
      SlotStep slotsNum slotId ⟨slot, trace, .noted indicated reply⟩ ⟨slot, trace, .idle⟩
  | received {slot trace} (status : slot.status = .active) (receive : slot.receivePending = true)
      (idle : (slotHistory slotsNum slotId trace).Idle) :
      SlotStep slotsNum slotId ⟨slot, trace, .idle⟩
        ⟨{ slot with receivePending := false }, trace ++ [.queued slotId (Tpdu.receiveFrame slotId)], .idle⟩
  | created {slot trace} (status : slot.status = .present)
      (idle : (slotHistory slotsNum slotId trace).Idle) :
      SlotStep slotsNum slotId ⟨slot, trace, .idle⟩
        ⟨{ slot with receivePending := false, status := .creatingTc },
          trace ++ [.queued slotId (Tpdu.createFrame slotId)], .noted false false⟩
  | abandoned {slot trace reply} (rests : slot.status.Rests) (create : slot.createSince = none)
      (command : slot.commandSince = none) :
      SlotStep slotsNum slotId ⟨slot, trace, .lost reply⟩ ⟨slot, trace, .heard reply⟩
  | cleared {slot slot' trace stage} (status : slot'.status = .creatingTc → slot.status = .creatingTc) :
      SlotStep slotsNum slotId ⟨slot, trace, stage⟩ ⟨slot', trace ++ [.cleared slotId], .gone stage.replied⟩
  | wrecked {slot slot' trace delta reply} (apart : ∀ obs ∈ delta, obs.Apart slotId)
      (status : slot'.status = .creatingTc → slot.status = .creatingTc) :
      SlotStep slotsNum slotId ⟨slot, trace, .gone reply⟩ ⟨slot', trace ++ delta, .gone reply⟩
  | reactivated {slot trace} (status : slot.status = .creatingTc) :
      SlotStep slotsNum slotId ⟨slot, trace, .gone true⟩
        ⟨slot.activated, trace ++ [.activated slotId], .gone true⟩
  | rested {slot trace reply} (rests : slot.status.Rests) (create : slot.createSince = none)
      (command : slot.commandSince = none) :
      SlotStep slotsNum slotId ⟨slot, trace, .gone reply⟩ ⟨slot, trace, .idle⟩

def SlotView.origin : SlotView := ⟨{}, [], .idle⟩

section Rest

variable {slotsNum slotId : UInt8} {v v' : SlotView}

-- A slot at rest has no deadline, but while its connection is torn down.
def SlotView.Rested (v : SlotView) : Prop := v.stage.ruined = false → v.slot.status.Rests → v.slot.Timeless

theorem SlotStage.ruined_sent (stage : SlotStage) : stage.sent.ruined = stage.ruined := by
  cases stage <;> rfl

theorem SlotView.Rested.step (h : v.Rested) (hstep : SlotStep slotsNum slotId v v') : v'.Rested := by
  cases hstep with
  | aside apart still => exact h
  | talked apart status => exact h
  | edited status create command receive =>
      intro hruined hrests
      rw [status] at hrests
      exact ⟨create.trans (h hruined hrests).1, (command hrests.2).trans (h hruined hrests).2⟩
  | turned old new create command =>
      intro hruined _
      exact ⟨create.trans (h hruined old).1, command.trans (h hruined old).2⟩
  | read head quiet =>
      intro _ hrests
      refine h ?_ hrests
      rcases quiet with hidle | ⟨_, reply, hheard⟩
      · exact hidle ▸ rfl
      · exact hheard ▸ rfl
  | wrote kept =>
      intro hruined hrests
      rw [SlotStage.ruined_sent] at hruined
      exact h hruined hrests
  | lost status kept => exact nofun
  | taken => exact fun _ => h rfl
  | activated status => exact fun _ hrests => absurd rfl hrests.2
  | indicated status => exact fun _ hrests => absurd status hrests.2
  | marked now status settled =>
      intro _ hrests
      rw [ControllerSlot.marked_status] at hrests
      exact absurd status hrests.1
  | settled rests => exact fun _ => h rfl
  | received status receive idle => exact fun _ hrests => absurd status hrests.2
  | created status idle => exact fun _ hrests => absurd rfl hrests.1
  | abandoned rests create command => exact fun _ _ => ⟨create, command⟩
  | cleared status => exact nofun
  | wrecked apart status => exact nofun
  | reactivated status => exact nofun
  | rested rests create command => exact fun _ _ => ⟨create, command⟩

theorem SlotView.Rested.path (h : v.Rested) (hpath : ReflTransGen (SlotStep slotsNum slotId) v v') : v'.Rested :=
  Path.invariant hpath h fun _ _ => SlotView.Rested.step

theorem SlotView.rested_origin : SlotView.origin.Rested := fun _ _ => ⟨rfl, rfl⟩

end Rest

section Entries

variable {slotsNum slotId : UInt8} {trace delta : List Obs} {obs : Obs} {frame : Bytes}

theorem apart_of_ne (h : obs.slot ≠ some slotId) : obs.Apart slotId := by
  cases obs with
  | queued other frame => exact fun heq => absurd (congrArg some heq) h
  | read frame => exact h
  | cleared other => exact fun heq => h (congrArg some heq)
  | taken other => exact fun heq => h (congrArg some heq)
  | activated other => exact fun heq => h (congrArg some heq)
  | _ => trivial

theorem foreign_of_ne (h : obs.slot ≠ some slotId) : obs.Foreign slotId :=
  ⟨apart_of_ne h, fun _ _ => onSlot_of_ne h⟩

theorem Obs.Bland.apart (h : obs.Bland) (slotId : UInt8) : obs.Apart slotId := by
  cases obs with
  | queued other frame => exact fun _ => ⟨(h slotId).1, (h slotId).2.1⟩
  | read frame => exact h.elim
  | cleared other => exact h.elim
  | taken other => exact h.elim
  | activated other => exact h.elim
  | _ => trivial

theorem still_of_foreign (h : ∀ obs ∈ delta, obs.Foreign slotId) :
    slotHistory slotsNum slotId (trace ++ delta) = slotHistory slotsNum slotId trace := by
  induction delta using List.reverseRecOn with
  | nil => rw [List.append_nil]
  | append_singleton delta obs ih =>
      rw [← List.append_assoc, slotHistory_snoc, (h obs (by simp)).2]
      exact ih fun other hmem => h other (List.mem_append_left _ hmem)

theorem replay_append (count : Nat) (trace delta : List Obs) :
    replay count (trace ++ delta) = delta.foldl Obs.effect (replay count trace) := by
  rw [replay, List.foldl_append]
  rfl

end Entries

end LibDvb
