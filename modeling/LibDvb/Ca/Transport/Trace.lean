import LibDvb.Ca.Transport
import Mathlib.Data.List.Induction

namespace LibDvb

namespace Obs

def slot : Obs → Option UInt8
  | queued slotId _ => some slotId
  | wrote slotId _ _ _ => some slotId
  | read frame => frame.head?
  | cleared slotId => some slotId
  | taken slotId => some slotId
  | apdu slotId _ _ _ => some slotId
  | opened slotId _ => some slotId
  | dispatched slotId _ => some slotId
  | activated slotId => some slotId
  | slotInfo slotId => some slotId
  | readFailed _ => none
  | noFrame => none
  | reset _ => none
  | called => none

def accesses : Obs → Bool
  | wrote _ _ _ _ => true
  | read _ => true
  | readFailed _ => true
  | noFrame => true
  | reset _ => true
  | slotInfo _ => true
  | called => true
  | _ => false

def writes : Obs → Bool
  | wrote _ _ _ _ => true
  | _ => false

def settles : Obs → Bool
  | reset _ => true
  | called => true
  | _ => false

-- A write that failed for good, unless the session layer takes it for malformed data: a resource
-- callback reports a short write as `InvalidData`.
def fatal : Obs → Bool
  | wrote _ _ (.error e) callback => !e.transient && !(callback && e = CaDevice.shortWrite)
  | _ => false

def masked : Obs → Bool
  | wrote _ _ (.error e) callback => callback && e = CaDevice.shortWrite
  | _ => false

end Obs

inductive CaAct where
  | opened (sessionId : UInt16)
  | pmt (sessionId : UInt16) (body : Bytes)
  deriving DecidableEq

def Obs.caAct : Obs → Option CaAct
  | .opened _ sessionId => some (.opened sessionId)
  | .apdu _ sessionId tag body => if tag = .caPmt then some (.pmt sessionId body) else none
  | _ => none

def caActs (trace : List Obs) : List CaAct := trace.filterMap Obs.caAct

@[simp] theorem caActs_snoc (trace : List Obs) (obs : Obs) :
    caActs (trace ++ [obs]) = caActs trace ++ obs.caAct.toList := by
  cases h : obs.caAct <;> simp [caActs, h]

def masked (trace : List Obs) : Bool := trace.any Obs.masked

@[simp] theorem masked_snoc (trace : List Obs) (obs : Obs) :
    masked (trace ++ [obs]) = (masked trace || obs.masked) := by
  simp [masked]

def pending (trace : List Obs) : Bool :=
  trace.foldl (fun failed obs => !obs.settles && (failed || obs.fatal)) false

@[simp] theorem pending_nil : pending [] = false := rfl

@[simp] theorem pending_snoc (trace : List Obs) (obs : Obs) :
    pending (trace ++ [obs]) = (!obs.settles && (pending trace || obs.fatal)) := by
  simp [pending]

def Obs.refused : Obs → Bool
  | .wrote _ _ (.error e) _ => !e.transient
  | _ => false

def Whole (trace : List Obs) : Prop := ∀ obs ∈ trace, obs.refused = false

theorem fatal_refused {obs : Obs} (h : obs.refused = false) : obs.fatal = false := by
  cases obs with
  | wrote slotId frame result callback =>
      cases result with
      | ok _ => rfl
      | error e =>
          have htransient : (!e.transient) = false := h
          simp [Obs.fatal, htransient]
  | _ => rfl

theorem pending_append_whole {trace delta : List Obs} (h : Whole delta) (hp : pending trace = false) :
    pending (trace ++ delta) = false := by
  induction delta using List.reverseRecOn with
  | nil => rwa [List.append_nil]
  | append_singleton delta obs ih =>
      rw [← List.append_assoc, pending_snoc, fatal_refused (h obs (by simp)),
        ih fun other hmem => h other (List.mem_append_left _ hmem)]
      simp

theorem Whole.pending {trace : List Obs} (h : Whole trace) : pending trace = false :=
  @pending_append_whole [] _ h rfl

theorem Whole.of_initial {trace trace' : List Obs} (h : Whole trace') (hp : trace <+: trace') : Whole trace :=
  fun obs hmem => h obs (hp.subset hmem)

def Silent (trace trace' : List Obs) : Prop :=
  ∃ delta, trace' = trace ++ delta ∧ ∀ obs ∈ delta, obs.accesses = false

section Silent

variable {trace trace' trace'' : List Obs}

theorem Silent.refl (trace : List Obs) : Silent trace trace := ⟨[], by simp⟩

theorem Silent.trans (h : Silent trace trace') (h' : Silent trace' trace'') : Silent trace trace'' := by
  obtain ⟨delta, rfl, hdelta⟩ := h
  obtain ⟨delta', rfl, hdelta'⟩ := h'
  refine ⟨delta ++ delta', List.append_assoc .., ?_⟩
  intro obs hmem
  rcases List.mem_append.mp hmem with hmem | hmem
  · exact hdelta obs hmem
  · exact hdelta' obs hmem

theorem Silent.note {obs : Obs} (h : obs.accesses = false) : Silent trace (trace ++ [obs]) := by
  refine ⟨[obs], rfl, ?_⟩
  intro other hmem
  rw [List.mem_singleton.mp hmem]
  exact h

theorem settles_of_accesses {obs : Obs} (h : obs.accesses = false) :
    obs.settles = false ∧ obs.fatal = false := by
  cases obs <;> first | exact ⟨rfl, rfl⟩ | cases h

theorem Silent.pending (h : Silent trace trace') : pending trace' = pending trace := by
  obtain ⟨delta, rfl, hdelta⟩ := h
  induction delta using List.reverseRecOn with
  | nil => rw [List.append_nil]
  | append_singleton delta obs ih =>
      obtain ⟨hsettles, hfatal⟩ := settles_of_accesses (hdelta obs (by simp))
      rw [← List.append_assoc, pending_snoc, hsettles, hfatal,
        ih fun other hmem => hdelta other (by simp [hmem])]
      simp

end Silent

def TransportSlot.receive (parsed : Tpdu.RTpdu) (slot : TransportSlot) :
    TransportRecv × TransportSlot :=
  let slotId := parsed.slotId
  let slot := { slot with dataPending := parsed.dataIndicator }
  let buffer := slot.rxBuffer ++ parsed.body
  if parsed.tag = .ctcReply then
    (.tcReply slotId, slot)
  else if parsed.tag = .dataMore ∨ parsed.tag = .dataLast then
    if slot.rxBuffer.length + parsed.body.length > Tpdu.maxTpduSize then
      (.malformed slotId s!"ca slot {slotId}: tpdu reassembly buffer overflow",
        { slot with rxBuffer := [] })
    else if parsed.tag = .dataMore ∨ buffer = [] then
      (.status slotId, { slot with rxBuffer := buffer })
    else
      (.spdu slotId buffer, { slot with rxBuffer := [] })
  else if parsed.tag = .sb then
    (.status slotId, slot)
  else
    (.malformed slotId s!"ca slot {slotId}: unexpected tpdu tag {parsed.tag.debug}", slot)

theorem TransportSlot.receive_busy (parsed : Tpdu.RTpdu) (slot : TransportSlot) (busy : Bool) :
    (receive parsed { slot with busy }).1 = (receive parsed slot).1 := by
  unfold receive
  dsimp only
  repeat' split
  all_goals rfl

theorem TransportSlot.receive_slotId (parsed : Tpdu.RTpdu) (slot : TransportSlot) :
    (receive parsed slot).1.slotId = parsed.slotId := by
  unfold receive
  dsimp only
  repeat' split
  all_goals rfl

def TransportSlot.afterRead (slotsNum : UInt8) (frame : Bytes) (slot : TransportSlot) :
    TransportSlot :=
  match Tpdu.parse frame slotsNum with
  | .ok parsed => (receive parsed { slot with busy := false }).2
  | _ => { slot with busy := false }

theorem queue_receive (parsed : Tpdu.RTpdu) (slot : TransportSlot) :
    (slot.receive parsed).2.queue = slot.queue := by
  unfold TransportSlot.receive
  dsimp only
  repeat' split
  all_goals rfl

theorem queue_afterRead (slotsNum : UInt8) (frame : Bytes) (slot : TransportSlot) :
    (slot.afterRead slotsNum frame).queue = slot.queue := by
  unfold TransportSlot.afterRead
  split
  · rw [queue_receive]
  · rfl

theorem dataPending_receive (parsed : Tpdu.RTpdu) (slot : TransportSlot) :
    (slot.receive parsed).2.dataPending = parsed.dataIndicator := by
  unfold TransportSlot.receive
  dsimp only
  repeat' split
  all_goals rfl

theorem busy_receive (parsed : Tpdu.RTpdu) (slot : TransportSlot) :
    (slot.receive parsed).2.busy = slot.busy := by
  unfold TransportSlot.receive
  dsimp only
  repeat' split
  all_goals rfl

theorem busy_afterRead (slotsNum : UInt8) (frame : Bytes) (slot : TransportSlot) :
    (slot.afterRead slotsNum frame).busy = false := by
  unfold TransportSlot.afterRead
  split
  · rw [busy_receive]
  · rfl

def modifyAt (slotId : UInt8) (f : TransportSlot → TransportSlot) (slots : List TransportSlot) :
    List TransportSlot :=
  slots.modify slotId.toNat f

def Obs.effect (slots : List TransportSlot) : Obs → List TransportSlot
  | .queued slotId frame => modifyAt slotId (fun slot => { slot with queue := slot.queue ++ [frame] })
      slots
  | .wrote slotId _ (.ok _) _ => modifyAt slotId
      (fun slot => { slot with queue := slot.queue.tail, busy := true }) slots
  | .wrote slotId _ (.error e) _ =>
      if e.transient then slots
      else modifyAt slotId (fun slot => { slot with queue := slot.queue.tail }) slots
  | .read frame =>
      match frame.head? with
      | some slotId => modifyAt slotId (TransportSlot.afterRead (UInt8.ofNat slots.length) frame) slots
      | none => slots
  | .cleared slotId => modifyAt slotId (fun _ => {}) slots
  | .taken slotId => modifyAt slotId (fun slot => { slot with dataPending := false }) slots
  | _ => slots

def replay (count : Nat) (trace : List Obs) : List TransportSlot :=
  trace.foldl Obs.effect (List.replicate count {})

def received (frame : Bytes) (slots : List TransportSlot) : Option TransportRecv :=
  let slotsNum := UInt8.ofNat slots.length
  match Tpdu.parse frame slotsNum with
  | .ok parsed => slots[parsed.slotId.toNat]?.map fun slot => (slot.receive parsed).1
  | .err (.invalidData context) =>
      (Tpdu.frameSlotId frame slotsNum).map fun slotId => .malformed slotId context
  | _ => none

def Obs.Allowed (slots : List TransportSlot) (trace : List Obs) : Obs → Prop
  | .queued slotId _ => slotId.toNat < slots.length
  | .wrote slotId frame _ _ => ∃ slot, slots[slotId.toNat]? = some slot ∧ slot.busy = false ∧
      slot.queue.head? = some frame
  | .cleared slotId => slotId.toNat < slots.length
  | .taken slotId => slotId.toNat < slots.length
  | .dispatched slotId spdu => ∃ before frame, trace = before ++ [.read frame] ∧
      received frame (replay slots.length before) = some (.spdu slotId spdu)
  | _ => True

@[simp] theorem length_modifyAt (slotId : UInt8) (f : TransportSlot → TransportSlot)
    (slots : List TransportSlot) : (modifyAt slotId f slots).length = slots.length := by
  simp [modifyAt]

theorem modifyAt_modifyAt (slotId : UInt8) (f g : TransportSlot → TransportSlot)
    (slots : List TransportSlot) :
    modifyAt slotId g (modifyAt slotId f slots) = modifyAt slotId (g ∘ f) slots :=
  List.modify_modify_eq f g slotId.toNat slots

theorem getElem?_modifyAt (slotId other : UInt8) (f : TransportSlot → TransportSlot)
    (slots : List TransportSlot) :
    (modifyAt slotId f slots)[other.toNat]? =
      if slotId = other then slots[other.toNat]?.map f else slots[other.toNat]? := by
  rw [modifyAt, List.getElem?_modify]
  by_cases h : slotId = other
  · simp [h]
  · have : slotId.toNat ≠ other.toNat := fun he => h (UInt8.toNat_inj.mp he)
    simp [h, this]

@[simp] theorem length_effect (slots : List TransportSlot) (obs : Obs) :
    (obs.effect slots).length = slots.length := by
  cases obs with
  | wrote slotId frame result callback =>
      cases result with
      | ok _ => simp [Obs.effect]
      | error e =>
          simp only [Obs.effect]
          split <;> simp
  | read frame =>
      simp only [Obs.effect]
      split <;> simp
  | _ => simp [Obs.effect]

def Obs.onSlot (slotsNum slotId : UInt8) (slot : TransportSlot) : Obs → TransportSlot
  | .queued other frame =>
      if other = slotId then { slot with queue := slot.queue ++ [frame] } else slot
  | .wrote other _ (.ok _) _ =>
      if other = slotId then { slot with queue := slot.queue.tail, busy := true } else slot
  | .wrote other _ (.error e) _ =>
      if other = slotId ∧ e.transient = false then { slot with queue := slot.queue.tail } else slot
  | .read frame => if frame.head? = some slotId then slot.afterRead slotsNum frame else slot
  | .cleared other => if other = slotId then {} else slot
  | .taken other => if other = slotId then { slot with dataPending := false } else slot
  | _ => slot

def slotHistory (slotsNum slotId : UInt8) (trace : List Obs) : TransportSlot :=
  trace.foldl (Obs.onSlot slotsNum slotId) {}

@[simp] theorem slotHistory_snoc (slotsNum slotId : UInt8) (trace : List Obs) (obs : Obs) :
    slotHistory slotsNum slotId (trace ++ [obs]) =
      obs.onSlot slotsNum slotId (slotHistory slotsNum slotId trace) := by
  simp [slotHistory]

theorem getElem?_effect {slots : List TransportSlot} {slotId : UInt8} {slot : TransportSlot}
    (obs : Obs) (h : slots[slotId.toNat]? = some slot) :
    (obs.effect slots)[slotId.toNat]? =
      some (obs.onSlot (UInt8.ofNat slots.length) slotId slot) := by
  have hmodify (other : UInt8) (f : TransportSlot → TransportSlot) :
      (modifyAt other f slots)[slotId.toNat]? = some (if other = slotId then f slot else slot) := by
    rw [getElem?_modifyAt, h]
    split <;> rfl
  cases obs with
  | queued other frame => exact hmodify _ _
  | wrote other frame result callback =>
      cases result with
      | ok _ => exact hmodify _ _
      | error e =>
          cases htransient : e.transient with
          | true => simp [Obs.effect, Obs.onSlot, htransient, h]
          | false =>
              simp only [Obs.effect, Obs.onSlot, htransient, Bool.false_eq_true, if_false, and_true]
              exact hmodify _ _
  | read frame =>
      simp only [Obs.effect, Obs.onSlot]
      cases hhead : frame.head? with
      | none => simp [h]
      | some other =>
          rw [hmodify]
          simp only [Option.some.injEq]
  | cleared other => exact hmodify _ _
  | taken other => exact hmodify _ _
  | _ => exact h

theorem onSlot_of_ne {slotsNum slotId : UInt8} {slot : TransportSlot} {obs : Obs}
    (h : obs.slot ≠ some slotId) : obs.onSlot slotsNum slotId slot = slot := by
  cases obs with
  | wrote other frame result callback =>
      have hne : other ≠ slotId := fun he => h (congrArg some he)
      cases result <;> simp [Obs.onSlot, hne]
  | read frame => exact if_neg h
  | queued other frame => exact if_neg fun he => h (congrArg some he)
  | cleared other => exact if_neg fun he => h (congrArg some he)
  | taken other => exact if_neg fun he => h (congrArg some he)
  | _ => rfl

@[simp] theorem replay_nil (count : Nat) : replay count [] = List.replicate count {} := rfl

theorem length_foldl_effect (trace : List Obs) (slots : List TransportSlot) :
    (trace.foldl Obs.effect slots).length = slots.length := by
  induction trace generalizing slots with
  | nil => rfl
  | cons obs rest ih => rw [List.foldl_cons, ih, length_effect]

@[simp] theorem length_replay (count : Nat) (trace : List Obs) :
    (replay count trace).length = count := by
  rw [replay, length_foldl_effect, List.length_replicate]

@[simp] theorem replay_snoc (count : Nat) (trace : List Obs) (obs : Obs) :
    replay count (trace ++ [obs]) = obs.effect (replay count trace) := by
  simp [replay]

theorem getElem?_replay {count : Nat} {slotId : UInt8} (h : slotId.toNat < count)
    (trace : List Obs) :
    (replay count trace)[slotId.toNat]? = some (slotHistory (UInt8.ofNat count) slotId trace) := by
  induction trace using List.reverseRecOn with
  | nil => simp [h, slotHistory]
  | append_singleton trace obs ih =>
      rw [replay_snoc, getElem?_effect obs ih, length_replay, slotHistory_snoc]

def Lawful (count : Nat) (trace : List Obs) : Prop :=
  ∀ before obs after, trace = before ++ obs :: after → obs.Allowed (replay count before) before

theorem lawful_nil (count : Nat) : Lawful count [] := by
  intro before obs after h
  simp at h

theorem Lawful.snoc {count : Nat} {trace : List Obs} {obs : Obs} (h : Lawful count trace)
    (ho : obs.Allowed (replay count trace) trace) : Lawful count (trace ++ [obs]) := by
  intro before o after heq
  rcases List.eq_nil_or_concat after with rfl | ⟨after, last, rfl⟩
  · obtain ⟨rfl, hlast⟩ := List.append_inj' heq rfl
    cases hlast
    exact ho
  · rw [List.concat_eq_append, ← List.cons_append, ← List.append_assoc] at heq
    obtain ⟨hinit, _⟩ := List.append_inj' heq rfl
    exact h before o after hinit

theorem Lawful.of_snoc {count : Nat} {trace : List Obs} {obs : Obs}
    (h : Lawful count (trace ++ [obs])) :
    Lawful count trace ∧ obs.Allowed (replay count trace) trace := by
  refine ⟨fun before o after heq => ?_, h trace obs [] rfl⟩
  exact h before o (after ++ [obs]) (by rw [heq, List.append_assoc, List.cons_append])

end LibDvb
