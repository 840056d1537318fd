import LibDvb.Ca.Transport.Run

namespace LibDvb

def Obs.queuedFor (slotId : UInt8) : Obs → Option Bytes
  | .queued other frame => if other = slotId then some frame else none
  | _ => none

def Obs.acceptedFor (slotId : UInt8) : Obs → Option Bytes
  | .wrote other frame (.ok _) _ => if other = slotId then some frame else none
  | _ => none

def queuedFrames (slotId : UInt8) (trace : List Obs) : List Bytes :=
  trace.filterMap (Obs.queuedFor slotId)

def acceptedFrames (slotId : UInt8) (trace : List Obs) : List Bytes :=
  trace.filterMap (Obs.acceptedFor slotId)

-- A frame leaves the queue when the link accepts it, when its write fails for good, or when the
-- slot is cleared.
def waitingStep (slotId : UInt8) (waiting : List Bytes) : Obs → List Bytes
  | .queued other frame => if other = slotId then waiting ++ [frame] else waiting
  | .wrote other _ (.ok _) _ => if other = slotId then waiting.tail else waiting
  | .wrote other _ (.error e) _ =>
      if other = slotId ∧ e.transient = false then waiting.tail else waiting
  | .cleared other => if other = slotId then [] else waiting
  | _ => waiting

def waitingFrames (slotId : UInt8) (trace : List Obs) : List Bytes :=
  trace.foldl (waitingStep slotId) []

def Obs.Releases (slotId : UInt8) : Obs → Prop
  | .read frame => frame.head? = some slotId
  | .cleared other => other = slotId
  | _ => False

structure CommandResponse (slotId : UInt8) (t : CiTransport) : Prop where
  queue : t.slots[slotId.toNat]?.map TransportSlot.queue = some (waitingFrames slotId t.trace)
  inOrder : (acceptedFrames slotId t.trace).Sublist (queuedFrames slotId t.trace)
  written : ∀ before frame result callback after,
    t.trace = before ++ .wrote slotId frame result callback :: after →
      (waitingFrames slotId before).head? = some frame
  answered : ∀ before first callback middle second callback' after,
    t.trace = before ++ .wrote slotId first (.ok ()) callback :: middle ++
      .wrote slotId second (.ok ()) callback' :: after →
      ∃ obs ∈ middle, obs.Releases slotId

section Replay

variable {count : Nat} {slotId : UInt8} {trace : List Obs} {obs : Obs}

@[simp] theorem waitingFrames_snoc :
    waitingFrames slotId (trace ++ [obs]) = waitingStep slotId (waitingFrames slotId trace) obs := by
  simp [waitingFrames]

@[simp] theorem queuedFrames_snoc :
    queuedFrames slotId (trace ++ [obs]) =
      queuedFrames slotId trace ++ (obs.queuedFor slotId).toList := by
  cases h : obs.queuedFor slotId <;> simp [queuedFrames, h]

@[simp] theorem acceptedFrames_snoc :
    acceptedFrames slotId (trace ++ [obs]) =
      acceptedFrames slotId trace ++ (obs.acceptedFor slotId).toList := by
  cases h : obs.acceptedFor slotId <;> simp [acceptedFrames, h]

theorem queue_onSlot (slotsNum : UInt8) (slot : TransportSlot) :
    (obs.onSlot slotsNum slotId slot).queue = waitingStep slotId slot.queue obs := by
  cases obs with
  | wrote other frame result callback =>
      cases result <;> simp only [Obs.onSlot, waitingStep] <;> split <;> rfl
  | read frame =>
      simp only [Obs.onSlot, waitingStep]
      split
      · rw [queue_afterRead]
      · rfl
  | _ =>
      simp only [Obs.onSlot, waitingStep]
      try split <;> rfl

theorem queue_slotHistory (slotsNum slotId : UInt8) (trace : List Obs) :
    (slotHistory slotsNum slotId trace).queue = waitingFrames slotId trace := by
  induction trace using List.reverseRecOn with
  | nil => rfl
  | append_singleton trace obs ih =>
      rw [slotHistory_snoc, queue_onSlot, ih, waitingFrames_snoc]

theorem head_waiting {frame : Bytes} {result : Except Error Unit} {callback : Bool}
    (hs : slotId.toNat < count)
    (h : (Obs.wrote slotId frame result callback).Allowed (replay count trace) trace) :
    (waitingFrames slotId trace).head? = some frame := by
  obtain ⟨slot, hslot, _, hhead⟩ := h
  rw [getElem?_replay hs, Option.some.injEq] at hslot
  rw [← queue_slotHistory (UInt8.ofNat count), hslot, hhead]

theorem accepted_append_waiting (hs : slotId.toNat < count) (hlawful : Lawful count trace) :
    (acceptedFrames slotId trace ++ waitingFrames slotId trace).Sublist
      (queuedFrames slotId trace) := by
  induction trace using List.reverseRecOn with
  | nil => exact .slnil
  | append_singleton trace obs ih =>
      obtain ⟨hbefore, hallowed⟩ := hlawful.of_snoc
      have ih := ih hbefore
      have htail : (acceptedFrames slotId trace ++ (waitingFrames slotId trace).tail).Sublist
          (queuedFrames slotId trace) :=
        ((List.tail_sublist _).append_left _).trans ih
      rw [waitingFrames_snoc, acceptedFrames_snoc, queuedFrames_snoc]
      cases obs with
      | queued other frame =>
          by_cases h : other = slotId
          · simpa [Obs.acceptedFor, Obs.queuedFor, waitingStep, h] using ih.append_right [frame]
          · simpa [Obs.acceptedFor, Obs.queuedFor, waitingStep, h] using ih
      | wrote other frame result callback =>
          cases result with
          | ok _ =>
              by_cases h : other = slotId
              · subst h
                obtain ⟨rest, hwaiting⟩ := List.head?_eq_some_iff.mp (head_waiting hs hallowed)
                rw [hwaiting] at ih
                simpa [Obs.acceptedFor, Obs.queuedFor, waitingStep, hwaiting] using ih
              · simpa [Obs.acceptedFor, Obs.queuedFor, waitingStep, h] using ih
          | error e =>
              by_cases h : other = slotId ∧ e.transient = false
              · simpa [Obs.acceptedFor, Obs.queuedFor, waitingStep, h] using htail
              · simpa [Obs.acceptedFor, Obs.queuedFor, waitingStep, h] using ih
      | cleared other =>
          by_cases h : other = slotId
          · simpa [Obs.acceptedFor, Obs.queuedFor, waitingStep, h] using
              (List.sublist_append_left _ _).trans ih
          · simpa [Obs.acceptedFor, Obs.queuedFor, waitingStep, h] using ih
      | _ => simpa [Obs.acceptedFor, Obs.queuedFor, waitingStep] using ih

theorem busy_onSlot (slotsNum : UInt8) {slot : TransportSlot} (hbusy : slot.busy = true)
    (h : ¬ obs.Releases slotId) : (obs.onSlot slotsNum slotId slot).busy = true := by
  cases obs with
  | wrote other frame result callback =>
      cases result <;> simp only [Obs.onSlot] <;> split <;> simp [hbusy]
  | read frame =>
      have hother : frame.head? ≠ some slotId := h
      simpa [Obs.onSlot, hother] using hbusy
  | cleared other =>
      have hother : other ≠ slotId := h
      simpa [Obs.onSlot, hother] using hbusy
  | _ =>
      simp only [Obs.onSlot]
      first
        | exact hbusy
        | (split <;> exact hbusy)

theorem busy_until_released (slotsNum : UInt8) (before : List Obs) (frame : Bytes)
    (callback : Bool) (middle : List Obs) (h : ∀ obs ∈ middle, ¬ obs.Releases slotId) :
    (slotHistory slotsNum slotId
      (before ++ .wrote slotId frame (.ok ()) callback :: middle)).busy = true := by
  induction middle using List.reverseRecOn with
  | nil => simp [Obs.onSlot]
  | append_singleton middle obs ih =>
      rw [← List.cons_append, ← List.append_assoc, slotHistory_snoc]
      refine busy_onSlot slotsNum (ih fun o ho => h o (List.mem_append_left _ ho)) ?_
      exact h obs (List.mem_append_right _ (List.mem_singleton_self obs))

end Replay

theorem command_response {slotsNum : UInt8} {labels : List TransportLabel} {t : CiTransport}
    (h : TransportRun slotsNum labels t) {slotId : UInt8} (hs : slotId < slotsNum) :
    CommandResponse slotId t := by
  obtain ⟨hfaithful, hcount⟩ := h.faithful
  have hlt : slotId.toNat < t.slots.length := by
    rw [hcount]
    exact UInt8.lt_iff_toNat_lt.mp hs
  refine ⟨?_, ?_, ?_, ?_⟩
  · rw [hfaithful.slots, getElem?_replay (by simpa using hlt), Option.map_some, queue_slotHistory]
  · exact (List.sublist_append_left _ _).trans (accepted_append_waiting hlt hfaithful.lawful)
  · intro before frame result callback after heq
    exact head_waiting hlt (hfaithful.lawful before _ after heq)
  · intro before first callback middle second callback' after heq
    by_contra hnone
    have hsilent : ∀ obs ∈ middle, ¬ obs.Releases slotId := fun obs hmem hrel =>
      hnone ⟨obs, hmem, hrel⟩
    obtain ⟨slot, hslot, hidle, _⟩ := hfaithful.lawful _ _ after heq
    rw [getElem?_replay hlt, Option.some.injEq] at hslot
    have hbusy := busy_until_released (UInt8.ofNat t.slots.length) before first callback middle hsilent
    rw [hslot, hidle] at hbusy
    exact Bool.noConfusion hbusy

def twoFrames : List (CaDevice × TransportOp) :=
  [({}, .sendTpdu 0 .createTc []),
    ({ writes := [.failed .wouldBlock] }, .sendTpdu 0 .dataLast []),
    ({ reads := [.frame [0, 1, 0x83, 1, 1, 0x80, 2, 1, 0]] }, .recvApdu),
    ({}, .flush 0)]

theorem command_response_two_frames :
    ∃ labels t, TransportRun 1 labels t ∧ acceptedFrames 0 t.trace =
      [[0, 1, 0x82, 1, 1], [0, 1, 0xA0, 1, 1]] ∧ CommandResponse 0 t := by
  have hrun := @TransportRun.of_trail 1 twoFrames rfl
  exact ⟨_, _, hrun, by decide +kernel, command_response hrun (by decide)⟩

end LibDvb
