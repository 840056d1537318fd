import LibDvb.Ca.Controller.Descrambling
import LibDvb.Ca.Controller.Habit
import LibDvb.Ca.Session.Wire

namespace LibDvb

variable {count : Nat} {slotId other : UInt8} {trace : List Obs} {obs : Obs} {start c : CiController}
  {labels : List ControllerLabel}

section Queue

theorem waitingFrames_other (h : obs.slot ≠ some slotId) (waiting : List Bytes) :
    waitingStep slotId waiting obs = waiting := by
  cases obs with
  | queued other frame => exact if_neg fun heq => h (congrArg some heq)
  | wrote other frame result callback =>
      cases result with
      | ok _ => exact if_neg fun heq => h (congrArg some heq)
      | error e => exact if_neg fun heq => h (congrArg some heq.1)
  | cleared other => exact if_neg fun heq => h (congrArg some heq)
  | _ => rfl

theorem whole_sinceCleared_left (hne : obs ≠ .cleared slotId) (h : Whole (sinceCleared slotId (trace ++ [obs]))) :
    Whole (sinceCleared slotId trace) := by
  rw [sinceCleared_snoc, if_neg hne] at h
  split at h
  · exact h.left
  · exact h

theorem accepted_waiting (hs : slotId.toNat < count) (hlawful : Lawful count trace)
    (hwhole : Whole (sinceCleared slotId trace)) :
    acceptedFrames slotId (sinceCleared slotId trace) ++ waitingFrames slotId trace =
      queuedFrames slotId (sinceCleared slotId trace) := by
  induction trace using List.reverseRecOn with
  | nil => rfl
  | append_singleton trace obs ih =>
      obtain ⟨hbefore, hallowed⟩ := hlawful.of_snoc
      by_cases hcleared : obs = .cleared slotId
      · rw [sinceCleared_snoc, if_pos hcleared, waitingFrames_snoc, hcleared, waitingStep, if_pos rfl]
        rfl
      · have ih := ih hbefore (whole_sinceCleared_left hcleared hwhole)
        rw [sinceCleared_snoc, if_neg hcleared] at hwhole ⊢
        by_cases hslot : obs.slot = some slotId
        · rw [if_pos hslot] at hwhole ⊢
          rw [acceptedFrames_snoc, queuedFrames_snoc, waitingFrames_snoc]
          cases obs with
          | queued other frame =>
              obtain rfl : other = slotId := Option.some.inj hslot
              simp only [Obs.acceptedFor, Obs.queuedFor, waitingStep, if_true, Option.toList_none, List.append_nil,
                Option.toList_some, ← ih, List.append_assoc]
          | wrote other frame result callback =>
              obtain rfl : other = slotId := Option.some.inj hslot
              cases result with
              | ok _ =>
                  obtain ⟨rest, hwaiting⟩ := List.head?_eq_some_iff.mp (head_waiting hs hallowed)
                  rw [hwaiting] at ih
                  simp only [Obs.acceptedFor, Obs.queuedFor, waitingStep, if_true, hwaiting, List.tail_cons,
                    Option.toList_none, List.append_nil, Option.toList_some, ← ih, List.append_assoc,
                    List.singleton_append]
              | error e =>
                  have hkept : (Obs.wrote other frame (.error e) callback).refused = false := hwhole _ (by simp)
                  have htransient : e.transient = true := by simpa [Obs.refused] using hkept
                  simp only [Obs.acceptedFor, Obs.queuedFor, waitingStep, htransient, Option.toList_none,
                    List.append_nil]
                  rw [if_neg (by simp)]
                  exact ih
          | cleared other => exact absurd (congrArg Obs.cleared (Option.some.inj hslot)) hcleared
          | _ =>
              simp only [Obs.acceptedFor, Obs.queuedFor, waitingStep, Option.toList_none, List.append_nil]
              exact ih
        · rw [if_neg hslot, waitingFrames_snoc, waitingFrames_other hslot]
          exact ih

end Queue

theorem balanced_start (h : Starts start) : Balanced slotId start.trace := by
  obtain ⟨link, slotsNum, hsession⟩ := (CiController.blank_start h).session
  rw [CiController.trace, hsession]
  exact fun _ => ⟨[], rfl, rfl⟩

theorem ControllerRun.count_start (h : ControllerRun start labels c) : start.session.transport.slots.length ≤ 255 :=
  (CiController.settled_start h.1).calm.sound.session.faithful.count

theorem ControllerRun.balanced (h : ControllerRun start labels c)
    (hs : slotId.toNat < c.session.transport.slots.length) : Balanced slotId c.trace := by
  obtain ⟨hlength, hslots⟩ := habit_balances.along (fun t _ hn => CiTransport.Balances.refl t hn) h h.count_start
  exact hslots slotId (hlength ▸ hs) (balanced_start h.1)

theorem ControllerRun.queue_waiting (h : ControllerRun start labels c) {slot : TransportSlot}
    (known : c.session.transport.slots[slotId.toNat]? = some slot) : slot.queue = waitingFrames slotId c.trace := by
  have hs := (List.getElem?_eq_some_iff.mp known).1
  rw [h.settled.calm.sound.session.faithful.slots, getElem?_replay hs, Option.some.injEq] at known
  rw [← known]
  exact queue_slotHistory _ _ _

theorem ControllerRun.accepted_queue (h : ControllerRun start labels c) {slot : TransportSlot}
    (known : c.session.transport.slots[slotId.toNat]? = some slot) (hwhole : Whole (sinceCleared slotId c.trace)) :
    acceptedFrames slotId (sinceCleared slotId c.trace) ++ slot.queue = queuedFrames slotId (sinceCleared slotId c.trace) := by
  have hs := (List.getElem?_eq_some_iff.mp known).1
  rw [h.queue_waiting known]
  exact accepted_waiting hs h.settled.calm.sound.session.faithful.lawful hwhole

theorem ControllerRun.decoded_waiting (h : ControllerRun start labels c) {slot : TransportSlot}
    (known : c.session.transport.slots[slotId.toNat]? = some slot) (hwhole : Whole (sinceCleared slotId c.trace)) :
    decoded (acceptedFrames slotId (sinceCleared slotId c.trace) ++ slot.queue) = handedOver slotId c.trace := by
  have hs := (List.getElem?_eq_some_iff.mp known).1
  rw [h.accepted_queue known hwhole]
  exact (h.balanced hs hwhole).decoded (CiTransport.ne_max hs h.settled.calm.sound.session.faithful.count)

theorem module_hears (h : ControllerRun start labels c) {slot : TransportSlot}
    (known : c.session.transport.slots[slotId.toNat]? = some slot) (hwhole : Whole (sinceCleared slotId c.trace)) :
    decoded (acceptedFrames slotId (sinceCleared slotId c.trace)) <+: handedOver slotId c.trace ∧
      decoded (acceptedFrames slotId (sinceCleared slotId c.trace) ++ slot.queue) = handedOver slotId c.trace := by
  have hall := h.decoded_waiting known hwhole
  refine ⟨?_, hall⟩
  rw [← hall]
  exact decoded_mono (List.prefix_append _ _)

theorem descrambles_heard :
    (afterDescrambles.2.session.transport.slots[(0 : UInt8).toNat]?).map (fun slot => slot.queue.length) = some 1 ∧
      Whole (sinceCleared 0 afterDescrambles.2.trace) ∧
      (decoded (acceptedFrames 0 (sinceCleared 0 afterDescrambles.2.trace))).length = 3 ∧
      (handedOver 0 afterDescrambles.2.trace).length = 4 := by
  unfold Whole
  decide +kernel

theorem module_hears_descrambles : ∃ start, ∃ slot : TransportSlot,
    ControllerRun start afterDescrambles.1 afterDescrambles.2 ∧ slot.queue.length = 1 ∧
    (decoded (acceptedFrames 0 (sinceCleared 0 afterDescrambles.2.trace))).length = 3 ∧
    (handedOver 0 afterDescrambles.2.trace).length = 4 ∧
    decoded (acceptedFrames 0 (sinceCleared 0 afterDescrambles.2.trace)) <+: handedOver 0 afterDescrambles.2.trace ∧
    decoded (acceptedFrames 0 (sinceCleared 0 afterDescrambles.2.trace) ++ slot.queue) =
      handedOver 0 afterDescrambles.2.trace := by
  obtain ⟨start, hrun⟩ := descrambles_run
  obtain ⟨hqueue, hkept, hdecoded, hhanded⟩ := descrambles_heard
  obtain ⟨slot, known, hqueue⟩ := Option.map_eq_some_iff.mp hqueue
  obtain ⟨hheard, hall⟩ := module_hears hrun known hkept
  exact ⟨start, slot, hrun, hqueue, hdecoded, hhanded, hheard, hall⟩

end LibDvb
