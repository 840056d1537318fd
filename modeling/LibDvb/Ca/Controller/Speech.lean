import LibDvb.Ca.Controller.Wire
import LibDvb.Ca.Session.Formed

namespace LibDvb

variable {count : Nat} {slotId : UInt8} {frame : Bytes} {trace : List Obs} {start c : CiController}
  {labels : List ControllerLabel}

theorem waiting_queued (h : frame ∈ waitingFrames slotId trace) : .queued slotId frame ∈ trace := by
  induction trace using List.reverseRecOn with
  | nil => cases h
  | append_singleton trace obs ih =>
      have hearlier {waiting : List Bytes} (hsub : ∀ f ∈ waiting, f ∈ waitingFrames slotId trace) (hmem : frame ∈ waiting) :
          .queued slotId frame ∈ trace ++ [obs] := List.mem_append_left _ (ih (hsub frame hmem))
      rw [waitingFrames_snoc] at h
      by_cases hslot : obs.slot = some slotId
      · cases obs with
        | queued other sent =>
            obtain rfl : other = slotId := Option.some.inj hslot
            rw [waitingStep, if_pos rfl] at h
            rcases List.mem_append.mp h with hmem | hmem
            · exact hearlier (fun _ hmem => hmem) hmem
            · rw [List.mem_singleton.mp hmem]
              exact List.mem_append_right _ (List.mem_singleton_self _)
        | wrote other sent result callback =>
            cases result with
            | ok _ =>
                rw [waitingStep] at h
                split at h
                · exact hearlier (fun _ hmem => List.mem_of_mem_tail hmem) h
                · exact hearlier (fun _ hmem => hmem) h
            | error e =>
                rw [waitingStep] at h
                split at h
                · exact hearlier (fun _ hmem => List.mem_of_mem_tail hmem) h
                · exact hearlier (fun _ hmem => hmem) h
        | cleared other =>
            rw [waitingStep] at h
            split at h
            · cases h
            · exact hearlier (fun _ hmem => hmem) h
        | _ => exact hearlier (fun _ hmem => hmem) h
      · rw [waitingFrames_other hslot] at h
        exact hearlier (fun _ hmem => hmem) h

theorem wrote_queued {result : Except Error Unit} {callback : Bool} (hlawful : Lawful count trace)
    (h : .wrote slotId frame result callback ∈ trace) : .queued slotId frame ∈ trace := by
  obtain ⟨before, after, rfl⟩ := List.append_of_mem h
  have hallowed := hlawful before _ after rfl
  have hs := (List.getElem?_eq_some_iff.mp hallowed.choose_spec.1).1
  rw [length_replay] at hs
  exact List.mem_append_left _ (waiting_queued (List.mem_of_mem_head? (head_waiting hs hallowed)))

def Obs.Speaks (obs : Obs) : Prop :=
  ∀ slotId frame, obs = .queued slotId frame → ∃ tag data, Tpdu.Formed slotId tag data frame

theorem habit_speaks : Habit (CiTransport.Logs Obs.Speaks) :=
  habit_logs (fun _ hother slotId frame heq => absurd heq (hother slotId frame))
    fun slotId hslot utterance frame hmem other sent heq => by
      obtain ⟨rfl, rfl⟩ := Obs.queued.inj heq
      exact utterance.formed hslot hmem

theorem link_frames_formed {result : Except Error Unit} {callback : Bool} (h : ControllerRun start labels c)
    (hwrote : .wrote slotId frame result callback ∈ c.trace) :
    frame.length ≤ Tpdu.maxTpduSize ∧ ∃ tag data, Tpdu.Formed slotId tag data frame := by
  obtain ⟨delta, htrace, _, hspeaks⟩ := habit_speaks.along (fun t _ _ => CiTransport.Within.refl t) h h.count_start
  have hqueued : .queued slotId frame ∈ c.trace := wrote_queued h.settled.calm.sound.session.faithful.lawful hwrote
  have hstart : start.trace = [] := by
    obtain ⟨link, slotsNum, hsession⟩ := (CiController.blank_start h.1).session
    rw [CiController.trace, hsession]
    rfl
  have hdelta : c.trace = start.trace ++ delta := htrace
  rw [hdelta, hstart, List.nil_append] at hqueued
  obtain ⟨tag, data, hformed⟩ := hspeaks _ hqueued slotId frame rfl
  exact ⟨hformed.length_le, tag, data, hformed⟩

theorem sinceCleared_mem {obs : Obs} (h : obs ∈ sinceCleared slotId trace) : obs ∈ trace := by
  induction trace using List.reverseRecOn with
  | nil => cases h
  | append_singleton trace other ih =>
      rw [sinceCleared_snoc] at h
      split at h
      · cases h
      · split at h
        · rcases List.mem_append.mp h with hmem | hmem
          · exact List.mem_append_left _ (ih hmem)
          · exact List.mem_append_right _ hmem
        · exact List.mem_append_left _ (ih h)

theorem accepted_wrote (h : frame ∈ acceptedFrames slotId trace) :
    ∃ callback, .wrote slotId frame (.ok ()) callback ∈ trace := by
  obtain ⟨obs, hmem, hobs⟩ := List.mem_filterMap.mp h
  cases obs with
  | wrote other sent result callback =>
      cases result with
      | ok _ =>
          rw [Obs.acceptedFor] at hobs
          split at hobs
          · next heq =>
              rw [heq, Option.some.inj hobs] at hmem
              exact ⟨callback, hmem⟩
          · cases hobs
      | error e => cases hobs
  | _ => cases hobs

theorem link_frames_formed_descrambles : ∃ start frame callback,
    ControllerRun start afterDescrambles.1 afterDescrambles.2 ∧
    .wrote 0 frame (.ok ()) callback ∈ afterDescrambles.2.trace ∧
    frame.length ≤ Tpdu.maxTpduSize ∧ ∃ tag data, Tpdu.Formed 0 tag data frame := by
  obtain ⟨start, hrun⟩ := descrambles_run
  obtain ⟨_, _, hdecoded, _⟩ := descrambles_heard
  obtain ⟨frame, hmem⟩ : ∃ frame, frame ∈ acceptedFrames 0 (sinceCleared 0 afterDescrambles.2.trace) := by
    refine List.exists_mem_of_ne_nil _ fun hnil => ?_
    rw [hnil] at hdecoded
    cases hdecoded
  obtain ⟨callback, hwrote⟩ := accepted_wrote hmem
  have hwrote := sinceCleared_mem hwrote
  exact ⟨start, frame, callback, hrun, hwrote, link_frames_formed hrun hwrote⟩

theorem command_stream (h : ControllerRun start labels c) {slot : TransportSlot}
    (known : c.session.transport.slots[slotId.toNat]? = some slot) (hwhole : Whole (sinceCleared slotId c.trace)) :
    ∃ talk : List Utterance,
      acceptedFrames slotId (sinceCleared slotId c.trace) ++ slot.queue = talk.flatMap (Utterance.frames slotId) ∧
      handedOver slotId c.trace = (talk.flatMap Utterance.spdus).flatMap Spdu.tellings := by
  obtain ⟨talk, hframes, htold⟩ := h.balanced (List.getElem?_eq_some_iff.mp known).1 hwhole
  exact ⟨talk, (h.accepted_queue known hwhole).trans hframes, htold⟩

theorem command_stream_descrambles : ∃ start, ∃ slot : TransportSlot,
    ControllerRun start afterDescrambles.1 afterDescrambles.2 ∧ slot.queue.length = 1 ∧
    ∃ talk : List Utterance, acceptedFrames 0 (sinceCleared 0 afterDescrambles.2.trace) ++ slot.queue =
        talk.flatMap (Utterance.frames 0) ∧
      handedOver 0 afterDescrambles.2.trace = (talk.flatMap Utterance.spdus).flatMap Spdu.tellings := by
  obtain ⟨start, hrun⟩ := descrambles_run
  obtain ⟨hqueue, hkept, _⟩ := descrambles_heard
  obtain ⟨slot, known, hqueue⟩ := Option.map_eq_some_iff.mp hqueue
  exact ⟨start, slot, hrun, hqueue, command_stream hrun known hkept⟩

end LibDvb
