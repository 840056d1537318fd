import LibDvb.Ca.Controller.CamStatus
import LibDvb.Ca.Transport.Reassembly

namespace LibDvb

-- What the frames of a slot leave in a reassembly buffer that was empty before them.
def gathered (slotsNum slotId : UInt8) (since : List Obs) : Bytes :=
  (since.foldl (Obs.onSlot slotsNum slotId) {}).rxBuffer

def OwnFrames (slotsNum : UInt8) (trace : List Obs) : Prop :=
  ∀ slotId spdu before since after,
    trace = before ++ .activated slotId :: (since ++ .dispatched slotId spdu :: after) →
      .activated slotId ∉ since →
        ∃ earlier frame parsed, since = earlier ++ [.read frame] ∧ frame.head? = some slotId ∧
          Tpdu.parse frame slotsNum = .ok parsed ∧ spdu = gathered slotsNum slotId earlier ++ parsed.body

def EmptyWhenActivated (slotsNum : UInt8) (trace : List Obs) : Prop :=
  ∀ slotId before after, trace = before ++ .activated slotId :: after →
    (slotHistory slotsNum slotId before).rxBuffer = []

section Buffer

variable {slotsNum slotId : UInt8} {slot slot' : TransportSlot}

theorem rxBuffer_receive (parsed : Tpdu.RTpdu) (h : slot.rxBuffer = slot'.rxBuffer) :
    (slot.receive parsed).2.rxBuffer = (slot'.receive parsed).2.rxBuffer := by
  unfold TransportSlot.receive
  dsimp only
  rw [h]
  repeat' split
  all_goals rfl

theorem rxBuffer_onSlot (obs : Obs) (h : slot.rxBuffer = slot'.rxBuffer) :
    (obs.onSlot slotsNum slotId slot).rxBuffer = (obs.onSlot slotsNum slotId slot').rxBuffer := by
  cases obs with
  | read frame =>
      simp only [Obs.onSlot]
      split
      · unfold TransportSlot.afterRead
        split
        · exact rxBuffer_receive _ h
        · exact h
      · exact h
  | wrote other frame result callback =>
      cases result <;> simp only [Obs.onSlot] <;> split <;> exact h
  | cleared other =>
      simp only [Obs.onSlot]
      split
      · rfl
      · exact h
  | queued other frame =>
      simp only [Obs.onSlot]
      split <;> exact h
  | taken other =>
      simp only [Obs.onSlot]
      split <;> exact h
  | _ => exact h

theorem rxBuffer_foldl (since : List Obs) (h : slot.rxBuffer = slot'.rxBuffer) :
    (since.foldl (Obs.onSlot slotsNum slotId) slot).rxBuffer =
      (since.foldl (Obs.onSlot slotsNum slotId) slot').rxBuffer := by
  induction since generalizing slot slot' with
  | nil => exact h
  | cons obs rest ih => exact ih (rxBuffer_onSlot obs h)

theorem ownFrames_of_empty {count : Nat} {trace : List Obs} (hlawful : Lawful count trace)
    (hempty : EmptyWhenActivated (UInt8.ofNat count) trace) : OwnFrames (UInt8.ofNat count) trace := by
  intro slotId spdu before since after htrace hlast
  have hallowed := hlawful (before ++ .activated slotId :: since) (.dispatched slotId spdu) after
    (by rw [htrace, List.append_assoc, List.cons_append])
  obtain ⟨early, frame, hearly, hreceived⟩ := hallowed
  rw [length_replay] at hreceived
  rcases List.eq_nil_or_concat since with rfl | ⟨earlier, last, rfl⟩
  · obtain ⟨_, hread⟩ := List.append_inj' hearly rfl
    cases hread
  · rw [List.concat_eq_append, ← List.cons_append, ← List.append_assoc] at hearly
    obtain ⟨hbefore, hread⟩ := List.append_inj' hearly rfl
    cases hread
    obtain ⟨hhead, slot, hslot⟩ := received_known hreceived
    obtain ⟨hlt, _⟩ := List.getElem?_eq_some_iff.mp hslot
    rw [length_replay] at hlt
    have hhistory := getElem?_replay hlt early
    obtain ⟨parsed, hparse, _, hspdu⟩ := received_spdu hhistory hhead hreceived
    rw [length_replay] at hparse
    refine ⟨earlier, frame, parsed, List.concat_eq_append .., hhead, hparse, ?_⟩
    have hbuffer : (slotHistory (UInt8.ofNat count) slotId early).rxBuffer =
        gathered (UInt8.ofNat count) slotId earlier := by
      have hactivated := hempty slotId before (earlier ++ .read frame :: .dispatched slotId spdu :: after) (by simp [htrace])
      rw [← hbefore, slotHistory, List.foldl_append, List.foldl_cons]
      exact rxBuffer_foldl earlier hactivated
    rw [hspdu, hbuffer]

def Obs.activatedSlot : Obs → Option UInt8
  | .activated slotId => some slotId
  | _ => none

theorem emptyWhenActivated_of_all {trace : List Obs}
    (h : ∀ k : Fin trace.length, ∀ slotId ∈ (trace.get k).activatedSlot,
      (slotHistory slotsNum slotId (trace.take k)).rxBuffer = []) : EmptyWhenActivated slotsNum trace := by
  rintro slotId before after rfl
  have hk : before.length < (before ++ .activated slotId :: after).length := by simp
  simpa using h ⟨before.length, hk⟩ slotId (by simp [Obs.activatedSlot])

end Buffer

theorem spdus_of_connection {start c : CiController} {labels : List ControllerLabel}
    (h : ControllerRun start labels c)
    (hempty : EmptyWhenActivated (UInt8.ofNat c.session.transport.slots.length) c.trace) :
    OwnFrames (UInt8.ofNat c.session.transport.slots.length) c.trace :=
  ownFrames_of_empty h.settled.calm.sound.session.faithful.lawful hempty

theorem handshake_empty : EmptyWhenActivated
    (UInt8.ofNat afterHandshake.2.session.transport.slots.length) afterHandshake.2.trace :=
  emptyWhenActivated_of_all (by decide +kernel)

theorem spdus_of_connection_handshake : ∃ start, ControllerRun start afterHandshake.1 afterHandshake.2 ∧
    OwnFrames (UInt8.ofNat afterHandshake.2.session.transport.slots.length) afterHandshake.2.trace := by
  obtain ⟨start, hrun⟩ := handshake_run
  exact ⟨start, hrun, spdus_of_connection hrun handshake_empty⟩

def lateFragment : Bytes := [0, 1, 0xA0, 5, 1, 0x00, 0x02, 0x00, 0x41, 0x80, 2, 1, 0]

-- A TT_DATA_MORE comes before the TT_CTC_REPLY, the rest of its object after it.
def staleFragment : List (CaDevice × ControllerOp) :=
  [(moduleReady, .tick 0), ({}, .pollEvent), ({}, .pollEvent),
    frameRead [0, 1, 0xA1, 3, 1, 0x91, 4, 0x80, 2, 1, 0],
    frameRead [0, 1, 0x83, 1, 1, 0x80, 2, 1, 0], ({}, .pollEvent), frameRead lateFragment]

theorem staleFragment_isSome : (trail ControllerOp.next oneSlot staleFragment).isSome := by decide +kernel

def afterStaleFragment : List ControllerLabel × CiController :=
  (trail ControllerOp.next oneSlot staleFragment).get staleFragment_isSome

theorem staleFragment_run : ControllerRun oneSlot afterStaleFragment.1 afterStaleFragment.2 :=
  oneSlot_run staleFragment_isSome

theorem staleFragment_count :
    UInt8.ofNat afterStaleFragment.2.session.transport.slots.length = 1 := by decide +kernel

theorem staleFragment_trace : afterStaleFragment.2.trace = afterStaleFragment.2.trace.take 8 ++
    .activated 0 :: ([.read lateFragment] ++
      .dispatched 0 [0x91, 4, 0x00, 0x02, 0x00, 0x41] :: afterStaleFragment.2.trace.drop 11) := by decide +kernel

theorem lateFragment_parse : ∃ parsed, Tpdu.parse lateFragment 1 = .ok parsed ∧ parsed.body.length = 4 :=
  ⟨_, rfl, rfl⟩

theorem stale_fragment_dispatched : ControllerRun oneSlot afterStaleFragment.1 afterStaleFragment.2 ∧
    ¬ OwnFrames (UInt8.ofNat afterStaleFragment.2.session.transport.slots.length)
      afterStaleFragment.2.trace := by
  refine ⟨staleFragment_run, ?_⟩
  rw [staleFragment_count]
  intro hown
  obtain ⟨earlier, frame, parsed, hsince, _, hparse, hspdu⟩ :=
    hown 0 _ _ _ _ staleFragment_trace (by decide)
  have hsplit : [] ++ [Obs.read lateFragment] = earlier ++ [Obs.read frame] := hsince
  obtain ⟨hearlier, hframe⟩ := List.append_inj' hsplit rfl
  cases hframe
  subst hearlier
  obtain ⟨late, hlate, hbody⟩ := lateFragment_parse
  rw [hlate, Outcome.ok.injEq] at hparse
  have hlength := congrArg List.length hspdu
  rw [List.length_append, ← hparse, hbody] at hlength
  exact absurd hlength (by decide)

end LibDvb
