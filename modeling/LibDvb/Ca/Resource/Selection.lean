import LibDvb.Ca.Pacer
import LibDvb.Ca.Resource.ConditionalAccess

namespace LibDvb

def infoLength (descriptors : List CaDescriptor) : Nat :=
  1 + (descriptors.map fun descriptor => descriptor.bytes.length).sum

-- Every section of a CA_PMT for the program fits its 12-bit length field and the whole of it one
-- APDU, whichever descriptors the CAID list selects.
structure Program.Fits (program : Program) : Prop where
  info : infoLength program.descriptors ≤ 0x0FFF
  streams : ∀ stream ∈ program.streams, infoLength stream.descriptors ≤ 0x0FFF
  total : 6 + infoLength program.descriptors +
    (program.streams.map fun stream => 5 + infoLength stream.descriptors).sum ≤ 65535

def CaPmtChange.Fits : CaPmtChange → Prop
  | set program => program.Fits
  | remove _ => True

def Program.selectedBy (program : Program) (caids : List UInt16) : Bool :=
  matching program.descriptors caids ≠ [] ||
    program.streams.any fun stream => matching stream.descriptors caids ≠ []

namespace ConditionalAccessResource

def listManagement (session : ConditionalAccessSession) (program : Program) : CaPmtListManagement :=
  if session.selected[program.programNumber]?.isSome then .update
  else if session.selected.isEmpty then .only
  else .add

def withdrawal (session : ConditionalAccessSession) (caids : List UInt16) (programNumber : UInt16) :
    List Bytes × KeyMap Program :=
  match session.selected[programNumber]? with
  | none => ([], session.selected)
  | some program =>
      match program.buildCaPmt caids .update .notSelected with
      | .ok (some body) => ([body], session.selected.erase programNumber)
      | _ => ([], session.selected)

def changePlan (session : ConditionalAccessSession) : CaPmtChange → List Bytes × KeyMap Program
  | .set program =>
      match session.caids with
      | none => ([], session.selected)
      | some caids =>
          match program.buildCaPmt caids (listManagement session program) .okDescrambling with
          | .ok (some body) => ([body], session.selected.insert program.programNumber program)
          | _ => withdrawal session caids program.programNumber
  | .remove programNumber =>
      match session.caids with
      | none => ([], session.selected)
      | some caids => withdrawal session caids programNumber

def selectPlan (caids : List UInt16) :
    KeyMap Program → List (UInt16 × Program) → List Bytes × KeyMap Program
  | selected, [] => ([], selected)
  | selected, (programNumber, program) :: rest =>
      match program.buildCaPmt caids (if selected.isEmpty then .only else .add) .okDescrambling with
      | .ok (some body) =>
          let (bodies, last) := selectPlan caids (selected.insert programNumber program) rest
          (body :: bodies, last)
      | _ => selectPlan caids selected rest

def withdrawPlan (caids : List UInt16) (programs : List (UInt16 × Program)) : List Bytes :=
  programs.filterMap fun (_, program) =>
    match program.buildCaPmt caids .update .notSelected with
    | .ok body => body
    | .error _ => none

def infoPlan (programs : KeyMap Program) (session : ConditionalAccessSession)
    (caids : List UInt16) : List Bytes × KeyMap Program :=
  let (bodies, selected) := selectPlan caids ∅ programs.toList
  if selected.isEmpty then
    match session.caids with
    | some oldCaids => (bodies ++ withdrawPlan oldCaids session.selected.toList, selected)
    | none => (bodies, selected)
  else
    (bodies, selected)

def applyChange (programs : KeyMap Program) : CaPmtChange → KeyMap Program
  | .set program => programs.insert program.programNumber program
  | .remove programNumber => programs.erase programNumber

structure Fits (resource : ConditionalAccessResource) : Prop where
  programs : ∀ (programNumber : UInt16) program,
    resource.programs[programNumber]? = some program → program.Fits
  selected : ∀ (sessionId : UInt16) session, resource.sessions[sessionId]? = some session →
    ∀ (programNumber : UInt16) program,
      session.selected[programNumber]? = some program → program.Fits

end ConditionalAccessResource

theorem sum_matching_le (descriptors : List CaDescriptor) (caids : List UInt16) :
    ((matching descriptors caids).map fun descriptor => descriptor.bytes.length).sum ≤
      (descriptors.map fun descriptor => descriptor.bytes.length).sum := by
  unfold matching
  induction descriptors with
  | nil => simp
  | cons descriptor rest ih =>
      rw [List.filter_cons]
      split
      · simp only [List.map_cons, List.sum_cons]
        omega
      · simp only [List.map_cons, List.sum_cons]
        omega

theorem appendInfo_matched {descriptors : List CaDescriptor} {caids : List UInt16}
    {command : CaPmtCommand} {bytes : Bytes} {matched : Bool}
    (h : appendInfo descriptors caids command = .ok (bytes, matched)) :
    matched = decide (matching descriptors caids ≠ []) := by
  unfold appendInfo at h
  dsimp only at h
  split at h
  · next hnone =>
      cases h
      simp [hnone]
  split at h
  · cases h
  split at h
  · cases h
  · next hsome _ _ =>
      cases h
      simp [hsome]

theorem appendInfo_fits {descriptors : List CaDescriptor} (h : infoLength descriptors ≤ 0x0FFF)
    (caids : List UInt16) (command : CaPmtCommand) :
    ∃ bytes matched, appendInfo descriptors caids command = .ok (bytes, matched) ∧
      bytes.length ≤ 2 + infoLength descriptors := by
  have hle := sum_matching_le descriptors caids
  unfold infoLength at h ⊢
  unfold appendInfo
  by_cases hnone : matching descriptors caids = []
  · exact ⟨[0xF0, 0x00], false, by simp [hnone], by simp⟩
  · have hmax : ¬ 1 + ((matching descriptors caids).map fun descriptor =>
        descriptor.bytes.length).sum > usizeMax := by
      have : (4095 : Nat) ≤ usizeMax := by decide
      omega
    have hlong : ¬ 1 + ((matching descriptors caids).map fun descriptor =>
        descriptor.bytes.length).sum > 0x0FFF := by omega
    simp only [hnone, if_false, hmax, hlong]
    refine ⟨_, true, rfl, ?_⟩
    have hflatten : ((matching descriptors caids).map fun descriptor =>
        descriptor.bytes).flatten.length =
          ((matching descriptors caids).map fun descriptor => descriptor.bytes.length).sum := by
      rw [List.length_flatten, List.map_map]
      rfl
    simp only [List.length_append, toBeBytes, List.length_cons, List.length_nil, hflatten]
    omega

theorem appendStreams_matched {caids : List UInt16} {command : CaPmtCommand}
    {streams : List ProgramStream} {bytes : Bytes} {matched : Bool}
    (h : appendStreams caids command streams = .ok (bytes, matched)) :
    matched = streams.any fun stream => decide (matching stream.descriptors caids ≠ []) := by
  induction streams generalizing bytes matched with
  | nil =>
      cases h
      rfl
  | cons stream rest ih =>
      simp only [appendStreams, bind, Except.bind] at h
      split at h
      · cases h
      · next info hinfo =>
          split at h
          · cases h
          · next tail htail =>
              cases h
              rw [List.any_cons, ← appendInfo_matched hinfo, ← ih htail]

theorem appendStreams_fits (caids : List UInt16) (command : CaPmtCommand)
    (streams : List ProgramStream)
    (h : ∀ stream ∈ streams, infoLength stream.descriptors ≤ 0x0FFF) :
    ∃ bytes matched, appendStreams caids command streams = .ok (bytes, matched) ∧
      bytes.length ≤ (streams.map fun stream => 5 + infoLength stream.descriptors).sum := by
  induction streams with
  | nil => exact ⟨[], false, rfl, by simp⟩
  | cons stream rest ih =>
      obtain ⟨info, matched, hinfo, hinfoLen⟩ :=
        appendInfo_fits (h stream (List.mem_cons_self ..)) caids command
      obtain ⟨tail, matchedRest, htail, htailLen⟩ := ih fun s hs => h s (List.mem_cons_of_mem _ hs)
      refine ⟨[stream.streamType] ++ toBeBytes (0xE000 ||| stream.elementaryPid) ++ info ++ tail,
        matched || matchedRest, ?_, ?_⟩
      · simp only [appendStreams, hinfo, htail, bind, Except.bind]
      · simp only [List.length_append, List.length_cons, List.length_nil, toBeBytes, List.map_cons,
          List.sum_cons]
        omega

theorem selectedBy_of_buildCaPmt {program : Program} {caids : List UInt16}
    {listManagement : CaPmtListManagement} {command : CaPmtCommand} {body : Option Bytes}
    (h : program.buildCaPmt caids listManagement command = .ok body) :
    program.selectedBy caids = body.isSome := by
  simp only [Program.buildCaPmt, bind, Except.bind] at h
  split at h
  · cases h
  · next info hinfo =>
      split at h
      · cases h
      · next tail htail =>
          rw [Program.selectedBy, ← appendInfo_matched hinfo, ← appendStreams_matched htail]
          split at h
          · next hmatched =>
              cases h
              exact hmatched
          · next hmatched =>
              cases h
              exact Bool.not_eq_true _ ▸ hmatched

theorem buildCaPmt_fits {program : Program} (h : program.Fits) (caids : List UInt16)
    (listManagement : CaPmtListManagement) (command : CaPmtCommand) :
    ∃ body, program.buildCaPmt caids listManagement command = .ok body ∧
      ∀ bytes ∈ body, bytes.length ≤ 65535 := by
  obtain ⟨info, matched, hinfo, hinfoLen⟩ := appendInfo_fits h.info caids command
  obtain ⟨tail, matchedStreams, htail, htailLen⟩ :=
    appendStreams_fits caids command program.streams h.streams
  have htotal := h.total
  simp only [Program.buildCaPmt, hinfo, htail, bind, Except.bind]
  split
  · refine ⟨_, rfl, fun bytes hbytes => ?_⟩
    cases hbytes
    simp only [List.length_append, List.length_cons, List.length_nil, toBeBytes]
    omega
  · exact ⟨none, rfl, by rintro _ ⟨⟩⟩

namespace ConditionalAccessResource

theorem withdrawal_sound {session : ConditionalAccessSession} {caids : List UInt16}
    {number programNumber : UInt16} {program : Program}
    (h : (withdrawal session caids number).2[programNumber]? = some program) :
    session.selected[programNumber]? = some program := by
  unfold withdrawal at h
  split at h
  · exact h
  split at h
  · rw [KeyMap.get_erase] at h
    split at h
    · cases h
    · exact h
  · exact h

theorem changePlan_sound {session : ConditionalAccessSession} {change : CaPmtChange}
    {programNumber : UInt16} {program : Program}
    (h : (changePlan session change).2[programNumber]? = some program) :
    session.selected[programNumber]? = some program ∨
      (change = .set program ∧ program.programNumber = programNumber ∧
        ∃ caids, session.caids = some caids ∧ program.selectedBy caids = true) := by
  cases change with
  | set changed =>
      simp only [changePlan] at h
      split at h
      · exact .inl h
      · next caids hcaids =>
          split at h
          · next body hbody =>
              rw [KeyMap.get_insert] at h
              split at h
              · next heq =>
                  cases h
                  exact .inr ⟨rfl, heq, caids, hcaids, selectedBy_of_buildCaPmt hbody⟩
              · exact .inl h
          · exact .inl (withdrawal_sound h)
  | remove number =>
      simp only [changePlan] at h
      split at h
      · exact .inl h
      · exact .inl (withdrawal_sound h)

theorem selectPlan_sound (caids : List UInt16) (programs : List (UInt16 × Program))
    (selected : KeyMap Program) {programNumber : UInt16} {program : Program}
    (h : (selectPlan caids selected programs).2[programNumber]? = some program) :
    selected[programNumber]? = some program ∨
      ((programNumber, program) ∈ programs ∧ program.selectedBy caids = true) := by
  induction programs generalizing selected with
  | nil => exact .inl h
  | cons entry rest ih =>
      obtain ⟨number, entry⟩ := entry
      simp only [selectPlan] at h
      split at h
      · next body hbody =>
          rcases ih _ h with hold | ⟨hmem, hmatch⟩
          · rw [KeyMap.get_insert] at hold
            split at hold
            · next heq =>
                cases hold
                subst heq
                exact .inr ⟨List.mem_cons_self .., selectedBy_of_buildCaPmt hbody⟩
            · exact .inl hold
          · exact .inr ⟨List.mem_cons_of_mem _ hmem, hmatch⟩
      · rcases ih _ h with hold | ⟨hmem, hmatch⟩
        · exact .inl hold
        · exact .inr ⟨List.mem_cons_of_mem _ hmem, hmatch⟩

theorem infoPlan_selected (programs : KeyMap Program) (session : ConditionalAccessSession)
    (caids : List UInt16) :
    (infoPlan programs session caids).2 = (selectPlan caids ∅ programs.toList).2 := by
  unfold infoPlan
  dsimp only
  split
  · split <;> rfl
  · rfl

theorem infoPlan_sound {programs : KeyMap Program} {session : ConditionalAccessSession}
    {caids : List UInt16} {programNumber : UInt16} {program : Program}
    (h : (infoPlan programs session caids).2[programNumber]? = some program) :
    programs[programNumber]? = some program ∧ program.selectedBy caids = true := by
  rw [infoPlan_selected] at h
  rcases selectPlan_sound caids _ _ h with hnone | ⟨hmem, hmatch⟩
  · rw [KeyMap.get_empty] at hnone
    cases hnone
  · exact ⟨KeyMap.mem_toList.mp hmem, hmatch⟩

end ConditionalAccessResource

end LibDvb
