import LibDvb.Ca.Capmt.Decode
import Mathlib.Logic.Function.Basic

namespace LibDvb

-- The objects that a module has in its list, each without its list management.
abbrev Listing : Type := UInt16 → Option Bytes

namespace CaPmt

def sectionCommand : Bytes → Option (Option UInt8 × Bytes)
  | hi :: lo :: rest =>
      let length := (ofBeBytes hi lo &&& 0x0FFF).toNat
      if length ≤ rest.length then some ((rest.take length).head?, rest.drop length) else none
  | _ => none

def streamsCommand : Nat → Bytes → Option UInt8
  | fuel + 1, _ :: _ :: _ :: rest =>
      match sectionCommand rest with
      | some (some command, _) => some command
      | some (none, rest) => streamsCommand fuel rest
      | none => none
  | _, _ => none

def firstCommand (sections : Bytes) : Option UInt8 :=
  match sectionCommand sections with
  | some (some command, _) => some command
  | some (none, rest) => streamsCommand rest.length rest
  | none => none

-- What a ca_pmt object makes of the list: `only` replaces the whole of it, `add` inserts a program that is not listed,
-- and `update` replaces or removes one that is. No other object goes with the list.
def receive (listing : Listing) : Bytes → Option Listing
  | listManagement :: hi :: lo :: version :: sections =>
      let number := ofBeBytes hi lo
      let entry := hi :: lo :: version :: sections
      let command := firstCommand sections
      if command = some CaPmtCommand.okDescrambling.toByte then
        if listManagement = CaPmtListManagement.only.toByte then
          some (Function.update (fun _ => none) number (some entry))
        else if listManagement = CaPmtListManagement.add.toByte ∧ listing number = none ∨
            listManagement = CaPmtListManagement.update.toByte ∧ listing number ≠ none then
          some (Function.update listing number (some entry))
        else
          none
      else if command = some CaPmtCommand.notSelected.toByte ∧
          listManagement = CaPmtListManagement.update.toByte ∧ listing number ≠ none then
        some (Function.update listing number none)
      else
        none
  | _ => none

def replay (objects : List Bytes) : Option Listing := objects.foldlM receive fun _ => none

end CaPmt

def Program.entry (caids : List UInt16) (program : Program) : Bytes :=
  match program.buildCaPmt caids .only .okDescrambling with
  | .ok (some body) => body.drop 1
  | _ => []

section Build

open CaPmt

variable {caids : List UInt16} {command : CaPmtCommand} {program : Program} {listManagement : CaPmtListManagement}
  {body : Bytes} {matched : Bool}

theorem appendInfo_command {descriptors : List CaDescriptor}
    (h : appendInfo descriptors caids command = .ok (body, matched)) (rest : Bytes) :
    sectionCommand (body ++ rest) = some (if matched then some command.toByte else none, rest) := by
  unfold appendInfo at h
  dsimp only at h
  split at h
  · cases h
    have hlength : (ofBeBytes 0xF0 0x00 &&& 0x0FFF).toNat = 0 := by decide
    simp [sectionCommand, hlength]
  split at h
  · cases h
  split at h
  · cases h
  · next hlong =>
      cases h
      have hflatten : ((matching descriptors caids).map CaDescriptor.bytes).flatten.length =
          ((matching descriptors caids).map fun descriptor => descriptor.bytes.length).sum := by
        rw [List.length_flatten, List.map_map]
        rfl
      simp only [toBeBytes, List.cons_append, List.nil_append, sectionCommand, ofBeBytes_toBeBytes,
        length_field (Nat.not_lt.mp hlong)]
      rw [if_pos (by simp only [List.length_cons, List.length_append, hflatten]; omega), Nat.add_comm 1,
        List.take_succ_cons, List.drop_succ_cons, List.drop_left' hflatten]
      rfl

theorem appendStreams_command {streams : List ProgramStream} (fuel : Nat)
    (h : appendStreams caids command streams = .ok (body, true)) (hfuel : streams.length ≤ fuel) :
    streamsCommand fuel body = some command.toByte := by
  induction streams generalizing body fuel with
  | nil => cases h
  | cons stream rest ih =>
      obtain ⟨fuel, rfl⟩ := Nat.exists_eq_add_of_lt (Nat.lt_of_lt_of_le (Nat.zero_lt_succ _) hfuel)
      have hfuel : rest.length ≤ 0 + fuel := by simpa using hfuel
      simp only [appendStreams, bind, Except.bind] at h
      split at h
      · cases h
      · next info hinfo =>
          split at h
          · cases h
          · next tail htail =>
              obtain ⟨info, first⟩ := info
              obtain ⟨tail, others⟩ := tail
              simp only [Except.ok.injEq, Prod.mk.injEq] at h
              obtain ⟨rfl, hany⟩ := h
              have hsection := appendInfo_command hinfo tail
              simp only [toBeBytes, List.cons_append, List.nil_append, streamsCommand, hsection]
              cases first with
              | true => rfl
              | false =>
                  obtain rfl : others = true := hany
                  exact ih _ htail hfuel

theorem appendStreams_length {streams : List ProgramStream}
    (h : appendStreams caids command streams = .ok (body, matched)) : streams.length ≤ body.length := by
  induction streams generalizing body matched with
  | nil => exact Nat.zero_le _
  | cons stream rest ih =>
      simp only [appendStreams, bind, Except.bind] at h
      split at h
      · cases h
      · next info hinfo =>
          split at h
          · cases h
          · next tail htail =>
              simp only [Except.ok.injEq, Prod.mk.injEq] at h
              obtain ⟨rfl, _⟩ := h
              have := ih htail
              simp only [List.length_append, List.length_cons, List.length_nil]
              omega

theorem sections_command {info tail : Bytes} {first others : Bool}
    (hinfo : appendInfo program.descriptors caids command = .ok (info, first))
    (htail : appendStreams caids command program.streams = .ok (tail, others)) (hmatched : (first || others) = true) :
    firstCommand (info ++ tail) = some command.toByte := by
  rw [firstCommand, appendInfo_command hinfo tail]
  cases first with
  | true => rfl
  | false =>
      obtain rfl : others = true := hmatched
      exact appendStreams_command _ htail (appendStreams_length htail)

theorem buildCaPmt_some (h : program.buildCaPmt caids listManagement command = .ok (some body)) :
    ∃ hi lo version sections, ofBeBytes hi lo = program.programNumber ∧
      firstCommand sections = some command.toByte ∧
      body = listManagement.toByte :: hi :: lo :: version :: sections ∧
      ∀ other, program.buildCaPmt caids other command =
        .ok (some (other.toByte :: hi :: lo :: version :: sections)) := by
  simp only [Program.buildCaPmt, bind, Except.bind] at h ⊢
  split at h
  · cases h
  · next info hinfo =>
      split at h
      · cases h
      · next tail htail =>
          split at h
          · next hmatched =>
              refine ⟨_, _, (0xC1 : UInt8) ||| ((program.version &&& 0x1F) <<< 1), info.1 ++ tail.1,
                ofBeBytes_toBeBytes program.programNumber, sections_command hinfo htail hmatched, ?_, fun other => ?_⟩
              · simp only [Except.ok.injEq, Option.some.injEq] at h
                simp only [← h, toBeBytes, List.cons_append, List.nil_append]
              · simp only [hmatched, if_true, toBeBytes, List.cons_append, List.nil_append]
          · cases h

theorem entry_of_build (h : program.buildCaPmt caids listManagement .okDescrambling = .ok (some body)) :
    body = listManagement.toByte :: program.entry caids := by
  obtain ⟨hi, lo, version, sections, _, _, hbody, hbuild⟩ := buildCaPmt_some h
  rw [Program.entry, hbuild .only, hbody]
  rfl

variable {listing : Listing}

theorem receive_only (h : program.buildCaPmt caids .only .okDescrambling = .ok (some body)) :
    receive listing body = some (Function.update (fun _ => none) program.programNumber (some (program.entry caids))) := by
  have hentry := entry_of_build h
  obtain ⟨hi, lo, version, sections, hnumber, hcommand, hbody, _⟩ := buildCaPmt_some h
  rw [hbody] at hentry ⊢
  rw [← (List.cons.inj hentry).2, ← hnumber]
  simp only [receive, hcommand, if_true]

theorem receive_add (h : program.buildCaPmt caids .add .okDescrambling = .ok (some body))
    (hnone : listing program.programNumber = none) :
    receive listing body = some (Function.update listing program.programNumber (some (program.entry caids))) := by
  have hentry := entry_of_build h
  obtain ⟨hi, lo, version, sections, hnumber, hcommand, hbody, _⟩ := buildCaPmt_some h
  rw [hbody] at hentry ⊢
  rw [← hnumber] at hnone
  rw [← (List.cons.inj hentry).2, ← hnumber]
  have hne : CaPmtListManagement.add.toByte ≠ CaPmtListManagement.only.toByte := by decide
  simp only [receive, hcommand, if_true, if_neg hne, hnone, and_self, true_or]

theorem receive_update (h : program.buildCaPmt caids .update .okDescrambling = .ok (some body))
    (hsome : listing program.programNumber ≠ none) :
    receive listing body = some (Function.update listing program.programNumber (some (program.entry caids))) := by
  have hentry := entry_of_build h
  obtain ⟨hi, lo, version, sections, hnumber, hcommand, hbody, _⟩ := buildCaPmt_some h
  rw [hbody] at hentry ⊢
  rw [← hnumber] at hsome
  rw [← (List.cons.inj hentry).2, ← hnumber]
  have hne : CaPmtListManagement.update.toByte ≠ CaPmtListManagement.only.toByte := by decide
  simp only [receive, hcommand, if_true, if_neg hne, true_and, if_pos (Or.inr hsome)]

theorem receive_withdrawal (h : program.buildCaPmt caids .update .notSelected = .ok (some body))
    (hsome : listing program.programNumber ≠ none) :
    receive listing body = some (Function.update listing program.programNumber none) := by
  obtain ⟨hi, lo, version, sections, hnumber, hcommand, hbody, _⟩ := buildCaPmt_some h
  rw [hbody]
  rw [← hnumber] at hsome
  rw [← hnumber]
  have hne : some CaPmtCommand.notSelected.toByte ≠ some CaPmtCommand.okDescrambling.toByte := by decide
  simp only [receive, hcommand, if_neg hne, true_and, if_pos hsome]

theorem CaPmt.replay_append {objects more : List Bytes} {last : Listing} (h : replay objects = some last) :
    replay (objects ++ more) = more.foldlM receive last := by
  rw [replay, List.foldlM_append, ← replay, h]
  rfl

end Build

end LibDvb
