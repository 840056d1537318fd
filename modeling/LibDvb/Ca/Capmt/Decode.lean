import LibDvb.Ca.Capmt
import Mathlib.Tactic.Common

namespace LibDvb

structure CaPmtInfo where
  command : Option UInt8
  descriptors : List Bytes
  deriving DecidableEq, Repr

structure CaPmtStream where
  streamType : UInt8
  elementaryPid : UInt16
  info : CaPmtInfo
  deriving DecidableEq, Repr

structure CaPmt where
  listManagement : UInt8
  programNumber : UInt16
  version : UInt8
  currentNext : Bool
  info : CaPmtInfo
  streams : List CaPmtStream
  deriving DecidableEq, Repr

namespace CaPmt

-- What a module reads in a ca_pmt object: a descriptor is a tag, a length and as many bytes; the
-- command and the descriptors stand behind their common length; the streams follow to the end.
def decodeDescriptors : Nat → Bytes → Option (List Bytes)
  | _, [] => some []
  | fuel + 1, tag :: length :: rest =>
      if length.toNat ≤ rest.length then
        match decodeDescriptors fuel (rest.drop length.toNat) with
        | some descriptors => some ((tag :: length :: rest.take length.toNat) :: descriptors)
        | none => none
      else
        none
  | _, _ => none

def decodeInfo : Bytes → Option (CaPmtInfo × Bytes)
  | hi :: lo :: rest =>
      let length := (ofBeBytes hi lo &&& 0x0FFF).toNat
      if length ≤ rest.length then
        match rest.take length with
        | [] => some ({ command := none, descriptors := [] }, rest.drop length)
        | command :: loop =>
            match decodeDescriptors loop.length loop with
            | some descriptors => some ({ command := some command, descriptors }, rest.drop length)
            | none => none
      else
        none
  | _ => none

def decodeStreams : Nat → Bytes → Option (List CaPmtStream)
  | _, [] => some []
  | fuel + 1, streamType :: hi :: lo :: rest =>
      match decodeInfo rest with
      | some (info, rest) =>
          match decodeStreams fuel rest with
          | some streams => some ({ streamType, elementaryPid := ofBeBytes hi lo &&& 0x1FFF, info } :: streams)
          | none => none
      | none => none
  | _, _ => none

def decode : Bytes → Option CaPmt
  | listManagement :: hi :: lo :: version :: rest =>
      match decodeInfo rest with
      | some (info, rest) =>
          match decodeStreams rest.length rest with
          | some streams =>
              some { listManagement, programNumber := ofBeBytes hi lo, version := (version >>> 1) &&& 0x1F,
                     currentNext := version &&& 1 = 1, info, streams }
          | none => none
      | none => none
  | _ => none

end CaPmt

def CaDescriptor.Tlv (descriptor : CaDescriptor) : Prop :=
  ∃ tag length payload, descriptor.bytes = tag :: length :: payload ∧ payload.length = length.toNat

-- A program as it comes from a PMT section: 13-bit PIDs, a 5-bit version and whole descriptors.
structure Program.Stored (program : Program) : Prop where
  version : program.version < 32
  descriptors : ∀ descriptor ∈ program.descriptors, descriptor.Tlv
  pids : ∀ stream ∈ program.streams, stream.elementaryPid < 0x2000
  streams : ∀ stream ∈ program.streams, ∀ descriptor ∈ stream.descriptors, descriptor.Tlv

def Program.sections (program : Program) : List (List CaDescriptor) :=
  program.descriptors :: program.streams.map ProgramStream.descriptors

def infoSize (caids : List UInt16) (descriptors : List CaDescriptor) : Nat :=
  1 + ((matching descriptors caids).map fun descriptor => descriptor.bytes.length).sum

def infoOf (caids : List UInt16) (command : CaPmtCommand) (descriptors : List CaDescriptor) : CaPmtInfo where
  command := if matching descriptors caids = [] then none else some command.toByte
  descriptors := (matching descriptors caids).map CaDescriptor.bytes

def streamOf (caids : List UInt16) (command : CaPmtCommand) (stream : ProgramStream) : CaPmtStream where
  streamType := stream.streamType
  elementaryPid := stream.elementaryPid
  info := infoOf caids command stream.descriptors

def Program.caPmt (program : Program) (caids : List UInt16) (listManagement : CaPmtListManagement)
    (command : CaPmtCommand) : CaPmt where
  listManagement := listManagement.toByte
  programNumber := program.programNumber
  version := program.version
  currentNext := true
  info := infoOf caids command program.descriptors
  streams := program.streams.map (streamOf caids command)

section Decode

open CaPmt

variable {caids : List UInt16} {command : CaPmtCommand} {descriptors : List CaDescriptor}
  {streams : List ProgramStream}

theorem or_and_of_disjoint {mask field value : UInt16} (hmask : mask &&& field = 0)
    (hvalue : value &&& field = value) : (mask ||| value) &&& field = value := by
  have hmask : mask.toNat &&& field.toNat = 0 := by rw [← UInt16.toNat_and, hmask]; rfl
  have hvalue : value.toNat &&& field.toNat = value.toNat := by rw [← UInt16.toNat_and, hvalue]
  rw [← UInt16.toNat_inj, UInt16.toNat_and, UInt16.toNat_or, Nat.and_or_distrib_right, hmask, hvalue, Nat.zero_or]

theorem and_mask {value : UInt16} {bits : Nat} (hbits : bits < 16) (h : value.toNat < 2 ^ bits) :
    value &&& UInt16.ofNat (2 ^ bits - 1) = value := by
  have hpow : 2 ^ bits ≤ 2 ^ 15 := Nat.pow_le_pow_right (by decide) (by omega)
  have hfield : (UInt16.ofNat (2 ^ bits - 1)).toNat = 2 ^ bits - 1 := by
    rw [UInt16.toNat_ofNat']
    exact Nat.mod_eq_of_lt (by omega)
  rw [← UInt16.toNat_inj, UInt16.toNat_and, hfield, Nat.and_two_pow_sub_one_eq_mod, Nat.mod_eq_of_lt h]

theorem pid_field {pid : UInt16} (h : pid < 0x2000) : (0xE000 ||| pid) &&& 0x1FFF = pid :=
  or_and_of_disjoint (by decide) (@and_mask pid 13 (by decide) (UInt16.lt_iff_toNat_lt.mp h))

theorem length_field {n : Nat} (h : n ≤ 0x0FFF) : ((0xF000 ||| UInt16.ofNat n) &&& 0x0FFF).toNat = n := by
  have hn : (UInt16.ofNat n).toNat = n := by
    rw [UInt16.toNat_ofNat']
    exact Nat.mod_eq_of_lt (by omega)
  have hmask : UInt16.ofNat n &&& 0x0FFF = UInt16.ofNat n := @and_mask _ 12 (by decide) (by omega)
  rw [or_and_of_disjoint (by decide) hmask, hn]

theorem version_field {version : UInt8} (h : version < 32) :
    (((0xC1 : UInt8) ||| ((version &&& 0x1F) <<< 1)) >>> 1) &&& 0x1F = version ∧
      ((0xC1 : UInt8) ||| ((version &&& 0x1F) <<< 1)) &&& 1 = 1 := by
  have hall : ∀ n : Fin 32, (((0xC1 : UInt8) ||| ((UInt8.ofNat n.val &&& 0x1F) <<< 1)) >>> 1) &&& 0x1F =
      UInt8.ofNat n.val ∧ ((0xC1 : UInt8) ||| ((UInt8.ofNat n.val &&& 0x1F) <<< 1)) &&& 1 = 1 := by decide
  have := hall ⟨version.toNat, UInt8.lt_iff_toNat_lt.mp h⟩
  simpa using this

theorem decodeDescriptors_bytes (fuel : Nat) (hfuel : descriptors.length ≤ fuel)
    (h : ∀ descriptor ∈ descriptors, descriptor.Tlv) :
    decodeDescriptors fuel (descriptors.map CaDescriptor.bytes).flatten = some (descriptors.map CaDescriptor.bytes) := by
  induction descriptors generalizing fuel with
  | nil => cases fuel <;> rfl
  | cons descriptor rest ih =>
      obtain ⟨fuel, rfl⟩ := Nat.exists_eq_add_of_lt (Nat.lt_of_lt_of_le (Nat.zero_lt_succ _) hfuel)
      obtain ⟨tag, length, payload, hbytes, hlength⟩ := h descriptor List.mem_cons_self
      have hrest := ih fuel (by simpa using hfuel) fun other hmem => h other (List.mem_cons_of_mem _ hmem)
      simp only [List.map_cons, List.flatten_cons, hbytes, List.cons_append, Nat.zero_add, decodeDescriptors]
      rw [if_pos (by simp [hlength]), List.drop_left' hlength, List.take_left' hlength, hrest]

theorem length_bytes_le (h : ∀ descriptor ∈ descriptors, descriptor.Tlv) :
    descriptors.length ≤ (descriptors.map CaDescriptor.bytes).flatten.length := by
  induction descriptors with
  | nil => exact Nat.le_refl _
  | cons descriptor rest ih =>
      obtain ⟨tag, length, payload, hbytes, -⟩ := h descriptor List.mem_cons_self
      have := ih fun other hmem => h other (List.mem_cons_of_mem _ hmem)
      simp only [List.map_cons, List.flatten_cons, hbytes, List.length_append, List.length_cons]
      omega

theorem appendInfo_error (h : 0x0FFF < infoSize caids descriptors) :
    ∃ e, appendInfo descriptors caids command = .error e := by
  have hne : matching descriptors caids ≠ [] := by
    intro hnil
    simp [infoSize, hnil] at h
  unfold infoSize at h
  simp only [appendInfo, hne, if_false]
  split <;> exact ⟨_, rfl⟩

theorem appendInfo_ok (h : infoSize caids descriptors ≤ 0x0FFF)
    (htlv : ∀ descriptor ∈ descriptors, descriptor.Tlv) :
    ∃ bytes, appendInfo descriptors caids command = .ok (bytes, decide (matching descriptors caids ≠ [])) ∧
      ∀ rest, decodeInfo (bytes ++ rest) = some (infoOf caids command descriptors, rest) := by
  by_cases hnil : matching descriptors caids = []
  · refine ⟨[0xF0, 0x00], by simp [appendInfo, hnil], fun rest => ?_⟩
    have hlength : (ofBeBytes 0xF0 0x00 &&& 0x0FFF).toNat = 0 := by decide
    simp [decodeInfo, hlength, infoOf, hnil]
  · unfold infoSize at h
    have hmax : ¬ 1 + ((matching descriptors caids).map fun descriptor => descriptor.bytes.length).sum > usizeMax := by
      have : (4095 : Nat) ≤ usizeMax := by decide
      omega
    have hlong : ¬ 1 + ((matching descriptors caids).map fun descriptor => descriptor.bytes.length).sum > 0x0FFF :=
      Nat.not_lt.mpr h
    have hmatching : ∀ descriptor ∈ matching descriptors caids, descriptor.Tlv :=
      fun descriptor hmem => htlv descriptor (List.mem_filter.mp hmem).1
    have hflatten : ((matching descriptors caids).map CaDescriptor.bytes).flatten.length =
        ((matching descriptors caids).map fun descriptor => descriptor.bytes.length).sum := by
      rw [List.length_flatten, List.map_map]
      rfl
    refine ⟨toBeBytes (0xF000 ||| UInt16.ofNat
      (1 + ((matching descriptors caids).map fun descriptor => descriptor.bytes.length).sum)) ++ [command.toByte] ++
        ((matching descriptors caids).map CaDescriptor.bytes).flatten, ?_, fun rest => ?_⟩
    · simp only [appendInfo, hnil, if_false, hmax, hlong, ne_eq, not_false_eq_true, decide_true]
    · have hloop := decodeDescriptors_bytes _ (length_bytes_le hmatching) hmatching
      simp only [toBeBytes, List.cons_append, List.nil_append, decodeInfo, ofBeBytes_toBeBytes,
        length_field h]
      rw [if_pos (by simp only [List.length_cons, List.length_append, hflatten]; omega), Nat.add_comm 1,
        List.take_succ_cons, List.drop_succ_cons, List.take_left' hflatten, List.drop_left' hflatten]
      simp only [hloop, infoOf, hnil, if_false]

theorem appendStreams_error (h : ∃ stream ∈ streams, 0x0FFF < infoSize caids stream.descriptors) :
    ∃ e, appendStreams caids command streams = .error e := by
  induction streams with
  | nil => simp at h
  | cons stream rest ih =>
      simp only [appendStreams, bind, Except.bind]
      cases hinfo : appendInfo stream.descriptors caids command with
      | error e => exact ⟨e, rfl⟩
      | ok info =>
          obtain ⟨other, hmem, hlong⟩ := h
          rcases List.mem_cons.mp hmem with rfl | hmem
          · obtain ⟨e, herror⟩ := @appendInfo_error caids command _ hlong
            rw [herror] at hinfo
            cases hinfo
          · obtain ⟨e, htail⟩ := ih ⟨other, hmem, hlong⟩
            rw [htail]
            exact ⟨e, rfl⟩

theorem appendStreams_ok (h : ∀ stream ∈ streams, infoSize caids stream.descriptors ≤ 0x0FFF)
    (hpid : ∀ stream ∈ streams, stream.elementaryPid < 0x2000)
    (htlv : ∀ stream ∈ streams, ∀ descriptor ∈ stream.descriptors, descriptor.Tlv) :
    ∃ bytes, appendStreams caids command streams =
        .ok (bytes, streams.any fun stream => decide (matching stream.descriptors caids ≠ [])) ∧
      streams.length ≤ bytes.length ∧
      ∀ fuel, streams.length ≤ fuel → decodeStreams fuel bytes = some (streams.map (streamOf caids command)) := by
  induction streams with
  | nil => exact ⟨[], rfl, Nat.le_refl _, fun fuel _ => by cases fuel <;> rfl⟩
  | cons stream rest ih =>
      obtain ⟨info, hinfo, hdecode⟩ := @appendInfo_ok caids command _ (h stream List.mem_cons_self)
        (htlv stream List.mem_cons_self)
      obtain ⟨tail, htail, hlength, hrest⟩ := ih (fun other hmem => h other (List.mem_cons_of_mem _ hmem))
        (fun other hmem => hpid other (List.mem_cons_of_mem _ hmem))
        (fun other hmem => htlv other (List.mem_cons_of_mem _ hmem))
      refine ⟨[stream.streamType] ++ toBeBytes (0xE000 ||| stream.elementaryPid) ++ info ++ tail, ?_, ?_, ?_⟩
      · simp only [appendStreams, hinfo, htail, bind, Except.bind, List.any_cons]
      · simp only [List.length_append, List.length_cons, List.length_nil]
        omega
      · intro fuel hfuel
        obtain ⟨fuel, rfl⟩ := Nat.exists_eq_add_of_lt (Nat.lt_of_lt_of_le (Nat.zero_lt_succ _) hfuel)
        have hfuel : rest.length ≤ 0 + fuel := by simpa using hfuel
        simp only [toBeBytes, List.cons_append, List.nil_append, decodeStreams, hdecode, hrest _ hfuel,
          ofBeBytes_toBeBytes, pid_field (hpid stream List.mem_cons_self), List.map_cons, streamOf]

variable {program : Program} {listManagement : CaPmtListManagement}

theorem buildCaPmt_error (h : ∃ descriptors ∈ program.sections, 0x0FFF < infoSize caids descriptors) :
    ∃ e, program.buildCaPmt caids listManagement command = .error e := by
  simp only [Program.buildCaPmt, bind, Except.bind]
  cases hinfo : appendInfo program.descriptors caids command with
  | error e => exact ⟨e, rfl⟩
  | ok info =>
      obtain ⟨descriptors, hmem, hlong⟩ := h
      rcases List.mem_cons.mp hmem with rfl | hmem
      · obtain ⟨e, herror⟩ := @appendInfo_error caids command _ hlong
        rw [herror] at hinfo
        cases hinfo
      · obtain ⟨stream, hstream, rfl⟩ := List.mem_map.mp hmem
        obtain ⟨e, htail⟩ := @appendStreams_error caids command _ ⟨stream, hstream, hlong⟩
        rw [htail]
        exact ⟨e, rfl⟩

theorem matching_ne_nil : matching descriptors caids ≠ [] ↔ ∃ descriptor ∈ descriptors, descriptor.caid ∈ caids := by
  simp [matching, List.filter_eq_nil_iff]

theorem buildCaPmt_ok (h : program.Stored)
    (hfits : ∀ descriptors ∈ program.sections, infoSize caids descriptors ≤ 0x0FFF) :
    ∃ body, CaPmt.decode body = some (program.caPmt caids listManagement command) ∧
      program.buildCaPmt caids listManagement command =
        .ok (if ∃ descriptors ∈ program.sections, ∃ descriptor ∈ descriptors, descriptor.caid ∈ caids then
          some body else none) := by
  have hstreams : ∀ stream ∈ program.streams, infoSize caids stream.descriptors ≤ 0x0FFF :=
    fun stream hmem => hfits _ (List.mem_cons_of_mem _ (List.mem_map_of_mem hmem))
  obtain ⟨info, hinfo, hdecode⟩ := @appendInfo_ok caids command _ (hfits _ List.mem_cons_self) h.descriptors
  obtain ⟨tail, htail, hlength, hrest⟩ := @appendStreams_ok caids command _ hstreams h.pids h.streams
  obtain ⟨hversion, hcurrent⟩ := version_field h.version
  refine ⟨[listManagement.toByte] ++ toBeBytes program.programNumber ++
    [(0xC1 : UInt8) ||| ((program.version &&& 0x1F) <<< 1)] ++ info ++ tail, ?_, ?_⟩
  · simp only [toBeBytes, List.cons_append, List.nil_append, CaPmt.decode, hdecode, hrest _ hlength,
      ofBeBytes_toBeBytes, hversion, hcurrent, decide_true, Program.caPmt]
  · have hmatched : (decide (matching program.descriptors caids ≠ []) ||
        program.streams.any fun stream => decide (matching stream.descriptors caids ≠ [])) = true ↔
          ∃ descriptors ∈ program.sections, ∃ descriptor ∈ descriptors, descriptor.caid ∈ caids := by
      simp only [Bool.or_eq_true, decide_eq_true_eq, List.any_eq_true, matching_ne_nil, Program.sections,
        List.exists_mem_cons_iff, List.mem_map, exists_exists_and_eq_and]
    simp only [Program.buildCaPmt, hinfo, htail, bind, Except.bind, hmatched]
    split <;> rfl

end Decode

-- What `libmpegts` gives for a section: descriptors whole, a 5-bit version and 13-bit PIDs.
structure Mpegts.Lawful (lib : Mpegts) : Prop where
  version : ∀ bytes pmt, lib.pmtSection bytes = .ok pmt → pmt.version < 32
  descriptors : ∀ bytes pmt, lib.pmtSection bytes = .ok pmt → ∀ descriptor, .ok descriptor ∈ pmt.descriptors.getD [] →
    ∃ tag length payload, descriptor.bytes = tag :: length :: payload ∧ payload.length = length.toNat
  pids : ∀ bytes pmt, lib.pmtSection bytes = .ok pmt → ∀ stream, .ok stream ∈ pmt.streams →
    stream.elementaryPid < 0x2000
  streams : ∀ bytes pmt, lib.pmtSection bytes = .ok pmt → ∀ stream, .ok stream ∈ pmt.streams →
    ∀ descriptor, .ok descriptor ∈ stream.descriptors.getD [] →
      ∃ tag length payload, descriptor.bytes = tag :: length :: payload ∧ payload.length = length.toNat

section Parse

variable {lib : Mpegts} {programNumber : UInt16}

theorem parseCaDescriptors_mem {entries : List (Except String Descriptor)} {result : List CaDescriptor}
    (h : parseCaDescriptors lib programNumber entries = .ok result) :
    ∀ stored ∈ result, ∃ descriptor, .ok descriptor ∈ entries ∧ stored.bytes = descriptor.bytes := by
  induction entries generalizing result with
  | nil =>
      cases h
      simp
  | cons entry rest ih =>
      cases entry with
      | error e => cases h
      | ok descriptor =>
          simp only [parseCaDescriptors] at h
          split at h
          · intro stored hmem
            obtain ⟨other, hother, hbytes⟩ := ih h stored hmem
            exact ⟨other, List.mem_cons_of_mem _ hother, hbytes⟩
          · split at h
            · cases h
            · simp only [bind, Except.bind] at h
              split at h
              · cases h
              · next tail htail =>
                  cases h
                  intro stored hmem
                  rcases List.mem_cons.mp hmem with rfl | hmem
                  · exact ⟨descriptor, List.mem_cons_self, rfl⟩
                  · obtain ⟨other, hother, hbytes⟩ := ih htail stored hmem
                    exact ⟨other, List.mem_cons_of_mem _ hother, hbytes⟩

theorem parseStreams_mem {entries : List (Except String PmtStream)} {result : List ProgramStream}
    (h : parseStreams lib programNumber entries = .ok result) :
    ∀ stored ∈ result, ∃ stream, .ok stream ∈ entries ∧ stored.elementaryPid = stream.elementaryPid ∧
      parseCaDescriptors lib programNumber (stream.descriptors.getD []) = .ok stored.descriptors := by
  induction entries generalizing result with
  | nil =>
      cases h
      simp
  | cons entry rest ih =>
      cases entry with
      | error e => cases h
      | ok stream =>
          simp only [parseStreams, bind, Except.bind] at h
          split at h
          · cases h
          · next descriptors hdescriptors =>
              split at h
              · cases h
              · next tail htail =>
                  cases h
                  intro stored hmem
                  rcases List.mem_cons.mp hmem with rfl | hmem
                  · exact ⟨stream, List.mem_cons_self, rfl, hdescriptors⟩
                  · obtain ⟨other, hother, hrest⟩ := ih htail stored hmem
                    exact ⟨other, List.mem_cons_of_mem _ hother, hrest⟩

theorem Program.parse_stored {bytes : Bytes} {program : Program} (hlib : lib.Lawful)
    (h : Program.parse lib bytes = .ok program) : program.Stored := by
  unfold Program.parse at h
  split at h
  · cases h
  · next pmt hpmt =>
      split at h
      · cases h
      simp only [bind, Except.bind] at h
      split at h
      · cases h
      · next descriptors hdescriptors =>
          split at h
          · cases h
          · next streams hstreams =>
              cases h
              refine ⟨hlib.version bytes pmt hpmt, ?_, ?_, ?_⟩
              · intro stored hmem
                obtain ⟨descriptor, hentry, hbytes⟩ := parseCaDescriptors_mem hdescriptors stored hmem
                obtain ⟨tag, length, payload, hwhole, hlength⟩ := hlib.descriptors bytes pmt hpmt descriptor hentry
                exact ⟨tag, length, payload, hbytes.trans hwhole, hlength⟩
              · intro stored hmem
                obtain ⟨stream, hentry, hpid, -⟩ := parseStreams_mem hstreams stored hmem
                exact hpid ▸ hlib.pids bytes pmt hpmt stream hentry
              · intro stored hmem other hother
                obtain ⟨stream, hentry, -, hparsed⟩ := parseStreams_mem hstreams stored hmem
                obtain ⟨descriptor, hdescriptor, hbytes⟩ := parseCaDescriptors_mem hparsed other hother
                obtain ⟨tag, length, payload, hwhole, hlength⟩ :=
                  hlib.streams bytes pmt hpmt stream hentry descriptor hdescriptor
                exact ⟨tag, length, payload, hbytes.trans hwhole, hlength⟩

end Parse

theorem ca_pmt_encoding {program : Program} (h : program.Stored) (caids : List UInt16)
    (listManagement : CaPmtListManagement) (command : CaPmtCommand) :
    ((∃ e, program.buildCaPmt caids listManagement command = .error e) ↔
      ∃ descriptors ∈ program.sections, 0x0FFF < infoSize caids descriptors) ∧
    ((∀ descriptors ∈ program.sections, infoSize caids descriptors ≤ 0x0FFF) →
      (program.buildCaPmt caids listManagement command = .ok none ↔
        ∀ descriptors ∈ program.sections, ∀ descriptor ∈ descriptors, descriptor.caid ∉ caids) ∧
      ((∃ descriptors ∈ program.sections, ∃ descriptor ∈ descriptors, descriptor.caid ∈ caids) →
        ∃ body, program.buildCaPmt caids listManagement command = .ok (some body) ∧
          CaPmt.decode body = some (program.caPmt caids listManagement command))) := by
  constructor
  · constructor
    · rintro ⟨e, herror⟩
      by_contra hnone
      obtain ⟨body, -, hbuild⟩ := @buildCaPmt_ok caids command program listManagement h fun descriptors hmem =>
        Nat.not_lt.mp fun hlong => hnone ⟨descriptors, hmem, hlong⟩
      rw [hbuild] at herror
      cases herror
    · exact buildCaPmt_error
  · intro hfits
    obtain ⟨body, hdecode, hbuild⟩ := @buildCaPmt_ok caids command program listManagement h hfits
    rw [hbuild]
    constructor
    · rw [Except.ok.injEq, ite_eq_right_iff]
      simp
    · intro hmatched
      rw [if_pos hmatched]
      exact ⟨body, rfl, hdecode⟩

def oneDescriptor : Program :=
  { programNumber := 0x1234
    version := 3
    descriptors := [⟨0x0100, [0x09, 0x04, 0x01, 0x00, 0xE1, 0xEC]⟩]
    streams := [⟨0x1B, 0x0101, []⟩] }

theorem oneDescriptor_stored : oneDescriptor.Stored where
  version := by decide
  descriptors := by
    intro descriptor hmem
    rw [List.mem_singleton.mp hmem]
    exact ⟨0x09, 0x04, _, rfl, rfl⟩
  pids := by decide
  streams := by
    intro stream hmem descriptor hdescriptor
    rw [List.mem_singleton.mp hmem] at hdescriptor
    cases hdescriptor

theorem ca_pmt_encoding_one : ∃ body, oneDescriptor.buildCaPmt [0x0100] .only .okDescrambling = .ok (some body) ∧
    CaPmt.decode body = some (oneDescriptor.caPmt [0x0100] .only .okDescrambling) :=
  ((ca_pmt_encoding oneDescriptor_stored [0x0100] .only .okDescrambling).2 (by decide)).2
    ⟨_, List.mem_cons_self, _, List.mem_cons_self, by decide⟩

end LibDvb
