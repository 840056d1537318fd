import Mathlib.Algebra.GroupWithZero.Nat
import LibDvb.Error

namespace LibDvb

inductive CaPmtListManagement where
  | only
  | add
  | update
  deriving DecidableEq, Repr

def CaPmtListManagement.toByte : CaPmtListManagement → UInt8
  | only => 0x03
  | add => 0x04
  | update => 0x05

inductive CaPmtCommand where
  | okDescrambling
  | notSelected
  deriving DecidableEq, Repr

def CaPmtCommand.toByte : CaPmtCommand → UInt8
  | okDescrambling => 0x01
  | notSelected => 0x04

structure CaDescriptor where
  caid : UInt16
  bytes : Bytes
  deriving DecidableEq, Repr

structure ProgramStream where
  streamType : UInt8
  elementaryPid : UInt16
  descriptors : List CaDescriptor
  deriving DecidableEq, Repr

structure Program where
  programNumber : UInt16
  version : UInt8
  descriptors : List CaDescriptor
  streams : List ProgramStream
  deriving DecidableEq, Repr

-- The part of the PMT parser of `libmpegts` that `Program::parse` calls.
structure Descriptor where
  tag : UInt8
  bytes : Bytes

structure PmtStream where
  streamType : UInt8
  elementaryPid : UInt16
  descriptors : Option (List (Except String Descriptor))

structure PmtSection where
  programNumber : UInt16
  version : UInt8
  descriptors : Option (List (Except String Descriptor))
  streams : List (Except String PmtStream)

structure Mpegts where
  pmtSection : Bytes → Except String PmtSection
  caDescriptorTag : UInt8
  caSystemId : Descriptor → Except String UInt16

def parseCaDescriptors (lib : Mpegts) (programNumber : UInt16) :
    List (Except String Descriptor) → Except Error (List CaDescriptor)
  | [] => .ok []
  | .error error :: _ =>
      .error (.invalidData s!"invalid descriptor in PMT program {programNumber}: {error}")
  | .ok descriptor :: rest =>
      if descriptor.tag ≠ lib.caDescriptorTag then
        parseCaDescriptors lib programNumber rest
      else
        match lib.caSystemId descriptor with
        | .error error =>
            .error (.invalidData s!"invalid CA descriptor in PMT program {programNumber}: {error}")
        | .ok caid => do
            let result ← parseCaDescriptors lib programNumber rest
            .ok ({ caid, bytes := descriptor.bytes } :: result)

def parseStreams (lib : Mpegts) (programNumber : UInt16) :
    List (Except String PmtStream) → Except Error (List ProgramStream)
  | [] => .ok []
  | .error error :: _ =>
      .error (.invalidData s!"invalid PMT section for program {programNumber}: {error}")
  | .ok stream :: rest => do
      let descriptors ← parseCaDescriptors lib programNumber (stream.descriptors.getD [])
      let streams ← parseStreams lib programNumber rest
      .ok ({ streamType := stream.streamType, elementaryPid := stream.elementaryPid, descriptors } ::
        streams)

def Program.parse (lib : Mpegts) (pmtSection : Bytes) : Except Error Program :=
  match lib.pmtSection pmtSection with
  | .error error => .error (.invalidData s!"invalid PMT section: {error}")
  | .ok pmt =>
      if pmt.programNumber = 0 then
        .error (.invalidData "invalid PMT section: program number is zero")
      else do
        let descriptors ← parseCaDescriptors lib pmt.programNumber (pmt.descriptors.getD [])
        let streams ← parseStreams lib pmt.programNumber pmt.streams
        .ok { programNumber := pmt.programNumber, version := pmt.version, descriptors, streams }

def matching (descriptors : List CaDescriptor) (caids : List UInt16) : List CaDescriptor :=
  descriptors.filter fun descriptor => caids.contains descriptor.caid

def usizeMax : Nat := 2 ^ 64 - 1

-- The bytes `append_info` adds to its output, with its result.
def appendInfo (descriptors : List CaDescriptor) (caids : List UInt16) (command : CaPmtCommand) :
    Except Error (Bytes × Bool) :=
  let selected := matching descriptors caids
  if selected = [] then
    .ok ([0xF0, 0x00], false)
  else
    let infoLen := 1 + (selected.map fun descriptor => descriptor.bytes.length).sum
    if infoLen > usizeMax then
      .error (.invalidData "CA_PMT info length overflow")
    else if infoLen > 0x0FFF then
      .error (.invalidData s!"CA_PMT info is too large: {infoLen} bytes")
    else
      .ok (toBeBytes (0xF000 ||| UInt16.ofNat infoLen) ++ [command.toByte] ++
        (selected.map fun descriptor => descriptor.bytes).flatten, true)

def appendStreams (caids : List UInt16) (command : CaPmtCommand) :
    List ProgramStream → Except Error (Bytes × Bool)
  | [] => .ok ([], false)
  | stream :: rest => do
      let (info, matched) ← appendInfo stream.descriptors caids command
      let (tail, matchedRest) ← appendStreams caids command rest
      .ok ([stream.streamType] ++ toBeBytes (0xE000 ||| stream.elementaryPid) ++ info ++ tail,
        matched || matchedRest)

def Program.buildCaPmt (program : Program) (caids : List UInt16)
    (listManagement : CaPmtListManagement) (command : CaPmtCommand) :
    Except Error (Option Bytes) := do
  let head : Bytes := [listManagement.toByte] ++ toBeBytes program.programNumber ++
    [(0xC1 : UInt8) ||| ((program.version &&& 0x1F) <<< 1)]
  let (info, matched) ← appendInfo program.descriptors caids command
  let (tail, matchedStreams) ← appendStreams caids command program.streams
  if matched || matchedStreams then .ok (some (head ++ info ++ tail)) else .ok none

example :
    let program : Program :=
      { programNumber := 0x1234
        version := 3
        descriptors := [⟨0x0100, [0x09, 0x04, 0x01, 0x00, 0xE1, 0xEC]⟩]
        streams := [⟨0x1B, 0x0101, []⟩] }
    program.buildCaPmt [0x0100] .only .okDescrambling =
      .ok (some [0x03, 0x12, 0x34, 0xC7, 0xF0, 0x07, 0x01, 0x09, 0x04, 0x01, 0x00, 0xE1, 0xEC,
        0x1B, 0xE1, 0x01, 0xF0, 0x00]) := by
  decide

end LibDvb
