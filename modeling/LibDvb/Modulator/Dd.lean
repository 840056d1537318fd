import LibDvb.Error

namespace LibDvb

open Outcome

def modSetupChannels : UInt8 := 0x60

def modSetupFlagFirst : UInt8 := 0x01
def modSetupFlagLast : UInt8 := 0x02
def modSetupFlagValid : UInt8 := 0x80

inductive Endian where
  | little
  | big
  deriving DecidableEq, Repr

def Endian.toNeBytes (endian : Endian) (x : UInt32) : Bytes :=
  let bytes := [x.toUInt8, (x >>> 8).toUInt8, (x >>> 16).toUInt8, (x >>> 24).toUInt8]
  match endian with
  | .little => bytes
  | .big => bytes.reverse

structure MciCommand where
  command : UInt8
  channel : UInt8
  stream : UInt8
  rsvd : UInt8
  params : Bytes
  deriving DecidableEq, Repr

def MciCommand.paramsSize : Nat := 124

def MciCommand.new (command channel stream : UInt8) : MciCommand where
  command
  channel
  stream
  rsvd := 0
  params := List.replicate paramsSize 0

structure ModSetupChannels where
  flags : UInt8
  standard : UInt8
  numChannels : UInt8
  frequency : UInt32
  offset : UInt32
  bandwidth : UInt32
  deriving DecidableEq, Repr

namespace ModSetupChannels

def size : Nat := 16

def encoded (endian : Endian) (self : ModSetupChannels) : Bytes :=
  [self.flags, self.standard, self.numChannels, 0] ++ endian.toNeBytes self.frequency ++
    endian.toNeBytes self.offset ++ endian.toNeBytes self.bandwidth

-- The buffer after the write; the indices up to `SIZE` must lie in it.
def writeTo (endian : Endian) (self : ModSetupChannels) (buf : Bytes) : Outcome Error Bytes :=
  if size ≤ buf.length then .ok (self.encoded endian ++ buf.drop size) else .panic

def marked (count i : Nat) (region : ModSetupChannels) : ModSetupChannels :=
  let flags := region.flags ||| modSetupFlagValid
  let flags := if i = 0 then flags ||| modSetupFlagFirst else flags
  let flags := if i = count - 1 then flags ||| modSetupFlagLast else flags
  { region with flags }

end ModSetupChannels

-- The loop over the regions from `i` on.
def setupRegions (endian : Endian) (count : Nat) : Nat → List ModSetupChannels → Bytes → Outcome Error Bytes
  | _, [], params => .ok params
  | i, region :: rest, params => do
      let buf ← sliceFrom params (i * ModSetupChannels.size)
      let written ← (region.marked count i).writeTo endian buf
      setupRegions endian count (i + 1) rest (params.take (i * ModSetupChannels.size) ++ written)

def setupChannelsCmd (endian : Endian) (regions : List ModSetupChannels) : Outcome Error MciCommand := do
  if regions = [] ∨ 4 < regions.length then
    .err (.invalidData s!"MOD_SETUP_CHANNELS takes 1..=4 regions, got {regions.length}")
  let cmd := MciCommand.new modSetupChannels 0 0
  let params ← setupRegions endian regions.length 0 regions cmd.params
  .ok { cmd with params }

section Bytes

def ofNeBytes (endian : Endian) (bytes : Bytes) : UInt32 :=
  let value (bytes : Bytes) : UInt32 := UInt32.ofNat (bytes.foldr (fun b n => b.toNat + 256 * n) 0)
  match endian with
  | .little => value bytes
  | .big => value bytes.reverse

theorem ofNeBytes_toNeBytes (endian : Endian) (x : UInt32) : ofNeBytes endian (endian.toNeBytes x) = x := by
  have hx := x.toNat_lt
  have hvalue : UInt32.ofNat ([x.toUInt8, (x >>> 8).toUInt8, (x >>> 16).toUInt8, (x >>> 24).toUInt8].foldr
      (fun b n => b.toNat + 256 * n) 0) = x := by
    rw [← UInt32.toNat_inj]
    simp only [List.foldr_cons, List.foldr_nil, UInt32.toNat_ofNat', UInt32.toNat_toUInt8, UInt32.toNat_shiftRight]
    rw [show (8 : UInt32).toNat % 32 = 8 from rfl, show (16 : UInt32).toNat % 32 = 16 from rfl,
      show (24 : UInt32).toNat % 32 = 24 from rfl]
    simp only [Nat.shiftRight_eq_div_pow]
    omega
  cases endian with
  | little => exact hvalue
  | big => exact hvalue

theorem length_toNeBytes (endian : Endian) (x : UInt32) : (endian.toNeBytes x).length = 4 := by
  cases endian <;> rfl

end Bytes

end LibDvb
