import LibDvb.Fe.Sec
import LibDvb.Fe.Stats

namespace LibDvb

section Coded

-- An enumeration whose codes count up from zero, listed in the order of the codes.
structure Coded (α : Type) where
  what : String
  all : List α
  complete : ∀ value, value ∈ all
  small : all.length < 2 ^ 32

variable {α : Type} [DecidableEq α] {value : α}

namespace Coded

def asU32 (self : Coded α) (value : α) : UInt32 := UInt32.ofNat (self.all.idxOf value)

def tryFrom (self : Coded α) (value : UInt32) : Except Error α :=
  match self.all[value.toNat]? with
  | some x => .ok x
  | none => .error (.invalidData s!"invalid {self.what} value: {value}")

theorem tryFrom_asU32 (self : Coded α) : self.tryFrom (self.asU32 value) = .ok value := by
  have hindex := List.idxOf_lt_length_iff.mpr (self.complete value)
  have hnat : (self.asU32 value).toNat = self.all.idxOf value :=
    UInt32.toNat_ofNat_of_lt' (Nat.lt_trans hindex self.small)
  rw [tryFrom, hnat, List.getElem?_eq_getElem hindex, List.getElem_idxOf]

end Coded

end Coded

inductive Inversion where
  | off
  | on
  | auto
  deriving DecidableEq, Repr

inductive Pilot where
  | on
  | off
  | auto
  deriving DecidableEq, Repr

inductive Rolloff where
  | r35
  | r20
  | r25
  | auto
  | r15
  | r10
  | r5
  deriving DecidableEq, Repr

inductive GuardInterval where
  | gi1_32
  | gi1_16
  | gi1_8
  | gi1_4
  | auto
  | gi1_128
  | gi19_128
  | gi19_256
  | pn420
  | pn595
  | pn945
  deriving DecidableEq, Repr

inductive TransmitMode where
  | tm2K
  | tm8K
  | auto
  | tm4K
  | tm1K
  | tm16K
  | tm32K
  | c1
  | c3780
  deriving DecidableEq, Repr

inductive Hierarchy where
  | none
  | h1
  | h2
  | h4
  | auto
  deriving DecidableEq, Repr

inductive Fec where
  | none
  | fec1_2
  | fec2_3
  | fec3_4
  | fec4_5
  | fec5_6
  | fec6_7
  | fec7_8
  | fec8_9
  | auto
  | fec3_5
  | fec9_10
  | fec2_5
  | fec1_4
  | fec1_3
  deriving DecidableEq, Repr

def SecVoltage.coded : Coded SecVoltage where
  what := "SecVoltage"
  all := [.v13, .v18, .off]
  complete value := by cases value <;> decide
  small := by decide

def SecTone.coded : Coded SecTone where
  what := "SecTone"
  all := [.on, .off]
  complete value := by cases value <;> decide
  small := by decide

def SecMiniCmd.coded : Coded SecMiniCmd where
  what := "SecMiniCmd"
  all := [.a, .b]
  complete value := by cases value <;> decide
  small := by decide

def Inversion.coded : Coded Inversion where
  what := "Inversion"
  all := [.off, .on, .auto]
  complete value := by cases value <;> decide
  small := by decide

def Pilot.coded : Coded Pilot where
  what := "Pilot"
  all := [.on, .off, .auto]
  complete value := by cases value <;> decide
  small := by decide

def Rolloff.coded : Coded Rolloff where
  what := "Rolloff"
  all := [.r35, .r20, .r25, .auto, .r15, .r10, .r5]
  complete value := by cases value <;> decide
  small := by decide

def GuardInterval.coded : Coded GuardInterval where
  what := "GuardInterval"
  all := [.gi1_32, .gi1_16, .gi1_8, .gi1_4, .auto, .gi1_128, .gi19_128, .gi19_256, .pn420, .pn595, .pn945]
  complete value := by cases value <;> decide
  small := by decide

def TransmitMode.coded : Coded TransmitMode where
  what := "TransmitMode"
  all := [.tm2K, .tm8K, .auto, .tm4K, .tm1K, .tm16K, .tm32K, .c1, .c3780]
  complete value := by cases value <;> decide
  small := by decide

def Hierarchy.coded : Coded Hierarchy where
  what := "Hierarchy"
  all := [.none, .h1, .h2, .h4, .auto]
  complete value := by cases value <;> decide
  small := by decide

def Fec.coded : Coded Fec where
  what := "code rate"
  all :=
    [.none, .fec1_2, .fec2_3, .fec3_4, .fec4_5, .fec5_6, .fec6_7, .fec7_8, .fec8_9, .auto, .fec3_5, .fec9_10, .fec2_5,
      .fec1_4, .fec1_3]
  complete value := by cases value <;> decide
  small := by decide

def DeliverySystem.coded : Coded DeliverySystem where
  what := "DeliverySystem"
  all := DeliverySystem.all
  complete value := by cases value <;> decide
  small := by decide

def Modulation.coded : Coded Modulation where
  what := "Modulation"
  all := Modulation.all
  complete value := by cases value <;> decide
  small := by decide

def dtvTune : UInt32 := 1
def dtvClear : UInt32 := 2
def dtvFrequency : UInt32 := 3
def dtvModulation : UInt32 := 4
def dtvBandwidthHz : UInt32 := 5
def dtvInversion : UInt32 := 6
def dtvSymbolRate : UInt32 := 8
def dtvInnerFec : UInt32 := 9
def dtvVoltage : UInt32 := 10
def dtvTone : UInt32 := 11
def dtvPilot : UInt32 := 12
def dtvRolloff : UInt32 := 13
def dtvDeliverySystem : UInt32 := 17
def dtvCodeRateHp : UInt32 := 36
def dtvCodeRateLp : UInt32 := 37
def dtvGuardInterval : UInt32 := 38
def dtvTransmissionMode : UInt32 := 39
def dtvHierarchy : UInt32 := 40
def dtvStreamId : UInt32 := 42
def dtvScramblingSequenceIndex : UInt32 := 70

-- The record of the ioctl: its command, and the value in the leading bytes of its zeroed payload.
structure DtvPropertyRaw where
  cmd : UInt32
  data : UInt32
  deriving DecidableEq, Repr

inductive DtvProperty where
  | frequency (value : UInt32)
  | modulation (value : Modulation)
  | bandwidthHz (value : UInt32)
  | inversion (value : Inversion)
  | symbolRate (value : UInt32)
  | innerFec (value : Fec)
  | voltage (value : SecVoltage)
  | tone (value : SecTone)
  | pilot (value : Pilot)
  | rolloff (value : Rolloff)
  | deliverySystem (value : DeliverySystem)
  | codeRateHp (value : Fec)
  | codeRateLp (value : Fec)
  | guardInterval (value : GuardInterval)
  | transmissionMode (value : TransmitMode)
  | hierarchy (value : Hierarchy)
  | streamId (value : UInt32)
  | scramblingSequenceIndex (value : UInt32)
  | tune
  | clear
  deriving DecidableEq, Repr

def DtvProperty.toRaw : DtvProperty → DtvPropertyRaw
  | frequency v => ⟨dtvFrequency, v⟩
  | modulation v => ⟨dtvModulation, Modulation.coded.asU32 v⟩
  | bandwidthHz v => ⟨dtvBandwidthHz, v⟩
  | inversion v => ⟨dtvInversion, Inversion.coded.asU32 v⟩
  | symbolRate v => ⟨dtvSymbolRate, v⟩
  | innerFec v => ⟨dtvInnerFec, Fec.coded.asU32 v⟩
  | voltage v => ⟨dtvVoltage, SecVoltage.coded.asU32 v⟩
  | tone v => ⟨dtvTone, SecTone.coded.asU32 v⟩
  | pilot v => ⟨dtvPilot, Pilot.coded.asU32 v⟩
  | rolloff v => ⟨dtvRolloff, Rolloff.coded.asU32 v⟩
  | deliverySystem v => ⟨dtvDeliverySystem, DeliverySystem.coded.asU32 v⟩
  | codeRateHp v => ⟨dtvCodeRateHp, Fec.coded.asU32 v⟩
  | codeRateLp v => ⟨dtvCodeRateLp, Fec.coded.asU32 v⟩
  | guardInterval v => ⟨dtvGuardInterval, GuardInterval.coded.asU32 v⟩
  | transmissionMode v => ⟨dtvTransmissionMode, TransmitMode.coded.asU32 v⟩
  | hierarchy v => ⟨dtvHierarchy, Hierarchy.coded.asU32 v⟩
  | streamId v => ⟨dtvStreamId, v⟩
  | scramblingSequenceIndex v => ⟨dtvScramblingSequenceIndex, v⟩
  | tune => ⟨dtvTune, 0⟩
  | clear => ⟨dtvClear, 0⟩

structure ApiVersion where
  major : UInt8
  minor : UInt8
  deriving DecidableEq, Repr

instance : LT ApiVersion where
  lt a b := a.major < b.major ∨ a.major = b.major ∧ a.minor < b.minor

instance (a b : ApiVersion) : Decidable (a < b) :=
  inferInstanceAs (Decidable (a.major < b.major ∨ a.major = b.major ∧ a.minor < b.minor))

def api5_11 : ApiVersion where
  major := 0x05
  minor := 0x0B

end LibDvb
