import LibDvb.Basis.Machine
import LibDvb.Error

namespace LibDvb

open Outcome

inductive DeliverySystem where
  | undefined
  | dvbcAnnexA
  | dvbcAnnexB
  | dvbt
  | dss
  | dvbs
  | dvbs2
  | dvbh
  | isdbt
  | isdbs
  | isdbc
  | atsc
  | atscmh
  | dtmb
  | cmmb
  | dab
  | dvbt2
  | turbo
  | dvbcAnnexC
  | dvbc2
  deriving DecidableEq, Repr

namespace DeliverySystem

def all : List DeliverySystem :=
  [undefined, dvbcAnnexA, dvbcAnnexB, dvbt, dss, dvbs, dvbs2, dvbh, isdbt, isdbs, isdbc, atsc, atscmh, dtmb, cmmb,
    dab, dvbt2, turbo, dvbcAnnexC, dvbc2]

def tryFrom (value : UInt32) : Except Error DeliverySystem :=
  match all[value.toNat]? with
  | some system => .ok system
  | none => .error (.invalidData s!"invalid DeliverySystem value: {value}")

end DeliverySystem

inductive Modulation where
  | qpsk
  | qam16
  | qam32
  | qam64
  | qam128
  | qam256
  | qamAuto
  | vsb8
  | vsb16
  | psk8
  | apsk16
  | apsk32
  | dqpsk
  | qam4Nr
  | apsk64
  | apsk128
  | apsk256
  deriving DecidableEq, Repr

namespace Modulation

def all : List Modulation :=
  [qpsk, qam16, qam32, qam64, qam128, qam256, qamAuto, vsb8, vsb16, psk8, apsk16, apsk32, dqpsk, qam4Nr, apsk64,
    apsk128, apsk256]

def tryFrom (value : UInt32) : Except Error Modulation :=
  match all[value.toNat]? with
  | some modulation => .ok modulation
  | none => .error (.invalidData s!"invalid Modulation value: {value}")

end Modulation

structure FeStatusFlags where
  bits : UInt32
  deriving DecidableEq, Repr

namespace FeStatusFlags

def hasSignal : FeStatusFlags := ⟨0x01⟩
def hasCarrier : FeStatusFlags := ⟨0x02⟩
def hasLock : FeStatusFlags := ⟨0x10⟩

def contains (self other : FeStatusFlags) : Bool := self.bits &&& other.bits = other.bits

end FeStatusFlags

def feScaleDecibel : UInt8 := 1
def feScaleRelative : UInt8 := 2
def feScaleCounter : UInt8 := 3

structure DtvStats where
  scale : UInt8
  value : Int64
  deriving DecidableEq, Repr

def maxDtvStats : Nat := 4

structure DtvFrontendStats where
  len : UInt8
  stat : Vector DtvStats maxDtvStats
  deriving DecidableEq, Repr

-- The entries that the loops `0 .. usize::from(stats.len).min(stats.stat.len())` visit.
def DtvFrontendStats.entries (self : DtvFrontendStats) : List DtvStats := self.stat.toList.take self.len.toNat

structure FeLevel where
  decibel : Option Float
  relative : Option UInt32

def FeLevel.default : FeLevel := ⟨none, none⟩

-- The properties that a reading asks for, as the driver fills them.
structure DtvProperties where
  deliverySystem : UInt32
  modulation : UInt32
  signalStrength : DtvFrontendStats
  cnr : DtvFrontendStats
  preErrorBitCount : DtvFrontendStats
  errorBlockCount : DtvFrontendStats
  deriving DecidableEq, Repr

-- The answers of the driver to the calls that a reading makes.
structure FeDevice where
  readStatus : Except Error FeStatusFlags
  getProperties : Except Error DtvProperties
  readSignalStrength : Except Error UInt16
  readSnr : Except Error UInt16
  readBer : Except Error UInt32
  readUnc : Except Error UInt32

-- `(value * 100 / 65535) as u32`.
def percent (value : Int64) : Outcome Error UInt32 := do
  let scaled ← mulI64 value 100
  let share ← divI64 scaled 65535
  .ok (asU32 share)

-- `u32::from(value) * 100 / 65535`.
def percentOfReading (value : UInt16) : Outcome Error UInt32 := do
  let scaled ← mulU32 value.toUInt32 100
  .ok (scaled / 65535)

-- One turn of the loop over the entries, with the relative level and the decibel value found so far.
def scanStat (found : Option UInt32 × Option Int64) (stat : DtvStats) : Outcome Error (Option UInt32 × Option Int64) :=
  if stat.scale = feScaleDecibel then
    .ok (found.1, some stat.value)
  else if stat.scale = feScaleRelative then do
    let relative ← percent (stat.value &&& 0xFFFF)
    .ok (some relative, found.2)
  else
    .ok found

def scanStats (stats : DtvFrontendStats) : Outcome Error (Option UInt32 × Option Int64) :=
  (List.range (min stats.len.toNat stats.stat.size)).foldlM (fun found i => do
    let stat ← index stats.stat.toList i
    scanStat found stat) (none, none)

def decibelOf (value : Int64) : Float := value.toFloat / 1000.0

def orReading (flagged : Bool) (reading : Except Error UInt16) (level : FeLevel) : Outcome Error FeLevel :=
  match level.relative, flagged, reading with
  | none, true, .ok value => do
      let relative ← percentOfReading value
      .ok { level with relative := some relative }
  | _, _, _ => .ok level

namespace SignalStrength

def lo : Int64 := -85000
def hi : Int64 := -6000

def scaled (value : Int64) : Outcome Error Int64 :=
  if hi < value then
    .ok 65535
  else if value < lo then
    .ok 0
  else do
    let below ← subI64 lo value
    let product ← mulI64 65535 below
    let width ← subI64 lo hi
    divI64 product width

end SignalStrength

def normalizeSignalStrength (status : FeStatusFlags) (stats : DtvFrontendStats)
    (reading : Except Error UInt16) : Outcome Error FeLevel := do
  let (relative, decibel) ← scanStats stats
  let flagged := status.contains .hasSignal
  let level ← match decibel with
    | none => .ok { FeLevel.default with relative }
    | some value => do
        let level : FeLevel := ⟨some (decibelOf value), relative⟩
        if relative = none ∧ flagged then do
          let value ← SignalStrength.scaled value
          let relative ← percent value
          .ok { level with relative := some relative }
        else
          .ok level
  orReading flagged reading level

namespace Snr

def hi (deliverySystem : DeliverySystem) (modulation : Modulation) : Option Int64 :=
  match deliverySystem with
  | .dvbs | .dvbs2 => some 15000
  | .dvbcAnnexA | .dvbcAnnexB | .dvbcAnnexC | .dvbc2 => some 28000
  | .dvbt | .dvbt2 => some 19000
  | .atsc =>
      match modulation with
      | .vsb8 | .vsb16 => some 19000
      | _ => some 28000
  | _ => none

def scaled (hi value : Int64) : Outcome Error Int64 :=
  if hi ≤ value then
    .ok 65535
  else if value ≤ 0 then
    .ok 0
  else do
    let product ← mulI64 65535 value
    divI64 product hi

end Snr

def normalizeSnr (status : FeStatusFlags) (deliverySystem : DeliverySystem) (modulation : Modulation)
    (stats : DtvFrontendStats) (reading : Except Error UInt16) : Outcome Error FeLevel := do
  let (relative, decibel) ← scanStats stats
  let flagged := status.contains .hasCarrier
  match decibel with
  | none => orReading flagged reading { FeLevel.default with relative }
  | some value =>
      let level : FeLevel := ⟨some (decibelOf value), relative⟩
      if relative = none ∧ flagged then
        match Snr.hi deliverySystem modulation with
        -- The `return level` of the table.
        | none => .ok level
        | some hi => do
            let value ← Snr.scaled hi value
            let relative ← percent value
            orReading flagged reading { level with relative := some relative }
      else
        orReading flagged reading level

def normalizeCounter (status : FeStatusFlags) (stats : DtvFrontendStats) (reading : Except Error UInt32) :
    Option UInt32 :=
  match stats.entries.find? (·.scale = feScaleCounter) with
  | some stat => some (asU32 (stat.value &&& 0xFFFFFFFF))
  | none => if status.contains .hasLock then reading.toOption else none

def normalizeBer (status : FeStatusFlags) (stats : DtvFrontendStats) (fe : FeDevice) : Option UInt32 :=
  normalizeCounter status stats fe.readBer

def normalizeUnc (status : FeStatusFlags) (stats : DtvFrontendStats) (fe : FeDevice) : Option UInt32 :=
  normalizeCounter status stats fe.readUnc

structure FeStats where
  status : FeStatusFlags
  deliverySystem : DeliverySystem
  modulation : Modulation
  signal : FeLevel
  cnr : FeLevel
  ber : Option UInt32
  unc : Option UInt32

def FeStats.read (fe : FeDevice) : Outcome Error FeStats := do
  let status ← ofExcept fe.readStatus
  let props ← ofExcept fe.getProperties
  let deliverySystem := (DeliverySystem.tryFrom props.deliverySystem).toOption.getD .undefined
  let modulation := (Modulation.tryFrom props.modulation).toOption.getD .qpsk
  let signal ← normalizeSignalStrength status props.signalStrength fe.readSignalStrength
  let cnr ← normalizeSnr status deliverySystem modulation props.cnr fe.readSnr
  let ber := normalizeBer status props.preErrorBitCount fe
  let unc := normalizeUnc status props.errorBlockCount fe
  .ok { status, deliverySystem, modulation, signal, cnr, ber, unc }

end LibDvb
