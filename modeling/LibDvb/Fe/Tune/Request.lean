import LibDvb.Fe.Property
import LibDvb.Fe.Tune

namespace LibDvb

section Request

structure DvbSTune where
  frequencyKhz : UInt32 := 0
  symbolrate : UInt32 := 0
  modulation : Modulation := .qpsk
  fec : Fec := .auto
  inversion : Inversion := .auto
  deriving DecidableEq, Repr

structure DvbS2Tune where
  frequencyKhz : UInt32 := 0
  symbolrate : UInt32 := 0
  modulation : Modulation := .psk8
  fec : Fec := .auto
  inversion : Inversion := .auto
  pilot : Pilot := .auto
  rolloff : Rolloff := .r35
  mis : Option Mis := none
  deriving DecidableEq, Repr

inductive DvbCAnnex where
  | a
  | b
  | c
  deriving DecidableEq, Repr

structure DvbCTune where
  frequencyHz : UInt32 := 0
  symbolrate : UInt32 := 0
  annex : DvbCAnnex := .a
  modulation : Modulation := .qamAuto
  fec : Fec := .auto
  inversion : Inversion := .auto
  deriving DecidableEq, Repr

structure DvbTTune where
  frequencyHz : UInt32 := 0
  bandwidthHz : UInt32 := 8000000
  modulation : Modulation := .qamAuto
  codeRateHp : Fec := .auto
  codeRateLp : Fec := .auto
  guardInterval : GuardInterval := .auto
  transmissionMode : TransmitMode := .auto
  hierarchy : Hierarchy := .none
  inversion : Inversion := .auto
  deriving DecidableEq, Repr

structure DvbT2Tune where
  frequencyHz : UInt32 := 0
  bandwidthHz : UInt32 := 8000000
  modulation : Modulation := .qamAuto
  codeRate : Fec := .auto
  guardInterval : GuardInterval := .auto
  transmissionMode : TransmitMode := .auto
  streamId : Option UInt32 := none
  inversion : Inversion := .auto
  deriving DecidableEq, Repr

structure AtscTune where
  frequencyHz : UInt32 := 0
  modulation : Modulation := .vsb8
  inversion : Inversion := .auto
  deriving DecidableEq, Repr

structure IsdbTTune where
  frequencyHz : UInt32 := 0
  bandwidthHz : UInt32 := 6000000
  inversion : Inversion := .auto
  deriving DecidableEq, Repr

inductive TuneRequest where
  | dvbS (tune : DvbSTune)
  | dvbS2 (tune : DvbS2Tune)
  | dvbC (tune : DvbCTune)
  | dvbT (tune : DvbTTune)
  | dvbT2 (tune : DvbT2Tune)
  | atsc (tune : AtscTune)
  | isdbT (tune : IsdbTTune)
  deriving DecidableEq, Repr

def DvbCAnnex.deliverySystem : DvbCAnnex → DeliverySystem
  | a => .dvbcAnnexA
  | b => .dvbcAnnexB
  | c => .dvbcAnnexC

namespace TuneRequest

def deliverySystem : TuneRequest → DeliverySystem
  | dvbS _ => .dvbs
  | dvbS2 _ => .dvbs2
  | dvbC tune => tune.annex.deliverySystem
  | dvbT _ => .dvbt
  | dvbT2 _ => .dvbt2
  | atsc _ => .atsc
  | isdbT _ => .isdbt

-- What `properties` puts between the delivery system and the command to tune.
def parameters : TuneRequest → List DtvProperty
  | dvbS tune =>
      [.frequency tune.frequencyKhz, .modulation tune.modulation, .inversion tune.inversion,
        .symbolRate tune.symbolrate, .innerFec tune.fec]
  | dvbS2 tune =>
      [.frequency tune.frequencyKhz, .modulation tune.modulation, .inversion tune.inversion,
        .symbolRate tune.symbolrate, .innerFec tune.fec, .pilot tune.pilot, .rolloff tune.rolloff] ++
      match tune.mis with
      | none => []
      | some mis =>
          .streamId mis.streamId :: match mis.plsCode with
            | none => []
            | some plsCode => [.scramblingSequenceIndex plsCode]
  | dvbC tune =>
      [.frequency tune.frequencyHz, .modulation tune.modulation, .inversion tune.inversion,
        .symbolRate tune.symbolrate, .innerFec tune.fec]
  | dvbT tune =>
      [.frequency tune.frequencyHz, .modulation tune.modulation, .bandwidthHz tune.bandwidthHz,
        .inversion tune.inversion, .codeRateHp tune.codeRateHp, .codeRateLp tune.codeRateLp,
        .guardInterval tune.guardInterval, .transmissionMode tune.transmissionMode, .hierarchy tune.hierarchy]
  | dvbT2 tune =>
      [.frequency tune.frequencyHz, .modulation tune.modulation, .bandwidthHz tune.bandwidthHz,
        .inversion tune.inversion, .codeRateHp tune.codeRate, .guardInterval tune.guardInterval,
        .transmissionMode tune.transmissionMode] ++
      match tune.streamId with
      | none => []
      | some streamId => [.streamId streamId]
  | atsc tune => [.frequency tune.frequencyHz, .modulation tune.modulation, .inversion tune.inversion]
  | isdbT tune => [.frequency tune.frequencyHz, .bandwidthHz tune.bandwidthHz, .inversion tune.inversion]

def properties (self : TuneRequest) : List DtvProperty :=
  .deliverySystem self.deliverySystem :: (self.parameters ++ [.tune])

end TuneRequest

end Request

end LibDvb
