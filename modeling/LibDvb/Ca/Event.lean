import LibDvb.Ca.ResourceId

namespace LibDvb

inductive CaSlotStatus where
  | absent
  | present
  | creatingTc
  | active
  | failed
  deriving DecidableEq, Repr

namespace CaSlotStatus

def debug : CaSlotStatus → String
  | absent => "Absent"
  | present => "Present"
  | creatingTc => "CreatingTc"
  | active => "Active"
  | failed => "Failed"

end CaSlotStatus

inductive CamStatus where
  | none
  | applicationInfo
  | caInfo
  | ready
  deriving DecidableEq, Repr

inductive CaSlotFailure where
  | unsupportedInterface (slotType : UInt32)
  | createTcTimeout
  | responseTimeout
  | writeTimeout
  | slotInfoFailed
  | linkFailed
  | resetFailed
  deriving DecidableEq, Repr

structure ApplicationInfo where
  applicationType : UInt8
  applicationManufacturer : UInt16
  manufacturerCode : UInt16
  menuString : Bytes
  deriving DecidableEq, Repr

structure MmiMenu where
  title : Bytes := []
  subTitle : Bytes := []
  bottom : Bytes := []
  items : List Bytes := []
  deriving DecidableEq, Repr

inductive CaEvent where
  | slotStatusChanged (slotId : UInt8) (old new : CaSlotStatus)
  | camStatusChanged (slotId : UInt8) (old new : CamStatus)
  | slotFailed (slotId : UInt8) (reason : CaSlotFailure)
  | transportReady (slotId : UInt8)
  | malformed (slotId : UInt8) (context : String)
  | sessionOpened (slotId : UInt8) (sessionId : UInt16) (resourceId : ResourceId)
  | sessionRefused (slotId : UInt8) (resourceId : ResourceId) (status : UInt8)
  | sessionClosed (slotId : UInt8) (sessionId : UInt16) (resourceId : ResourceId)
  | applicationInfo (slotId : UInt8) (info : ApplicationInfo)
  | caInfo (slotId : UInt8) (sessionId : UInt16) (caids : List UInt16)
  | mmiClose (slotId : UInt8) (sessionId : UInt16) (delay : Option UInt8)
  | mmiText (slotId : UInt8) (sessionId : UInt16) (text : Bytes)
  | mmiMenu (slotId : UInt8) (sessionId : UInt16) (menu : MmiMenu)
  | mmiList (slotId : UInt8) (sessionId : UInt16) (menu : MmiMenu)
  | mmiEnq (slotId : UInt8) (sessionId : UInt16) (blind : Bool) (answerLen : UInt8) (text : Bytes)
  | tune (slotId : UInt8) (networkId originalNetworkId transportStreamId serviceId : UInt16)
  | replace (slotId : UInt8) (replaceRef : UInt8) (replacedPid replacementPid : UInt16)
  | clearReplace (slotId : UInt8) (replaceRef : UInt8)
  deriving DecidableEq, Repr

def CaEvent.slotId : CaEvent → UInt8
  | slotStatusChanged slotId _ _ => slotId
  | camStatusChanged slotId _ _ => slotId
  | slotFailed slotId _ => slotId
  | transportReady slotId => slotId
  | malformed slotId _ => slotId
  | sessionOpened slotId _ _ => slotId
  | sessionRefused slotId _ _ => slotId
  | sessionClosed slotId _ _ => slotId
  | applicationInfo slotId _ => slotId
  | caInfo slotId _ _ => slotId
  | mmiClose slotId _ _ => slotId
  | mmiText slotId _ _ => slotId
  | mmiMenu slotId _ _ => slotId
  | mmiList slotId _ _ => slotId
  | mmiEnq slotId _ _ _ _ => slotId
  | tune slotId _ _ _ _ => slotId
  | replace slotId _ _ _ => slotId
  | clearReplace slotId _ => slotId

def CaEvent.Plain : CaEvent → Prop
  | .slotStatusChanged _ _ _ => False
  | .camStatusChanged _ _ _ => False
  | .slotFailed _ _ => False
  | .sessionOpened _ _ _ => False
  | .sessionClosed _ _ _ => False
  | .applicationInfo _ _ => False
  | .caInfo _ _ _ => False
  | _ => True

def CaEvent.Steers : CaEvent → Prop
  | .transportReady _ => True
  | .slotStatusChanged _ _ _ => True
  | _ => False

def CaEvent.Unready (e : CaEvent) : Prop := ¬ e.Steers

theorem unready_malformed (slotId : UInt8) (context : String) : (CaEvent.malformed slotId context).Unready := id

end LibDvb
