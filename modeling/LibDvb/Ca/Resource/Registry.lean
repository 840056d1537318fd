import LibDvb.Ca.Resource.ApplicationInfo
import LibDvb.Ca.Resource.ConditionalAccess
import LibDvb.Ca.Resource.DateTime
import LibDvb.Ca.Resource.HostControl
import LibDvb.Ca.Resource.Mmi
import LibDvb.Ca.Resource.Rm

namespace LibDvb

def hostProfile : List ResourceId :=
  [.resourceManager, .applicationInformation, .conditionalAccessSupport, .hostControl, .dateTime,
    .mmi]

structure ResourceRegistry where
  rm : ResourceManager := ResourceManager.new hostProfile
  applicationInfo : ApplicationInfoResource := {}
  conditionalAccess : ConditionalAccessResource := {}
  dateTime : DateTimeResource := {}
  mmi : MmiResource := {}
  deriving DecidableEq

-- The members of the registry, in the order of `resources()`.
inductive ResourceKind where
  | rm
  | applicationInfo
  | conditionalAccess
  | hostControl
  | dateTime
  | mmi
  deriving DecidableEq, Repr

namespace ResourceKind

def all : List ResourceKind := [rm, applicationInfo, conditionalAccess, hostControl, dateTime, mmi]

def resourceId : ResourceKind → ResourceId
  | rm => .resourceManager
  | applicationInfo => .applicationInformation
  | conditionalAccess => .conditionalAccessSupport
  | hostControl => .hostControl
  | dateTime => .dateTime
  | mmi => .mmi

def lookup (resourceId : ResourceId) : Option ResourceKind :=
  all.find? fun kind => kind.resourceId.base = resourceId.base

theorem lookup_resourceId (kind : ResourceKind) : lookup kind.resourceId = some kind := by
  cases kind <;> decide

theorem base_injective {a b : ResourceKind} (h : a.resourceId.base = b.resourceId.base) : a = b := by
  revert h
  cases a <;> cases b <;> decide

end ResourceKind

namespace ResourceRegistry

open Act

def rmLens : Lens ResourceRegistry ResourceManager := ⟨(·.rm), fun rm r => { r with rm }⟩

def applicationInfoLens : Lens ResourceRegistry ApplicationInfoResource :=
  ⟨(·.applicationInfo), fun applicationInfo r => { r with applicationInfo }⟩

def conditionalAccessLens : Lens ResourceRegistry ConditionalAccessResource :=
  ⟨(·.conditionalAccess), fun conditionalAccess r => { r with conditionalAccess }⟩

def hostControlLens : Lens ResourceRegistry Unit := ⟨fun _ => (), fun _ r => r⟩

def dateTimeLens : Lens ResourceRegistry DateTimeResource :=
  ⟨(·.dateTime), fun dateTime r => { r with dateTime }⟩

def mmiLens : Lens ResourceRegistry MmiResource := ⟨(·.mmi), fun mmi r => { r with mmi }⟩

def contextLens {R : Type} (l : Lens ResourceRegistry R) :
    Lens (ResourceContext ResourceRegistry) (ResourceContext R) where
  get ctx := { ctx with self := l.get ctx.self }
  set inner ctx := { inner with self := l.set inner.self ctx.self }

def onOpen : ResourceKind → Act Error (ResourceContext ResourceRegistry) Unit
  | .rm => zoom (contextLens rmLens) ResourceManager.onOpen
  | .applicationInfo => zoom (contextLens applicationInfoLens) ApplicationInfoResource.onOpen
  | .conditionalAccess => zoom (contextLens conditionalAccessLens) ConditionalAccessResource.onOpen
  | .hostControl => pure ()
  | .dateTime => zoom (contextLens dateTimeLens) DateTimeResource.onOpen
  | .mmi => pure ()

def onApdu (kind : ResourceKind) (tag : ApduTag) (body : Bytes) :
    Act Error (ResourceContext ResourceRegistry) Unit :=
  match kind with
  | .rm => zoom (contextLens rmLens) (ResourceManager.onApdu tag)
  | .applicationInfo =>
      zoom (contextLens applicationInfoLens) (ApplicationInfoResource.onApdu tag body)
  | .conditionalAccess =>
      zoom (contextLens conditionalAccessLens) (ConditionalAccessResource.onApdu tag body)
  | .hostControl => zoom (contextLens hostControlLens) (HostControlResource.onApdu tag body)
  | .dateTime => zoom (contextLens dateTimeLens) (DateTimeResource.onApdu tag body)
  | .mmi => zoom (contextLens mmiLens) (MmiResource.onApdu tag body)

def onClose (r : ResourceRegistry) (sessionId : UInt16) : ResourceKind → ResourceRegistry
  | .rm => r
  | .applicationInfo => { r with applicationInfo := r.applicationInfo.onClose sessionId }
  | .conditionalAccess => { r with conditionalAccess := r.conditionalAccess.onClose sessionId }
  | .hostControl => r
  | .dateTime => { r with dateTime := r.dateTime.onClose sessionId }
  | .mmi => { r with mmi := r.mmi.onClose sessionId }

end ResourceRegistry

end LibDvb
