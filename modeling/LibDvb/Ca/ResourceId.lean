import LibDvb.Error

namespace LibDvb

structure ResourceId where
  raw : UInt32
  deriving DecidableEq, Repr

namespace ResourceId

def resourceManager : ResourceId := ⟨0x00010041⟩
def applicationInformation : ResourceId := ⟨0x00020041⟩
def conditionalAccessSupport : ResourceId := ⟨0x00030041⟩
def hostControl : ResourceId := ⟨0x00200041⟩
def dateTime : ResourceId := ⟨0x00240041⟩
def mmi : ResourceId := ⟨0x00400041⟩

def base (id : ResourceId) : UInt32 := id.raw >>> 6

def version (id : ResourceId) : UInt8 := (id.raw &&& 0x3F).toUInt8

def names : List (ResourceId × String) :=
  [(resourceManager, "RESOURCE_MANAGER"), (applicationInformation, "APPLICATION_INFORMATION"),
    (conditionalAccessSupport, "CONDITIONAL_ACCESS_SUPPORT"), (hostControl, "HOST_CONTROL"),
    (dateTime, "DATE_TIME"), (mmi, "MMI")]

def debug (id : ResourceId) : String :=
  match names.lookup id with
  | some name => s!"ResourceId({name})"
  | none => s!"ResourceId(0x{hexUpper 8 id.raw.toNat})"

def toBytes (id : ResourceId) : Bytes :=
  [(id.raw >>> 24).toUInt8, (id.raw >>> 16).toUInt8, (id.raw >>> 8).toUInt8, id.raw.toUInt8]

end ResourceId

end LibDvb
