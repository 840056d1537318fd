import LibDvb.Ca.Resource.Context

namespace LibDvb

structure ResourceManager where
  profile : Bytes
  deriving DecidableEq, Repr

namespace ResourceManager

open Act ResourceContext

def new (hostProfile : List ResourceId) : ResourceManager where
  profile := hostProfile.flatMap ResourceId.toBytes

def onOpen : Act Error (ResourceContext ResourceManager) Unit :=
  sendApdu .profileEnq []

def onApdu (tag : ApduTag) : Act Error (ResourceContext ResourceManager) Unit := do
  let ctx ← get
  if tag = .profile then
    sendApdu .profileChange []
  else if tag = .profileEnq then
    sendApdu .profile ctx.self.profile
  else if tag = .profileChange then
    sendApdu .profileEnq []
  else
    fail (.invalidData s!"ca slot {ctx.slotId}: unexpected resource manager apdu tag {tag.debug}")

end ResourceManager

end LibDvb
