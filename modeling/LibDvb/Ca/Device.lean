import LibDvb.Basis.Act
import LibDvb.Error

namespace LibDvb

inductive ReadResult where
  | frame (bytes : Bytes)
  | failed (kind : ErrorKind)
  deriving DecidableEq, Repr

def ReadResult.first : ReadResult → Option UInt8
  | frame bytes => bytes.head?
  | failed _ => none

inductive WriteResult where
  | whole
  | short
  | failed (kind : ErrorKind)
  deriving DecidableEq, Repr

structure CaSlotInfo where
  slotType : UInt32
  flags : UInt32
  deriving DecidableEq, Repr

def caCiLink : UInt32 := 2

def caCiModulePresent : UInt32 := 1

def caCiModuleReady : UInt32 := 2

structure CaCaps where
  slotNum : UInt32
  slotType : UInt32
  deriving DecidableEq, Repr

-- What the kernel answers to the calls the host makes next, each list in the order of the calls:
-- `read(2)` would block when `reads` runs out, `write(2)` and `CA_RESET` then succeed.
-- `hashOrder` is the order in which a `HashMap` keyed by session number is walked.
structure CaDevice where
  reads : List ReadResult := []
  writes : List WriteResult := []
  resets : List (Option Nat) := []
  slotInfo : UInt8 → Except Nat CaSlotInfo := fun _ => .ok { slotType := caCiLink, flags := 0 }
  clock : List Nat := []
  hashOrder : List UInt16 := []
  caps : Except Nat CaCaps := .ok { slotNum := 1, slotType := caCiLink }

namespace CaDevice

open Act

def shortWrite : Error := .invalidData "ca link frame short write"

def recvMsg (size : Nat) : Act Error CaDevice (Option Bytes) := do
  match (← get).reads with
  | [] => pure none
  | result :: rest => do
      modify ({ · with reads := rest })
      match result with
      | .frame bytes =>
          if bytes.take size = [] then
            fail (.io .unexpectedEof "ca device closed (zero-length read)")
          else
            pure (some (bytes.take size))
      | .failed kind =>
          if kind = .wouldBlock then pure none else fail (.io kind "read")

def sendMsg (_msg : Bytes) : Act Error CaDevice Unit := do
  match (← get).writes with
  | [] => pure ()
  | result :: rest => do
      modify ({ · with writes := rest })
      match result with
      | .whole => pure ()
      | .short => fail shortWrite
      | .failed kind => fail (.io kind "write")

def reset : Act Error CaDevice Unit := do
  match (← get).resets with
  | [] => pure ()
  | result :: rest => do
      modify ({ · with resets := rest })
      match result with
      | none => pure ()
      | some errno => fail (.nix errno)

def readSlotInfo (slotId : UInt8) : Act Error CaDevice CaSlotInfo := do
  match (← get).slotInfo slotId with
  | .ok info => pure info
  | .error errno => fail (.nix errno)

def readCaps : Act Error CaDevice CaCaps := do
  match (← get).caps with
  | .ok caps => pure caps
  | .error errno => fail (.nix errno)

def systemTime : Act Error CaDevice Nat := do
  match (← get).clock with
  | [] => pure 0
  | now :: rest => do
      modify ({ · with clock := rest })
      pure now

end CaDevice

def Error.transient : Error → Bool
  | .io .wouldBlock _ => true
  | .io .interrupted _ => true
  | _ => false

end LibDvb
