import LibDvb.Ca.Driver

namespace LibDvb

-- The methods of `CiDriverHandle` that send.
inductive HandleCall where
  | setProgram (pmtSection : Bytes)
  | removeProgram (programNumber : UInt16)
  | setCaPmtInterval (interval : Duration)
  | enterMenu (slotId : UInt8)
  | mmiMenuAnswer (slotId : UInt8) (sessionId : UInt16) (choice : UInt8)
  | mmiAnswer (slotId : UInt8) (sessionId : UInt16) (answer : Option Bytes)
  | mmiClose (slotId : UInt8) (sessionId : UInt16)
  | mmiListClose (slotId : UInt8) (sessionId : UInt16)
  | askRelease (slotId : UInt8)
  | reset
  | shutdown

-- The command that a method sends, and the number that `set_program` returns.
def HandleCall.run (lib : Mpegts) : HandleCall → Except Error (Command × Option UInt16)
  | setProgram pmtSection => do
      let program ← Program.parse lib pmtSection
      pure (.setProgram program, some program.programNumber)
  | removeProgram programNumber =>
      if programNumber = 0 then
        .error (.invalidProperty "CA program number must not be zero")
      else
        .ok (.removeProgram programNumber, none)
  | setCaPmtInterval interval => .ok (.setCaPmtInterval interval, none)
  | enterMenu slotId => .ok (.enterMenu slotId, none)
  | mmiMenuAnswer slotId sessionId choice => .ok (.mmiMenuAnswer slotId sessionId choice, none)
  | mmiAnswer slotId sessionId answer => .ok (.mmiAnswer slotId sessionId answer, none)
  | mmiClose slotId sessionId => .ok (.mmiClose slotId sessionId, none)
  | mmiListClose slotId sessionId => .ok (.mmiListClose slotId sessionId, none)
  | askRelease slotId => .ok (.askRelease slotId, none)
  | reset => .ok (.reset, none)
  | shutdown => .ok (.shutdown, none)

def HandleCall.command (lib : Mpegts) (call : HandleCall) : Option Command :=
  (call.run lib).toOption.map Prod.fst

deriving instance DecidableEq for Command

-- The driver, what waits in its command channel, and how many clones of the handle are left. A call made before `run`
-- is one made at the first `select!`: nothing is received earlier.
structure CiSystem where
  driver : CiDriver
  commands : List Command := []
  handles : Nat := 1

inductive SystemLabel where
  | ask (call : HandleCall)
  | clone
  | release
  | turn (label : DriverLabel)

namespace CiSystem

-- Assumed of tokio's unbounded channel: `send` never waits, it puts the command behind those sent before it, whichever
-- clone sends, and it drops the command when the receiver is gone, which is when `run` has returned.
def asked (lib : Mpegts) (call : HandleCall) (s : CiSystem) : CiSystem :=
  if s.driver.returned.isSome then s else { s with commands := s.commands ++ (call.command lib).toList }

-- Assumed of tokio's unbounded channel: `recv` takes the oldest command, and gives `None` just when the channel is
-- empty and every sender has been dropped. A branch of the `select!` that does not complete takes nothing.
def receive (s : CiSystem) : Wake → Option (List Command)
  | .command (some command) => if s.commands.head? = some command then some s.commands.tail else none
  | .command none => if s.commands = [] ∧ s.handles = 0 then some [] else none
  | _ => some s.commands

end CiSystem

-- The handles are used by any threads, in any order. A send during a turn is one before or after it: the turn reads the
-- channel only where it starts.
inductive SystemStep (lib : Mpegts) (s : CiSystem) : SystemLabel → CiSystem → Prop
  | asked (call : HandleCall) (held : 0 < s.handles) : SystemStep lib s (.ask call) (s.asked lib call)
  | cloned (held : 0 < s.handles) : SystemStep lib s .clone { s with handles := s.handles + 1 }
  | released (held : 0 < s.handles) : SystemStep lib s .release { s with handles := s.handles - 1 }
  | turned {label : DriverLabel} {d' : CiDriver} {rest : List Command} (receives : s.receive label.wake = some rest)
      (step : DriverStep s.driver label d') : SystemStep lib s (.turn label) { s with driver := d', commands := rest }

-- `run` was called on the controller that a run `before` left.
def SystemStarts (before : List ControllerLabel) (s : CiSystem) : Prop :=
  s.commands = [] ∧ s.handles = 1 ∧ ∃ first c clock around registered, ControllerRun first before c ∧
    CiDriver.enter registered ((CiDriver.new c clock).within around) = (.ok (), s.driver)

def SystemRun (lib : Mpegts) (before : List ControllerLabel) (labels : List SystemLabel) (s : CiSystem) : Prop :=
  ∃ start, SystemStarts before start ∧ Run (SystemStep lib) start labels s

end LibDvb
