import LibDvb.Basis.Act
import LibDvb.Fe.Tune.Request

namespace LibDvb

open Act

structure DiseqcMasterCmd where
  msg : Vector UInt8 6
  len : UInt8
  deriving DecidableEq, Repr

inductive FeCall where
  | setTone (value : UInt32)
  | setVoltage (value : UInt32)
  | diseqcSendBurst (value : UInt32)
  | diseqcSendMasterCmd (cmd : DiseqcMasterCmd)
  | setProperty (cmdseq : List DtvPropertyRaw)
  | getEvent
  | getFlags
  | setFlags (flags : UInt32)
  deriving DecidableEq, Repr

def feMaxEvent : Nat := 8

def oNonblock : UInt32 := 0o4000

def eoverflow : Nat := 75

abbrev FeKernel (κ : Type) := FeCall → κ → Except Nat UInt32 × κ

structure FeEntry where
  time : Instant
  call : FeCall
  answer : Except Nat UInt32

-- The kernel behind the file, the clock and the calls made so far. A step takes as long as it
-- has to and as the next of the `lags` says.
structure FeFile (κ : Type) where
  kernel : κ
  lags : List Duration := []
  now : Instant := 0
  calls : List FeEntry := []

namespace FeFile

variable {κ : Type}

-- `std::thread::sleep`, and the time that a call takes.
def pass (duration : Duration) : Act Error (FeFile κ) Unit :=
  modify fun file => { file with now := file.now + duration + file.lags.headD 0, lags := file.lags.tail }

variable (kernel : FeKernel κ)

def ask (call : FeCall) : Act Error (FeFile κ) (Except Nat UInt32) := do
  let file ← get
  let (answer, after) := kernel call file.kernel
  modify fun file => { file with kernel := after, calls := file.calls ++ [{ time := file.now, call, answer }] }
  pass 0
  pure answer

def called (file : FeFile κ) (call : FeCall) : FeFile κ where
  kernel := (kernel call file.kernel).2
  lags := file.lags.tail
  now := file.now + 0 + file.lags.headD 0
  calls := file.calls ++ [{ time := file.now, call, answer := (kernel call file.kernel).1 }]

theorem wp_ask {call : FeCall} {Q : Except Nat UInt32 → FeFile κ → Prop} {E : Error → FeFile κ → Prop} {file : FeFile κ} :
    wp (ask kernel call) Q E file ↔ Q (kernel call file.kernel).1 (called kernel file call) := Iff.rfl

def ioctl (call : FeCall) : Act Error (FeFile κ) Unit := do
  match ← ask kernel call with
  | .ok _ => pure ()
  | .error errno => fail (.nix errno)

theorem wp_ioctl {call : FeCall} {Q : Unit → FeFile κ → Prop} {E : Error → FeFile κ → Prop} {file : FeFile κ} :
    wp (ioctl kernel call) Q E file ↔
      match (kernel call file.kernel).1 with
      | .ok _ => Q () (called kernel file call)
      | .error errno => E (.nix errno) (called kernel file call) := by
  rw [ioctl, wp_bind, wp_ask]
  cases (kernel call file.kernel).1 <;> rfl

def setTone (value : SecTone) : Act Error (FeFile κ) Unit := ioctl kernel (.setTone (SecTone.coded.asU32 value))

def setVoltage (value : SecVoltage) : Act Error (FeFile κ) Unit :=
  ioctl kernel (.setVoltage (SecVoltage.coded.asU32 value))

def diseqcSendBurst (cmd : SecMiniCmd) : Act Error (FeFile κ) Unit :=
  ioctl kernel (.diseqcSendBurst (SecMiniCmd.coded.asU32 cmd))

def masterCmd (msg : Bytes) : DiseqcMasterCmd where
  msg := Vector.ofFn fun i => msg.getD i 0
  len := UInt8.ofNat msg.length

def diseqcMasterCmd (msg : Bytes) : Act Error (FeFile κ) Unit :=
  if ¬ (3 ≤ msg.length ∧ msg.length ≤ 6) then
    fail (.invalidData s!"DiSEqC master command length must be 3..=6 bytes, got {msg.length}")
  else
    ioctl kernel (.diseqcSendMasterCmd (masterCmd msg))

def runSecCommand : SecCommand → Act Error (FeFile κ) Unit
  | .setTone value => setTone kernel value
  | .setVoltage value => setVoltage kernel value
  | .sendBurst value => diseqcSendBurst kernel value
  | .sendMasterCommand msg => diseqcMasterCmd kernel msg
  | .wait duration => pass duration

def runSecSequence (sequence : List SecCommand) : Act Error (FeFile κ) Unit := forEach sequence (runSecCommand kernel)

-- `sec_sequence` handed to `run_sec_sequence`, with the waits of an installation.
def setupSecWith (timings : SecTimings) (debug : Bytes → String) (transponderMhz : UInt32) (lnb : Lnb) (config : SecConfig) :
    Act Error (FeFile κ) UInt32 := do
  let setup ← lift (secSequence debug transponderMhz lnb config timings)
  runSecSequence kernel setup.secSequence
  pure setup.frontendFrequencyKhz

def setupSec (debug : Bytes → String) (transponderMhz : UInt32) (lnb : Lnb) (config : SecConfig) :
    Act Error (FeFile κ) UInt32 :=
  setupSecWith kernel {} debug transponderMhz lnb config

def setPropertiesRaw (cmdseq : List DtvPropertyRaw) : Act Error (FeFile κ) Unit := ioctl kernel (.setProperty cmdseq)

-- `api` is the version that the device reported when it was opened.
variable (api : ApiVersion)

-- Kept by the filter of `set_properties`.
def supported : DtvProperty → Bool
  | .scramblingSequenceIndex _ => ¬ api < api5_11
  | _ => true

def setProperties (cmdseq : List DtvProperty) : Act Error (FeFile κ) Unit :=
  setPropertiesRaw kernel ((cmdseq.filter (supported api)).map DtvProperty.toRaw)

def tune (request : TuneRequest) : Act Error (FeFile κ) Unit := setProperties kernel api request.properties

def fcntl (call : FeCall) : Act Error (FeFile κ) UInt32 := do
  match ← ask kernel call with
  | .ok value => pure value
  | .error errno => fail (.io (.other errno) "fcntl")

theorem wp_fcntl {call : FeCall} {Q : UInt32 → FeFile κ → Prop} {E : Error → FeFile κ → Prop} {file : FeFile κ} :
    wp (fcntl kernel call) Q E file ↔
      match (kernel call file.kernel).1 with
      | .ok value => Q value (called kernel file call)
      | .error errno => E (.io (.other errno) "fcntl") (called kernel file call) := by
  rw [fcntl, wp_bind, wp_ask]
  cases (kernel call file.kernel).1 <;> rfl

-- The loop of `drain_events`, with the reads left. A queue that overflowed answers with an error once.
def drainLoop : Nat → Act Error (FeFile κ) Unit
  | 0 => pure ()
  | reads + 1 => do
      match ← attempt (ioctl kernel .getEvent) with
      | .ok () => drainLoop reads
      | .error e => if e = .nix eoverflow then drainLoop reads else pure ()

def drainEvents : Act Error (FeFile κ) Unit := do
  let originalFlags ← fcntl kernel .getFlags
  let _ ← fcntl kernel (.setFlags (originalFlags ||| oNonblock))
  drainLoop kernel (feMaxEvent + 1)
  let _ ← fcntl kernel (.setFlags originalFlags)
  pure ()

def clear : Act Error (FeFile κ) Unit := do
  let result ← attempt (setProperties kernel api [.clear])
  let _ ← attempt (drainEvents kernel)
  lift (.ofExcept result)

end FeFile

end LibDvb
