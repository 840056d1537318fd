import LibDvb.Basis.Machine
import LibDvb.Error
import LibDvb.Time

namespace LibDvb

open Outcome

inductive SecVoltage where
  | v13
  | v18
  | off
  deriving DecidableEq, Repr

inductive SecTone where
  | on
  | off
  deriving DecidableEq, Repr

inductive SecMiniCmd where
  | a
  | b
  deriving DecidableEq, Repr

inductive SecCommand where
  | setTone (tone : SecTone)
  | setVoltage (voltage : SecVoltage)
  | sendBurst (burst : SecMiniCmd)
  | sendMasterCommand (msg : Bytes)
  | wait (duration : Duration)
  deriving DecidableEq, Repr

section Lnb

inductive Lnb where
  | passthrough
  | single (lofMhz : UInt32)
  | universal (lofLowMhz lofHighMhz switchMhz : UInt32)
  | cBand (lofMhz : UInt32)
  deriving DecidableEq, Repr

def lnbOffset (fromMhz subtractMhz : UInt32) : Outcome Error UInt32 :=
  if subtractMhz ≤ fromMhz then
    .ok (fromMhz - subtractMhz)
  else
    .err (.invalidData s!"LNB conversion needs {fromMhz} MHz to be at least {subtractMhz} MHz")

namespace Lnb

def auto (transponderMhz : UInt32) : Option Lnb :=
  if 950 ≤ transponderMhz ∧ transponderMhz ≤ 2150 then
    some .passthrough
  else if 2500 ≤ transponderMhz ∧ transponderMhz ≤ 2700 then
    some (.cBand 3650)
  else if 3400 ≤ transponderMhz ∧ transponderMhz ≤ 4200 then
    some (.cBand 5150)
  else if 4500 ≤ transponderMhz ∧ transponderMhz ≤ 4800 then
    some (.cBand 5750)
  else if 10700 ≤ transponderMhz ∧ transponderMhz < 13250 then
    some (.universal 9750 10600 11700)
  else
    none

def intermediate (self : Lnb) (transponderMhz : UInt32) : Outcome Error (UInt32 × SecTone) :=
  match self with
  | passthrough => .ok (transponderMhz, .off)
  | single lofMhz => do
      let mhz ← lnbOffset transponderMhz lofMhz
      .ok (mhz, .off)
  | universal lofLowMhz lofHighMhz switchMhz =>
      if switchMhz ≤ transponderMhz then do
        let mhz ← lnbOffset transponderMhz lofHighMhz
        .ok (mhz, .on)
      else do
        let mhz ← lnbOffset transponderMhz lofLowMhz
        .ok (mhz, .off)
  | cBand lofMhz => do
      let mhz ← lnbOffset lofMhz transponderMhz
      .ok (mhz, .off)

end Lnb

end Lnb

structure DiseqcSwitchConfig where
  port : UInt8
  voltage : SecVoltage
  deriving DecidableEq, Repr

structure ToneburstConfig where
  burst : SecMiniCmd
  voltage : SecVoltage
  deriving DecidableEq, Repr

structure UnicableConfig where
  slot : UInt8
  userBandFrequencyMhz : UInt32
  position : UInt8
  voltage : SecVoltage
  pin : Option UInt8
  deriving DecidableEq, Repr

structure SecTimings where
  switchSettle : Duration := Duration.fromMillis 200
  messageGap : Duration := Duration.fromMillis 15
  unicableSettle : Duration := Duration.fromMillis 5
  unicableHold : Duration := Duration.fromMillis 50
  lnbSettle : Duration := Duration.fromMillis 100
  deriving DecidableEq, Repr

-- A text of the control language is kept as its bytes.
inductive SecConfig where
  | lnb (voltage : SecVoltage)
  | shared
  | switch1_0 (config : DiseqcSwitchConfig)
  | switch1_1 (config : DiseqcSwitchConfig)
  | toneburst (config : ToneburstConfig)
  | unicable1 (config : UnicableConfig)
  | unicable2 (config : UnicableConfig)
  | dsl (input : Bytes)
  deriving DecidableEq, Repr

structure SecSetup where
  frontendFrequencyKhz : UInt32
  secSequence : List SecCommand
  deriving DecidableEq, Repr

section Parser

-- The `{:?}` form of the text, which the errors quote.
variable (debug : Bytes → String)

def isAsciiWhitespace (c : UInt8) : Bool := c = 0x09 || c = 0x0A || c = 0x0C || c = 0x0D || c = 0x20

def isAsciiDigit (c : UInt8) : Bool := '0'.toUInt8 ≤ c && c ≤ '9'.toUInt8

namespace SecParser

def error (bytes : Bytes) (pos : Nat) (message : String) : Error :=
  .invalidData s!"{message} at byte {pos} in {debug bytes}"

-- `self.current() as char`.
def currentChar (c : UInt8) : Char := Char.ofNat c.toNat

-- The loops below consume a byte in every turn, so the length of the text is fuel enough.
def skipLoop (bytes : Bytes) : Nat → Nat → Outcome Error Nat
  | 0, _ => .panic
  | fuel + 1, pos =>
      if pos < bytes.length then do
        let c ← index bytes pos
        if isAsciiWhitespace c then skipLoop bytes fuel (pos + 1) else .ok pos
      else
        .ok pos

def skipWhitespace (bytes : Bytes) (pos : Nat) : Outcome Error Nat := skipLoop bytes (bytes.length + 1) pos

def checkedU64 (n : Nat) : Option Nat := if n < 2 ^ 64 then some n else none

def waitLoop (bytes : Bytes) : Nat → Nat → Nat → Outcome Error (Nat × Nat)
  | 0, _, _ => .panic
  | fuel + 1, value, pos =>
      if pos < bytes.length then do
        let c ← index bytes pos
        if isAsciiDigit c then
          match (checkedU64 (value * 10)).bind fun v => checkedU64 (v + (c.toNat - '0'.toNat)) with
          | some value => waitLoop bytes fuel value (pos + 1)
          | none => .err (error debug bytes pos "wait duration is too large")
        else
          .ok (value, pos)
      else
        .ok (value, pos)

def parseWait (bytes : Bytes) (pos : Nat) : Outcome Error (Nat × Nat) := do
  let (value, last) ← waitLoop debug bytes (bytes.length + 1) 0 pos
  if last = pos then
    .err (error debug bytes last "wait command requires a millisecond value")
  else
    .ok (value, last)

def hexNibble (c : UInt8) : Option UInt8 :=
  if '0'.toUInt8 ≤ c ∧ c ≤ '9'.toUInt8 then
    some (c - '0'.toUInt8)
  else if 'a'.toUInt8 ≤ c ∧ c ≤ 'f'.toUInt8 then
    some (c - 'a'.toUInt8 + 10)
  else if 'A'.toUInt8 ≤ c ∧ c ≤ 'F'.toUInt8 then
    some (c - 'A'.toUInt8 + 10)
  else
    none

def parseHexNibble (bytes : Bytes) (pos : Nat) : Outcome Error (UInt8 × Nat) :=
  if bytes.length ≤ pos then
    .err (error debug bytes pos "unterminated DiSEqC master command")
  else do
    let c ← index bytes pos
    match hexNibble c with
    | some nibble => .ok (nibble, pos + 1)
    | none =>
        .err (error debug bytes pos s!"invalid hex character '{currentChar c}' in DiSEqC master command")

def messageLoop (bytes : Bytes) : Nat → Bytes → Nat → Outcome Error (Bytes × Nat)
  | 0, _, _ => .panic
  | fuel + 1, msg, pos => do
      let pos ← skipWhitespace bytes pos
      if bytes.length ≤ pos then
        .err (error debug bytes pos "unterminated DiSEqC master command")
      else do
        let c ← index bytes pos
        if c = ']'.toUInt8 then
          .ok (msg, pos + 1)
        else do
          let (high, pos) ← parseHexNibble debug bytes pos
          let (low, pos) ← parseHexNibble debug bytes pos
          messageLoop bytes fuel (msg ++ [(high <<< 4) ||| low]) pos

def parseMasterCommand (bytes : Bytes) (pos : Nat) : Outcome Error (SecCommand × Nat) := do
  let (msg, pos) ← messageLoop debug bytes (bytes.length + 1) [] (pos + 1)
  if 3 ≤ msg.length ∧ msg.length ≤ 6 then
    .ok (.sendMasterCommand msg, pos)
  else
    .err (error debug bytes pos s!"DiSEqC master command length must be 3..=6 bytes, got {msg.length}")

def letterCommand (c : UInt8) : Option SecCommand :=
  if c = 't'.toUInt8 then some (.setTone .off)
  else if c = 'T'.toUInt8 then some (.setTone .on)
  else if c = 'v'.toUInt8 then some (.setVoltage .v13)
  else if c = 'V'.toUInt8 then some (.setVoltage .v18)
  else if c = 'A'.toUInt8 then some (.sendBurst .a)
  else if c = 'B'.toUInt8 then some (.sendBurst .b)
  else none

def parseCommand (bytes : Bytes) (pos : Nat) : Outcome Error (SecCommand × Nat) := do
  let c ← index bytes pos
  match letterCommand c with
  | some command => .ok (command, pos + 1)
  | none =>
      if c = 'W'.toUInt8 then do
        let (value, pos) ← parseWait debug bytes (pos + 1)
        .ok (.wait (Duration.fromMillis value), pos)
      else if c = '['.toUInt8 then
        parseMasterCommand debug bytes pos
      else
        .err (error debug bytes pos s!"unexpected SEC DSL command '{currentChar c}'")

def parseLoop (bytes : Bytes) : Nat → List SecCommand → Nat → Outcome Error (List SecCommand)
  | 0, _, _ => .panic
  | fuel + 1, commands, pos => do
      let pos ← skipWhitespace bytes pos
      if pos < bytes.length then do
        let (command, pos) ← parseCommand debug bytes pos
        parseLoop bytes fuel (commands ++ [command]) pos
      else
        .ok commands

def parse (bytes : Bytes) : Outcome Error (List SecCommand) := parseLoop debug bytes (bytes.length + 1) [] 0

end SecParser

def parseSecSequence (input : Bytes) : Outcome Error (List SecCommand) := SecParser.parse debug input

end Parser

section Sequence

def secSetup (frequencyMhz : UInt32) (secSequence : List SecCommand) : Outcome Error SecSetup := do
  let frontendFrequencyKhz ← mulU32 frequencyMhz 1000
  .ok { frontendFrequencyKhz, secSequence }

def unicableTune (frequencyMhz : UInt32) (msg : Bytes) (timings : SecTimings) : Outcome Error SecSetup := do
  let frontendFrequencyKhz ← mulU32 frequencyMhz 1000
  .ok
    { frontendFrequencyKhz
      secSequence :=
        [.setVoltage .v13, .setTone .off, .wait timings.unicableSettle, .setVoltage .v18, .wait timings.messageGap,
          .sendMasterCommand msg, .wait timings.unicableHold, .setVoltage .v13] }

def secVoltageBit (voltage : SecVoltage) (bit : UInt8) : UInt8 := if voltage = .v18 then bit else 0

def secToneBit (tone : SecTone) (bit : UInt8) : UInt8 := if tone = .on then bit else 0

def controlledMasterSequence (voltage : SecVoltage) (tone : SecTone) (msg : Bytes) (timings : SecTimings) :
    List SecCommand :=
  [.setTone .off, .setVoltage voltage, .wait timings.switchSettle, .sendMasterCommand msg, .wait timings.messageGap,
    .setTone tone]

def lnbSequence (frequencyMhz : UInt32) (voltage : SecVoltage) (band : SecTone) (timings : SecTimings) :
    Outcome Error SecSetup :=
  secSetup frequencyMhz
    [.setTone .off, .setVoltage voltage, .wait timings.lnbSettle, .setTone band, .wait timings.lnbSettle]

def diseqc1_0Sequence (frequencyMhz : UInt32) (config : DiseqcSwitchConfig) (band : SecTone) (timings : SecTimings) :
    Outcome Error SecSetup :=
  if ¬ (1 ≤ config.port ∧ config.port ≤ 4) then
    .err (.invalidData s!"DiSEqC 1.0 port must be in range 1..=4, got {config.port}")
  else do
    let port ← subU8 config.port 1
    let high : UInt8 := if config.voltage = .v18 then 0x02 else 0x00
    let tone : UInt8 := if band = .on then 0x01 else 0x00
    let data := (0xF0 : UInt8) ||| (port <<< 2) ||| high ||| tone
    secSetup frequencyMhz (controlledMasterSequence config.voltage band [0xE0, 0x10, 0x38, data] timings)

def diseqc1_1Sequence (frequencyMhz : UInt32) (config : DiseqcSwitchConfig) (band : SecTone) (timings : SecTimings) :
    Outcome Error SecSetup :=
  if ¬ (1 ≤ config.port ∧ config.port ≤ 16) then
    .err (.invalidData s!"DiSEqC 1.1 port must be in range 1..=16, got {config.port}")
  else do
    let port ← subU8 config.port 1
    let data := (0xF0 : UInt8) ||| port
    secSetup frequencyMhz (controlledMasterSequence config.voltage band [0xE0, 0x10, 0x39, data] timings)

def toneburstSequence (frequencyMhz : UInt32) (config : ToneburstConfig) (band : SecTone) (timings : SecTimings) :
    Outcome Error SecSetup :=
  secSetup frequencyMhz
    [.setTone .off, .setVoltage config.voltage, .wait timings.messageGap, .sendBurst config.burst,
      .wait timings.messageGap, .setTone band]

def unicable1Encoded (frequencyMhz userBandFrequencyMhz : UInt32) : Option UInt32 :=
  (((checkedAddU32 frequencyMhz userBandFrequencyMhz).bind (checkedAddU32 · 2)).map (· / 4)).bind (checkedSubU32 · 350)

def unicable1Sequence (frequencyMhz : UInt32) (config : UnicableConfig) (band : SecTone) (timings : SecTimings) :
    Outcome Error SecSetup :=
  if ¬ (1 ≤ config.slot ∧ config.slot ≤ 8) then
    .err (.invalidData s!"Unicable I slot must be in range 1..=8, got {config.slot}")
  else if 1 < config.position then
    .err (.invalidData s!"Unicable I position must be in range 0..=1, got {config.position}")
  else
    match unicable1Encoded frequencyMhz config.userBandFrequencyMhz with
    | none => .err (.invalidData "Unicable I frequency is out of range")
    | some x =>
        if 0x03FF < x then
          .err (.invalidData s!"Unicable I encoded frequency must fit 10 bits, got {x}")
        else do
          let slot ← subU8 config.slot 1
          let b1 := (slot <<< 5) ||| (config.position <<< 4) ||| secVoltageBit config.voltage 0x08 |||
            secToneBit band 0x04 ||| ((x >>> 8).toUInt8 &&& 0x03)
          let b2 := x.toUInt8
          unicableTune config.userBandFrequencyMhz [0xE0, 0x10, 0x5A, b1, b2] timings

def unicable2Sequence (frequencyMhz : UInt32) (config : UnicableConfig) (band : SecTone) (timings : SecTimings) :
    Outcome Error SecSetup :=
  if ¬ (1 ≤ config.slot ∧ config.slot ≤ 32) then
    .err (.invalidData s!"Unicable II slot must be in range 1..=32, got {config.slot}")
  else if 63 < config.position then
    .err (.invalidData s!"Unicable II position must be in range 0..=63, got {config.position}")
  else
    match checkedSubU32 frequencyMhz 100 with
    | none => .err (.invalidData "Unicable II frequency is out of range")
    | some x =>
        if 0x07FF < x then
          .err (.invalidData s!"Unicable II encoded frequency must fit 11 bits, got {x}")
        else do
          let slot ← subU8 config.slot 1
          let b1 := (slot <<< 3) ||| ((x >>> 8).toUInt8 &&& 0x07)
          let b2 := x.toUInt8
          let b3 := (config.position <<< 2) ||| secVoltageBit config.voltage 0x02 ||| secToneBit band 0x01
          let msg := [if config.pin.isSome then 0x71 else 0x70] ++ [b1, b2, b3] ++ config.pin.toList
          unicableTune config.userBandFrequencyMhz msg timings

def secSequence (debug : Bytes → String) (transponderMhz : UInt32) (lnb : Lnb) (config : SecConfig)
    (timings : SecTimings) : Outcome Error SecSetup := do
  let (frequencyMhz, band) ← lnb.intermediate transponderMhz
  match config with
  | .lnb voltage => lnbSequence frequencyMhz voltage band timings
  | .shared => secSetup frequencyMhz [.setTone .off, .setVoltage .off]
  | .switch1_0 config => diseqc1_0Sequence frequencyMhz config band timings
  | .switch1_1 config => diseqc1_1Sequence frequencyMhz config band timings
  | .toneburst config => toneburstSequence frequencyMhz config band timings
  | .unicable1 config => unicable1Sequence frequencyMhz config band timings
  | .unicable2 config => unicable2Sequence frequencyMhz config band timings
  | .dsl input => do
      let commands ← parseSecSequence debug input
      secSetup frequencyMhz commands

end Sequence

end LibDvb
