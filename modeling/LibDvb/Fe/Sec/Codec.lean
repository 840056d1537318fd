import Mathlib.Algebra.Order.Group.Abs
import LibDvb.Fe.Sec.Dsl

namespace LibDvb

open Outcome

section Conversion

def Lnb.shifted (self : Lnb) (transponderMhz : UInt32) : Int :=
  match self with
  | passthrough => transponderMhz.toNat
  | single lofMhz => transponderMhz.toNat - lofMhz.toNat
  | universal lofLowMhz lofHighMhz switchMhz =>
      transponderMhz.toNat - (if switchMhz ≤ transponderMhz then lofHighMhz.toNat else lofLowMhz.toNat)
  | cBand lofMhz => lofMhz.toNat - transponderMhz.toNat

def Lnb.band (self : Lnb) (transponderMhz : UInt32) : SecTone :=
  match self with
  | universal _ _ switchMhz => if switchMhz ≤ transponderMhz then .on else .off
  | _ => .off

def Offset (exact : Int) (band : SecTone) (outcome : Outcome Error (UInt32 × SecTone)) : Prop :=
  (0 ≤ exact ∧ ∃ mhz, outcome = .ok (mhz, band) ∧ (mhz.toNat : Int) = exact) ∨
    (exact < 0 ∧ ∃ e, outcome = .err e ∧ e.IsInvalidData)

theorem offset_lnbOffset (fromMhz subtractMhz : UInt32) (band : SecTone) :
    Offset (fromMhz.toNat - subtractMhz.toNat) band (do
      let mhz ← lnbOffset fromMhz subtractMhz
      .ok (mhz, band)) := by
  by_cases hle : subtractMhz ≤ fromMhz
  · have hnat := UInt32.le_iff_toNat_le.mp hle
    refine .inl ⟨by omega, fromMhz - subtractMhz, by rw [lnbOffset, if_pos hle, ok_bind], ?_⟩
    rw [UInt32.toNat_sub_of_le _ _ hle]
    omega
  · have hnat := mt UInt32.le_iff_toNat_le.mpr hle
    exact .inr ⟨by omega, _, by rw [lnbOffset, if_neg hle, err_bind], ⟨_, rfl⟩⟩

theorem Lnb.intermediate_offset (lnb : Lnb) (transponderMhz : UInt32) :
    Offset (lnb.shifted transponderMhz) (lnb.band transponderMhz) (lnb.intermediate transponderMhz) := by
  cases lnb with
  | passthrough => exact .inl ⟨Int.natCast_nonneg _, transponderMhz, rfl, rfl⟩
  | single lofMhz => exact offset_lnbOffset _ _ _
  | universal lofLowMhz lofHighMhz switchMhz =>
      by_cases hswitch : switchMhz ≤ transponderMhz
      · rw [shifted, Lnb.band, intermediate, if_pos hswitch, if_pos hswitch, if_pos hswitch]
        exact offset_lnbOffset _ _ _
      · rw [shifted, Lnb.band, intermediate, if_neg hswitch, if_neg hswitch, if_neg hswitch]
        exact offset_lnbOffset _ _ _
  | cBand lofMhz => exact offset_lnbOffset _ _ _

end Conversion

section Accepted

def SecConfig.Accepts (config : SecConfig) (mhz : Int) : Prop :=
  match config with
  | .lnb _ | .shared | .toneburst _ => True
  | .switch1_0 config => 1 ≤ config.port ∧ config.port ≤ 4
  | .switch1_1 config => 1 ≤ config.port ∧ config.port ≤ 16
  | .unicable1 config =>
      let encoded := (mhz + config.userBandFrequencyMhz.toNat + 2) / 4 - 350
      (1 ≤ config.slot ∧ config.slot ≤ 8) ∧ config.position ≤ 1 ∧ 0 ≤ encoded ∧ encoded < 2 ^ 10
  | .unicable2 config => (1 ≤ config.slot ∧ config.slot ≤ 32) ∧ config.position ≤ 63 ∧ 0 ≤ mhz - 100 ∧ mhz - 100 < 2 ^ 11
  | .dsl input => ∃ commands, SecParser.Program commands input

def SecConfig.tunedMhz (config : SecConfig) (mhz : Int) : Int :=
  match config with
  | .unicable1 config | .unicable2 config => config.userBandFrequencyMhz.toNat
  | _ => mhz

end Accepted

section Decoders

def SecVoltage.isHigh (self : SecVoltage) : Bool := self = .v18

def SecTone.isOn (self : SecTone) : Bool := self = .on

def masterCommands (sequence : List SecCommand) : List Bytes :=
  sequence.filterMap fun
    | .sendMasterCommand msg => some msg
    | _ => none

def decodeCommitted : Bytes → Option (Nat × Bool × Bool)
  | [framing, address, command, data] =>
      if framing = 0xE0 ∧ address = 0x10 ∧ command = 0x38 ∧ data.toNat / 16 = 15 then
        some (data.toNat / 4 % 4 + 1, data.toNat / 2 % 2 = 1, data.toNat % 2 = 1)
      else
        none
  | _ => none

def decodeUncommitted : Bytes → Option Nat
  | [framing, address, command, data] =>
      if framing = 0xE0 ∧ address = 0x10 ∧ command = 0x39 ∧ data.toNat / 16 = 15 then some (data.toNat % 16 + 1) else none
  | _ => none

structure UnicableChannel where
  slot : Nat
  position : Nat
  high : Bool
  band : Bool
  encoded : Nat
  deriving DecidableEq, Repr

def decodeUnicable1 : Bytes → Option UnicableChannel
  | [framing, address, command, b1, b2] =>
      if framing = 0xE0 ∧ address = 0x10 ∧ command = 0x5A then
        some
          { slot := b1.toNat / 32 + 1
            position := b1.toNat / 16 % 2
            high := b1.toNat / 8 % 2 = 1
            band := b1.toNat / 4 % 2 = 1
            encoded := b1.toNat % 4 * 256 + b2.toNat }
      else
        none
  | _ => none

-- The first byte tells whether a PIN follows.
def decodeUnicable2 : Bytes → Option (UnicableChannel × Option UInt8)
  | framing :: b1 :: b2 :: b3 :: pin =>
      let channel : UnicableChannel :=
        { slot := b1.toNat / 8 + 1
          position := b3.toNat / 4
          high := b3.toNat / 2 % 2 = 1
          band := b3.toNat % 2 = 1
          encoded := b1.toNat % 8 * 256 + b2.toNat }
      match pin with
      | [] => if framing = 0x70 then some (channel, none) else none
      | [pin] => if framing = 0x71 then some (channel, some pin) else none
      | _ => none
  | _ => none

def SecConfig.Decodes (config : SecConfig) (mhz : Int) (band : SecTone) (msg : Bytes) : Prop :=
  match config with
  | .switch1_0 config => decodeCommitted msg = some (config.port.toNat, config.voltage.isHigh, band.isOn)
  | .switch1_1 config => decodeUncommitted msg = some config.port.toNat
  | .unicable1 config => ∃ encoded : Nat, encoded < 2 ^ 10 ∧
      decodeUnicable1 msg =
        some ⟨config.slot.toNat, config.position.toNat, config.voltage.isHigh, band.isOn, encoded⟩ ∧
      |4 * ((encoded : Int) + 350) - (mhz + config.userBandFrequencyMhz.toNat)| ≤ 2
  | .unicable2 config => ∃ encoded : Nat, encoded < 2 ^ 11 ∧
      decodeUnicable2 msg =
        some (⟨config.slot.toNat, config.position.toNat, config.voltage.isHigh, band.isOn, encoded⟩, config.pin) ∧
      (encoded : Int) + 100 = mhz
  | _ => False

def SecConfig.Addressed : SecConfig → Prop
  | .switch1_0 _ | .switch1_1 _ | .unicable1 _ | .unicable2 _ => True
  | _ => False

end Decoders

section Fields

variable {config : DiseqcSwitchConfig} {voltage : SecVoltage} {band : SecTone}

theorem exists_index {a : UInt8} {count : Nat} (least : 1 ≤ a) (most : a.toNat ≤ count) :
    ∃ n < count, subU8 a 1 = .ok (UInt8.ofNat n) ∧ a.toNat = n + 1 := by
  have hleast : 1 ≤ a.toNat := UInt8.le_iff_toNat_le.mp least
  refine ⟨a.toNat - 1, by omega, ?_, by omega⟩
  rw [subU8, if_pos least, Outcome.ok.injEq, ← UInt8.toNat_inj, UInt8.toNat_sub_of_le _ _ least, UInt8.toNat_ofNat_of_lt']
  · rfl
  · exact Nat.lt_of_le_of_lt (Nat.sub_le _ _) a.toNat_lt

theorem toNat_committed (voltage : SecVoltage) (band : SecTone) : ∀ n < 4,
    ((0xF0 : UInt8) ||| (UInt8.ofNat n <<< 2) ||| (if voltage = .v18 then 0x02 else 0x00) |||
      (if band = .on then 0x01 else 0x00)).toNat =
        240 + 4 * n + 2 * voltage.isHigh.toNat + band.isOn.toNat := by
  cases voltage <;> cases band <;> decide +kernel

theorem toNat_uncommitted : ∀ n < 16, ((0xF0 : UInt8) ||| UInt8.ofNat n).toNat = 240 + n := by decide +kernel

theorem toNat_unicable1 (voltage : SecVoltage) (band : SecTone) : ∀ slot < 8, ∀ position < 2, ∀ upper < 4,
    ((UInt8.ofNat slot <<< 5) ||| (UInt8.ofNat position <<< 4) ||| secVoltageBit voltage 0x08 ||| secToneBit band 0x04 |||
      UInt8.ofNat upper).toNat =
        32 * slot + 16 * position + 8 * voltage.isHigh.toNat + 4 * band.isOn.toNat + upper := by
  cases voltage <;> cases band <;> decide +kernel

theorem toNat_unicable2_slot : ∀ slot < 32, ∀ upper < 8, ((UInt8.ofNat slot <<< 3) ||| UInt8.ofNat upper).toNat =
    8 * slot + upper := by decide +kernel

theorem toNat_unicable2_position (voltage : SecVoltage) (band : SecTone) : ∀ position < 64,
    ((UInt8.ofNat position <<< 2) ||| secVoltageBit voltage 0x02 ||| secToneBit band 0x01).toNat =
      4 * position + 2 * voltage.isHigh.toNat + band.isOn.toNat := by
  cases voltage <;> cases band <;> decide +kernel

theorem high_bits (x : UInt32) (bits : Nat) (hbits : bits ≤ 8) :
    (x >>> 8).toUInt8 &&& UInt8.ofNat (2 ^ bits - 1) = UInt8.ofNat (x.toNat / 256 % 2 ^ bits) := by
  have hpow : 2 ^ bits ≤ 2 ^ 8 := Nat.pow_le_pow_right (by decide) hbits
  have hpos : 0 < 2 ^ bits := Nat.two_pow_pos bits
  have hmod : x.toNat / 256 % 2 ^ bits < 2 ^ bits := Nat.mod_lt _ hpos
  have hbyte : ((x >>> 8).toUInt8).toNat = x.toNat / 256 % 2 ^ 8 := by
    rw [UInt32.toNat_toUInt8, UInt32.toNat_shiftRight, show (8 : UInt32).toNat % 32 = 8 from rfl,
      Nat.shiftRight_eq_div_pow]
  rw [← UInt8.toNat_inj, UInt8.toNat_and, hbyte, UInt8.toNat_ofNat_of_lt' (Nat.lt_of_lt_of_le (by omega) hpow),
    UInt8.toNat_ofNat_of_lt' (Nat.lt_of_lt_of_le hmod hpow), Nat.and_two_pow_sub_one_eq_mod,
    Nat.mod_mod_of_dvd _ (Nat.pow_dvd_pow 2 hbits)]

theorem toNat_low (x : UInt32) : x.toUInt8.toNat = x.toNat % 256 := UInt32.toNat_toUInt8 x

end Fields

section Decoded

variable {voltage : SecVoltage} {band : SecTone} {slot position : Nat} {x : UInt32}

theorem decodeCommitted_data {port : Nat} (hport : port < 4) {data : UInt8} {v t : Bool}
    (h : data.toNat = 240 + 4 * port + 2 * v.toNat + t.toNat) :
    decodeCommitted [0xE0, 0x10, 0x38, data] = some (port + 1, v, t) := by
  have hv := v.toNat_lt
  have ht := t.toNat_lt
  have hport' : data.toNat / 4 % 4 = port := by omega
  have hhigh : data.toNat / 2 % 2 = v.toNat := by omega
  have hband : data.toNat % 2 = t.toNat := by omega
  rw [decodeCommitted, if_pos ⟨rfl, rfl, rfl, by omega⟩, hport', hhigh, hband]
  cases v <;> cases t <;> rfl

theorem decodeUncommitted_data {port : Nat} (hport : port < 16) {data : UInt8} (h : data.toNat = 240 + port) :
    decodeUncommitted [0xE0, 0x10, 0x39, data] = some (port + 1) := by
  rw [decodeUncommitted, if_pos ⟨rfl, rfl, rfl, by omega⟩]
  congr 1
  omega

theorem decodeUnicable1_data (hposition : position < 2) (hx : x.toNat < 2 ^ 10) {b1 : UInt8}
    {v t : Bool} (h : b1.toNat = 32 * slot + 16 * position + 8 * v.toNat + 4 * t.toNat + x.toNat / 256 % 4) :
    decodeUnicable1 [0xE0, 0x10, 0x5A, b1, x.toUInt8] = some ⟨slot + 1, position, v, t, x.toNat⟩ := by
  have hv := v.toNat_lt
  have ht := t.toNat_lt
  have hslot' : b1.toNat / 32 = slot := by omega
  have hposition' : b1.toNat / 16 % 2 = position := by omega
  have hhigh : b1.toNat / 8 % 2 = v.toNat := by omega
  have hband : b1.toNat / 4 % 2 = t.toNat := by omega
  have hencoded : b1.toNat % 4 * 256 + x.toUInt8.toNat = x.toNat := by
    rw [toNat_low]
    omega
  rw [decodeUnicable1, if_pos ⟨rfl, rfl, rfl⟩, hslot', hposition', hhigh, hband, hencoded]
  cases v <;> cases t <;> rfl

theorem decodeUnicable2_data (hx : x.toNat < 2 ^ 11) {b1 b3 : UInt8}
    {v t : Bool} (pin : Option UInt8) (h1 : b1.toNat = 8 * slot + x.toNat / 256 % 8)
    (h3 : b3.toNat = 4 * position + 2 * v.toNat + t.toNat) :
    decodeUnicable2 ([if pin.isSome then 0x71 else 0x70] ++ [b1, x.toUInt8, b3] ++ pin.toList) =
      some (⟨slot + 1, position, v, t, x.toNat⟩, pin) := by
  have hv := v.toNat_lt
  have ht := t.toNat_lt
  have hslot' : b1.toNat / 8 = slot := by omega
  have hposition' : b3.toNat / 4 = position := by omega
  have hhigh : b3.toNat / 2 % 2 = v.toNat := by omega
  have hband : b3.toNat % 2 = t.toNat := by omega
  have hencoded : b1.toNat % 8 * 256 + x.toUInt8.toNat = x.toNat := by
    rw [toNat_low]
    omega
  cases pin with
  | none =>
      simp only [Option.isSome_none, Option.toList_none, List.cons_append, List.nil_append, decodeUnicable2, hslot',
        hposition', hhigh, hband, hencoded]
      cases v <;> cases t <;> rfl
  | some pin =>
      simp only [Option.isSome_some, Option.toList_some, List.cons_append, List.nil_append, decodeUnicable2, hslot',
        hposition', hhigh, hband, hencoded]
      cases v <;> cases t <;> rfl

end Decoded

section Configured

variable {config : SecConfig} {band : SecTone} {timings : SecTimings} {outcome : Outcome Error SecSetup}

inductive Configured (config : SecConfig) (mhz : Nat) (band : SecTone) (outcome : Outcome Error SecSetup) : Prop
  | accepted (accepts : config.Accepts mhz) (tuned : UInt32) (sequence : List SecCommand)
      (made : outcome = secSetup tuned sequence) (exact : (tuned.toNat : Int) = config.tunedMhz mhz)
      (carried : config.Addressed → ∃ msg, masterCommands sequence = [msg] ∧ config.Decodes mhz band msg)
  | refused (rejects : ¬ config.Accepts mhz) (context : String) (made : outcome = .err (.invalidData context))

variable (mhz : UInt32)

theorem configured_plain {sequence : List SecCommand} (accepts : config.Accepts mhz.toNat)
    (exact : config.tunedMhz mhz.toNat = mhz.toNat) (plain : ¬ config.Addressed) :
    Configured config mhz.toNat band (secSetup mhz sequence) :=
  .accepted accepts mhz sequence rfl exact.symm fun h => absurd h plain

theorem diseqc1_0Sequence_configured (config : DiseqcSwitchConfig) :
    Configured (.switch1_0 config) mhz.toNat band (diseqc1_0Sequence mhz config band timings) := by
  by_cases hport : 1 ≤ config.port ∧ config.port ≤ 4
  · obtain ⟨n, hn, hindex, hnat⟩ := exists_index hport.1 (UInt8.le_iff_toNat_le.mp hport.2)
    have hdecode := decodeCommitted_data hn (toNat_committed config.voltage band n hn)
    rw [← hnat] at hdecode
    refine .accepted hport mhz (controlledMasterSequence config.voltage band _ timings) ?_ rfl fun _ => ⟨_, rfl, hdecode⟩
    rw [diseqc1_0Sequence, if_neg (not_not_intro hport), hindex, ok_bind]
  · exact .refused hport _ (by rw [diseqc1_0Sequence, if_pos hport])

theorem diseqc1_1Sequence_configured (config : DiseqcSwitchConfig) :
    Configured (.switch1_1 config) mhz.toNat band (diseqc1_1Sequence mhz config band timings) := by
  by_cases hport : 1 ≤ config.port ∧ config.port ≤ 16
  · obtain ⟨n, hn, hindex, hnat⟩ := exists_index hport.1 (UInt8.le_iff_toNat_le.mp hport.2)
    have hdecode := decodeUncommitted_data hn (toNat_uncommitted n hn)
    rw [← hnat] at hdecode
    refine .accepted hport mhz (controlledMasterSequence config.voltage band _ timings) ?_ rfl fun _ => ⟨_, rfl, hdecode⟩
    rw [diseqc1_1Sequence, if_neg (not_not_intro hport), hindex, ok_bind]
  · exact .refused hport _ (by rw [diseqc1_1Sequence, if_pos hport])

def unicableSequence (msg : Bytes) (timings : SecTimings) : List SecCommand :=
  [.setVoltage .v13, .setTone .off, .wait timings.unicableSettle, .setVoltage .v18, .wait timings.messageGap,
    .sendMasterCommand msg, .wait timings.unicableHold, .setVoltage .v13]

theorem unicableTune_eq (msg : Bytes) : unicableTune mhz msg timings = secSetup mhz (unicableSequence msg timings) := rfl

theorem unicable1Encoded_eq (userBand : UInt32) :
    (∃ x, unicable1Encoded mhz userBand = some x ∧ (x.toNat : Int) = ((mhz.toNat : Int) + userBand.toNat + 2) / 4 - 350) ∨
      (unicable1Encoded mhz userBand = none ∧
        ¬ (0 ≤ ((mhz.toNat : Int) + userBand.toNat + 2) / 4 - 350 ∧
          ((mhz.toNat : Int) + userBand.toNat + 2) / 4 - 350 < 2 ^ 10)) := by
  have hsize : UInt32.size = 2 ^ 32 := rfl
  rcases checkedAddU32_eq mhz userBand with ⟨sum, hsum, heq⟩ | ⟨hsum, hlarge⟩
  · rcases checkedAddU32_eq sum 2 with ⟨rounded, hrounded, heq'⟩ | ⟨hrounded, hlarge⟩
    · have hquarter : (rounded / 4).toNat = (mhz.toNat + userBand.toNat + 2) / 4 := by
        rw [UInt32.toNat_div, heq', heq]
        rfl
      have hbase : (350 : UInt32).toNat = 350 := rfl
      rcases checkedSubU32_eq (rounded / 4) 350 with ⟨x, hx, heq''⟩ | ⟨hx, hsmall⟩
      · refine .inl ⟨x, ?_, by omega⟩
        rw [unicable1Encoded, hsum, Option.bind_some, hrounded, Option.map_some, Option.bind_some, hx]
      · refine .inr ⟨?_, by omega⟩
        rw [unicable1Encoded, hsum, Option.bind_some, hrounded, Option.map_some, Option.bind_some, hx]
    · have htwo : (2 : UInt32).toNat = 2 := rfl
      refine .inr ⟨?_, by omega⟩
      rw [unicable1Encoded, hsum, Option.bind_some, hrounded]
      rfl
  · refine .inr ⟨?_, by omega⟩
    rw [unicable1Encoded, hsum]
    rfl

theorem unicable1Sequence_configured (config : UnicableConfig) :
    Configured (.unicable1 config) mhz.toNat band (unicable1Sequence mhz config band timings) := by
  by_cases hslot : 1 ≤ config.slot ∧ config.slot ≤ 8
  swap
  · exact .refused (fun h => hslot h.1) _ (by rw [unicable1Sequence, if_pos hslot])
  by_cases hposition : 1 < config.position
  · refine .refused (fun h => ?_) _ (by rw [unicable1Sequence, if_neg (not_not_intro hslot), if_pos hposition])
    exact UInt8.not_lt.mpr h.2.1 hposition
  have hposition' : config.position ≤ 1 := UInt8.not_lt.mp hposition
  rcases unicable1Encoded_eq mhz config.userBandFrequencyMhz with ⟨x, hencoded, hx⟩ | ⟨hencoded, hout⟩
  swap
  · exact .refused (fun h => hout h.2.2) _
      (by rw [unicable1Sequence, if_neg (not_not_intro hslot), if_neg hposition, hencoded])
  by_cases hlarge : 0x03FF < x
  · have hnat : 0x03FF < x.toNat := UInt32.lt_iff_toNat_lt.mp hlarge
    refine .refused (fun h => ?_) s!"Unicable I encoded frequency must fit 10 bits, got {x}" ?_
    · have hfits := h.2.2.2
      omega
    · rw [unicable1Sequence, if_neg (not_not_intro hslot), if_neg hposition, hencoded]
      exact if_pos hlarge
  have hnat : x.toNat ≤ 0x03FF := UInt32.le_iff_toNat_le.mp (UInt32.not_lt.mp hlarge)
  obtain ⟨n, hn, hindex, hslot'⟩ := exists_index hslot.1 (UInt8.le_iff_toNat_le.mp hslot.2)
  have hle : config.position.toNat ≤ 1 := UInt8.le_iff_toNat_le.mp hposition'
  have hupper : (x >>> 8).toUInt8 &&& 0x03 = UInt8.ofNat (x.toNat / 256 % 4) := high_bits x 2 (by decide)
  have hpack := toNat_unicable1 config.voltage band n hn config.position.toNat (by omega) (x.toNat / 256 % 4) (by omega)
  rw [UInt8.ofNat_toNat, ← hupper] at hpack
  have hdecode := decodeUnicable1_data (by omega) (by omega) hpack
  rw [← hslot'] at hdecode
  refine .accepted ⟨hslot, hposition', by omega, by omega⟩ config.userBandFrequencyMhz (unicableSequence _ timings) ?_ rfl fun _ =>
    ⟨_, rfl, x.toNat, by omega, hdecode, abs_le.mpr (by omega)⟩
  rw [unicable1Sequence, if_neg (not_not_intro hslot), if_neg hposition, hencoded]
  dsimp only
  rw [if_neg hlarge, hindex, ok_bind, unicableTune_eq]

theorem unicable2Sequence_configured (config : UnicableConfig) :
    Configured (.unicable2 config) mhz.toNat band (unicable2Sequence mhz config band timings) := by
  by_cases hslot : 1 ≤ config.slot ∧ config.slot ≤ 32
  swap
  · exact .refused (fun h => hslot h.1) _ (by rw [unicable2Sequence, if_pos hslot])
  by_cases hposition : 63 < config.position
  · refine .refused (fun h => ?_) _ (by rw [unicable2Sequence, if_neg (not_not_intro hslot), if_pos hposition])
    exact UInt8.not_lt.mpr h.2.1 hposition
  have hposition' : config.position ≤ 63 := UInt8.not_lt.mp hposition
  have hbase : (100 : UInt32).toNat = 100 := rfl
  rcases checkedSubU32_eq mhz 100 with ⟨x, hencoded, hx⟩ | ⟨hencoded, hsmall⟩
  swap
  · refine .refused (fun h => ?_) "Unicable II frequency is out of range"
      (by rw [unicable2Sequence, if_neg (not_not_intro hslot), if_neg hposition, hencoded])
    have hlow := h.2.2.1
    omega
  by_cases hlarge : 0x07FF < x
  · have hnat : 0x07FF < x.toNat := UInt32.lt_iff_toNat_lt.mp hlarge
    refine .refused (fun h => ?_) s!"Unicable II encoded frequency must fit 11 bits, got {x}" ?_
    · have hfits := h.2.2.2
      omega
    · rw [unicable2Sequence, if_neg (not_not_intro hslot), if_neg hposition, hencoded]
      exact if_pos hlarge
  have hnat : x.toNat ≤ 0x07FF := UInt32.le_iff_toNat_le.mp (UInt32.not_lt.mp hlarge)
  obtain ⟨n, hn, hindex, hslot'⟩ := exists_index hslot.1 (UInt8.le_iff_toNat_le.mp hslot.2)
  have hle : config.position.toNat ≤ 63 := UInt8.le_iff_toNat_le.mp hposition'
  have hupper : (x >>> 8).toUInt8 &&& 0x07 = UInt8.ofNat (x.toNat / 256 % 8) := high_bits x 3 (by decide)
  have hfirst := toNat_unicable2_slot n hn (x.toNat / 256 % 8) (by omega)
  have hthird := toNat_unicable2_position config.voltage band config.position.toNat (by omega)
  rw [← hupper] at hfirst
  rw [UInt8.ofNat_toNat] at hthird
  have hdecode := decodeUnicable2_data (by omega) config.pin hfirst hthird
  rw [← hslot'] at hdecode
  refine .accepted ⟨hslot, hposition', by omega, by omega⟩ config.userBandFrequencyMhz (unicableSequence _ timings) ?_ rfl fun _ =>
    ⟨_, rfl, x.toNat, by omega, hdecode, by omega⟩
  rw [unicable2Sequence, if_neg (not_not_intro hslot), if_neg hposition, hencoded]
  dsimp only
  rw [if_neg hlarge, hindex, ok_bind, unicableTune_eq]

end Configured

section Sequence

variable {debug : Bytes → String} {transponderMhz : UInt32} {lnb : Lnb} {config : SecConfig} {timings : SecTimings}

theorem secSequence_configured :
    (0 ≤ lnb.shifted transponderMhz ∧ Configured config (lnb.shifted transponderMhz).toNat (lnb.band transponderMhz)
      (secSequence debug transponderMhz lnb config timings)) ∨
    (lnb.shifted transponderMhz < 0 ∧ ∃ e, secSequence debug transponderMhz lnb config timings = .err e ∧ e.IsInvalidData) := by
  rcases lnb.intermediate_offset transponderMhz with ⟨hnonneg, mhz, hmhz, hexact⟩ | ⟨hneg, e, herr, hinvalid⟩
  swap
  · exact .inr ⟨hneg, e, by rw [secSequence, herr, err_bind], hinvalid⟩
  have hnat : (lnb.shifted transponderMhz).toNat = mhz.toNat := by omega
  refine .inl ⟨hnonneg, ?_⟩
  rw [secSequence, hmhz, ok_bind, hnat]
  cases config with
  | lnb voltage => exact configured_plain mhz trivial rfl id
  | shared => exact configured_plain mhz trivial rfl id
  | switch1_0 config => exact diseqc1_0Sequence_configured mhz config
  | switch1_1 config => exact diseqc1_1Sequence_configured mhz config
  | toneburst config => exact configured_plain mhz trivial rfl id
  | unicable1 config => exact unicable1Sequence_configured mhz config
  | unicable2 config => exact unicable2Sequence_configured mhz config
  | dsl input =>
      dsimp only
      have hsat := @SecParser.parse_sat debug input
      cases hparse : SecParser.parse debug input with
      | ok commands =>
          rw [parseSecSequence, hparse, ok_bind]
          exact configured_plain mhz ⟨commands, SecParser.parse_iff.mp hparse⟩ rfl id
      | err e =>
          rw [hparse] at hsat
          obtain ⟨context, rfl⟩ := hsat
          refine .refused ?_ context (by rw [parseSecSequence, hparse, err_bind])
          rintro ⟨commands, program⟩
          rw [SecParser.parse_program program] at hparse
          cases hparse
      | panic =>
          rw [hparse] at hsat
          exact hsat.elim

def SecConfig.Representable (config : SecConfig) (mhz : Int) : Prop :=
  config.Accepts mhz → 1000 * config.tunedMhz mhz < 2 ^ 32

theorem secSetup_eq_ok {tuned : UInt32} (sequence : List SecCommand) (h : 1000 * (tuned.toNat : Int) < 2 ^ 32) :
    ∃ khz, secSetup tuned sequence = .ok ⟨khz, sequence⟩ ∧ (khz.toNat : Int) = 1000 * tuned.toNat := by
  have hfits : tuned.toNat * (1000 : UInt32).toNat < UInt32.size := by
    show tuned.toNat * 1000 < 2 ^ 32
    omega
  have hmul : (mulU32 tuned 1000 : Outcome Error UInt32) = .ok (tuned * 1000) := if_pos hfits
  have hkhz := mulU32_eq_ok.mp hmul
  refine ⟨tuned * 1000, by rw [secSetup, hmul, ok_bind], ?_⟩
  rw [hkhz, Int.natCast_mul, Int.mul_comm]
  rfl

theorem secSetup_eq_panic {tuned : UInt32} {sequence : List SecCommand} (h : 2 ^ 32 ≤ 1000 * (tuned.toNat : Int)) :
    secSetup tuned sequence = .panic := by
  have hlarge : UInt32.size ≤ tuned.toNat * (1000 : UInt32).toNat := by
    show 2 ^ 32 ≤ tuned.toNat * 1000
    omega
  rw [secSetup, mulU32_eq_panic.mpr hlarge, panic_bind]

theorem secSequence_sat (debug : Bytes → String) (timings : SecTimings)
    (representable : 0 ≤ lnb.shifted transponderMhz → config.Representable (lnb.shifted transponderMhz)) :
    (secSequence debug transponderMhz lnb config timings).Sat
      (fun setup => (setup.frontendFrequencyKhz.toNat : Int) = 1000 * config.tunedMhz (lnb.shifted transponderMhz))
      Error.IsInvalidData := by
  rcases secSequence_configured with ⟨hnonneg, hconfigured⟩ | ⟨hneg, e, herr, hinvalid⟩
  swap
  · rw [herr, sat_err]
    exact hinvalid
  have hcast : ((lnb.shifted transponderMhz).toNat : Int) = lnb.shifted transponderMhz := Int.toNat_of_nonneg hnonneg
  cases hconfigured with
  | refused rejects context made =>
      rw [made, sat_err]
      exact ⟨_, rfl⟩
  | accepted accepts tuned sequence made exact carried =>
      rw [hcast] at accepts exact
      have hfits := representable hnonneg accepts
      rw [← exact] at hfits
      obtain ⟨khz, hsetup, hkhz⟩ := secSetup_eq_ok sequence hfits
      rw [made, hsetup, sat_ok, ← exact]
      exact hkhz

theorem secSequence_panics (debug : Bytes → String) (timings : SecTimings) (hnonneg : 0 ≤ lnb.shifted transponderMhz)
    (accepts : config.Accepts (lnb.shifted transponderMhz))
    (large : 2 ^ 32 ≤ 1000 * config.tunedMhz (lnb.shifted transponderMhz)) :
    secSequence debug transponderMhz lnb config timings = .panic := by
  have hcast : ((lnb.shifted transponderMhz).toNat : Int) = lnb.shifted transponderMhz := Int.toNat_of_nonneg hnonneg
  rcases secSequence_configured with ⟨_, hconfigured⟩ | ⟨hneg, _⟩
  swap
  · exact absurd hneg (Int.not_lt.mpr hnonneg)
  cases hconfigured with
  | refused rejects context made =>
      rw [hcast] at rejects
      exact absurd accepts rejects
  | accepted _ tuned sequence made exact carried =>
      rw [hcast] at exact
      rw [← exact] at large
      rw [made, secSetup_eq_panic large]

theorem secSequence_exact_iff (debug : Bytes → String) (transponderMhz : UInt32) (lnb : Lnb) (config : SecConfig)
    (timings : SecTimings) :
    (secSequence debug transponderMhz lnb config timings).Sat
      (fun setup => (setup.frontendFrequencyKhz.toNat : Int) = 1000 * config.tunedMhz (lnb.shifted transponderMhz))
      Error.IsInvalidData ↔
        (0 ≤ lnb.shifted transponderMhz → config.Accepts (lnb.shifted transponderMhz) →
          1000 * config.tunedMhz (lnb.shifted transponderMhz) < 2 ^ 32) := by
  refine ⟨fun hsat hnonneg accepts => Int.not_le.mp fun large => ?_, secSequence_sat debug timings⟩
  rw [secSequence_panics debug timings hnonneg accepts large] at hsat
  exact hsat

theorem secSequence_overflow : ¬ ∀ debug transponderMhz lnb config timings,
    (secSequence debug transponderMhz lnb config timings).Sat
      (fun setup => (setup.frontendFrequencyKhz.toNat : Int) = 1000 * config.tunedMhz (lnb.shifted transponderMhz))
      Error.IsInvalidData := by
  intro h
  have hsat := h (fun _ => "") 4294968 .passthrough (.lnb .v13) {}
  rw [show secSequence (fun _ => "") 4294968 .passthrough (.lnb .v13) {} = .panic from rfl] at hsat
  exact hsat

theorem secSequence_codec (debug : Bytes → String) (transponderMhz : UInt32) (lnb : Lnb) (config : SecConfig)
    (timings : SecTimings) (addressed : config.Addressed)
    (representable : 0 ≤ lnb.shifted transponderMhz → config.Representable (lnb.shifted transponderMhz)) :
    ((∃ e, secSequence debug transponderMhz lnb config timings = .err e) ↔
      lnb.shifted transponderMhz < 0 ∨ ¬ config.Accepts (lnb.shifted transponderMhz)) ∧
    (0 ≤ lnb.shifted transponderMhz → config.Accepts (lnb.shifted transponderMhz) → ∃ setup msg,
      secSequence debug transponderMhz lnb config timings = .ok setup ∧ masterCommands setup.secSequence = [msg] ∧
        config.Decodes (lnb.shifted transponderMhz) (lnb.band transponderMhz) msg) := by
  rcases secSequence_configured with ⟨hnonneg, hconfigured⟩ | ⟨hneg, e, herr, hinvalid⟩
  swap
  · exact ⟨iff_of_true ⟨e, herr⟩ (.inl hneg), fun hnonneg => absurd hneg (Int.not_lt.mpr hnonneg)⟩
  have hcast : ((lnb.shifted transponderMhz).toNat : Int) = lnb.shifted transponderMhz := Int.toNat_of_nonneg hnonneg
  cases hconfigured with
  | refused rejects context made =>
      rw [hcast] at rejects
      exact ⟨iff_of_true ⟨_, made⟩ (.inr rejects), fun _ accepts => absurd accepts rejects⟩
  | accepted accepts tuned sequence made exact carried =>
      rw [hcast] at accepts exact carried
      have hfits := representable hnonneg accepts
      rw [← exact] at hfits
      obtain ⟨khz, hsetup, _⟩ := secSetup_eq_ok sequence hfits
      obtain ⟨msg, hmsg, hdecodes⟩ := carried addressed
      rw [made, hsetup]
      refine ⟨iff_of_false (fun ⟨e, he⟩ => nomatch he) ?_, fun _ _ => ⟨_, msg, rfl, hmsg, hdecodes⟩⟩
      rintro (hneg | rejects)
      · exact absurd hneg (Int.not_lt.mpr hnonneg)
      · exact rejects accepts

theorem secSequence_codec_unicable : ∃ setup msg,
    secSequence (fun _ => "") 11954 (.universal 9750 10600 11700) (.unicable1 ⟨3, 1210, 1, .v18, none⟩) {} = .ok setup ∧
      masterCommands setup.secSequence = [msg] ∧
        (SecConfig.unicable1 ⟨3, 1210, 1, .v18, none⟩).Decodes
          ((Lnb.universal 9750 10600 11700).shifted 11954) ((Lnb.universal 9750 10600 11700).band 11954) msg :=
  (secSequence_codec (fun _ => "") 11954 (.universal 9750 10600 11700) (.unicable1 ⟨3, 1210, 1, .v18, none⟩) {} trivial
    fun _ _ => by decide).2 (by decide) ⟨⟨by decide, by decide⟩, by decide, by decide, by decide⟩

end Sequence

section Auto

variable {transponderMhz : UInt32} {lnb : Lnb}

theorem auto_shifted (h : Lnb.auto transponderMhz = some lnb) :
    950 ≤ lnb.shifted transponderMhz ∧ lnb.shifted transponderMhz < 2650 := by
  unfold Lnb.auto at h
  simp only [UInt32.le_iff_toNat_le, UInt32.lt_iff_toNat_lt, UInt32.reduceToNat] at h
  split_ifs at h with hl hs hc he hk
  all_goals
    obtain rfl := Option.some.inj h
    simp only [Lnb.shifted, UInt32.reduceToNat]
  · omega
  · omega
  · omega
  · omega
  · simp only [UInt32.le_iff_toNat_le, UInt32.reduceToNat]
    by_cases hswitch : 11700 ≤ transponderMhz.toNat
    · rw [if_pos hswitch]
      omega
    · rw [if_neg hswitch]
      omega

theorem secSequence_auto {debug : Bytes → String} {config : SecConfig} {timings : SecTimings}
    (h : Lnb.auto transponderMhz = some lnb) (bounded : ∀ unicable, config ≠ .unicable2 unicable) :
    (secSequence debug transponderMhz lnb config timings).Sat
      (fun setup => (setup.frontendFrequencyKhz.toNat : Int) = 1000 * config.tunedMhz (lnb.shifted transponderMhz))
      Error.IsInvalidData := by
  obtain ⟨hlow, hhigh⟩ := auto_shifted h
  refine secSequence_sat debug timings fun _ accepts => ?_
  cases config with
  | unicable1 unicable =>
      -- The range of the encoded frequency bounds the user band.
      obtain ⟨_, _, _, hfits⟩ := accepts
      show 1000 * (unicable.userBandFrequencyMhz.toNat : Int) < 2 ^ 32
      omega
  | unicable2 unicable => exact absurd rfl (bounded unicable)
  | _ =>
      show 1000 * lnb.shifted transponderMhz < 2 ^ 32
      omega

end Auto

end LibDvb
