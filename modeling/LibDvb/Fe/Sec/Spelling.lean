import LibDvb.Fe.Sec.Dsl

namespace LibDvb

open Outcome

namespace SecParser

variable {body msg spelling rest text text' ws : Bytes} {command : SecCommand} {commands commands' : List SecCommand}

section Squeeze

def lowerHex (c : UInt8) : UInt8 := if 'A'.toUInt8 ≤ c ∧ c ≤ 'F'.toUInt8 then c + 0x20 else c

-- The text without its blanks, and with the hexadecimal digits between brackets in lower case.
def squeeze : Bool → Bytes → Bytes
  | _, [] => []
  | inside, c :: rest =>
      if isAsciiWhitespace c then squeeze inside rest
      else if c = '['.toUInt8 then c :: squeeze true rest
      else if c = ']'.toUInt8 then c :: squeeze false rest
      else (if inside then lowerHex c else c) :: squeeze inside rest

theorem blank_nil : Blank [] := fun _ hc => nomatch hc

theorem squeeze_blank (blank : Blank ws) (inside : Bool) (rest : Bytes) :
    squeeze inside (ws ++ rest) = squeeze inside rest := by
  induction ws with
  | nil => rfl
  | cons c ws ih =>
      rw [List.cons_append, squeeze, if_pos (blank c List.mem_cons_self)]
      exact ih fun d hd => blank d (List.mem_cons_of_mem _ hd)

theorem squeeze_hexDigit {c n : UInt8} (h : (c, n) ∈ hexDigits) (rest : Bytes) :
    squeeze true (c :: rest) = lowerHex c :: squeeze true rest := by
  obtain ⟨hblank, hclose, hopen⟩ := hexDigits_plain h
  rw [squeeze, if_neg hblank, if_neg hopen, if_neg hclose, if_pos rfl]

theorem lowerHex_mem {c n : UInt8} (h : (c, n) ∈ hexDigits) : (lowerHex c, n) ∈ hexDigits := by
  have hall : hexDigits.all fun entry => (lowerHex entry.1, entry.2) ∈ hexDigits := by decide +kernel
  exact of_decide_eq_true (List.all_eq_true.mp hall (c, n) h)

theorem MessageBody.squeezed (h : MessageBody msg body) : ∃ body', MessageBody msg body' ∧
    ∀ rest, squeeze true (body ++ rest) = body' ++ squeeze false rest := by
  induction h with
  | @close ws blank =>
      have hclose : MessageBody [] ([] ++ [']'.toUInt8]) := .close blank_nil
      refine ⟨_, hclose, fun rest => ?_⟩
      rw [List.append_assoc, squeeze_blank blank]
      rfl
  | @byte ws c c' high low msg body blank first second more ih =>
      obtain ⟨body', more', heq⟩ := ih
      refine ⟨[] ++ lowerHex c :: lowerHex c' :: body', .byte blank_nil (lowerHex_mem first) (lowerHex_mem second) more',
        fun rest => ?_⟩
      rw [List.append_assoc, squeeze_blank blank, List.cons_append, List.cons_append, squeeze_hexDigit first,
        squeeze_hexDigit second, heq]
      rfl

theorem squeeze_digits {digits : Bytes} (decimal : ∀ c ∈ digits, isAsciiDigit c) (rest : Bytes) :
    squeeze false (digits ++ rest) = digits ++ squeeze false rest := by
  have hplain : ∀ c, isAsciiDigit c → ¬ isAsciiWhitespace c ∧ c ≠ '['.toUInt8 ∧ c ≠ ']'.toUInt8 :=
    forall_uint8 (by decide +kernel)
  induction digits with
  | nil => rfl
  | cons c digits ih =>
      obtain ⟨hblank, hopen, hclose⟩ := hplain c (decimal c List.mem_cons_self)
      rw [List.cons_append, squeeze, if_neg hblank, if_neg hopen, if_neg hclose, if_neg nofun,
        ih fun d hd => decimal d (List.mem_cons_of_mem _ hd), List.cons_append]

theorem Spells.squeezed (h : Spells command spelling) : ∃ spelling', Spells command spelling' ∧
    ∀ rest, squeeze false (spelling ++ rest) = spelling' ++ squeeze false rest := by
  cases h with
  | toneOff => exact ⟨_, .toneOff, fun _ => rfl⟩
  | toneOn => exact ⟨_, .toneOn, fun _ => rfl⟩
  | low => exact ⟨_, .low, fun _ => rfl⟩
  | high => exact ⟨_, .high, fun _ => rfl⟩
  | burstA => exact ⟨_, .burstA, fun _ => rfl⟩
  | burstB => exact ⟨_, .burstB, fun _ => rfl⟩
  | wait some decimal fits =>
      refine ⟨_, .wait some decimal fits, fun rest => ?_⟩
      rw [List.cons_append, List.cons_append, ← squeeze_digits decimal]
      rfl
  | message bytes least most =>
      obtain ⟨body', bytes', heq⟩ := bytes.squeezed
      refine ⟨_, .message bytes' least most, fun rest => ?_⟩
      rw [List.cons_append, List.cons_append, ← heq]
      rfl

theorem Commands.squeezed (h : Commands commands rest) : Commands commands (squeeze false rest) := by
  induction h with
  | nil => exact .nil
  | cons first blank more ih =>
      obtain ⟨spelling', first', heq⟩ := first.squeezed
      rw [heq, squeeze_blank blank]
      have hcons : Commands _ (spelling' ++ ([] ++ _)) := .cons first' blank_nil ih
      exact hcons

theorem Program.squeezed (h : Program commands text) : Program commands (squeeze false text) := by
  obtain ⟨ws, rest, rfl, blank, hcommands⟩ := h
  rw [squeeze_blank blank]
  exact ⟨[], _, rfl, blank_nil, hcommands.squeezed⟩

theorem program_unique (h : Program commands text) (h' : Program commands' text') (same : squeeze false text = squeeze false text') :
    commands = commands' := by
  have hparse : parse (fun _ => "") (squeeze false text) = .ok commands := parse_program h.squeezed
  rw [same, parse_program h'.squeezed] at hparse
  exact (Outcome.ok.inj hparse).symm

end Squeeze

section Render

def decimalDigits (n : Nat) : Bytes := (Nat.toDigits 10 n).map Char.toUInt8

def upperHex (n : UInt8) : UInt8 := if n < 10 then '0'.toUInt8 + n else 'A'.toUInt8 + (n - 10)

def hexByte (b : UInt8) : Bytes := [upperHex (b >>> 4), upperHex (b &&& 0x0F)]

def renderCommand : SecCommand → Bytes
  | .setTone .off => ['t'.toUInt8]
  | .setTone .on => ['T'.toUInt8]
  | .setVoltage .v13 => ['v'.toUInt8]
  | .setVoltage .v18 => ['V'.toUInt8]
  | .setVoltage .off => []
  | .sendBurst .a => ['A'.toUInt8]
  | .sendBurst .b => ['B'.toUInt8]
  | .wait duration => 'W'.toUInt8 :: decimalDigits (duration / 10 ^ 6)
  | .sendMasterCommand msg => '['.toUInt8 :: (msg.flatMap hexByte ++ [']'.toUInt8])

def render (commands : List SecCommand) : Bytes := commands.flatMap fun command => renderCommand command ++ [' '.toUInt8]

def Renderable : SecCommand → Prop
  | .setTone _ => True
  | .setVoltage voltage => voltage ≠ .off
  | .sendBurst _ => True
  | .wait duration => ∃ millis < 2 ^ 64, duration = Duration.fromMillis millis
  | .sendMasterCommand msg => 3 ≤ msg.length ∧ msg.length ≤ 6

theorem toNat_toUInt8 {c : Char} (h : c.isDigit) : c.toUInt8.toNat = c.toNat := by
  have hle : c.toNat ≤ '9'.toNat := (Char.isDigit_iff_toNat.mp h).2
  have hlt : c.toNat < 2 ^ 8 := Nat.lt_of_le_of_lt hle (by decide)
  exact (UInt32.toNat_toUInt8 c.val).trans (Nat.mod_eq_of_lt hlt)

theorem accumulate_map (chars : List Char) : ∀ value, (∀ c ∈ chars, c.isDigit) →
    accumulate value (chars.map Char.toUInt8) = Nat.ofDigitChars 10 chars value := by
  induction chars with
  | nil => exact fun _ _ => rfl
  | cons c chars ih =>
      intro value digits
      rw [List.map_cons, Nat.ofDigitChars_cons, ← ih _ fun d hd => digits d (List.mem_cons_of_mem _ hd), Nat.mul_comm,
        ← toNat_toUInt8 (digits c List.mem_cons_self)]
      rfl

theorem isDigit_toDigits {n : Nat} : ∀ c ∈ Nat.toDigits 10 n, c.isDigit := fun _ hc =>
  Nat.isDigit_of_mem_toDigits (by decide) (by decide) hc

theorem decimalValue_decimalDigits (n : Nat) : decimalValue (decimalDigits n) = n :=
  (accumulate_map _ 0 isDigit_toDigits).trans Nat.ofDigitChars_ten_toDigits

theorem decimalDigits_decimal (n : Nat) : ∀ c ∈ decimalDigits n, isAsciiDigit c := by
  intro c hc
  obtain ⟨d, hd, rfl⟩ := List.mem_map.mp hc
  obtain ⟨hlow, hhigh⟩ := Char.isDigit_iff_toNat.mp (isDigit_toDigits d hd)
  rw [← toNat_toUInt8 (isDigit_toDigits d hd)] at hlow hhigh
  rw [isAsciiDigit, Bool.and_eq_true, decide_eq_true_eq, decide_eq_true_eq]
  exact ⟨hlow, hhigh⟩

theorem messageBody_hex (msg : Bytes) : MessageBody msg (msg.flatMap hexByte ++ [']'.toUInt8]) := by
  have hfirst : ∀ b : UInt8, (upperHex (b >>> 4), b >>> 4) ∈ hexDigits := forall_uint8 (by decide +kernel)
  have hsecond : ∀ b : UInt8, (upperHex (b &&& 0x0F), b &&& 0x0F) ∈ hexDigits := forall_uint8 (by decide +kernel)
  have hbyte : ∀ b : UInt8, ((b >>> 4) <<< 4) ||| (b &&& 0x0F) = b := forall_uint8 (by decide +kernel)
  induction msg with
  | nil =>
      have hclose : MessageBody [] ([] ++ [']'.toUInt8]) := .close blank_nil
      exact hclose
  | cons b msg ih =>
      have hcons := MessageBody.byte blank_nil (hfirst b) (hsecond b) ih
      rw [hbyte] at hcons
      exact hcons

theorem spells_renderCommand (h : Renderable command) : Spells command (renderCommand command) := by
  cases command with
  | setTone tone =>
      cases tone with
      | on => exact .toneOn
      | off => exact .toneOff
  | setVoltage voltage =>
      cases voltage with
      | v13 => exact .low
      | v18 => exact .high
      | off => exact absurd rfl h
  | sendBurst burst =>
      cases burst with
      | a => exact .burstA
      | b => exact .burstB
  | sendMasterCommand msg => exact .message (messageBody_hex msg) h.1 h.2
  | wait duration =>
      obtain ⟨millis, hlt, rfl⟩ := h
      have hmillis : Duration.fromMillis millis / 10 ^ 6 = millis := Nat.mul_div_cancel _ (by decide)
      have hvalue := decimalValue_decimalDigits millis
      have hne : decimalDigits millis ≠ [] := fun hnil => Nat.toDigits_ne_nil (List.map_eq_nil_iff.mp hnil)
      have hspells := Spells.wait hne (decimalDigits_decimal millis) (by rw [hvalue]; exact hlt)
      rw [hvalue] at hspells
      rw [renderCommand, hmillis]
      exact hspells

theorem renderable_iff : Renderable command ↔ ∃ spelling, Spells command spelling := by
  refine ⟨fun h => ⟨_, spells_renderCommand h⟩, ?_⟩
  rintro ⟨spelling, h⟩
  cases h with
  | toneOff => trivial
  | toneOn => trivial
  | low => nofun
  | high => nofun
  | burstA => trivial
  | burstB => trivial
  | wait some decimal fits => exact ⟨_, fits, rfl⟩
  | message bytes least most => exact ⟨least, most⟩

theorem commands_render (h : ∀ command ∈ commands, Renderable command) : Commands commands (render commands) := by
  induction commands with
  | nil => exact .nil
  | cons command commands ih =>
      have hblank : Blank [' '.toUInt8] := fun c hc => by
        rw [List.mem_singleton.mp hc]
        decide
      have hmore := ih fun other hmem => h other (List.mem_cons_of_mem _ hmem)
      rw [render, List.flatMap_cons, List.append_assoc]
      exact .cons (spells_renderCommand (h command List.mem_cons_self)) hblank hmore

end Render

end SecParser

theorem parseSecSequence_grammar (debug : Bytes → String) :
    (∀ input, (parseSecSequence debug input).Sat (fun _ => True) Error.IsInvalidData) ∧
    (∀ input commands, parseSecSequence debug input = .ok commands ↔ SecParser.Program commands input) ∧
    (∀ input input' commands commands', parseSecSequence debug input = .ok commands →
      parseSecSequence debug input' = .ok commands' →
        SecParser.squeeze false input = SecParser.squeeze false input' → commands = commands') ∧
    ∀ commands, (∀ command ∈ commands, SecParser.Renderable command) →
      parseSecSequence debug (SecParser.render commands) = .ok commands := by
  refine ⟨fun input => ?_, fun _ _ => SecParser.parse_iff, fun _ _ _ _ hfirst hsecond same => ?_, fun commands h => ?_⟩
  · exact (SecParser.parse_sat input).mono (fun _ _ => trivial) fun _ he => he
  · exact SecParser.program_unique (SecParser.parse_iff.mp hfirst) (SecParser.parse_iff.mp hsecond) same
  · exact SecParser.parse_program ⟨[], _, rfl, SecParser.blank_nil, SecParser.commands_render h⟩

example : parseSecSequence (fun _ => "") (SecParser.render [.setTone .off, .wait (Duration.fromMillis 200),
    .sendMasterCommand [0xE0, 0x10, 0x38, 0xF3]]) =
      .ok [.setTone .off, .wait (Duration.fromMillis 200), .sendMasterCommand [0xE0, 0x10, 0x38, 0xF3]] := by
  decide +kernel

end LibDvb
