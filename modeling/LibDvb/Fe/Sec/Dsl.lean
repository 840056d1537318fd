import Mathlib.Data.List.TakeWhile
import LibDvb.Fe.Sec

namespace LibDvb

open Outcome

namespace SecParser

section Grammar

def Blank (ws : Bytes) : Prop := ∀ c ∈ ws, isAsciiWhitespace c

def decimalValue (digits : Bytes) : Nat := digits.foldl (fun v c => v * 10 + (c.toNat - '0'.toNat)) 0

def hexDigits : List (UInt8 × UInt8) :=
  [('0'.toUInt8, 0), ('1'.toUInt8, 1), ('2'.toUInt8, 2), ('3'.toUInt8, 3), ('4'.toUInt8, 4), ('5'.toUInt8, 5),
    ('6'.toUInt8, 6), ('7'.toUInt8, 7), ('8'.toUInt8, 8), ('9'.toUInt8, 9), ('a'.toUInt8, 10), ('b'.toUInt8, 11),
    ('c'.toUInt8, 12), ('d'.toUInt8, 13), ('e'.toUInt8, 14), ('f'.toUInt8, 15), ('A'.toUInt8, 10), ('B'.toUInt8, 11),
    ('C'.toUInt8, 12), ('D'.toUInt8, 13), ('E'.toUInt8, 14), ('F'.toUInt8, 15)]

-- `(ws* hex hex)* ws* ']'`, with the bytes that it spells.
inductive MessageBody : Bytes → Bytes → Prop
  | close {ws} (blank : Blank ws) : MessageBody [] (ws ++ [']'.toUInt8])
  | byte {ws c c' high low msg body} (blank : Blank ws) (first : (c, high) ∈ hexDigits) (second : (c', low) ∈ hexDigits)
      (more : MessageBody msg body) : MessageBody (((high <<< 4) ||| low) :: msg) (ws ++ c :: c' :: body)

inductive Spells : SecCommand → Bytes → Prop
  | toneOff : Spells (.setTone .off) ['t'.toUInt8]
  | toneOn : Spells (.setTone .on) ['T'.toUInt8]
  | low : Spells (.setVoltage .v13) ['v'.toUInt8]
  | high : Spells (.setVoltage .v18) ['V'.toUInt8]
  | burstA : Spells (.sendBurst .a) ['A'.toUInt8]
  | burstB : Spells (.sendBurst .b) ['B'.toUInt8]
  | wait {digits} (some : digits ≠ []) (decimal : ∀ c ∈ digits, isAsciiDigit c) (fits : decimalValue digits < 2 ^ 64) :
      Spells (.wait (Duration.fromMillis (decimalValue digits))) ('W'.toUInt8 :: digits)
  | message {msg body} (bytes : MessageBody msg body) (least : 3 ≤ msg.length) (most : msg.length ≤ 6) :
      Spells (.sendMasterCommand msg) ('['.toUInt8 :: body)

-- `(cmd ws*)*`.
inductive Commands : List SecCommand → Bytes → Prop
  | nil : Commands [] []
  | cons {command commands spelling ws rest} (first : Spells command spelling) (blank : Blank ws)
      (more : Commands commands rest) : Commands (command :: commands) (spelling ++ (ws ++ rest))

-- `ws* (cmd ws*)*`.
def Program (commands : List SecCommand) (text : Bytes) : Prop :=
  ∃ ws rest, text = ws ++ rest ∧ Blank ws ∧ Commands commands rest

end Grammar

section Scan

variable {bytes before data rest : Bytes} {debug : Bytes → String}

theorem index_length (before : Bytes) (c : UInt8) (rest : Bytes) :
    (index (before ++ c :: rest) before.length : Outcome Error UInt8) = .ok c := by
  rw [index, List.getElem?_append_right (Nat.le_refl _), Nat.sub_self]
  rfl

theorem length_lt_append (before : Bytes) (c : UInt8) (rest : Bytes) : before.length < (before ++ c :: rest).length := by
  rw [List.length_append, List.length_cons]
  omega

theorem takeWhile_append {p : UInt8 → Bool} {xs ys : Bytes} (hxs : ∀ c ∈ xs, p c) (hys : ∀ c ∈ ys.head?, ¬ p c) :
    (xs ++ ys).takeWhile p = xs := by
  rw [List.takeWhile_append_of_pos hxs]
  cases ys with
  | nil => simp
  | cons c ys => rw [List.takeWhile_cons_of_neg (hys c rfl), List.append_nil]

theorem skipLoop_eq (data : Bytes) : ∀ (fuel : Nat) (before : Bytes), data.length < fuel →
    skipLoop (before ++ data) fuel before.length =
      .ok (before ++ data.takeWhile isAsciiWhitespace).length := by
  induction data with
  | nil =>
      intro fuel before hfuel
      obtain ⟨fuel, rfl⟩ := Nat.exists_eq_succ_of_ne_zero (Nat.ne_zero_of_lt hfuel)
      rw [skipLoop, if_neg (by simp), List.takeWhile_nil, List.append_nil]
  | cons c data ih =>
      intro fuel before hfuel
      obtain ⟨fuel, rfl⟩ := Nat.exists_eq_succ_of_ne_zero (Nat.ne_zero_of_lt hfuel)
      rw [skipLoop, if_pos (length_lt_append _ _ _), index_length, ok_bind]
      by_cases hc : isAsciiWhitespace c
      · have hrest := ih fuel (before ++ [c]) (Nat.lt_of_succ_lt_succ hfuel)
        rw [List.append_assoc, List.append_assoc, @List.length_append _ before [c], List.singleton_append] at hrest
        rw [if_pos hc, List.takeWhile_cons_of_pos hc]
        exact hrest
      · rw [if_neg hc, List.takeWhile_cons_of_neg hc, List.append_nil]

theorem skipWhitespace_eq {ws : Bytes} (blank : Blank ws) (hrest : ∀ c ∈ rest.head?, ¬ isAsciiWhitespace c) :
    skipWhitespace (before ++ (ws ++ rest)) before.length = .ok (before ++ ws).length := by
  rw [skipWhitespace, skipLoop_eq _ _ _ (by simp only [List.length_append]; omega), takeWhile_append blank hrest]

theorem exists_blank (data : Bytes) : ∃ ws rest, data = ws ++ rest ∧ Blank ws ∧ ∀ c ∈ rest.head?, ¬ isAsciiWhitespace c := by
  refine ⟨data.takeWhile isAsciiWhitespace, data.dropWhile isAsciiWhitespace, List.takeWhile_append_dropWhile.symm,
    fun c hc => List.mem_takeWhile_imp hc, ?_⟩
  intro c hc
  cases hdrop : data.dropWhile isAsciiWhitespace with
  | nil =>
      rw [hdrop] at hc
      cases hc
  | cons d rest =>
      rw [hdrop] at hc
      cases hc
      have hhead := List.head_dropWhile_not (p := isAsciiWhitespace) (l := data) (by rw [hdrop]; nofun)
      simp only [hdrop, List.head_cons] at hhead
      rw [hhead]
      nofun

end Scan

section Wait

variable {debug : Bytes → String} {before data rest : Bytes}

def digitsOf (data : Bytes) : Bytes := data.takeWhile isAsciiDigit

def accumulate (value : Nat) (digits : Bytes) : Nat := digits.foldl (fun v c => v * 10 + (c.toNat - '0'.toNat)) value

theorem le_accumulate (digits : Bytes) : ∀ value, value ≤ accumulate value digits := by
  induction digits with
  | nil => exact fun value => Nat.le_refl value
  | cons c digits ih =>
      intro value
      calc value ≤ value * 10 + (c.toNat - '0'.toNat) := by omega
        _ ≤ accumulate value (c :: digits) := ih _

theorem checked_step (value digit : Nat) :
    ((checkedU64 (value * 10)).bind fun v => checkedU64 (v + digit)) = checkedU64 (value * 10 + digit) := by
  by_cases h : value * 10 < 2 ^ 64
  · rw [checkedU64, if_pos h]
    rfl
  · have hsum : ¬ value * 10 + digit < 2 ^ 64 := by omega
    rw [checkedU64, if_neg h, checkedU64, if_neg hsum]
    rfl

theorem isInvalidData_error (bytes : Bytes) (pos : Nat) (message : String) :
    (error debug bytes pos message).IsInvalidData := ⟨_, rfl⟩

theorem waitLoop_sat (data : Bytes) : ∀ (fuel : Nat) (before : Bytes) (value : Nat), data.length < fuel → value < 2 ^ 64 →
    (waitLoop debug (before ++ data) fuel value before.length).Sat
      (fun r => r = (accumulate value (digitsOf data), (before ++ digitsOf data).length) ∧ r.1 < 2 ^ 64)
      (fun e => e.IsInvalidData ∧ 2 ^ 64 ≤ accumulate value (digitsOf data)) := by
  induction data with
  | nil =>
      intro fuel before value hfuel hvalue
      obtain ⟨fuel, rfl⟩ := Nat.exists_eq_succ_of_ne_zero (Nat.ne_zero_of_lt hfuel)
      rw [waitLoop, if_neg (by simp), digitsOf, List.takeWhile_nil, List.append_nil, sat_ok]
      exact ⟨rfl, hvalue⟩
  | cons c data ih =>
      intro fuel before value hfuel hvalue
      obtain ⟨fuel, rfl⟩ := Nat.exists_eq_succ_of_ne_zero (Nat.ne_zero_of_lt hfuel)
      rw [waitLoop, if_pos (length_lt_append _ _ _), index_length, ok_bind]
      by_cases hc : isAsciiDigit c
      · rw [if_pos hc, digitsOf, List.takeWhile_cons_of_pos hc, checked_step]
        by_cases hnext : value * 10 + (c.toNat - '0'.toNat) < 2 ^ 64
        · have hrest := ih fuel (before ++ [c]) _ (Nat.lt_of_succ_lt_succ hfuel) hnext
          rw [List.append_assoc, List.append_assoc, @List.length_append _ before [c], List.singleton_append] at hrest
          rw [checkedU64, if_pos hnext]
          exact hrest
        · rw [checkedU64, if_neg hnext, sat_err]
          exact ⟨isInvalidData_error _ _ _, Nat.le_trans (Nat.le_of_not_lt hnext) (le_accumulate _ _)⟩
      · rw [if_neg hc, digitsOf, List.takeWhile_cons_of_neg hc, List.append_nil, sat_ok]
        exact ⟨rfl, hvalue⟩

theorem parseWait_sat (before data : Bytes) :
    (parseWait debug (before ++ data) before.length).Sat
      (fun r => r = (decimalValue (digitsOf data), (before ++ digitsOf data).length) ∧ digitsOf data ≠ [] ∧ r.1 < 2 ^ 64)
      (fun e => e.IsInvalidData ∧ (digitsOf data = [] ∨ 2 ^ 64 ≤ decimalValue (digitsOf data))) := by
  have hfuel : data.length < (before ++ data).length + 1 := by
    rw [List.length_append]
    omega
  rw [parseWait, sat_bind]
  refine (waitLoop_sat data _ before 0 hfuel (by decide)).mono ?_ fun e he => ⟨he.1, .inr he.2⟩
  rintro _ ⟨rfl, hfits⟩
  rw [List.length_append, sat_ite]
  refine ⟨fun hlast => ⟨isInvalidData_error _ _ _, .inl (List.length_eq_zero_iff.mp (by omega))⟩, fun hlast => ?_⟩
  refine ⟨rfl, fun hnil => hlast ?_, hfits⟩
  rw [hnil, List.length_nil, Nat.add_zero]

theorem parseWait_digits {digits : Bytes} (some : digits ≠ []) (decimal : ∀ c ∈ digits, isAsciiDigit c)
    (fits : decimalValue digits < 2 ^ 64) (hrest : ∀ c ∈ rest.head?, ¬ isAsciiDigit c) :
    parseWait debug (before ++ (digits ++ rest)) before.length = .ok (decimalValue digits, (before ++ digits).length) := by
  have hdigits : digitsOf (digits ++ rest) = digits := takeWhile_append decimal hrest
  have hsat := @parseWait_sat debug before (digits ++ rest)
  rw [hdigits] at hsat
  cases hparse : parseWait debug (before ++ (digits ++ rest)) before.length with
  | ok r =>
      rw [hparse] at hsat
      rw [hsat.1]
  | err e =>
      rw [hparse] at hsat
      rcases hsat.2 with hnil | hlarge
      · exact absurd hnil some
      · exact absurd fits (Nat.not_lt_of_le hlarge)
  | panic =>
      rw [hparse] at hsat
      exact hsat.elim

end Wait

section Message

variable {debug : Bytes → String} {before data rest msg body : Bytes}

theorem hexNibble_eq_some (c nibble : UInt8) : hexNibble c = some nibble ↔ (c, nibble) ∈ hexDigits := by
  constructor
  · have hsound : ∀ c, (hexNibble c).all fun nibble => (c, nibble) ∈ hexDigits := forall_uint8 (by decide +kernel)
    intro h
    have hc := hsound c
    rw [h] at hc
    exact of_decide_eq_true hc
  · have hcomplete : hexDigits.all fun entry => hexNibble entry.1 = some entry.2 := by decide +kernel
    exact fun h => of_decide_eq_true (List.all_eq_true.mp hcomplete (c, nibble) h)

theorem hexDigits_plain {entry : UInt8 × UInt8} (h : entry ∈ hexDigits) :
    ¬ isAsciiWhitespace entry.1 ∧ entry.1 ≠ ']'.toUInt8 ∧ entry.1 ≠ '['.toUInt8 := by
  have hall : hexDigits.all fun entry =>
      ¬ isAsciiWhitespace entry.1 ∧ entry.1 ≠ ']'.toUInt8 ∧ entry.1 ≠ '['.toUInt8 := by decide +kernel
  exact of_decide_eq_true (List.all_eq_true.mp hall entry h)

theorem parseHexNibble_digit {c nibble : UInt8} (h : (c, nibble) ∈ hexDigits) :
    parseHexNibble debug (before ++ c :: rest) before.length = .ok (nibble, (before ++ [c]).length) := by
  rw [parseHexNibble, if_neg (Nat.not_le_of_lt (length_lt_append _ _ _)), index_length, ok_bind,
    (hexNibble_eq_some c nibble).mpr h, List.length_append]
  rfl

theorem parseHexNibble_sat (before data : Bytes) :
    (parseHexNibble debug (before ++ data) before.length).Sat
      (fun r => ∃ c rest, data = c :: rest ∧ (c, r.1) ∈ hexDigits ∧ r.2 = (before ++ [c]).length) Error.IsInvalidData := by
  cases data with
  | nil =>
      rw [parseHexNibble, if_pos (by simp)]
      exact isInvalidData_error _ _ _
  | cons c rest =>
      rw [parseHexNibble, if_neg (Nat.not_le_of_lt (length_lt_append _ _ _)), index_length, ok_bind]
      cases hnibble : hexNibble c with
      | some nibble => exact ⟨c, rest, rfl, (hexNibble_eq_some c nibble).mp hnibble, by rw [List.length_append]; rfl⟩
      | none => exact isInvalidData_error _ _ _

theorem not_blank_bracket : ¬ isAsciiWhitespace ']'.toUInt8 := by decide

theorem MessageBody.ne_nil (h : MessageBody msg body) : body ≠ [] := by
  cases h with
  | close blank => simp
  | byte blank first second more => simp

theorem messageLoop_body (h : MessageBody msg body) : ∀ (fuel : Nat) (before done : Bytes), body.length < fuel →
    messageLoop debug (before ++ (body ++ rest)) fuel done before.length = .ok (done ++ msg, (before ++ body).length) := by
  induction h with
  | @close ws blank =>
      intro fuel before done hfuel
      obtain ⟨fuel, rfl⟩ := Nat.exists_eq_succ_of_ne_zero (Nat.ne_zero_of_lt hfuel)
      have hskip : skipWhitespace (before ++ (ws ++ ']'.toUInt8 :: rest)) before.length = .ok (before ++ ws).length :=
        skipWhitespace_eq blank fun c hc => by
          cases hc
          exact not_blank_bracket
      rw [messageLoop, List.append_assoc, List.singleton_append, hskip, ok_bind, ← List.append_assoc,
        if_neg (Nat.not_le_of_lt (length_lt_append _ _ _)), index_length, ok_bind, if_pos rfl, List.append_nil,
        ← List.append_assoc, @List.length_append _ (before ++ ws)]
      rfl
  | @byte ws c c' high low msg body blank first second more ih =>
      intro fuel before done hfuel
      obtain ⟨fuel, rfl⟩ := Nat.exists_eq_succ_of_ne_zero (Nat.ne_zero_of_lt hfuel)
      have hplain := hexDigits_plain first
      have hskip : skipWhitespace (before ++ (ws ++ c :: c' :: (body ++ rest))) before.length =
          .ok (before ++ ws).length :=
        skipWhitespace_eq blank fun d hd => by
          cases hd
          exact hplain.1
      have hshort : body.length < fuel := by
        simp only [List.length_append, List.length_cons] at hfuel
        omega
      have hindex := index_length (before ++ ws) c (c' :: (body ++ rest))
      have hlt := length_lt_append (before ++ ws) c (c' :: (body ++ rest))
      have hfirst := @parseHexNibble_digit debug (before ++ ws) (c' :: (body ++ rest)) _ _ first
      have hsecond := @parseHexNibble_digit debug (before ++ ws ++ [c]) (body ++ rest) _ _ second
      have hrest := ih fuel (before ++ ws ++ [c] ++ [c']) (done ++ [(high <<< 4) ||| low]) hshort
      simp only [List.append_assoc, List.cons_append, List.nil_append] at *
      rw [messageLoop, hskip, ok_bind, if_neg (Nat.not_le_of_lt hlt), hindex, ok_bind, if_neg hplain.2.1, hfirst, ok_bind]
      dsimp only
      rw [hsecond, ok_bind, hrest]

theorem messageLoop_sat : ∀ (fuel : Nat) (before data done : Bytes), data.length < fuel →
    (messageLoop debug (before ++ data) fuel done before.length).Sat
      (fun r => ∃ msg body rest, data = body ++ rest ∧ MessageBody msg body ∧ r = (done ++ msg, (before ++ body).length))
      Error.IsInvalidData := by
  intro fuel
  induction fuel with
  | zero => exact fun _ _ _ h => absurd h (Nat.not_lt_zero _)
  | succ fuel ih =>
      intro before data done hfuel
      obtain ⟨ws, rest, rfl, blank, hrest⟩ := exists_blank data
      rw [messageLoop, skipWhitespace_eq blank hrest, ok_bind, ← List.append_assoc]
      cases rest with
      | nil =>
          rw [if_pos (by simp)]
          exact isInvalidData_error _ _ _
      | cons c rest =>
          rw [if_neg (Nat.not_le_of_lt (length_lt_append _ _ _)), index_length, ok_bind]
          by_cases hclose : c = ']'.toUInt8
          · subst hclose
            rw [if_pos rfl, sat_ok]
            refine ⟨[], ws ++ [']'.toUInt8], rest, by simp, .close blank, ?_⟩
            rw [List.append_nil, ← List.append_assoc, @List.length_append _ (before ++ ws)]
            rfl
          · rw [if_neg hclose, sat_bind]
            refine (parseHexNibble_sat (before ++ ws) (c :: rest)).mono ?_ fun _ he => he
            rintro ⟨high, _⟩ ⟨c, rest, hcons, first, rfl⟩
            obtain ⟨rfl, rfl⟩ := List.cons.inj hcons
            dsimp only at first ⊢
            have hfrom : before ++ ws ++ c :: rest = before ++ ws ++ [c] ++ rest := by simp
            rw [hfrom, sat_bind]
            refine (parseHexNibble_sat (before ++ ws ++ [c]) rest).mono ?_ fun _ he => he
            rintro ⟨low, _⟩ ⟨c', rest, rfl, second, rfl⟩
            dsimp only at second ⊢
            have hshort : rest.length < fuel := by
              simp only [List.length_append, List.length_cons] at hfuel
              omega
            have hmore := ih (before ++ ws ++ [c] ++ [c']) rest (done ++ [(high <<< 4) ||| low]) hshort
            have hfrom : before ++ ws ++ [c] ++ c' :: rest = before ++ ws ++ [c] ++ [c'] ++ rest := by simp
            rw [hfrom]
            refine hmore.mono ?_ fun _ he => he
            rintro _ ⟨msg, body, tail, rfl, more, rfl⟩
            exact ⟨_, ws ++ c :: c' :: body, tail, by simp, .byte blank first second more, by simp⟩

end Message

section Command

variable {debug : Bytes → String} {before data rest spelling : Bytes} {command : SecCommand} {commands : List SecCommand}

theorem spells_letterCommand {c : UInt8} (h : letterCommand c = some command) : Spells command [c] := by
  unfold letterCommand at h
  split_ifs at h with ht hT hv hV hA hB
  all_goals
    obtain rfl := Option.some.inj h
    subst c
  · exact .toneOff
  · exact .toneOn
  · exact .low
  · exact .high
  · exact .burstA
  · exact .burstB

theorem parseCommand_letter {c : UInt8} (h : letterCommand c = some command) :
    parseCommand debug (before ++ c :: rest) before.length = .ok (command, (before ++ [c]).length) := by
  rw [parseCommand, index_length, ok_bind, h, List.length_append]
  rfl

theorem parseCommand_spells (h : Spells command spelling) (hrest : ∀ c ∈ rest.head?, ¬ isAsciiDigit c) :
    parseCommand debug (before ++ (spelling ++ rest)) before.length = .ok (command, (before ++ spelling).length) := by
  cases h with
  | toneOff => exact parseCommand_letter rfl
  | toneOn => exact parseCommand_letter rfl
  | low => exact parseCommand_letter rfl
  | high => exact parseCommand_letter rfl
  | burstA => exact parseCommand_letter rfl
  | burstB => exact parseCommand_letter rfl
  | @wait digits some decimal fits =>
      have hwait := @parseWait_digits debug (before ++ ['W'.toUInt8]) rest _ some decimal fits hrest
      rw [List.append_assoc, List.append_assoc, List.singleton_append, List.singleton_append,
        @List.length_append _ before ['W'.toUInt8], List.length_singleton] at hwait
      rw [List.cons_append, parseCommand, index_length, ok_bind, show letterCommand 'W'.toUInt8 = none from rfl]
      dsimp only
      rw [if_pos rfl, hwait]
      rfl
  | @message msg body bytes least most =>
      have hfuel : body.length < (before ++ '['.toUInt8 :: (body ++ rest)).length + 1 := by
        simp only [List.length_append, List.length_cons]
        omega
      have hloop := @messageLoop_body debug rest _ _ bytes _ (before ++ ['['.toUInt8]) [] hfuel
      rw [List.append_assoc, List.append_assoc, List.singleton_append, List.singleton_append,
        @List.length_append _ before ['['.toUInt8], List.length_singleton] at hloop
      rw [List.cons_append, parseCommand, index_length, ok_bind, show letterCommand '['.toUInt8 = none from rfl]
      dsimp only
      rw [if_neg (by decide), if_pos rfl, parseMasterCommand, hloop, ok_bind]
      dsimp only
      rw [List.nil_append, if_pos ⟨least, most⟩]

theorem parseCommand_sat (before : Bytes) (c : UInt8) (data : Bytes) :
    (parseCommand debug (before ++ c :: data) before.length).Sat
      (fun r => ∃ spelling rest, c :: data = spelling ++ rest ∧ Spells r.1 spelling ∧ r.2 = (before ++ spelling).length)
      Error.IsInvalidData := by
  have hnext : before.length + 1 = (before ++ [c]).length := by simp
  have hbytes : before ++ c :: data = before ++ [c] ++ data := by simp
  rw [parseCommand, index_length, ok_bind]
  cases hletter : letterCommand c with
  | some command => exact ⟨[c], data, rfl, spells_letterCommand hletter, hnext⟩
  | none =>
      dsimp only
      rw [sat_ite]
      refine ⟨fun hwait => ?_, fun _ => sat_ite.mpr ⟨fun hopen => ?_, fun _ => isInvalidData_error _ _ _⟩⟩
      · subst hwait
        rw [hnext, hbytes, sat_bind]
        refine (parseWait_sat (before ++ ['W'.toUInt8]) data).mono ?_ fun _ he => he.1
        rintro ⟨value, pos⟩ ⟨heq, some, fits⟩
        obtain ⟨rfl, rfl⟩ := Prod.mk.inj heq
        refine ⟨'W'.toUInt8 :: digitsOf data, data.dropWhile isAsciiDigit, ?_, ?_, by simp⟩
        · rw [List.cons_append, digitsOf, List.takeWhile_append_dropWhile]
        · exact .wait some (fun d hd => List.mem_takeWhile_imp hd) fits
      · subst hopen
        have hfuel : data.length < (before ++ ['['.toUInt8] ++ data).length + 1 := by
          simp only [List.length_append]
          omega
        rw [parseMasterCommand, hnext, hbytes, sat_bind]
        refine (messageLoop_sat _ (before ++ ['['.toUInt8]) data [] hfuel).mono ?_ fun _ he => he
        rintro _ ⟨msg, body, rest, rfl, bytes, rfl⟩
        dsimp only
        rw [List.nil_append, sat_ite]
        refine ⟨fun hlen => ⟨'['.toUInt8 :: body, rest, rfl, .message bytes hlen.1 hlen.2, by simp⟩, fun _ => ?_⟩
        exact isInvalidData_error _ _ _

theorem Spells.head (h : Spells command spelling) :
    ∃ c tail, spelling = c :: tail ∧ ¬ isAsciiWhitespace c ∧ ¬ isAsciiDigit c := by
  cases h <;> exact ⟨_, _, rfl, by decide, by decide⟩

theorem Commands.head (h : Commands commands rest) : ∀ c ∈ rest.head?, ¬ isAsciiWhitespace c ∧ ¬ isAsciiDigit c := by
  cases h with
  | nil => nofun
  | cons first blank more =>
      obtain ⟨c, tail, rfl, hblank, hdigit⟩ := first.head
      rintro _ ⟨⟩
      exact ⟨hblank, hdigit⟩

theorem not_digit_of_blank {c : UInt8} (h : isAsciiWhitespace c) : ¬ isAsciiDigit c := by
  have hall : ∀ c, isAsciiWhitespace c → ¬ isAsciiDigit c := forall_uint8 (by decide +kernel)
  exact hall c h

theorem Commands.head_blank {ws : Bytes} (blank : Blank ws) (h : Commands commands rest) :
    ∀ c ∈ (ws ++ rest).head?, ¬ isAsciiDigit c := by
  cases ws with
  | nil => exact fun c hc => (h.head c hc).2
  | cons d ws =>
      rintro _ ⟨⟩
      exact not_digit_of_blank (blank d List.mem_cons_self)

theorem parseLoop_commands (h : Commands commands rest) : ∀ (fuel : Nat) (before ws : Bytes) (done : List SecCommand),
    Blank ws → rest.length < fuel → parseLoop debug (before ++ (ws ++ rest)) fuel done before.length = .ok (done ++ commands) := by
  induction h with
  | nil =>
      intro fuel before ws done blank hfuel
      obtain ⟨fuel, rfl⟩ := Nat.exists_eq_succ_of_ne_zero (Nat.ne_zero_of_lt hfuel)
      have hskip : skipWhitespace (before ++ (ws ++ [])) before.length = .ok (before ++ ws).length :=
        skipWhitespace_eq blank fun c hc => by cases hc
      rw [parseLoop, hskip, ok_bind, List.append_nil, if_neg (Nat.lt_irrefl _), List.append_nil]
  | @cons command commands spelling ws' rest first blank' more ih =>
      intro fuel before ws done blank hfuel
      obtain ⟨fuel, rfl⟩ := Nat.exists_eq_succ_of_ne_zero (Nat.ne_zero_of_lt hfuel)
      have hhead := (Commands.cons first blank' more).head
      have hcommand := @parseCommand_spells debug (before ++ ws) _ _ _ first (more.head_blank blank')
      have hne : spelling ≠ [] := by
        obtain ⟨c, tail, rfl, _⟩ := first.head
        nofun
      have hpos : 0 < spelling.length := List.length_pos_iff.mpr hne
      have hshort : rest.length < fuel := by
        simp only [List.length_append] at hfuel
        omega
      have hmore := ih fuel (before ++ ws ++ spelling) ws' (done ++ [command]) blank' hshort
      have hlt : (before ++ ws).length < (before ++ (ws ++ (spelling ++ (ws' ++ rest)))).length := by
        simp only [List.length_append]
        omega
      rw [parseLoop, skipWhitespace_eq blank fun c hc => (hhead c hc).1, ok_bind, if_pos hlt]
      simp only [List.append_assoc] at *
      rw [hcommand, ok_bind]
      dsimp only
      rw [hmore, List.singleton_append]

theorem parseLoop_sat : ∀ (fuel : Nat) (before data : Bytes) (done : List SecCommand), data.length < fuel →
    (parseLoop debug (before ++ data) fuel done before.length).Sat
      (fun r => ∃ commands, Program commands data ∧ r = done ++ commands) Error.IsInvalidData := by
  intro fuel
  induction fuel with
  | zero => exact fun _ _ _ h => absurd h (Nat.not_lt_zero _)
  | succ fuel ih =>
      intro before data done hfuel
      obtain ⟨ws, rest, rfl, blank, hrest⟩ := exists_blank data
      rw [parseLoop, skipWhitespace_eq blank hrest, ok_bind, ← List.append_assoc]
      cases rest with
      | nil =>
          rw [if_neg (by simp), sat_ok]
          exact ⟨[], ⟨ws, [], rfl, blank, .nil⟩, (List.append_nil _).symm⟩
      | cons c rest =>
          rw [if_pos (length_lt_append _ _ _), sat_bind]
          refine (parseCommand_sat (before ++ ws) c rest).mono ?_ fun _ he => he
          rintro ⟨command, _⟩ ⟨spelling, tail, hsplit, first, rfl⟩
          dsimp only at first ⊢
          have hne : spelling ≠ [] := by
            obtain ⟨c, tail, rfl, _⟩ := first.head
            nofun
          have hpos : 0 < spelling.length := List.length_pos_iff.mpr hne
          rw [hsplit] at hfuel ⊢
          have hshort : tail.length < fuel := by
            simp only [List.length_append] at hfuel
            omega
          rw [← List.append_assoc]
          refine (ih (before ++ ws ++ spelling) tail (done ++ [command]) hshort).mono ?_ fun _ he => he
          rintro _ ⟨commands, ⟨ws', rest', rfl, blank', more⟩, rfl⟩
          exact ⟨command :: commands, ⟨ws, _, rfl, blank, .cons first blank' more⟩, by simp⟩

theorem parse_sat (text : Bytes) : (parse debug text).Sat (fun commands => Program commands text) Error.IsInvalidData := by
  rw [parse]
  refine (parseLoop_sat (text.length + 1) [] text [] (Nat.lt_succ_self _)).mono ?_ fun _ he => he
  rintro _ ⟨commands, program, rfl⟩
  exact program

theorem parse_program {text : Bytes} (h : Program commands text) : parse debug text = .ok commands := by
  obtain ⟨ws, rest, rfl, blank, hcommands⟩ := h
  have hfuel : rest.length < (ws ++ rest).length + 1 := by
    rw [List.length_append]
    omega
  exact parseLoop_commands hcommands _ [] ws [] blank hfuel

theorem parse_iff {text : Bytes} : parse debug text = .ok commands ↔ Program commands text := by
  refine ⟨fun h => ?_, parse_program⟩
  have hsat := @parse_sat debug text
  rw [h] at hsat
  exact hsat

end Command

end SecParser

end LibDvb
