import Mathlib.Data.List.Infix
import LibDvb.Ca.Apdu.Iteration
import LibDvb.Ca.Resource.Mmi

namespace LibDvb

open Outcome Coding

-- The codings of a text: a chain of TEXT_MORE objects closed by TEXT_LAST.
inductive TextCodes : Bytes → Bytes → Prop
  | last {text coding} (object : Apdu.Encodes ⟨.textLast, text⟩ coding) : TextCodes text coding
  | more {part text coding coding'} (object : Apdu.Encodes ⟨.textMore, part⟩ coding) (chain : TextCodes text coding') :
      TextCodes (part ++ text) (coding ++ coding')

theorem TextCodes.ne_nil {text coding : Bytes} (h : TextCodes text coding) : coding ≠ [] := by
  cases h with
  | last object => exact object.ne_nil
  | more object chain => exact List.append_ne_nil_of_left_ne_nil object.ne_nil _

def MmiMenu.ofTexts (texts : List Bytes) : MmiMenu where
  title := texts[0]?.getD []
  subTitle := texts[1]?.getD []
  bottom := texts[2]?.getD []
  items := texts.drop 3

structure MmiMenu.CutOff (menu cut : MmiMenu) : Prop where
  title : cut.title = [] ∨ cut.title = menu.title
  subTitle : cut.subTitle = [] ∨ cut.subTitle = menu.subTitle
  bottom : cut.bottom = [] ∨ cut.bottom = menu.bottom
  items : cut.items <+: menu.items

theorem cutOff_ofTexts {texts texts' : List Bytes} (h : texts <+: texts') :
    (MmiMenu.ofTexts texts').CutOff (MmiMenu.ofTexts texts) := by
  have hfield (i : Nat) : texts[i]?.getD [] = [] ∨ texts[i]?.getD [] = texts'[i]?.getD [] := by
    cases hget : texts[i]? with
    | none => exact .inl rfl
    | some text =>
        obtain ⟨more, rfl⟩ := h
        rw [List.getElem?_append_left (List.getElem?_eq_some_iff.mp hget).1, hget]
        exact .inr rfl
  exact ⟨hfield 0, hfield 1, hfield 2, h.drop 3⟩

namespace MmiResource

variable {text coding data before rest value : Bytes} {codings : List (Bytes × Bytes)}

section Text

theorem sliceFrom_append (before data : Bytes) :
    (sliceFrom (before ++ data) before.length : Outcome Error Bytes) = .ok data := by
  rw [sliceFrom, if_pos (by simp), List.drop_left]

theorem parseTextLoop_codes (h : TextCodes value coding) : ∀ (fuel : Nat) (before text : Bytes),
    coding.length < fuel → parseTextLoop (before ++ (coding ++ rest)) fuel text before.length =
      .ok (some (text ++ value, before.length + coding.length)) := by
  induction h with
  | @last value coding object =>
      intro fuel before text hfuel
      obtain ⟨fuel, rfl⟩ := Nat.exists_eq_succ_of_ne_zero (Nat.ne_zero_of_lt hfuel)
      rw [parseTextLoop, sliceFrom_append, ok_bind, object.parseAt rest]
      rfl
  | @more part value coding coding' object chain ih =>
      intro fuel before text hfuel
      obtain ⟨fuel, rfl⟩ := Nat.exists_eq_succ_of_ne_zero (Nat.ne_zero_of_lt hfuel)
      have hpos := object.length
      have hshort : coding'.length < fuel := by
        rw [List.length_append] at hfuel
        omega
      have hchain := ih fuel (before ++ coding) (text ++ part) hshort
      rw [List.append_assoc, List.length_append, ← List.append_assoc coding] at hchain
      rw [parseTextLoop, sliceFrom_append, ok_bind, List.append_assoc, object.parseAt (coding' ++ rest)]
      simp only [attempt, ok_bind]
      rw [if_neg (by decide), if_pos trivial, ← List.append_assoc coding, hchain, List.append_assoc, List.length_append,
        Nat.add_assoc]

theorem codes_of_parseTextLoop : ∀ (fuel : Nat) (before data text value : Bytes) (size : Nat),
    parseTextLoop (before ++ data) fuel text before.length = .ok (some (value, size)) →
      ∃ coding rest tail, data = coding ++ rest ∧ TextCodes tail coding ∧ value = text ++ tail ∧
        size = before.length + coding.length := by
  intro fuel
  induction fuel with
  | zero => exact fun _ _ _ _ _ h => nomatch h
  | succ fuel ih =>
      intro before data text value size h
      rw [parseTextLoop, sliceFrom_append, ok_bind] at h
      cases hparse : Apdu.parseAt data with
      | panic =>
          rw [hparse] at h
          cases h
      | err e =>
          rw [hparse] at h
          cases h
      | ok found =>
          obtain ⟨⟨tag, body⟩, consumed⟩ := found
          obtain ⟨coding, rest, rfl, object, rfl⟩ := Apdu.encodes_of_parseAt hparse
          rw [hparse] at h
          simp only [attempt, ok_bind] at h
          split at h
          · next htag =>
              subst htag
              cases h
              exact ⟨coding, rest, body, rfl, .last object, rfl, rfl⟩
          · split at h
            · next htag =>
                subst htag
                rw [← List.append_assoc, ← List.length_append] at h
                obtain ⟨coding', rest', tail, rfl, chain, rfl, rfl⟩ := ih _ _ _ _ _ h
                refine ⟨coding ++ coding', rest', body ++ tail, ?_, .more object chain, ?_, ?_⟩
                · rw [List.append_assoc]
                · rw [List.append_assoc]
                · rw [List.length_append, List.length_append, Nat.add_assoc]
            · cases h

theorem parseText_codes (h : TextCodes value coding) (rest : Bytes) :
    parseText (coding ++ rest) = .ok (some (value, coding.length)) := by
  have hloop := @parseTextLoop_codes _ rest _ h ((coding ++ rest).length + 1) [] []
    (by rw [List.length_append]; omega)
  rwa [List.nil_append, List.nil_append, List.length_nil, Nat.zero_add] at hloop

theorem parseText_stops (h : ¬ Starts TextCodes data) : parseText data = .ok none := by
  cases hparse : parseText data with
  | panic => exact absurd hparse (parseText_sat data).ne_panic
  | err e =>
      have hsat := parseText_sat data
      rw [hparse] at hsat
      exact hsat.elim
  | ok found =>
      cases found with
      | none => rfl
      | some entry =>
          obtain ⟨coding, rest, tail, hdata, hcodes, _⟩ := codes_of_parseTextLoop _ [] data [] _ _ hparse
          exact absurd ⟨tail, coding, rest, hdata, hcodes⟩ h

theorem determined_text : Determined TextCodes := by
  intro value value' coding coding' rest rest' h h' heq
  have hparse := parseText_codes h rest
  rw [heq, parseText_codes h' rest'] at hparse
  simp only [Outcome.ok.injEq, Option.some.injEq, Prod.mk.injEq] at hparse
  exact ⟨hparse.1.symm, List.append_inj_left heq hparse.2.symm⟩

end Text

section Menu

theorem parseHeader_codings (hall : ∀ coded ∈ codings, TextCodes coded.1 coded.2) : ∀ (count : Nat) (before : Bytes),
    codings.length ≤ count → (codings.length < count → ¬ Starts TextCodes rest) →
      parseHeader (before ++ (joined codings ++ rest)) count before.length =
        .ok (codings.map Prod.fst, before.length + (joined codings).length, decide (codings.length = count)) := by
  induction codings with
  | nil =>
      intro count before hle hstop
      cases count with
      | zero => rfl
      | succ count =>
          have hnone := parseText_stops (hstop (Nat.succ_pos count))
          rw [parseHeader, sliceFrom_append, ok_bind]
          simp only [joined, List.flatMap_nil, List.nil_append, hnone, ok_bind]
          rfl
  | cons coded codings ih =>
      intro count before hle hstop
      obtain ⟨count, rfl⟩ := Nat.exists_eq_succ_of_ne_zero (Nat.ne_zero_of_lt (Nat.lt_of_lt_of_le (Nat.succ_pos _) hle))
      have hrest := ih (fun other hmem => hall other (List.mem_cons_of_mem _ hmem)) count (before ++ coded.2)
        (Nat.le_of_succ_le_succ hle) fun hlt => hstop (Nat.succ_lt_succ hlt)
      rw [List.append_assoc, List.length_append] at hrest
      rw [parseHeader, sliceFrom_append, ok_bind, joined_cons, parseText_codes (hall coded List.mem_cons_self)]
      simp only [ok_bind]
      rw [hrest]
      have hlength : (joined (coded :: codings)).length = coded.2.length + (joined codings).length := by
        rw [joined, List.flatMap_cons, List.length_append]
        rfl
      simp [hlength, Nat.add_assoc]

theorem parseItems_codings (hall : ∀ coded ∈ codings, TextCodes coded.1 coded.2) (hstop : ¬ Starts TextCodes rest) :
    ∀ (fuel : Nat) (before : Bytes), codings.length < fuel →
      parseItems (before ++ (joined codings ++ rest)) fuel before.length = .ok (codings.map Prod.fst) := by
  induction codings with
  | nil =>
      intro fuel before hfuel
      obtain ⟨fuel, rfl⟩ := Nat.exists_eq_succ_of_ne_zero (Nat.ne_zero_of_lt hfuel)
      rw [parseItems, sliceFrom_append, ok_bind]
      simp only [joined, List.flatMap_nil, List.nil_append, parseText_stops hstop, ok_bind]
      rfl
  | cons coded codings ih =>
      intro fuel before hfuel
      obtain ⟨fuel, rfl⟩ := Nat.exists_eq_succ_of_ne_zero (Nat.ne_zero_of_lt hfuel)
      have hrest := ih (fun other hmem => hall other (List.mem_cons_of_mem _ hmem)) fuel (before ++ coded.2)
        (Nat.lt_of_succ_lt_succ hfuel)
      rw [List.append_assoc, List.length_append] at hrest
      rw [parseItems, sliceFrom_append, ok_bind, joined_cons, parseText_codes (hall coded List.mem_cons_self)]
      simp only [ok_bind]
      rw [hrest]
      rfl

theorem parseMenu_texts (h : Cut TextCodes data codings rest) (first : UInt8) :
    parseMenu (first :: data) = .ok (MmiMenu.ofTexts (codings.map Prod.fst)) := by
  obtain ⟨rfl, hall, hstop⟩ := h
  rw [parseMenu, if_neg (List.cons_ne_nil _ _)]
  by_cases hshort : codings.length < 3
  · have hheader := parseHeader_codings hall 3 [first] (Nat.le_of_lt hshort) fun _ => hstop
    rw [List.singleton_append, List.length_singleton] at hheader
    have hdrop : (codings.map Prod.fst).drop 3 = [] :=
      List.drop_eq_nil_of_le (by rw [List.length_map]; exact Nat.le_of_lt hshort)
    rw [hheader, ok_bind, decide_eq_false (Nat.ne_of_lt hshort)]
    simp only [Bool.false_eq_true, if_false]
    rw [MmiMenu.ofTexts, hdrop]
  · rw [Nat.not_lt] at hshort
    have hsplit : joined codings = joined (codings.take 3) ++ joined (codings.drop 3) := by
      rw [joined, joined, joined, ← List.flatMap_append, List.take_append_drop]
    have hcount : (codings.take 3).length = 3 := List.length_take_of_le hshort
    have hheader := @parseHeader_codings (joined (codings.drop 3) ++ rest) (codings.take 3)
      (fun coded hmem => hall coded (List.mem_of_mem_take hmem)) 3 [first] (Nat.le_of_eq hcount)
      fun hlt => absurd hcount (Nat.ne_of_lt hlt)
    have hitems := @parseItems_codings rest (codings.drop 3) (fun coded hmem => hall coded (List.mem_of_mem_drop hmem))
      hstop ((first :: (joined codings ++ rest)).length + 1) (first :: joined (codings.take 3)) ?_
    · rw [List.singleton_append, List.length_singleton, ← List.append_assoc, ← hsplit, hcount] at hheader
      have hstart : (first :: joined (codings.take 3)).length = 1 + (joined (codings.take 3)).length := Nat.add_comm _ 1
      rw [List.cons_append, ← List.append_assoc, ← hsplit, hstart] at hitems
      rw [hheader, ok_bind]
      simp only [decide_true, if_true]
      rw [hitems, ok_bind, MmiMenu.ofTexts, List.map_drop, List.map_take]
      simp only [List.getElem?_take_of_lt (show 0 < 3 by decide), List.getElem?_take_of_lt (show 1 < 3 by decide),
        List.getElem?_take_of_lt (show 2 < 3 by decide)]
    · have hle := length_joined (R := TextCodes) (fun _ _ => TextCodes.ne_nil) hall
      simp only [List.length_drop, List.length_cons, List.length_append]
      omega

theorem parseMenu_cutOff {body front : Bytes} (h : front <+: body) :
    ∃ menu cut, parseMenu body = .ok menu ∧ parseMenu front = .ok cut ∧ menu.CutOff cut := by
  have hcut (data : Bytes) := exists_cut (R := TextCodes) (fun _ _ => TextCodes.ne_nil) data
  cases front with
  | nil =>
      obtain ⟨menu, hmenu⟩ : ∃ menu, parseMenu body = .ok menu := by
        cases body with
        | nil => exact ⟨{}, rfl⟩
        | cons first data =>
            obtain ⟨codings, rest, hdata⟩ := hcut data
            exact ⟨_, parseMenu_texts hdata first⟩
      exact ⟨menu, {}, hmenu, rfl, .inl rfl, .inl rfl, .inl rfl, List.nil_prefix⟩
  | cons first front =>
      obtain ⟨more, rfl⟩ := h
      obtain ⟨codings, rest, hfront⟩ := hcut front
      obtain ⟨codings', rest', hdata⟩ := hcut (front ++ more)
      have hcut := hfront.extended determined_text (List.prefix_append front more) hdata
      exact ⟨_, _, parseMenu_texts hdata first, parseMenu_texts hfront first, cutOff_ofTexts (hcut.map Prod.fst)⟩

theorem parseMenu_codes :
    (∀ (menu : MmiMenu) (first : UInt8) (codings : List (Bytes × Bytes)) (rest : Bytes),
      codings.map Prod.fst = [menu.title, menu.subTitle, menu.bottom] ++ menu.items →
      (∀ coded ∈ codings, TextCodes coded.1 coded.2) → ¬ Starts TextCodes rest →
        parseMenu (first :: (joined codings ++ rest)) = .ok menu) ∧
    ∀ body front : Bytes, front <+: body →
      ∃ menu cut, parseMenu body = .ok menu ∧ parseMenu front = .ok cut ∧ menu.CutOff cut := by
  constructor
  · intro menu first codings rest htexts hall hstop
    rw [parseMenu_texts ⟨rfl, hall, hstop⟩ first, htexts]
    rfl
  · exact fun _ _ => parseMenu_cutOff

end Menu

end MmiResource

end LibDvb
