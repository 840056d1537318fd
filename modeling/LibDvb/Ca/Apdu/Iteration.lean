import LibDvb.Basis.Coding
import LibDvb.Ca.Apdu

namespace LibDvb.Apdu

open Outcome Coding

def tagOf (a b c : UInt8) : ApduTag := ⟨(a.toUInt32 <<< 16) ||| (b.toUInt32 <<< 8) ||| c.toUInt32⟩

-- The codings of an APDU: its length may come in any of the three forms.
inductive Encodes : Item → Bytes → Prop
  | coded (a b c : UInt8) {n : UInt16} {field body : Bytes} (codes : Asn1.Codes n field)
      (length : body.length = n.toNat) : Encodes ⟨tagOf a b c, body⟩ (a :: b :: c :: (field ++ body))

def calls : Nat → Bytes → Outcome Error (List (Option (Except Error Item)))
  | 0, _ => .ok []
  | count + 1, data => do
      match ← next data with
      | none => do
          .ok (none :: (← calls count data))
      | some (item, rest) => do
          .ok (some item :: (← calls count rest))

variable {item : Item} {coding data rest : Bytes}

section Coding

theorem Encodes.length (h : Encodes item coding) : 4 ≤ coding.length := by
  cases h with
  | coded a b c codes length =>
      have hfield : 1 ≤ _ := (codes.length_pos)
      simp only [List.length_cons, List.length_append]
      omega

theorem Encodes.ne_nil (h : Encodes item coding) : coding ≠ [] :=
  List.ne_nil_of_length_pos (Nat.lt_of_lt_of_le (by decide) h.length)

theorem parseAt_cons (a b c : UInt8) (tail : Bytes) : parseAt (a :: b :: c :: tail) =
    Asn1.decode tail >>= fun (n, consumed) =>
      if 3 + consumed + n.toNat ≤ tail.length + 3 then
        .ok (⟨tagOf a b c, ((a :: b :: c :: tail).take (3 + consumed + n.toNat)).drop (3 + consumed)⟩,
          3 + consumed + n.toNat)
      else
        .err (.invalidData s!"ca apdu {(tagOf a b c).debug} body is truncated") := by
  have hlong : ¬ (a :: b :: c :: tail).length < apduTagSize := by
    simp [apduTagSize]
  rw [parseAt, if_neg hlong]
  rfl

theorem Encodes.parseAt (h : Encodes item coding) (rest : Bytes) :
    parseAt (coding ++ rest) = .ok (item, coding.length) := by
  cases h with
  | @coded a b c n field body codes length =>
      have hend : 3 + field.length + n.toNat ≤ (field ++ (body ++ rest)).length + 3 := by
        simp only [List.length_append, length]
        omega
      have hmiddle := drop_take_middle (a :: b :: c :: field) body rest
      simp only [List.cons_append, List.length_cons, length] at hmiddle
      have hsize : 3 + field.length = field.length + 1 + 1 + 1 := by omega
      simp only [List.cons_append, List.append_assoc]
      rw [parseAt_cons, codes.decode (body ++ rest)]
      simp only [ok_bind, if_pos hend]
      rw [hsize, hmiddle]
      simp only [List.length_cons, List.length_append, length, Outcome.ok.injEq, Prod.mk.injEq, true_and]
      omega

theorem encodes_of_parseAt {size : Nat} (h : Apdu.parseAt data = .ok (item, size)) :
    ∃ coding rest, data = coding ++ rest ∧ Encodes item coding ∧ size = coding.length := by
  rcases data with _ | ⟨a, _ | ⟨b, _ | ⟨c, tail⟩⟩⟩
  · cases h
  · cases h
  · cases h
  · rw [parseAt_cons] at h
    cases hdecode : Asn1.decode tail with
    | panic =>
        rw [hdecode] at h
        cases h
    | err e =>
        rw [hdecode] at h
        cases h
    | ok found =>
        obtain ⟨n, consumed⟩ := found
        obtain ⟨field, behind, rfl, codes, rfl⟩ := Asn1.codes_of_decode hdecode
        rw [hdecode] at h
        simp only [ok_bind] at h
        split at h
        · next hend =>
            simp only [Outcome.ok.injEq, Prod.mk.injEq] at h
            obtain ⟨rfl, rfl⟩ := h
            have hle : n.toNat ≤ behind.length := by
              simp only [List.length_append] at hend
              omega
            have hbody : (behind.take n.toNat).length = n.toNat := List.length_take_of_le hle
            have hmiddle := drop_take_middle (a :: b :: c :: field) (behind.take n.toNat) (behind.drop n.toNat)
            simp only [List.cons_append, List.length_cons, List.take_append_drop, hbody] at hmiddle
            have hstart : field.length + 1 + 1 + 1 = 3 + field.length := by omega
            rw [hstart] at hmiddle
            rw [hmiddle]
            refine ⟨a :: b :: c :: (field ++ behind.take n.toNat), behind.drop n.toNat, ?_, .coded a b c codes hbody, ?_⟩
            · simp
            · simp only [List.length_cons, List.length_append, hbody]
              omega
        · cases h

theorem starts_iff : Starts Encodes data ↔ ∃ item size, Apdu.parseAt data = .ok (item, size) := by
  constructor
  · rintro ⟨item, coding, rest, rfl, h⟩
    exact ⟨item, _, h.parseAt rest⟩
  · rintro ⟨item, size, h⟩
    obtain ⟨coding, rest, hdata, hcoding, _⟩ := encodes_of_parseAt h
    exact ⟨item, coding, rest, hdata, hcoding⟩

theorem Encodes.next (h : Encodes item coding) (rest : Bytes) :
    next (coding ++ rest) = .ok (some (.ok item, rest)) := by
  have hne : coding ++ rest ≠ [] := by
    intro hnil
    exact h.ne_nil (List.append_eq_nil_iff.mp hnil).1
  have hle : coding.length ≤ (coding ++ rest).length := by simp
  rw [Apdu.next, if_neg hne, h.parseAt rest]
  simp only [attempt, ok_bind, sliceFrom, if_pos hle, List.drop_left]

theorem next_damaged (hne : data ≠ []) (h : ¬ Starts Encodes data) : ∃ e, next data = .ok (some (.error e, [])) := by
  rw [next, if_neg hne]
  cases hparse : Apdu.parseAt data with
  | ok found => exact absurd (starts_iff.mpr ⟨found.1, found.2, hparse⟩) h
  | err e => exact ⟨e, rfl⟩
  | panic => exact absurd hparse (parseAt_sat data).ne_panic

end Coding

section Calls

theorem calls_nil (count : Nat) : calls count [] = .ok (List.replicate count none) := by
  induction count with
  | zero => rfl
  | succ count ih =>
      rw [calls, next, if_pos rfl, ok_bind]
      dsimp only
      rw [ih]
      rfl

theorem calls_encodes (h : Encodes item coding) (rest : Bytes) (count : Nat) :
    calls (count + 1) (coding ++ rest) = calls count rest >>= fun later => .ok (some (.ok item) :: later) := by
  rw [calls, h.next rest]
  rfl

theorem parseAll_encodes (h : Encodes item coding) (rest : Bytes) (fuel : Nat) :
    parseAll (fuel + 1) (coding ++ rest) = parseAll fuel rest >>= fun later => .ok (.ok item :: later) := by
  rw [parseAll, h.next rest]
  rfl

def Gives (data : Bytes) (items : List (Except Error Item)) : Prop :=
  (∀ fuel, items.length < fuel → parseAll fuel data = .ok items) ∧
    ∀ count, calls count data = .ok ((items.map some ++ List.replicate count none).take count)

theorem gives_nil : Gives [] [] := by
  constructor
  · intro fuel hfuel
    obtain ⟨fuel, rfl⟩ := Nat.exists_eq_succ_of_ne_zero (Nat.pos_iff_ne_zero.mp hfuel)
    rfl
  · intro count
    rw [calls_nil, List.map_nil, List.nil_append, List.take_replicate, Nat.min_self]

theorem gives_damaged (hne : data ≠ []) (h : ¬ Starts Encodes data) : ∃ e, Gives data [.error e] := by
  obtain ⟨e, hnext⟩ := next_damaged hne h
  refine ⟨e, fun fuel hfuel => ?_, fun count => ?_⟩
  · obtain ⟨fuel, rfl⟩ : ∃ more, fuel = more + 2 := ⟨fuel - 2, by simp at hfuel; omega⟩
    rw [parseAll, hnext]
    rfl
  · cases count with
    | zero => rfl
    | succ count =>
        rw [calls, hnext]
        simp only [ok_bind, calls_nil, List.map_cons, List.map_nil, List.cons_append, List.nil_append,
          List.take_succ_cons, List.take_replicate, Nat.min_eq_left (Nat.le_succ count)]

theorem Gives.cons {items : List (Except Error Item)} (h : Encodes item coding) (hrest : Gives rest items) :
    Gives (coding ++ rest) (.ok item :: items) := by
  constructor
  · intro fuel hfuel
    obtain ⟨fuel, rfl⟩ := Nat.exists_eq_succ_of_ne_zero (Nat.pos_iff_ne_zero.mp (Nat.zero_lt_of_lt hfuel))
    rw [parseAll_encodes h, hrest.1 fuel (Nat.lt_of_succ_lt_succ hfuel), ok_bind]
  · intro count
    cases count with
    | zero => rfl
    | succ count =>
        rw [calls_encodes h, hrest.2 count, ok_bind, List.map_cons, List.cons_append, List.take_succ_cons]
        congr 2
        rw [List.take_append, List.take_append, List.take_replicate, List.take_replicate]
        congr 2
        omega

end Calls

section Iteration

variable {codings : List (Item × Bytes)}

theorem gives_joined {items : List (Except Error Item)} (hall : ∀ coded ∈ codings, Encodes coded.1 coded.2)
    (hrest : Gives rest items) : Gives (joined codings ++ rest) (codings.map (fun coded => .ok coded.1) ++ items) := by
  induction codings with
  | nil => exact hrest
  | cons coded codings ih =>
      rw [joined_cons]
      exact (ih fun other hmem => hall other (List.mem_cons_of_mem _ hmem)).cons (hall coded List.mem_cons_self)

theorem iter_covers :
    (∀ data : Bytes, ∃ codings rest items, data = joined codings ++ rest ∧
      (∀ coded ∈ codings, Encodes coded.1 coded.2 ∧ 4 ≤ coded.2.length) ∧
      (rest = [] ∧ items = codings.map (fun coded => .ok coded.1) ∨
        rest ≠ [] ∧ ¬ Starts Encodes rest ∧ ∃ e, items = codings.map (fun coded => .ok coded.1) ++ [.error e]) ∧
      iter data = .ok items ∧
      ∀ count, calls count data = .ok ((items.map some ++ List.replicate count none).take count)) ∧
    ∀ items : List Item, (∀ item ∈ items, item.tag.raw.toNat < 0x1000000 ∧ item.body.length ≤ 65535) →
      iter (items.flatMap fun item => build item.tag item.body) = .ok (items.map .ok) := by
  constructor
  · intro data
    obtain ⟨codings, rest, hdata, hall, hstop⟩ := exists_cut (R := Encodes) (fun _ _ => Encodes.ne_nil) data
    have hcodings : ∀ coded ∈ codings, Encodes coded.1 coded.2 ∧ 4 ≤ coded.2.length := fun coded hmem =>
      ⟨hall coded hmem, (hall coded hmem).length⟩
    have hcount := length_joined (R := Encodes) (fun _ _ => Encodes.ne_nil) hall
    rcases eq_or_ne rest [] with rfl | hne
    · obtain ⟨hiter, hcalls⟩ := gives_joined hall gives_nil
      rw [← hdata, List.append_nil] at hiter hcalls
      refine ⟨codings, [], _, hdata, hcodings, .inl ⟨rfl, rfl⟩, hiter _ ?_, hcalls⟩
      rw [List.length_map, hdata, List.append_nil]
      exact Nat.lt_succ_of_le hcount
    · obtain ⟨e, hgives⟩ := gives_damaged hne hstop
      obtain ⟨hiter, hcalls⟩ := gives_joined hall hgives
      rw [← hdata] at hiter hcalls
      refine ⟨codings, rest, _, hdata, hcodings, .inr ⟨hne, hstop, e, rfl⟩, hiter _ ?_, hcalls⟩
      have hpos : 0 < rest.length := List.length_pos_iff.mpr hne
      rw [List.length_append, List.length_map, List.length_singleton, hdata, List.length_append]
      omega
  · intro items hitems
    exact iter_build items (fun item hmem => (hitems item hmem).1) fun item hmem => (hitems item hmem).2

end Iteration

end LibDvb.Apdu
