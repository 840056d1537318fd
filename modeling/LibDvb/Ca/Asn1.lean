import LibDvb.Error

namespace LibDvb.Asn1

def sizeIndicator : UInt8 := 0x80

def encode (value : UInt16) : Bytes :=
  if value < 0x80 then
    [value.toUInt8]
  else if value < 0x100 then
    [sizeIndicator + 1, value.toUInt8]
  else
    [sizeIndicator + 2, (value >>> 8).toUInt8, value.toUInt8]

def decode (data : Bytes) : Outcome Error (UInt16 × Nat) :=
  match data.head? with
  | none => .err (.invalidData "ca asn.1 length field is empty")
  | some first =>
      if first < sizeIndicator then
        .ok (first.toUInt16, 1)
      else if first = 0x81 then
        match data[1]? with
        | some b => .ok (b.toUInt16, 2)
        | none => .err (.invalidData "ca asn.1 length field is truncated")
      else if first = 0x82 then
        match data[1]?, data[2]? with
        | some b0, some b1 => .ok (ofBeBytes b0 b1, 3)
        | _, _ => .err (.invalidData "ca asn.1 length field is truncated")
      else
        .err (.invalidData s!"ca asn.1 invalid size indicator 0x{hexUpper 2 first.toNat}")

theorem decode_size {data : Bytes} {n : UInt16} {size : Nat}
    (h : decode data = .ok (n, size)) : 1 ≤ size ∧ size ≤ data.length := by
  unfold decode at h
  cases data with
  | nil => simp at h
  | cons first rest =>
      simp only [List.head?_cons] at h
      split at h
      · simp only [Outcome.ok.injEq, Prod.mk.injEq] at h
        simp [← h.2]
      · split at h
        · cases rest with
          | nil => simp at h
          | cons b rest =>
              simp only [List.getElem?_cons_succ, List.getElem?_cons_zero, Outcome.ok.injEq,
                Prod.mk.injEq] at h
              simp [← h.2]
        · split at h
          · rcases rest with _ | ⟨b0, _ | ⟨b1, rest⟩⟩
            · simp at h
            · simp at h
            · simp only [List.getElem?_cons_succ, List.getElem?_cons_zero, Outcome.ok.injEq,
                Prod.mk.injEq] at h
              simp [← h.2]
          · simp at h

theorem decode_ne_panic (data : Bytes) : decode data ≠ .panic := by
  unfold decode
  repeat' split
  all_goals simp

theorem decode_sat (data : Bytes) :
    (decode data).Sat (fun r => 1 ≤ r.2 ∧ r.2 ≤ data.length) Error.IsInvalidData := by
  cases h : decode data with
  | ok r => exact decode_size h
  | panic => exact absurd h (decode_ne_panic data)
  | err e =>
      unfold decode at h
      repeat' split at h
      all_goals first
        | simp only [reduceCtorEq] at h
        | (cases h; exact isInvalidData_invalidData _)

theorem decode_encode (value : UInt16) (rest : Bytes) :
    decode (encode value ++ rest) = .ok (value, (encode value).length) := by
  have hvalue := value.toNat_lt
  unfold encode
  split
  · next hsmall =>
      have hlt : value.toNat < 128 := UInt16.lt_iff_toNat_lt.mp hsmall
      have hbyte : value.toUInt8 < sizeIndicator := by
        rw [UInt8.lt_iff_toNat_lt, UInt16.toNat_toUInt8]
        show value.toNat % 256 < 128
        omega
      have hback : value.toUInt8.toUInt16 = value := by
        rw [← UInt16.toNat_inj, UInt8.toNat_toUInt16, UInt16.toNat_toUInt8]
        omega
      simp [decode, hbyte, hback]
  split
  · next hsmall =>
      have hlt : value.toNat < 256 := UInt16.lt_iff_toNat_lt.mp hsmall
      have hback : value.toUInt8.toUInt16 = value := by
        rw [← UInt16.toNat_inj, UInt8.toNat_toUInt16, UInt16.toNat_toUInt8]
        omega
      have hfirst : sizeIndicator + 1 = 0x81 := by decide
      have hlarge : ¬ (0x81 : UInt8) < sizeIndicator := by decide
      simp [decode, hfirst, hlarge, hback]
  · have hfirst : sizeIndicator + 2 = 0x82 := by decide
    have hlarge : ¬ (0x82 : UInt8) < sizeIndicator := by decide
    have hsize : ¬ (0x82 : UInt8) = 0x81 := by decide
    simp [decode, hfirst, hlarge, hsize, ofBeBytes_toBeBytes]

theorem length_encode (value : UInt16) : 1 ≤ (encode value).length ∧ (encode value).length ≤ 3 := by
  unfold encode
  repeat' split
  all_goals simp

inductive Codes : UInt16 → Bytes → Prop
  | short (b : UInt8) (h : b < 0x80) : Codes b.toUInt16 [b]
  | byte (b : UInt8) : Codes b.toUInt16 [0x81, b]
  | word (hi lo : UInt8) : Codes (ofBeBytes hi lo) [0x82, hi, lo]

theorem Codes.decode {n : UInt16} {field : Bytes} (h : Codes n field) (rest : Bytes) :
    decode (field ++ rest) = .ok (n, field.length) := by
  cases h with
  | short b h =>
      have hb : b < sizeIndicator := h
      simp [Asn1.decode, hb]
  | byte b =>
      have hlarge : ¬ (0x81 : UInt8) < sizeIndicator := by decide
      simp [Asn1.decode, hlarge]
  | word hi lo =>
      have hlarge : ¬ (0x82 : UInt8) < sizeIndicator := by decide
      have hsize : ¬ (0x82 : UInt8) = 0x81 := by decide
      simp [Asn1.decode, hlarge, hsize]

theorem Codes.length_pos {n : UInt16} {field : Bytes} (h : Codes n field) : 1 ≤ field.length := by
  cases h <;> simp

theorem codes_of_decode {data : Bytes} {n : UInt16} {size : Nat} (h : decode data = .ok (n, size)) :
    ∃ field rest, data = field ++ rest ∧ Codes n field ∧ size = field.length := by
  rcases data with _ | ⟨first, rest⟩
  · simp [decode] at h
  · simp only [decode, List.head?_cons] at h
    split at h
    · next hshort =>
        simp only [Outcome.ok.injEq, Prod.mk.injEq] at h
        obtain ⟨rfl, rfl⟩ := h
        exact ⟨[first], rest, rfl, .short first hshort, rfl⟩
    split at h
    · next hfirst =>
        subst hfirst
        rcases rest with _ | ⟨b, rest⟩
        · simp at h
        · simp only [List.getElem?_cons_succ, List.getElem?_cons_zero, Outcome.ok.injEq, Prod.mk.injEq] at h
          obtain ⟨rfl, rfl⟩ := h
          exact ⟨[0x81, b], rest, rfl, .byte b, rfl⟩
    split at h
    · next hfirst =>
        subst hfirst
        rcases rest with _ | ⟨hi, _ | ⟨lo, rest⟩⟩
        · simp at h
        · simp at h
        · simp only [List.getElem?_cons_succ, List.getElem?_cons_zero, Outcome.ok.injEq, Prod.mk.injEq] at h
          obtain ⟨rfl, rfl⟩ := h
          exact ⟨[0x82, hi, lo], rest, rfl, .word hi lo, rfl⟩
    · simp at h

theorem codes_encode (value : UInt16) : Codes value (encode value) := by
  obtain ⟨field, rest, hdata, hcodes, hsize⟩ := codes_of_decode (decode_encode value [])
  rw [List.append_nil] at hdata
  have hrest : rest = [] := by
    have hlength := congrArg List.length hdata
    rw [List.length_append, hsize] at hlength
    exact List.eq_nil_of_length_eq_zero (by omega)
  rw [hdata, hrest, List.append_nil]
  exact hcodes

end LibDvb.Asn1
