import LibDvb.Basis.Outcome

namespace LibDvb

abbrev Bytes := List UInt8

inductive ErrorKind where
  | wouldBlock
  | interrupted
  | unexpectedEof
  | other (code : Nat)
  deriving DecidableEq, Repr

inductive Error where
  | io (kind : ErrorKind) (message : String)
  | nix (errno : Nat)
  | invalidProperty (context : String)
  | invalidData (context : String)
  deriving DecidableEq, Repr

def Error.IsInvalidData (e : Error) : Prop := ∃ context, e = .invalidData context

@[simp] theorem isInvalidData_invalidData (context : String) :
    (Error.invalidData context).IsInvalidData := ⟨context, rfl⟩

-- `{:02X}` and its wider forms: upper-case hexadecimal, zero-padded on the left.
def hexUpper (width n : Nat) : String :=
  String.ofList (((Nat.toDigits 16 n).map Char.toUpper).leftpad width '0')

example : hexUpper 2 0xA0 = "A0" := by decide +kernel

def subU8 (a b : UInt8) : Outcome Error UInt8 :=
  if b ≤ a then .ok (a - b) else .panic

def subU16 (a b : UInt16) : Outcome Error UInt16 :=
  if b ≤ a then .ok (a - b) else .panic

theorem sat_subU8 {a b : UInt8} {Q : UInt8 → Prop} {E : Error → Prop} :
    (subU8 a b).Sat Q E ↔ b ≤ a ∧ Q (a - b) := by
  by_cases h : b ≤ a <;> simp [subU8, h]

def toBeBytes (x : UInt16) : Bytes := [(x >>> 8).toUInt8, x.toUInt8]

def ofBeBytes (hi lo : UInt8) : UInt16 := (hi.toUInt16 <<< 8) ||| lo.toUInt16

theorem toNat_ofBeBytes (hi lo : UInt8) :
    (ofBeBytes hi lo).toNat = hi.toNat * 256 + lo.toNat := by
  have hhi := hi.toNat_lt
  have hlo : lo.toNat < 2 ^ 8 := lo.toNat_lt
  have hshift : hi.toNat <<< 8 % 65536 = hi.toNat <<< 8 := by
    rw [Nat.shiftLeft_eq]
    omega
  simp only [ofBeBytes, UInt16.toNat_or, UInt16.toNat_shiftLeft, UInt8.toNat_toUInt16]
  rw [show (8 : UInt16).toNat % 16 = 8 from rfl, show (2 ^ 16 : Nat) = 65536 from rfl, hshift,
    ← Nat.shiftLeft_add_eq_or_of_lt hlo, Nat.shiftLeft_eq]

theorem ofBeBytes_toBeBytes (x : UInt16) : ofBeBytes (x >>> 8).toUInt8 x.toUInt8 = x := by
  have hx := x.toNat_lt
  rw [← UInt16.toNat_inj, toNat_ofBeBytes]
  simp only [UInt16.toNat_toUInt8, UInt16.toNat_shiftRight]
  rw [show (8 : UInt16).toNat % 16 = 8 from rfl, Nat.shiftRight_eq_div_pow]
  omega

end LibDvb
