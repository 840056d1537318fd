import Mathlib.Logic.Function.Iterate

namespace LibDvb

inductive PlsMode where
  | root
  | gold
  | combo
  deriving DecidableEq, Repr

structure Mis where
  mode : PlsMode
  code : UInt32
  streamId : UInt32
  deriving DecidableEq, Repr

namespace Mis

def plsCodeMask : UInt32 := 0x3FFFF

def plsStep (x : UInt32) : UInt32 := (((x ^^^ (x >>> 7)) &&& 1) <<< 17) ||| (x >>> 1)

-- The loop over `g`, with the turns left and the state of the register.
def plsSearch (code : UInt32) : Nat → UInt32 → UInt32 → UInt32
  | 0, _, _ => plsCodeMask
  | turns + 1, g, x => if code = x then g else plsSearch code turns (g + 1) (plsStep x)

def plsCode (self : Mis) : Option UInt32 :=
  let code := self.code &&& plsCodeMask
  if self.mode ≠ .root then
    some code
  else if code = 0 then
    none
  else
    some (plsSearch code plsCodeMask.toNat 0 1)

theorem plsSearch_least {code : UInt32} : ∀ (n turns : Nat) (g x : UInt32), n < turns → plsStep^[n] x = code →
    (∀ m < n, plsStep^[m] x ≠ code) → plsSearch code turns g x = g + UInt32.ofNat n := by
  intro n
  induction n with
  | zero =>
      intro turns g x hturns hfound _
      rw [Function.iterate_zero_apply] at hfound
      obtain ⟨turns, rfl⟩ := Nat.exists_eq_succ_of_ne_zero (Nat.ne_zero_of_lt hturns)
      rw [plsSearch, if_pos hfound.symm, show UInt32.ofNat 0 = 0 from rfl, UInt32.add_zero]
  | succ n ih =>
      intro turns g x hturns hfound hfirst
      obtain ⟨turns, rfl⟩ := Nat.exists_eq_succ_of_ne_zero (Nat.ne_zero_of_lt hturns)
      have hne : code ≠ x := fun heq => hfirst 0 (Nat.succ_pos n) heq.symm
      have hlater : ∀ m < n, plsStep^[m] (plsStep x) ≠ code := by
        intro m hm
        rw [← Function.iterate_succ_apply]
        exact hfirst (m + 1) (Nat.succ_lt_succ hm)
      rw [plsSearch, if_neg hne, ih turns (g + 1) (plsStep x) (Nat.lt_of_succ_lt_succ hturns) hfound hlater,
        UInt32.add_assoc, UInt32.add_comm 1, UInt32.ofNat_add]
      rfl

end Mis

end LibDvb
