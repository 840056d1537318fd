import LibDvb.Basis.Register
import LibDvb.Fe.Tune

namespace LibDvb

open Register

def plsRegister (x : Nat) : Nat := (((x ^^^ (x >>> 7)) &&& 1) <<< 17) ^^^ (x >>> 1)

section Register

theorem feedback_lt (x : Nat) : ((x ^^^ (x >>> 7)) &&& 1) <<< 17 < 2 ^ 18 := by
  have hbit : (x ^^^ (x >>> 7)) &&& 1 ≤ 1 := Nat.and_le_right
  rw [Nat.shiftLeft_eq]
  omega

theorem plsRegister_linear : Linear 18 plsRegister where
  bound x hx := by
    refine Nat.xor_lt_two_pow (feedback_lt x) ?_
    rw [Nat.shiftRight_eq_div_pow]
    omega
  map_xor x y _ _ := by
    rw [plsRegister, plsRegister, plsRegister, Nat.shiftRight_xor_distrib, Nat.shiftRight_xor_distrib]
    have hfeedback : x ^^^ y ^^^ (x >>> 7 ^^^ y >>> 7) = (x ^^^ x >>> 7) ^^^ (y ^^^ y >>> 7) := by
      rw [Nat.xor_assoc, ← Nat.xor_assoc y, Nat.xor_comm y (x >>> 7), Nat.xor_assoc (x >>> 7), ← Nat.xor_assoc]
    rw [hfeedback, Nat.and_xor_distrib_right, Nat.shiftLeft_xor_distrib, Nat.xor_assoc, Nat.xor_assoc]
    congr 1
    rw [← Nat.xor_assoc, ← Nat.xor_assoc, Nat.xor_comm _ (x >>> 1)]

theorem toNat_plsStep {x : UInt32} (hx : x.toNat < 2 ^ 18) : (Mis.plsStep x).toNat = plsRegister x.toNat := by
  have hshift : ((x.toNat ^^^ x.toNat >>> 7) &&& 1) <<< 17 % 2 ^ 32 = ((x.toNat ^^^ x.toNat >>> 7) &&& 1) <<< 17 :=
    Nat.mod_eq_of_lt ((feedback_lt x.toNat).trans (by decide))
  have hlow : x.toNat >>> 1 < 2 ^ 17 := by
    rw [Nat.shiftRight_eq_div_pow]
    omega
  have hor : ((x.toNat ^^^ x.toNat >>> 7) &&& 1) <<< 17 ||| x.toNat >>> 1 =
      ((x.toNat ^^^ x.toNat >>> 7) &&& 1) <<< 17 ^^^ x.toNat >>> 1 := by
    apply Nat.eq_of_testBit_eq
    intro i
    rw [Nat.testBit_or, Nat.testBit_xor, Nat.testBit_shiftLeft]
    by_cases hi : 17 ≤ i
    · rw [Nat.testBit_lt_two_pow (Nat.lt_of_lt_of_le hlow (Nat.pow_le_pow_right (by decide) hi)), Bool.or_false,
        Bool.xor_false]
    · simp [hi]
  simp only [Mis.plsStep, UInt32.toNat_or, UInt32.toNat_shiftLeft, UInt32.toNat_and, UInt32.toNat_xor,
    UInt32.toNat_shiftRight]
  rw [show (17 : UInt32).toNat % 32 = 17 from rfl, show (7 : UInt32).toNat % 32 = 7 from rfl,
    show (1 : UInt32).toNat % 32 = 1 from rfl, show (1 : UInt32).toNat = 1 from rfl, hshift, hor]
  rfl

theorem toNat_plsSteps (n : Nat) : (Mis.plsStep^[n] 1).toNat = plsRegister^[n] 1 ∧ plsRegister^[n] 1 < 2 ^ 18 := by
  have hbound (n : Nat) : plsRegister^[n] 1 < 2 ^ 18 := (plsRegister_linear.iterate n).bound 1 (by decide)
  refine ⟨?_, hbound n⟩
  induction n with
  | zero => rfl
  | succ n ih =>
      have hstate : (Mis.plsStep^[n] 1).toNat < 2 ^ 18 := ih ▸ hbound n
      rw [Function.iterate_succ_apply', Function.iterate_succ_apply', toNat_plsStep hstate, ih]

end Register

section Period

def binary (n : Nat) : List Bool := (List.range 18).map fun i => n.testBit (17 - i)

theorem plsRegister_jump (n : Nat) (hn : digitsValue (binary n) = n) :
    plsRegister^[n] 1 = jump 18 (images 18 plsRegister) (binary n) 1 := by
  have hjump := jump_eq plsRegister_linear (binary n) (x := 1) (by decide)
  rw [hn] at hjump
  exact hjump.symm

theorem prime_dvd_mask {p : Nat} (hp : p.Prime) (hdvd : p ∣ 2 ^ 18 - 1) : p = 3 ∨ p = 7 ∨ p = 19 ∨ p = 73 := by
  have hfactors : 2 ^ 18 - 1 = 3 ^ 3 * (7 * (19 * 73)) := by decide
  have hone {q : Nat} (hq : q.Prime) (h : p ∣ q) : p = q := (Nat.prime_dvd_prime_iff_eq hp hq).mp h
  rw [hfactors] at hdvd
  rcases hp.dvd_mul.mp hdvd with h | h
  · exact .inl (hone Nat.prime_three (hp.dvd_of_dvd_pow h))
  rcases hp.dvd_mul.mp h with h | h
  · exact .inr (.inl (hone (by decide) h))
  rcases hp.dvd_mul.mp h with h | h
  · exact .inr (.inr (.inl (hone (by decide) h)))
  · exact .inr (.inr (.inr (hone (by decide) h)))

theorem plsRegister_period : Function.minimalPeriod plsRegister 1 = 2 ^ 18 - 1 := by
  refine minimalPeriod_of_proper ?_ fun p hp hdvd => ?_
  · rw [plsRegister_jump _ (by decide +kernel)]
    decide +kernel
  · rcases prime_dvd_mask hp hdvd with rfl | rfl | rfl | rfl
    · rw [plsRegister_jump _ (by decide +kernel)]
      decide +kernel
    · rw [plsRegister_jump _ (by decide +kernel)]
      decide +kernel
    · rw [plsRegister_jump _ (by decide +kernel)]
      decide +kernel
    · rw [plsRegister_jump _ (by decide +kernel)]
      decide +kernel

end Period

section Code

theorem toNat_masked (code : UInt32) : (code &&& Mis.plsCodeMask).toNat = code.toNat % 2 ^ 18 := by
  rw [UInt32.toNat_and, show Mis.plsCodeMask.toNat = 2 ^ 18 - 1 from rfl, Nat.and_two_pow_sub_one_eq_mod]

theorem plsCode_zero {code : UInt32} (h : code.toNat % 2 ^ 18 = 0) (streamId : UInt32) :
    Mis.plsCode ⟨.root, code, streamId⟩ = none := by
  have hzero : code &&& Mis.plsCodeMask = 0 := by
    rw [← UInt32.toNat_inj, toNat_masked, h]
    rfl
  rw [Mis.plsCode]
  simp [hzero]

theorem plsCode_found {code : UInt32} (h : code.toNat % 2 ^ 18 ≠ 0) (streamId : UInt32) :
    ∃ g, Mis.plsCode ⟨.root, code, streamId⟩ = some g ∧ g.toNat < 2 ^ 18 - 1 ∧
      (Mis.plsStep^[g.toNat] 1).toNat = code.toNat % 2 ^ 18 ∧
        ∀ m < g.toNat, (Mis.plsStep^[m] 1).toNat ≠ code.toNat % 2 ^ 18 := by
  obtain ⟨n, hn, hstate, hfirst⟩ := exists_least_steps plsRegister_linear plsRegister_period (Nat.pos_of_ne_zero h)
    (Nat.mod_lt _ (by decide))
  have hsteps (m : Nat) : Mis.plsStep^[m] 1 = code &&& Mis.plsCodeMask ↔ plsRegister^[m] 1 = code.toNat % 2 ^ 18 := by
    rw [← UInt32.toNat_inj, toNat_masked, (toNat_plsSteps m).1]
  have hg : (UInt32.ofNat n).toNat = n := by
    rw [UInt32.toNat_ofNat']
    exact Nat.mod_eq_of_lt (hn.trans (by decide))
  have hne : code &&& Mis.plsCodeMask ≠ 0 := by
    rw [ne_eq, ← UInt32.toNat_inj, toNat_masked]
    exact h
  have hsearch := Mis.plsSearch_least n Mis.plsCodeMask.toNat 0 1 hn ((hsteps n).mpr hstate)
    fun m hm heq => hfirst m hm ((hsteps m).mp heq)
  refine ⟨UInt32.ofNat n, ?_, ?_, ?_, ?_⟩
  · rw [Mis.plsCode]
    simp [hne, hsearch]
  · rw [hg]
    exact hn
  · rw [hg, (toNat_plsSteps n).1]
    exact hstate
  · rw [hg]
    intro m hm
    rw [(toNat_plsSteps m).1]
    exact hfirst m hm

theorem plsCode_root (code streamId : UInt32) :
    (Mis.plsCode ⟨.root, code, streamId⟩ = none ↔ code.toNat % 2 ^ 18 = 0) ∧
    (code.toNat % 2 ^ 18 ≠ 0 → ∃ g, Mis.plsCode ⟨.root, code, streamId⟩ = some g ∧ g.toNat < 2 ^ 18 - 1 ∧
      (Mis.plsStep^[g.toNat] 1).toNat = code.toNat % 2 ^ 18 ∧
        ∀ m < g.toNat, (Mis.plsStep^[m] 1).toNat ≠ code.toNat % 2 ^ 18) ∧
    ∀ other otherId : UInt32, code.toNat % 2 ^ 18 ≠ 0 → other.toNat % 2 ^ 18 ≠ 0 →
      Mis.plsCode ⟨.root, code, streamId⟩ = Mis.plsCode ⟨.root, other, otherId⟩ →
        code.toNat % 2 ^ 18 = other.toNat % 2 ^ 18 := by
  refine ⟨⟨fun hnone => ?_, fun h => plsCode_zero h streamId⟩, fun h => plsCode_found h streamId,
    fun other otherId h h' heq => ?_⟩
  · by_contra h
    obtain ⟨g, hsome, _⟩ := plsCode_found h streamId
    rw [hnone] at hsome
    cases hsome
  · obtain ⟨g, hsome, _, hstate, _⟩ := plsCode_found h streamId
    obtain ⟨g', hsome', _, hstate', _⟩ := plsCode_found h' otherId
    rw [hsome, hsome', Option.some.injEq] at heq
    rw [← hstate, ← hstate', heq]

end Code

end LibDvb
