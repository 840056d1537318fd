import LibDvb.Basis.Ramp
import LibDvb.Fe.Stats

namespace LibDvb

open Outcome

section Share

def share (level : Nat) : UInt32 := UInt32.ofNat (level * 100 / 65535)

theorem toNat_share {level : Nat} (h : level < 2 ^ 16) : (share level).toNat = level * 100 / 65535 := by
  rw [share, UInt32.toNat_ofNat_of_lt']
  show level * 100 / 65535 < 2 ^ 32
  omega

theorem share_le {level : Nat} (h : level < 2 ^ 16) : share level ≤ 100 := by
  rw [UInt32.le_iff_toNat_le, toNat_share h]
  show level * 100 / 65535 ≤ 100
  omega

theorem share_mono {level level' : Nat} (hle : level ≤ level') (h : level' < 2 ^ 16) : share level ≤ share level' := by
  rw [UInt32.le_iff_toNat_le, toNat_share h, toNat_share (Nat.lt_of_le_of_lt hle h)]
  exact Nat.div_le_div_right (Nat.mul_le_mul_right 100 hle)

theorem percent_eq {value : Int64} {level : Nat} (h : value.toInt = level) (hlevel : level < 2 ^ 16) :
    percent value = .ok (share level) := by
  obtain ⟨scaled, hscaled⟩ := exists_toInt (x := (level : Int) * 100) (by omega) (by omega)
  obtain ⟨quotient, hquotient⟩ := exists_toInt (x := ((level * 100 / 65535 : Nat) : Int)) (by omega) (by omega)
  have hmul : value.toInt * (100 : Int64).toInt = scaled.toInt := by
    rw [h, hscaled]
    rfl
  have hdiv : scaled.toInt.tdiv (65535 : Int64).toInt = quotient.toInt := by
    rw [hscaled, hquotient, Int.tdiv_eq_ediv_of_nonneg (by omega)]
    rfl
  have hcast : asU32 quotient = share level := by
    rw [← UInt32.toNat_inj, toNat_asU32 hquotient (by omega), toNat_share hlevel]
  rw [percent, mulI64_eq hmul, ok_bind, divI64_eq (by decide) hdiv, ok_bind, hcast]

theorem percentOfReading_eq (value : UInt16) : percentOfReading value = .ok (share value.toNat) := by
  have hvalue := value.toNat_lt
  have hfits : value.toUInt32.toNat * (100 : UInt32).toNat < UInt32.size := by
    rw [UInt16.toNat_toUInt32]
    show value.toNat * 100 < 2 ^ 32
    omega
  have hquotient : (value.toUInt32 * 100) / 65535 = share value.toNat := by
    rw [← UInt32.toNat_inj, UInt32.toNat_div, UInt32.toNat_mul, Nat.mod_eq_of_lt hfits, toNat_share hvalue,
      UInt16.toNat_toUInt32]
    rfl
  rw [percentOfReading, mulU32, if_pos hfits, ok_bind, hquotient]

end Share

section Entries

variable {α β : Type}

theorem foldlM_index (xs : List α) (f : β → α → Outcome Error β) : ∀ (n first : Nat) (init : β),
    first + n ≤ xs.length →
      (List.range' first n).foldlM (fun found i => do
        let x ← index xs i
        f found x) init = ((xs.drop first).take n).foldlM f init := by
  intro n
  induction n with
  | zero => exact fun _ _ _ => rfl
  | succ n ih =>
      intro first init hlen
      have hfirst : first < xs.length := by omega
      rw [List.range'_succ, List.foldlM_cons, List.drop_eq_getElem_cons hfirst, List.take_succ_cons, List.foldlM_cons,
        index, List.getElem?_eq_getElem hfirst]
      simp only [ok_bind]
      cases hstep : f init xs[first] with
      | ok next =>
          rw [ok_bind, ok_bind]
          exact ih (first + 1) next (by omega)
      | err e => rfl
      | panic => rfl

def lastOf (scale : UInt8) (entries : List DtvStats) : Option Int64 :=
  (entries.filter (·.scale = scale)).getLast?.map (·.value)

def DtvFrontendStats.last (self : DtvFrontendStats) (scale : UInt8) : Option Int64 := lastOf scale self.entries

theorem lastOf_cons (scale : UInt8) (stat : DtvStats) (entries : List DtvStats) :
    lastOf scale (stat :: entries) = (lastOf scale entries).or (if stat.scale = scale then some stat.value else none) := by
  by_cases h : stat.scale = scale
  · rw [lastOf, List.filter_cons_of_pos (by simpa using h), List.getLast?_cons, if_pos h, lastOf]
    cases (entries.filter (·.scale = scale)).getLast? <;> rfl
  · rw [lastOf, List.filter_cons_of_neg (by simpa using h), if_neg h, Option.or_none, lastOf]

def reported (value : Int64) : UInt32 := share (value &&& 0xFFFF).toInt.toNat

theorem percent_reported (value : Int64) : percent (value &&& 0xFFFF) = .ok (reported value) := by
  obtain ⟨hnonneg, hlt⟩ := toInt_and_mask value
  exact percent_eq (by omega) (by omega)

theorem reported_le (value : Int64) : reported value ≤ 100 := by
  obtain ⟨hnonneg, hlt⟩ := toInt_and_mask value
  exact share_le (by omega)

theorem foldlM_scanStat : ∀ (entries : List DtvStats) (found : Option UInt32 × Option Int64),
    entries.foldlM scanStat found =
      .ok (((lastOf feScaleRelative entries).map reported).or found.1, (lastOf feScaleDecibel entries).or found.2) := by
  intro entries
  induction entries with
  | nil => exact fun _ => rfl
  | cons stat entries ih =>
      intro found
      rw [List.foldlM_cons, lastOf_cons, lastOf_cons, scanStat]
      by_cases hdecibel : stat.scale = feScaleDecibel
      · have hrelative : stat.scale ≠ feScaleRelative := by
          rw [hdecibel]
          decide
        rw [if_pos hdecibel, ok_bind, ih, if_pos hdecibel, if_neg hrelative, Option.or_none, Option.or_assoc]
        rfl
      · rw [if_neg hdecibel, if_neg hdecibel, Option.or_none]
        by_cases hrelative : stat.scale = feScaleRelative
        · rw [if_pos hrelative, percent_reported, ok_bind, ok_bind, ih, if_pos hrelative]
          cases lastOf feScaleRelative entries <;> rfl
        · rw [if_neg hrelative, ok_bind, ih, if_neg hrelative, Option.or_none]

theorem scanStats_eq (stats : DtvFrontendStats) :
    scanStats stats = .ok ((stats.last feScaleRelative).map reported, stats.last feScaleDecibel) := by
  have hlen : 0 + min stats.len.toNat stats.stat.size ≤ stats.stat.toList.length := by
    rw [Nat.zero_add, Vector.length_toList]
    exact Nat.min_le_right _ _
  have hentries : (stats.stat.toList.drop 0).take (min stats.len.toNat stats.stat.size) = stats.entries := by
    have hsize : stats.stat.size = stats.stat.toList.length := Vector.length_toList.symm
    rw [List.drop_zero, DtvFrontendStats.entries, hsize, ← List.take_eq_take_min]
  rw [scanStats, List.range_eq_range', foldlM_index _ _ _ _ _ hlen, hentries, foldlM_scanStat, Option.or_none,
    Option.or_none]
  rfl

end Entries

section Map

def levelMap (lo hi value : Int64) : UInt32 := share (ramp lo.toInt hi.toInt 65535 value.toInt).toNat

structure Graded (lo hi : Int64) (map : Int64 → UInt32) : Prop where
  monotone : ∀ {a b}, a ≤ b → map a ≤ map b
  low : ∀ {a}, a ≤ lo → map a = 0
  high : ∀ {a}, hi ≤ a → map a = 100

variable {lo hi : Int64}

theorem toNat_ramp_lt (ends : lo < hi) (value : Int64) : (ramp lo.toInt hi.toInt 65535 value.toInt).toNat < 2 ^ 16 := by
  have htop := @Ramp.le_top lo.toInt hi.toInt 65535 (Int64.lt_iff_toInt_lt.mp ends) (by decide) value.toInt
  omega

theorem levelMap_le (ends : lo < hi) (value : Int64) : levelMap lo hi value ≤ 100 := share_le (toNat_ramp_lt ends value)

theorem graded_levelMap (ends : lo < hi) : Graded lo hi (levelMap lo hi) where
  monotone hab := by
    have hramp := @Ramp.monotone lo.toInt hi.toInt 65535 _ _ (Int64.lt_iff_toInt_lt.mp ends) (by decide)
      (Int64.le_iff_toInt_le.mp hab)
    exact share_mono (Int.toNat_le_toNat hramp) (toNat_ramp_lt ends _)
  low hle := by
    rw [levelMap, Ramp.of_le (Int64.le_iff_toInt_le.mp hle) (Int.le_of_lt (Int64.lt_iff_toInt_lt.mp ends))]
    rfl
  high hle := by
    rw [levelMap, Ramp.of_ge (Int64.le_iff_toInt_le.mp hle) (Int64.lt_iff_toInt_lt.mp ends)]
    rfl

theorem percent_levelMap (ends : lo < hi) {value scaled : Int64}
    (h : scaled.toInt = ramp lo.toInt hi.toInt 65535 value.toInt) : percent scaled = .ok (levelMap lo hi value) := by
  have hnonneg := @Ramp.nonneg lo.toInt hi.toInt 65535 (Int64.lt_iff_toInt_lt.mp ends) (by decide) value.toInt
  exact percent_eq (by omega) (toNat_ramp_lt ends value)

theorem SignalStrength.scaled_eq (value : Int64) : ∃ scaled, SignalStrength.scaled value = .ok scaled ∧
    scaled.toInt = ramp SignalStrength.lo.toInt SignalStrength.hi.toInt 65535 value.toInt := by
  have ends : SignalStrength.lo.toInt < SignalStrength.hi.toInt := by decide
  by_cases high : SignalStrength.hi < value
  · refine ⟨65535, by rw [SignalStrength.scaled, if_pos high], ?_⟩
    rw [Ramp.of_ge (Int.le_of_lt (Int64.lt_iff_toInt_lt.mp high)) ends]
    rfl
  by_cases low : value < SignalStrength.lo
  · refine ⟨0, by rw [SignalStrength.scaled, if_neg high, if_pos low], ?_⟩
    rw [Ramp.of_le (Int.le_of_lt (Int64.lt_iff_toInt_lt.mp low)) (Int.le_of_lt ends)]
    rfl
  have hhigh := Int.not_lt.mp (mt Int64.lt_iff_toInt_lt.mpr high)
  have hlow := Int.not_lt.mp (mt Int64.lt_iff_toInt_lt.mpr low)
  have hhi : SignalStrength.hi.toInt = -6000 := rfl
  have hlo : SignalStrength.lo.toInt = -85000 := rfl
  obtain ⟨below, hbelow⟩ := exists_toInt (x := SignalStrength.lo.toInt - value.toInt) (by omega) (by omega)
  obtain ⟨product, hproduct⟩ := exists_toInt (x := 65535 * below.toInt) (by omega) (by omega)
  have hmul : (65535 : Int64).toInt * below.toInt = product.toInt := hproduct.symm
  obtain ⟨scaled, hscaled⟩ := exists_toInt (x := 65535 * (value.toInt + 85000) / 79000) (by omega) (by omega)
  have hquotient : product.toInt.tdiv (-79000 : Int64).toInt = scaled.toInt := by
    have hneg : product.toInt = -(65535 * (value.toInt + 85000)) := by omega
    rw [hscaled, hneg, show (-79000 : Int64).toInt = -79000 from rfl, Int.neg_tdiv_neg,
      Int.tdiv_eq_ediv_of_nonneg (by omega)]
  refine ⟨scaled, ?_, ?_⟩
  · rw [SignalStrength.scaled, if_neg high, if_neg low, subI64_eq hbelow.symm, ok_bind, mulI64_eq hmul, ok_bind,
      show (subI64 SignalStrength.lo SignalStrength.hi : Outcome Error Int64) = .ok (-79000) from rfl, ok_bind,
      divI64_eq (by decide) hquotient]
  · rw [hscaled, Ramp.of_mem hlow hhigh, hlo, hhi, Int.sub_neg]
    rfl

theorem Snr.scaled_eq {hi : Int64} (positive : 0 < hi) (small : hi.toInt ≤ 2 ^ 15) (value : Int64) :
    ∃ scaled, Snr.scaled hi value = .ok scaled ∧ scaled.toInt = ramp (0 : Int64).toInt hi.toInt 65535 value.toInt := by
  have ends : (0 : Int64).toInt < hi.toInt := Int64.lt_iff_toInt_lt.mp positive
  by_cases high : hi ≤ value
  · refine ⟨65535, by rw [Snr.scaled, if_pos high], ?_⟩
    rw [Ramp.of_ge (Int64.le_iff_toInt_le.mp high) ends]
    rfl
  by_cases low : value ≤ 0
  · refine ⟨0, by rw [Snr.scaled, if_neg high, if_pos low], ?_⟩
    rw [Ramp.of_le (Int64.le_iff_toInt_le.mp low) (Int.le_of_lt ends)]
    rfl
  have hhigh := Int.not_le.mp (mt Int64.le_iff_toInt_le.mpr high)
  have hlow := Int.not_le.mp (mt Int64.le_iff_toInt_le.mpr low)
  have hzero : (0 : Int64).toInt = 0 := rfl
  obtain ⟨product, hproduct⟩ := exists_toInt (x := 65535 * value.toInt) (by omega) (by omega)
  have hmul : (65535 : Int64).toInt * value.toInt = product.toInt := hproduct.symm
  have hbound : 65535 * value.toInt / hi.toInt ≤ 65535 * value.toInt := Int.ediv_le_self _ (by omega)
  have hnonneg : 0 ≤ 65535 * value.toInt / hi.toInt := Int.ediv_nonneg (by omega) (by omega)
  obtain ⟨scaled, hscaled⟩ := exists_toInt (x := 65535 * value.toInt / hi.toInt) (by omega) (by omega)
  have hquotient : product.toInt.tdiv hi.toInt = scaled.toInt := by
    rw [hscaled, hproduct, Int.tdiv_eq_ediv_of_nonneg (by omega)]
  have hne : hi ≠ 0 := by
    rintro rfl
    exact Int.lt_irrefl _ ends
  refine ⟨scaled, ?_, ?_⟩
  · rw [Snr.scaled, if_neg high, if_neg low, mulI64_eq hmul, ok_bind, divI64_eq hne hquotient]
  · rw [hscaled, Ramp.of_mem (Int.le_of_lt hlow) (Int.le_of_lt hhigh), hzero, Int.sub_zero, Int.sub_zero]

theorem Snr.hi_bounds {deliverySystem : DeliverySystem} {modulation : Modulation}
    (h : Snr.hi deliverySystem modulation = some hi) : 0 < hi ∧ hi.toInt ≤ 2 ^ 15 := by
  have hvalues : hi = 15000 ∨ hi = 28000 ∨ hi = 19000 := by
    unfold Snr.hi at h
    split at h
    all_goals first
      | (split at h <;> simp_all)
      | simp_all
  rcases hvalues with rfl | rfl | rfl <;> decide

end Map

section Sources

variable {status : FeStatusFlags} {deliverySystem : DeliverySystem} {modulation : Modulation} {stats : DtvFrontendStats}
  {reading : Except Error UInt16}

def ofReading (reading : Except Error UInt16) : Option UInt32 := reading.toOption.map fun value => share value.toNat

theorem orReading_eq (flagged : Bool) (level : FeLevel) : orReading flagged reading level =
    .ok { level with relative := level.relative.or (if flagged then ofReading reading else none) } := by
  obtain ⟨decibel, relative⟩ := level
  cases relative with
  | some relative => rfl
  | none =>
      cases flagged with
      | false => rfl
      | true =>
          cases reading with
          | error e => rfl
          | ok value =>
              show (percentOfReading value >>= fun relative => _) = _
              rw [percentOfReading_eq]
              rfl

def relativeOf (reported : Option UInt32) (flagged : Bool) (derived : Option UInt32) : Option UInt32 :=
  reported.or (if flagged then derived else none)

def signalMap : Int64 → UInt32 := levelMap SignalStrength.lo SignalStrength.hi

theorem normalizeSignalStrength_eq : normalizeSignalStrength status stats reading = .ok
    { decibel := (stats.last feScaleDecibel).map decibelOf
      relative := relativeOf ((stats.last feScaleRelative).map reported) (status.contains .hasSignal)
        (((stats.last feScaleDecibel).map signalMap).or (ofReading reading)) } := by
  rw [normalizeSignalStrength, scanStats_eq, ok_bind]
  cases hdecibel : stats.last feScaleDecibel with
  | none =>
      simp only [ok_bind]
      rw [orReading_eq]
      rfl
  | some value =>
      cases hreported : (stats.last feScaleRelative).map reported with
      | some relative =>
          simp only [reduceCtorEq, false_and, if_false, ok_bind]
          rw [orReading_eq]
          rfl
      | none =>
          cases hflag : status.contains .hasSignal with
          | false =>
              simp only [Bool.false_eq_true, and_false, if_false, ok_bind]
              rw [orReading_eq]
              rfl
          | true =>
              obtain ⟨scaled, hscaled, hramp⟩ := SignalStrength.scaled_eq value
              have hpercent : percent scaled = .ok (signalMap value) := percent_levelMap (by decide) hramp
              simp only [and_self, if_true]
              rw [hscaled, ok_bind, hpercent, ok_bind, ok_bind, orReading_eq]
              rfl

-- The level that is left when the decibel value is looked up in the table.
def snrDerived (deliverySystem : DeliverySystem) (modulation : Modulation) (decibel : Option Int64)
    (reading : Except Error UInt16) : Option UInt32 :=
  match decibel with
  | none => ofReading reading
  | some value => (Snr.hi deliverySystem modulation).map (levelMap 0 · value)

theorem normalizeSnr_eq : normalizeSnr status deliverySystem modulation stats reading = .ok
    { decibel := (stats.last feScaleDecibel).map decibelOf
      relative := relativeOf ((stats.last feScaleRelative).map reported) (status.contains .hasCarrier)
        (snrDerived deliverySystem modulation (stats.last feScaleDecibel) reading) } := by
  rw [normalizeSnr, scanStats_eq, ok_bind]
  cases hdecibel : stats.last feScaleDecibel with
  | none =>
      dsimp only
      rw [orReading_eq]
      rfl
  | some value =>
      cases hreported : (stats.last feScaleRelative).map reported with
      | some relative =>
          simp only [reduceCtorEq, false_and, if_false]
          rw [orReading_eq]
          rfl
      | none =>
          cases hflag : status.contains .hasCarrier with
          | false =>
              simp only [Bool.false_eq_true, and_false, if_false]
              rw [orReading_eq]
              rfl
          | true =>
              simp only [and_self, if_true]
              cases htable : Snr.hi deliverySystem modulation with
              | none => simp only [relativeOf, snrDerived, htable, Option.map_none, Option.map_some, Option.or_none, if_true]
              | some hi =>
                  obtain ⟨positive, small⟩ := Snr.hi_bounds htable
                  obtain ⟨scaled, hscaled, hramp⟩ := Snr.scaled_eq positive small value
                  have hpercent : percent scaled = .ok (levelMap 0 hi value) := percent_levelMap positive hramp
                  dsimp only
                  rw [hscaled, ok_bind, hpercent, ok_bind, orReading_eq]
                  simp only [relativeOf, snrDerived, htable, Option.map_some, Option.some_or, Option.none_or, if_true]

end Sources

end LibDvb
