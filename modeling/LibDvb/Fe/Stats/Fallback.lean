import LibDvb.Fe.Stats.Level

namespace LibDvb

open Outcome

variable {status : FeStatusFlags} {deliverySystem : DeliverySystem} {modulation : Modulation}
  {stats signalStats snrStats : DtvFrontendStats} {reading strength snr : Except Error UInt16}

def FeLevel.Percent (self : FeLevel) : Prop := ∀ relative, self.relative = some relative → relative ≤ 100

section Percent

theorem ofReading_le {relative : UInt32} (h : ofReading reading = some relative) : relative ≤ 100 := by
  cases reading with
  | error e => cases h
  | ok value =>
      rw [← Option.some.inj h]
      exact share_le value.toNat_lt

theorem relativeOf_le {flagged : Bool} {derived : Option UInt32} (hderived : ∀ relative, derived = some relative → relative ≤ 100)
    {relative : UInt32} (h : relativeOf ((stats.last feScaleRelative).map reported) flagged derived = some relative) :
    relative ≤ 100 := by
  cases hlast : stats.last feScaleRelative with
  | some value =>
      rw [hlast] at h
      rw [← Option.some.inj h]
      exact reported_le value
  | none =>
      rw [hlast] at h
      cases flagged with
      | true => exact hderived relative h
      | false => cases h

theorem normalizeSignalStrength_percent :
    (normalizeSignalStrength status stats reading).Sat FeLevel.Percent fun _ => False := by
  rw [normalizeSignalStrength_eq, sat_ok]
  refine fun relative h => relativeOf_le (fun relative h => ?_) h
  cases hlast : stats.last feScaleDecibel with
  | some value =>
      rw [hlast] at h
      rw [← Option.some.inj h]
      exact levelMap_le (by decide) value
  | none =>
      rw [hlast] at h
      exact ofReading_le h

theorem normalizeSnr_percent :
    (normalizeSnr status deliverySystem modulation stats reading).Sat FeLevel.Percent fun _ => False := by
  rw [normalizeSnr_eq, sat_ok]
  refine fun relative h => relativeOf_le (fun relative h => ?_) h
  cases hlast : stats.last feScaleDecibel with
  | some value =>
      rw [hlast, snrDerived] at h
      obtain ⟨hi, htable, rfl⟩ := Option.map_eq_some_iff.mp h
      exact levelMap_le (Snr.hi_bounds htable).1 value
  | none =>
      rw [hlast] at h
      exact ofReading_le h

theorem FeStats.read_ne_panic (fe : FeDevice) : FeStats.read fe ≠ .panic := by
  rw [FeStats.read]
  cases fe.readStatus with
  | error e => nofun
  | ok status =>
      cases fe.getProperties with
      | error e => nofun
      | ok props =>
          simp only [ofExcept_ok, ok_bind]
          rw [normalizeSignalStrength_eq, normalizeSnr_eq]
          nofun

end Percent

theorem normalize_graded :
    (∀ status stats reading, (normalizeSignalStrength status stats reading).Sat FeLevel.Percent fun _ => False) ∧
    (∀ status deliverySystem modulation stats reading,
      (normalizeSnr status deliverySystem modulation stats reading).Sat FeLevel.Percent fun _ => False) ∧
    (∃ map, Graded SignalStrength.lo SignalStrength.hi map ∧ ∀ status stats reading value,
      status.contains .hasSignal → stats.last feScaleRelative = none → stats.last feScaleDecibel = some value →
        (normalizeSignalStrength status stats reading).Sat (fun level => level.relative = some (map value)) fun _ => False) ∧
    ∀ deliverySystem modulation hi, Snr.hi deliverySystem modulation = some hi →
      ∃ map, Graded 0 hi map ∧ ∀ status stats reading value,
        status.contains .hasCarrier → stats.last feScaleRelative = none → stats.last feScaleDecibel = some value →
          (normalizeSnr status deliverySystem modulation stats reading).Sat
            (fun level => level.relative = some (map value)) fun _ => False := by
  refine ⟨fun _ _ _ => normalizeSignalStrength_percent, fun _ _ _ _ _ => normalizeSnr_percent,
    ⟨signalMap, graded_levelMap (by decide), ?_⟩, ?_⟩
  · intro status stats reading value flagged hreported hdecibel
    rw [normalizeSignalStrength_eq, sat_ok, flagged, hreported, hdecibel]
    rfl
  · intro deliverySystem modulation hi htable
    refine ⟨levelMap 0 hi, graded_levelMap (Snr.hi_bounds htable).1, ?_⟩
    intro status stats reading value flagged hreported hdecibel
    rw [normalizeSnr_eq, sat_ok, flagged, hreported, hdecibel, snrDerived, htable]
    rfl

example : levelMap SignalStrength.lo SignalStrength.hi (-38560) = 58 := by decide +kernel

structure Settled (flagged : Bool) (stats : DtvFrontendStats) (reading : Except Error UInt16) (level : FeLevel) : Prop where
  present : flagged → (∃ value, reading = .ok value) → level.relative.isSome
  kept : ∀ value, stats.last feScaleRelative = some value → level.relative = some (reported value)

def FallsBack (status : FeStatusFlags) (deliverySystem : DeliverySystem) (modulation : Modulation)
    (signalStats snrStats : DtvFrontendStats) (strength snr : Except Error UInt16) : Prop :=
  (normalizeSignalStrength status signalStats strength).Sat
      (Settled (status.contains .hasSignal) signalStats strength) (fun _ => False) ∧
    (normalizeSnr status deliverySystem modulation snrStats snr).Sat
      (Settled (status.contains .hasCarrier) snrStats snr) fun _ => False

theorem relativeOf_kept {flagged : Bool} {derived : Option UInt32} {value : Int64}
    (h : stats.last feScaleRelative = some value) :
    relativeOf ((stats.last feScaleRelative).map reported) flagged derived = some (reported value) := by
  rw [h]
  rfl

theorem normalizeSignalStrength_settled : (normalizeSignalStrength status stats reading).Sat
    (Settled (status.contains .hasSignal) stats reading) fun _ => False := by
  rw [normalizeSignalStrength_eq, sat_ok]
  refine ⟨?_, fun value h => relativeOf_kept h⟩
  rintro flagged ⟨value, rfl⟩
  rw [flagged, relativeOf, if_pos rfl, Option.isSome_or, Option.isSome_or]
  exact Bool.or_eq_true_iff.mpr (.inr (Bool.or_eq_true_iff.mpr (.inr rfl)))

structure OutOfTable (status : FeStatusFlags) (deliverySystem : DeliverySystem) (modulation : Modulation)
    (stats : DtvFrontendStats) : Prop where
  carrier : status.contains .hasCarrier
  unreported : stats.last feScaleRelative = none
  decibel : (stats.last feScaleDecibel).isSome
  missing : Snr.hi deliverySystem modulation = none

theorem normalizeSnr_settled_iff : (normalizeSnr status deliverySystem modulation stats reading).Sat
    (Settled (status.contains .hasCarrier) stats reading) (fun _ => False) ↔
      ¬ (OutOfTable status deliverySystem modulation stats ∧ ∃ value, reading = .ok value) := by
  rw [normalizeSnr_eq, sat_ok]
  constructor
  · rintro ⟨present, _⟩ ⟨out, read⟩
    have hsome := present out.carrier read
    obtain ⟨value, hdecibel⟩ := Option.isSome_iff_exists.mp out.decibel
    rw [out.unreported, hdecibel, snrDerived, out.missing] at hsome
    cases hflag : status.contains .hasCarrier <;> simp [relativeOf, hflag] at hsome
  · intro hin
    refine ⟨fun flagged read => ?_, fun value h => relativeOf_kept h⟩
    cases hreported : stats.last feScaleRelative with
    | some value => rfl
    | none =>
        rw [flagged, relativeOf, if_pos rfl, Option.map_none, Option.none_or]
        cases hdecibel : stats.last feScaleDecibel with
        | none =>
            obtain ⟨value, rfl⟩ := read
            rfl
        | some value =>
            cases htable : Snr.hi deliverySystem modulation with
            | some hi =>
                rw [snrDerived, htable]
                rfl
            | none =>
                refine absurd ⟨⟨flagged, hreported, ?_, htable⟩, read⟩ hin
                rw [hdecibel]
                rfl

theorem fallsBack_iff : FallsBack status deliverySystem modulation signalStats snrStats strength snr ↔
    ¬ (status.contains .hasCarrier ∧ snrStats.last feScaleRelative = none ∧ (snrStats.last feScaleDecibel).isSome ∧
      Snr.hi deliverySystem modulation = none ∧ ∃ value, snr = .ok value) := by
  rw [FallsBack, normalizeSnr_settled_iff]
  constructor
  · rintro ⟨_, hin⟩ ⟨carrier, unreported, decibel, missing, read⟩
    exact hin ⟨⟨carrier, unreported, decibel, missing⟩, read⟩
  · intro hin
    refine ⟨normalizeSignalStrength_settled, fun ⟨out, read⟩ => hin ?_⟩
    exact ⟨out.carrier, out.unreported, out.decibel, out.missing, read⟩

theorem not_fallsBack_isdbt : ¬ ∀ status deliverySystem modulation signalStats snrStats strength snr,
    FallsBack status deliverySystem modulation signalStats snrStats strength snr := by
  intro h
  let stat : DtvStats := ⟨feScaleDecibel, 15000⟩
  let stats : DtvFrontendStats := ⟨1, ⟨#[stat, stat, stat, stat], rfl⟩⟩
  have hread := h ⟨0x1F⟩ .isdbt .qam64 stats stats (.ok 0x8000) (.ok 0x8000)
  have hsettled := normalizeSnr_settled_iff.mp hread.2
  exact hsettled ⟨⟨by decide, by decide, by decide, rfl⟩, 0x8000, rfl⟩

end LibDvb
