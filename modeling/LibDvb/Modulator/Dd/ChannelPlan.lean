import LibDvb.Basis.Machine
import LibDvb.Modulator.Dd

namespace LibDvb

open Outcome

variable {endian : Endian} {region : ModSetupChannels} {regions : List ModSetupChannels} {cmd : MciCommand}

-- The region at stride `i` and its reserved byte, as the firmware reads them.
def regionAt (endian : Endian) (params : Bytes) (i : Nat) : Option (ModSetupChannels × UInt8) :=
  match (params.drop (i * ModSetupChannels.size)).take ModSetupChannels.size with
  | [flags, standard, numChannels, rsvd, f0, f1, f2, f3, o0, o1, o2, o3, b0, b1, b2, b3] =>
      some ({ flags, standard, numChannels
              frequency := ofNeBytes endian [f0, f1, f2, f3]
              offset := ofNeBytes endian [o0, o1, o2, o3]
              bandwidth := ofNeBytes endian [b0, b1, b2, b3] }, rsvd)
  | _ => none

structure ModSetupChannels.Frames (count i : Nat) (flags : UInt8) : Prop where
  valid : flags &&& modSetupFlagValid ≠ 0
  first : flags &&& modSetupFlagFirst ≠ 0 ↔ i = 0
  last : flags &&& modSetupFlagLast ≠ 0 ↔ i + 1 = count

structure MciCommand.Framed (endian : Endian) (regions : List ModSetupChannels) (cmd : MciCommand) : Prop where
  command : cmd.command = modSetupChannels
  read : ∀ i region, regions[i]? = some region → ∃ flags, regionAt endian cmd.params i = some ({ region with flags }, 0) ∧
    ModSetupChannels.Frames regions.length i flags
  length : cmd.params.length = MciCommand.paramsSize
  rest : ∀ b ∈ cmd.params.drop (regions.length * ModSetupChannels.size), b = 0

def Unmarked (regions : List ModSetupChannels) : Prop :=
  ∀ i region, regions[i]? = some region →
    (i ≠ 0 → region.flags &&& modSetupFlagFirst = 0) ∧ (i + 1 ≠ regions.length → region.flags &&& modSetupFlagLast = 0)

section Flags

def markers (first last : Bool) (flags : UInt8) : UInt8 :=
  let flags := flags ||| modSetupFlagValid
  let flags := if first then flags ||| modSetupFlagFirst else flags
  if last then flags ||| modSetupFlagLast else flags

theorem markers_set (first last : Bool) (flags : UInt8) : markers first last flags &&& modSetupFlagValid ≠ 0 ∧
    (markers first last flags &&& modSetupFlagFirst ≠ 0 ↔ first = true ∨ flags &&& modSetupFlagFirst ≠ 0) ∧
      (markers first last flags &&& modSetupFlagLast ≠ 0 ↔ last = true ∨ flags &&& modSetupFlagLast ≠ 0) := by
  revert flags
  apply forall_uint8
  cases first <;> cases last <;> decide +kernel

theorem marked_eq (count i : Nat) (region : ModSetupChannels) :
    region.marked count i = { region with flags := markers (i = 0) (i = count - 1) region.flags } := by
  simp only [ModSetupChannels.marked, markers, decide_eq_true_eq]

theorem frames_marked {count i : Nat} (hi : i < count) :
    ModSetupChannels.Frames count i (markers (i = 0) (i = count - 1) region.flags) ↔
      (i ≠ 0 → region.flags &&& modSetupFlagFirst = 0) ∧ (i + 1 ≠ count → region.flags &&& modSetupFlagLast = 0) := by
  have hlast : i = count - 1 ↔ i + 1 = count := by omega
  obtain ⟨hvalid, hfirst, hend⟩ := markers_set (i = 0) (i = count - 1) region.flags
  rw [decide_eq_true_eq] at hfirst hend
  have hend := hend.trans (or_congr_left hlast)
  constructor
  · intro h
    constructor
    · intro hne
      by_contra hset
      exact hne (h.first.mp (hfirst.mpr (.inr hset)))
    · intro hne
      by_contra hset
      exact hne (h.last.mp (hend.mpr (.inr hset)))
  · rintro ⟨hfront, hback⟩
    refine ⟨hvalid, hfirst.trans ⟨?_, .inl⟩, hend.trans ⟨?_, .inl⟩⟩
    · rintro (heq | hset)
      · exact heq
      · by_contra hne
        exact hset (hfront hne)
    · rintro (heq | hset)
      · exact heq
      · by_contra hne
        exact hset (hback hne)

end Flags

section Params

theorem length_encoded (endian : Endian) (region : ModSetupChannels) :
    (region.encoded endian).length = ModSetupChannels.size := by
  simp [ModSetupChannels.encoded, length_toNeBytes, ModSetupChannels.size]

theorem regionAt_encoded (region : ModSetupChannels) {before after : Bytes} {i : Nat}
    (hbefore : before.length = i * ModSetupChannels.size) :
    regionAt endian (before ++ (region.encoded endian ++ after)) i = some (region, 0) := by
  have hdrop : (before ++ (region.encoded endian ++ after)).drop (i * ModSetupChannels.size) =
      region.encoded endian ++ after := by
    rw [← hbefore, List.drop_left]
  have htake : (region.encoded endian ++ after).take ModSetupChannels.size = region.encoded endian := by
    rw [← length_encoded endian region, List.take_left]
  have hfrequency := ofNeBytes_toNeBytes endian region.frequency
  have hoffset := ofNeBytes_toNeBytes endian region.offset
  have hbandwidth := ofNeBytes_toNeBytes endian region.bandwidth
  rw [regionAt, hdrop, htake]
  cases endian with
  | little =>
      simp only [ModSetupChannels.encoded, Endian.toNeBytes, List.cons_append, List.nil_append] at *
      rw [hfrequency, hoffset, hbandwidth]
  | big =>
      simp only [ModSetupChannels.encoded, Endian.toNeBytes, List.reverse_cons, List.reverse_nil, List.cons_append,
        List.nil_append] at *
      rw [hfrequency, hoffset, hbandwidth]

def planBytes (endian : Endian) (count : Nat) (regions : List ModSetupChannels) (i : Nat) : Bytes :=
  (regions.zipIdx i).flatMap fun (region, i) => (region.marked count i).encoded endian

theorem planBytes_cons (count i : Nat) : planBytes endian count (region :: regions) i =
    (region.marked count i).encoded endian ++ planBytes endian count regions (i + 1) := by
  rw [planBytes, List.zipIdx_cons, List.flatMap_cons]
  rfl

theorem length_planBytes (count i : Nat) :
    (planBytes endian count regions i).length = regions.length * ModSetupChannels.size := by
  induction regions generalizing i with
  | nil => rw [List.length_nil, Nat.zero_mul]; rfl
  | cons region regions ih =>
      rw [planBytes_cons, List.length_append, length_encoded, ih, List.length_cons, Nat.succ_mul, Nat.add_comm]

theorem setupRegions_eq {count i room : Nat} {done : Bytes} (hdone : done.length = i * ModSetupChannels.size)
    (hroom : regions.length * ModSetupChannels.size ≤ room) :
    setupRegions endian count i regions (done ++ List.replicate room 0) =
      .ok (done ++ planBytes endian count regions i ++
        List.replicate (room - regions.length * ModSetupChannels.size) 0) := by
  induction regions generalizing i room done with
  | nil =>
      rw [setupRegions, List.length_nil, Nat.zero_mul, Nat.sub_zero]
      simp [planBytes]
  | cons region regions ih =>
      rw [List.length_cons, Nat.succ_mul] at hroom
      have hle : done.length ≤ (done ++ List.replicate room (0 : UInt8)).length := by simp
      have hsize : ModSetupChannels.size ≤ (List.replicate room (0 : UInt8)).length := by
        rw [List.length_replicate]
        omega
      have hnext : (done ++ (region.marked count i).encoded endian).length = (i + 1) * ModSetupChannels.size := by
        rw [List.length_append, length_encoded, hdone, Nat.succ_mul]
      have hfits : regions.length * ModSetupChannels.size ≤ room - ModSetupChannels.size := by omega
      have hrest := ih hnext hfits
      rw [setupRegions, ← hdone, sliceFrom, if_pos hle, List.drop_left, ok_bind, ModSetupChannels.writeTo,
        if_pos hsize, ok_bind, List.take_left, List.drop_replicate, ← List.append_assoc, hrest, planBytes_cons,
        List.append_assoc done, List.length_cons, Nat.succ_mul, Nat.sub_sub, Nat.add_comm ModSetupChannels.size]

theorem regionAt_plan {count i : Nat} {after : Bytes} (known : regions[i]? = some region) :
    regionAt endian (planBytes endian count regions 0 ++ after) i = some (region.marked count i, 0) := by
  have hstrides (start : Nat) (before : Bytes) (hbefore : before.length = start * ModSetupChannels.size) :
      regionAt endian (before ++ (planBytes endian count regions start ++ after)) (start + i) =
        some (region.marked count (start + i), 0) := by
    induction regions generalizing i start before with
    | nil => cases known
    | cons first regions ih =>
        rw [planBytes_cons, List.append_assoc]
        cases i with
        | zero =>
            obtain rfl : first = region := Option.some.inj known
            exact regionAt_encoded _ hbefore
        | succ i =>
            have hnext : (before ++ (first.marked count start).encoded endian).length =
                (start + 1) * ModSetupChannels.size := by
              rw [List.length_append, length_encoded, hbefore, Nat.succ_mul]
            have hrest := ih known (start + 1) _ hnext
            rw [List.append_assoc] at hrest
            rwa [show start + (i + 1) = start + 1 + i by omega]
  have hall := hstrides 0 [] (Nat.zero_mul _).symm
  rwa [Nat.zero_add, List.nil_append] at hall

end Params

section Plan

theorem setupChannelsCmd_ok (hne : regions ≠ []) (hle : regions.length ≤ 4) :
    ∃ room, setupChannelsCmd endian regions = .ok { MciCommand.new modSetupChannels 0 0 with
      params := planBytes endian regions.length regions 0 ++ List.replicate room 0 } ∧
        regions.length * ModSetupChannels.size + room = MciCommand.paramsSize := by
  have hroom : regions.length * ModSetupChannels.size ≤ MciCommand.paramsSize := by
    rw [ModSetupChannels.size, MciCommand.paramsSize]
    omega
  have hloop := @setupRegions_eq endian regions regions.length 0 _ [] (Nat.zero_mul _).symm hroom
  refine ⟨MciCommand.paramsSize - regions.length * ModSetupChannels.size, ?_, Nat.add_sub_of_le hroom⟩
  rw [setupChannelsCmd, if_neg (not_or.mpr ⟨hne, Nat.not_lt.mpr hle⟩)]
  dsimp only [MciCommand.new]
  rw [List.nil_append, List.nil_append] at hloop
  rw [hloop]
  rfl

theorem setupChannelsCmd_framed (endian : Endian) (regions : List ModSetupChannels) (hne : regions ≠ [])
    (hle : regions.length ≤ 4) :
    (∃ cmd, setupChannelsCmd endian regions = .ok cmd ∧ cmd.Framed endian regions) ↔ Unmarked regions := by
  obtain ⟨room, hcmd, hroom⟩ := @setupChannelsCmd_ok endian regions hne hle
  have hread {i : Nat} {region : ModSetupChannels} (known : regions[i]? = some region) :
      regionAt endian (planBytes endian regions.length regions 0 ++ List.replicate room 0) i =
        some ({ region with flags := markers (i = 0) (i = regions.length - 1) region.flags }, 0) := by
    rw [regionAt_plan known, marked_eq]
  constructor
  · rintro ⟨cmd, hrun, hframed⟩ i region known
    rw [hcmd, Outcome.ok.injEq] at hrun
    subst hrun
    obtain ⟨flags, hregion, hframes⟩ := hframed.read i region known
    rw [hread known, Option.some.injEq, Prod.mk.injEq, ModSetupChannels.mk.injEq] at hregion
    rw [← hregion.1.1] at hframes
    exact (frames_marked (List.getElem?_eq_some_iff.mp known).1).mp hframes
  · intro hunmarked
    refine ⟨_, hcmd, rfl, fun i region known => ⟨_, hread known, ?_⟩, ?_, fun b hmem => ?_⟩
    · exact (frames_marked (List.getElem?_eq_some_iff.mp known).1).mpr (hunmarked i region known)
    · rw [List.length_append, length_planBytes, List.length_replicate, hroom]
    · rw [← @length_planBytes endian regions regions.length 0, List.drop_left] at hmem
      exact List.eq_of_mem_replicate hmem

def plainRegion : ModSetupChannels where
  flags := 0
  standard := 1
  numChannels := 8
  frequency := 474000000
  offset := 0
  bandwidth := 0

theorem setupChannelsCmd_framed_two :
    (∃ cmd, setupChannelsCmd .little [plainRegion, plainRegion] = .ok cmd ∧
      cmd.Framed .little [plainRegion, plainRegion]) ↔ Unmarked [plainRegion, plainRegion] :=
  setupChannelsCmd_framed .little [plainRegion, plainRegion] (by decide) (by decide)

theorem setupChannelsCmd_stale : ¬ ∀ (endian : Endian) (regions : List ModSetupChannels), regions ≠ [] →
    regions.length ≤ 4 → ∃ cmd, setupChannelsCmd endian regions = .ok cmd ∧ cmd.Framed endian regions := by
  intro h
  let regions : List ModSetupChannels := [{ plainRegion with flags := 0x83 }, plainRegion]
  obtain ⟨cmd, hrun, hframed⟩ := h .little regions (by decide) (by decide)
  obtain ⟨flags, hregion, hframes⟩ := hframed.read 0 _ rfl
  have hcmd : setupChannelsCmd .little regions = .ok { MciCommand.new modSetupChannels 0 0 with
      params := (planBytes .little 2 regions 0 ++ List.replicate 92 0) } := by
    decide +kernel
  rw [hcmd, Outcome.ok.injEq] at hrun
  subst hrun
  have hflags : regionAt .little (planBytes .little 2 regions 0 ++ List.replicate 92 0) 0 =
      some ({ plainRegion with flags := 0x83 }, 0) := by
    decide +kernel
  rw [hflags] at hregion
  cases hregion
  exact absurd (hframes.last.mp (by decide)) (by decide)

end Plan

end LibDvb
