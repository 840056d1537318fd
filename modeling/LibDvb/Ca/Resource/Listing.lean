import LibDvb.Ca.Capmt.Listing
import LibDvb.Ca.Resource.Selection

namespace LibDvb

open CaPmt

def listingOf (caids : List UInt16) (selected : KeyMap Program) : Listing :=
  fun programNumber => selected[programNumber]?.map (Program.entry caids)

def ConditionalAccessSession.listing (session : ConditionalAccessSession) : Listing :=
  match session.caids with
  | some caids => listingOf caids session.selected
  | none => fun _ => none

def Tellable (caids : List UInt16) (selected : KeyMap Program) : Prop :=
  ∀ (programNumber : UInt16) program, selected[programNumber]? = some program →
    program.programNumber = programNumber ∧ program.Fits ∧ program.selectedBy caids = true

section Listing

variable {caids : List UInt16} {selected programs : KeyMap Program} {program : Program} {number : UInt16}

theorem listingOf_empty (caids : List UInt16) : listingOf caids ∅ = fun _ => none := by
  funext programNumber
  rw [listingOf, KeyMap.get_empty, Option.map_none]

theorem listingOf_insert : listingOf caids (selected.insert number program) =
    Function.update (listingOf caids selected) number (some (program.entry caids)) := by
  funext other
  rw [listingOf, KeyMap.get_insert, Function.update_apply]
  by_cases heq : number = other
  · rw [if_pos heq, if_pos heq.symm, Option.map_some]
  · rw [if_neg heq, if_neg (Ne.symm heq), listingOf]

theorem listingOf_erase :
    listingOf caids (selected.erase number) = Function.update (listingOf caids selected) number none := by
  funext other
  rw [listingOf, KeyMap.get_erase, Function.update_apply]
  by_cases heq : number = other
  · rw [if_pos heq, if_pos heq.symm, Option.map_none]
  · rw [if_neg heq, if_neg (Ne.symm heq), listingOf]

theorem listingOf_of_some (h : selected[number]? = some program) :
    listingOf caids selected number = some (program.entry caids) := by
  rw [listingOf, h, Option.map_some]

theorem listingOf_of_none (h : selected[number]? = none) : listingOf caids selected number = none := by
  rw [listingOf, h, Option.map_none]

theorem build_selected (h : program.Fits) (hselected : program.selectedBy caids = true)
    (listManagement : CaPmtListManagement) (command : CaPmtCommand) :
    ∃ body, program.buildCaPmt caids listManagement command = .ok (some body) := by
  obtain ⟨body, hbuild, _⟩ := buildCaPmt_fits h caids listManagement command
  have hsome := selectedBy_of_buildCaPmt hbuild
  rw [hselected] at hsome
  obtain ⟨bytes, rfl⟩ := Option.isSome_iff_exists.mp hsome.symm
  exact ⟨bytes, hbuild⟩

theorem build_unselected (h : program.Fits) (hselected : program.selectedBy caids = false)
    (listManagement : CaPmtListManagement) (command : CaPmtCommand) :
    program.buildCaPmt caids listManagement command = .ok none := by
  obtain ⟨body, hbuild, _⟩ := buildCaPmt_fits h caids listManagement command
  have hnone := selectedBy_of_buildCaPmt hbuild
  rw [hselected] at hnone
  rw [hbuild, Option.not_isSome_iff_eq_none.mp (Bool.eq_false_iff.mp hnone.symm)]

end Listing

namespace ConditionalAccessResource

section Change

variable {caids : List UInt16} {session : ConditionalAccessSession} {programs : KeyMap Program} {number : UInt16}
  {change : CaPmtChange}

theorem withdrawal_replays (h : Tellable caids session.selected) (number : UInt16) :
    (withdrawal session caids number).2 = session.selected.erase number ∧
      (withdrawal session caids number).1.foldlM receive (listingOf caids session.selected) =
        some (listingOf caids (session.selected.erase number)) := by
  rw [withdrawal]
  cases hselected : session.selected[number]? with
  | none =>
      rw [KeyMap.erase_of_none hselected]
      exact ⟨rfl, rfl⟩
  | some program =>
      obtain ⟨hnumber, hfits, hmatches⟩ := h number program hselected
      obtain ⟨body, hbuild⟩ := build_selected hfits hmatches .update .notSelected
      have hlisted : listingOf caids session.selected program.programNumber ≠ none := by
        rw [hnumber, listingOf_of_some hselected]
        exact Option.some_ne_none _
      dsimp only
      rw [hbuild]
      refine ⟨rfl, ?_⟩
      rw [List.foldlM_cons, receive_withdrawal hbuild hlisted, hnumber, listingOf_erase]
      rfl

theorem selection_replays {program : Program} {body : Bytes}
    (h : program.buildCaPmt caids (listManagement session program) .okDescrambling = .ok (some body)) :
    receive (listingOf caids session.selected) body =
      some (listingOf caids (session.selected.insert program.programNumber program)) := by
  rw [listingOf_insert]
  unfold listManagement at h
  cases hprevious : session.selected[program.programNumber]? with
  | some previous =>
      rw [hprevious, Option.isSome_some, if_pos rfl] at h
      refine receive_update h ?_
      rw [listingOf_of_some hprevious]
      exact Option.some_ne_none _
  | none =>
      rw [hprevious, Option.isSome_none, if_neg Bool.false_ne_true] at h
      split at h
      · next hempty =>
          rw [Std.ExtTreeMap.isEmpty_iff.mp hempty, listingOf_empty]
          exact receive_only h
      · exact receive_add h (listingOf_of_none hprevious)

theorem changePlan_replays (hcaids : session.caids = some caids) (h : Tellable caids session.selected)
    (hfits : change.Fits) (hselected : session.selected = programs.filter fun _ program => program.selectedBy caids) :
    (changePlan session change).2 = (applyChange programs change).filter (fun _ program => program.selectedBy caids) ∧
      (changePlan session change).1.foldlM receive (listingOf caids session.selected) =
        some (listingOf caids (changePlan session change).2) := by
  cases change with
  | set program =>
      cases hmatches : program.selectedBy caids with
      | true =>
          obtain ⟨body, hbuild⟩ := build_selected hfits hmatches (listManagement session program) .okDescrambling
          simp only [changePlan, hcaids, hbuild, applyChange]
          rw [KeyMap.filter_insert_of_true hmatches, ← hselected, List.foldlM_cons, selection_replays hbuild]
          exact ⟨rfl, rfl⟩
      | false =>
          simp only [changePlan, hcaids, build_unselected hfits hmatches, applyChange]
          obtain ⟨herased, hreplays⟩ := withdrawal_replays h program.programNumber
          rw [KeyMap.filter_insert_of_false hmatches, ← hselected, herased]
          exact ⟨rfl, hreplays⟩
  | remove programNumber =>
      simp only [changePlan, hcaids, applyChange]
      obtain ⟨herased, hreplays⟩ := withdrawal_replays h programNumber
      rw [KeyMap.filter_erase, ← hselected, herased]
      exact ⟨rfl, hreplays⟩

end Change

section Info

variable {caids : List UInt16} {session : ConditionalAccessSession} {programs selected : KeyMap Program}

structure Numbered (entries : List (UInt16 × Program)) : Prop where
  numbers : ∀ entry ∈ entries, entry.2.programNumber = entry.1
  fits : ∀ entry ∈ entries, entry.2.Fits
  nodup : (entries.map Prod.fst).Nodup

theorem Numbered.tail {entry : UInt16 × Program} {rest : List (UInt16 × Program)} (h : Numbered (entry :: rest)) :
    Numbered rest :=
  ⟨fun other hmem => h.numbers other (List.mem_cons_of_mem _ hmem),
    fun other hmem => h.fits other (List.mem_cons_of_mem _ hmem), (List.nodup_cons.mp h.nodup).2⟩

def Fresh (selected : KeyMap Program) (entries : List (UInt16 × Program)) : Prop :=
  ∀ entry ∈ entries, selected[entry.1]? = none

theorem Fresh.tail {entry : UInt16 × Program} {rest : List (UInt16 × Program)} (h : Fresh selected (entry :: rest)) :
    Fresh selected rest := fun other hmem => h other (List.mem_cons_of_mem _ hmem)

theorem Fresh.insert {number : UInt16} {program : Program} {rest : List (UInt16 × Program)}
    (h : Fresh selected ((number, program) :: rest)) (hnodup : (((number, program) :: rest).map Prod.fst).Nodup) :
    Fresh (selected.insert number program) rest := by
  intro other hmem
  have hne : number ≠ other.1 := fun heq =>
    (List.nodup_cons.mp hnodup).1 (List.mem_map.mpr ⟨other, hmem, heq.symm⟩)
  rw [KeyMap.get_insert_of_ne hne]
  exact h.tail other hmem

theorem selectPlan_selected {entries : List (UInt16 × Program)} (h : Numbered entries) (fresh : Fresh selected entries)
    (number : UInt16) (program : Program) : (selectPlan caids selected entries).2[number]? = some program ↔
      selected[number]? = some program ∨ (number, program) ∈ entries ∧ program.selectedBy caids = true := by
  induction entries generalizing selected with
  | nil => simp [selectPlan]
  | cons entry rest ih =>
      obtain ⟨first, entry⟩ := entry
      have hfits := h.fits _ List.mem_cons_self
      cases hmatches : entry.selectedBy caids with
      | true =>
          obtain ⟨body, hbuild⟩ := build_selected hfits hmatches (if selected.isEmpty then .only else .add)
            .okDescrambling
          simp only [selectPlan, hbuild]
          rw [ih h.tail (fresh.insert h.nodup), KeyMap.get_insert, List.mem_cons, Prod.mk.injEq]
          by_cases heq : first = number
          · subst heq
            rw [if_pos rfl, fresh _ List.mem_cons_self]
            constructor
            · rintro (hsame | ⟨hmem, hselected⟩)
              · obtain rfl := Option.some.inj hsame
                exact .inr ⟨.inl ⟨rfl, rfl⟩, hmatches⟩
              · exact .inr ⟨.inr hmem, hselected⟩
            · rintro (hnone | ⟨⟨_, rfl⟩ | hmem, hselected⟩)
              · cases hnone
              · exact .inl rfl
              · exact .inr ⟨hmem, hselected⟩
          · rw [if_neg heq]
            constructor
            · rintro (hold | ⟨hmem, hselected⟩)
              · exact .inl hold
              · exact .inr ⟨.inr hmem, hselected⟩
            · rintro (hold | ⟨⟨rfl, _⟩ | hmem, hselected⟩)
              · exact .inl hold
              · exact absurd rfl heq
              · exact .inr ⟨hmem, hselected⟩
      | false =>
          simp only [selectPlan, build_unselected hfits hmatches]
          rw [ih h.tail fresh.tail, List.mem_cons, Prod.mk.injEq]
          constructor
          · rintro (hold | ⟨hmem, hselected⟩)
            · exact .inl hold
            · exact .inr ⟨.inr hmem, hselected⟩
          · rintro (hold | ⟨⟨_, rfl⟩ | hmem, hselected⟩)
            · exact .inl hold
            · cases hselected.symm.trans hmatches
            · exact .inr ⟨hmem, hselected⟩

theorem selectPlan_replays {entries : List (UInt16 × Program)} {listing : Listing} (h : Numbered entries)
    (fresh : Fresh selected entries) (told : selected ≠ ∅ → listing = listingOf caids selected) :
    (selectPlan caids selected entries).1.foldlM receive listing =
      some (if (selectPlan caids selected entries).2 = ∅ then listing
        else listingOf caids (selectPlan caids selected entries).2) := by
  induction entries generalizing selected listing with
  | nil =>
      rw [selectPlan]
      split
      · rfl
      · next hne =>
          rw [told hne]
          rfl
  | cons entry rest ih =>
      obtain ⟨number, program⟩ := entry
      have hfits := h.fits _ List.mem_cons_self
      cases hmatches : program.selectedBy caids with
      | true =>
          obtain ⟨body, hbuild⟩ := build_selected hfits hmatches (if selected.isEmpty then .only else .add)
            .okDescrambling
          have hnumber : program.programNumber = number := h.numbers _ List.mem_cons_self
          have hreceives : receive listing body = some (listingOf caids (selected.insert number program)) := by
            rw [← hnumber, listingOf_insert]
            by_cases hempty : selected = ∅
            · subst hempty
              rw [listingOf_empty]
              exact receive_only hbuild
            · rw [if_neg (mt Std.ExtTreeMap.isEmpty_iff.mp hempty)] at hbuild
              rw [told hempty]
              refine receive_add hbuild (listingOf_of_none ?_)
              rw [hnumber]
              exact fresh _ List.mem_cons_self
          have hfresh := fresh.insert h.nodup
          have hlast := ih h.tail hfresh fun _ => rfl
          have hne : (selectPlan caids (selected.insert number program) rest).2 ≠ ∅ := by
            intro hempty
            have hkept := (@selectPlan_selected caids _ _ h.tail hfresh number program).mpr
              (.inl (KeyMap.get_insert_self _ _))
            rw [hempty, KeyMap.get_empty] at hkept
            cases hkept
          simp only [selectPlan, hbuild]
          rw [List.foldlM_cons, hreceives, if_neg hne]
          rw [if_neg hne] at hlast
          exact hlast
      | false =>
          simp only [selectPlan, build_unselected hfits hmatches]
          exact ih h.tail fresh.tail told

theorem withdrawPlan_replays {entries : List (UInt16 × Program)} {listing : Listing} (h : Numbered entries)
    (hselected : ∀ entry ∈ entries, entry.2.selectedBy caids = true)
    (listed : ∀ entry ∈ entries, listing entry.1 ≠ none) :
    (withdrawPlan caids entries).foldlM receive listing =
      some fun number => if number ∈ entries.map Prod.fst then none else listing number := by
  induction entries generalizing listing with
  | nil => simp [withdrawPlan]
  | cons entry rest ih =>
      obtain ⟨number, program⟩ := entry
      obtain ⟨body, hbuild⟩ := build_selected (h.fits _ List.mem_cons_self) (hselected _ List.mem_cons_self) .update
        .notSelected
      have hnumber : program.programNumber = number := h.numbers _ List.mem_cons_self
      have hlisted : listing program.programNumber ≠ none := by
        rw [hnumber]
        exact listed _ List.mem_cons_self
      have hfirst : number ∉ rest.map Prod.fst := (List.nodup_cons.mp h.nodup).1
      have hplan : withdrawPlan caids ((number, program) :: rest) = body :: withdrawPlan caids rest := by
        simp only [withdrawPlan, List.filterMap_cons, hbuild]
      have hrest : ∀ entry ∈ rest, Function.update listing number none entry.1 ≠ none := by
        intro entry hmem
        have hne : entry.1 ≠ number := fun heq => hfirst (List.mem_map.mpr ⟨entry, hmem, heq⟩)
        rw [Function.update_of_ne hne]
        exact listed _ (List.mem_cons_of_mem _ hmem)
      rw [hplan, List.foldlM_cons, receive_withdrawal hbuild hlisted, hnumber]
      refine (ih h.tail (fun other hmem => hselected other (List.mem_cons_of_mem _ hmem)) hrest).trans ?_
      congr 1
      funext other
      by_cases heq : other = number
      · simp [heq]
      · rw [Function.update_of_ne heq]
        simp only [List.map_cons, List.mem_cons, heq, false_or]

theorem numbered_toList (hnumbers : ∀ (number : UInt16) program, programs[number]? = some program →
    program.programNumber = number) (hfits : ∀ (number : UInt16) program, programs[number]? = some program →
      program.Fits) : Numbered programs.toList :=
  ⟨fun _ hmem => hnumbers _ _ (KeyMap.mem_toList.mp hmem), fun _ hmem => hfits _ _ (KeyMap.mem_toList.mp hmem),
    KeyMap.nodup_keys⟩

theorem numbered_tellable (h : Tellable caids selected) : Numbered selected.toList :=
  numbered_toList (fun _ _ known => (h _ _ known).1) fun _ _ known => (h _ _ known).2.1

theorem withdrawPlan_empties (h : Tellable caids selected) :
    (withdrawPlan caids selected.toList).foldlM receive (listingOf caids selected) = some fun _ => none := by
  rw [withdrawPlan_replays (numbered_tellable h)]
  · congr 1
    funext number
    split
    · rfl
    · next hmem =>
        refine listingOf_of_none (Option.eq_none_iff_forall_ne_some.mpr fun program known => hmem ?_)
        exact List.mem_map.mpr ⟨(number, program), KeyMap.mem_toList.mpr known, rfl⟩
  · exact fun _ hmem => (h _ _ (KeyMap.mem_toList.mp hmem)).2.2
  · intro entry hmem
    rw [listingOf_of_some (KeyMap.mem_toList.mp hmem)]
    exact Option.some_ne_none _

theorem infoPlan_filters (h : Numbered programs.toList) :
    (infoPlan programs session caids).2 = programs.filter fun _ program => program.selectedBy caids := by
  rw [infoPlan_selected]
  refine KeyMap.ext fun number => Option.ext fun program => ?_
  rw [selectPlan_selected h (fun _ _ => KeyMap.get_empty _), KeyMap.get_empty, KeyMap.mem_toList, KeyMap.get_filter]
  simp

theorem infoPlan_replays (h : Numbered programs.toList)
    (htold : ∀ old, session.caids = some old → Tellable old session.selected) :
    (infoPlan programs session caids).1.foldlM receive session.listing =
      some (listingOf caids (infoPlan programs session caids).2) := by
  have hselects := @selectPlan_replays caids ∅ programs.toList session.listing h (fun _ _ => KeyMap.get_empty _)
    fun hne => absurd rfl hne
  rw [infoPlan_selected, infoPlan]
  dsimp only
  split
  · next hempty =>
      rw [Std.ExtTreeMap.isEmpty_iff] at hempty
      rw [if_pos hempty] at hselects
      rw [hempty, listingOf_empty]
      split
      · next old hold =>
          rw [List.foldlM_append, hselects]
          have hlisting : session.listing = listingOf old session.selected := by
            rw [ConditionalAccessSession.listing, hold]
          rw [hlisting]
          exact withdrawPlan_empties (htold old hold)
      · next hnone =>
          rw [hselects, ConditionalAccessSession.listing, hnone]
  · next hsome =>
      rw [Std.ExtTreeMap.isEmpty_iff] at hsome
      rw [hselects, if_neg hsome]

end Info

end ConditionalAccessResource

end LibDvb
