import Mathlib.Data.List.Basic

namespace LibDvb

abbrev KeyMap (V : Type) : Type := Std.ExtTreeMap UInt16 V

namespace KeyMap

variable {V W : Type} {m m' : KeyMap V}

theorem ext (h : ∀ k : UInt16, m[k]? = m'[k]?) : m = m' := Std.ExtTreeMap.ext_getElem? h

@[simp] theorem get_empty (k : UInt16) : (∅ : KeyMap V)[k]? = none :=
  Std.ExtTreeMap.getElem?_empty

theorem get_insert (k j : UInt16) (v : V) :
    (m.insert k v)[j]? = if k = j then some v else m[j]? := by
  simp only [Std.ExtTreeMap.getElem?_insert, Std.LawfulEqCmp.compare_eq_iff_eq]

theorem get_erase (k j : UInt16) : (m.erase k)[j]? = if k = j then none else m[j]? := by
  simp only [Std.ExtTreeMap.getElem?_erase, Std.LawfulEqCmp.compare_eq_iff_eq]

@[simp] theorem get_insert_self (k : UInt16) (v : V) : (m.insert k v)[k]? = some v := by
  rw [get_insert, if_pos rfl]

theorem get_insert_of_ne {k j : UInt16} (h : k ≠ j) (v : V) : (m.insert k v)[j]? = m[j]? := by
  rw [get_insert, if_neg h]

theorem insert_insert (k : UInt16) (v w : V) : (m.insert k v).insert k w = m.insert k w := by
  refine ext fun j => ?_
  simp only [get_insert]
  split <;> rfl

theorem insert_self_eq {k : UInt16} {v : V} (h : m[k]? = some v) : m.insert k v = m := by
  refine ext fun j => ?_
  rw [get_insert]
  split
  · next hkj => rw [← hkj, h]
  · rfl

theorem erase_of_none {k : UInt16} (h : m[k]? = none) : m.erase k = m := by
  refine ext fun j => ?_
  rw [get_erase]
  split
  · next hkj => rw [← hkj, h]
  · rfl

theorem mem_toList {k : UInt16} {v : V} : (k, v) ∈ m.toList ↔ m[k]? = some v :=
  Std.ExtTreeMap.mem_toList_iff_getElem?_eq_some

theorem nodup_keys : (m.toList.map Prod.fst).Nodup := by
  rw [List.Nodup, List.pairwise_map]
  exact Std.ExtTreeMap.distinct_keys_toList.imp fun h he =>
    h (Std.LawfulEqCmp.compare_eq_iff_eq.mpr he)

theorem keys_eq : m.keys = m.toList.map Prod.fst := Std.ExtTreeMap.map_fst_toList_eq_keys.symm

theorem get_filter (p : UInt16 → V → Bool) (k : UInt16) :
    (m.filter p)[k]? = m[k]?.filter (p k) := by
  rw [Std.ExtTreeMap.getElem?_filter']

theorem filter_insert_of_true {p : UInt16 → V → Bool} {k : UInt16} {v : V} (h : p k v = true) :
    (m.insert k v).filter p = (m.filter p).insert k v := by
  refine ext fun j => ?_
  rw [get_filter, get_insert, get_insert, get_filter]
  by_cases hkj : k = j
  · subst hkj
    rw [if_pos rfl, if_pos rfl, Option.filter_some, if_pos h]
  · rw [if_neg hkj, if_neg hkj]

theorem filter_insert_of_false {p : UInt16 → V → Bool} {k : UInt16} {v : V} (h : p k v = false) :
    (m.insert k v).filter p = (m.filter p).erase k := by
  refine ext fun j => ?_
  rw [get_filter, get_insert, get_erase, get_filter]
  by_cases hkj : k = j
  · subst hkj
    rw [if_pos rfl, if_pos rfl, Option.filter_some, h, if_neg Bool.false_ne_true]
  · rw [if_neg hkj, if_neg hkj]

theorem filter_erase {p : UInt16 → V → Bool} (k : UInt16) : (m.erase k).filter p = (m.filter p).erase k := by
  refine ext fun j => ?_
  rw [get_filter, get_erase, get_erase, get_filter]
  by_cases hkj : k = j
  · rw [if_pos hkj, if_pos hkj, Option.filter_none]
  · rw [if_neg hkj, if_neg hkj]

def SameOn (p : V → Prop) (m m' : KeyMap V) : Prop :=
  ∀ (k : UInt16) v, p v → (m'[k]? = some v ↔ m[k]? = some v)

section SameOn

variable {p : V → Prop} {k : UInt16} {v : V}

theorem SameOn.refl (m : KeyMap V) : SameOn p m m := fun _ _ _ => Iff.rfl

theorem SameOn.trans {m'' : KeyMap V} (h : SameOn p m m') (h' : SameOn p m' m'') : SameOn p m m'' :=
  fun k v hv => (h' k v hv).trans (h k v hv)

theorem sameOn_insert (hv : ¬ p v) (hold : ∀ w, m[k]? = some w → ¬ p w) : SameOn p m (m.insert k v) := by
  intro j w hw
  rw [get_insert]
  split
  · next hkj =>
      subst hkj
      constructor
      · rintro ⟨⟩
        exact absurd hw hv
      · intro hk
        exact absurd hw (hold w hk)
  · rfl

theorem sameOn_erase (hold : ∀ w, m[k]? = some w → ¬ p w) : SameOn p m (m.erase k) := by
  intro j w hw
  rw [get_erase]
  split
  · next hkj =>
      subst hkj
      constructor
      · nofun
      · intro hk
        exact absurd hw (hold w hk)
  · rfl

theorem SameOn.filter {p : V → Bool} (h : SameOn (p · = true) m m') :
    m'.filter (fun _ v => p v) = m.filter fun _ v => p v := by
  refine ext fun k => ?_
  rw [get_filter, get_filter]
  refine Option.ext fun v => ?_
  rw [Option.filter_eq_some_iff, Option.filter_eq_some_iff]
  constructor
  · rintro ⟨hk, hv⟩
    exact ⟨(h k v hv).mp hk, hv⟩
  · rintro ⟨hk, hv⟩
    exact ⟨(h k v hv).mpr hk, hv⟩

end SameOn

end KeyMap

end LibDvb
