import Mathlib
import NodeQuery.OrderedMap

/-! Looking up in ordered maps. The entries of a map and its look-ups tell the same, so maps with
equal look-ups are equal, and an update changes what is stored under its own key only. -/

namespace NodeQuery.OrderedMap

variable {κ ν : Type} [Ord κ]

@[simp] theorem get?_empty (key : κ) : (empty : OrderedMap κ ν).get? key = none := by
  simp [get?, empty]

theorem pairwise_keys (map : OrderedMap κ ν) :
    map.keys.Pairwise fun earlier later => compare earlier later = .lt :=
  List.pairwise_map.mpr map.ascends

/-- Below its first key a map holds nothing. -/
theorem get?_eq_none_of_lt {key : κ} {entries : List (κ × ν)} (ascends : Ascends entries)
    (below : ∀ entry ∈ entries, compare key entry.1 = .lt) :
    (OrderedMap.mk entries ascends).get? key = none := by
  simp only [get?, Option.map_eq_none_iff, List.find?_eq_none, beq_iff_eq]
  intro entry member
  rw [below entry member]
  decide

variable [DecidableEq κ] [Std.LawfulEqOrd κ]

theorem get?_mk_cons (key other : κ) (value : ν) (rest : List (κ × ν))
    (ascends : Ascends ((other, value) :: rest)) (tail : Ascends rest) :
    (OrderedMap.mk ((other, value) :: rest) ascends).get? key =
      if key = other then some value else (OrderedMap.mk rest tail).get? key := by
  by_cases same : key = other
  · subst same
    simp [get?, Std.compare_self]
  · simp [get?, same]

theorem get?_eq_some_iff {map : OrderedMap κ ν} {key : κ} {value : ν} :
    map.get? key = some value ↔ (key, value) ∈ map.entries := by
  obtain ⟨entries, ascends⟩ := map
  induction entries with
  | nil => simp [get?]
  | cons head rest ih =>
    obtain ⟨first, stored⟩ := head
    have tail : Ascends rest := List.Pairwise.of_cons ascends
    rw [get?_mk_cons key first stored rest ascends tail]
    by_cases same : key = first
    · subst same
      have absent : (key, value) ∉ rest := by
        intro member
        have below : compare key key = .lt := List.rel_of_pairwise_cons ascends member
        simp [Std.compare_self] at below
      simp [absent, eq_comm]
    · rw [if_neg same, ih tail]
      simp [same]

@[simp] theorem get?_erase (map : OrderedMap κ ν) (key other : κ) :
    (map.erase key).get? other = if other = key then none else map.get? other := by
  apply Option.ext
  intro value
  rw [get?_eq_some_iff]
  by_cases same : other = key
  · subst same
    simp [erase, filter, Std.compare_self]
  · rw [if_neg same, get?_eq_some_iff]
    simp [erase, filter, Ne.symm same]

theorem mem_values {map : OrderedMap κ ν} {value : ν} :
    value ∈ map.values ↔ ∃ key, map.get? key = some value := by
  simp only [values, List.mem_map, Prod.exists, exists_eq_right, get?_eq_some_iff]

theorem mem_keys {map : OrderedMap κ ν} {key : κ} :
    key ∈ map.keys ↔ (map.get? key).isSome := by
  simp only [keys, List.mem_map, Prod.exists, exists_and_right, exists_eq_right,
    Option.isSome_iff_exists, get?_eq_some_iff]

variable [Std.TransOrd κ]

theorem get?_mk_upserted (key other : κ) (make : Option ν → ν) (entries : List (κ × ν))
    (ascends : Ascends entries) :
    (OrderedMap.mk (upserted key make entries) (ascends_upserted ascends)).get? other =
      if other = key then some (make ((OrderedMap.mk entries ascends).get? key))
      else (OrderedMap.mk entries ascends).get? other := by
  induction entries with
  | nil => exact get?_mk_cons other key (make none) [] (List.pairwise_singleton _ _) .nil
  | cons head rest ih =>
    obtain ⟨first, value⟩ := head
    have tail : Ascends rest := List.Pairwise.of_cons ascends
    have above : ∀ entry ∈ rest, compare first entry.1 = .lt :=
      fun _ member => List.rel_of_pairwise_cons ascends member
    rw [get?_mk_cons other first value rest ascends tail,
      get?_mk_cons key first value rest ascends tail]
    cases order : compare key first with
    | lt =>
      have different : key ≠ first := by
        intro same
        subst same
        simp [Std.compare_self] at order
      have missing : (OrderedMap.mk rest tail).get? key = none :=
        get?_eq_none_of_lt tail fun entry member => Std.TransCmp.lt_trans order (above entry member)
      simp only [upserted, order, if_neg different, missing]
      rw [get?_mk_cons other key _ _ _ ascends, get?_mk_cons other first value rest ascends tail]
    | eq =>
      have same : key = first := Std.LawfulEqOrd.eq_of_compare order
      subst same
      simp only [upserted, order, if_true]
      rw [get?_mk_cons other key _ rest _ tail]
      split <;> rfl
    | gt =>
      have different : key ≠ first := by
        intro same
        subst same
        simp [Std.compare_self] at order
      simp only [upserted, order, if_neg different]
      rw [get?_mk_cons other first value _ _ (ascends_upserted tail), ih tail]
      by_cases asked : other = first
      · subst asked
        rw [if_pos rfl, if_neg (Ne.symm different), if_pos rfl]
      · rw [if_neg asked, if_neg asked]

@[simp] theorem get?_upsert (map : OrderedMap κ ν) (key other : κ) (make : Option ν → ν) :
    (map.upsert key make).get? other =
      if other = key then some (make (map.get? key)) else map.get? other :=
  get?_mk_upserted key other make map.entries map.ascends

@[simp] theorem get?_insert (map : OrderedMap κ ν) (key other : κ) (value : ν) :
    (map.insert key value).get? other = if other = key then some value else map.get? other :=
  get?_upsert map key other fun _ => value

theorem mem_keys_insert {map : OrderedMap κ ν} {key other : κ} {value : ν} :
    other ∈ (map.insert key value).keys ↔ other = key ∨ other ∈ map.keys := by
  rw [mem_keys, mem_keys, get?_insert]
  by_cases same : other = key <;> simp [same]

/-- Maps are told apart by looking up. -/
theorem eq_of_get?_eq {left right : OrderedMap κ ν}
    (same : ∀ key, left.get? key = right.get? key) : left = right := by
  have nodup (map : OrderedMap κ ν) : map.entries.Nodup :=
    map.ascends.imp fun {earlier later} below equal => by
      rw [equal, Std.compare_self] at below
      cases below
  have members (entry : κ × ν) : entry ∈ left.entries ↔ entry ∈ right.entries := by
    rw [← get?_eq_some_iff, ← get?_eq_some_iff, same]
  have perm : left.entries.Perm right.entries :=
    (List.perm_ext_iff_of_nodup (nodup left) (nodup right)).mpr members
  refine ext (perm.eq_of_pairwise ?_ left.ascends right.ascends)
  intro earlier later _ _ below above
  have circular := Std.TransCmp.lt_trans below above
  rw [Std.compare_self] at circular
  cases circular

/-- Updates can be made in either order, if those of one key can. -/
theorem upsert_comm (map : OrderedMap κ ν) {key other : κ} {make remake : Option ν → ν}
    (agree : key = other → ∀ stored,
      remake (some (make stored)) = make (some (remake stored))) :
    (map.upsert key make).upsert other remake = (map.upsert other remake).upsert key make := by
  apply eq_of_get?_eq
  intro asked
  by_cases same : key = other
  · subst same
    by_cases here : asked = key <;> simp [here, agree]
  · by_cases here : asked = key <;> simp [here, same, Ne.symm same]

theorem upsert_upsert (map : OrderedMap κ ν) (key : κ) (make : Option ν → ν)
    (settled : ∀ stored, make (some (make stored)) = make stored) :
    (map.upsert key make).upsert key make = map.upsert key make := by
  apply eq_of_get?_eq
  intro asked
  by_cases here : asked = key <;> simp [here, settled]

theorem mem_keys_ofList {entries : List (κ × ν)} {key : κ} :
    key ∈ (ofList entries).keys ↔ key ∈ entries.map (·.1) := by
  have folded (map : OrderedMap κ ν) :
      key ∈ (entries.foldl (fun map entry => map.insert entry.1 entry.2) map).keys ↔
        key ∈ map.keys ∨ key ∈ entries.map (·.1) := by
    induction entries generalizing map with
    | nil => simp
    | cons entry entries ih =>
      rw [List.foldl_cons, ih, mem_keys_insert, List.map_cons, List.mem_cons, or_assoc,
        or_left_comm]
  unfold ofList
  rw [folded empty]
  simp [keys, empty]

/-- A map is made again from its entries. -/
theorem ofList_entries (map : OrderedMap κ ν) : ofList map.entries = map := by
  obtain ⟨entries, ascends⟩ := map
  induction entries using List.reverseRecOn with
  | nil => rfl
  | append_singleton entries last ih =>
    obtain ⟨before, _, below⟩ := List.pairwise_append.mp ascends
    have made : ofList (entries ++ [last]) = (ofList entries).insert last.1 last.2 :=
      List.foldl_append
    refine eq_of_get?_eq fun key => Option.ext fun value => ?_
    rw [made, ih before, get?_insert, get?_eq_some_iff, List.mem_append, List.mem_singleton]
    by_cases same : key = last.1
    · subst same
      have absent : (last.1, value) ∉ entries := by
        intro member
        have circular := below _ member last (List.mem_singleton_self last)
        rw [Std.compare_self] at circular
        cases circular
      rw [if_pos rfl, or_iff_right absent, Option.some.injEq]
      exact ⟨fun known => known ▸ rfl, fun known => known ▸ rfl⟩
    · have other : (key, value) ≠ last := fun equal => same (equal ▸ rfl)
      rw [if_neg same, get?_eq_some_iff, or_iff_left other]

end NodeQuery.OrderedMap
