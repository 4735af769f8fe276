import NodeQuery.Json.Decoding
import NodeQuery.Proofs.OrderedMap

/-! Taking out of JSON what was put in. Lists and maps are read back if their elements are, and a
record that is written with all its fields is read with these fields. -/

namespace NodeQuery.Json

variable {α β : Type}

theorem mapM_map {encode : α → β} {decode : β → Option α} {items : List α}
    (read : ∀ item ∈ items, decode (encode item) = some item) :
    (items.map encode).mapM decode = some items := by
  induction items with
  | nil => rfl
  | cons item items ih =>
    obtain ⟨first, rest⟩ := List.forall_mem_cons.mp read
    rw [List.map_cons, List.mapM_cons, first, ih rest]
    rfl

theorem list?_array {encode : α → Json} {decode : Json → Option α} {items : List α}
    (read : ∀ item ∈ items, decode (encode item) = some item) :
    list? decode (.array (items.map encode)) = some items :=
  mapM_map read

theorem list?_strings (texts : List String) : list? text? (strings texts) = some texts :=
  list?_array fun _ _ => rfl

theorem map?_ofMap {encode : α → Json} {decode : Json → Option α} {map : OrderedMap String α}
    (read : ∀ value ∈ map.values, decode (encode value) = some value) :
    map? decode (ofMap encode map) = some map := by
  have entries : (map.entries.map fun entry => (entry.1, encode entry.2)).mapM
      (fun field => (decode field.2).map (field.1, ·)) = some map.entries := by
    refine mapM_map fun entry member => ?_
    rw [read entry.2 (List.mem_map_of_mem member)]
    rfl
  simp only [map?, ofMap]
  rw [entries, Option.map_some, OrderedMap.ofList_entries]

theorem upTo?_natural {largest number : Nat} (small : number ≤ largest) :
    upTo? largest (.natural number) = some number := by
  simp [upTo?, natural, small]

/-- A record with all its fields under their names. -/
theorem record?_object {names : List String} {fields : List (String × Json)}
    (named : fields.map (·.1) = names) (nodup : names.Nodup) :
    (object fields).record? names = some ⟨false, fields⟩ := by
  have known : fields.filter (names.contains ·.1) = fields := by
    refine List.filter_eq_self.mpr fun field member => ?_
    rw [List.contains_iff_mem, ← named]
    exact List.mem_map_of_mem member
  simp only [record?, known]
  rw [named, if_pos nodup]

end NodeQuery.Json
