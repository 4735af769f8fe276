import Mathlib
import NodeQuery.Schema.Snapshot

/-! Snapshots and the lists of types that they are made of. All that is wrong with a list can be
listed as well, in the order of declaration; building a snapshot reports the first entry there, and
succeeds if there is none. A snapshot answers from its tables what a scan of the list would find. -/

namespace NodeQuery

/-- What is wrong with a type that is declared after types with other ids: the id is taken, or texts
and then references name another domain. -/
def EntityType.violations (earlier : List TypeId) (entityType : EntityType) : List SchemaError :=
  (if entityType.id ∈ earlier then [.duplicateType entityType.id] else []) ++
    ((entityType.textAttributes.map (·.id) ++ entityType.referenceAttributes.map (·.id)).filter
      (·.domain != entityType.id)).map fun id => .foreignAttribute entityType.id id.name id.domain

theorem EntityType.violations_eq_nil {earlier : List TypeId} {entityType : EntityType} :
    entityType.violations earlier = [] ↔ entityType.id ∉ earlier ∧ entityType.Domestic := by
  simp [EntityType.violations, EntityType.Domestic, TextAttribute.id, ReferenceAttribute.id]

namespace Schema

/-- What is wrong with a list of types, each of them held against those before it. -/
def violations (types : List EntityType) : List SchemaError :=
  types.zipIdx.flatMap fun (entityType, place) =>
    entityType.violations ((types.take place).map (·.id))

theorem violations_concat (types : List EntityType) (last : EntityType) :
    violations (types ++ [last]) = violations types ++ last.violations (types.map (·.id)) := by
  have front : ∀ placed ∈ types.zipIdx,
      placed.1.violations (((types ++ [last]).take placed.2).map (·.id)) =
        placed.1.violations ((types.take placed.2).map (·.id)) := by
    intro placed member
    have inside := List.snd_lt_of_mem_zipIdx member
    rw [List.take_append_of_le_length (by omega)]
  unfold violations
  rw [List.zipIdx_append, List.flatMap_append, List.flatMap_congr front]
  simp

theorem violations_eq_nil (types : List EntityType) :
    violations types = [] ↔
      (types.map (·.id)).Nodup ∧ ∀ entityType ∈ types, entityType.Domestic := by
  induction types using List.reverseRecOn with
  | nil => simp [violations]
  | append_singleton types last ih =>
    rw [violations_concat, List.append_eq_nil_iff, ih, EntityType.violations_eq_nil,
      List.map_append, List.nodup_append, List.forall_mem_append, List.map_singleton,
      List.forall_mem_singleton]
    have apart : (∀ id ∈ types.map (·.id), ∀ other ∈ [last.id], id ≠ other) ↔
        last.id ∉ types.map (·.id) := by
      simp only [List.forall_mem_singleton]
      exact ⟨fun different listed => different _ listed rfl, fun free id listed same =>
        free (same ▸ listed)⟩
    have single : [last.id].Nodup := List.nodup_singleton _
    tauto

/-- A snapshot of these types where nothing is wrong with them, and else the first violation. -/
def Reports (types : List EntityType) (violations : List SchemaError) :
    Except SchemaError Schema → Prop
  | .ok schema => violations = [] ∧ schema.types = types
  | .error error => violations.head? = some error

/-- One type more. -/
theorem reports_declare (schema : Schema) (entityType : EntityType) :
    Reports (schema.types ++ [entityType]) (entityType.violations (schema.types.map (·.id)))
      (schema.declare entityType) := by
  unfold declare
  split
  · next taken =>
    have listed : entityType.id ∈ schema.types.map (·.id) := by
      by_contra free
      rw [contains_eq_false_iff.mpr free] at taken
      cases taken
    rw [Reports, EntityType.violations, if_pos listed]
    rfl
  · next free =>
    rw [contains_eq_false_iff] at free
    split
    · next id foreign =>
      have first := congrArg (Option.map fun id : AttributeId =>
        SchemaError.foreignAttribute entityType.id id.name id.domain) foreign
      rw [foreignAttribute?, ← List.head?_filter, ← List.head?_map] at first
      rw [Reports, EntityType.violations, if_neg free, List.nil_append]
      exact first
    · next domestic =>
      exact ⟨EntityType.violations_eq_nil.mpr
        ⟨free, domestic_of_foreignAttribute?_eq_none domestic⟩, rfl⟩

theorem reports_ofTypes (types : List EntityType) :
    Reports types (violations types) (ofTypes types) := by
  induction types using List.reverseRecOn with
  | nil => exact ⟨rfl, rfl⟩
  | append_singleton types last ih =>
    have step : ofTypes (types ++ [last]) = ofTypes types >>= (declare · last) := by
      simp only [ofTypes, List.foldlM_append, List.foldlM_cons, List.foldlM_nil, bind_pure]
    rw [step, violations_concat]
    cases built : ofTypes types with
    | error error =>
      rw [built, Reports] at ih
      exact List.head?_append.trans (by rw [ih]; rfl)
    | ok schema =>
      rw [built] at ih
      obtain ⟨sound, rfl⟩ := ih
      rw [sound, List.nil_append]
      exact reports_declare schema last

variable {schema : Schema}

theorem eq_of_id_eq {left right : EntityType} (leftKnown : left ∈ schema.types)
    (rightKnown : right ∈ schema.types) (same : left.id = right.id) : left = right :=
  List.inj_on_of_nodup_map schema.uniqueIds leftKnown rightKnown same

theorem get?_eq_some_iff {id : TypeId} {entityType : EntityType} :
    schema.get? id = some entityType ↔ entityType ∈ schema.types ∧ entityType.id = id := by
  rw [get?_eq_find?]
  constructor
  · intro found
    exact ⟨List.mem_of_find?_eq_some found, by simpa using List.find?_some found⟩
  · intro given
    obtain ⟨known, rfl⟩ := given
    cases found : schema.types.find? (·.id = entityType.id) with
    | none =>
      have missing := List.find?_eq_none.mp found entityType known
      simp at missing
    | some other =>
      have same : other.id = entityType.id := by simpa using List.find?_some found
      rw [eq_of_id_eq (List.mem_of_find?_eq_some found) known same]

theorem get?_eq_none_iff {id : TypeId} :
    schema.get? id = none ↔ ∀ entityType ∈ schema.types, entityType.id ≠ id := by
  rw [get?_eq_find?, List.find?_eq_none]
  simp

/-- The references of a list of types that range over none of them, in the order of declaration. -/
def danglingReferences (types : List EntityType) : List ReferenceAttribute :=
  (types.flatMap (·.referenceAttributes)).filter fun reference =>
    reference.range ∉ types.map (·.id)

theorem danglingReference?_eq (schema : Schema) :
    schema.danglingReference? = (danglingReferences schema.types).head? := by
  unfold danglingReference? danglingReferences
  rw [List.head?_filter]
  congr 1
  funext reference
  rw [Bool.eq_iff_iff, Bool.not_eq_true', contains_eq_false_iff, decide_eq_true_iff]

theorem requireRanges_eq (schema : Schema) :
    schema.requireRanges = match (danglingReferences schema.types).head? with
      | some reference => .error (.danglingRange reference.id reference.range)
      | none => .ok () := by
  unfold requireRanges
  cases found : (danglingReferences schema.types).head? <;> simp only [danglingReference?_eq, found]

/-- A snapshot answers as a scan of a list of types does. -/
structure Scans (schema : Schema) (types : List EntityType) : Prop where
  known (id : TypeId) (entityType : EntityType) :
    schema.get? id = some entityType ↔ entityType ∈ types ∧ entityType.id = id
  unknown (id : TypeId) : schema.get? id = none ↔ ∀ entityType ∈ types, entityType.id ≠ id
  referrers (range : TypeId) : schema.referrersOf range =
    (types.flatMap (·.referenceAttributes)).filter (·.range = range)
  ranges : schema.requireRanges = .ok () ↔ ∀ entityType ∈ types,
    ∀ reference ∈ entityType.referenceAttributes, ∃ other ∈ types, other.id = reference.range
  dangling (error : SchemaError) : schema.requireRanges = .error error ↔
    (danglingReferences types).head?.map (fun reference =>
      .danglingRange reference.id reference.range) = some error

theorem scans_types (schema : Schema) : schema.Scans schema.types where
  known _ _ := get?_eq_some_iff
  unknown _ := get?_eq_none_iff
  referrers := schema.indexed
  ranges := by
    have none : danglingReferences schema.types = [] ↔ ∀ entityType ∈ schema.types,
        ∀ reference ∈ entityType.referenceAttributes,
          ∃ other ∈ schema.types, other.id = reference.range := by
      simp only [danglingReferences, List.filter_eq_nil_iff, decide_eq_true_eq, not_not,
        List.mem_flatMap, List.mem_map]
      constructor
      · exact fun within entityType known reference declared =>
          within reference ⟨entityType, known, declared⟩
      · intro within reference given
        obtain ⟨entityType, known, declared⟩ := given
        exact within entityType known reference declared
    rw [← none, ← List.head?_eq_none_iff, requireRanges_eq]
    cases (danglingReferences schema.types).head? <;> simp
  dangling error := by
    rw [requireRanges_eq]
    cases (danglingReferences schema.types).head? <;> simp

/-- A list of types makes a snapshot just if their ids are distinct and every attribute names the
type that declares it; else the first violation in the order of declaration is reported. The
snapshot answers everything that it is asked as a scan of the list does. -/
theorem ofTypes_scans (types : List EntityType) :
    ((∃ schema, ofTypes types = .ok schema) ↔
      (types.map (·.id)).Nodup ∧ ∀ entityType ∈ types, entityType.Domestic) ∧
    (∀ error, ofTypes types = .error error ↔ (violations types).head? = some error) ∧
    ∀ schema, ofTypes types = .ok schema → schema.types = types ∧ schema.Scans types := by
  rw [← violations_eq_nil]
  have reports := reports_ofTypes types
  cases built : ofTypes types with
  | error error =>
    rw [built, Reports] at reports
    have wrong : violations types ≠ [] := fun none => by simp [none] at reports
    simp [reports, wrong]
  | ok schema =>
    rw [built] at reports
    obtain ⟨sound, rfl⟩ := reports
    simp [sound, schema.scans_types]

end Schema

end NodeQuery
