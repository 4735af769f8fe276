import NodeQuery.Exchange.Projection
import NodeQuery.Proofs.Json.Decoding
import NodeQuery.Proofs.Projection.Counter
import NodeQuery.Proofs.Projection.Depths
import NodeQuery.Proofs.Schema.TypeId

/-! Schemas and plans that are put into JSON and taken out again. A plan has type ids for the names
of its fields: no two of these are the same, and every one is read as the type that it stands
for, so that nothing of the plan is lost. -/

namespace NodeQuery

theorem TypeId.ofJson?_toJson {id : TypeId} (accepted : id.Accepted) :
    ofJson? id.toJson = some id := by
  simp only [ofJson?, toJson, Json.text?, Option.bind_some, read_text accepted]
  rfl

/-- The fields of an attribute are found by their names. -/
theorem AttributeId.ofJson?_toJson {id : AttributeId} (accepted : id.domain.Accepted) :
    ofJson? id.toJson = some id := by
  simp only [ofJson?, toJson]
  rw [Json.record?_object]
  · simp [Json.Record.required, Json.Record.get?, TypeId.ofJson?_toJson accepted, Json.text?]
  · rfl
  · decide

theorem TextAttribute.ofJson?_toJson {text : TextAttribute} (accepted : text.domain.Accepted) :
    ofJson? text.toJson = some text := by
  simp only [ofJson?, toJson]
  rw [AttributeId.ofJson?_toJson accepted]
  rfl

theorem ReferenceAttribute.ofJson?_toJson {reference : ReferenceAttribute}
    (domain : reference.domain.Accepted) (range : reference.range.Accepted) :
    ofJson? reference.toJson = some reference := by
  simp only [ofJson?, toJson]
  rw [Json.record?_object]
  · simp [Json.Record.required, Json.Record.get?, TypeId.ofJson?_toJson domain,
      TypeId.ofJson?_toJson range, Json.text?]
  · rfl
  · decide

namespace EntityType

/-- All type ids in the declaration of a type are accepted. -/
structure Exchangeable (entityType : EntityType) : Prop where
  id : entityType.id.Accepted
  texts : ∀ text ∈ entityType.textAttributes, text.domain.Accepted
  domains : ∀ reference ∈ entityType.referenceAttributes, reference.domain.Accepted
  ranges : ∀ reference ∈ entityType.referenceAttributes, reference.range.Accepted

theorem ofJson?_toJson {entityType : EntityType} (exchangeable : entityType.Exchangeable) :
    ofJson? entityType.toJson = some entityType := by
  have texts := Json.list?_array fun text member =>
    TextAttribute.ofJson?_toJson (exchangeable.texts text member)
  have references := Json.list?_array fun reference member =>
    ReferenceAttribute.ofJson?_toJson (exchangeable.domains reference member)
      (exchangeable.ranges reference member)
  simp only [ofJson?, toJson]
  rw [Json.record?_object]
  · simp [Json.Record.required, Json.Record.orDefault, Json.Record.get?,
      TypeId.ofJson?_toJson exchangeable.id, texts, references]
  · rfl
  · decide

theorem listOfJson?_toJson {types : List EntityType}
    (exchangeable : ∀ entityType ∈ types, entityType.Exchangeable) :
    listOfJson? (.array (types.map toJson)) = some types :=
  Json.list?_array fun entityType member => ofJson?_toJson (exchangeable entityType member)

end EntityType

namespace DepthMap

/-- All type ids of a map are accepted, and its depths are those that a select can have. -/
structure Exchangeable (depths : DepthMap) : Prop where
  types : ∀ id ∈ depths.keys, id.Accepted
  depths : ∀ depth ∈ DepthMap.depths depths, depth ≤ largestDepth

/-- Every type has a field of its own. -/
theorem exists_fields (depths : DepthMap) : ∃ fields, depths.toJson = .object fields ∧
    fields.map (·.1) = depths.keys.map (·.text) ∧ (fields.map (·.1)).Nodup := by
  have keys : depths.keys.Nodup := by
    refine depths.pairwise_keys.imp fun {earlier later} below => ?_
    rintro rfl
    rw [Std.compare_self] at below
    cases below
  have texts : (depths.keys.map (·.text)).Nodup := keys.map fun _ _ => TypeId.eq_of_text_eq
  refine ⟨_, rfl, ?_⟩
  have names : depths.keys.map (·.text) = depths.entries.map fun entry => entry.1.text :=
    List.map_map
  rw [List.map_map]
  exact ⟨names.symm, names ▸ texts⟩

theorem ofField?_entry {depths : DepthMap} (exchangeable : depths.Exchangeable)
    {entry : TypeId × OrderedMap String Nat} (member : entry ∈ depths.entries) :
    ofField? (entry.1.text, .ofMap .natural entry.2) = some entry := by
  have id : TypeId.read entry.1.text = .ok entry.1 :=
    TypeId.read_text (exchangeable.types entry.1 (List.mem_map_of_mem member))
  have names : Json.map? Json.depth? (.ofMap .natural entry.2) = some entry.2 := by
    refine Json.map?_ofMap fun depth stored => Json.upTo?_natural (exchangeable.depths depth ?_)
    exact List.mem_flatMap.mpr ⟨entry.2, List.mem_map_of_mem member, stored⟩
  simp only [ofField?, id, names]
  rfl

theorem mem_keys_raise {depths : DepthMap} {id : AttributeId} {depth : Nat} {type : TypeId} :
    type ∈ (raise depths id depth).keys ↔ type = id.domain ∨ type ∈ depths.keys := by
  unfold raise
  rw [OrderedMap.mem_keys, OrderedMap.mem_keys, OrderedMap.get?_upsert]
  by_cases same : type = id.domain <;> simp [same]

theorem exchangeable_ofRequests {requests : List (AttributeId × Nat)}
    (fit : ∀ request ∈ requests, request.1.domain.Accepted ∧ request.2 ≤ largestDepth) :
    (ofRequests requests).Exchangeable := by
  refine ⟨?_, (depths_ofRequests_le requests).mpr fun request member => (fit request member).2⟩
  induction requests using List.reverseRecOn with
  | nil => exact fun _ member => absurd member List.not_mem_nil
  | append_singleton requests request ih =>
    obtain ⟨before, last⟩ := List.forall_mem_append.mp fit
    intro type member
    rw [ofRequests_concat] at member
    rcases mem_keys_raise.mp member with rfl | member
    · exact (last request (List.mem_singleton_self request)).1
    · exact ih before type member

theorem ofJson?_toJson {depths : DepthMap} (exchangeable : depths.Exchangeable) :
    ofJson? depths.toJson = some depths := by
  simp only [ofJson?, toJson]
  rw [Json.mapM_map fun entry member => ofField?_entry exchangeable member, Option.map_some,
    OrderedMap.ofList_entries]

end DepthMap

/-- The attribute that a select asks for, if any, and how deep. -/
def QualifiedSelect.request? : QualifiedSelect → Option (AttributeId × Nat)
  | .property id => some (id, 1)
  | .reference id depth => some (id, depth)
  | .referrer id depth => some (id, depth)
  | _ => none

namespace SelectionPlan

structure Exchangeable (plan : SelectionPlan) : Prop where
  properties : DepthMap.Exchangeable plan.properties
  references : DepthMap.Exchangeable plan.references
  referrers : DepthMap.Exchangeable plan.referrers

/-- The plan of selects for attributes of accepted types, with depths that a select can have. -/
theorem exchangeable_ofSelects {selects : List QualifiedSelect}
    (fit : ∀ select ∈ selects, ∀ request ∈ select.request?,
      request.1.domain.Accepted ∧ request.2 ≤ largestDepth) : (ofSelects selects).Exchangeable := by
  have part (request? : QualifiedSelect → Option (AttributeId × Nat))
      (some : ∀ select, ∀ request ∈ request? select, request ∈ select.request?) :
      DepthMap.Exchangeable (.ofRequests (selects.filterMap request?)) := by
    refine DepthMap.exchangeable_ofRequests fun request member => ?_
    obtain ⟨select, listed, given⟩ := List.mem_filterMap.mp member
    exact fit select listed request (some select request given)
  constructor
  · rw [properties_ofSelects]
    exact part _ fun select _ given => by cases select <;> first | exact given | cases given
  · rw [references_ofSelects]
    exact part _ fun select _ given => by cases select <;> first | exact given | cases given
  · rw [referrers_ofSelects]
    exact part _ fun select _ given => by cases select <;> first | exact given | cases given

open Projection in
/-- The plan of a projection, if the ids of the snapshot are accepted and the selects were read. -/
theorem exchangeable_qualify {schema : Schema} (accepted : ∀ entityType ∈ schema.types,
    entityType.id.Accepted) {text : String} {selects : List Select}
    (read : Select.readList text = .ok selects) (mode : Mode) (domain : List TypeId) :
    (ofSelects (schema.qualify mode domain selects)).Exchangeable := by
  refine exchangeable_ofSelects fun qualified member request given => ?_
  rw [qualify_eq, List.mem_append, mem_distinct, mem_distinct] at member
  rcases member with bound | unscoped
  · obtain ⟨entityType, known, select, asked, asks⟩ : ∃ entityType ∈ schema.types, ∃ select,
        Asked selects select ∧ select.Asks schema entityType qualified := by
      cases mode with
      | transitive =>
        obtain ⟨entityType, select, reached, asked, asks⟩ := mem_attributes_expand.mp bound
        exact ⟨entityType, reached.known, select, asked, asks⟩
      | depthBounded =>
        obtain ⟨_, entityType, select, reached, asked, _, asks⟩ :=
          (mem_attributes_depthBounded fun _ listed depth own =>
            (depth_of_readList read listed depth own).1).mp bound
        exact ⟨entityType, reached.known, select, asked, asks⟩
    have named {depth : Nat} (own : select.part.depth? = some depth) : depth ≤ largestDepth :=
      (depth_of_readList read (asked.listed_of_depth own) depth own).2
    have default : defaultDepth ≤ largestDepth := by decide
    obtain ⟨qualifier, part⟩ := select
    cases asks.2 <;> cases given <;> refine ⟨accepted entityType known, ?_⟩
    · exact default
    · next asked _ => cases asked with
      | all => exact default
      | named => exact named rfl
    · next asked _ _ => cases asked with
      | all => exact default
      | named => exact named rfl
  · obtain ⟨select, _, plain⟩ := List.mem_filterMap.mp unscoped
    cases select <;> cases plain <;> cases given

/-- The fields of a plan are a set that is written as a list. -/
theorem ofList_keys (names : OrderedMap String Unit) :
    OrderedMap.ofList (names.keys.map fun name => (name, ())) = names := by
  rw [OrderedMap.keys, List.map_map]
  exact (congrArg OrderedMap.ofList (List.map_id names.entries)).trans
    (OrderedMap.ofList_entries names)

theorem ofJson?_toJson {plan : SelectionPlan} (exchangeable : plan.Exchangeable) :
    ofJson? plan.toJson = some plan := by
  have properties := DepthMap.ofJson?_toJson exchangeable.properties
  have references := DepthMap.ofJson?_toJson exchangeable.references
  have referrers := DepthMap.ofJson?_toJson exchangeable.referrers
  simp only [ofJson?, toJson]
  rw [Json.record?_object]
  · simp [Json.Record.required, Json.Record.get?, Json.truth?, Json.list?_strings, properties,
      references, referrers, ofList_keys]
  · rfl
  · decide

end SelectionPlan

/-- Type ids survive being written. What is read is just the graph in one of its forms, a point and
a plain name; the text of what was read is read as the same again, and no two types have one text.
So a depth map has one field for each type, and plans and schemas are taken out of JSON as they
were put in. -/
theorem TypeId.text_faithful :
    (∀ text : String, (∃ id : TypeId, read text = .ok id) ↔ ∃ graph name : List Char,
      text.toList = graph ++ '.' :: name ∧ (Uuid.ofText? graph).isSome ∧ Plain name) ∧
    (∀ (text : String) (id : TypeId), read text = .ok id → read id.text = .ok id) ∧
    (∀ left right : TypeId, left.text = right.text → left = right) ∧
    (∀ depths : DepthMap, ∃ fields, depths.toJson = .object fields ∧
      fields.map (·.1) = depths.keys.map (·.text) ∧ (fields.map (·.1)).Nodup) ∧
    (∀ plan : SelectionPlan, plan.Exchangeable →
      SelectionPlan.ofJson? plan.toJson = some plan) ∧
    ∀ types : List EntityType, (∀ entityType ∈ types, entityType.Exchangeable) →
      EntityType.listOfJson? (.array (types.map (·.toJson))) = some types := by
  refine ⟨fun text => ⟨?_, ?_⟩, fun text id given => read_text ⟨text, given⟩,
    fun _ _ => eq_of_text_eq, DepthMap.exists_fields, fun _ => SelectionPlan.ofJson?_toJson,
    fun _ => EntityType.listOfJson?_toJson⟩
  · intro given
    obtain ⟨id, given⟩ := given
    obtain ⟨graph, written, found, plain⟩ := read_eq_ok_iff.mp given
    exact ⟨graph, id.name.toList, written, Option.isSome_of_eq_some found, plain⟩
  · intro given
    obtain ⟨graph, name, written, found, plain⟩ := given
    obtain ⟨uuid, found⟩ := Option.isSome_iff_exists.mp found
    refine ⟨⟨uuid, String.ofList name⟩, read_eq_ok_iff.mpr ⟨graph, ?_, found, ?_⟩⟩
    · rw [written, String.toList_ofList]
    · rw [String.toList_ofList]
      exact plain

/-- A type whose graph is written in capitals and braces, and a plan and a schema that name it. -/
theorem TypeId.text_faithful_concept :
    let concept : TypeId := ⟨.ofNat 10, "Concept"⟩
    let plan := SelectionPlan.ofSelects [.property ⟨concept, "label"⟩,
      .reference ⟨concept, "broader"⟩ largestDepth, .reference ⟨concept, "broader"⟩ 2, .nodeId]
    let broader : EntityType := ⟨concept, [], [⟨concept, "broader", concept⟩]⟩
    read "{00000000-0000-0000-0000-00000000000A}.Concept" = .ok concept ∧
    read concept.text = .ok concept ∧
    SelectionPlan.ofJson? plan.toJson = some plan ∧
    EntityType.listOfJson? (.array [broader.toJson]) = some [broader] := by
  intro concept plan broader
  obtain ⟨_, again, _, _, plans, schemas⟩ := TypeId.text_faithful
  have given : read "{00000000-0000-0000-0000-00000000000A}.Concept" = .ok concept := by rfl
  have accepted : concept.Accepted := ⟨_, given⟩
  refine ⟨given, again _ _ given, plans plan ?_, schemas [broader] ?_⟩
  · refine SelectionPlan.exchangeable_ofSelects ?_
    simp [QualifiedSelect.request?, accepted, largestDepth]
  · rw [List.forall_mem_singleton]
    constructor <;> simp [broader, accepted]

end NodeQuery
