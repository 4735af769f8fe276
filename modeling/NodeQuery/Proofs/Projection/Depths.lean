import NodeQuery.Proofs.Projection.Plan

/-! What a plan tells of the selects it is made of. Texts, references and referrers are kept apart,
so each of the three depth maps is made of the requests of one kind; of an attribute it knows the
largest depth among the requests for it, and nothing if there are none. -/

namespace NodeQuery

theorem max?_concat (depths : List Nat) (depth : Nat) :
    (depths ++ [depth]).max? = some (max (depths.max?.getD depth) depth) := by
  cases depths with
  | nil => simp
  | cons first depths =>
    rw [List.cons_append, List.max?_cons', List.max?_cons', List.foldl_append]
    rfl

theorem max?_getD_le {depths : List Nat} {bound : Nat} :
    depths.max?.getD 0 ≤ bound ↔ ∀ depth ∈ depths, depth ≤ bound := by
  cases largest : depths.max? with
  | none => simp [List.max?_eq_none_iff.mp largest]
  | some depth => exact List.max?_le_iff largest

/-- The depths to which an attribute is asked for. -/
def depthsOf (id : AttributeId) (requests : List (AttributeId × Nat)) : List Nat :=
  (requests.filter (·.1 = id)).map (·.2)

theorem depthsOf_concat (id : AttributeId) (requests : List (AttributeId × Nat))
    (request : AttributeId × Nat) : depthsOf id (requests ++ [request]) =
      depthsOf id requests ++ if request.1 = id then [request.2] else [] := by
  unfold depthsOf
  by_cases same : request.1 = id <;> simp [same]

theorem mem_depthsOf {id : AttributeId} {requests : List (AttributeId × Nat)} {depth : Nat} :
    depth ∈ depthsOf id requests ↔ (id, depth) ∈ requests := by
  simp [depthsOf]

namespace QualifiedSelect

/-! The attribute that a select of each kind asks for, and how deep. -/

def propertyRequest? : QualifiedSelect → Option (AttributeId × Nat)
  | .property id => some (id, 1)
  | _ => none

def referenceRequest? : QualifiedSelect → Option (AttributeId × Nat)
  | .reference id depth => some (id, depth)
  | _ => none

def referrerRequest? : QualifiedSelect → Option (AttributeId × Nat)
  | .referrer id depth => some (id, depth)
  | _ => none

end QualifiedSelect

namespace DepthMap

theorem depth?_raise (depths : DepthMap) (id other : AttributeId) (depth : Nat) :
    depth? (raise depths id depth) other =
      if other = id then some (max ((depth? depths id).getD depth) depth)
      else depth? depths other := by
  obtain ⟨type, name⟩ := id
  obtain ⟨otherType, otherName⟩ := other
  unfold depth? raise
  rw [OrderedMap.get?_upsert]
  by_cases sameType : otherType = type
  · subst sameType
    -- the type has no names yet if nothing was asked of it before
    by_cases sameName : otherName = name
    · subst sameName
      cases depths.get? otherType <;> simp
    · cases depths.get? otherType <;> simp [sameName]
  · simp [sameType]

theorem mem_depths {map : DepthMap} {depth : Nat} :
    depth ∈ depths map ↔ ∃ id, depth? map id = some depth := by
  simp only [depths, depth?, List.mem_flatMap, OrderedMap.mem_values, Option.bind_eq_some_iff]
  constructor
  · intro given
    obtain ⟨names, ⟨type, stored⟩, name, known⟩ := given
    exact ⟨⟨type, name⟩, names, stored, known⟩
  · intro given
    obtain ⟨id, names, stored, known⟩ := given
    exact ⟨names, ⟨id.domain, stored⟩, id.name, known⟩

variable (requests : List (AttributeId × Nat))

def ofRequests : DepthMap :=
  requests.foldl (fun depths request => raise depths request.1 request.2) OrderedMap.empty

theorem ofRequests_concat (request : AttributeId × Nat) :
    ofRequests (requests ++ [request]) = raise (ofRequests requests) request.1 request.2 := by
  unfold ofRequests
  rw [List.foldl_append]
  rfl

/-- Known of an attribute is the largest of the depths to which it is asked for. -/
theorem depth?_ofRequests (id : AttributeId) :
    depth? (ofRequests requests) id = (depthsOf id requests).max? := by
  induction requests using List.reverseRecOn with
  | nil => rfl
  | append_singleton requests request ih =>
    rw [ofRequests_concat, depth?_raise, depthsOf_concat]
    by_cases same : request.1 = id
    · subst same
      rw [if_pos rfl, if_pos rfl, max?_concat, ih]
    · rw [if_neg (Ne.symm same), if_neg same, List.append_nil, ih]

/-- All that is known has the same upper bounds as the requests. -/
theorem depths_ofRequests_le {bound : Nat} :
    (∀ depth ∈ depths (ofRequests requests), depth ≤ bound) ↔
      ∀ request ∈ requests, request.2 ≤ bound := by
  simp only [mem_depths, depth?_ofRequests]
  constructor
  · intro bounded request member
    have asked : request.2 ∈ depthsOf request.1 requests := mem_depthsOf.mpr member
    obtain ⟨deepest, known⟩ := Option.isSome_iff_exists.mp (List.isSome_max?_of_mem asked)
    calc request.2
      _ ≤ deepest := (List.max?_eq_some_iff.mp known).2 _ asked
      _ ≤ bound := bounded deepest ⟨request.1, known⟩
  · intro bounded depth given
    obtain ⟨id, known⟩ := given
    exact bounded (id, depth) (mem_depthsOf.mp (List.max?_mem known))

end DepthMap

namespace SelectionPlan

variable (selects : List QualifiedSelect)

/-- Something that one select notes in a plan, and no other does. -/
theorem noted_ofSelects (noted : SelectionPlan → Prop) {author : QualifiedSelect}
    (blank : ¬noted empty)
    (step : ∀ plan select, noted (plan.add select) ↔ noted plan ∨ select = author) :
    noted (ofSelects selects) ↔ author ∈ selects := by
  induction selects using List.reverseRecOn with
  | nil => exact iff_of_false blank List.not_mem_nil
  | append_singleton selects last ih =>
    rw [ofSelects_concat, step, ih, List.mem_append, List.mem_singleton, eq_comm]

theorem mem_fields_ofSelects (name : String) :
    name ∈ (ofSelects selects).fields.keys ↔ .field name ∈ selects := by
  refine noted_ofSelects selects (name ∈ ·.fields.keys) List.not_mem_nil fun plan select => ?_
  cases select with
  | field other =>
    rw [add, OrderedMap.mem_keys_insert, or_comm, QualifiedSelect.field.injEq, eq_comm]
  | _ => simp [add]

/-- A depth map of a plan that the requests of one kind raise, and nothing else changes. -/
theorem raised_ofSelects (map : SelectionPlan → DepthMap)
    (request? : QualifiedSelect → Option (AttributeId × Nat)) (blank : map empty = .empty)
    (step : ∀ plan select, map (plan.add select) = (request? select).elim (map plan) fun request =>
      DepthMap.raise (map plan) request.1 request.2) :
    map (ofSelects selects) = DepthMap.ofRequests (selects.filterMap request?) := by
  unfold ofSelects DepthMap.ofRequests
  rw [List.foldl_filterMap, ← blank]
  refine (List.foldl_hom map fun plan select => ?_).symm
  rw [step]
  cases request? select <;> rfl

theorem properties_ofSelects : (ofSelects selects).properties =
    DepthMap.ofRequests (selects.filterMap (·.propertyRequest?)) :=
  raised_ofSelects selects (·.properties) _ rfl fun _ select => by cases select <;> rfl

theorem references_ofSelects : (ofSelects selects).references =
    DepthMap.ofRequests (selects.filterMap (·.referenceRequest?)) :=
  raised_ofSelects selects (·.references) _ rfl fun _ select => by cases select <;> rfl

theorem referrers_ofSelects : (ofSelects selects).referrers =
    DepthMap.ofRequests (selects.filterMap (·.referrerRequest?)) :=
  raised_ofSelects selects (·.referrers) _ rfl fun _ select => by cases select <;> rfl

theorem maxDepth_ofSelects : (ofSelects selects).maxDepth =
    ((selects.filterMap (·.referenceRequest?) ++
      selects.filterMap (·.referrerRequest?)).map (·.2)).max?.getD 0 := by
  unfold maxDepth
  rw [List.foldl_max, Nat.zero_max]
  -- a map keeps one depth of each attribute, so only the bounds of the two lists are the same
  apply eq_of_forall_ge_iff
  intro bound
  rw [max?_getD_le, max?_getD_le, references_ofSelects, referrers_ofSelects,
    List.forall_mem_append, DepthMap.depths_ofRequests_le, DepthMap.depths_ofRequests_le,
    List.forall_mem_map, List.forall_mem_append]

theorem add_empty_ne (select : QualifiedSelect) : empty.add select ≠ empty := by
  intro same
  cases select <;> cases same

theorem ofSelects_eq_empty : ofSelects selects = empty ↔ selects = [] := by
  constructor
  · intro same
    refine List.eq_nil_iff_forall_not_mem.mpr fun select member => ?_
    have known := add_of_mem member
    rw [same] at known
    exact add_empty_ne select known
  · intro none
    rw [none]
    rfl

/-- A plan tells what is listed and no more: whether flags and fields are, and of every attribute
the largest depth to which it is asked for. -/
structure Tells (plan : SelectionPlan) (selects : List QualifiedSelect) : Prop where
  everything : plan.everything = true ↔ .everything ∈ selects
  nodeId : plan.nodeId = true ↔ .nodeId ∈ selects
  nodeType : plan.nodeType = true ↔ .nodeType ∈ selects
  fields (name : String) : name ∈ plan.fields.keys ↔ .field name ∈ selects
  propertyDepth? (id : AttributeId) : plan.propertyDepth? id =
    (depthsOf id (selects.filterMap (·.propertyRequest?))).max?
  referenceDepth? (id : AttributeId) : plan.referenceDepth? id =
    (depthsOf id (selects.filterMap (·.referenceRequest?))).max?
  referrerDepth? (id : AttributeId) : plan.referrerDepth? id =
    (depthsOf id (selects.filterMap (·.referrerRequest?))).max?
  maxDepth : plan.maxDepth = ((selects.filterMap (·.referenceRequest?) ++
    selects.filterMap (·.referrerRequest?)).map (·.2)).max?.getD 0
  isEmpty : plan.isEmpty = true ↔ selects = []

/-- The plan of any selects tells what is listed, and it is the same for every other list of the
same selects, in whatever order and however often. -/
theorem tells_ofSelects :
    (ofSelects selects).Tells selects ∧
    ∀ others, (∀ select, select ∈ others ↔ select ∈ selects) →
      ofSelects others = ofSelects selects := by
  refine ⟨?_, fun others same => ?_⟩
  · exact {
      everything := noted_ofSelects selects (·.everything = true) Bool.false_ne_true
        fun _ select => by cases select <;> simp [add]
      nodeId := noted_ofSelects selects (·.nodeId = true) Bool.false_ne_true
        fun _ select => by cases select <;> simp [add]
      nodeType := noted_ofSelects selects (·.nodeType = true) Bool.false_ne_true
        fun _ select => by cases select <;> simp [add]
      fields := mem_fields_ofSelects selects
      propertyDepth? := fun id => by
        rw [propertyDepth?, properties_ofSelects, DepthMap.depth?_ofRequests]
      referenceDepth? := fun id => by
        rw [referenceDepth?, references_ofSelects, DepthMap.depth?_ofRequests]
      referrerDepth? := fun id => by
        rw [referrerDepth?, referrers_ofSelects, DepthMap.depth?_ofRequests]
      maxDepth := maxDepth_ofSelects selects
      isEmpty := decide_eq_true_iff.trans (ofSelects_eq_empty selects) }
  · exact ofSelects_eq_of_subset (fun select => (same select).mp) (fun select => (same select).mpr)

/-- One name is asked for as a reference, twice, and as a referrer; the deepest reference wins, and
the greatest depth is the referrer's. -/
theorem tells_ofSelects_broader :
    let broader : AttributeId := ⟨⟨.ofNat 7, "Concept"⟩, "broader"⟩
    let selects := [.reference broader 3, .nodeId, .referrer broader 5, .reference broader 1]
    let others := [.referrer broader 5, .reference broader 1, .nodeId, .reference broader 3,
      .reference broader 1]
    ofSelects others = ofSelects selects ∧
    (ofSelects selects).referenceDepth? broader = some 3 ∧
    (ofSelects selects).propertyDepth? broader = none ∧ (ofSelects selects).maxDepth = 5 := by
  intro broader selects others
  obtain ⟨told, ordered⟩ := tells_ofSelects selects
  refine ⟨ordered others fun select => ?_, ?_, ?_, ?_⟩
  · simp only [selects, others, List.mem_cons, List.not_mem_nil]
    tauto
  · exact (told.referenceDepth? broader).trans (by decide)
  · exact (told.propertyDepth? broader).trans rfl
  · exact told.maxDepth.trans rfl

end SelectionPlan

end NodeQuery
