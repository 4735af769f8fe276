import NodeQuery.Proofs.Distinct
import NodeQuery.Proofs.Projection.Scope

/-! Qualification as a whole. The attributes come first, each once, and the selects for what every
node has follow as they were listed. In the transitive mode the attributes are those that some
select asks for of a type in the scope of the listed selects; layer by layer they are those of the
layers that the loop goes through, which are listed here beside it. -/

namespace NodeQuery

/-- A qualified select for an attribute. -/
def QualifiedSelect.isAttribute : QualifiedSelect → Bool
  | .property _ => true
  | .reference _ _ => true
  | .referrer _ _ => true
  | _ => false

namespace Projection

variable {schema : Schema} {domain : List TypeId}

theorem isAttribute_of_mem_attributesOn {types : List EntityType} {selects : List ScopedSelect}
    {qualified : QualifiedSelect} (member : qualified ∈ attributesOn schema types selects) :
    qualified.isAttribute = true := by
  simp only [attributesOn, List.mem_flatMap] at member
  obtain ⟨⟨qualifier, part⟩, _, entityType, _, member⟩ := member
  unfold ScopedSelect.qualified at member
  split at member
  · cases part <;> obtain ⟨_, _, rfl⟩ := List.mem_map.mp member <;> rfl
  · cases member

/-- The types of a layer with the selects that apply there. -/
structure Layer where
  types : List EntityType
  selects : List ScopedSelect

section

variable (schema)

/-- The layers from one on: as long as there are types and selects, the types that the selects lead
to, with the selects that last. -/
def layersFrom (layer : Nat) (types : List EntityType) (selects : List ScopedSelect) : List Layer :=
  if _ended : types = [] ∨ selects = [] then []
  else
    ⟨types, selects⟩ ::
      layersFrom (layer + 1) (beyond schema types selects) (lasting layer selects)
termination_by (totalLeft layer selects, types.length)
decreasing_by exact shrinks schema selects fun none => _ended (.inl none)

/-- The layers from the known types of the domain on. -/
def layers (selects : List ScopedSelect) (domain : List TypeId) : List Layer :=
  layersFrom schema 1 (schema.knownTypes domain) selects

end

section

variable {layer : Nat} {types : List EntityType} {selects : List ScopedSelect}

theorem layersFrom_ended (ended : types = [] ∨ selects = []) :
    layersFrom schema layer types selects = [] := by
  rw [layersFrom, dif_pos ended]

theorem layersFrom_going (going : ¬(types = [] ∨ selects = [])) :
    layersFrom schema layer types selects = ⟨types, selects⟩ ::
      layersFrom schema (layer + 1) (beyond schema types selects) (lasting layer selects) := by
  rw [layersFrom, dif_neg going]

end

/-- The layers that are left are gone through one after the other. -/
theorem Descent.found_finished (descent : Descent) :
    (descent.finished schema).found =
      ((layersFrom schema descent.layer descent.types descent.selects).flatMap fun layer =>
        attributesOn schema layer.types layer.selects).foldl addNew descent.found := by
  fun_induction Descent.finished schema descent with
  | case1 descent ended =>
    rw [layersFrom_ended ended]
    rfl
  | case2 descent going ih =>
    rw [ih, layersFrom_going going, List.flatMap_cons, List.foldl_append]
    rfl

theorem mem_layeredAttributes {selects : List ScopedSelect} {qualified : QualifiedSelect} :
    qualified ∈ layeredAttributes schema selects domain ↔
      ∃ layer ∈ layers schema selects domain,
        qualified ∈ attributesOn schema layer.types layer.selects := by
  rw [layeredAttributes, Descent.found_finished, mem_foldl_addNew, List.mem_flatMap]
  exact or_iff_right List.not_mem_nil

theorem isAttribute_of_mem_attributes {mode : Mode} {selects : List ScopedSelect}
    {qualified : QualifiedSelect} (member : qualified ∈ mode.attributes schema selects domain) :
    qualified.isAttribute = true := by
  cases mode with
  | transitive => exact isAttribute_of_mem_attributesOn member
  | depthBounded =>
    obtain ⟨layer, _, member⟩ := mem_layeredAttributes.mp member
    exact isAttribute_of_mem_attributesOn member

theorem isAttribute_of_unscoped? {select : Select} {qualified : QualifiedSelect}
    (same : select.unscoped? = some qualified) : qualified.isAttribute = false := by
  cases select <;> cases same <;> rfl

/-- What a select for everything adds asks for attributes only. -/
theorem unscoped_expand (selects : List Select) :
    distinct ((expand selects).filterMap Select.unscoped?) =
      distinct (selects.filterMap Select.unscoped?) := by
  unfold expand
  split
  · rw [distinct_filterMap_distinct, List.filterMap_append]
    exact congrArg distinct (List.append_nil _)
  · exact distinct_filterMap_distinct _ _

/-- In both modes the attributes come first, and the other selects follow as they are listed. -/
theorem qualify_eq (mode : Mode) (selects : List Select) :
    schema.qualify mode domain selects =
      distinct (mode.attributes schema ((expand selects).filterMap Select.scoped?) domain) ++
        distinct (selects.filterMap Select.unscoped?) := by
  have apart : ∀ qualified ∈ (expand selects).filterMap Select.unscoped?,
      qualified ∉ mode.attributes schema ((expand selects).filterMap Select.scoped?) domain := by
    intro qualified unscoped member
    obtain ⟨select, _, same⟩ := List.mem_filterMap.mp unscoped
    have bound := isAttribute_of_mem_attributes member
    rw [isAttribute_of_unscoped? same] at bound
    cases bound
  unfold Schema.qualify
  rw [distinct_append apart, unscoped_expand]

theorem attributes_nil (mode : Mode) : mode.attributes schema [] domain = [] := by
  cases mode with
  | transitive => rfl
  | depthBounded =>
    change ((Descent.start schema [] domain).finished schema).found = []
    rw [Descent.finished, dif_pos (.inr rfl)]
    rfl

/-- What is asked for without attributes is the same for all schemas and domains. -/
theorem qualify_of_unscoped (mode : Mode) {selects : List Select}
    (plain : ∀ select ∈ selects, select.isScoped = false) (single : .everything ∉ selects) :
    schema.qualify mode domain selects = distinct (selects.filterMap Select.unscoped?) := by
  have nothing : (expand selects).filterMap Select.scoped? = [] := by
    rw [expand, if_neg single, List.filterMap_eq_nil_iff]
    intro select listed
    apply Option.not_isSome_iff_eq_none.mp
    rw [(Select.isScoped_eq select).1, plain select (mem_distinct.mp listed)]
    exact Bool.false_ne_true
  rw [qualify_eq, nothing, attributes_nil]
  rfl

theorem mem_attributesOn {types : List EntityType} {selects : List ScopedSelect}
    (known : ∀ entityType ∈ types, entityType ∈ schema.types) {qualified : QualifiedSelect} :
    qualified ∈ attributesOn schema types selects ↔
      ∃ entityType ∈ types, ∃ select ∈ selects, select.Asks schema entityType qualified := by
  simp only [attributesOn, List.mem_flatMap]
  constructor
  · intro given
    obtain ⟨select, asked, entityType, listed, member⟩ := given
    exact ⟨entityType, listed, select, asked,
      (ScopedSelect.mem_qualified (known _ listed)).mp member⟩
  · intro given
    obtain ⟨entityType, listed, select, asked, asks⟩ := given
    exact ⟨select, asked, entityType, listed,
      (ScopedSelect.mem_qualified (known _ listed)).mpr asks⟩

theorem mem_attributes_transitive {selects : List ScopedSelect} {qualified : QualifiedSelect} :
    qualified ∈ Mode.transitive.attributes schema selects domain ↔
      ∃ entityType, InScope schema selects domain entityType ∧
        ∃ select ∈ selects, select.Asks schema entityType qualified := by
  have known : ∀ entityType ∈ reachable schema selects domain, entityType ∈ schema.types :=
    fun _ found => (mem_reachable.mp found).known
  simp only [Mode.attributes, transitiveAttributes, mem_attributesOn known, mem_reachable]

/-- The wildcards name no references, so they follow none. -/
theorem follows_expand {selects : List Select} {entityType other : EntityType} :
    Follows schema ((expand selects).filterMap Select.scoped?) entityType other ↔
      Follows schema (selects.filterMap Select.scoped?) entityType other := by
  simp only [Follows, mem_scoped, mem_expand, Asked]
  constructor
  · intro given
    rcases given with ⟨select, asked | ⟨_, wildcard⟩, named, leads⟩
    · exact ⟨select, asked, named, leads⟩
    · simp only [wildcards, List.mem_cons, List.not_mem_nil, or_false, Select.scoped.injEq]
        at wildcard
      rcases wildcard with rfl | rfl | rfl <;> cases named
  · intro given
    obtain ⟨select, asked, named, leads⟩ := given
    exact ⟨select, .inl asked, named, leads⟩

/-- The attributes of a transitive projection are those that a select asks for of a type in
scope. -/
theorem mem_attributes_expand {selects : List Select} {qualified : QualifiedSelect} :
    qualified ∈ Mode.transitive.attributes schema ((expand selects).filterMap Select.scoped?)
        domain ↔
      ∃ entityType select, InScope schema (selects.filterMap Select.scoped?) domain entityType ∧
        Asked selects select ∧ select.Asks schema entityType qualified := by
  rw [mem_attributes_transitive]
  simp only [mem_scoped, mem_expand]
  constructor
  · intro given
    obtain ⟨entityType, reached, select, asked, asks⟩ := given
    exact ⟨entityType, select, reached.imp fun _ _ _ => follows_expand.mp, asked, asks⟩
  · intro given
    obtain ⟨entityType, select, reached, asked, asks⟩ := given
    exact ⟨entityType, reached.imp fun _ _ _ => follows_expand.mpr, select, asked, asks⟩

/-- A select that names no references leaves the scope as it is. -/
theorem reachableTypes_cons {select : ScopedSelect} (wild : select.part.namesReferences = false)
    (selects : List Select) :
    schema.reachableTypes domain (.scoped select :: selects) =
      schema.reachableTypes domain selects := by
  have same (entityType : EntityType) :
      namedTargets schema ((.scoped select :: selects).filterMap Select.scoped?) entityType =
        namedTargets schema (selects.filterMap Select.scoped?) entityType := by
    have nowhere : select.namedTargets schema entityType = [] := by
      unfold ScopedSelect.namedTargets
      rw [if_neg (by simp [wild])]
    simp [namedTargets, Select.scoped?, nowhere]
  exact congrArg (List.map (·.id)) (explore_congr same [] domain)

/-- A select that admits no type contributes nothing. -/
theorem mem_qualify_cons {select : ScopedSelect}
    (foreign : ∀ entityType ∈ schema.types, select.qualifier.admits entityType.id = false)
    (selects : List Select) (qualified : QualifiedSelect) :
    qualified ∈ schema.qualify .transitive domain (.scoped select :: selects) ↔
      qualified ∈ schema.qualify .transitive domain selects := by
  have asked (other : ScopedSelect) :
      Asked (.scoped select :: selects) other ↔ other = select ∨ Asked selects other := by
    simp [Asked, or_assoc]
  have follows (entityType : EntityType) (known : entityType ∈ schema.types) (other : EntityType) :
      Follows schema ((.scoped select :: selects).filterMap Select.scoped?) entityType other ↔
        Follows schema (selects.filterMap Select.scoped?) entityType other := by
    simp only [Follows, mem_scoped, List.mem_cons, Select.scoped.injEq, or_and_right, exists_or,
      exists_eq_left]
    apply or_iff_right
    intro follows
    have admitted := follows.2.1
    rw [foreign entityType known] at admitted
    cases admitted
  have scope (entityType : EntityType) :
      InScope schema ((.scoped select :: selects).filterMap Select.scoped?) domain entityType ↔
        InScope schema (selects.filterMap Select.scoped?) domain entityType :=
    ⟨fun reached => reached.imp fun _ known other => (follows _ known other).mp,
      fun reached => reached.imp fun _ known other => (follows _ known other).mpr⟩
  rw [qualify_eq, qualify_eq, List.mem_append, List.mem_append]
  refine or_congr ?_ Iff.rfl
  rw [mem_distinct, mem_distinct, mem_attributes_expand, mem_attributes_expand]
  simp only [scope, asked]
  constructor
  · intro given
    rcases given with ⟨entityType, other, reached, rfl | listed, asks⟩
    · cases (foreign entityType reached.known).symm.trans asks.1
    · exact ⟨entityType, other, reached, listed, asks⟩
  · intro given
    obtain ⟨entityType, other, reached, listed, asks⟩ := given
    exact ⟨entityType, other, reached, .inr listed, asks⟩

end Projection

open Projection

/-- A transitive projection asks for each attribute that a select asks for of a type in the scope of
the listed selects, and then for what is listed besides, all of it once. -/
theorem Schema.qualify_transitive (schema : Schema) (domain : List TypeId) (selects : List Select) :
    (schema.qualify .transitive domain selects).Nodup ∧
    (∃ attributes, schema.qualify .transitive domain selects =
        attributes ++ distinct (selects.filterMap Select.unscoped?) ∧
      ∀ qualified, qualified ∈ attributes ↔ ∃ entityType select,
        InScope schema (selects.filterMap Select.scoped?) domain entityType ∧
          Asked selects select ∧ select.Asks schema entityType qualified) ∧
    (∀ select : ScopedSelect, select.part.namesReferences = false →
      schema.reachableTypes domain (.scoped select :: selects) =
        schema.reachableTypes domain selects) ∧
    ∀ select : ScopedSelect,
      (∀ entityType ∈ schema.types, select.qualifier.admits entityType.id = false) →
        ∀ qualified, qualified ∈ schema.qualify .transitive domain (.scoped select :: selects) ↔
          qualified ∈ schema.qualify .transitive domain selects := by
  refine ⟨nodup_distinct _, ⟨_, qualify_eq .transitive selects, fun qualified => ?_⟩,
    fun select wild => reachableTypes_cons wild selects,
    fun select foreign => mem_qualify_cons foreign selects⟩
  rw [mem_distinct, mem_attributes_expand]

end NodeQuery
