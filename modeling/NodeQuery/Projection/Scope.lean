import NodeQuery.Distinct
import NodeQuery.Projection.Attributes

/-!
The types that a projection applies to. The transitive scope is all that the named references of
its selects reach from the domain. Layer by layer, a projection applies to what each next step
reaches while the depths of the selects allow it; the steps come to an end, since a select that
leads on has fewer layers left in the next one.
-/

namespace NodeQuery

/-- The types of a domain that the snapshot knows, each once. -/
def Schema.knownTypes (schema : Schema) (domain : List TypeId) : List EntityType :=
  distinct (domain.filterMap schema.get?)

namespace Projection

section Reachable

variable (schema : Schema) (selects : List ScopedSelect)

def unvisited (visited : List EntityType) : List EntityType :=
  schema.types.filter (· ∉ visited)

theorem unvisited_append_lt {visited : List EntityType} {entityType : EntityType}
    (known : entityType ∈ schema.types) (new : entityType ∉ visited) :
    (unvisited schema (visited ++ [entityType])).length < (unvisited schema visited).length := by
  have split : unvisited schema (visited ++ [entityType]) =
      (unvisited schema visited).filter (· ≠ entityType) := by
    simp [unvisited, List.filter_filter, and_comm]
  rw [split]
  exact List.length_filter_lt_length_iff_exists.mpr
    ⟨entityType, List.mem_filter.mpr ⟨known, by simpa using new⟩, by simp⟩

/-- The types that the selects lead to from one by naming references. -/
def namedTargets (entityType : EntityType) : List TypeId :=
  selects.flatMap (ScopedSelect.namedTargets schema entityType)

/-- Visit the pending types in turn and append what each leads to. -/
def explore (visited : List EntityType) (pending : List TypeId) : List EntityType :=
  match pending with
  | [] => visited
  | id :: pending =>
    match _found : schema.get? id with
    | none => explore visited pending
    | some entityType =>
      if _new : entityType ∈ visited then explore visited pending
      else
        explore (visited ++ [entityType]) (pending ++ namedTargets schema selects entityType)
termination_by ((unvisited schema visited).length, pending.length)
decreasing_by
  · exact Prod.Lex.right _ (Nat.lt_succ_self _)
  · exact Prod.Lex.right _ (Nat.lt_succ_self _)
  · exact Prod.Lex.left _ _ (unvisited_append_lt schema (schema.mem_types_of_get? _found) _new)

/-- The known types of the domain and all types that named references lead to, in the order in
which they are found. -/
def reachable (domain : List TypeId) : List EntityType := explore schema selects [] domain

end Reachable

/-- Whether a select still applies in the layer after one, the first of which is the domain. Texts
are asked for everywhere, a named reference as far as its depth goes, and all references at once
only in the first layer. -/
def lasts (layer : Nat) (select : ScopedSelect) : Bool :=
  match select.part with
  | .allProperties => true
  | .property _ => true
  | .allReferences => false
  | .allReferrers => false
  | .reference _ depth => layer < depth
  | .referrer _ depth => layer < depth

def lasting (layer : Nat) (selects : List ScopedSelect) : List ScopedSelect :=
  selects.filter (lasts layer)

/-- The number of layers, from one on, from which a select may lead on. -/
def layersLeft (layer : Nat) (select : ScopedSelect) : Nat :=
  match select.part with
  | .allProperties => 0
  | .property _ => 0
  | .allReferences => 1
  | .allReferrers => 1
  | .reference _ depth => depth - layer + 1
  | .referrer _ depth => depth - layer + 1

theorem layersLeft_succ {layer : Nat} {select : ScopedSelect}
    (remains : lasts layer select = true) :
    layersLeft (layer + 1) select = layersLeft layer select - 1 := by
  obtain ⟨qualifier, part⟩ := select
  cases part <;> simp [lasts, layersLeft] at remains ⊢ <;> omega

section Layered

variable (schema : Schema)

theorem targets_eq_nil {layer : Nat} {select : ScopedSelect} (none : layersLeft layer select = 0)
    (entityType : EntityType) : select.targets schema entityType = [] := by
  obtain ⟨qualifier, part⟩ := select
  cases part <;> simp [layersLeft, ScopedSelect.targets, Part.targets] at none ⊢

/-- The types that some selects lead to from some types. -/
def beyond (types : List EntityType) (selects : List ScopedSelect) : List EntityType :=
  schema.knownTypes <| types.flatMap fun entityType =>
    selects.flatMap (ScopedSelect.targets schema entityType)

theorem beyond_eq_nil {layer : Nat} {selects : List ScopedSelect}
    (none : ∀ select ∈ selects, layersLeft layer select = 0) (types : List EntityType) :
    beyond schema types selects = [] := by
  have nowhere : (types.flatMap fun entityType =>
      selects.flatMap (ScopedSelect.targets schema entityType)) = [] := by
    simp only [List.flatMap_eq_nil_iff]
    exact fun entityType _ select member => targets_eq_nil schema (none select member) entityType
  rw [beyond, nowhere]
  rfl

def totalLeft (layer : Nat) : List ScopedSelect → Nat
  | [] => 0
  | select :: selects => layersLeft layer select + totalLeft layer selects

theorem layersLeft_eq_zero {layer : Nat} {selects : List ScopedSelect}
    (none : totalLeft layer selects = 0) : ∀ select ∈ selects, layersLeft layer select = 0 := by
  induction selects with
  | nil => exact fun _ member => nomatch member
  | cons select selects ih =>
    simp only [totalLeft, Nat.add_eq_zero_iff] at none
    exact List.forall_mem_cons.mpr ⟨none.1, ih none.2⟩

/-- Fewer layers are left to the selects that last, if any were left. -/
theorem totalLeft_lasting (layer : Nat) (selects : List ScopedSelect) :
    totalLeft (layer + 1) (lasting layer selects) = 0 ∨
      totalLeft (layer + 1) (lasting layer selects) < totalLeft layer selects := by
  induction selects with
  | nil => exact .inl rfl
  | cons select selects ih =>
    simp only [lasting, List.filter_cons] at ih ⊢
    split
    · next remains =>
      have left := layersLeft_succ remains
      simp only [totalLeft]
      omega
    · simp only [totalLeft]
      omega

theorem shrinks {layer : Nat} {types : List EntityType} (selects : List ScopedSelect)
    (inhabited : types ≠ []) :
    Prod.Lex (· < ·) (· < ·)
      (totalLeft (layer + 1) (lasting layer selects), (beyond schema types selects).length)
      (totalLeft layer selects, types.length) := by
  by_cases none : totalLeft layer selects = 0
  · have later : totalLeft (layer + 1) (lasting layer selects) = 0 := by
      have := totalLeft_lasting layer selects
      omega
    rw [later, none, beyond_eq_nil schema (layersLeft_eq_zero none) types]
    exact .right _ (List.length_pos_iff.mpr inhabited)
  · refine .left _ _ ?_
    have := totalLeft_lasting layer selects
    omega

end Layered

end Projection

end NodeQuery
