import NodeQuery.Proofs.OrderedMap
import NodeQuery.Projection.Plan

/-! Plans as sets of selects. Adding selects to a plan can be done in either order, and adding one
again changes nothing, so a plan depends on nothing but which selects it is made of. -/

namespace NodeQuery

instance : Std.LawfulEqOrd TypeId where
  eq_of_compare {left right} same := by
    obtain ⟨graphs, names⟩ := compareLex_eq_eq.mp same
    cases left
    cases right
    cases Std.LawfulEqOrd.eq_of_compare graphs
    cases Std.LawfulEqOrd.eq_of_compare names
    rfl

namespace DepthMap

/-- Asking for two attributes in either order comes to the same. -/
theorem raise_comm (depths : DepthMap) (id other : AttributeId) (depth deeper : Nat) :
    raise (raise depths id depth) other deeper = raise (raise depths other deeper) id depth := by
  refine OrderedMap.upsert_comm depths fun _ names => ?_
  exact OrderedMap.upsert_comm _ fun _ known => by
    cases known <;> simp only [Option.getD_none, Option.getD_some] <;> omega

theorem raise_raise (depths : DepthMap) (id : AttributeId) (depth : Nat) :
    raise (raise depths id depth) id depth = raise depths id depth := by
  refine OrderedMap.upsert_upsert depths _ _ fun names => ?_
  exact OrderedMap.upsert_upsert _ _ _ fun known => by simp

end DepthMap

namespace SelectionPlan

theorem add_comm (plan : SelectionPlan) (first second : QualifiedSelect) :
    (plan.add first).add second = (plan.add second).add first := by
  cases first <;> cases second <;> try rfl
  case field.field name other =>
    exact congrArg (fun fields => { plan with fields })
      (OrderedMap.upsert_comm plan.fields fun _ _ => rfl)
  case property.property id other =>
    exact congrArg (fun properties => { plan with properties })
      (DepthMap.raise_comm plan.properties id other _ _)
  case reference.reference id depth other deeper =>
    exact congrArg (fun references => { plan with references })
      (DepthMap.raise_comm plan.references id other depth deeper)
  case referrer.referrer id depth other deeper =>
    exact congrArg (fun referrers => { plan with referrers })
      (DepthMap.raise_comm plan.referrers id other depth deeper)

theorem add_add (plan : SelectionPlan) (select : QualifiedSelect) :
    (plan.add select).add select = plan.add select := by
  cases select with
  | everything => rfl
  | nodeId => rfl
  | nodeType => rfl
  | field name =>
    exact congrArg (fun fields => { plan with fields })
      (OrderedMap.upsert_upsert plan.fields name (fun _ => ()) fun _ => rfl)
  | property id =>
    exact congrArg (fun properties => { plan with properties })
      (DepthMap.raise_raise plan.properties id _)
  | reference id depth =>
    exact congrArg (fun references => { plan with references })
      (DepthMap.raise_raise plan.references id depth)
  | referrer id depth =>
    exact congrArg (fun referrers => { plan with referrers })
      (DepthMap.raise_raise plan.referrers id depth)

theorem ofSelects_concat (selects : List QualifiedSelect) (select : QualifiedSelect) :
    ofSelects (selects ++ [select]) = (ofSelects selects).add select := by
  unfold ofSelects
  rw [List.foldl_append]
  rfl

/-- A plan has room already for what it was made of. -/
theorem add_of_mem {selects : List QualifiedSelect} {select : QualifiedSelect}
    (member : select ∈ selects) : (ofSelects selects).add select = ofSelects selects := by
  induction selects using List.reverseRecOn with
  | nil => cases member
  | append_singleton selects last ih =>
    rw [ofSelects_concat]
    rcases List.mem_append.mp member with earlier | same
    · rw [add_comm, ih earlier]
    · rw [List.mem_singleton.mp same, add_add]

theorem ofSelects_append_of_subset {selects others : List QualifiedSelect}
    (within : others ⊆ selects) : ofSelects (selects ++ others) = ofSelects selects := by
  induction others using List.reverseRecOn with
  | nil => rw [List.append_nil]
  | append_singleton others last ih =>
    obtain ⟨earlier, member⟩ := List.append_subset.mp within
    rw [← List.append_assoc, ofSelects_concat, ih earlier, add_of_mem (member (by simp))]

theorem ofSelects_perm {selects others : List QualifiedSelect} (perm : selects.Perm others) :
    ofSelects selects = ofSelects others :=
  perm.foldl_eq' (fun _ _ _ _ plan => add_comm plan _ _) empty

/-- A plan depends on nothing but which selects it is made of. -/
theorem ofSelects_eq_of_subset {selects others : List QualifiedSelect} (within : selects ⊆ others)
    (back : others ⊆ selects) : ofSelects selects = ofSelects others := by
  calc ofSelects selects
    _ = ofSelects (selects ++ others) := (ofSelects_append_of_subset back).symm
    _ = ofSelects (others ++ selects) := ofSelects_perm List.perm_append_comm
    _ = ofSelects others := ofSelects_append_of_subset within

end SelectionPlan

end NodeQuery
