import NodeQuery.Proofs.Projection.Demand

/-! The transitive scope. The exploration visits what is pending and appends what each new type
leads to, so whatever is visited follows from the domain, and what a visited type leads to is
visited or pending. -/

namespace NodeQuery.Projection

/-- A select names references that lead from one type to another. -/
def Follows (schema : Schema) (selects : List ScopedSelect) (entityType other : EntityType) :
    Prop :=
  ∃ select ∈ selects, select.part.namesReferences = true ∧ select.Leads schema entityType other

/-- The least set of types that holds the known ones of the domain and all that named references
lead to from its types. -/
inductive InScope (schema : Schema) (selects : List ScopedSelect) (domain : List TypeId) :
    EntityType → Prop
  | domain {entityType : EntityType} (known : entityType ∈ schema.types)
      (listed : entityType.id ∈ domain) : InScope schema selects domain entityType
  | next {entityType other : EntityType} (reached : InScope schema selects domain entityType)
      (follows : Follows schema selects entityType other) : InScope schema selects domain other

section

variable {schema : Schema} {selects : List ScopedSelect} {entityType other : EntityType}

theorem Follows.known (follows : Follows schema selects entityType other) :
    other ∈ schema.types := by
  obtain ⟨_, _, _, leads⟩ := follows
  exact ScopedSelect.known_of_leads leads

theorem InScope.known {domain : List TypeId} (reached : InScope schema selects domain entityType) :
    entityType ∈ schema.types := by
  cases reached with
  | domain known _ => exact known
  | next _ follows => exact follows.known

theorem exists_target_iff_follows (known : entityType ∈ schema.types) :
    (∃ id ∈ namedTargets schema selects entityType, schema.get? id = some other) ↔
      Follows schema selects entityType other := by
  simp only [namedTargets, List.mem_flatMap, Follows, ← ScopedSelect.exists_namedTarget_iff known]
  constructor
  · intro given
    obtain ⟨id, ⟨select, asked, target⟩, found⟩ := given
    exact ⟨select, asked, id, target, found⟩
  · intro given
    obtain ⟨select, asked, id, target, found⟩ := given
    exact ⟨id, ⟨select, asked, target⟩, found⟩

/-- What holds of the visited and the pending types, and of what a type leads to once it holds of
the type, holds of all that the exploration finds. -/
theorem explore_sound {good : EntityType → Prop}
    (closed : ∀ entityType other, good entityType → Follows schema selects entityType other →
      good other) {visited : List EntityType} {pending : List TypeId}
    (visitedGood : ∀ entityType ∈ visited, good entityType)
    (pendingGood : ∀ id ∈ pending, ∀ entityType, schema.get? id = some entityType →
      good entityType) :
    ∀ entityType ∈ explore schema selects visited pending, good entityType := by
  fun_induction explore schema selects visited pending with
  | case1 visited => exact visitedGood
  | case2 visited id pending missing ih =>
    exact ih visitedGood (List.forall_mem_cons.mp pendingGood).2
  | case3 visited id pending entityType found old ih =>
    exact ih visitedGood (List.forall_mem_cons.mp pendingGood).2
  | case4 visited id pending entityType found new ih =>
    obtain ⟨firstGood, laterGood⟩ := List.forall_mem_cons.mp pendingGood
    have here := firstGood entityType found
    have known := (Schema.get?_eq_some_iff.mp found).1
    refine ih ?_ ?_
    · exact List.forall_mem_append.mpr ⟨visitedGood, List.forall_mem_singleton.mpr here⟩
    · refine List.forall_mem_append.mpr ⟨laterGood, fun id target other reached => ?_⟩
      exact closed _ _ here ((exists_target_iff_follows known).mp ⟨id, target, reached⟩)

/-- Everything that is visited or pending is found, and all that leads on from there, if what the
visited types lead to is visited or pending. -/
theorem explore_complete {visited : List EntityType} {pending : List TypeId}
    (covered : ∀ entityType ∈ visited, ∀ other, Follows schema selects entityType other →
      other ∈ visited ∨ other.id ∈ pending) :
    (∀ entityType ∈ visited, entityType ∈ explore schema selects visited pending) ∧
    (∀ entityType ∈ schema.types, entityType.id ∈ pending →
      entityType ∈ explore schema selects visited pending) ∧
    ∀ entityType ∈ explore schema selects visited pending, ∀ other,
      Follows schema selects entityType other →
        other ∈ explore schema selects visited pending := by
  fun_induction explore schema selects visited pending with
  | case1 visited =>
    refine ⟨fun _ member => member, fun _ _ none => absurd none List.not_mem_nil, ?_⟩
    intro entityType member other follows
    exact (covered entityType member other follows).resolve_right List.not_mem_nil
  | case2 visited id pending missing ih =>
    have absent (other : EntityType) (known : other ∈ schema.types) : other.id ≠ id := by
      intro same
      subst same
      rw [Schema.get?_eq_some_iff.mpr ⟨known, rfl⟩] at missing
      cases missing
    obtain ⟨kept, reached, closed⟩ := ih fun entityType member other follows =>
      (covered entityType member other follows).imp_right fun listed =>
        (List.mem_cons.mp listed).resolve_left (absent other follows.known)
    exact ⟨kept, fun entityType known listed =>
      reached entityType known ((List.mem_cons.mp listed).resolve_left (absent _ known)), closed⟩
  | case3 visited id pending entityType found old ih =>
    have one (other : EntityType) (known : other ∈ schema.types) (same : other.id = id) :
        other ∈ visited := by
      obtain ⟨inside, named⟩ := Schema.get?_eq_some_iff.mp found
      exact Schema.eq_of_id_eq known inside (same.trans named.symm) ▸ old
    obtain ⟨kept, reached, closed⟩ := ih fun entityType member other follows =>
      (covered entityType member other follows).elim .inl fun listed =>
        (List.mem_cons.mp listed).imp_left (one other follows.known)
    refine ⟨kept, fun other known listed => ?_, closed⟩
    rcases List.mem_cons.mp listed with same | later
    · exact kept other (one other known same)
    · exact reached other known later
  | case4 visited id pending entityType found new ih =>
    obtain ⟨inside, named⟩ := Schema.get?_eq_some_iff.mp found
    have one (other : EntityType) (known : other ∈ schema.types) (same : other.id = id) :
        other = entityType :=
      Schema.eq_of_id_eq known inside (same.trans named.symm)
    obtain ⟨kept, reached, closed⟩ := ih (by
      refine List.forall_mem_append.mpr ⟨fun earlier member other follows => ?_, ?_⟩
      · rw [List.mem_append, List.mem_append, List.mem_singleton]
        rcases covered earlier member other follows with visited | listed
        · exact .inl (.inl visited)
        · exact (List.mem_cons.mp listed).elim (fun same => .inl (.inr (one _ follows.known same)))
            fun later => .inr (.inl later)
      · refine List.forall_mem_singleton.mpr fun other follows => .inr ?_
        obtain ⟨target, member, reached⟩ := (exists_target_iff_follows inside).mpr follows
        rw [← (Schema.get?_eq_some_iff.mp reached).2] at member
        exact List.mem_append_right _ member)
    refine ⟨fun earlier member => kept earlier (List.mem_append_left _ member),
      fun other known listed => ?_, closed⟩
    rcases List.mem_cons.mp listed with same | later
    · rw [one other known same]
      exact kept entityType (by simp)
    · exact reached other known (List.mem_append_left _ later)

/-- What is found from the domain is its scope. -/
theorem mem_reachable {domain : List TypeId} :
    entityType ∈ reachable schema selects domain ↔ InScope schema selects domain entityType := by
  constructor
  · refine explore_sound (fun _ _ reached follows => .next reached follows)
      (fun _ none => absurd none List.not_mem_nil) ?_ entityType
    intro id listed entityType found
    obtain ⟨known, rfl⟩ := Schema.get?_eq_some_iff.mp found
    exact .domain known listed
  · intro reached
    obtain ⟨-, listed, closed⟩ : _ ∧ _ ∧ ∀ entityType ∈ reachable schema selects domain, _ :=
      explore_complete fun _ none => absurd none List.not_mem_nil
    induction reached with
    | domain known inDomain => exact listed _ known inDomain
    | next _ follows ih => exact closed _ ih _ follows

theorem InScope.imp {others : List ScopedSelect} {domain : List TypeId}
    (weaker : ∀ entityType ∈ schema.types, ∀ other, Follows schema selects entityType other →
      Follows schema others entityType other)
    (reached : InScope schema selects domain entityType) :
    InScope schema others domain entityType := by
  induction reached with
  | domain known listed => exact .domain known listed
  | next reached follows ih => exact .next ih (weaker _ reached.known _ follows)

theorem explore_missing {visited : List EntityType} {id : TypeId} {pending : List TypeId}
    (missing : schema.get? id = none) :
    explore schema selects visited (id :: pending) = explore schema selects visited pending := by
  conv_lhs => unfold explore
  split
  · rfl
  · next found => cases missing.symm.trans found

theorem explore_found {visited : List EntityType} {id : TypeId} {pending : List TypeId}
    (found : schema.get? id = some entityType) :
    explore schema selects visited (id :: pending) =
      if entityType ∈ visited then explore schema selects visited pending
      else explore schema selects (visited ++ [entityType])
        (pending ++ namedTargets schema selects entityType) := by
  conv_lhs => unfold explore
  split
  · next missing => cases missing.symm.trans found
  · next same =>
    cases found.symm.trans same
    rfl

/-- The exploration depends on nothing but the named targets. -/
theorem explore_congr {others : List ScopedSelect}
    (same : ∀ entityType, namedTargets schema selects entityType =
      namedTargets schema others entityType) (visited : List EntityType) (pending : List TypeId) :
    explore schema selects visited pending = explore schema others visited pending := by
  fun_induction explore schema selects visited pending with
  | case1 visited => rw [explore]
  | case2 visited id pending missing ih => rw [ih, explore_missing missing]
  | case3 visited id pending entityType found old ih => rw [ih, explore_found found, if_pos old]
  | case4 visited id pending entityType found new ih =>
    rw [ih, explore_found found, if_neg new, same]

end

end NodeQuery.Projection
