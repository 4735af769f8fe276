import NodeQuery.Compilation
import NodeQuery.Proofs.Specification

/-! Which specifications compile. A backend supports just the criteria that have a form there, so
the first leaf that the check finds is the one that putting a query together would stop at, and
nothing else stops it. -/

namespace NodeQuery

theorem Criterion.supports_relational (criterion : Criterion) :
    criterion.supports .relational = criterion.relational?.isSome := by
  cases criterion <;> rfl

theorem Criterion.supports_index (criterion : Criterion) :
    criterion.supports .index = criterion.search?.isSome := by
  cases criterion <;> rfl

namespace NodeSpecification

variable {backend : Backend} {β γ : Type} {specification : NodeSpecification}
  {clauses : List NodeSpecification}

theorem firstUnsupportedOf_eq
    (each : ∀ clause ∈ clauses, firstUnsupported backend clause =
      clause.leaves.find? (!·.supports backend)) :
    firstUnsupportedOf backend clauses =
      (Specification.allLeaves clauses).find? (!·.supports backend) := by
  induction clauses with
  | nil => rfl
  | cons clause clauses ih =>
    obtain ⟨first, others⟩ := List.forall_mem_cons.mp each
    rw [firstUnsupportedOf, Specification.allLeaves, List.find?_append, first, ih others]

/-- The check finds the leftmost leaf that is not supported. -/
theorem firstUnsupported_eq (backend : Backend) (specification : NodeSpecification) :
    firstUnsupported backend specification =
      specification.leaves.find? (!·.supports backend) := by
  induction specification using Specification.inductionOn with
  | everything | nothing => rfl
  | leaf criterion =>
    rw [firstUnsupported, Specification.leaves, List.find?_singleton]
    cases criterion.supports backend <;> rfl
  | negation inner ih => exact ih
  | conjunction clauses ih => exact firstUnsupportedOf_eq ih
  | disjunction clauses ih => exact firstUnsupportedOf_eq ih

theorem supports_eq (backend : Backend) (specification : NodeSpecification) :
    supports backend specification = specification.leaves.all (·.supports backend) := by
  rw [supports, firstUnsupported_eq, Bool.eq_iff_iff, Option.isNone_iff_eq_none]
  simp

/-- What compiling comes to when a leaf may not be supported: the refusal of this leaf, or a
result. -/
def Answers (backend : Backend) : Option Criterion → Except Unsupported β → Prop
  | some criterion, answer => answer = .error ⟨backend, criterion⟩
  | none, answer => ∃ result, answer = .ok result

theorem Answers.eq_error {criterion : Criterion} {answer : Except Unsupported β}
    (answers : Answers backend (some criterion) answer) : answer = .error ⟨backend, criterion⟩ :=
  answers

theorem Answers.map {unsupported : Option Criterion} {answer : Except Unsupported β}
    (answers : Answers backend unsupported answer) (f : β → γ) :
    Answers backend unsupported (answer.map f) := by
  cases unsupported with
  | none =>
    obtain ⟨result, rfl⟩ := answers
    exact ⟨f result, rfl⟩
  | some criterion =>
    cases answers
    rfl

/-- Clauses are compiled from left to right, and the first refusal is that of all of them. -/
theorem answers_all (compile : NodeSpecification → Except Unsupported β)
    (compileAll : List NodeSpecification → Except Unsupported (List β))
    (none : compileAll [] = .ok [])
    (more : ∀ clause clauses, compileAll (clause :: clauses) =
      (compile clause).bind fun result => (compileAll clauses).map (result :: ·))
    (each : ∀ clause ∈ clauses,
      Answers backend (firstUnsupported backend clause) (compile clause)) :
    Answers backend (firstUnsupportedOf backend clauses) (compileAll clauses) := by
  induction clauses with
  | nil => exact ⟨[], none⟩
  | cons clause clauses ih =>
    obtain ⟨first, others⟩ := List.forall_mem_cons.mp each
    rw [firstUnsupportedOf, more]
    cases found : firstUnsupported backend clause with
    | none =>
      rw [found] at first
      obtain ⟨result, compiled⟩ := first
      rw [compiled]
      exact (ih others).map (result :: ·)
    | some criterion =>
      rw [found] at first
      rw [first.eq_error]
      rfl

theorem relationalForm_answers (specification : NodeSpecification) :
    Answers .relational (firstUnsupported .relational specification)
      (relationalForm specification) := by
  have more (clause : NodeSpecification) (clauses : List NodeSpecification) :
      relationalForms (clause :: clauses) = (relationalForm clause).bind fun query =>
        (relationalForms clauses).map (query :: ·) := by
    rw [relationalForms]
    cases relationalForm clause <;> rfl
  induction specification using Specification.inductionOn with
  | everything => exact ⟨_, rfl⟩
  | nothing => exact ⟨_, rfl⟩
  | leaf criterion =>
    rw [firstUnsupported, criterion.supports_relational, relationalForm]
    cases criterion.relational? with
    | none => exact rfl
    | some query => exact ⟨query, rfl⟩
  | negation inner ih => exact ih.map _
  | conjunction clauses ih => exact (answers_all relationalForm relationalForms rfl more ih).map _
  | disjunction clauses ih => exact (answers_all relationalForm relationalForms rfl more ih).map _

theorem searchForm_answers (specification : NodeSpecification) :
    Answers .index (firstUnsupported .index specification) (searchForm specification) := by
  have more (clause : NodeSpecification) (clauses : List NodeSpecification) :
      searchForms (clause :: clauses) = (searchForm clause).bind fun query =>
        (searchForms clauses).map (query :: ·) := by
    rw [searchForms]
    cases searchForm clause <;> rfl
  induction specification using Specification.inductionOn with
  | everything => exact ⟨_, rfl⟩
  | nothing => exact ⟨_, rfl⟩
  | leaf criterion =>
    rw [firstUnsupported, criterion.supports_index, searchForm]
    cases criterion.search? with
    | none => exact rfl
    | some query => exact ⟨query, rfl⟩
  | negation inner ih => exact ih.map _
  | conjunction clauses ih => exact (answers_all searchForm searchForms rfl more ih).map _
  | disjunction clauses ih => exact (answers_all searchForm searchForms rfl more ih).map _

/-- The check refuses nothing that could be put together. -/
theorem relational_eq_form (specification : NodeSpecification) :
    relational specification = relationalForm specification := by
  have answers := relationalForm_answers specification
  unfold relational
  cases found : firstUnsupported .relational specification with
  | none => rfl
  | some criterion =>
    rw [found] at answers
    exact answers.eq_error.symm

theorem search_eq_form (specification : NodeSpecification) :
    search specification = searchForm specification := by
  have answers := searchForm_answers specification
  unfold search
  cases found : firstUnsupported .index specification with
  | none => rfl
  | some criterion =>
    rw [found] at answers
    exact answers.eq_error.symm

/-- What the forms of the leaves say of the answer: there is a result just if every leaf has a form,
and otherwise the leftmost leaf without one is named. -/
structure Settles (form : Criterion → Option γ) (backend : Backend)
    (specification : NodeSpecification) (answer : Except Unsupported β) : Prop where
  supported : specification.supports backend = true ↔
    ∀ leaf ∈ specification.leaves, (form leaf).isSome = true
  succeeds : (∃ result, answer = .ok result) ↔
    ∀ leaf ∈ specification.leaves, (form leaf).isSome = true
  refuses : ∀ unsupported, answer = .error unsupported ↔ unsupported.backend = backend ∧
    specification.leaves.find? (fun leaf => (form leaf).isNone) = some unsupported.criterion

theorem settles_of_answers {form : Criterion → Option γ} {answer : Except Unsupported β}
    (forms : ∀ criterion : Criterion, criterion.supports backend = (form criterion).isSome)
    (answers : Answers backend (firstUnsupported backend specification) answer) :
    Settles form backend specification answer := by
  have supported : specification.supports backend = true ↔
      ∀ leaf ∈ specification.leaves, (form leaf).isSome = true := by
    simp only [supports_eq, List.all_eq_true, forms]
  have first : specification.leaves.find? (fun leaf => (form leaf).isNone) =
      firstUnsupported backend specification := by
    simp only [firstUnsupported_eq, forms, Option.not_isSome]
  refine ⟨supported, Iff.trans ?_ supported, fun unsupported => ?_⟩
  · rw [supports]
    cases found : firstUnsupported backend specification with
    | none =>
      rw [found] at answers
      exact iff_of_true answers rfl
    | some criterion =>
      rw [found] at answers
      simp [answers.eq_error]
  · rw [first]
    cases found : firstUnsupported backend specification with
    | none =>
      rw [found] at answers
      obtain ⟨result, rfl⟩ := answers
      simp
    | some criterion =>
      rw [found] at answers
      rw [answers.eq_error]
      cases unsupported
      simp [eq_comm]

/-- For either backend a specification compiles just if each of its leaves has a form there;
otherwise the leftmost leaf without a form is named. -/
theorem compiles_iff (specification : NodeSpecification) :
    Settles Criterion.relational? .relational specification specification.relational ∧
      Settles Criterion.search? .index specification specification.search := by
  rw [relational_eq_form, search_eq_form]
  exact ⟨settles_of_answers Criterion.supports_relational (relationalForm_answers specification),
    settles_of_answers Criterion.supports_index (searchForm_answers specification)⟩

end NodeSpecification

end NodeQuery
