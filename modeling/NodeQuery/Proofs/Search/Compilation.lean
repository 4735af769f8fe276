import NodeQuery.Proofs.Compilation
import NodeQuery.Proofs.Search.Evaluation
import NodeQuery.Proofs.Search.Fields
import NodeQuery.Proofs.Specification.Connective
import NodeQuery.Proofs.Timestamp.Term

/-! Searching for a specification. The query of a criterion is true of the document of a node where
the node meets the criterion, and the boolean queries follow the specification clause by clause. -/

namespace NodeQuery

open Search Text

namespace Criterion

/-- The text attribute that a criterion looks at, on the node itself or on a target. -/
def property? : Criterion → Option PropertyPath
  | .textEquals property _ => some property
  | .textStarts property _ => some property
  | .textBetween property _ => some property
  | .words property _ => some property
  | .wordStarts property _ => some property
  | .referencesSuch _ target => target.property?
  | _ => none

/-- The name of the text attribute that a criterion looks at has no point. -/
def PointFree (criterion : Criterion) : Prop :=
  ∀ property ∈ criterion.property?, NodeQuery.PointFree property.name

instance (criterion : Criterion) : Decidable criterion.PointFree :=
  inferInstanceAs (Decidable (∀ property ∈ criterion.property?, NodeQuery.PointFree property.name))

/-- A criterion with a search form whose field belongs to one attribute only. -/
def Searchable (criterion : Criterion) : Prop :=
  criterion.search?.isSome = true ∧ criterion.PointFree

end Criterion

variable {key : NodeKey} {node : Node}

/-- A date query finds the dates in the interval, bounds included. -/
theorem matches_dateQuery {document : Document} {field : String} {moment : Timestamp}
    (single : ∀ term, (field, term) ∈ document ↔ term = moment.term) (during : Interval Timestamp) :
    (dateQuery field during).Matches document ↔ during.contains moment = true := by
  have bounded (left right : Timestamp) :
      left.term ≤ right.term ↔ (compare left right).isLE = true := by
    rw [← isLE_compare, Timestamp.compare_term]
  simp only [dateQuery, Query.Matches, single, exists_eq_left, Interval.contains, Bool.and_eq_true,
    Option.all_eq_true, Option.mem_def, Option.map_eq_some_iff, forall_exists_index, and_imp,
    forall_apply_eq_imp_iff₂, bounded]

/-- The query of a criterion is true of the nodes that meet the criterion. -/
theorem Criterion.matches_search? {criterion : Criterion} {query : Query}
    (compiled : criterion.search? = some query) (plain : criterion.PointFree)
    (pointFree : node.PointFree) :
    query.Matches (document key node) ↔ criterion.holds key node = true := by
  have apart {property : PropertyPath} (asked : criterion.property? = some property) :
      ∀ name ∈ node.properties.keys, FieldsApart property.name name :=
    fun name held => fieldsApart_of_pointFree (plain property asked) (pointFree name held)
  cases criterion with
  | hasId id =>
    cases compiled
    unfold Query.Matches
    rw [mem_document_plain.1, Uuid.text_injective.eq_iff, holds, beq_iff_eq, eq_comm]
  | inGraph graph =>
    cases compiled
    simp only [Query.Matches, mem_document_plain, Uuid.text_injective.eq_iff, holds, beq_iff_eq]
    exact eq_comm
  | hasType name =>
    cases compiled
    simp only [Query.Matches, mem_document_plain, holds, beq_iff_eq]
    exact eq_comm
  | hasCode code =>
    cases compiled
    simp only [Query.Matches, mem_document_plain, holds, beq_iff_eq]
  | hasUri uri =>
    cases compiled
    simp only [Query.Matches, mem_document_plain, holds, beq_iff_eq]
  | hasNumber number =>
    cases compiled
    simp only [Query.Matches, mem_document_plain, integerText_injective.eq_iff, Int64.toInt_inj,
      holds, beq_iff_eq]
    exact eq_comm
  | createdWithin during =>
    cases compiled
    exact matches_dateQuery (fun term => mem_document_plain.2.2.2.2.1) during
  | modifiedWithin during =>
    cases compiled
    exact matches_dateQuery (fun term => mem_document_plain.2.2.2.2.2.1) during
  | textEquals property value =>
    cases compiled
    simp only [Query.Matches, mem_document_string (apart rfl), holds, List.contains_iff_mem]
  | textStarts property start =>
    cases compiled
    simp only [Query.Matches, mem_document_string (apart rfl), holds, List.any_eq_true,
      List.isPrefixOf_iff_prefix]
  | textBetween property bounds =>
    cases compiled
    simp only [Query.Matches, mem_document_string (apart rfl), holds, List.any_eq_true,
      Interval.contains, Bool.and_eq_true, Option.all_eq_true, isLE_compare, Option.mem_def]
  | words property phrase =>
    cases compiled
    simp only [Query.matches_allOf, Query.Matches, List.forall_mem_map,
      mem_document_words (apart rfl), holds, matchesWords, Bool.and_eq_true, List.all_eq_true,
      List.contains_iff_mem]
    simp
  | wordStarts property start =>
    cases compiled
    simp only [Query.Matches, mem_document_words (apart rfl), holds, List.any_eq_true,
      List.isPrefixOf_iff_prefix]
  | references name target =>
    cases compiled
    simp only [Query.Matches, mem_document_reference, Uuid.text_injective.eq_iff, holds,
      List.any_eq_true, beq_iff_eq]
  | referencesNothing name =>
    cases compiled
    simp only [Query.matches_without, Query.Matches, mem_document_reference, holds,
      List.isEmpty_iff, List.eq_nil_iff_forall_not_mem]
    simp
  | referencesSuch name target => cases compiled

namespace Specification.Connective

/-- The boolean query of the queries of the clauses. -/
def query : Connective → List Query → Query
  | .and => .allOf
  | .or => .anyOf

theorem matches_query (connective : Connective) {document : Document} {queries : List Query} :
    (connective.query queries).Matches document ↔ queries ≠ [] ∧
      connective.joined (fun query => decide (query.Matches document)) queries = true := by
  cases connective with
  | and =>
    change (Query.allOf queries).Matches document ↔ _
    simp [Query.matches_allOf, joined]
  | or =>
    change (Query.anyOf queries).Matches document ↔ _
    simp only [Query.matches_anyOf, joined, List.any_eq_true, decide_eq_true_eq]
    refine (and_iff_right_of_imp fun found => ?_).symm
    obtain ⟨query, listed, -⟩ := found
    exact List.ne_nil_of_mem listed

end Specification.Connective

namespace NodeSpecification

theorem searchForms_ok {good : NodeSpecification → Query → Prop} {clauses : List NodeSpecification}
    (each : ∀ clause ∈ clauses, ∃ query, clause.searchForm = .ok query ∧ good clause query) :
    ∃ queries, searchForms clauses = .ok queries ∧ List.Forall₂ good clauses queries := by
  apply Specification.translated_of_each searchForm searchForms rfl _ each
  intro clause clauses first rest compiled compiledRest
  unfold searchForms
  rw [compiled, compiledRest]
  rfl

theorem searchForm_compose (connective : Specification.Connective)
    (clauses : List NodeSpecification) :
    searchForm (connective.compose clauses) = (searchForms clauses).map connective.query := by
  cases connective <;> rfl

/-- Once every leaf has a query, the specification has one, and that is true of the nodes that meet
the specification. -/
theorem search_matches (specification : NodeSpecification)
    (searchable : ∀ criterion ∈ specification.leaves, criterion.Searchable) :
    ∃ query, specification.search = .ok query ∧ ∀ key (node : Node), node.PointFree →
      (query.Matches (document key node) ↔ specification.test key node = true) := by
  rw [search_eq_form]
  induction specification using Specification.composedOn with
  | everything => exact ⟨.everything, rfl, by simp [test, Specification.holds]⟩
  | nothing => exact ⟨.nothing, rfl, by simp [test, Specification.holds]⟩
  | leaf criterion =>
    obtain ⟨isSome, plain⟩ := searchable criterion (List.mem_singleton.mpr rfl)
    obtain ⟨query, compiled⟩ := Option.isSome_iff_exists.mp isSome
    exact ⟨query, by rw [searchForm, compiled], fun key node pointFree =>
      criterion.matches_search? compiled plain pointFree⟩
  | negation inner ih =>
    obtain ⟨query, compiled, means⟩ := ih searchable
    refine ⟨query.without, by rw [searchForm, compiled]; rfl, fun key node pointFree => ?_⟩
    rw [Query.matches_without, means key node pointFree]
    simp [test, Specification.holds]
  | composite connective clauses ih =>
    simp only [Specification.leaves_compose, Specification.allLeaves_eq, List.mem_flatMap]
      at searchable
    obtain ⟨queries, compiled, paired⟩ := searchForms_ok fun clause member =>
      ih clause member fun criterion leaf => searchable criterion ⟨clause, member, leaf⟩
    refine ⟨connective.query queries, by rw [searchForm_compose, compiled]; rfl,
      fun key node pointFree => ?_⟩
    have some : queries ≠ [] ↔ clauses ≠ [] := by
      simp [← List.length_eq_zero_iff, paired.length_eq]
    have agree : List.Forall₂ (fun clause query =>
        decide (query.Matches (document key node)) = test clause key node) clauses queries :=
      paired.imp fun _ _ means => Bool.eq_iff_iff.mpr
        (decide_eq_true_iff.trans (means key node pointFree))
    rw [connective.matches_query, connective.joined_of_paired _ agree, some, test,
      connective.holds_compose_iff]
    rfl

end NodeSpecification

end NodeQuery
