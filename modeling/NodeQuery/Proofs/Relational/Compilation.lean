import NodeQuery.Proofs.Relational.Layout
import NodeQuery.Proofs.Relational.Template
import NodeQuery.Proofs.Timestamp.Term

/-! The relational forms of specifications. Each criterion that has one makes a sentence that tells
of a node whether it meets the criterion; on the columns that may be empty the guard keeps the
comparison decided. Composites join the sentences of their clauses. -/

namespace NodeQuery.Relational

theorem accepts_equal {α : Type} [Ord α] [BEq α] [LawfulBEq α] [Std.LawfulEqOrd α]
    (left right : α) :
    Comparison.equal.accepts (compare left right) = (left == right) := by
  unfold Comparison.accepts
  rw [Bool.eq_iff_iff, beq_iff_eq, beq_iff_eq,
    Std.LawfulEqCmp.compare_eq_iff_eq]

theorem accepts_greaterOrEqual {α : Type} [Ord α] [Std.OrientedCmp (compare (α := α))]
    (left right : α) :
    Comparison.greaterOrEqual.accepts (compare left right) = (compare right left).isLE := by
  have swapped : compare left right = (compare right left).swap := Std.OrientedCmp.eq_swap
  unfold Comparison.accepts
  rw [swapped]
  cases compare right left <;> rfl

theorem accepts_lessOrEqual (order : Ordering) :
    Comparison.lessOrEqual.accepts order = order.isLE := by
  cases order <;> rfl

namespace Compared

/-- A comparison of a column with a parameter. -/
def ofColumn (column : Column) (sign : Sign) (value : Value) : Compared :=
  ⟨.column column, sign, .parameter value⟩

variable {column : Column} {sign : Sign} {value stored : Value} {key : NodeKey} {node : Node}

theorem text_ofColumn : (ofColumn column sign value).text =
    column.name.toList ++ ' ' :: (sign.text.toList ++ [' ', '?']) := by
  simp [ofColumn, text, Part.column, Part.parameter]

theorem decided {order : Ordering} (present : column.value key node = some stored)
    (comparable : stored.compare? value = some order) :
    (ofColumn column sign value).condition.evaluate (row key node) =
      .ok (some (sign.comparison.accepts order)) :=
  Condition.evaluate_compared (present ▸ lookUp_row key node column)
    ((Part.parameter value).evaluated key node) comparable

theorem undecided (empty : column.value key node = none) :
    (ofColumn column sign value).condition.evaluate (row key node) = .ok none :=
  Condition.evaluate_compared_none (empty ▸ lookUp_row key node column)
    ((Part.parameter value).evaluated key node)

end Compared

namespace Sentence

/-- A sentence that tells of every node whether it meets a specification. -/
def Means (sentence : Sentence) (query : Query) (meaning : NodeKey → Node → Bool) : Prop :=
  sentence.query = query ∧ ∀ key node, sentence.meaning key node = meaning key node

theorem means_tautology : ∃ sentence : Sentence, sentence.Means .tautology fun _ _ => true := by
  refine ⟨.compared ⟨.bit true, .equal, .bit true⟩ .tautology (fun _ _ => true) rfl rfl ?_, rfl,
    fun _ _ => rfl⟩
  intro key node
  rfl

theorem means_contradiction :
    ∃ sentence : Sentence, sentence.Means .contradiction fun _ _ => false := by
  refine ⟨.compared ⟨.bit true, .equal, .bit false⟩ .contradiction (fun _ _ => false) rfl rfl ?_,
    rfl, fun _ _ => rfl⟩
  intro key node
  rfl

variable {column : Column} {value : Value} {meaning : NodeKey → Node → Bool}

theorem means_equalTo (decided : ∀ key node, ∃ stored order, column.value key node = some stored ∧
    stored.compare? value = some order ∧ Comparison.equal.accepts order = meaning key node) :
    ∃ sentence : Sentence, sentence.Means (equalTo column value) meaning := by
  refine ⟨.compared (.ofColumn column .equal value) (equalTo column value) meaning ?_ rfl ?_, rfl,
    fun _ _ => rfl⟩
  · simp [equalTo, Compared.text_ofColumn, Sign.equal]
  · intro key node
    obtain ⟨stored, order, present, comparable, same⟩ := decided key node
    rw [← same]
    exact Compared.decided present comparable

/-- The guard decides the condition where the column is empty. -/
theorem means_presentAndEqualTo {stored : Node → Option String} {text : String}
    (column_value : ∀ key node, column.value key node = (stored node).map .text) :
    ∃ sentence : Sentence, sentence.Means (presentAndEqualTo column (.text text))
      fun _ node => stored node == some text := by
  refine ⟨.presentAndCompared column .equal (.parameter (.text text))
    (presentAndEqualTo column (.text text)) (fun _ node => stored node == some text) ?_ rfl ?_,
    rfl, fun _ _ => rfl⟩
  · change _ = _ ++ ' ' :: (_ ++ ' ' :: (_ ++ ' ' :: (_ ++ ' ' :: (_ ++ ' ' ::
      (Compared.ofColumn column .equal (.text text)).text))))
    simp [presentAndEqualTo, Compared.text_ofColumn, Sign.equal]
  · intro key node
    have value := column_value key node
    have guard := Condition.evaluate_negation (Condition.evaluate_isEmpty
      (show (Operand.stored column.name).evaluate _ = _ from lookUp_row key node column))
    rw [value] at guard
    cases present : stored node with
    | none =>
      rw [present] at value guard
      exact Condition.evaluate_both guard (Compared.undecided value)
    | some found =>
      rw [present] at value guard
      apply (Condition.evaluate_both guard (Compared.decided value rfl)).trans
      rw [Option.some_beq_some, ← accepts_equal found text]
      change Except.ok (Truth.both (some true) (some (Comparison.equal.accepts _))) = _
      cases Comparison.equal.accepts (compare found text) <;> rfl

/-- The bounds that an interval has are compared with the date in the column. -/
theorem means_within {during : Interval Timestamp} {date : Node → Timestamp}
    (column_value : ∀ key node, column.value key node = some (.timestamp (date node))) :
    ∃ sentence : Sentence, sentence.Means (within column during)
      fun _ node => during.contains (date node) := by
  obtain ⟨lower, upper⟩ := during
  have above (lower : Timestamp) (key : NodeKey) (node : Node) :
      (Compared.ofColumn column .greaterOrEqual (.timestamp lower)).condition.evaluate
        (row key node) = .ok (some (compare lower (date node)).isLE) := by
    rw [Compared.decided (column_value key node) rfl, ← accepts_greaterOrEqual]
    rfl
  have below (upper : Timestamp) (key : NodeKey) (node : Node) :
      (Compared.ofColumn column .lessOrEqual (.timestamp upper)).condition.evaluate
        (row key node) = .ok (some (compare (date node) upper).isLE) := by
    rw [Compared.decided (column_value key node) rfl, ← accepts_lessOrEqual]
    rfl
  cases lower with
  | none =>
    cases upper with
    | none => exact means_tautology
    | some upper =>
      refine ⟨.compared (.ofColumn column .lessOrEqual (.timestamp upper)) _
        (fun _ node => Interval.contains ⟨none, some upper⟩ (date node)) ?_ rfl (below upper), rfl,
        fun _ _ => rfl⟩
      simp [Compared.text_ofColumn, Sign.lessOrEqual]
  | some lower =>
    cases upper with
    | none =>
      refine ⟨.compared (.ofColumn column .greaterOrEqual (.timestamp lower)) _
        (fun _ node => Interval.contains ⟨some lower, none⟩ (date node)) ?_ rfl ?_, rfl,
        fun _ _ => rfl⟩
      · simp [Compared.text_ofColumn, Sign.greaterOrEqual]
      · simpa [Interval.contains] using above lower
    | some upper =>
      refine ⟨.bothCompared (.ofColumn column .greaterOrEqual (.timestamp lower))
        (.ofColumn column .lessOrEqual (.timestamp upper)) _
        (fun _ node => Interval.contains ⟨some lower, some upper⟩ (date node)) ?_ rfl ?_, rfl,
        fun _ _ => rfl⟩
      · simp [Compared.text_ofColumn, Sign.greaterOrEqual, Sign.lessOrEqual]
      · intro key node
        rw [Condition.evaluate_both (above lower key node) (below upper key node),
          Interval.contains]
        simp only [Option.all_some]
        cases (compare lower (date node)).isLE <;> cases (compare (date node) upper).isLE <;> rfl

end Sentence

/-- The query of a criterion tells of the nodes whether they meet the criterion. -/
theorem means_criterion {criterion : Criterion} {query : Query}
    (compiled : criterion.relational? = some query) :
    ∃ sentence : Sentence, sentence.Means query fun key node => criterion.holds key node := by
  cases criterion with
  | hasId id =>
    cases compiled
    exact Sentence.means_equalTo fun key _ => ⟨_, _, rfl, rfl, accepts_equal key.id id⟩
  | inGraph graph =>
    cases compiled
    exact Sentence.means_equalTo fun key _ => ⟨_, _, rfl, rfl, accepts_equal key.typeId.graph graph⟩
  | hasType name =>
    cases compiled
    exact Sentence.means_equalTo fun key _ => ⟨_, _, rfl, rfl, accepts_equal key.typeId.name name⟩
  | hasCode code =>
    cases compiled
    exact Sentence.means_presentAndEqualTo fun _ _ => rfl
  | hasUri uri =>
    cases compiled
    exact Sentence.means_presentAndEqualTo fun _ _ => rfl
  | hasNumber number =>
    cases compiled
    refine Sentence.means_equalTo fun _ node => ⟨_, _, rfl, rfl, ?_⟩
    rw [accepts_equal, Bool.eq_iff_iff, beq_iff_eq, Int64.toInt_inj, Criterion.holds, beq_iff_eq]
  | createdWithin during =>
    cases compiled
    exact Sentence.means_within fun _ _ => rfl
  | modifiedWithin during =>
    cases compiled
    exact Sentence.means_within fun _ _ => rfl
  | _ => cases compiled

theorem means_negate {query : Query} {meaning : NodeKey → Node → Bool}
    (form : ∃ sentence : Sentence, sentence.Means query meaning) :
    ∃ sentence : Sentence, sentence.Means query.negate fun key node => !meaning key node := by
  obtain ⟨sentence, rfl, means⟩ := form
  exact ⟨sentence.negate, rfl, fun key node => congrArg (!·) (means key node)⟩

end NodeQuery.Relational

namespace NodeQuery.Specification.Connective

/-- The connective between the sentences of the clauses. -/
def junction : Connective → Relational.Junction
  | .and => .and
  | .or => .or

theorem separator_junction (connective : Connective) :
    connective.junction.separator = connective.separator := by
  cases connective <;> rfl

theorem truth_junction (connective : Connective) :
    connective.junction.truth = connective.both := by
  cases connective <;> rfl

end NodeQuery.Specification.Connective

namespace NodeQuery.NodeSpecification

open Relational

theorem relationalForms_ok {good : NodeSpecification → Query → Prop}
    {clauses : List NodeSpecification}
    (each : ∀ clause ∈ clauses, ∃ query, clause.relationalForm = .ok query ∧ good clause query) :
    ∃ queries, relationalForms clauses = .ok queries ∧ List.Forall₂ good clauses queries := by
  apply Specification.translated_of_each relationalForm relationalForms rfl _ each
  intro clause clauses first rest compiled compiledRest
  unfold relationalForms
  rw [compiled, compiledRest]
  rfl

/-- The joined queries of some clauses join what the clauses mean, from left to right. -/
theorem means_joined (junction : Junction) {first : NodeSpecification} {query : Query}
    {others : List NodeSpecification} {queries : List Query}
    (firstForm : ∃ sentence : Sentence, sentence.Means query first.test)
    (otherForms : List.Forall₂ (fun clause query => ∃ sentence : Sentence,
      sentence.Means query clause.test) others queries) :
    ∃ sentence : Sentence, sentence.Means (.joined junction.separator (query :: queries))
      fun key node => others.foldl (fun truth other => junction.truth truth (other.test key node))
        (first.test key node) := by
  obtain ⟨sentence, rfl, means⟩ := firstForm
  have forms : ∃ sentences : List Sentence, sentences.map (·.query) = queries ∧
      ∀ key node, (sentences.map fun other => other.meaning key node) =
        others.map fun other => other.test key node := by
    induction otherForms with
    | nil => exact ⟨[], rfl, fun _ _ => rfl⟩
    | cons form _ ih =>
      obtain ⟨other, rfl, same⟩ := form
      obtain ⟨sentences, rfl, agree⟩ := ih
      exact ⟨other :: sentences, rfl, fun key node =>
        congrArg₂ List.cons (same key node) (agree key node)⟩
  obtain ⟨sentences, rfl, agree⟩ := forms
  refine ⟨.joined junction sentence sentences, rfl, fun key node => ?_⟩
  have joined := congrArg (List.foldl junction.truth (first.test key node)) (agree key node)
  rw [List.foldl_map, List.foldl_map, ← means] at joined
  beta_reduce
  rw [← means]
  exact joined

/-- Once every leaf has a relational form, the specification has one, and that tells of the nodes
whether they meet the specification. -/
theorem relational_means (specification : NodeSpecification)
    (supported : specification.supports .relational = true) :
    ∃ query, specification.relational = .ok query ∧
      ∃ sentence : Sentence, sentence.Means query specification.test := by
  rw [relational_eq_form]
  simp only [supports_eq, List.all_eq_true, Criterion.supports_relational] at supported
  induction specification using Specification.composedOn with
  | everything => exact ⟨.tautology, rfl, Sentence.means_tautology⟩
  | nothing => exact ⟨.contradiction, rfl, Sentence.means_contradiction⟩
  | leaf criterion =>
    obtain ⟨query, compiled⟩ :=
      Option.isSome_iff_exists.mp (supported criterion (List.mem_singleton.mpr rfl))
    exact ⟨query, by rw [relationalForm, compiled], means_criterion compiled⟩
  | negation inner ih =>
    obtain ⟨query, compiled, form⟩ := ih supported
    exact ⟨query.negate, by rw [relationalForm, compiled]; rfl, means_negate form⟩
  | composite connective clauses ih =>
    simp only [Specification.leaves_compose, Specification.allLeaves_eq, List.mem_flatMap]
      at supported
    obtain ⟨queries, compiled, paired⟩ := relationalForms_ok fun clause member =>
      ih clause member fun criterion leaf => supported criterion ⟨clause, member, leaf⟩
    refine ⟨.joined connective.separator queries, by rw [relationalForm_compose, compiled]; rfl, ?_⟩
    cases paired with
    | nil =>
      obtain ⟨sentence, same, means⟩ := Sentence.means_contradiction
      refine ⟨sentence, same, fun key node => ?_⟩
      rw [means, test, connective.holds_compose_nil]
    | @cons clause _ others _ first rest =>
      obtain ⟨sentence, same, means⟩ := means_joined connective.junction first rest
      rw [connective.separator_junction] at same
      refine ⟨sentence, same, fun key node => ?_⟩
      let holds (other : NodeSpecification) : Bool := other.test key node
      calc sentence.meaning key node
          = others.foldl (fun truth other => connective.both truth (holds other))
              (holds clause) := by rw [means, connective.truth_junction]
        _ = connective.joined holds (clause :: others) := by
            rw [connective.foldl_both, connective.joined_cons]
        _ = test (connective.compose (clause :: others)) key node :=
            (connective.holds_compose _ (List.cons_ne_nil _ _)).symm

end NodeQuery.NodeSpecification
