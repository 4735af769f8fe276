import NodeQuery.Proofs.Relational.Sentence
import NodeQuery.Proofs.Text.Joined

/-! Sentences joined by a connective. Each stands in parentheses, and they are read from left to
right; the condition of all of them is decided on every row, since each of them is. -/

namespace NodeQuery.Relational

open Grammar

/-- A connective between sentences in parentheses. -/
structure Junction where
  separator : String
  word : String
  operator : Operator
  precedence : Nat
  join : Condition → Condition → Condition
  truth : Bool → Bool → Bool
  spaced : separator.toList = ' ' :: word.toList ++ [' ']
  spelled : Token.Spells word.toList [.word word none]
  nests : Nests separator.toList 0
  connective : (.word word none, operator, precedence) ∈ connectives
  positive : 0 < precedence
  bound : ∀ {left right : Expression} {leftCondition rightCondition : Condition}
    {start middle finish : Unbound}, bindCondition left start = .ok (leftCondition, middle) →
      bindCondition right middle = .ok (rightCondition, finish) →
      bindCondition (.binary operator left right) start =
        .ok (join leftCondition rightCondition, finish)
  decided : ∀ {left right : Condition} {row : Row} {leftTruth rightTruth : Bool},
    left.evaluate row = .ok (some leftTruth) → right.evaluate row = .ok (some rightTruth) →
      (join left right).evaluate row = .ok (some (truth leftTruth rightTruth))

namespace Junction

def and : Junction where
  separator := " AND "
  word := "AND"
  operator := .and
  precedence := Precedence.and
  join := .both
  truth := (· && ·)
  spaced := rfl
  spelled := Token.spells_and
  nests := .plain _ rfl
  connective := by decide
  positive := by decide
  bound := fun first second => by
    simp only [bindCondition, bind, Except.bind, first, second]
    rfl
  decided := fun {_ _ _ leftTruth rightTruth} first second => by
    rw [Condition.evaluate_both first second]
    cases leftTruth <;> cases rightTruth <;> rfl

def or : Junction where
  separator := " OR "
  word := "OR"
  operator := .or
  precedence := Precedence.or
  join := .either
  truth := (· || ·)
  spaced := rfl
  spelled := Token.spells_or
  nests := .plain _ rfl
  connective := by decide
  positive := by decide
  bound := fun first second => by
    simp only [bindCondition, bind, Except.bind, first, second]
    rfl
  decided := fun {_ _ _ leftTruth rightTruth} first second => by
    rw [Condition.evaluate_either first second]
    cases leftTruth <;> cases rightTruth <;> rfl

variable (junction : Junction)

/-- What follows the first of several sentences. -/
def tail (others : List Sentence) : List Char :=
  others.flatMap fun other =>
    junction.separator.toList ++ ('(' :: other.query.template.toList ++ [')'])

def entries (others : List Sentence) : List (List Token × Expression) :=
  others.map fun other => (other.tokens, other.expression)

def tokens (others : List Sentence) : List Token :=
  joinedTokens (.word junction.word none) (entries others)

theorem template_joined (first : Sentence) (others : List Sentence) :
    (Query.joined junction.separator ((first :: others).map (·.query))).template.toList =
      ('(' :: first.query.template.toList ++ [')']) ++ junction.tail others := by
  simp only [Query.joined, List.map_cons, List.isEmpty_cons, Bool.false_eq_true, if_false,
    Text.intercalate_cons]
  simp [tail, List.flatMap_def, String.toList_join, Function.comp_def]

theorem parameters_joined (first : Sentence) (others : List Sentence) :
    (Query.joined junction.separator ((first :: others).map (·.query))).parameters =
      first.query.parameters ++ others.flatMap (·.query.parameters) := by
  simp [Query.joined, List.flatMap_map]

theorem spells_tail {text : List Char} {front : List Token} (spelled : Token.Spells text front)
    (others : List Sentence) :
    Token.Spells (text ++ junction.tail others) (front ++ junction.tokens others) := by
  induction others generalizing text front with
  | nil => simpa [tail, tokens, entries, joinedTokens] using spelled
  | cons other others ih =>
    have next := ih (spelled.spaced (junction.spelled.spaced other.spelled.parenthesized))
    simpa [tail, tokens, entries, joinedTokens, nestedTokens, junction.spaced] using next

theorem nests_tail (others : List Sentence) :
    Nests (junction.tail others)
      (others.foldr (fun other depth => max (other.depth + 1) depth) 0) := by
  induction others with
  | nil => exact .plain _ rfl
  | cons other others ih =>
    have front := junction.nests.append other.nests.parenthesized
    rw [Nat.zero_max] at front
    exact front.append ih

theorem le_of_mem {others : List Sentence} {levels : Nat}
    (enough : others.foldr (fun other depth => max (other.depth + 1) depth) 0 ≤ levels + 1) :
    ∀ other ∈ others, other.depth ≤ levels := by
  induction others with
  | nil => exact fun _ member => absurd member List.not_mem_nil
  | cons other others ih =>
    rw [List.foldr_cons, max_le_iff] at enough
    exact List.forall_mem_cons.mpr ⟨Nat.le_of_succ_le_succ enough.1, ih enough.2⟩

theorem exists_of_lt {others : List Sentence} {levels : Nat}
    (few : levels < others.foldr (fun other depth => max (other.depth + 1) depth) 0) :
    ∃ other ∈ others, levels < other.depth + 1 := by
  induction others with
  | nil => cases few
  | cons other others ih =>
    rw [List.foldr_cons, lt_max_iff] at few
    exact (List.exists_mem_cons_iff _ _ _).mpr (few.imp_right ih)

/-- Joined conditions are bound one after the other. -/
theorem bound_joined (first : Expression) {condition : Condition} {parameters : List Value}
    (bound : ∀ position more, bindCondition first ⟨position, parameters ++ more⟩ =
      .ok (condition, ⟨position + parameters.length, more⟩))
    (others : List Sentence) (position : Nat) (more : List Value) :
    bindCondition (joinedExpression junction.operator first (entries others))
        ⟨position, parameters ++ others.flatMap (·.query.parameters) ++ more⟩ =
      .ok (others.foldl (fun left other => junction.join left other.condition) condition,
        ⟨position + (parameters ++ others.flatMap (·.query.parameters)).length, more⟩) := by
  induction others generalizing first condition parameters with
  | nil => simpa [joinedExpression, entries] using bound position more
  | cons other others ih =>
    have next (position : Nat) (more : List Value) :
        bindCondition (.binary junction.operator first (.nested other.expression))
            ⟨position, (parameters ++ other.query.parameters) ++ more⟩ =
          .ok (junction.join condition other.condition,
            ⟨position + (parameters ++ other.query.parameters).length, more⟩) := by
      rw [List.append_assoc, List.length_append, ← Nat.add_assoc]
      exact junction.bound (bound position _) (other.bound _ more)
    simpa only [List.flatMap_cons, List.append_assoc, joinedExpression, entries, List.map_cons,
      List.foldl_cons] using ih _ next

theorem decided_joined {condition : Condition} {truth : Bool} {key : NodeKey} {node : Node}
    (decided : condition.evaluate (row key node) = .ok (some truth)) (others : List Sentence) :
    (others.foldl (fun left other => junction.join left other.condition) condition).evaluate
        (row key node) =
      .ok (some (others.foldl (fun left other => junction.truth left (other.meaning key node))
        truth)) := by
  induction others generalizing condition truth with
  | nil => exact decided
  | cons other others ih => exact ih (junction.decided decided (other.decided key node))

end Junction

namespace Sentence

/-- One or more sentences in parentheses, joined by a connective. -/
def joined (junction : Junction) (first : Sentence) (others : List Sentence) : Sentence where
  query := .joined junction.separator ((first :: others).map (·.query))
  tokens := nestedTokens first.tokens ++ junction.tokens others
  expression := joinedExpression junction.operator (.nested first.expression)
    (Junction.entries others)
  depth := max (first.depth + 1) (others.foldr (fun other depth => max (other.depth + 1) depth) 0)
  condition := others.foldl (fun left other => junction.join left other.condition) first.condition
  meaning := fun key node =>
    others.foldl (fun left other => junction.truth left (other.meaning key node))
      (first.meaning key node)
  spelled := junction.template_joined first others ▸
    junction.spells_tail first.spelled.parenthesized others
  nests := junction.template_joined first others ▸
    first.nests.parenthesized.append (junction.nests_tail others)
  noQuery := fun _ => rfl
  noModifiers := fun _ => rfl
  read := fun levels enough => by
    obtain ⟨firstEnough, othersEnough⟩ := max_le_iff.mp enough
    obtain ⟨levels, rfl⟩ := Nat.exists_eq_add_of_le' (Nat.le_of_add_left_le firstEnough)
    refine reads_joined junction.connective junction.positive
      (first.read levels (Nat.le_of_succ_le_succ firstEnough)) first.noQuery ?_
    intro entry member
    obtain ⟨other, listed, rfl⟩ := List.mem_map.mp member
    exact ⟨other.read levels (Junction.le_of_mem othersEnough other listed), other.noQuery⟩
  refused := fun levels few => by
    by_cases enough : levels < first.depth + 1
    · exact refuses_joined_of_first (blocks_nested first.refused first.noQuery enough) _
    obtain ⟨levels, rfl⟩ := Nat.exists_eq_add_of_le' (Nat.le_of_add_left_le (not_lt.mp enough))
    have firstRead := first.read levels (Nat.le_of_succ_le_succ (not_lt.mp enough))
    obtain ⟨deep, listed, tooFew⟩ :=
      Junction.exists_of_lt ((lt_max_iff.mp few).resolve_left enough)
    refine refuses_joined_of_later junction.connective junction.positive firstRead first.noQuery ?_
      ⟨_, List.mem_map_of_mem listed, blocks_nested deep.refused deep.noQuery tooFew⟩
    intro entry member
    obtain ⟨other, _, rfl⟩ := List.mem_map.mp member
    rcases Nat.lt_or_ge levels other.depth with short | fits
    · exact .inr (blocks_nested other.refused other.noQuery (Nat.succ_lt_succ short))
    · exact .inl (reads_nested (other.read levels fits) other.noQuery)
  bound := junction.parameters_joined first others ▸
    junction.bound_joined (.nested first.expression) first.bound others
  decided := fun key node => junction.decided_joined (first.decided key node) others

end Sentence

end NodeQuery.Relational
