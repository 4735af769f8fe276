import NodeQuery.Proofs.History
import NodeQuery.Proofs.Relational.Layout

/-! Question marks and parameters. No piece of a template has quotes, and each has as many question
marks as it adds parameters, so the marks and the parameters before a piece are equally many. Hence
the question mark at a position belongs to the fragment that the parameter there comes from. -/

namespace NodeQuery

namespace Relational

/-- The offsets of the question marks outside of quotes. -/
def marksFrom (quoted : Bool) (offset : Nat) : List Char → List Nat
  | [] => []
  | char :: rest =>
    if char = '\'' then marksFrom (!quoted) (offset + 1) rest
    else if char = '?' && !quoted then offset :: marksFrom quoted (offset + 1) rest
    else marksFrom quoted (offset + 1) rest

def Query.marks (query : Query) : List Nat := marksFrom false 0 query.template.toList

theorem length_marksFrom (quoted : Bool) (offset : Nat) (text : List Char) :
    (marksFrom quoted offset text).length = Query.placeholdersFrom quoted text := by
  induction text generalizing quoted offset with
  | nil => rfl
  | cons char rest ih =>
    unfold marksFrom Query.placeholdersFrom
    split
    · exact ih _ _
    · split
      · rw [List.length_cons, ih, Nat.add_comm]
      · exact ih _ _

theorem mem_marksFrom {quoted : Bool} {offset mark : Nat} {text : List Char}
    (member : mark ∈ marksFrom quoted offset text) :
    offset ≤ mark ∧ mark < offset + text.length := by
  induction text generalizing quoted offset with
  | nil => cases member
  | cons char rest ih =>
    have later {quoted : Bool} (member : mark ∈ marksFrom quoted (offset + 1) rest) :
        offset ≤ mark ∧ mark < offset + (char :: rest).length := by
      have := ih member
      rw [List.length_cons]
      omega
    unfold marksFrom at member
    split at member
    · exact later member
    · split at member
      · rcases List.mem_cons.mp member with rfl | member
        · exact ⟨le_refl _, by simp⟩
        · exact later member
      · exact later member

/-- Behind a text without quotes the marks go on as in a text of its own. -/
theorem marksFrom_append {text : List Char} (quoteFree : '\'' ∉ text) (quoted : Bool)
    (offset : Nat) (rest : List Char) :
    marksFrom quoted offset (text ++ rest) =
      marksFrom quoted offset text ++ marksFrom quoted (offset + text.length) rest := by
  induction text generalizing offset with
  | nil => rfl
  | cons char text ih =>
    obtain ⟨plain, quoteFree⟩ := not_or.mp (mt List.mem_cons.mpr quoteFree)
    have next := ih quoteFree (offset + 1)
    rw [Nat.add_right_comm] at next
    rw [List.cons_append, marksFrom, marksFrom, if_neg (Ne.symm plain), if_neg (Ne.symm plain),
      next]
    split <;> rfl

/-- A query without quotes that has a question mark for each parameter. -/
structure Query.Balanced (query : Query) : Prop where
  quoteFree : '\'' ∉ query.template.toList
  counted : query.placeholders = query.parameters.length

theorem Query.Balanced.length_marks {query : Query} (balanced : query.Balanced) (offset : Nat) :
    (marksFrom false offset query.template.toList).length = query.parameters.length :=
  (length_marksFrom false offset _).trans balanced.counted

theorem balanced_mk (template : String) (parameters : List Value)
    (quoteFree : template.toList.contains '\'' = false)
    (counted : Query.placeholdersFrom false template.toList = parameters.length) :
    Query.Balanced ⟨template, parameters⟩ :=
  ⟨by simpa using quoteFree, counted⟩

theorem balanced_fragment (criterion : Criterion) : criterion.fragment.Balanced := by
  cases criterion with
  | createdWithin during =>
    obtain ⟨lower, upper⟩ := during
    cases lower <;> cases upper <;> exact balanced_mk _ _ rfl rfl
  | modifiedWithin during =>
    obtain ⟨lower, upper⟩ := during
    cases lower <;> cases upper <;> exact balanced_mk _ _ rfl rfl
  | _ => exact balanced_mk _ _ rfl rfl

/-- The texts that may stand between fragments. -/
def connectingTexts : List String := ["1 = 1", "1 = 0", "NOT (", "(", ")", " AND ", " OR "]

/-- A fixed text of joined layouts is one that joins them, or stands in one of them. -/
theorem fixed_of_mem_joinedLayout {α : Type} {separator text : String}
    {layouts : List (List (Piece α))} (member : .fixed text ∈ joinedLayout separator layouts) :
    text ∈ ["1 = 0", "(", ")", separator] ∨ ∃ pieces ∈ layouts, .fixed text ∈ pieces := by
  have inside {pieces : List (Piece α)} (member : .fixed text ∈ enclosed pieces) :
      text ∈ ["(", ")"] ∨ .fixed text ∈ pieces := by
    simp only [enclosed, List.cons_append, List.mem_cons, List.mem_append, Piece.fixed.injEq,
      List.not_mem_nil, or_false] at member ⊢
    tauto
  have parentheses : ["(", ")"] ⊆ ["1 = 0", "(", ")", separator] := by simp
  cases layouts with
  | nil => simp_all [joinedLayout]
  | cons first others =>
    rcases List.mem_append.mp member with member | member
    · rcases inside member with connecting | member
      · exact .inl (parentheses connecting)
      · exact .inr ⟨first, List.mem_cons_self, member⟩
    · obtain ⟨other, listed, member⟩ := List.mem_flatMap.mp member
      rcases List.mem_cons.mp member with same | member
      · cases same
        exact .inl (by simp)
      · rcases inside member with connecting | member
        · exact .inl (parentheses connecting)
        · exact .inr ⟨other, List.mem_cons_of_mem first listed, member⟩

theorem fixed_of_mem_layout {α : Type} {specification : Specification α} {text : String}
    (member : .fixed text ∈ layout specification) : text ∈ connectingTexts := by
  induction specification using Specification.composedOn with
  | everything => simp_all [layout, connectingTexts]
  | nothing => simp_all [layout, connectingTexts]
  | leaf value => simp_all [layout]
  | negation inner ih =>
    simp only [layout, List.cons_append, List.mem_cons, List.mem_append, Piece.fixed.injEq,
      List.not_mem_nil, or_false] at member
    rcases member with rfl | inside | rfl
    · decide
    · exact ih inside
    · decide
  | composite connective clauses ih =>
    rw [layout_compose] at member
    rcases fixed_of_mem_joinedLayout member with connecting | ⟨pieces, listed, inside⟩
    · have subset : ["1 = 0", "(", ")", connective.separator] ⊆ connectingTexts := by
        cases connective <;> decide
      exact subset connecting
    · obtain ⟨clause, given, rfl⟩ := List.mem_map.mp listed
      exact ih clause given inside

theorem balanced_layout (specification : NodeSpecification) :
    ∀ piece ∈ layout specification, piece.query.Balanced := by
  intro piece member
  cases piece with
  | fragment criterion => exact balanced_fragment criterion
  | fixed text =>
    have plain : ∀ text ∈ connectingTexts, text.toList.contains '\'' = false ∧
        Query.placeholdersFrom false text.toList = 0 := by decide
    obtain ⟨quoteFree, counted⟩ := plain text (fixed_of_mem_layout member)
    exact balanced_mk text [] quoteFree counted

theorem Query.Balanced.append {left right : Query} (first : left.Balanced)
    (second : right.Balanced) :
    Balanced ⟨left.template ++ right.template, left.parameters ++ right.parameters⟩ where
  quoteFree := by
    rw [String.toList_append, List.mem_append]
    exact not_or.mpr ⟨first.quoteFree, second.quoteFree⟩
  counted := by
    rw [Query.placeholders, ← length_marksFrom false 0, String.toList_append,
      marksFrom_append first.quoteFree, List.length_append, first.length_marks,
      second.length_marks, List.length_append]

theorem balanced_written {pieces : List (Piece Criterion)}
    (each : ∀ piece ∈ pieces, piece.query.Balanced) : (written pieces).Balanced := by
  induction pieces with
  | nil => exact balanced_mk _ _ rfl rfl
  | cons piece pieces ih =>
    obtain ⟨first, others⟩ := List.forall_mem_cons.mp each
    rw [written_cons]
    exact first.append (ih others)

/-- The parameter and the question mark at a position of a query belong to a query that stands
behind some front of it. -/
structure Query.Owns (whole front own : Query) (position : Nat) : Prop where
  behind : front.parameters.length ≤ position
  within : position < front.parameters.length + own.parameters.length
  parameter : whole.parameters[position]? = own.parameters[position - front.parameters.length]?
  mark : ∃ mark, whole.marks[position]? = some mark ∧ front.template.length ≤ mark ∧
    mark < front.template.length + own.template.length

theorem owns_of_balanced {front back : List (Piece Criterion)} {piece : Piece Criterion}
    (frontBalanced : (written front).Balanced) (balanced : piece.query.Balanced) {position : Nat}
    (behind : (written front).parameters.length ≤ position)
    (within : position < (written front).parameters.length + piece.query.parameters.length) :
    (written (front ++ piece :: back)).Owns (written front) piece.query position where
  behind := behind
  within := within
  parameter := by
    rw [written_append, written_cons, List.getElem?_append_right behind,
      List.getElem?_append_left (by omega)]
  mark := by
    -- The marks of the front, of the piece and of the rest stand one behind the other, so the mark
    -- at this position is one of the piece.
    have before := frontBalanced.length_marks 0
    have own := balanced.length_marks (written front).template.length
    obtain ⟨mark, found⟩ : ∃ mark, (marksFrom false (written front).template.length
        piece.query.template.toList)[position - (written front).parameters.length]? = some mark :=
      ⟨_, List.getElem?_eq_getElem (by omega)⟩
    have bounds := mem_marksFrom (List.mem_of_getElem? found)
    rw [String.length_toList] at bounds
    refine ⟨mark, ?_, bounds⟩
    rw [written_append, written_cons, Query.marks, String.toList_append, String.toList_append,
      marksFrom_append frontBalanced.quoteFree, marksFrom_append balanced.quoteFree, Nat.zero_add,
      String.length_toList, List.getElem?_append_right (by omega),
      List.getElem?_append_left (by omega), before, found]

/-- Each position among the parameters lies in some piece. -/
theorem exists_piece {pieces : List (Piece Criterion)} {position : Nat}
    (inside : position < (written pieces).parameters.length) :
    ∃ front piece back, pieces = front ++ piece :: back ∧
      (written front).parameters.length ≤ position ∧
      position < (written front).parameters.length + piece.query.parameters.length := by
  -- The position is counted from the front of the pieces that are left.
  induction pieces generalizing position with
  | nil => cases inside
  | cons piece pieces ih =>
    by_cases here : position < piece.query.parameters.length
    · exact ⟨[], piece, pieces, rfl, Nat.zero_le _, by simpa [written] using here⟩
    · rw [written_cons, List.length_append] at inside
      obtain ⟨front, other, back, same, behind, within⟩ :=
        @ih (position - piece.query.parameters.length) (by omega)
      refine ⟨piece :: front, other, back, by rw [same]; rfl, ?_, ?_⟩ <;>
        rw [written_cons, List.length_append] <;> omega

/-- The parameters of a compiled specification are those of its leaves, from left to right, and the
question mark at a position lies in the fragment of the very leaf that the parameter at this
position comes from. There are no quotes, so all question marks count. -/
theorem relational_aligned (specification : NodeSpecification) (query : Query)
    (compiled : specification.relational = .ok query) :
    (∀ leaf ∈ specification.leaves, leaf.relational? = some leaf.fragment) ∧
    query.parameters = specification.leaves.flatMap (·.fragment.parameters) ∧
    query.placeholders = query.parameters.length ∧
    '\'' ∉ query.template.toList ∧
    query = written (layout specification) ∧
    (layout specification).filterMap Piece.leaf? = specification.leaves ∧
    ∀ position < query.parameters.length, ∃ front leaf back,
      layout specification = front ++ .fragment leaf :: back ∧
        query.Owns (written front) leaf.fragment position := by
  obtain ⟨own, rfl⟩ := NodeSpecification.written_of_relational compiled
  have pieces := balanced_layout specification
  obtain ⟨quoteFree, counted⟩ := balanced_written pieces
  refine ⟨own, ?_, counted, quoteFree, rfl, leaves_layout specification, ?_⟩
  · rw [parameters_written, leaves_layout]
  · intro position inside
    obtain ⟨front, piece, back, same, behind, within⟩ := exists_piece inside
    rw [same, List.forall_mem_append, List.forall_mem_cons] at pieces
    cases piece with
    | fixed text =>
      change position < (written front).parameters.length + 0 at within
      omega
    | fragment leaf =>
      rw [same]
      exact ⟨front, leaf, back, rfl,
        owns_of_balanced (balanced_written pieces.1) pieces.2.1 behind within⟩

/-- The second question mark is that of the code, behind an empty disjunction and a negation. -/
theorem relational_aligned_nested :
    let code : Criterion := .hasCode "it''s?"
    let specification : NodeSpecification := .conjunction
      [.disjunction [], .negation (.leaf (.hasNumber 7)), .leaf code,
        .leaf (.createdWithin ⟨some default, some default⟩)]
    ∃ query, specification.relational = .ok query ∧
      query.parameters = specification.leaves.flatMap (·.fragment.parameters) ∧
      ∃ front leaf back, layout specification = front ++ .fragment leaf :: back ∧
        query.Owns (written front) leaf.fragment 1 := by
  intro code specification
  obtain ⟨-, parameters, -, -, -, -, owner⟩ := relational_aligned specification _ rfl
  exact ⟨_, rfl, parameters, owner 1 (by decide)⟩

end Relational

end NodeQuery
