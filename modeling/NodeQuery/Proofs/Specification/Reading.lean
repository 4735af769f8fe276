import NodeQuery.Proofs.Criterion.Reading
import NodeQuery.Proofs.Specification.Connective
import NodeQuery.Specification.Reading

/-! Queries read back from their texts. A query has many texts: blanks are free where they only
separate, and every part of a query may stand in parentheses of its own. Each of them is read as the
query again. -/

namespace NodeQuery

namespace NodeSpecification

mutual

/-- The specification can be written as a query: it has no constants, its composites have two
clauses or more, and its criteria can be written. -/
def expressible : NodeSpecification → Bool
  | .everything => false
  | .nothing => false
  | .leaf criterion => criterion.expressible
  | .negation inner => expressible inner
  | .conjunction clauses => 2 ≤ clauses.length && allExpressible clauses
  | .disjunction clauses => 2 ≤ clauses.length && allExpressible clauses

def allExpressible : List NodeSpecification → Bool
  | [] => true
  | clause :: clauses => expressible clause && allExpressible clauses

end

theorem allExpressible_eq (clauses : List NodeSpecification) :
    allExpressible clauses = clauses.all expressible := by
  induction clauses with
  | nil => rfl
  | cons clause clauses ih => rw [allExpressible, List.all_cons, ih]

theorem expressible_compose {connective : Specification.Connective}
    {clauses : List NodeSpecification} :
    expressible (connective.compose clauses) = true ↔
      2 ≤ clauses.length ∧ ∀ clause ∈ clauses, expressible clause = true := by
  cases connective <;>
    simp only [Specification.Connective.compose, expressible, allExpressible_eq, Bool.and_eq_true,
      decide_eq_true_eq, List.all_eq_true]

end NodeSpecification

namespace Specification

open Text Text.Reader

/-- The word between the clauses of a composite. -/
def Connective.keyword : Connective → String
  | .and => "AND"
  | .or => "OR"

/-- The word with blanks on both sides. -/
def Spaced (word : String) (gap : List Char) : Prop :=
  ∃ front back, front ≠ [] ∧ Blank front ∧ back ≠ [] ∧ Blank back ∧
    gap = front ++ (word.toList ++ back)

theorem Spaced.ends {word : String} {gap : List Char} (spaced : Spaced word gap)
    (later : List Char) : Criterion.Reading.Ends (gap ++ later) := by
  obtain ⟨front, back, nonempty, blank, _, _, rfl⟩ := spaced
  rw [List.append_assoc]
  exact Criterion.Reading.ends_of_blank nonempty blank _

theorem Spaced.ne_nil {word : String} {gap : List Char} (spaced : Spaced word gap) : gap ≠ [] := by
  obtain ⟨front, back, nonempty, _, _, _, rfl⟩ := spaced
  exact List.append_ne_nil_of_left_ne_nil nonempty _

/-- The text stands for the specification. -/
inductive Written : NodeSpecification → List Char → Prop
  | leaf (criterion : Criterion) : Written (.leaf criterion) criterion.text.toList
  | negation {inner : NodeSpecification} {gap text : List Char} (blank : Blank gap)
      (apart : gap = [] → "(".toList <+: text) (written : Written inner text) :
      Written (.negation inner) ("NOT".toList ++ (gap ++ text))
  | composite (connective : Connective) {parts : List (NodeSpecification × List Char)}
      {front joined back : List Char} (blankFront : Blank front) (blankBack : Blank back)
      (written : ∀ part ∈ parts, Written part.1 part.2)
      (writes : Joined (Spaced connective.keyword) (parts.map Prod.snd) joined) :
      Written (connective.compose (parts.map Prod.fst))
        ("(".toList ++ (front ++ (joined ++ (back ++ ")".toList))))
  | parenthesized {specification : NodeSpecification} {front text back : List Char}
      (blankFront : Blank front) (blankBack : Blank back) (written : Written specification text) :
      Written specification ("(".toList ++ (front ++ (text ++ (back ++ ")".toList))))

/-- The text stands for the specification, with blanks around it. -/
def WrittenQuery (specification : NodeSpecification) (text : List Char) : Prop :=
  ∃ front body back, Blank front ∧ Written specification body ∧ Blank back ∧
    text = front ++ (body ++ back)

theorem Written.solid {specification : NodeSpecification} {text : List Char}
    (written : Written specification text) (rest : List Char) : Stops isBlank (text ++ rest) := by
  cases written with
  | leaf criterion => exact Criterion.Reading.stops_isBlank_criterion criterion rest
  | negation =>
    rw [List.append_assoc]
    exact stops_toList_append rfl (by decide) _
  | composite =>
    rw [List.append_assoc]
    exact stops_toList_append rfl (by decide) _
  | parenthesized =>
    rw [List.append_assoc]
    exact stops_toList_append rfl (by decide) _

theorem exists_written_compose (connective : Connective) {clauses : List NodeSpecification}
    (some : clauses ≠ []) (each : ∀ clause ∈ clauses, ∃ text, Written clause text) :
    ∃ text, Written (connective.compose clauses) text := by
  have parts : ∃ parts : List (NodeSpecification × List Char),
      parts.map Prod.fst = clauses ∧ ∀ part ∈ parts, Written part.1 part.2 := by
    clear some
    induction clauses with
    | nil => exact ⟨[], rfl, List.forall_mem_nil _⟩
    | cons clause clauses ih =>
      rw [List.forall_mem_cons] at each
      obtain ⟨text, written⟩ := each.1
      obtain ⟨parts, rfl, others⟩ := ih each.2
      exact ⟨(clause, text) :: parts, rfl, List.forall_mem_cons.mpr ⟨written, others⟩⟩
  obtain ⟨parts, rfl, written⟩ := parts
  have space : Blank [' '] := List.forall_mem_singleton.mpr rfl
  have spaced : Spaced connective.keyword ([' '] ++ (connective.keyword.toList ++ [' '])) :=
    ⟨[' '], [' '], List.cons_ne_nil _ _, space, List.cons_ne_nil _ _, space, rfl⟩
  have texts : parts.map Prod.snd ≠ [] :=
    fun none => some (by rw [List.map_eq_nil_iff.mp none]; rfl)
  obtain ⟨joined, writes⟩ := exists_joined spaced texts
  exact ⟨_, .composite connective (List.forall_mem_nil _) (List.forall_mem_nil _) written writes⟩

theorem exists_written {specification : NodeSpecification}
    (expressible : specification.expressible) : ∃ text, Written specification text := by
  have composite (connective : Connective) {clauses : List NodeSpecification}
      (ih : ∀ clause ∈ clauses, clause.expressible → ∃ text, Written clause text)
      (expressible : NodeSpecification.expressible (connective.compose clauses)) :
      ∃ text, Written (connective.compose clauses) text := by
    obtain ⟨several, each⟩ := NodeSpecification.expressible_compose.mp expressible
    refine exists_written_compose connective ?_ fun clause member =>
      ih clause member (each clause member)
    rintro rfl
    exact absurd several (by decide)
  induction specification using Specification.inductionOn with
  | everything => cases expressible
  | nothing => cases expressible
  | leaf criterion => exact ⟨_, .leaf criterion⟩
  | negation inner ih =>
    obtain ⟨text, written⟩ := ih expressible
    exact ⟨_, .negation (List.forall_mem_singleton.mpr (show isBlank ' ' = true from rfl))
      (fun none => absurd none (List.cons_ne_nil _ _)) written⟩
  | conjunction clauses ih => exact composite .and ih expressible
  | disjunction clauses ih => exact composite .or ih expressible

namespace Reading

open Criterion.Reading (Ends)

variable {rest : List Char}

/-! Keywords. -/

theorem keyword_append {connective : Connective} {gap : List Char}
    (spaced : Spaced connective.keyword gap) (solid : Stops isBlank rest) :
    keyword connective.keyword (gap ++ rest) = .read () rest := by
  obtain ⟨front, back, someFront, blankFront, someBack, blankBack, rfl⟩ := spaced
  have word (later : List Char) : Stops isBlank (connective.keyword.toList ++ later) := by
    cases connective <;> exact stops_toList_append rfl (by decide) later
  rw [List.append_assoc, List.append_assoc]
  exact spaced_append someFront blankFront word someBack blankBack solid

theorem keyword_misses {word : String} {gap : List Char} (blank : Blank gap)
    (solid : Stops isBlank rest) (missed : (literal word).Misses rest) :
    (keyword word).Misses (gap ++ rest) := by
  by_cases none : gap = []
  · subst none
    exact before_misses _ (map_misses _ (run_misses solid))
  · obtain ⟨place, missed⟩ := before_misses someBlanks missed
    exact ⟨place, (before_eq _ (someBlanks_append none blank solid)).trans missed⟩

theorem and_misses_or {gap : List Char} (spaced : Spaced Connective.or.keyword gap)
    (later : List Char) : (keyword Connective.and.keyword).Misses (gap ++ later) := by
  obtain ⟨front, back, _, blank, _, _, rfl⟩ := spaced
  rw [List.append_assoc, List.append_assoc]
  exact keyword_misses blank (stops_toList_append rfl (by decide) _)
    (literal_misses (by decide) _)

/-! Lists of clauses. -/

/-- No further clause can follow, of a conjunction or a disjunction. -/
def Closed (rest : List Char) : Prop := ∀ connective : Connective,
  (keyword connective.keyword).Misses rest

theorem closed_nil {gap : List Char} (blank : Blank gap) : Closed gap := by
  intro connective
  have missed : (literal connective.keyword).Misses [] := by
    cases connective <;> exact literal_misses_of_stops rfl (stops_nil _)
  simpa using keyword_misses blank (stops_nil _) missed

theorem closed_parenthesis {gap : List Char} (blank : Blank gap) (rest : List Char) :
    Closed (gap ++ (")".toList ++ rest)) := by
  intro connective
  refine keyword_misses blank (stops_toList_append rfl (by decide) _) ?_
  cases connective <;> exact literal_misses (by decide) _

theorem ends_parenthesis {gap : List Char} (blank : Blank gap) (rest : List Char) :
    Ends (gap ++ (")".toList ++ rest)) := by
  by_cases none : gap = []
  · subst none
    exact Criterion.Reading.ends_toList_append rfl (by decide) rest
  · exact Criterion.Reading.ends_of_blank none blank _

/-- Clauses with the keyword of the connective between them. -/
def clausesOf (connective : Connective) (item : Reader NodeSpecification) :
    Reader NodeSpecification :=
  map (composite connective.compose) (separated (keyword connective.keyword) item)

theorem disjunctionOf_eq (factor : Reader NodeSpecification) :
    disjunctionOf factor = clausesOf .or (clausesOf .and factor) := rfl

section

variable {item factor : Reader NodeSpecification} {connective : Connective}
  {parts : List (NodeSpecification × List Char)} {joined : List Char}

theorem clausesOf_single {text : List Char} {specification : NodeSpecification}
    (done : item text = .read specification rest)
    (missed : (keyword connective.keyword).Misses rest) :
    clausesOf connective item text = .read specification rest :=
  map_eq _ (separated_of_read done (furtherItems_of_misses missed))

theorem composite_of_several {compose : List NodeSpecification → NodeSpecification}
    {clauses : List NodeSpecification} (several : 2 ≤ clauses.length) :
    composite compose clauses = compose clauses := by
  match clauses with
  | [] => rfl
  | [only] => exact absurd several (Nat.not_succ_le_self 1)
  | _ :: _ :: _ => rfl

theorem clausesOf_append {follows : List Char → Prop}
    (reads : ∀ part ∈ parts, ∀ rest, follows rest → item (part.2 ++ rest) = .read part.1 rest)
    (solid : ∀ part ∈ parts, ∀ rest, Stops isBlank (part.2 ++ rest))
    (between : ∀ gap, Spaced connective.keyword gap → ∀ later, follows (gap ++ later))
    (writes : Joined (Spaced connective.keyword) (parts.map Prod.snd) joined)
    (several : 2 ≤ (parts.map Prod.fst).length) (ended : follows rest)
    (missed : (keyword connective.keyword).Misses rest) :
    clausesOf connective item (joined ++ rest) =
      .read (connective.compose (parts.map Prod.fst)) rest := by
  have gaps (gap : List Char) (spaced : Spaced connective.keyword gap) : gap ≠ [] ∧
      ∀ part ∈ parts, ∀ later, keyword connective.keyword (gap ++ (part.2 ++ later)) =
        .read () (part.2 ++ later) ∧ follows (gap ++ (part.2 ++ later)) :=
    ⟨spaced.ne_nil, fun part member later =>
      ⟨keyword_append spaced (solid part member later), between gap spaced _⟩⟩
  have read := separated_joined reads gaps ended missed writes
  rw [clausesOf, map_eq _ read, composite_of_several several]

theorem disjunctionOf_single {text : List Char} {specification : NodeSpecification}
    (done : factor text = .read specification rest) (closed : Closed rest) :
    disjunctionOf factor text = .read specification rest := by
  rw [disjunctionOf_eq]
  exact clausesOf_single (clausesOf_single done (closed .and)) (closed .or)

/-- Clauses of either connective: a conjunction is the only clause of a disjunction, and the clauses
of a disjunction are conjunctions of one clause. -/
theorem disjunctionOf_append
    (reads : ∀ part ∈ parts, ∀ rest, Ends rest → factor (part.2 ++ rest) = .read part.1 rest)
    (solid : ∀ part ∈ parts, ∀ rest, Stops isBlank (part.2 ++ rest))
    (writes : Joined (Spaced connective.keyword) (parts.map Prod.snd) joined)
    (several : 2 ≤ (parts.map Prod.fst).length) (ends : Ends rest) (closed : Closed rest) :
    disjunctionOf factor (joined ++ rest) =
      .read (connective.compose (parts.map Prod.fst)) rest := by
  rw [disjunctionOf_eq]
  cases connective with
  | and =>
    exact clausesOf_single (clausesOf_append reads solid (fun _ spaced => spaced.ends) writes
      several ends (closed .and)) (closed .or)
  | or =>
    have alone : ∀ part ∈ parts, ∀ rest,
        Ends rest ∧ (keyword Connective.and.keyword).Misses rest →
          clausesOf .and factor (part.2 ++ rest) = .read part.1 rest :=
      fun part member rest follows =>
        clausesOf_single (reads part member rest follows.1) follows.2
    exact clausesOf_append alone solid
      (fun _ spaced later => ⟨spaced.ends later, and_misses_or spaced later⟩) writes several
      ⟨ends, closed .and⟩ (closed .or)

end

/-! Factors. -/

/-- What begins like a criterion is read as one, if it is read as a factor at all. -/
theorem factor_eq_criterion {kind : Criterion} {text : List Char}
    (begins : kind.start.toList <+: text) (nesting : Nat) :
    Reading.factor (nesting + 1) text =
      map .leaf (Criterion.Reading.criterion (nesting + 1)) text := by
  obtain ⟨value, rfl⟩ := begins
  have unlike (word : String) (apart : differ word.toList kind.start.toList = true) :
      (literal word).Misses (kind.start.toList ++ value) := literal_misses apart value
  have noMark : negationMark.Misses (kind.start.toList ++ value) :=
    followedBy_misses _ (unlike "NOT" (by cases kind <;> simp only [Criterion.start] <;> decide))
  have noParenthesis : (parenthesized (disjunctionOf (Reading.factor nesting))).Misses
      (kind.start.toList ++ value) :=
    followedBy_misses _ (before_misses _ (before_misses _
      (unlike "(" (by cases kind <;> simp only [Criterion.start] <;> decide))))
  rw [Reading.factor, factorOver,
    firstOf_cons_of_misses (map_misses _ (before_misses _ noMark)) (List.cons_ne_nil _ _),
    firstOf_cons_of_misses noParenthesis (List.cons_ne_nil _ _)]
  rfl

theorem factor_criterion {criterion : Criterion} (expressible : criterion.expressible)
    {nesting : Nat} (room : criterion.text.toList.length < nesting) (ends : Ends rest) :
    Reading.factor nesting (criterion.text.toList ++ rest) = .read (.leaf criterion) rest := by
  cases nesting with
  | zero => exact absurd room (Nat.not_lt_zero _)
  | succ nesting =>
    rw [factor_eq_criterion (criterion.start_isPrefix.trans (List.prefix_append _ rest))]
    exact map_eq _ (Criterion.Reading.criterion_append expressible room ends)

theorem factor_negation {nesting : Nat} {inner : NodeSpecification} {gap text : List Char}
    (blank : Blank gap) (apart : gap = [] → "(".toList <+: text) (solid : Stops isBlank text)
    (done : Reading.factor nesting text = .read inner rest) :
    Reading.factor (nesting + 1) ("NOT".toList ++ (gap ++ text)) =
      .read (.negation inner) rest := by
  have separated : firstOf [someBlanks, ahead (literal "(")] (gap ++ text) = .read () text := by
    by_cases none : gap = []
    · obtain ⟨later, rfl⟩ := apart none
      subst none
      have noBlank : someBlanks.Misses ("(".toList ++ later) := map_misses _ (run_misses solid)
      rw [List.nil_append, firstOf_cons_of_misses noBlank (List.cons_ne_nil _ _)]
      simp only [firstOf, ahead, literal_append]
    · exact firstOf_cons_of_read _ (someBlanks_append none blank solid)
  have mark : negationMark ("NOT".toList ++ (gap ++ text)) = .read () text :=
    followedBy_eq (literal_append "NOT" _) separated
  rw [Reading.factor, factorOver]
  exact firstOf_cons_of_read _ (map_eq _ ((before_eq _ mark).trans done))

theorem factor_parenthesized {nesting : Nat} {specification : NodeSpecification}
    {front text back : List Char} (blankFront : Blank front) (blankBack : Blank back)
    (solid : Stops isBlank text)
    (done : disjunctionOf (Reading.factor nesting) text =
      .read specification (back ++ (")".toList ++ rest))) :
    Reading.factor (nesting + 1) ("(".toList ++ (front ++ text)) =
      .read specification rest := by
  have noMark : negationMark.Misses ("(".toList ++ (front ++ text)) :=
    followedBy_misses _ (literal_misses (by decide) _)
  have opened : before (literal "(") blanks ("(".toList ++ (front ++ text)) = .read () text := by
    rw [before_eq _ (literal_append "(" _), blanks_append blankFront solid]
  have closed : before blanks (literal ")") (back ++ (")".toList ++ rest)) = .read () rest := by
    rw [before_eq _ (blanks_append blankBack (stops_toList_append rfl (by decide) rest)),
      literal_append]
  rw [Reading.factor, factorOver, firstOf_cons_of_misses (map_misses _ (before_misses _ noMark))
    (List.cons_ne_nil _ _)]
  exact firstOf_cons_of_read _
    (followedBy_eq ((before_eq _ opened).trans done) closed)

/-- A text of a specification is read as the specification, with room for what stands one within the
other in it. -/
theorem factor_of_written {specification : NodeSpecification} {text : List Char}
    (written : Written specification text) (expressible : specification.expressible)
    {nesting : Nat} (room : text.length < nesting) (ends : Ends rest) :
    Reading.factor nesting (text ++ rest) = .read specification rest := by
  induction written generalizing nesting rest with
  | leaf criterion => exact factor_criterion expressible room ends
  | @negation inner gap text blank apart written ih =>
    obtain ⟨nesting, rfl⟩ := Nat.exists_eq_add_one_of_ne_zero (Nat.ne_zero_of_lt room)
    -- What is negated or in parentheses is shorter than the whole, so a level less is room for it.
    simp only [List.length_append] at room
    have marked : "NOT".toList.length = 3 := rfl
    rw [List.append_assoc, List.append_assoc]
    exact factor_negation blank (fun none => (apart none).trans (List.prefix_append _ _))
      (written.solid rest) (ih expressible (by omega) ends)
  | @composite connective parts front joined back blankFront blankBack written writes ih =>
    obtain ⟨nesting, rfl⟩ := Nat.exists_eq_add_one_of_ne_zero (Nat.ne_zero_of_lt room)
    obtain ⟨several, each⟩ := NodeSpecification.expressible_compose.mp expressible
    simp only [List.length_append] at room
    have solid (later : List Char) : Stops isBlank (joined ++ later) := by
      cases parts with
      | nil => exact absurd several (by decide)
      | cons part parts =>
        obtain ⟨others, rfl⟩ := writes.begins
        rw [List.append_assoc]
        exact (written part List.mem_cons_self).solid _
    have reads : ∀ part ∈ parts, ∀ rest, Ends rest →
        Reading.factor nesting (part.2 ++ rest) = .read part.1 rest := by
      intro part member rest ends
      have shorter := writes.length_le part.2 (List.mem_map_of_mem member)
      have opening : "(".toList.length = 1 := rfl
      exact ih part member (each part.1 (List.mem_map_of_mem member)) (by omega) ends
    simp only [List.append_assoc]
    exact factor_parenthesized blankFront blankBack (solid _)
      (disjunctionOf_append reads (fun part member => (written part member).solid) writes several
        (ends_parenthesis blankBack rest) (closed_parenthesis blankBack rest))
  | @parenthesized specification front text back blankFront blankBack written ih =>
    obtain ⟨nesting, rfl⟩ := Nat.exists_eq_add_one_of_ne_zero (Nat.ne_zero_of_lt room)
    simp only [List.length_append] at room
    have opening : "(".toList.length = 1 := rfl
    have done : Reading.factor nesting (text ++ (back ++ (")".toList ++ rest))) =
        .read specification (back ++ (")".toList ++ rest)) :=
      ih expressible (by omega) (ends_parenthesis blankBack rest)
    simp only [List.append_assoc]
    exact factor_parenthesized blankFront blankBack (written.solid _)
      (disjunctionOf_single done (closed_parenthesis blankBack rest))

end Reading

/-- An expressible specification has texts, and each of them is read as this specification. -/
theorem read_written {specification : NodeSpecification}
    (expressible : specification.expressible) :
    (∃ text : String, WrittenQuery specification text.toList) ∧
      ∀ text : String, WrittenQuery specification text.toList →
        NodeSpecification.read text = .ok specification := by
  constructor
  · obtain ⟨body, written⟩ := exists_written expressible
    refine ⟨String.ofList body, [], body, [], List.forall_mem_nil _, written,
      List.forall_mem_nil _, ?_⟩
    rw [String.toList_ofList, List.nil_append, List.append_nil]
  · rintro text ⟨front, body, back, blankFront, written, blankBack, laid⟩
    have ends : Criterion.Reading.Ends back := by
      by_cases none : back = []
      · subst none
        exact Criterion.Reading.ends_nil
      · simpa using Criterion.Reading.ends_of_blank none blankBack []
    have read : Reading.factor ((body ++ back).length + 1) (body ++ back) =
        .read specification back :=
      Reading.factor_of_written written expressible (by rw [List.length_append]; omega) ends
    have done : Reading.query (body ++ back) = .read specification back :=
      Reading.disjunctionOf_single read (Reading.closed_nil blankBack)
    exact readAll_of_read laid blankFront blankBack (written.solid back) done

/-- Neither a city nor a node whose name begins so, and in a country with the given code. -/
def laidOut : NodeSpecification :=
  .conjunction [
    .negation (.disjunction [.leaf (.hasType "City"),
      .leaf (.textStarts ⟨"name", "en"⟩ "Gr\"ü")]),
    .leaf (.referencesSuch "country" (.hasCode "DE"))]

/-- A text of it with blanks of all kinds, a parenthesis right after the negation, and parentheses
around one criterion. -/
def laidOutText : String :=
  "( NOT((type.id:City)\tOR p.name.en.string:\"Gr\\\"ü\"* )\r\n AND r.country.code:DE)\n"

theorem read_written_laidOut : laidOut.expressible = true ∧
    WrittenQuery laidOut laidOutText.toList ∧
      NodeSpecification.read laidOutText = .ok laidOut := by
  have expressible : laidOut.expressible = true := by decide
  have blank (gap : List Char) (all : gap.all isBlank = true) : Blank gap :=
    List.all_eq_true.mp all
  have spaced (connective : Connective) (front back : List Char)
      (fits : (!front.isEmpty && !back.isEmpty && front.all isBlank && back.all isBlank) = true) :
      Spaced connective.keyword (front ++ (connective.keyword.toList ++ back)) := by
    simp only [Bool.and_eq_true, Bool.not_eq_true', List.isEmpty_eq_false_iff] at fits
    exact ⟨front, back, fits.1.1.1, blank front fits.1.2, fits.1.1.2, blank back fits.2, rfl⟩
  have city := Written.parenthesized (blank [] rfl) (blank [] rfl) (.leaf (.hasType "City"))
  have either := @Written.composite .or [(_, _), (_, _)] [] _ [' '] (blank [] rfl) (blank [' '] rfl)
    (List.forall_mem_cons.mpr ⟨city, List.forall_mem_singleton.mpr
      (.leaf (.textStarts ⟨"name", "en"⟩ "Gr\"ü"))⟩)
    (.more _ (spaced .or ['\t'] [' '] rfl) (.single _))
  have neither := Written.negation (blank [] rfl) (fun _ => List.prefix_append _ _) either
  have both := @Written.composite .and [(_, _), (_, _)] [' '] _ [] (blank [' '] rfl) (blank [] rfl)
    (List.forall_mem_cons.mpr ⟨neither, List.forall_mem_singleton.mpr
      (.leaf (.referencesSuch "country" (.hasCode "DE")))⟩)
    (.more _ (spaced .and ['\r', '\n', ' '] [' '] rfl) (.single _))
  have written : WrittenQuery laidOut laidOutText.toList :=
    ⟨[], _, ['\n'], blank [] rfl, both, blank ['\n'] rfl, by decide⟩
  exact ⟨expressible, written, (read_written expressible).2 laidOutText written⟩

end Specification

end NodeQuery
