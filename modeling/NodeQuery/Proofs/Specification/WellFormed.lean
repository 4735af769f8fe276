import NodeQuery.Proofs.Criterion.Legible
import NodeQuery.Proofs.Specification.Reading

/-! The form of queries. A query that was read is made of criteria by negation and by connectives
with several clauses, and all that a criterion names, along references too, can stand in a query
without quotes. -/

namespace NodeQuery

open Text Text.Reader

/-- Letters and digits of the Latin alphabet, underscores and hyphens, and one of them at least. -/
def IsName (text : String) : Prop :=
  text ≠ "" ∧ ∀ char ∈ text.toList, ('A' ≤ char ∧ char ≤ 'Z') ∨ ('a' ≤ char ∧ char ≤ 'z') ∨
    ('0' ≤ char ∧ char ≤ '9') ∨ char = '_' ∨ char = '-'

theorem isName_of_isCode {text : String} (code : Criterion.Reading.isCode text = true) :
    IsName text := by
  obtain ⟨nonempty, inside⟩ := Criterion.Reading.consists_iff.mp code
  refine ⟨fun none => nonempty (by rw [none]; rfl), fun char member => ?_⟩
  have kind := inside char member
  simp only [Criterion.Reading.isCodeChar, Char.isAlphanum, Char.isAlpha, Char.isUpper,
    Char.isLower, Char.isDigit, Bool.or_eq_true, Bool.and_eq_true, decide_eq_true_eq,
    beq_iff_eq] at kind
  rcases kind with (((upper | lower) | digit) | underscore) | hyphen
  · exact .inl upper
  · exact .inr (.inl lower)
  · exact .inr (.inr (.inl digit))
  · exact .inr (.inr (.inr (.inl underscore)))
  · exact .inr (.inr (.inr (.inr hyphen)))

/-- The attribute has a name, and so has the language if there is one. -/
def PropertyPath.WellNamed (property : PropertyPath) : Prop :=
  IsName property.name ∧ (property.language = "" ∨ IsName property.language)

theorem PropertyPath.wellNamed_of_expressible {property : PropertyPath}
    (expressible : property.expressible = true) : property.WellNamed := by
  obtain ⟨name, language⟩ := Bool.and_eq_true_iff.mp expressible
  refine ⟨isName_of_isCode name, ?_⟩
  rcases Bool.or_eq_true_iff.mp language with none | some
  · exact .inl (String.isEmpty_iff.mp none)
  · exact .inr (isName_of_isCode some)

namespace Criterion

/-- The types, attributes and languages of the criterion have names, those of what it asks of a
target too, and words are not asked for in a language that is called like the other kind of
field. -/
def WellNamed : Criterion → Prop
  | .hasType name => IsName name
  | .textEquals property _ => property.WellNamed
  | .textStarts property _ => property.WellNamed
  | .textBetween property _ => property.WellNamed
  | .words property _ => property.WellNamed ∧ property.language ≠ "string"
  | .wordStarts property _ => property.WellNamed ∧ property.language ≠ "string"
  | .references name _ => IsName name
  | .referencesNothing name => IsName name
  | .referencesSuch name target => IsName name ∧ target.WellNamed
  | _ => True

theorem wellNamed_of_legible {criterion : Criterion} (legible : criterion.legible = true) :
    criterion.WellNamed := by
  induction criterion with
  | hasType name => exact isName_of_isCode legible
  | textEquals property _ => exact property.wellNamed_of_expressible legible
  | textStarts property _ => exact property.wellNamed_of_expressible legible
  | textBetween property _ => exact property.wellNamed_of_expressible legible
  | words property _ | wordStarts property _ =>
    obtain ⟨expressible, other⟩ := Bool.and_eq_true_iff.mp legible
    exact ⟨property.wellNamed_of_expressible expressible, bne_iff_ne.mp other⟩
  | references name _ => exact isName_of_isCode legible
  | referencesNothing name => exact isName_of_isCode legible
  | referencesSuch name target ih =>
    obtain ⟨code, inner⟩ := Bool.and_eq_true_iff.mp legible
    exact ⟨isName_of_isCode code, ih inner⟩
  | _ => trivial

end Criterion

namespace Specification

/-- Made of fitting leaves by negation and by connectives between several clauses; so there are no
constants in it. -/
inductive WellFormed {α : Type} (fits : α → Prop) : Specification α → Prop
  | leaf {value : α} (fit : fits value) : WellFormed fits (.leaf value)
  | negation {inner : Specification α} (wellFormed : WellFormed fits inner) :
    WellFormed fits (.negation inner)
  | composite (connective : Connective) {clauses : List (Specification α)}
      (several : 2 ≤ clauses.length) (each : ∀ clause ∈ clauses, WellFormed fits clause) :
    WellFormed fits (connective.compose clauses)

section

variable {α : Type} {fits : α → Prop} {specification : Specification α}

theorem WellFormed.mono {good : α → Prop} (wellFormed : WellFormed fits specification)
    (imp : ∀ value, fits value → good value) : WellFormed good specification := by
  induction wellFormed with
  | leaf fit => exact .leaf (imp _ fit)
  | negation _ ih => exact .negation ih
  | composite connective several _ ih => exact .composite connective several ih

theorem WellFormed.fits_of_mem_leaves (wellFormed : WellFormed fits specification) :
    ∀ value ∈ specification.leaves, fits value := by
  induction wellFormed with
  | leaf fit => exact List.forall_mem_singleton.mpr fit
  | negation _ ih => exact ih
  | composite connective _ _ ih =>
    intro value leaf
    rw [leaves_compose, allLeaves_eq] at leaf
    obtain ⟨clause, member, inside⟩ := List.mem_flatMap.mp leaf
    exact ih clause member value inside

end

namespace Reading

variable {fits : Criterion → Prop} {item : Reader NodeSpecification}

theorem wellFormed_composite (connective : Connective) {clauses : List NodeSpecification}
    (nonempty : clauses ≠ []) (each : ∀ clause ∈ clauses, WellFormed fits clause) :
    WellFormed fits (composite connective.compose clauses) := by
  match clauses with
  | [] => exact absurd rfl nonempty
  | [only] => exact each only List.mem_cons_self
  | first :: second :: others =>
    exact .composite connective (Nat.le_add_left 2 others.length) each

theorem yields_clausesOf (yields : Yields item (WellFormed fits)) (connective : Connective) :
    Yields (clausesOf connective item) (WellFormed fits) :=
  yields_map fun text => (yields_separated yields _ text).mono fun _ clauses =>
    wellFormed_composite connective clauses.1 clauses.2

theorem yields_disjunctionOf (yields : Yields item (WellFormed fits)) :
    Yields (disjunctionOf item) (WellFormed fits) :=
  yields_clausesOf (yields_clausesOf yields .and) .or

theorem yields_factor (nesting : Nat) :
    Yields (factor nesting) (WellFormed fun criterion => criterion.legible = true) := by
  induction nesting with
  | zero => exact fun _ => trivial
  | succ nesting ih =>
    refine yields_firstOf (List.forall_mem_cons.mpr ⟨?_, List.forall_mem_cons.mpr
      ⟨?_, List.forall_mem_singleton.mpr ?_⟩⟩)
    · exact yields_map fun text => (yields_before _ ih text).mono fun _ => .negation
    · exact yields_followedBy (yields_before _ (yields_disjunctionOf ih)) _
    · exact yields_map fun text =>
        (Criterion.Reading.yields_criterion _ text).mono fun _ legible => .leaf legible

end Reading

variable {text : String} {specification : NodeSpecification}

theorem legibleWellFormed_of_read (read : NodeSpecification.read text = .ok specification) :
    WellFormed (fun criterion => criterion.legible = true) specification :=
  good_of_readAll (fun text => Reading.yields_disjunctionOf (Reading.yields_factor _) text) read

/-- A query is made of well-named criteria, without constants and with several clauses wherever it
has a connective. -/
theorem wellFormed_of_read (read : NodeSpecification.read text = .ok specification) :
    WellFormed Criterion.WellNamed specification := by
  have legible := legibleWellFormed_of_read read
  exact legible.mono fun _ => Criterion.wellNamed_of_legible

theorem wellFormed_of_read_languageString :
    let specification : NodeSpecification :=
      .conjunction [.negation (.disjunction [.leaf (.words ⟨"string", ""⟩ "cat"),
        .leaf (.textStarts ⟨"name", "string"⟩ "Ca")]),
        .leaf (.referencesSuch "broader" (.hasType "Concept"))]
    NodeSpecification.read
        "NOT(p.string:cat OR (p.name.string.string:Ca*)) AND r.broader.typeId:Concept" =
      .ok specification ∧ WellFormed Criterion.WellNamed specification := by
  intro specification
  have read : NodeSpecification.read
      "NOT(p.string:cat OR (p.name.string.string:Ca*)) AND r.broader.typeId:Concept" =
    .ok specification := by cbv
  exact ⟨read, wellFormed_of_read read⟩

end Specification

end NodeQuery
