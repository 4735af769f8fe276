import NodeQuery.Proofs.Criterion.Values
import NodeQuery.Proofs.Text.Joined

/-! Criteria read back from their texts. What a text begins with tells which kind of criterion it
is; and a criterion is read with its whole value wherever a value can end. -/

namespace NodeQuery

open Criterion.Reading (isCode isBare)

/-- The names of the property can be written, and the language can be left out. -/
def PropertyPath.expressible (property : PropertyPath) : Bool :=
  isCode property.name && (property.language.isEmpty || isCode property.language)

/-- The bounds can be written without a plus sign. -/
def Interval.expressible (during : Interval Timestamp) : Bool :=
  during.lower.all (·.year ≤ 9999) && during.upper.all (·.year ≤ 9999)

namespace Criterion

def isHasId : Criterion → Bool
  | .hasId _ => true
  | _ => false

/-- The criterion can be written so that it is read back: names and unquoted values fit their
readers, and nothing is written like a criterion of another kind. -/
def expressible : Criterion → Bool
  | .hasId _ => true
  | .inGraph _ => true
  | .hasType name => isCode name
  | .hasCode code => isCode code
  | .hasUri uri => isBare uri
  | .hasNumber _ => true
  | .createdWithin during => during.expressible
  | .modifiedWithin during => during.expressible
  | .textEquals property _ => property.expressible
  | .textStarts property _ => property.expressible
  | .textBetween property _ => property.expressible
  | .words property _ => property.expressible && property.language != "string"
  | .wordStarts property _ => property.expressible && property.language != "string"
  | .references name _ => isCode name
  | .referencesNothing name => isCode name
  | .referencesSuch name target => isCode name && !target.isHasId && target.expressible

/-- What the text of the criterion begins with. -/
def start : Criterion → String
  | .hasId _ => "id:"
  | .inGraph _ => "graph.id:"
  | .hasType _ => "type.id:"
  | .hasCode _ => "code:"
  | .hasUri _ => "uri:"
  | .hasNumber _ => "number:"
  | .createdWithin _ => "createdDate:"
  | .modifiedWithin _ => "lastModifiedDate:"
  | .textEquals _ _ => "p."
  | .textStarts _ _ => "p."
  | .textBetween _ _ => "p."
  | .words _ _ => "p."
  | .wordStarts _ _ => "p."
  | .references _ _ => "r."
  | .referencesNothing _ => "r."
  | .referencesSuch _ _ => "r."

theorem start_isPrefix (criterion : Criterion) :
    criterion.start.toList <+: criterion.text.toList := by
  cases criterion <;>
    simp only [start, text, String.toList_append, List.append_assoc, List.prefix_append]

namespace Reading

open Text Text.Reader

/-! The kinds of criteria by what they begin with. -/

/-- The names that the kinds of criteria begin with. -/
def names : List (List String) :=
  [["urn:uuid:", "node.id:", "nodeId:", "id:"], ["type.graph.id:", "graph.id:", "graphId:"],
    ["type.id:", "typeId:"], ["code:"], ["uri:"], ["number:", "n:"], ["createdDate:"],
    ["lastModifiedDate:"], ["properties.", "props.", "p."], ["references.", "refs.", "r."]]

variable {target : Reader Criterion} {text rest : List Char}

theorem keyed_property : Keyed ["properties.", "props.", "p."] property := by
  intro text missed
  have noParts : propertyParts.Misses text := keyed_before _ _ text missed
  obtain ⟨place, noParts⟩ := noParts
  exact ⟨place, by simp only [property, noParts, Outcome.andThen]⟩

theorem keyed_reference (target : Reader Criterion) :
    Keyed ["references.", "refs.", "r."] (reference target) := by
  intro text missed
  obtain ⟨place, missed⟩ :=
    followedBy_misses (literal ".") (keyed_before _ code text missed)
  exact ⟨place, by simp only [reference, field, missed, Outcome.andThen]⟩

theorem keyed_alternatives (target : Reader Criterion) :
    List.Forall₂ Keyed names (alternatives target) := by
  have value {α : Type} (names : List String) (reader : Reader α) (f : α → Criterion) :
      Keyed names (map f (field names reader)) := (keyed_before names reader).map f
  exact .cons (value _ _ _) <| .cons (value _ _ _) <| .cons (value _ _ _) <| .cons (value _ _ _) <|
    .cons (value _ _ _) <| .cons (value _ _ _) <| .cons (value _ _ _) <| .cons (value _ _ _) <|
    .cons keyed_property <| .cons (keyed_reference target) .nil

/-- A text is of the kind whose name it begins with if it begins with no name of an earlier kind. -/
theorem criterionOver_of_alternative (index : Nat) {reader : Reader Criterion} {start : String}
    {criterion : Criterion} (there : (alternatives target)[index]? = some reader)
    (apart : (names.take index).flatten.all (differ ·.toList start.toList) = true)
    (done : reader (start.toList ++ text) = .read criterion rest) :
    criterionOver target (start.toList ++ text) = .read criterion rest :=
  firstOf_of_keyed (keyed_alternatives target) index there apart done

theorem field_append {α : Type} {spellings : List String} {reader : Reader α} {value : α}
    (index : Nat) {start : String} (there : spellings[index]? = some start)
    (apart : (spellings.take index).all (differ ·.toList start.toList) = true)
    (done : reader text = .read value rest) :
    field spellings reader (start.toList ++ text) = .read value rest := by
  rw [field, before_eq _ (spelling_append index there apart text), done]

/-- A text of a kind that consists of a name and a value. -/
theorem criterionOver_of_field {α : Type} (index place : Nat) {f : α → Criterion}
    {spellings : List String} {start : String} {reader : Reader α} {value : α}
    (there : (alternatives target)[index]? = some (map f (field spellings reader)))
    (named : spellings[place]? = some start)
    (apart : ((names.take index).flatten ++ spellings.take place).all
      (differ ·.toList start.toList) = true)
    (done : reader text = .read value rest) :
    criterionOver target (start.toList ++ text) = .read (f value) rest := by
  rw [List.all_append, Bool.and_eq_true] at apart
  exact criterionOver_of_alternative index there apart.1
    (map_eq f (field_append place named apart.2 done))

/-! Properties. -/

/-- The names of a property, one or two. -/
def propertyNames (property : PropertyPath) : List String :=
  if property.language.isEmpty then [property.name] else [property.name, property.language]

theorem joined_propertyNames (property : PropertyPath) :
    Joined (· = ".".toList) ((propertyNames property).map String.toList) property.text.toList := by
  unfold propertyNames PropertyPath.text
  split
  · exact .single _
  · rw [String.append_assoc, String.toList_append, String.toList_append]
    exact .more _ rfl (.single _)

theorem joined_propertyNames_string (property : PropertyPath) :
    Joined (· = ".".toList) ((propertyNames property ++ ["string"]).map String.toList)
      (property.text.toList ++ (".".toList ++ "string".toList)) := by
  unfold propertyNames PropertyPath.text
  split
  · exact .more _ rfl (.single _)
  · rw [String.append_assoc, String.toList_append, String.toList_append, List.append_assoc,
      List.append_assoc]
    exact .more _ rfl (.more _ rfl (.single _))

theorem propertyParts_append {parts : List String} {joined : List Char}
    (codes : ∀ part ∈ parts, isCode part = true)
    (writes : Joined (· = ".".toList) (parts.map String.toList) joined) (rest : List Char) :
    propertyParts ("p.".toList ++ (joined ++ (":".toList ++ rest))) = .read parts rest := by
  have reads (part : String) (member : part ∈ parts) (rest : List Char)
      (stops : Stops isCodeChar rest) : code (part.toList ++ rest) = .read part rest :=
    code_append (codes part member) stops
  have colon : Stops isCodeChar (":".toList ++ rest) := stops_toList_append rfl (by decide) rest
  have noPoint : (literal ".").Misses (":".toList ++ rest) := literal_misses (by decide) rest
  have read := separated_texts reads (fun _ _ _ => literal_append "." _) (List.cons_ne_nil _ _)
    (stops_toList_append rfl (by decide)) colon noPoint writes
  exact field_append 2 rfl (by decide) (followedBy_eq read (literal_append ":" rest))

/-- What is asked of a property is told by its names. -/
theorem property_append {parts : List String} {joined : List Char} {value : Reader Criterion}
    {criterion : Criterion} (codes : ∀ part ∈ parts, isCode part = true)
    (writes : Joined (· = ".".toList) (parts.map String.toList) joined)
    (meaning : propertyValue parts = some value) (done : value text = .read criterion rest) :
    criterionOver target ("p.".toList ++ (joined ++ (":".toList ++ text))) =
      .read criterion rest := by
  refine criterionOver_of_alternative 8 rfl (by decide) ?_
  simp only [property, propertyParts_append codes writes, Outcome.andThen, meaning, done]

theorem isCode_of_mem_propertyNames {property : PropertyPath} (expressible : property.expressible) :
    ∀ part ∈ propertyNames property, isCode part = true := by
  simp only [PropertyPath.expressible, Bool.and_eq_true, Bool.or_eq_true] at expressible
  obtain ⟨name, language⟩ := expressible
  unfold propertyNames
  split
  · exact List.forall_mem_singleton.mpr name
  · next some =>
    exact List.forall_mem_cons.mpr
      ⟨name, List.forall_mem_singleton.mpr (language.resolve_left some)⟩

theorem propertyValue_names {property : PropertyPath} (other : property.language ≠ "string") :
    propertyValue (propertyNames property) = some (wordsValue property) := by
  unfold propertyNames
  split
  · next none =>
    simp only [propertyValue, ← String.isEmpty_iff.mp none]
  · simp only [propertyValue, if_neg other]

theorem propertyValue_names_string (property : PropertyPath) :
    propertyValue (propertyNames property ++ ["string"]) = some (textValue property) := by
  unfold propertyNames
  split
  · next none =>
    simp only [List.cons_append, List.nil_append, propertyValue, if_true,
      ← String.isEmpty_iff.mp none]
  · rfl

/-! Values of properties. -/

theorem Ends.noStar (ends : Ends rest) : (literal "*").Misses rest :=
  literal_misses_of_stops rfl (ends.stops (by decide))

theorem starred_append {reader : Reader String} {value : String}
    (done : reader text = .read value ("*".toList ++ rest)) :
    starred reader text = .read (value, true) rest := by
  simp only [starred, done, Outcome.andThen]
  exact map_eq _ (optional_of_read (literal_append "*" rest))

theorem starred_of_ends {reader : Reader String} {value : String}
    (done : reader text = .read value rest) (ends : Ends rest) :
    starred reader text = .read (value, false) rest := by
  simp only [starred, done, Outcome.andThen]
  exact map_eq _ (optional_of_misses ends.noStar)

/-- A quotation mark opens no interval. -/
theorem interval_misses_quoted {α : Type} (bound : Reader α) (value : String) (rest : List Char) :
    (interval bound).Misses ((Quoted.encode value).toList ++ rest) :=
  before_misses _ (before_misses _
    (literal_misses_of_stops rfl (stops_toList_append (encode_begins value) (by decide) rest)))

theorem textValue_of_starred {property : PropertyPath} {value : String} {star : Bool}
    (done : starred (firstOf [quoted, bare]) ((Quoted.encode value).toList ++ text) =
      .read (value, star) rest) :
    textValue property ((Quoted.encode value).toList ++ text) =
      .read (if star then .textStarts property value else .textEquals property value) rest := by
  obtain ⟨place, missed⟩ := interval_misses_quoted (firstOf [quoted, bare]) value text
  simp only [textValue, missed, done, Outcome.map]

theorem textValue_interval {property : PropertyPath} (bounds : Interval String)
    (rest : List Char) :
    textValue property ((bounds.text Quoted.encode).toList ++ rest) =
      .read (.textBetween property bounds) rest := by
  simp only [textValue, interval_append (fun given _ => boundReads_quoted given)
    (fun given _ => boundReads_quoted given) rest]

theorem quotedOrBareOrNothing_append (value : String) (rest : List Char) :
    firstOf [quoted, bare, nothingBeforeStar] ((Quoted.encode value).toList ++ rest) =
      .read value rest :=
  firstOf_cons_of_read _ (quoted_append value rest)

theorem criterionOver_string {property : PropertyPath} (expressible : property.expressible)
    {criterion : Criterion} (done : textValue property text = .read criterion rest) :
    criterionOver target (("p." ++ property.text ++ ".string:").toList ++ text) =
      .read criterion rest := by
  have codes : ∀ part ∈ propertyNames property ++ ["string"], isCode part = true :=
    List.forall_mem_append.mpr
      ⟨isCode_of_mem_propertyNames expressible, List.forall_mem_singleton.mpr (by decide)⟩
  have last : ".string:".toList = (".".toList ++ "string".toList) ++ ":".toList := rfl
  have read : criterionOver target ("p.".toList ++ ((property.text.toList ++ (".".toList ++
      "string".toList)) ++ (":".toList ++ text))) = .read criterion rest :=
    property_append codes (joined_propertyNames_string property)
      (propertyValue_names_string property) done
  rw [String.toList_append, String.toList_append, last]
  simpa only [List.append_assoc] using read

theorem criterionOver_words {property : PropertyPath} {value : String} {star : Bool}
    (expressible : (property.expressible && property.language != "string") = true)
    (done : starred (firstOf [quoted, bare, nothingBeforeStar]) text = .read (value, star) rest) :
    criterionOver target (("p." ++ property.text ++ ":").toList ++ text) =
      .read (if star then .wordStarts property value else .words property value) rest := by
  rw [Bool.and_eq_true, bne_iff_ne] at expressible
  have read : wordsValue property text =
      .read (if star then .wordStarts property value else .words property value) rest := by
    simp only [wordsValue, done, Outcome.map]
  rw [String.toList_append, String.toList_append, List.append_assoc, List.append_assoc]
  exact property_append (isCode_of_mem_propertyNames expressible.1)
    (joined_propertyNames property) (propertyValue_names expressible.2) read

/-! References. -/

/-- No text of a criterion can be taken for a word that stands apart from all their beginnings. -/
theorem literal_misses_criterion {word : String} {criterion : Criterion}
    (apart : differ word.toList criterion.start.toList = true) (rest : List Char) :
    (literal word).Misses (criterion.text.toList ++ rest) := by
  obtain ⟨value, written⟩ := criterion.start_isPrefix
  rw [← written, List.append_assoc]
  exact literal_misses apart (value ++ rest)

theorem stops_isBlank_of_start {kind : Criterion} (begins : kind.start.toList <+: text) :
    Stops isBlank text := by
  obtain ⟨value, rfl⟩ := begins
  cases kind <;>
    · rw [start]
      exact stops_toList_append rfl (by decide) _

theorem stops_isBlank_criterion (criterion : Criterion) (rest : List Char) :
    Stops isBlank (criterion.text.toList ++ rest) :=
  stops_isBlank_of_start (criterion.start_isPrefix.trans (List.prefix_append _ rest))

theorem referenceName_append {name : String} (fits : isCode name) (text : List Char) :
    followedBy (field ["references.", "refs.", "r."] code) (literal ".")
      ("r.".toList ++ (name.toList ++ (".".toList ++ text))) = .read name text := by
  have point : Stops isCodeChar (".".toList ++ text) := stops_toList_append rfl (by decide) text
  exact followedBy_eq (field_append 2 rfl (by decide) (code_append fits point))
    (literal_append "." text)

theorem criterionOver_references {name : String} (fits : isCode name) (id : Uuid)
    (ends : Ends rest) :
    criterionOver target
      ("r.".toList ++ (name.toList ++ (".".toList ++ ("id:".toList ++ (id.text.toList ++ rest))))) =
        .read (.references name id) rest := by
  have notNull : (literal "null").Misses (id.text.toList ++ rest) :=
    literal_misses_of_stops rfl (stops_uuid id (by decide) (by decide) rest)
  have done : targetId ("id:".toList ++ (id.text.toList ++ rest)) = .read (some id) rest := by
    rw [targetId, before_eq _ (literal_append "id:" _),
      firstOf_cons_of_misses (map_misses _ notNull) (List.cons_ne_nil _ _)]
    exact map_eq some (uuid_append id (ends.stops (by decide)))
  refine criterionOver_of_alternative 9 rfl (by decide) ?_
  simp only [reference, referenceName_append fits, Outcome.andThen, done]

theorem criterionOver_referencesNothing {name : String} (fits : isCode name) (rest : List Char) :
    criterionOver target
      ("r.".toList ++ (name.toList ++ (".".toList ++ ("id:".toList ++ ("null".toList ++ rest))))) =
        .read (.referencesNothing name) rest := by
  have done : targetId ("id:".toList ++ ("null".toList ++ rest)) = .read none rest := by
    rw [targetId, before_eq _ (literal_append "id:" _)]
    exact firstOf_cons_of_read _ (map_eq _ (literal_append "null" rest))
  refine criterionOver_of_alternative 9 rfl (by decide) ?_
  simp only [reference, referenceName_append fits, Outcome.andThen, done]

theorem criterionOver_referencesSuch {name : String} {criterion : Criterion} (fits : isCode name)
    (other : criterion.isHasId = false)
    (done : target (criterion.text.toList ++ rest) = .read criterion rest) :
    criterionOver target
      ("r.".toList ++ (name.toList ++ (".".toList ++ (criterion.text.toList ++ rest)))) =
        .read (.referencesSuch name criterion) rest := by
  have apart : differ "id:".toList criterion.start.toList = true := by
    cases criterion with
    | hasId => cases other
    | _ =>
      simp only [start]
      decide
  have noId : targetId.Misses (criterion.text.toList ++ rest) :=
    before_misses _ (literal_misses_criterion apart rest)
  obtain ⟨place, noId⟩ := noId
  refine criterionOver_of_alternative 9 rfl (by decide) ?_
  simp only [reference, referenceName_append fits, Outcome.andThen, noId, done, Outcome.map]

/-! Criteria of all kinds. -/

theorem interval_expressible {during : Interval Timestamp} (expressible : during.expressible)
    (rest : List Char) :
    interval timestamp ((during.text Timestamp.text).toList ++ rest) = .read during rest := by
  simp only [Interval.expressible, Bool.and_eq_true, Option.all_eq_true, decide_eq_true_eq]
    at expressible
  exact interval_append (fun given bound => boundReads_timestamp (expressible.1 given bound))
    (fun given bound => boundReads_timestamp (expressible.2 given bound)) rest

theorem pointId : ".id:".toList = ".".toList ++ "id:".toList := rfl

theorem pointIdNull : ".id:null".toList = ".".toList ++ ("id:".toList ++ "null".toList) := rfl

/-- A criterion is read back from its text, with room for the references in it. -/
theorem criterion_append {criterion : Criterion} (expressible : criterion.expressible)
    {nesting : Nat} (room : criterion.text.toList.length < nesting) (ends : Ends rest) :
    Reading.criterion nesting (criterion.text.toList ++ rest) = .read criterion rest := by
  -- A reference takes one level and at least two characters, so the room lasts for its target.
  induction nesting generalizing criterion with
  | zero => exact absurd room (Nat.not_lt_zero _)
  | succ nesting ih =>
    rw [Reading.criterion]
    cases criterion with
    | hasId id =>
      rw [text, String.toList_append, List.append_assoc]
      exact criterionOver_of_field 0 3 rfl rfl (by decide) (uuid_append id (ends.stops (by decide)))
    | inGraph graph =>
      rw [text, String.toList_append, List.append_assoc]
      exact criterionOver_of_field 1 1 rfl rfl (by decide)
        (uuid_append graph (ends.stops (by decide)))
    | hasType name =>
      rw [text, String.toList_append, List.append_assoc]
      exact criterionOver_of_field 2 0 rfl rfl (by decide)
        (code_append expressible (ends.stops (by decide)))
    | hasCode name =>
      have unquoted := quoted_misses (stops_mark expressible (by decide) rest)
      rw [text, String.toList_append, List.append_assoc]
      refine criterionOver_of_field 3 0 rfl rfl (by decide) ?_
      rw [firstOf_cons_of_misses unquoted (List.cons_ne_nil _ _)]
      exact code_append expressible (ends.stops (by decide))
    | hasUri uri =>
      have unquoted := quoted_misses (stops_mark expressible (by decide) rest)
      rw [text, String.toList_append, List.append_assoc]
      refine criterionOver_of_field 4 0 rfl rfl (by decide) ?_
      rw [firstOf_cons_of_misses unquoted (List.cons_ne_nil _ _)]
      exact bare_append expressible (ends.stops (by decide))
    | hasNumber number =>
      rw [text, String.toList_append, List.append_assoc]
      exact criterionOver_of_field 5 0 rfl rfl (by decide)
        (integer_append number (ends.stops (by decide)))
    | createdWithin during =>
      rw [text, String.toList_append, List.append_assoc]
      exact criterionOver_of_field 6 0 rfl rfl (by decide) (interval_expressible expressible rest)
    | modifiedWithin during =>
      rw [text, String.toList_append, List.append_assoc]
      exact criterionOver_of_field 7 0 rfl rfl (by decide) (interval_expressible expressible rest)
    | textEquals property value =>
      rw [text, String.toList_append, List.append_assoc]
      exact criterionOver_string expressible
        (textValue_of_starred (starred_of_ends (quotedOrBare_append value rest) ends))
    | textStarts property start =>
      rw [text, String.toList_append, String.toList_append, List.append_assoc, List.append_assoc]
      exact criterionOver_string expressible
        (textValue_of_starred (starred_append (quotedOrBare_append start _)))
    | textBetween property bounds =>
      rw [text, String.toList_append, List.append_assoc]
      exact criterionOver_string expressible (textValue_interval bounds rest)
    | words property phrase =>
      rw [text, String.toList_append, List.append_assoc]
      exact criterionOver_words expressible
        (starred_of_ends (quotedOrBareOrNothing_append phrase rest) ends)
    | wordStarts property start =>
      rw [text, String.toList_append, String.toList_append, List.append_assoc, List.append_assoc]
      exact criterionOver_words expressible
        (starred_append (quotedOrBareOrNothing_append start _))
    | references name id =>
      simp only [text, String.toList_append, List.append_assoc, pointId]
      exact criterionOver_references expressible id ends
    | referencesNothing name =>
      simp only [text, String.toList_append, List.append_assoc, pointIdNull]
      exact criterionOver_referencesNothing expressible rest
    | referencesSuch name criterion =>
      rw [Criterion.expressible, Bool.and_eq_true, Bool.and_eq_true, Bool.not_eq_true']
        at expressible
      obtain ⟨⟨fits, other⟩, inner⟩ := expressible
      have shorter : criterion.text.toList.length < nesting := by
        simp only [text, String.toList_append, List.length_append] at room
        have : "r.".toList.length = 2 := rfl
        omega
      simp only [text, String.toList_append, List.append_assoc]
      exact criterionOver_referencesSuch fits other (ih inner shorter)

end Reading

end Criterion

end NodeQuery
