import NodeQuery.Proofs.OrderedMap
import NodeQuery.Search.Document

/-! The entries of a document. Names without a point keep the fields of different attributes apart,
and apart by their kind and language, so a look-up under a field finds what the node holds under the
attribute and nothing else. -/

namespace NodeQuery

/-- A name that cannot be mistaken for the beginning of a longer field. -/
def PointFree (name : String) : Prop := '.' ∉ name.toList

instance (name : String) : Decidable (PointFree name) :=
  inferInstanceAs (Decidable ('.' ∉ name.toList))

/-- The names of the text attributes of a node have no point. -/
def Node.PointFree (node : Node) : Prop := ∀ name ∈ node.properties.keys, NodeQuery.PointFree name

instance (node : Node) : Decidable node.PointFree :=
  inferInstanceAs (Decidable (∀ name ∈ node.properties.keys, NodeQuery.PointFree name))

namespace Search

open Text

/-- What follows the kind of a field. -/
def languageTail (language : String) : List Char :=
  if language.isEmpty then [] else '.' :: language.toList

theorem languageTail_inj {left right : String} (same : languageTail left = languageTail right) :
    left = right := by
  unfold languageTail at same
  split at same
  · next leftEmpty =>
    split at same
    · next rightEmpty =>
      rw [String.isEmpty_iff.mp leftEmpty, String.isEmpty_iff.mp rightEmpty]
    · cases same
  · split at same
    · cases same
    · exact String.toList_injective (List.cons.inj same).2

theorem toList_propertyField (kind : String) (property : PropertyPath) :
    (propertyField kind property).toList = "properties.".toList ++
      (property.name.toList ++ '.' :: (kind.toList ++ languageTail property.language)) := by
  unfold propertyField languageTail
  split <;> simp

/-- The part of a field before its first point, and what follows it. -/
theorem append_inj_of_point {left right lefts rights : List Char} (leftPlain : '.' ∉ left)
    (rightPlain : '.' ∉ right) (leftPoint : ∀ char ∈ lefts.head?, char = '.')
    (rightPoint : ∀ char ∈ rights.head?, char = '.') (same : left ++ lefts = right ++ rights) :
    left = right ∧ lefts = rights := by
  have front {part rest : List Char} (plain : '.' ∉ part)
      (point : ∀ char ∈ rest.head?, char = '.') :
      (part ++ rest).takeWhile (· ≠ '.') = part := by
    rw [List.takeWhile_append_of_pos]
    · cases rest with
      | nil => simp
      | cons char rest => simp [point char rfl]
    · intro char member
      rw [decide_eq_true_eq]
      intro same
      subst same
      exact plain member
  have fronts : left = right := by
    rw [← front leftPlain leftPoint, same, front rightPlain rightPoint]
  subst fronts
  exact ⟨rfl, List.append_cancel_left same⟩

theorem head?_languageTail (language : String) :
    ∀ char ∈ (languageTail language).head?, char = '.' := by
  unfold languageTail
  split <;> simp

/-- What follows the name in a field tells the kind and the language. -/
theorem kind_append_languageTail_inj {leftKind rightKind left right : String}
    (leftPlain : PointFree leftKind) (rightPlain : PointFree rightKind)
    (same : leftKind.toList ++ languageTail left = rightKind.toList ++ languageTail right) :
    leftKind = rightKind ∧ left = right := by
  obtain ⟨kinds, languages⟩ := append_inj_of_point leftPlain rightPlain (head?_languageTail left)
    (head?_languageTail right) same
  exact ⟨String.toList_injective kinds, languageTail_inj languages⟩

/-- A field of a property tells the kind, the name and the language. -/
theorem propertyField_inj {leftKind rightKind : String} {left right : PropertyPath}
    (leftFree : PointFree left.name) (rightFree : PointFree right.name)
    (leftPlain : PointFree leftKind) (rightPlain : PointFree rightKind)
    (same : propertyField leftKind left = propertyField rightKind right) :
    leftKind = rightKind ∧ left = right := by
  have chars := congrArg String.toList same
  rw [toList_propertyField, toList_propertyField, List.append_cancel_left_eq] at chars
  obtain ⟨names, tails⟩ := append_inj_of_point leftFree rightFree (by simp) (by simp) chars
  obtain ⟨kinds, languages⟩ :=
    kind_append_languageTail_inj leftPlain rightPlain (List.cons.inj tails).2
  exact ⟨kinds, congrArg₂ PropertyPath.mk (String.toList_injective names) languages⟩

/-- The kinds of fields that hold the texts of a node. -/
def textKinds : List String := ["string", "words"]

/-- Whether a field under the one name and a field under the other are the same only if they agree
in kind, name and language. -/
def FieldsApart (left right : String) : Prop :=
  ∀ leftKind ∈ textKinds, ∀ rightKind ∈ textKinds, ∀ leftLanguage rightLanguage,
    propertyField leftKind ⟨left, leftLanguage⟩ = propertyField rightKind ⟨right, rightLanguage⟩ →
      leftKind = rightKind ∧ left = right ∧ leftLanguage = rightLanguage

theorem pointFree_of_mem_textKinds {kind : String} (known : kind ∈ textKinds) : PointFree kind := by
  revert kind
  decide

theorem fieldsApart_of_pointFree {left right : String} (leftFree : PointFree left)
    (rightFree : PointFree right) : FieldsApart left right := by
  intro leftKind leftKnown rightKind rightKnown leftLanguage rightLanguage same
  obtain ⟨kinds, paths⟩ := propertyField_inj leftFree rightFree
    (pointFree_of_mem_textKinds leftKnown) (pointFree_of_mem_textKinds rightKnown) same
  exact ⟨kinds, PropertyPath.mk.inj paths⟩

theorem head?_propertyField (kind : String) (property : PropertyPath) :
    (propertyField kind property).toList.head? = some 'p' := by
  rw [toList_propertyField]
  rfl

theorem toList_referenceField (name : String) :
    (referenceField name).toList = "references.".toList ++ (name.toList ++ ".id".toList) := by
  simp [referenceField]

theorem head?_referenceField (name : String) :
    (referenceField name).toList.head? = some 'r' := by
  rw [toList_referenceField]
  rfl

theorem referenceField_injective : Function.Injective referenceField := by
  intro left right same
  have chars := congrArg String.toList same
  rw [toList_referenceField, toList_referenceField, List.append_cancel_left_eq,
    List.append_cancel_right_eq] at chars
  exact String.toList_injective chars

variable {key : NodeKey} {node : Node} {field term : String}

theorem head?_of_mem_propertyEntries {property : PropertyPath} {value : String}
    (member : (field, term) ∈ propertyEntries property value) :
    field.toList.head? = some 'p' := by
  rcases List.mem_cons.mp member with whole | word
  · rw [(Prod.mk.inj whole).1]
    exact head?_propertyField _ _
  · obtain ⟨_, _, same⟩ := List.mem_map.mp word
    rw [← (Prod.mk.inj same).1]
    exact head?_propertyField _ _

theorem head?_of_mem_targets {name : String} {targets : List NodeKey}
    (member : (field, term) ∈ targets.map fun target => (referenceField name, target.id.text)) :
    field.toList.head? = some 'r' := by
  obtain ⟨_, _, same⟩ := List.mem_map.mp member
  rw [← (Prod.mk.inj same).1]
  exact head?_referenceField name

/-- The entries for what every node has, or has at most once. -/
def plainEntries (key : NodeKey) (node : Node) : Document :=
  [(idField, key.id.text), (typeNameField, key.typeId.name), (graphField, key.typeId.graph.text),
    (numberField, integerText node.number.toInt), (createdField, node.createdDate.term),
    (lastModifiedField, node.lastModifiedDate.term)] ++
  node.code.toList.map (fun code => (codeField, code)) ++
  node.uri.toList.map (fun uri => (uriField, uri))

theorem mem_plainEntries : (field, term) ∈ plainEntries key node ↔
    (field = idField ∧ term = key.id.text) ∨
    (field = typeNameField ∧ term = key.typeId.name) ∨
    (field = graphField ∧ term = key.typeId.graph.text) ∨
    (field = numberField ∧ term = integerText node.number.toInt) ∨
    (field = createdField ∧ term = node.createdDate.term) ∨
    (field = lastModifiedField ∧ term = node.lastModifiedDate.term) ∨
    (field = codeField ∧ node.code = some term) ∨ field = uriField ∧ node.uri = some term := by
  simp only [plainEntries, List.mem_append, List.mem_cons, List.mem_map, List.not_mem_nil,
    Prod.mk.injEq, or_false, or_assoc, Option.mem_toList]
  grind

theorem head?_of_mem_plainEntries (member : (field, term) ∈ plainEntries key node) :
    field.toList.head? ≠ some 'p' ∧ field.toList.head? ≠ some 'r' := by
  rcases mem_plainEntries.mp member with ⟨rfl, _⟩ | ⟨rfl, _⟩ | ⟨rfl, _⟩ | ⟨rfl, _⟩ | ⟨rfl, _⟩ |
    ⟨rfl, _⟩ | ⟨rfl, _⟩ | ⟨rfl, _⟩
  all_goals decide

/-- A text is indexed under its attribute without a language, and with its own. -/
theorem mem_textEntries {name : String} {text : LanguageText} :
    (field, term) ∈ textEntries name text ↔
      ∃ language, (language = "" ∨ text.language = language) ∧
        (field, term) ∈ propertyEntries ⟨name, language⟩ text.value := by
  unfold textEntries
  rw [List.mem_append]
  constructor
  · intro given
    rcases given with plain | tagged
    · exact ⟨"", .inl rfl, plain⟩
    · split at tagged
      · cases tagged
      · exact ⟨text.language, .inr rfl, tagged⟩
  · intro given
    obtain ⟨language, rfl | rfl, entry⟩ := given
    · exact .inl entry
    · split
      · next untagged =>
        rw [String.isEmpty_iff.mp untagged] at entry
        exact .inl entry
      · exact .inr entry

theorem mem_values {property : PropertyPath} {value : String} : value ∈ node.values property ↔
    ∃ texts, (property.name, texts) ∈ node.properties.entries ∧ ∃ text ∈ texts,
      (property.language = "" ∨ text.language = property.language) ∧ text.value = value := by
  simp only [Node.values, Node.texts, List.mem_map, List.mem_filter, Bool.or_eq_true,
    String.isEmpty_iff, beq_iff_eq, ← OrderedMap.get?_eq_some_iff, and_assoc]
  cases node.properties.get? property.name <;> simp

/-- Beside what every node has, and the references, the document holds what the values of the
properties are indexed by. -/
theorem mem_document : (field, term) ∈ document key node ↔
    (field, term) ∈ plainEntries key node ∨
    (∃ property, ∃ value ∈ node.values property,
      (field, term) ∈ propertyEntries property value) ∨
    ∃ name targets, (name, targets) ∈ node.references.entries ∧
      (field, term) ∈ targets.map fun target => (referenceField name, target.id.text) := by
  have texts : (∃ name texts, (name, texts) ∈ node.properties.entries ∧
      ∃ text ∈ texts, (field, term) ∈ textEntries name text) ↔
        ∃ property, ∃ value ∈ node.values property,
          (field, term) ∈ propertyEntries property value := by
    simp only [mem_textEntries, mem_values]
    constructor
    · intro given
      obtain ⟨name, texts, stored, text, member, language, spoken, entry⟩ := given
      exact ⟨⟨name, language⟩, text.value, ⟨texts, stored, text, member, spoken, rfl⟩, entry⟩
    · intro given
      obtain ⟨⟨name, language⟩, _, ⟨texts, stored, text, member, spoken, rfl⟩, entry⟩ := given
      exact ⟨name, texts, stored, text, member, language, spoken, entry⟩
  rw [← texts]
  simp only [document, List.mem_append, List.mem_flatMap, Prod.exists, or_assoc, plainEntries]

theorem mem_document_of_plain (notProperty : field.toList.head? ≠ some 'p')
    (notReference : field.toList.head? ≠ some 'r') :
    (field, term) ∈ document key node ↔ (field, term) ∈ plainEntries key node := by
  rw [mem_document, or_iff_left]
  intro given
  rcases given with ⟨_, _, _, member⟩ | ⟨_, _, _, member⟩
  · exact notProperty (head?_of_mem_propertyEntries member)
  · exact notReference (head?_of_mem_targets member)

/-- A field that is listed once for a node holds what the node has there. -/
theorem mem_document_plain :
    ((idField, term) ∈ document key node ↔ term = key.id.text) ∧
    ((typeNameField, term) ∈ document key node ↔ term = key.typeId.name) ∧
    ((graphField, term) ∈ document key node ↔ term = key.typeId.graph.text) ∧
    ((numberField, term) ∈ document key node ↔ term = integerText node.number.toInt) ∧
    ((createdField, term) ∈ document key node ↔ term = node.createdDate.term) ∧
    ((lastModifiedField, term) ∈ document key node ↔ term = node.lastModifiedDate.term) ∧
    ((codeField, term) ∈ document key node ↔ node.code = some term) ∧
    ((uriField, term) ∈ document key node ↔ node.uri = some term) := by
  refine ⟨?_, ?_, ?_, ?_, ?_, ?_, ?_, ?_⟩
  all_goals
    rw [mem_document_of_plain (by decide) (by decide), mem_plainEntries]
    simp [idField, typeNameField, graphField, numberField, createdField, lastModifiedField,
      codeField, uriField]

theorem mem_document_reference {name : String} :
    (referenceField name, term) ∈ document key node ↔
      ∃ target ∈ node.targets name, target.id.text = term := by
  have others : (referenceField name, term) ∉ plainEntries key node ∧
      ∀ property value, (referenceField name, term) ∉ propertyEntries property value := by
    have head := head?_referenceField name
    refine ⟨fun member => (head?_of_mem_plainEntries member).2 head, fun _ _ member => ?_⟩
    rw [head?_of_mem_propertyEntries member] at head
    cases head
  simp only [mem_document, others, and_false, exists_false, false_or, List.mem_map,
    Prod.mk.injEq, referenceField_injective.eq_iff, Node.targets]
  simp only [← OrderedMap.get?_eq_some_iff]
  constructor
  · intro given
    obtain ⟨_, targets, stored, target, member, rfl, same⟩ := given
    exact ⟨target, by simpa [stored] using member, same⟩
  · intro given
    obtain ⟨target, member, same⟩ := given
    cases stored : node.references.get? name with
    | none => simp [stored] at member
    | some targets =>
      exact ⟨name, targets, stored, target, by simpa [stored] using member, rfl, same⟩

section

variable {property : PropertyPath}

/-- Under a field of a property stands what the values of the property give, if the field takes its
entries from each value under that property only. -/
theorem mem_document_property (key : NodeKey) {chosen : String → Prop}
    (isProperty : field.toList.head? = some 'p')
    (listed : ∀ name ∈ node.properties.keys, ∀ language value,
      ((field, term) ∈ propertyEntries ⟨name, language⟩ value ↔
        property = ⟨name, language⟩ ∧ chosen value)) :
    (field, term) ∈ document key node ↔ ∃ value ∈ node.values property, chosen value := by
  have entries {other : PropertyPath} {value : String} (held : value ∈ node.values other) :
      (field, term) ∈ propertyEntries other value ↔ property = other ∧ chosen value := by
    obtain ⟨texts, stored, -⟩ := mem_values.mp held
    exact listed other.name (List.mem_map_of_mem stored) other.language value
  rw [mem_document]
  constructor
  · intro given
    rcases given with plain | ⟨other, value, held, entry⟩ | ⟨_, _, _, target⟩
    · exact absurd isProperty (head?_of_mem_plainEntries plain).1
    · obtain ⟨rfl, good⟩ := (entries held).mp entry
      exact ⟨value, held, good⟩
    · rw [head?_of_mem_targets target] at isProperty
      cases isProperty
  · intro given
    obtain ⟨value, held, good⟩ := given
    exact .inr (.inl ⟨property, value, held, (entries held).mpr ⟨rfl, good⟩⟩)

theorem mem_document_string
    (apart : ∀ name ∈ node.properties.keys, FieldsApart property.name name) :
    (stringField property, term) ∈ document key node ↔ term ∈ node.values property := by
  have listed : ∀ name ∈ node.properties.keys, ∀ language value,
      (stringField property, term) ∈ propertyEntries ⟨name, language⟩ value ↔
        property = ⟨name, language⟩ ∧ term = value := by
    intro name held language value
    simp only [propertyEntries, List.mem_cons, List.mem_map, Prod.mk.injEq]
    constructor
    · intro given
      rcases given with ⟨same, rfl⟩ | ⟨_, _, same, _⟩
      · obtain ⟨-, names, languages⟩ := apart name held _ (by decide) _ (by decide) _ _ same
        exact ⟨congrArg₂ PropertyPath.mk names languages, rfl⟩
      · obtain ⟨kinds, -⟩ := apart name held _ (by decide) _ (by decide) _ _ same.symm
        exact absurd kinds (by decide)
    · intro given
      obtain ⟨rfl, rfl⟩ := given
      exact .inl ⟨rfl, rfl⟩
  have found := mem_document_property key (head?_propertyField _ _) listed
  rw [← stringField] at found
  simpa using found

theorem mem_document_words
    (apart : ∀ name ∈ node.properties.keys, FieldsApart property.name name) :
    (wordsField property, term) ∈ document key node ↔
      term ∈ (node.values property).flatMap words := by
  have listed : ∀ name ∈ node.properties.keys, ∀ language value,
      (wordsField property, term) ∈ propertyEntries ⟨name, language⟩ value ↔
        property = ⟨name, language⟩ ∧ term ∈ words value := by
    intro name held language value
    simp only [propertyEntries, List.mem_cons, List.mem_map, Prod.mk.injEq]
    constructor
    · intro given
      rcases given with ⟨same, _⟩ | ⟨_, member, same, rfl⟩
      · obtain ⟨kinds, -⟩ := apart name held _ (by decide) _ (by decide) _ _ same
        exact absurd kinds (by decide)
      · obtain ⟨-, names, languages⟩ := apart name held _ (by decide) _ (by decide) _ _ same.symm
        exact ⟨congrArg₂ PropertyPath.mk names languages, member⟩
    · intro given
      obtain ⟨rfl, member⟩ := given
      exact .inr ⟨term, member, rfl, rfl⟩
  rw [List.mem_flatMap]
  exact mem_document_property key (head?_propertyField _ _) listed

end

end Search

end NodeQuery
