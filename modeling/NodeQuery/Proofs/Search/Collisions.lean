import NodeQuery.Proofs.History
import NodeQuery.Proofs.Search.Fields

/-! Which fields of texts collide. The parts of a field stand side by side with points between them,
so the beginning of a language can pass for the end of a longer name. Fields are told apart for just
those names of which none goes on like a field of another. -/

namespace NodeQuery.Search

/-- Whether a name is another one with a kind at its end, or with a kind and what looks like the
beginning of a language. -/
def LooksLikeField (short long : String) : Prop :=
  ∃ kind ∈ textKinds, long = short ++ "." ++ kind ∨
    (short ++ "." ++ kind ++ ".").toList <+: long.toList

instance (short long : String) : Decidable (LooksLikeField short long) :=
  inferInstanceAs (Decidable (∃ kind ∈ textKinds, long = short ++ "." ++ kind ∨
    (short ++ "." ++ kind ++ ".").toList <+: long.toList))

theorem looksLikeField_iff {short long : String} : LooksLikeField short long ↔
    ∃ kind ∈ textKinds, ∃ rest : List Char, (∀ char ∈ rest.head?, char = '.') ∧
      long.toList = short.toList ++ '.' :: (kind.toList ++ rest) := by
  refine exists_congr fun kind => and_congr_right fun _ => ?_
  constructor
  · intro given
    rcases given with rfl | ⟨rest, same⟩
    · exact ⟨[], by simp, by simp⟩
    · exact ⟨'.' :: rest, by simp, by simp [← same]⟩
  · intro given
    obtain ⟨rest, point, same⟩ := given
    cases rest with
    | nil => exact .inl (String.toList_injective (by simp [same]))
    | cons char rest =>
      cases point char rfl
      exact .inr ⟨rest, by simp [same]⟩

theorem languageTail_ofList {char : Char} {rest : List Char} :
    languageTail (.ofList (char :: rest)) = '.' :: char :: rest := by
  simp [languageTail]

/-- A field of a name that goes on like a field of a shorter name is also a field of the shorter
name, in a longer language. -/
theorem not_fieldsApart {short long : String} (looks : LooksLikeField short long) :
    ¬FieldsApart short long := by
  obtain ⟨kind, known, rest, point, same⟩ := looksLikeField_iff.mp looks
  obtain ⟨language, spelled⟩ :
      ∃ language : String, languageTail language = rest ++ ".string".toList := by
    cases rest with
    | nil => exact ⟨"string", rfl⟩
    | cons char rest =>
      cases point char rfl
      cases rest with
      | nil => exact ⟨".string", rfl⟩
      | cons next rest => exact ⟨.ofList (next :: rest ++ ".string".toList), languageTail_ofList⟩
  intro apart
  have fields : propertyField kind ⟨short, language⟩ = propertyField "string" ⟨long, ""⟩ := by
    apply String.toList_injective
    rw [toList_propertyField, toList_propertyField, same, spelled]
    simp [languageTail]
  obtain ⟨-, names, -⟩ := apart kind known "string" (by decide) language "" fields
  rw [names] at same
  simpa using congrArg List.length same

/-- A longer name with the same field goes on like a field of the shorter one. -/
theorem looksLikeField_of_longer {short long : String} {shortKind longKind : String}
    {shortLanguage longLanguage : String} {more : List Char} (known : shortKind ∈ textKinds)
    (longer : long.toList = short.toList ++ more) (nonempty : more ≠ [])
    (same : propertyField shortKind ⟨short, shortLanguage⟩ =
      propertyField longKind ⟨long, longLanguage⟩) :
    LooksLikeField short long := by
  have chars := congrArg String.toList same
  rw [toList_propertyField, toList_propertyField, List.append_cancel_left_eq, longer,
    List.append_assoc, List.append_cancel_left_eq] at chars
  obtain ⟨first, after, rfl⟩ := List.exists_cons_of_ne_nil nonempty
  obtain ⟨rfl, tails⟩ := List.cons.inj chars
  have plain : '.' ∉ shortKind.toList := pointFree_of_mem_textKinds known
  refine looksLikeField_iff.mpr ⟨shortKind, known, ?_⟩
  rcases List.append_eq_append_iff.mp tails with ⟨rest, rfl, tail⟩ | ⟨rest, kind, tail⟩
  · refine ⟨rest, fun char member => head?_languageTail shortLanguage char ?_, longer⟩
    rw [tail]
    cases rest with
    | nil => cases member
    | cons => exact member
  · cases rest with
    | nil => exact ⟨[], by simp, by simpa [kind] using longer⟩
    | cons char rest =>
      obtain ⟨rfl, -⟩ := List.cons.inj tail
      exact absurd (by simp [kind]) plain

theorem eq_or_looksLikeField {left right : String} {leftKind rightKind : String}
    {leftLanguage rightLanguage : String} (leftKnown : leftKind ∈ textKinds)
    (rightKnown : rightKind ∈ textKinds)
    (same : propertyField leftKind ⟨left, leftLanguage⟩ =
      propertyField rightKind ⟨right, rightLanguage⟩) :
    left = right ∨ LooksLikeField left right ∨ LooksLikeField right left := by
  have chars := congrArg String.toList same
  rw [toList_propertyField, toList_propertyField, List.append_cancel_left_eq] at chars
  rcases List.append_eq_append_iff.mp chars with ⟨more, longer, -⟩ | ⟨more, longer, -⟩
  · by_cases none : more = []
    · subst none
      exact .inl (String.toList_injective (by simpa using longer.symm))
    · exact .inr (.inl (looksLikeField_of_longer leftKnown longer none same))
  · by_cases none : more = []
    · subst none
      exact .inl (String.toList_injective (by simpa using longer))
    · exact .inr (.inr (looksLikeField_of_longer rightKnown longer none same.symm))

theorem FieldsApart.symm {left right : String} (apart : FieldsApart left right) :
    FieldsApart right left := by
  intro leftKind leftKnown rightKind rightKnown leftLanguage rightLanguage same
  obtain ⟨kinds, names, languages⟩ := apart _ rightKnown _ leftKnown _ _ same.symm
  exact ⟨kinds.symm, names.symm, languages.symm⟩

theorem fieldsApart_iff {left right : String} :
    FieldsApart left right ↔ ¬LooksLikeField left right ∧ ¬LooksLikeField right left := by
  constructor
  · intro apart
    exact ⟨fun looks => not_fieldsApart looks apart, fun looks => not_fieldsApart looks apart.symm⟩
  · intro given leftKind leftKnown rightKind rightKnown leftLanguage rightLanguage same
    have names : left = right := by
      rcases eq_or_looksLikeField leftKnown rightKnown same with names | looks | looks
      · exact names
      · exact absurd looks given.1
      · exact absurd looks given.2
    subst names
    rw [← String.toList_inj, toList_propertyField, toList_propertyField,
      List.append_cancel_left_eq, List.append_cancel_left_eq] at same
    obtain ⟨kinds, languages⟩ := kind_append_languageTail_inj
      (pointFree_of_mem_textKinds leftKnown) (pointFree_of_mem_textKinds rightKnown)
      (List.cons.inj same).2
    exact ⟨kinds, rfl, languages⟩

/-- For a set of names, the fields of texts belong to one kind, name and language each just if no
name looks like a field of another. Then a look-up under a field of one of the names finds what the
node holds under that attribute and language, whatever else it holds under the names. -/
theorem textFields_apart_iff (names : Set String) :
    ((∀ left ∈ names, ∀ right ∈ names, FieldsApart left right) ↔
      ∀ short ∈ names, ∀ long ∈ names, ¬LooksLikeField short long) ∧
    ((∀ short ∈ names, ∀ long ∈ names, ¬LooksLikeField short long) →
      ∀ (property : PropertyPath) (key : NodeKey) (node : Node) (term : String),
        property.name ∈ names → (∀ name ∈ node.properties.keys, name ∈ names) →
        ((stringField property, term) ∈ document key node ↔ term ∈ node.values property) ∧
        ((wordsField property, term) ∈ document key node ↔
          term ∈ (node.values property).flatMap Text.words)) := by
  refine ⟨?_, fun distinct property key node term asked held => ?_⟩
  · simp only [fieldsApart_iff]
    exact ⟨fun apart short shortKnown long longKnown => (apart short shortKnown long longKnown).1,
      fun distinct left leftKnown right rightKnown =>
        ⟨distinct left leftKnown right rightKnown, distinct right rightKnown left leftKnown⟩⟩
  · have apart : ∀ name ∈ node.properties.keys, FieldsApart property.name name := by
      intro name stored
      have known := held name stored
      exact fieldsApart_iff.mpr ⟨distinct _ asked _ known, distinct _ known _ asked⟩
    exact ⟨mem_document_string apart, mem_document_words apart⟩

/-- Of a name that only begins like a field of another nothing is taken for the other. -/
theorem textFields_apart_labels :
    let names : Set String := {"label", "label.strings"}
    let node := (Node.fresh (.ofNat 1) ⟨.ofNat 7, "Concept"⟩ default).addProperty "label"
      ⟨"string", "v"⟩
    (∀ short ∈ names, ∀ long ∈ names, ¬LooksLikeField short long) ∧
      (∀ name ∈ node.properties.keys, name ∈ names) ∧
      (stringField ⟨"label", "string"⟩, "v") ∈ document node.key node ∧
      (stringField ⟨"label.strings", ""⟩, "v") ∉ document node.key node := by
  intro names node
  have distinct : ∀ short ∈ names, ∀ long ∈ names, ¬LooksLikeField short long := by
    simp only [names, Set.mem_insert_iff, Set.mem_singleton_iff, forall_eq_or_imp, forall_eq]
    decide
  have held : ∀ name ∈ node.properties.keys, name ∈ names := by
    intro name stored
    rw [List.mem_singleton.mp (show name ∈ ["label"] from stored)]
    exact .inl rfl
  have found (property : PropertyPath) (asked : property.name ∈ names) :=
    (textFields_apart_iff names).2 distinct property node.key node "v" asked held
  refine ⟨distinct, held, ?_, ?_⟩
  · exact (found ⟨"label", "string"⟩ (.inl rfl)).1.mpr (by decide)
  · exact (found ⟨"label.strings", ""⟩ (.inr rfl)).1.not.mpr (by decide)

/-- A text in a language called after a kind stands under the field of another attribute. -/
theorem label_in_string_collides :
    (¬∀ left right : String, FieldsApart left right) ∧
    ∃ node : Node, node.values ⟨"label.string", ""⟩ = [] ∧
      (stringField ⟨"label.string", ""⟩, "v") ∈ document node.key node := by
  refine ⟨fun apart => ?_, (Node.fresh (.ofNat 1) ⟨.ofNat 7, "Concept"⟩ default).addProperty
    "label" ⟨"string", "v"⟩, by decide, by decide⟩
  have known : "string" ∈ textKinds := by decide
  exact absurd (apart "label" "label.string" "string" known "string" known "string" "" rfl).2.1
    (by decide)

end NodeQuery.Search
