import NodeQuery.Proofs.Search.Fields
import NodeQuery.Proofs.History
import NodeQuery.Proofs.Text.Words

/-! Searching for indexed words. A node is indexed by the words of its values, and a phrase is taken
apart in the same way; so a word is found by itself just if it is not cut when taken as a phrase. -/

namespace NodeQuery.Search

open Text

variable {property : PropertyPath} {text word : String} {key : NodeKey} {node : Node}

/-- A node is indexed by all words of its values. -/
theorem mem_document_of_mem_words (key : NodeKey)
    (member : word ∈ (node.values property).flatMap words) :
    (wordsField property, word) ∈ document key node := by
  obtain ⟨value, held, listed⟩ := List.mem_flatMap.mp member
  exact mem_document.mpr (.inr (.inl ⟨property, value, held,
    List.mem_cons_of_mem _ (List.mem_map_of_mem listed)⟩))

/-- A node with a single value. -/
def nodeWith (property : PropertyPath) (value : String) : Node :=
  (Node.fresh (.ofNat 1) ⟨.ofNat 7, "Concept"⟩ default).addProperty property.name
    ⟨property.language, value⟩

theorem values_nodeWith (property : PropertyPath) (value : String) :
    (nodeWith property value).values property = [value] := by
  simp [nodeWith, Node.values, Node.texts, Node.addProperty, Node.fresh]

theorem holds_words_iff :
    (Criterion.words property word).holds key node = true ↔
      words word ≠ [] ∧ ∀ part ∈ words word, part ∈ (node.values property).flatMap words := by
  simp [Criterion.holds, Criterion.matchesWords]

/-- A word of a value is found by the criterion on the start of words. -/
theorem holds_wordStarts_of_mem (member : word ∈ (node.values property).flatMap words) :
    (Criterion.wordStarts property word).holds key node = true := by
  obtain ⟨value, -, listed⟩ := List.mem_flatMap.mp member
  have folded : foldCase word = word := by
    unfold foldCase
    rw [flatMap_toLowercase_of_fixed (toLowercase_of_mem_word listed), String.ofList_toList]
  simp only [Criterion.holds, folded]
  exact List.any_eq_true.mpr ⟨word, member, List.isPrefixOf_iff_prefix.mpr List.prefix_rfl⟩

/-- The document of a node holds every word of its values. The nodes whose document holds a word of
their values are all found by searching for it just if the word is not cut when taken as a phrase,
which is so for the words of texts whose capitals have a lower-case form of one character each. -/
theorem words_found_iff (listed : word ∈ words text) (property : PropertyPath) :
    (∀ key node, word ∈ (node.values property).flatMap words →
      (wordsField property, word) ∈ document key node) ∧
    ((∀ key node, (wordsField property, word) ∈ document key node →
        word ∈ (node.values property).flatMap words →
          (Criterion.words property word).holds key node = true) ↔ Unbroken word.toList) ∧
    ((∀ char ∈ text.toList, char ≠ '\u0130' ∧
      (isUppercase char = true → toLowercase char ≠ [char])) → Unbroken word.toList) := by
  refine ⟨fun key node => mem_document_of_mem_words key, ⟨fun found => ?_, ?_⟩,
    unbroken_of_plain listed⟩
  · obtain ⟨origin, single⟩ := exists_words_eq_singleton listed
    have held : word ∈ ((nodeWith property origin).values property).flatMap words := by
      rw [values_nodeWith, List.flatMap_singleton, single]
      exact List.mem_singleton_self _
    have holds := found (nodeWith property origin).key _ (mem_document_of_mem_words _ held) held
    rw [holds_words_iff, values_nodeWith, List.flatMap_singleton, single] at holds
    obtain ⟨some, each⟩ := holds
    obtain ⟨part, member⟩ := List.exists_mem_of_ne_nil _ some
    rw [List.mem_singleton.mp (each part member)] at member
    exact unbroken_of_mem_words_self listed member
  · intro unbroken key node _ held
    rw [holds_words_iff, words_self_of_unbroken listed unbroken]
    exact ⟨List.cons_ne_nil _ _, List.forall_mem_singleton.mpr held⟩

theorem words_found_label :
    "label" ∈ words "prefLabel" ∧
    (∀ key node, "label" ∈ (node.values ⟨"name", "en"⟩).flatMap words →
      (wordsField ⟨"name", "en"⟩, "label") ∈ document key node) ∧
    ∀ key node, (wordsField ⟨"name", "en"⟩, "label") ∈ document key node →
      "label" ∈ (node.values ⟨"name", "en"⟩).flatMap words →
        (Criterion.words ⟨"name", "en"⟩ "label").holds key node = true := by
  have listed : "label" ∈ words "prefLabel" := by decide +kernel
  have capitals : "prefLabel".toList.all (fun char => char ≠ '\u0130' ∧
      (isUppercase char = true → toLowercase char ≠ [char])) = true := by decide +kernel
  obtain ⟨indexed, found, plain⟩ := words_found_iff listed ⟨"name", "en"⟩
  refine ⟨listed, indexed, found.mpr (plain fun char member => ?_)⟩
  exact of_decide_eq_true (List.all_eq_true.mp capitals char member)

/-- The dotted capital I is one letter in the text, and two characters in the word, of which the
second separates words. -/
theorem word_of_dottedCapital_lost :
    let node := nodeWith ⟨"label", ""⟩ "\u0130stanbul"
    (wordsField ⟨"label", ""⟩, "i\u0307stanbul") ∈ document node.key node ∧
    (Criterion.words ⟨"label", ""⟩ "i\u0307stanbul").holds node.key node = false := by
  decide +kernel

end NodeQuery.Search
