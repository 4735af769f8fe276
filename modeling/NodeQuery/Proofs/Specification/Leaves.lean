import NodeQuery.Proofs.Specification.WellFormed

/-! The leaves of queries. The leaves of a query that was read are legible, whatever its text; and
the text of a criterion is a query of its own, which is read as the criterion or as another one with
the same text, if it is read at all. -/

namespace NodeQuery.Specification

open Text Text.Reader

/-- The names in all leaves can be written. -/
def Legible (specification : NodeSpecification) : Prop :=
  ∀ criterion ∈ specification.leaves, criterion.legible = true

namespace Reading

/-! The text of a criterion as a query. -/

section

variable {kind criterion : Criterion}

theorem item_of_clausesOf (connective : Connective) {item : Reader NodeSpecification}
    {text rest : List Char} (done : clausesOf connective item text = .read (.leaf criterion) rest) :
    ∃ after, item text = .read (.leaf criterion) after := by
  obtain ⟨clauses, separated, same⟩ := exists_of_map done
  obtain ⟨first, after, begun, others⟩ := exists_of_andThen separated
  obtain ⟨further, -, rfl⟩ := exists_of_map others
  cases further with
  | nil =>
    cases same
    exact ⟨after, begun⟩
  | cons second further =>
    cases connective <;> cases same

theorem read_of_criterion {text : String} (begins : kind.start.toList <+: text.toList)
    (done : Criterion.Reading.criterion (text.toList.length + 1) text.toList =
      .read criterion []) : NodeSpecification.read text = .ok (.leaf criterion) := by
  have read : Reading.factor (text.toList.length + 1) text.toList = .read (.leaf criterion) [] :=
    (factor_eq_criterion begins _).trans (map_eq _ done)
  have blank : Blank [] := List.forall_mem_nil _
  have whole : query (text.toList ++ []) = .read (.leaf criterion) [] := by
    rw [List.append_nil]
    exact disjunctionOf_single read (closed_nil blank)
  have solid : Stops isBlank (text.toList ++ []) := by
    rw [List.append_nil]
    exact Criterion.Reading.stops_isBlank_of_start begins
  exact readAll_of_read (List.append_nil _).symm blank blank solid whole

theorem criterion_of_read {text : String} (begins : kind.start.toList <+: text.toList)
    (read : NodeSpecification.read text = .ok (.leaf criterion)) :
    ∃ rest, Criterion.Reading.criterion (text.toList.length + 1) text.toList =
      .read criterion rest := by
  have solid := Criterion.Reading.stops_isBlank_of_start begins
  obtain ⟨_, disjunction⟩ := exists_of_readAll solid read
  obtain ⟨_, conjunction⟩ := item_of_clausesOf .or disjunction
  obtain ⟨rest, factor⟩ := item_of_clausesOf .and conjunction
  rw [factor_eq_criterion begins] at factor
  obtain ⟨_, done, same⟩ := exists_of_map factor
  cases same
  exact ⟨rest, done⟩

/-- A code in quotes is read, whichever it is. -/
theorem read_quotedCode (code : String) :
    NodeSpecification.read ("code:" ++ Quoted.encode code) = .ok (.leaf (.hasCode code)) := by
  have begins : (Criterion.hasCode code).start.toList <+:
      ("code:" ++ Quoted.encode code).toList := by
    rw [String.toList_append]
    exact List.prefix_append _ _
  refine read_of_criterion begins ?_
  have quoted := Criterion.Reading.quoted_append code []
  rw [List.append_nil] at quoted
  rw [String.toList_append]
  exact Criterion.Reading.criterionOver_of_field 3 0 rfl rfl (by decide)
    (firstOf_cons_of_read _ quoted)

/-- The id of a target is asked for as a criterion of its own where it is named in full. -/
theorem read_targetNodeId {name : String} (fits : Criterion.Reading.isCode name) (id : Uuid) :
    NodeSpecification.read ("r." ++ name ++ ".nodeId:" ++ id.text) =
      .ok (.leaf (.referencesSuch name (.hasId id))) := by
  have written : ("r." ++ name ++ ".nodeId:" ++ id.text).toList =
      "r.".toList ++ (name.toList ++ (".".toList ++ ("nodeId:".toList ++ id.text.toList))) := by
    rw [show ".nodeId:" = "." ++ "nodeId:" from rfl]
    simp only [String.toList_append, List.append_assoc]
  have begins : (Criterion.references name id).start.toList <+:
      ("r." ++ name ++ ".nodeId:" ++ id.text).toList := by
    rw [written]
    exact List.prefix_append _ _
  have room : ("r." ++ name ++ ".nodeId:" ++ id.text).toList.length =
      ("r." ++ name ++ ".nodeId:" ++ id.text).toList.length - 1 + 1 := by
    have opening : "r.".toList.length = 2 := rfl
    rw [written, List.length_append]
    omega
  have noId : Criterion.Reading.targetId.Misses ("nodeId:".toList ++ id.text.toList) :=
    before_misses _ (literal_misses (by decide) _)
  obtain ⟨place, noId⟩ := noId
  have uuid := Criterion.Reading.uuid_append id (stops_nil _)
  rw [List.append_nil] at uuid
  have target (nesting : Nat) : Criterion.Reading.criterion (nesting + 1)
      ("nodeId:".toList ++ id.text.toList) = .read (.hasId id) [] :=
    Criterion.Reading.criterionOver_of_field 0 2 rfl rfl (by decide) uuid
  refine read_of_criterion begins ?_
  rw [room, written]
  refine Criterion.Reading.criterionOver_of_alternative 9 rfl (by decide) ?_
  simp only [Criterion.Reading.reference, Criterion.Reading.referenceName_append fits,
    Outcome.andThen, noId, target, Outcome.map]

end

end Reading

/-- The leaves of a query are legible, however it was written. -/
theorem legible_of_read {text : String} {specification : NodeSpecification}
    (read : NodeSpecification.read text = .ok specification) : Legible specification :=
  (legibleWellFormed_of_read read).fits_of_mem_leaves

/-- A criterion is read back from its own text just if it is expressible. -/
theorem read_text_iff {criterion : Criterion} :
    NodeSpecification.read criterion.text = .ok (.leaf criterion) ↔
      criterion.expressible = true := by
  have reads {criterion : Criterion} (expressible : criterion.expressible) :
      NodeSpecification.read criterion.text = .ok (.leaf criterion) := by
    have done := Criterion.Reading.criterion_append expressible (Nat.lt_succ_self _)
      Criterion.Reading.ends_nil
    rw [List.append_nil] at done
    exact Reading.read_of_criterion criterion.start_isPrefix done
  refine ⟨fun read => ?_, reads⟩
  have legible : criterion.legible = true := legible_of_read read criterion List.mem_cons_self
  have unquoted : criterion.needsQuotes = false := by
    obtain ⟨rest, done⟩ := Reading.criterion_of_read criterion.start_isPrefix read
    refine Bool.eq_false_iff.mpr fun needs => ?_
    have shorter := Criterion.Reading.text_lt_of_needsQuotes done needs
    omega
  -- The same text is read as the criterion that asks for the id of the target directly.
  have same : criterion.reread = criterion := by
    have direct : criterion.reread.expressible = true := by
      rw [Criterion.expressible_eq, Criterion.legible_reread, Criterion.needsQuotes_reread,
        Criterion.asksTargetId_reread, legible, unquoted]
      rfl
    have again := reads direct
    rw [Criterion.text_reread, read] at again
    exact (Specification.leaf.inj (Except.ok.inj again)).symm
  rw [Criterion.expressible_eq, legible, unquoted, ← same, Criterion.asksTargetId_reread]
  rfl

/-- A leaf of a query is read back from its own text just if it needs no quotes and does not ask for
the id of a target as a criterion of its own. -/
theorem read_leafText_iff {text : String} {specification : NodeSpecification}
    (read : NodeSpecification.read text = .ok specification) {criterion : Criterion}
    (leaf : criterion ∈ specification.leaves) :
    NodeSpecification.read criterion.text = .ok (.leaf criterion) ↔
      criterion.needsQuotes = false ∧ criterion.asksTargetId = false := by
  rw [read_text_iff, Criterion.expressible_eq, legible_of_read read criterion leaf, Bool.true_and,
    Bool.and_eq_true, Bool.not_eq_true', Bool.not_eq_true']

/-- A code that needs no quotes may have been written in some. -/
theorem read_leafText_iff_quoted :
    NodeSpecification.read "code:\"DE\"" = .ok (.leaf (.hasCode "DE")) ∧
      NodeSpecification.read "code:DE" = .ok (.leaf (.hasCode "DE")) :=
  ⟨Reading.read_quotedCode "DE",
    (read_leafText_iff (Reading.read_quotedCode "DE") List.mem_cons_self).mpr ⟨by decide, rfl⟩⟩

/-- A code with a blank loses its quotes, and the id of a target its full name. -/
theorem read_leafText_lost :
    (NodeSpecification.read "code:\"a b\"" = .ok (.leaf (.hasCode "a b")) ∧
      NodeSpecification.read (Criterion.hasCode "a b").text ≠ .ok (.leaf (.hasCode "a b"))) ∧
    (NodeSpecification.read ("r.a.nodeId:" ++ (Uuid.ofNat 1).text) =
        .ok (.leaf (.referencesSuch "a" (.hasId (.ofNat 1)))) ∧
      NodeSpecification.read (Criterion.referencesSuch "a" (.hasId (.ofNat 1))).text ≠
        .ok (.leaf (.referencesSuch "a" (.hasId (.ofNat 1))))) := by
  refine ⟨⟨Reading.read_quotedCode "a b", ?_⟩, ?_, ?_⟩
  · rw [Ne, read_text_iff]
    decide
  · rw [show "r.a.nodeId:" = "r." ++ "a" ++ ".nodeId:" from rfl]
    exact Reading.read_targetNodeId (by decide) (.ofNat 1)
  · rw [Ne, read_text_iff]
    decide

end NodeQuery.Specification
