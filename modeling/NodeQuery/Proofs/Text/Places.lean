import NodeQuery.Proofs.Text.Reader

/-! Places in a text. A reader leaves an end of the text that it is given, and fails at one,
whatever it is made of; so a reading that fails tells where in the text that was. -/

namespace NodeQuery.Text

section

variable {α β : Type} {text : List Char}

/-- What is left of the text is an end of it, and so is the place of a failure. -/
def Outcome.Within (text : List Char) : Outcome α → Prop
  | .read _ rest => rest <:+ text
  | .missed place => place <:+ text
  | .refused place => place <:+ text

namespace Outcome.Within

variable {outcome : Outcome α}

theorem trans {rest : List Char} (within : outcome.Within rest) (inside : rest <:+ text) :
    outcome.Within text := by
  cases outcome with
  | read value left => exact List.IsSuffix.trans within inside
  | missed place => exact List.IsSuffix.trans within inside
  | refused place => exact List.IsSuffix.trans within inside

theorem map {f : α → β} (within : outcome.Within text) : (outcome.map f).Within text := by
  cases outcome <;> exact within

theorem andThen {next : α → Reader β} (within : outcome.Within text)
    (later : ∀ value rest, (next value rest).Within rest) : (outcome.andThen next).Within text := by
  cases outcome with
  | read value rest => exact (later value rest).trans within
  | missed place => exact within
  | refused place => exact within

end Outcome.Within

namespace Reader

/-- The reader goes forward in every text. -/
def Advances (reader : Reader α) : Prop := ∀ text, (reader text).Within text

theorem Advances.of_eq {reader : Reader α} (advances : Advances reader) {outcome : Outcome α}
    (done : reader text = outcome) : outcome.Within text :=
  done ▸ advances text

variable {reader : Reader α} {other : Reader β}

theorem advances_map (f : α → β) (advances : Advances reader) : Advances (map f reader) :=
  fun text => (advances text).map

theorem advances_before (advances : Advances reader) (next : Advances other) :
    Advances (before reader other) :=
  fun text => (advances text).andThen fun _ => next

theorem advances_followedBy (advances : Advances reader) (next : Advances other) :
    Advances (followedBy reader other) :=
  fun text => (advances text).andThen fun _ rest => (next rest).map

theorem advances_literal (expected : String) : Advances (literal expected) := by
  intro text
  unfold literal
  split
  · next found =>
    exact ⟨expected.toList, List.isPrefixOf?_eq_some_iff_append_eq.mp found⟩
  · exact List.suffix_refl text

theorem advances_run (accepts : Char → Bool) : Advances (run accepts) := by
  intro text
  unfold run
  split
  · exact List.suffix_refl text
  · exact List.dropWhile_suffix accepts

theorem advances_mapIf (f : α → Option β) (advances : Advances reader) :
    Advances (mapIf f reader) := by
  intro text
  unfold mapIf
  split
  · next done =>
    split
    · exact advances.of_eq done
    · exact List.suffix_refl text
  · next done => exact advances.of_eq done
  · next done => exact advances.of_eq done

theorem advances_firstOf {readers : List (Reader α)}
    (each : ∀ reader ∈ readers, Advances reader) : Advances (firstOf readers) := by
  intro text
  induction readers with
  | nil => exact List.suffix_refl text
  | cons reader others ih =>
    rw [List.forall_mem_cons] at each
    cases others with
    | nil => exact each.1 text
    | cons next others =>
      unfold firstOf
      cases done : reader text with
      | read value rest => exact each.1.of_eq done
      | missed place => exact ih each.2
      | refused place => exact each.1.of_eq done

theorem advances_either {second : Reader α} (advances : Advances reader)
    (advancesToo : Advances second) : Advances (firstOf [reader, second]) :=
  advances_firstOf
    (List.forall_mem_cons.mpr ⟨advances, List.forall_mem_singleton.mpr advancesToo⟩)

theorem advances_spelling (spellings : List String) :
    Advances (firstOf (spellings.map literal)) :=
  advances_firstOf (List.forall_mem_map.mpr fun _ _ => advances_literal _)

theorem advances_optional (advances : Advances reader) : Advances (optional reader) := by
  intro text
  unfold optional
  split
  · next done => exact advances.of_eq done
  · exact List.suffix_refl text
  · next done => exact advances.of_eq done

theorem advances_ahead (advances : Advances reader) : Advances (ahead reader) := by
  intro text
  unfold ahead
  split
  · exact List.suffix_refl text
  · exact advances text

theorem advances_notNext (excluded : Char → Bool) : Advances (notNext excluded) := by
  intro text
  unfold notNext
  split
  · exact List.suffix_refl []
  · split <;> exact List.suffix_refl _

theorem advances_blanks : Advances blanks := fun _ => List.dropWhile_suffix isBlank

theorem advances_someBlanks : Advances someBlanks := advances_map _ (advances_run isBlank)

section

variable {separator : Reader Unit} (between : Advances separator) (advances : Advances reader)

include between advances

theorem advances_furtherItems : Advances (furtherItems separator reader) := by
  intro text
  fun_induction furtherItems separator reader text with
  | case1 | case3 => exact List.suffix_refl _
  | case2 text place refused => exact between.of_eq refused
  | case4 text _ after parted place refused =>
    exact (advances.of_eq refused).trans (between.of_eq parted)
  | case5 text _ after parted value rest read shorter ih =>
    exact (ih.trans ((advances.of_eq read).trans (between.of_eq parted))).map
  | case6 text _ after parted value rest read longer =>
    exact (advances.of_eq read).trans (between.of_eq parted)

theorem advances_separated : Advances (separated separator reader) :=
  fun text => (advances text).andThen fun _ rest =>
    (advances_furtherItems between advances rest).map

theorem advances_separatedIfAny : Advances (separatedIfAny separator reader) := by
  intro text
  unfold separatedIfAny
  split
  · next rest done =>
    exact ((advances_furtherItems between advances rest).trans (advances.of_eq done)).map
  · exact List.suffix_refl text
  · next done => exact advances.of_eq done

end

theorem advances_whole (advances : Advances reader) : Advances (whole reader) := by
  have padded : Advances (followedBy (before blanks reader) blanks) :=
    advances_followedBy (advances_before advances_blanks advances) advances_blanks
  intro text
  apply (padded text).andThen
  intro value rest
  split
  · exact List.nil_suffix
  · exact List.suffix_refl rest

end Reader

end

theorem utf8Length_append (front back : List Char) :
    utf8Length (front ++ back) = utf8Length front + utf8Length back := by
  induction front with
  | nil => rw [List.nil_append, utf8Length, Nat.zero_add]
  | cons char front ih => rw [List.cons_append, utf8Length, utf8Length, ih, Nat.add_assoc]

theorem utf8Length_eq (letters : List Char) :
    utf8Length letters = (String.ofList letters).utf8ByteSize := by
  induction letters with
  | nil => rfl
  | cons char letters ih =>
    rw [utf8Length, ih, String.ofList_cons, String.utf8ByteSize_append,
      String.utf8ByteSize_singleton]

/-- The text falls in two where the reading failed: the offset is the length of the first part in
bytes, and the fragment the beginning of the second, or says that there is none. -/
def Misreading.PointsInto (misreading : Misreading) (text : String) : Prop :=
  ∃ before after : String, text = before ++ after ∧
    misreading.offset = before.utf8ByteSize ∧
    misreading.fragment =
      if after = "" then "<end of input>" else String.ofList (after.toList.take 24)

theorem Misreading.at_pointsInto {text : String} {place : List Char}
    (inside : place <:+ text.toList) : (Misreading.at text.toList place).PointsInto text := by
  obtain ⟨passed, laid⟩ := inside
  have parts : text = String.ofList passed ++ String.ofList place := by
    rw [← String.ofList_append, laid, String.ofList_toList]
  refine ⟨String.ofList passed, String.ofList place, parts, ?_, ?_⟩
  · rw [Misreading.at, ← laid, utf8Length_append, utf8Length_eq passed, Nat.add_sub_cancel]
  · cases place with
    | nil => rfl
    | cons char place =>
      have some : String.ofList (char :: place) ≠ "" := by simp
      rw [if_neg some, String.toList_ofList]
      rfl

/-- A text that is not readable is so at a place in it. -/
theorem Reader.pointsInto_of_readAll {α : Type} {reader : Reader α} {text : String}
    {misreading : Misreading} (advances : Advances reader)
    (failed : reader.readAll text = .error misreading) : misreading.PointsInto text := by
  have whole := advances_whole advances
  unfold readAll at failed
  split at failed
  · cases failed
  · next done =>
    cases failed
    exact Misreading.at_pointsInto (whole.of_eq done)
  · next done =>
    cases failed
    exact Misreading.at_pointsInto (whole.of_eq done)

end NodeQuery.Text
