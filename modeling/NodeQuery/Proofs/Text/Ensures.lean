import NodeQuery.Proofs.Text.Reader

/-! What is known of the values that readers give, whatever the text. -/

namespace NodeQuery.Text

section

variable {α β : Type} {good : α → Prop} {other : β → Prop}

/-- A value that has been read is good. -/
def Outcome.Ensures (good : α → Prop) : Outcome α → Prop
  | .read value _ => good value
  | .missed _ => True
  | .refused _ => True

namespace Outcome.Ensures

variable {outcome : Outcome α}

theorem mono {fine : α → Prop} (ensured : outcome.Ensures good)
    (imp : ∀ value, good value → fine value) : outcome.Ensures fine := by
  cases outcome with
  | read value rest => exact imp value ensured
  | missed place => trivial
  | refused place => trivial

theorem map {f : α → β} (ensured : outcome.Ensures fun value => other (f value)) :
    (outcome.map f).Ensures other := by
  cases outcome with
  | read value rest => exact ensured
  | missed place => trivial
  | refused place => trivial

theorem andThen {next : α → Reader β} (ensured : outcome.Ensures good)
    (later : ∀ value, good value → ∀ rest, (next value rest).Ensures other) :
    (outcome.andThen next).Ensures other := by
  cases outcome with
  | read value rest => exact later value ensured rest
  | missed place => trivial
  | refused place => trivial

end Outcome.Ensures

namespace Reader

variable {reader : Reader α}

/-- All values that the reader gives are good. -/
def Yields (reader : Reader α) (good : α → Prop) : Prop := ∀ text, (reader text).Ensures good

theorem Yields.of_read {text rest : List Char} {value : α} (yields : Yields reader good)
    (done : reader text = .read value rest) : good value := by
  have ensured := yields text
  rwa [done] at ensured

theorem yields_any (reader : Reader α) : Yields reader fun _ => True := by
  intro text
  cases reader text <;> trivial

theorem yields_map {f : α → β} (yields : Yields reader fun value => other (f value)) :
    Yields (map f reader) other :=
  fun text => (yields text).map

theorem yields_before (first : Reader β) (yields : Yields reader good) :
    Yields (before first reader) good :=
  fun text => (yields_any first text).andThen fun _ _ => yields

theorem yields_followedBy (yields : Yields reader good) (second : Reader β) :
    Yields (followedBy reader second) good :=
  fun text => (yields text).andThen fun _ fits rest =>
    .map ((yields_any second rest).mono fun _ _ => fits)

theorem yields_run (accepts : Char → Bool) :
    Yields (run accepts) fun letters => letters ≠ [] ∧ ∀ char ∈ letters, accepts char = true := by
  intro text
  unfold run
  split
  · trivial
  · next nonempty => exact ⟨nonempty, fun _ member => List.mem_takeWhile_imp member⟩

theorem yields_mapIf {f : α → Option β} (yields : Yields reader good)
    (fits : ∀ value, good value → ∀ result, f value = some result → other result) :
    Yields (mapIf f reader) other := by
  intro text
  have ensured := yields text
  unfold mapIf
  split
  · next value _ read =>
    rw [read] at ensured
    split
    · next result converted => exact fits value ensured result converted
    · trivial
  · trivial
  · trivial

theorem yields_optional (yields : Yields reader good) :
    Yields (optional reader) fun value => ∀ given ∈ value, good given := by
  intro text
  have ensured := yields text
  unfold optional
  split
  · next result =>
    rw [result] at ensured
    rintro _ ⟨⟩
    exact ensured
  · rintro _ ⟨⟩
  · trivial

theorem yields_firstOf {readers : List (Reader α)} (each : ∀ reader ∈ readers, Yields reader good) :
    Yields (firstOf readers) good := by
  intro text
  induction readers with
  | nil => trivial
  | cons reader others ih =>
    rw [List.forall_mem_cons] at each
    cases others with
    | nil => exact each.1 text
    | cons next others =>
      have first := each.1 text
      cases result : reader text with
      | read value rest =>
        rw [result] at first
        simpa only [firstOf, result, Outcome.orElse] using first
      | missed place => simpa only [firstOf, result, Outcome.orElse] using ih each.2
      | refused place =>
        simp only [firstOf, result, Outcome.orElse]
        trivial

theorem ensures_furtherItems (yields : Yields reader good) (separator : Reader Unit)
    (text : List Char) :
    (furtherItems separator reader text).Ensures fun values => ∀ value ∈ values, good value := by
  fun_induction furtherItems separator reader text with
  | case1 | case3 => exact List.forall_mem_nil _
  | case2 | case4 => trivial
  | case5 text _ afterSeparator _ value rest read shorter ih =>
    have first := yields afterSeparator
    rw [read] at first
    exact .map (ih.mono fun values others => List.forall_mem_cons.mpr ⟨first, others⟩)
  | case6 text _ afterSeparator _ value rest read longer =>
    have first := yields afterSeparator
    rw [read] at first
    exact List.forall_mem_singleton.mpr first

theorem yields_separated (yields : Yields reader good) (separator : Reader Unit) :
    Yields (separated separator reader) fun values =>
      values ≠ [] ∧ ∀ value ∈ values, good value :=
  fun text => (yields text).andThen fun _ first rest =>
    .map ((ensures_furtherItems yields separator rest).mono fun _ others =>
      ⟨List.cons_ne_nil _ _, List.forall_mem_cons.mpr ⟨first, others⟩⟩)

theorem yields_separatedIfAny (yields : Yields reader good) (separator : Reader Unit) :
    Yields (separatedIfAny separator reader) fun values => ∀ value ∈ values, good value := by
  intro text
  have first := yields text
  unfold separatedIfAny
  split
  · next value rest read =>
    rw [read] at first
    exact .map ((ensures_furtherItems yields separator rest).mono fun values others =>
      List.forall_mem_cons.mpr ⟨first, others⟩)
  · exact List.forall_mem_nil _
  · trivial

theorem good_of_readAll {text : String} {value : α} (yields : Yields reader good)
    (done : reader.readAll text = .ok value) : good value := by
  have all : (reader.whole text.toList).Ensures good := by
    refine (yields_followedBy (yields_before blanks yields) blanks text.toList).andThen ?_
    intro value fits rest
    split
    · exact fits
    · trivial
  unfold readAll at done
  split at done
  · next result =>
    cases done
    rwa [result] at all
  · cases done
  · cases done

end Reader

end

end NodeQuery.Text
