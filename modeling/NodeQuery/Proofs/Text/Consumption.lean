import NodeQuery.Proofs.Text.Reader

/-! How much of a text a reader takes. A reading that was made is traced back to the readings in a
row that it consists of, or to the alternative that made it. -/

namespace NodeQuery.Text.Reader

variable {α β : Type} {text rest : List Char} {value : α} {other : β}

theorem exists_of_andThen {outcome : Outcome α} {next : α → Reader β}
    (done : outcome.andThen next = .read other rest) :
    ∃ value middle, outcome = .read value middle ∧ next value middle = .read other rest := by
  cases outcome with
  | read value middle => exact ⟨value, middle, rfl, done⟩
  | missed place => cases done
  | refused place => cases done

theorem exists_of_map {outcome : Outcome α} {f : α → β} (done : outcome.map f = .read other rest) :
    ∃ value, outcome = .read value rest ∧ f value = other := by
  cases outcome with
  | read value middle =>
    obtain ⟨rfl, rfl⟩ := Outcome.read.inj done
    exact ⟨value, rfl, rfl⟩
  | missed place => cases done
  | refused place => cases done

theorem exists_of_firstOf {readers : List (Reader α)}
    (done : firstOf readers text = .read value rest) :
    ∃ reader ∈ readers, reader text = .read value rest := by
  induction readers with
  | nil => cases done
  | cons reader others ih =>
    cases others with
    | nil => exact ⟨reader, List.mem_cons_self, done⟩
    | cons next others =>
      simp only [firstOf] at done
      cases first : reader text with
      | read found after =>
        rw [first] at done
        exact ⟨reader, List.mem_cons_self, first.trans done⟩
      | missed place =>
        rw [first] at done
        obtain ⟨reader, member, found⟩ := ih done
        exact ⟨reader, List.mem_cons_of_mem _ member, found⟩
      | refused place =>
        rw [first] at done
        cases done

/-- What is read as a whole text is read from where the blanks end. -/
theorem exists_of_readAll {reader : Reader α} {text : String} (solid : Stops isBlank text.toList)
    (done : reader.readAll text = .ok value) : ∃ rest, reader text.toList = .read value rest := by
  unfold readAll at done
  split at done
  · next found after read =>
    cases done
    obtain ⟨given, middle, begun, ended⟩ := exists_of_andThen read
    obtain ⟨given, rest, inner, closed⟩ := exists_of_andThen begun
    obtain ⟨_, -, rfl⟩ := exists_of_map closed
    rw [before_eq _ (blanks_of_stops solid)] at inner
    split at ended
    · obtain ⟨rfl, -⟩ := Outcome.read.inj ended
      exact ⟨rest, inner⟩
    · cases ended
  · cases done
  · cases done

/-- From every text that the reader reads a value of, it takes at least so many characters. -/
def Spends (reader : Reader α) (cost : α → Nat) : Prop :=
  ∀ text value rest, reader text = .read value rest → cost value + rest.length ≤ text.length

theorem spends_map {reader : Reader α} {f : α → β} {cost : β → Nat}
    (spends : Spends reader fun value => cost (f value)) : Spends (map f reader) cost := by
  intro text result rest done
  obtain ⟨value, found, rfl⟩ := exists_of_map done
  exact spends text value rest found

theorem spends_before {first : Reader α} {second : Reader β} {least : Nat} {cost : β → Nat}
    (firstSpends : Spends first fun _ => least) (secondSpends : Spends second cost) :
    Spends (before first second) fun value => least + cost value := by
  intro text value rest done
  obtain ⟨opening, middle, begun, ended⟩ := exists_of_andThen done
  calc least + cost value + rest.length
      = least + (cost value + rest.length) := Nat.add_assoc _ _ _
    _ ≤ least + middle.length := Nat.add_le_add_left (secondSpends middle value rest ended) _
    _ ≤ text.length := firstSpends text opening middle begun

theorem spends_followedBy {first : Reader α} {second : Reader β} {cost : α → Nat} {least : Nat}
    (firstSpends : Spends first cost) (secondSpends : Spends second fun _ => least) :
    Spends (followedBy first second) fun value => cost value + least := by
  intro text value rest done
  obtain ⟨found, middle, begun, closed⟩ := exists_of_andThen done
  obtain ⟨closing, ended, rfl⟩ := exists_of_map closed
  calc cost found + least + rest.length
      = cost found + (least + rest.length) := Nat.add_assoc _ _ _
    _ ≤ cost found + middle.length := Nat.add_le_add_left (secondSpends middle closing rest ended) _
    _ ≤ text.length := firstSpends text found middle begun

theorem spends_firstOf {readers : List (Reader α)} {cost : α → Nat}
    (each : ∀ reader ∈ readers, Spends reader cost) : Spends (firstOf readers) cost := by
  intro text value rest done
  obtain ⟨reader, member, done⟩ := exists_of_firstOf done
  exact each reader member text value rest done

theorem spends_literal (expected : String) :
    Spends (literal expected) fun _ => expected.toList.length := by
  intro text value rest done
  unfold literal at done
  split at done
  · next after found =>
    obtain ⟨-, rfl⟩ := Outcome.read.inj done
    rw [← List.isPrefixOf?_eq_some_iff_append_eq.mp found, List.length_append]
  · cases done

/-- A choice of spellings takes the shortest of them at least. -/
theorem spends_spelling {spellings : List String} {least : Nat}
    (long : ∀ spelling ∈ spellings, least ≤ spelling.toList.length) :
    Spends (firstOf (spellings.map literal)) fun _ => least := by
  refine spends_firstOf (List.forall_mem_map.mpr fun spelling member text value rest done => ?_)
  exact (Nat.add_le_add_right (long spelling member) _).trans
    (spends_literal spelling text value rest done)

theorem spends_run (accepts : Char → Bool) : Spends (run accepts) List.length := by
  intro text value rest done
  have whole := congrArg List.length (text.takeWhile_append_dropWhile (p := accepts))
  rw [List.length_append] at whole
  unfold run at done
  split at done
  · cases done
  · obtain ⟨rfl, rfl⟩ := Outcome.read.inj done
    exact whole.le

end NodeQuery.Text.Reader
