import NodeQuery.Proofs.OrderedMap
import NodeQuery.Proofs.Search.DocumentSet
import NodeQuery.Search.Index

/-! Posting and withdrawing documents. All that matters of the postings is which numbers stand under
which term of which field, and that no term is kept without a number. -/

namespace NodeQuery.Search.Index

/-- The numbers that stand under a term of a field. -/
def posted (fields : OrderedMap String Postings) (field term : String) : DocumentSet :=
  ((fields.get? field).bind (·.get? term)).getD .empty

/-- Every term that is kept has a number under it. -/
def Occupied (fields : OrderedMap String Postings) : Prop :=
  ∀ field postings, fields.get? field = some postings →
    ∀ term numbers, postings.get? term = some numbers → ∃ number, number ∈ numbers

theorem posted_eq_of_get? {fields : OrderedMap String Postings} {field : String}
    {postings : Postings} (found : fields.get? field = some postings) (term : String) :
    posted fields field term = (postings.get? term).getD .empty := by
  simp [posted, found]

theorem mem_posted_post {fields : OrderedMap String Postings} {field term other value : String}
    {number member : Nat} :
    member ∈ posted (post fields field term number) other value ↔
      member ∈ posted fields other value ∨
        (member = number ∧ other = field ∧ value = term) := by
  by_cases sameField : other = field
  · subst sameField
    cases found : fields.get? other with
    | none =>
      by_cases sameTerm : value = term <;> simp [posted, post, found, sameTerm]
    | some postings =>
      by_cases sameTerm : value = term <;> simp [posted, post, found, sameTerm, or_comm]
  · simp [posted, post, sameField]

theorem occupied_post {fields : OrderedMap String Postings} (occupied : Occupied fields)
    (field term : String) (number : Nat) : Occupied (post fields field term number) := by
  intro other postings foundField value numbers foundTerm
  simp only [post, OrderedMap.get?_upsert] at foundField
  split at foundField
  · cases foundField
    rw [OrderedMap.get?_upsert] at foundTerm
    split at foundTerm
    · cases foundTerm
      exact ⟨number, by simp⟩
    · cases known : fields.get? field with
      | none => simp [known] at foundTerm
      | some old => exact occupied field old known value numbers (by simpa [known] using foundTerm)
  · exact occupied other postings foundField value numbers foundTerm

theorem Postings.getD_withdraw (postings : Postings) (term value : String) (number : Nat) :
    ((Postings.withdraw postings term number).get? value).getD .empty =
      if value = term then ((postings.get? term).getD .empty).erase number
      else (postings.get? value).getD .empty := by
  have nothingLeft (numbers : DocumentSet) (left : (numbers.erase number).isEmpty = true) :
      numbers.erase number = .empty :=
    DocumentSet.ext fun member => by simp [DocumentSet.isEmpty_iff.mp left]
  unfold Postings.withdraw
  cases found : postings.get? term with
  | none =>
    by_cases same : value = term
    · subst same
      simp [found]
      exact (nothingLeft .empty rfl).symm
    · simp [same]
  | some numbers =>
    by_cases left : (numbers.erase number).isEmpty = true
    · simp only [if_pos left, OrderedMap.get?_erase]
      split
      · simp [nothingLeft numbers left]
      · rfl
    · simp only [if_neg left, OrderedMap.get?_insert]
      split <;> rfl

theorem mem_posted_withdraw {fields : OrderedMap String Postings}
    {field term other value : String} {number member : Nat} :
    member ∈ posted (withdraw fields field term number) other value ↔
      member ∈ posted fields other value ∧
        ¬(member = number ∧ other = field ∧ value = term) := by
  unfold withdraw
  cases found : fields.get? field with
  | none =>
    by_cases same : other = field
    · subst same
      simp [posted, found]
    · simp [same]
  | some postings =>
    by_cases sameField : other = field
    · subst sameField
      have updated : (fields.insert other (Postings.withdraw postings term number)).get? other =
          some (Postings.withdraw postings term number) := by simp
      rw [posted_eq_of_get? updated, posted_eq_of_get? found, Postings.getD_withdraw]
      by_cases sameTerm : value = term
      · simp [sameTerm]
      · simp [sameTerm]
    · simp [posted, sameField]

theorem occupied_withdraw {fields : OrderedMap String Postings} (occupied : Occupied fields)
    (field term : String) (number : Nat) : Occupied (withdraw fields field term number) := by
  unfold withdraw
  cases known : fields.get? field with
  | none => exact occupied
  | some old =>
    intro other postings foundField value numbers foundTerm
    simp only [OrderedMap.get?_insert] at foundField
    split at foundField
    · cases foundField
      have before := occupied field old known
      unfold Postings.withdraw at foundTerm
      split at foundTerm
      · exact before value numbers foundTerm
      · next listed _ =>
        by_cases left : (listed.erase number).isEmpty = true
        · simp only [if_pos left, OrderedMap.get?_erase] at foundTerm
          split at foundTerm
          · cases foundTerm
          · exact before value numbers foundTerm
        · simp only [if_neg left, OrderedMap.get?_insert] at foundTerm
          split at foundTerm
          · cases foundTerm
            by_contra none
            exact left (DocumentSet.isEmpty_iff.mpr (not_exists.mp none))
          · exact before value numbers foundTerm
    · exact occupied other postings foundField value numbers foundTerm

/-- Posting a document adds its number under each of its entries. -/
theorem mem_posted_postAll {document : Document} {fields : OrderedMap String Postings}
    {number member : Nat} {field term : String} :
    member ∈ posted (document.foldl
        (fun fields (field, term) => post fields field term number) fields) field term ↔
      member ∈ posted fields field term ∨ (member = number ∧ (field, term) ∈ document) := by
  induction document generalizing fields with
  | nil => simp
  | cons entry document ih =>
    rw [List.foldl_cons, ih, mem_posted_post, List.mem_cons, Prod.ext_iff, or_assoc, ← and_or_left]

theorem occupied_postAll (document : Document) {fields : OrderedMap String Postings}
    (occupied : Occupied fields) (number : Nat) :
    Occupied (document.foldl
      (fun fields (field, term) => post fields field term number) fields) := by
  induction document generalizing fields with
  | nil => exact occupied
  | cons entry document ih => exact ih (occupied_post occupied entry.1 entry.2 number)

/-- Withdrawing a document takes its number away under each of its entries, also where the document
lists one of them several times. -/
theorem mem_posted_withdrawAll {document : Document} {fields : OrderedMap String Postings}
    {number member : Nat} {field term : String} :
    member ∈ posted (document.foldl
        (fun fields (field, term) => withdraw fields field term number) fields) field term ↔
      member ∈ posted fields field term ∧ ¬(member = number ∧ (field, term) ∈ document) := by
  induction document generalizing fields with
  | nil => simp
  | cons entry document ih =>
    rw [List.foldl_cons, ih, mem_posted_withdraw, List.mem_cons, Prod.ext_iff, and_assoc,
      and_or_left, not_or]

theorem occupied_withdrawAll (document : Document) {fields : OrderedMap String Postings}
    (occupied : Occupied fields) (number : Nat) :
    Occupied (document.foldl
      (fun fields (field, term) => withdraw fields field term number) fields) := by
  induction document generalizing fields with
  | nil => exact occupied
  | cons entry document ih => exact ih (occupied_withdraw occupied entry.1 entry.2 number)

end NodeQuery.Search.Index
