import NodeQuery.Proofs.Search.Representation
import NodeQuery.Proofs.Text.Order

/-! What the search index finds. A query is read on one document at a time, as it is meant; the
index finds exactly the live documents of which the query is true. Terms stand in order, so that the
terms with a common beginning, and those between two bounds, are neighbours and found by a scan. -/

namespace NodeQuery.Search

/-- What holds of every boolean query once it holds of its clauses holds of every query. -/
theorem Query.inductionOn {motive : Query → Prop} (query : Query)
    (everything : motive .everything) (term : ∀ field value, motive (.term field value))
    (starts : ∀ field start, motive (.starts field start))
    (between : ∀ field lower upper, motive (.between field lower upper))
    (exists_ : ∀ field, motive (.exists field))
    (boolean : ∀ clauses, (∀ clause ∈ clauses, motive clause.2) → motive (.boolean clauses)) :
    motive query :=
  Query.rec (motive_1 := motive) (motive_2 := fun clauses => ∀ clause ∈ clauses, motive clause.2)
    (motive_3 := fun clause => motive clause.2)
    everything term starts between exists_ boolean
    (fun _ member => absurd member List.not_mem_nil)
    (fun _ _ head tail clause member =>
      match List.mem_cons.mp member with
      | .inl same => same ▸ head
      | .inr later => tail clause later)
    (fun _ _ inner => inner)
    query

mutual

/-- Whether a query is true of a document. Optional clauses matter only without required ones. -/
def Query.Matches (document : Document) : Query → Prop
  | .everything => True
  | .term field value => (field, value) ∈ document
  | .starts field start => ∃ term, (field, term) ∈ document ∧ start.toList <+: term.toList
  | .between field lower upper => ∃ term, (field, term) ∈ document ∧
      (∀ bound ∈ lower, bound ≤ term) ∧ ∀ bound ∈ upper, term ≤ bound
  | .exists field => ∃ term, (field, term) ∈ document
  | .boolean clauses =>
    (if ∃ clause ∈ clauses, clause.1 = .must then Query.AllMatch document .must clauses
      else Query.AnyMatches document .should clauses) ∧
    ¬Query.AnyMatches document .mustNot clauses

/-- Whether all clauses of a kind are true. -/
def Query.AllMatch (document : Document) (kind : Occurrence) :
    List (Occurrence × Query) → Prop
  | [] => True
  | (occurrence, query) :: clauses =>
    (occurrence = kind → Query.Matches document query) ∧ Query.AllMatch document kind clauses

/-- Whether some clause of a kind is true. -/
def Query.AnyMatches (document : Document) (kind : Occurrence) :
    List (Occurrence × Query) → Prop
  | [] => False
  | (occurrence, query) :: clauses =>
    (occurrence = kind ∧ Query.Matches document query) ∨ Query.AnyMatches document kind clauses

end

namespace Query

instance decidableTerm (document : Document) (field : String) (wanted : String → Prop)
    [DecidablePred wanted] : Decidable (∃ term, (field, term) ∈ document ∧ wanted term) :=
  decidable_of_iff (∃ entry ∈ document, entry.1 = field ∧ wanted entry.2)
    ⟨fun ⟨(_, held), member, same, meets⟩ => ⟨held, same ▸ member, meets⟩,
      fun ⟨held, member, meets⟩ => ⟨(field, held), member, rfl, meets⟩⟩

mutual

def decidableMatches (document : Document) : (query : Query) → Decidable (query.Matches document)
  | .everything => .isTrue trivial
  | .term field value => inferInstanceAs (Decidable ((field, value) ∈ document))
  | .starts field start => decidableTerm document field (start.toList <+: ·.toList)
  | .between field lower upper => decidableTerm document field fun term =>
      (∀ bound ∈ lower, bound ≤ term) ∧ ∀ bound ∈ upper, term ≤ bound
  | .exists field => decidable_of_iff (field ∈ document.map (·.1)) (by simp [Matches])
  | .boolean clauses =>
    have := decidableAllMatch document .must clauses
    have := decidableAnyMatches document .should clauses
    have := decidableAnyMatches document .mustNot clauses
    inferInstanceAs (Decidable (_ ∧ _))

def decidableAllMatch (document : Document) (kind : Occurrence) :
    (clauses : List (Occurrence × Query)) → Decidable (AllMatch document kind clauses)
  | [] => .isTrue trivial
  | (_, query) :: clauses =>
    have := decidableMatches document query
    have := decidableAllMatch document kind clauses
    inferInstanceAs (Decidable ((_ → _) ∧ _))

def decidableAnyMatches (document : Document) (kind : Occurrence) :
    (clauses : List (Occurrence × Query)) → Decidable (AnyMatches document kind clauses)
  | [] => .isFalse id
  | (_, query) :: clauses =>
    have := decidableMatches document query
    have := decidableAnyMatches document kind clauses
    inferInstanceAs (Decidable (_ ∧ _ ∨ _))

end

instance (document : Document) (query : Query) : Decidable (query.Matches document) :=
  decidableMatches document query

theorem allMatch_iff {document : Document} {kind : Occurrence}
    {clauses : List (Occurrence × Query)} : AllMatch document kind clauses ↔
      ∀ clause ∈ clauses, clause.1 = kind → clause.2.Matches document := by
  induction clauses with
  | nil => simp [AllMatch]
  | cons clause clauses ih => simp only [AllMatch, ih, List.forall_mem_cons]

theorem anyMatches_iff {document : Document} {kind : Occurrence}
    {clauses : List (Occurrence × Query)} : AnyMatches document kind clauses ↔
      ∃ clause ∈ clauses, clause.1 = kind ∧ clause.2.Matches document := by
  induction clauses with
  | nil => simp [AnyMatches]
  | cons clause clauses ih => simp only [AnyMatches, ih, List.mem_cons, exists_eq_or_imp]

@[simp] theorem matches_everything (document : Document) : everything.Matches document := trivial

@[simp] theorem matches_nothing (document : Document) : ¬nothing.Matches document := by
  simp [nothing, Matches, AnyMatches]

@[simp] theorem matches_without {document : Document} {query : Query} :
    query.without.Matches document ↔ ¬query.Matches document := by
  simp [without, Matches, AllMatch, AnyMatches]

/-- No queries at all match nothing. -/
theorem matches_allOf {document : Document} {queries : List Query} :
    (allOf queries).Matches document ↔
      queries ≠ [] ∧ ∀ query ∈ queries, query.Matches document := by
  cases queries with
  | nil => simp [allOf, Matches, AnyMatches]
  | cons first rest => simp [allOf, Matches, allMatch_iff, anyMatches_iff]

theorem matches_anyOf {document : Document} {queries : List Query} :
    (anyOf queries).Matches document ↔ ∃ query ∈ queries, query.Matches document := by
  simp [anyOf, Matches, anyMatches_iff]

end Query

section Scanning

theorem dropWhile_eq_filter {α : Type} {before : α → α → Prop} (reached : α → Bool) {items : List α}
    (ordered : items.Pairwise before)
    (upward : ∀ earlier later, before earlier later → reached earlier = true →
      reached later = true) :
    (items.dropWhile fun item => !reached item) = items.filter reached := by
  induction items with
  | nil => rfl
  | cons item items ih =>
    rw [List.pairwise_cons] at ordered
    cases here : reached item with
    | false =>
      rw [List.dropWhile_cons_of_pos (by simp [here]), ih ordered.2,
        List.filter_cons_of_neg (by simp [here])]
    | true =>
      have all : ∀ later ∈ item :: items, reached later = true := by
        intro later member
        rcases List.mem_cons.mp member with rfl | member
        · exact here
        · exact upward item later (ordered.1 later member) here
      rw [List.dropWhile_cons_of_neg (by simp [here]), List.filter_eq_self.mpr all]

theorem takeWhile_eq_filter {α : Type} {before : α → α → Prop} {within : α → Bool} {items : List α}
    (ordered : items.Pairwise before)
    (downward : ∀ earlier ∈ items, ∀ later ∈ items, before earlier later → within later = true →
      within earlier = true) :
    items.takeWhile within = items.filter within := by
  induction items with
  | nil => rfl
  | cons item items ih =>
    rw [List.pairwise_cons] at ordered
    cases here : within item with
    | true =>
      rw [List.takeWhile_cons_of_pos here, List.filter_cons_of_pos here, ih ordered.2]
      exact fun earlier first later second => downward earlier (List.mem_cons_of_mem _ first) later
        (List.mem_cons_of_mem _ second)
    | false =>
      rw [List.takeWhile_cons_of_neg (by simp [here]), eq_comm, List.filter_eq_nil_iff]
      intro later member inside
      rcases List.mem_cons.mp member with rfl | found
      · rw [here] at inside
        cases inside
      · rw [downward item List.mem_cons_self later member (ordered.1 later found) inside] at here
        cases here

end Scanning

namespace Index

/-- A scan finds all terms that are reached and not yet passed. -/
theorem mem_scan {postings : Postings} {reached within : String → Bool}
    (upward : ∀ earlier later, earlier < later → reached earlier = true → reached later = true)
    (downward : ∀ earlier later, earlier < later → reached earlier = true → within later = true →
      within earlier = true) {number : Nat} :
    number ∈ scan postings reached within ↔ ∃ term numbers,
      postings.get? term = some numbers ∧ (reached term = true ∧ within term = true) ∧
        number ∈ numbers := by
  have ascends : postings.entries.Pairwise fun earlier later => earlier.1 < later.1 :=
    postings.ascends.imp fun less => compare_lt_iff_lt.mp less
  unfold scan
  rw [dropWhile_eq_filter (fun entry => reached entry.1) ascends
      fun earlier later => upward earlier.1 later.1,
    takeWhile_eq_filter (List.Pairwise.filter _ ascends)]
  · simp only [DocumentSet.mem_unions, List.mem_map, List.mem_filter, Prod.exists,
      OrderedMap.get?_eq_some_iff]
    constructor
    · intro given
      obtain ⟨numbers, ⟨term, _, ⟨⟨stored, above⟩, inside⟩, rfl⟩, member⟩ := given
      exact ⟨term, _, stored, ⟨above, inside⟩, member⟩
    · intro given
      obtain ⟨term, numbers, stored, ⟨above, inside⟩, member⟩ := given
      exact ⟨numbers, ⟨term, numbers, ⟨⟨stored, above⟩, inside⟩, rfl⟩, member⟩
  · intro earlier first later _ less inside
    exact downward earlier.1 later.1 less (List.mem_filter.mp first).2 inside

theorem mem_starting {postings : Postings} {start : String} {number : Nat} :
    number ∈ starting postings start ↔ ∃ term numbers,
      postings.get? term = some numbers ∧ start.toList <+: term.toList ∧ number ∈ numbers := by
  unfold starting
  rw [mem_scan]
  · refine exists_congr fun term => exists_congr fun numbers => and_congr_right fun _ =>
      and_congr_left fun _ => ?_
    rw [Text.isLE_compare, List.isPrefixOf_iff_prefix]
    exact ⟨fun found => found.2, fun begins => ⟨Text.le_of_prefix begins, begins⟩⟩
  · intro earlier later less reached
    rw [Text.isLE_compare] at reached ⊢
    exact reached.trans less.le
  · intro earlier later less reached within
    rw [Text.isLE_compare] at reached
    rw [List.isPrefixOf_iff_prefix] at within ⊢
    exact Text.prefix_of_le_of_le reached less.le within

theorem mem_between {postings : Postings} {lower upper : Option String} {number : Nat} :
    number ∈ between postings lower upper ↔ ∃ term numbers,
      postings.get? term = some numbers ∧
        ((∀ bound ∈ lower, bound ≤ term) ∧ ∀ bound ∈ upper, term ≤ bound) ∧
        number ∈ numbers := by
  unfold between
  rw [mem_scan]
  · simp only [Option.all_eq_true, Text.isLE_compare, Option.mem_def]
  · simp only [Option.all_eq_true, Text.isLE_compare]
    exact fun earlier later less reached bound lower => (reached bound lower).trans less.le
  · simp only [Option.all_eq_true, Text.isLE_compare]
    exact fun earlier later less _ within bound upper => less.le.trans (within bound upper)

theorem clauseHits_eq_map (index : Index) (clauses : List (Occurrence × Query)) :
    clauseHits index clauses = clauses.map fun clause => (clause.1, index.hits clause.2) := by
  induction clauses with
  | nil => rfl
  | cons clause clauses ih => rw [clauseHits, ih, List.map_cons]

theorem mem_combined {clauses : List (Occurrence × DocumentSet)} {number : Nat} :
    number ∈ combined clauses ↔
      (if ∃ clause ∈ clauses, clause.1 = .must then
          ∀ clause ∈ clauses, clause.1 = .must → number ∈ clause.2
        else ∃ clause ∈ clauses, clause.1 = .should ∧ number ∈ clause.2) ∧
      ¬∃ clause ∈ clauses, clause.1 = .mustNot ∧ number ∈ clause.2 := by
  have having (kind : Occurrence) (set : DocumentSet) :
      set ∈ (clauses.filter (·.1 = kind)).map (·.2) ↔
        ∃ clause ∈ clauses, clause.1 = kind ∧ clause.2 = set := by
    simp [List.mem_map, List.mem_filter, and_assoc]
  have anyHit (kind : Occurrence) :
      number ∈ DocumentSet.unions ((clauses.filter (·.1 = kind)).map (·.2)) ↔
        ∃ clause ∈ clauses, clause.1 = kind ∧ number ∈ clause.2 := by
    simp [List.mem_map, List.mem_filter, and_assoc]
  unfold combined
  rw [DocumentSet.mem_diff, anyHit]
  refine and_congr_left fun _ => ?_
  cases required : (clauses.filter (·.1 = .must)).map (·.2) with
  | nil =>
    have none : ¬∃ clause ∈ clauses, clause.1 = .must := by
      intro given
      obtain ⟨clause, member, must⟩ := given
      have listed := (having .must clause.2).mpr ⟨clause, member, must, rfl⟩
      rw [required] at listed
      cases listed
    simp only [if_neg none, required, anyHit]
  | cons first others =>
    have some : ∃ clause ∈ clauses, clause.1 = .must := by
      have listed : first ∈ (clauses.filter (·.1 = .must)).map (·.2) := by
        rw [required]
        exact List.mem_cons_self
      obtain ⟨clause, member, must, _⟩ := (having .must first).mp listed
      exact ⟨clause, member, must⟩
    simp only [if_pos some, required]
    rw [DocumentSet.mem_foldl_inter, ← List.forall_mem_cons (p := (number ∈ ·)), ← required]
    simp only [having]
    constructor
    · intro all clause member must
      exact all clause.2 ⟨clause, member, must, rfl⟩
    · intro all _ given
      obtain ⟨clause, member, must, rfl⟩ := given
      exact all clause member must

/-- The index finds the live documents of which the query is true. -/
theorem mem_hits {index : Index} {version : Nat → Node} (represents : Represents index version)
    (query : Query) (number : Nat) :
    number ∈ index.hits query ↔ number ∈ index.live ∧ query.Matches (index.documentAt number) := by
  have live {field term : String} (member : (field, term) ∈ index.documentAt number) :
      number ∈ index.live := represents.live_of_posted ((represents.posted _ _ _).mpr member)
  have scanned (field : String) (select : Postings → DocumentSet) (chosen : String → Prop)
      (selects : ∀ postings, number ∈ select postings ↔ ∃ term numbers,
        postings.get? term = some numbers ∧ chosen term ∧ number ∈ numbers) :
      number ∈ ((index.fields.get? field).map select).getD .empty ↔ number ∈ index.live ∧
        ∃ term, (field, term) ∈ index.documentAt number ∧ chosen term := by
    have whole : (∃ term, (field, term) ∈ index.documentAt number ∧ chosen term) →
        number ∈ index.live := fun ⟨_, member, _⟩ => live member
    rw [and_iff_right_of_imp whole]
    simp only [← represents.posted, posted]
    cases index.fields.get? field with
    | none => simp
    | some postings =>
      simp only [Option.map_some, Option.getD_some, Option.bind_some, selects]
      refine exists_congr fun term => ?_
      cases known : postings.get? term <;> simp [and_comm]
  induction query using Query.inductionOn with
  | everything => simp [hits]
  | term field value =>
    unfold hits
    rw [Query.Matches, and_iff_right_of_imp live]
    exact represents.posted field value number
  | starts field start => exact scanned _ _ _ fun postings => mem_starting
  | between field lower upper => exact scanned _ _ _ fun postings => mem_between
  | exists_ field =>
    have anyTerm := scanned field (fun postings => .unions postings.values) (fun _ => True)
      fun postings => by
        simp only [DocumentSet.mem_unions, OrderedMap.mem_values]
        exact ⟨fun ⟨numbers, ⟨term, stored⟩, member⟩ => ⟨term, numbers, stored, trivial, member⟩,
          fun ⟨term, numbers, stored, _, member⟩ => ⟨numbers, ⟨term, stored⟩, member⟩⟩
    simpa only [hits, Query.Matches, and_true] using anyTerm
  | boolean clauses ih =>
    unfold hits
    rw [clauseHits_eq_map, mem_combined, Query.Matches, Query.allMatch_iff,
      Query.anyMatches_iff, Query.anyMatches_iff]
    simp only [List.mem_map, exists_exists_and_eq_and, forall_exists_index, and_imp,
      forall_apply_eq_imp_iff₂]
    have every : (∀ clause ∈ clauses, clause.1 = .must → number ∈ index.hits clause.2) ↔
        ∀ clause ∈ clauses, clause.1 = .must →
          number ∈ index.live ∧ clause.2.Matches (index.documentAt number) :=
      forall₂_congr fun clause member => imp_congr_right fun _ => ih clause member
    have any (kind : Occurrence) :
        (∃ clause ∈ clauses, clause.1 = kind ∧ number ∈ index.hits clause.2) ↔
          ∃ clause ∈ clauses, clause.1 = kind ∧
            number ∈ index.live ∧ clause.2.Matches (index.documentAt number) :=
      exists_congr fun clause => and_congr_right fun member =>
        and_congr_right fun _ => ih clause member
    rw [every, any, any]
    by_cases present : number ∈ index.live
    · simp only [present, true_and]
    · -- Without a live number neither the required nor the optional clauses have a hit.
      simp only [present, false_and, and_false, exists_false, not_false_eq_true, and_true,
        iff_false]
      split
      · next required =>
        obtain ⟨clause, member, must⟩ := required
        exact fun none => none clause member must
      · exact id

end Index

end NodeQuery.Search
