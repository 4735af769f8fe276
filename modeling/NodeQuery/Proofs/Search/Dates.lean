import NodeQuery.Proofs.Search.Compilation
import NodeQuery.Proofs.Search.Ranking
import NodeQuery.Proofs.Text.Bytes
import NodeQuery.Proofs.Text.Numerals
import NodeQuery.Proofs.Timestamp.Chronology

/-! Dates in the index. A date is indexed by its term, and terms have one width and the order of
time. So a search between two dates finds what lies between them, and a search sorted by a date
lists the nodes as time passes. -/

namespace NodeQuery

open Text

namespace Timestamp

theorem term_injective : Function.Injective term := by
  intro left right same
  apply Std.LawfulEqOrd.eq_of_compare
  rw [← compare_term, same, Std.compare_self]

theorem mem_term {timestamp : Timestamp} {char : Char} (member : char ∈ timestamp.term.toList) :
    isDigit char = true ∨ char ∈ ['-', 'T', ':', '.'] := by
  have digit (width number : Nat) (listed : char ∈ fixedDigits width number) :
      isDigit char = true := isDigit_of_mem_fixedDigits listed
  simp only [term, String.toList_ofList, monthDayDigits, clockDigits, List.mem_append,
    List.mem_cons] at member ⊢
  grind

theorem length_bytes_term (timestamp : Timestamp) : (bytes timestamp.term).length = 31 := by
  rw [← timestamp.term.ofList_toList, length_bytes_ofList]
  · simp [term, monthDayDigits, clockDigits, length_fixedDigits]
  · intro char member
    rcases mem_term member with digit | mark
    · unfold isDigit at digit
      rw [Bool.and_eq_true, decide_eq_true_eq, decide_eq_true_eq] at digit
      have atMost : char.toNat ≤ '9'.toNat := UInt32.le_iff_toNat_le.mp digit.2
      exact atMost.trans_lt (by decide)
    · have marks : ∀ mark ∈ ['-', 'T', ':', '.'], mark.toNat < 128 := by simp
      exact marks char mark

/-- Whether a timestamp lies in an interval, by their moments. -/
def Within (timestamp : Timestamp) (during : Interval Timestamp) : Prop :=
  (∀ first ∈ during.lower, first.moment ≤ timestamp.moment) ∧
    ∀ last ∈ during.upper, timestamp.moment ≤ last.moment

instance (timestamp : Timestamp) (during : Interval Timestamp) :
    Decidable (timestamp.Within during) := inferInstanceAs (Decidable (_ ∧ _))

theorem contains_iff_within {timestamp : Timestamp} {during : Interval Timestamp} :
    during.contains timestamp = true ↔ timestamp.Within during := by
  simp only [Interval.contains, Bool.and_eq_true, Option.all_eq_true, ← compare_moment,
    isLE_compare, Within, Option.mem_def]

end Timestamp

namespace Search

open Index

/-- The dates that nodes are indexed by. -/
inductive DateField where
  | created
  | lastModified

namespace DateField

def name : DateField → String
  | .created => createdField
  | .lastModified => lastModifiedField

def date : DateField → Node → Timestamp
  | .created => Node.createdDate
  | .lastModified => Node.lastModifiedDate

theorem mem_document_name (field : DateField) {key : NodeKey} {node : Node} {term : String} :
    (field.name, term) ∈ document key node ↔ term = (field.date node).term := by
  cases field
  · exact mem_document_plain.2.2.2.2.1
  · exact mem_document_plain.2.2.2.2.2.1

/-- A node stands before another by its date, or, at the same moment, by its age in the store. -/
def Precedes (field : DateField) (descending : Bool) (stored : List Node)
    (earlier later : Node) : Prop :=
  (if descending then (field.date later).moment < (field.date earlier).moment
    else (field.date earlier).moment < (field.date later).moment) ∨
  (field.date earlier).moment = (field.date later).moment ∧ [earlier, later].Sublist stored

theorem before_iff (field : DateField) {descending : Bool} {earlier later : Node} :
    SortField.Before ⟨field.name, descending⟩ earlier later ↔
      if descending then (field.date later).moment < (field.date earlier).moment
        else (field.date earlier).moment < (field.date later).moment := by
  have least (node : Node) (term : String) :
      IsLeast {other | (field.name, other) ∈ document node.key node} term ↔
        term = (field.date node).term := by
    simp only [field.mem_document_name, Set.ofPred_eq_eq_singleton]
    exact ⟨fun given => given.1, fun same => same ▸ isLeast_singleton⟩
  have terms (left right : Timestamp) : left.term < right.term ↔ left.moment < right.moment := by
    rw [Timestamp.term_lt_iff, ← Timestamp.compare_moment, compare_lt_iff_lt]
  simp only [SortField.Before, least, exists_eq_left, forall_eq, terms]

theorem precedes_of_sorted (field : DateField) {descending : Bool} {stored : List Node}
    {earlier later : Node}
    (precedes : Search.Precedes stored (some ⟨field.name, descending⟩) earlier later) :
    field.Precedes descending stored earlier later := by
  rcases precedes with before | ⟨notAfter, aged⟩
  · exact .inl (field.before_iff.mp before)
  · rw [before_iff] at notAfter
    rcases lt_trichotomy (field.date earlier).moment (field.date later).moment with
      less | same | more
    · cases descending
      · exact .inl less
      · exact absurd less notAfter
    · exact .inr ⟨same, aged⟩
    · cases descending
      · exact absurd more notAfter
      · exact .inl more

end DateField

/-- The terms of timestamps are all of one width, and their bytes are in the order of time. So a
search between two dates finds just the live nodes with a date between them, bounds included, and a
search sorted by a date lists what it finds by the moments of the dates. -/
theorem dates_chronological :
    (∀ left right : Timestamp,
      (left.moment < right.moment ↔ bytes left.term < bytes right.term) ∧
      (left = right ↔ left.term = right.term) ∧
      (bytes left.term).length = (bytes right.term).length) ∧
    (∀ (field : DateField) (changes : History) (during : Interval Timestamp),
      (after changes).search (dateQuery field.name during) .unrestricted =
        ((changes.within documentLimit).liveNodes.filter fun node =>
          (field.date node).Within during).map Node.key) ∧
    ∀ (field : DateField) (changes : History) (query : Query) (descending : Bool),
      ∃ ordered : List Node, ordered.Perm (found changes query) ∧
        ordered.Pairwise
          (field.Precedes descending (changes.within documentLimit).liveNodes) ∧
        ∀ limit : Option Nat,
          (after changes).search query ⟨some ⟨field.name, descending⟩, limit⟩ =
            (limit.elim ordered ordered.take).map Node.key := by
  refine ⟨fun left right => ⟨?_, Timestamp.term_injective.eq_iff.symm, ?_⟩,
    fun field changes during => ?_, fun field changes query descending => ?_⟩
  · rw [bytes_lt_iff, Timestamp.term_lt_iff, ← Timestamp.compare_moment, compare_lt_iff_lt]
  · rw [Timestamp.length_bytes_term, Timestamp.length_bytes_term]
  · rw [search_unrestricted]
    congr 1
    refine List.filter_congr fun node _ => decide_eq_decide.mpr ?_
    rw [matches_dateQuery fun term => field.mem_document_name, Timestamp.contains_iff_within]
  · obtain ⟨ordered, listed, ranked, cut⟩ :=
      exists_ranking changes query (some ⟨field.name, descending⟩)
    exact ⟨ordered, listed, ranked.imp field.precedes_of_sorted, cut⟩

end Search

end NodeQuery
