import Mathlib

/-! The order of texts, character by character. A text stands before all texts that it begins, and
nothing but these stands between it and one of them; texts of one length are ordered by the first
character in which they differ. -/

namespace NodeQuery.Text

theorem isLE_compare {α : Type} [LinearOrder α] (left right : α) :
    (compare left right).isLE = true ↔ left ≤ right := by
  rw [Ordering.isLE_iff_ne_gt, ← compare_le_iff_le]

theorem ofList_cons_lt {left right : Char} {lefts rights : List Char} :
    String.ofList (left :: lefts) < String.ofList (right :: rights) ↔
      left < right ∨ (left = right ∧ String.ofList lefts < String.ofList rights) := by
  simp only [String.lt_iff_toList_lt, String.toList_ofList, List.cons_lt_cons_iff]

theorem not_ofList_lt_nil (text : List Char) : ¬String.ofList text < String.ofList [] := by
  simp only [String.lt_iff_toList_lt, String.toList_ofList]
  exact List.not_lt_nil text

theorem ofList_nil_lt_cons (char : Char) (text : List Char) :
    String.ofList [] < String.ofList (char :: text) := by
  simp only [String.lt_iff_toList_lt, String.toList_ofList]
  exact List.nil_lt_cons char text

theorem ofList_cons_le {left right : Char} {lefts rights : List Char} :
    String.ofList (left :: lefts) ≤ String.ofList (right :: rights) ↔
      left < right ∨ (left = right ∧ String.ofList lefts ≤ String.ofList rights) := by
  rw [← not_lt, ← not_lt, ofList_cons_lt]
  rcases lt_trichotomy left right with less | same | more
  · simp [less, less.ne', less.not_gt]
  · simp [same]
  · simp [more, more.ne', more.not_gt]

theorem ofList_le_of_prefix {start text : List Char} (begins : start <+: text) :
    String.ofList start ≤ String.ofList text := by
  obtain ⟨rest, rfl⟩ := begins
  induction start with
  | nil => exact not_lt.mp (not_ofList_lt_nil _)
  | cons char start ih => exact ofList_cons_le.mpr (.inr ⟨rfl, ih⟩)

theorem prefix_of_ofList_le {start middle last : List Char}
    (above : String.ofList start ≤ String.ofList middle)
    (below : String.ofList middle ≤ String.ofList last) (begins : start <+: last) :
    start <+: middle := by
  induction start generalizing middle last with
  | nil => exact List.nil_prefix
  | cons char start ih =>
    obtain ⟨rest, rfl⟩ := begins
    cases middle with
    | nil => exact absurd (ofList_nil_lt_cons char start) (not_lt.mpr above)
    | cons other middle =>
      rw [List.cons_append] at below
      rcases ofList_cons_le.mp above with less | ⟨rfl, aboveRest⟩
      · rcases ofList_cons_le.mp below with more | ⟨rfl, _⟩
        · exact absurd (lt_trans less more) (lt_irrefl _)
        · exact absurd less (lt_irrefl _)
      · rcases ofList_cons_le.mp below with more | ⟨_, belowRest⟩
        · exact absurd more (lt_irrefl _)
        · exact List.cons_prefix_cons.mpr ⟨rfl, ih aboveRest belowRest ⟨rest, rfl⟩⟩

/-- What lies between a text and one that begins with it begins with it, too. -/
theorem prefix_of_le_of_le {start middle last : String} (above : start ≤ middle)
    (below : middle ≤ last) (begins : start.toList <+: last.toList) :
    start.toList <+: middle.toList :=
  prefix_of_ofList_le (by simpa using above) (by simpa using below) begins

theorem le_of_prefix {start text : String} (begins : start.toList <+: text.toList) :
    start ≤ text := by
  simpa using ofList_le_of_prefix begins

end NodeQuery.Text
