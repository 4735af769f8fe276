import NodeQuery.Proofs.Text.Reader

/-! Lists of texts with separators between them, and how they are read: each item up to the
separator after it, the last one up to where no separator can be read. -/

namespace NodeQuery.Text

theorem intercalate_cons (separator text : String) (texts : List String) :
    separator.intercalate (text :: texts) =
      text ++ String.join (texts.map fun other => separator ++ other) := by
  induction texts generalizing text with
  | nil => simp
  | cons other texts ih =>
    rw [String.intercalate_cons_cons, ih, List.map_cons, String.join_cons]
    simp only [String.append_assoc]

/-- Texts one after the other, with a separator in every gap. -/
inductive Joined (separates : List Char → Prop) : List (List Char) → List Char → Prop
  | single (text : List Char) : Joined separates [text] text
  | more (text : List Char) {gap joined : List Char} {texts : List (List Char)}
      (apart : separates gap) (later : Joined separates texts joined) :
      Joined separates (text :: texts) (text ++ (gap ++ joined))

theorem Joined.begins {separates : List Char → Prop} {first text : List Char}
    {texts : List (List Char)} (joined : Joined separates (first :: texts) text) :
    ∃ later, text = first ++ later := by
  cases joined with
  | single => exact ⟨[], (List.append_nil first).symm⟩
  | more => exact ⟨_, rfl⟩

theorem exists_joined {separates : List Char → Prop} {gap : List Char} (apart : separates gap)
    {texts : List (List Char)} (nonempty : texts ≠ []) :
    ∃ text, Joined separates texts text := by
  induction texts with
  | nil => exact absurd rfl nonempty
  | cons first texts ih =>
    by_cases last : texts = []
    · subst last
      exact ⟨first, .single first⟩
    · obtain ⟨text, joined⟩ := ih last
      exact ⟨_, .more first apart joined⟩

theorem Joined.length_le {separates : List Char → Prop} {texts : List (List Char)}
    {text : List Char} (joined : Joined separates texts text) :
    ∀ part ∈ texts, part.length ≤ text.length := by
  induction joined with
  | single text => exact List.forall_mem_singleton.mpr le_rfl
  | more text apart later ih =>
    simp only [List.length_append]
    refine List.forall_mem_cons.mpr ⟨by omega, fun part member => ?_⟩
    have := ih part member
    omega

namespace Reader

variable {α : Type} {separator : Reader Unit} {item : Reader α} {text rest : List Char}

theorem furtherItems_of_misses (missed : separator.Misses text) :
    furtherItems separator item text = .read [] text := by
  obtain ⟨place, missed⟩ := missed
  rw [furtherItems]
  simp only [missed]

theorem furtherItems_of_read {afterSeparator afterItem : List Char} {value : α} {values : List α}
    (parted : separator text = .read () afterSeparator)
    (done : item afterSeparator = .read value afterItem)
    (shorter : afterItem.length < text.length)
    (others : furtherItems separator item afterItem = .read values rest) :
    furtherItems separator item text = .read (value :: values) rest := by
  rw [furtherItems]
  simp only [parted, done, shorter, dite_true, others, Outcome.map]

theorem separated_of_read {after : List Char} {value : α} {values : List α}
    (done : item text = .read value after)
    (others : furtherItems separator item after = .read values rest) :
    separated separator item text = .read (value :: values) rest := by
  simp only [separated, done, others, Outcome.andThen, Outcome.map]

section

variable {follows separates : List Char → Prop} {parts : List (α × List Char)}
  (reads : ∀ part ∈ parts, ∀ rest, follows rest → item (part.2 ++ rest) = .read part.1 rest)
  (gaps : ∀ gap, separates gap → gap ≠ [] ∧ ∀ part ∈ parts, ∀ later,
    separator (gap ++ (part.2 ++ later)) = .read () (part.2 ++ later) ∧
      follows (gap ++ (part.2 ++ later)))
  (ended : follows rest) (stopped : separator.Misses rest)

include reads gaps ended stopped

/-- The first item is read, then the others with the separators before them. -/
theorem item_and_furtherItems (joined : Joined separates (parts.map Prod.snd) text) :
    ∃ first others after, parts.map Prod.fst = first :: others ∧
      item (text ++ rest) = .read first after ∧ after.length ≤ (text ++ rest).length ∧
      furtherItems separator item after = .read others rest := by
  induction parts generalizing text with
  | nil => cases joined
  | cons part parts ih =>
    rw [List.forall_mem_cons] at reads
    rw [List.map_cons] at joined
    -- Only the last item is followed by the rest; before a gap comes the item that the gap ends.
    generalize listed : parts.map Prod.snd = texts at joined
    cases joined with
    | single =>
      obtain rfl := List.map_eq_nil_iff.mp listed
      exact ⟨part.1, [], rest, rfl, reads.1 rest ended, by simp, furtherItems_of_misses stopped⟩
    | @more _ gap joined _ apart later =>
      subst listed
      have restGaps (gap : List Char) (apart : separates gap) :=
        And.imp_right (fun each part member => each part (List.mem_cons_of_mem _ member))
          (gaps gap apart)
      obtain ⟨first, others, after, listed, done, shorter, further⟩ := ih reads.2 restGaps later
      cases parts with
      | nil => cases later
      | cons next parts =>
        obtain ⟨joined, rfl⟩ := later.begins
        obtain ⟨some, between⟩ := gaps gap apart
        obtain ⟨parted, follows⟩ := between next (by simp) (joined ++ rest)
        simp only [List.append_assoc] at done shorter ⊢
        refine ⟨part.1, first :: others, gap ++ (next.2 ++ (joined ++ rest)),
          by rw [List.map_cons, listed], reads.1 _ follows, by simp, ?_⟩
        refine furtherItems_of_read parted done ?_ further
        have := List.length_pos_iff.mpr some
        simp only [List.length_append] at shorter ⊢
        omega

theorem separated_joined (joined : Joined separates (parts.map Prod.snd) text) :
    separated separator item (text ++ rest) = .read (parts.map Prod.fst) rest := by
  obtain ⟨first, others, after, listed, done, _, further⟩ :=
    item_and_furtherItems reads gaps ended stopped joined
  rw [listed]
  exact separated_of_read done further

end

/-- Items with the same mark in every gap. -/
theorem separated_texts {values : List α} {textOf : α → List Char} {mark : List Char}
    {follows : List Char → Prop}
    (reads : ∀ value ∈ values, ∀ rest, follows rest →
      item (textOf value ++ rest) = .read value rest)
    (marks : ∀ value ∈ values, ∀ later,
      separator (mark ++ (textOf value ++ later)) = .read () (textOf value ++ later))
    (some : mark ≠ []) (marked : ∀ later, follows (mark ++ later)) (ended : follows rest)
    (stopped : separator.Misses rest) (joined : Joined (· = mark) (values.map textOf) text) :
    separated separator item (text ++ rest) = .read values rest := by
  let written (value : α) : α × List Char := (value, textOf value)
  have gaps : ∀ gap, gap = mark → gap ≠ [] ∧ ∀ part ∈ values.map written, ∀ later,
      separator (gap ++ (part.2 ++ later)) = .read () (part.2 ++ later) ∧
        follows (gap ++ (part.2 ++ later)) := by
    rintro _ rfl
    exact ⟨some, List.forall_mem_map.mpr fun value member later =>
      ⟨marks value member later, marked _⟩⟩
  have read := separated_joined (List.forall_mem_map.mpr reads) gaps ended stopped
    (by rwa [List.map_map])
  rwa [List.map_map, show Prod.fst ∘ written = id from rfl, List.map_id] at read

theorem separatedIfAny_of_separated {values : List α}
    (done : separated separator item text = .read values rest) :
    separatedIfAny separator item text = .read values rest := by
  unfold separated at done
  unfold separatedIfAny
  cases first : item text with
  | read value after => simpa only [first, Outcome.andThen] using done
  | missed place => simp [first, Outcome.andThen] at done
  | refused place => simp [first, Outcome.andThen] at done

end Reader

end NodeQuery.Text
