import NodeQuery.Proofs.Criterion.Reading
import NodeQuery.Proofs.Text.Consumption

/-! The criteria that are read from texts. All names in them can be written again; what their own
texts may lose are the quotes around a code or URI, and that the id of a target was asked for as a
criterion of its own. -/

namespace NodeQuery.Criterion

open Text Text.Reader
open Criterion.Reading (isCode isBare)

/-- The names in the criterion can be written, and so can its dates. -/
def legible : Criterion → Bool
  | .hasId _ => true
  | .inGraph _ => true
  | .hasType name => isCode name
  | .hasCode _ => true
  | .hasUri _ => true
  | .hasNumber _ => true
  | .createdWithin during => during.expressible
  | .modifiedWithin during => during.expressible
  | .textEquals property _ => property.expressible
  | .textStarts property _ => property.expressible
  | .textBetween property _ => property.expressible
  | .words property _ => property.expressible && property.language != "string"
  | .wordStarts property _ => property.expressible && property.language != "string"
  | .references name _ => isCode name
  | .referencesNothing name => isCode name
  | .referencesSuch name target => isCode name && target.legible

/-- The criterion ends in a code or URI that is read in quotes only. -/
def needsQuotes : Criterion → Bool
  | .hasCode code => !isCode code
  | .hasUri uri => !isBare uri
  | .referencesSuch _ target => target.needsQuotes
  | _ => false

/-- The criterion asks for the id of a target, as a criterion of its own. -/
def asksTargetId : Criterion → Bool
  | .referencesSuch _ target => target.isHasId || target.asksTargetId
  | _ => false

/-- The criterion with the same text that asks for the id of a target directly. -/
def reread : Criterion → Criterion
  | .referencesSuch name (.hasId id) => .references name id
  | .referencesSuch name target => .referencesSuch name target.reread
  | criterion => criterion

theorem expressible_eq (criterion : Criterion) : criterion.expressible =
    (criterion.legible && !criterion.needsQuotes && !criterion.asksTargetId) := by
  induction criterion with
  | referencesSuch name target ih =>
    simp only [expressible, legible, needsQuotes, asksTargetId, ih, Bool.not_or]
    grind
  | _ => simp [expressible, legible, needsQuotes, asksTargetId]

theorem text_reread (criterion : Criterion) : criterion.reread.text = criterion.text := by
  fun_induction reread criterion with
  | case1 name id => simp only [text, show ".id:" = "." ++ "id:" from rfl, String.append_assoc]
  | case2 name target other ih => simp only [text, ih]
  | case3 => rfl

theorem isHasId_reread (criterion : Criterion) : criterion.reread.isHasId = criterion.isHasId := by
  fun_cases reread criterion <;> rfl

theorem legible_reread (criterion : Criterion) : criterion.reread.legible = criterion.legible := by
  fun_induction reread criterion with
  | case1 name id => simp [legible]
  | case2 name target other ih => simp only [legible, ih]
  | case3 => rfl

theorem needsQuotes_reread (criterion : Criterion) :
    criterion.reread.needsQuotes = criterion.needsQuotes := by
  fun_induction reread criterion with
  | case1 name id => rfl
  | case2 name target other ih => simp only [needsQuotes, ih]
  | case3 => rfl

theorem asksTargetId_reread (criterion : Criterion) : criterion.reread.asksTargetId = false := by
  fun_induction reread criterion with
  | case1 name id => rfl
  | case2 name target other ih =>
    rw [asksTargetId, ih, isHasId_reread, Bool.or_false]
    cases target with
    | hasId id => exact absurd rfl (other id)
    | _ => rfl
  | case3 criterion _ other =>
    cases criterion with
    | referencesSuch name target => exact absurd rfl (other name target)
    | _ => rfl

namespace Reading

/-! What is read is legible. -/

theorem yields_timestamp : Yields timestamp fun moment => moment.year ≤ 9999 := by
  refine yields_mapIf (yields_run isDateChar) fun letters inside moment read => ?_
  have unsigned : '+' ∉ letters := fun plus => absurd (inside.2 '+' plus) (by decide)
  exact Timestamp.year_le_of_text unsigned read

theorem yields_openOr {α : Type} {bound : Reader α} {good : α → Prop} (yields : Yields bound good) :
    Yields (openOr bound) fun value => ∀ given ∈ value, good given := by
  refine yields_firstOf (List.forall_mem_cons.mpr ⟨?_, List.forall_mem_singleton.mpr ?_⟩)
  · exact yields_map fun text => (yields_any _ text).mono fun _ _ _ none => nomatch none
  · refine yields_map fun text => (yields text).mono fun value fits given same => ?_
    cases same
    exact fits

theorem yields_interval {α : Type} {bound : Reader α} {good : α → Prop}
    (yields : Yields bound good) : Yields (interval bound) fun during =>
      (∀ given ∈ during.lower, good given) ∧ ∀ given ∈ during.upper, good given := by
  refine yields_before _ fun text => (yields_openOr yields text).andThen fun lower lowerFits => ?_
  refine yields_before _ fun text => (yields_openOr yields text).andThen fun upper upperFits => ?_
  exact yields_map fun text => (yields_any _ text).mono fun _ _ => ⟨lowerFits, upperFits⟩

theorem yields_during : Yields (interval timestamp) fun during => during.expressible = true := by
  refine fun text => (yields_interval yields_timestamp text).mono fun during fits => ?_
  simpa only [Interval.expressible, Bool.and_eq_true, Option.all_eq_true, decide_eq_true_eq,
    Option.mem_def] using fits

section

variable {property : PropertyPath} (expressible : property.expressible)

include expressible

theorem yields_textValue : Yields (textValue property) fun criterion =>
    criterion.legible = true ∧ criterion.needsQuotes = false := by
  intro text
  unfold textValue
  split
  · exact ⟨expressible, rfl⟩
  · refine .map ((yields_any _ text).mono fun value _ => ?_)
    obtain ⟨value, star⟩ := value
    cases star <;> exact ⟨expressible, rfl⟩

theorem yields_wordsValue (other : property.language ≠ "string") :
    Yields (wordsValue property) fun criterion =>
      criterion.legible = true ∧ criterion.needsQuotes = false := by
  have fits : (property.expressible && property.language != "string") = true :=
    Bool.and_eq_true_iff.mpr ⟨expressible, bne_iff_ne.mpr other⟩
  refine fun text => .map ((yields_any _ text).mono fun value _ => ?_)
  obtain ⟨value, star⟩ := value
  cases star <;> exact ⟨fits, rfl⟩

end

theorem yields_propertyValue {parts : List String} {value : Reader Criterion}
    (codes : ∀ part ∈ parts, isCode part = true) (asked : propertyValue parts = some value) :
    Yields value fun criterion => criterion.legible = true ∧ criterion.needsQuotes = false := by
  have alone (name : String) (member : name ∈ parts) :
      PropertyPath.expressible ⟨name, ""⟩ = true := by
    simp [PropertyPath.expressible, codes name member]
  have tagged (name language : String) (nameMember : name ∈ parts)
      (languageMember : language ∈ parts) :
      PropertyPath.expressible ⟨name, language⟩ = true := by
    simp [PropertyPath.expressible, codes name nameMember, codes language languageMember]
  unfold propertyValue at asked
  split at asked
  · next name =>
    cases asked
    exact yields_wordsValue (alone name (by simp)) (by decide : "" ≠ "string")
  · next name second =>
    cases asked
    split
    · exact yields_textValue (alone name (by simp))
    · next other => exact yields_wordsValue (tagged name second (by simp) (by simp)) other
  · next name language =>
    cases asked
    exact yields_textValue (tagged name language (by simp) (by simp))
  · cases asked

theorem yields_property : Yields property fun criterion =>
    criterion.legible = true ∧ criterion.needsQuotes = false := by
  have codes : Yields propertyParts fun parts => parts ≠ [] ∧ ∀ part ∈ parts, isCode part = true :=
    yields_before _ (yields_followedBy (yields_separated yields_code _) _)
  refine fun text => (codes text).andThen fun parts fits rest => ?_
  cases asked : propertyValue parts with
  | some value => exact yields_propertyValue fits.2 asked rest
  | none => trivial

theorem yields_reference {target : Reader Criterion}
    (yields : Yields target fun criterion => criterion.legible = true) :
    Yields (reference target) fun criterion => criterion.legible = true := by
  have named : Yields (followedBy (field ["references.", "refs.", "r."] code) (literal "."))
      fun name => isCode name = true := yields_followedBy (yields_before _ yields_code) _
  refine fun text => (named text).andThen fun name fits rest => ?_
  split
  · exact fits
  · exact fits
  · exact .map ((yields rest).mono fun target legible => Bool.and_eq_true_iff.mpr ⟨fits, legible⟩)

theorem yields_criterion (nesting : Nat) :
    Yields (criterion nesting) fun criterion => criterion.legible = true := by
  have free {α : Type} (reader : Reader α) {f : α → Criterion}
      (fits : ∀ value, (f value).legible = true) :
      Yields (map f reader) fun criterion => criterion.legible = true :=
    yields_map fun text => (yields_any reader text).mono fun value _ => fits value
  have dated (names : List String) {f : Interval Timestamp → Criterion}
      (fits : ∀ during, (f during).legible = during.expressible) :
      Yields (map f (field names (interval timestamp))) fun criterion =>
        criterion.legible = true :=
    yields_map (yields_before _ (by simpa only [fits] using yields_during))
  induction nesting with
  | zero => exact fun _ => trivial
  | succ nesting ih =>
    refine yields_firstOf ?_
    simp only [alternatives, List.forall_mem_cons, List.not_mem_nil, false_imp_iff, implies_true,
      and_true]
    exact ⟨free _ fun _ => rfl, free _ fun _ => rfl, yields_map (yields_before _ yields_code),
      free _ fun _ => rfl, free _ fun _ => rfl, free _ fun _ => rfl, dated _ fun _ => rfl,
      dated _ fun _ => rfl, fun text => (yields_property text).mono fun _ => And.left,
      yields_reference ih⟩

/-! A value that was read in quotes is shorter without them. -/

theorem length_of_unescape {chars value after : List Char}
    (read : Quoted.unescape chars = some (value, after)) :
    value.length + 1 + after.length ≤ chars.length := by
  fun_induction Quoted.unescape chars generalizing value after with
  | case1 => cases read
  | case2 rest =>
    cases read
    simp only [List.length_nil, List.length_cons]
    omega
  | case3 => cases read
  | case4 char rest ih =>
    obtain ⟨⟨value, after⟩, found, same⟩ := Option.map_eq_some_iff.mp read
    cases same
    have := ih found
    simp only [List.length_cons]
    omega
  | case5 char rest _ _ _ ih =>
    obtain ⟨⟨value, after⟩, found, same⟩ := Option.map_eq_some_iff.mp read
    cases same
    have := ih found
    simp only [List.length_cons]
    omega

theorem spends_quoted : Spends quoted fun value => value.toList.length + 2 := by
  intro text value rest done
  unfold quoted at done
  split at done
  · next chars =>
    split at done
    · next letters after found =>
      obtain ⟨rfl, rfl⟩ := Outcome.read.inj done
      have := length_of_unescape found
      simp only [String.toList_ofList, List.length_cons]
      omega
    · cases done
  · cases done

theorem spends_code : Spends code fun name => name.toList.length :=
  spends_map (by simpa only [String.toList_ofList] using spends_run isCodeChar)

/-- A value that does not fit without quotes was read in quotes, from a longer text. -/
theorem unquoted_lt {name value : String} {plain : Reader String} {fits : String → Bool}
    {text rest : List Char} (yields : Yields plain fun value => fits value = true)
    (done : field [name] (firstOf [quoted, plain]) text = .read value rest)
    (unfit : fits value = false) :
    (name ++ value).toList.length + rest.length < text.length := by
  obtain ⟨_, middle, named, given⟩ := exists_of_andThen done
  have inQuotes : quoted middle = .read value rest := by
    obtain ⟨reader, member, found⟩ := exists_of_firstOf given
    simp only [List.mem_cons, List.not_mem_nil, or_false] at member
    rcases member with rfl | rfl
    · exact found
    · have bare := yields.of_read found
      rw [unfit] at bare
      cases bare
  have front : name.toList.length + middle.length ≤ text.length :=
    spends_literal name text () middle named
  have back : value.toList.length + 2 + rest.length ≤ middle.length :=
    spends_quoted middle value rest inQuotes
  rw [String.toList_append, List.length_append]
  omega

theorem spends_referenceName :
    Spends (followedBy (field ["references.", "refs.", "r."] code) (literal "."))
      fun name => 2 + name.toList.length + 1 :=
  spends_followedBy (spends_before (spends_spelling (by decide)) spends_code) (spends_literal ".")

theorem path_lt {target : Reader Criterion} {text rest : List Char} {criterion : Criterion}
    (targetLt : ∀ text criterion, target text = .read criterion rest →
      criterion.needsQuotes = true → criterion.text.toList.length + rest.length < text.length)
    (done : reference target text = .read criterion rest) (needs : criterion.needsQuotes = true) :
    criterion.text.toList.length + rest.length < text.length := by
  obtain ⟨name, middle, named, given⟩ := exists_of_andThen done
  split at given
  · obtain ⟨rfl, -⟩ := Outcome.read.inj given
    cases needs
  · obtain ⟨rfl, -⟩ := Outcome.read.inj given
    cases needs
  · obtain ⟨inner, inside, rfl⟩ := exists_of_map given
    have front : 2 + name.toList.length + 1 + middle.length ≤ text.length :=
      spends_referenceName text name middle named
    have back := targetLt middle inner inside needs
    have marks : "r.".toList.length = 2 ∧ ".".toList.length = 1 := ⟨rfl, rfl⟩
    simp only [Criterion.text, String.toList_append, List.length_append, marks]
    omega

/-- A criterion that needs quotes takes more than its own text, which has none. -/
theorem text_lt_of_needsQuotes {nesting : Nat} {text rest : List Char} {criterion : Criterion}
    (done : Reading.criterion nesting text = .read criterion rest)
    (needs : criterion.needsQuotes = true) :
    criterion.text.toList.length + rest.length < text.length := by
  induction nesting generalizing text criterion with
  | zero => cases done
  | succ nesting ih =>
    have quoteless {α : Type} {reader : Reader α} {f : α → Criterion}
        (found : map f reader text = .read criterion rest)
        (free : ∀ value, (f value).needsQuotes = false) : False := by
      obtain ⟨value, -, rfl⟩ := exists_of_map found
      rw [free value] at needs
      cases needs
    obtain ⟨reader, member, found⟩ := exists_of_firstOf done
    simp only [alternatives, List.mem_cons, List.not_mem_nil, or_false] at member
    -- Only a code, a URI and what is asked of a target can need quotes.
    rcases member with rfl | rfl | rfl | rfl | rfl | rfl | rfl | rfl | rfl | rfl
    · exact (quoteless found fun _ => rfl).elim
    · exact (quoteless found fun _ => rfl).elim
    · exact (quoteless found fun _ => rfl).elim
    · obtain ⟨value, given, rfl⟩ := exists_of_map found
      exact unquoted_lt yields_code given (by simpa [needsQuotes] using needs)
    · obtain ⟨value, given, rfl⟩ := exists_of_map found
      exact unquoted_lt yields_bare given (by simpa [needsQuotes] using needs)
    · exact (quoteless found fun _ => rfl).elim
    · exact (quoteless found fun _ => rfl).elim
    · exact (quoteless found fun _ => rfl).elim
    · have free := (yields_property.of_read found).2
      rw [free] at needs
      cases needs
    · exact path_lt (fun _ _ found needs => ih found needs) found needs

end Reading

end NodeQuery.Criterion
