import Mathlib
import NodeQuery.Relational.Grammar.Statement

/-! What the combinators of the grammar read. A reading is described by what it makes of the tokens
it is given: readings in a row, tries, repetitions, and the unfolding of a reading that reads parts
of its own kind. -/

namespace NodeQuery.Relational.Grammar

variable {α β : Type} {tokens rest : List Token} {value : α}

theorem bind_of_some {parser : Parser α} (next : α → Parser β)
    (read : parser tokens = some (value, rest)) : (parser >>= next) tokens = next value rest := by
  simp only [bind, StateT.bind, read, Option.bind_some]

theorem bind_of_none {parser : Parser α} (next : α → Parser β) (failed : parser tokens = none) :
    (parser >>= next) tokens = none := by
  simp only [bind, StateT.bind, failed, Option.bind_none]

theorem map_of_some (f : α → β) {parser : Parser α} (read : parser tokens = some (value, rest)) :
    (f <$> parser) tokens = some (f value, rest) := by
  simp only [Functor.map, StateT.map, read]
  rfl

theorem map_of_none (f : α → β) {parser : Parser α} (failed : parser tokens = none) :
    (f <$> parser) tokens = none := by
  simp only [Functor.map, StateT.map, failed]
  rfl

theorem orElse_of_none {first : Parser α} (second : Parser α) (failed : first tokens = none) :
    (first <|> second) tokens = second tokens := by
  change (first tokens <|> second tokens) = _
  rw [failed]
  rfl

theorem discard_of_some {parser : Parser α} (read : parser tokens = some (value, rest)) :
    (discard parser) tokens = some ((), rest) := by
  simp [discard, Functor.mapConst, StateT.map, read]

theorem discard_of_none {parser : Parser α} (failed : parser tokens = none) :
    (discard parser) tokens = none := by
  simp [discard, Functor.mapConst, StateT.map, failed]

theorem accepts_of_some {parser : Parser Unit} (read : parser tokens = some ((), rest)) :
    accepts parser tokens = some (true, rest) := by
  simp only [accepts, read]

theorem accepts_of_none {parser : Parser Unit} (failed : parser tokens = none) :
    accepts parser tokens = some (false, tokens) := by
  simp only [accepts, failed]

theorem announces_of_none {parser : Parser Unit} (failed : parser tokens = none) :
    announces parser tokens = some (false, tokens) := by
  simp only [announces, failed, Option.isSome_none]

theorem repeated_of_none {step : Parser (Option α)} (stopped : step tokens = some (none, rest)) :
    repeated step tokens = some ([], rest) := by
  unfold repeated
  rw [stopped]

theorem repeated_of_some {step : Parser (Option α)}
    (stepped : step tokens = some (some value, rest)) (shorter : rest.length < tokens.length) :
    repeated step tokens =
      (repeated step rest).map fun (values, rest) => (value :: values, rest) := by
  rw [repeated, stepped]
  simp only [dif_pos shorter]

theorem recursive_eq {ι : Type} (step : (ι → Parser α) → ι → Parser α) (index : ι)
    (tokens : List Token) : recursive step index tokens = step (fun index rest =>
      if rest.length < tokens.length then recursive step index rest else none) index tokens := by
  rw [recursive]
  simp

theorem furtherBy_of_none {separator : String} (item : Parser α)
    (absent : symbol separator tokens = none) :
    furtherBy separator item tokens = some ([], tokens) := by
  apply repeated_of_none
  rw [bind_of_some _ (accepts_of_none absent)]
  rfl

theorem items_of_some {item : Parser α} (read : item tokens = some (value, rest))
    (absent : symbol "," rest = none) : items item tokens = some ([value], rest) := by
  unfold items
  rw [bind_of_some _ read, bind_of_some _ (furtherBy_of_none item absent)]
  rfl

theorem items_of_none {item : Parser α} (failed : item tokens = none) :
    items item tokens = none := by
  rw [items, bind_of_none _ failed]

theorem optionally_of_none {parser : Parser Unit} (failed : parser tokens = none) :
    optionally parser tokens = some ((), tokens) :=
  discard_of_some (accepts_of_none failed)

/-- Reading tokens of a kind as long as there are any. -/
theorem allOf_token (kind : Token → Bool) (tokens : List Token) :
    allOf (discard (token kind)) tokens = some ((), tokens.dropWhile kind) := by
  refine discard_of_some
    (show _ = some (List.replicate (tokens.takeWhile kind).length (), _) from ?_)
  induction tokens with
  | nil => exact repeated_of_none (by rw [bind_of_some _ (accepts_of_none rfl)]; rfl)
  | cons first tokens ih =>
    cases fits : kind first with
    | false =>
      have failed : token kind (first :: tokens) = none := by simp [token, fits]
      rw [List.takeWhile_cons_of_neg (by simp [fits]), List.dropWhile_cons_of_neg (by simp [fits])]
      apply repeated_of_none
      rw [bind_of_some _ (accepts_of_none (discard_of_none failed))]
      rfl
    | true =>
      have read : token kind (first :: tokens) = some (first, tokens) := by simp [token, fits]
      rw [List.takeWhile_cons_of_pos fits, List.dropWhile_cons_of_pos fits,
        repeated_of_some (show _ = some (some (), tokens) from ?_) (Nat.lt_succ_self _), ih]
      · rfl
      · rw [bind_of_some _ (accepts_of_some (discard_of_some read))]
        rfl

theorem byKeyword_of_none {forms : List (List String × Parser α)} (otherwise : Parser α)
    {first : Token}
    (none : (forms.map (·.1)).all (fun names => !names.any (first.isKeyword ·)) = true) :
    byKeyword forms otherwise (first :: tokens) = otherwise (first :: tokens) := by
  have missing : forms.find? (fun form => form.1.any (first.isKeyword ·)) = Option.none := by
    simpa [List.find?_eq_none] using none
  simp only [byKeyword, missing]

end NodeQuery.Relational.Grammar
