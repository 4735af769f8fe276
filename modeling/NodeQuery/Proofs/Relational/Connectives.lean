import NodeQuery.Proofs.Relational.Operands

/-! How the expressions of templates go on. Comparisons bind tighter than the test for empty
columns, this tighter than `AND`, and `AND` tighter than `OR`, so a conjunction of comparisons is
read as one, and operands in parentheses are joined from left to right. -/

namespace NodeQuery.Relational.Grammar

/-- The connectives of templates, with their operators and precedences. -/
def connectives : List (Token × Operator × Nat) :=
  [(.word "AND" none, .and, Precedence.and), (.word "OR" none, .or, Precedence.or),
    (.symbol "=", .compare .equal, Precedence.comparison),
    (.symbol "<=", .compare .lessOrEqual, Precedence.comparison),
    (.symbol ">=", .compare .greaterOrEqual, Precedence.comparison)]

/-- An expression over a precedence ends before these tokens. -/
structure Stops (precedence : Nat) (rest : List Token) : Prop where
  halts : Halts rest
  weak : nextPrecedence rest ≤ precedence

theorem Stops.mono {lower upper : Nat} {rest : List Token} (stops : Stops lower rest)
    (less : lower ≤ upper) : Stops upper rest :=
  ⟨stops.halts, stops.weak.trans less⟩

theorem stops_nil (precedence : Nat) : Stops precedence [] := ⟨halts_nil, Nat.zero_le _⟩

theorem stops_closing (precedence : Nat) (rest : List Token) :
    Stops precedence (.symbol ")" :: rest) :=
  ⟨halts_cons (by decide), Nat.zero_le _⟩

theorem nextPrecedence_connective {token : Token} {operator : Operator} {precedence : Nat}
    (connective : (token, operator, precedence) ∈ connectives) (rest : List Token) :
    nextPrecedence (token :: rest) = precedence := by
  simp only [connectives, List.mem_cons, Prod.mk.injEq, List.not_mem_nil, or_false] at connective
  rcases connective with ⟨rfl, rfl, rfl⟩ | ⟨rfl, rfl, rfl⟩ | ⟨rfl, rfl, rfl⟩ | ⟨rfl, rfl, rfl⟩ |
    ⟨rfl, rfl, rfl⟩ <;> rfl

theorem stops_connective {token : Token} {operator : Operator} {precedence : Nat}
    (connective : (token, operator, precedence) ∈ connectives) (rest : List Token) :
    Stops precedence (token :: rest) := by
  refine ⟨halts_cons ?_, (nextPrecedence_connective connective rest).le⟩
  have all : ∀ entry ∈ connectives, entry.1 ∈ followers := by decide
  exact all _ connective

namespace Parts

variable (parts : Parts) {tokens rest : List Token} {left right : Expression} {precedence : Nat}

theorem continued_of_stops (stops : Stops precedence rest) (left : Expression) :
    parts.continued (.over precedence) left rest = some (left, rest) := by
  have passes : (Reach.over precedence).passes rest = false := by
    simpa [Reach.passes] using stops.weak
  unfold continued
  rw [passes]
  rfl

theorem continued_of_continuation {longer : Expression}
    (passes : precedence < nextPrecedence tokens)
    (read : parts.continuation left (nextPrecedence tokens) tokens = some (longer, rest))
    (shorter : rest.length < tokens.length) :
    parts.continued (.over precedence) left tokens =
      parts.continued (.over precedence) longer rest := by
  have goesOn : (Reach.over precedence).passes tokens = true := by
    simpa [Reach.passes] using passes
  rw [continued, goesOn, read]
  simp only [if_true, dif_pos shorter]

theorem continued_of_no_continuation (passes : precedence < nextPrecedence tokens)
    (failed : parts.continuation left (nextPrecedence tokens) tokens = none) :
    parts.continued (.over precedence) left tokens = none := by
  have goesOn : (Reach.over precedence).passes tokens = true := by
    simpa [Reach.passes] using passes
  rw [continued, goesOn, failed]
  rfl

/-- A connective is followed by its right side. -/
theorem continuation_connective {token : Token} {operator : Operator} {tightness : Nat}
    (connective : (token, operator, tightness) ∈ connectives) :
    parts.continuation left tightness (token :: tokens) =
      parts.rightSide operator tightness left tokens := by
  simp only [connectives, List.mem_cons, Prod.mk.injEq, List.not_mem_nil, or_false] at connective
  rcases connective with ⟨rfl, rfl, rfl⟩ | ⟨rfl, rfl, rfl⟩ | ⟨rfl, rfl, rfl⟩ | ⟨rfl, rfl, rfl⟩ |
    ⟨rfl, rfl, rfl⟩ <;> rfl

theorem continued_binary {token : Token} {operator : Operator} {tightness : Nat}
    (connective : (token, operator, tightness) ∈ connectives) (tighter : precedence < tightness)
    (plain : anyKeyword ["ANY", "ALL"] tokens = none)
    (read : parts.operand (.over tightness) tokens = some (right, rest))
    (shorter : rest.length ≤ tokens.length) :
    parts.continued (.over precedence) left (token :: tokens) =
      parts.continued (.over precedence) (.binary operator left right) rest := by
  have next := nextPrecedence_connective connective tokens
  refine parts.continued_of_continuation (next ▸ tighter) ?_ (Nat.lt_succ_of_le shorter)
  have side : parts.rightSide operator tightness left tokens =
      some (.binary operator left right, rest) := by
    unfold rightSide
    rw [bind_of_some _ (accepts_of_none plain)]
    simp only [Bool.false_eq_true, if_false]
    rw [bind_of_some _ read]
    rfl
  rw [next, continuation_connective parts connective, side]

theorem continued_binary_of_none {token : Token} {operator : Operator} {tightness : Nat}
    (connective : (token, operator, tightness) ∈ connectives) (tighter : precedence < tightness)
    (plain : anyKeyword ["ANY", "ALL"] tokens = none)
    (failed : parts.operand (.over tightness) tokens = none) :
    parts.continued (.over precedence) left (token :: tokens) = none := by
  have next := nextPrecedence_connective connective tokens
  refine parts.continued_of_no_continuation (next ▸ tighter) ?_
  rw [next, continuation_connective parts connective]
  unfold rightSide
  rw [bind_of_some _ (accepts_of_none plain)]
  simp only [Bool.false_eq_true, if_false]
  rw [bind_of_none _ failed]

theorem continued_isNotNull (weak : precedence < Precedence.isTest) :
    parts.continued (.over precedence) left
        (.word "IS" none :: .word "NOT" none :: .word "NULL" none :: rest) =
      parts.continued (.over precedence) (.isNotNull left) rest := by
  refine parts.continued_of_continuation weak ?_ ?_
  · change parts.isTest left (.word "NOT" none :: .word "NULL" none :: rest) = _
    unfold isTest
    rw [bind_of_some _ (accepts_of_none rfl)]
    simp only [Bool.false_eq_true, if_false]
    rw [bind_of_some _ (accepts_of_some (show _ = some ((), rest) from rfl))]
    rfl
  · simp only [List.length_cons]
    omega

end Parts

/-- The parts of an expression that begins with so many tokens left. -/
def shortened (levels bound : Nat) : Parts :=
  ⟨Enclosed.within levels, fun reach tokens =>
    if tokens.length < bound then (Parts.within levels).operand reach tokens else none⟩

theorem operand_eq (levels : Nat) (reach : Reach) (tokens : List Token) :
    (Parts.within levels).operand reach tokens =
      (shortened levels tokens.length).reaching reach tokens :=
  recursive_eq _ reach tokens

theorem shortened_operand {levels bound : Nat} {tokens : List Token} (reach : Reach)
    (short : tokens.length < bound) :
    (shortened levels bound).operand reach tokens = (Parts.within levels).operand reach tokens :=
  if_pos short

/-- Tokens are read as an expression over a precedence, up to where it has to end. -/
def Reads (levels precedence : Nat) (tokens : List Token) (expression : Expression) : Prop :=
  ∀ rest, Stops precedence rest →
    (Parts.within levels).operand (.over precedence) (tokens ++ rest) = some (expression, rest)

/-- The operands of comparisons. -/
inductive Atom : Token → Expression → Prop where
  | column (column : Column) : Atom (.word column.name none) (.column column.name)
  | number (digits : String) : Atom (.number digits) (.number digits)
  | placeholder (mark : String) : Atom (.placeholder mark) (.placeholder mark)

theorem Atom.reaching {token : Token} {expression : Expression} (atom : Atom token expression)
    (parts : Parts) (reach : Reach) {rest : List Token} (halts : Halts rest) :
    parts.reaching reach (token :: rest) = parts.continued reach expression rest := by
  cases atom with
  | column column => exact parts.reaching_column reach column halts
  | number digits => exact parts.reaching_number reach digits halts
  | placeholder mark => exact parts.reaching_placeholder reach mark halts

theorem Atom.plain {token : Token} {expression : Expression} (atom : Atom token expression)
    (rest : List Token) : anyKeyword ["ANY", "ALL"] (token :: rest) = none := by
  cases atom with
  | column column => cases column <;> rfl
  | number digits => rfl
  | placeholder mark => rfl

variable {levels precedence : Nat} {leftToken rightToken sign : Token} {left right : Expression}
  {comparison : Comparison}

theorem reads_atom (levels precedence : Nat) (atom : Atom leftToken left) :
    Reads levels precedence [leftToken] left := by
  intro rest stops
  rw [List.singleton_append, operand_eq, atom.reaching _ _ stops.halts,
    Parts.continued_of_stops _ stops]

/-- A comparison at the front of an expression. -/
theorem reaching_compared (parts : Parts) (first : Atom leftToken left)
    (second : Atom rightToken right)
    (symbol : (sign, .compare comparison, Precedence.comparison) ∈ connectives)
    (weak : precedence < Precedence.comparison) {rest : List Token}
    (read : parts.operand (.over Precedence.comparison) (rightToken :: rest) = some (right, rest)) :
    parts.reaching (.over precedence) (leftToken :: sign :: rightToken :: rest) =
      parts.continued (.over precedence) (.binary (.compare comparison) left right) rest := by
  rw [first.reaching _ _ (stops_connective symbol _).halts,
    parts.continued_binary symbol weak (second.plain _) read (Nat.le_succ _)]

theorem reads_compared (levels : Nat) (first : Atom leftToken left)
    (second : Atom rightToken right)
    (symbol : (sign, .compare comparison, Precedence.comparison) ∈ connectives)
    (weak : precedence < Precedence.comparison) :
    Reads levels precedence [leftToken, sign, rightToken]
      (.binary (.compare comparison) left right) := by
  intro rest stops
  have read := reads_atom levels _ second rest (stops.mono weak.le)
  change (Parts.within levels).operand _ (leftToken :: sign :: rightToken :: rest) = _
  rw [operand_eq, reaching_compared _ first second symbol weak, Parts.continued_of_stops _ stops]
  rwa [shortened_operand _ (by simp)]

theorem and_connective : (Token.word "AND" none, Operator.and, Precedence.and) ∈ connectives := by
  decide

/-- Two comparisons joined by `AND`. -/
theorem reads_bothCompared {otherLeft otherRight otherSign : Token} {left' right' : Expression}
    {comparison' : Comparison} (first : Atom leftToken left) (second : Atom rightToken right)
    (symbol : (sign, .compare comparison, Precedence.comparison) ∈ connectives)
    (third : Atom otherLeft left') (fourth : Atom otherRight right')
    (otherSymbol : (otherSign, .compare comparison', Precedence.comparison) ∈ connectives) :
    Reads levels 0 [leftToken, sign, rightToken, .word "AND" none, otherLeft, otherSign, otherRight]
      (.binary .and (.binary (.compare comparison) left right)
        (.binary (.compare comparison') left' right')) := by
  intro rest stops
  have before := stops_connective and_connective (otherLeft :: otherSign :: otherRight :: rest)
  have inner := reads_atom levels Precedence.comparison second _ (before.mono (by decide))
  have outer := reads_compared levels third fourth otherSymbol (by decide) rest
    (stops.mono (Nat.zero_le Precedence.and))
  simp only [List.cons_append, List.nil_append] at inner outer ⊢
  rw [operand_eq, reaching_compared _ first second symbol (by decide),
    Parts.continued_binary _ and_connective (by decide) (third.plain _) _ _,
    Parts.continued_of_stops _ stops]
  · rwa [shortened_operand _ (by simp)]
  · simp only [List.length_cons]
    omega
  · rwa [shortened_operand _ (by simp)]

/-- A comparison of a column that may be empty. -/
theorem reads_presentAndCompared (column : Column) (second : Atom rightToken right)
    (symbol : (sign, .compare comparison, Precedence.comparison) ∈ connectives) :
    Reads levels 0 [.word column.name none, .word "IS" none, .word "NOT" none, .word "NULL" none,
        .word "AND" none, .word column.name none, sign, rightToken]
      (.binary .and (.isNotNull (.column column.name))
        (.binary (.compare comparison) (.column column.name) right)) := by
  intro rest stops
  have outer := reads_compared levels (.column column) second symbol (by decide) rest
    (stops.mono (Nat.zero_le Precedence.and))
  simp only [List.cons_append, List.nil_append] at outer ⊢
  rw [operand_eq, (Atom.column column).reaching _ _ (halts_cons (by decide)),
    Parts.continued_isNotNull _ (by decide),
    Parts.continued_binary _ and_connective (by decide) ((Atom.column column).plain _) _ _,
    Parts.continued_of_stops _ stops]
  · rwa [shortened_operand _ (by simp)]
  · simp only [List.length_cons]
    omega

/-- Tokens in parentheses. -/
def nestedTokens (tokens : List Token) : List Token := .symbol "(" :: tokens ++ [.symbol ")"]

/-- Whether tokens do not begin a query. -/
def NoQuery (tokens : List Token) : Prop :=
  ∀ rest, queryAhead (tokens ++ rest) = some (false, tokens ++ rest)

variable {tokens : List Token} {expression : Expression}

theorem reads_nested (inner : Reads levels 0 tokens expression) (condition : NoQuery tokens) :
    Reads (levels + 1) precedence (nestedTokens tokens) (.nested expression) := by
  intro rest stops
  have read := inner _ (stops_closing 0 rest)
  simp only [nestedTokens, List.cons_append, List.append_assoc, List.nil_append]
  rw [operand_eq, Parts.reaching_nested _ _ (condition _)
    (show _ = some (expression, .symbol ")" :: rest) from read) stops.halts,
    Parts.continued_of_stops _ stops]

theorem reads_negated (inner : Reads levels 0 tokens expression) (condition : NoQuery tokens)
    (others : ∀ rest, symbol ")" ((tokens ++ rest).dropWhile TypeEnd.isModifier) = none) :
    Reads (levels + 1) 0 (.word "NOT" none :: nestedTokens tokens)
      (.negation (.nested expression)) := by
  intro rest stops
  have read := reads_nested inner condition rest (stops.mono (Nat.zero_le Precedence.not))
  simp only [nestedTokens, List.cons_append, List.append_assoc, List.nil_append] at read ⊢
  rw [operand_eq, Parts.reaching_negated _ _ (others _) _ stops.halts,
    Parts.continued_of_stops _ stops]
  rwa [shortened_operand _ (by simp)]

/-- Further operands in parentheses, each behind a connective. -/
def joinedTokens (connective : Token) (entries : List (List Token × Expression)) : List Token :=
  entries.flatMap fun entry => connective :: nestedTokens entry.1

/-- What operands in parentheses are read as, joined from left to right. -/
def joinedExpression (operator : Operator) (first : Expression)
    (entries : List (List Token × Expression)) : Expression :=
  entries.foldl (fun left entry => .binary operator left (.nested entry.2)) first

variable {token : Token} {operator : Operator} {tightness : Nat}
  {entries : List (List Token × Expression)}

theorem joinedTokens_cons (token : Token) (entry : List Token × Expression)
    (entries : List (List Token × Expression)) (rest : List Token) :
    joinedTokens token (entry :: entries) ++ rest =
      token :: (nestedTokens entry.1 ++ (joinedTokens token entries ++ rest)) := by
  simp [joinedTokens]

theorem stops_joined (connective : (token, operator, tightness) ∈ connectives) {rest : List Token}
    (stops : Stops 0 rest) (entries : List (List Token × Expression)) :
    Stops tightness (joinedTokens token entries ++ rest) := by
  cases entries with
  | nil => exact stops.mono (Nat.zero_le _)
  | cons entry entries => exact stops_connective connective _

theorem length_joined_le (token : Token) (entry : List Token × Expression)
    (entries : List (List Token × Expression)) (rest : List Token) :
    (joinedTokens token entries ++ rest).length ≤
      (joinedTokens token (entry :: entries) ++ rest).length := by
  rw [joinedTokens_cons]
  exact ((List.sublist_append_right _ _).cons _).length_le

/-- Of a chain of operands with one connective, the first is read and the others follow. -/
theorem continued_joined_cons (connective : (token, operator, tightness) ∈ connectives)
    (positive : 0 < tightness) {entry : List Token × Expression}
    (reads : Reads levels tightness (nestedTokens entry.1) (.nested entry.2))
    {rest : List Token} (stops : Stops 0 rest) {bound : Nat}
    (short : (joinedTokens token (entry :: entries) ++ rest).length ≤ bound)
    (first : Expression) :
    (shortened levels bound).continued (.over 0) first
        (joinedTokens token (entry :: entries) ++ rest) =
      (shortened levels bound).continued (.over 0) (.binary operator first (.nested entry.2))
        (joinedTokens token entries ++ rest) := by
  rw [joinedTokens_cons] at short ⊢
  have read := reads _ (stops_joined connective stops entries)
  rw [← shortened_operand _ (Nat.lt_of_succ_le short)] at read
  exact Parts.continued_binary _ connective positive rfl read
    (List.sublist_append_right _ _).length_le

/-- A chain of operands with one connective is read to its end. -/
theorem continued_joined (connective : (token, operator, tightness) ∈ connectives)
    (positive : 0 < tightness)
    (reads : ∀ entry ∈ entries, Reads levels tightness (nestedTokens entry.1) (.nested entry.2))
    {rest : List Token} (stops : Stops 0 rest) {bound : Nat}
    (short : (joinedTokens token entries ++ rest).length ≤ bound) (first : Expression) :
    (shortened levels bound).continued (.over 0) first (joinedTokens token entries ++ rest) =
      some (joinedExpression operator first entries, rest) := by
  induction entries generalizing first with
  | nil => exact Parts.continued_of_stops _ stops first
  | cons entry entries ih =>
    obtain ⟨firstReads, laterReads⟩ := List.forall_mem_cons.mp reads
    rw [continued_joined_cons connective positive firstReads stops short]
    exact ih laterReads ((length_joined_le token entry entries rest).trans short) _

/-- The first of several operands in parentheses is read before the others. -/
theorem operand_joined (connective : (token, operator, tightness) ∈ connectives)
    (inner : Reads levels 0 tokens expression) (condition : NoQuery tokens) {rest : List Token}
    (stops : Stops 0 rest) :
    (Parts.within (levels + 1)).operand (.over 0)
        (nestedTokens tokens ++ joinedTokens token entries ++ rest) =
      (shortened (levels + 1)
        (nestedTokens tokens ++ joinedTokens token entries ++ rest).length).continued (.over 0)
          (.nested expression) (joinedTokens token entries ++ rest) := by
  have read := inner _ (stops_closing 0 (joinedTokens token entries ++ rest))
  simp only [nestedTokens, List.cons_append, List.append_assoc, List.nil_append]
  rw [operand_eq, Parts.reaching_nested _ _ (condition _)
    (show _ = some (expression, .symbol ")" :: (joinedTokens token entries ++ rest)) from read)
    (stops_joined connective stops entries).halts]

theorem reads_joined (connective : (token, operator, tightness) ∈ connectives)
    (positive : 0 < tightness) (inner : Reads levels 0 tokens expression)
    (condition : NoQuery tokens)
    (others : ∀ entry ∈ entries, Reads levels 0 entry.1 entry.2 ∧ NoQuery entry.1) :
    Reads (levels + 1) 0 (nestedTokens tokens ++ joinedTokens token entries)
      (joinedExpression operator (.nested expression) entries) := by
  intro rest stops
  have reads : ∀ entry ∈ entries,
      Reads (levels + 1) tightness (nestedTokens entry.1) (.nested entry.2) :=
    fun entry member => reads_nested (others entry member).1 (others entry member).2
  rw [operand_joined connective inner condition stops]
  exact continued_joined connective positive reads stops (by simp) _

/-! Where no level is left for a parenthesis, everything around it is refused. -/

/-- Tokens are not read where an expression ends behind them. -/
def Refuses (levels : Nat) (tokens : List Token) : Prop :=
  ∀ rest, Stops 0 rest → (Parts.within levels).operand (.over 0) (tokens ++ rest) = none

/-- No operand begins with these tokens. -/
def Blocks (levels : Nat) (tokens : List Token) : Prop :=
  ∀ reach rest, (Parts.within levels).operand reach (tokens ++ rest) = none

/-- Parentheses take a level, so that one less is left to what they enclose. -/
theorem blocks_nested {depth : Nat} (refuses : ∀ levels < depth, Refuses levels tokens)
    (condition : NoQuery tokens) (few : levels < depth + 1) :
    Blocks levels (nestedTokens tokens) := by
  intro reach rest
  have refused : (Enclosed.within levels).expression (tokens ++ .symbol ")" :: rest) = none := by
    cases levels with
    | zero => rfl
    | succ levels => exact refuses levels (Nat.lt_of_succ_lt_succ few) _ (stops_closing 0 rest)
  simp only [nestedTokens, List.cons_append, List.append_assoc, List.nil_append]
  rw [operand_eq]
  exact Parts.reaching_nested_of_none _ _ (condition _) refused

theorem refuses_negated (blocked : Blocks levels (nestedTokens tokens))
    (others : ∀ rest, symbol ")" ((tokens ++ rest).dropWhile TypeEnd.isModifier) = none) :
    Refuses levels (.word "NOT" none :: nestedTokens tokens) := by
  intro rest _
  have failed := blocked (.over Precedence.not) rest
  simp only [nestedTokens, List.cons_append, List.append_assoc, List.nil_append] at failed ⊢
  rw [operand_eq, Parts.reaching_negated_of_none _ _ (others _)]
  rwa [shortened_operand _ (by simp)]

/-- A chain of operands with one connective fails at the first operand that is blocked. -/
theorem continued_blocked (connective : (token, operator, tightness) ∈ connectives)
    (positive : 0 < tightness)
    (each : ∀ entry ∈ entries, Reads levels tightness (nestedTokens entry.1) (.nested entry.2) ∨
      Blocks levels (nestedTokens entry.1))
    (blocked : ∃ entry ∈ entries, Blocks levels (nestedTokens entry.1))
    {rest : List Token} (stops : Stops 0 rest) {bound : Nat}
    (short : (joinedTokens token entries ++ rest).length ≤ bound) (first : Expression) :
    (shortened levels bound).continued (.over 0) first (joinedTokens token entries ++ rest) =
      none := by
  induction entries generalizing first with
  | nil =>
    obtain ⟨_, none, _⟩ := blocked
    cases none
  | cons entry entries ih =>
    obtain ⟨firstEach, laterEach⟩ := List.forall_mem_cons.mp each
    by_cases here : Blocks levels (nestedTokens entry.1)
    · rw [joinedTokens_cons] at short ⊢
      have failed := here (.over tightness) (joinedTokens token entries ++ rest)
      rw [← shortened_operand _ (Nat.lt_of_succ_le short)] at failed
      exact Parts.continued_binary_of_none _ connective positive rfl failed
    · have later := (List.or_exists_of_exists_mem_cons blocked).resolve_left here
      rw [continued_joined_cons connective positive (firstEach.resolve_right here) stops short]
      exact ih laterEach later ((length_joined_le token entry entries rest).trans short) _

theorem refuses_joined_of_first (blocked : Blocks levels (nestedTokens tokens))
    (others : List Token) : Refuses levels (nestedTokens tokens ++ others) := by
  intro rest _
  rw [List.append_assoc]
  exact blocked _ _

theorem refuses_joined_of_later (connective : (token, operator, tightness) ∈ connectives)
    (positive : 0 < tightness) (inner : Reads levels 0 tokens expression)
    (condition : NoQuery tokens)
    (each : ∀ entry ∈ entries, Reads (levels + 1) tightness (nestedTokens entry.1)
      (.nested entry.2) ∨ Blocks (levels + 1) (nestedTokens entry.1))
    (blocked : ∃ entry ∈ entries, Blocks (levels + 1) (nestedTokens entry.1)) :
    Refuses (levels + 1) (nestedTokens tokens ++ joinedTokens token entries) := by
  intro rest stops
  rw [operand_joined connective inner condition stops]
  exact continued_blocked connective positive each blocked stops (by simp) _

end NodeQuery.Relational.Grammar
