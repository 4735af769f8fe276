import NodeQuery.Proofs.Relational.Outline
import NodeQuery.Proofs.Resolution

/-! Which look-ups resolving makes. A look-up may have state and may fail at any time. Resolving
asks for the targets of every reference criterion once, those inside a criterion before it; each
question depends on the answer to the one before, and the first failure is the last call. -/

namespace NodeQuery

theorem pairwise_ascendingIds (keys : List NodeKey) :
    (ascendingIds keys).Pairwise fun earlier later => compare earlier later = .lt :=
  OrderedMap.pairwise_keys _

namespace Criterion

/-- The criteria on targets inside a criterion, from the innermost outwards. -/
def targets : Criterion → List Criterion
  | .referencesSuch _ target => target.targets ++ [target]
  | _ => []

/-- What a criterion becomes when its targets are the given nodes. -/
def resolvedTo (keys : List NodeKey) : Criterion → NodeSpecification
  | .referencesSuch name _ =>
    .disjunction ((ascendingIds keys).map fun id => .leaf (.references name id))
  | criterion => .leaf criterion

end Criterion

namespace NodeSpecification

/-- The criteria on targets inside a specification, leaf by leaf. -/
def targets (specification : NodeSpecification) : List Criterion :=
  specification.leaves.flatMap Criterion.targets

/-- No leaf is a criterion on the target of a reference. -/
def PathFree (specification : NodeSpecification) : Prop :=
  ∀ name target, .referencesSuch name target ∉ specification.leaves

end NodeSpecification

theorem Criterion.pathFree_resolvedTo (keys : List NodeKey) (criterion : Criterion) :
    (criterion.resolvedTo keys).PathFree := by
  intro name target path
  cases criterion with
  | referencesSuch =>
    simp only [resolvedTo, Specification.leaves, Specification.allLeaves_eq, List.mem_flatMap,
      List.mem_map] at path
    obtain ⟨_, ⟨id, _, rfl⟩, leaf⟩ := path
    cases List.mem_singleton.mp leaf
  | _ => cases List.mem_singleton.mp path

namespace Specification

variable {α β : Type}

mutual

/-- A specification of its own in the place of every leaf. -/
def replaceLeaves (f : α → Specification β) : Specification α → Specification β
  | .everything => .everything
  | .nothing => .nothing
  | .leaf value => f value
  | .negation inner => .negation (replaceLeaves f inner)
  | .conjunction clauses => .conjunction (replaceAllLeaves f clauses)
  | .disjunction clauses => .disjunction (replaceAllLeaves f clauses)

def replaceAllLeaves (f : α → Specification β) : List (Specification α) → List (Specification β)
  | [] => []
  | clause :: clauses => replaceLeaves f clause :: replaceAllLeaves f clauses

end

theorem replaceAllLeaves_eq (f : α → Specification β) (clauses : List (Specification α)) :
    replaceAllLeaves f clauses = clauses.map (replaceLeaves f) :=
  eq_map_of_clausewise rfl (fun _ _ => rfl) clauses

theorem replaceLeaves_compose (f : α → Specification β) (connective : Connective)
    (clauses : List (Specification α)) :
    replaceLeaves f (connective.compose clauses) =
      connective.compose (clauses.map (replaceLeaves f)) := by
  rw [← replaceAllLeaves_eq]
  cases connective <;> rfl

theorem leaves_replaceLeaves (f : α → Specification β) (specification : Specification α) :
    (replaceLeaves f specification).leaves = specification.leaves.flatMap fun leaf =>
      (f leaf).leaves := by
  induction specification using composedOn with
  | everything | nothing => rfl
  | leaf value => exact (List.append_nil _).symm
  | negation inner ih => exact ih
  | composite connective clauses ih =>
    rw [replaceLeaves_compose, leaves_compose, leaves_compose, allLeaves_eq, allLeaves_eq,
      List.flatMap_map, List.flatMap_assoc]
    exact List.flatMap_congr ih

end Specification

/-- A criterion with the answers to its questions, one for each criterion on targets. -/
structure AnsweredLeaf where
  criterion : Criterion
  answers : List (List NodeKey)
  complete : answers.length = criterion.targets.length

/-- The outermost question decides what the criterion becomes. -/
def AnsweredLeaf.resolved (leaf : AnsweredLeaf) : NodeSpecification :=
  leaf.criterion.resolvedTo (leaf.answers.getLastD [])

/-- A question, and the outcome of looking it up. -/
abbrev Call (ε : Type) := NodeSpecification × Except ε (List NodeKey)

/-- A computation that may fail, and has state even then. -/
abbrev Fallible (ε σ : Type) : Type → Type := ExceptT ε (StateM σ)

section

variable {ε σ α β : Type}

/-- A look-up that keeps a record of its calls beside its state. -/
def recorded (lookUp : NodeSpecification → Fallible ε σ (List NodeKey)) :
    NodeSpecification → Fallible ε (σ × List (Call ε)) (List NodeKey) :=
  fun question => ExceptT.mk fun (state, calls) =>
    let (outcome, next) := (lookUp question).run.run state
    (outcome, next, calls ++ [(question, outcome)])

/-- The outcomes of the calls up to a result come from an answer to each question; those up to a
failure from answers to some questions, and the failure. -/
def Concludes (targets : List Criterion) (answers : List (List NodeKey))
    (outcomes : List (Except ε (List NodeKey))) (good : α → Prop) : Except ε α → Prop
  | .ok result => answers.length = targets.length ∧ outcomes = answers.map .ok ∧ good result
  | .error cause => answers.length < targets.length ∧ outcomes = answers.map .ok ++ [.error cause]

theorem run_bind_of_ok {computation : Fallible ε σ α} {start finish : σ} {value : α}
    (ran : computation.run.run start = (.ok value, finish))
    (next : α → Fallible ε σ β) :
    (computation >>= next).run.run start = (next value).run.run finish := by
  rw [ExceptT.run_bind, StateT.run_bind, ran]
  rfl

theorem run_bind_of_error {computation : Fallible ε σ α} {start finish : σ} {cause : ε}
    (ran : computation.run.run start = (.error cause, finish))
    (next : α → Fallible ε σ β) :
    (computation >>= next).run.run start = (.error cause, finish) := by
  rw [ExceptT.run_bind, StateT.run_bind, ran]
  rfl

/-- The calls of a computation, given the answer to the last question before it: each question is
what a criterion on targets becomes by the answer before. The record is kept beside the
computation, which runs the same without. -/
def Asks (targets : List Criterion) (good : List (List NodeKey) → α → Prop)
    (computation : Fallible ε σ α) (recording : Fallible ε (σ × List (Call ε)) α)
    (previous : List NodeKey) : Prop :=
  ∀ (start : σ) (earlier : List (Call ε)), ∃ outcome finish calls answers,
    computation.run.run start = (outcome, finish) ∧
      recording.run.run (start, earlier) = (outcome, finish, earlier ++ calls) ∧
      calls.map Prod.fst = List.zipWith Criterion.resolvedTo (previous :: answers) targets ∧
      Concludes targets answers (calls.map Prod.snd) (good answers) outcome

variable {targets : List Criterion} {previous : List NodeKey}

theorem asks_pure {good : List (List NodeKey) → α → Prop} {value : α} (holds : good [] value) :
    Asks [] good (pure value : Fallible ε σ α) (pure value) previous := by
  intro start earlier
  refine ⟨.ok value, start, [], [], rfl, ?_, rfl, rfl, rfl, holds⟩
  rw [List.append_nil]
  rfl

/-- A single call. -/
theorem asks_lookUp (lookUp : NodeSpecification → Fallible ε σ (List NodeKey))
    (target : Criterion) :
    Asks [target] (fun answers keys => answers = [keys]) (lookUp (target.resolvedTo previous))
      (recorded lookUp (target.resolvedTo previous)) previous := by
  intro start earlier
  cases ran : (lookUp (target.resolvedTo previous)).run.run start with
  | mk outcome finish =>
    have record : (recorded lookUp (target.resolvedTo previous)).run.run (start, earlier) =
        (outcome, finish, earlier ++ [(target.resolvedTo previous, outcome)]) := by
      change (let (outcome, next) := (lookUp (target.resolvedTo previous)).run.run start
        (outcome, next, earlier ++ [(target.resolvedTo previous, outcome)])) = _
      rw [ran]
    cases outcome with
    | ok keys => exact ⟨.ok keys, finish, _, [keys], rfl, record, rfl, rfl, rfl, rfl⟩
    | error cause => exact ⟨.error cause, finish, _, [], rfl, record, rfl, Nat.zero_lt_one, rfl⟩

/-- The questions of a second part continue from the last answer in the first. -/
theorem zipWith_resolvedTo_append {answers more : List (List NodeKey)} {others : List Criterion}
    (complete : answers.length = targets.length) :
    List.zipWith Criterion.resolvedTo (previous :: (answers ++ more)) (targets ++ others) =
      List.zipWith Criterion.resolvedTo (previous :: answers) targets ++
        List.zipWith Criterion.resolvedTo (answers.getLastD previous :: more) others := by
  induction targets generalizing previous answers with
  | nil =>
    rw [List.length_eq_zero_iff.mp complete]
    rfl
  | cons target targets ih =>
    cases answers with
    | nil => cases complete
    | cons answer answers =>
      rw [List.getLastD_cons]
      exact congrArg _ (ih (Nat.succ.inj complete))

/-- As long as answers are missing, nothing is asked of a second part. -/
theorem zipWith_resolvedTo_of_fewer {answers : List (List NodeKey)} {others : List Criterion}
    (fewer : answers.length < targets.length) :
    List.zipWith Criterion.resolvedTo (previous :: answers) (targets ++ others) =
      List.zipWith Criterion.resolvedTo (previous :: answers) targets := by
  induction targets generalizing previous answers with
  | nil => cases fewer
  | cons target targets ih =>
    cases answers with
    | nil => rfl
    | cons answer answers =>
      exact congrArg (List.cons (target.resolvedTo previous)) (ih (Nat.lt_of_succ_lt_succ fewer))

theorem concludes_append {others : List Criterion} {answers more : List (List NodeKey)}
    {outcomes : List (Except ε (List NodeKey))} {good : α → Prop} {outcome : Except ε α}
    (complete : answers.length = targets.length)
    (ends : Concludes others more outcomes good outcome) :
    Concludes (targets ++ others) (answers ++ more) (answers.map .ok ++ outcomes) good outcome := by
  cases outcome with
  | ok result =>
    obtain ⟨completeToo, answered, holds⟩ := ends
    refine ⟨?_, ?_, holds⟩
    · rw [List.length_append, List.length_append, complete, completeToo]
    · rw [List.map_append, answered]
  | error cause =>
    obtain ⟨fewer, failed⟩ := ends
    refine ⟨?_, ?_⟩
    · rw [List.length_append, List.length_append, complete]
      exact Nat.add_lt_add_left fewer _
    · rw [List.map_append, failed, List.append_assoc]

/-- One computation after another. -/
theorem asks_bind {others : List Criterion} {first : List (List NodeKey) → α → Prop}
    {good : List (List NodeKey) → β → Prop} {computation : Fallible ε σ α}
    {recording : Fallible ε (σ × List (Call ε)) α} {next : α → Fallible ε σ β}
    {nextRecording : α → Fallible ε (σ × List (Call ε)) β}
    (asks : Asks targets first computation recording previous)
    (asksNext : ∀ answers value, answers.length = targets.length → first answers value →
      Asks others (fun more result => good (answers ++ more) result) (next value)
        (nextRecording value) (answers.getLastD previous)) :
    Asks (targets ++ others) good (computation >>= next) (recording >>= nextRecording)
      previous := by
  intro start earlier
  obtain ⟨outcome, middle, calls, answers, ran, record, questions, ends⟩ := asks start earlier
  cases outcome with
  | error cause =>
    obtain ⟨fewer, failed⟩ := ends
    refine ⟨.error cause, middle, calls, answers, run_bind_of_error ran _,
      run_bind_of_error record _, ?_, ?_, failed⟩
    · rw [questions, zipWith_resolvedTo_of_fewer fewer]
    · rw [List.length_append]
      exact Nat.lt_add_right _ fewer
  | ok value =>
    obtain ⟨complete, answered, holds⟩ := ends
    obtain ⟨outcome, finish, rest, more, ranNext, recordNext, questionsNext, endsNext⟩ :=
      asksNext answers value complete holds middle (earlier ++ calls)
    refine ⟨outcome, finish, calls ++ rest, answers ++ more, ?_, ?_, ?_, ?_⟩
    · rw [run_bind_of_ok ran, ranNext]
    · rw [run_bind_of_ok record, recordNext, List.append_assoc]
    · rw [List.map_append, questions, questionsNext, zipWith_resolvedTo_append complete]
    · rw [List.map_append, answered]
      exact concludes_append complete endsNext

/-- Complete answers may be known to be good for another reason. -/
theorem Asks.mono {first good : List (List NodeKey) → α → Prop}
    {computation : Fallible ε σ α} {recording : Fallible ε (σ × List (Call ε)) α}
    (asks : Asks targets first computation recording previous)
    (better : ∀ answers value, answers.length = targets.length → first answers value →
      good answers value) : Asks targets good computation recording previous := by
  intro start earlier
  obtain ⟨outcome, finish, calls, answers, ran, record, questions, ends⟩ := asks start earlier
  refine ⟨outcome, finish, calls, answers, ran, record, questions, ?_⟩
  cases outcome with
  | ok value =>
    obtain ⟨complete, answered, holds⟩ := ends
    exact ⟨complete, answered, better answers value complete holds⟩
  | error cause => exact ends

/-- Computing on from a result without further calls. -/
theorem asks_map {first : List (List NodeKey) → α → Prop} {good : List (List NodeKey) → β → Prop}
    {computation : Fallible ε σ α} {recording : Fallible ε (σ × List (Call ε)) α} (f : α → β)
    (asks : Asks targets first computation recording previous)
    (better : ∀ answers value, first answers value → good answers (f value)) :
    Asks targets good (computation >>= fun value => pure (f value))
      (recording >>= fun value => pure (f value)) previous := by
  rw [← List.append_nil targets]
  refine asks_bind asks fun answers value _ holds => asks_pure ?_
  rw [List.append_nil]
  exact better answers value holds

variable (lookUp : NodeSpecification → Fallible ε σ (List NodeKey))

theorem Criterion.asks_resolve (criterion : Criterion) :
    Asks criterion.targets (fun answers resolved =>
        ∀ default, resolved = criterion.resolvedTo (answers.getLastD default))
      (criterion.resolve lookUp) (criterion.resolve (recorded lookUp)) previous := by
  induction criterion with
  | referencesSuch name target ih =>
    refine asks_bind ih fun answers inner _ resolved => ?_
    rw [resolved previous]
    refine asks_map _ (asks_lookUp lookUp target) fun more keys answered default => ?_
    rw [answered, List.getLastD_concat]
    rfl
  | _ => exact asks_pure fun _ => rfl

namespace NodeSpecification

/-- Each leaf has been replaced by what it becomes by the last of the answers to its questions. -/
def ResolvedBy (specification : NodeSpecification) (answers : List (List NodeKey))
    (resolved : NodeSpecification) : Prop :=
  ∃ answered : Specification AnsweredLeaf,
    answered.mapLeaves AnsweredLeaf.criterion = specification ∧
    answered.leaves.flatMap AnsweredLeaf.answers = answers ∧
    answered.replaceLeaves AnsweredLeaf.resolved = resolved

def AllResolvedBy (clauses : List NodeSpecification) (answers : List (List NodeKey))
    (resolved : List NodeSpecification) : Prop :=
  ∃ answered : List (Specification AnsweredLeaf),
    answered.map (Specification.mapLeaves AnsweredLeaf.criterion) = clauses ∧
    (Specification.allLeaves answered).flatMap AnsweredLeaf.answers = answers ∧
    answered.map (Specification.replaceLeaves AnsweredLeaf.resolved) = resolved

theorem AllResolvedBy.compose {clauses resolved : List NodeSpecification}
    {answers : List (List NodeKey)} (all : AllResolvedBy clauses answers resolved)
    (connective : Specification.Connective) :
    ResolvedBy (connective.compose clauses) answers (connective.compose resolved) := by
  obtain ⟨answered, rfl, rfl, rfl⟩ := all
  refine ⟨connective.compose answered, ?_, ?_, ?_⟩
  · rw [Specification.mapLeaves_compose]
  · rw [Specification.leaves_compose]
  · rw [Specification.replaceLeaves_compose]

theorem AllResolvedBy.cons {clause resolved : NodeSpecification}
    {clauses others : List NodeSpecification} {answers more : List (List NodeKey)}
    (first : ResolvedBy clause answers resolved) (rest : AllResolvedBy clauses more others) :
    AllResolvedBy (clause :: clauses) (answers ++ more) (resolved :: others) := by
  obtain ⟨answered, rfl, rfl, rfl⟩ := first
  obtain ⟨answeredToo, rfl, rfl, rfl⟩ := rest
  exact ⟨answered :: answeredToo, rfl, List.flatMap_append, rfl⟩

theorem asks_resolveAll {clauses : List NodeSpecification}
    (each : ∀ clause ∈ clauses, ∀ previous, Asks clause.targets (ResolvedBy clause)
      (resolve lookUp clause) (resolve (recorded lookUp) clause) previous)
    (previous : List NodeKey) :
    Asks ((Specification.allLeaves clauses).flatMap Criterion.targets) (AllResolvedBy clauses)
      (resolveAll lookUp clauses) (resolveAll (recorded lookUp) clauses) previous := by
  induction clauses generalizing previous with
  | nil => exact asks_pure ⟨[], rfl, rfl, rfl⟩
  | cons clause clauses ih =>
    rw [Specification.allLeaves, List.flatMap_append]
    refine asks_bind (each clause List.mem_cons_self previous) fun answers first _ answered => ?_
    refine asks_map _ (ih (fun other member => each other (List.mem_cons_of_mem _ member)) _) ?_
    intro more rest answeredRest
    exact .cons answered answeredRest

theorem asks_resolve (specification : NodeSpecification) (previous : List NodeKey) :
    Asks specification.targets (ResolvedBy specification) (specification.resolve lookUp)
      (specification.resolve (recorded lookUp)) previous := by
  induction specification using Specification.inductionOn generalizing previous with
  | everything => exact asks_pure ⟨.everything, rfl, rfl, rfl⟩
  | nothing => exact asks_pure ⟨.nothing, rfl, rfl, rfl⟩
  | leaf criterion =>
    unfold targets
    rw [Specification.leaves, List.flatMap_singleton]
    refine (criterion.asks_resolve lookUp).mono fun answers resolved complete become => ?_
    exact ⟨.leaf ⟨criterion, answers, complete⟩, rfl, List.append_nil _, (become []).symm⟩
  | negation inner ih =>
    refine asks_map _ (ih previous) ?_
    rintro _ _ ⟨answered, rfl, rfl, rfl⟩
    exact ⟨.negation answered, rfl, rfl, rfl⟩
  | conjunction clauses ih =>
    exact asks_map _ (asks_resolveAll lookUp ih previous) fun _ _ all => all.compose .and
  | disjunction clauses ih =>
    exact asks_map _ (asks_resolveAll lookUp ih previous) fun _ _ all => all.compose .or

theorem ResolvedBy.pathFree {specification resolved : NodeSpecification}
    {answers : List (List NodeKey)} (answered : ResolvedBy specification answers resolved) :
    resolved.PathFree := by
  obtain ⟨answered, -, -, rfl⟩ := answered
  intro name target path
  rw [Specification.leaves_replaceLeaves] at path
  obtain ⟨leaf, -, inside⟩ := List.mem_flatMap.mp path
  exact leaf.criterion.pathFree_resolvedTo _ name target inside

/-- Resolving calls the look-up once for each criterion on targets, leaf by leaf and in a leaf from
the innermost outwards, until a call fails, and then has failed itself. It asks only for what can be
answered without following references: for what the criterion becomes by the answer before, which is
a choice among the ids of that answer, each once and in ascending order. The result has the last
choice of each leaf in its place, and is otherwise the specification. -/
theorem resolve_calls (specification : NodeSpecification) (start : σ) :
    (∀ keys, (ascendingIds keys).Pairwise (fun earlier later => compare earlier later = .lt) ∧
      ∀ id, id ∈ ascendingIds keys ↔ ∃ key ∈ keys, key.id = id) ∧
    ∃ outcome finish calls answers,
      (specification.resolve lookUp).run.run start = (outcome, finish) ∧
      (specification.resolve (recorded lookUp)).run.run (start, []) = (outcome, finish, calls) ∧
      calls.map Prod.fst = List.zipWith Criterion.resolvedTo ([] :: answers) specification.targets ∧
      (∀ call ∈ calls, call.1.PathFree) ∧
      Concludes specification.targets answers (calls.map Prod.snd) (fun resolved =>
        resolved.PathFree ∧ specification.ResolvedBy answers resolved) outcome := by
  refine ⟨fun keys => ⟨pairwise_ascendingIds keys, fun id => mem_ascendingIds⟩, ?_⟩
  have better (answers : List (List NodeKey)) (resolved : NodeSpecification)
      (_ : answers.length = specification.targets.length)
      (answered : specification.ResolvedBy answers resolved) :
      resolved.PathFree ∧ specification.ResolvedBy answers resolved :=
    ⟨answered.pathFree, answered⟩
  obtain ⟨outcome, finish, calls, answers, ran, record, questions, ends⟩ :=
    (asks_resolve lookUp specification []).mono better start []
  refine ⟨outcome, finish, calls, answers, ran, record, questions, fun call made => ?_, ends⟩
  have asked : call.1 ∈ List.zipWith Criterion.resolvedTo ([] :: answers) specification.targets :=
    questions ▸ List.mem_map_of_mem made
  rw [← List.map_uncurry_zip_eq_zipWith] at asked
  obtain ⟨⟨keys, target⟩, -, same⟩ := List.mem_map.mp asked
  rw [← same]
  exact target.pathFree_resolvedTo keys

end NodeSpecification

end

end NodeQuery
