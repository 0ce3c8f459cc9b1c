import FuzzIntake.Rehearsal.Database

/-!
# What a plan says to a database

An open relational store writes a plan in one conversation, whatever the database answers.  It
opens a transaction and sends the statements of the plan up to the first that fails, then it
commits or rolls back, and what it reports is read off the answers alone.
-/

namespace FuzzIntake

/-- A statement and what a database answered to it. -/
abbrev RoundTrip : Type :=
  Statement × Except DatabaseError Int64

/-- Statements that a database answers one after the other, and the database afterwards. -/
inductive RoundTrips {σ : Type} [Database σ] : σ → List RoundTrip → σ → Prop
  | none (database : σ) : RoundTrips database [] database
  | next {database later last : σ} {statement : Statement}
      {answer : Except DatabaseError Int64} {log : List RoundTrip} :
      Database.answer statement database = (answer, later) →
      RoundTrips later log last →
      RoundTrips database ((statement, answer) :: log) last

/-- The numbers of the fuzzers that were asked for and came, in order. -/
def fetched (log : List RoundTrip) : List Int :=
  log.filterMap fun trip =>
    match trip with
    | (.createFuzzer, .ok id) => some id.toInt
    | _ => none

/-- All of some statements were sent in order, and none failed. -/
structure AllSucceeded (statements : List Statement) (log : List RoundTrip) : Prop where
  sent : log.map Prod.fst = statements
  succeeded : ∀ trip ∈ log, trip.2.isOk = true

/-- Statements sent for groups of rows up to the first that fails, and what came of it. -/
inductive Writing (planned : List (RowGroup × Statement)) :
    List RoundTrip → Except (RowGroup × DatabaseError) (List Int) → Prop
  /-- None failed. -/
  | whole {done : List RoundTrip} :
      AllSucceeded (planned.map Prod.snd) done →
      Writing planned done (.ok (fetched done))
  /-- One failed, and nothing was sent for what follows it. -/
  | broken {earlier later : List (RowGroup × Statement)} {group : RowGroup}
      {statement : Statement} {done : List RoundTrip} {error : DatabaseError} :
      planned = earlier ++ (group, statement) :: later →
      AllSucceeded (earlier.map Prod.snd) done →
      Writing planned (done ++ [(statement, .error error)]) (.error (group, error))

/-- The statement that ends a transaction; if it fails the library rolls back once more. -/
inductive Ending (statement : Statement) : Except DatabaseError Int64 → List RoundTrip → Prop
  | taken (id : Int64) : Ending statement (.ok id) [(statement, .ok id)]
  | failed (error : DatabaseError) (answer : Except DatabaseError Int64) :
      Ending statement (.error error) [(statement, .error error), (.rollback, answer)]

namespace Plan

/-- A statement with its group, if the group has rows for it. -/
def groupIfAny {α : Type} (rows : List α) (group : RowGroup) (statement : Statement) :
    List (RowGroup × Statement) :=
  if rows = [] then [] else [(group, statement)]

/-- One request for each fuzzer, then one statement for each kind of rows that there are. -/
def writing (plan : Plan) : List (RowGroup × Statement) :=
  List.replicate plan.fuzzers (.programs, .createFuzzer) ++
    groupIfAny plan.programs .programs
      (.insertPrograms (Latest.rows ProgramRow.program plan.programs)) ++
    groupIfAny plan.executions .executions
      (.insertExecutions (Latest.rows ExecutionRow.key plan.executions)) ++
    groupIfAny plan.feedback .feedback
      (.setFeedback (Latest.rows FeedbackRow.program plan.feedback)) ++
    groupIfAny plan.deletes .deletes (.deletePrograms plan.deletes)

/-- How a plan is written in one transaction: the conversation and the report. -/
inductive Transaction (plan : Plan) : List RoundTrip → Except StoreError Receipt → Prop
  /-- The transaction is not opened. -/
  | unopened (error : DatabaseError) :
      Transaction plan [(.start, .error error)] (.error (.transaction error.message))
  /-- A statement fails, and the transaction is rolled back at once. -/
  | abandoned {opening : Int64} {log ending : List RoundTrip} {group : RowGroup}
      {error : DatabaseError} {answer : Except DatabaseError Int64} :
      Writing plan.writing log (.error (group, error)) →
      Ending .rollback answer ending →
      Transaction plan ((.start, .ok opening) :: (log ++ ending))
        (.error (.group group error.message))
  /-- No statement fails but the commit. -/
  | uncommitted {opening : Int64} {log ending : List RoundTrip} {error : DatabaseError} :
      AllSucceeded (plan.writing.map Prod.snd) log →
      Ending .commit (.error error) ending →
      Transaction plan ((.start, .ok opening) :: (log ++ ending))
        (.error (.transaction error.message))
  /-- The commit is taken. -/
  | committed {opening closing : Int64} {log : List RoundTrip} :
      AllSucceeded (plan.writing.map Prod.snd) log →
      Transaction plan ((.start, .ok opening) :: (log ++ [(.commit, .ok closing)]))
        (.ok ⟨fetched log, plan.programs.length, plan.executions.length, plan.feedback.length,
          plan.deletes.length⟩)

end Plan

namespace RelationalStore

variable {σ : Type} [Database σ]

/-- What a store sends and what its database answers, from one state of the store to another. -/
structure Sends (store : RelationalStore σ) (log : List RoundTrip) (next : RelationalStore σ) :
    Prop where
  exchanged : RoundTrips store.database log next.database
  sent : next.sent = store.sent ++ log.map Prod.fst
  closed : next.closed = store.closed

end RelationalStore

/-! ## The statements of a plan -/

namespace Plan

/-- The statements of the groups with rows are those of one group after the other. -/
theorem flatMap_filter_cons
    (plan : Plan)
    (group : RowGroup)
    (others : List RowGroup)
    (statements : RowGroup → List (RowGroup × Statement)) :
    ((group :: others).filter fun group => 0 < plan.rows group).flatMap statements =
      (if 0 < plan.rows group then statements group else []) ++
        (others.filter fun group => 0 < plan.rows group).flatMap statements := by
  by_cases filled : 0 < plan.rows group
  · simp [filled]
  · simp [filled]

theorem ite_length_eq_groupIfAny
    {α : Type}
    (rows : List α)
    (group : RowGroup)
    (statement : Statement) :
    (if 0 < rows.length then [(group, statement)] else []) = groupIfAny rows group statement := by
  cases rows <;> rfl

/-- The statements of the group of programs, which also asks for the fuzzers. -/
theorem programStatements_eq (plan : Plan) :
    (if 0 < plan.rows .programs then
        (plan.groupStatements .programs).map (RowGroup.programs, ·) else []) =
      List.replicate plan.fuzzers (.programs, .createFuzzer) ++
        groupIfAny plan.programs .programs
          (.insertPrograms (Latest.rows ProgramRow.program plan.programs)) := by
  have named : (plan.groupStatements .programs).map (RowGroup.programs, ·) =
      List.replicate plan.fuzzers (.programs, .createFuzzer) ++
        groupIfAny plan.programs .programs
          (.insertPrograms (Latest.rows ProgramRow.program plan.programs)) := by
    rw [groupStatements, List.map_append, List.map_replicate, groupIfAny]
    cases plan.programs <;> rfl
  split
  · exact named
  · next rowless =>
      have nothing : plan.fuzzers = 0 ∧ plan.programs = [] := by
        simpa [rows] using rowless
      rw [nothing.1, nothing.2]
      rfl

/-- The statements that write a plan are a request for each fuzzer and one statement for each
kind of rows. -/
theorem statements_eq_writing (plan : Plan) : plan.statements = plan.writing := by
  rw [statements, groups, RowGroup.order, flatMap_filter_cons, flatMap_filter_cons,
    flatMap_filter_cons, flatMap_filter_cons, programStatements_eq]
  simp only [groupStatements, rows, List.map_cons, List.map_nil, ite_length_eq_groupIfAny,
    List.filter_nil, List.flatMap_nil, List.append_nil, writing, List.append_assoc]

end Plan

/-! ## The conversation -/

/-- One conversation after the other is a conversation. -/
theorem RoundTrips.append
    {σ : Type}
    [Database σ]
    {first middle last : σ}
    {before after : List RoundTrip}
    (earlier : RoundTrips first before middle)
    (later : RoundTrips middle after last) :
    RoundTrips first (before ++ after) last := by
  induction earlier with
  | none => exact later
  | next answered _ inductionHypothesis => exact .next answered (inductionHypothesis later)

@[simp] theorem fetched_nil : fetched [] = [] := rfl

theorem fetched_cons (trip : RoundTrip) (log : List RoundTrip) :
    fetched (trip :: log) = fetched [trip] ++ fetched log :=
  List.filterMap_append (l := [trip])

theorem AllSucceeded.cons
    {statements : List Statement}
    {log : List RoundTrip}
    (later : AllSucceeded statements log)
    (statement : Statement)
    (id : Int64) :
    AllSucceeded (statement :: statements) ((statement, .ok id) :: log) where
  sent := by rw [List.map_cons, later.sent]
  succeeded := List.forall_mem_cons.mpr ⟨rfl, later.succeeded⟩

/-- A statement that succeeds comes before what is written after it. -/
theorem Writing.cons
    {planned : List (RowGroup × Statement)}
    {log : List RoundTrip}
    {outcome : Except (RowGroup × DatabaseError) (List Int)}
    (later : Writing planned log outcome)
    (group : RowGroup)
    (statement : Statement)
    (id : Int64) :
    Writing ((group, statement) :: planned) ((statement, .ok id) :: log)
      (outcome.map (fetched [(statement, .ok id)] ++ ·)) := by
  cases later with
  | whole succeeded =>
      rw [Except.map, ← fetched_cons]
      exact .whole (succeeded.cons statement id)
  | broken cut succeeded =>
      rw [cut, ← List.cons_append, ← List.cons_append]
      exact .broken rfl (succeeded.cons statement id)

namespace RelationalStore

variable {σ : Type} [Database σ] {store middle next : RelationalStore σ}

theorem Sends.none (store : RelationalStore σ) : store.Sends [] store where
  exchanged := .none _
  sent := (List.append_nil _).symm
  closed := rfl

theorem Sends.append
    {before after : List RoundTrip}
    (earlier : store.Sends before middle)
    (later : middle.Sends after next) :
    store.Sends (before ++ after) next where
  exchanged := earlier.exchanged.append later.exchanged
  sent := by rw [later.sent, earlier.sent, List.map_append, List.append_assoc]
  closed := later.closed.trans earlier.closed

/-- A statement is sent once and answered by the database. -/
theorem sends_of_send
    {statement : Statement}
    {answer : Except DatabaseError Int64}
    (answered : store.send statement = (answer, next)) :
    store.Sends [(statement, answer)] next := by
  obtain ⟨rfl, rfl⟩ := Prod.mk.inj answered
  exact {
    exchanged := .next rfl (.none _)
    sent := rfl
    closed := rfl }

theorem write_cons_of_error
    {given : List Int}
    {group : RowGroup}
    {statement : Statement}
    {others : List (RowGroup × Statement)}
    {error : DatabaseError}
    (answered : store.send statement = (.error error, next)) :
    store.write given ((group, statement) :: others) = (.error (group, error), next) := by
  rw [write, answered]

theorem write_cons_of_ok
    {given : List Int}
    {group : RowGroup}
    {statement : Statement}
    {others : List (RowGroup × Statement)}
    {id : Int64}
    (answered : store.send statement = (.ok id, next)) :
    store.write given ((group, statement) :: others) =
      next.write (given ++ fetched [(statement, .ok id)]) others := by
  rw [write, answered]
  cases statement with
  | createFuzzer => rfl
  | _ => exact congrArg (fun given => next.write given others) (List.append_nil given).symm

/-- Statements are sent up to the first that fails. -/
theorem writing_of_write
    {planned : List (RowGroup × Statement)}
    {given : List Int}
    {result : Except (RowGroup × DatabaseError) (List Int)}
    (written : store.write given planned = (result, next)) :
    ∃ log outcome, store.Sends log next ∧ Writing planned log outcome ∧
      result = outcome.map (given ++ ·) := by
  induction planned generalizing store given with
  | nil =>
      obtain ⟨rfl, rfl⟩ := Prod.mk.inj written
      refine ⟨[], .ok [], .none store, .whole ⟨rfl, nofun⟩, ?_⟩
      exact congrArg Except.ok (List.append_nil given).symm
  | cons first others inductionHypothesis =>
      obtain ⟨group, statement⟩ := first
      rcases answered : store.send statement with ⟨answer, middle⟩
      have sends := sends_of_send answered
      cases answer with
      | error error =>
          rw [write_cons_of_error answered] at written
          obtain ⟨rfl, rfl⟩ := Prod.mk.inj written
          have nothing : AllSucceeded (([] : List (RowGroup × Statement)).map Prod.snd) [] :=
            ⟨rfl, nofun⟩
          exact ⟨_, _, sends, .broken rfl nothing, rfl⟩
      | ok id =>
          rw [write_cons_of_ok answered] at written
          obtain ⟨log, outcome, sendsOthers, writing, rfl⟩ := inductionHypothesis written
          refine ⟨_, _, sends.append sendsOthers, writing.cons group statement id, ?_⟩
          cases outcome with
          | error failure => rfl
          | ok fuzzerIds => exact congrArg Except.ok (List.append_assoc _ _ _)

/-- The end of a transaction is sent, and rolled back once more if it fails. -/
theorem ending_of_finish
    {statement : Statement}
    {answer : Except DatabaseError Int64}
    (finished : store.finish statement = (answer, next)) :
    ∃ ending, store.Sends ending next ∧ Ending statement answer ending := by
  rcases answered : store.send statement with ⟨first, middle⟩
  have sends := sends_of_send answered
  rw [finish, answered] at finished
  cases first with
  | ok id =>
      obtain ⟨rfl, rfl⟩ := Prod.mk.inj finished
      exact ⟨_, sends, .taken id⟩
  | error error =>
      obtain ⟨rfl, rfl⟩ := Prod.mk.inj finished
      exact ⟨_, sends.append (sends_of_send rfl), .failed error _⟩

end RelationalStore

/-! ## The transaction -/

namespace Plan

/-- No statement of a plan ends a transaction. -/
theorem isControl_of_mem_writing
    {plan : Plan}
    {planned : RowGroup × Statement}
    (present : planned ∈ plan.writing) :
    planned.2.isControl = false := by
  simp only [writing, groupIfAny, List.mem_append, List.mem_replicate] at present
  rcases present with (((⟨-, rfl⟩ | present) | present) | present) | present
  · rfl
  all_goals
    split at present
    · cases present
    · rw [List.mem_singleton.mp present]
      rfl

/-- What was sent for a plan has no commit in it. -/
theorem commit_not_mem_of_writing
    {plan : Plan}
    {log : List RoundTrip}
    {outcome : Except (RowGroup × DatabaseError) (List Int)}
    (writing : Writing plan.writing log outcome)
    (answer : Except DatabaseError Int64) :
    (Statement.commit, answer) ∉ log := by
  intro present
  have planned : ∀ statement ∈ log.map Prod.fst, ∃ group, (group, statement) ∈ plan.writing := by
    cases writing with
    | whole succeeded =>
        rw [succeeded.sent]
        intro statement sent
        obtain ⟨⟨group, same⟩, isPlanned, rfl⟩ := List.mem_map.mp sent
        exact ⟨group, isPlanned⟩
    | @broken earlier later group failing done error cut succeeded =>
        intro statement sent
        rw [List.map_append, succeeded.sent, List.mem_append] at sent
        rw [cut]
        rcases sent with before | last
        · obtain ⟨⟨group, same⟩, isPlanned, rfl⟩ := List.mem_map.mp before
          exact ⟨group, List.mem_append_left _ isPlanned⟩
        · obtain rfl := List.mem_singleton.mp last
          exact ⟨group, List.mem_append_right _ List.mem_cons_self⟩
  obtain ⟨group, isPlanned⟩ := planned .commit (List.mem_map_of_mem present)
  cases isControl_of_mem_writing isPlanned

/-- A plan is reported as written exactly if its commit was taken. -/
theorem Transaction.exists_ok_iff
    {plan : Plan}
    {log : List RoundTrip}
    {result : Except StoreError Receipt}
    (transaction : Transaction plan log result) :
    (∃ receipt, result = .ok receipt) ↔ ∃ id, (Statement.commit, .ok id) ∈ log := by
  cases transaction with
  | unopened error => simp
  | abandoned writing ending =>
      refine iff_of_false (by simp) ?_
      rintro ⟨id, present⟩
      rcases List.mem_append.mp ((List.mem_cons.mp present).resolve_left (by simp)) with
        sent | ended
      · exact commit_not_mem_of_writing writing (.ok id) sent
      · cases ending <;> simp at ended
  | uncommitted succeeded ending =>
      refine iff_of_false (by simp) ?_
      rintro ⟨id, present⟩
      rcases List.mem_append.mp ((List.mem_cons.mp present).resolve_left (by simp)) with
        sent | ended
      · exact commit_not_mem_of_writing (.whole succeeded) (.ok id) sent
      · cases ending with
        | failed error answer => simp at ended
  | @committed opening closing log succeeded =>
      exact iff_of_true ⟨_, rfl⟩ ⟨closing, by simp⟩

end Plan

namespace RelationalStore

variable {σ : Type} [Database σ] {store next : RelationalStore σ}

/-- An open store writes a plan in one transaction. -/
theorem transaction_of_apply
    {plan : Plan}
    {result : Except StoreError Receipt}
    (opened : store.closed = false)
    (applied : store.apply plan = (result, next)) :
    ∃ log, store.Sends log next ∧ plan.Transaction log result := by
  rcases started : store.send .start with ⟨opening, begun⟩
  have starts := sends_of_send started
  rw [apply, if_neg (by simp [opened]), started] at applied
  cases opening with
  | error error =>
      obtain ⟨rfl, rfl⟩ := Prod.mk.inj applied
      exact ⟨_, starts, .unopened error⟩
  | ok id =>
      rcases written : begun.write [] plan.statements with ⟨outcome, done⟩
      obtain ⟨log, unprefixed, sends, writing, rfl⟩ := writing_of_write written
      rw [Plan.statements_eq_writing] at writing
      simp only [written] at applied
      cases writing with
      | broken cut succeeded =>
          rcases finished : done.finish .rollback with ⟨answer, last⟩
          obtain ⟨ending, sendsEnd, ended⟩ := ending_of_finish finished
          have sendsAll := starts.append (sends.append sendsEnd)
          rw [List.singleton_append] at sendsAll
          simp only [Except.map, finished] at applied
          obtain ⟨rfl, rfl⟩ := Prod.mk.inj applied
          exact ⟨_, sendsAll, .abandoned (.broken cut succeeded) ended⟩
      | whole succeeded =>
          rcases finished : done.finish .commit with ⟨answer, last⟩
          obtain ⟨ending, sendsEnd, ended⟩ := ending_of_finish finished
          have sendsAll := starts.append (sends.append sendsEnd)
          rw [List.singleton_append] at sendsAll
          simp only [Except.map, finished] at applied
          cases answer with
          | ok closing =>
              obtain ⟨rfl, rfl⟩ := Prod.mk.inj applied
              cases ended
              exact ⟨_, sendsAll, .committed succeeded⟩
          | error error =>
              obtain ⟨rfl, rfl⟩ := Prod.mk.inj applied
              exact ⟨_, sendsAll, .uncommitted succeeded ended⟩

/-- An open store writes a plan in one transaction, whatever its database answers: it opens the
transaction, sends the requests for fuzzers and one statement for each kind of rows up to the
first that fails, and then commits if none failed and rolls back otherwise.  It reports the
plan as written exactly if the commit was taken. -/
theorem converses_in_one_transaction
    (plan : Plan)
    {store : RelationalStore σ}
    (opened : store.closed = false) :
    ∃ log, store.Sends log (store.apply plan).2 ∧
      plan.Transaction log (store.apply plan).1 ∧
      ((∃ receipt, (store.apply plan).1 = .ok receipt) ↔
        ∃ id, (Statement.commit, .ok id) ∈ log) := by
  obtain ⟨log, sends, transaction⟩ := transaction_of_apply opened (rfl : store.apply plan = _)
  exact ⟨log, sends, transaction, transaction.exists_ok_iff⟩

/-- A plan with two requests for fuzzers, two rows of one program and a delete. -/
def mixedPlan : Plan :=
  ⟨2, [⟨"p", 1⟩, ⟨"p", 2⟩], [], [], ["q"]⟩

/-- A plan whose delete fails is rolled back after the programs, and reported with its group. -/
theorem converses_in_one_transaction_failedDelete :
    let store : RelationalStore ScriptedDatabase := ⟨⟨[7, 8], some 4, "boom"⟩, [], false⟩
    store.closed = false ∧
      (store.apply mixedPlan).1 =
        .error (.group .deletes "error returned from database: boom") ∧
      (store.apply mixedPlan).2.sent =
        [.start, .createFuzzer, .createFuzzer, .insertPrograms [⟨"p", 2⟩], .deletePrograms ["q"],
          .rollback] ∧
      ∃ log, store.Sends log (store.apply mixedPlan).2 ∧
        mixedPlan.Transaction log (store.apply mixedPlan).1 ∧
        ((∃ receipt, (store.apply mixedPlan).1 = .ok receipt) ↔
          ∃ id, (Statement.commit, .ok id) ∈ log) := by
  intro store
  exact ⟨rfl, rfl, rfl, converses_in_one_transaction mixedPlan rfl⟩

end RelationalStore
end FuzzIntake
