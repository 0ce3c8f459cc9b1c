import FuzzIntake.Broker.Remote
import FuzzIntake.Proofs.History

/-!
# The connection of a remote broker

A remote broker is called again and again by one caller, and its server may answer anything.  A
call that has something to send opens a connection exactly if none is there, and it leaves one
exactly if its command did not break it.  So the connection that is kept is always one that no
command has broken, and every command goes out on such a connection.
-/

namespace FuzzIntake
namespace RemoteBroker

/-! ## Calls and their answers -/

/-- A call of a broker. -/
inductive Call
  | setUpGroup (stream group : String)
  | read (stream group consumer start : String) (count : UInt64) (block : Span)
  | acknowledge (stream group : String) (ids : List String)

/-- The answer to a call. -/
inductive Answer
  | joined (answer : Except BrokerError GroupOutcome)
  | read (answer : Except BrokerError (List Delivery))
  | acknowledged (answer : Except BrokerError Unit)

namespace Call

/-- The command that a call sends; without ids there is nothing to acknowledge. -/
def command? : Call → Option Command
  | .setUpGroup stream group => some (.createGroup stream group)
  | .read stream group consumer start count block =>
      some (.read stream group consumer start count block)
  | .acknowledge _ _ [] => none
  | .acknowledge stream group (id :: ids) => some (.acknowledge stream group (id :: ids))

/-- What a call makes of the outcome of its command. -/
def answered : Call → Except CommandError Reply → Answer
  | .setUpGroup _ _, outcome => .joined (groupOutcome outcome)
  | .read _ _ _ _ _ _, outcome => .read (page outcome)
  | .acknowledge _ _ _, outcome => .acknowledged (acknowledgement outcome)

/-- What a call says when there is no connection to be had. -/
def unreached : Call → String → Answer
  | .setUpGroup _ _, detail => .joined (.error (.connect detail))
  | .read _ _ _ _ _ _, detail => .read (.error (.connect detail))
  | .acknowledge _ _ _, detail => .acknowledged (.error (.connect detail))

end Call

section

variable {σ : Type} [StreamServer σ]

/-- Answer one call. -/
def serve (broker : RemoteBroker σ) : Call → Answer × RemoteBroker σ
  | .setUpGroup stream group => (broker.setUpGroup stream group).map .joined id
  | .read stream group consumer start count block =>
      (broker.read stream group consumer start count block).map .read id
  | .acknowledge stream group ids => (broker.acknowledge stream group ids).map .acknowledged id

/-- The broker after calls that were made one after another. -/
def run (broker : RemoteBroker σ) (calls : List Call) : RemoteBroker σ :=
  calls.foldl (fun broker call => (broker.serve call).2) broker

/-- What happens between a broker and its server leads the server from one state to another. -/
inductive Leads : σ → List Traffic → σ → Prop
  | nil (server : σ) : Leads server [] server
  | opened {server next last : σ} {later : List Traffic} :
      StreamServer.connect server = (.ok (), next) → Leads next later last →
      Leads server (.opened :: later) last
  | unreached {server next last : σ} {later : List Traffic} {detail : String} :
      StreamServer.connect server = (.error detail, next) → Leads next later last →
      Leads server (.unreached detail :: later) last
  | exchanged {server next last : σ} {later : List Traffic} {command : Command}
      {outcome : Except CommandError Reply} :
      StreamServer.answer command server = (outcome, next) → Leads next later last →
      Leads server (.exchanged command outcome :: later) last

end

/-! ## What breaks a connection -/

/-- The outcomes that leave a connection of no use. -/
inductive IsBroken : Except CommandError Reply → Prop
  | io (detail : String) : IsBroken (.error (.io detail))
  | dropped (detail : String) : IsBroken (.error (.dropped detail))
  | timedOut (detail : String) : IsBroken (.error (.timedOut detail))

/--
What one call does where a connection is cached or not: what happens, what the call answers, and
whether a connection is cached afterwards.
-/
inductive Course (call : Call) : Bool → List Traffic → Answer → Bool → Prop
  /-- There is nothing to send. -/
  | idle (cached : Bool) :
      call.command? = none → Course call cached [] (.acknowledged (.ok ())) cached
  /-- No connection is cached and none can be opened. -/
  | unreached (detail : String) :
      call.command? ≠ none →
      Course call false [.unreached detail] (call.unreached detail) false
  /-- No connection is cached, and one is opened for the command. -/
  | fresh {command : Command} {outcome : Except CommandError Reply} {kept : Bool} :
      call.command? = some command → (kept = false ↔ IsBroken outcome) →
      Course call false [.opened, .exchanged command outcome] (call.answered outcome) kept
  /-- The command goes out on the connection that is cached. -/
  | cached {command : Command} {outcome : Except CommandError Reply} {kept : Bool} :
      call.command? = some command → (kept = false ↔ IsBroken outcome) →
      Course call true [.exchanged command outcome] (call.answered outcome) kept

/-- A connection was opened, and no command has broken it since. -/
def IsOpen (traffic : List Traffic) : Prop :=
  ∃ before after, traffic = before ++ .opened :: after ∧
    ∀ command outcome, .exchanged command outcome ∈ after → ¬ IsBroken outcome

variable {σ : Type} [StreamServer σ]

/-- How a call is served: what happens, what it answers and what it leaves behind. -/
def Serves (broker : RemoteBroker σ) (call : Call) (answer : Answer) (next : RemoteBroker σ) :
    Prop :=
  ∃ added, next.traffic = broker.traffic ++ added ∧ Leads broker.server added next.server ∧
    Course call broker.connected added answer next.connected

theorem breaksConnection_iff {error : CommandError} :
    error.breaksConnection = true ↔ IsBroken (.error error) := by
  constructor
  · intro breaks
    cases error with
    | reported code detail => cases breaks
    | io detail => exact .io detail
    | dropped detail => exact .dropped detail
    | timedOut detail => exact .timedOut detail
    | unreadable detail => cases breaks
  · intro broken
    cases broken <;> rfl

/-- A command on a cached connection is answered by the server, and the connection is kept unless
the outcome breaks it. -/
theorem exchange_cached
    {broker next : RemoteBroker σ}
    {command : Command}
    {outcome : Except CommandError Reply}
    (cached : broker.connected = true)
    (exchanged : broker.exchange command = (outcome, next)) :
    StreamServer.answer command broker.server = (outcome, next.server) ∧
      next.traffic = broker.traffic ++ [.exchanged command outcome] ∧
      (next.connected = false ↔ IsBroken outcome) := by
  rcases answered : StreamServer.answer command broker.server with ⟨found, server⟩
  rw [exchange, answered] at exchanged
  obtain ⟨rfl, rfl⟩ := Prod.mk.inj exchanged
  refine ⟨rfl, rfl, ?_⟩
  cases found with
  | ok reply =>
      refine iff_of_false (by simp [cached]) ?_
      intro broken
      cases broken
  | error error =>
      rw [← breaksConnection_iff]
      simp [cached]

/-- A call with a command is served over the connection that is cached, or over a new one. -/
theorem serves_call
    {α : Type}
    {call : Call}
    {command : Command}
    {read : Except CommandError Reply → Except BrokerError α}
    {wrap : Except BrokerError α → Answer}
    (broker : RemoteBroker σ)
    (needed : call.command? = some command)
    (answers : ∀ outcome, call.answered outcome = wrap (read outcome))
    (fails : ∀ detail, call.unreached detail = wrap (.error (.connect detail))) :
    Serves broker call (wrap (broker.call command read).1) (broker.call command read).2 := by
  rw [RemoteBroker.call, connect]
  cases cached : broker.connected with
  | true =>
      rcases exchanged : broker.exchange command with ⟨outcome, next⟩
      obtain ⟨answered, traffic, kept⟩ := exchange_cached cached exchanged
      simp only [if_true, exchanged, ← answers]
      rw [Serves, cached]
      exact ⟨_, traffic, .exchanged answered (.nil _), .cached needed kept⟩
  | false =>
      simp only [Bool.false_eq_true, if_false]
      rcases tried : StreamServer.connect broker.server with ⟨detail | reached, server⟩
      · simp only [← fails]
        rw [Serves, cached]
        exact ⟨[.unreached detail], rfl, .unreached tried (.nil server),
          .unreached detail (by simp [needed])⟩
      · rcases exchanged : exchange command ⟨server, true, broker.traffic ++ [.opened]⟩ with
          ⟨outcome, next⟩
        obtain ⟨answered, traffic, kept⟩ := exchange_cached rfl exchanged
        simp only [exchanged, ← answers]
        rw [Serves, cached, traffic, List.append_assoc]
        exact ⟨_, rfl, .opened tried (.exchanged answered (.nil _)), .fresh needed kept⟩

/-- Every call takes its course. -/
theorem serves_serve (broker : RemoteBroker σ) (call : Call) :
    Serves broker call (broker.serve call).1 (broker.serve call).2 := by
  cases call with
  | setUpGroup stream group => exact serves_call broker rfl (fun _ => rfl) (fun _ => rfl)
  | read stream group consumer start count block =>
      exact serves_call broker rfl (fun _ => rfl) (fun _ => rfl)
  | acknowledge stream group ids =>
      cases ids with
      | nil => exact ⟨[], (List.append_nil _).symm, .nil _, .idle _ rfl⟩
      | cons id ids => exact serves_call broker rfl (fun _ => rfl) (fun _ => rfl)

/-! ## Open connections -/

theorem not_isOpen_nil : ¬ IsOpen [] := by
  rintro ⟨before, after, split, -⟩
  simp at split

theorem isOpen_opened (traffic : List Traffic) : IsOpen (traffic ++ [.opened]) :=
  ⟨traffic, [], rfl, by simp⟩

/-- Whatever happens but an opening leaves a connection open unless it breaks it. -/
theorem isOpen_concat_iff
    {traffic : List Traffic}
    {entry : Traffic}
    (notOpened : entry ≠ .opened) :
    IsOpen (traffic ++ [entry]) ↔ IsOpen traffic ∧
      ∀ command outcome, entry = .exchanged command outcome → ¬ IsBroken outcome := by
  constructor
  · rintro ⟨before, after, split, unbroken⟩
    rcases List.eq_nil_or_concat' after with rfl | ⟨later, last, rfl⟩
    · obtain ⟨-, same⟩ := List.append_inj' split rfl
      exact absurd (List.cons.inj same).1 notOpened
    · rw [← List.cons_append, ← List.append_assoc] at split
      obtain ⟨rfl, same⟩ := List.append_inj' split rfl
      obtain rfl := (List.cons.inj same).1
      refine ⟨⟨before, later, rfl, fun command outcome within => ?_⟩, ?_⟩
      · exact unbroken command outcome (List.mem_append_left _ within)
      · rintro command outcome rfl
        exact unbroken command outcome (by simp)
  · rintro ⟨⟨before, after, rfl, unbroken⟩, last⟩
    refine ⟨before, after ++ [entry], by simp, fun command outcome within => ?_⟩
    rcases List.mem_append.mp within with earlier | now
    · exact unbroken command outcome earlier
    · exact last command outcome (List.mem_singleton.mp now).symm

/-! ## One call after another -/

/-- Whatever is sent goes out on a connection that no earlier command has broken. -/
def GoesOut (before : List Traffic) (entry : Traffic) : Prop :=
  ∀ command outcome, entry = .exchanged command outcome → IsOpen before

/-- What holds of a broker between two calls: the connection that it has cached is an open one,
and all that was sent went out on open connections. -/
structure IsTended (start : σ) (broker : RemoteBroker σ) : Prop where
  leads : Leads start broker.traffic broker.server
  cached : broker.connected = true ↔ IsOpen broker.traffic
  sent : History.Each GoesOut broker.traffic

theorem Leads.append
    {first middle last : σ}
    {earlier later : List Traffic}
    (leads : Leads first earlier middle)
    (further : Leads middle later last) :
    Leads first (earlier ++ later) last := by
  induction leads with
  | nil server => exact further
  | opened connected _ inductionHypothesis => exact .opened connected (inductionHypothesis further)
  | unreached failed _ inductionHypothesis => exact .unreached failed (inductionHypothesis further)
  | exchanged answered _ inductionHypothesis =>
      exact .exchanged answered (inductionHypothesis further)

theorem isTended_new (server : σ) : IsTended server (RemoteBroker.new server) where
  leads := .nil server
  cached := iff_of_false nofun not_isOpen_nil
  sent := History.each_nil _

/-- A command on an open connection leaves it open unless it breaks it. -/
theorem isOpen_exchanged_iff
    {before : List Traffic}
    {command : Command}
    {outcome : Except CommandError Reply}
    {kept : Bool}
    (isOpen : IsOpen before)
    (use : kept = false ↔ IsBroken outcome) :
    kept = true ↔ IsOpen (before ++ [.exchanged command outcome]) := by
  rw [isOpen_concat_iff (by simp), ← Bool.not_eq_false, use]
  constructor
  · intro unbroken
    refine ⟨isOpen, fun other reply same => ?_⟩
    cases same
    exact unbroken
  · exact fun open' => open'.2 command outcome rfl

/-- A call that takes its course keeps to open connections. -/
theorem Course.keeps
    {call : Call}
    {cached kept : Bool}
    {traffic added : List Traffic}
    {answer : Answer}
    (course : Course call cached added answer kept)
    (isOpen : cached = true ↔ IsOpen traffic)
    (sent : History.Each GoesOut traffic) :
    (kept = true ↔ IsOpen (traffic ++ added)) ∧ History.Each GoesOut (traffic ++ added) := by
  cases course with
  | idle cached nothing => simpa using ⟨isOpen, sent⟩
  | unreached detail needed =>
      rw [isOpen_concat_iff (by simp), ← isOpen]
      exact ⟨by simp, sent.concat nofun⟩
  | fresh needed use =>
      have opened := isOpen_opened traffic
      have before : History.Each GoesOut (traffic ++ [.opened]) := sent.concat nofun
      rw [← List.singleton_append, ← List.append_assoc]
      exact ⟨isOpen_exchanged_iff opened use, before.concat fun _ _ _ => opened⟩
  | cached needed use =>
      have opened := isOpen.mp rfl
      exact ⟨isOpen_exchanged_iff opened use, sent.concat fun _ _ _ => opened⟩

/-- A call keeps to open connections. -/
theorem IsTended.serve
    {start : σ}
    {broker next : RemoteBroker σ}
    {call : Call}
    {answer : Answer}
    (tended : IsTended start broker)
    (serves : Serves broker call answer next) :
    IsTended start next := by
  obtain ⟨added, traffic, leads, course⟩ := serves
  obtain ⟨cached, sent⟩ := course.keeps tended.cached tended.sent
  rw [← traffic] at cached sent
  refine ⟨?_, cached, sent⟩
  rw [traffic]
  exact tended.leads.append leads

/-- A broker keeps to open connections from call to call. -/
theorem isTended_run (server : σ) (calls : List Call) :
    IsTended server ((RemoteBroker.new server).run calls) := by
  suffices from_any : ∀ broker : RemoteBroker σ, IsTended server broker →
      IsTended server (broker.run calls) from from_any _ (isTended_new server)
  induction calls with
  | nil => exact fun broker tended => tended
  | cons call rest inductionHypothesis =>
      intro broker tended
      exact inductionHypothesis _ (tended.serve (serves_serve broker call))

/--
Calls are made one after another, and the server answers them as it likes.  Each one takes its
course: it opens a connection exactly if it has something to send and none is cached, says that
the connection failed if it does, and leaves the connection cached exactly if its command did not
break it.  So between calls the cached connection is an open one, and every command goes out on
a connection that no earlier command has broken.
-/
theorem serves_over_open_connections (server : σ) (calls : List Call) (call : Call) :
    let broker := (RemoteBroker.new server).run calls
    let next := (broker.serve call).2
    Serves broker call (broker.serve call).1 next ∧
      Leads server next.traffic next.server ∧
      (next.connected = true ↔ IsOpen next.traffic) ∧
      History.Each GoesOut next.traffic := by
  intro broker next
  have serves := serves_serve broker call
  have tended := (isTended_run server calls).serve serves
  exact ⟨serves, tended.leads, tended.cached, tended.sent⟩

end RemoteBroker
end FuzzIntake
