import FuzzIntake.Proofs.Broker.Redelivery
import FuzzIntake.Proofs.Broker.Succession

/-!
# Recovery across restarts

Consumers that take turns lose nothing.  None asks for new entries while any are pending;
and when it finds none, everything published since the group was there is acknowledged, and
every operation among it was taken by a queue.
-/

namespace FuzzIntake

/-! ## What a read that finds nothing has seen -/

namespace LocalBroker

variable {broker next : LocalBroker} {name group : String} {held : Group}

/-- A look that finds nothing finds no entry behind the cursor and changes no stream. -/
theorem nothing_of_readNow?
    {consumer : String}
    {count : Nat}
    (served : broker.readNow? name group consumer freshEntries count = some (.ok [], next))
    (known : broker.group? name group = some held) :
    next.streams = broker.streams ∧ (broker.entriesOf name).length ≤ held.cursor := by
  obtain ⟨stream, found, member⟩ := Option.bind_eq_some_iff.mp known
  have entries : broker.entriesOf name = stream.entries := by
    rw [entriesOf, streamOrEmpty, found, Option.getD_some]
  simp only [readNow?, found, member, if_true, Stream.takeNew?, Option.map_map,
    Option.map_eq_some_iff] at served
  obtain ⟨fullPageEnd, full, answered⟩ := served
  simp only [Function.comp_apply] at answered
  rw [entries]
  split_ifs at answered with behind
  · obtain ⟨empty, -⟩ := Prod.mk.inj answered
    have short := congrArg List.length (Except.ok.inj empty)
    simp only [List.length_take, List.length_drop, List.length_nil] at short
    omega
  · obtain ⟨-, rfl⟩ := Prod.mk.inj answered
    refine ⟨streams_insert_self found, ?_⟩
    unfold Group.fullPageEnd? at full
    simp only [Option.ite_none_right_eq_some, Option.some.injEq] at full
    omega

/-- Nothing is pending in a group where nobody owes anything. -/
theorem pending_eq_nil
    (settled : ∀ consumer number, ¬ broker.Owes name group consumer number) :
    broker.pending name group = [] := by
  unfold pending
  cases known : broker.group? name group with
  | none => rfl
  | some held =>
      apply List.map_eq_nil_iff.mpr
      apply List.eq_nil_iff_forall_not_mem.mpr
      intro number present
      obtain ⟨consumer, owned⟩ := Option.isSome_iff_exists.mp
        (Std.ExtTreeMap.mem_iff_isSome_getElem?.mp (Std.ExtTreeMap.mem_keys.mp present))
      exact settled consumer number ⟨held, known, owned⟩

end LocalBroker

namespace Consumer

variable {consumer next : Consumer} {now : Instant} {switched after : SwitchedBroker}

/-- Turning a page records no answer to a read. -/
theorem eq_of_read_mem
    {start given : String}
    {answer response : Except BrokerError (List Delivery)}
    {page : List Delivery}
    (present : .read start answer ∈ Deed.read given response :: turning page) :
    start = given ∧ answer = response := by
  rcases List.mem_cons.mp present with same | turned
  · exact Deed.read.inj same
  · obtain ⟨entry, cause, same⟩ := eq_dropped_of_mem_turning turned
    cases same

/-- An acknowledgement records no answer to a read. -/
theorem read_not_mem_acknowledge
    {start : String}
    {answer : Except BrokerError (List Delivery)} :
    .read start answer ∉ consumer.deedsOf now switched .acknowledge := by
  intro present
  rw [deedsOf] at present
  split at present
  · next entry rest acknowledging =>
      rcases List.mem_cons.mp present with same | turned
      · cases same
      · unfold turningAfter at turned
        split at turned
        · obtain ⟨entry, cause, same⟩ := eq_dropped_of_mem_turning turned
          cases same
        · exact absurd turned List.not_mem_nil
  · exact absurd present List.not_mem_nil

/-- A consumer that is woken has found something. -/
theorem nothing_not_mem_wake
    {start : String}
    (woken : consumer.wake? now switched = some (next, after)) :
    .read start (.ok []) ∉ consumer.deedsOf now switched .wake := by
  intro present
  rw [wake?] at woken
  rw [deedsOf] at present
  cases served : switched.broker.readNow? consumer.settings.stream consumer.settings.group
    consumer.settings.consumer consumer.start consumer.settings.readCount with
  | none => simp [served] at present
  | some response =>
      obtain ⟨answer, looked⟩ := response
      simp only [served] at present
      obtain ⟨-, rfl⟩ := eq_of_read_mem present
      simp [served] at woken

/-- A consumer that is not woken has looked and found nothing. -/
theorem readNow?_of_wake?_eq_none
    (asleep : consumer.wake? now switched = none) :
    ∃ looked, switched.broker.readNow? consumer.settings.stream consumer.settings.group
      consumer.settings.consumer consumer.start consumer.settings.readCount =
        some (.ok [], looked) := by
  rw [wake?] at asleep
  cases served : switched.broker.readNow? consumer.settings.stream consumer.settings.group
    consumer.settings.consumer consumer.start consumer.settings.readCount with
  | none => simp [served] at asleep
  | some response =>
      obtain ⟨answer, looked⟩ := response
      cases answer with
      | error error => simp [served] at asleep
      | ok page =>
          cases page with
          | nil => exact ⟨looked, rfl⟩
          | cons entry rest => simp [served] at asleep

/-- A read that finds no new entries at once has looked and found none. -/
theorem readNow?_of_beginRead
    (begun : consumer.beginRead now switched = (next, after))
    (nothing : .read freshEntries (.ok []) ∈ consumer.deedsOf now switched .read) :
    consumer.start = freshEntries ∧
      switched.broker.readNow? consumer.settings.stream consumer.settings.group
        consumer.settings.consumer consumer.start consumer.settings.readCount =
          some (.ok [], after.broker) := by
  simp only [deedsOf] at nothing
  simp only [beginRead] at begun
  split at nothing
  · simp at nothing
  next calm =>
  rw [if_neg calm] at begun
  cases served : switched.broker.read? consumer.settings.stream consumer.settings.group
    consumer.settings.consumer consumer.start consumer.settings.readCount with
  | none => simp [served] at nothing
  | some response =>
      obtain ⟨answer, looked⟩ := response
      simp only [served] at nothing begun
      cases answer with
      | error error => cases (eq_of_read_mem nothing).2
      | ok page =>
          cases page with
          | cons entry rest => cases (eq_of_read_mem nothing).2
          | nil =>
              simp only at nothing begun
              split at nothing
              · exact absurd nothing List.not_mem_nil
              · next goesOn =>
                  rw [if_neg goesOn] at begun
                  obtain ⟨-, rfl⟩ := Prod.mk.inj begun
                  refine ⟨(Deed.read.inj (List.mem_singleton.mp nothing)).1.symm, ?_⟩
                  rw [LocalBroker.read?] at served
                  split at served
                  · simp at served
                  · exact served

/-- A move that records a read of new entries without any has looked and found none. -/
theorem look_of_read_nothing
    {cancelled : Bool}
    {move : Move}
    (moved : consumer.move? now cancelled switched move = some (next, after))
    (looks : move = .lapse → consumer.wake? now switched = none)
    (fresh : ∀ deadline, consumer.phase = .listening deadline → consumer.start = freshEntries)
    (nothing : .read freshEntries (.ok []) ∈ consumer.deedsOf now switched move) :
    (consumer.phase = .reading ∨ ∃ deadline, consumer.phase = .listening deadline) ∧
      consumer.start = freshEntries ∧
      ∃ looked, switched.broker.readNow? consumer.settings.stream consumer.settings.group
          consumer.settings.consumer consumer.start consumer.settings.readCount =
            some (.ok [], looked) ∧
        (after.broker = looked ∨ after.broker = switched.broker) := by
  cases move with
  | join => simp [deedsOf] at nothing
  | resume => simp [deedsOf] at nothing
  | acknowledge => exact absurd nothing read_not_mem_acknowledge
  | read =>
      rw [move?] at moved
      split at moved
      · next reading =>
          rw [Option.ite_none_left_eq_some] at moved
          obtain ⟨isFresh, served⟩ := readNow?_of_beginRead (Option.some.inj moved.2) nothing
          exact ⟨.inl reading, isFresh, after.broker, served, .inl rfl⟩
      · cases moved
  | wake =>
      rw [move?] at moved
      split at moved
      · rw [Option.ite_none_left_eq_some] at moved
        exact absurd nothing (nothing_not_mem_wake moved.2)
      · cases moved
  | lapse =>
      rw [move?] at moved
      split at moved
      · next deadline listening =>
          rw [Option.ite_none_right_eq_some] at moved
          obtain ⟨-, rfl⟩ := Prod.mk.inj (Option.some.inj moved.2)
          obtain ⟨looked, served⟩ := readNow?_of_wake?_eq_none (looks rfl)
          exact ⟨.inr ⟨deadline, listening⟩, fresh deadline listening, looked, served, .inr rfl⟩
      · cases moved

end Consumer

namespace Session

open Consumer

variable {session next : Session} {event : Event} {deeds : List Deed}

/-- A read of new entries that finds none has looked and found none. -/
theorem look_of_read_nothing
    (happened : session.happen? event = some (deeds, next))
    (fresh : ∀ deadline, session.consumer.phase = .listening deadline →
      session.consumer.start = freshEntries)
    (nothing : .read freshEntries (.ok []) ∈ deeds) :
    (session.consumer.phase = .reading ∨
        ∃ deadline, session.consumer.phase = .listening deadline) ∧
      session.consumer.start = freshEntries ∧
      ∃ looked, session.switched.broker.readNow? session.consumer.settings.stream
          session.consumer.settings.group session.consumer.settings.consumer
          session.consumer.start session.consumer.settings.readCount = some (.ok [], looked) ∧
        (next.switched.broker = looked ∨ next.switched.broker = session.switched.broker) := by
  cases event with
  | move move =>
      rw [happen?, Option.ite_none_left_eq_some] at happened
      obtain ⟨looks, answered⟩ := happened
      obtain ⟨⟨consumer, switched⟩, moved, same⟩ := Option.map_eq_some_iff.mp answered
      obtain ⟨rfl, rfl⟩ := Prod.mk.inj same
      refine Consumer.look_of_read_nothing moved (fun lapses => ?_) fresh nothing
      simpa [lapses] using looks
  | enqueue =>
      rw [happen?] at happened
      split at happened
      · obtain ⟨consumer, -, same⟩ := Option.map_eq_some_iff.mp happened
        obtain ⟨rfl, -⟩ := Prod.mk.inj same
        simp at nothing
      · cases happened
  | stop =>
      rw [happen?, Option.ite_none_right_eq_some] at happened
      obtain ⟨rfl, -⟩ := Prod.mk.inj (Option.some.inj happened.2)
      simp at nothing
  | call call =>
      rw [happen?, Option.ite_none_left_eq_some] at happened
      obtain ⟨broker, -, same⟩ := Option.map_eq_some_iff.mp happened.2
      obtain ⟨rfl, -⟩ := Prod.mk.inj same
      exact absurd nothing List.not_mem_nil
  | wait instant =>
      rw [happen?, Option.ite_none_right_eq_some] at happened
      obtain ⟨rfl, -⟩ := Prod.mk.inj (Option.some.inj happened.2)
      exact absurd nothing List.not_mem_nil
  | _ =>
      obtain ⟨rfl, -⟩ := Prod.mk.inj (Option.some.inj happened)
      exact absurd nothing List.not_mem_nil

/-! ## What holds at every moment -/

/--
What holds while consumers take turns: the consumer is in order with its broker and backed
by the log, nobody else owes anything in its group, and what is acknowledged there was
handled.
-/
structure IsRecovering (settings : ConsumerSettings) (log : List Deed) (session : Session) :
    Prop where
  stream_eq : session.consumer.settings.stream = settings.stream
  group_eq : session.consumer.settings.group = settings.group
  consumer_eq : session.consumer.settings.consumer = settings.consumer
  inOrder : ∃ recent, session.consumer.IsInOrder recent session.switched.broker
  backed : session.consumer.IsBackedBy log
  alone : ∀ other number,
    session.switched.broker.Owes settings.stream settings.group other number →
      other = settings.consumer
  told : ∀ id ∈ session.switched.broker.acked settings.stream settings.group,
    ∃ entry ∈ session.switched.broker.entriesOf settings.stream, entry.id = id ∧
      ∃ deed ∈ log, deed.Handles entry

/-- The first consumer begins with an empty log. -/
theorem isRecovering_new (settings : ConsumerSettings) :
    (Session.new settings).IsRecovering settings [] where
  stream_eq := rfl
  group_eq := rfl
  consumer_eq := rfl
  inOrder := ⟨[], isInOrder_new settings LocalBroker.isSound_empty⟩
  backed := trivial
  alone other number owes := by
    obtain ⟨held, known, -⟩ := owes
    simp [Session.new, SwitchedBroker.empty, LocalBroker.group?, LocalBroker.empty] at known
  told id present := by
    simp [Session.new, SwitchedBroker.empty, LocalBroker.acked, LocalBroker.group?,
      LocalBroker.empty] at present

namespace IsRecovering

variable {settings : ConsumerSettings} {log : List Deed}

/-- Only the consumer itself can come to owe anything in its group. -/
theorem alone_of_change
    {call : LocalBroker.Call}
    {broker : LocalBroker}
    (recovering : session.IsRecovering settings log)
    (asks : session.Asks call)
    (change : session.switched.broker.Change call broker)
    {other : String}
    {number : Nat}
    (owes : broker.Owes settings.stream settings.group other number) :
    other = settings.consumer := by
  by_contra different
  refine different (recovering.alone other number (change.owes ?_ owes))
  cases asks with
  | look start count =>
      rintro ⟨-, -, rfl⟩
      exact different recovering.consumer_eq
  | acknowledge acknowledging => exact id
  | outside idle =>
      rw [recovering.stream_eq, recovering.group_eq] at idle
      exact LocalBroker.Call.not_readsFor_of_worksIn idle

/-- What is acknowledged was handled before. -/
theorem told_of_change
    {call : LocalBroker.Call}
    {broker : LocalBroker}
    (recovering : session.IsRecovering settings log)
    (asks : session.Asks call)
    (change : session.switched.broker.Change call broker)
    {id : String}
    (present : id ∈ broker.acked settings.stream settings.group) :
    ∃ entry ∈ broker.entriesOf settings.stream, entry.id = id ∧
      ∃ deed ∈ log, deed.Handles entry := by
  have further := (change.extends.entries settings.stream).subset
  rcases change.mem_acked present with earlier | ⟨ids, acknowledges, asked⟩
  · obtain ⟨entry, genuine, same⟩ := recovering.told id earlier
    exact ⟨entry, further genuine, same⟩
  cases asks with
  | look start count => cases acknowledges
  | outside idle =>
      rw [recovering.stream_eq, recovering.group_eq, acknowledges] at idle
      simp [LocalBroker.Call.worksIn, LocalBroker.Call.target?] at idle
  | @acknowledge entry rest acknowledging =>
      obtain ⟨-, -, rfl⟩ := LocalBroker.Call.acknowledge.inj acknowledges
      obtain rfl := List.mem_singleton.mp asked
      obtain ⟨recent, inOrder⟩ := recovering.inOrder
      have placement := inOrder.placed (by rw [result?, acknowledging])
      have genuine := placement.genuine entry (by
        rw [onPage, acknowledging]
        exact List.mem_cons_self)
      rw [recovering.stream_eq] at genuine
      have backed := recovering.backed
      simp only [IsBackedBy, acknowledging] at backed
      obtain ⟨prior, deed, rfl, handles⟩ := backed
      exact ⟨entry, further genuine, rfl, deed,
        List.mem_append_right prior List.mem_cons_self, handles⟩

/-- An event keeps the consumer in order, whether it is still the same one or a new one. -/
theorem happen
    (recovering : session.IsRecovering settings log)
    (happened : session.happen? event = some (deeds, next)) :
    next.IsRecovering settings (log ++ deeds) := by
  obtain ⟨⟨call, asks, change⟩, stepped⟩ := cases_of_happen? happened
  obtain ⟨recent, inOrder⟩ := recovering.inOrder
  have alone : ∀ other number,
      next.switched.broker.Owes settings.stream settings.group other number →
        other = settings.consumer :=
    fun other number owes => recovering.alone_of_change asks change owes
  have told : ∀ id ∈ next.switched.broker.acked settings.stream settings.group,
      ∃ entry ∈ next.switched.broker.entriesOf settings.stream, entry.id = id ∧
        ∃ deed ∈ log ++ deeds, deed.Handles entry := by
    intro id present
    obtain ⟨entry, genuine, same, deed, logged, handles⟩ :=
      recovering.told_of_change asks change present
    exact ⟨entry, genuine, same, deed, List.mem_append_left deeds logged, handles⟩
  rcases stepped with step | ⟨rfl, readCount, readBlock, errorBackoff, rfl⟩
  · have inOrderNext := step.isInOrder inOrder
    rcases step.consumer with taken | ⟨rfl, same⟩
    · have kept := taken.settings_eq
      exact ⟨kept ▸ recovering.stream_eq, kept ▸ recovering.group_eq,
        kept ▸ recovering.consumer_eq, ⟨_, inOrderNext⟩, taken.isBackedBy recovering.backed,
        alone, told⟩
    · refine ⟨same ▸ recovering.stream_eq, same ▸ recovering.group_eq,
        same ▸ recovering.consumer_eq, ⟨_, inOrderNext⟩, ?_, alone, told⟩
      rw [same, List.append_nil]
      exact recovering.backed
  · exact ⟨recovering.stream_eq, recovering.group_eq, recovering.consumer_eq,
      ⟨[], isInOrder_new _ inOrder.sound⟩, trivial, alone, told⟩

/-- Events keep the consumer in order. -/
theorem run
    {last : Session}
    {events : List Event}
    {later : List Deed}
    (recovering : session.IsRecovering settings log)
    (ran : session.run? events = some (later, last)) :
    last.IsRecovering settings (log ++ later) := by
  induction events generalizing session log later with
  | nil =>
      obtain ⟨rfl, rfl⟩ := Prod.mk.inj (Option.some.inj ran)
      rwa [List.append_nil]
  | cons event rest inductionHypothesis =>
      obtain ⟨deeds, next, further, happened, ranOn, rfl⟩ := run?_cons ran
      rw [← List.append_assoc]
      exact inductionHypothesis (recovering.happen happened) ranOn

/-- A consumer that reads new entries owes nothing, and nobody else does. -/
theorem settled
    (recovering : session.IsRecovering settings log)
    (waiting : session.consumer.phase = .reading ∨
      ∃ deadline, session.consumer.phase = .listening deadline)
    (fresh : session.consumer.start = freshEntries)
    (other : String)
    (number : Nat) :
    ¬ session.switched.broker.Owes settings.stream settings.group other number := by
  intro owes
  obtain ⟨recent, inOrder⟩ := recovering.inOrder
  obtain ⟨empty, running⟩ := session.consumer.onPage_of_waiting waiting
  have placement := inOrder.placed running
  rw [empty] at placement
  have owing : session.switched.broker.IsOwing session.consumer.settings number := by
    unfold LocalBroker.IsOwing
    rw [recovering.stream_eq, recovering.group_eq, recovering.consumer_eq,
      ← recovering.alone other number owes]
    exact owes
  rcases placement.covered number owing with present | ⟨notFresh, -⟩
  · exact absurd present List.not_mem_nil
  · exact notFresh fresh

/-- With nobody owing, what a group has handed out is acknowledged and was handled. -/
theorem acked_of_settled
    {held : Group}
    {count : Nat}
    {entry : Delivery}
    (recovering : session.IsRecovering settings log)
    (settled : ∀ other number,
      ¬ session.switched.broker.Owes settings.stream settings.group other number)
    (known : session.switched.broker.group? settings.stream settings.group = some held)
    (covers : held.Covers count)
    (all : (session.switched.broker.entriesOf settings.stream).length ≤ held.cursor)
    (present : entry ∈ (session.switched.broker.entriesOf settings.stream).drop count) :
    entry.id ∈ session.switched.broker.acked settings.stream settings.group ∧
      ∃ deed ∈ log, deed.Handles entry := by
  obtain ⟨recent, inOrder⟩ := recovering.inOrder
  have sound := inOrder.sound
  obtain ⟨index, placed⟩ := List.mem_iff_getElem?.mp present
  rw [List.getElem?_drop] at placed
  have inside := (List.getElem?_eq_some_iff.mp placed).1
  have numbered := sound.number_eq placed
  have isAcked : entry.number ∈ held.ackedNumbers := by
    refine (covers entry.number (by omega) (by omega)).resolve_left ?_
    rintro ⟨consumer, pending⟩
    exact settled consumer entry.number ⟨held, known, pending⟩
  obtain ⟨id, listed, same⟩ := List.mem_map.mp isAcked
  have acked : id ∈ session.switched.broker.acked settings.stream settings.group := by
    rw [LocalBroker.acked, known]
    exact listed
  obtain ⟨other, genuine, rfl, deed, logged, handles⟩ := recovering.told id acked
  obtain rfl : other = entry :=
    sound.eq_of_number_eq genuine (List.mem_of_mem_drop present) same
  exact ⟨acked, deed, logged, handles⟩

end IsRecovering

/-- Events leave everything behind a place covered. -/
theorem covers_of_run?
    {last : Session}
    {events : List Event}
    {log : List Deed}
    {name group : String}
    {held : Group}
    {count : Nat}
    (ran : session.run? events = some (log, last))
    (sound : session.switched.broker.IsSound)
    (known : session.switched.broker.group? name group = some held)
    (covers : held.Covers count) :
    ∃ later, last.switched.broker.group? name group = some later ∧ later.Covers count := by
  induction events generalizing session log held with
  | nil =>
      obtain ⟨-, rfl⟩ := Prod.mk.inj (Option.some.inj ran)
      exact ⟨held, known, covers⟩
  | cons event rest inductionHypothesis =>
      obtain ⟨deeds, next, further, happened, ranOn, -⟩ := run?_cons ran
      obtain ⟨⟨call, -, change⟩, -⟩ := cases_of_happen? happened
      obtain ⟨turned, after, there, turn⟩ := change.turn known
      exact inductionHypothesis ranOn (change.isSound sound) there (turn.covers sound covers)

/--
Consumers of one name take turns at a broker, each cut off at any moment, and nobody else
reads or acknowledges in their group.  Whenever one reads new entries, nothing is pending in
the group.  Whenever such a read finds none, everything published since a moment at which
the group was there is acknowledged, and a queue has taken every operation among it.
-/
theorem recovers_completely
    {settings : ConsumerSettings}
    {before after : List Event}
    {earlier later : List Deed}
    {first last : Session}
    (began : (Session.new settings).run? before = some (earlier, first))
    (wentOn : first.run? after = some (later, last)) :
    ((last.consumer.phase = .reading ∨ ∃ deadline, last.consumer.phase = .listening deadline) →
      last.consumer.start = freshEntries →
      last.switched.broker.pending settings.stream settings.group = []) ∧
    (first.switched.broker.knowsGroup settings.stream settings.group = true →
      ∀ event deeds next, last.happen? event = some (deeds, next) →
        .read freshEntries (.ok []) ∈ deeds →
        ∀ entry ∈ (next.switched.broker.entriesOf settings.stream).drop
            (first.switched.broker.entriesOf settings.stream).length,
          entry.id ∈ next.switched.broker.acked settings.stream settings.group ∧
          ∀ operation, Entry.decode entry.fields = .operation operation →
            .enqueued entry operation ∈ earlier ++ later) := by
  have recoveringFirst : first.IsRecovering settings earlier :=
    (isRecovering_new settings).run began
  have recovering := recoveringFirst.run wentOn
  refine ⟨fun waiting fresh => LocalBroker.pending_eq_nil (recovering.settled waiting fresh), ?_⟩
  intro isThere event deeds next happened nothing entry present
  obtain ⟨recentFirst, inOrderFirst⟩ := recoveringFirst.inOrder
  obtain ⟨recent, inOrder⟩ := recovering.inOrder
  obtain ⟨atFirst, knownFirst⟩ := Option.isSome_iff_exists.mp isThere
  have begun := (inOrderFirst.sound.groups _ _ atFirst knownFirst).cursor_le
  have coversFirst :
      atFirst.Covers (first.switched.broker.entriesOf settings.stream).length :=
    fun number behind before => by omega
  obtain ⟨held, known, covers⟩ :=
    covers_of_run? wentOn inOrderFirst.sound knownFirst coversFirst
  obtain ⟨waiting, fresh, looked, served, reached⟩ :=
    look_of_read_nothing happened inOrder.listening nothing
  rw [recovering.stream_eq, recovering.group_eq, fresh] at served
  obtain ⟨same, all⟩ := LocalBroker.nothing_of_readNow? served known
  have unchanged : next.switched.broker.streams = last.switched.broker.streams := by
    rcases reached with reached | reached
    · rw [reached, same]
    · rw [reached]
  rw [LocalBroker.entriesOf_congr unchanged] at present
  rw [LocalBroker.acked, LocalBroker.group?_congr unchanged]
  obtain ⟨acked, deed, logged, handles⟩ :=
    recovering.acked_of_settled (recovering.settled waiting fresh) known covers all present
  refine ⟨acked, fun operation decoded => ?_⟩
  cases deed with
  | enqueued other queued =>
      obtain ⟨rfl, meant⟩ := handles
      obtain rfl := Entry.Meaning.operation.inj (decoded.symm.trans meant)
      exact logged
  | dropped other cause =>
      obtain ⟨-, meant⟩ := handles
      cases decoded.symm.trans meant
  | _ => exact absurd handles id

/-- A consumer is cut off with an entry in hand, and the next one fails to acknowledge it once. -/
theorem recovers_completely_after_restart :
    ∃ earlier first later last deeds next,
      (Session.new ⟨"s", "g", "c", 10, ⟨0⟩, ⟨0⟩⟩).run? [.move .join] = some (earlier, first) ∧
      first.switched.broker.knowsGroup "s" "g" = true ∧
      first.run?
          [.call (.publish "s" [("op", "create_fuzzer")]), .move .read, .move .read, .cancel,
            .stop, .restart 1 ⟨0⟩ ⟨0⟩, .move .join, .call (.failAcks 1), .move .read, .enqueue,
            .move .acknowledge, .move .resume, .move .read, .enqueue, .move .acknowledge,
            .move .read] =
        some (later, last) ∧
      last.consumer.phase = .reading ∧ last.consumer.start = freshEntries ∧
      last.happen? (.move .read) = some (deeds, next) ∧ .read freshEntries (.ok []) ∈ deeds ∧
      ⟨"1-0", [("op", "create_fuzzer")]⟩ ∈ next.switched.broker.entriesOf "s" ∧
      last.switched.broker.pending "s" "g" = [] ∧
      "1-0" ∈ next.switched.broker.acked "s" "g" ∧
      .enqueued ⟨"1-0", [("op", "create_fuzzer")]⟩ .createFuzzer ∈ earlier ++ later := by
  obtain ⟨earlier, first, later, last, deeds, next, began, isThere, wentOn, reading, fresh,
      happened, nothing, present, behind⟩ :
      ∃ earlier first later last deeds next,
        (Session.new ⟨"s", "g", "c", 10, ⟨0⟩, ⟨0⟩⟩).run? [.move .join] = some (earlier, first) ∧
        first.switched.broker.knowsGroup "s" "g" = true ∧
        first.run?
            [.call (.publish "s" [("op", "create_fuzzer")]), .move .read, .move .read, .cancel,
              .stop, .restart 1 ⟨0⟩ ⟨0⟩, .move .join, .call (.failAcks 1), .move .read,
              .enqueue, .move .acknowledge, .move .resume, .move .read, .enqueue,
              .move .acknowledge, .move .read] =
          some (later, last) ∧
        last.consumer.phase = .reading ∧ last.consumer.start = freshEntries ∧
        last.happen? (.move .read) = some (deeds, next) ∧ .read freshEntries (.ok []) ∈ deeds ∧
        ⟨"1-0", [("op", "create_fuzzer")]⟩ ∈ next.switched.broker.entriesOf "s" ∧
        (first.switched.broker.entriesOf "s").length = 0 :=
    ⟨_, _, _, _, _, _, rfl, rfl, rfl, rfl, rfl, rfl, List.mem_cons_self, List.mem_cons_self, rfl⟩
  obtain ⟨settled, recovered⟩ := recovers_completely began wentOn
  obtain ⟨acked, queued⟩ := recovered isThere _ deeds next happened nothing _
    (by rwa [behind, List.drop_zero])
  exact ⟨earlier, first, later, last, deeds, next, began, isThere, wentOn, reading, fresh,
    happened, nothing, present, settled (.inl reading) fresh, acked, queued .createFuzzer rfl⟩

end Session
end FuzzIntake
