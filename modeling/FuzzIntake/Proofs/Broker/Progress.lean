import FuzzIntake.Proofs.Broker.AckFailures
import FuzzIntake.Proofs.Broker.Redelivery
import FuzzIntake.Proofs.Broker.Succession

/-!
# A consumer in step with its group

A consumer that has its group to itself, at a broker that fails no acknowledgement,
acknowledges every entry before it turns to the next one.  At every moment the entries of
the group are those acknowledged, in order, then those of the page at hand, and then those
that nobody was handed; and what the queue took are the operations of those acknowledged and
of the one that is about to be.
-/

namespace FuzzIntake

/-- The operation that an entry stands for, if any. -/
def Delivery.operation? (entry : Delivery) : Option Operation :=
  match Entry.decode entry.fields with
  | .operation operation => some operation
  | .dropped _ => none

/-! ## Entries between two places -/

/-- The entries of a stream behind one place and up to another. -/
def between (entries : List Delivery) (first last : Nat) : List Delivery :=
  (entries.drop first).take (last - first)

@[simp] theorem between_self (entries : List Delivery) (place : Nat) :
    between entries place place = [] := by
  rw [between, Nat.sub_self, List.take_zero]

/-- Entries that are added later are not between places before them. -/
theorem between_of_longer
    {entries later : List Delivery}
    {first last : Nat}
    (further : entries <+: later)
    (ordered : first ≤ last)
    (within : last ≤ entries.length) :
    between later first last = between entries first last := by
  obtain ⟨added, rfl⟩ := further
  rw [between, between, List.drop_append_of_le_length (ordered.trans within),
    List.take_append_of_le_length]
  rw [List.length_drop]
  omega

/-- Nothing is between two places of a stream only if they are the same. -/
theorem le_of_between_eq_nil
    {entries : List Delivery}
    {first last : Nat}
    (empty : between entries first last = [])
    (within : last ≤ entries.length) :
    last ≤ first := by
  have short := congrArg List.length empty
  rw [between, List.length_take, List.length_drop, List.length_nil] at short
  omega

/-- The first entry between two places is the next one behind the first place. -/
theorem between_cons
    {entries rest : List Delivery}
    {entry : Delivery}
    {first last : Nat}
    (page : entry :: rest = between entries first last) :
    first < last ∧ entries[first]? = some entry ∧ rest = between entries (first + 1) last := by
  rw [between] at page
  have behind : first < last := by
    by_contra before
    rw [Nat.sub_eq_zero_of_le (Nat.le_of_not_lt before), List.take_zero] at page
    cases page
  have place : last - first = (last - (first + 1)) + 1 := by omega
  rw [place] at page
  cases found : entries[first]? with
  | none =>
      rw [List.drop_eq_nil_of_le (List.getElem?_eq_none_iff.mp found), List.take_nil] at page
      cases page
  | some other =>
      obtain ⟨inside, rfl⟩ := List.getElem?_eq_some_iff.mp found
      rw [List.drop_eq_getElem_cons inside, List.take_succ_cons] at page
      obtain ⟨rfl, rfl⟩ := List.cons.inj page
      exact ⟨behind, rfl, rfl⟩

/-- One more entry is between places that are one farther apart. -/
theorem between_succ
    {entries : List Delivery}
    {entry : Delivery}
    {first last : Nat}
    (ordered : first ≤ last)
    (found : entries[last]? = some entry) :
    between entries first (last + 1) = between entries first last ++ [entry] := by
  have place : last + 1 - first = (last - first) + 1 := by omega
  have next : (entries.drop first)[last - first]? = some entry := by
    rw [List.getElem?_drop, Nat.add_sub_cancel' ordered, found]
  rw [between, between, place, List.take_add_one, next, Option.toList_some]

/-- Entries up to a place and those from there on are next to each other. -/
theorem between_append
    {entries : List Delivery}
    {first middle last : Nat}
    (before : first ≤ middle)
    (behind : middle ≤ last) :
    between entries first middle ++ between entries middle last = between entries first last := by
  rw [between, between, between, show last - first = (middle - first) + (last - middle) by omega,
    List.take_add, List.drop_drop, Nat.add_sub_cancel' before]

/-! ## Groups -/

/--
A group in which one reader was handed what lies between `reached` and the cursor, and in
which everything from `begun` to `reached` was acknowledged after some earlier ids.
-/
structure Group.IsSettled (group : Group) (entries : List Delivery) (reader : String)
    (earlier : List String) (begun reached : Nat) : Prop where
  begun_le : begun ≤ reached
  reached_le : reached ≤ group.cursor
  pending : ∀ number, group.pending[number]? =
    if reached < number ∧ number ≤ group.cursor then some reader else none
  acked : group.acked = earlier ++ (between entries begun reached).map Delivery.id

namespace Group.IsSettled

variable {group : Group} {entries : List Delivery} {reader : String} {earlier : List String}
  {begun reached : Nat}

/-- Entries that are added to the stream leave a group settled. -/
theorem further
    {later : List Delivery}
    (settled : group.IsSettled entries reader earlier begun reached)
    (further : entries <+: later)
    (within : group.cursor ≤ entries.length) :
    group.IsSettled later reader earlier begun reached where
  begun_le := settled.begun_le
  reached_le := settled.reached_le
  pending := settled.pending
  acked := by
    rw [settled.acked,
      between_of_longer further settled.begun_le (settled.reached_le.trans within)]

/-- Where everything is acknowledged, the reader may be handed a page. -/
theorem hand
    {broker : LocalBroker}
    {name : String}
    {pageEnd : Nat}
    (settled : group.IsSettled (broker.entriesOf name) reader earlier begun group.cursor)
    (sound : broker.IsSound)
    (behind : group.cursor < pageEnd)
    (within : pageEnd ≤ (broker.entriesOf name).length) :
    (group.hand reader (broker.entriesOf name) pageEnd).IsSettled (broker.entriesOf name) reader
      earlier begun group.cursor where
  begun_le := settled.begun_le
  reached_le := Nat.le_of_lt behind
  pending number := by
    change (group.own reader _).pending[number]? =
      if group.cursor < number ∧ number ≤ pageEnd then some reader else none
    rw [Group.pending_own]
    simp only [(sound.page_law name within).2.2 number]
    split
    · rfl
    · rw [settled.pending number, if_neg (by omega)]
  acked := settled.acked

/-- The next entry may be acknowledged. -/
theorem acknowledge
    {entry : Delivery}
    (settled : group.IsSettled entries reader earlier begun reached)
    (behind : reached < group.cursor)
    (found : entries[reached]? = some entry)
    (numbered : entry.number = reached + 1) :
    (group.acknowledge entry.id).IsSettled entries reader earlier begun (reached + 1) where
  begun_le := settled.begun_le.trans (Nat.le_succ reached)
  reached_le := by
    rw [Group.cursor_acknowledge]
    exact behind
  pending number := by
    rw [Group.pending_acknowledge, Group.cursor_acknowledge, settled.pending number]
    change (if entry.number = number then none else _) = _
    rw [numbered]
    split
    · next same => rw [if_neg (by omega)]
    · next other => exact if_congr (by omega) rfl rfl
  acked := by
    have pending : numberOfId entry.id ∈ group.pending := by
      rw [Std.ExtTreeMap.mem_iff_isSome_getElem?, show numberOfId entry.id = reached + 1 from
        numbered, settled.pending, if_pos ⟨Nat.lt_succ_self reached, behind⟩, Option.isSome_some]
    rcases group.acknowledge_cases entry.id with ⟨absent, -⟩ | ⟨-, appended, -⟩
    · exact absurd pending absent
    · rw [appended, settled.acked, between_succ settled.begun_le found, List.map_append,
        List.append_assoc, List.map_singleton]

/-- A reader that has acknowledged everything has no history. -/
theorem history_eq_nil
    {broker : LocalBroker}
    {name start : String}
    {count : Nat}
    (settled : group.IsSettled entries reader earlier begun group.cursor) :
    (broker.streamOrEmpty name).history group reader start count = [] := by
  have owned : group.ownedAfter reader (numberOfId start) = [] := by
    apply List.eq_nil_iff_forall_not_mem.mpr
    intro number present
    have pending := ((group.mem_ownedAfter_iff _ _ _).mp present).1
    rw [settled.pending number, if_neg (by omega)] at pending
    cases pending
  rw [Stream.history, owned, List.take_nil, List.filterMap_nil]

end Group.IsSettled

/-! ## The broker -/

namespace LocalBroker

/-- A call that neither works in the group of a consumer nor makes acknowledgements fail. -/
structure Call.SparesGroup (settings : ConsumerSettings) (call : Call) : Prop where
  apart : call.worksIn settings.stream settings.group = false
  harmless : ∀ count, call ≠ .failAcks count

variable {broker next : LocalBroker} {name group consumer start : String} {count : Nat}

/-- A read that finds no new entries changes no stream. -/
theorem Reading.streams_eq
    {answer : Except BrokerError (List Delivery)}
    (reading : broker.Reading name group consumer start count answer next)
    (fresh : start = freshEntries)
    (found : answer = .ok []) :
    next.streams = broker.streams := by
  cases reading with
  | refused error same => exact same
  | history notFresh => exact absurd fresh notFresh
  | nothing _ same => exact same
  | @handed held pageEnd _ _ behind within =>
      have page : between (broker.entriesOf name) held.cursor pageEnd = [] :=
        Except.ok.inj found
      exact absurd (le_of_between_eq_nil page within) (Nat.not_le_of_lt behind)

/-- If no id is pending in a group, no number is. -/
theorem getElem?_of_pending_eq_nil
    {held : Group}
    (known : broker.group? name group = some held)
    (nothing : broker.pending name group = [])
    (number : Nat) :
    held.pending[number]? = none := by
  rw [pending, known] at nothing
  rw [Std.ExtTreeMap.getElem?_eq_none]
  rw [← Std.ExtTreeMap.mem_keys, List.map_eq_nil_iff.mp nothing]
  exact List.not_mem_nil

end LocalBroker

namespace Consumer

variable {consumer next : Consumer} {now : Instant} {cancelled : Bool}
  {switched after : SwitchedBroker}

/-! ## The consumer -/

/-- The entry that was enqueued or dropped and is not acknowledged yet. -/
def unconfirmed (consumer : Consumer) : List Delivery :=
  match consumer.phase with
  | .acknowledging entry _ => [entry]
  | _ => []

/-- A consumer that has no page at hand has nothing to acknowledge or to send. -/
theorem idle_of_onPage_eq_nil (empty : consumer.onPage = []) :
    consumer.unconfirmed = [] ∧ ∀ entry operation rest,
      consumer.phase ≠ .enqueuing entry operation rest := by
  rw [onPage] at empty
  rw [unconfirmed]
  cases phase : consumer.phase with
  | enqueuing entry operation rest =>
      rw [phase] at empty
      cases empty
  | acknowledging entry rest =>
      rw [phase] at empty
      cases empty
  | _ =>
      refine ⟨rfl, fun entry operation rest offered => ?_⟩
      cases offered

/-- Turning to a page offers the operation of its first entry, or drops it. -/
theorem turned_page (consumer : Consumer) (page : List Delivery) :
    (consumer.turnTo page).unconfirmed.filterMap Delivery.operation? = [] ∧
      ∀ entry operation rest, (consumer.turnTo page).phase = .enqueuing entry operation rest →
        entry.operation? = some operation := by
  cases page with
  | nil =>
      refine ⟨rfl, fun entry operation rest offered => ?_⟩
      cases offered
  | cons entry rest =>
      cases decoded : Entry.decode entry.fields with
      | operation operation =>
          rw [turnTo_of_operation consumer rest decoded]
          refine ⟨rfl, fun other offered others phase => ?_⟩
          obtain ⟨rfl, rfl, rfl⟩ := ConsumerPhase.enqueuing.inj phase
          rw [Delivery.operation?, decoded]
      | dropped cause =>
          rw [turnTo_of_dropped consumer rest decoded]
          refine ⟨?_, fun other operation others offered => by cases offered⟩
          rw [unconfirmed, List.filterMap_cons_none, List.filterMap_nil]
          rw [Delivery.operation?, decoded]

/-- A consumer with a group that is settled up to a place, and the operations it has sent. -/
structure IsInStep (settings : ConsumerSettings) (earlier : List String) (begun reached : Nat)
    (held : Group) (sent : List Operation) (consumer : Consumer) (broker : LocalBroker) :
    Prop where
  settings_eq : consumer.settings = settings
  sound : broker.IsSound
  obliging : broker.ackFailures = 0
  known : broker.group? settings.stream settings.group = some held
  settled : held.IsSettled (broker.entriesOf settings.stream) settings.consumer earlier begun
    reached
  page : consumer.result? = none →
    consumer.onPage = between (broker.entriesOf settings.stream) reached held.cursor
  meant : ∀ entry operation rest, consumer.phase = .enqueuing entry operation rest →
    entry.operation? = some operation
  sent_eq : sent = (between (broker.entriesOf settings.stream) begun reached ++
    consumer.unconfirmed).filterMap Delivery.operation?

namespace IsInStep

variable {settings : ConsumerSettings} {earlier : List String} {begun reached : Nat}
  {held : Group} {sent : List Operation} {broker later : LocalBroker}

/-- A consumer without a page has acknowledged everything it was handed. -/
theorem reached_eq_cursor
    (inStep : consumer.IsInStep settings earlier begun reached held sent broker)
    (running : consumer.result? = none)
    (empty : consumer.onPage = []) :
    reached = held.cursor := by
  have within := (inStep.sound.groups _ _ held inStep.known).cursor_le
  have nothing := inStep.page running
  rw [empty] at nothing
  exact Nat.le_antisymm inStep.settled.reached_le (le_of_between_eq_nil nothing.symm within)

/-- A consumer without a page may do anything that leaves it without a page. -/
theorem idle
    (inStep : consumer.IsInStep settings earlier begun reached held sent broker)
    (before : consumer.onPage = [])
    (after : next.onPage = [])
    (sameSettings : next.settings = consumer.settings)
    (running : next.result? = none → consumer.result? = none)
    (same : later.streams = broker.streams)
    (obliging : later.ackFailures = 0) :
    next.IsInStep settings earlier begun reached held sent later where
  settings_eq := sameSettings.trans inStep.settings_eq
  sound := inStep.sound.congr same
  obliging := obliging
  known := (LocalBroker.group?_congr same _ _).trans inStep.known
  settled := by
    rw [LocalBroker.entriesOf_congr same]
    exact inStep.settled
  page stillRunning := by
    rw [LocalBroker.entriesOf_congr same, ← inStep.page (running stillRunning), before, after]
  meant entry operation rest offered :=
    absurd offered ((idle_of_onPage_eq_nil after).2 entry operation rest)
  sent_eq := by
    rw [inStep.sent_eq, LocalBroker.entriesOf_congr same, (idle_of_onPage_eq_nil before).1,
      (idle_of_onPage_eq_nil after).1]

/-- A consumer may turn to the page of what it was handed and has not acknowledged. -/
theorem turnTo
    {page : List Delivery}
    (settings_eq : consumer.settings = settings)
    (sound : broker.IsSound)
    (obliging : broker.ackFailures = 0)
    (known : broker.group? settings.stream settings.group = some held)
    (settled : held.IsSettled (broker.entriesOf settings.stream) settings.consumer earlier begun
      reached)
    (page_eq : page = between (broker.entriesOf settings.stream) reached held.cursor)
    (sent_eq : sent = (between (broker.entriesOf settings.stream) begun reached).filterMap
      Delivery.operation?) :
    (consumer.turnTo page).IsInStep settings earlier begun reached held sent broker where
  settings_eq := (turnTo_settings consumer page).trans settings_eq
  sound := sound
  obliging := obliging
  known := known
  settled := settled
  page _ := (onPage_turnTo consumer page).trans page_eq
  meant := (turned_page consumer page).2
  sent_eq := by
    rw [List.filterMap_append, (turned_page consumer page).1, List.append_nil, sent_eq]

/-- An answer to a read leaves a consumer in step.  Where new entries are read everything is
acknowledged, so the page at hand is what is handed out. -/
theorem receive
    {answer : Except BrokerError (List Delivery)}
    (inStep : consumer.IsInStep settings earlier begun reached held sent broker)
    (waiting : consumer.phase = .reading ∨ ∃ deadline, consumer.phase = .listening deadline)
    (reading : broker.Reading settings.stream settings.group settings.consumer consumer.start
      settings.readCount answer later)
    (obliging : later.ackFailures = 0)
    (now : Instant) :
    ∃ after, (consumer.received now answer).IsInStep settings earlier begun reached after sent
      later := by
  obtain ⟨empty, running⟩ := consumer.onPage_of_waiting waiting
  have nothing : ∀ {next}, next.streams = broker.streams → next.ackFailures = 0 →
      (consumer.received now (.ok [])).IsInStep settings earlier begun reached held sent next :=
    fun same obliging => inStep.idle empty rfl rfl (fun _ => running) same obliging
  have settled := inStep.settled
  rw [inStep.reached_eq_cursor running empty] at settled
  cases reading with
  | refused error same =>
      exact ⟨held, inStep.idle empty rfl rfl (fun _ => running) same obliging⟩
  | @history other notFresh known =>
      obtain rfl : held = other := Option.some.inj (inStep.known.symm.trans known)
      rw [settled.history_eq_nil]
      exact ⟨held, nothing rfl obliging⟩
  | nothing fresh same => exact ⟨held, nothing same obliging⟩
  | @handed other pageEnd fresh known behind within =>
      obtain rfl : held = other := Option.some.inj (inStep.known.symm.trans known)
      have sent_eq := inStep.sent_eq
      rw [(idle_of_onPage_eq_nil empty).1, List.append_nil] at sent_eq
      have change : broker.Change (.readNow settings.stream settings.group settings.consumer
          consumer.start settings.readCount) _ := .hand ⟨rfl, rfl, rfl⟩ known behind within
      have handedOut := settled.hand inStep.sound behind within
      rw [inStep.reached_eq_cursor running empty] at sent_eq ⊢
      refine ⟨_, turnTo inStep.settings_eq (change.isSound inStep.sound) obliging
        (LocalBroker.group?_regroup .. |>.trans (if_pos ⟨rfl, rfl⟩)) ?_ ?_ ?_⟩
      · rw [LocalBroker.entriesOf_regroup]
        exact handedOut
      · rw [LocalBroker.entriesOf_regroup]
        rfl
      · rw [LocalBroker.entriesOf_regroup]
        exact sent_eq

/-- An acknowledgement is carried out, and the consumer turns to the next entry. -/
theorem acknowledge
    {entry : Delivery}
    {rest : List Delivery}
    (inStep : consumer.IsInStep settings earlier begun reached held sent broker)
    (acknowledging : consumer.phase = .acknowledging entry rest)
    (now : Instant) :
    ∃ after, broker.acknowledge settings.stream settings.group [entry.id] = (.ok (), after) ∧
      (consumer.acknowledged now rest (.ok ())).IsInStep settings earlier begun (reached + 1)
        (held.acknowledge entry.id) sent after := by
  have running : consumer.result? = none := by rw [result?, acknowledging]
  have page := inStep.page running
  rw [onPage, acknowledging] at page
  obtain ⟨behind, found, remaining⟩ := between_cons page
  have settled := inStep.settled.acknowledge behind found (inStep.sound.number_eq found)
  have change : broker.Change (.acknowledge settings.stream settings.group [entry.id]) _ :=
    .acknowledge [entry.id] inStep.known
  refine ⟨_, LocalBroker.acknowledge_of_obliging inStep.obliging inStep.known entry.id,
    turnTo inStep.settings_eq (change.isSound inStep.sound) inStep.obliging
      (LocalBroker.group?_regroup .. |>.trans (if_pos ⟨rfl, rfl⟩)) ?_ ?_ ?_⟩
  · rw [LocalBroker.entriesOf_regroup]
    exact settled
  · rw [LocalBroker.entriesOf_regroup, Group.cursor_acknowledge]
    exact remaining
  · rw [inStep.sent_eq, LocalBroker.entriesOf_regroup, unconfirmed, acknowledging,
      between_succ inStep.settled.begun_le found]

/-- Whatever a consumer does at its broker leaves it in step. -/
theorem exchange
    {deeds : List Deed}
    (inStep : consumer.IsInStep settings earlier begun reached held sent broker)
    (exchange : Exchange consumer broker deeds next later)
    (obliging : later.ackFailures = 0) :
    ∃ further after, next.IsInStep settings earlier begun further after sent later := by
  have settings_eq := inStep.settings_eq
  cases exchange with
  | join joining =>
      have empty : consumer.onPage = [] := by rw [onPage, joining]
      have running : consumer.result? = none := by rw [result?, joining]
      have same : (broker.setUpGroup consumer.settings.stream consumer.settings.group).2 =
          broker := by
        rw [settings_eq]
        exact broker.setUpGroup_of_known inStep.known
      refine ⟨reached, held, inStep.idle empty ?_ ?_ (fun _ => running) (by rw [same]) obliging⟩
      · cases (broker.setUpGroup consumer.settings.stream consumer.settings.group).1 <;> rfl
      · cases (broker.setUpGroup consumer.settings.stream consumer.settings.group).1 <;> rfl
  | crash waiting =>
      obtain ⟨empty, -⟩ := consumer.onPage_of_waiting waiting
      refine ⟨reached, held, inStep.idle empty rfl rfl (fun running => ?_) rfl obliging⟩
      cases running
  | listen deadline reading fresh answered =>
      obtain ⟨empty, running⟩ := consumer.onPage_of_waiting (.inl reading)
      exact ⟨reached, held, inStep.idle empty rfl rfl (fun _ => running)
        (answered.streams_eq fresh rfl) obliging⟩
  | receive now waiting answered =>
      rw [settings_eq] at answered
      exact ⟨reached, inStep.receive waiting answered obliging now⟩
  | lapse now listening =>
      obtain ⟨empty, running⟩ := consumer.onPage_of_waiting (.inr ⟨_, listening⟩)
      exact ⟨reached, held, inStep.idle empty rfl rfl (fun _ => running) rfl obliging⟩
  | acknowledge now acknowledging answered =>
      obtain ⟨after, done, confirmed⟩ := inStep.acknowledge acknowledging now
      rw [settings_eq, done] at answered
      obtain ⟨rfl, rfl⟩ := Prod.mk.inj answered
      exact ⟨reached + 1, _, confirmed⟩
  | resume now pausing due =>
      have empty : consumer.onPage = [] := by rw [onPage, pausing]
      have running : consumer.result? = none := by rw [result?, pausing]
      exact ⟨reached, held, inStep.idle empty rfl rfl (fun _ => running) rfl obliging⟩

/-- Whatever a consumer does by itself leaves it in step. -/
theorem move
    {move : Move}
    (inStep : consumer.IsInStep settings earlier begun reached held sent switched.broker)
    (moved : consumer.move? now cancelled switched move = some (next, after)) :
    ∃ further later, next.IsInStep settings earlier begun further later sent after.broker := by
  have obliging := ackFailures_le_of_move? moved
  rw [inStep.obliging, Nat.le_zero] at obliging
  exact inStep.exchange (exchange_of_move? moved) obliging

/-- When the queue takes the operation on offer, its entry is what is to be acknowledged. -/
theorem enqueue
    {operation : Operation}
    (inStep : consumer.IsInStep settings earlier begun reached held sent broker)
    (offered : consumer.offered? = some operation)
    (enqueued : consumer.enqueued? = some next) :
    next.IsInStep settings earlier begun reached held (sent ++ [operation]) broker := by
  cases phase : consumer.phase with
  | enqueuing entry other rest =>
      rw [offered?, phase] at offered
      rw [enqueued?, phase] at enqueued
      obtain rfl := Option.some.inj offered
      obtain rfl := Option.some.inj enqueued
      have running : consumer.result? = none := by rw [result?, phase]
      have page := inStep.page running
      have sent_eq := inStep.sent_eq
      rw [onPage, phase] at page
      rw [unconfirmed, phase, List.append_nil] at sent_eq
      refine { inStep with
        page := fun _ => page
        meant := fun other operation others offered => by cases offered
        sent_eq := ?_ }
      rw [unconfirmed, List.filterMap_append, sent_eq,
        List.filterMap_cons_some (inStep.meant entry other rest phase), List.filterMap_nil]
  | _ => simp [offered?, phase] at offered

/-- A consumer that ends before it has sent an operation has nothing to acknowledge. -/
theorem stop
    (inStep : consumer.IsInStep settings earlier begun reached held sent broker)
    (interruptible : consumer.isInterruptible = true) :
    consumer.stop.IsInStep settings earlier begun reached held sent broker := by
  have nothing : consumer.unconfirmed = [] := by
    rw [unconfirmed]
    split
    · next entry rest phase =>
        rw [isInterruptible, phase] at interruptible
        cases interruptible
    · rfl
  have sent_eq := inStep.sent_eq
  rw [nothing] at sent_eq
  exact { inStep with
    page := fun running => by cases running
    meant := fun entry operation rest offered => by cases offered
    sent_eq := sent_eq }

/-- A call that spares its group does not disturb a consumer. -/
theorem call
    {call : LocalBroker.Call}
    (inStep : consumer.IsInStep settings earlier begun reached held sent broker)
    (spares : call.SparesGroup settings)
    (served : broker.serve? call = some later) :
    consumer.IsInStep settings earlier begun reached held sent later := by
  have change := LocalBroker.change_of_serve? served
  have entries := change.extends.entries settings.stream
  have within := (inStep.sound.groups _ _ held inStep.known).cursor_le
  have obliging :=
    (LocalBroker.failsNoMore_of_serve? served).acks.resolve_right (spares.harmless _)
  rw [inStep.obliging, Nat.le_zero] at obliging
  have known : later.group? settings.stream settings.group = some held := by
    cases call with
    | setUpGroup stream group =>
        obtain rfl := Option.some.inj served
        by_cases same : (stream, group) = (settings.stream, settings.group)
        · obtain ⟨rfl, rfl⟩ := Prod.mk.inj same
          rw [broker.setUpGroup_of_known inStep.known]
          exact inStep.known
        · rw [change.group?_eq fun target => same (Option.some.inj target)]
          exact inStep.known
    | _ =>
        have apart := spares.apart
        rw [change.group?_eq fun target => by simp [LocalBroker.Call.worksIn, target] at apart]
        exact inStep.known
  exact {
    settings_eq := inStep.settings_eq
    sound := change.isSound inStep.sound
    obliging := obliging
    known := known
    settled := inStep.settled.further entries within
    page := fun running => by
      rw [between_of_longer entries inStep.settled.reached_le within, inStep.page running]
    meant := inStep.meant
    sent_eq := by
      rw [between_of_longer entries inStep.settled.begun_le
        (inStep.settled.reached_le.trans within)]
      exact inStep.sent_eq }

/-- A consumer that has ended has acknowledged the entries of all operations it has sent. -/
theorem sent_of_ended
    (inStep : consumer.IsInStep settings earlier begun reached held sent broker)
    (ended : consumer.result? ≠ none) :
    sent = (between (broker.entriesOf settings.stream) begun reached).filterMap
      Delivery.operation? := by
  have nothing : consumer.unconfirmed = [] := by
    rw [unconfirmed]
    split
    · next entry rest phase =>
        rw [result?, phase] at ended
        exact absurd rfl ended
    · rfl
  rw [inStep.sent_eq, nothing, List.append_nil]

end IsInStep

/-- A new consumer is in step with a group that has nothing pending. -/
theorem isInStep_new
    {settings : ConsumerSettings}
    {broker : LocalBroker}
    {held : Group}
    (sound : broker.IsSound)
    (obliging : broker.ackFailures = 0)
    (known : broker.group? settings.stream settings.group = some held)
    (nothing : broker.pending settings.stream settings.group = []) :
    (new settings).IsInStep settings held.acked held.cursor held.cursor held [] broker where
  settings_eq := rfl
  sound := sound
  obliging := obliging
  known := known
  settled := {
    begun_le := Nat.le_refl _
    reached_le := Nat.le_refl _
    pending := fun number => by
      rw [LocalBroker.getElem?_of_pending_eq_nil known nothing, if_neg (by omega)]
    acked := by rw [between_self, List.map_nil, List.append_nil] }
  page _ := by rw [between_self, onPage, new]
  meant entry operation rest offered := by cases offered
  sent_eq := by rw [between_self, unconfirmed, new, List.append_nil, List.filterMap_nil]

end Consumer
end FuzzIntake
