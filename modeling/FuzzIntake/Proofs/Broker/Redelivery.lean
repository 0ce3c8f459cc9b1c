import FuzzIntake.Proofs.Broker.Acknowledgement
import FuzzIntake.Proofs.Broker.Placement
import FuzzIntake.Proofs.Broker.Session

/-!
# Entries are handled in order

A consumer jumps back to everything it was handed whenever a call fails, and may give up
a page half way.  Still it handles entries in ascending order, since everything it may
come to later is at least as far as everything it has handled, and farther than
everything it has acknowledged.
-/

namespace FuzzIntake

namespace Consumer

/-- The entries of the page at hand, from the one that is being dealt with. -/
def onPage (consumer : Consumer) : List Delivery :=
  match consumer.phase with
  | .enqueuing entry _ rest => entry :: rest
  | .acknowledging entry rest => entry :: rest
  | _ => []

/-- Turning to a page takes it in hand. -/
@[simp] theorem onPage_turnTo (consumer : Consumer) (page : List Delivery) :
    (consumer.turnTo page).onPage = page := by
  cases page with
  | nil => rfl
  | cons entry rest =>
      cases decoded : Entry.decode entry.fields with
      | operation operation => rw [turnTo_of_operation consumer rest decoded, onPage]
      | dropped cause => rw [turnTo_of_dropped consumer rest decoded, onPage]

/-- Turning to a page is not waiting for new entries. -/
theorem phase_turnTo_ne_listening
    (consumer : Consumer)
    (page : List Delivery)
    (deadline : Instant) :
    (consumer.turnTo page).phase ≠ .listening deadline := by
  cases page with
  | nil => simp
  | cons entry rest =>
      cases decoded : Entry.decode entry.fields with
      | operation operation => simp [turnTo_of_operation consumer rest decoded]
      | dropped cause => simp [turnTo_of_dropped consumer rest decoded]

/-- A consumer that waits for an answer to a read has no page at hand. -/
theorem onPage_of_waiting
    (consumer : Consumer)
    (waiting : consumer.phase = .reading ∨ ∃ deadline, consumer.phase = .listening deadline) :
    consumer.onPage = [] ∧ consumer.result? = none := by
  rcases waiting with phase | ⟨deadline, phase⟩
  · simp only [onPage, result?, phase, and_self]
  · simp only [onPage, result?, phase, and_self]

end Consumer

/-! ## The log is behind everything that may come -/

/--
Handled entries are in order and before everything that may come; acknowledged ones are
strictly so.
-/
structure IsOrdered (log : List Consumer.Deed) (broker : LocalBroker)
    (settings : ConsumerSettings) (page : List Delivery) : Prop where
  genuine : ∀ entry ∈ Consumer.handled log, entry ∈ broker.entriesOf settings.stream
  handledBefore : ∀ number, broker.MayCome settings page number →
    ∀ entry ∈ Consumer.handled log, entry.number ≤ number
  acceptedBefore : ∀ number, broker.MayCome settings page number →
    ∀ id ∈ Consumer.acceptedIds log, numberOfId id < number
  handledAscend : (Consumer.handled log).Pairwise fun earlier later =>
    earlier.number ≤ later.number
  acceptedAscend : (Consumer.acceptedIds log).Pairwise fun earlier later =>
    numberOfId earlier < numberOfId later

namespace IsOrdered

variable {broker next : LocalBroker} {settings : ConsumerSettings} {start : String}
  {page rest : List Delivery} {entry : Delivery} {log deeds : List Consumer.Deed}

/-- A log without records is in order. -/
theorem ofNothing : IsOrdered [] broker settings page where
  genuine _ present := absurd present List.not_mem_nil
  handledBefore _ _ _ present := absurd present List.not_mem_nil
  acceptedBefore _ _ _ present := absurd present List.not_mem_nil
  handledAscend := .nil
  acceptedAscend := .nil

/-- A log stays in order when less may come. -/
theorem shrink
    (ordered : IsOrdered log broker settings page)
    (further : next.Extends broker)
    (fewer : ∀ number, next.MayCome settings rest number → broker.MayCome settings page number) :
    IsOrdered log next settings rest where
  genuine entry present :=
    (further.entries settings.stream).subset (ordered.genuine entry present)
  handledBefore number mayCome := ordered.handledBefore number (fewer number mayCome)
  acceptedBefore number mayCome := ordered.acceptedBefore number (fewer number mayCome)
  handledAscend := ordered.handledAscend
  acceptedAscend := ordered.acceptedAscend

/-- Records about no entry keep a log in order. -/
theorem idle
    (ordered : IsOrdered log broker settings page)
    (noneHandled : Consumer.handled deeds = [])
    (noneAccepted : Consumer.acceptedIds deeds = []) :
    IsOrdered (log ++ deeds) broker settings page := by
  obtain ⟨genuine, handledBefore, acceptedBefore, handledAscend, acceptedAscend⟩ := ordered
  constructor
  all_goals simpa only [Consumer.handled_append, Consumer.acceptedIds_append, noneHandled,
    noneAccepted, List.append_nil]

/-- Handling the entry being dealt with keeps a log in order. -/
theorem handle
    (ordered : IsOrdered log broker settings (entry :: rest))
    (placement : Placement broker settings start (entry :: rest))
    (oneHandled : Consumer.handled deeds = [entry])
    (noneAccepted : Consumer.acceptedIds deeds = []) :
    IsOrdered (log ++ deeds) broker settings (entry :: rest) := by
  have current : broker.MayCome settings (entry :: rest) entry.number :=
    .inl List.mem_cons_self
  constructor
  · intro other present
    rw [Consumer.handled_append, oneHandled, List.mem_append, List.mem_singleton] at present
    rcases present with present | rfl
    · exact ordered.genuine other present
    · exact placement.genuine other List.mem_cons_self
  · intro number mayCome other present
    rw [Consumer.handled_append, oneHandled, List.mem_append, List.mem_singleton] at present
    rcases present with present | rfl
    · exact ordered.handledBefore number mayCome other present
    · exact placement.number_le mayCome
  · rw [Consumer.acceptedIds_append, noneAccepted, List.append_nil]
    exact ordered.acceptedBefore
  · rw [Consumer.handled_append, oneHandled, List.pairwise_append]
    refine ⟨ordered.handledAscend, List.pairwise_singleton _ _, fun other present last single => ?_⟩
    rw [List.mem_singleton.mp single]
    exact ordered.handledBefore _ current other present
  · rw [Consumer.acceptedIds_append, noneAccepted, List.append_nil]
    exact ordered.acceptedAscend

/-- Turning to the page at hand keeps a log in order. -/
theorem turn
    (ordered : IsOrdered log broker settings page)
    (placement : Placement broker settings start page) :
    IsOrdered (log ++ Consumer.turning page) broker settings page := by
  cases page with
  | nil => exact ordered.idle rfl rfl
  | cons entry rest =>
      cases decoded : Entry.decode entry.fields with
      | operation operation =>
          rw [Consumer.turning_of_operation rest decoded]
          exact ordered.idle rfl rfl
      | dropped cause =>
          rw [Consumer.turning_of_dropped rest decoded]
          exact ordered.handle placement rfl rfl

/-- Acknowledging the entry being dealt with keeps a log in order. -/
theorem accept
    (ordered : IsOrdered log broker settings (entry :: rest))
    (further : next.Extends broker)
    (fewer : ∀ number, next.MayCome settings rest number →
      broker.MayCome settings (entry :: rest) number ∧ entry.number < number)
    (noneHandled : Consumer.handled deeds = [])
    (oneAccepted : Consumer.acceptedIds deeds = [entry.id]) :
    IsOrdered (log ++ deeds) next settings rest := by
  have current : broker.MayCome settings (entry :: rest) entry.number :=
    .inl List.mem_cons_self
  have shrunk := ordered.shrink further fun number mayCome => (fewer number mayCome).1
  constructor
  · rw [Consumer.handled_append, noneHandled, List.append_nil]
    exact shrunk.genuine
  · rw [Consumer.handled_append, noneHandled, List.append_nil]
    exact shrunk.handledBefore
  · intro number mayCome id present
    rw [Consumer.acceptedIds_append, oneAccepted, List.mem_append, List.mem_singleton] at present
    rcases present with present | rfl
    · exact shrunk.acceptedBefore number mayCome id present
    · exact (fewer number mayCome).2
  · rw [Consumer.handled_append, noneHandled, List.append_nil]
    exact shrunk.handledAscend
  · rw [Consumer.acceptedIds_append, oneAccepted, List.pairwise_append]
    refine ⟨ordered.acceptedAscend, List.pairwise_singleton _ _, fun id present last single => ?_⟩
    rw [List.mem_singleton.mp single]
    exact ordered.acceptedBefore _ current id present

end IsOrdered

/-! ## Sessions keep their logs in order -/

namespace Consumer

/-- A consumer in order with its broker and its log. -/
structure IsInOrder (log : List Deed) (consumer : Consumer) (broker : LocalBroker) : Prop where
  sound : broker.IsSound
  placed : consumer.result? = none →
    Placement broker consumer.settings consumer.start consumer.onPage
  listening : ∀ deadline, consumer.phase = .listening deadline → consumer.start = freshEntries
  ordered : IsOrdered log broker consumer.settings consumer.onPage

/-- A new consumer is in order with every sound broker. -/
theorem isInOrder_new
    (settings : ConsumerSettings)
    {broker : LocalBroker}
    (sound : broker.IsSound) :
    (new settings).IsInOrder [] broker where
  sound := sound
  placed _ := Placement.ofOwnHistory sound
  listening deadline phase := by simp [new] at phase
  ordered := IsOrdered.ofNothing

namespace IsInOrder

variable {log deeds : List Deed} {consumer next : Consumer} {broker after : LocalBroker}

/-- A consumer stays in order when others call the broker. -/
theorem follow
    (inOrder : consumer.IsInOrder log broker)
    (follows : after.Follows broker consumer.settings) :
    consumer.IsInOrder log after where
  sound := follows.isSound
  placed running := (inOrder.placed running).follow follows
  listening := inOrder.listening
  ordered := inOrder.ordered.shrink follows.further fun _ => follows.mayCome (List.Subset.refl _)

/-- A consumer that turns to a page placed before the start of its next read is in order. -/
theorem turnTo
    {page : List Delivery}
    (sound : broker.IsSound)
    (placement : Placement broker consumer.settings consumer.start page)
    (ordered : IsOrdered log broker consumer.settings page) :
    (consumer.turnTo page).IsInOrder (log ++ turning page) broker where
  sound := sound
  placed _ := by
    rw [turnTo_settings, turnTo_start, onPage_turnTo]
    exact placement
  listening deadline phase := absurd phase (consumer.phase_turnTo_ne_listening page deadline)
  ordered := by
    rw [turnTo_settings, onPage_turnTo]
    exact ordered.turn placement

/-- A consumer that pauses is in order. -/
theorem pause
    {page : List Delivery}
    (ordered : IsOrdered log broker consumer.settings page)
    (follows : after.Follows broker consumer.settings)
    (now : Instant) :
    (consumer.pause now).IsInOrder log after where
  sound := follows.isSound
  placed _ := Placement.ofOwnHistory follows.isSound
  listening deadline phase := by simp [Consumer.pause] at phase
  ordered := ordered.shrink follows.further fun _ => follows.mayCome (List.nil_subset _)

/-- A consumer that has ended is in order. -/
theorem ended
    (inOrder : consumer.IsInOrder log broker)
    (result : ConsumerResult) :
    IsInOrder log { consumer with phase := .ended result } broker where
  sound := inOrder.sound
  placed running := by simp [result?] at running
  listening deadline phase := by simp at phase
  ordered := inOrder.ordered.shrink
    (LocalBroker.follows_of_streams rfl inOrder.sound consumer.settings).further fun _ =>
      (LocalBroker.follows_of_streams rfl inOrder.sound consumer.settings).mayCome
        (List.nil_subset _)

/-- Records about no entry keep a consumer in order. -/
theorem idle
    (inOrder : consumer.IsInOrder log broker)
    (noneHandled : handled deeds = [])
    (noneAccepted : acceptedIds deeds = []) :
    consumer.IsInOrder (log ++ deeds) broker :=
  ⟨inOrder.sound, inOrder.placed, inOrder.listening,
    inOrder.ordered.idle noneHandled noneAccepted⟩

/-- A consumer without a page at hand stays in order when it goes on to another wait. -/
theorem rephase
    (inOrder : consumer.IsInOrder log broker)
    (running : consumer.result? = none)
    (empty : consumer.onPage = [])
    (phase : ConsumerPhase)
    (stillEmpty : onPage { consumer with phase := phase } = [])
    (fresh : ∀ deadline, phase = .listening deadline → consumer.start = freshEntries) :
    IsInOrder log { consumer with phase := phase } broker where
  sound := inOrder.sound
  placed _ := by
    rw [stillEmpty, ← empty]
    exact inOrder.placed running
  listening := fresh
  ordered := by
    rw [stillEmpty, ← empty]
    exact inOrder.ordered

/-- A page that a read answers with keeps a consumer in order. -/
theorem takePage
    {page : List Delivery}
    (inOrder : consumer.IsInOrder log broker)
    (waiting : consumer.phase = .reading ∨ ∃ deadline, consumer.phase = .listening deadline)
    (reading : broker.Reading consumer.settings.stream consumer.settings.group
      consumer.settings.consumer consumer.start consumer.settings.readCount (.ok page) after) :
    (Consumer.turnTo { consumer with start := startAfter consumer.start page } page).IsInOrder
      (log ++ turning page) after := by
  obtain ⟨empty, running⟩ := consumer.onPage_of_waiting waiting
  have placement := inOrder.placed running
  have ordered := inOrder.ordered
  rw [empty] at placement ordered
  have change : LocalBroker.Change broker (.readNow consumer.settings.stream
      consumer.settings.group consumer.settings.consumer consumer.start
      consumer.settings.readCount) after := reading.change ⟨rfl, rfl, rfl⟩
  exact turnTo (change.isSound inOrder.sound) (placement.received inOrder.sound reading)
    (ordered.shrink change.extends fun _ => reading.mayCome inOrder.sound)

/-- The answer to a read keeps a consumer in order. -/
theorem received
    {answer : Except BrokerError (List Delivery)}
    (inOrder : consumer.IsInOrder log broker)
    (waiting : consumer.phase = .reading ∨ ∃ deadline, consumer.phase = .listening deadline)
    (reading : broker.Reading consumer.settings.stream consumer.settings.group
      consumer.settings.consumer consumer.start consumer.settings.readCount answer after)
    (now : Instant) :
    (consumer.received now answer).IsInOrder
      (log ++ .read consumer.start answer :: turning (pageOf answer)) after := by
  have recorded : consumer.IsInOrder (log ++ [.read consumer.start answer]) broker :=
    inOrder.idle rfl rfl
  rw [List.append_cons]
  cases answer with
  | error error =>
      cases reading with
      | refused _ same =>
          rw [show turning (pageOf (.error error)) = [] from rfl, List.append_nil]
          exact pause recorded.ordered
            (LocalBroker.follows_of_streams same inOrder.sound consumer.settings) now
  | ok page => exact recorded.takePage waiting reading

/-- The answer to an acknowledgement keeps a consumer in order.  Others have nothing to do with the
entry that is acknowledged, so nothing brings it back. -/
theorem acknowledged
    {entry : Delivery}
    {rest : List Delivery}
    {answer : Except BrokerError Unit}
    (inOrder : consumer.IsInOrder log broker)
    (acknowledging : consumer.phase = .acknowledging entry rest)
    (answered : broker.acknowledge consumer.settings.stream consumer.settings.group [entry.id] =
      (answer, after))
    (now : Instant) :
    (consumer.acknowledged now rest answer).IsInOrder
      (log ++ .acknowledged now [entry.id] answer :: turningAfter rest answer) after := by
  have onPage_eq : consumer.onPage = entry :: rest := by rw [onPage, acknowledging]
  have placement := inOrder.placed (by rw [result?, acknowledging])
  have ordered := inOrder.ordered
  rw [onPage_eq] at placement ordered
  have served : broker.serve? (.acknowledge consumer.settings.stream consumer.settings.group
      [entry.id]) = some after := by
    rw [LocalBroker.serve?, answered]
  have follows : after.Follows broker consumer.settings :=
    (LocalBroker.change_of_serve? served).follows inOrder.sound fun reads => reads
  rw [List.append_cons]
  cases answer with
  | error error =>
      rw [turningAfter, List.append_nil]
      exact pause (ordered.idle rfl rfl) follows now
  | ok done =>
      have settled : ¬ after.IsOwing consumer.settings entry.number := by
        rcases broker.acknowledge_cases consumer.settings.stream consumer.settings.group
            [entry.id] with ⟨error, other, failed, -⟩ | ⟨held, known, succeeded⟩
        · rw [failed] at answered
          simp at answered
        · rw [succeeded] at answered
          obtain rfl := (Prod.mk.inj answered).2
          exact LocalBroker.not_owes_regroup_acknowledge broker _ _ _ held List.mem_cons_self
      have followed := placement.follow follows
      refine turnTo follows.isSound (followed.tail settled) ?_
      refine ordered.accept follows.further (fun number mayCome => ⟨?_, ?_⟩) rfl rfl
      · exact follows.mayCome (List.subset_cons_self entry rest) mayCome
      · exact followed.number_lt settled mayCome

/-- An exchange with the broker keeps a consumer in order. -/
theorem exchange
    (inOrder : consumer.IsInOrder log broker)
    (exchange : Exchange consumer broker deeds next after) :
    next.IsInOrder (log ++ deeds) after := by
  cases exchange with
  | join joining =>
      have follows : LocalBroker.Follows _ broker consumer.settings :=
        (broker.change_of_setUpGroup consumer.settings.stream
          consumer.settings.group).follows inOrder.sound fun reads => reads
      have followed := inOrder.follow follows
      cases (broker.setUpGroup consumer.settings.stream consumer.settings.group).1 with
      | ok outcome =>
          have running := followed.rephase (by rw [result?, joining]) (by rw [onPage, joining])
            .reading rfl fun _ listening => by simp at listening
          exact running.idle rfl rfl
      | error error => exact (followed.ended (.failed error)).idle rfl rfl
  | crash waiting => exact (inOrder.ended .crashed).idle rfl rfl
  | listen deadline reading fresh answered =>
      have waited := inOrder.takePage (.inl reading) answered
      have same : startAfter consumer.start [] = consumer.start := if_pos fresh
      rw [same] at waited
      exact waited.rephase rfl rfl (.listening deadline) rfl fun _ _ => fresh
  | receive now waiting reading => exact inOrder.received waiting reading now
  | lapse now listening =>
      have nothing := inOrder.listening _ listening
      exact inOrder.received (.inr ⟨_, listening⟩) (.nothing nothing rfl) now
  | acknowledge now acknowledging answered =>
      exact inOrder.acknowledged acknowledging answered now
  | resume now pausing due =>
      have resumed := inOrder.rephase (by rw [result?, pausing]) (by rw [onPage, pausing])
        .reading rfl fun _ listening => by simp at listening
      exact resumed.idle rfl rfl

end IsInOrder
end Consumer

namespace Session

open Consumer

/-- What happens in a session keeps its consumer in order. -/
theorem Step.isInOrder
    {session next : Session}
    {log deeds : List Deed}
    (step : Step session deeds next)
    (inOrder : session.consumer.IsInOrder log session.switched.broker) :
    next.consumer.IsInOrder (log ++ deeds) next.switched.broker := by
  cases step with
  | move move moved => exact inOrder.exchange (exchange_of_move? moved)
  | @enqueue _ entry operation rest entering enqueued =>
      simp only [enqueued?, entering, Option.some.injEq] at enqueued
      subst enqueued
      have placement := inOrder.placed (by rw [result?, entering])
      have ordered := inOrder.ordered
      rw [show session.consumer.onPage = entry :: rest by rw [onPage, entering]]
        at placement ordered
      refine ⟨inOrder.sound, fun _ => placement, fun deadline phase => ?_, ?_⟩
      · simp at phase
      · exact ordered.handle placement rfl rfl
  | stop interruptible => exact (inOrder.ended _).idle rfl rfl
  | call call foreign served =>
      rw [List.append_nil]
      exact inOrder.follow ((LocalBroker.change_of_serve? served).follows inOrder.sound foreign)
  | crashReads count =>
      rw [List.append_nil]
      exact inOrder
  | cancel =>
      rw [List.append_nil]
      exact inOrder
  | wait instant later =>
      rw [List.append_nil]
      exact inOrder

/-- A run of a session keeps its consumer in order. -/
theorem Run.isInOrder
    {first last : Session}
    {earlier log : List Deed}
    (run : Run first log last)
    (inOrder : first.consumer.IsInOrder earlier first.switched.broker) :
    last.consumer.IsInOrder (earlier ++ log) last.switched.broker := by
  induction run generalizing earlier with
  | done session => rwa [List.append_nil]
  | step step _ inductionHypothesis =>
      rw [← List.append_assoc]
      exact inductionHypothesis (step.isInOrder inOrder)

/--
A consumer that is the only reader of its name handles entries in ascending order, the
same one only directly after itself.  It handles each entry once for every
acknowledgement that failed and once more if one succeeded, not counting one that it is
just about to ask for, and what it acknowledges is strictly ascending.
-/
theorem handles_in_order
    {settings : ConsumerSettings}
    {first last : Session}
    {log : List Deed}
    (reachable : first.switched.broker.Reachable)
    (new : first.consumer = Consumer.new settings)
    (run : Run first log last) :
    ((handled log).Pairwise fun earlier later => earlier.number ≤ later.number) ∧
    (∀ entry ∈ handled log, ∀ other ∈ handled log,
      entry.number = other.number → entry = other) ∧
    (∀ id, ((handled log).map Delivery.id).count id =
      (refusedIds log).count id + (if id ∈ acceptedIds log then 1 else 0) +
        last.consumer.asking.count id) ∧
    (last.consumer.result? ≠ none → ∀ id, ((handled log).map Delivery.id).count id =
      (refusedIds log).count id + if id ∈ acceptedIds log then 1 else 0) ∧
    (acceptedIds log).Pairwise fun earlier later => numberOfId earlier < numberOfId later := by
  have start : first.consumer.IsInOrder [] first.switched.broker :=
    new ▸ isInOrder_new settings reachable.isSound
  have inOrder : last.consumer.IsInOrder log last.switched.broker := run.isInOrder start
  have counted : ∀ id, ((handled log).map Delivery.id).count id =
      (refusedIds log).count id + (if id ∈ acceptedIds log then 1 else 0) +
        last.consumer.asking.count id := by
    intro id
    have balance := run.consumer.count_handled id
    have distinct : (acceptedIds log).Nodup :=
      inOrder.ordered.acceptedAscend.imp fun ascending same => by
        rw [same] at ascending
        exact Nat.lt_irrefl _ ascending
    rw [new] at balance
    rw [← distinct.count]
    exact (Nat.zero_add _).symm.trans balance
  refine ⟨inOrder.ordered.handledAscend, ?_, counted, ?_, inOrder.ordered.acceptedAscend⟩
  · intro entry present other otherPresent same
    exact inOrder.sound.eq_of_number_eq (inOrder.ordered.genuine entry present)
      (inOrder.ordered.genuine other otherPresent) same
  · intro ended id
    rw [counted id, asking_of_ended ended, List.count_nil, Nat.add_zero]

/-- An entry that stands for no operation is dropped twice, since acknowledging fails once. -/
theorem handles_in_order_after_failure :
    ∃ (settings : ConsumerSettings) (first last : Session) (log : List Deed),
      first.switched.broker.Reachable ∧ first.consumer = Consumer.new settings ∧
      Run first log last ∧ handled log = [⟨"1-0", []⟩, ⟨"1-0", []⟩] ∧
      refusedIds log = ["1-0"] ∧ acceptedIds log = ["1-0"] ∧
      (handled log).Pairwise fun earlier later => earlier.number ≤ later.number := by
  have created : LocalBroker.Reachable (LocalBroker.empty.setUpGroup "s" "g").2 :=
    .serve (.setUpGroup "s" "g") .empty rfl
  have published := LocalBroker.Reachable.serve (.publish "s" []) created rfl
  have reachable := LocalBroker.Reachable.serve (.failAcks 1) published rfl
  obtain ⟨log, last, played, twice, refused, accepted⟩ : ∃ log last,
      Session.play?
          ⟨0, false,
            ⟨{ ((LocalBroker.empty.setUpGroup "s" "g").2.publish "s" []).2 with
              ackFailures := 1 }, 0⟩,
            Consumer.new ⟨"s", "g", "c", 10, ⟨0⟩, ⟨0⟩⟩⟩
          [.join, .read, .read, .acknowledge, .resume, .read, .acknowledge] =
        some (log, last) ∧ handled log = [⟨"1-0", []⟩, ⟨"1-0", []⟩] ∧
      refusedIds log = ["1-0"] ∧ acceptedIds log = ["1-0"] :=
    ⟨_, _, rfl, rfl, rfl, rfl⟩
  exact ⟨_, _, last, log, reachable, rfl, run_of_play? played, twice, refused, accepted,
    (handles_in_order reachable rfl (run_of_play? played)).1⟩

end Session
end FuzzIntake
