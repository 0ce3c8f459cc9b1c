import FuzzIntake.Broker.Consumer
import FuzzIntake.Proofs.Broker.Membership

/-!
# When acknowledgements fail

Acknowledgements fail at a broker in memory as often as it was told, if the group is there.
What a consumer does is one call at a time about its own group, and no such call tells the
broker to fail anything.
-/

namespace FuzzIntake
namespace LocalBroker

variable {broker : LocalBroker} {name group : String}

/-- An acknowledgement that is not failed is carried out in the group that is there. -/
theorem acknowledge_of_obliging
    {held : Group}
    (obliging : broker.ackFailures = 0)
    (known : broker.group? name group = some held)
    (id : String) :
    broker.acknowledge name group [id] =
      (.ok (), broker.regroup name group (held.acknowledge id)) := by
  rcases broker.acknowledge_cases name group [id] with
    ⟨error, next, failed, -⟩ | ⟨other, there, done⟩
  · obtain ⟨stream, found, member⟩ := Option.bind_eq_some_iff.mp known
    rw [acknowledge, if_neg (by omega), found] at failed
    simp [member] at failed
  · obtain rfl := Option.some.inj (known.symm.trans there)
    exact done

end LocalBroker

/-! ## What a consumer calls -/

namespace Consumer

variable {consumer next : Consumer} {now : Instant} {cancelled : Bool}
  {switched after : SwitchedBroker}

/-- A broker that a consumer left as it was, or made one call at, about its own group. -/
def LeavesBroker (consumer : Consumer) (broker next : LocalBroker) : Prop :=
  next = broker ∨ ∃ call : LocalBroker.Call,
    call.target? = some (consumer.settings.stream, consumer.settings.group) ∧
    broker.serve? call = some next

/-- The beginning of a read is one call, or none if it crashes. -/
theorem leavesBroker_beginRead
    (consumer : Consumer)
    (now : Instant)
    (switched : SwitchedBroker) :
    consumer.LeavesBroker switched.broker (consumer.beginRead now switched).2.broker := by
  simp only [beginRead]
  split
  · exact .inl rfl
  · cases answered : switched.broker.read? consumer.settings.stream consumer.settings.group
      consumer.settings.consumer consumer.start consumer.settings.readCount with
    | none => exact .inl rfl
    | some response =>
        obtain ⟨answer, broker⟩ := response
        have served : consumer.LeavesBroker switched.broker broker :=
          .inr ⟨.read _ _ _ _ _, rfl, by rw [LocalBroker.serve?, answered, Option.map_some]⟩
        simp only
        split
        · split
          · exact served
          · exact served
        · exact served

/-- A look at new entries is one call. -/
theorem leavesBroker_of_wake? (woken : consumer.wake? now switched = some (next, after)) :
    consumer.LeavesBroker switched.broker after.broker := by
  simp only [wake?] at woken
  split at woken
  · obtain ⟨-, rfl⟩ := Prod.mk.inj (Option.some.inj woken)
    exact .inl rfl
  · cases woken
  · next answer broker _ answered =>
      obtain ⟨-, rfl⟩ := Prod.mk.inj (Option.some.inj woken)
      exact .inr ⟨.readNow _ _ _ _ _, rfl, by rw [LocalBroker.serve?, answered, Option.map_some]⟩

/-- A consumer makes one call at a time, and only about its own group. -/
theorem leavesBroker_of_move?
    {move : Move}
    (moved : consumer.move? now cancelled switched move = some (next, after)) :
    consumer.LeavesBroker switched.broker after.broker := by
  cases move with
  | join =>
      rw [move?] at moved
      split at moved
      · obtain ⟨-, rfl⟩ := Prod.mk.inj (Option.some.inj moved)
        exact .inr ⟨.setUpGroup _ _, rfl, rfl⟩
      · cases moved
  | read =>
      rw [move?] at moved
      split at moved
      · obtain ⟨-, begun⟩ := Option.ite_none_left_eq_some.mp moved
        have left := consumer.leavesBroker_beginRead now switched
        rwa [Option.some.inj begun] at left
      · cases moved
  | wake =>
      rw [move?] at moved
      split at moved
      · obtain ⟨-, woken⟩ := Option.ite_none_left_eq_some.mp moved
        exact leavesBroker_of_wake? woken
      · cases moved
  | lapse =>
      rw [move?] at moved
      split at moved
      · obtain ⟨-, lapsed⟩ := Option.ite_none_right_eq_some.mp moved
        obtain ⟨-, rfl⟩ := Prod.mk.inj (Option.some.inj lapsed)
        exact .inl rfl
      · cases moved
  | acknowledge =>
      rw [move?] at moved
      split at moved
      · next entry rest _ =>
          obtain ⟨-, rfl⟩ := Prod.mk.inj (Option.some.inj moved)
          exact .inr ⟨.acknowledge _ _ [entry.id], rfl, rfl⟩
      · cases moved
  | resume =>
      rw [move?] at moved
      split at moved
      · obtain ⟨-, resumed⟩ := Option.ite_none_right_eq_some.mp moved
        obtain ⟨-, rfl⟩ := Prod.mk.inj (Option.some.inj resumed)
        exact .inl rfl
      · cases moved

/-- A consumer makes no acknowledgement fail. -/
theorem ackFailures_le_of_move?
    {move : Move}
    (moved : consumer.move? now cancelled switched move = some (next, after)) :
    after.broker.ackFailures ≤ switched.broker.ackFailures := by
  rcases leavesBroker_of_move? moved with same | ⟨call, target, served⟩
  · rw [same]
  · refine (LocalBroker.failsNoMore_of_serve? served).acks.resolve_right fun failing => ?_
    rw [failing] at target
    cases target

end Consumer
end FuzzIntake
