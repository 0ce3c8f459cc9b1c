import FuzzIntake.Broker.Remote
import FuzzIntake.Proofs.Broker.Acknowledgement
import FuzzIntake.Rehearsal.Server

/-!
# A broker that is down

A read or an acknowledgement that fails, for whatever reason, is followed by a pause and a
read of everything handed out, so that a broker which comes back is picked up.  The request
for the group is made once: a consumer that fails there ends, also where the broker only
could not be reached.  So an outage is ridden out exactly if it does not fall on that request.
-/

namespace FuzzIntake

/-- Whether a consumer ended for a cause that leaves nothing to wait for. -/
def ConsumerResult.isRegular : ConsumerResult → Bool
  | .stopped _ => true
  | .failed (.groupSetup _) => true
  | .failed _ => false
  | .crashed => true

namespace Consumer

/-- The error of a failed call, if the record is about that. -/
def Deed.error? : Deed → Option BrokerError
  | .joined (.error error) => some error
  | .read _ (.error error) => some error
  | .acknowledged _ _ (.error error) => some error
  | _ => none

/--
What a run does behind a call that failed: the consumer pauses for the set time, what
follows is a fresh start, and once the time is over it can read again, whatever the
answer.
-/
def BacksOff (settings : ConsumerSettings) (failed : Deed) (before after : List Deed)
    (last : Consumer) : Prop :=
  ∃ paused failedAt, Run (Consumer.new settings) (before ++ [failed]) paused ∧
    Run paused after last ∧
    paused.phase = .pausing (Instant.after failedAt settings.errorBackoff) ∧
    StartsOver settings.errorBackoff failedAt after ∧
    ∀ moment answer, Instant.after failedAt settings.errorBackoff ≤ moment →
      ∃ next, Run paused (.resumed moment :: .read ownHistory answer :: turning (pageOf answer))
        next

/-- A run that no outage of the broker ends. -/
structure Outlasts (settings : ConsumerSettings) (log : List Deed) (last : Consumer) :
    Prop where
  /-- The consumer ends stopped, by a crash, or without its group. -/
  ending : ∀ result, last.phase = .ended result → result.isRegular = true
  /-- Whatever call could not reach the broker, another one follows after a pause. -/
  outage : ∀ before failed after detail, log = before ++ failed :: after →
    failed.error? = some (.connect detail) → BacksOff settings failed before after last

/-! ## The one request for the group -/

theorem phase_turnTo_ne
    (consumer : Consumer)
    (page : List Delivery) :
    (consumer.turnTo page).phase ≠ .joining ∧
      ∀ result, (consumer.turnTo page).phase ≠ .ended result := by
  cases page with
  | nil => simp
  | cons entry rest =>
      cases decoded : Entry.decode entry.fields with
      | operation operation => simp [turnTo_of_operation consumer rest decoded]
      | dropped cause => simp [turnTo_of_dropped consumer rest decoded]

/-- A consumer that has asked for its group does not ask again and does not fail. -/
theorem Step.past_joining
    {consumer next : Consumer}
    {deeds : List Deed}
    (step : Step consumer deeds next)
    (asked : consumer.phase ≠ .joining) :
    next.phase ≠ .joining ∧ (∀ answer, Deed.joined answer ∉ deeds) ∧
      ∀ error, next.phase ≠ .ended (.failed error) := by
  have unasked : ∀ page answer, Deed.joined answer ∉ turning page := by
    intro page answer present
    obtain ⟨entry, cause, dropped⟩ := eq_dropped_of_mem_turning present
    cases dropped
  cases step with
  | join answer joining => exact absurd joining asked
  | receive now answer _ =>
      cases answer with
      | ok page =>
          obtain ⟨going, running⟩ :=
            phase_turnTo_ne { consumer with start := startAfter consumer.start page } page
          exact ⟨going, by simpa [pageOf] using unasked page, fun error => running _⟩
      | error error => simp [received, pause, pageOf]
  | enqueue entering enqueued =>
      simp only [enqueued?, entering, Option.some.injEq] at enqueued
      simp [← enqueued]
  | @acknowledge entry rest now answer _ =>
      cases answer with
      | ok done =>
          obtain ⟨going, running⟩ := phase_turnTo_ne
            { consumer with tally := { consumer.tally with acked := consumer.tally.acked + 1 } }
            rest
          exact ⟨going, by simpa [turningAfter] using unasked rest, fun error => running _⟩
      | error error => simp [acknowledged, pause, turningAfter]
  | _ => simp [Consumer.stop, Consumer.crash]

/-- A run of a consumer that has asked for its group asks no more and fails only before. -/
theorem Run.past_joining
    {first last : Consumer}
    {log : List Deed}
    (run : Run first log last)
    (asked : first.phase ≠ .joining) :
    (∀ answer, Deed.joined answer ∉ log) ∧
      ∀ error, last.phase = .ended (.failed error) → first.phase = .ended (.failed error) := by
  induction run with
  | done => exact ⟨by simp, fun _ failed => failed⟩
  | step step _ inductionHypothesis =>
      obtain ⟨stays, quiet, running⟩ := step.past_joining asked
      obtain ⟨quietLater, failedBefore⟩ := inductionHypothesis stays
      refine ⟨fun answer => ?_, fun error failed => ?_⟩
      · simpa using ⟨quiet answer, quietLater answer⟩
      · exact absurd (failedBefore error failed) (running error)

/-- A consumer that has ended stays as it is. -/
theorem Run.last_of_ended
    {first last : Consumer}
    {log : List Deed}
    {result : ConsumerResult}
    (run : Run first log last)
    (ended : first.phase = .ended result) :
    last = first := by
  cases run with
  | done => rfl
  | step step _ => cases step <;> simp_all [isInterruptible]

/-- A new consumer does nothing yet, or asks for its group and ends or goes on with the answer. -/
theorem Run.cases_of_new
    {settings : ConsumerSettings}
    {log : List Deed}
    {last : Consumer}
    (run : Run (Consumer.new settings) log last) :
    (log = [] ∧ last = Consumer.new settings) ∨
      (∃ error, log = [.joined (.error error)] ∧ last.phase = .ended (.failed error)) ∨
      ∃ outcome later, log = .joined (.ok outcome) :: later ∧
        Run ((Consumer.new settings).joined (.ok outcome)) later last := by
  cases run with
  | done => exact .inl ⟨rfl, rfl⟩
  | step step later =>
      cases step with
      | join answer _ =>
          cases answer with
          | ok outcome => exact .inr (.inr ⟨outcome, _, rfl, later⟩)
          | error error =>
              refine .inr (.inl ⟨error, ?_, ?_⟩)
              · rw [later.log_of_ended rfl]
                rfl
              · rw [later.last_of_ended rfl]
                rfl
      | _ => simp_all [Consumer.new, isInterruptible]

/-! ## The other calls -/

/-- A consumer at the end of its pause can read, whatever the answer. -/
theorem run_of_pausing
    {consumer : Consumer}
    {resumeAt moment : Instant}
    (pausing : consumer.phase = .pausing resumeAt)
    (due : resumeAt ≤ moment)
    (answer : Except BrokerError (List Delivery)) :
    ∃ next, Run consumer
      (.resumed moment :: .read consumer.start answer :: turning (pageOf answer)) next := by
  have read : Run { consumer with phase := .reading } _ _ :=
    .step (.receive moment answer (.inl rfl)) (.done _)
  rw [List.append_nil] at read
  exact ⟨_, .step (.resume moment pausing due) read⟩

/-- A consumer that pauses after a failed call backs off. -/
theorem backsOff_of_pause
    {settings : ConsumerSettings}
    {before after : List Deed}
    {failed : Deed}
    {consumer last : Consumer}
    {failedAt : Instant}
    (earlier : Run (Consumer.new settings) before consumer)
    (step : Step consumer [failed] (consumer.pause failedAt))
    (later : Run (consumer.pause failedAt) after last) :
    BacksOff settings failed before after last := by
  have kept : consumer.settings = settings := earlier.settings_eq
  have starts := later.startsOver_of_pause
  rw [kept] at starts
  have phase : (consumer.pause failedAt).phase =
      .pausing (Instant.after failedAt settings.errorBackoff) := by
    rw [pause, kept]
  refine ⟨consumer.pause failedAt, failedAt, ?_, later, phase, starts, ?_⟩
  · simpa using earlier.append (.step step (.done _))
  · exact fun moment answer due => run_of_pausing phase due answer

/-- A consumer backs off from every failed call other than the request for its group. -/
theorem Run.backsOff_of_failed
    {settings : ConsumerSettings}
    {log before after : List Deed}
    {failed : Deed}
    {error : BrokerError}
    {last : Consumer}
    (run : Run (Consumer.new settings) log last)
    (cut : log = before ++ failed :: after)
    (failure : failed.error? = some error)
    (notJoined : ∀ answer, failed ≠ .joined answer) :
    BacksOff settings failed before after last := by
  obtain ⟨middle, next, rest, later, earlier, step, remains, rfl⟩ :=
    run.split cut (by rintro entry cause rfl; cases failure)
  cases step with
  | join answer joining => exact absurd rfl (notJoined answer)
  | receive now answer waiting =>
      cases answer with
      | ok page => cases failure
      | error error => exact backsOff_of_pause earlier (.receive now (.error error) waiting) remains
  | @acknowledge entry rest now answer acknowledging =>
      cases answer with
      | ok done => cases failure
      | error error =>
          exact backsOff_of_pause earlier (.acknowledge now (.error error) acknowledging) remains
  | _ => cases failure

/-! ## Which outages are ridden out -/

/-- A request for the group that failed is the first record of its run. -/
theorem Run.joins_of_failed
    {settings : ConsumerSettings}
    {log : List Deed}
    {last : Consumer}
    {error : BrokerError}
    (run : Run (Consumer.new settings) log last)
    (failed : .joined (.error error) ∈ log) :
    log.head? = some (.joined (.error error)) := by
  rcases run.cases_of_new with ⟨rfl, -⟩ | ⟨other, rfl, -⟩ | ⟨outcome, later, rfl, remains⟩
  · cases failed
  · rw [List.mem_singleton.mp failed]
    rfl
  · rcases List.mem_cons.mp failed with same | present
    · cases same
    · exact absurd present ((remains.past_joining (by simp [joined])).1 _)

/--
Whatever broker and queue answer, a consumer outlasts the outages in its run exactly if its
request for the group did not fail or was refused.  Then it ends only stopped, by a crash or
without its group, and after every call that could not reach the broker it pauses and reads
again; otherwise it gives up at once.
-/
theorem outlasts_iff_refused
    {settings : ConsumerSettings}
    {log : List Deed}
    {last : Consumer}
    (run : Run (Consumer.new settings) log last) :
    Outlasts settings log last ↔
      ∀ error, log.head? = some (.joined (.error error)) →
        ∃ detail, error = .groupSetup detail := by
  constructor
  · intro outlasts error first
    rcases run.cases_of_new with ⟨rfl, -⟩ | ⟨other, rfl, ended⟩ | ⟨outcome, later, rfl, -⟩
    · cases first
    · obtain rfl : other = error := by simpa using first
      have regular := outlasts.ending _ ended
      cases other with
      | groupSetup detail => exact ⟨detail, rfl⟩
      | _ => cases regular
    · cases first
  · intro refused
    refine ⟨fun result ended => ?_, fun before failed after detail cut failure => ?_⟩
    · cases result with
      | failed error =>
          rcases run.cases_of_new with ⟨-, rfl⟩ | ⟨other, rfl, failed⟩ | ⟨_, _, -, remains⟩
          · cases ended
          · obtain rfl : other = error := by
              simpa using failed.symm.trans ended
            obtain ⟨detail, rfl⟩ := refused other rfl
            rfl
          · cases (remains.past_joining (by simp [joined])).2 error ended
      | _ => rfl
    · refine run.backsOff_of_failed cut failure ?_
      rintro answer rfl
      cases answer with
      | ok outcome => cases failure
      | error error =>
          obtain ⟨other, rfl⟩ := refused error (run.joins_of_failed (by simp [cut]))
          cases failure

/-- A server that is down between two reads of a consumer is picked up after a pause. -/
theorem outlasts_iff_refused_between_reads :
    let log : List Deed :=
      [.joined (.ok .existing), .read ownHistory (.error (.connect "Connection refused")),
        .resumed 1000000000, .read ownHistory (.ok [])]
    ∃ last, Run (Consumer.new .standard) log last ∧ last.phase = .reading ∧
      Outlasts .standard log last := by
  intro log
  have join : Step (Consumer.new .standard) _ _ := .join (.ok .existing) rfl
  have fail : Step ((Consumer.new .standard).joined (.ok .existing)) _ _ :=
    .receive 0 (.error (.connect "Connection refused")) (.inl rfl)
  have run := Run.step join <| .step fail <| .step (.resume 1000000000 rfl (by decide)) <|
    .step (.receive 1000000000 (.ok []) (.inl rfl)) (.done _)
  refine ⟨_, run, rfl, (outlasts_iff_refused run).mpr ?_⟩
  intro error first
  cases first

end Consumer

/-! ## Outages of a remote broker -/

/-- The request for a group at a server that cannot be reached fails as the connection does. -/
theorem RemoteBroker.setUpGroup_of_unreached
    {σ : Type} [StreamServer σ]
    {broker : RemoteBroker σ}
    {error : BrokerError}
    (unreached : broker.connect.1 = .error error)
    (stream group : String) :
    (broker.setUpGroup stream group).1 = .error error ∧ ∃ detail, error = .connect detail := by
  constructor
  · rw [setUpGroup, call]
    rcases tried : broker.connect with ⟨outcome, connected⟩
    rw [tried] at unreached
    rw [show outcome = .error error from unreached]
  · rw [connect] at unreached
    split at unreached
    · cases unreached
    · split at unreached
      · cases unreached
      · next detail _ _ =>
          cases unreached
          exact ⟨detail, rfl⟩

/-- The request for a group at a server that can be reached is answered or refused. -/
theorem RemoteBroker.setUpGroup_of_reached
    {σ : Type} [StreamServer σ]
    {broker : RemoteBroker σ}
    (reached : broker.connect.1 = .ok ())
    {stream group : String}
    {error : BrokerError}
    (failed : (broker.setUpGroup stream group).1 = .error error) :
    ∃ detail, error = .groupSetup detail := by
  rw [setUpGroup, call] at failed
  rcases tried : broker.connect with ⟨outcome, connected⟩
  rw [tried] at reached failed
  obtain rfl : outcome = .ok () := reached
  rcases answered : connected.exchange (.createGroup stream group) with ⟨answer, broker⟩
  simp only [answered] at failed
  cases answer with
  | ok reply => cases failed
  | error error =>
      rw [groupOutcome] at failed
      split at failed
      · cases failed
      · cases failed
        exact ⟨_, rfl⟩

namespace Consumer

/--
A consumer of a remote broker outlasts the outages of a run exactly if the server can be
reached when the consumer asks for its group.
-/
theorem outlasts_iff_reached
    {σ : Type} [StreamServer σ]
    {settings : ConsumerSettings}
    (broker : RemoteBroker σ)
    {log : List Deed}
    {last : Consumer}
    (run : Run (Consumer.new settings)
      (.joined (broker.setUpGroup settings.stream settings.group).1 :: log) last) :
    Outlasts settings (.joined (broker.setUpGroup settings.stream settings.group).1 :: log)
      last ↔ broker.connect.1 = .ok () := by
  rw [outlasts_iff_refused run]
  constructor
  · intro refused
    cases tried : broker.connect.1 with
    | ok done => rfl
    | error error =>
        obtain ⟨failed, detail, rfl⟩ :=
          broker.setUpGroup_of_unreached tried settings.stream settings.group
        obtain ⟨other, wrong⟩ := refused (.connect detail) (by rw [failed]; rfl)
        cases wrong
  · intro reached error first
    exact RemoteBroker.setUpGroup_of_reached reached (by simpa using first)

/-- A server that is down when the consumer starts ends it for good. -/
theorem gives_up_on_first_outage :
    let broker : RemoteBroker ScriptedServer :=
      .new ⟨some "Connection refused (os error 111)", .ok .absent⟩
    let answer := (broker.setUpGroup "stream:fuzz:updates" "g_fuzz").1
    let last := (Consumer.new .standard).joined answer
    answer = .error (.connect "Connection refused (os error 111)") ∧
      Run (Consumer.new .standard) [.joined answer] last ∧
      last.result? = some (.failed (.connect "Connection refused (os error 111)")) ∧
      (∀ log later, Run last log later → log = []) ∧
      ¬ Outlasts .standard [.joined answer] last := by
  intro broker answer last
  have failed : answer = .error (.connect "Connection refused (os error 111)") := rfl
  have run : Run (Consumer.new .standard) [.joined answer] last :=
    .step (.join answer rfl) (.done last)
  refine ⟨failed, run, rfl, fun log later remains => remains.log_of_ended rfl, fun outlasts => ?_⟩
  have regular := outlasts.ending (.failed (.connect "Connection refused (os error 111)")) rfl
  cases regular

end Consumer
end FuzzIntake
