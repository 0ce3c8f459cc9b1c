import FuzzIntake.Proofs.Broker.Connection
import FuzzIntake.Proofs.Number.Integer
import FuzzIntake.Rehearsal.Server

/-!
# How long a remote read waits

A read of new entries tells its server how many milliseconds to wait at most, and for the server
zero of them are no limit.  What is sent are the whole milliseconds of the wait in a word of 64
bits, so a wait that is shorter than one millisecond, or a multiple of `2 ^ 64` of them, is sent
as zero.  Any other wait is kept.
-/

namespace FuzzIntake

/-! ## What a server makes of a command -/

/-- How long a server may let a command wait when it has nothing to answer. -/
inductive Patience
  | none
  | atMost (limit : Span)
  | unlimited
deriving DecidableEq

namespace Patience

/-- A wait that does not go beyond a span. -/
def KeepsTo (span : Span) : Patience → Prop
  | .none => True
  | .atMost limit => limit.nanos ≤ span.nanos
  | .unlimited => False

/-- The wait for a number of milliseconds, of which zero are no limit. -/
def ofMillis (millis : Nat) : Patience :=
  if millis = 0 then .unlimited else .atMost (Span.ofMillis millis)

/-- The wait that the options of a read ask for; a number that is none is refused at once. -/
def ofOptions : List String → Patience
  | "GROUP" :: _ :: _ :: rest => ofOptions rest
  | "COUNT" :: _ :: rest => ofOptions rest
  | "BLOCK" :: millis :: _ =>
      match Integer.readNat (UInt64.size - 1) millis.toList with
      | .ok millis => ofMillis millis
      | .error _ => .none
  | _ => .none

/-- The wait that a command asks for; only reads of a group ask for one. -/
def ofArguments : List String → Patience
  | "XREADGROUP" :: options => ofOptions options
  | _ => .none

/-- A wait in whole milliseconds modulo `2 ^ 64` keeps to its span unless it is sent as zero. -/
theorem keepsTo_ofMillis_iff (block : Span) :
    (ofMillis (block.millis % UInt64.size)).KeepsTo block ↔ block.millis % UInt64.size ≠ 0 := by
  rw [ofMillis]
  split
  · next zero => simp [KeepsTo, zero]
  · next positive =>
    refine iff_of_true ?_ positive
    change block.millis % UInt64.size * 1000000 ≤ block.nanos
    calc block.millis % UInt64.size * 1000000 ≤ block.millis * 1000000 :=
          Nat.mul_le_mul_right _ (Nat.mod_le _ _)
      _ ≤ block.nanos := Nat.div_mul_le_self _ _

/-- A read asks for a wait only if it asks for new entries, and then in whole milliseconds. -/
theorem ofArguments_read
    (stream group consumer start : String)
    (count : UInt64)
    (block : Span) :
    ofArguments (Command.read stream group consumer start count block).arguments =
      if start = freshEntries then ofMillis (block.millis % UInt64.size) else .none := by
  have digits : Integer.readNat (UInt64.size - 1)
      (Command.decimal (UInt64.ofNat block.millis)).toList =
        .ok (block.millis % UInt64.size) := by
    have small := (UInt64.ofNat block.millis).toNat_lt_size
    rw [Command.decimal, String.toList_ofList]
    exact Integer.readNat_writeNat (Nat.le_pred_of_lt small)
  rw [Command.read]
  by_cases fresh : start = freshEntries
  · rw [if_pos fresh, if_pos fresh]
    change ofOptions ["GROUP", group, consumer, "BLOCK",
      Command.decimal (UInt64.ofNat block.millis), "COUNT", Command.decimal count, "STREAMS",
      stream, start] = _
    rw [ofOptions, ofOptions, digits]
  · rw [if_neg fresh, if_neg fresh]
    change ofOptions ["GROUP", group, consumer, "COUNT", Command.decimal count, "STREAMS",
      stream, start] = _
    rw [ofOptions, ofOptions]
    rfl

end Patience

/-! ## What a remote read asks for -/

namespace RemoteBroker

variable {σ : Type} [StreamServer σ]

/-- A server is reached over the connection that is cached, or over one that it accepts. -/
theorem connect_eq_ok_iff (broker : RemoteBroker σ) :
    broker.connect.1 = .ok () ↔
      broker.connected = true ∨ (StreamServer.connect broker.server).1 = .ok () := by
  rw [connect]
  cases broker.connected with
  | true => simp
  | false =>
      rcases StreamServer.connect broker.server with ⟨detail | reached, server⟩
      · simp
      · simp

/-- A call that has something to send sends that and nothing else, if the server is reached. -/
theorem Serves.exchanged_iff
    {broker next : RemoteBroker σ}
    {call : Call}
    {answer : Answer}
    {command : Command}
    (serves : Serves broker call answer next)
    (needed : call.command? = some command) :
    ∃ added, next.traffic = broker.traffic ++ added ∧
      ∀ sent, (∃ outcome, .exchanged sent outcome ∈ added) ↔
        broker.connect.1 = .ok () ∧ sent = command := by
  obtain ⟨added, traffic, leads, course⟩ := serves
  refine ⟨added, traffic, fun sent => ?_⟩
  rw [connect_eq_ok_iff]
  generalize broker.connected = cached at course ⊢
  generalize next.connected = kept at course
  cases course with
  | idle cached nothing =>
      rw [needed] at nothing
      cases nothing
  | unreached detail _ =>
      cases leads with
      | unreached failed rest => simp [failed]
  | fresh sends use =>
      obtain rfl := Option.some.inj (needed.symm.trans sends)
      cases leads with
      | opened connected rest => simp [connected]
  | cached sends use =>
      obtain rfl := Option.some.inj (needed.symm.trans sends)
      simp

/--
A read keeps to its wait unless the server is reached, new entries are asked for, and the wait
comes to a multiple of `2 ^ 64` whole milliseconds, as no wait at all and one of less than a
millisecond do.
-/
theorem read_keeps_wait_iff
    (broker : RemoteBroker σ)
    (stream group consumer start : String)
    (count : UInt64)
    (block : Span) :
    ∃ added, (broker.read stream group consumer start count block).2.traffic =
        broker.traffic ++ added ∧
      ((∀ command outcome, .exchanged command outcome ∈ added →
          (Patience.ofArguments command.arguments).KeepsTo block) ↔
        ¬ (broker.connect.1 = .ok () ∧ start = freshEntries ∧
          block.millis % UInt64.size = 0)) := by
  have serves := serves_serve broker (.read stream group consumer start count block)
  obtain ⟨added, traffic, sends⟩ := serves.exchanged_iff rfl
  refine ⟨added, traffic, ?_⟩
  have sole : (∀ command outcome, .exchanged command outcome ∈ added →
      (Patience.ofArguments command.arguments).KeepsTo block) ↔
        (broker.connect.1 = .ok () → (Patience.ofArguments
          (Command.read stream group consumer start count block).arguments).KeepsTo block) := by
    constructor
    · intro keeps reached
      obtain ⟨outcome, sent⟩ := (sends _).mpr ⟨reached, rfl⟩
      exact keeps _ outcome sent
    · intro keeps command outcome sent
      obtain ⟨reached, rfl⟩ := (sends command).mp ⟨outcome, sent⟩
      exact keeps reached
  rw [sole, Patience.ofArguments_read, not_and]
  by_cases fresh : start = freshEntries
  · simp [fresh, Patience.keepsTo_ofMillis_iff]
  · simp [fresh, Patience.KeepsTo]

/-- What a read of new entries asks its server to wait, where the server is reached at once. -/
def waitsAsked (block : Span) : List Patience :=
  let broker : RemoteBroker ScriptedServer := .new ⟨none, .ok .absent⟩
  (broker.read "st" "g" "c" freshEntries 100 block).2.traffic.filterMap fun
    | .exchanged command _ => some (Patience.ofArguments command.arguments)
    | _ => none

/-- A read that may not wait at all, not a millisecond, or `2 ^ 64` of them waits without limit. -/
theorem read_waits_without_limit :
    waitsAsked ⟨0⟩ = [.unlimited] ∧ ¬ Patience.unlimited.KeepsTo ⟨0⟩ ∧
    waitsAsked ⟨999999⟩ = [.unlimited] ∧ ¬ Patience.unlimited.KeepsTo ⟨999999⟩ ∧
    waitsAsked (.ofMillis UInt64.size) = [.unlimited] ∧
    ¬ Patience.unlimited.KeepsTo (.ofMillis UInt64.size) :=
  ⟨by decide +kernel, id, by decide +kernel, id, by decide +kernel, id⟩

end RemoteBroker
end FuzzIntake
