import Mathlib.Logic.Function.Basic
import PipelinedClient.Proofs.Accounting
import PipelinedClient.Proofs.TwoQueues

/-! Recorders lose nothing and repeat nothing.

The holder of a handle may take the records that are there at any moment, while the client goes
on. What was taken so far, batch by batch, and then what is there are all the records that were
delivered to requests with the handle. How the last of these requests ended is told by the last
terminal signal among the deliveries, whatever was taken.
-/

set_option autoImplicit false

namespace PipelinedClient

variable {κ : Type}

/-! What a recorder should tell of the signals it was given. -/

namespace Signal

def record? : Signal → Option (List Value)
  | .record fields => some fields
  | _ => none

def lastTerminal? (signals : List Signal) : Option Signal :=
  (signals.filter isTerminal).getLast?

theorem lastTerminal?_concat (signals : List Signal) (signal : Signal) :
    lastTerminal? (signals ++ [signal]) =
      if signal.isTerminal then some signal else lastTerminal? signals := by
  rw [lastTerminal?, lastTerminal?, List.filter_append, List.filter_singleton]
  cases signal.isTerminal with
  | true => exact List.getLast?_concat
  | false => rw [cond_false, List.append_nil, if_neg Bool.false_ne_true]

end Signal

def Outcome.ofLast : Option Signal → Outcome
  | some (.success metadata) => .success metadata
  | some (.failure error) => .failure error
  | some .ignored => .ignored
  | _ => .pending

namespace Recorder

/-- The batches taken from a recorder, and what it holds, make up the signals. -/
structure Keeps (recorder : Recorder) (batches : List (List (List Value)))
    (signals : List Signal) : Prop where
  records : batches.flatten ++ recorder.records = signals.filterMap Signal.record?
  outcome : recorder.outcome = .ofLast (Signal.lastTerminal? signals)

structure Tells (recorder : Recorder) (batches : List (List (List Value)))
    (signals : List Signal) : Prop extends Keeps recorder batches signals where
  summary : ∀ metadata, recorder.summary? = some metadata ↔
    Signal.lastTerminal? signals = some (.success metadata)
  keys : ∀ metadata items, Signal.lastTerminal? signals = some (.success metadata) →
    metadata.find? "fields" = some (.list items) →
    recorder.keys = items.filterMap Value.asString?
  noKeys : (∀ metadata items, Signal.lastTerminal? signals = some (.success metadata) →
    metadata.find? "fields" ≠ some (.list items)) → recorder.keys = []

namespace Keeps

variable {recorder : Recorder} {batches : List (List (List Value))} {signals : List Signal}

theorem empty : Keeps .empty [] [] := ⟨rfl, rfl⟩

theorem accept (keeps : recorder.Keeps batches signals) (signal : Signal) :
    (recorder.accept signal).Keeps batches (signals ++ [signal]) := by
  constructor
  · rw [List.filterMap_append, ← keeps.records]
    cases signal <;> simp [Recorder.accept, Signal.record?]
  · rw [Signal.lastTerminal?_concat]
    cases signal with
    | record fields => exact keeps.outcome
    | _ => rfl

theorem takeRecords (keeps : recorder.Keeps batches signals) :
    recorder.takeRecords.2.Keeps (batches ++ [recorder.takeRecords.1]) signals := by
  constructor
  · rw [← keeps.records]
    simp [Recorder.takeRecords]
  · exact keeps.outcome

theorem accept_all (keeps : recorder.Keeps batches signals) (more : List Signal) :
    (more.foldl Recorder.accept recorder).Keeps batches (signals ++ more) := by
  induction more generalizing recorder signals with
  | nil => rwa [List.append_nil]
  | cons signal rest ih =>
    rw [List.foldl_cons, ← List.singleton_append, ← List.append_assoc]
    exact ih (keeps.accept signal)

theorem summary?_eq_some (keeps : recorder.Keeps batches signals) (metadata : SortedMap Value) :
    recorder.summary? = some metadata ↔
      Signal.lastTerminal? signals = some (.success metadata) := by
  rw [summary?, keeps.outcome]
  cases Signal.lastTerminal? signals with
  | none => simp [Outcome.ofLast]
  | some signal => cases signal <;> simp [Outcome.ofLast]

theorem tells (keeps : recorder.Keeps batches signals) : recorder.Tells batches signals where
  toKeeps := keeps
  summary := keeps.summary?_eq_some
  keys metadata items last found := by
    rw [keys, (keeps.summary?_eq_some metadata).mpr last, Option.bind_some, found]
    rfl
  noKeys none := by
    rw [keys]
    split
    · rename_i items found
      obtain ⟨value, bound, list⟩ := Option.bind_eq_some_iff.mp found
      obtain ⟨metadata, present, bound⟩ := Option.bind_eq_some_iff.mp bound
      have last := (keeps.summary?_eq_some metadata).mp present
      have isList : value = .list items := by
        cases value <;> simp_all [Value.asList?]
      rw [isList] at bound
      exact absurd bound (none metadata items last)
    · rfl

end Keeps

end Recorder

/-! Recorders in use. -/

/-- The client goes on, or the holder of a handle takes the records that are there. -/
inductive Turn (κ : Type) where
  | happens (event : Event κ)
  | takes (key : κ)

namespace Turn

def event? : Turn κ → Option (Event κ)
  | .happens event => some event
  | .takes _ => none

def trace (turns : List (Turn κ)) : Trace κ := turns.filterMap event?

end Turn

def heardBy [DecidableEq κ] (key : κ) (deliveries : List (Sink κ × Signal)) : List Signal :=
  (deliveries.filter fun delivery => delivery.1 = .handle key).map Prod.snd

structure Holdings (κ : Type) where
  shelf : Shelf κ
  batches : κ → List (List (List Value))

namespace Holdings

def empty : Holdings κ := ⟨.empty, fun _ => []⟩

variable [DecidableEq κ]

def turn (holdings : Holdings κ) : Turn κ → Holdings κ
  | .happens event => { holdings with shelf := holdings.shelf.follow [event] }
  | .takes key =>
    let (records, emptied) := (holdings.shelf key).takeRecords
    { shelf := Function.update holdings.shelf key emptied
      batches := Function.update holdings.batches key (holdings.batches key ++ [records]) }

def after (turns : List (Turn κ)) : Holdings κ := turns.foldl turn empty

end Holdings

section

variable [DecidableEq κ]

theorem heardBy_append (key : κ) (first rest : List (Sink κ × Signal)) :
    heardBy key (first ++ rest) = heardBy key first ++ heardBy key rest := by
  simp [heardBy]

theorem Shelf.follow_event (shelf : Shelf κ) (event : Event κ) (key : κ) :
    shelf.follow [event] key =
      (heardBy key (Trace.deliveries [event])).foldl Recorder.accept (shelf key) := by
  cases event with
  | signalled sink signal =>
    cases sink with
    | discard => rfl
    | handle owner =>
      by_cases same : owner = key
      · subst same
        simp [follow, Trace.signals, Event.signal?, accept, heardBy, Trace.deliveries,
          Event.delivery?]
      · simp [follow, Trace.signals, Event.signal?, accept, heardBy, Trace.deliveries,
          Event.delivery?, same, Ne.symm same]
  | _ => rfl

theorem Holdings.keeps_turn {holdings : Holdings κ} {signals : κ → List Signal}
    (keeps : ∀ key, (holdings.shelf key).Keeps (holdings.batches key) (signals key))
    (turn : Turn κ) (key : κ) :
    ((holdings.turn turn).shelf key).Keeps ((holdings.turn turn).batches key)
      (signals key ++ heardBy key (Turn.trace [turn]).deliveries) := by
  cases turn with
  | happens event =>
    have heard := (keeps key).accept_all (heardBy key (Trace.deliveries [event]))
    rw [← Shelf.follow_event] at heard
    exact heard
  | takes other =>
    have nothing : heardBy key (Turn.trace [.takes other]).deliveries = [] := rfl
    rw [nothing, List.append_nil]
    by_cases same : key = other
    · subst same
      simp only [Holdings.turn, Function.update_self]
      exact (keeps key).takeRecords
    · simp only [Holdings.turn, Function.update_of_ne same]
      exact keeps key

/-- At any moment every recorder keeps what was delivered to its requests. -/
theorem Holdings.keeps_after (turns : List (Turn κ)) (key : κ) :
    ((Holdings.after turns).shelf key).Keeps ((Holdings.after turns).batches key)
      (heardBy key (Turn.trace turns).deliveries) := by
  -- From the end, where a take cuts off the last batch.
  induction turns using List.reverseRecOn generalizing key with
  | nil => exact .empty
  | append_singleton turns turn ih =>
    have split : Turn.trace (turns ++ [turn]) = Turn.trace turns ++ Turn.trace [turn] :=
      List.filterMap_append
    rw [Holdings.after, List.foldl_concat, split, Trace.deliveries_append, heardBy_append]
    exact Holdings.keeps_turn ih turn key

end

/-- Recorders keep up with a run in which these signals are dispatched. -/
structure Recorded [DecidableEq κ] (trace : Trace κ) (dispatched : List (Sink κ × Signal)) :
    Prop where
  delivered : trace.deliveries = dispatched
  soFar : ∀ turns, Turn.trace turns <+: trace → (Turn.trace turns).deliveries <+: dispatched
  tells : ∀ turns, Turn.trace turns <+: trace → ∀ key,
    ((Holdings.after turns).shelf key).Tells ((Holdings.after turns).batches key)
      (heardBy key (Turn.trace turns).deliveries)

theorem Recorded.of_deliveries [DecidableEq κ] {trace : Trace κ}
    {dispatched : List (Sink κ × Signal)} (delivered : trace.deliveries = dispatched) :
    Recorded trace dispatched where
  delivered := delivered
  soFar turns seen := by
    rw [← delivered]
    exact seen.filterMap _
  tells turns _ key := (Holdings.keeps_after turns key).tells

/-- Whenever records are taken in a run of a connection or of a dispatcher, batches and records
of each handle are what was dispatched to the requests with it, in that order and each once,
and the last terminal signal among that is the outcome. In a run of a connection the answers
are dispatched to the requests that the transport took; in a run of a dispatcher, to the first
of two queues. -/
theorem recorders_lose_nothing {σ : Type} [DecidableEq κ] [Transport σ] (transport : σ)
    (debugEnabled legacyNames logs : Bool) (operations : List (Operation κ))
    (commands : List (Command κ)) :
    let start : Connection σ κ := .fresh transport debugEnabled legacyNames
    let trace := start.traceOf operations
    Recorded trace (deal ((Ledger.ofTrace trace).taken.map Entry.sink) trace.answers) ∧
      Recorded ((Dispatcher.empty logs).traceOf commands)
        (Trace.deliveries ((Queues.empty.history logs commands).flatMap Handled.trace)) := by
  intro start trace
  have accounted : Accounted (start.runFrom operations) trace :=
    Accounted.run transport debugEnabled legacyNames operations
  constructor
  · exact .of_deliveries accounted.faithful.deliveries
  · apply Recorded.of_deliveries
    rw [Dispatcher.traceOf_eq]
    rfl

/-- Two requests share a handle, and a record is taken before the first one has ended. -/
example :
    let trace := (Dispatcher.empty false).traceOf
      [.append (.handle 7), .append (.handle 7), .markSent 2, .accept (.record [.null]),
        .accept (.success .empty), .accept (.record [.boolean true]), .accept .ignored]
    let turns := (trace.take 1).map .happens ++ .takes 7 :: (trace.drop 1).map .happens
    (Holdings.after turns).batches 7 = [[[.null]]] ∧
      (Holdings.after turns).shelf 7 = ⟨[[.boolean true]], .ignored⟩ :=
  ⟨rfl, rfl⟩

end PipelinedClient
