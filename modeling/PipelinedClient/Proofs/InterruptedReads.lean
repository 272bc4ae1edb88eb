import PipelinedClient.Proofs.Answers
import PipelinedClient.Proofs.Recovery

/-! Reads that fail on the way.

A read of all answers that fails has passed on what it read, and the next one goes on
from there. So if reading is tried again after every failure, what comes of it in the end
is what would have come of one read without failures in between.
-/

set_option autoImplicit false

namespace PipelinedClient

variable {σ σ' κ : Type}

namespace Connection

def onto (connection : Connection σ κ) (transport : σ') : Connection σ' κ :=
  ⟨transport, connection.pending, connection.dispatcher, connection.debugEnabled,
    connection.legacyNames, connection.writeFailed, connection.closed⟩

variable [Transport σ] [Transport σ']

/-- The same comes of an operation over either transport, and from then on sending fares
the same. -/
structure Agree {α : Type} (first : Performed σ κ α) (second : Performed σ' κ α) : Prop where
  result : second.result = first.result
  trace : second.trace = first.trace
  state : second.connection = first.connection.onto second.connection.transport
  alike : Transport.SendAlike first.connection.transport second.connection.transport

theorem transmit_onto {connection : Connection σ κ} {transport : σ'}
    (alike : Transport.SendAlike connection.transport transport) :
    Agree connection.transmit (connection.onto transport).transmit := by
  have same := alike.transmission connection.pending
  have later := alike.send connection.pending
  have debug : (connection.onto transport).announced = connection.announced := rfl
  have report (unsent : Nat) (failure : Option IoError) :
      (connection.onto transport).sendReport unsent failure =
        connection.sendReport unsent failure := by
    cases failure <;> rfl
  have pending : (connection.onto transport).pending = connection.pending := rfl
  have carrier : (connection.onto transport).transport = transport := rfl
  unfold transmit
  rw [pending, carrier, debug]
  generalize Transport.sendAll connection.transport connection.pending = answer at *
  generalize Transport.sendAll transport connection.pending = answer' at *
  obtain ⟨transmission, after⟩ := answer
  obtain ⟨transmission', after'⟩ := answer'
  obtain rfl : transmission = transmission' := same
  cases failed : transmission.failure <;> simp only [failed, report] <;>
    exact ⟨rfl, rfl, rfl, later⟩

theorem sendAll_onto {connection : Connection σ κ} {transport : σ'}
    (alike : Transport.SendAlike connection.transport transport) :
    Agree connection.sendAll (connection.onto transport).sendAll := by
  have same : (connection.onto transport).sendAll =
      if connection.closed then (connection.onto transport).refuse
      else if connection.pending.isEmpty then ⟨.ok 0, connection.onto transport, []⟩
      else if connection.writeFailed then (connection.onto transport).refuseWrite
      else (connection.onto transport).transmit := rfl
  rw [same, sendAll]
  split
  · exact ⟨rfl, rfl, rfl, alike⟩
  · split
    · exact ⟨rfl, rfl, rfl, alike⟩
    · split
      · exact ⟨rfl, rfl, rfl, alike⟩
      · exact transmit_onto alike

theorem surfaceFailure_onto {connection : Connection σ κ} {transport : σ'}
    (alike : Transport.SendAlike connection.transport transport) :
    Agree connection.surfaceFailure (connection.onto transport).surfaceFailure := by
  cases kept : connection.dispatcher.failure with
  | none =>
    have also : (connection.onto transport).dispatcher.failure = none := kept
    rw [surfaceFailure_of_none kept, surfaceFailure_of_none also]
    exact ⟨rfl, rfl, rfl, alike⟩
  | some failure =>
    have also : (connection.onto transport).dispatcher.failure = some failure := kept
    have reset : Agree (connection.enqueue .reset .discard).sendAll
        ((connection.onto transport).enqueue .reset .discard).sendAll := sendAll_onto alike
    rw [surfaceFailure_of_some kept, surfaceFailure_of_some also]
    generalize (connection.enqueue .reset .discard).sendAll = first at reset
    generalize ((connection.onto transport).enqueue .reset .discard).sendAll = second at reset
    obtain ⟨result, trace, state, later⟩ := reset
    refine ⟨?_, ?_, ?_, later⟩
    · exact congrArg (fun after => after.dispatcher.failure) state
    · simp only [result, trace]
    · exact congrArg (fun after : Connection σ' κ =>
        { after with dispatcher := after.dispatcher.takeFailure.2 }) state

theorem receiveAll_of_idle {connection : Connection σ κ} (isOpen : connection.closed = false)
    (idle : connection.waiting = 0) :
    connection.receiveAll =
      ⟨match connection.surfaceFailure.result with
        | some failure => .error (.server failure)
        | none => .ok 0,
        connection.surfaceFailure.connection,
        .called .receiveAll :: connection.surfaceFailure.trace⟩ := by
  rw [receiveAll_of_open isOpen, Transport.receiveAll_of_idle connection.transport idle]
  rfl

theorem receiveAll_of_error {connection : Connection σ κ} {failure : IoError} {after : σ}
    (isOpen : connection.closed = false) (waits : connection.waiting ≠ 0)
    (read : Transport.receiveOne connection.transport = (.error failure, after)) :
    connection.receiveAll =
      ⟨.error (.receiveFailed failure), { connection with transport := after },
        [.called .receiveAll]⟩ := by
  rw [receiveAll_of_open isOpen, Transport.receiveAll_of_error waits read]
  rfl

def past (connection : Connection σ κ) (response : Response) (after : σ) : Connection σ κ :=
  { connection with
    transport := after
    dispatcher := connection.dispatcher.accept response }

/-- A read that goes on after a response ends as a read that starts there, but for the
number of responses. -/
theorem conclude_past (connection : Connection σ κ) (response : Response) (after : σ)
    (rest : Receipt σ κ) (front : Trace κ) :
    connection.conclude
        ⟨rest.outcome.map (· + 1), rest.transport, rest.dispatcher, front ++ rest.trace⟩ =
      let later := (connection.past response after).conclude rest
      ⟨later.result.map (· + 1), later.connection, front ++ later.trace⟩ := by
  obtain ⟨outcome, transport, dispatcher, trace⟩ := rest
  cases outcome with
  | error failure => rfl
  | ok count =>
    simp only [conclude, withReceipt, past, Except.map]
    generalize surfaceFailure
      { connection with transport := transport, dispatcher := dispatcher } = surfaced
    cases surfaced.result <;> simp

theorem receiveAll_of_response {connection : Connection σ κ} {response : Response} {after : σ}
    (isOpen : connection.closed = false) (waits : connection.waiting ≠ 0)
    (read : Transport.receiveOne connection.transport = (.ok response, after)) :
    let onward := (connection.past response after).receiveAll
    connection.receiveAll.result = onward.result.map (· + 1) ∧
      connection.receiveAll.connection = onward.connection ∧
      ∀ {α : Type} (find : Event κ → Option α), find (.called .receiveAll) = none →
        connection.receiveAll.trace.filterMap find =
          (.arrived response connection.waiting ::
            connection.dispatcher.reaction response : Trace κ).filterMap find ++
              onward.trace.filterMap find := by
  have stillOpen : (connection.past response after).closed = false := isOpen
  rw [receiveAll_of_open isOpen, receiveAll_of_open stillOpen,
    Transport.receiveAll_of_response waits read]
  simp only [conclude_past connection response after]
  refine ⟨rfl, rfl, ?_⟩
  intro α find none
  rw [List.filterMap_cons_none none, List.filterMap_cons_none none, ← List.filterMap_append]
  rfl

/-- Reading all answers again and again for as long as reads fail: the failures, what
happened before the last read, and the last read. -/
inductive Retries : Connection σ κ → List IoError → Trace κ →
    Performed σ κ (Except Error Nat) → Prop where
  | done {connection : Connection σ κ} :
      (∀ failure, connection.receiveAll.result ≠ .error (.receiveFailed failure)) →
      Retries connection [] [] connection.receiveAll
  | again {connection : Connection σ κ} {failure : IoError} {failures : List IoError}
      {trace : Trace κ} {last : Performed σ κ (Except Error Nat)} :
      connection.receiveAll.result = .error (.receiveFailed failure) →
      Retries connection.receiveAll.connection failures trace last →
      Retries connection (failure :: failures) (connection.receiveAll.trace ++ trace) last

theorem Retries.run {connection : Connection σ κ} {failures : List IoError} {trace : Trace κ}
    {last : Performed σ κ (Except Error Nat)} (retries : connection.Retries failures trace last) :
    let calls := List.replicate (failures.length + 1) Operation.receiveAll
    connection.runFrom calls = last.connection ∧
      connection.traceOf calls = trace ++ last.trace ∧
      connection.replies calls =
        failures.map (fun failure => .failed (.receiveFailed failure)) ++
          [.ofCount last.result] := by
  induction retries with
  | done => exact ⟨rfl, List.append_nil _, rfl⟩
  | again failed _ ih =>
    obtain ⟨state, shown, replies⟩ := ih
    refine ⟨state, ?_, ?_⟩
    · rw [List.append_assoc, ← shown]
      rfl
    · rw [List.map_cons, List.cons_append, ← replies, ← (Reply.ofCount_eq_failed _ _).mpr failed]
      rfl

/-- A read of all answers that is interrupted and tried again comes to what one read
comes to that is not: but for the calls all that happens is the same, and the number of
responses is that of the last read alone. -/
structure Follows (whole : Performed σ κ (Except Error Nat)) (trace : Trace κ)
    (last : Performed σ' κ (Except Error Nat)) : Prop where
  result : last.result = whole.result.map fun _ => last.trace.responses.length
  shown : ∀ {α : Type} (find : Event κ → Option α), find (.called .receiveAll) = none →
    (trace ++ last.trace).filterMap find = whole.trace.filterMap find
  state : last.connection = whole.connection.onto last.connection.transport
  alike : Transport.SendAlike whole.connection.transport last.connection.transport

theorem receiveFailed_ne_server (failure : IoError) (other : ServerError) :
    Error.receiveFailed failure ≠ .server other := by
  intro same
  rw [Error.receiveFailed] at same
  split at same <;> cases same

theorem responses_receiveAll_of_idle {connection : Connection σ κ}
    (isOpen : connection.closed = false) (idle : connection.waiting = 0) :
    connection.receiveAll.trace.responses = [] := by
  refine (responses_perform connection .receiveAll).trans ?_
  rw [read?_receiveAll isOpen, Transport.receiveAll_of_idle connection.transport idle]
  rfl

theorem follows_of_idle {connection : Connection σ κ} {transport : σ'}
    (alike : Transport.SendAlike connection.transport transport)
    (isOpen : connection.closed = false) (idle : connection.waiting = 0) :
    (connection.onto transport).Retries [] [] (connection.onto transport).receiveAll ∧
      Follows connection.receiveAll [] (connection.onto transport).receiveAll := by
  have alsoOpen : (connection.onto transport).closed = false := isOpen
  have alsoIdle : (connection.onto transport).waiting = 0 := idle
  have none := responses_receiveAll_of_idle alsoOpen alsoIdle
  have surfaced := surfaceFailure_onto alike
  refine ⟨.done ?_, ?_, ?_, ?_, ?_⟩
  · intro failure
    rw [receiveAll_of_idle alsoOpen alsoIdle]
    cases (connection.onto transport).surfaceFailure.result with
    | none => exact nofun
    | some kept =>
      exact fun same => receiveFailed_ne_server failure kept (Except.error.inj same).symm
  · rw [none, receiveAll_of_idle isOpen idle, receiveAll_of_idle alsoOpen alsoIdle]
    simp only [surfaced.result]
    cases connection.surfaceFailure.result <;> rfl
  · intro α find _
    rw [receiveAll_of_idle isOpen idle, receiveAll_of_idle alsoOpen alsoIdle]
    simp only [surfaced.trace]
    rfl
  · rw [receiveAll_of_idle isOpen idle, receiveAll_of_idle alsoOpen alsoIdle]
    exact surfaced.state
  · rw [receiveAll_of_idle isOpen idle, receiveAll_of_idle alsoOpen alsoIdle]
    exact surfaced.alike

/-- A response read first is passed on first, however the reads after it fare. -/
theorem Retries.past {connection : Connection σ κ} {response : Response} {after : σ}
    {failures : List IoError} {trace : Trace κ} {last : Performed σ κ (Except Error Nat)}
    (isOpen : connection.closed = false) (waits : connection.waiting ≠ 0)
    (read : Transport.receiveOne connection.transport = (.ok response, after))
    (retries : (connection.past response after).Retries failures trace last) :
    ∃ trace' last', connection.Retries failures trace' last' ∧
      last'.connection = last.connection ∧
      (∀ whole : Except Error Nat, last.result = whole.map (fun _ => last.trace.responses.length) →
        last'.result = whole.map fun _ => last'.trace.responses.length) ∧
      ∀ {α : Type} (find : Event κ → Option α), find (.called .receiveAll) = none →
        (trace' ++ last'.trace).filterMap find =
          (.arrived response connection.waiting ::
            connection.dispatcher.reaction response : Trace κ).filterMap find ++
              (trace ++ last.trace).filterMap find := by
  -- It is the first of the reads that gains the response.
  obtain ⟨result, state, gains⟩ := receiveAll_of_response isOpen waits read
  cases retries with
  | done ended =>
    refine ⟨[], connection.receiveAll, .done ?_, state, ?_, fun find none => gains find none⟩
    · intro failure failed
      rw [result] at failed
      cases outcome : (connection.past response after).receiveAll.result with
      | error error =>
        rw [outcome] at failed
        exact ended failure (outcome.trans failed)
      | ok count =>
        rw [outcome] at failed
        cases failed
    · intro first counted
      have alone := Transport.responses_arrival connection.dispatcher response connection.waiting
      have responses : connection.receiveAll.trace.responses =
          response :: (connection.past response after).receiveAll.trace.responses := by
        rw [Trace.responses, gains Event.response? rfl]
        exact congrArg (· ++ _) alone
      rw [result, counted, responses]
      cases first <;> rfl
  | @again _ failure failures trace _ failed more =>
    refine ⟨connection.receiveAll.trace ++ trace, last, .again ?_ ?_, rfl, fun _ same => same, ?_⟩
    · rw [result, failed]
      rfl
    · rw [state]
      exact more
    · intro α find none
      simp only [List.filterMap_append, gains find none, List.append_assoc]

def failureOf? : Except IoError Response → Option IoError
  | .error failure => some failure
  | .ok _ => none

theorem plays_surfaceFailure {connection : Connection σ κ} {replies : Replies}
    (plays : Transport.Plays connection.transport replies) :
    Transport.Plays connection.surfaceFailure.connection.transport replies := by
  cases kept : connection.dispatcher.failure with
  | none =>
    rw [surfaceFailure_of_none kept]
    exact plays
  | some failure =>
    have entry : Transport.Plays (connection.enqueue .reset .discard).transport replies := plays
    rw [surfaceFailure_of_some kept]
    exact plays_sendAll entry

theorem retries_follow_of_idle {rest : Replies} {replies : List (Except IoError Response)}
    {connection : Connection σ κ} {transport : σ'}
    (alike : Transport.SendAlike connection.transport transport)
    (isOpen : connection.closed = false)
    (plays : Transport.Plays connection.transport
      ((replies.filterMap Except.toOption).map .ok ++ₛ rest))
    (interrupted : Transport.Plays transport (replies ++ₛ rest)) (idle : connection.waiting = 0) :
    (connection.onto transport).Retries [] [] (connection.onto transport).receiveAll ∧
      Follows connection.receiveAll [] (connection.onto transport).receiveAll ∧
      Transport.Plays connection.receiveAll.connection.transport
        ((replies.filterMap Except.toOption).map .ok ++ₛ rest) ∧
      Transport.Plays (connection.onto transport).receiveAll.connection.transport
        (replies ++ₛ rest) := by
  have alsoOpen : (connection.onto transport).closed = false := isOpen
  have alsoIdle : (connection.onto transport).waiting = 0 := idle
  have entry : Transport.Plays (connection.onto transport).transport (replies ++ₛ rest) :=
    interrupted
  obtain ⟨retries, follows⟩ := follows_of_idle alike isOpen idle
  refine ⟨retries, follows, ?_, ?_⟩
  · rw [receiveAll_of_idle isOpen idle]
    exact plays_surfaceFailure plays
  · rw [receiveAll_of_idle alsoOpen alsoIdle]
    exact plays_surfaceFailure entry

/-- However failures are spread over the replies, reading on past those that are met comes
to what reading comes to without them. -/
theorem retries_follow {rest : Replies} (replies : List (Except IoError Response))
    {connection : Connection σ κ} {transport : σ'}
    (alike : Transport.SendAlike connection.transport transport)
    (isOpen : connection.closed = false)
    (plays : Transport.Plays connection.transport
      ((replies.filterMap Except.toOption).map .ok ++ₛ rest))
    (interrupted : Transport.Plays transport (replies ++ₛ rest))
    (enough : connection.waiting ≤
      ((replies.filterMap Except.toOption).filter Response.isSummary).length) :
    ∃ met left trace last, replies = met ++ left ∧
      (connection.onto transport).Retries (met.filterMap failureOf?) trace last ∧
      Follows connection.receiveAll trace last ∧
      Transport.Plays connection.receiveAll.connection.transport
        ((left.filterMap Except.toOption).map .ok ++ₛ rest) ∧
      Transport.Plays last.connection.transport (left ++ₛ rest) := by
  induction replies generalizing connection transport with
  | nil =>
    exact ⟨[], [], [], _, rfl, retries_follow_of_idle alike isOpen plays interrupted
      (Nat.le_zero.mp enough)⟩
  | cons reply replies ih =>
    by_cases idle : connection.waiting = 0
    · exact ⟨[], _, [], _, rfl, retries_follow_of_idle alike isOpen plays interrupted idle⟩
    · have alsoOpen : (connection.onto transport).closed = false := isOpen
      obtain ⟨read, later⟩ := interrupted.receive
      cases reply with
      | error failure =>
        -- Only the interrupted read is a step further.
        obtain ⟨met, left, trace, last, rfl, retries, follows, unread⟩ :=
          ih alike.receive_right isOpen plays later enough
        have failed : (connection.onto transport).receiveAll = _ :=
          receiveAll_of_error alsoOpen idle read
        refine ⟨.error failure :: met, left, (connection.onto transport).receiveAll.trace ++ trace,
          last, rfl, .again ?_ ?_, ⟨follows.result, ?_, follows.state, follows.alike⟩, unread⟩
        · rw [failed]
        · rw [failed]
          exact retries
        · intro α find none
          rw [failed, List.append_assoc, List.singleton_append, List.filterMap_cons_none none]
          exact follows.shown find none
      | ok response =>
        -- Both reads are a step further, with the same response.
        obtain ⟨first, onward⟩ := plays.receive
        have fewer : (connection.dispatcher.accept response).waiting ≤
            ((replies.filterMap Except.toOption).filter Response.isSummary).length :=
          Transport.waiting_accept_le enough
        have stillAlike : Transport.SendAlike
            (connection.past response (Transport.receiveOne connection.transport).2).transport
            (Transport.receiveOne transport).2 := alike.receive_left.receive_right
        obtain ⟨met, left, trace, last, rfl, retries, follows, unread, unread'⟩ :=
          ih stillAlike isOpen onward later fewer
        obtain ⟨result, state, gains⟩ := receiveAll_of_response isOpen idle first
        obtain ⟨trace', last', again, same, counted, shown⟩ :=
          Retries.past alsoOpen idle read retries
        refine ⟨.ok response :: met, left, trace', last', rfl, again, ⟨?_, ?_, ?_, ?_⟩, ?_, ?_⟩
        · rw [counted _ follows.result, result]
          cases (connection.past response _).receiveAll.result <;> rfl
        · intro α find none
          rw [shown find none, follows.shown find none, gains find none]
          rfl
        · rw [same, state]
          exact follows.state
        · rw [same, state]
          exact follows.alike
        · rw [state]
          exact unread
        · rw [same]
          exact unread'

structure Resumes (whole : Performed σ κ (Except Error Nat)) (trace : Trace κ)
    (last : Performed σ' κ (Except Error Nat)) : Prop extends Follows whole trace last where
  deliveries : (trace ++ last.trace).deliveries = whole.trace.deliveries
  log : (trace ++ last.trace).log = whole.trace.log
  messages : (trace ++ last.trace).messages = whole.trace.messages

theorem Follows.resumes {whole : Performed σ κ (Except Error Nat)} {trace : Trace κ}
    {last : Performed σ' κ (Except Error Nat)} (follows : Follows whole trace last) :
    Resumes whole trace last :=
  ⟨follows, follows.shown _ rfl, follows.shown _ rfl, follows.shown _ rfl⟩

/-- What a read of all answers that fails leaves: nothing is lost of what was queued, as
many requests wait less as summaries were passed on, and a failure of the server is kept. -/
structure Suspends (before : Connection σ κ) (performed : Performed σ κ (Except Error Nat)) :
    Prop where
  pending : performed.connection.pending = before.pending
  unsent : performed.connection.dispatcher.unsent = before.dispatcher.unsent
  waiting : performed.connection.waiting + performed.trace.summaries.length = before.waiting
  failure : performed.connection.dispatcher.failure =
    (before.dispatcher.failure <|> performed.trace.failures.head?)
  messages : performed.trace.messages = []

theorem waiting_receiveAll_add (transport : σ) (dispatcher : Dispatcher κ) :
    let receipt := Transport.receiveAll transport dispatcher
    receipt.dispatcher.waiting + receipt.trace.summaries.length = dispatcher.waiting := by
  apply Transport.receiveAll_induction (motive := fun _ dispatcher receipt =>
    receipt.dispatcher.waiting + receipt.trace.summaries.length = dispatcher.waiting)
  case idle => exact fun _ _ _ => rfl
  case error => exact fun _ _ _ _ _ _ => rfl
  case response =>
    intro _ _ dispatcher response rest waits _ ih
    have answers : Trace.answers
        (.arrived response dispatcher.waiting :: dispatcher.reaction response ++ rest.trace) =
          response :: rest.trace.answers := by
      obtain ⟨fewer, one⟩ := Nat.exists_eq_succ_of_ne_zero waits
      rw [List.cons_append, ← List.singleton_append, Trace.answers_append, Trace.answers_append,
        answers_reaction, one]
      rfl
    rw [dispatcher.waiting_accept] at ih
    rw [Trace.summaries, answers]
    by_cases ends : response.isSummary
    · rw [if_pos ends, Trace.summaries] at ih
      rw [List.filter_cons_of_pos ends, List.length_cons, ← Nat.add_assoc, ih]
      exact Nat.sub_add_cancel (Nat.pos_of_ne_zero waits)
    · rw [if_neg ends] at ih
      rw [List.filter_cons_of_neg ends]
      exact ih

theorem suspends {connection : Connection σ κ} {failure : IoError}
    (isOpen : connection.closed = false)
    (failed : connection.receiveAll.result = .error (.receiveFailed failure)) :
    connection.Suspends connection.receiveAll := by
  have ends := read?_ends (read?_receiveAll isOpen)
  have silent : ∀ other, (connection.perform .receiveAll).result ≠ .failed (.server other) := by
    intro other surfaced
    have result := (Reply.ofCount_eq_failed _ _).mp surfaced
    rw [failed] at result
    exact receiveFailed_ne_server failure other (Except.error.inj result)
  obtain ⟨after, trace, _⟩ := ends.silent silent
  have state : connection.receiveAll.connection = _ := after
  have shown : connection.receiveAll.trace = _ := trace
  refine ⟨?_, ?_, ?_, ?_, ?_⟩
  · rw [state]
    rfl
  · rw [state]
    exact ends.reads.unsent
  · rw [state, shown]
    exact waiting_receiveAll_add connection.transport connection.dispatcher
  · rw [state, shown]
    exact ends.reads.failure
  · rw [shown, Trace.messages_append]
    exact ends.reads.trace.filterMap_eq_nil (fun _ => rfl) (fun _ _ => rfl) fun _ _ => rfl

end Connection

/-- From any open state, with enough summaries to come: however many failures stand between
the responses, reading again after each that is met delivers, logs and hands over what one
read without them does, and leaves the same connection and the same responses unread. A read
that fails leaves all that the next one needs. -/
theorem interrupted_reads_resume [Transport σ] [Transport σ'] (connection : Connection σ κ)
    (transport : σ') (replies : List (Except IoError Response)) (rest : Replies)
    (isOpen : connection.closed = false)
    (alike : Transport.SendAlike connection.transport transport)
    (plays : Transport.Plays connection.transport
      ((replies.filterMap Except.toOption).map .ok ++ₛ rest))
    (interrupted : Transport.Plays transport (replies ++ₛ rest))
    (enough : connection.waiting ≤
      ((replies.filterMap Except.toOption).filter Response.isSummary).length) :
    (∃ met left trace last, replies = met ++ left ∧
      (connection.onto transport).Retries (met.filterMap Connection.failureOf?) trace last ∧
      Connection.Resumes connection.receiveAll trace last ∧
      Transport.Plays connection.receiveAll.connection.transport
        ((left.filterMap Except.toOption).map .ok ++ₛ rest) ∧
      Transport.Plays last.connection.transport (left ++ₛ rest)) ∧
    ∀ (other : Connection σ' κ) (failure : IoError), other.closed = false →
      other.receiveAll.result = .error (.receiveFailed failure) →
      other.Suspends other.receiveAll := by
  refine ⟨?_, fun other failure isOpen failed => Connection.suspends isOpen failed⟩
  obtain ⟨met, left, trace, last, whole, retries, follows, unread⟩ :=
    Connection.retries_follow replies alike isOpen plays interrupted enough
  exact ⟨met, left, trace, last, whole, retries, follows.resumes, unread⟩

section

/-- Reads run out of time before a failure, between it and what was ignored because of it,
and after that. -/
def slowReplies : List (Except IoError Response) :=
  [.error (.bare .timedOut), .ok (.failure "Neo.ClientError.Statement.SyntaxError" "bad"),
    .error (.bare .wouldBlock), .error (.bare .timedOut), .ok .ignored, .error (.bare .timedOut)]

def promptlyFailed : Connection ScriptedTransport Nat :=
  (Connection.fresh
    (.ofReplies ((slowReplies.filterMap Except.toOption).map .ok) none none) true true).runFrom
      [.run "RETRUN 1" .empty (.handle 1), .pullAll (.handle 1), .sendAll]

theorem interrupted_reads_resume_slow_replies :
    let slow := promptlyFailed.onto { promptlyFailed.transport with replies := slowReplies }
    promptlyFailed.closed = false ∧ promptlyFailed.waiting = 2 ∧
      ∃ failures trace last, slow.Retries failures trace last ∧
        Connection.Resumes promptlyFailed.receiveAll trace last := by
  obtain ⟨⟨met, left, trace, last, _, retries, resumes, _⟩, _⟩ :=
    interrupted_reads_resume promptlyFailed
      { promptlyFailed.transport with replies := slowReplies } slowReplies
      (Stream'.const (.error (.bare .unexpectedEof))) rfl (ScriptedTransport.sendAlike rfl)
      (ScriptedTransport.plays _) (ScriptedTransport.plays _) (by decide)
  exact ⟨rfl, rfl, _, trace, last, retries, resumes⟩

end

end PipelinedClient
