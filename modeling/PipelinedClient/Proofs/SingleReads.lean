import PipelinedClient.Proofs.ExactReads
import PipelinedClient.Proofs.InterruptedReads

/-! Reading responses one at a time.

While nothing fails it makes no difference whether the answers are read all at once or one
response after the other. If the server reports failures, reading one at a time returns
each of them as it comes, with a reset behind it; the requests that waited before are
answered all the same, and the failure returned first is the one that reading all returns.
-/

set_option autoImplicit false

namespace PipelinedClient

variable {σ κ : Type}

namespace Connection

variable [Transport σ]

/-- Reading one response after the other for as long as requests wait and nothing fails: how
many calls it takes, and what comes of them together. -/
inductive Repeats : Connection σ κ → Nat → Performed σ κ (Except Error Unit) → Prop where
  | idle {connection : Connection σ κ} :
      connection.waiting = 0 → Repeats connection 0 ⟨.ok (), connection, []⟩
  | stop {connection : Connection σ κ} {error : Error} :
      connection.waiting ≠ 0 → connection.receiveOne.result = .error error →
      Repeats connection 1 connection.receiveOne
  | next {connection : Connection σ κ} {count : Nat} {rest : Performed σ κ (Except Error Unit)} :
      connection.waiting ≠ 0 → connection.receiveOne.result = .ok () →
      Repeats connection.receiveOne.connection count rest →
      Repeats connection (count + 1)
        ⟨rest.result, rest.connection, connection.receiveOne.trace ++ rest.trace⟩

theorem Repeats.unique {connection : Connection σ κ} {count other : Nat}
    {each also : Performed σ κ (Except Error Unit)} (repeats : connection.Repeats count each)
    (again : connection.Repeats other also) : count = other ∧ each = also := by
  -- What waits and how the call ends leave one way on.
  induction repeats generalizing other also with
  | idle none =>
    cases again with
    | idle => exact ⟨rfl, rfl⟩
    | stop waits => exact absurd none waits
    | next waits => exact absurd none waits
  | stop waits failed =>
    cases again with
    | idle none => exact absurd none waits
    | stop => exact ⟨rfl, rfl⟩
    | next _ read =>
      rw [failed] at read
      cases read
  | next waits read _ ih =>
    cases again with
    | idle none => exact absurd none waits
    | stop _ failed =>
      rw [failed] at read
      cases read
    | next _ _ rest =>
      obtain ⟨rfl, rfl⟩ := ih rest
      exact ⟨rfl, rfl⟩

/-- Reading one response after the other, whatever the calls return, until so many summaries
were passed on. -/
inductive Persists : Connection σ κ → Nat → List (Performed σ κ (Except Error Unit)) → Prop where
  | done {connection : Connection σ κ} : Persists connection 0 []
  | next {connection : Connection σ κ} {count : Nat}
      {rest : List (Performed σ κ (Except Error Unit))} :
      count ≠ 0 →
      Persists connection.receiveOne.connection
        (count - connection.receiveOne.trace.summaries.length) rest →
      Persists connection count (connection.receiveOne :: rest)

theorem Persists.unique {connection : Connection σ κ} {count : Nat}
    {calls also : List (Performed σ κ (Except Error Unit))}
    (persists : connection.Persists count calls) (again : connection.Persists count also) :
    calls = also := by
  induction persists generalizing also with
  | done =>
    cases again with
    | done => rfl
    | next some => exact absurd rfl some
  | next some _ ih =>
    cases again with
    | done => exact absurd rfl some
    | next _ rest => rw [ih rest]

/-! One call. -/

theorem receiveOne_of_error {connection : Connection σ κ} {failure : IoError} {after : σ}
    (isOpen : connection.closed = false)
    (read : Transport.receiveOne connection.transport = (.error failure, after)) :
    connection.receiveOne =
      ⟨.error (.receiveFailed failure), { connection with transport := after },
        [.called .receiveOne]⟩ := by
  rw [receiveOne_of_open isOpen]
  simp only [Transport.receiveInto, read]
  rfl

def arrival (connection : Connection σ κ) (response : Response) (after : σ) : Receipt σ κ :=
  ⟨.ok 1, after, connection.dispatcher.accept response,
    .arrived response connection.waiting :: connection.dispatcher.reaction response⟩

theorem receiveOne_of_response {connection : Connection σ κ} {response : Response} {after : σ}
    (isOpen : connection.closed = false)
    (read : Transport.receiveOne connection.transport = (.ok response, after)) :
    connection.receiveOne =
      let concluded := connection.conclude (connection.arrival response after)
      ⟨concluded.result.map fun _ => (), concluded.connection,
        .called .receiveOne :: concluded.trace⟩ := by
  have receipt : Transport.receiveInto connection.transport connection.dispatcher =
      connection.arrival response after := by
    simp only [Transport.receiveInto, read]
    rfl
  rw [receiveOne_of_open isOpen, receipt]

omit [Transport σ] in
theorem failure_arrival {connection : Connection σ κ}
    (unfailed : connection.dispatcher.failure = none) (response : Response) (after : σ) :
    (connection.arrival response after).dispatcher.failure = response.reported? := by
  rw [arrival, connection.dispatcher.failure_accept, unfailed]
  rfl

theorem receiveOne_of_silent {connection : Connection σ κ} {response : Response} {after : σ}
    (isOpen : connection.closed = false) (unfailed : connection.dispatcher.failure = none)
    (read : Transport.receiveOne connection.transport = (.ok response, after))
    (silent : response.reported? = none) :
    connection.receiveOne =
      ⟨.ok (), connection.past response after,
        .called .receiveOne :: (connection.arrival response after).trace⟩ := by
  have none := (failure_arrival unfailed response after).trans silent
  rw [receiveOne_of_response isOpen read, conclude_of_none connection rfl none]
  rfl

/-! While nothing fails. -/

/-- Reading all answers and reading them one by one come to the same: but for the calls all
that happens is the same, and so is what is left. -/
structure SameReads (whole : Performed σ κ (Except Error Nat)) (count : Nat)
    (each : Performed σ κ (Except Error Unit)) : Prop where
  result : whole.result = each.result.map fun _ => count
  connection : each.connection = whole.connection
  shown : ∀ {α : Type} (find : Event κ → Option α), (∀ call, find (.called call) = none) →
    each.trace.filterMap find = whole.trace.filterMap find
  deliveries : each.trace.deliveries = whole.trace.deliveries
  log : each.trace.log = whole.trace.log

/-- As long as no response reports a failure, the loop of calls follows the loop of reads. -/
theorem repeats_receipt {connection : Connection σ κ} (isOpen : connection.closed = false)
    (unfailed : connection.dispatcher.failure = none)
    (silent : (Transport.receiveAll connection.transport connection.dispatcher).trace.failures =
      []) :
    let receipt := Transport.receiveAll connection.transport connection.dispatcher
    ∃ count each, connection.Repeats count each ∧
      (connection.conclude receipt).result = each.result.map (fun _ => count) ∧
      each.connection = connection.withReceipt receipt ∧
      ∀ {α : Type} (find : Event κ → Option α), (∀ call, find (.called call) = none) →
        each.trace.filterMap find = receipt.trace.filterMap find := by
  refine Transport.receiveAll_induction (motive := fun transport dispatcher receipt =>
    ∀ current : Connection σ κ, current.closed = false → current.dispatcher.failure = none →
      current.transport = transport → current.dispatcher = dispatcher →
      receipt.trace.failures = [] →
      ∃ count each, current.Repeats count each ∧
        (current.conclude receipt).result = each.result.map (fun _ => count) ∧
        each.connection = current.withReceipt receipt ∧
        ∀ {α : Type} (find : Event κ → Option α), (∀ call, find (.called call) = none) →
          each.trace.filterMap find = receipt.trace.filterMap find)
    ?idle ?error ?response _ _ connection isOpen unfailed rfl rfl silent
  case idle =>
    rintro _ _ none current isOpen unfailed rfl rfl _
    refine ⟨0, _, .idle none, ?_, rfl, fun _ _ => rfl⟩
    rw [conclude_of_none current rfl unfailed]
    rfl
  case error =>
    rintro _ after _ failure waits read current isOpen _ rfl rfl _
    have failed := receiveOne_of_error isOpen read
    refine ⟨1, _, .stop waits (congrArg Performed.result failed), ?_, ?_, ?_⟩
    · rw [failed, conclude_of_error current rfl]
      rfl
    · rw [failed]
      rfl
    · intro α find none
      rw [failed, List.filterMap_cons_none (none _)]
  case response =>
    rintro _ after _ response rest waits read ih current isOpen unfailed rfl rfl silent
    -- The response comes first, so neither it nor any later one reports a failure.
    rw [Trace.failures_append, Trace.failures, Transport.responses_arrival] at silent
    obtain ⟨here, later⟩ := List.append_eq_nil_iff.mp silent
    have reported : response.reported? = none := by simpa using here
    have one := receiveOne_of_silent isOpen unfailed read reported
    have stillUnfailed : (current.past response after).dispatcher.failure = none := by
      rw [past, current.dispatcher.failure_accept, unfailed, reported]
      rfl
    obtain ⟨count, each, repeats, result, state, shown⟩ :=
      ih (current.past response after) isOpen stillUnfailed rfl rfl later
    have next : Repeats current.receiveOne.connection count each := by
      rw [one]
      exact repeats
    refine ⟨count + 1, _, .next waits (congrArg Performed.result one) next, ?_, state, ?_⟩
    · rw [conclude_past current response after rest]
      simp only [result]
      cases each.result <;> rfl
    · intro α find none
      rw [List.filterMap_append, one, List.filterMap_cons_none (none _), shown find none,
        List.filterMap_append]
      rfl

theorem repeats_receiveAll {connection : Connection σ κ} (isOpen : connection.closed = false)
    (unfailed : connection.dispatcher.failure = none)
    (silent : (Transport.receiveAll connection.transport connection.dispatcher).trace.failures =
      []) :
    ∃ count each, connection.Repeats count each ∧ SameReads connection.receiveAll count each := by
  obtain ⟨count, each, repeats, result, state, shown⟩ := repeats_receipt isOpen unfailed silent
  have reads := Transport.receiveAll_reads connection.transport connection.dispatcher
  have whole := receiveAll_of_open isOpen
  generalize Transport.receiveAll connection.transport connection.dispatcher = receipt at *
  have none : receipt.dispatcher.failure = none := by
    rw [reads.failure, unfailed, silent]
    rfl
  have plain : (connection.conclude receipt).connection = connection.withReceipt receipt ∧
      (connection.conclude receipt).trace = receipt.trace := by
    cases read : receipt.outcome with
    | error failure => rw [conclude_of_error connection read]; exact ⟨rfl, rfl⟩
    | ok count => rw [conclude_of_none connection read none]; exact ⟨rfl, rfl⟩
  have shown' : ∀ {α : Type} (find : Event κ → Option α), (∀ call, find (.called call) = .none) →
      each.trace.filterMap find = connection.receiveAll.trace.filterMap find := by
    intro α find noCall
    rw [whole, List.filterMap_cons_none (noCall _), plain.2]
    exact shown find noCall
  refine ⟨count, each, repeats, ?_, ?_, shown', shown' _ fun _ => rfl, shown' _ fun _ => rfl⟩
  · rw [whole]
    exact result
  · rw [whole, plain.1]
    exact state

/-! When the server reports failures. -/

structure Poised (connection : Connection σ κ) (replies : Replies) : Prop where
  isOpen : connection.closed = false
  unfailed : connection.dispatcher.failure = none
  paired : connection.Paired
  plays : Transport.Plays connection.transport replies

/-- A call that finds a response: it goes to this sink, a failure that it reports is
returned, and the requests that waited still wait in front of all others. -/
structure Serves (connection : Connection σ κ) (sink : Sink κ) (response : Response) :
    Prop where
  result : connection.receiveOne.result = match response.reported? with
    | some failure => .error (.server failure)
    | none => .ok ()
  deliveries : connection.receiveOne.trace.deliveries = [(sink, .ofResponse response)]
  answers : connection.receiveOne.trace.answers = [response]
  sent : ∃ more, connection.receiveOne.connection.dispatcher.sent =
    (connection.dispatcher.accept response).sent ++ more

theorem sent_sendAll {connection : Connection σ κ} (isOpen : connection.closed = false)
    (paired : connection.Paired) :
    ∃ more, connection.sendAll.connection.dispatcher.sent =
      connection.dispatcher.sent ++ more := by
  by_cases nothing : connection.pending = []
  · rw [sendAll_of_nothing isOpen nothing]
    exact ⟨[], (List.append_nil _).symm⟩
  · cases writable : connection.writeFailed with
    | true =>
      rw [sendAll_of_failed isOpen nothing writable]
      exact ⟨[], (refuseWrite_queues paired).1.trans (List.append_nil _).symm⟩
    | false =>
      obtain ⟨taken, unsent, failure, transmits⟩ := connection.transmit_transmits
      rw [sendAll_of_writable isOpen nothing writable]
      exact ⟨_, (transmits.queues paired).1⟩

/-- The reset behind a failure concerns nobody who looks at responses. -/
theorem filterMap_conclude_of_reads {connection : Connection σ κ}
    (isOpen : connection.closed = false) (receipt : Receipt σ κ) {α : Type}
    {find : Event κ → Option α} (noLine : ∀ line, find (.logged line) = none)
    (noCall : ∀ call, find (.called call) = none)
    (noQueued : ∀ message sink, find (.queued message sink) = none)
    (noTaken : ∀ message, find (.taken message) = none)
    (noDropped : ∀ message, find (.dropped message) = none) :
    (connection.conclude receipt).trace.filterMap find = receipt.trace.filterMap find := by
  have silent (entry : Connection σ κ) : entry.sendAll.trace.filterMap find = [] :=
    entry.filterMap_sendAll find (fun _ => noLine _) (noCall _) noTaken noDropped
  rw [filterMap_conclude noLine isOpen]
  simp [noQueued, silent]

theorem Poised.receiveOne {connection : Connection σ κ} {response : Response} {sink : Sink κ}
    {sinks : List (Sink κ)} {replies : Replies}
    (poised : connection.Poised (Stream'.cons (.ok response) replies))
    (oldest : connection.dispatcher.sent = sink :: sinks) :
    connection.Serves sink response ∧ connection.receiveOne.connection.Poised replies := by
  obtain ⟨isOpen, unfailed, paired, plays⟩ := poised
  obtain ⟨read, later⟩ := plays.receive
  generalize (Transport.receiveOne connection.transport).2 = after at read later
  have one := receiveOne_of_response isOpen read
  have kept := failure_arrival unfailed response after
  have reads : (connection.arrival response after).Reads connection.dispatcher := by
    have reads := Transport.receiveInto_reads connection.transport connection.dispatcher
    simp only [Transport.receiveInto, read] at reads
    exact reads
  have waiting : connection.waiting = sinks.length + 1 := by
    rw [waiting, ← connection.dispatcher.length_sent, oldest, List.length_cons]
  have deliveries : connection.receiveOne.trace.deliveries = [(sink, .ofResponse response)] := by
    have dealt := deliveries_reaction connection.dispatcher response
    rw [oldest] at dealt
    rw [one]
    exact (filterMap_conclude_of_reads isOpen _ (fun _ => rfl) (fun _ => rfl) (fun _ _ => rfl)
      (fun _ => rfl) fun _ => rfl).trans dealt
  have answers : connection.receiveOne.trace.answers = [response] := by
    have none := answers_reaction connection.dispatcher response
    rw [one]
    refine (filterMap_conclude_of_reads isOpen _ (fun _ => rfl) (fun _ => rfl) (fun _ _ => rfl)
      (fun _ => rfl) fun _ => rfl).trans ?_
    rw [arrival, waiting]
    exact congrArg (response :: ·) none
  cases reported : response.reported? with
  | none =>
    rw [reported] at kept
    have concluded := conclude_of_none connection rfl kept
    refine ⟨⟨?_, deliveries, answers, [], ?_⟩, ?_⟩
    · rw [reported, one, concluded]
      rfl
    · rw [one, concluded, List.append_nil]
      rfl
    · rw [one, concluded]
      exact ⟨isOpen, kept, (congrArg List.length reads.unsent).trans paired, later⟩
  | some failure =>
    rw [reported] at kept
    have concluded := conclude_of_some isOpen rfl kept
    have entry : (connection.recovery (connection.arrival response after)).closed = false := isOpen
    have stillPaired := paired_recovery paired reads
    have entryPlays : Transport.Plays
        (connection.recovery (connection.arrival response after)).transport replies := later
    obtain ⟨more, sent⟩ := sent_sendAll entry stillPaired
    refine ⟨⟨?_, deliveries, answers, more, ?_⟩, ?_⟩
    · rw [reported, one, concluded]
      rfl
    · rw [one, concluded]
      refine sent.trans (congrArg (· ++ more) ?_)
      exact (Dispatcher.append_queues _ .discard).1
    · rw [one, concluded]
      refine ⟨(closed_sendAll _).trans entry, rfl, ?_, plays_sendAll entryPlays⟩
      exact (congrArg List.length (unsent_sendAll stillPaired)).trans
        (congrArg List.length (pending_sendAll _)).symm

def serverFailure? {α : Type} : Except Error α → Option ServerError
  | .error (.server failure) => some failure
  | _ => none

def shownBy {α : Type} (calls : List (Performed σ κ α)) : Trace κ :=
  calls.flatMap Performed.trace

structure ReadsOnPast (calls : List (Performed σ κ (Except Error Unit))) (sinks : List (Sink κ))
    (read : List Response) : Prop where
  deliveries : (shownBy calls).deliveries = deal sinks read
  failures : calls.filterMap (fun call => serverFailure? call.result) =
    read.filterMap Response.reported?
  results : ∀ call ∈ calls,
    call.result = .ok () ∨ ∃ failure, call.result = .error (.server failure)

omit [Transport σ] in
theorem readsOnPast_nothing : ReadsOnPast ([] : List (Performed σ κ (Except Error Unit))) [] [] :=
  ⟨rfl, rfl, fun _ member => nomatch member⟩

theorem Serves.readsOnPast {connection : Connection σ κ} {sink : Sink κ} {response : Response}
    {sinks : List (Sink κ)} {read : List Response}
    {calls : List (Performed σ κ (Except Error Unit))} (serves : connection.Serves sink response)
    (onward : ReadsOnPast calls (if response.isSummary then sinks else sink :: sinks) read) :
    ReadsOnPast (connection.receiveOne :: calls) (sink :: sinks) (response :: read) := by
  refine ⟨?_, ?_, ?_⟩
  · rw [shownBy, List.flatMap_cons, Trace.deliveries_append, serves.deliveries, deal]
    exact congrArg (_ :: ·) onward.deliveries
  · rw [List.filterMap_cons, onward.failures, serves.result, List.filterMap_cons]
    cases response.reported? <;> rfl
  · rw [List.forall_mem_cons]
    refine ⟨?_, onward.results⟩
    rw [serves.result]
    cases response.reported? with
    | none => exact .inl rfl
    | some failure => exact .inr ⟨failure, rfl⟩

/-- Those that waited first are served in order, whatever resets put behind them. -/
theorem Poised.persists {rest : Replies} (answers : List Response) {connection : Connection σ κ}
    {front back : List (Sink κ)} (poised : connection.Poised (answers.map .ok ++ₛ rest))
    (sent : connection.dispatcher.sent = front ++ back)
    (enough : front.length ≤ (answers.filter Response.isSummary).length) :
    ∃ calls, connection.Persists front.length calls ∧
      ReadsOnPast calls front (answersTo front.length answers).1 := by
  -- A summary takes the first sink off the front; what resets add joins the back.
  induction answers generalizing connection front back with
  | nil =>
    obtain rfl : front = [] := List.eq_nil_of_length_eq_zero (Nat.le_zero.mp enough)
    exact ⟨[], .done, readsOnPast_nothing⟩
  | cons response answers ih =>
    cases front with
    | nil => exact ⟨[], .done, readsOnPast_nothing⟩
    | cons sink sinks =>
      obtain ⟨serves, stillPoised⟩ := poised.receiveOne sent
      obtain ⟨more, behind⟩ := serves.sent
      have served := (connection.dispatcher.accept_queues response).1
      have some : (sink :: sinks).length ≠ 0 := Nat.succ_ne_zero sinks.length
      have left : connection.receiveOne.connection.dispatcher.sent =
          (if response.isSummary then sinks else sink :: sinks) ++ (back ++ more) := by
        rw [behind, served, sent]
        split <;> simp
      have fewer : (if response.isSummary then sinks else sink :: sinks).length =
          if response.isSummary then (sink :: sinks).length - 1 else (sink :: sinks).length := by
        split <;> rfl
      have stillEnough := enough_behind enough
      rw [← fewer] at stillEnough
      obtain ⟨calls, persists, onward⟩ := ih stillPoised left stillEnough
      have counted : (if response.isSummary then sinks else sink :: sinks).length =
          (sink :: sinks).length - connection.receiveOne.trace.summaries.length := by
        rw [Trace.summaries, serves.answers]
        by_cases ends : response.isSummary <;> simp [ends]
      refine ⟨connection.receiveOne :: calls, .next some (counted ▸ persists), ?_⟩
      rw [answersTo_cons answers some, ← fewer]
      exact serves.readsOnPast onward

/-- Reading on one at a time past failures delivers what one read of all answers does, and
returns first the failure that this returns. -/
structure SameRecovery (whole : Performed σ κ (Except Error Nat))
    (calls : List (Performed σ κ (Except Error Unit))) : Prop where
  deliveries : (shownBy calls).deliveries = whole.trace.deliveries
  first : ∃ failure, whole.result = .error (.server failure) ∧
    (calls.filterMap fun call => serverFailure? call.result).head? = some failure
  results : ∀ call ∈ calls,
    call.result = .ok () ∨ ∃ failure, call.result = .error (.server failure)

theorem Poised.sameRecovery {connection : Connection σ κ} {answers : List Response}
    {rest : Replies} (poised : connection.Poised (answers.map .ok ++ₛ rest))
    (enough : connection.waiting ≤ (answers.filter Response.isSummary).length)
    (failing : ∃ summary ∈ (answers.filter Response.isSummary).take connection.waiting,
      summary.reported? ≠ none) :
    ∃ calls, connection.Persists connection.waiting calls ∧
      SameRecovery connection.receiveAll calls := by
  have length : connection.dispatcher.sent.length = connection.waiting :=
    connection.dispatcher.length_sent
  have collects := Transport.receiveAll_collects poised.plays enough
  have reads := Transport.receiveAll_reads connection.transport connection.dispatcher
  have whole := receiveAll_of_open poised.isOpen
  obtain ⟨calls, persists, past⟩ :=
    Poised.persists answers poised (List.append_nil _).symm (length ▸ enough)
  rw [length] at persists past
  have kept : (Transport.receiveAll connection.transport connection.dispatcher).dispatcher.failure =
      (calls.filterMap fun call => serverFailure? call.result).head? := by
    rw [reads.failure, poised.unfailed, Trace.failures, collects.responses, past.failures]
    rfl
  refine ⟨calls, persists, ?_, ?_, past.results⟩
  · rw [past.deliveries, whole]
    refine collects.deliveries.symm.trans (Eq.symm ?_)
    exact filterMap_conclude_of_reads poised.isOpen _ (fun _ => rfl) (fun _ => rfl)
      (fun _ _ => rfl) (fun _ => rfl) fun _ => rfl
  · obtain ⟨summary, member, reports⟩ := failing
    rw [← (summaries_answersTo answers connection.waiting).1] at member
    obtain ⟨failure, reported⟩ := Option.ne_none_iff_exists'.mp reports
    have among : failure ∈ calls.filterMap fun call => serverFailure? call.result := by
      rw [past.failures]
      exact List.mem_filterMap.mpr ⟨summary, (List.mem_filter.mp member).1, reported⟩
    obtain ⟨first, others, some⟩ := List.exists_cons_of_ne_nil (List.ne_nil_of_mem among)
    have head : (calls.filterMap fun call => serverFailure? call.result).head? = .some first := by
      rw [some]
      rfl
    refine ⟨first, ?_, head⟩
    rw [whole]
    exact (conclude_surfaces_iff poised.isOpen _ first).mpr
      ⟨_, collects.outcome, kept.trans head⟩

end Connection

/-- From any open state that keeps no failure. As long as none of the next summaries for the
requests that wait is a failure, reading one at a time until none waits comes to what one read
of all answers comes to, and takes as many calls as that reads responses. If one of them is a
failure, reading on one at a time until all of them were passed on delivers the same, and the
first failure returned is the same. -/
theorem single_reads_agree [Transport σ] (transport : σ) (debugEnabled legacyNames : Bool)
    (operations : List (Operation κ)) (answers : List Response) (rest : Replies) :
    let start : Connection σ κ := .fresh transport debugEnabled legacyNames
    let connection := start.runFrom operations
    let summaries := answers.filter Response.isSummary
    connection.closed = false → connection.dispatcher.failure = none →
    Transport.Plays connection.transport (answers.map .ok ++ₛ rest) →
    ((∀ summary ∈ summaries.take connection.waiting, summary.reported? = none) →
      (connection.waiting ≤ summaries.length ∨ ∃ failure, rest.head = .error failure) →
      (∃ count each, connection.Repeats count each) ∧
      ∀ count each, connection.Repeats count each →
        Connection.SameReads connection.receiveAll count each) ∧
    (connection.waiting ≤ summaries.length →
      (∃ summary ∈ summaries.take connection.waiting, summary.reported? ≠ none) →
      (∃ calls, connection.Persists connection.waiting calls) ∧
      ∀ calls, connection.Persists connection.waiting calls →
        Connection.SameRecovery connection.receiveAll calls) := by
  intro start connection summaries isOpen unfailed plays
  have paired := (Accounted.run transport debugEnabled legacyNames operations).aligned.paired
  constructor
  · intro successful settled
    have taken := Transport.responses_receiveAll plays settled
    have silent : (Transport.receiveAll connection.transport connection.dispatcher).trace.failures =
        [] := by
      rw [Trace.failures, taken]
      exact reported_answersTo answers successful
    obtain ⟨count, each, repeats, same⟩ := Connection.repeats_receiveAll isOpen unfailed silent
    refine ⟨⟨count, each, repeats⟩, fun other also again => ?_⟩
    obtain ⟨rfl, rfl⟩ := repeats.unique again
    exact same
  · intro enough failing
    have poised : connection.Poised (answers.map .ok ++ₛ rest) := ⟨isOpen, unfailed, paired, plays⟩
    obtain ⟨calls, persists, same⟩ := poised.sameRecovery enough failing
    refine ⟨⟨calls, persists⟩, fun also again => ?_⟩
    rw [← persists.unique again]
    exact same

section

/-- The first request fails and the second is ignored, and so is one queued meanwhile; the
reset is answered. -/
def failingAnswers : List Response :=
  [.failure "Neo.ClientError.Statement.SyntaxError" "bad", .ignored, .ignored, .success .empty]

def twoSentOneQueued : List (Operation Nat) :=
  [.run "RETRUN 1" .empty (.handle 1), .pullAll (.handle 2), .sendAll, .commit (.handle 3)]

/-- The reset goes out after the first of two reads, and the second finds its owner all the
same. -/
theorem single_reads_agree_past_failure :
    let connection : Connection ScriptedTransport Nat :=
      (Connection.fresh (.ofReplies (failingAnswers.map .ok) none none) true true).runFrom
        twoSentOneQueued
    connection.closed = false ∧ connection.dispatcher.failure = none ∧ connection.waiting = 2 ∧
      ∃ calls, connection.Persists 2 calls ∧
        Connection.SameRecovery connection.receiveAll calls := by
  obtain ⟨_, failing⟩ := single_reads_agree
    (.ofReplies (failingAnswers.map .ok) none none : ScriptedTransport) true true twoSentOneQueued
    failingAnswers (Stream'.const (.error (.bare .unexpectedEof))) rfl rfl
    (ScriptedTransport.plays _)
  obtain ⟨⟨calls, persists⟩, same⟩ := failing (by decide)
    ⟨.failure "Neo.ClientError.Statement.SyntaxError" "bad", List.mem_cons_self, nofun⟩
  exact ⟨rfl, rfl, rfl, calls, persists, same calls persists⟩

end

end PipelinedClient
