import PipelinedClient.Proofs.Answers
import PipelinedClient.Proofs.Recovery

/-! Pipelining.

Requests can be sent one by one or all at once, and their answers can be read in between
or at the end. As long as nothing fails it makes no difference: the same is written, every
request gets the same answers, and the same is left.
-/

set_option autoImplicit false

namespace PipelinedClient

variable {σ κ : Type}

def Operation.isRequest : Operation κ → Bool
  | .sendAll | .receiveAll | .receiveOne | .sync | .close => false
  | _ => true

/-- Requests in their order, with exchanges anywhere between them. -/
inductive Schedule : List (Operation κ) → List (Operation κ) → Prop where
  | nil : Schedule [] []
  | request {request : Operation κ} {requests operations : List (Operation κ)} :
      request.isRequest = true → Schedule requests operations →
      Schedule (request :: requests) (request :: operations)
  | sendAll {requests operations : List (Operation κ)} :
      Schedule requests operations → Schedule requests (.sendAll :: operations)
  | receiveAll {requests operations : List (Operation κ)} :
      Schedule requests operations → Schedule requests (.receiveAll :: operations)
  | sync {requests operations : List (Operation κ)} :
      Schedule requests operations → Schedule requests (.sync :: operations)

namespace Connection

structure SameSettings (before after : Connection σ κ) : Prop where
  debugEnabled : after.debugEnabled = before.debugEnabled
  legacyNames : after.legacyNames = before.legacyNames
  logsResponses : after.dispatcher.logsResponses = before.dispatcher.logsResponses

theorem request?_congr {first second : Connection σ κ} (same : SameSettings first second) :
    second.request? = first.request? := by
  funext operation
  cases operation with
  | begin builder sink => simp [request?, transactionMetadata, same.legacyNames]
  | _ => rfl

/-- Requests were queued and some have been answered: what was written and what is pending
are all the requests, and the answers went to their sinks in order. -/
structure Moves (before : Connection σ κ) (entries : List (Entry κ)) (answers : List Response)
    (trace : Trace κ) (after : Connection σ κ) (count : Nat) : Prop where
  messages : trace.messages ++ after.pending = before.pending ++ entries.map Entry.message
  sinks : after.dispatcher.sinks =
    (before.dispatcher.sinks ++ entries.map Entry.sink).drop count
  bound : count ≤ (before.dispatcher.sinks ++ entries.map Entry.sink).length
  deliveries : trace.deliveries =
    deal (before.dispatcher.sinks ++ entries.map Entry.sink) (answersTo count answers).1
  served : trace.deliveries.length = (answersTo count answers).1.length
  answered : ((answersTo count answers).1.filter Response.isSummary).length = count

theorem Moves.unanswered {before after : Connection σ κ} {entries : List (Entry κ)}
    {answers : List Response} {trace : Trace κ}
    (messages : trace.messages ++ after.pending = before.pending ++ entries.map Entry.message)
    (sinks : after.dispatcher.sinks = before.dispatcher.sinks ++ entries.map Entry.sink)
    (quiet : trace.deliveries = []) : Moves before entries answers trace after 0 := by
  refine ⟨messages, sinks, Nat.zero_le _, ?_, ?_, ?_⟩
  · rw [answersTo_zero, quiet, deal]
  · rw [answersTo_zero, quiet]
    rfl
  · rw [answersTo_zero]
    rfl

theorem Moves.trans {first second third : Connection σ κ} {entries more : List (Entry κ)}
    {answers : List Response} {trace rest : Trace κ} {count next : Nat}
    (front : Moves first entries answers trace second count)
    (back : Moves second more (answersTo count answers).2 rest third next) :
    Moves first (entries ++ more) answers (trace ++ rest) third (count + next) := by
  have sinks : first.dispatcher.sinks ++ (entries ++ more).map Entry.sink =
      (first.dispatcher.sinks ++ entries.map Entry.sink) ++ more.map Entry.sink := by
    rw [List.map_append, List.append_assoc]
  have left : (first.dispatcher.sinks ++ (entries ++ more).map Entry.sink).drop count =
      second.dispatcher.sinks ++ more.map Entry.sink := by
    rw [sinks, List.drop_append_of_le_length front.bound, ← front.sinks]
  have served := front.served
  rw [front.deliveries] at served
  have dealt : deal (first.dispatcher.sinks ++ (entries ++ more).map Entry.sink)
      (answersTo count answers).1 = trace.deliveries := by
    rw [sinks, deal_append_left _ _ _ served, front.deliveries]
  have whole := answersTo_add answers count next
  refine ⟨?_, ?_, ?_, ?_, ?_, ?_⟩
  · rw [Trace.messages_append, List.append_assoc, back.messages, ← List.append_assoc,
      front.messages, List.map_append, List.append_assoc]
  · rw [back.sinks, ← left, List.drop_drop]
  · have bound := back.bound
    rw [← left, List.length_drop] at bound
    have least := front.bound
    rw [sinks, List.length_append]
    rw [sinks, List.length_append] at bound
    omega
  · rw [Trace.deliveries_append, whole, deal_append _ _ _ (by rw [dealt, front.served]), dealt,
      front.answered, left, back.deliveries]
  · rw [Trace.deliveries_append, whole, List.length_append, List.length_append, front.served,
      back.served]
  · rw [whole, List.filter_append, List.length_append, front.answered, back.answered]

variable [Transport σ]

theorem Step.settings {before after : Connection σ κ} {shown : Trace κ}
    (step : Step before shown after) : SameSettings before after := by
  cases step with
  | transmit isOpen writable something =>
    obtain ⟨taken, unsent, failure, transmits⟩ := before.transmit_transmits
    rw [transmits.after]
    exact ⟨rfl, rfl, rfl⟩
  | arrive isOpen read => exact ⟨rfl, rfl, before.dispatcher.logsResponses_accept _⟩
  | close isOpen =>
    simp only [Connection.close, isOpen, Bool.false_eq_true, if_false]
    exact ⟨rfl, rfl, rfl⟩
  | _ => exact ⟨rfl, rfl, rfl⟩

theorem Steps.settings {first last : Connection σ κ} {trace : Trace κ}
    (steps : Steps first trace last) : SameSettings first last := by
  induction steps with
  | refl => exact ⟨rfl, rfl, rfl⟩
  | head step _ ih =>
    have here := step.settings
    exact ⟨ih.debugEnabled.trans here.debugEnabled, ih.legacyNames.trans here.legacyNames,
      ih.logsResponses.trans here.logsResponses⟩

theorem perform_of_request (connection : Connection σ κ) {operation : Operation κ}
    (request : operation.isRequest = true) :
    ∃ entry notices, connection.request? operation = some entry ∧
      connection.perform operation =
        ⟨.none, connection.enqueue entry.message entry.sink,
          Trace.ofLines notices ++ [entry.event]⟩ := by
  cases operation with
  | begin builder sink => exact ⟨_, builder.notices, rfl, rfl⟩
  | sendAll | receiveAll | receiveOne | sync | close => cases request
  | _ => exact ⟨_, [], rfl, rfl⟩

/-- Nothing has failed, and nothing will until the requests that are queued or still to
come are answered. -/
structure Ready (connection : Connection σ κ) (coming : List Message) (answers : List Response)
    (rest : Replies) : Prop where
  isOpen : connection.closed = false
  writable : connection.writeFailed = false
  unfailed : connection.dispatcher.failure = none
  paired : connection.Paired
  plays : Transport.Plays connection.transport (answers.map .ok ++ₛ rest)
  accepts : Transport.Accepts connection.transport (connection.pending ++ coming)
  succeeds : Succeeds (connection.dispatcher.sinks.length + coming.length) answers

def Proceeds (before : Connection σ κ) (entries : List (Entry κ)) (later : List Message)
    (answers : List Response) (rest : Replies) (trace : Trace κ) (after : Connection σ κ) : Prop :=
  ∃ count, Moves before entries answers trace after count ∧
    Ready after later (answersTo count answers).2 rest

section

variable {connection : Connection σ κ} {entry : Entry κ} {later : List Message}
  {answers : List Response} {rest : Replies}

theorem Proceeds.trans {first second third : Connection σ κ} {entries more : List (Entry κ)}
    {coming : List Message} {trace shown : Trace κ}
    (front : Proceeds first entries coming answers rest trace second)
    (back : ∀ left, Ready second coming left rest →
      Proceeds second more later left rest shown third) :
    Proceeds first (entries ++ more) later answers rest (trace ++ shown) third := by
  obtain ⟨count, moves, ready⟩ := front
  obtain ⟨next, onward, stillReady⟩ := back _ ready
  refine ⟨count + next, moves.trans onward, ?_⟩
  rw [answersTo_add]
  exact stillReady

theorem Ready.refl (ready : Ready connection later answers rest) :
    Proceeds connection [] later answers rest [] connection := by
  refine ⟨0, .unanswered (List.append_nil _).symm (List.append_nil _).symm rfl, ?_⟩
  rw [answersTo_zero]
  exact ready

theorem Ready.enqueue (ready : Ready connection (entry.message :: later) answers rest)
    {trace : Trace κ} (silent : trace.messages = []) (quiet : trace.deliveries = []) :
    Proceeds connection [entry] later answers rest trace
      (connection.enqueue entry.message entry.sink) := by
  obtain ⟨isOpen, writable, unfailed, paired, plays, accepts, succeeds⟩ := ready
  have pending : (connection.enqueue entry.message entry.sink).pending =
      connection.pending ++ [entry.message] := rfl
  have sinks : (connection.enqueue entry.message entry.sink).dispatcher.sinks =
      connection.dispatcher.sinks ++ [entry.sink] := rfl
  have unsent : (connection.enqueue entry.message entry.sink).dispatcher.unsent =
      connection.dispatcher.unsent ++ [entry.sink] :=
    (connection.dispatcher.append_queues entry.sink).2
  refine ⟨0, .unanswered (by rw [silent]; rfl) rfl quiet, ?_⟩
  rw [answersTo_zero]
  refine ⟨isOpen, writable, unfailed, ?_, plays, ?_, ?_⟩
  · rw [Paired, unsent, pending, List.length_append, List.length_append, paired]
    rfl
  · rw [pending, List.append_assoc]
    exact accepts
  · rw [List.length_cons, Nat.add_comm later.length, ← Nat.add_assoc] at succeeds
    rw [sinks, List.length_append]
    exact succeeds

/-- Everything pending is handed over, and then waits for its answers. -/
theorem Ready.sendAll (ready : Ready connection later answers rest) :
    Proceeds connection [] later answers rest connection.sendAll.trace
        connection.sendAll.connection ∧
      connection.sendAll.result = .ok connection.pending.length := by
  obtain ⟨isOpen, writable, unfailed, paired, plays, accepts, succeeds⟩ := id ready
  by_cases nothing : connection.pending = []
  · rw [sendAll_of_nothing isOpen nothing, nothing]
    exact ⟨ready.refl, rfl⟩
  · have handed := sendAll_of_writable isOpen nothing writable
    obtain ⟨taken, unsent, failure, transmits⟩ := connection.transmit_transmits
    have succeeded := accepts.succeeds
    rw [transmits.answer] at succeeded
    obtain rfl : failure = none := succeeded
    have stays : connection.sendAll.connection.writeFailed = false := by
      rw [handed, transmits.after, writable]
      rfl
    have sends : connection.SendsAll := by
      refine (sends_or_fails isOpen nothing).resolve_right fun fails => ?_
      rw [fails.failed] at stays
      cases stays
    have none := unsent_sendAll paired
    have sinks : connection.sendAll.connection.dispatcher.sinks = connection.dispatcher.sinks := by
      rw [← Dispatcher.sent_append_unsent, none, sends.sent paired, List.append_nil,
        Dispatcher.sent_append_unsent]
    have quiet : connection.sendAll.trace.deliveries = [] :=
      filterMap_sendAll _ _ (fun _ => rfl) rfl (fun _ => rfl) fun _ => rfl
    refine ⟨⟨0, .unanswered ?_ ?_ quiet, ?_⟩, sends.result⟩
    · rw [sends.messages, pending_sendAll]
      rfl
    · rw [sinks]
      exact (List.append_nil _).symm
    · rw [answersTo_zero]
      refine ⟨(connection.closed_sendAll).trans isOpen, stays,
        (failure_sendAll isOpen).trans unfailed, ?_, plays_sendAll plays, ?_, ?_⟩
      · rw [Paired, none, pending_sendAll]
        rfl
      · rw [pending_sendAll, handed, transmits.after]
        exact accepts.send
      · rw [sinks]
        exact succeeds

theorem Ready.receiveAll (ready : Ready connection later answers rest) :
    Proceeds connection [] later answers rest connection.receiveAll.trace
        connection.receiveAll.connection ∧
      connection.receiveAll.connection.dispatcher.sent = [] ∧
      connection.receiveAll.connection.pending = connection.pending := by
  obtain ⟨isOpen, writable, unfailed, paired, plays, accepts, succeeds⟩ := ready
  rw [connection.dispatcher.length_sinks, Nat.add_assoc] at succeeds
  have collects := Transport.receiveAll_collects plays succeeds.first.enough
  have reads := Transport.receiveAll_reads connection.transport connection.dispatcher
  have accepts := Transport.receiveAll_keeps
    (Transport.Accepts · (connection.pending ++ later)) (fun _ accepts => accepts.receive) accepts
    connection.dispatcher
  have read := receiveAll_of_open isOpen
  generalize Transport.receiveAll connection.transport connection.dispatcher = receipt at *
  have unreported : receipt.dispatcher.failure = none := by
    rw [reads.failure, unfailed, Trace.failures, collects.responses, succeeds.first.silent]
    rfl
  rw [conclude_of_none connection collects.outcome unreported] at read
  have served := collects.served
  rw [collects.deliveries] at served
  -- What was waiting first is gone, and what is not sent is still there.
  have sinks : receipt.dispatcher.sinks = connection.dispatcher.unsent := by
    rw [← receipt.dispatcher.sent_append_unsent, collects.sent, reads.unsent, List.nil_append]
  have silent : receipt.trace.messages = [] :=
    reads.trace.filterMap_eq_nil (fun _ => rfl) (fun _ _ => rfl) fun _ _ => rfl
  rw [read]
  refine ⟨⟨connection.waiting, ⟨?_, ?_, ?_, ?_, collects.served, succeeds.first.answered⟩,
    isOpen, writable, unreported, ?_, collects.plays, accepts, ?_⟩, collects.sent, rfl⟩
  · exact (congrArg (· ++ connection.pending) silent).trans (List.append_nil _).symm
  · rw [List.map_nil, List.append_nil]
    exact sinks
  · rw [List.map_nil, List.append_nil]
    exact connection.dispatcher.bounded
  · rw [List.map_nil, List.append_nil, ← connection.dispatcher.sent_append_unsent]
    exact collects.deliveries.trans (deal_append_left _ _ _ served).symm
  · exact (congrArg List.length reads.unsent).trans paired
  · have left := succeeds.next
    rw [← sinks] at left
    exact left

theorem Ready.sync (ready : Ready connection later answers rest) :
    Proceeds connection [] later answers rest connection.sync.trace
        connection.sync.connection ∧
      connection.sync.connection.pending = [] ∧
      (connection.pending ≠ [] → connection.sync.connection.dispatcher.sent = []) := by
  obtain ⟨sends, result⟩ := ready.sendAll
  cases count : connection.pending.length with
  | zero =>
    rw [count] at result
    rw [sync_of_none result]
    refine ⟨sends, connection.pending_sendAll, ?_⟩
    intro something
    exact absurd (List.eq_nil_of_length_eq_zero count) something
  | succ fewer =>
    rw [count] at result
    obtain ⟨_, _, sent⟩ := id sends
    obtain ⟨_, idle, pending⟩ := sent.receiveAll
    rw [sync_of_some result]
    exact ⟨sends.trans fun _ ready => ready.receiveAll.1, pending.trans connection.pending_sendAll,
      fun _ => idle⟩

theorem Ready.run {requests operations : List (Operation κ)}
    (schedule : Schedule requests operations)
    (ready : Ready connection ((requests.filterMap connection.request?).map Entry.message ++ later)
      answers rest) :
    Proceeds connection (requests.filterMap connection.request?) later answers rest
      (connection.traceOf operations) (connection.runFrom operations) := by
  -- What the requests still to come queue depends on the settings, which nothing changes.
  induction schedule generalizing connection answers with
  | nil => exact ready.refl
  | @request request requests operations isRequest _ ih =>
    obtain ⟨entry, notices, found, performed⟩ := connection.perform_of_request isRequest
    have same : (connection.enqueue entry.message entry.sink).request? = connection.request? :=
      request?_congr ⟨rfl, rfl, rfl⟩
    have lines : Trace.OnlyLogs (Trace.ofLines notices : Trace κ) := .ofLines notices
    have silent : (connection.perform request).trace.messages = [] := by
      rw [performed, Trace.messages_append, Trace.messages, lines.filterMap_eq_nil fun _ => rfl]
      rfl
    have quiet : (connection.perform request).trace.deliveries = [] := by
      rw [performed, Trace.deliveries_append, Trace.deliveries,
        lines.filterMap_eq_nil fun _ => rfl]
      rfl
    have after : (connection.perform request).connection =
        connection.enqueue entry.message entry.sink := by rw [performed]
    rw [List.filterMap_cons_some found] at ready ⊢
    refine (ready.enqueue silent quiet).trans fun left stillReady => ?_
    rw [← same] at stillReady ⊢
    have onward := ih stillReady
    rwa [← after] at onward ⊢
  | sendAll _ ih =>
    have same := request?_congr connection.sendAll_steps.settings
    refine ready.sendAll.1.trans fun left stillReady => ?_
    rw [← same] at stillReady ⊢
    exact ih stillReady
  | receiveAll _ ih =>
    have same := request?_congr connection.receiveAll_steps.settings
    refine ready.receiveAll.1.trans fun left stillReady => ?_
    rw [← same] at stillReady ⊢
    exact ih stillReady
  | sync _ ih =>
    have same := request?_congr connection.sync_steps.settings
    refine ready.sync.1.trans fun left stillReady => ?_
    rw [← same] at stillReady ⊢
    exact ih stillReady

structure Idle (connection : Connection σ κ) : Prop where
  pending : connection.pending = []
  sinks : connection.dispatcher.sinks = []

theorem Ready.idle (ready : Ready connection later answers rest)
    (pending : connection.pending = []) (sent : connection.dispatcher.sent = []) :
    connection.Idle := by
  have paired := ready.paired
  rw [Paired, pending, List.length_nil] at paired
  refine ⟨pending, ?_⟩
  rw [← connection.dispatcher.sent_append_unsent, sent, List.eq_nil_of_length_eq_zero paired]
  rfl

theorem Ready.idle_of_exchange (ready : Ready connection later answers rest) :
    (connection.runFrom [.sendAll, .receiveAll]).Idle := by
  obtain ⟨⟨_, _, sent⟩, _⟩ := ready.sendAll
  obtain ⟨⟨_, _, received⟩, none, pending⟩ := sent.receiveAll
  exact received.idle (pending.trans connection.pending_sendAll) none

theorem Ready.idle_of_sync (ready : Ready connection later answers rest)
    (something : connection.pending ≠ []) : connection.sync.connection.Idle := by
  obtain ⟨⟨_, _, synced⟩, pending, sent⟩ := ready.sync
  exact synced.idle pending (sent something)

theorem Ready.idle_of_syncs {requests : List (Operation κ)}
    (queue : ∀ request ∈ requests, request.isRequest = true)
    (ready : Ready connection ((requests.filterMap connection.request?).map Entry.message)
      answers rest) (idle : connection.Idle) :
    (connection.runFrom (requests.flatMap fun request => [request, .sync])).Idle := by
  induction requests generalizing connection answers with
  | nil => exact idle
  | cons request requests ih =>
    rw [List.forall_mem_cons] at queue
    obtain ⟨entry, notices, found, performed⟩ := connection.perform_of_request queue.1
    have after : (connection.perform request).connection =
        connection.enqueue entry.message entry.sink := by rw [performed]
    have something : (connection.enqueue entry.message entry.sink).pending ≠ [] :=
      List.append_ne_nil_of_right_ne_nil connection.pending (List.cons_ne_nil entry.message [])
    have same : (connection.enqueue entry.message entry.sink).sync.connection.request? =
        connection.request? :=
      (request?_congr (sync_steps _).settings).trans (request?_congr ⟨rfl, rfl, rfl⟩)
    rw [List.filterMap_cons_some found, List.map_cons] at ready
    have step : Proceeds connection [entry] _ answers rest [] _ := ready.enqueue rfl rfl
    obtain ⟨_, _, queued⟩ := step
    obtain ⟨⟨_, _, synced⟩, _⟩ := queued.sync
    rw [← same] at synced
    have idle := ih queue.2 synced (queued.idle_of_sync something)
    rwa [← after] at idle

end

end Connection

theorem Schedule.append {requests operations : List (Operation κ)}
    (schedule : Schedule requests operations) :
    Schedule requests (operations ++ [.sendAll, .receiveAll]) := by
  induction schedule with
  | nil => exact .sendAll (.receiveAll .nil)
  | request isRequest _ ih => exact .request isRequest ih
  | sendAll _ ih => exact .sendAll ih
  | receiveAll _ ih => exact .receiveAll ih
  | sync _ ih => exact .sync ih

theorem Schedule.batch {requests : List (Operation κ)}
    (queue : ∀ request ∈ requests, request.isRequest = true) : Schedule requests requests := by
  induction requests with
  | nil => exact .nil
  | cons request requests ih =>
    rw [List.forall_mem_cons] at queue
    exact .request queue.1 (ih queue.2)

theorem Schedule.syncs {requests : List (Operation κ)}
    (queue : ∀ request ∈ requests, request.isRequest = true) :
    Schedule requests (requests.flatMap fun request => [request, .sync]) := by
  induction requests with
  | nil => exact .nil
  | cons request requests ih =>
    rw [List.forall_mem_cons] at queue
    exact .request queue.1 (.sync (ih queue.2))

namespace Connection

variable [Transport σ]

/-- Everything was written and answered, and the connection is as good as new. -/
structure Completes (start : Connection σ κ) (operations : List (Operation κ))
    (entries : List (Entry κ)) (read : List Response) (unread : Replies) : Prop where
  messages : (start.traceOf operations).messages = entries.map Entry.message
  deliveries : (start.traceOf operations).deliveries = deal (entries.map Entry.sink) read
  unread : Transport.Plays (start.runFrom operations).transport unread
  state : start.runFrom operations =
    .fresh (start.runFrom operations).transport start.debugEnabled start.legacyNames

structure Coincide (start : Connection σ κ) (first second : List (Operation κ)) : Prop where
  messages : (start.traceOf first).messages = (start.traceOf second).messages
  deliveries : (start.traceOf first).deliveries = (start.traceOf second).deliveries
  unread : ∀ replies, Transport.Plays (start.runFrom first).transport replies ↔
    Transport.Plays (start.runFrom second).transport replies
  state : start.runFrom first =
    { start.runFrom second with transport := (start.runFrom first).transport }

theorem Completes.coincide {start : Connection σ κ} {first second : List (Operation κ)}
    {entries : List (Entry κ)} {read : List Response} {unread : Replies}
    (one : start.Completes first entries read unread)
    (other : start.Completes second entries read unread) : start.Coincide first second := by
  refine ⟨one.messages.trans other.messages.symm, one.deliveries.trans other.deliveries.symm,
    ?_, ?_⟩
  · intro replies
    constructor
    · intro plays
      rw [plays.unique one.unread]
      exact other.unread
    · intro plays
      rw [plays.unique other.unread]
      exact one.unread
  · calc start.runFrom first
        = .fresh (start.runFrom first).transport start.debugEnabled start.legacyNames := one.state
      _ = { (fresh (start.runFrom second).transport start.debugEnabled start.legacyNames :
              Connection σ κ) with transport := (start.runFrom first).transport } := rfl
      _ = { start.runFrom second with transport := (start.runFrom first).transport } := by
        rw [← other.state]

/-- With nothing left to do a connection is as good as new. -/
theorem Ready.eq_fresh {connection : Connection σ κ} {later : List Message}
    {answers : List Response} {rest : Replies} (ready : Ready connection later answers rest)
    (idle : connection.Idle)
    (logs : connection.dispatcher.logsResponses = connection.debugEnabled) :
    connection = .fresh connection.transport connection.debugEnabled connection.legacyNames := by
  obtain ⟨isOpen, writable, unfailed, _, _, _, _⟩ := ready
  obtain ⟨pending, sinks⟩ := idle
  obtain ⟨transport, _, ⟨_, inFlight, _, _, bounded⟩, _, _, _, _⟩ := connection
  simp only at *
  subst_vars
  obtain rfl : inFlight = 0 := Nat.le_zero.mp bounded
  rfl

theorem Proceeds.completes {transport : σ} {debugEnabled legacyNames : Bool}
    {entries : List (Entry κ)} {answers : List Response} {rest : Replies}
    {operations : List (Operation κ)}
    (proceeds : Proceeds (.fresh transport debugEnabled legacyNames) entries [] answers rest
      (traceOf (.fresh transport debugEnabled legacyNames) operations)
      (runFrom (.fresh transport debugEnabled legacyNames) operations))
    (idle : (runFrom (.fresh transport debugEnabled legacyNames : Connection σ κ)
      operations).Idle) :
    (fresh transport debugEnabled legacyNames).Completes operations entries
      (answersTo entries.length answers).1
      ((answersTo entries.length answers).2.map .ok ++ₛ rest) := by
  obtain ⟨count, moves, ready⟩ := proceeds
  have settings := (run_steps (.fresh transport debugEnabled legacyNames : Connection σ κ)
    operations).settings
  -- Nothing waits any more, so every request is answered.
  have all : count = entries.length := by
    have none := moves.sinks
    have bound := moves.bound
    rw [idle.sinks] at none
    have least := List.drop_eq_nil_iff.mp none.symm
    simp only [fresh, Dispatcher.empty, List.nil_append, List.length_map] at bound least
    omega
  subst all
  have messages := moves.messages
  rw [idle.pending, List.append_nil] at messages
  refine ⟨messages, moves.deliveries, ready.plays, ?_⟩
  have state := ready.eq_fresh idle (settings.logsResponses.trans settings.debugEnabled.symm)
  rwa [settings.debugEnabled, settings.legacyNames] at state

end Connection

/-- If nothing fails it cannot be told how requests were sent and answers read, as long as
everything was sent and read in the end. -/
theorem pipelining_is_transparent [Transport σ] (transport : σ) (debugEnabled legacyNames : Bool)
    (requests : List (Operation κ)) (answers : List Response) (rest : Replies)
    (queue : ∀ request ∈ requests, request.isRequest = true)
    (plays : Transport.Plays transport (answers.map .ok ++ₛ rest))
    (accepts : Transport.Accepts transport
      ((requests.filterMap (Connection.fresh transport debugEnabled legacyNames).request?).map
        Entry.message))
    (succeeds : Succeeds requests.length answers) :
    let start : Connection σ κ := .fresh transport debugEnabled legacyNames
    (∀ operations, Schedule requests operations →
      start.Completes (operations ++ [.sendAll, .receiveAll]) (requests.filterMap start.request?)
        (answersTo requests.length answers).1
        ((answersTo requests.length answers).2.map .ok ++ₛ rest)) ∧
    (∀ first second, Schedule requests first → Schedule requests second →
      start.Coincide (first ++ [.sendAll, .receiveAll]) (second ++ [.sendAll, .receiveAll])) ∧
    start.Coincide (requests ++ [.sendAll, .receiveAll])
      (requests.flatMap fun request => [request, .sync]) := by
  intro start
  have length : (requests.filterMap start.request?).length = requests.length := by
    rw [List.filterMap_length_eq_length]
    intro request member
    obtain ⟨entry, _, found, _⟩ := start.perform_of_request (queue request member)
    rw [found]
    rfl
  have ready : start.Ready ((requests.filterMap start.request?).map Entry.message) answers
      rest := by
    have none : start.dispatcher.sinks.length = 0 := rfl
    refine ⟨rfl, rfl, rfl, rfl, plays, accepts, ?_⟩
    rwa [List.length_map, length, none, Nat.zero_add]
  have proceeds (operations : List (Operation κ)) (schedule : Schedule requests operations) :
      start.Proceeds (requests.filterMap start.request?) [] answers rest
        (start.traceOf operations) (start.runFrom operations) := by
    refine Connection.Ready.run schedule ?_
    rwa [List.append_nil]
  have completes (operations : List (Operation κ)) (schedule : Schedule requests operations)
      (idle : (start.runFrom operations).Idle) :
      start.Completes operations (requests.filterMap start.request?)
        (answersTo requests.length answers).1
        ((answersTo requests.length answers).2.map .ok ++ₛ rest) := by
    rw [← length]
    exact (proceeds operations schedule).completes idle
  have exchanged (operations : List (Operation κ)) (schedule : Schedule requests operations) :
      start.Completes (operations ++ [.sendAll, .receiveAll]) (requests.filterMap start.request?)
        (answersTo requests.length answers).1
        ((answersTo requests.length answers).2.map .ok ++ₛ rest) := by
    refine completes _ schedule.append ?_
    obtain ⟨_, _, stillReady⟩ := proceeds operations schedule
    have idle := stillReady.idle_of_exchange
    rwa [Connection.runFrom, Connection.runFrom, ← List.foldl_append] at idle
  have synced := completes _ (.syncs queue) (ready.idle_of_syncs queue ⟨rfl, rfl⟩)
  refine ⟨exchanged, ?_, (exchanged requests (.batch queue)).coincide synced⟩
  intro first second one other
  exact (exchanged first one).coincide (exchanged second other)

section

/-- Two requests succeed, the second with a record; one more response stays unread. -/
def steadyAnswers : List Response :=
  [.success .empty, .record [], .success .empty, .failure "Neo.DatabaseError.General" "late"]

def steadyTransport : ScriptedTransport := .ofReplies (steadyAnswers.map .ok) none none

def twoRequests : List (Operation Nat) :=
  [.run "RETURN 1" .empty (.handle 1), .pullAll (.handle 2)]

def oneByOne : List (Operation Nat) :=
  [.receiveAll, .run "RETURN 1" .empty (.handle 1), .sync, .pullAll (.handle 2), .sendAll]

theorem pipelining_is_transparent_one_by_one :
    let start : Connection ScriptedTransport Nat := .fresh steadyTransport false true
    Succeeds 2 steadyAnswers ∧ Schedule twoRequests oneByOne ∧
      start.Coincide (oneByOne ++ [.sendAll, .receiveAll])
        (twoRequests ++ [.sendAll, .receiveAll]) ∧
      (start.traceOf (oneByOne ++ [.sendAll, .receiveAll])).deliveries =
        [(.handle 1, .success .empty), (.handle 2, .record []), (.handle 2, .success .empty)] := by
  have queue : ∀ request ∈ twoRequests, request.isRequest = true := by
    simp [twoRequests, Operation.isRequest]
  have succeeds : Succeeds 2 steadyAnswers := ⟨by decide, by decide⟩
  have schedule : Schedule twoRequests oneByOne :=
    .receiveAll (.request rfl (.sync (.request rfl (.sendAll .nil))))
  obtain ⟨completes, coincide, _⟩ :=
    pipelining_is_transparent steadyTransport false true twoRequests steadyAnswers
      (Stream'.const (.error (.bare .unexpectedEof))) queue (ScriptedTransport.plays _)
      (ScriptedTransport.accepts rfl rfl _) succeeds
  exact ⟨succeeds, schedule, coincide _ _ schedule (.batch queue),
    (completes _ schedule).deliveries⟩

end

end PipelinedClient
