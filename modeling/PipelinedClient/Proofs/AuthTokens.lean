import Mathlib.Data.List.Forall2
import PipelinedClient.Proofs.Exchanges

/-! Authentication tokens are told to the server and to nobody else.

Two runs that differ in tokens alone are compared step by step: whatever is logged,
returned, signalled or shown is the same, provided that the transport itself does not look
at what it is handed.
-/

set_option autoImplicit false

namespace PipelinedClient

variable {σ κ : Type}

def Message.withoutToken : Message → Message
  | .init clientName _ => .init clientName .empty
  | message => message

theorem Message.display_withoutToken (message : Message) :
    message.withoutToken.display = message.display := by
  cases message <;> rfl

def Event.withoutToken : Event κ → Event κ
  | .queued message sink => .queued message.withoutToken sink
  | .taken message => .taken message.withoutToken
  | .dropped message => .dropped message.withoutToken
  | event => event

def Operation.withoutToken : Operation κ → Operation κ
  | .init clientName _ => .init clientName .empty
  | operation => operation

/-- Operations that are alike up to tokens are the same unless they carry one. -/
theorem Operation.withoutToken_cases {first second : Operation κ}
    (same : first.withoutToken = second.withoutToken) :
    first = second ∨ ∃ clientName token token',
      first = .init clientName token ∧ second = .init clientName token' := by
  cases first <;> cases second <;> first
    | exact .inl same
    | (cases same; exact .inr ⟨_, _, _, rfl, rfl⟩)
    | cases same

namespace Trace

def withoutTokens (trace : Trace κ) : Trace κ := trace.map Event.withoutToken

theorem withoutTokens_append (first rest : Trace κ) :
    withoutTokens (first ++ rest) = withoutTokens first ++ withoutTokens rest :=
  List.map_append

theorem withoutTokens_dropped (messages : List Message) :
    withoutTokens (messages.map Event.dropped : Trace κ) =
      (messages.map Message.withoutToken).map Event.dropped := by
  rw [withoutTokens, List.map_map, List.map_map]
  rfl

theorem withoutTokens_taken (messages : List Message) :
    withoutTokens (messages.map Event.taken : Trace κ) =
      (messages.map Message.withoutToken).map Event.taken := by
  rw [withoutTokens, List.map_map, List.map_map]
  rfl

theorem filterMap_withoutTokens {α : Type} {find : Event κ → Option α} (trace : Trace κ)
    (blind : ∀ event : Event κ, find event.withoutToken = find event) :
    trace.withoutTokens.filterMap find = trace.filterMap find := by
  rw [withoutTokens, List.filterMap_map]
  exact congrArg (trace.filterMap ·) (funext blind)

theorem messages_withoutTokens (trace : Trace κ) :
    trace.withoutTokens.messages = trace.messages.map Message.withoutToken := by
  rw [messages, messages, withoutTokens, List.filterMap_map, List.map_filterMap]
  refine congrArg (trace.filterMap ·) (funext fun event => ?_)
  cases event <;> rfl

end Trace

/-! Transports that only count what they are handed. -/

def Exchange.size? : Exchange → Option Nat
  | .send messages => some messages.length
  | .receive => none

namespace Transport

variable [Transport σ]

structure CountAlikeNow (first second : σ) : Prop where
  isOpen : isOpen first = isOpen second
  reply : (receiveOne first).1 = (receiveOne second).1
  failure : ∀ batch batch' : List Message, batch.length = batch'.length →
    (sendAll first batch).1.failure = (sendAll second batch').1.failure
  unsent : ∀ batch batch' : List Message, batch.length = batch'.length →
    (sendAll first batch).1.unsent.length = (sendAll second batch').1.unsent.length

def CountAlike (first second : σ) : Prop :=
  ∀ past past' : List Exchange, past.map Exchange.size? = past'.map Exchange.size? →
    CountAlikeNow (past.foldl after first) (past'.foldl after second)

/-- All that the transport ever does depends on nothing but how many messages it is handed. -/
def OnlyCounts (transport : σ) : Prop := CountAlike transport transport

namespace CountAlike

variable {first second : σ}

theorem now (alike : CountAlike first second) : CountAlikeNow first second := alike [] [] rfl

theorem receive (alike : CountAlike first second) :
    CountAlike (receiveOne first).2 (receiveOne second).2 :=
  fun past past' same => alike (.receive :: past) (.receive :: past')
    (congrArg (none :: ·) same)

theorem send (alike : CountAlike first second) {batch batch' : List Message}
    (length : batch.length = batch'.length) :
    CountAlike (sendAll first batch).2 (sendAll second batch').2 :=
  fun past past' same => alike (.send batch :: past) (.send batch' :: past')
    (List.cons_eq_cons.mpr ⟨congrArg some length, same⟩)

/-- To show that two transports count alike it is enough to say what exchanges keep. -/
theorem of_kept (holds : σ → σ → Prop)
    (now : ∀ first second, holds first second → CountAlikeNow first second)
    (each : ∀ first second exchange exchange', holds first second →
      exchange.size? = exchange'.size? → holds (after first exchange) (after second exchange'))
    (start : holds first second) : CountAlike first second := by
  intro past past' same
  induction past generalizing first second past' with
  | nil =>
    cases past' with
    | nil => exact now first second start
    | cons exchange' past' => cases same
  | cons exchange past ih =>
    cases past' with
    | nil => cases same
    | cons exchange' past' =>
      obtain ⟨size, rest⟩ := List.cons.inj same
      exact ih (each first second exchange exchange' start size) past' rest

end CountAlike

structure SameReceipt (first second : Receipt σ κ) : Prop where
  outcome : first.outcome = second.outcome
  dispatcher : first.dispatcher = second.dispatcher
  trace : first.trace = second.trace
  transport : CountAlike first.transport second.transport

theorem CountAlike.receiveInto {first second : σ} (alike : CountAlike first second)
    (dispatcher : Dispatcher κ) :
    SameReceipt (receiveInto first dispatcher) (receiveInto second dispatcher) := by
  have reply := alike.now.reply
  have later := alike.receive
  unfold Transport.receiveInto
  generalize receiveOne first = answer at *
  generalize receiveOne second = answer' at *
  obtain ⟨response, after⟩ := answer
  obtain ⟨response', after'⟩ := answer'
  obtain rfl : response = response' := reply
  cases response <;> exact ⟨rfl, rfl, rfl, later⟩

theorem CountAlike.receiveAll {first second : σ} (alike : CountAlike first second)
    (dispatcher : Dispatcher κ) :
    SameReceipt (receiveAll first dispatcher) (receiveAll second dispatcher) := by
  refine receiveAll_induction (motive := fun transport dispatcher receipt =>
    ∀ second : σ, CountAlike transport second →
      SameReceipt receipt (Transport.receiveAll second dispatcher))
    ?idle ?error ?response first dispatcher second alike
  case idle =>
    intro transport dispatcher idle second alike
    rw [receiveAll_of_idle second idle]
    exact ⟨rfl, rfl, rfl, alike⟩
  case error =>
    intro transport after dispatcher failure waits read second alike
    have reply := alike.now.reply
    have later := alike.receive
    rw [read] at reply later
    have read' : receiveOne second = (.error failure, (receiveOne second).2) :=
      Prod.ext reply.symm rfl
    rw [receiveAll_of_error waits read']
    exact ⟨rfl, rfl, rfl, later⟩
  case response =>
    intro transport after dispatcher response rest waits read ih second alike
    have reply := alike.now.reply
    have later := alike.receive
    rw [read] at reply later
    have read' : receiveOne second = (.ok response, (receiveOne second).2) :=
      Prod.ext reply.symm rfl
    rw [receiveAll_of_response waits read']
    have same := ih _ later
    refine ⟨?_, same.dispatcher, ?_, same.transport⟩
    · simp only [same.outcome]
    · simp only [same.trace]

end Transport

/-! Connections that differ in tokens alone. -/

namespace Connection

variable [Transport σ]

/-- Two connections differ in the tokens of queued requests at most; a transport that was
stopped is not asked for anything any more. -/
structure AlikeButTokens (first second : Connection σ κ) : Prop where
  pending : first.pending.map Message.withoutToken = second.pending.map Message.withoutToken
  dispatcher : first.dispatcher = second.dispatcher
  debugEnabled : first.debugEnabled = second.debugEnabled
  legacyNames : first.legacyNames = second.legacyNames
  writeFailed : first.writeFailed = second.writeFailed
  closed : first.closed = second.closed
  transport : first.closed = false → Transport.CountAlike first.transport second.transport

structure SameOutcome {α : Type} (first second : Performed σ κ α) : Prop where
  result : first.result = second.result
  trace : first.trace.withoutTokens = second.trace.withoutTokens
  connection : AlikeButTokens first.connection second.connection

namespace AlikeButTokens

variable {first second : Connection σ κ}

theorem length_pending (alike : AlikeButTokens first second) :
    first.pending.length = second.pending.length := by
  simpa using congrArg List.length alike.pending

theorem debugLine (alike : AlikeButTokens first second) (text : String) :
    first.debugLine text = second.debugLine text := by
  rw [Connection.debugLine, Connection.debugLine, alike.debugEnabled]

theorem announced (alike : AlikeButTokens first second) : first.announced = second.announced := by
  have hidden (connection : Connection σ κ) : connection.announced =
      (connection.pending.map Message.withoutToken).flatMap
        fun message => connection.debugLine ("C: " ++ message.display) := by
    rw [Connection.announced, List.flatMap_map]
    simp only [Message.display_withoutToken]
  rw [hidden, hidden, alike.pending]
  simp only [alike.debugLine]

theorem sendReport (alike : AlikeButTokens first second) (unsent : Nat)
    (failure : Option IoError) :
    first.sendReport unsent failure = second.sendReport unsent failure := by
  cases failure with
  | none => rfl
  | some failure => exact alike.debugLine _

theorem dropping (alike : AlikeButTokens first second) :
    first.dropping.withoutTokens = second.dropping.withoutTokens := by
  rw [Connection.dropping, Connection.dropping, Trace.withoutTokens_dropped,
    Trace.withoutTokens_dropped, alike.pending]

theorem forget (alike : AlikeButTokens first second) :
    AlikeButTokens first.forget second.forget :=
  { alike with
    pending := rfl
    dispatcher := congrArg Dispatcher.clear alike.dispatcher }

theorem enqueue (alike : AlikeButTokens first second) {message message' : Message}
    (same : message.withoutToken = message'.withoutToken) (sink : Sink κ) :
    AlikeButTokens (first.enqueue message sink) (second.enqueue message' sink) := by
  have pending : (first.pending ++ [message]).map Message.withoutToken =
      (second.pending ++ [message']).map Message.withoutToken := by
    rw [List.map_append, List.map_append, alike.pending]
    exact congrArg (second.pending.map Message.withoutToken ++ [·]) same
  exact { alike with
    pending := pending
    dispatcher := congrArg (Dispatcher.append · sink) alike.dispatcher }

theorem withReceipt (alike : AlikeButTokens first second) {receipt receipt' : Receipt σ κ}
    (same : Transport.SameReceipt receipt receipt') :
    AlikeButTokens (first.withReceipt receipt) (second.withReceipt receipt') :=
  { alike with
    dispatcher := same.dispatcher
    transport := fun _ => same.transport }

theorem takeFailure (alike : AlikeButTokens first second) :
    AlikeButTokens { first with dispatcher := first.dispatcher.takeFailure.2 }
      { second with dispatcher := second.dispatcher.takeFailure.2 } :=
  { alike with
    dispatcher := congrArg (fun dispatcher => dispatcher.takeFailure.2) alike.dispatcher }

theorem refuse {α : Type} (alike : AlikeButTokens first second) :
    SameOutcome (first.refuse (α := α)) second.refuse :=
  ⟨rfl, alike.dropping, alike.forget⟩

theorem refuseWrite (alike : AlikeButTokens first second) :
    SameOutcome first.refuseWrite second.refuseWrite := by
  have dispatcher : first.dispatcher.discardNewest first.pending.length =
      second.dispatcher.discardNewest second.pending.length := by
    rw [alike.dispatcher, alike.length_pending]
  exact ⟨rfl, alike.dropping, { alike with pending := rfl, dispatcher := dispatcher }⟩

theorem transmit (alike : AlikeButTokens first second) (isOpen : first.closed = false) :
    SameOutcome first.transmit second.transmit := by
  have counts := alike.transport isOpen
  have failure := counts.now.failure _ _ alike.length_pending
  have unsent := counts.now.unsent _ _ alike.length_pending
  have later := counts.send alike.length_pending
  obtain ⟨taken, left, failed, sent⟩ := first.transmit_transmits
  obtain ⟨taken', left', failed', sent'⟩ := second.transmit_transmits
  rw [sent.answer, sent'.answer] at failure unsent
  obtain rfl : failed = failed' := failure
  have parts := alike.pending
  rw [sent.pending, sent'.pending, List.map_append, List.map_append] at parts
  -- As many are left in either queue, so what was taken ends in the same place.
  obtain ⟨sameTaken, sameLeft⟩ := List.append_inj' parts (by simpa using unsent)
  have count : taken.length = taken'.length := by simpa using congrArg List.length sameTaken
  have unsent : left.length = left'.length := unsent
  refine ⟨?result, ?trace, ?connection⟩
  case result => rw [sent.result, sent'.result, count]
  case trace =>
    rw [sent.trace, sent'.trace, alike.announced, unsent, alike.sendReport]
    have handled :
        Trace.withoutTokens (taken.map Event.taken ++ left.map Event.dropped : Trace κ) =
        Trace.withoutTokens (taken'.map Event.taken ++ left'.map Event.dropped) := by
      rw [Trace.withoutTokens_append, Trace.withoutTokens_append, Trace.withoutTokens_taken,
        Trace.withoutTokens_taken, Trace.withoutTokens_dropped, Trace.withoutTokens_dropped,
        sameTaken, sameLeft]
    simp only [Trace.withoutTokens, List.map_append, List.map_cons] at handled ⊢
    rw [handled]
  case connection =>
    rw [sent.after, sent'.after, alike.dispatcher, unsent, count]
    exact { alike with
      pending := rfl
      dispatcher := rfl
      writeFailed := congrArg (· || failed.isSome) alike.writeFailed
      transport := fun _ => later }

theorem sendAll (alike : AlikeButTokens first second) :
    SameOutcome first.sendAll second.sendAll := by
  have nothing : first.pending.isEmpty = second.pending.isEmpty := by
    simpa using congrArg List.isEmpty alike.pending
  unfold Connection.sendAll
  rw [← alike.closed, ← nothing, ← alike.writeFailed]
  split
  · exact alike.refuse
  · rename_i isOpen
    rw [Bool.not_eq_true] at isOpen
    split
    · exact ⟨rfl, rfl, alike⟩
    · split
      · exact alike.refuseWrite
      · exact alike.transmit isOpen

theorem surfaceFailure (alike : AlikeButTokens first second) :
    SameOutcome first.surfaceFailure second.surfaceFailure := by
  cases kept : first.dispatcher.failure with
  | none =>
    have kept' : second.dispatcher.failure = none := alike.dispatcher ▸ kept
    rw [surfaceFailure_of_none kept, surfaceFailure_of_none kept']
    exact ⟨rfl, rfl, alike⟩
  | some failure =>
    have kept' : second.dispatcher.failure = some failure := alike.dispatcher ▸ kept
    rw [surfaceFailure_of_some kept, surfaceFailure_of_some kept']
    have queued : AlikeButTokens (first.enqueue .reset .discard) (second.enqueue .reset .discard) :=
      alike.enqueue rfl .discard
    have reset := queued.sendAll
    refine ⟨congrArg Dispatcher.failure reset.connection.dispatcher, ?_,
      reset.connection.takeFailure⟩
    simp only [List.cons_append, Trace.withoutTokens, List.map_cons, List.map_append]
    rw [reset.result]
    exact congrArg (fun front : Trace κ => _ :: (front ++ _)) reset.trace

theorem conclude (alike : AlikeButTokens first second) {receipt receipt' : Receipt σ κ}
    (same : Transport.SameReceipt receipt receipt') :
    SameOutcome (first.conclude receipt) (second.conclude receipt') := by
  have read := alike.withReceipt same
  have surfaced := read.surfaceFailure
  unfold Connection.conclude
  rw [← same.outcome]
  cases receipt.outcome with
  | error failure => exact ⟨rfl, congrArg Trace.withoutTokens same.trace, read⟩
  | ok count =>
    refine ⟨?_, ?_, surfaced.connection⟩
    · simp only [surfaced.result]
    · rw [Trace.withoutTokens_append, Trace.withoutTokens_append, same.trace, surfaced.trace]

theorem receiveAll (alike : AlikeButTokens first second) :
    SameOutcome first.receiveAll second.receiveAll := by
  unfold Connection.receiveAll
  rw [← alike.closed]
  split
  · exact alike.refuse
  · rename_i isOpen
    rw [Bool.not_eq_true] at isOpen
    have read := (alike.transport isOpen).receiveAll first.dispatcher
    rw [← alike.dispatcher]
    have done := alike.conclude read
    exact ⟨done.result, congrArg (_ :: ·) done.trace, done.connection⟩

theorem receiveOne (alike : AlikeButTokens first second) :
    SameOutcome first.receiveOne second.receiveOne := by
  unfold Connection.receiveOne
  rw [← alike.closed]
  split
  · exact alike.refuse
  · rename_i isOpen
    rw [Bool.not_eq_true] at isOpen
    have read := (alike.transport isOpen).receiveInto first.dispatcher
    rw [← alike.dispatcher]
    have done := alike.conclude read
    exact ⟨congrArg (Except.map _) done.result, congrArg (_ :: ·) done.trace, done.connection⟩

theorem sync (alike : AlikeButTokens first second) : SameOutcome first.sync second.sync := by
  have sent := alike.sendAll
  cases result : first.sendAll.result with
  | error error =>
    rw [sync_of_error result, sync_of_error (sent.result ▸ result)]
    exact ⟨rfl, sent.trace, sent.connection⟩
  | ok count =>
    cases count with
    | zero =>
      rw [sync_of_none result, sync_of_none (sent.result ▸ result)]
      exact ⟨rfl, sent.trace, sent.connection⟩
    | succ count =>
      rw [sync_of_some result, sync_of_some (sent.result ▸ result)]
      have received := sent.connection.receiveAll
      refine ⟨congrArg (Except.map _) received.result, ?_, received.connection⟩
      rw [Trace.withoutTokens_append, Trace.withoutTokens_append, sent.trace, received.trace]

theorem close (alike : AlikeButTokens first second) : SameOutcome first.close second.close := by
  unfold Connection.close
  rw [← alike.closed]
  split
  · exact ⟨rfl, alike.dropping, alike.forget⟩
  · refine ⟨rfl, congrArg (_ :: ·) alike.dropping, ?_⟩
    -- What the transports are stopped to need not be alike: they are not used any more.
    exact { alike.forget with closed := rfl, transport := fun stays => by cases stays }

theorem queue (alike : AlikeButTokens first second) {message message' : Message}
    (same : message.withoutToken = message'.withoutToken) (sink : Sink κ) :
    SameOutcome (first.queue message sink) (second.queue message' sink) :=
  ⟨rfl, congrArg (fun message => [Event.queued message sink]) same, alike.enqueue same sink⟩

theorem perform (alike : AlikeButTokens first second) {operation operation' : Operation κ}
    (same : operation.withoutToken = operation'.withoutToken) :
    SameOutcome (first.perform operation) (second.perform operation') := by
  rcases Operation.withoutToken_cases same with rfl | ⟨clientName, token, token', rfl, rfl⟩
  · cases operation with
    | begin builder sink =>
      have metadata : first.transactionMetadata builder = second.transactionMetadata builder := by
        rw [transactionMetadata, transactionMetadata, alike.legacyNames]
      have queued : SameOutcome (first.queue (.begin (first.transactionMetadata builder)) sink)
          (second.queue (.begin (first.transactionMetadata builder)) sink) := alike.queue rfl sink
      simp only [Connection.perform, ← metadata]
      refine ⟨queued.result, ?_, queued.connection⟩
      rw [Trace.withoutTokens_append, Trace.withoutTokens_append, queued.trace]
    | sendAll =>
      have done := alike.sendAll
      exact ⟨congrArg Reply.ofCount done.result, done.trace, done.connection⟩
    | receiveAll =>
      have done := alike.receiveAll
      exact ⟨congrArg Reply.ofCount done.result, done.trace, done.connection⟩
    | receiveOne =>
      have done := alike.receiveOne
      exact ⟨congrArg Reply.ofUnit done.result, done.trace, done.connection⟩
    | sync =>
      have done := alike.sync
      exact ⟨congrArg Reply.ofUnit done.result, done.trace, done.connection⟩
    | close =>
      have done := alike.close
      exact ⟨rfl, done.trace, done.connection⟩
    | _ => exact alike.queue rfl _
  · have same : (Message.init clientName token).withoutToken =
        (Message.init clientName token').withoutToken := rfl
    exact alike.queue same .discard

theorem history (alike : AlikeButTokens first second) {operations operations' : List (Operation κ)}
    (same : operations.map Operation.withoutToken = operations'.map Operation.withoutToken) :
    List.Forall₂ SameOutcome (first.history operations) (second.history operations') := by
  induction operations generalizing first second operations' with
  | nil =>
    cases operations' with
    | nil => exact .nil
    | cons operation' rest' => cases same
  | cons operation rest ih =>
    cases operations' with
    | nil => cases same
    | cons operation' rest' =>
      obtain ⟨head, tail⟩ := List.cons.inj same
      have done := alike.perform head
      exact .cons done (ih done.connection tail)

end AlikeButTokens

/-- Nothing but the tokens in messages for the server tells one from the other. -/
structure Indistinguishable (first second : Performed σ κ Reply) : Prop where
  reply : first.result = second.result
  log : first.trace.log = second.trace.log
  deliveries : first.trace.deliveries = second.trace.deliveries
  messages : first.trace.messages.map Message.withoutToken =
    second.trace.messages.map Message.withoutToken
  events : first.trace.withoutTokens = second.trace.withoutTokens
  pendingCount : first.connection.pendingCount = second.connection.pendingCount
  waiting : first.connection.waiting = second.connection.waiting
  isOpen : first.connection.isOpen = second.connection.isOpen
  inspect : first.connection.inspect = second.connection.inspect

theorem SameOutcome.indistinguishable {first second : Performed σ κ Reply}
    (same : SameOutcome first second) : Indistinguishable first second := by
  have alike := same.connection
  have found {α : Type} (find : Event κ → Option α)
      (blind : ∀ event : Event κ, find event.withoutToken = find event) :
      first.trace.filterMap find = second.trace.filterMap find := by
    rw [← Trace.filterMap_withoutTokens first.trace blind, same.trace,
      Trace.filterMap_withoutTokens second.trace blind]
  refine ⟨same.result, found _ fun event => ?_, found _ fun event => ?_, ?messages, same.trace,
    alike.length_pending, congrArg Dispatcher.waiting alike.dispatcher, ?isOpen, ?inspect⟩
  · cases event <;> rfl
  · cases event <;> rfl
  case messages =>
    rw [← Trace.messages_withoutTokens, same.trace, Trace.messages_withoutTokens]
  case isOpen =>
    rw [isOpen, isOpen, ← alike.closed, ← alike.writeFailed]
    cases closed : first.connection.closed with
    | true => rfl
    | false => rw [(alike.transport closed).now.isOpen]
  case inspect =>
    rw [inspect, inspect, alike.length_pending, alike.dispatcher, alike.writeFailed, alike.closed]

end Connection

/-! The scripted transport counts. -/

namespace ScriptedTransport

theorem takeMessages_counts (transport : ScriptedTransport) {batch batch' : List Message}
    (length : batch.length = batch'.length) :
    (transport.takeMessages batch).1.failure = (transport.takeMessages batch').1.failure ∧
      (transport.takeMessages batch).1.unsent.length =
        (transport.takeMessages batch').1.unsent.length ∧
      (transport.takeMessages batch).2 = (transport.takeMessages batch').2 := by
  induction batch generalizing transport batch' with
  | nil =>
    obtain rfl := List.length_eq_zero_iff.mp length.symm
    exact ⟨rfl, rfl, rfl⟩
  | cons message rest ih =>
    cases batch' with
    | nil => cases length
    | cons message' rest' =>
      unfold takeMessages
      split
      · exact ⟨rfl, length, rfl⟩
      · exact ih _ (Nat.succ.inj length)

theorem onlyCounts (transport : ScriptedTransport) : Transport.OnlyCounts transport := by
  refine Transport.CountAlike.of_kept (fun first second => first = second) ?now ?each rfl
  case now =>
    rintro first _ rfl
    exact ⟨rfl, rfl, fun _ _ length => (first.takeMessages_counts length).1,
      fun _ _ length => (first.takeMessages_counts length).2.1⟩
  case each =>
    rintro first _ exchange exchange' rfl size
    cases exchange with
    | receive =>
      cases exchange' with
      | receive => rfl
      | send batch' => cases size
    | send batch =>
      cases exchange' with
      | receive => cases size
      | send batch' => exact (first.takeMessages_counts (Option.some.inj size)).2.2

end ScriptedTransport

/-- Over a transport that only counts, runs that differ in tokens alone cannot be told apart
after any operation. -/
theorem tokens_stay_hidden [Transport σ] (connection : Connection σ κ)
    (counts : Transport.OnlyCounts connection.transport) (first second : List (Operation κ))
    (same : first.map Operation.withoutToken = second.map Operation.withoutToken) :
    List.Forall₂ Connection.Indistinguishable (connection.history first)
      (connection.history second) := by
  have alike : connection.AlikeButTokens connection :=
    ⟨rfl, rfl, rfl, rfl, rfl, rfl, fun _ => counts⟩
  exact (alike.history same).imp fun _ _ => Connection.SameOutcome.indistinguishable

section

def basicToken (credentials : String) : SortedMap Value :=
  SortedMap.ofList [("scheme", .string "basic"), ("credentials", .string credentials)]

/-- Log in twice over a channel that breaks in between, and close. -/
def logins (credentials : String) : List (Operation Nat) :=
  [.init "boltwire/0.1.0" (basicToken credentials), .sendAll,
    .init "boltwire/0.1.0" (basicToken credentials), .sendAll, .receiveAll, .close]

/-- Both the request that was taken and the one that was not differ. -/
theorem tokens_stay_hidden_two_logins :
    let breaks : ScriptedTransport :=
      .ofReplies [.ok (.success .empty)] (some ⟨1, .bare .brokenPipe⟩) none
    let connection : Connection ScriptedTransport Nat := .fresh breaks true true
    basicToken "hunter2" ≠ basicToken "letmein" ∧
      List.Forall₂ Connection.Indistinguishable (connection.history (logins "hunter2"))
        (connection.history (logins "letmein")) :=
  ⟨by decide, tokens_stay_hidden _ (ScriptedTransport.onlyCounts _) _ _ rfl⟩

end

end PipelinedClient
