import PipelinedClient.Proofs.DebugLines
import PipelinedClient.Proofs.Ledger

/-! What debug lines say.

A run is told in episodes: the exchanges with the transport, each with what the transport
answered, and what happens aside of them. Every message handed over and every response has
one debug line, and so has every write that fails; there are no others.
-/

set_option autoImplicit false

namespace PipelinedClient

variable {σ κ : Type}

namespace Trace

def debugLines (trace : Trace κ) : List LogLine := trace.log.filter LogLine.isDebug

@[simp] theorem debugLines_append (first rest : Trace κ) :
    debugLines (first ++ rest) = debugLines first ++ debugLines rest := by
  rw [debugLines, log, List.filterMap_append, List.filter_append]
  rfl

theorem debugLines_of_plain {trace : Trace κ} (plain : ∀ event ∈ trace, event.isDebug = false) :
    trace.debugLines = [] := by
  rw [debugLines, log, List.filter_eq_nil_iff]
  intro line member
  obtain ⟨event, inside, found⟩ := List.mem_filterMap.mp member
  cases event with
  | logged other =>
    cases found
    rw [show line.isDebug = false from plain _ inside]
    exact Bool.false_ne_true
  | _ => cases found

theorem debugLines_ofLines {lines : List LogLine} (debug : ∀ line ∈ lines, line.isDebug = true) :
    (ofLines lines : Trace κ).debugLines = lines := by
  have log : (ofLines lines : Trace κ).log = lines := by
    rw [Trace.log, ofLines, List.filterMap_map]
    exact List.filterMap_some
  rw [debugLines, log, List.filter_eq_self]
  exact debug

theorem withoutDebug_ofLines {lines : List LogLine} (debug : ∀ line ∈ lines, line.isDebug = true) :
    (ofLines lines : Trace κ).withoutDebug = [] := by
  rw [withoutDebug, ofLines, List.filter_map, List.map_eq_nil_iff, List.filter_eq_nil_iff]
  intro line member
  simp [Event.isDebug, debug line member]

end Trace

inductive Episode (κ : Type) where
  | sends (taken unsent : List Message) (failure : Option IoError)
  | arrives (response : Response) (waiting : Nat) (owner : Option (Sink κ))
  | failsToRead (failure : IoError)
  | stops
  | aside (event : Event κ)

/-- What is no part of an exchange. Lines are told aside about timeouts and about resets that
were not sent, never about a message or a response. -/
inductive Event.Aside : Event κ → Prop where
  | queued (message : Message) (sink : Sink κ) : Aside (.queued message sink)
  | dropped (message : Message) : Aside (.dropped message)
  /-- A call to read shows before its first response does. -/
  | reading {call : TransportCall} : call = .receiveAll ∨ call = .receiveOne →
      Aside (.called call)
  | notice (builder : MetadataBuilder) {line : LogLine} : line ∈ builder.notices →
      Aside (.logged line)
  | unsentReset (error : Error) : Aside (.logged (Connection.resetWarning error))

theorem Event.Aside.isDebug {event : Event κ} (aside : event.Aside) : event.isDebug = false := by
  cases aside with
  | notice builder told => exact builder.notices_plain _ told
  | _ => rfl

namespace Episode

def sentLine (message : Message) : LogLine := .line .debug ("C: " ++ message.display)

def failedLine (unsent : List Message) (failure : IoError) : LogLine :=
  .line .debug
    ("Send failed with " ++ toString unsent.length ++ " message(s) unsent: " ++ failure.display)

def receivedLine (response : Response) : LogLine := .line .debug ("S: " ++ response.display)

def debugLines : Episode κ → List LogLine
  | .sends taken unsent failure =>
    (taken ++ unsent).map sentLine ++ (failure.map (failedLine unsent)).toList
  | .arrives response _ _ => [receivedLine response]
  | _ => []

def lines (debug : Bool) (lines : List LogLine) : Trace κ :=
  if debug then Trace.ofLines lines else []

def dispatched (response : Response) : Option (Sink κ) → Event κ
  | some sink => .signalled sink (Signal.ofResponse response)
  | none => .logged (Dispatcher.unsolicited response)

def shown (debug : Bool) : Episode κ → Trace κ
  | .sends taken unsent failure =>
    lines debug ((taken ++ unsent).map sentLine) ++
      .called .sendAll :: (taken.map Event.taken ++ unsent.map Event.dropped) ++
        lines debug (failure.map (failedLine unsent)).toList
  | .arrives response waiting owner =>
    .arrived response waiting :: lines debug [receivedLine response] ++ [dispatched response owner]
  | .failsToRead _ => []
  | .stops => [.called .stop]
  | .aside event => [event]

def told (debug : Bool) (episodes : List (Episode κ)) : Trace κ := episodes.flatMap (shown debug)

theorem isDebug_sentLines (messages : List Message) :
    ∀ line ∈ messages.map sentLine, line.isDebug = true := by
  intro line member
  obtain ⟨message, _, rfl⟩ := List.mem_map.mp member
  rfl

theorem isDebug_failedLines (unsent : List Message) (failure : Option IoError) :
    ∀ line ∈ (failure.map (failedLine unsent)).toList, line.isDebug = true := by
  intro line member
  obtain ⟨failure, _, rfl⟩ := Option.map_eq_some_iff.mp (Option.mem_toList.mp member)
  rfl

theorem isDebug_handing (taken unsent : List Message) :
    ∀ event ∈ (.called .sendAll :: (taken.map Event.taken ++ unsent.map Event.dropped) : Trace κ),
      event.isDebug = false := by
  intro event member
  rcases List.mem_cons.mp member with rfl | handled
  · rfl
  · rcases List.mem_append.mp handled with took | dropped
    · obtain ⟨message, _, rfl⟩ := List.mem_map.mp took
      rfl
    · obtain ⟨message, _, rfl⟩ := List.mem_map.mp dropped
      rfl

variable [Transport σ]

/-- What a transport does in an episode, and what it is like afterwards. -/
inductive Happens : σ → Episode κ → σ → Prop where
  | sends {transport after : σ} {taken unsent : List Message} {failure : Option IoError} :
      taken ++ unsent ≠ [] →
      Transport.sendAll transport (taken ++ unsent) = (⟨unsent, failure⟩, after) →
      Happens transport (.sends taken unsent failure) after
  | arrives {transport after : σ} {response : Response} {waiting : Nat}
      {owner : Option (Sink κ)} :
      Transport.receiveOne transport = (.ok response, after) → (owner = none ↔ waiting = 0) →
      Happens transport (.arrives response waiting owner) after
  | failsToRead {transport after : σ} {failure : IoError} :
      Transport.receiveOne transport = (.error failure, after) →
      Happens transport (.failsToRead failure) after
  | stops {transport : σ} : Happens transport .stops (Transport.stop transport)
  | aside {transport : σ} {event : Event κ} : event.Aside →
      Happens transport (.aside event) transport

inductive Unfolds : σ → List (Episode κ) → σ → Prop where
  | nil {transport : σ} : Unfolds transport [] transport
  | cons {first second last : σ} {episode : Episode κ} {rest : List (Episode κ)} :
      Happens first episode second → Unfolds second rest last →
      Unfolds first (episode :: rest) last

theorem Unfolds.append {first second last : σ} {episodes more : List (Episode κ)}
    (front : Unfolds first episodes second) (back : Unfolds second more last) :
    Unfolds first (episodes ++ more) last := by
  induction front with
  | nil => exact back
  | cons happens _ ih => exact .cons happens (ih back)

theorem Happens.withoutDebug_shown {before after : σ} {episode : Episode κ}
    (happens : Happens before episode after) :
    (episode.shown true).withoutDebug = episode.shown false := by
  cases happens with
  | @sends _ taken unsent failure something sent =>
    simp only [shown, lines, if_true, Trace.withoutDebug_append,
      Trace.withoutDebug_ofLines (isDebug_sentLines _),
      Trace.withoutDebug_ofLines (isDebug_failedLines _ _),
      Trace.withoutDebug_eq_self (isDebug_handing _ _)]
    rfl
  | @arrives _ response waiting owner read idle => cases owner <;> rfl
  | failsToRead read => rfl
  | stops => rfl
  | @aside event isAside =>
    apply Trace.withoutDebug_eq_self
    exact List.forall_mem_singleton.mpr isAside.isDebug

theorem Happens.debugLines_shown {before after : σ} {episode : Episode κ}
    (happens : Happens before episode after) :
    (episode.shown true).debugLines = episode.debugLines := by
  cases happens with
  | @sends _ taken unsent failure something sent =>
    simp only [shown, lines, if_true, Trace.debugLines_append,
      Trace.debugLines_ofLines (isDebug_sentLines _),
      Trace.debugLines_ofLines (isDebug_failedLines _ _),
      Trace.debugLines_of_plain (isDebug_handing _ _)]
    rw [List.append_nil]
    rfl
  | @arrives _ response waiting owner read idle => cases owner <;> rfl
  | failsToRead read => rfl
  | stops => rfl
  | @aside event isAside =>
    apply Trace.debugLines_of_plain
    exact List.forall_mem_singleton.mpr isAside.isDebug

/-- Episode by episode, the muted trace is what is left without debug lines, and these are
the lines about the episodes. -/
theorem Unfolds.told {first last : σ} {episodes : List (Episode κ)}
    (unfolds : Unfolds first episodes last) :
    (told true episodes).withoutDebug = told false episodes ∧
      (told true episodes).debugLines = episodes.flatMap debugLines := by
  induction unfolds with
  | nil => exact ⟨rfl, rfl⟩
  | cons happens _ ih =>
    simp only [Episode.told, List.flatMap_cons, Trace.withoutDebug_append,
      Trace.debugLines_append, happens.withoutDebug_shown, happens.debugLines_shown] at ih ⊢
    rw [ih.1, ih.2]
    exact ⟨rfl, rfl⟩

end Episode

namespace Connection

open Episode (Happens Unfolds)

structure Writes (connection : Connection σ κ) (debug : Bool) : Prop where
  sent : connection.debugEnabled = debug
  received : connection.dispatcher.logsResponses = debug

theorem announced_of_writes {connection : Connection σ κ} {debug : Bool}
    (writes : connection.Writes debug) :
    connection.announced = Episode.lines debug (connection.pending.map Episode.sentLine) := by
  rw [← writes.sent]
  unfold announced debugLine Episode.lines
  split
  · rw [Trace.ofLines, List.map_map]
    exact List.flatMap_pure_eq_map _ _
  · exact List.flatMap_eq_nil_iff.mpr fun _ _ => rfl

theorem sendReport_of_writes {connection : Connection σ κ} {debug : Bool}
    (writes : connection.Writes debug) (unsent : List Message) (failure : Option IoError) :
    connection.sendReport unsent.length failure =
      Episode.lines debug (failure.map (Episode.failedLine unsent)).toList := by
  rw [← writes.sent]
  cases failure with
  | none => cases debug : connection.debugEnabled <;> rfl
  | some failure => rfl

variable [Transport σ]

/-- Between two connections there were episodes that show exactly this trace. -/
def Recounts (first : Connection σ κ) (trace : Trace κ) (last : Connection σ κ) : Prop :=
  ∀ debug, first.Writes debug → last.Writes debug ∧
    ∃ episodes, Unfolds first.transport episodes last.transport ∧
      trace = Episode.told debug episodes

namespace Recounts

variable {first second last : Connection σ κ} {trace rest : Trace κ}

theorem refl (connection : Connection σ κ) : Recounts connection [] connection :=
  fun _ writes => ⟨writes, [], .nil, rfl⟩

theorem trans (front : Recounts first trace second) (back : Recounts second rest last) :
    Recounts first (trace ++ rest) last := by
  intro debug writes
  obtain ⟨writes, episodes, unfolds, rfl⟩ := front debug writes
  obtain ⟨writes, more, unfolds', rfl⟩ := back debug writes
  exact ⟨writes, episodes ++ more, unfolds.append unfolds', List.flatMap_append.symm⟩

theorem asides (transport : last.transport = first.transport)
    (writes : ∀ debug, first.Writes debug → last.Writes debug)
    (aside : ∀ event ∈ trace, event.Aside) : Recounts first trace last := by
  intro debug start
  refine ⟨writes debug start, trace.map .aside, ?_, ?_⟩
  · rw [transport]
    clear transport writes start
    induction trace with
    | nil => exact .nil
    | cons event rest ih =>
      exact .cons (.aside (aside event List.mem_cons_self))
        (ih fun other member => aside other (List.mem_cons_of_mem _ member))
  · rw [Episode.told, List.flatMap_map]
    exact (List.flatMap_singleton' trace).symm

theorem aside {event : Event κ} (aside : event.Aside) : Recounts first [event] first :=
  asides rfl (fun _ => id) (List.forall_mem_singleton.mpr aside)

end Recounts

theorem recounts_enqueue (connection : Connection σ κ) (message : Message) (sink : Sink κ) :
    Recounts connection [.queued message sink] (connection.enqueue message sink) :=
  .asides rfl (fun _ writes => ⟨writes.sent, writes.received⟩)
    (List.forall_mem_singleton.mpr (.queued message sink))

theorem recounts_transmit {connection : Connection σ κ} (something : connection.pending ≠ []) :
    Recounts connection connection.transmit.trace connection.transmit.connection := by
  intro debug writes
  obtain ⟨taken, unsent, failure, transmits⟩ := connection.transmit_transmits
  rw [transmits.after]
  refine ⟨⟨writes.sent, writes.received⟩, [.sends taken unsent failure], ?_, ?_⟩
  · refine .cons (.sends (transmits.pending ▸ something) ?_) .nil
    rw [← transmits.pending, ← transmits.answer]
  · rw [transmits.trace, announced_of_writes writes, sendReport_of_writes writes,
      transmits.pending, Episode.told, List.flatMap_singleton, Episode.shown]

theorem recounts_dropping {first last : Connection σ κ} (transport : last.transport = first.transport)
    (writes : ∀ debug, first.Writes debug → last.Writes debug) :
    Recounts first first.dropping last := by
  refine .asides transport writes fun event member => ?_
  obtain ⟨message, _, rfl⟩ := List.mem_map.mp member
  exact .dropped message

theorem recounts_refuse {α : Type} (connection : Connection σ κ) :
    Recounts connection (connection.refuse : Performed σ κ (Except Error α)).trace
      (connection.refuse : Performed σ κ (Except Error α)).connection :=
  recounts_dropping rfl fun _ writes => ⟨writes.sent, writes.received⟩

theorem recounts_sendAll (connection : Connection σ κ) :
    Recounts connection connection.sendAll.trace connection.sendAll.connection := by
  unfold sendAll
  split
  · exact connection.recounts_refuse
  · split
    · exact .refl connection
    · rename_i something
      split
      · exact recounts_dropping rfl fun _ writes => ⟨writes.sent, writes.received⟩
      · exact recounts_transmit (mt List.isEmpty_iff.mpr something)

/-! Reading. -/

theorem recounts_failure {connection : Connection σ κ} {failure : IoError} {after : σ}
    (read : Transport.receiveOne connection.transport = (.error failure, after)) :
    Recounts connection [] { connection with transport := after } :=
  fun _ writes => ⟨⟨writes.sent, writes.received⟩, [.failsToRead failure],
    .cons (.failsToRead read) .nil, rfl⟩

theorem recounts_arrival {connection : Connection σ κ} {response : Response} {after : σ}
    (read : Transport.receiveOne connection.transport = (.ok response, after)) :
    Recounts connection
      (.arrived response connection.waiting :: connection.dispatcher.reaction response)
      { connection with
        transport := after
        dispatcher := connection.dispatcher.accept response } := by
  intro debug writes
  refine ⟨⟨writes.sent, ?_⟩, [.arrives response connection.waiting connection.dispatcher.oldest?],
    .cons (.arrives read connection.dispatcher.oldest?_eq_none) .nil, ?_⟩
  · rw [Dispatcher.logsResponses_accept, writes.received]
  · rw [Episode.told, List.flatMap_singleton, Episode.shown, Dispatcher.reaction,
      writes.received]
    cases connection.dispatcher.oldest? <;> rfl

theorem recounts_receiveInto (connection : Connection σ κ) :
    let receipt := Transport.receiveInto connection.transport connection.dispatcher
    Recounts connection receipt.trace (connection.withReceipt receipt) := by
  unfold Transport.receiveInto
  split
  · rename_i read
    exact recounts_failure read
  · rename_i read
    exact recounts_arrival read

theorem recounts_receiveAll_read (connection : Connection σ κ) :
    let receipt := Transport.receiveAll connection.transport connection.dispatcher
    Recounts connection receipt.trace (connection.withReceipt receipt) := by
  -- The loop moves on from connection to connection, so it is followed for all of them.
  refine Transport.receiveAll_induction (motive := fun transport dispatcher receipt =>
    ∀ current : Connection σ κ, current.transport = transport →
      current.dispatcher = dispatcher →
      Recounts current receipt.trace (current.withReceipt receipt))
    ?idle ?error ?response _ _ connection rfl rfl
  case idle =>
    rintro transport dispatcher idle current rfl rfl
    exact .refl current
  case error =>
    rintro transport after dispatcher failure waits read current rfl rfl
    exact recounts_failure read
  case response =>
    rintro transport after dispatcher response rest waits read ih current rfl rfl
    exact (recounts_arrival read).trans (ih _ rfl rfl)

theorem recounts_surfaceFailure (connection : Connection σ κ) :
    Recounts connection connection.surfaceFailure.trace connection.surfaceFailure.connection := by
  cases kept : connection.dispatcher.failure with
  | none =>
    rw [surfaceFailure_of_none kept]
    exact .refl connection
  | some failure =>
    rw [surfaceFailure_of_some kept]
    have sent := (connection.recounts_enqueue .reset .discard).trans
      (connection.enqueue .reset .discard).recounts_sendAll
    refine sent.trans (.asides rfl (fun _ writes => ⟨writes.sent, writes.received⟩) ?_)
    cases (connection.enqueue .reset .discard).sendAll.result with
    | ok count => exact List.forall_mem_nil _
    | error error => exact List.forall_mem_singleton.mpr (.unsentReset error)

theorem recounts_conclude {connection : Connection σ κ} {receipt : Receipt σ κ}
    (read : Recounts connection receipt.trace (connection.withReceipt receipt)) :
    Recounts connection (connection.conclude receipt).trace
      (connection.conclude receipt).connection := by
  unfold conclude
  split
  · exact read
  · exact read.trans (recounts_surfaceFailure _)

theorem recounts_receiveAll (connection : Connection σ κ) :
    Recounts connection connection.receiveAll.trace connection.receiveAll.connection := by
  unfold receiveAll
  split
  · exact connection.recounts_refuse
  · exact (Recounts.aside (.reading (.inl rfl))).trans
      (recounts_conclude connection.recounts_receiveAll_read)

theorem recounts_receiveOne (connection : Connection σ κ) :
    Recounts connection connection.receiveOne.trace connection.receiveOne.connection := by
  unfold receiveOne
  split
  · exact connection.recounts_refuse
  · exact (Recounts.aside (.reading (.inr rfl))).trans
      (recounts_conclude connection.recounts_receiveInto)

theorem recounts_sync (connection : Connection σ κ) :
    Recounts connection connection.sync.trace connection.sync.connection := by
  have sent := connection.recounts_sendAll
  cases result : connection.sendAll.result with
  | error error =>
    rw [sync_of_error result]
    exact sent
  | ok count =>
    cases count with
    | zero =>
      rw [sync_of_none result]
      exact sent
    | succ count =>
      rw [sync_of_some result]
      exact sent.trans connection.sendAll.connection.recounts_receiveAll

theorem recounts_close (connection : Connection σ κ) :
    Recounts connection connection.close.trace connection.close.connection := by
  cases isOpen : connection.closed with
  | true =>
    simp only [close, isOpen, if_true]
    exact recounts_dropping rfl fun _ writes => ⟨writes.sent, writes.received⟩
  | false =>
    simp only [close, isOpen, Bool.false_eq_true, if_false]
    have stopped : Recounts connection [.called .stop]
        { connection with transport := Transport.stop connection.transport } :=
      fun _ writes => ⟨⟨writes.sent, writes.received⟩, [.stops], .cons .stops .nil, rfl⟩
    exact stopped.trans (recounts_dropping rfl fun _ writes => ⟨writes.sent, writes.received⟩)

theorem recounts_perform (connection : Connection σ κ) (operation : Operation κ) :
    Recounts connection (connection.perform operation).trace
      (connection.perform operation).connection := by
  cases operation with
  | begin builder sink =>
    have told : Recounts connection (Trace.ofLines builder.notices) connection := by
      refine .asides rfl (fun _ writes => writes) fun event member => ?_
      obtain ⟨line, told, rfl⟩ := List.mem_map.mp member
      exact .notice builder told
    exact told.trans (connection.recounts_enqueue _ sink)
  | sendAll => exact connection.recounts_sendAll
  | receiveAll => exact connection.recounts_receiveAll
  | receiveOne => exact connection.recounts_receiveOne
  | sync => exact connection.recounts_sync
  | close => exact connection.recounts_close
  | _ => exact connection.recounts_enqueue _ _

theorem recounts_run (connection : Connection σ κ) (operations : List (Operation κ)) :
    Recounts connection (connection.traceOf operations) (connection.runFrom operations) := by
  induction operations generalizing connection with
  | nil => exact .refl connection
  | cons operation rest ih => exact (connection.recounts_perform operation).trans (ih _)

/-! Two runs that differ in debug lines alone. -/

structure Echoes (loud quiet : Performed σ κ Reply) : Prop where
  result : quiet.result = loud.result
  deliveries : quiet.trace.deliveries = loud.trace.deliveries
  messages : quiet.trace.messages = loud.trace.messages
  log : quiet.trace.log = loud.trace.log.filter fun line => !line.isDebug
  trace : quiet.trace = loud.trace.withoutDebug
  connection : quiet.connection = loud.connection.muted
  transport : quiet.connection.transport = loud.connection.transport
  pendingCount : quiet.connection.pendingCount = loud.connection.pendingCount
  waiting : quiet.connection.waiting = loud.connection.waiting
  isOpen : quiet.connection.isOpen = loud.connection.isOpen

theorem echoes_muted (loud : Performed σ κ Reply) : Echoes loud loud.muted where
  result := rfl
  deliveries := loud.trace.filterMap_withoutDebug fun _ => rfl
  messages := loud.trace.filterMap_withoutDebug fun _ => rfl
  log := loud.trace.log_withoutDebug
  trace := rfl
  connection := rfl
  transport := rfl
  pendingCount := rfl
  waiting := rfl
  isOpen := rfl

/-- Debug lines make no difference to a run, and tell what is exchanged in it. -/
structure Transcribes (transport : σ) (legacyNames : Bool) (operations : List (Operation κ)) :
    Prop where
  echoes : List.Forall₂ Echoes
    ((fresh transport true legacyNames).history operations)
    ((fresh transport false legacyNames).history operations)
  transcript : ∃ episodes,
    Unfolds transport episodes ((fresh transport true legacyNames).runFrom operations).transport ∧
    (fresh transport true legacyNames).traceOf operations = Episode.told true episodes ∧
    (fresh transport false legacyNames).traceOf operations = Episode.told false episodes ∧
    ((fresh transport true legacyNames).traceOf operations).debugLines =
      episodes.flatMap Episode.debugLines

theorem traceOf_muted (connection : Connection σ κ) (operations : List (Operation κ)) :
    connection.muted.traceOf operations = (connection.traceOf operations).withoutDebug := by
  rw [traceOf, traceOf, muted_history, List.flatMap_map]
  induction connection.history operations with
  | nil => rfl
  | cons performed rest ih =>
    rw [List.flatMap_cons, List.flatMap_cons, Trace.withoutDebug_append, ih]
    rfl

theorem forall₂_echoes (history : List (Performed σ κ Reply)) :
    List.Forall₂ Echoes history (history.map Performed.muted) :=
  List.forall₂_map_right_iff.mpr (List.forall₂_same.mpr fun loud _ => echoes_muted loud)

/-- Opening comes to the same with debug lines and without, and so does every run on a
transport that has started. -/
theorem debug_lines_transcribe (transport : σ) (legacyNames : Bool)
    (operations : List (Operation κ)) :
    (establish transport false legacyNames : Opening σ κ) =
        (establish transport true legacyNames).muted ∧
      Transcribes transport legacyNames operations := by
  let loud : Connection σ κ := fresh transport true legacyNames
  have quiet : (fresh transport false legacyNames : Connection σ κ) = loud.muted := rfl
  obtain ⟨_, episodes, unfolds, told⟩ := loud.recounts_run operations true ⟨rfl, rfl⟩
  refine ⟨muted_establish transport legacyNames, ?_, episodes, unfolds, told, ?_, ?_⟩
  · rw [quiet, muted_history]
    exact forall₂_echoes _
  · rw [quiet, traceOf_muted, told, unfolds.told.1]
  · rw [told, unfolds.told.2]

end Connection
end PipelinedClient
