import PipelinedClient.Proofs.Accounting
import PipelinedClient.Proofs.Reading
import PipelinedClient.Transport.Socket

/-! The bytes on a stream.

Behind whatever the stream carried at first stand the encodings of the messages that
were removed from the queue, one after the other. If a write failed, a part of the next
encoding may follow, and nothing follows that.
-/

set_option autoImplicit false

namespace PipelinedClient

variable {φ κ : Type} [MessageFormat φ]

/-- Messages encoded one after the other, from one state of the format to another. The
format may also change its state by reading responses in between. -/
inductive Encodes : φ → List Message → List UInt8 → φ → Prop where
  | start (format : φ) : Encodes format [] [] format
  | read {first last : φ} {messages : List Message} {bytes : List UInt8} (incoming : Incoming) :
      Encodes first messages bytes last →
      Encodes first messages bytes (MessageFormat.read last incoming).2.2
  | write {first last after : φ} {messages : List Message} {message : Message}
      {bytes encoded : List UInt8} : Encodes first messages bytes last →
      MessageFormat.write last message = (⟨encoded, none⟩, after) →
      Encodes first (messages ++ [message]) (bytes ++ encoded) after

/-- What a write that failed has left behind whole encodings, by the state of the format
and the messages that were not removed. -/
inductive Remnant (format : φ) : List Message → List UInt8 → Prop where
  /-- Everything was removed, and what failed came after that. -/
  | whole : Remnant format [] []
  | unencoded {message : Message} {rest : List Message} {encoding : Encoding} {after : φ}
      {failure : IoError} : MessageFormat.write format message = (encoding, after) →
      encoding.failure = some failure → Remnant format (message :: rest) []
  | torn {message : Message} {rest : List Message} {encoded part : List UInt8} {after : φ} :
      MessageFormat.write format message = (⟨encoded, none⟩, after) →
      part <+: encoded → part.length < encoded.length → Remnant format (message :: rest) part

namespace SocketTransport

structure Writes (first : φ) (past : List Message) (bytes : List UInt8) (channel : Channel)
    (messages : List Message) (writing : Writing φ) (taken : List Message)
    (more remnant : List UInt8) (last : φ) : Prop where
  whole : messages = taken ++ writing.transmission.unsent
  encodes : Encodes first (past ++ taken) (bytes ++ more) last
  outgoing : writing.channel.outgoing = channel.outgoing ++ (more ++ remnant)
  succeeded : writing.transmission.failure = none → remnant = [] ∧ writing.format = last
  failed : writing.transmission.failure ≠ none →
    Remnant last writing.transmission.unsent remnant

theorem writeMessages_writes (messages : List Message) {first format : φ} (buffer : Buffer)
    (channel : Channel) {past : List Message} {bytes : List UInt8}
    (encodes : Encodes first past bytes format) :
    ∃ taken more remnant last, Writes first past bytes channel messages
      (writeMessages format buffer channel messages) taken more remnant last := by
  -- What was written before is carried along as encodings that lead up to this format.
  induction messages generalizing format buffer channel past bytes with
  | nil =>
    refine ⟨[], [], [], format, rfl, ?_, ?_, fun _ => ⟨rfl, rfl⟩, fun _ => .whole⟩
    · rwa [List.append_nil, List.append_nil]
    · exact (List.append_nil _).symm
  | cons message rest ih =>
    -- The buffer is empty before the message is encoded, whatever it held.
    have filled : (buffer.clear.append (MessageFormat.write format message).1.bytes).bytes =
        (MessageFormat.write format message).1.bytes := rfl
    simp only [writeMessages, MessageFormat.encodeInto, filled]
    cases encoding : MessageFormat.write format message with
    | mk put after =>
      obtain ⟨encoded, failure⟩ := put
      cases failure with
      | some failure =>
        refine ⟨[], [], [], format, rfl, ?_, ?_, ?_, ?_⟩
        · rwa [List.append_nil, List.append_nil]
        · exact (List.append_nil _).symm
        · intro success
          cases success
        · intro _
          exact .unencoded encoding rfl
      | none =>
        cases written : channel.write encoded with
        | mk refused written' =>
          cases refused with
          | some failure =>
            obtain ⟨part, front, less, outgoing⟩ := Channel.outgoing_of_write_failed written
            refine ⟨[], [], part, format, rfl, ?_, outgoing, ?_, ?_⟩
            · rwa [List.append_nil, List.append_nil]
            · intro success
              cases success
            · intro _
              exact .torn encoding front less
          | none =>
            have outgoing := Channel.outgoing_of_write written
            obtain ⟨taken, more, remnant, last, writes⟩ :=
              ih (buffer.clear.append encoded) written' (encodes.write encoding)
            refine ⟨message :: taken, encoded ++ more, remnant, last, ?_, ?_, ?_,
              writes.succeeded, writes.failed⟩
            · rw [List.cons_append, ← writes.whole]
            · have encodes := writes.encodes
              rwa [List.append_assoc, List.append_assoc, List.singleton_append] at encodes
            · rw [writes.outgoing, outgoing]
              simp only [List.append_assoc]

theorem output_readResponse (transport : SocketTransport φ) :
    transport.readResponse.2.output = transport.output := by
  unfold readResponse
  cases opened : transport.stream with
  | none => rfl
  | some channel => simp [output, opened]

theorem stream_readResponse (transport : SocketTransport φ) :
    transport.readResponse.2.stream.isSome = transport.stream.isSome := by
  unfold readResponse
  cases opened : transport.stream with
  | none => simp only [opened]
  | some channel => rfl

theorem encodes_readResponse {first : φ} {messages : List Message} {bytes : List UInt8}
    {transport : SocketTransport φ} (encodes : Encodes first messages bytes transport.format) :
    Encodes first messages bytes transport.readResponse.2.format := by
  unfold readResponse
  cases transport.stream with
  | none => exact encodes
  | some channel => exact encodes.read channel.incoming

end SocketTransport

namespace Connection

theorem output_close {connection : Connection (SocketTransport φ) κ}
    (isOpen : connection.closed = false) :
    connection.close.connection.transport.output = connection.transport.output := by
  simp only [Connection.close, isOpen, Bool.false_eq_true, if_false]
  exact connection.transport.output_finish

theorem Step.output_of_failed {before after : Connection (SocketTransport φ) κ} {shown : Trace κ}
    (step : before.Step shown after) (failed : before.writeFailed = true) :
    after.transport.output = before.transport.output := by
  cases step with
  | transmit isOpen writable something =>
    rw [writable] at failed
    cases failed
  | fail isOpen read | arrive isOpen read =>
    obtain rfl := congrArg Prod.snd read
    exact before.transport.output_readResponse
  | close isOpen => exact output_close isOpen
  | _ => rfl

/-- Once a write has failed, nothing goes out any more. -/
theorem Steps.output_of_failed {first last : Connection (SocketTransport φ) κ} {trace : Trace κ}
    (steps : Steps first trace last) (failed : first.writeFailed = true) :
    last.transport.output = first.transport.output := by
  induction steps with
  | refl => rfl
  | head step _ ih => exact (ih (step.writeFailed failed)).trans (step.output_of_failed failed)

/-- In the course of the steps from one connection, the write failed that left these
messages. -/
def LeavesUnsent (start : Connection (SocketTransport φ) κ) (trace : Trace κ)
    (left : List Message) : Prop :=
  ∃ entry before after failure, Steps start before entry ∧
    trace = before ++ entry.transmit.trace ++ after ∧
    (Transport.sendAll entry.transport entry.pending).1 = ⟨left, some failure⟩

theorem LeavesUnsent.later {start : Connection (SocketTransport φ) κ} {trace : Trace κ}
    {left : List Message} (leaves : start.LeavesUnsent trace left) (shown : Trace κ) :
    start.LeavesUnsent (trace ++ shown) left := by
  obtain ⟨entry, before, after, failure, steps, whole, answer⟩ := leaves
  refine ⟨entry, before, after ++ shown, failure, steps, ?_, answer⟩
  rw [whole, List.append_assoc]

/-- What has gone out since a stream carried certain bytes: encodings of the messages
removed, and what a failed write has left. -/
structure Carries (start : Connection (SocketTransport φ) κ) (carried : List UInt8)
    (connection : Connection (SocketTransport φ) κ) (trace : Trace κ)
    (bytes remnant : List UInt8) (format : φ) : Prop where
  output : connection.transport.output =
    start.transport.past.map Channel.outgoing ++ [carried ++ (bytes ++ remnant)]
  encodes : Encodes start.transport.format trace.messages bytes format
  ordered : trace.messages <+: trace.entries.map Entry.message
  whole : connection.writeFailed = false → remnant = []
  left : connection.writeFailed = true → ∃ left, start.LeavesUnsent trace left ∧
    trace.messages ++ left <+: trace.entries.map Entry.message ∧ Remnant format left remnant

structure Flows (start : Connection (SocketTransport φ) κ) (carried : List UInt8)
    (connection : Connection (SocketTransport φ) κ) (trace : Trace κ) : Prop where
  steps : Steps start trace connection
  carries : ∃ bytes remnant format, Carries start carried connection trace bytes remnant format ∧
    (connection.closed = false → connection.writeFailed = false →
      connection.transport.format = format)
  opened : connection.closed = false → connection.transport.stream.isSome = true
  queued : connection.closed = false → connection.writeFailed = false →
    trace.messages ++ connection.pending = trace.entries.map Entry.message

section

variable {start before after : Connection (SocketTransport φ) κ} {past shown : Trace κ}
  {carried bytes remnant : List UInt8} {format : φ}

theorem Carries.quiet (carries : Carries start carried before past bytes remnant format)
    (output : after.transport.output = before.transport.output) (silent : shown.messages = [])
    (same : after.writeFailed = before.writeFailed) :
    Carries start carried after (past ++ shown) bytes remnant format := by
  have messages : (past ++ shown).messages = past.messages := by
    rw [Trace.messages_append, silent, List.append_nil]
  have longer : past.entries.map Entry.message <+: (past ++ shown).entries.map Entry.message := by
    rw [Trace.entries_append, List.map_append]
    exact List.prefix_append _ _
  refine ⟨output.trans carries.output, ?_, ?_, ?_, ?_⟩
  · rw [messages]
    exact carries.encodes
  · rw [messages]
    exact carries.ordered.trans longer
  · rw [same]
    exact carries.whole
  · rw [same, messages]
    intro failed
    obtain ⟨left, leaves, queued, remains⟩ := carries.left failed
    exact ⟨left, leaves.later shown, queued.trans longer, remains⟩

theorem Flows.still (flows : Flows start carried before past) (step : before.Step shown after)
    (transport : after.transport = before.transport) (silent : shown.messages = [])
    (failed : after.writeFailed = before.writeFailed) (closed : after.closed = before.closed)
    (queued : before.closed = false → before.writeFailed = false →
      before.pending ++ shown.entries.map Entry.message = after.pending) :
    Flows start carried after (past ++ shown) := by
  obtain ⟨bytes, remnant, format, carries, current⟩ := flows.carries
  refine ⟨flows.steps.trans (.single step), ⟨bytes, remnant, format,
    carries.quiet (by rw [transport]) silent failed, ?_⟩, ?_, ?_⟩
  · rw [transport, failed, closed]
    exact current
  · rw [transport, closed]
    exact flows.opened
  · rw [failed, closed, Trace.messages_append, silent, List.append_nil, Trace.entries_append,
      List.map_append]
    intro isOpen writable
    rw [← queued isOpen writable, ← List.append_assoc, flows.queued isOpen writable]

/-- A read changes nothing but what is still to be read, and perhaps the format. -/
theorem Flows.reading (flows : Flows start carried before past) (step : before.Step shown after)
    (isOpen : before.closed = false)
    (transport : after.transport = before.transport.readResponse.2) (silent : shown.messages = [])
    (unqueued : shown.entries = []) (failed : after.writeFailed = before.writeFailed)
    (closed : after.closed = before.closed) (pending : after.pending = before.pending) :
    Flows start carried after (past ++ shown) := by
  obtain ⟨bytes, remnant, format, carries, current⟩ := flows.carries
  have output : after.transport.output = before.transport.output := by
    rw [transport, SocketTransport.output_readResponse]
  have quiet := carries.quiet output silent failed
  refine ⟨flows.steps.trans (.single step), ?_, ?_, ?_⟩
  · cases writable : before.writeFailed with
    | true =>
      refine ⟨bytes, remnant, format, quiet, ?_⟩
      intro _ impossible
      rw [failed, writable] at impossible
      cases impossible
    | false =>
      -- More can be written, so it is the state after the read that goes on encoding.
      have encodes : Encodes start.transport.format past.messages bytes
          after.transport.format := by
        rw [transport]
        apply SocketTransport.encodes_readResponse
        rw [current isOpen writable]
        exact carries.encodes
      refine ⟨bytes, remnant, after.transport.format,
        ⟨quiet.output, ?_, quiet.ordered, quiet.whole, ?_⟩, fun _ _ => rfl⟩
      · rwa [Trace.messages_append, silent, List.append_nil]
      · intro impossible
        rw [failed, writable] at impossible
        cases impossible
  · intro _
    rw [transport, SocketTransport.stream_readResponse]
    exact flows.opened isOpen
  · rw [failed, closed, pending, Trace.messages_append, silent, List.append_nil,
      Trace.entries_append, unqueued, List.append_nil]
    exact flows.queued

theorem Flows.close (flows : Flows start carried before past) (isOpen : before.closed = false) :
    Flows start carried before.close.connection (past ++ before.close.trace) := by
  obtain ⟨bytes, remnant, format, carries, current⟩ := flows.carries
  have silent : before.close.trace.messages = [] := by
    rw [trace_close isOpen]
    exact Trace.filterMap_dropped _ fun _ => rfl
  have closed : before.close.connection.closed = true := by
    simp [Connection.close, isOpen]
  have failed : before.close.connection.writeFailed = before.writeFailed := by
    simp [Connection.close, isOpen, forget]
  have never {P : Prop} (still : before.close.connection.closed = false) : P := by
    rw [closed] at still
    cases still
  exact ⟨flows.steps.trans (.single (.close isOpen)),
    ⟨bytes, remnant, format, carries.quiet (output_close isOpen) silent failed,
      fun still _ => never still⟩,
    never, fun still _ => never still⟩

theorem Flows.transmit (flows : Flows start carried before past) (isOpen : before.closed = false)
    (writable : before.writeFailed = false) (something : before.pending ≠ []) :
    Flows start carried before.transmit.connection (past ++ before.transmit.trace) := by
  obtain ⟨bytes, remnant, format, carries, current⟩ := flows.carries
  obtain ⟨channel, opened⟩ := Option.isSome_iff_exists.mp (flows.opened isOpen)
  -- On the stream stand whole encodings, and the format is ready for the next one.
  obtain rfl : remnant = [] := carries.whole writable
  obtain rfl : before.transport.format = format := current isOpen writable
  have output := carries.output
  rw [SocketTransport.output, opened, Option.toList_some, List.map_append, List.map_singleton,
    List.append_nil] at output
  obtain ⟨earlier, outgoing⟩ := List.append_inj' output rfl
  rw [List.singleton_inj] at outgoing
  obtain ⟨taken, more, remnant, last, writes⟩ := SocketTransport.writeMessages_writes
    before.pending before.transport.buffer channel carries.encodes
  obtain ⟨took, unsent, failure, transmits⟩ := before.transmit_transmits
  have answer := transmits.answer
  have after := transmits.after
  simp only [Transport.sendAll, SocketTransport.sendMessages, opened] at answer after
  obtain ⟨whole, encodes, written, succeeded, failed⟩ := writes
  rw [answer] at whole succeeded failed
  obtain rfl : took = taken := List.append_cancel_right (transmits.pending.symm.trans whole)
  have failedNow : before.transmit.connection.writeFailed = failure.isSome := by
    rw [after, writable]
    rfl
  have none_of (still : before.transmit.connection.writeFailed = false) : failure = none := by
    rwa [failedNow, Option.isSome_eq_false_iff, Option.isNone_iff_eq_none] at still
  have messages : (past ++ before.transmit.trace).messages = past.messages ++ took := by
    rw [Trace.messages_append, transmits.messages_trace]
  have unqueued : before.transmit.trace.entries = [] :=
    transmits.filterMap_trace_eq_nil (fun _ => rfl) rfl (fun _ => rfl) fun _ => rfl
  have entries : (past ++ before.transmit.trace).entries = past.entries := by
    rw [Trace.entries_append, unqueued, List.append_nil]
  have queued : past.messages ++ took ++ unsent = past.entries.map Entry.message := by
    rw [List.append_assoc, ← transmits.pending, flows.queued isOpen writable]
  refine ⟨flows.steps.trans (.single (.transmit isOpen writable something)),
    ⟨bytes ++ more, remnant, last, ⟨?_, ?_, ?_, ?_, ?_⟩, ?_⟩, ?_, ?_⟩
  · rw [after]
    simp only [SocketTransport.output, Option.toList_some, List.map_append,
      List.map_singleton, earlier, written, outgoing, List.append_assoc]
  · rw [messages]
    exact encodes
  · rw [messages, entries, ← queued]
    exact List.prefix_append _ _
  · intro still
    exact (succeeded (none_of still)).1
  · rw [failedNow, messages, entries, ← queued]
    intro some
    obtain ⟨error, rfl⟩ := Option.isSome_iff_exists.mp some
    refine ⟨unsent, ⟨before, past, [], error, flows.steps, ?_, transmits.answer⟩,
      List.prefix_rfl, failed (Option.some_ne_none error)⟩
    rw [List.append_nil]
  · intro _ still
    rw [after]
    exact (succeeded (none_of still)).2
  · intro _
    rw [after]
    rfl
  · intro _ still
    rw [messages, entries, ← queued, transmits.complete (none_of still), after]

theorem Flows.step (flows : Flows start carried before past) (step : before.Step shown after) :
    Flows start carried after (past ++ shown) := by
  have dropped (connection : Connection (SocketTransport φ) κ) :
      connection.dropping.messages = [] := Trace.filterMap_dropped _ fun _ => rfl
  cases step with
  | log line =>
    exact flows.still (.log line) rfl rfl rfl rfl fun _ _ => List.append_nil _
  | ask isOpen reads =>
    have step := Step.ask isOpen reads
    obtain rfl | rfl := reads <;>
      exact flows.still step rfl rfl rfl rfl fun _ _ => List.append_nil _
  | enqueue message sink =>
    exact flows.still (.enqueue message sink) rfl rfl rfl rfl fun _ _ => rfl
  | transmit isOpen writable something => exact flows.transmit isOpen writable something
  | refuseWrite isOpen failed =>
    refine flows.still (.refuseWrite isOpen failed) rfl (dropped before) rfl rfl ?_
    intro _ writable
    rw [writable] at failed
    cases failed
  | fail isOpen read =>
    have transport := congrArg Prod.snd read
    exact flows.reading (.fail isOpen read) isOpen transport.symm rfl rfl rfl rfl rfl
  | arrive isOpen read =>
    rename_i response _
    have transport := congrArg Prod.snd read
    have unqueued : (before.dispatcher.reaction response).entries = [] :=
      before.dispatcher.filterMap_reaction response (fun _ => rfl) fun _ _ => rfl
    exact flows.reading (.arrive isOpen read) isOpen transport.symm
      (messages_reaction before.dispatcher response) unqueued rfl rfl rfl
  | surface => exact flows.still .surface rfl rfl rfl rfl fun _ _ => List.append_nil _
  | forget isClosed =>
    refine flows.still (.forget isClosed) rfl (dropped before) rfl rfl ?_
    intro isOpen
    rw [isClosed] at isOpen
    cases isOpen
  | close isOpen => exact flows.close isOpen

theorem Flows.fresh {transport : SocketTransport φ} {channel : Channel}
    (opened : transport.stream = some channel) (debugEnabled legacyNames : Bool) :
    Flows (.fresh transport debugEnabled legacyNames : Connection (SocketTransport φ) κ)
      channel.outgoing (.fresh transport debugEnabled legacyNames) [] := by
  refine ⟨.refl _, ⟨[], [], transport.format, ⟨?_, .start _, List.nil_prefix, fun _ => rfl, ?_⟩,
    fun _ _ => rfl⟩, ?_, fun _ _ => rfl⟩
  · simp [Connection.fresh, SocketTransport.output, opened]
  · intro impossible
    cases impossible
  · intro _
    simp [Connection.fresh, opened]

end

theorem opened_of_establish {transport : SocketTransport φ} {debugEnabled legacyNames : Bool}
    {start : Connection (SocketTransport φ) κ}
    (established : (establish transport debugEnabled legacyNames : Opening _ κ).outcome =
      .ok start) :
    ∃ after channel, start = .fresh after debugEnabled legacyNames ∧
      after.stream = some channel := by
  unfold establish at established
  split at established
  · cases established
  · rename_i after started
    obtain ⟨channel, opened⟩ := SocketTransport.opened_of_begin started
    exact ⟨after, channel, (Except.ok.inj established).symm, opened⟩

end Connection

/-- In every run of a connection that was opened, the bytes that go out on its stream
after the opening are the encodings of the messages removed, one after the other in the
order of the queue; a write that failed may have left a part of the next encoding, and
nothing follows that. -/
theorem wire_carries_encodings (transport : SocketTransport φ) (debugEnabled legacyNames : Bool)
    (start : Connection (SocketTransport φ) κ)
    (established : (Connection.establish transport debugEnabled legacyNames :
      Opening _ κ).outcome = .ok start)
    (operations : List (Operation κ)) :
    let reached := start.runFrom operations
    (∃ channel bytes remnant format, start.transport.stream = some channel ∧
      start.Carries channel.outgoing reached (start.traceOf operations) bytes remnant format) ∧
    (reached.writeFailed = true →
      ∀ more, (reached.runFrom more).transport.output = reached.transport.output) := by
  intro reached
  obtain ⟨after, channel, rfl, opened⟩ := Connection.opened_of_establish established
  have flows := (Connection.run_steps _ operations).carry Connection.Flows.step
    (Connection.Flows.fresh (κ := κ) opened debugEnabled legacyNames)
  obtain ⟨bytes, remnant, format, carries, _⟩ := flows.carries
  refine ⟨⟨channel, bytes, remnant, format, opened, carries⟩, ?_⟩
  intro failed more
  exact (reached.run_steps more).output_of_failed failed

section

/-- A peer whose stream breaks in the second message after the handshake. -/
def tornPeer : Channel :=
  ⟨⟨[0, 0, 0, 1], none⟩, [], [none, none, some ⟨3, .bare .brokenPipe⟩], []⟩

def tornTransport : SocketTransport LineFormat :=
  ⟨"peer:7687", .ofSeconds 30, none, .standard, ⟨⟩, ⟨"peer:7687", [tornPeer]⟩, none, none, [],
    .empty⟩

def tornRun : List (Operation Nat) :=
  [.run "RETURN 1" .empty (.handle 1), .pullAll (.handle 1), .sendAll, .commit (.handle 2),
    .sendAll]

/-- Three bytes of the second message are all that follows the first one. -/
theorem wire_carries_encodings_torn_pull :
    ∃ start : Connection (SocketTransport LineFormat) Nat,
      (Connection.establish tornTransport false true : Opening _ Nat).outcome = .ok start ∧
      (start.runFrom tornRun).writeFailed = true ∧
      (start.runFrom tornRun).transport.output =
        [Handshake.request .standard ++ [82, 85, 78, 10] ++ [80, 85, 76]] ∧
      ∃ channel bytes remnant format, start.transport.stream = some channel ∧
        start.Carries channel.outgoing (start.runFrom tornRun) (start.traceOf tornRun)
          bytes remnant format :=
  ⟨_, rfl, by decide +kernel, by decide +kernel,
    (wire_carries_encodings tornTransport false true _ rfl tornRun).1⟩

end

end PipelinedClient
