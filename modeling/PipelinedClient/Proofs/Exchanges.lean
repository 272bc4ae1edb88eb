import Mathlib.Data.Stream.Init
import PipelinedClient.Proofs.Transmission
import PipelinedClient.Transport.Scripted
import PipelinedClient.Transport.Socket

/-! Transports told by what comes of exchanges with them.

A transport plays a stream of replies if what it delivers depends on nothing but how
often it was asked before. Two transports send alike if what they take depends on
nothing but what they were handed before. Both hold wherever the two directions have
nothing in common.
-/

set_option autoImplicit false

namespace PipelinedClient

inductive Exchange where
  | send (messages : List Message)
  | receive

def Exchange.batches : List Exchange → List (List Message)
  | [] => []
  | .send messages :: past => messages :: batches past
  | .receive :: past => batches past

/-- All replies still to come; they need not all be asked for. -/
abbrev Replies := Stream' (Except IoError Response)

def Replies.after (replies : Replies) : Exchange → Replies
  | .send _ => replies
  | .receive => replies.tail

namespace Transport

variable {σ σ' κ : Type} [Transport σ] [Transport σ']

def after (transport : σ) : Exchange → σ
  | .send messages => (sendAll transport messages).2
  | .receive => (receiveOne transport).2

/-- Whatever is sent in between, reads give these replies. -/
def Plays (transport : σ) (replies : Replies) : Prop :=
  ∀ past : List Exchange,
    (receiveOne (past.foldl after transport)).1 = (past.foldl Replies.after replies).head

/-- Whatever is read in between, no write fails as long as these messages are sent. -/
def Accepts (transport : σ) (messages : List Message) : Prop :=
  ∀ (past : List Exchange) (batch : List Message),
    (Exchange.batches past).flatten ++ batch <+: messages →
      (sendAll (past.foldl after transport) batch).1.failure = none

/-- Whatever is read in between, sending the same to both fares the same. -/
def SendAlike (first : σ) (second : σ') : Prop :=
  ∀ past past' : List Exchange, Exchange.batches past = Exchange.batches past' →
    ∀ batch : List Message, (sendAll (past.foldl after first) batch).1 =
      (sendAll (past'.foldl after second) batch).1

namespace Plays

variable {transport : σ} {replies : Replies}

theorem later (plays : Plays transport replies) (exchange : Exchange) :
    Plays (after transport exchange) (replies.after exchange) :=
  fun past => plays (exchange :: past)

theorem receive {reply : Except IoError Response}
    (plays : Plays transport (Stream'.cons reply replies)) :
    receiveOne transport = (reply, (receiveOne transport).2) ∧
      Plays (receiveOne transport).2 replies :=
  ⟨Prod.ext (plays []) rfl, plays.later .receive⟩

/-- To show what a transport plays it is enough to say what every exchange keeps. -/
theorem of_kept (holds : σ → Replies → Prop)
    (reply : ∀ transport replies, holds transport replies →
      (receiveOne transport).1 = replies.head)
    (each : ∀ transport replies exchange, holds transport replies →
      holds (after transport exchange) (replies.after exchange))
    (start : holds transport replies) : Plays transport replies := by
  intro past
  induction past generalizing transport replies with
  | nil => exact reply transport replies start
  | cons exchange past ih => exact ih (each transport replies exchange start)

theorem unique {other : Replies} (plays : Plays transport replies)
    (also : Plays transport other) : replies = other := by
  have drop (stream : Replies) (count : Nat) :
      (List.replicate count Exchange.receive).foldl Replies.after stream = stream.drop count := by
    induction count generalizing stream with
    | zero => rfl
    | succ count ih =>
      rw [List.replicate_succ, List.foldl_cons, ih]
      rfl
  refine Stream'.ext fun count => ?_
  have first := plays (List.replicate count .receive)
  have second := also (List.replicate count .receive)
  rw [drop] at first second
  have same := first.symm.trans second
  rwa [Stream'.head_drop, Stream'.head_drop] at same

end Plays

namespace Accepts

variable {transport : σ} {batch messages : List Message}

theorem succeeds (accepts : Accepts transport (batch ++ messages)) :
    (sendAll transport batch).1.failure = none :=
  accepts [] batch (List.prefix_append batch messages)

theorem send (accepts : Accepts transport (batch ++ messages)) :
    Accepts (sendAll transport batch).2 messages := by
  intro past next front
  refine accepts (.send batch :: past) next ?_
  rw [Exchange.batches, List.flatten_cons, List.append_assoc]
  exact (List.prefix_append_right_inj batch).mpr front

theorem receive (accepts : Accepts transport messages) :
    Accepts (receiveOne transport).2 messages :=
  fun past next front => accepts (.receive :: past) next front

theorem of_kept (holds : σ → Prop)
    (succeeds : ∀ transport batch, holds transport → batch ⊆ messages →
      (sendAll transport batch).1.failure = none)
    (each : ∀ transport exchange, holds transport → holds (after transport exchange))
    (start : holds transport) : Accepts transport messages := by
  have kept (past : List Exchange) : holds (past.foldl after transport) := by
    induction past generalizing transport with
    | nil => exact start
    | cons exchange past ih => exact ih (each transport exchange start)
  intro past batch front
  have among : batch ⊆ messages := fun message member =>
    front.subset (List.mem_append_right _ member)
  exact succeeds _ batch (kept past) among

end Accepts

namespace SendAlike

variable {first : σ} {second : σ'}

theorem transmission (alike : SendAlike first second) (batch : List Message) :
    (sendAll first batch).1 = (sendAll second batch).1 :=
  alike [] [] rfl batch

theorem send (alike : SendAlike first second) (batch : List Message) :
    SendAlike (sendAll first batch).2 (sendAll second batch).2 := by
  intro past past' same
  refine alike (.send batch :: past) (.send batch :: past') ?_
  rw [Exchange.batches, Exchange.batches, same]

theorem receive_left (alike : SendAlike first second) :
    SendAlike (receiveOne first).2 second :=
  fun past past' same => alike (.receive :: past) past' same

theorem receive_right (alike : SendAlike first second) :
    SendAlike first (receiveOne second).2 :=
  fun past past' same => alike past (.receive :: past') same

theorem of_kept (holds : σ → σ' → Prop)
    (transmission : ∀ first second batch, holds first second →
      (sendAll first batch).1 = (sendAll second batch).1)
    (send : ∀ first second batch, holds first second →
      holds (sendAll first batch).2 (sendAll second batch).2)
    (left : ∀ first second, holds first second → holds (receiveOne first).2 second)
    (right : ∀ first second, holds first second → holds first (receiveOne second).2)
    (start : holds first second) : SendAlike first second := by
  intro past past' same batch
  -- Reads are passed over on either side until both sides send the same.
  induction past generalizing first second past' with
  | nil =>
    induction past' generalizing second with
    | nil => exact transmission first second batch start
    | cons exchange past' ih =>
      cases exchange with
      | send messages => cases same
      | receive => exact ih (right first second start) same
  | cons exchange past ih =>
    cases exchange with
    | receive => exact ih (left first second start) past' same
    | send messages =>
      induction past' generalizing second with
      | nil => cases same
      | cons exchange past' ih' =>
        cases exchange with
        | receive => exact ih' (right first second start) same
        | send messages' =>
          obtain ⟨rfl, rest⟩ := List.cons.inj same
          exact ih (send first second messages start) past' rest

end SendAlike

/-- What every read leaves as it is, reading all answers leaves as it is. -/
theorem receiveAll_keeps (holds : σ → Prop)
    (each : ∀ transport, holds transport → holds (receiveOne transport).2) {transport : σ}
    (start : holds transport) (dispatcher : Dispatcher κ) :
    holds (receiveAll transport dispatcher).transport := by
  revert start
  apply receiveAll_induction
    (motive := fun transport _ receipt => holds transport → holds receipt.transport)
  case idle => exact fun _ _ _ start => start
  case error =>
    intro transport after _ _ _ read start
    have next := each transport start
    rwa [read] at next
  case response =>
    intro transport after _ _ _ _ read ih start
    have next := each transport start
    rw [read] at next
    exact ih next

end Transport

namespace Connection

variable {σ κ : Type} [Transport σ]

theorem plays_sendAll {connection : Connection σ κ} {replies : Replies}
    (plays : Transport.Plays connection.transport replies) :
    Transport.Plays connection.sendAll.connection.transport replies := by
  unfold sendAll
  split
  · exact plays
  · split
    · exact plays
    · split
      · exact plays
      · obtain ⟨taken, unsent, failure, transmits⟩ := connection.transmit_transmits
        rw [transmits.after]
        exact plays.later (.send connection.pending)

end Connection

/-! The scripted transport: its two directions have nothing in common. -/

namespace ScriptedTransport

/-- All that decides how messages are taken. -/
def faults (transport : ScriptedTransport) : Option SendFault × Option IoError × Nat :=
  (transport.sendFault, transport.flushFault, transport.taken)

theorem replies_takeMessages (transport : ScriptedTransport) (messages : List Message) :
    (transport.takeMessages messages).2.replies = transport.replies := by
  induction messages generalizing transport with
  | nil => rfl
  | cons message rest ih =>
    unfold takeMessages
    split
    · rfl
    · exact ih _

theorem faults_play (transport : ScriptedTransport) :
    transport.play.2.faults = transport.faults := by
  unfold play
  split <;> rfl

theorem takeMessages_congr {first second : ScriptedTransport}
    (same : first.faults = second.faults) (messages : List Message) :
    (first.takeMessages messages).1 = (second.takeMessages messages).1 ∧
      (first.takeMessages messages).2.faults = (second.takeMessages messages).2.faults := by
  induction messages generalizing first second with
  | nil =>
    simp only [faults, Prod.mk.injEq] at same
    simp [takeMessages, faults, same]
  | cons message rest ih =>
    have fields := same
    simp only [faults, Prod.mk.injEq] at fields
    obtain ⟨sendFault, flushFault, taken⟩ := fields
    have refusal : first.refusal? first.taken = second.refusal? second.taken := by
      rw [refusal?, refusal?, sendFault, taken]
    unfold takeMessages
    rw [refusal]
    split
    · exact ⟨rfl, same⟩
    · refine ih ?_
      simp only [faults, sendFault, flushFault, taken]

/-- Behind the script every read finds the end of the stream. -/
theorem plays (transport : ScriptedTransport) :
    Transport.Plays transport
      (transport.replies ++ₛ Stream'.const (.error (.bare .unexpectedEof))) := by
  refine Transport.Plays.of_kept (fun current replies =>
    replies = current.replies ++ₛ Stream'.const (.error (.bare .unexpectedEof))) ?reply ?each rfl
  case reply =>
    rintro current _ rfl
    simp only [Transport.receiveOne, play]
    cases current.replies <;> rfl
  case each =>
    rintro current _ exchange rfl
    cases exchange with
    | send messages =>
      exact congrArg (· ++ₛ _) (current.replies_takeMessages messages).symm
    | receive =>
      simp only [Transport.after, Transport.receiveOne, play, Replies.after]
      cases current.replies <;> rfl

theorem sendAlike {first second : ScriptedTransport} (same : first.faults = second.faults) :
    Transport.SendAlike first second := by
  refine Transport.SendAlike.of_kept (fun first second => first.faults = second.faults)
    ?transmission ?send ?left ?right same
  case transmission => exact fun _ _ batch same => (takeMessages_congr same batch).1
  case send => exact fun _ _ batch same => (takeMessages_congr same batch).2
  case left => exact fun first _ same => (faults_play first).trans same
  case right => exact fun _ second same => same.trans (faults_play second).symm

theorem takeMessages_faultless {transport : ScriptedTransport}
    (sends : transport.sendFault = none) (flushes : transport.flushFault = none)
    (messages : List Message) :
    (transport.takeMessages messages).1.failure = none ∧
      (transport.takeMessages messages).2.sendFault = none ∧
      (transport.takeMessages messages).2.flushFault = none := by
  induction messages generalizing transport with
  | nil => exact ⟨flushes, sends, rfl⟩
  | cons message rest ih =>
    have accepted : transport.refusal? transport.taken = none := by
      rw [refusal?, sends]
    unfold takeMessages
    rw [accepted]
    exact ih sends flushes

theorem accepts {transport : ScriptedTransport} (sends : transport.sendFault = none)
    (flushes : transport.flushFault = none) (messages : List Message) :
    Transport.Accepts transport messages := by
  refine Transport.Accepts.of_kept (fun current =>
    current.sendFault = none ∧ current.flushFault = none) ?succeeds ?each ⟨sends, flushes⟩
  case succeeds => exact fun _ batch none _ => (takeMessages_faultless none.1 none.2 batch).1
  case each =>
    rintro current exchange ⟨sends, flushes⟩
    cases exchange with
    | send batch => exact (takeMessages_faultless sends flushes batch).2
    | receive =>
      have same := faults_play current
      simp only [faults, Prod.mk.injEq] at same
      exact ⟨same.1.trans sends, same.2.1.trans flushes⟩

end ScriptedTransport

/-! The transport over a byte stream, if its format keeps no state: what is read and what is
written are two sides of the stream. -/

namespace Channel

def fates (channel : Channel) : List (Option WriteFault) × List (Option IoError) :=
  (channel.writes, channel.flushes)

theorem write_congr {first second : Channel} (same : first.fates = second.fates)
    (bytes : List UInt8) :
    (first.write bytes).1 = (second.write bytes).1 ∧
      (first.write bytes).2.fates = (second.write bytes).2.fates := by
  have fields := same
  simp only [fates, Prod.mk.injEq] at fields
  unfold write
  rw [fields.1]
  split
  · exact ⟨rfl, same⟩
  · dsimp only
    split <;> simp [fates, fields]

structure Sound (channel : Channel) : Prop where
  writes : ∀ fate ∈ channel.writes, fate = none
  flushes : ∀ fate ∈ channel.flushes, fate = none

namespace Sound

variable {channel : Channel}

theorem write (sound : channel.Sound) (bytes : List UInt8) :
    (channel.write bytes).1 = none ∧ (channel.write bytes).2.Sound := by
  have next : channel.writes.head?.join = none := by
    cases fates : channel.writes with
    | nil => rfl
    | cons fate rest => exact sound.writes fate (by rw [fates]; exact List.mem_cons_self)
  unfold Channel.write
  rw [next]
  split
  · exact ⟨rfl, sound⟩
  · exact ⟨rfl, fun fate member => sound.writes fate (List.mem_of_mem_tail member), sound.flushes⟩

theorem flush (sound : channel.Sound) :
    channel.flush.1 = none ∧ channel.flush.2.Sound := by
  refine ⟨?_, sound.writes, fun fate member => sound.flushes fate (List.mem_of_mem_tail member)⟩
  cases fates : channel.flushes with
  | nil => simp [Channel.flush, fates]
  | cons fate rest =>
    have none : fate = none := sound.flushes fate (by rw [fates]; exact List.mem_cons_self)
    simp [Channel.flush, fates, none]

end Sound

end Channel

namespace SocketTransport

variable {φ : Type} [MessageFormat φ] [Subsingleton φ]

def repliesFrom (format : φ) (incoming : Incoming) : Replies :=
  Stream'.corec (fun left => (MessageFormat.read format left).1)
    (fun left => (MessageFormat.read format left).2.1) incoming

omit [Subsingleton φ] in
theorem incoming_writeMessages (format : φ) (buffer : Buffer) (channel : Channel)
    (messages : List Message) :
    (writeMessages format buffer channel messages).channel.incoming = channel.incoming := by
  induction messages generalizing format buffer channel with
  | nil => rfl
  | cons message rest ih =>
    simp only [writeMessages]
    split
    · rfl
    · have kept := channel.incoming_write
      split
      · rename_i written
        exact (congrArg Channel.incoming (congrArg Prod.snd written)).symm.trans (kept _)
      · rename_i written
        rw [ih]
        exact (congrArg Channel.incoming (congrArg Prod.snd written)).symm.trans (kept _)

theorem writeMessages_congr (format format' : φ) (buffer buffer' : Buffer)
    {first second : Channel} (same : first.fates = second.fates) (messages : List Message) :
    (writeMessages format buffer first messages).transmission =
        (writeMessages format' buffer' second messages).transmission ∧
      (writeMessages format buffer first messages).channel.fates =
        (writeMessages format' buffer' second messages).channel.fates := by
  induction messages generalizing format format' buffer buffer' first second with
  | nil =>
    simp only [Channel.fates, Prod.mk.injEq] at same
    simp [writeMessages, Channel.flush, Channel.fates, same]
  | cons message rest ih =>
    -- Both buffers are empty before the message is encoded.
    have filled : MessageFormat.encodeInto format buffer.clear message =
        MessageFormat.encodeInto format' buffer'.clear message :=
      congrArg (MessageFormat.encodeInto · Buffer.empty message) (Subsingleton.elim _ _)
    simp only [writeMessages, filled]
    generalize MessageFormat.encodeInto format' buffer'.clear message = encoded
    obtain ⟨failure, filled, after⟩ := encoded
    cases failure with
    | some failure => exact ⟨rfl, same⟩
    | none =>
      obtain ⟨fares, left⟩ := Channel.write_congr same filled.bytes
      generalize first.write filled.bytes = one at fares left
      generalize second.write filled.bytes = other at fares left
      obtain ⟨refused, one⟩ := one
      obtain ⟨refused', other⟩ := other
      obtain rfl : refused = refused' := fares
      cases refused with
      | some failure => exact ⟨rfl, left⟩
      | none => exact ih after after filled filled left

/-- A socket plays what its format makes of the bytes to be read. -/
theorem plays {transport : SocketTransport φ} {channel : Channel}
    (opened : transport.stream = some channel) :
    Transport.Plays transport (repliesFrom transport.format channel.incoming) := by
  refine Transport.Plays.of_kept (fun current replies => ∃ stream,
    current.stream = some stream ∧ replies = repliesFrom current.format stream.incoming)
    ?reply ?each ⟨channel, opened, rfl⟩
  case reply =>
    rintro current _ ⟨stream, opened, rfl⟩
    simp only [Transport.receiveOne, readResponse, opened]
    rfl
  case each =>
    rintro current _ exchange ⟨stream, opened, rfl⟩
    cases exchange with
    | send messages =>
      simp only [Transport.after, Transport.sendAll, sendMessages, opened]
      refine ⟨_, rfl, ?_⟩
      rw [incoming_writeMessages]
      exact congrArg (repliesFrom · stream.incoming) (Subsingleton.elim _ _)
    | receive =>
      simp only [Transport.after, Transport.receiveOne, readResponse, opened]
      refine ⟨_, rfl, ?_⟩
      rw [Replies.after, repliesFrom, Stream'.corec_eq, Stream'.tail_cons]
      exact congrArg (repliesFrom · _) (Subsingleton.elim _ _)

theorem sendAlike {first second : SocketTransport φ} {one other : Channel}
    (opened : first.stream = some one) (opened' : second.stream = some other)
    (same : one.fates = other.fates) : Transport.SendAlike first second := by
  refine Transport.SendAlike.of_kept (fun first second => ∃ one other, first.stream = some one ∧
    second.stream = some other ∧ one.fates = other.fates)
    ?transmission ?send ?left ?right ⟨one, other, opened, opened', same⟩
  case transmission =>
    rintro first second batch ⟨one, other, opened, opened', same⟩
    simp only [Transport.sendAll, sendMessages, opened, opened']
    exact (writeMessages_congr _ _ _ _ same batch).1
  case send =>
    rintro first second batch ⟨one, other, opened, opened', same⟩
    simp only [Transport.sendAll, sendMessages, opened, opened']
    exact ⟨_, _, rfl, rfl, (writeMessages_congr _ _ _ _ same batch).2⟩
  case left =>
    rintro first second ⟨one, other, opened, opened', same⟩
    simp only [Transport.receiveOne, readResponse, opened]
    exact ⟨_, other, rfl, opened', same⟩
  case right =>
    rintro first second ⟨one, other, opened, opened', same⟩
    simp only [Transport.receiveOne, readResponse, opened']
    exact ⟨one, _, opened, rfl, same⟩

theorem writeMessages_sound (format : φ) (buffer : Buffer) {channel : Channel}
    (sound : channel.Sound) (messages : List Message) :
    (writeMessages format buffer channel messages).channel.Sound ∧
      ((∀ message ∈ messages, (MessageFormat.write format message).1.failure = none) →
        (writeMessages format buffer channel messages).transmission.failure = none) := by
  induction messages generalizing format buffer channel with
  | nil => exact ⟨sound.flush.2, fun _ => sound.flush.1⟩
  | cons message rest ih =>
    simp only [writeMessages, MessageFormat.encodeInto]
    cases failed : (MessageFormat.write format message).1.failure with
    | some failure =>
      refine ⟨sound, fun encodes => ?_⟩
      rw [encodes message List.mem_cons_self] at failed
      cases failed
    | none =>
      generalize buffer.clear.append (MessageFormat.write format message).1.bytes = filled
      have written := sound.write filled.bytes
      generalize channel.write filled.bytes = fares at written ⊢
      obtain ⟨refused, after⟩ := fares
      obtain ⟨rfl, stillSound⟩ := written
      obtain ⟨left, succeeds⟩ := ih (MessageFormat.write format message).2 filled stillSound
      refine ⟨left, fun encodes => succeeds fun other member => ?_⟩
      rw [Subsingleton.elim (MessageFormat.write format message).2 format]
      exact encodes other (List.mem_cons_of_mem message member)

theorem accepts {transport : SocketTransport φ} {channel : Channel} {messages : List Message}
    (opened : transport.stream = some channel) (sound : channel.Sound)
    (encodes : ∀ message ∈ messages,
      (MessageFormat.write transport.format message).1.failure = none) :
    Transport.Accepts transport messages := by
  refine Transport.Accepts.of_kept (fun current => ∃ stream,
    current.stream = some stream ∧ stream.Sound) ?succeeds ?each ⟨channel, opened, sound⟩
  case succeeds =>
    rintro current batch ⟨stream, opened, sound⟩ among
    simp only [Transport.sendAll, sendMessages, opened]
    refine (writeMessages_sound _ _ sound batch).2 fun message member => ?_
    rw [Subsingleton.elim current.format transport.format]
    exact encodes message (among member)
  case each =>
    rintro current exchange ⟨stream, opened, sound⟩
    cases exchange with
    | send batch =>
      simp only [Transport.after, Transport.sendAll, sendMessages, opened]
      exact ⟨_, rfl, (writeMessages_sound _ _ sound batch).1⟩
    | receive =>
      simp only [Transport.after, Transport.receiveOne, readResponse, opened]
      exact ⟨_, rfl, sound.writes, sound.flushes⟩

end SocketTransport

end PipelinedClient
