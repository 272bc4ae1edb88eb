import PipelinedClient.Transport.Basic
import PipelinedClient.Transport.Format
import PipelinedClient.Transport.Handshake
import PipelinedClient.Transport.Network

/-! The transport over a byte stream: it dials, agrees on a version, and moves
messages in a format that it is given. Every successful dial meets the next peer of
the network that waits at the dialled address. -/

set_option autoImplicit false

namespace PipelinedClient

structure SocketTransport (φ : Type) where
  address : String
  connectTimeout : Duration
  networkTimeout : Option Duration
  versions : ProposedVersions
  format : φ
  network : Network
  stream : Option Channel
  version : Option UInt32
  past : List Channel
  /-- Where messages are encoded. It is not emptied before the next message needs it. -/
  buffer : Buffer

namespace SocketTransport

variable {φ : Type}

def ofConfig (config : ConnectionConfig) (format : φ) (network : Network) :
    SocketTransport φ :=
  ⟨config.address, config.connectTimeout, config.networkTimeout, config.versions, format, network,
    none, none, [], .empty⟩

def zeroTimeout : IoError := .fixed .invalidInput "cannot set a 0 duration timeout"

def unresolvable? (address : String) : Option IoError :=
  if address.toList.contains '\x00' then
    some (.fixed .invalidInput "file name contained an unexpected NUL byte")
  else none

def unreachable : IoError := .system 101

def causedBy (description : String) (source : IoError) : Error :=
  .connect (description ++ ": " ++ source.display) (some source)

def connectFailed (transport : SocketTransport φ) (failure : IoError) : Error :=
  causedBy ("Unable to connect to " ++ transport.address) failure

/-- Meet the next peer, for which some time to wait is needed. -/
def dial (transport : SocketTransport φ) : Except Error (Channel × Network) :=
  match unresolvable? transport.address with
  | some failure => .error (causedBy ("Unable to resolve " ++ transport.address) failure)
  | none =>
    match transport.network.meet? transport.address with
    | none => .error (transport.connectFailed unreachable)
    | some met =>
      if transport.connectTimeout.isZero then .error (transport.connectFailed zeroTimeout)
      else .ok met

def configure (transport : SocketTransport φ) : Except Error Unit :=
  match transport.networkTimeout with
  | some limit =>
    if limit.isZero then .error (causedBy "Failed to configure socket" zeroTimeout) else .ok ()
  | none => .ok ()

def negotiate (versions : ProposedVersions) (channel : Channel) :
    Except Error UInt32 × Channel :=
  match channel.write (Handshake.request versions) with
  | (some failure, after) => (.error (causedBy "Failed to send handshake" failure), after)
  | (none, written) =>
    match written.flush with
    | (some failure, after) => (.error (causedBy "Failed to send handshake" failure), after)
    | (none, flushed) =>
      let (reply, incoming) := flushed.incoming.readExact 4
      let after := { flushed with incoming := incoming }
      match reply with
      | .error failure => (.error (causedBy "Failed to read handshake" failure), after)
      | .ok bytes =>
        match Handshake.agree versions (Handshake.wordOfBytes bytes) with
        | .ok version => (.ok version, after)
        | .error refusal => (.error refusal.toError, after)

/-- Open a stream, unless one is open. A stream that leads to no agreement is dropped. -/
def begin (transport : SocketTransport φ) : Option Error × SocketTransport φ :=
  if transport.stream.isSome then (none, transport)
  else
    match transport.dial with
    | .error error => (some error, transport)
    | .ok (channel, network) =>
      match transport.configure with
      | .error error =>
        (some error, { transport with network := network, past := transport.past ++ [channel] })
      | .ok () =>
        match negotiate transport.versions channel with
        | (.error error, after) =>
          (some error, { transport with network := network, past := transport.past ++ [after] })
        | (.ok version, after) =>
          (none, { transport with network := network, stream := some after, version := some version })

/-- Give up the stream; the version agreed last stays known. -/
def finish (transport : SocketTransport φ) : SocketTransport φ :=
  { transport with stream := none, past := transport.past ++ transport.stream.toList }

def output (transport : SocketTransport φ) : List (List UInt8) :=
  (transport.past ++ transport.stream.toList).map Channel.outgoing

theorem output_finish (transport : SocketTransport φ) :
    transport.finish.output = transport.output := by
  simp [finish, output]

theorem opened_of_begin {transport after : SocketTransport φ}
    (started : transport.begin = (none, after)) : ∃ channel, after.stream = some channel := by
  unfold begin at started
  split at started
  · rename_i opened
    obtain rfl := (Prod.mk.inj started).2
    exact Option.isSome_iff_exists.mp opened
  · split at started
    · cases started
    · split at started
      · cases started
      · split at started
        · cases started
        · obtain rfl := (Prod.mk.inj started).2
          exact ⟨_, rfl⟩

def notOpen : IoError := .custom .notConnected "socket is not open"

structure Writing (φ : Type) where
  transmission : Transmission
  format : φ
  buffer : Buffer
  channel : Channel

variable [MessageFormat φ]

/-- Encode and write messages one by one, each in the buffer that the one before has
left. What was put out for a message whose encoding fails is not written. -/
def writeMessages (format : φ) (buffer : Buffer) (channel : Channel) : List Message → Writing φ
  | [] =>
    let (failure, after) := channel.flush
    ⟨⟨[], failure⟩, format, buffer, after⟩
  | message :: rest =>
    let (failure, buffer, format) := MessageFormat.encodeInto format buffer.clear message
    match failure with
    | some failure => ⟨⟨message :: rest, some failure⟩, format, buffer, channel⟩
    | none =>
      match channel.write buffer.bytes with
      | (some failure, after) => ⟨⟨message :: rest, some failure⟩, format, buffer, after⟩
      | (none, after) => writeMessages format buffer after rest

def sendMessages (transport : SocketTransport φ) (messages : List Message) :
    Transmission × SocketTransport φ :=
  match transport.stream with
  | none => (⟨messages, some notOpen⟩, transport)
  | some channel =>
    let writing := writeMessages transport.format transport.buffer channel messages
    (writing.transmission,
      { transport with
        format := writing.format
        buffer := writing.buffer
        stream := some writing.channel })

def readResponse (transport : SocketTransport φ) :
    Except IoError Response × SocketTransport φ :=
  match transport.stream with
  | none => (.error notOpen, transport)
  | some channel =>
    let (reply, incoming, format) := MessageFormat.read transport.format channel.incoming
    (reply, { transport with
      format := format, stream := some { channel with incoming := incoming } })

def unread (transport : SocketTransport φ) : Nat :=
  match transport.stream with
  | none => 0
  | some channel => channel.incoming.bytes.length

theorem writeMessages_suffix (format : φ) (buffer : Buffer) (channel : Channel)
    (messages : List Message) :
    (writeMessages format buffer channel messages).transmission.unsent <:+ messages := by
  induction messages generalizing format buffer channel with
  | nil => exact List.suffix_rfl
  | cons message rest ih =>
    simp only [writeMessages]
    split
    · exact List.suffix_rfl
    · split
      · exact List.suffix_rfl
      · exact (ih _ _ _).trans (List.suffix_cons message rest)

theorem writeMessages_eq_nil (format : φ) (buffer : Buffer) (channel : Channel)
    (messages : List Message)
    (success : (writeMessages format buffer channel messages).transmission.failure = none) :
    (writeMessages format buffer channel messages).transmission.unsent = [] := by
  induction messages generalizing format buffer channel with
  | nil => rfl
  | cons message rest ih =>
    simp only [writeMessages] at success ⊢
    split at success
    · cases success
    · split at success
      · cases success
      · exact ih _ _ _ success

instance : Transport (SocketTransport φ) where
  start := begin
  stop := finish
  isOpen transport := transport.stream.isSome
  sendAll := sendMessages
  receiveOne := readResponse
  supply := unread
  unsent_suffix transport messages := by
    unfold sendMessages
    split
    · exact List.suffix_rfl
    · exact writeMessages_suffix _ _ _ _
  unsent_eq_nil transport messages success := by
    unfold sendMessages at success ⊢
    split
    · rename_i closed
      simp [closed] at success
    · rename_i channel opened
      simp only [opened] at success
      exact writeMessages_eq_nil _ _ _ _ success
  supply_lt transport fields arrival := by
    unfold readResponse at arrival ⊢
    cases opened : transport.stream with
    | none => simp [opened] at arrival
    | some channel =>
      simp only [opened] at arrival
      simpa [unread, opened] using MessageFormat.read_shorter _ _ _ arrival

end SocketTransport

end PipelinedClient
