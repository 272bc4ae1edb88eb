import PipelinedClient.IoError

/-! Byte streams in memory, as one end of a connection sees them: bytes that will
come in and how they end, bytes that went out, and how writes fare. -/

set_option autoImplicit false

namespace PipelinedClient

/-- Bytes to be read; after them reads fail, or find the end of the stream. -/
structure Incoming where
  bytes : List UInt8
  failure : Option IoError

namespace Incoming

def shortRead : IoError := .fixed .unexpectedEof "failed to fill whole buffer"

/-- Read exactly so many bytes; a read that falls short consumes what there is. -/
def readExact (incoming : Incoming) (count : Nat) : Except IoError (List UInt8) × Incoming :=
  if count ≤ incoming.bytes.length then
    (.ok (incoming.bytes.take count), { incoming with bytes := incoming.bytes.drop count })
  else (.error (incoming.failure.getD shortRead), { incoming with bytes := [] })

def readLine (incoming : Incoming) : Except IoError (List UInt8) × Incoming :=
  match incoming.bytes.dropWhile fun byte => byte != 10 with
  | [] =>
    (.error (incoming.failure.getD (.bare .unexpectedEof)), { incoming with bytes := [] })
  | _ :: rest =>
    (.ok (incoming.bytes.takeWhile fun byte => byte != 10), { incoming with bytes := rest })

theorem readLine_shorter {incoming : Incoming} {line : List UInt8}
    (success : incoming.readLine.1 = .ok line) :
    incoming.readLine.2.bytes.length < incoming.bytes.length := by
  unfold readLine at success ⊢
  split at success
  · cases success
  · rename_i newline rest found
    have whole := List.takeWhile_append_dropWhile (p := fun byte => byte != 10) (l := incoming.bytes)
    have length := congrArg List.length whole
    rw [List.length_append, found, List.length_cons] at length
    simp only
    omega

end Incoming

structure WriteFault where
  accepted : Nat
  error : IoError

structure Channel where
  incoming : Incoming
  outgoing : List UInt8
  /-- How the coming writes fare; those not listed succeed. -/
  writes : List (Option WriteFault)
  /-- How the coming flushes fare; those not listed succeed. -/
  flushes : List (Option IoError)

namespace Channel

def ofIncoming (incoming : Incoming) : Channel := ⟨incoming, [], [], []⟩

/-- Write all bytes, or a proper part from the front and then fail. To write nothing
does not touch the stream. -/
def write (channel : Channel) (bytes : List UInt8) : Option IoError × Channel :=
  if bytes.isEmpty then (none, channel)
  else
    let after := { channel with writes := channel.writes.tail }
    match channel.writes.head?.join with
    | none => (none, { after with outgoing := channel.outgoing ++ bytes })
    | some fault =>
      let accepted := bytes.take (min fault.accepted (bytes.length - 1))
      (some fault.error, { after with outgoing := channel.outgoing ++ accepted })

def flush (channel : Channel) : Option IoError × Channel :=
  (channel.flushes.head?.join, { channel with flushes := channel.flushes.tail })

theorem incoming_write (channel : Channel) (bytes : List UInt8) :
    (channel.write bytes).2.incoming = channel.incoming := by
  unfold write
  split
  · rfl
  · dsimp only
    split <;> rfl

theorem flushes_write (channel : Channel) (bytes : List UInt8) :
    (channel.write bytes).2.flushes = channel.flushes := by
  unfold write
  split
  · rfl
  · dsimp only
    split <;> rfl

theorem outgoing_of_write {channel after : Channel} {bytes : List UInt8}
    (success : channel.write bytes = (none, after)) :
    after.outgoing = channel.outgoing ++ bytes := by
  unfold write at success
  split at success
  · rename_i nothing
    obtain rfl : channel = after := by simpa using success
    rw [List.isEmpty_iff.mp nothing, List.append_nil]
  · split at success
    · obtain rfl := (Prod.mk.inj success).2
      rfl
    · cases success

theorem outgoing_of_write_failed {channel after : Channel} {bytes : List UInt8} {failure : IoError}
    (failed : channel.write bytes = (some failure, after)) :
    ∃ part, part <+: bytes ∧ part.length < bytes.length ∧
      after.outgoing = channel.outgoing ++ part := by
  unfold write at failed
  split at failed
  · cases failed
  · rename_i something
    split at failed
    · cases failed
    · rename_i fault _
      obtain rfl := (Prod.mk.inj failed).2
      refine ⟨_, List.take_prefix _ _, ?_, rfl⟩
      have length : bytes.length ≠ 0 := by
        intro none
        exact something (List.isEmpty_iff.mpr (List.eq_nil_of_length_eq_zero none))
      rw [List.length_take]
      omega

end Channel

end PipelinedClient
