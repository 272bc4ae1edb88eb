import PipelinedClient.Transport.Basic

/-! A transport in memory that follows a script: it plays prepared replies, fails
where it is told to, and counts what is asked of it. -/

set_option autoImplicit false

namespace PipelinedClient

/-- Taking a message fails once so many messages were taken in total. -/
structure SendFault where
  after : Nat
  error : IoError

structure ScriptedTransport where
  replies : List (Except IoError Response)
  sendFault : Option SendFault
  flushFault : Option IoError
  startFault : Option Error
  channelOpen : Bool
  starts : Nat
  stops : Nat
  reads : Nat
  taken : Nat

namespace ScriptedTransport

def ofReplies (replies : List (Except IoError Response)) (sendFault : Option SendFault)
    (startFault : Option Error) : ScriptedTransport :=
  ⟨replies, sendFault, none, startFault, false, 0, 0, 0, 0⟩

def refusal? (transport : ScriptedTransport) (taken : Nat) : Option IoError :=
  match transport.sendFault with
  | some fault => if fault.after ≤ taken then some fault.error else none
  | none => none

def takeMessages (transport : ScriptedTransport) : List Message → Transmission × ScriptedTransport
  | [] => (⟨[], transport.flushFault⟩, { transport with flushFault := none })
  | message :: rest =>
    match transport.refusal? transport.taken with
    | some error => (⟨message :: rest, some error⟩, transport)
    | none => takeMessages { transport with taken := transport.taken + 1 } rest

def play (transport : ScriptedTransport) : Except IoError Response × ScriptedTransport :=
  match transport.replies with
  | [] => (.error (.bare .unexpectedEof), { transport with reads := transport.reads + 1 })
  | reply :: rest =>
    (reply, { transport with replies := rest, reads := transport.reads + 1 })

def begin (transport : ScriptedTransport) : Option Error × ScriptedTransport :=
  (transport.startFault,
    { transport with
      starts := transport.starts + 1
      channelOpen := transport.channelOpen || transport.startFault.isNone })

theorem unsent_suffix (transport : ScriptedTransport) (messages : List Message) :
    (transport.takeMessages messages).1.unsent <:+ messages := by
  induction messages generalizing transport with
  | nil => exact List.suffix_rfl
  | cons message rest ih =>
    unfold takeMessages
    split
    · exact List.suffix_rfl
    · exact (ih _).trans (List.suffix_cons message rest)

theorem unsent_eq_nil (transport : ScriptedTransport) (messages : List Message)
    (success : (transport.takeMessages messages).1.failure = none) :
    (transport.takeMessages messages).1.unsent = [] := by
  induction messages generalizing transport with
  | nil => rfl
  | cons message rest ih =>
    unfold takeMessages at success ⊢
    split
    · rename_i refused
      simp [refused] at success
    · rename_i accepted
      simp only [accepted] at success
      exact ih _ success

instance : Transport ScriptedTransport where
  start := begin
  stop transport := { transport with stops := transport.stops + 1, channelOpen := false }
  isOpen := channelOpen
  sendAll := takeMessages
  receiveOne := play
  supply transport := transport.replies.length
  unsent_suffix := unsent_suffix
  unsent_eq_nil := unsent_eq_nil
  supply_lt transport fields arrival := by
    unfold play at arrival ⊢
    cases replies : transport.replies with
    | nil => simp [replies] at arrival
    | cons reply rest => simp

end ScriptedTransport

end PipelinedClient
