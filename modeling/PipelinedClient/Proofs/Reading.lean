import PipelinedClient.Proofs.Ledger
import PipelinedClient.Transport.Basic

/-! Reading responses.

A read changes nothing about requests that are not sent, and keeps the first failure
that it hears of unless one is kept already. All that it shows are the responses and
what they set off.
-/

set_option autoImplicit false

namespace PipelinedClient

namespace Trace

variable {κ : Type}

def failures (trace : Trace κ) : List ServerError :=
  trace.responses.filterMap Response.reported?

theorem responses_append (first rest : Trace κ) :
    (first ++ rest).responses = first.responses ++ rest.responses := List.filterMap_append

theorem failures_append (first rest : Trace κ) :
    (first ++ rest).failures = first.failures ++ rest.failures := by
  rw [failures, responses_append, List.filterMap_append]
  rfl

def OnlyReads (trace : Trace κ) : Prop :=
  ∀ event ∈ trace, (∃ line, event = .logged line) ∨
    (∃ response waiting, event = .arrived response waiting) ∨
    ∃ sink signal, event = .signalled sink signal

theorem OnlyReads.filterMap_eq_nil {α : Type} {find : Event κ → Option α} {trace : Trace κ}
    (reads : trace.OnlyReads) (noLine : ∀ line, find (.logged line) = none)
    (noResponse : ∀ response waiting, find (.arrived response waiting) = none)
    (noSignal : ∀ sink signal, find (.signalled sink signal) = none) :
    trace.filterMap find = [] := by
  rw [List.filterMap_eq_nil_iff]
  intro event member
  rcases reads event member with ⟨line, rfl⟩ | ⟨response, waiting, rfl⟩ | ⟨sink, signal, rfl⟩
  · exact noLine line
  · exact noResponse response waiting
  · exact noSignal sink signal

end Trace

/-- What a read does to the dispatcher that it feeds, and what it shows. -/
structure Receipt.Reads {σ κ : Type} (receipt : Receipt σ κ) (dispatcher : Dispatcher κ) :
    Prop where
  unsent : receipt.dispatcher.unsent = dispatcher.unsent
  failure : receipt.dispatcher.failure = (dispatcher.failure <|> receipt.trace.failures.head?)
  trace : receipt.trace.OnlyReads

namespace Transport

variable {σ κ : Type}

theorem reads_nothing (outcome : Except IoError Nat) (transport : σ) (dispatcher : Dispatcher κ) :
    (⟨outcome, transport, dispatcher, []⟩ : Receipt σ κ).Reads dispatcher := by
  refine ⟨rfl, ?_, ?_⟩
  · cases kept : dispatcher.failure <;> rfl
  · intro event member
    cases member

theorem onlyReads_reaction (dispatcher : Dispatcher κ) (response : Response) :
    (dispatcher.reaction response).OnlyReads := by
  intro event member
  rcases List.mem_append.mp member with debug | reply
  · left
    split at debug
    · exact ⟨_, List.mem_singleton.mp debug⟩
    · cases debug
  · split at reply
    · exact .inr (.inr ⟨_, _, List.mem_singleton.mp reply⟩)
    · exact .inl ⟨_, List.mem_singleton.mp reply⟩

theorem responses_arrival (dispatcher : Dispatcher κ) (response : Response) (waiting : Nat) :
    Trace.responses (.arrived response waiting :: dispatcher.reaction response) = [response] :=
  congrArg (response :: ·)
    (dispatcher.filterMap_reaction response (fun _ => rfl) fun _ _ => rfl)

theorem reads_response {dispatcher : Dispatcher κ} {response : Response} {rest : Receipt σ κ}
    (reads : rest.Reads (dispatcher.accept response)) (outcome : Except IoError Nat) :
    (⟨outcome, rest.transport, rest.dispatcher,
      .arrived response dispatcher.waiting :: dispatcher.reaction response ++ rest.trace⟩ :
        Receipt σ κ).Reads dispatcher := by
  refine ⟨reads.unsent.trans (dispatcher.accept_queues response).2, ?_, ?_⟩
  -- The response comes first, so what it reports is found before anything later.
  · have failures : Trace.failures
        (.arrived response dispatcher.waiting :: dispatcher.reaction response ++ rest.trace) =
          response.reported?.toList ++ rest.trace.failures := by
      rw [Trace.failures_append, Trace.failures, responses_arrival]
      cases reported : response.reported? <;> simp [reported]
    rw [failures, reads.failure, dispatcher.failure_accept]
    cases dispatcher.failure <;> cases response.reported? <;> rfl
  · intro event member
    rcases List.mem_append.mp member with here | later
    · rcases List.mem_cons.mp here with rfl | reaction
      · exact .inr (.inl ⟨_, _, rfl⟩)
      · exact onlyReads_reaction dispatcher response event reaction
    · exact reads.trace event later

variable [Transport σ]

theorem receiveInto_reads (transport : σ) (dispatcher : Dispatcher κ) :
    (receiveInto transport dispatcher).Reads dispatcher := by
  unfold receiveInto
  split
  · exact reads_nothing _ _ dispatcher
  · rename_i response after read
    have once := reads_response (reads_nothing (.ok 0) after (dispatcher.accept response)) (.ok 1)
    rwa [List.append_nil] at once

/-- Reading stops without an error only when nothing waits any more. -/
theorem waiting_receiveAll (transport : σ) (dispatcher : Dispatcher κ) {count : Nat}
    (read : (receiveAll transport dispatcher).outcome = .ok count) :
    (receiveAll transport dispatcher).dispatcher.waiting = 0 := by
  revert count
  apply receiveAll_induction (motive := fun _ _ receipt =>
    ∀ {count : Nat}, receipt.outcome = .ok count → receipt.dispatcher.waiting = 0)
  case idle => exact fun _ _ idle _ _ => idle
  case error => exact fun _ _ _ _ _ _ _ read => nomatch read
  case response =>
    intro _ _ _ _ rest _ _ ih count read
    cases outcome : rest.outcome with
    | error failure =>
      rw [outcome] at read
      cases read
    | ok fewer => exact ih outcome

theorem receiveAll_reads (transport : σ) (dispatcher : Dispatcher κ) :
    (receiveAll transport dispatcher).Reads dispatcher := by
  apply receiveAll_induction (motive := fun _ dispatcher receipt => receipt.Reads dispatcher)
  case idle => exact fun transport dispatcher _ => reads_nothing _ transport dispatcher
  case error => exact fun _ after dispatcher _ _ _ => reads_nothing _ after dispatcher
  case response => exact fun _ _ _ _ _ _ _ ih => reads_response ih _

end Transport

end PipelinedClient
