import PipelinedClient.Dispatcher

/-! Commands to a dispatcher as data, and runs of them. -/

set_option autoImplicit false

namespace PipelinedClient

inductive Command (κ : Type) where
  | append (sink : Sink κ)
  | markSent (count : Nat)
  | discardNewest (count : Nat)
  | accept (response : Response)
  | takeFailure
  | clear

/-- What a command returns, the state it leaves, and what it sets off. -/
structure Handled (δ κ : Type) where
  returned : Option ServerError
  state : δ
  trace : Trace κ

variable {κ : Type}

def Command.history {δ : Type} (perform : δ → Command κ → Handled δ κ) (state : δ) :
    List (Command κ) → List (Handled δ κ)
  | [] => []
  | command :: rest =>
    let first := perform state command
    first :: history perform first.state rest

namespace Dispatcher

def perform (dispatcher : Dispatcher κ) : Command κ → Handled (Dispatcher κ) κ
  | .append sink => ⟨none, dispatcher.append sink, []⟩
  | .markSent count => ⟨none, dispatcher.markSent count, []⟩
  | .discardNewest count => ⟨none, dispatcher.discardNewest count, []⟩
  | .accept response => ⟨none, dispatcher.accept response, dispatcher.reaction response⟩
  | .takeFailure => ⟨dispatcher.takeFailure.1, dispatcher.takeFailure.2, []⟩
  | .clear => ⟨none, dispatcher.clear, []⟩

def history (dispatcher : Dispatcher κ) (commands : List (Command κ)) :
    List (Handled (Dispatcher κ) κ) := Command.history perform dispatcher commands

def traceOf (dispatcher : Dispatcher κ) (commands : List (Command κ)) : Trace κ :=
  (dispatcher.history commands).flatMap Handled.trace

end Dispatcher

end PipelinedClient
