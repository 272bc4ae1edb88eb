import PipelinedClient.Dispatcher

/-! The boundary to whatever moves messages.

A transport takes messages from the front of a queue, in order, and delivers
responses one at a time. It promises that what it leaves in the queue is a rest of
what it was handed, nothing if it reports no failure, and that records do not go on
for ever: after finitely many comes a summary or a read that fails.
-/

set_option autoImplicit false

namespace PipelinedClient

/-- The messages a transport did not take, and why it stopped if it failed. -/
structure Transmission where
  unsent : List Message
  failure : Option IoError

class Transport (σ : Type) where
  start : σ → Option Error × σ
  stop : σ → σ
  isOpen : σ → Bool
  /-- Take messages from the front, each as it is written. -/
  sendAll : σ → List Message → Transmission × σ
  receiveOne : σ → Except IoError Response × σ
  /-- A bound on the records that can arrive in a row. -/
  supply : σ → Nat
  unsent_suffix : ∀ state messages, (sendAll state messages).1.unsent <:+ messages
  unsent_eq_nil : ∀ state messages, (sendAll state messages).1.failure = none →
    (sendAll state messages).1.unsent = []
  supply_lt : ∀ state fields, (receiveOne state).1 = .ok (.record fields) →
    supply (receiveOne state).2 < supply state

structure Receipt (σ κ : Type) where
  outcome : Except IoError Nat
  transport : σ
  dispatcher : Dispatcher κ
  trace : Trace κ

namespace Transport

variable {σ κ : Type} [Transport σ]

def receiveInto (transport : σ) (dispatcher : Dispatcher κ) : Receipt σ κ :=
  match receiveOne transport with
  | (.error failure, after) => ⟨.error failure, after, dispatcher, []⟩
  | (.ok response, after) =>
    ⟨.ok 1, after, dispatcher.accept response,
      .arrived response dispatcher.waiting :: dispatcher.reaction response⟩

/-- Read responses until no request waits or a read fails. -/
def receiveAll (transport : σ) (dispatcher : Dispatcher κ) : Receipt σ κ :=
  if dispatcher.waiting = 0 then ⟨.ok 0, transport, dispatcher, []⟩
  else
    match _ : receiveOne transport with
    | (.error failure, after) => ⟨.error failure, after, dispatcher, []⟩
    | (.ok response, after) =>
      let rest := receiveAll after (dispatcher.accept response)
      ⟨rest.outcome.map (· + 1), rest.transport, rest.dispatcher,
        .arrived response dispatcher.waiting :: dispatcher.reaction response ++ rest.trace⟩
termination_by (dispatcher.waiting, supply transport)
decreasing_by
  -- A summary leaves one request less; a record shortens the row of records.
  rename_i waits arrival
  have after := dispatcher.waiting_accept response
  cases response with
  | record fields =>
    have smaller := supply_lt transport fields (congrArg Prod.fst arrival)
    rw [congrArg Prod.snd arrival] at smaller
    rw [Prod.lex_def]
    exact .inr ⟨after, smaller⟩
  | _ =>
    refine Prod.Lex.left _ _ ?_
    simp only [Response.isSummary, if_true] at after
    omega

theorem receiveAll_of_idle (transport : σ) {dispatcher : Dispatcher κ}
    (idle : dispatcher.waiting = 0) :
    receiveAll transport dispatcher = ⟨.ok 0, transport, dispatcher, []⟩ := by
  rw [receiveAll, if_pos idle]

theorem receiveAll_of_error {transport after : σ} {dispatcher : Dispatcher κ}
    {failure : IoError} (waiting : dispatcher.waiting ≠ 0)
    (read : receiveOne transport = (.error failure, after)) :
    receiveAll transport dispatcher = ⟨.error failure, after, dispatcher, []⟩ := by
  rw [receiveAll, if_neg waiting]
  split <;> simp_all

theorem receiveAll_of_response {transport after : σ} {dispatcher : Dispatcher κ}
    {response : Response} (waiting : dispatcher.waiting ≠ 0)
    (read : receiveOne transport = (.ok response, after)) :
    receiveAll transport dispatcher =
      let rest := receiveAll after (dispatcher.accept response)
      ⟨rest.outcome.map (· + 1), rest.transport, rest.dispatcher,
        .arrived response dispatcher.waiting :: dispatcher.reaction response ++ rest.trace⟩ := by
  rw [receiveAll, if_neg waiting]
  split <;> simp_all

/-- What the loop of reads comes to, by induction on the reads that it makes. -/
theorem receiveAll_induction {motive : σ → Dispatcher κ → Receipt σ κ → Prop}
    (idle : ∀ transport dispatcher, dispatcher.waiting = 0 →
      motive transport dispatcher ⟨.ok 0, transport, dispatcher, []⟩)
    (error : ∀ transport after dispatcher failure, dispatcher.waiting ≠ 0 →
      receiveOne transport = (.error failure, after) →
      motive transport dispatcher ⟨.error failure, after, dispatcher, []⟩)
    (response : ∀ transport after dispatcher response rest, dispatcher.waiting ≠ 0 →
      receiveOne transport = (.ok response, after) →
      motive after (dispatcher.accept response) rest →
      motive transport dispatcher ⟨rest.outcome.map (· + 1), rest.transport, rest.dispatcher,
        .arrived response dispatcher.waiting :: dispatcher.reaction response ++ rest.trace⟩)
    (transport : σ) (dispatcher : Dispatcher κ) :
    motive transport dispatcher (receiveAll transport dispatcher) := by
  induction transport, dispatcher using receiveAll.induct with
  | case1 transport dispatcher none =>
    rw [receiveAll_of_idle _ none]
    exact idle transport dispatcher none
  | case2 transport dispatcher waits failure after read =>
    rw [receiveAll_of_error waits read]
    exact error transport after dispatcher failure waits read
  | case3 transport dispatcher waits arrived after read ih =>
    rw [receiveAll_of_response waits read]
    exact response transport after dispatcher arrived _ waits read ih

end Transport

end PipelinedClient
