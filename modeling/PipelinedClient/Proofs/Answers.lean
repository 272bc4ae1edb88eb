import PipelinedClient.Proofs.Accounting
import PipelinedClient.Proofs.Exchanges
import PipelinedClient.Proofs.Reading

/-! The answers to requests in a stream of responses.

Answers end with a summary each. A read of all answers from a transport that plays a
stream of responses consumes the front of the stream, up to the summary that answers the
last request that waits, and deals it out to the requests in order.
-/

set_option autoImplicit false

namespace PipelinedClient

/-- The responses up to the summary that answers the last of so many requests, and those
that follow. -/
def answersTo : Nat → List Response → List Response × List Response
  | _, [] => ([], [])
  | count, response :: rest =>
    if count = 0 then ([], response :: rest)
    else
      let (front, left) := answersTo (if response.isSummary then count - 1 else count) rest
      (response :: front, left)

section

variable (responses : List Response)

theorem answersTo_zero : answersTo 0 responses = ([], responses) := by
  cases responses <;> rfl

theorem answersTo_cons {count : Nat} (some : count ≠ 0) (response : Response) :
    answersTo count (response :: responses) =
      let rest := answersTo (if response.isSummary then count - 1 else count) responses
      (response :: rest.1, rest.2) := by
  rw [answersTo, if_neg some]

/-- If there are enough summaries for the requests, there are behind the first response for
those that it leaves. -/
theorem enough_behind {count : Nat} {response : Response} {responses : List Response}
    (enough : count ≤ ((response :: responses).filter Response.isSummary).length) :
    (if response.isSummary then count - 1 else count) ≤
      (responses.filter Response.isSummary).length := by
  by_cases ends : response.isSummary
  · rw [List.filter_cons_of_pos ends, List.length_cons] at enough
    rw [if_pos ends]
    omega
  · rw [List.filter_cons_of_neg ends] at enough
    rwa [if_neg ends]

theorem short_behind {count : Nat} {response : Response} {responses : List Response}
    (short : ((response :: responses).filter Response.isSummary).length < count) :
    (responses.filter Response.isSummary).length <
      if response.isSummary then count - 1 else count := by
  by_cases ends : response.isSummary
  · rw [List.filter_cons_of_pos ends, List.length_cons] at short
    rw [if_pos ends]
    omega
  · rw [List.filter_cons_of_neg ends] at short
    rwa [if_neg ends]

theorem answersTo_add (count more : Nat) :
    answersTo (count + more) responses =
      let rest := answersTo more (answersTo count responses).2
      ((answersTo count responses).1 ++ rest.1, rest.2) := by
  induction responses generalizing count with
  | nil => rfl
  | cons response responses ih =>
    by_cases none : count = 0
    · rw [none, Nat.zero_add, answersTo_zero]
      rfl
    · rw [answersTo_cons _ none, answersTo_cons _ (by omega : count + more ≠ 0)]
      have fewer : (if response.isSummary then count + more - 1 else count + more) =
          (if response.isSummary then count - 1 else count) + more := by
        split <;> omega
      rw [fewer, ih]
      rfl

theorem answersTo_append (count : Nat) :
    (answersTo count responses).1 ++ (answersTo count responses).2 = responses := by
  induction responses generalizing count with
  | nil => rfl
  | cons response responses ih =>
    by_cases none : count = 0
    · rw [none, answersTo_zero]
      rfl
    · rw [answersTo_cons _ none]
      exact congrArg (response :: ·) (ih _)

theorem summaries_answersTo (count : Nat) :
    (answersTo count responses).1.filter Response.isSummary =
        (responses.filter Response.isSummary).take count ∧
      (answersTo count responses).2.filter Response.isSummary =
        (responses.filter Response.isSummary).drop count := by
  induction responses generalizing count with
  | nil => simp [answersTo]
  | cons response responses ih =>
    by_cases none : count = 0
    · simp [none, answersTo_zero]
    · obtain ⟨fewer, rfl⟩ := Nat.exists_eq_succ_of_ne_zero none
      obtain ⟨front, left⟩ := ih (if response.isSummary then fewer else fewer + 1)
      rw [answersTo_cons _ none]
      by_cases ends : response.isSummary
      · simp_all
      · simp_all

theorem reported_answersTo {count : Nat}
    (successful : ∀ summary ∈ (responses.filter Response.isSummary).take count,
      summary.reported? = none) :
    (answersTo count responses).1.filterMap Response.reported? = [] := by
  rw [List.filterMap_eq_nil_iff]
  intro response member
  cases response with
  | failure code message =>
    refine successful _ ?_
    rw [← (summaries_answersTo responses count).1]
    exact List.mem_filter.mpr ⟨member, rfl⟩
  | _ => rfl

end

/-- So many requests will be answered, none of them by a failure. -/
structure Succeeds (count : Nat) (answers : List Response) : Prop where
  enough : count ≤ (answers.filter Response.isSummary).length
  successful : ∀ summary ∈ (answers.filter Response.isSummary).take count,
    summary.reported? = none

namespace Succeeds

variable {count more : Nat} {answers : List Response}

theorem first (succeeds : Succeeds (count + more) answers) : Succeeds count answers := by
  refine ⟨by have enough := succeeds.enough; omega, ?_⟩
  intro summary member
  exact succeeds.successful summary
    ((List.take_subset_take_left _ (Nat.le_add_right count more)) member)

theorem next (succeeds : Succeeds (count + more) answers) :
    Succeeds more (answersTo count answers).2 := by
  have left := (summaries_answersTo answers count).2
  refine ⟨?_, ?_⟩
  · have enough := succeeds.enough
    rw [left, List.length_drop]
    omega
  · intro summary member
    refine succeeds.successful summary ?_
    rw [left] at member
    rw [List.take_add]
    exact List.mem_append_right _ member

theorem silent (succeeds : Succeeds count answers) :
    (answersTo count answers).1.filterMap Response.reported? = [] :=
  reported_answersTo answers succeeds.successful

theorem answered (succeeds : Succeeds count answers) :
    ((answersTo count answers).1.filter Response.isSummary).length = count := by
  rw [(summaries_answersTo answers count).1, List.length_take, Nat.min_eq_left succeeds.enough]

end Succeeds

namespace Transport

variable {σ κ : Type} [Transport σ]

/-- A read of all answers that has ended well: what it read and dealt out, and what it
left to be read. -/
structure Collects (dispatcher : Dispatcher κ) (receipt : Receipt σ κ) (read : List Response)
    (left : Replies) : Prop where
  outcome : receipt.outcome = .ok read.length
  plays : Plays receipt.transport left
  sent : receipt.dispatcher.sent = []
  responses : receipt.trace.responses = read
  deliveries : receipt.trace.deliveries = deal dispatcher.sent read
  served : receipt.trace.deliveries.length = read.length

/-! One response that is passed on while requests wait, before a rest. -/

theorem exists_oldest {dispatcher : Dispatcher κ} (waits : dispatcher.waiting ≠ 0) :
    ∃ sink sinks, dispatcher.sent = sink :: sinks := by
  rw [← dispatcher.length_sent] at waits
  exact List.exists_cons_of_ne_nil (mt List.length_eq_zero_iff.mpr waits)

theorem deliveries_arrived {dispatcher : Dispatcher κ} {sink : Sink κ} {sinks : List (Sink κ)}
    (oldest : dispatcher.sent = sink :: sinks) (response : Response) (rest : Trace κ) :
    Trace.deliveries
        (.arrived response dispatcher.waiting :: dispatcher.reaction response ++ rest) =
      (sink, Signal.ofResponse response) :: rest.deliveries := by
  have here := deliveries_reaction dispatcher response
  rw [oldest] at here
  rw [Trace.deliveries_append]
  exact congrArg (· ++ rest.deliveries) here

theorem deal_accept {dispatcher : Dispatcher κ} {sink : Sink κ} {sinks : List (Sink κ)}
    (oldest : dispatcher.sent = sink :: sinks) (response : Response) (read : List Response) :
    deal dispatcher.sent (response :: read) =
      (sink, Signal.ofResponse response) :: deal (dispatcher.accept response).sent read := by
  rw [(dispatcher.accept_queues response).1, oldest]
  rfl

theorem responses_arrived (dispatcher : Dispatcher κ) (response : Response) (rest : Trace κ) :
    Trace.responses
        (.arrived response dispatcher.waiting :: dispatcher.reaction response ++ rest) =
      response :: rest.responses := by
  rw [Trace.responses_append, responses_arrival]
  rfl

theorem Collects.after {dispatcher : Dispatcher κ} {receipt : Receipt σ κ} {read : List Response}
    {left : Replies} {response : Response} (waits : dispatcher.waiting ≠ 0)
    (collects : Collects (dispatcher.accept response) receipt read left) :
    Collects dispatcher
      ⟨receipt.outcome.map (· + 1), receipt.transport, receipt.dispatcher,
        .arrived response dispatcher.waiting :: dispatcher.reaction response ++ receipt.trace⟩
      (response :: read) left := by
  obtain ⟨sink, sinks, oldest⟩ := exists_oldest waits
  refine ⟨?_, collects.plays, collects.sent, ?_, ?_, ?_⟩
  · rw [collects.outcome]
    rfl
  · rw [responses_arrived, collects.responses]
  · rw [deliveries_arrived oldest, collects.deliveries, deal_accept oldest]
  · rw [deliveries_arrived oldest, List.length_cons, collects.served, List.length_cons]

theorem waiting_accept_le {dispatcher : Dispatcher κ} {response : Response}
    {answers : List Response}
    (enough : dispatcher.waiting ≤ ((response :: answers).filter Response.isSummary).length) :
    (dispatcher.accept response).waiting ≤ (answers.filter Response.isSummary).length := by
  rw [dispatcher.waiting_accept]
  exact enough_behind enough

theorem receiveAll_collects {transport : σ} {dispatcher : Dispatcher κ} {answers : List Response}
    {rest : Replies} (plays : Plays transport (answers.map .ok ++ₛ rest))
    (enough : dispatcher.waiting ≤ (answers.filter Response.isSummary).length) :
    Collects dispatcher (receiveAll transport dispatcher)
      (answersTo dispatcher.waiting answers).1
      ((answersTo dispatcher.waiting answers).2.map .ok ++ₛ rest) := by
  induction answers generalizing transport dispatcher with
  | nil =>
    have idle : dispatcher.waiting = 0 := Nat.le_zero.mp enough
    have none : dispatcher.sent = [] := by
      rw [← List.length_eq_zero_iff, dispatcher.length_sent, idle]
    rw [receiveAll_of_idle transport idle]
    exact ⟨rfl, plays, none, rfl, by rw [none]; rfl, rfl⟩
  | cons response answers ih =>
    by_cases idle : dispatcher.waiting = 0
    · have none : dispatcher.sent = [] := by
        rw [← List.length_eq_zero_iff, dispatcher.length_sent, idle]
      rw [receiveAll_of_idle transport idle, idle, answersTo_zero]
      exact ⟨rfl, plays, none, rfl, by rw [none]; rfl, rfl⟩
    · obtain ⟨read, later⟩ := plays.receive
      have fewer := dispatcher.waiting_accept response
      have rest := ih later (waiting_accept_le enough)
      rw [receiveAll_of_response idle read, answersTo_cons _ idle, ← fewer]
      exact rest.after idle

end Transport

end PipelinedClient
