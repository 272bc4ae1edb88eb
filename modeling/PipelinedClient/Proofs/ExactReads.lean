import PipelinedClient.Proofs.Answers

/-! How far a read of all answers goes.

It takes as many responses as it needs and none more: those up to the summary that answers
the last request that waits, or all there are up to a read that fails. Whichever way it
ends, every response it took was passed on, and one request less waits for each summary.
-/

set_option autoImplicit false

namespace PipelinedClient

/-! The answers to so many requests are the shortest front with as many summaries. -/

section

variable (responses : List Response)

/-- Any front with enough summaries contains the answers. -/
theorem answersTo_least {count : Nat} {front : List Response} (isFront : front <+: responses)
    (enough : count ≤ (front.filter Response.isSummary).length) :
    (answersTo count responses).1 <+: front := by
  induction front generalizing count responses with
  | nil =>
    obtain rfl : count = 0 := Nat.le_zero.mp enough
    simp only [answersTo_zero, List.nil_prefix]
  | cons response front ih =>
    cases responses with
    | nil => exact absurd (List.prefix_nil.mp isFront) (List.cons_ne_nil response front)
    | cons first responses =>
      obtain ⟨rfl, front⟩ := List.cons_prefix_cons.mp isFront
      by_cases none : count = 0
      · rw [none, answersTo_zero]
        exact List.nil_prefix
      · rw [answersTo_cons _ none]
        exact List.cons_prefix_cons.mpr ⟨rfl, ih responses front (enough_behind enough)⟩

theorem answersTo_of_short {count : Nat}
    (short : (responses.filter Response.isSummary).length < count) :
    answersTo count responses = (responses, []) := by
  induction responses generalizing count with
  | nil => rfl
  | cons response responses ih =>
    have some : count ≠ 0 := Nat.ne_zero_of_lt short
    rw [answersTo_cons _ some, ih (short_behind short)]

end

/-- The shortest front of the responses that has so many summaries. -/
structure ShortestFront (count : Nat) (responses front : List Response) : Prop where
  isFront : front <+: responses
  summaries : (front.filter Response.isSummary).length = count
  least : ∀ other, other <+: responses → count ≤ (other.filter Response.isSummary).length →
    front.length ≤ other.length

theorem shortestFront_answersTo {count : Nat} {responses : List Response}
    (enough : count ≤ (responses.filter Response.isSummary).length) :
    ShortestFront count responses (answersTo count responses).1 where
  isFront := ⟨(answersTo count responses).2, answersTo_append responses count⟩
  summaries := by
    rw [(summaries_answersTo responses count).1, List.length_take, Nat.min_eq_left enough]
  least := fun _ isFront least => (answersTo_least responses isFront least).length_le

namespace Transport

variable {σ κ : Type} [Transport σ]

def afterReads (transport : σ) : Nat → σ
  | 0 => transport
  | count + 1 => afterReads (receiveOne transport).2 count

/-- The reads that it took to come by so many responses: a read that failed comes on top. -/
def readsMade {α : Type} (responses : Nat) : Except IoError α → Nat
  | .ok _ => responses
  | .error _ => responses + 1

/-- What holds however a read of all answers ends: each response that it took went to the
request that was next, and nothing was read besides. -/
structure Spends (transport : σ) (dispatcher : Dispatcher κ) (receipt : Receipt σ κ) :
    Prop where
  deliveries : receipt.trace.deliveries = deal dispatcher.sent receipt.trace.responses
  served : receipt.trace.deliveries.length = receipt.trace.responses.length
  waiting : receipt.dispatcher.waiting +
    (receipt.trace.responses.filter Response.isSummary).length = dispatcher.waiting
  unsent : receipt.dispatcher.unsent = dispatcher.unsent
  transport : receipt.transport =
    afterReads transport (readsMade receipt.trace.responses.length receipt.outcome)

theorem spends_nothing (transport : σ) (dispatcher : Dispatcher κ) {outcome : Except IoError Nat}
    {after : σ} (reads : after = afterReads transport (readsMade 0 outcome)) :
    Spends transport dispatcher ⟨outcome, after, dispatcher, []⟩ :=
  ⟨by rw [Trace.responses, List.filterMap_nil, deal]; rfl, rfl, rfl, rfl, reads⟩

theorem Spends.after {transport after : σ} {dispatcher : Dispatcher κ} {response : Response}
    {rest : Receipt σ κ} (waits : dispatcher.waiting ≠ 0)
    (read : receiveOne transport = (.ok response, after))
    (spends : Spends after (dispatcher.accept response) rest) :
    Spends transport dispatcher
      ⟨rest.outcome.map (· + 1), rest.transport, rest.dispatcher,
        .arrived response dispatcher.waiting :: dispatcher.reaction response ++ rest.trace⟩ := by
  obtain ⟨sink, sinks, oldest⟩ := exists_oldest waits
  refine ⟨?_, ?_, ?_, spends.unsent.trans (dispatcher.accept_queues response).2, ?_⟩
  · rw [deliveries_arrived oldest, responses_arrived, spends.deliveries, deal_accept oldest]
  · rw [deliveries_arrived oldest, responses_arrived, List.length_cons, spends.served,
      List.length_cons]
  · have waiting := spends.waiting
    rw [dispatcher.waiting_accept] at waiting
    rw [responses_arrived]
    by_cases ends : response.isSummary
    · rw [if_pos ends] at waiting
      rw [List.filter_cons_of_pos ends, List.length_cons, ← Nat.add_assoc, waiting]
      exact Nat.sub_add_cancel (Nat.pos_of_ne_zero waits)
    · rw [if_neg ends] at waiting
      rwa [List.filter_cons_of_neg ends]
  · have made : readsMade (response :: rest.trace.responses).length (rest.outcome.map (· + 1)) =
        readsMade rest.trace.responses.length rest.outcome + 1 := by
      cases rest.outcome <;> rfl
    rw [responses_arrived, made, afterReads, read]
    exact spends.transport

theorem receiveAll_spends (transport : σ) (dispatcher : Dispatcher κ) :
    Spends transport dispatcher (receiveAll transport dispatcher) := by
  apply receiveAll_induction (motive := Spends)
  case idle => exact fun transport dispatcher _ => spends_nothing transport dispatcher rfl
  case error =>
    intro transport after dispatcher failure _ read
    refine spends_nothing transport dispatcher ?_
    rw [readsMade, afterReads, read]
    rfl
  case response => exact fun _ _ _ _ _ waits read spends => spends.after waits read

/-- With too few summaries before it, the read that fails is reached. -/
theorem receiveAll_exhausts {transport : σ} {dispatcher : Dispatcher κ}
    {responses : List Response} {failure : IoError} {rest : Replies}
    (plays : Plays transport (responses.map .ok ++ₛ Stream'.cons (.error failure) rest))
    (short : (responses.filter Response.isSummary).length < dispatcher.waiting) :
    let receipt := receiveAll transport dispatcher
    receipt.outcome = .error failure ∧ receipt.trace.responses = responses ∧
      Plays receipt.transport rest := by
  -- More requests wait than summaries are still to come, so the loop does not end before.
  induction responses generalizing transport dispatcher with
  | nil =>
    obtain ⟨read, later⟩ := plays.receive
    rw [receiveAll_of_error (Nat.ne_zero_of_lt short) read]
    exact ⟨rfl, rfl, later⟩
  | cons response responses ih =>
    obtain ⟨read, later⟩ := plays.receive
    have waits : dispatcher.waiting ≠ 0 := Nat.ne_zero_of_lt short
    have stillShort : (responses.filter Response.isSummary).length <
        (dispatcher.accept response).waiting := by
      rw [dispatcher.waiting_accept]
      exact short_behind short
    obtain ⟨outcome, taken, unread⟩ := ih later stillShort
    rw [receiveAll_of_response waits read]
    refine ⟨congrArg (Except.map (· + 1)) outcome, ?_, unread⟩
    · rw [responses_arrived, taken]

structure Fulfils (transport : σ) (dispatcher : Dispatcher κ) (responses : List Response)
    (rest : Replies) (receipt : Receipt σ κ) : Prop where
  shortest : ShortestFront dispatcher.waiting responses receipt.trace.responses
  outcome : receipt.outcome = .ok receipt.trace.responses.length
  reads : receipt.transport = afterReads transport receipt.trace.responses.length
  unread : Plays receipt.transport
    ((responses.drop receipt.trace.responses.length).map .ok ++ₛ rest)
  waiting : receipt.dispatcher.waiting = 0

structure Exhausts (transport : σ) (dispatcher : Dispatcher κ) (responses : List Response)
    (failure : IoError) (rest : Replies) (receipt : Receipt σ κ) : Prop where
  taken : receipt.trace.responses = responses
  outcome : receipt.outcome = .error failure
  reads : receipt.transport = afterReads transport (responses.length + 1)
  unread : Plays receipt.transport rest
  waiting : receipt.dispatcher.waiting =
    dispatcher.waiting - (responses.filter Response.isSummary).length

theorem receiveAll_fulfils {transport : σ} {dispatcher : Dispatcher κ}
    {responses : List Response} {rest : Replies}
    (plays : Plays transport (responses.map .ok ++ₛ rest))
    (enough : dispatcher.waiting ≤ (responses.filter Response.isSummary).length) :
    Fulfils transport dispatcher responses rest (receiveAll transport dispatcher) := by
  have collects := receiveAll_collects plays enough
  have spends := receiveAll_spends transport dispatcher
  have shortest := shortestFront_answersTo enough
  have unread := collects.plays
  have reads := spends.transport
  rw [collects.outcome] at reads
  have left : (answersTo dispatcher.waiting responses).2 =
      responses.drop (answersTo dispatcher.waiting responses).1.length := by
    have whole := answersTo_append responses dispatcher.waiting
    generalize answersTo dispatcher.waiting responses = answers at whole ⊢
    rw [← whole, List.drop_left]
  rw [left] at unread
  rw [← collects.responses] at shortest unread
  refine ⟨shortest, ?_, reads, unread, ?_⟩
  · rw [collects.responses]
    exact collects.outcome
  · rw [← Dispatcher.length_sent, collects.sent, List.length_nil]

/-- If what stops a read early is a read that fails, it takes the answers that there are. -/
theorem responses_receiveAll {transport : σ} {dispatcher : Dispatcher κ}
    {responses : List Response} {rest : Replies}
    (plays : Plays transport (responses.map .ok ++ₛ rest))
    (settled : dispatcher.waiting ≤ (responses.filter Response.isSummary).length ∨
      ∃ failure, rest.head = .error failure) :
    (receiveAll transport dispatcher).trace.responses =
      (answersTo dispatcher.waiting responses).1 := by
  by_cases enough : dispatcher.waiting ≤ (responses.filter Response.isSummary).length
  · exact (receiveAll_collects plays enough).responses
  · obtain ⟨failure, next⟩ := settled.resolve_left enough
    have short := Nat.lt_of_not_le enough
    rw [← Stream'.eta rest, next] at plays
    rw [(receiveAll_exhausts plays short).2.1, answersTo_of_short responses short]

end Transport

/-- From any state: a read of all answers ends, after the shortest front of the responses
with a summary for every request that waits, or with the read that fails after them. On the
way a record changes nothing about how many wait, and a summary leaves one less. -/
theorem receiveAll_reads_what_is_needed {σ κ : Type} [Transport σ] (transport : σ)
    (dispatcher : Dispatcher κ) (responses : List Response) (failure : IoError) (rest : Replies)
    (plays : Transport.Plays transport
      (responses.map .ok ++ₛ Stream'.cons (.error failure) rest)) :
    let receipt := Transport.receiveAll transport dispatcher
    (dispatcher.waiting ≤ (responses.filter Response.isSummary).length →
      Transport.Fulfils transport dispatcher responses (Stream'.cons (.error failure) rest)
        receipt) ∧
    ((responses.filter Response.isSummary).length < dispatcher.waiting →
      Transport.Exhausts transport dispatcher responses failure rest receipt) ∧
    Transport.Spends transport dispatcher receipt ∧
    ∀ (state : Dispatcher κ) (response : Response),
      (response.isSummary = false → (state.accept response).waiting = state.waiting) ∧
      (response.isSummary = true → state.waiting ≠ 0 →
        (state.accept response).waiting + 1 = state.waiting) := by
  intro receipt
  have spends := Transport.receiveAll_spends transport dispatcher
  refine ⟨Transport.receiveAll_fulfils plays, ?_, spends, ?_⟩
  · intro short
    obtain ⟨outcome, taken, unread⟩ := Transport.receiveAll_exhausts plays short
    have reads := spends.transport
    have waiting := spends.waiting
    rw [outcome, taken] at reads
    rw [taken] at waiting
    exact ⟨taken, outcome, reads, unread, Nat.eq_sub_of_add_eq waiting⟩
  · intro state response
    have after := state.waiting_accept response
    constructor
    · intro goesOn
      rwa [goesOn, if_neg Bool.false_ne_true] at after
    · intro ends waits
      rw [ends, if_pos rfl] at after
      omega

section

def surplusAnswers : List Response :=
  [.record [], .success .empty, .ignored, .success .empty]

/-- Two requests wait and a third is not sent: the last summary stays unread. -/
def twoWaiting : Dispatcher Nat :=
  ((((Dispatcher.empty false).append (.handle 1)).append (.handle 2)).append
    (.handle 3)).markSent 2

theorem receiveAll_reads_what_is_needed_two_of_three :
    let receipt (responses : List Response) := Transport.receiveAll
      (ScriptedTransport.ofReplies (responses.map .ok) none none) twoWaiting
    twoWaiting.waiting = 2 ∧
      (receipt surplusAnswers).outcome =
        .ok (receipt surplusAnswers).trace.responses.length ∧
      (receipt surplusAnswers).trace.responses.length ≤ 3 ∧
      (receipt surplusAnswers).dispatcher.unsent = [.handle 3] ∧
      (receipt (surplusAnswers.take 2)).outcome = .error (.bare .unexpectedEof) ∧
      (receipt (surplusAnswers.take 2)).dispatcher.waiting = 1 := by
  have plays (responses : List Response) : Transport.Plays
      (ScriptedTransport.ofReplies (responses.map .ok) none none)
      (responses.map .ok ++ₛ Stream'.cons (.error (.bare .unexpectedEof))
        (Stream'.const (.error (.bare .unexpectedEof)))) := by
    rw [← Stream'.const_eq]
    exact ScriptedTransport.plays _
  obtain ⟨fulfils, _, spends, _⟩ :=
    receiveAll_reads_what_is_needed _ twoWaiting surplusAnswers _ _ (plays _)
  obtain ⟨_, exhausts, _, _⟩ :=
    receiveAll_reads_what_is_needed _ twoWaiting (surplusAnswers.take 2) _ _ (plays _)
  have enough := fulfils (by decide)
  have short := exhausts (by decide)
  have three := enough.shortest.least (surplusAnswers.take 3) (List.take_prefix 3 _) (by decide)
  exact ⟨rfl, enough.outcome, three, spends.unsent, short.outcome, short.waiting⟩

end

end PipelinedClient
