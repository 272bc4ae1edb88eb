import Mathlib.Data.List.Basic
import PipelinedClient.Proofs.Failures
import PipelinedClient.Transport.Scripted

/-! What a status code tells about a failure.

A status code is read in segments with dots between them. The second segment alone tells the
class of a failure. Codes of the documented form have `Neo` in front of it and two more
segments behind it, and are classified by how they begin; so is any other code unless its
second segment happens to name a class.
-/

set_option autoImplicit false

namespace PipelinedClient

namespace FailureClass

/-- The word for the class in a status code, unless the class is what others are put in. -/
def word? : FailureClass → Option String
  | .client => some "ClientError"
  | .transient => some "TransientError"
  | .database => some "DatabaseError"
  | .unknown => none

theorem dot_not_mem_word {failureClass : FailureClass} {word : String}
    (named : failureClass.word? = some word) : '.' ∉ word.toList := by
  cases failureClass <;> cases named <;> decide

end FailureClass

/-! Reading a code in segments. -/

namespace StatusCode

def segments (code : String) : List String := (code.toList.splitOn '.').map String.ofList

theorem splitOn_eq (text : List Char) : text.splitOn '.' = (text.takeWhile fun c => c != '.') ::
    match text.dropWhile fun c => c != '.' with
    | [] => []
    | _ :: rest => rest.splitOn '.' := by
  -- Splitting puts a character in front of the first segment, unless it is a dot.
  induction text with
  | nil => rfl
  | cons head rest ih =>
    rw [List.splitOn_cons_eq_if_modifyHead, List.takeWhile_cons, List.dropWhile_cons, bne]
    cases head == '.' with
    | true => rfl
    | false => exact congrArg (List.modifyHead (List.cons head)) ih

theorem secondSegment?_eq (code : String) :
    (FailureClass.secondSegment? code.toList).map String.ofList = (segments code)[1]? := by
  rw [segments, List.getElem?_map, splitOn_eq, FailureClass.secondSegment?]
  cases code.toList.dropWhile fun c => c != '.' with
  | nil => rfl
  | cons dot rest =>
    have first : (rest.splitOn '.')[0]? = some (rest.takeWhile fun c => c != '.') := by
      rw [splitOn_eq]
      rfl
    exact congrArg (Option.map String.ofList) first.symm

theorem ofCode_eq_iff {failureClass : FailureClass} {word : String}
    (named : failureClass.word? = some word) (code : String) :
    FailureClass.ofCode code = failureClass ↔ (segments code)[1]? = some word := by
  rw [FailureClass.ofCode, secondSegment?_eq]
  -- The words are different, so each tells its own class and no other.
  split <;> cases failureClass <;> cases named <;> simp_all

/-- A code begins in the documented way exactly if there are segments of that form. -/
theorem begins_iff {word : String} (whole : '.' ∉ word.toList) (code : String) :
    ("Neo." ++ word ++ ".").toList <+: code.toList ↔
      ∃ third more, segments code = "Neo" :: word :: third :: more := by
  have dotted : ("Neo." ++ word ++ ".").toList =
      "Neo".toList ++ '.' :: (word.toList ++ ['.']) := by simp
  have whole' : '.' ∉ "Neo".toList := by decide
  rw [dotted]
  constructor
  · rintro ⟨rest, text⟩
    obtain ⟨third, more, split⟩ := List.exists_cons_of_ne_nil (List.splitOn_ne_nil '.' rest)
    refine ⟨String.ofList third, more.map String.ofList, ?_⟩
    rw [segments, ← text, List.append_assoc, List.cons_append, List.append_assoc,
      List.singleton_append, List.splitOn_append_cons_self_of_not_mem whole',
      List.splitOn_append_cons_self_of_not_mem whole, split]
    simp
  · -- Put together again the segments are the code.
    rintro ⟨third, more, split⟩
    have parts : code.toList.splitOn '.' =
        "Neo".toList :: word.toList :: third.toList :: more.map String.toList := by
      have texts := congrArg (List.map String.toList) split
      simpa [segments, Function.comp_def] using texts
    have text : ['.'].intercalate (code.toList.splitOn '.') = code.toList :=
      List.intercalate_splitOn '.'
    rw [parts, List.intercalate_cons_cons, List.intercalate_cons_cons] at text
    refine ⟨['.'].intercalate (third.toList :: more.map String.toList), ?_⟩
    rw [← text]
    simp

end StatusCode

namespace ServerError

/-- The failure is classified by how its code begins. -/
def FollowsForm (failure : ServerError) : Prop :=
  ∀ (failureClass : FailureClass) (word : String), failureClass.word? = some word →
    (failure.failureClass = failureClass ↔ ("Neo." ++ word ++ ".").toList <+: failure.code.toList)

structure ToldByCode (failure : ServerError) : Prop where
  named : ∀ (failureClass : FailureClass) (word : String), failureClass.word? = some word →
    (failure.failureClass = failureClass ↔
      (StatusCode.segments failure.code)[1]? = some word)
  unknown : failure.failureClass = .unknown ↔
    ∀ (failureClass : FailureClass) (word : String), failureClass.word? = some word →
      (StatusCode.segments failure.code)[1]? ≠ some word
  documented : ∀ (failureClass : FailureClass) (word : String), failureClass.word? = some word →
    ("Neo." ++ word ++ ".").toList <+: failure.code.toList → failure.failureClass = failureClass
  /-- Codes that tell a class without having the documented form, and only these, make the
  difference. -/
  follows_iff : failure.FollowsForm ↔ failure.failureClass = .unknown ∨
    ∃ second third more, StatusCode.segments failure.code = "Neo" :: second :: third :: more
  retryable : (Error.server failure).isRetryable = true ↔
    (StatusCode.segments failure.code)[1]? = some "TransientError"

section

variable {failureClass : FailureClass} {word : String}

theorem failureClass_iff (named : failureClass.word? = some word) (code message : String) :
    (ofReport code message).failureClass = failureClass ↔
      (StatusCode.segments code)[1]? = some word :=
  StatusCode.ofCode_eq_iff named code

/-- Among codes of the documented form those that begin with a class are those of the class. -/
theorem begins_iff_of_form (named : failureClass.word? = some word) {code : String}
    (form : ∃ second third more, StatusCode.segments code = "Neo" :: second :: third :: more) :
    ("Neo." ++ word ++ ".").toList <+: code.toList ↔
      (StatusCode.segments code)[1]? = some word := by
  obtain ⟨second, third, more, form⟩ := form
  rw [StatusCode.begins_iff (FailureClass.dot_not_mem_word named), form]
  simp

theorem failureClass_of_begins (named : failureClass.word? = some word) {code : String}
    (begins : ("Neo." ++ word ++ ".").toList <+: code.toList) (message : String) :
    (ofReport code message).failureClass = failureClass := by
  have form := (StatusCode.begins_iff (FailureClass.dot_not_mem_word named) code).mp begins
  have told := (begins_iff_of_form named ⟨word, form⟩).mp begins
  exact (failureClass_iff named code message).mpr told

end

theorem failureClass_unknown_iff (code message : String) :
    (ofReport code message).failureClass = .unknown ↔
      ∀ (failureClass : FailureClass) (word : String), failureClass.word? = some word →
        (StatusCode.segments code)[1]? ≠ some word := by
  constructor
  · intro unknown failureClass word named told
    rw [← failureClass_iff named code message, unknown] at told
    cases told
    cases named
  · intro untold
    -- Every class has a word but the one that is left.
    cases told : (ofReport code message).failureClass with
    | unknown => rfl
    | client => exact absurd ((failureClass_iff rfl code message).mp told) (untold .client _ rfl)
    | transient =>
      exact absurd ((failureClass_iff rfl code message).mp told) (untold .transient _ rfl)
    | database =>
      exact absurd ((failureClass_iff rfl code message).mp told) (untold .database _ rfl)

theorem followsForm_iff (code message : String) :
    (ofReport code message).FollowsForm ↔ (ofReport code message).failureClass = .unknown ∨
      ∃ second third more, StatusCode.segments code = "Neo" :: second :: third :: more := by
  constructor
  · intro follows
    by_cases unknown : (ofReport code message).failureClass = .unknown
    · exact .inl unknown
    · right
      rw [failureClass_unknown_iff] at unknown
      push Not at unknown
      obtain ⟨failureClass, word, named, told⟩ := unknown
      have begins := (follows failureClass word named).mp
        ((failureClass_iff named code message).mpr told)
      exact ⟨word, (StatusCode.begins_iff (FailureClass.dot_not_mem_word named) code).mp begins⟩
  · rintro (unknown | form) failureClass word named
    · -- A code that begins with a class tells it.
      refine ⟨fun told => ?_, fun begins => failureClass_of_begins named begins message⟩
      rw [unknown] at told
      cases told
      cases named
    · exact (failureClass_iff named code message).trans (begins_iff_of_form named form).symm

theorem toldByCode (code message : String) : (ofReport code message).ToldByCode where
  named _ _ named := failureClass_iff named code message
  unknown := failureClass_unknown_iff code message
  documented _ _ named begins := failureClass_of_begins named begins message
  follows_iff := followsForm_iff code message
  retryable := decide_eq_true_iff.trans (failureClass_iff rfl code message)

theorem toldByCode_of_reported {response : Response} {failure : ServerError}
    (reported : response.reported? = some failure) : failure.ToldByCode := by
  cases response with
  | failure code message =>
    cases reported
    exact toldByCode code message
  | success metadata => cases reported
  | record fields => cases reported
  | ignored => cases reported

end ServerError

theorem Trace.toldByCode {κ : Type} {trace : Trace κ} {failure : ServerError}
    (mem : failure ∈ trace.failures) : failure.ToldByCode := by
  obtain ⟨response, _, reported⟩ := List.mem_filterMap.mp mem
  exact ServerError.toldByCode_of_reported reported

/-- Whatever a server reports, the second segment of the code alone tells the class, and tells
whether a failure that an operation returns may be retried. This is how the code begins for
codes of the documented form, and for others if they tell no class. -/
theorem status_codes_tell_by_segment {σ κ : Type} [Transport σ] (transport : σ)
    (debugEnabled legacyNames : Bool) (operations : List (Operation κ)) (operation : Operation κ) :
    let start : Connection σ κ := .fresh transport debugEnabled legacyNames
    (∀ code message, (ServerError.ofReport code message).ToldByCode) ∧
      ∀ failure, ((start.runFrom operations).perform operation).surfaced? = some failure →
        failure.ToldByCode := by
  intro start
  refine ⟨ServerError.toldByCode, fun failure surfaced => ?_⟩
  have keeps := (Connection.Keeps.fresh transport debugEnabled legacyNames).run operations
  exact Trace.toldByCode
    (List.mem_of_mem_head? ((keeps.surfaced?_iff operation failure).mp surfaced).2)

/-- A code of another form that tells a class: the failure is returned as one to be retried,
though its code begins in another way. -/
theorem retried_without_documented_beginning :
    let failure := ServerError.ofReport "Other.TransientError.General.Busy" "wait"
    let transport : ScriptedTransport :=
      .ofReplies [.ok (.failure failure.code failure.message)] none none
    let start : Connection ScriptedTransport Unit := .fresh transport false true
    let performed := (start.runFrom [.discardAll, .sendAll]).perform .receiveOne
    performed.surfaced? = some failure ∧ failure.failureClass = .transient ∧
      (Error.server failure).isRetryable = true ∧
      ¬"Neo.TransientError.".toList <+: failure.code.toList ∧ ¬failure.FollowsForm := by
  intro failure transport start performed
  have other : ¬"Neo.TransientError.".toList <+: failure.code.toList := by decide
  exact ⟨rfl, rfl, rfl, other, fun follows => other ((follows .transient _ rfl).mp rfl)⟩

end PipelinedClient
