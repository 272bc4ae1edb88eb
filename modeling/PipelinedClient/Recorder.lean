import PipelinedClient.Response

/-! Recorders keep everything they are told: the records so far and how the request
ended. Recorders are shelved under handles, so that one may serve several requests
and be read at any time. -/

set_option autoImplicit false

namespace PipelinedClient

inductive Outcome where
  | pending
  | success (metadata : SortedMap Value)
  | failure (error : ServerError)
  | ignored
  deriving DecidableEq

structure Recorder where
  records : List (List Value)
  outcome : Outcome
  deriving DecidableEq

namespace Recorder

def empty : Recorder := ⟨[], .pending⟩

instance : Inhabited Recorder := ⟨empty⟩

def accept (recorder : Recorder) : Signal → Recorder
  | .record fields => { recorder with records := recorder.records ++ [fields] }
  | .success metadata => { recorder with outcome := .success metadata }
  | .failure error => { recorder with outcome := .failure error }
  | .ignored => { recorder with outcome := .ignored }

def takeRecords (recorder : Recorder) : List (List Value) × Recorder :=
  (recorder.records, { recorder with records := [] })

def isDone (recorder : Recorder) : Bool :=
  match recorder.outcome with
  | .pending => false
  | _ => true

def summary? (recorder : Recorder) : Option (SortedMap Value) :=
  match recorder.outcome with
  | .success metadata => some metadata
  | _ => none

/-- The field names that the summary announces: the strings of its list `fields`. -/
def keys (recorder : Recorder) : List String :=
  match (recorder.summary?.bind fun metadata => metadata.find? "fields").bind Value.asList? with
  | some items => items.filterMap Value.asString?
  | none => []

end Recorder

/-- Recorders by handle, all empty at first. -/
abbrev Shelf (κ : Type) := κ → Recorder

namespace Shelf

variable {κ : Type}

def empty : Shelf κ := fun _ => .empty

variable [DecidableEq κ]

def accept (shelf : Shelf κ) (handle : κ) (signal : Signal) : Shelf κ :=
  fun other => if other = handle then (shelf other).accept signal else shelf other

end Shelf

end PipelinedClient
