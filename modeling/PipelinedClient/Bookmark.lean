import PipelinedClient.Json.Form
import PipelinedClient.Ordered.Set
import PipelinedClient.Text.Inspection
import PipelinedClient.Value.Basic

/-! Bookmarks name points in the transaction history of a database. A transaction
that depends on one starts only after the server has caught up with it. -/

set_option autoImplicit false

namespace PipelinedClient

structure Bookmark where
  token : String
  deriving DecidableEq

namespace Bookmark

instance : LT Bookmark := ⟨fun first second => first.token < second.token⟩

instance : DecidableLT Bookmark := fun first second =>
  inferInstanceAs (Decidable (first.token < second.token))

instance : Trans (α := Bookmark) (· < ·) (· < ·) (· < ·) where
  trans first second := String.lt_trans first second

instance : Std.Trichotomous (α := Bookmark) (· < ·) where
  trichotomous first second notBefore notAfter := by
    cases first
    cases second
    exact congrArg _ (Std.Trichotomous.trichotomous (r := (· < ·)) _ _ notBefore notAfter)

instance : Std.Irrefl (α := Bookmark) (· < ·) where
  irrefl bookmark := String.lt_irrefl bookmark.token

/-- The bookmarks of raw tokens: repetitions collapse and empty tokens are dropped. -/
def parse (tokens : List String) : SortedSet Bookmark :=
  SortedSet.ofList ((tokens.filter fun token => token != "").map Bookmark.mk)

def inspect (bookmark : Bookmark) : String :=
  Inspection.variant "Bookmark" [Inspection.quoted bookmark.token]

def tokens (bookmarks : SortedSet Bookmark) : List String :=
  bookmarks.elements.map Bookmark.token

instance : Json.Form Bookmark where
  toTree bookmark := .text (some bookmark.token)
  ofTree?
    | .text content => content.map Bookmark.mk
    | _ => none

end Bookmark

end PipelinedClient
