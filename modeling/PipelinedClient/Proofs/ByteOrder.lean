import Mathlib.Data.List.Basic

/-! Texts are ordered as their bytes are.

Texts are compared character by character. Their bytes in UTF-8 are in the same order, since of
two different characters the lesser one has the lesser bytes, whatever follows.
-/

set_option autoImplicit false

namespace PipelinedClient.Text

def utf8 (text : String) : List UInt8 := text.toUTF8.data.toList

theorem utf8_eq_flatMap (text : String) :
    utf8 text = text.toList.flatMap String.utf8EncodeChar := by
  have bytes : text.toUTF8 = (text.toList.flatMap String.utf8EncodeChar).toByteArray := by
    conv_lhs => rw [← String.ofList_toList (s := text)]
    rfl
  rw [utf8, bytes, List.data_toByteArray]

theorem byte_cons_lt_iff {one other : Nat} (small : one < 256) (small' : other < 256)
    (rest more : List UInt8) :
    UInt8.ofNat one :: rest < UInt8.ofNat other :: more ↔
      one < other ∨ one = other ∧ rest < more := by
  rw [List.cons_lt_cons_iff, UInt8.lt_iff_toNat_lt, ← UInt8.toNat_inj, UInt8.toNat_ofNat',
    UInt8.toNat_ofNat', Nat.mod_eq_of_lt small, Nat.mod_eq_of_lt small']

/-- The bytes of a lesser character come first, whatever follows them. -/
theorem encodeChar_append_lt {one other : Char} (before : one < other) (rest more : List UInt8) :
    String.utf8EncodeChar one ++ rest < String.utf8EncodeChar other ++ more := by
  have order : one.val.toNat < other.val.toNat := before
  have bound : other.val.toNat < 0x110000 := by
    have valid : other.val.toNat < 0xd800 ∨
        0xdfff < other.val.toNat ∧ other.val.toNat < 0x110000 := other.valid
    omega
  -- More bytes begin with a greater one; of as many the first digit that differs decides.
  fun_cases String.utf8EncodeChar one <;> fun_cases String.utf8EncodeChar other
  case case4.case4 =>
    have digits (code : Nat) : code / 4096 = code / 64 / 64 ∧
        code / 262144 = code / 64 / 64 / 64 := by omega
    simp (disch := omega) only [List.cons_append, List.nil_append, byte_cons_lt_iff]
    simp only [digits]
    omega
  all_goals
    simp (disch := omega) only [List.cons_append, List.nil_append, byte_cons_lt_iff]
    omega

theorem encode_lt {first second : List Char} (before : first < second) :
    first.flatMap String.utf8EncodeChar < second.flatMap String.utf8EncodeChar := by
  induction before with
  | nil =>
    rename_i char rest
    rw [List.flatMap_nil, List.flatMap_cons]
    cases bytes : String.utf8EncodeChar char with
    | nil => exact absurd bytes String.utf8EncodeChar_ne_nil
    | cons byte bytes => exact List.nil_lt_cons _ _
  | cons _ ih =>
    rw [List.flatMap_cons, List.flatMap_cons]
    exact List.append_left_lt ih
  | rel before =>
    rw [List.flatMap_cons, List.flatMap_cons]
    exact encodeChar_append_lt before _ _

theorem lt_iff_utf8_lt (first second : String) : first < second ↔ utf8 first < utf8 second := by
  have forward {one other : String} (before : one < other) : utf8 one < utf8 other := by
    rw [utf8_eq_flatMap, utf8_eq_flatMap]
    exact encode_lt before
  constructor
  · exact forward
  · intro bytes
    rcases Std.lt_trichotomy first second with before | same | after
    · exact before
    · exact absurd (same ▸ bytes) (List.lt_irrefl _)
    · exact absurd (forward after) (List.lt_asymm bytes)

end PipelinedClient.Text
