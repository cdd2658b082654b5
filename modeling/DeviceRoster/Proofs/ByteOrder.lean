import Mathlib.Data.Char
import Mathlib.Data.List.Lex
import DeviceRoster.Identifier

/-!
# The order of identifiers

Identifiers are compared by their code points.  Whatever characters they are made of, that is the order of
the bytes in which they are encoded: a lesser character is encoded by lesser bytes, and no encoding is the
beginning of another one.

## Key results

- `Identifier.compare_eq_lt_iff`: identifiers are ordered as their bytes are
-/

namespace DeviceRoster.Identifier

/-- The bytes of the UTF-8 encoding. -/
def bytes (id : Identifier) : List UInt8 := id.text.toUTF8.data.toList

theorem bytes_eq (id : Identifier) : id.bytes = id.text.toList.flatMap String.utf8EncodeChar := by
  show id.text.toByteArray.data.toList = _
  rw [← String.utf8Encode_toList, List.utf8Encode, List.data_toByteArray]

/-- The bytes of a lesser character come first, whatever follows them. -/
private theorem utf8EncodeChar_append_lt {c d : Char} (h : c < d) (xs ys : List UInt8) :
    String.utf8EncodeChar c ++ xs < String.utf8EncodeChar d ++ ys := by
  have hlt : c.val.toNat < d.val.toNat := h
  have hbound : d.val.toNat < 0x110000 := by
    have hvalid := d.valid
    simp only [UInt32.isValidChar, Nat.isValidChar] at hvalid
    omega
  unfold String.utf8EncodeChar
  dsimp only
  generalize c.val.toNat = v at hlt ⊢
  generalize d.val.toNat = w at hlt hbound ⊢
  -- The digits to base 64, one after the other.
  have hthird (n : Nat) : n / 4096 = n / 64 / 64 := by omega
  have hfourth (n : Nat) : n / 262144 = n / 64 / 64 / 64 := by omega
  -- Encodings of different length differ in the first byte.  Among those of the same length the first digit
  -- that differs decides, so what follows is never looked at.
  by_cases hrest : xs < ys <;> split_ifs <;>
    simp only [List.cons_append, List.nil_append, List.cons_lt_cons_iff, UInt8.lt_iff_toNat_lt,
      ← UInt8.toNat_inj, UInt8.toNat_ofNat', hrest, hthird, hfourth] <;>
    omega

private theorem flatMap_utf8EncodeChar_lt {l m : List Char} (h : l < m) :
    l.flatMap String.utf8EncodeChar < m.flatMap String.utf8EncodeChar := by
  induction h with
  | @nil c m =>
    rw [List.flatMap_cons]
    cases hc : String.utf8EncodeChar c with
    | nil => exact absurd hc String.utf8EncodeChar_ne_nil
    | cons b bs => exact .nil
  | rel hlt => exact utf8EncodeChar_append_lt hlt _ _
  | cons _ ih => exact List.append_left_lt ih

/-- Identifiers are ordered as their bytes are. -/
theorem compare_eq_lt_iff (a b : Identifier) : compare a b = .lt ↔ a.bytes < b.bytes := by
  have hlt : compare a b = .lt ↔ a.text.toList < b.text.toList := compareOfLessAndEq_eq_lt
  rw [hlt, bytes_eq, bytes_eq]
  refine ⟨flatMap_utf8EncodeChar_lt, fun h => ?_⟩
  rcases lt_trichotomy a.text.toList b.text.toList with hab | heq | hba
  · exact hab
  · rw [heq] at h
    exact absurd h (List.lt_irrefl _)
  · exact absurd h (List.lt_asymm (flatMap_utf8EncodeChar_lt hba))

/-- A character beyond the first plane comes after all others, although in UTF-16 it would not. -/
example : compare (⟨"\ufffd"⟩ : Identifier) ⟨"😀"⟩ = .lt := by decide

end DeviceRoster.Identifier
