/-!
# Quoted strings of JSON

`Json.Quoted.encode` writes the characters of a string between the quotes: a quote, a backslash and
the control characters below U+0020 are escaped, everything else stands for itself.  No written
character lies below U+0020, so a quoted string never breaks a line.  `Json.Quoted.decode` reads what
stands between the quotes, in any of the ways it can be written.

## Key results

* `Json.Quoted.forall_encode_ge_space`: what is written holds no control character.
-/

namespace DeviceRoster.Json.Quoted

/-- The lower-case hexadecimal digit of a number below sixteen. -/
def hexDigit (n : Nat) : Char := "0123456789abcdef".toList.getD n '0'

/-- What is written for one character. -/
def escape (c : Char) : List Char :=
  if c = '"' then ['\\', '"']
  else if c = '\\' then ['\\', '\\']
  else if c = '\n' then ['\\', 'n']
  else if c = '\r' then ['\\', 'r']
  else if c = '\t' then ['\\', 't']
  else if c = '\x08' then ['\\', 'b']
  else if c = '\x0c' then ['\\', 'f']
  else if c.toNat < 0x20 then
    ['\\', 'u', '0', '0', hexDigit (c.toNat / 16), hexDigit (c.toNat % 16)]
  else [c]

/-- The characters between the quotes. -/
def encode (cs : List Char) : List Char := cs.flatMap escape

@[simp] theorem encode_nil : encode [] = [] := rfl

@[simp] theorem encode_cons (c : Char) (cs : List Char) :
    encode (c :: cs) = escape c ++ encode cs := rfl

/-- A string between quotes. -/
def quote (s : String) : String := String.ofList ('"' :: encode s.toList ++ ['"'])

/-! ## Reading -/

/-- The value of a hexadecimal digit. -/
def hexValue? (c : Char) : Option Nat :=
  if '0' ≤ c ∧ c ≤ '9' then some (c.toNat - '0'.toNat)
  else if 'a' ≤ c ∧ c ≤ 'f' then some (c.toNat - 'a'.toNat + 10)
  else if 'A' ≤ c ∧ c ≤ 'F' then some (c.toNat - 'A'.toNat + 10)
  else none

/-- The number that hexadecimal digits spell. -/
def hexNumber? (digits : List Char) : Option Nat :=
  digits.foldlM (fun n c => (hexValue? c).map (16 * n + ·)) 0

/-- The character that a letter after a backslash stands for. -/
def unescape? (c : Char) : Option Char :=
  if c = '"' then some '"'
  else if c = '\\' then some '\\'
  else if c = '/' then some '/'
  else if c = 'n' then some '\n'
  else if c = 'r' then some '\r'
  else if c = 't' then some '\t'
  else if c = 'b' then some '\x08'
  else if c = 'f' then some '\x0c'
  else none

/-- The character of a surrogate pair. -/
def pairedChar? (high low : Nat) : Option Char :=
  if 0xDC00 ≤ low ∧ low < 0xE000 then
    some (Char.ofNat (0x10000 + (high - 0xD800) * 0x400 + (low - 0xDC00)))
  else none

/-- Reads the characters up to the closing quote and returns them with the text after it.  A surrogate
escape counts only as half of a pair, and a control character must be escaped. -/
def decode : List Char → Option (List Char × List Char)
  | [] => none
  | '"' :: rest => some ([], rest)
  | '\\' :: 'u' :: a :: b :: c :: d :: rest =>
    match hexNumber? [a, b, c, d] with
    | none => none
    | some n =>
      -- The first half of a pair needs its second half at once.
      if 0xD800 ≤ n ∧ n < 0xDC00 then
        match rest with
        | '\\' :: 'u' :: a' :: b' :: c' :: d' :: rest' =>
          match (hexNumber? [a', b', c', d']).bind (pairedChar? n) with
          | none => none
          | some x => (decode rest').map (fun r => (x :: r.1, r.2))
        | _ => none
      else if 0xDC00 ≤ n ∧ n < 0xE000 then none
      else (decode rest).map (fun r => (Char.ofNat n :: r.1, r.2))
  | '\\' :: c :: rest =>
    match unescape? c with
    | none => none
    | some x => (decode rest).map (fun r => (x :: r.1, r.2))
  | c :: rest =>
    if c.toNat < 0x20 ∨ c = '\\' then none
    else (decode rest).map (fun r => (c :: r.1, r.2))

/-! ## What is written -/

private theorem hexDigit_ge_space {n : Nat} (h : n < 16) : 0x20 ≤ (hexDigit n).toNat := by
  have all : ∀ m : Fin 16, 0x20 ≤ (hexDigit m).toNat := by decide +kernel
  exact all ⟨n, h⟩

private theorem escape_ge_space (c : Char) : ∀ d ∈ escape c, 0x20 ≤ d.toNat := by
  intro d hd
  have h₁ : c.toNat < 0x20 → c.toNat / 16 < 16 := by omega
  have h₂ : c.toNat % 16 < 16 := by omega
  unfold escape at hd
  repeat' split at hd
  all_goals simp only [List.mem_cons, List.not_mem_nil, or_false] at hd
  -- The seven short escapes, then the numeric one, then a character that stands for itself.
  iterate 7 rcases hd with rfl | rfl <;> decide
  · rename_i h
    rcases hd with rfl | rfl | rfl | rfl | rfl | rfl
    iterate 4 decide
    · exact hexDigit_ge_space (h₁ h)
    · exact hexDigit_ge_space h₂
  · rename_i h
    subst hd
    omega

/-- What is written holds no control character. -/
theorem forall_encode_ge_space (cs : List Char) : ∀ d ∈ encode cs, 0x20 ≤ d.toNat := by
  intro d hd
  obtain ⟨c, _, hc⟩ := List.mem_flatMap.1 hd
  exact escape_ge_space c d hc

end DeviceRoster.Json.Quoted
