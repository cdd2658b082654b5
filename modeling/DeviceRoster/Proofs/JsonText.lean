import DeviceRoster.Json.Parser
import DeviceRoster.Json.Printer
import Mathlib.Data.List.TakeDrop

/-!
# Reading what was written

`Json.parse?` reads the text that `Json.compress` writes.  Numbers other than natural numbers of
64 bits are left out here, as no codec writes one.  An object is read with its members by ascending
key, so what comes back of a value is `Json.sorted`.

## Key results

- `Json.Quoted.decode_encode`: a quoted string is read back, whatever its characters
- `Json.Exact.readable`: the text of a value is read as the value, whatever follows
- `Json.parse?_compress`: a written text is read as a whole
- `Json.Exact.ge_space`: a written text is a single line
-/

namespace DeviceRoster.Json

/-! ## Strings -/

namespace Quoted

private theorem hexValue?_hexDigit {n : Nat} (h : n < 16) : hexValue? (hexDigit n) = some n := by
  have all : ∀ m : Fin 16, hexValue? (hexDigit m) = some m.val := by decide +kernel
  exact all ⟨n, h⟩

/-- The four digits that are written for a control character spell its number. -/
private theorem hexNumber?_control {n : Nat} (h : n < 0x20) :
    hexNumber? ['0', '0', hexDigit (n / 16), hexDigit (n % 16)] = some n := by
  have hhigh := hexValue?_hexDigit (n := n / 16) (by omega)
  have hlow := hexValue?_hexDigit (n := n % 16) (by omega)
  have hzero : hexValue? '0' = some 0 := by decide
  simp only [hexNumber?, List.foldlM_cons, List.foldlM_nil, hzero, hhigh, hlow, Option.map_some,
    Option.bind_eq_bind, Option.bind_some, Option.pure_def, Option.some.injEq]
  omega

/-- What is written for one character is read as that character. -/
theorem decode_escape (c : Char) (rest : List Char) :
    decode (escape c ++ rest) = (decode rest).map fun r => (c :: r.1, r.2) := by
  unfold escape
  -- The seven short escapes are read by their letters.
  iterate 7
    split
    · rename_i h
      subst h
      rfl
  split
  · rename_i h
    have hnumber := hexNumber?_control h
    simp only [List.cons_append, List.nil_append, decode, hnumber]
    rw [if_neg (by omega), if_neg (by omega), Char.ofNat_toNat]
  · rename_i hquote hbackslash _ _ _ _ _ hcontrol
    rw [List.singleton_append, decode]
    · rw [if_neg (by simp [hcontrol, hbackslash])]
    all_goals simp_all

/-- A string is read up to its closing quote, and what follows stays. -/
theorem decode_encode (cs rest : List Char) :
    decode (encode cs ++ '"' :: rest) = some (cs, rest) := by
  induction cs with
  | nil => rw [encode_nil, List.nil_append, decode]
  | cons c cs ih => rw [encode_cons, List.append_assoc, decode_escape, ih, Option.map_some]

end Quoted

@[simp] theorem toList_quote (s : String) :
    (Quoted.quote s).toList = '"' :: (Quoted.encode s.toList ++ ['"']) := by
  rw [Quoted.quote, String.toList_ofList, List.cons_append]

/-! ## Values as they are read -/

mutual

/-- A value as its text is read: the members of every object by ascending key. -/
def sorted : Json → Json
  | .array items => .array (sortedItems items)
  | .object members => ofMembers (sortedMembers members)
  | j => j

/-- The items as they are read. -/
def sortedItems : List Json → List Json
  | [] => []
  | j :: rest => sorted j :: sortedItems rest

/-- The members as they are read, one after the other. -/
def sortedMembers : List (String × Json) → List (String × Json)
  | [] => []
  | (k, j) :: rest => (k, sorted j) :: sortedMembers rest

end

theorem sortedItems_eq (items : List Json) : sortedItems items = items.map sorted := by
  induction items with
  | nil => rfl
  | cons j items ih => rw [sortedItems, ih, List.map_cons]

theorem sortedMembers_eq (members : List (String × Json)) :
    sortedMembers members = members.map fun m => (m.1, m.2.sorted) := by
  induction members with
  | nil => rfl
  | cons m members ih =>
    obtain ⟨k, j⟩ := m
    rw [sortedMembers, ih, List.map_cons]

@[simp] theorem sorted_array (items : List Json) :
    (array items).sorted = .array (items.map sorted) := by
  rw [sorted, sortedItems_eq]

@[simp] theorem sorted_object (members : List (String × Json)) :
    (object members).sorted = ofMembers (members.map fun m => (m.1, m.2.sorted)) := by
  rw [sorted, sortedMembers_eq]

/-- Nothing else is read as null. -/
theorem sorted_ne_null {j : Json} (h : j ≠ .null) : j.sorted ≠ .null := by
  cases j with
  | null => exact absurd rfl h
  | array items => simp
  | object members => simp [ofMembers]
  | _ => simp [sorted]

/-- Whether all numbers in a value are natural numbers of 64 bits, which texts give back exactly. -/
inductive Exact : Json → Prop where
  | null : Exact .null
  | bool (b : Bool) : Exact (.bool b)
  | natural {n : Nat} (h : n < UInt64.size) : Exact (.nat n)
  | string (s : String) : Exact (.string s)
  | array {items : List Json} (h : ∀ j ∈ items, Exact j) : Exact (.array items)
  | object {members : List (String × Json)} (h : ∀ m ∈ members, Exact m.2) :
    Exact (.object members)

/-! ## What follows a value -/

/-- Whether a text is at its end or goes on with what can follow a value. -/
def Follows (rest : List Char) : Prop := ∀ c ∈ rest.head?, c = ',' ∨ c = ']' ∨ c = '\x7d'

theorem follows_nil : Follows [] := by
  intro c hc
  cases hc

theorem follows_cons {c : Char} (h : c = ',' ∨ c = ']' ∨ c = '\x7d') (cs : List Char) :
    Follows (c :: cs) := by
  intro d hd
  cases hd
  exact h

/-- Whether a character is skipped in front of a value. -/
def isBlank (c : Char) : Bool := c == ' ' || c == '\n' || c == '\r' || c == '\t'

theorem skipBlanks_cons {c : Char} (h : isBlank c = false) (cs : List Char) :
    skipBlanks (c :: cs) = c :: cs := by
  have hc : (c == ' ' || c == '\n' || c == '\r' || c == '\t') = false := h
  rw [skipBlanks, List.dropWhile_cons, hc]
  rfl

/-! ## Numbers -/

theorem ne_of_isDigit {d c : Char} (hd : d.isDigit = true) (hc : c.isDigit = false) : d ≠ c := by
  rintro rfl
  exact absurd hd (by simp [hc])

theorem isDigit_of_mem_toDigits {n : Nat} {c : Char} (h : c ∈ Nat.toDigits 10 n) :
    c.isDigit = true :=
  Nat.isDigit_of_mem_toDigits (by omega) (by omega) h

/-- The digits of a number start with a digit. -/
theorem exists_cons_toDigits (n : Nat) :
    ∃ d ds, Nat.toDigits 10 n = d :: ds ∧ d.isDigit = true := by
  cases hds : Nat.toDigits 10 n with
  | nil => exact absurd hds Nat.toDigits_ne_nil
  | cons d ds => exact ⟨d, ds, rfl, isDigit_of_mem_toDigits (n := n) (by simp [hds])⟩

/-- Only the number zero starts with the digit zero. -/
theorem head?_toDigits {n : Nat} (h : n ≠ 0) : (Nat.toDigits 10 n).head? ≠ some '0' := by
  induction n using Nat.strongRecOn with
  | ind n ih =>
    by_cases hn : n < 10
    · have all : ∀ m : Fin 10, m.val ≠ 0 → (Nat.toDigits 10 m).head? ≠ some '0' := by decide
      exact all ⟨n, hn⟩ h
    · -- The digits in front of the last one are those of a smaller number.
      obtain ⟨d, ds, hds, _⟩ := exists_cons_toDigits (n / 10)
      have hfront := ih (n / 10) (by omega) (by omega)
      rw [Nat.toDigits_of_base_le (by omega) (by omega), hds]
      rw [hds] at hfront
      exact hfront

theorem length_toDigits_of_head? {n : Nat} (h : (Nat.toDigits 10 n).head? = some '0') :
    (Nat.toDigits 10 n).length = 1 := by
  have hn : n = 0 := by
    by_contra hn
    exact head?_toDigits hn h
  subst hn
  rfl

theorem spanDigits_append {ds rest : List Char} (hds : ∀ c ∈ ds, c.isDigit = true)
    (hrest : ∀ c ∈ rest.head?, c.isDigit = false) : spanDigits (ds ++ rest) = (ds, rest) := by
  rw [spanDigits, List.span_eq_takeWhile_dropWhile, List.takeWhile_append_of_pos hds,
    List.dropWhile_append_of_pos hds]
  cases rest with
  | nil => simp
  | cons c rest =>
    have hc : c.isDigit = false := hrest c rfl
    rw [List.takeWhile_cons_of_neg (by simp [hc]), List.dropWhile_cons_of_neg (by simp [hc]),
      List.append_nil]

/-- What follows a value continues no number: there is no digit, no fraction and no exponent. -/
private theorem continues_of_follows {rest : List Char} (h : Follows rest) :
    (∀ c ∈ rest.head?, c.isDigit = false) ∧ readFraction? rest = some ([], rest) ∧
      readExponent? rest = some (none, rest) := by
  cases rest with
  | nil => exact ⟨by simp, rfl, rfl⟩
  | cons c rest =>
    rcases h c rfl with rfl | rfl | rfl
    all_goals exact ⟨by simp, rfl, rfl⟩

theorem readNumber?_toDigits {n : Nat} (hn : n < UInt64.size) {rest : List Char}
    (hrest : Follows rest) : readNumber? (Nat.toDigits 10 n ++ rest) = some (.natural n, rest) := by
  obtain ⟨hend, hfraction, hexponent⟩ := continues_of_follows hrest
  have hspan := spanDigits_append (fun _ hc => isDigit_of_mem_toDigits (n := n) hc) hend
  have hvalue : decimalNumber (Nat.toDigits 10 n) = n := Nat.ofDigitChars_ten_toDigits
  -- The parser would take a minus sign off first, and would refuse a leading zero.
  have hsign : ∀ r, Nat.toDigits 10 n ++ rest ≠ '-' :: r := by
    intro r hr
    obtain ⟨d, ds, hds, hd⟩ := exists_cons_toDigits n
    rw [hds, List.cons_append] at hr
    exact ne_of_isDigit hd (by decide) (List.cons.inj hr).1
  have hwhole : ¬ ((Nat.toDigits 10 n).isEmpty ∨
      ((Nat.toDigits 10 n).head? = some '0' ∧ 1 < (Nat.toDigits 10 n).length)) := by
    rintro (hempty | ⟨hzero, hlong⟩)
    · exact Nat.toDigits_ne_nil (List.isEmpty_iff.1 hempty)
    · have := length_toDigits_of_head? hzero
      omega
  have hnumber : numberOf false (Nat.toDigits 10 n) [] none = .natural n := by
    simp [numberOf, hvalue, hn]
  unfold readNumber?
  split
  rename_i heq
  split at heq
  · exact absurd ‹_› (hsign _)
  · cases heq
    simp only [hspan, if_neg hwhole, hfraction, hexponent, hnumber, Option.bind_eq_bind,
      Option.bind_some, Option.pure_def]

/-! ## Texts, character by character -/

@[simp] theorem toList_compress_nat (n : Nat) : (compress (nat n)).toList = Nat.toDigits 10 n := by
  show (toString n).toList = _
  exact Nat.toList_repr

theorem toList_compress_array (items : List Json) :
    (compress (.array items)).toList = '[' :: ((compressItems items).toList ++ [']']) := by
  rw [compress, String.toList_append, String.toList_append, List.append_assoc]
  rfl

theorem toList_compress_object (members : List (String × Json)) :
    (compress (.object members)).toList =
      '\x7b' :: ((compressMembers members).toList ++ ['\x7d']) := by
  rw [compress, String.toList_append, String.toList_append, List.append_assoc]
  rfl

theorem toList_compressItems_cons_cons (j k : Json) (items : List Json) :
    (compressItems (j :: k :: items)).toList =
      (compress j).toList ++ ',' :: (compressItems (k :: items)).toList := by
  rw [compressItems, String.toList_append, String.toList_append, List.append_assoc]
  · rfl
  · simp

/-- What is written for one member. -/
def memberText (m : String × Json) : List Char :=
  '"' :: (Quoted.encode m.1.toList ++ '"' :: ':' :: (compress m.2).toList)

theorem toList_compressMembers_singleton (m : String × Json) :
    (compressMembers [m]).toList = memberText m := by
  obtain ⟨k, j⟩ := m
  simp [compressMembers, memberText]

theorem toList_compressMembers_cons_cons (m n : String × Json) (members : List (String × Json)) :
    (compressMembers (m :: n :: members)).toList =
      memberText m ++ ',' :: (compressMembers (n :: members)).toList := by
  obtain ⟨k, j⟩ := m
  rw [compressMembers]
  · simp [memberText]
  · simp

/-- A written value starts with no blank, nor with what closes an array. -/
theorem exists_cons_compress {j : Json} (h : j.Exact) :
    ∃ c cs, (compress j).toList = c :: cs ∧ isBlank c = false ∧ c ≠ ']' := by
  cases h with
  | null => exact ⟨'n', _, rfl, by decide⟩
  | bool b =>
    cases b with
    | false => exact ⟨'f', _, rfl, by decide⟩
    | true => exact ⟨'t', _, rfl, by decide⟩
  | @natural n h =>
    obtain ⟨d, ds, hds, hd⟩ := exists_cons_toDigits n
    have hblank : isBlank d = false := by simp [isBlank, ne_of_isDigit hd]
    exact ⟨d, ds, by rw [toList_compress_nat, hds], hblank, ne_of_isDigit hd (by decide)⟩
  | string s => exact ⟨'"', _, toList_quote s, by decide⟩
  | array h => exact ⟨'[', _, toList_compress_array _, by decide⟩
  | object h => exact ⟨'\x7b', _, toList_compress_object _, by decide⟩

/-! ## No control characters -/

private theorem ge_space_append {cs ds : List Char} (hcs : ∀ c ∈ cs, 0x20 ≤ c.toNat)
    (hds : ∀ c ∈ ds, 0x20 ≤ c.toNat) : ∀ c ∈ cs ++ ds, 0x20 ≤ c.toNat := by
  intro c hc
  obtain hc | hc := List.mem_append.1 hc
  · exact hcs c hc
  · exact hds c hc

private theorem ge_space_cons {c : Char} {cs : List Char} (hc : 0x20 ≤ c.toNat)
    (hcs : ∀ d ∈ cs, 0x20 ≤ d.toNat) : ∀ d ∈ c :: cs, 0x20 ≤ d.toNat :=
  List.forall_mem_cons.2 ⟨hc, hcs⟩

private theorem ge_space_compressItems {items : List Json}
    (h : ∀ j ∈ items, ∀ c ∈ (compress j).toList, 0x20 ≤ c.toNat) :
    ∀ c ∈ (compressItems items).toList, 0x20 ≤ c.toNat := by
  induction items with
  | nil => simp [compressItems]
  | cons j items ih =>
    have hj := h j List.mem_cons_self
    have hrest := ih fun k hk => h k (List.mem_cons_of_mem _ hk)
    cases items with
    | nil => exact hj
    | cons k items =>
      rw [toList_compressItems_cons_cons]
      exact ge_space_append hj (ge_space_cons (by decide) hrest)

private theorem ge_space_compressMembers {members : List (String × Json)}
    (h : ∀ m ∈ members, ∀ c ∈ (compress m.2).toList, 0x20 ≤ c.toNat) :
    ∀ c ∈ (compressMembers members).toList, 0x20 ≤ c.toNat := by
  -- A member is a quoted name, a colon and a value, none of which has a control character.
  have hmember : ∀ m ∈ members, ∀ c ∈ memberText m, 0x20 ≤ c.toNat := fun m hm =>
    ge_space_cons (by decide) (ge_space_append (Quoted.forall_encode_ge_space _)
      (ge_space_cons (by decide) (ge_space_cons (by decide) (h m hm))))
  induction members with
  | nil => simp [compressMembers]
  | cons m members ih =>
    have hm := hmember m List.mem_cons_self
    have hrest := ih (fun n hn => h n (List.mem_cons_of_mem _ hn))
      fun n hn => hmember n (List.mem_cons_of_mem _ hn)
    cases members with
    | nil =>
      rw [toList_compressMembers_singleton]
      exact hm
    | cons n members =>
      rw [toList_compressMembers_cons_cons]
      exact ge_space_append hm (ge_space_cons (by decide) hrest)

/-- A value is written on one line, without any control character. -/
theorem Exact.ge_space {j : Json} (h : j.Exact) : ∀ c ∈ (compress j).toList, 0x20 ≤ c.toNat := by
  induction h with
  | null =>
    show ∀ c ∈ ['n', 'u', 'l', 'l'], 0x20 ≤ c.toNat
    simp
  | bool b =>
    cases b with
    | false =>
      show ∀ c ∈ ['f', 'a', 'l', 's', 'e'], 0x20 ≤ c.toNat
      simp
    | true =>
      show ∀ c ∈ ['t', 'r', 'u', 'e'], 0x20 ≤ c.toNat
      simp
  -- Digits lie above the control characters.
  | natural h =>
    intro c hc
    rw [toList_compress_nat] at hc
    have hdigit := isDigit_of_mem_toDigits hc
    simp only [Char.isDigit, Bool.and_eq_true, decide_eq_true_eq] at hdigit
    exact Nat.le_trans (by decide) hdigit.1
  | string s =>
    rw [compress, toList_quote]
    exact ge_space_cons (by decide) (ge_space_append (Quoted.forall_encode_ge_space _) (by simp))
  | array h ih =>
    rw [toList_compress_array]
    exact ge_space_cons (by decide) (ge_space_append (ge_space_compressItems ih) (by simp))
  | object h ih =>
    rw [toList_compress_object]
    exact ge_space_cons (by decide) (ge_space_append (ge_space_compressMembers ih) (by simp))

/-! ## Reading values -/

/-- Whether the text of a value is read as that value, whatever follows, with fuel for each of its
characters. -/
def Readable (j : Json) : Prop :=
  ∀ (fuel : Nat) (rest : List Char), (compress j).toList.length ≤ fuel → Follows rest →
    readValue? fuel ((compress j).toList ++ rest) = some (j.sorted, rest)

/-- Fuel for each character is fuel for a step. -/
private theorem exists_eq_succ_fuel {j : Json} {fuel : Nat} (h : j.Exact)
    (hfuel : (compress j).toList.length ≤ fuel) : ∃ k, fuel = k + 1 := by
  obtain ⟨c, cs, htext, _⟩ := exists_cons_compress h
  rw [htext, List.length_cons] at hfuel
  exact ⟨fuel - 1, by omega⟩

private theorem readable_constant {j : Json} (h : j.Exact)
    (hread : ∀ fuel rest,
      readValue? (fuel + 1) ((compress j).toList ++ rest) = some (j.sorted, rest)) :
    Readable j := by
  intro fuel rest hfuel _
  obtain ⟨fuel, rfl⟩ := exists_eq_succ_fuel h hfuel
  exact hread fuel rest

private theorem readValue?_digit {d : Char} (hd : d.isDigit = true) (fuel : Nat) (cs : List Char) :
    readValue? (fuel + 1) (d :: cs) = (readNumber? (d :: cs)).map fun r => (.number r.1, r.2) := by
  have hblank : isBlank d = false := by simp [isBlank, ne_of_isDigit hd]
  rw [readValue?, skipBlanks_cons hblank]
  split
  all_goals
    rename_i heq
    try cases heq
    try exact absurd hd (by decide)
  rfl

private theorem readable_nat {n : Nat} (hn : n < UInt64.size) : Readable (nat n) := by
  intro fuel rest hfuel hrest
  obtain ⟨fuel, rfl⟩ := exists_eq_succ_fuel (.natural hn) hfuel
  obtain ⟨d, ds, hds, hd⟩ := exists_cons_toDigits n
  have hnumber := readNumber?_toDigits hn hrest
  rw [hds, List.cons_append] at hnumber
  rw [toList_compress_nat, hds, List.cons_append, readValue?_digit hd, hnumber]
  rfl

private theorem readable_string (s : String) : Readable (.string s) := by
  intro fuel rest hfuel _
  obtain ⟨fuel, rfl⟩ := exists_eq_succ_fuel (.string s) hfuel
  rw [compress, toList_quote, List.cons_append, List.append_assoc, readValue?,
    skipBlanks_cons (by decide)]
  show ((Quoted.decode (Quoted.encode s.toList ++ '"' :: rest)).map _) = _
  rw [Quoted.decode_encode, Option.map_some, String.ofList_toList, sorted]
  all_goals simp

/-! ## Reading arrays -/

private theorem readItems?_compressItems {items : List Json} (hne : items ≠ [])
    (hitems : ∀ j ∈ items, Readable j) (fuel : Nat) (rest : List Char)
    (hfuel : (compressItems items).toList.length < fuel) :
    readItems? fuel ((compressItems items).toList ++ ']' :: rest) =
      some (items.map sorted, rest) := by
  induction items generalizing fuel with
  | nil => exact absurd rfl hne
  | cons j items ih =>
    obtain ⟨fuel, rfl⟩ : ∃ k, fuel = k + 1 := ⟨fuel - 1, by omega⟩
    have hj := hitems j List.mem_cons_self
    cases items with
    | nil =>
      rw [compressItems] at hfuel ⊢
      rw [readItems?, hj fuel _ (by omega) (follows_cons (by decide) rest)]
      rfl
    | cons k items =>
      rw [toList_compressItems_cons_cons] at hfuel ⊢
      -- Each item takes a step, for which the comma behind it stands in the bound.
      simp only [List.length_append, List.length_cons] at hfuel
      have hrest := ih (List.cons_ne_nil k items)
        (fun k hk => hitems k (List.mem_cons_of_mem _ hk)) fuel (by omega)
      rw [List.append_assoc, List.cons_append, readItems?,
        hj fuel _ (by omega) (follows_cons (by decide) _)]
      show (readItems? fuel _).map _ = _
      rw [hrest]
      rfl

/-- After an opening bracket, items are read unless it is closed at once. -/
private theorem readValue?_bracket {c : Char} (hblank : isBlank c = false) (hclose : c ≠ ']')
    (fuel : Nat) (cs : List Char) :
    readValue? (fuel + 1) ('[' :: c :: cs) =
      (readItems? fuel (c :: cs)).map fun r => (.array r.1, r.2) := by
  rw [readValue?, skipBlanks_cons (by decide)]
  simp only [skipBlanks_cons hblank]
  split
  · rename_i heq
    cases heq
    exact absurd rfl hclose
  · rfl

private theorem exists_cons_compressItems {j : Json} (h : j.Exact) (items : List Json) :
    ∃ c cs, (compressItems (j :: items)).toList = c :: cs ∧ isBlank c = false ∧ c ≠ ']' := by
  obtain ⟨c, cs, htext, hc⟩ := exists_cons_compress h
  cases items with
  | nil => exact ⟨c, cs, htext, hc⟩
  | cons k items =>
    exact ⟨c, _, by rw [toList_compressItems_cons_cons, htext, List.cons_append], hc⟩

private theorem readable_array {items : List Json} (hexact : ∀ j ∈ items, j.Exact)
    (hitems : ∀ j ∈ items, Readable j) : Readable (.array items) := by
  intro fuel rest hfuel _
  obtain ⟨fuel, rfl⟩ := exists_eq_succ_fuel (.array hexact) hfuel
  rw [toList_compress_array, List.cons_append, List.append_assoc, List.singleton_append]
  cases items with
  | nil => rfl
  | cons j items =>
    simp only [toList_compress_array, List.length_cons, List.length_append] at hfuel
    have hread := readItems?_compressItems (List.cons_ne_nil j items) hitems fuel rest (by omega)
    obtain ⟨c, cs, htext, hblank, hclose⟩ :=
      exists_cons_compressItems (hexact j List.mem_cons_self) items
    rw [htext, List.cons_append] at hread ⊢
    rw [readValue?_bracket hblank hclose, hread, sorted_array]
    rfl

/-! ## Reading objects -/

/-- After a member comes another one or the end of the object. -/
private theorem readMembers?_memberText {m : String × Json} (hm : Readable m.2) {fuel : Nat}
    (hfuel : (memberText m).length ≤ fuel) (rest : List Char) :
    readMembers? (fuel + 1) (memberText m ++ ',' :: rest) =
        (readMembers? fuel rest).map (fun r => ((m.1, m.2.sorted) :: r.1, r.2)) ∧
      readMembers? (fuel + 1) (memberText m ++ '\x7d' :: rest) =
        some ([(m.1, m.2.sorted)], rest) := by
  simp only [memberText, List.length_cons, List.length_append] at hfuel
  have hcomma := hm fuel (',' :: rest) (by omega) (follows_cons (by decide) rest)
  have hclose := hm fuel ('\x7d' :: rest) (by omega) (follows_cons (by decide) rest)
  constructor
  all_goals
    simp only [memberText, List.cons_append, List.append_assoc]
    rw [readMembers?, skipBlanks_cons (by decide)]
    simp only [Quoted.decode_encode]
    rw [skipBlanks_cons (by decide)]
    simp only [hcomma, hclose, String.ofList_toList]
    rfl

private theorem readMembers?_compressMembers {members : List (String × Json)} (hne : members ≠ [])
    (hmembers : ∀ m ∈ members, Readable m.2) (fuel : Nat) (rest : List Char)
    (hfuel : (compressMembers members).toList.length < fuel) :
    readMembers? fuel ((compressMembers members).toList ++ '\x7d' :: rest) =
      some (members.map fun m => (m.1, m.2.sorted), rest) := by
  induction members generalizing fuel with
  | nil => exact absurd rfl hne
  | cons m members ih =>
    obtain ⟨fuel, rfl⟩ : ∃ k, fuel = k + 1 := ⟨fuel - 1, by omega⟩
    have hm := hmembers m List.mem_cons_self
    cases members with
    | nil =>
      rw [toList_compressMembers_singleton] at hfuel ⊢
      exact (readMembers?_memberText hm (by omega) rest).2
    | cons n members =>
      rw [toList_compressMembers_cons_cons] at hfuel ⊢
      -- The first member and its comma use up fuel for themselves only, so enough is left for the rest.
      simp only [List.length_append, List.length_cons] at hfuel
      have hrest := ih (List.cons_ne_nil n members)
        (fun n hn => hmembers n (List.mem_cons_of_mem _ hn)) fuel (by omega)
      rw [List.append_assoc, List.cons_append, (readMembers?_memberText hm (by omega) _).1, hrest]
      rfl

/-- After an opening brace, members are read unless it is closed at once. -/
private theorem readValue?_brace {c : Char} (hblank : isBlank c = false) (hclose : c ≠ '\x7d')
    (fuel : Nat) (cs : List Char) :
    readValue? (fuel + 1) ('\x7b' :: c :: cs) =
      (readMembers? fuel (c :: cs)).map fun r => (ofMembers r.1, r.2) := by
  rw [readValue?, skipBlanks_cons (by decide)]
  simp only [skipBlanks_cons hblank]
  split
  · rename_i heq
    cases heq
    exact absurd rfl hclose
  · rfl

private theorem exists_cons_compressMembers (m : String × Json) (members : List (String × Json)) :
    ∃ cs, (compressMembers (m :: members)).toList = '"' :: cs := by
  cases members with
  | nil => exact ⟨_, toList_compressMembers_singleton m⟩
  | cons n members =>
    exact ⟨_, by rw [toList_compressMembers_cons_cons, memberText, List.cons_append]⟩

private theorem readable_object {members : List (String × Json)} (hexact : ∀ m ∈ members, m.2.Exact)
    (hmembers : ∀ m ∈ members, Readable m.2) : Readable (.object members) := by
  intro fuel rest hfuel _
  obtain ⟨fuel, rfl⟩ := exists_eq_succ_fuel (.object hexact) hfuel
  rw [toList_compress_object, List.cons_append, List.append_assoc, List.singleton_append]
  cases members with
  | nil => rfl
  | cons m members =>
    simp only [toList_compress_object, List.length_cons, List.length_append] at hfuel
    have hread :=
      readMembers?_compressMembers (List.cons_ne_nil m members) hmembers fuel rest (by omega)
    obtain ⟨cs, htext⟩ := exists_cons_compressMembers m members
    rw [htext, List.cons_append] at hread ⊢
    rw [readValue?_brace (by decide) (by decide), hread, sorted_object]
    rfl

/-! ## Whole texts -/

theorem Exact.readable {j : Json} (h : j.Exact) : Readable j := by
  induction h with
  | null => exact readable_constant .null fun _ _ => rfl
  | bool b => exact readable_constant (.bool b) fun _ _ => by cases b <;> rfl
  | natural h => exact readable_nat h
  | string s => exact readable_string s
  | array h ih => exact readable_array h ih
  | object h ih => exact readable_object h ih

/-- A written text is read as the value it was written for. -/
theorem parse?_compress {j : Json} (h : j.Exact) : parse? (compress j) = some j.sorted := by
  have hread := h.readable (2 * (compress j).toList.length + 2) [] (by omega) follows_nil
  rw [List.append_nil] at hread
  rw [parse?, hread]
  rfl

end DeviceRoster.Json
