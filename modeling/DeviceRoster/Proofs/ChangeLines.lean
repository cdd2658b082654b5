import DeviceRoster.Proofs.Rfc3339
import DeviceRoster.Proofs.RoundTrips

/-!
# Lines of changes

A change is written as one line of JSON, and `Change.ofLine?` reads such a line: the JSON as a record,
and its timestamp as RFC 3339.  Whatever the identifier is made of, the line has no line feed, so what
is written to a sink can be split into its lines again.

## Key results

- `splitOn_join`: lines that are free of line feeds are found in their text again
- `Change.exists_line_iff`: which changes can be written
- `Change.ofLine?_line`: a line tells everything about its change
- `Change.ofText?_join`: the lines of a text are those that were written
- `Change.lines_decode`: the changes that are written can be read back
-/

namespace DeviceRoster

/-! ## Lines -/

/-- A text is split at its line feeds into the lines that it was put together from. -/
theorem splitOn_join {lines : List String} (h : ∀ line ∈ lines, '\n' ∉ line.toList) :
    (String.join (lines.map (· ++ "\n"))).toList.splitOn '\n' = lines.map String.toList ++ [[]] := by
  induction lines with
  | nil => rfl
  | cons line lines ih =>
    have hrest := ih fun rest hrest => h rest (List.mem_cons_of_mem _ hrest)
    have htext : (String.join ((line :: lines).map (· ++ "\n"))).toList =
        line.toList ++ '\n' :: (String.join (lines.map (· ++ "\n"))).toList := by
      simp [String.toList_join]
    -- The first line feed is the one that ends the first line, as the line itself has none.
    rw [htext, List.splitOn_append_cons_self_of_not_mem (h line List.mem_cons_self), hrest]
    rfl

namespace Change

/-! ## Reading -/

/-- The fields of a line, with its timestamp as it is written. -/
def fields : Fields (Identifier × ChangeKind × State × String × Unit) :=
  .cons (.required "identifier" Identifier.codec) <|
  .cons (.required "kind" ChangeKind.codec) <|
  .cons (.required "state" State.codec) <|
  .cons (.required "timestamp" (.text "a string")) .nil

/-- Reads a change from its line. -/
def ofLine? (line : String) : Option Change := do
  let j ← Json.parse? line
  let (identifier, kind, state, text, _) ← (Json.decode (fields.codec "ChangeLine") j).toOption
  let timestamp ← Timestamp.ofRfc3339? text
  some ⟨identifier, kind, state, timestamp⟩

/-- Reads changes from a text in which each line ends with a line feed. -/
def ofText? (text : String) : Option (List Change) :=
  let lines := text.toList.splitOn '\n'
  if lines.getLast? = some [] then (lines.dropLast.map String.ofList).mapM ofLine? else none

/-! ## Single lines -/

private theorem faithful_fields : fields.Faithful where
  each := ⟨Field.faithful_required Identifier.faithful _,
    Field.faithful_required ChangeKind.faithful _, Field.faithful_required State.faithful _,
    Field.faithful_required (Codec.faithful_text _) _, trivial⟩
  distinct := by decide

/-- A change is written as the record that is read. -/
theorem toJson_eq (c : Change) (text : String) :
    c.toJson text = (fields.codec "ChangeLine").write (c.identifier, c.kind, c.state, text, ()) := rfl

theorem line_eq_ok_iff {c : Change} {line : String} :
    c.line = .ok line ↔
      ∃ text, c.timestamp.toRfc3339 = .ok text ∧ line = (c.toJson text).compress := by
  rw [Change.line]
  cases c.timestamp.toRfc3339 with
  | ok text => simp [Except.map, eq_comm]
  | error u => simp [Except.map]

theorem exists_line_iff {c : Change} : (∃ line, c.line = .ok line) ↔ c.timestamp.Formattable := by
  constructor
  · rintro ⟨line, hline⟩
    obtain ⟨text, htext, _⟩ := line_eq_ok_iff.1 hline
    exact (Timestamp.toRfc3339_eq_ok_iff.1 htext).1
  · intro hformattable
    have htext := Timestamp.toRfc3339_eq_ok_iff.2 ⟨hformattable, rfl⟩
    exact ⟨_, line_eq_ok_iff.2 ⟨_, htext, rfl⟩⟩

/-- A line has no control character, so no line feed either. -/
theorem ge_space_of_line {c : Change} {line : String} (h : c.line = .ok line) :
    ∀ d ∈ line.toList, 0x20 ≤ d.toNat := by
  obtain ⟨text, _, rfl⟩ := line_eq_ok_iff.1 h
  rw [toJson_eq]
  exact ((faithful_fields.codec _).exact _).ge_space

/-- A line tells everything about its change. -/
theorem ofLine?_line {c : Change} (hnanos : c.timestamp.nanos < 10 ^ 9) {line : String}
    (h : c.line = .ok line) : ofLine? line = some c := by
  obtain ⟨text, htext, rfl⟩ := line_eq_ok_iff.1 h
  have htime := Timestamp.ofRfc3339?_toRfc3339 hnanos htext
  -- The parser orders the members by name, so what it reads need not be the value that was written,
  -- but the record is decoded from either.
  obtain ⟨j, hparse, hread⟩ := (faithful_fields.codec "ChangeLine").parse?_compress
    (c.identifier, c.kind, c.state, text, ())
  rw [toJson_eq]
  simp [ofLine?, hparse, hread, Except.toOption, htime]

/-! ## Texts of many lines -/

/-- The lines of a text are those that were written. -/
theorem ofText?_join {lines : List String} (h : ∀ line ∈ lines, '\n' ∉ line.toList) :
    ofText? (String.join (lines.map (· ++ "\n"))) = lines.mapM ofLine? := by
  rw [ofText?, splitOn_join h]
  simp [Function.comp_def]

/-- Changes that can be written have lines, from which they are read again. -/
private theorem exists_lines {changes : List Change}
    (h : ∀ c ∈ changes, c.timestamp.nanos < 10 ^ 9 ∧ c.timestamp.Formattable) :
    ∃ lines, changes.mapM Change.line = .ok lines ∧ lines.mapM ofLine? = some changes ∧
      ∀ line ∈ lines, '\n' ∉ line.toList := by
  -- All that is said of the lines is proved in one induction, as it is about the same lines.
  induction changes with
  | nil => exact ⟨[], rfl, rfl, by simp⟩
  | cons c changes ih =>
    obtain ⟨hnanos, hformattable⟩ := h c List.mem_cons_self
    obtain ⟨lines, hwrite, hread, hbreaks⟩ := ih fun d hd => h d (List.mem_cons_of_mem _ hd)
    obtain ⟨line, hline⟩ := exists_line_iff.2 hformattable
    refine ⟨line :: lines, ?_, ?_, ?_⟩
    · rw [List.mapM_cons, hline, hwrite]
      rfl
    · rw [List.mapM_cons, ofLine?_line hnanos hline, hread]
      rfl
    · rw [List.forall_mem_cons]
      constructor
      · intro hbreak
        -- A line feed is a control character.
        exact absurd (ge_space_of_line hline _ hbreak) (by decide)
      · exact hbreaks

/-- A change can be written exactly if its local year has four digits and its offset is made of minutes
and less than a day.  Its line is free of control characters and is read as the change, and so is each
line of what is written for many changes. -/
theorem lines_decode :
    (∀ c : Change, (∃ line, c.line = .ok line) ↔ c.timestamp.Formattable) ∧
    (∀ (c : Change) (line : String), c.timestamp.nanos < 10 ^ 9 → c.line = .ok line →
      (∀ d ∈ line.toList, 0x20 ≤ d.toNat) ∧ ofLine? line = some c) ∧
    (∀ changes : List Change,
      (∀ c ∈ changes, c.timestamp.nanos < 10 ^ 9 ∧ c.timestamp.Formattable) →
      ∃ lines, changes.mapM Change.line = .ok lines ∧
        ofText? (String.join (lines.map (· ++ "\n"))) = some changes) := by
  refine ⟨?_, ?_, ?_⟩
  · intro c
    exact exists_line_iff
  · intro c line hnanos hline
    exact ⟨ge_space_of_line hline, ofLine?_line hnanos hline⟩
  · intro changes h
    obtain ⟨lines, hwrite, hread, hbreaks⟩ := exists_lines h
    exact ⟨lines, hwrite, by rw [ofText?_join hbreaks, hread]⟩

/-- A quote, a backslash and a line feed in an identifier, on a leap day half an hour off the full hour. -/
theorem lines_decode_sample :
    let c : Change := ⟨⟨"\"\\\n"⟩, .removed, .booted, ⟨951902999, 120000000, -34200⟩⟩
    let line := "\x7b\"identifier\":\"\\\"\\\\\\n\",\"kind\":\"removed\",\"state\":\"booted\"," ++
      "\"timestamp\":\"2000-02-29T23:59:59.12-09:30\"\x7d"
    c.timestamp.nanos < 10 ^ 9 ∧ c.timestamp.Formattable ∧ c.line = .ok line ∧
      ofLine? line = some c ∧
      ∃ lines, [c, c].mapM Change.line = .ok lines ∧
        ofText? (String.join (lines.map (· ++ "\n"))) = some [c, c] := by
  intro c line
  have hnanos : c.timestamp.nanos < 10 ^ 9 := by decide
  have hline : c.line = .ok line := by decide +kernel
  obtain ⟨hwritten, hread, hall⟩ := lines_decode
  -- The condition need not be evaluated: it is equivalent to there being a line.
  have hformattable : c.timestamp.Formattable := (hwritten c).1 ⟨line, hline⟩
  have htwice : ∀ d ∈ [c, c], d.timestamp.nanos < 10 ^ 9 ∧ d.timestamp.Formattable := by
    intro d hd
    have hd : d = c := by simpa using hd
    rw [hd]
    exact ⟨hnanos, hformattable⟩
  exact ⟨hnanos, hformattable, hline, (hread c line hnanos hline).2, hall [c, c] htwice⟩

end Change

end DeviceRoster
