import Mathlib
import DeviceRoster.Proofs.ChangeLines
import DeviceRoster.Proofs.Maps
import DeviceRoster.Proofs.Tallies
import DeviceRoster.Proofs.WholeNumbers

/-!
# Lines of samples

The text of a hub is made of lines, one for each sample and two comments for each family.
`Sample.ofText?` reads such a text: the comments are left out, and of every other line it takes the name
of the family, the label between its quotes and the value.  A label is written with its quotes, backslashes
and line feeds escaped, so it ends where it should and is read as it was, whatever it is made of.

## Key results

- `Sample.readLabel?_escape`: a label is read up to its closing quote
- `Sample.ofLine?_line`: a line tells everything about its sample
- `MetricsHub.ofText?_text`: the samples of a hub are read from its text
- `MetricsHub.filter_samples`: a label in use has one sample in each family
- `MetricsHub.text_tells_totals`: the text depends on the totals alone and tells them
-/

namespace DeviceRoster

/-- A value that is shown for a label in a family. -/
structure Sample where
  family : String
  label : String
  /-- The value as it is spelled. -/
  value : String
  deriving DecidableEq, Repr

namespace Sample

/-! ## Reading -/

/-- The character that a letter after a backslash stands for. -/
def unescape? (c : Char) : Option Char :=
  if c = '\\' then some '\\'
  else if c = '"' then some '"'
  else if c = 'n' then some '\n'
  else none

/-- Reads a label up to its closing quote and returns it with what follows. -/
def readLabel? : List Char → Option (List Char × List Char)
  | [] => none
  | '"' :: rest => some ([], rest)
  | '\\' :: c :: rest =>
    match unescape? c with
    | none => none
    | some d => (readLabel? rest).map fun r => (d :: r.1, r.2)
  | c :: rest => (readLabel? rest).map fun r => (c :: r.1, r.2)

/-- Reads a sample from its line. -/
def ofLine? (line : String) : Option Sample := do
  let (family, rest) := line.toList.span (· != '\x7b')
  let rest ← rest.dropPrefix? "\x7bcategory=\"".toList
  let (label, rest) ← readLabel? rest
  let value ← rest.dropPrefix? "\x7d ".toList
  some ⟨String.ofList family, String.ofList label, String.ofList value⟩

/-- Reads samples from a text in which each line ends with a line feed.  A line that starts with `#` is a
comment. -/
def ofText? (text : String) : Option (List Sample) :=
  let lines := text.toList.splitOn '\n'
  if lines.getLast? = some [] then
    ((lines.dropLast.map String.ofList).filter fun l => l.toList.head? != some '#').mapM ofLine?
  else none

/-! ## Single lines -/

/-- What is written for one character of a label is read as that character. -/
theorem readLabel?_escape (c : Char) (rest : List Char) :
    readLabel? (MetricsHub.escape c ++ rest) = (readLabel? rest).map fun r => (c :: r.1, r.2) := by
  unfold MetricsHub.escape
  -- The three escapes are read by their letters.
  iterate 3
    split
    · rename_i h
      subst h
      rfl
  rename_i hbackslash hquote _
  rw [List.singleton_append, readLabel?]
  all_goals simp_all

/-- A label is read up to its closing quote, and what follows stays. -/
theorem readLabel?_quoted (label rest : List Char) :
    readLabel? (label.flatMap MetricsHub.escape ++ '"' :: rest) = some (label, rest) := by
  induction label with
  | nil => rw [List.flatMap_nil, List.nil_append, readLabel?]
  | cons c label ih => rw [List.flatMap_cons, List.append_assoc, readLabel?_escape, ih, Option.map_some]

/-- No line feed is left of a label. -/
theorem newline_not_mem_quote (label : String) : '\n' ∉ (MetricsHub.quote label).toList := by
  have hescape (c : Char) : '\n' ∉ MetricsHub.escape c := by
    unfold MetricsHub.escape
    split_ifs with hbackslash hquote hnewline
    iterate 3 decide
    simpa using Ne.symm hnewline
  simp [MetricsHub.quote, hescape]

/-- The line of a sample. -/
def line (s : Sample) : String :=
  s.family ++ "\x7bcategory=" ++ MetricsHub.quote s.label ++ "\x7d " ++ s.value

/-- A family whose name can stand in front of a label, and a value on one line. -/
structure Writable (s : Sample) : Prop where
  brace : '\x7b' ∉ s.family.toList
  comment : s.family.toList.head? ≠ some '#'
  family : '\n' ∉ s.family.toList
  value : '\n' ∉ s.value.toList

theorem toList_line (s : Sample) :
    s.line.toList = s.family.toList ++ ("\x7bcategory=\"".toList ++
      (s.label.toList.flatMap MetricsHub.escape ++ '"' :: ("\x7d ".toList ++ s.value.toList))) := by
  simp [line, MetricsHub.quote]

/-- A line tells everything about its sample. -/
theorem ofLine?_line {s : Sample} (h : '\x7b' ∉ s.family.toList) : ofLine? s.line = some s := by
  have hname : ∀ c ∈ s.family.toList, (c != '\x7b') = true := by
    intro c hc
    rw [bne_iff_ne]
    rintro rfl
    exact h hc
  -- The name ends at the first brace, whatever the label is made of.
  have hspan (rest : List Char) : (s.family.toList ++ ("\x7bcategory=\"".toList ++ rest)).span
      (· != '\x7b') = (s.family.toList, "\x7bcategory=\"".toList ++ rest) := by
    rw [List.span_eq_takeWhile_dropWhile, List.takeWhile_append_of_pos hname,
      List.dropWhile_append_of_pos hname]
    simp
  have hprefix (word rest : List Char) : (word ++ rest).dropPrefix? word = some rest :=
    List.dropPrefix?_append_of_beq rest (beq_self_eq_true word)
  simp only [ofLine?, toList_line, hspan, hprefix, readLabel?_quoted, Option.bind_eq_bind,
    Option.bind_some, String.ofList_toList]

theorem Writable.newline_not_mem {s : Sample} (h : s.Writable) : '\n' ∉ s.line.toList := by
  have hlabel := newline_not_mem_quote s.label
  simp [line, h.family, h.value, hlabel]

/-- The line of a sample is no comment. -/
theorem Writable.head?_line {s : Sample} (h : s.Writable) : s.line.toList.head? ≠ some '#' := by
  rw [toList_line, List.head?_append]
  -- Without a name the line would start with a brace.
  cases hfirst : s.family.toList.head? with
  | none => simp
  | some c =>
    rw [Option.some_or, ← hfirst]
    exact h.comment

/-! ## Texts of many lines -/

/-- Of the lines of a text those that are no comments are read. -/
theorem ofText?_join {lines : List String} (h : ∀ l ∈ lines, '\n' ∉ l.toList) :
    ofText? (String.join (lines.map (· ++ "\n"))) =
      (lines.filter fun l => l.toList.head? != some '#').mapM ofLine? := by
  rw [ofText?, splitOn_join h]
  simp [Function.comp_def]

theorem mapM_ofLine?_lines {samples : List Sample} (h : ∀ s ∈ samples, '\x7b' ∉ s.family.toList) :
    (samples.map line).mapM ofLine? = some samples := by
  induction samples with
  | nil => rfl
  | cons s samples ih =>
    obtain ⟨hfirst, hrest⟩ := List.forall_mem_cons.1 h
    rw [List.map_cons, List.mapM_cons, ofLine?_line hfirst, ih hrest]
    rfl

end Sample

namespace MetricsHub

/-! ## The text of a hub -/

/-- The sample of a family for a label. -/
def Family.sampleOf (f : Family) (label : String) (t : Tally) : Sample :=
  ⟨f.name, label, (Binary64.ofInt (f.sample t)).positional⟩

/-- The samples of a family. -/
def Family.samples (f : Family) (h : MetricsHub) : List Sample :=
  h.tallies.entries.map fun e => f.sampleOf e.1 e.2

/-- The samples that the text of a hub shows. -/
def samples (h : MetricsHub) : List Sample := families.flatMap fun f => f.samples h

/-- The comments in front of the samples of a family. -/
def Family.comments (f : Family) : List String :=
  ["# HELP " ++ f.name ++ " " ++ f.help, "# TYPE " ++ f.name ++ " " ++ f.type]

/-- The lines of a family, if it has samples. -/
def Family.lines (f : Family) (h : MetricsHub) : List String :=
  if (f.samples h).isEmpty then [] else f.comments ++ (f.samples h).map Sample.line

/-- The lines of the text of a hub. -/
def lines (h : MetricsHub) : List String := families.flatMap fun f => f.lines h

theorem Family.text_eq_join (f : Family) (h : MetricsHub) :
    f.text h = String.join ((f.lines h).map (· ++ "\n")) := by
  have hcolumn : (f.column h).map (fun e => f.line e.1 e.2) =
      ((f.samples h).map Sample.line).map (· ++ "\n") := by
    rw [f.column_eq, Family.samples, List.map_map, List.map_map, List.map_map]
    rfl
  have hempty : (f.column h).isEmpty = (f.samples h).isEmpty := by
    rw [f.column_eq, Family.samples, List.isEmpty_map, List.isEmpty_map]
  unfold Family.text Family.lines
  rw [hcolumn, hempty]
  split
  · rfl
  · -- The line feed that ends the first comment stands at the front of what begins the second.
    have hsplit : "\n# TYPE " = "\n" ++ "# TYPE " := rfl
    simp only [hsplit, Family.comments, List.cons_append, List.nil_append, List.map_cons,
      String.join_cons, String.append_assoc]

theorem text_eq_join (h : MetricsHub) : h.text = String.join (h.lines.map (· ++ "\n")) := by
  rw [← String.toList_inj]
  simp [text, lines, Family.text_eq_join, String.toList_join, List.map_flatMap, List.flatMap_assoc,
    List.flatMap_map]

/-- The names of the families can stand in front of a label, and comments are told from samples. -/
theorem families_sound : ∀ f ∈ families, '\x7b' ∉ f.name.toList ∧ f.name.toList.head? ≠ some '#' ∧
    '\n' ∉ f.name.toList ∧ ∀ c ∈ f.comments, '\n' ∉ c.toList ∧ c.toList.head? = some '#' := by
  simp [families, Family.comments]

theorem writable_of_mem_samples {h : MetricsHub} {s : Sample} (hs : s ∈ h.samples) : s.Writable := by
  obtain ⟨f, hf, hmem⟩ := List.mem_flatMap.1 hs
  obtain ⟨e, _, rfl⟩ := List.mem_map.1 hmem
  obtain ⟨hbrace, hcomment, hfamily, -⟩ := families_sound f hf
  exact ⟨hbrace, hcomment, hfamily, Binary64.newline_not_mem_positional _⟩

theorem newline_not_mem_lines {h : MetricsHub} {l : String} (hl : l ∈ h.lines) : '\n' ∉ l.toList := by
  obtain ⟨f, hf, hmem⟩ := List.mem_flatMap.1 hl
  unfold Family.lines at hmem
  split at hmem
  · exact absurd hmem List.not_mem_nil
  · rcases List.mem_append.1 hmem with hcomment | hsample
    · exact ((families_sound f hf).2.2.2 l hcomment).1
    · obtain ⟨s, hs, rfl⟩ := List.mem_map.1 hsample
      exact (writable_of_mem_samples (List.mem_flatMap.2 ⟨f, hf, hs⟩)).newline_not_mem

/-- Of the lines of a hub those of its samples are no comments. -/
theorem filter_lines (h : MetricsHub) :
    h.lines.filter (fun l => l.toList.head? != some '#') = h.samples.map Sample.line := by
  unfold lines samples
  rw [List.filter_flatMap, List.map_flatMap]
  refine List.flatMap_congr fun f hf => ?_
  unfold Family.lines
  -- A family without samples has no comments either.
  split
  · rename_i hempty
    rw [List.isEmpty_iff.1 hempty]
    rfl
  · have hcomments : f.comments.filter (fun l => l.toList.head? != some '#') = [] := by
      rw [List.filter_eq_nil_iff]
      intro l hl
      simp [((families_sound f hf).2.2.2 l hl).2]
    have hsamples : ((f.samples h).map Sample.line).filter (fun l => l.toList.head? != some '#') =
        (f.samples h).map Sample.line := by
      rw [List.filter_eq_self]
      intro l hl
      obtain ⟨s, hs, rfl⟩ := List.mem_map.1 hl
      exact bne_iff_ne.2 (writable_of_mem_samples (List.mem_flatMap.2 ⟨f, hf, hs⟩)).head?_line
    rw [List.filter_append, hcomments, hsamples, List.nil_append]

/-- The samples of a hub are read from its text. -/
theorem ofText?_text (h : MetricsHub) : Sample.ofText? h.text = some h.samples := by
  rw [text_eq_join, Sample.ofText?_join fun _ hl => newline_not_mem_lines hl, filter_lines]
  exact Sample.mapM_ofLine?_lines fun s hs => (writable_of_mem_samples hs).brace

/-! ## The samples of one label -/

/-- Just one of the samples of a family has a label, if the label is in use. -/
private theorem Family.filter_samples (f : Family) (h : MetricsHub) (label : String) :
    (f.samples h).filter (fun s => s.label == label) =
      ((h.tallies.get? label).map (f.sampleOf label)).toList := by
  have hlabel (e : String × Tally) : (e.1 == label) = (compare label e.1 == .eq) := by
    rw [Bool.eq_iff_iff, beq_iff_eq, beq_iff_eq, Std.LawfulEqOrd.compare_eq_iff_eq, eq_comm]
  have hentries : h.tallies.entries.filter (fun e => e.1 == label) =
      ((h.tallies.get? label).map fun t => (label, t)).toList := by
    rw [← SortedMap.filter_entries]
    exact List.filter_congr fun e _ => hlabel e
  have hcomp : (fun s : Sample => s.label == label) ∘ (fun e : String × Tally => f.sampleOf e.1 e.2) =
      fun e => e.1 == label := rfl
  rw [Family.samples, List.filter_map, hcomp, hentries]
  cases h.tallies.get? label with
  | none => rfl
  | some t => rfl

theorem Family.family_of_mem_samples {f : Family} {h : MetricsHub} {s : Sample} (hs : s ∈ f.samples h) :
    s.family = f.name := by
  obtain ⟨e, _, rfl⟩ := List.mem_map.1 hs
  rfl

/-- The samples of one family among all. -/
private theorem filter_family (h : MetricsHub) {f : Family} (hf : f ∈ families) :
    h.samples.filter (fun s => s.family == f.name) = f.samples h := by
  have hsamples (g : Family) : (g.samples h).filter (fun s => s.family == f.name) =
      if g.name = f.name then g.samples h else [] := by
    split
    · rename_i heq
      rw [List.filter_eq_self]
      intro s hs
      rw [Family.family_of_mem_samples hs]
      exact beq_iff_eq.2 heq
    · rename_i hne
      rw [List.filter_eq_nil_iff]
      intro s hs
      rw [Family.family_of_mem_samples hs]
      exact fun heq => hne (beq_iff_eq.1 heq)
  simp only [samples, List.filter_flatMap, hsamples]
  -- The names of the families are distinct.
  simp only [families, List.mem_cons, List.not_mem_nil, or_false] at hf
  rcases hf with rfl | rfl | rfl
  all_goals simp [families]

/-- A label in use has one sample in each family, and no other label has one. -/
theorem filter_samples (h : MetricsHub) {f : Family} (hf : f ∈ families) (label : String) :
    h.samples.filter (fun s => s.family == f.name && s.label == label) =
      ((h.tallies.get? label).map (f.sampleOf label)).toList := by
  rw [← f.filter_samples, ← filter_family h hf, List.filter_filter]
  exact List.filter_congr fun s _ => Bool.and_comm _ _

theorem of_mem_samples {h : MetricsHub} {s : Sample} (hs : s ∈ h.samples) :
    s.family ∈ families.map Family.name ∧ (h.tallies.get? s.label).isSome := by
  obtain ⟨f, hf, hmem⟩ := List.mem_flatMap.1 hs
  obtain ⟨⟨label, t⟩, he, rfl⟩ := List.mem_map.1 hmem
  have hget : h.tallies.get? label = some t := SortedMap.mem_entries_iff_get?.1 he
  exact ⟨List.mem_map_of_mem hf, Option.isSome_of_eq_some hget⟩

/-! ## What the text tells -/

/-- In a family a label has just one sample, which spells `n` unless `n` lies beyond `2 ^ 53`. -/
def Shows (samples : List Sample) (family label : String) (n : Int) : Prop :=
  ∃ s, samples.filter (fun s => s.family == family && s.label == label) = [s] ∧
    (n.natAbs ≤ 2 ^ 53 → s.value.toInt? = some n)

theorem toInt?_positional {n : Int} (h : n.natAbs ≤ 2 ^ 53) :
    (Binary64.ofInt n).positional.toInt? = some n := by
  rw [Binary64.positional_ofInt h]
  exact Int.toInt?_repr n

theorem shows_samples {h : MetricsHub} {label : String} {t : Tally}
    (hget : h.tallies.get? label = some t) :
    ∀ f ∈ families, Shows h.samples f.name label (f.sample t) := by
  intro f hf
  refine ⟨f.sampleOf label t, ?_, toInt?_positional⟩
  rw [filter_samples h hf, hget]
  rfl

/-- Hubs with the same text show the same samples. -/
theorem samples_eq_of_text_eq {h h' : MetricsHub} (heq : h.text = h'.text) : h.samples = h'.samples := by
  have hread := ofText?_text h
  rw [heq, ofText?_text h'] at hread
  exact (Option.some.inj hread).symm

theorem isSome_of_text_eq {h h' : MetricsHub} (heq : h.text = h'.text) (label : String) :
    (h.tallies.get? label).isSome = (h'.tallies.get? label).isSome := by
  -- Any one of the families tells which labels are in use.
  obtain ⟨f, hf⟩ : ∃ f, f ∈ families := ⟨_, List.mem_cons_self⟩
  have hfilter := filter_samples h hf label
  rw [samples_eq_of_text_eq heq, filter_samples h' hf label] at hfilter
  have hshown := congrArg (·.head?.isSome) hfilter
  simp only [Option.head?_toList, Option.isSome_map] at hshown
  exact hshown.symm

/-- Hubs with the same text have the same values, as far as these do not lie beyond `2 ^ 53`. -/
theorem sample_eq_of_text_eq {h h' : MetricsHub} (heq : h.text = h'.text) {label : String} {t t' : Tally}
    (hget : h.tallies.get? label = some t) (hget' : h'.tallies.get? label = some t') :
    ∀ f ∈ families, (f.sample t).natAbs ≤ 2 ^ 53 → (f.sample t').natAbs ≤ 2 ^ 53 →
      f.sample t = f.sample t' := by
  intro f hf hbound hbound'
  obtain ⟨s, hs, hvalue⟩ := shows_samples hget f hf
  obtain ⟨s', hs', hvalue'⟩ := shows_samples hget' f hf
  rw [samples_eq_of_text_eq heq, hs'] at hs
  obtain rfl : s' = s := List.cons.inj hs |>.1
  exact Option.some.inj ((hvalue hbound).symm.trans (hvalue' hbound'))

/-- Equal as far as the numbers are not greater than a bound. -/
structure AgreeUpTo (bound : Nat) (t t' : Tally) : Prop where
  received : t.received ≤ bound → t'.received ≤ bound → t.received = t'.received
  dropped : t.dropped ≤ bound → t'.dropped ≤ bound → t.dropped = t'.dropped
  tracked : t.tracked.natAbs ≤ bound → t'.tracked.natAbs ≤ bound → t.tracked = t'.tracked

theorem wrapped_of_le {n : Nat} (h : n ≤ 2 ^ 53) : wrapped n = n := by
  have hsize : UInt64.size = 2 ^ 64 := rfl
  rw [wrapped, Nat.mod_eq_of_lt (by omega)]

theorem agreeUpTo_of_text_eq {h h' : MetricsHub} (heq : h.text = h'.text) {label : String}
    {t t' : Tally} (hget : h.tallies.get? label = some t) (hget' : h'.tallies.get? label = some t') :
    AgreeUpTo (2 ^ 53) t t' := by
  have hsample := sample_eq_of_text_eq heq hget hget'
  simp only [families, List.forall_mem_cons] at hsample
  obtain ⟨hdropped, hreceived, htracked, -⟩ := hsample
  refine ⟨?_, ?_, htracked⟩
  -- Sums as small as these are not wrapped.
  · intro hbound hbound'
    rw [wrapped_of_le hbound, wrapped_of_le hbound'] at hreceived
    exact Int.ofNat.inj (hreceived hbound hbound')
  · intro hbound hbound'
    rw [wrapped_of_le hbound, wrapped_of_le hbound'] at hdropped
    exact Int.ofNat.inj (hdropped hbound hbound')

/-- The text of a hub depends on the labels that were posted under and on their totals alone.  Each of these
labels has one sample in each family, no other label has any, and every value up to `2 ^ 53` is read back.
So texts differ where the labels differ, and where such values do. -/
theorem text_tells_totals :
    (∀ ps qs : List (String × Posting),
      (∀ label, label ∈ Posting.labels ps ↔ label ∈ Posting.labels qs) →
      (∀ label ∈ Posting.labels ps, Posting.total label ps = Posting.total label qs) →
      (posted ps).text = (posted qs).text) ∧
    (∀ ps : List (String × Posting), ∃ samples, Sample.ofText? (posted ps).text = some samples ∧
      (∀ s ∈ samples, s.label ∈ Posting.labels ps ∧
        s.family ∈ ["companion_device_events_dropped", "companion_device_events_received",
          "companion_devices_tracked"]) ∧
      ∀ label ∈ Posting.labels ps,
        Shows samples "companion_device_events_received" label
          (wrapped (Posting.total label ps).received) ∧
        Shows samples "companion_device_events_dropped" label
          (wrapped (Posting.total label ps).dropped) ∧
        Shows samples "companion_devices_tracked" label (Posting.total label ps).tracked) ∧
    (∀ ps qs : List (String × Posting), (posted ps).text = (posted qs).text →
      (∀ label, label ∈ Posting.labels ps ↔ label ∈ Posting.labels qs) ∧
      ∀ label ∈ Posting.labels ps,
        AgreeUpTo (2 ^ 53) (Posting.total label ps) (Posting.total label qs)) := by
  -- The hub is a function of labels and totals, its text is a function of the hub, and reading takes the
  -- text back.
  refine ⟨?_, ?_, ?_⟩
  · intro ps qs hlabels htotals
    rw [posted_congr hlabels htotals]
  · intro ps
    refine ⟨(posted ps).samples, ofText?_text _, ?_, ?_⟩
    · intro s hs
      obtain ⟨hfamily, hused⟩ := of_mem_samples hs
      exact ⟨(isSome_get?_posted ps s.label).1 hused, hfamily⟩
    · intro label hlabel
      have hshows := shows_samples ((get?_posted _ _).trans (if_pos hlabel))
      simp only [families, List.forall_mem_cons] at hshows
      obtain ⟨hdropped, hreceived, htracked, -⟩ := hshows
      exact ⟨hreceived, hdropped, htracked⟩
  · intro ps qs heq
    have hlabels (label : String) : label ∈ Posting.labels ps ↔ label ∈ Posting.labels qs := by
      rw [← isSome_get?_posted, ← isSome_get?_posted, isSome_of_text_eq heq]
    refine ⟨hlabels, ?_⟩
    intro label hlabel
    exact agreeUpTo_of_text_eq heq ((get?_posted _ _).trans (if_pos hlabel))
      ((get?_posted _ _).trans (if_pos ((hlabels label).1 hlabel)))

/-- A label that ends as a line does and goes on as the next one would. -/
theorem text_tells_totals_sample :
    let forged := "\"\x7d 1\ncompanion_devices_tracked\x7bcategory=\"a"
    let ps := [("a", Posting.receive 2), (forged, .track (-7)), ("a", .drop 1), ("a", .receive 1),
      (forged, .touch)]
    let qs := [(forged, Posting.track 5), ("a", .receive 3), (forged, .track (-7)), ("a", .drop 1)]
    (∀ label, label ∈ Posting.labels ps ↔ label ∈ Posting.labels qs) ∧
      (∀ label ∈ Posting.labels ps, Posting.total label ps = Posting.total label qs) ∧
      (posted ps).text = (posted qs).text ∧
      (∃ samples s, Sample.ofText? (posted ps).text = some samples ∧
        samples.filter (fun s => s.family == "companion_devices_tracked" && s.label == forged) = [s] ∧
        s.value.toInt? = some (-7)) ∧
      "a" ∈ Posting.labels ps ∧ (Posting.total "a" ps).received = (Posting.total "a" qs).received := by
  intro forged ps qs
  obtain ⟨hdecides, hreads, htells⟩ := text_tells_totals
  have hlabels (label : String) : label ∈ Posting.labels ps ↔ label ∈ Posting.labels qs := by
    simp only [ps, qs, Posting.labels, List.map_cons, List.map_nil, List.mem_cons, List.not_mem_nil]
    tauto
  have htotals : ∀ label ∈ Posting.labels ps, Posting.total label ps = Posting.total label qs := by
    decide +kernel
  have htext := hdecides ps qs hlabels htotals
  have hforged : forged ∈ Posting.labels ps := by decide +kernel
  have ha : "a" ∈ Posting.labels ps := by decide +kernel
  have htracked : (Posting.total forged ps).tracked = -7 := by decide +kernel
  have hreceived : (Posting.total "a" ps).received ≤ 2 ^ 53 ∧
      (Posting.total "a" qs).received ≤ 2 ^ 53 := by decide +kernel
  obtain ⟨samples, hread, -, hshows⟩ := hreads ps
  obtain ⟨-, -, s, hs, hvalue⟩ := hshows forged hforged
  rw [htracked] at hvalue
  obtain ⟨-, hagree⟩ := htells ps qs htext
  exact ⟨hlabels, htotals, htext, ⟨samples, s, hread, hs, hvalue (by decide)⟩, ha,
    (hagree "a" ha).received hreceived.1 hreceived.2⟩

end MetricsHub

end DeviceRoster
