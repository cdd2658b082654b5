import DeviceRoster.Codec.OfJson
import DeviceRoster.Proofs.JsonText
import DeviceRoster.Proofs.Maps
import Mathlib.Data.List.Nodup

/-!
# Faithful codecs

A codec is faithful if what it writes is read as what was written, both from the value and from the
text of the value.  The composite codecs are faithful if their parts are.  A record that is given as
an object is decided by the values that the object has at the names of its fields.

## Key results

- `Codec.Faithful.parse?_compress`: a faithful codec reads the text that it writes
- `Codec.faithful_text`, `faithful_natural`, `faithful_choice`: the codecs of the basic types
- `Codec.Faithful.optional`, `list`, `map`: those of the composite types
- `Fields.decode_object_iff`: what an object is read as
- `Fields.Faithful.codec`: the codec of a record
-/

namespace DeviceRoster

namespace Codec

variable {α β : Type} {c : Codec α}

/-- Whether what is written is read as what was written, also from its text. -/
structure Faithful (c : Codec α) : Prop where
  exact (a : α) : (c.write a).Exact
  decode_write (a : α) : Json.decode c (c.write a) = .ok a
  decode_sorted (a : α) : Json.decode c (c.write a).sorted = .ok a

/-- What is written as text is read from the text. -/
theorem Faithful.parse?_compress (h : c.Faithful) (a : α) :
    ∃ j, Json.parse? (c.write a).compress = some j ∧ Json.decode c j = .ok a :=
  ⟨_, Json.parse?_compress (h.exact a), h.decode_sorted a⟩

/-- A codec that writes nothing which sorting changes needs to be checked only once. -/
theorem faithful_of_sorted_eq (hexact : ∀ a, (c.write a).Exact)
    (hsorted : ∀ a, (c.write a).sorted = c.write a)
    (hread : ∀ a, Json.decode c (c.write a) = .ok a) : c.Faithful where
  exact := hexact
  decode_write := hread
  decode_sorted a := by rw [hsorted, hread]

/-! ## Basic types -/

theorem faithful_text (expected : String) : (text expected).Faithful :=
  faithful_of_sorted_eq .string (fun _ => rfl) (fun _ => rfl)

theorem faithful_natural (expected : String) {size : Nat} (hsize : size ≤ UInt64.size) :
    (natural expected size).Faithful := by
  apply faithful_of_sorted_eq
  · intro n
    exact .natural (by omega)
  · intro n
    rfl
  · intro n
    show (if h : n.val < size then (.ok ⟨n.val, h⟩ : Decoded (Fin size)) else _) = _
    rw [dif_pos n.isLt]

/-- A value is found by its name if all values have names of their own. -/
theorem faithful_choice {variants : List α} {name : α → String} (hmem : ∀ a, a ∈ variants)
    (hnames : (variants.map name).Nodup) : (choice variants name).Faithful := by
  have hfind : ∀ a, variants.find? (fun b => name b == name a) = some a := by
    intro a
    cases hb : variants.find? (fun b => name b == name a) with
    | none => exact absurd (List.find?_eq_none.1 hb a (hmem a)) (by simp)
    -- What is found has the same name, and no two values have.
    | some b =>
      have hab : name b = name a := by simpa using List.find?_some hb
      rw [List.inj_on_of_nodup_map hnames (hmem b) (hmem a) hab]
  apply faithful_of_sorted_eq
  · intro a
    exact .string (name a)
  · intro a
    rfl
  · intro a
    simp [choice, Json.decode, Json.source, Json.asVariant, Decoded.locate, hfind, bind, Except.bind,
      pure, Except.pure]

/-! ## Composite types -/

/-- Whether nothing is written as null, so that null can stand for what is absent. -/
def Shows (c : Codec α) : Prop := ∀ a, c.write a ≠ .null

theorem decode_optional {j : Json} (h : j ≠ .null) :
    Json.decode c.optional j = some <$> Json.decode c j := by
  cases j with
  | null => exact absurd rfl h
  | _ => rfl

theorem Faithful.optional (h : c.Faithful) (hshows : c.Shows) : c.optional.Faithful where
  exact a := by
    cases a with
    | none => exact .null
    | some a => exact h.exact a
  decode_write a := by
    cases a with
    | none => rfl
    | some a =>
      show Json.decode c.optional (c.write a) = _
      -- Nothing is written as null, so it is read by the codec itself.
      rw [decode_optional (hshows a), h.decode_write]
      rfl
  decode_sorted a := by
    cases a with
    | none => rfl
    | some a =>
      show Json.decode c.optional (c.write a).sorted = _
      rw [decode_optional (Json.sorted_ne_null (hshows a)), h.decode_sorted]
      rfl

theorem shows_text (expected : String) : (text expected).Shows := by
  intro s h
  cases h

theorem faithful_optionalText (expected : String) : (text expected).optional.Faithful :=
  (faithful_text expected).optional (shows_text expected)

private theorem mapM_map_ok {f : α → Json} {g : Json → Decoded α} {as : List α}
    (h : ∀ a ∈ as, g (f a) = .ok a) : (as.map f).mapM g = .ok as := by
  induction as with
  | nil => rfl
  | cons a as ih =>
    have hrest := ih fun b hb => h b (List.mem_cons_of_mem _ hb)
    rw [List.map_cons, List.mapM_cons, h a List.mem_cons_self, hrest]
    rfl

theorem Faithful.list (h : c.Faithful) : c.list.Faithful where
  exact as := by
    apply Json.Exact.array
    intro j hj
    obtain ⟨a, _, rfl⟩ := List.mem_map.1 hj
    exact h.exact a
  decode_write as := mapM_map_ok fun a _ => h.decode_write a
  decode_sorted as := by
    show Json.decode c.list (Json.array (as.map c.write)).sorted = _
    rw [Json.sorted_array, List.map_map]
    exact mapM_map_ok fun a _ => h.decode_sorted a

theorem Faithful.map (h : c.Faithful) {make : α → β} {parts : β → α}
    (hmake : ∀ b, make (parts b) = b) : (c.map make parts).Faithful where
  exact b := h.exact (parts b)
  decode_write b := by
    show make <$> Json.decode c (c.write (parts b)) = _
    rw [h.decode_write]
    exact congrArg _ (hmake b)
  decode_sorted b := by
    show make <$> Json.decode c (c.write (parts b)).sorted = _
    rw [h.decode_sorted]
    exact congrArg _ (hmake b)

end Codec

/-! ## The values of an object -/

namespace Json

/-- The values that members have at a name, in their order. -/
def valuesAt (members : List (String × Json)) (name : String) : List Json :=
  (members.filter (·.1 == name)).map (·.2)

theorem valuesAt_cons_self (name : String) (j : Json) (members : List (String × Json)) :
    valuesAt ((name, j) :: members) name = j :: valuesAt members name := by
  simp [valuesAt]

theorem valuesAt_cons_of_ne {k name : String} (h : k ≠ name) (j : Json)
    (members : List (String × Json)) :
    valuesAt ((k, j) :: members) name = valuesAt members name := by
  simp [valuesAt, h]

theorem valuesAt_append (front back : List (String × Json)) (name : String) :
    valuesAt (front ++ back) name = valuesAt front name ++ valuesAt back name := by
  simp [valuesAt]

theorem valuesAt_map (g : Json → Json) (members : List (String × Json)) (name : String) :
    valuesAt (members.map fun m => (m.1, g m.2)) name = (valuesAt members name).map g := by
  simp [valuesAt, List.filter_map, Function.comp_def]

theorem valuesAt_eq_nil {members : List (String × Json)} {name : String} :
    valuesAt members name = [] ↔ name ∉ members.map (·.1) := by
  simp only [valuesAt, List.map_eq_nil_iff, List.filter_eq_nil_iff, beq_iff_eq, List.mem_map,
    not_exists, not_and]

/-- The entries of a map at a name. -/
private theorem valuesAt_entries (m : SortedMap String Json) (name : String) :
    valuesAt m.entries name = (m.get? name).toList := by
  have hname : ∀ e ∈ m.entries, (e.1 == name) = (compare name e.1 == .eq) := by
    intro e _
    rw [Bool.eq_iff_iff, beq_iff_eq, beq_iff_eq, Std.LawfulEqOrd.compare_eq_iff_eq, eq_comm]
  rw [valuesAt, List.filter_congr hname, SortedMap.filter_entries]
  cases m.get? name <;> rfl

private theorem get?_insertAll (members : List (String × Json)) (m : SortedMap String Json)
    (name : String) :
    (members.foldl (fun m e => m.insert e.1 e.2) m).get? name =
      ((valuesAt members name).getLast?).or (m.get? name) := by
  induction members generalizing m with
  | nil => rfl
  | cons e members ih =>
    obtain ⟨k, j⟩ := e
    rw [List.foldl_cons, ih, SortedMap.get?_insert]
    by_cases hk : name = k
    · subst hk
      rw [if_pos (by simp), valuesAt_cons_self, List.getLast?_cons]
      cases (valuesAt members name).getLast? <;> rfl
    · rw [if_neg (by simpa using hk), valuesAt_cons_of_ne (Ne.symm hk)]

/-- Of the values at a name, an object that is read from a text has the last one. -/
theorem valuesAt_ofList (members : List (String × Json)) (name : String) :
    valuesAt (SortedMap.ofList members).entries name =
      ((valuesAt members name).getLast?).toList := by
  rw [valuesAt_entries, SortedMap.ofList, get?_insertAll, SortedMap.get?_empty, Option.or_none]

end Json

/-! ## Records that are given as objects -/

/-- What a field is read as from the values that are given for it. -/
def Field.Takes {α : Type} (f : Field α) : List Json → α → Prop
  | [], a => f.absent = some a
  | [j], a => Json.decode f.codec j = .ok a
  | _, _ => False

namespace Fields

/-- What the fields are read as from the values that are given for each name. -/
def Takes (given : String → List Json) : {γ : Type} → Fields γ → γ → Prop
  | _, .nil, _ => True
  | _, .cons f rest, (a, b) => f.Takes (given f.name) a ∧ rest.Takes given b

/-- Whether every field has a property. -/
def Each (P : {α : Type} → Field α → Prop) : {γ : Type} → Fields γ → Prop
  | _, .nil => True
  | _, .cons f rest => P f ∧ rest.Each P

variable {γ : Type} {fields : Fields γ} {given : String → List Json} {a : γ}

/-- What is taken depends only on what each field takes. -/
theorem takes_iff {given' : String → List Json}
    (h : fields.Each fun f => ∀ a, f.Takes (given f.name) a ↔ f.Takes (given' f.name) a) :
    fields.Takes given a ↔ fields.Takes given' a := by
  induction fields with
  | nil => rfl
  | cons f rest ih =>
    obtain ⟨a, b⟩ := a
    obtain ⟨hfield, hrest⟩ := h
    rw [Takes, Takes, hfield, ih hrest]

private theorem each_takes_congr {given' : String → List Json}
    (h : ∀ name ∈ fields.names, given name = given' name) :
    fields.Each fun f => ∀ a, f.Takes (given f.name) a ↔ f.Takes (given' f.name) a := by
  induction fields with
  | nil => trivial
  | cons f rest ih =>
    constructor
    · intro a
      rw [h f.name List.mem_cons_self]
    · exact ih fun name hname => h name (List.mem_cons_of_mem _ hname)

/-- Only the values at the names of the fields matter. -/
theorem takes_congr {given' : String → List Json}
    (h : ∀ name ∈ fields.names, given name = given' name) :
    fields.Takes given a ↔ fields.Takes given' a :=
  takes_iff (each_takes_congr h)

/-- No field takes two values. -/
theorem length_of_takes (h : fields.Takes given a) :
    ∀ name ∈ fields.names, (given name).length ≤ 1 := by
  induction fields with
  | nil => simp [names]
  | cons f rest ih =>
    obtain ⟨a, b⟩ := a
    obtain ⟨hfield, hrest⟩ := h
    intro name hname
    obtain rfl | hname := List.mem_cons.1 hname
    · unfold Field.Takes at hfield
      split at hfield <;> simp_all
    · exact ih hrest name hname

/-- What is taken passes the check of its field. -/
theorem check_of_takes (h : fields.Takes given a) {name : String} {j : Json}
    (hgiven : given name = [j]) : fields.check Json.source name j = .ok () := by
  induction fields with
  | nil => rfl
  | cons f rest ih =>
    obtain ⟨a, b⟩ := a
    obtain ⟨hfield, hrest⟩ := h
    rw [check]
    split
    · rename_i hname
      obtain rfl := beq_iff_eq.1 hname
      rw [hgiven] at hfield
      -- The value that was taken is the only one that was given.
      have hread : f.codec.read Json.source j = .ok a := hfield
      rw [hread]
      rfl
    · exact ih hrest

/-- Assembling the fields reads each from what is found for it. -/
theorem assemble_eq_ok_iff {find : String → Option Json} :
    fields.assemble Json.source find = .ok a ↔ fields.Takes (fun name => (find name).toList) a := by
  induction fields with
  | nil => simp [assemble, Takes]
  | cons f rest ih =>
    obtain ⟨a, b⟩ := a
    rw [assemble, Takes, ← ih]
    cases hfind : find f.name with
    -- Without a member the field takes its default, if it has one; with a member it takes what is read.
    | none =>
      cases habsent : f.absent with
      | none => simp [Field.Takes, habsent, Decoded.fail, bind, Except.bind]
      | some a' =>
        cases hrest : rest.assemble Json.source find <;>
          simp [Field.Takes, habsent, bind, Except.bind]
    | some j =>
      cases hread : f.codec.read Json.source j <;>
        cases hrest : rest.assemble Json.source find <;>
        simp [Field.Takes, Json.decode, hread, bind, Except.bind]

/-- The members of an object, as a source gives them. -/
def ofMembers (members : List (String × Json)) : List (Decoded String × Json) :=
  members.map fun m => (.ok m.1, m.2)

theorem lookup_ofMembers (members : List (String × Json)) (name : String) :
    lookup (ofMembers members) name = (Json.valuesAt members name).head? := by
  rw [lookup, ofMembers, List.find?_map, Json.valuesAt, List.head?_map, List.head?_filter,
    Option.map_map]
  rfl

/-- A name that is not known is passed over. -/
theorem check_of_not_mem {name : String} (h : name ∉ fields.names) (j : Json) :
    fields.check Json.source name j = .ok () := by
  induction fields with
  | nil => rfl
  | cons f rest ih =>
    obtain ⟨hname, hrest⟩ := not_or.1 (mt List.mem_cons.2 h)
    rw [check, if_neg (by simpa using Ne.symm hname)]
    exact ih hrest

private theorem andThen_eq_ok_iff {β : Type} {d : Decoded Unit} {d' : Decoded β} {b : β} :
    (d >>= fun _ => d') = .ok b ↔ d = .ok () ∧ d' = .ok b := by
  cases d <;> simp [bind, Except.bind]

/-- Whether the members have no field twice nor one that was seen, and each field can be read. -/
def Checks (fields : Fields γ) (seen : List String) (members : List (String × Json)) : Prop :=
  ∀ name ∈ fields.names, (Json.valuesAt members name).length ≤ 1 ∧
    (name ∈ seen → Json.valuesAt members name = []) ∧
    ∀ j ∈ Json.valuesAt members name, fields.check Json.source name j = .ok ()

theorem checks_nil (fields : Fields γ) (seen : List String) : fields.Checks seen [] := by
  simp [Checks, Json.valuesAt]

/-- A member that is not a field does not matter. -/
theorem checks_cons_of_not_mem {k : String} (h : k ∉ fields.names) {seen : List String} (j : Json)
    (members : List (String × Json)) :
    fields.Checks seen ((k, j) :: members) ↔ fields.Checks (k :: seen) members := by
  apply forall₂_congr
  intro name hname
  have hne : name ≠ k := by
    rintro rfl
    exact h hname
  rw [Json.valuesAt_cons_of_ne (Ne.symm hne), List.mem_cons, or_iff_right hne]

/-- A field is not given again. -/
theorem not_checks_cons {k : String} (h : k ∈ fields.names) {seen : List String} (hseen : k ∈ seen)
    (j : Json) (members : List (String × Json)) : ¬ fields.Checks seen ((k, j) :: members) := by
  intro hchecks
  have hnil := (hchecks k h).2.1 hseen
  rw [Json.valuesAt_cons_self] at hnil
  exact List.cons_ne_nil _ _ hnil

/-- A field that is given for the first time can be read, and counts as seen from then on. -/
theorem checks_cons {k : String} (h : k ∈ fields.names) {seen : List String} (hseen : k ∉ seen)
    (j : Json) (members : List (String × Json)) :
    fields.Checks seen ((k, j) :: members) ↔
      fields.check Json.source k j = .ok () ∧ fields.Checks (k :: seen) members := by
  constructor
  · intro hchecks
    obtain ⟨hlength, _, hread⟩ := hchecks k h
    rw [Json.valuesAt_cons_self] at hlength hread
    -- At most one value is allowed, and this is one.
    have hnil : Json.valuesAt members k = [] := by
      rw [← List.length_eq_zero_iff]
      simpa using hlength
    constructor
    · exact hread j List.mem_cons_self
    · intro name hname
      by_cases hne : name = k
      · subst hne
        simp [hnil]
      · have hrest := hchecks name hname
        rw [Json.valuesAt_cons_of_ne (Ne.symm hne)] at hrest
        obtain ⟨hlength, hnone, hread⟩ := hrest
        exact ⟨hlength, fun hmem => hnone ((List.mem_cons.1 hmem).resolve_left hne), hread⟩
  · rintro ⟨hcheck, hchecks⟩ name hname
    -- All other fields see the same values with and without this member.
    by_cases hne : name = k
    · subst hne
      have hnil := (hchecks name hname).2.1 List.mem_cons_self
      rw [Json.valuesAt_cons_self, hnil]
      exact ⟨Nat.le_refl 1, fun hmem => absurd hmem hseen, by simpa using hcheck⟩
    · rw [Json.valuesAt_cons_of_ne (Ne.symm hne)]
      obtain ⟨hlength, hnone, hread⟩ := hchecks name hname
      exact ⟨hlength, fun hmem => hnone (List.mem_cons_of_mem _ hmem), hread⟩

private theorem checkAll_cons (fields : Fields γ) (seen : List String) (k : String) (j : Json)
    (members : List (String × Json)) :
    fields.checkAll Json.source seen (ofMembers ((k, j) :: members)) =
      if seen.contains k && fields.names.contains k then .fail (.duplicateField k)
      else
        fields.check Json.source k j >>= fun _ =>
          fields.checkAll Json.source (k :: seen) (ofMembers members) := rfl

theorem checkAll_eq_ok_iff {members : List (String × Json)} {seen : List String} :
    fields.checkAll Json.source seen (ofMembers members) = .ok () ↔ fields.Checks seen members := by
  induction members generalizing seen with
  | nil => exact iff_of_true rfl (checks_nil fields seen)
  | cons m members ih =>
    obtain ⟨k, j⟩ := m
    rw [checkAll_cons]
    by_cases hk : k ∈ fields.names
    · by_cases hseen : k ∈ seen
      · rw [if_pos (by simp [hk, hseen])]
        exact iff_of_false nofun (not_checks_cons hk hseen j members)
      · rw [if_neg (by simp [hseen]), andThen_eq_ok_iff, ih, checks_cons hk hseen]
    · -- What is not a field is seen like any other member, but nothing asks whether it was.
      rw [if_neg (by simp [hk]), check_of_not_mem hk, checks_cons_of_not_mem hk, ← ih]
      rfl

private theorem eq_nil_or_singleton {values : List Json} (h : values.length ≤ 1) :
    values = [] ∨ ∃ j, values = [j] := by
  cases values with
  | nil => exact .inl rfl
  | cons j rest =>
    have hrest : rest = [] := List.length_eq_zero_iff.1 (Nat.le_zero.1 (Nat.le_of_succ_le_succ h))
    exact .inr ⟨j, by rw [hrest]⟩

/-- An object is read by the values that it has at the names of the fields. -/
theorem decode_object_iff {name : String} {members : List (String × Json)} :
    Json.decode (fields.codec name) (.object members) = .ok a ↔
      fields.Takes (Json.valuesAt members) a := by
  have hopen : Json.decode (fields.codec name) (.object members) =
      (fields.checkAll Json.source [] (ofMembers members) >>= fun _ =>
        fields.assemble Json.source (lookup (ofMembers members))) := rfl
  -- Where no name is given twice, looking up a name finds all of its values.
  have hfound : (∀ name ∈ fields.names, (Json.valuesAt members name).length ≤ 1) →
      (fields.Takes (fun name => (lookup (ofMembers members) name).toList) a ↔
        fields.Takes (Json.valuesAt members) a) := by
    intro hsingle
    apply takes_congr
    intro name hname
    rw [lookup_ofMembers]
    obtain hvalues | ⟨j, hvalues⟩ := eq_nil_or_singleton (hsingle name hname)
    all_goals
      rw [hvalues]
      rfl
  rw [hopen, andThen_eq_ok_iff, checkAll_eq_ok_iff, assemble_eq_ok_iff]
  constructor
  · rintro ⟨hchecks, htakes⟩
    exact (hfound fun name hname => (hchecks name hname).1).1 htakes
  · intro htakes
    have hsingle := length_of_takes htakes
    refine ⟨?_, (hfound hsingle).2 htakes⟩
    intro name hname
    refine ⟨hsingle name hname, fun h => absurd h List.not_mem_nil, ?_⟩
    intro j hj
    obtain hvalues | ⟨k, hvalues⟩ := eq_nil_or_singleton (hsingle name hname)
    · rw [hvalues] at hj
      cases hj
    · rw [hvalues] at hj
      rw [List.mem_singleton.1 hj]
      exact check_of_takes htakes hvalues

end Fields

/-! ## Faithful records -/

/-- Whether a field reads what it writes, and is left out only for the value that it then has. -/
structure Field.Faithful {α : Type} (f : Field α) : Prop where
  codec : f.codec.Faithful
  absent_of_omitted (a : α) : f.omitted a = true → f.absent = some a

namespace Field

variable {α : Type} {c : Codec α}

theorem faithful_required (h : c.Faithful) (name : String) : (required name c).Faithful where
  codec := h
  absent_of_omitted _ h := nomatch h

theorem faithful_withDefault (h : c.Faithful) (name : String) (default : α) :
    (withDefault name c default).Faithful where
  codec := h
  absent_of_omitted _ h := nomatch h

theorem faithful_ifPresent (h : c.Faithful) (hshows : c.Shows) (name : String) :
    (ifPresent name c).Faithful where
  codec := h.optional hshows
  absent_of_omitted _ h := congrArg some (Option.isNone_iff_eq_none.1 h).symm

end Field

namespace Fields

variable {γ : Type} {fields : Fields γ}

/-- Whether all fields are faithful and have names of their own. -/
structure Faithful (fields : Fields γ) : Prop where
  each : fields.Each Field.Faithful
  distinct : fields.names.Nodup

private theorem Faithful.parts {α β : Type} {f : Field α} {rest : Fields β}
    (h : (Fields.cons f rest).Faithful) : f.Faithful ∧ f.name ∉ rest.names ∧ rest.Faithful := by
  obtain ⟨⟨hfield, heach⟩, hdistinct⟩ := h
  obtain ⟨hname, hrest⟩ := List.nodup_cons.1 hdistinct
  exact ⟨hfield, hname, heach, hrest⟩

theorem valuesAt_members_of_not_mem {name : String} (h : name ∉ fields.names) (a : γ) :
    Json.valuesAt (fields.members a) name = [] := by
  induction fields with
  | nil => rfl
  | cons f rest ih =>
    obtain ⟨a, b⟩ := a
    obtain ⟨hname, hrest⟩ := not_or.1 (mt List.mem_cons.2 h)
    rw [members]
    split
    · exact ih hrest b
    · rw [Json.valuesAt_cons_of_ne (Ne.symm hname)]
      exact ih hrest b

/-- What is written is taken as what was written, if values are still read after `g`. -/
theorem Faithful.takes_members (h : fields.Faithful) {g : Json → Json}
    (hg : ∀ {α : Type} {c : Codec α}, c.Faithful → ∀ a, Json.decode c (g (c.write a)) = .ok a)
    (a : γ) : fields.Takes (fun name => (Json.valuesAt (fields.members a) name).map g) a := by
  induction fields with
  | nil => trivial
  | cons f rest ih =>
    obtain ⟨a, b⟩ := a
    obtain ⟨hfield, hname, hrest⟩ := h.parts
    have hnone := valuesAt_members_of_not_mem hname b
    rw [members]
    split
    · -- A field that is not written is absent, as no other field has its name, and then its default is
      -- taken.
      rename_i homitted
      refine ⟨?_, ih hrest b⟩
      show f.Takes ((Json.valuesAt (rest.members b) f.name).map g) a
      rw [hnone]
      exact hfield.absent_of_omitted a homitted
    · constructor
      · show f.Takes ((Json.valuesAt ((f.name, _) :: rest.members b) f.name).map g) a
        rw [Json.valuesAt_cons_self, hnone]
        exact hg hfield.codec a
      · -- The fields that follow do not see this member, for they have other names.
        apply (takes_congr _).1 (ih hrest b)
        intro name hmem
        have hne : f.name ≠ name := by
          rintro rfl
          exact hname hmem
        rw [Json.valuesAt_cons_of_ne hne]

theorem Faithful.exact_members (h : fields.Faithful) (a : γ) :
    ∀ m ∈ fields.members a, m.2.Exact := by
  induction fields with
  | nil =>
    intro m hm
    cases hm
  | cons f rest ih =>
    obtain ⟨a, b⟩ := a
    obtain ⟨hfield, _, hrest⟩ := h.parts
    rw [members]
    -- A field may be omitted, and then there is nothing to check.
    split
    · exact ih hrest b
    · intro m hm
      obtain rfl | hm := List.mem_cons.1 hm
      · exact hfield.codec.exact a
      · exact ih hrest b m hm

/-- A record is read from the object that it is written as. -/
theorem Faithful.codec (h : fields.Faithful) (name : String) : (fields.codec name).Faithful where
  exact a := .object (h.exact_members a)
  decode_write a := by
    apply decode_object_iff.2
    have htakes := h.takes_members (g := id) (fun hc => hc.decode_write) a
    simpa using htakes
  decode_sorted a := by
    show Json.decode (fields.codec name) (Json.object (fields.members a)).sorted = _
    rw [Json.sorted_object, Json.ofMembers]
    apply decode_object_iff.2
    have htakes := h.takes_members (fun hc => hc.decode_sorted) a
    -- No name is written twice, so reading the text loses no value.
    have hsingle := length_of_takes htakes
    apply (takes_congr _).1 htakes
    intro n hn
    rw [Json.valuesAt_ofList, Json.valuesAt_map]
    obtain hvalues | ⟨j, hvalues⟩ := eq_nil_or_singleton (hsingle n hn)
    all_goals
      rw [hvalues]
      rfl

end Fields

end DeviceRoster
