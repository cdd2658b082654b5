import DeviceRoster.Config
import DeviceRoster.Proofs.Codecs
import Mathlib.Logic.Relation

/-!
# Serialised forms

What a value is written as is read as that value again, so writing what was read gives a text that is
read and written once more without a change.  A record does not look at members that it does not know,
and an optional member that is null counts as one that is absent; that also holds of a record which is
part of another one.

## Key results

- `Codec.Faithful.roundTrips`: values of a type with a faithful codec survive writing and reading
- `Fields.overlooks_pads`: what an object may be padded with
- `Fields.alike_replace`, `Fields.ofList_alike`: edits of a record that another record holds
- `serialised_forms_round_trip`: all types that are written as JSON
-/

namespace DeviceRoster

/-! ## Reading alike -/

/-- Whether two results are the same value, or both failures. -/
def Decoded.Alike {α : Type} (d d' : Decoded α) : Prop := ∀ a, d = .ok a ↔ d' = .ok a

namespace Decoded.Alike

variable {α β : Type} {d d' : Decoded α}

theorem refl (d : Decoded α) : d.Alike d := fun _ => Iff.rfl

theorem bind (h : d.Alike d') {k k' : α → Decoded β} (hk : ∀ a, (k a).Alike (k' a)) :
    (d >>= k : Decoded β).Alike (d' >>= k') := by
  intro b
  cases d with
  | ok a =>
    rw [(h a).1 rfl]
    exact hk a b
  -- Two failures need not have the same message, so nothing is to be shown where both have failed.
  | error e =>
    cases d' with
    | ok a => exact absurd ((h a).2 rfl) (by simp)
    | error e' => simp [Bind.bind, Except.bind]

theorem map (h : d.Alike d') (f : α → β) : (f <$> d : Decoded β).Alike (f <$> d') := by
  rw [map_eq_pure_bind, map_eq_pure_bind]
  apply h.bind
  intro a
  exact refl _

end Decoded.Alike

namespace Codec

variable {α : Type} {c : Codec α}

/-- Whether values survive writing and reading: what is written is read as what was written, and a text
that was written for what was read is accepted and written once more as it is. -/
structure RoundTrips (c : Codec α) : Prop where
  value (a : α) : Json.decode c (c.write a) = .ok a
  text (a : α) : ∃ j, Json.parse? (c.write a).compress = some j ∧ Json.decode c j = .ok a
  again {v : Json} {a : α} (h : Json.decode c v = .ok a) :
    ∃ j b, Json.parse? (c.write a).compress = some j ∧ Json.decode c j = .ok b ∧
      (c.write b).compress = (c.write a).compress

theorem Faithful.roundTrips (h : c.Faithful) : c.RoundTrips where
  value := h.decode_write
  text := h.parse?_compress
  again {v a} _ := by
    obtain ⟨j, hparse, hread⟩ := h.parse?_compress a
    exact ⟨j, a, hparse, hread, rfl⟩

/-- Whether what is read does not change with the edits of a value. -/
def Overlooks (c : Codec α) (Edits : Json → Json → Prop) : Prop :=
  ∀ v v', Edits v v' → (Json.decode c v).Alike (Json.decode c v')

/-- What one edit does not change, many edits and taking them back do not change either. -/
theorem Overlooks.chain {Edits : Json → Json → Prop} (h : c.Overlooks Edits) :
    c.Overlooks (Relation.EqvGen Edits) := by
  intro v v' hedits
  induction hedits with
  | rel v v' hedit => exact h v v' hedit
  | refl v => exact .refl _
  | symm v v' _ ih => exact fun a => (ih a).symm
  | trans v v' v'' _ _ ih ih' => exact fun a => (ih a).trans (ih' a)

theorem Overlooks.map {β : Type} {Edits : Json → Json → Prop} (h : c.Overlooks Edits) (make : α → β)
    (parts : β → α) : (c.map make parts).Overlooks Edits :=
  fun v v' hedit => (h v v' hedit).map make

end Codec

/-! ## Edits of an object -/

/-- The edits of an object that is read as a record: a member that the record does not know is added, or
null at the name of an optional member that is absent. -/
inductive Json.Pads (known nullable : List String) : Json → Json → Prop where
  | unknown (front back : List (String × Json)) {key : String} (value : Json) (h : key ∉ known) :
    Pads known nullable (.object (front ++ back)) (.object (front ++ (key, value) :: back))
  | null (front back : List (String × Json)) {key : String} (h : key ∈ nullable)
    (habsent : key ∉ (front ++ back).map (·.1)) :
    Pads known nullable (.object (front ++ back)) (.object (front ++ (key, .null) :: back))

/-- Whether null is taken as if nothing was given. -/
def Field.Nullable {α : Type} (f : Field α) : Prop := ∀ a, f.Takes [] a ↔ f.Takes [.null] a

theorem Field.nullable_of_optional {α : Type} {f : Field (Option α)} {c : Codec α}
    (hcodec : f.codec = c.optional) (habsent : f.absent = some none) : f.Nullable := by
  intro a
  simp only [Field.Takes, hcodec, habsent]
  show some none = some a ↔ (Except.ok none : Decoded (Option α)) = .ok a
  simp

/-- A field that takes one value does not tell apart values that are read alike. -/
theorem Field.takes_replace {α : Type} {f : Field α} {j j' : Json}
    (h : (Json.decode f.codec j).Alike (Json.decode f.codec j')) (front back : List Json) (a : α) :
    f.Takes (front ++ j :: back) a ↔ f.Takes (front ++ j' :: back) a := by
  -- A field takes at most one value, so with anything around it both are refused.
  match front, back with
  | [], [] => exact h a
  | [], _ :: _ => exact Iff.rfl
  | [_], back => exact Iff.rfl
  | _ :: _ :: _, back => exact Iff.rfl

namespace Fields

variable {γ : Type} {fields : Fields γ}

theorem Each.mono {P Q : {α : Type} → Field α → Prop} (h : fields.Each P)
    (hpq : ∀ {α : Type} (f : Field α), P f → Q f) : fields.Each Q := by
  induction fields with
  | nil => trivial
  | cons f rest ih => exact ⟨hpq f h.1, ih h.2⟩

private theorem alike_of_takes {name : String} {members members' : List (String × Json)}
    (h : fields.Each fun f => ∀ a, f.Takes (Json.valuesAt members f.name) a ↔
      f.Takes (Json.valuesAt members' f.name) a) :
    (Json.decode (fields.codec name) (.object members)).Alike
      (Json.decode (fields.codec name) (.object members')) := by
  intro a
  rw [decode_object_iff, decode_object_iff]
  exact takes_iff h

/-- Every field is found among the names. -/
theorem each_mem_names (fields : Fields γ) : fields.Each fun f => f.name ∈ fields.names := by
  induction fields with
  | nil => trivial
  | cons f rest ih => exact ⟨List.mem_cons_self, ih.mono fun _ => List.mem_cons_of_mem _⟩

/-- A record does not look at what its objects are padded with. -/
theorem overlooks_pads (fields : Fields γ) {nullable : List String}
    (h : fields.Each fun f => f.name ∈ nullable → f.Nullable) (name : String) :
    (fields.codec name).Overlooks (Json.Pads fields.names nullable) := by
  intro v v' hpads
  cases hpads with
  | unknown front back value hkey =>
    apply alike_of_takes
    -- An unknown name is the name of no field, so no field sees another value than before.
    apply fields.each_mem_names.mono
    intro _ f hf a
    rw [Json.valuesAt_append, Json.valuesAt_append, Json.valuesAt_cons_of_ne]
    rintro rfl
    exact hkey hf
  | @null front back key hkey habsent =>
    apply alike_of_takes
    -- Only the field of that name sees a value more, and it had none before.
    apply h.mono
    intro _ f hnullable a
    rw [← Json.valuesAt_eq_nil, Json.valuesAt_append] at habsent
    rw [Json.valuesAt_append, Json.valuesAt_append]
    by_cases hname : key = f.name
    · subst hname
      obtain ⟨hfront, hback⟩ := List.append_eq_nil_iff.1 habsent
      rw [Json.valuesAt_cons_self, hfront, hback]
      exact hnullable hkey a
    · rw [Json.valuesAt_cons_of_ne hname]

/-- Where a field does not tell two values apart, nor does the record that has one of them. -/
theorem alike_replace {key : String} {j j' : Json}
    (h : fields.Each fun f => f.name = key → (Json.decode f.codec j).Alike (Json.decode f.codec j'))
    (name : String) (front back : List (String × Json)) :
    (Json.decode (fields.codec name) (.object (front ++ (key, j) :: back))).Alike
      (Json.decode (fields.codec name) (.object (front ++ (key, j') :: back))) := by
  apply alike_of_takes
  apply h.mono
  intro _ f hf a
  rw [Json.valuesAt_append, Json.valuesAt_append]
  -- The field of that name sees one value in place of the other, the others see what they saw before.
  by_cases hname : key = f.name
  · subst hname
    rw [Json.valuesAt_cons_self, Json.valuesAt_cons_self]
    exact Field.takes_replace (hf rfl) _ _ a
  · rw [Json.valuesAt_cons_of_ne hname, Json.valuesAt_cons_of_ne hname]

/-- A listed record whose items are read alike is read alike. -/
theorem ofList_alike {α β : Type} {f : Field α} {rest : Fields β} {j j' : Json}
    {items items' : List Json} {expected : String} {position : Nat}
    (h : (Json.decode f.codec j).Alike (Json.decode f.codec j'))
    (hrest : (rest.ofList Json.source expected (position + 1) items).Alike
      (rest.ofList Json.source expected (position + 1) items')) :
    ((cons f rest).ofList Json.source expected position (j :: items)).Alike
      ((cons f rest).ofList Json.source expected position (j' :: items')) := by
  apply h.bind
  intro a
  apply hrest.bind
  intro b
  exact .refl _

end Fields

/-! ## The types -/

theorem RawState.faithful : RawState.codec.Faithful :=
  (Codec.faithful_natural "u32" (by decide)).map fun _ => rfl

theorem Identifier.faithful : Identifier.codec.Faithful :=
  (Codec.faithful_text "a string").map fun _ => rfl

theorem NotificationKind.faithful : NotificationKind.codec.Faithful :=
  Codec.faithful_choice mem_all (by decide)

theorem State.faithful : State.codec.Faithful :=
  Codec.faithful_choice mem_all (by decide)

theorem TargetKind.faithful : TargetKind.codec.Faithful :=
  Codec.faithful_choice mem_all (by decide)

theorem ChangeKind.faithful : ChangeKind.codec.Faithful :=
  Codec.faithful_choice mem_all (by decide)

theorem CategoryKind.faithful : CategoryKind.codec.Faithful :=
  Codec.faithful_choice mem_all (by decide)

theorem TargetInfo.faithful : TargetInfo.codec.Faithful := by
  have hfields : fields.Faithful := by
    constructor
    · exact ⟨Field.faithful_required Identifier.faithful _,
        Field.faithful_required (Codec.faithful_text _) _,
        Field.faithful_required TargetKind.faithful _, Field.faithful_required State.faithful _,
        Field.faithful_ifPresent (Codec.faithful_text _) (Codec.shows_text _) _,
        Field.faithful_ifPresent (Codec.faithful_text _) (Codec.shows_text _) _, trivial⟩
    · decide
  exact (hfields.codec "TargetInfo").map fun _ => rfl

theorem NotifyConfig.faithful : NotifyConfig.codec.Faithful := by
  have hfields : fields.Faithful := by
    constructor
    · exact ⟨Field.faithful_withDefault (Codec.faithful_optionalText _) _ _,
        Field.faithful_withDefault (Codec.faithful_optionalText _) _ _, trivial⟩
    · decide
  exact (hfields.codec "NotifyConfig").map fun _ => rfl

theorem Config.faithful : Config.codec.Faithful := by
  -- No record is written as null, so null in its place can mean that there is none.
  have hshows : NotifyConfig.codec.Shows := by
    intro c h
    cases h
  have hfields : fields.Faithful := by
    constructor
    · exact ⟨Field.faithful_withDefault (Codec.faithful_optionalText _) _ _,
        Field.faithful_withDefault CategoryKind.faithful.list _ _,
        Field.faithful_withDefault (NotifyConfig.faithful.optional hshows) _ _, trivial⟩
    · decide
  exact (hfields.codec "CompanionConfig").map fun _ => rfl

theorem ReplayStep.faithful : ReplayStep.codec.Faithful := by
  have hfields : fields.Faithful := by
    constructor
    · exact ⟨Field.faithful_required CategoryKind.faithful _,
        Field.faithful_required (Codec.faithful_text _) _,
        Field.faithful_withDefault (Codec.faithful_optionalText _) _ _,
        Field.faithful_required NotificationKind.faithful _,
        Field.faithful_withDefault (Codec.faithful_natural _ (by decide)) _ _,
        Field.faithful_withDefault (Codec.faithful_optionalText _) _ _,
        Field.faithful_withDefault (Codec.faithful_optionalText _) _ _,
        Field.faithful_withDefault (Codec.faithful_natural _ (by decide)) _ _, trivial⟩
    · decide
  exact (hfields.codec "ReplayStep").map fun _ => rfl

/-! ## Edits of the records -/

/-- The edits of a target. -/
def TargetInfo.Edits : Json → Json → Prop :=
  Json.Pads ["identifier", "name", "kind", "state", "os_version", "architecture"]
    ["os_version", "architecture"]

/-- The edits of the part of a configuration that says where changes are written to. -/
def NotifyConfig.Edits : Json → Json → Prop := Json.Pads ["path", "socket"] ["path", "socket"]

/-- The edits of a step. -/
def ReplayStep.Edits : Json → Json → Prop :=
  Json.Pads ["category", "identifier", "ecid", "event", "raw_state", "name", "os_version", "delay_ms"]
    ["ecid", "name", "os_version"]

/-- The edits of a configuration: of its own members, or of the record for `notify` that it holds as a
member or as the third of its listed fields. -/
inductive Config.Edits : Json → Json → Prop where
  | own {v v' : Json}
    (h : Json.Pads ["ecid_filter", "categories", "notify"] ["ecid_filter", "notify"] v v') :
    Config.Edits v v'
  | notify {n n' : Json} (front back : List (String × Json)) (h : NotifyConfig.Edits n n') :
    Config.Edits (.object (front ++ ("notify", n) :: back))
      (.object (front ++ ("notify", n') :: back))
  | listed {n n' : Json} (ecidFilter categories : Json) (rest : List Json)
    (h : NotifyConfig.Edits n n') :
    Config.Edits (.array (ecidFilter :: categories :: n :: rest))
      (.array (ecidFilter :: categories :: n' :: rest))

theorem TargetInfo.overlooks : codec.Overlooks Edits := by
  have hnullable : fields.Each fun f => f.name ∈ ["os_version", "architecture"] → f.Nullable :=
    ⟨fun h => absurd h (by decide), fun h => absurd h (by decide), fun h => absurd h (by decide),
      fun h => absurd h (by decide), fun _ => Field.nullable_of_optional rfl rfl,
      fun _ => Field.nullable_of_optional rfl rfl, trivial⟩
  exact (fields.overlooks_pads hnullable "TargetInfo").map _ _

theorem NotifyConfig.overlooks : codec.Overlooks Edits := by
  have hnullable : fields.Each fun f => f.name ∈ ["path", "socket"] → f.Nullable :=
    ⟨fun _ => Field.nullable_of_optional rfl rfl, fun _ => Field.nullable_of_optional rfl rfl, trivial⟩
  exact (fields.overlooks_pads hnullable "NotifyConfig").map _ _

theorem ReplayStep.overlooks : codec.Overlooks Edits := by
  have hnullable : fields.Each fun f => f.name ∈ ["ecid", "name", "os_version"] → f.Nullable :=
    ⟨fun h => absurd h (by decide), fun h => absurd h (by decide),
      fun _ => Field.nullable_of_optional rfl rfl, fun h => absurd h (by decide),
      fun h => absurd h (by decide), fun _ => Field.nullable_of_optional rfl rfl,
      fun _ => Field.nullable_of_optional rfl rfl, fun h => absurd h (by decide), trivial⟩
  exact (fields.overlooks_pads hnullable "ReplayStep").map _ _

/-- What is edited is an object, so a configuration is not taken for one without that record. -/
private theorem NotifyConfig.alike_optional {n n' : Json} (h : NotifyConfig.Edits n n') :
    (Json.decode NotifyConfig.codec.optional n).Alike
      (Json.decode NotifyConfig.codec.optional n') := by
  have hne : n ≠ .null ∧ n' ≠ .null := by
    cases h <;> simp
  rw [Codec.decode_optional hne.1, Codec.decode_optional hne.2]
  exact (NotifyConfig.overlooks n n' h).map some

theorem Config.overlooks : codec.Overlooks Edits := by
  intro v v' hedits
  cases hedits with
  | own h =>
    have hnullable : fields.Each fun f => f.name ∈ ["ecid_filter", "notify"] → f.Nullable :=
      ⟨fun _ => Field.nullable_of_optional rfl rfl, fun h => absurd h (by decide),
        fun _ => Field.nullable_of_optional rfl rfl, trivial⟩
    exact (fields.overlooks_pads hnullable "CompanionConfig").map _ _ _ _ h
  | notify front back h =>
    apply Decoded.Alike.map
    -- The edit of the inner record reaches the outer one through the only field that reads it.
    apply Fields.alike_replace
    exact ⟨fun h => absurd h (by decide), fun h => absurd h (by decide),
      fun _ => NotifyConfig.alike_optional h, trivial⟩
  | listed ecidFilter categories rest h =>
    apply Decoded.Alike.map
    -- Of the listed fields the first two are untouched, and the third is edited.
    apply Fields.ofList_alike (.refl _)
    apply Fields.ofList_alike (.refl _)
    exact Fields.ofList_alike (NotifyConfig.alike_optional h) (.refl _)

/-! ## Round trips -/

/-- Values of all types that are written as JSON survive writing and reading, also from their texts.  A
configuration that says where changes are written to still says so.  What is read as a target, a
configuration, its part for `notify` or a step does not change with the edits of its records. -/
theorem serialised_forms_round_trip :
    (TargetInfo.codec.RoundTrips ∧ Config.codec.RoundTrips ∧ NotifyConfig.codec.RoundTrips ∧
      ReplayStep.codec.RoundTrips ∧ Identifier.codec.RoundTrips ∧ RawState.codec.RoundTrips ∧
      TargetKind.codec.RoundTrips ∧ State.codec.RoundTrips ∧ ChangeKind.codec.RoundTrips ∧
      CategoryKind.codec.RoundTrips ∧ NotificationKind.codec.RoundTrips) ∧
    (∀ v config notify sink, Json.decode Config.codec v = .ok config →
      config.notify = some notify → notify.sink = .ok sink →
      ∃ j again notify', Json.parse? (Config.codec.write config).compress = some j ∧
        Json.decode Config.codec j = .ok again ∧ again.notify = some notify' ∧
        notify'.sink = .ok sink) ∧
    TargetInfo.codec.Overlooks (Relation.EqvGen TargetInfo.Edits) ∧
    Config.codec.Overlooks (Relation.EqvGen Config.Edits) ∧
    NotifyConfig.codec.Overlooks (Relation.EqvGen NotifyConfig.Edits) ∧
    ReplayStep.codec.Overlooks (Relation.EqvGen ReplayStep.Edits) := by
  refine ⟨?_, ?_, TargetInfo.overlooks.chain, Config.overlooks.chain, NotifyConfig.overlooks.chain,
    ReplayStep.overlooks.chain⟩
  · exact ⟨TargetInfo.faithful.roundTrips, Config.faithful.roundTrips,
      NotifyConfig.faithful.roundTrips, ReplayStep.faithful.roundTrips,
      Identifier.faithful.roundTrips, RawState.faithful.roundTrips, TargetKind.faithful.roundTrips,
      State.faithful.roundTrips, ChangeKind.faithful.roundTrips, CategoryKind.faithful.roundTrips,
      NotificationKind.faithful.roundTrips⟩
  · intro v config notify sink _ hnotify hsink
    -- What was read is read again as the same configuration, so it names the same sink.
    obtain ⟨j, hparse, hread⟩ := Config.faithful.parse?_compress config
    exact ⟨j, config, notify, hparse, hread, hnotify, hsink⟩

/-- A configuration with a sink, read from an object with and without padding. -/
theorem serialised_forms_round_trip_sample :
    let bare : Json := .object [("notify", .object [("path", .string "changes.log")])]
    let padded : Json := .object [("colour", .string "red"),
      ("notify", .object [("path", .string "changes.log"), ("socket", .null)])]
    let config : Config := { notify := some { path := some "changes.log" } }
    Relation.EqvGen Config.Edits bare padded ∧ Json.decode Config.codec bare = .ok config ∧
      Json.decode Config.codec padded = .ok config ∧
      ∃ j again notify, Json.parse? (Config.codec.write config).compress = some j ∧
        Json.decode Config.codec j = .ok again ∧ again.notify = some notify ∧
        notify.sink = .ok (.file "changes.log") := by
  intro bare padded config
  have hsocket : NotifyConfig.Edits (.object [("path", .string "changes.log")])
      (.object [("path", .string "changes.log"), ("socket", .null)]) :=
    .null [("path", .string "changes.log")] [] (by decide) (by decide)
  -- First the inner record is padded, then the outer one.
  have hedits : Relation.EqvGen Config.Edits bare padded :=
    .trans _ _ _ (.rel _ _ (.notify [] [] hsocket))
      (.rel _ _ (.own (.unknown [] _ (.string "red") (by decide))))
  have hbare : Json.decode Config.codec bare = .ok config := by decide
  obtain ⟨_, hsink, _, hconfig, _⟩ := serialised_forms_round_trip
  exact ⟨hedits, hbare, (hconfig bare padded hedits config).1 hbare,
    hsink bare config _ _ hbare rfl rfl⟩

end DeviceRoster
