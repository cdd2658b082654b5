import DeviceRoster.Codec.Problem
import DeviceRoster.Json.Basic

/-!
# Codecs

A `Codec α` says how values of type `α` are written as JSON and how they are read.  Reading is written
against a `Source`: a data format with the few questions that a codec asks of its values.  So each
type has one codec, and JSON, YAML values and YAML text are read by the same rules.
-/

namespace DeviceRoster

/-- The result of reading. -/
abbrev Decoded (α : Type) := Except DecodeError α

/-- A value that names one of several variants. -/
structure VariantView where
  name : String
  /-- Nothing else may come with the name; this fails if something does. -/
  content : Decoded Unit
  /-- Where the name stands, if that is known. -/
  place : Option Place

/-- A value that has fields. -/
inductive RecordView (σ : Type) where
  /-- The fields come with names; a name need not be one. -/
  | named (fields : List (Decoded String × σ))
  | listed (fields : List σ)

/-- A data format, by what can be asked of its values.  The answers fail where the value does not
have the form asked for; `expected` is what the failure then says. -/
structure Source (σ : Type) where
  text : (expected : String) → σ → Decoded String
  natural : (expected : String) → σ → Decoded Nat
  /-- The value, unless it is null. -/
  optional : σ → Decoded (Option σ)
  /-- The value as the name of a variant. -/
  variant : σ → Decoded VariantView
  items : (expected : String) → σ → Decoded (List σ)
  record : (expected : String) → σ → Decoded (RecordView σ)
  /-- Where the value stands, if that is known. -/
  place : σ → Option Place

/-- Adds a place to a failure, unless one is known already. -/
def Decoded.locate {α : Type} (place : Option Place) (d : Decoded α) : Decoded α :=
  match place with
  | none => d
  | some place => d.mapError (DecodeError.locate place)

/-- The failure with the given cause. -/
def Decoded.fail {α : Type} (cause : DecodeCause) : Decoded α := .error (.ofCause cause)

/-- How values of a type are written and read. -/
structure Codec (α : Type) : Type 1 where
  write : α → Json
  read : {σ : Type} → Source σ → σ → Decoded α

namespace Codec

/-! ## Basic types -/

/-- Text; `expected` is what a failure says. -/
def text (expected : String) : Codec String where
  write s := .string s
  read source v := source.text expected v

/-- Natural numbers below `size`; `expected` is what a failure says. -/
def natural (expected : String) (size : Nat) : Codec (Fin size) where
  write n := .nat n.val
  read source v := do
    let n ← source.natural expected v
    if h : n < size then pure ⟨n, h⟩
    else
      Decoded.locate (source.place v) (.fail (.invalidValue (.number (.natural n)) expected))

/-- A type with finitely many values, each with a name of its own. -/
def choice {α : Type} (variants : List α) (name : α → String) : Codec α where
  write a := .string (name a)
  read source v := do
    let view ← source.variant v
    Decoded.locate view.place <|
      match variants.find? (fun a => name a == view.name) with
      | none => .fail (.unknownVariant view.name (variants.map name))
      | some a => do
        view.content
        pure a

/-! ## Composite types -/

/-- Values that may be absent. -/
def optional {α : Type} (c : Codec α) : Codec (Option α) where
  write a := Json.optional c.write a
  read source v := do
    match ← source.optional v with
    | none => pure none
    | some v => some <$> c.read source v

/-- Lists. -/
def list {α : Type} (c : Codec α) : Codec (List α) where
  write as := .array (as.map c.write)
  read source v := do
    let items ← source.items "a sequence" v
    items.mapM (c.read source)

/-- A type with the same values under other names. -/
def map {α β : Type} (c : Codec α) (make : α → β) (parts : β → α) : Codec β where
  write b := c.write (parts b)
  read source v := make <$> c.read source v

end Codec

end DeviceRoster
