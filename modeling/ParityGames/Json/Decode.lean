import ParityGames.Json.Value
import ParityGames.Buffer
import ParityGames.Text.Decimal

/-!
# Decoding JSON into records

A record is filled from a JSON object field by field, in the order of the
object's members.  A key names the field that is spelled the same, or else
the field whose name it matches ignoring case (`ſ` counts as `s` and the
Kelvin sign as `k`); other keys are skipped.  A repeated key fills its field
again, starting from what the field already holds.

`null` leaves a plain field as it is and empties a list.  A value of the
wrong kind does not stop the decoding: the first such mismatch is kept and
reported at the end, with the record and the path of fields where it
happened.  A field whose own reader refuses a value stops at once, and that
refusal is the error.

A list is filled element by element in place: element `i` starts from the
entry that the list's storage holds at `i`, which after a repeated key is the
old element.  The storage grows as a buffer does, and an empty JSON array
leaves a fresh empty list.
-/

namespace ParityGames

namespace Json

/-- Why a JSON value does not decode. -/
inductive Fault where
  /-- A value of kind `value` where a `target` belongs, inside `record` at `path`. -/
  | mismatch (value target record : String) (path : List String)
  /-- A field's reader refused the value. -/
  | refused (message : String)
  deriving Repr, DecidableEq

/-- The text of a decoding fault. -/
def Fault.message : Fault → String
  | .mismatch value target record path =>
    if record.isEmpty && path.isEmpty then
      s!"json: cannot unmarshal {value} into Go value of type {target}"
    else
      let field := ".".intercalate path
      s!"json: cannot unmarshal {value} into Go struct field {record}.{field} of type {target}"
  | .refused message => message

/-- The kind of a value, as a mismatch names it. -/
def kindName : Json → String
  | .null => "null"
  | .bool _ => "bool"
  | .num _ => "number"
  | .str _ => "string"
  | .arr _ => "array"
  | .obj _ => "object"

/-- Where decoding is: the record being filled and the path of fields. -/
structure Scope where
  record : String := ""
  path : List String := []

/-- Decoding: it reads the scope, keeps the first mismatch, and may stop with
a refusal. -/
abbrev Decoding := ReaderT Scope (StateT (Option Fault) (Except Fault))

/-- Runs a decoding from the top: the first mismatch, if any, is the error. -/
def decodeAll {α : Type} (d : Decoding α) : Except Fault α :=
  match StateT.run (ReaderT.run d {}) none with
  | .ok (a, none) => .ok a
  | .ok (_, some f) => .error f
  | .error f => .error f

/-- Notes a value of kind `value` where a `target` belongs. -/
def mismatch (value target : String) : Decoding Unit := do
  let s ← read
  modify fun kept => kept <|> some (.mismatch value target s.record s.path)

/-- Stops decoding with a refusal. -/
def refuse {α : Type} (message : String) : Decoding α := throw (.refused message)

/-- A 64-bit integer literal: optional minus, digits, no fraction or exponent. -/
def intLiteral? (s : String) : Option Int :=
  if s.startsWith "+" then none else Text.parseInt? s

/-- Fills an integer field of type `target`. -/
def intField (target : String) (old : Int) : Json → Decoding Int
  | .null => pure old
  | .num s =>
    match intLiteral? s with
    | some n => pure n
    | none => do mismatch ("number " ++ s) target; pure old
  | j => do mismatch (kindName j) target; pure old

/-- Fills a text field of type `target`. -/
def textField (target : String) (old : String) : Json → Decoding String
  | .null => pure old
  | .str s => pure s
  | j => do mismatch (kindName j) target; pure old

/-- Fills a boolean field of type `target`. -/
def boolField (target : String) (old : Bool) : Json → Decoding Bool
  | .null => pure old
  | .bool b => pure b
  | j => do mismatch (kindName j) target; pure old

/-- Fills a field whose type reads itself from a string with `parse`. -/
def parsedField {α : Type} (target : String) (parse : String → Except String α) (old : α) :
    Json → Decoding α
  | .null => pure old
  | .str s =>
    match parse s with
    | .ok a => pure a
    | .error m => refuse m
  | j => do mismatch (kindName j) target; pure old

/-- Fills an optional field whose type reads itself from a string: `null`
clears it. -/
def optionField {α : Type} (target : String) (parse : String → Except String α)
    (old : Option α) : Json → Decoding (Option α)
  | .null => pure none
  | .str s =>
    match parse s with
    | .ok a => pure (some a)
    | .error m => refuse m
  | j => do mismatch (kindName j) target; pure old

/-- How the elements of a list are stored and filled. -/
structure ElementKind (α : Type) where
  /-- The bytes one element takes. -/
  size : Nat
  /-- Whether an element holds references. -/
  refs : Bool
  /-- The blank element of fresh storage. -/
  blank : α
  /-- Fills an element from a value, starting from the stored entry. -/
  fill : α → Json → Decoding α

/-- Fills the elements of a list from position `i` on. -/
def fillElements {α : Type} (kind : ElementKind α) :
    Buffer α → Nat → List Json → Decoding (Buffer α)
  | b, _, [] => pure b
  | b, i, j :: rest => do
    let b := b.reserve kind.size kind.refs kind.blank (i + 1)
    let b := if i ≥ b.length then b.setLength (i + 1) else b
    let e ← kind.fill (b.get kind.blank i) j
    fillElements kind (b.set i e) (i + 1) rest

/-- Fills a list field of type `target`; `none` is the absent list, which
`null` gives, while an empty JSON array gives an empty list. -/
def listField {α : Type} (target : String) (kind : ElementKind α) (old : Option (Buffer α)) :
    Json → Decoding (Option (Buffer α))
  | .null => pure none
  | .arr [] => pure (some {})
  | .arr items => do
    let b ← fillElements kind (old.getD {}) 0 items
    pure (some (b.setLength items.length))
  | j => do mismatch (kindName j) target; pure old

/-- A field name with letters folded to upper case, `ſ` to `S` and the
Kelvin sign to `K`. -/
def foldName (s : String) : String :=
  s.map fun c =>
    if c.isLower then c.toUpper
    else if c == 'ſ' then 'S'
    else if c == 'K' then 'K'
    else c

/-- The field a key names: the one spelled the same, else the first that
matches it ignoring case. -/
def fieldOf (fields : List String) (key : String) : Option String :=
  if fields.contains key then some key
  else fields.find? fun f => foldName f == foldName key

/-- Fills a record called `record`, of type `target`, with the given field
names and a filler for each field. -/
def recordField {α : Type} (record target : String) (fields : List String)
    (fill : α → String → Json → Decoding α) (old : α) : Json → Decoding α
  | .null => pure old
  | .obj members =>
    members.foldlM (fun acc (key, value) =>
      match fieldOf fields key with
      | some f => withReader (fun s => { record, path := s.path ++ [f] }) (fill acc f value)
      | none => pure acc) old
  | j => do mismatch (kindName j) target; pure old

theorem foldName_ascii : foldName "vertices" = "VERTICES" := by decide +kernel

end Json

end ParityGames
