import ParityGames.Text.Quoted

/-!
# JSON values

A JSON value keeps numbers as their literal text, so that a reader can decide
whether a literal fits the type it is read into, and keeps the members of an
object in order, duplicates included.

Writing escapes the quote, the backslash and control characters (with the
short escapes `\b \f \n \r \t` where they exist, else `\u00XX`), the line
and paragraph separators, and, when HTML escaping is on, `<`, `>` and `&`.
Indented output puts every member and element on a line of its own, indented
by two spaces per level, with `": "` after keys; empty arrays and objects
stay `[]` and `{}`.
-/

namespace ParityGames

/-- A JSON value. -/
inductive Json where
  | null
  | bool (b : Bool)
  | num (literal : String)
  | str (s : String)
  | arr (items : List Json)
  | obj (members : List (String × Json))
  deriving Repr, Inhabited

namespace Json

/-- An integer as a JSON number. -/
def int (n : Int) : Json := .num (toString n)

/-- A natural number as a JSON number. -/
def nat (n : Nat) : Json := .num (toString n)

/-- The escape of one character in a JSON string. -/
def escapeChar (html : Bool) (c : Char) : List Char :=
  match c with
  | '"' => ['\\', '"']
  | '\\' => ['\\', '\\']
  | '\x08' => ['\\', 'b']
  | '\x0c' => ['\\', 'f']
  | '\n' => ['\\', 'n']
  | '\r' => ['\\', 'r']
  | '\t' => ['\\', 't']
  | _ =>
    if c.toNat < 0x20 || (html && (c == '<' || c == '>' || c == '&')) then
      '\\' :: 'u' :: Text.hexDigits c.toNat 4
    else if c == '\u2028' || c == '\u2029' then '\\' :: 'u' :: Text.hexDigits c.toNat 4
    else [c]

/-- A JSON string literal. -/
def quote (html : Bool) (s : String) : String :=
  String.ofList ('"' :: (s.toList.flatMap (escapeChar html) ++ ['"']))

mutual
/-- Compact JSON text. -/
def compact (html : Bool) : Json → String
  | .null => "null"
  | .bool b => if b then "true" else "false"
  | .num n => n
  | .str s => quote html s
  | .arr items => "[" ++ compactItems html items ++ "]"
  | .obj ms => "\x7b" ++ compactMembers html ms ++ "\x7d"

/-- Compact text of array items. -/
def compactItems (html : Bool) : List Json → String
  | [] => ""
  | [x] => compact html x
  | x :: rest => compact html x ++ "," ++ compactItems html rest

/-- Compact text of object members. -/
def compactMembers (html : Bool) : List (String × Json) → String
  | [] => ""
  | [(k, v)] => quote html k ++ ":" ++ compact html v
  | (k, v) :: rest => quote html k ++ ":" ++ compact html v ++ "," ++ compactMembers html rest
end

/-- Indentation for a nesting level. -/
def pad (level : Nat) : String := String.ofList (List.replicate (2 * level) ' ')

mutual
/-- Indented JSON text at a nesting level. -/
def indented (html : Bool) (level : Nat) : Json → String
  | .arr [] => "[]"
  | .obj [] => "{}"
  | .arr items => "[\n" ++ indentedItems html (level + 1) items ++ "\n" ++ pad level ++ "]"
  | .obj ms => "\x7b\n" ++ indentedMembers html (level + 1) ms ++ "\n" ++ pad level ++ "\x7d"
  | v => compact html v

/-- Indented array items, one per line. -/
def indentedItems (html : Bool) (level : Nat) : List Json → String
  | [] => ""
  | [x] => pad level ++ indented html level x
  | x :: rest => pad level ++ indented html level x ++ ",\n" ++ indentedItems html level rest

/-- Indented object members, one per line. -/
def indentedMembers (html : Bool) (level : Nat) : List (String × Json) → String
  | [] => ""
  | [(k, v)] => pad level ++ quote html k ++ ": " ++ indented html level v
  | (k, v) :: rest =>
    pad level ++ quote html k ++ ": " ++ indented html level v ++ ",\n" ++
      indentedMembers html level rest
end

/-- The text a streaming encoder writes for one value: compact, HTML escaped,
and ended by a newline. -/
def encodeLine (v : Json) : String := compact true v ++ "\n"

/-- The text an indenting encoder writes for one value: two-space indent,
HTML escaped, and ended by a newline. -/
def encodeIndented (v : Json) : String := indented true 0 v ++ "\n"

/-- The last member of an object with the given key. -/
def field? (v : Json) (key : String) : Option Json :=
  match v with
  | .obj ms => (ms.reverse.find? (·.1 == key)).map (·.2)
  | _ => none

theorem compact_null : compact true .null = "null" := by
  simp [compact]

end Json

end ParityGames
