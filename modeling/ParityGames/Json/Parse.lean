import ParityGames.Json.Value

/-!
# Reading JSON

A reader for the first JSON value of a text.  Blanks are the space, tab,
newline and carriage return.  Numbers follow the JSON grammar and keep their
literal; strings decode the escapes `\" \\ \/ \b \f \n \r \t \uXXXX`,
combining surrogate pairs and replacing a lone surrogate by `U+FFFD`.

A failure is either a syntax error, reported at the first character that
cannot continue the value as `invalid character 'c' …` with the context of
the grammar, or the end of the text inside a value, or a text holding no
value at all.
-/

namespace ParityGames

namespace Json

/-- Why a text is not a JSON value. -/
inductive ParseError where
  | invalid (message : String)
  | unexpectedEnd
  | empty
  deriving DecidableEq, Repr

/-- The character of a message: a character beyond ASCII is shown by its
first UTF-8 byte read as a Latin-1 character. -/
def shownChar (c : Char) : String :=
  if c == '\'' then "'\\''"
  else if c == '"' then "'\"'"
  else
    let c := if c.toNat < 0x80 then c
      else Char.ofNat ((Text.utf8Bytes (String.singleton c)).headD 0).toNat
    let q := Text.quote (String.singleton c)
    "'" ++ String.ofList ((q.toList.drop 1).dropLast) ++ "'"

/-- A syntax error at character `c` in a context. -/
def bad (c : Char) (context : String) : ParseError :=
  .invalid s!"invalid character {shownChar c} {context}"

/-- Whether a character is a JSON blank. -/
def isBlank (c : Char) : Bool := c == ' ' || c == '\t' || c == '\n' || c == '\r'

/-- Drops leading blanks. -/
def skipBlanks (cs : List Char) : List Char := cs.dropWhile isBlank

/-- The result of reading a part of a value: the part and the rest. -/
abbrev Reading (α : Type) := Except ParseError (α × List Char)

/-- Reads the literal `word`, whose first letter is already consumed. -/
def readWord (word : String) (rest : List Char) : Reading Unit :=
  let rec go (expected : List Char) (cs : List Char) : Reading Unit :=
    match expected, cs with
    | [], cs => .ok ((), cs)
    | _ :: _, [] => .error .unexpectedEnd
    | e :: es, c :: cs =>
      if c == e then go es cs
      else .error (bad c s!"in literal {word} (expecting {shownChar e})")
  go (word.toList.drop 1) rest

/-- Reads digits, returning them and the rest. -/
def readDigits (cs : List Char) : List Char × List Char :=
  (cs.takeWhile Char.isDigit, cs.dropWhile Char.isDigit)

/-- Reads the minus sign of a number, if there is one. -/
def readSign (cs : List Char) : List Char × List Char :=
  match cs with
  | '-' :: rest => (['-'], rest)
  | _ => ([], cs)

/-- Reads the integer part of a number: a lone `0` or digits. -/
def readIntPart (cs : List Char) : Reading (List Char) :=
  match cs with
  | '0' :: rest => .ok (['0'], rest)
  | c :: _ =>
    if c.isDigit then .ok (readDigits cs)
    else .error (bad c "in numeric literal")
  | [] => .error .unexpectedEnd

/-- Reads the fraction of a number, if there is one. -/
def readFraction (cs : List Char) : Reading (List Char) :=
  match cs with
  | '.' :: rest =>
    match rest with
    | c :: _ =>
      if c.isDigit then
        let (ds, rest) := readDigits rest
        .ok ('.' :: ds, rest)
      else .error (bad c "after decimal point in numeric literal")
    | [] => .error .unexpectedEnd
  | _ => .ok ([], cs)

/-- Reads the exponent of a number, if there is one. -/
def readExponent (cs : List Char) : Reading (List Char) :=
  match cs with
  | e :: rest =>
    if e == 'e' || e == 'E' then
      let (sg, rest) := match rest with
        | '+' :: r => (['+'], r)
        | '-' :: r => (['-'], r)
        | r => ([], r)
      match rest with
      | c :: _ =>
        if c.isDigit then
          let (ds, rest) := readDigits rest
          .ok (e :: sg ++ ds, rest)
        else .error (bad c "in exponent of numeric literal")
      | [] => .error .unexpectedEnd
    else .ok ([], cs)
  | [] => .ok ([], cs)

/-- Reads a number literal whose sign, if any, is still in front. -/
def readNumber (cs : List Char) : Except ParseError (String × List Char) := do
  let (sign, cs) := readSign cs
  let (ip, cs) ← readIntPart cs
  let (fp, cs) ← readFraction cs
  let (ep, cs) ← readExponent cs
  pure (String.ofList (sign ++ ip ++ fp ++ ep), cs)

/-- Reads four hex digits of a `\u` escape. -/
def readHex4 (cs : List Char) : Reading Nat :=
  let rec go : Nat → List Char → Nat → Reading Nat
    | 0, cs, acc => .ok (acc, cs)
    | k + 1, c :: cs, acc =>
      match Text.hexValue c with
      | some d => go k cs (acc * 16 + d)
      | none => .error (bad c "in \\u hexadecimal character escape")
    | _ + 1, [], _ => .error .unexpectedEnd
  go 4 cs 0

/-- Reads the body of a string literal after its opening quote, for at most
`fuel` characters. -/
def readStringBody : Nat → List Char → List Char → Reading String
  | 0, _, _ => .error .unexpectedEnd
  | fuel + 1, cs, acc =>
    match cs with
    | [] => .error .unexpectedEnd
    | '"' :: rest => .ok (String.ofList acc.reverse, rest)
    | '\\' :: rest =>
      match rest with
      | [] => .error .unexpectedEnd
      | e :: rest =>
        let simple (c : Char) : Reading String := readStringBody fuel rest (c :: acc)
        match e with
        | '"' => simple '"'
        | '\\' => simple '\\'
        | '/' => simple '/'
        | 'b' => simple '\x08'
        | 'f' => simple '\x0c'
        | 'n' => simple '\n'
        | 'r' => simple '\r'
        | 't' => simple '\t'
        | 'u' =>
          match readHex4 rest with
          | .error err => .error err
          | .ok (hi, rest) =>
            if hi ≥ 0xD800 && hi < 0xDC00 then
              match rest with
              | '\\' :: 'u' :: rest2 =>
                match readHex4 rest2 with
                | .ok (lo, rest3) =>
                  if lo ≥ 0xDC00 && lo < 0xE000 then
                    readStringBody fuel rest3
                      (Char.ofNat (0x10000 + (hi - 0xD800) * 0x400 + (lo - 0xDC00)) :: acc)
                  else readStringBody fuel rest ('�' :: acc)
                | .error _ => readStringBody fuel rest ('�' :: acc)
              | _ => readStringBody fuel rest ('�' :: acc)
            else if hi ≥ 0xDC00 && hi < 0xE000 then readStringBody fuel rest ('�' :: acc)
            else readStringBody fuel rest (Char.ofNat hi :: acc)
        | c => .error (bad c "in string escape code")
    | c :: rest =>
      if c.toNat < 0x20 then .error (bad c "in string literal")
      else readStringBody fuel rest (c :: acc)

/-- Reads a string literal whose opening quote is consumed. -/
def readString (cs : List Char) : Reading String := readStringBody (cs.length + 1) cs []

mutual
/-- Reads one value after blanks, for at most `fuel` nested steps. -/
def readValue : Nat → List Char → Reading Json
  | 0, _ => .error .unexpectedEnd
  | fuel + 1, cs =>
    match skipBlanks cs with
    | [] => .error .unexpectedEnd
    | c :: rest =>
      match c with
      | '{' => readObject fuel rest
      | '[' => readArray fuel rest
      | '"' => (readString rest).map fun (s, r) => (.str s, r)
      | 't' => (readWord "true" rest).map fun (_, r) => (.bool true, r)
      | 'f' => (readWord "false" rest).map fun (_, r) => (.bool false, r)
      | 'n' => (readWord "null" rest).map fun (_, r) => (.null, r)
      | _ =>
        if c == '-' || c.isDigit then (readNumber (c :: rest)).map fun (n, r) => (.num n, r)
        else .error (bad c "looking for beginning of value")

/-- Reads the members of an object after its `{`. -/
def readObject : Nat → List Char → Reading Json
  | 0, _ => .error .unexpectedEnd
  | fuel + 1, cs =>
    match skipBlanks cs with
    | '}' :: rest => .ok (.obj [], rest)
    | cs => readMembers fuel cs []

/-- Reads object members, the next one starting with its key. -/
def readMembers : Nat → List Char → List (String × Json) → Reading Json
  | 0, _, _ => .error .unexpectedEnd
  | fuel + 1, cs, acc =>
    match skipBlanks cs with
    | [] => .error .unexpectedEnd
    | '"' :: rest =>
      match readString rest with
      | .error e => .error e
      | .ok (k, rest) =>
        match skipBlanks rest with
        | [] => .error .unexpectedEnd
        | ':' :: rest =>
          match readValue fuel rest with
          | .error e => .error e
          | .ok (v, rest) =>
            match skipBlanks rest with
            | [] => .error .unexpectedEnd
            | ',' :: rest => readMembers fuel rest ((k, v) :: acc)
            | '}' :: rest => .ok (.obj ((k, v) :: acc).reverse, rest)
            | c :: _ => .error (bad c "after object key:value pair")
        | c :: _ => .error (bad c "after object key")
    | c :: _ => .error (bad c "looking for beginning of object key string")

/-- Reads the elements of an array after its `[`. -/
def readArray : Nat → List Char → Reading Json
  | 0, _ => .error .unexpectedEnd
  | fuel + 1, cs =>
    match skipBlanks cs with
    | ']' :: rest => .ok (.arr [], rest)
    | cs => readElements fuel cs []

/-- Reads array elements. -/
def readElements : Nat → List Char → List Json → Reading Json
  | 0, _, _ => .error .unexpectedEnd
  | fuel + 1, cs, acc =>
    match readValue fuel cs with
    | .error e => .error e
    | .ok (v, rest) =>
      match skipBlanks rest with
      | [] => .error .unexpectedEnd
      | ',' :: rest => readElements fuel rest (v :: acc)
      | ']' :: rest => .ok (.arr (v :: acc).reverse, rest)
      | c :: _ => .error (bad c "after array element")
end

/-- Reads the first value of a text, as a stream decoder does: a text of
blanks holds no value, and what follows the value is not looked at. -/
def readFirst (s : String) : Except ParseError Json :=
  let cs := s.toList
  if (skipBlanks cs).isEmpty then .error .empty
  else (readValue (2 * cs.length + 2) cs).map (·.1)

/-- Reads a text that must be exactly one value, blanks around it allowed. -/
def readExact (s : String) : Except ParseError Json :=
  let cs := s.toList
  match readValue (2 * cs.length + 2) cs with
  | .error .empty => .error .unexpectedEnd
  | .error e => .error e
  | .ok (v, rest) =>
    match skipBlanks rest with
    | [] => .ok v
    | c :: _ => .error (bad c "after top-level value")

/-- The text of a failure of a stream decoder. -/
def ParseError.streamText : ParseError → String
  | .invalid m => m
  | .unexpectedEnd => "unexpected EOF"
  | .empty => "EOF"

/-- The text of a failure of a whole-text decoder. -/
def ParseError.exactText : ParseError → String
  | .invalid m => m
  | .unexpectedEnd | .empty => "unexpected end of JSON input"

end Json

end ParityGames
