import ParityGames.Text.Quoted
import ParityGames.Text.Floating
import ParityGames.Cli.Flag

/-!
# Reading TOML

A TOML document is read in two passes.  A lexer, a state machine with a
stack of states to return to, turns the text into items: key parts, values,
table headers and comments.  A parser then builds the tables, refusing a key
defined twice, and records for every key the line it was defined on and the
order keys appeared in.

Every failure names its line and, when known, the key being read, as in

    toml: line 1 (last key "strategy"): expected value but found '\n' instead

A failure at a newline or at the end of the text is reported on the line
it ends, not on the empty line after it.
-/

namespace ParityGames

namespace Toml

/-- The kinds of lexer items. -/
inductive Kind where
  | text | string | stringEsc | rawString | multiString | rawMultiString
  | bool | integer | float | datetime
  | array | arrayEnd | tableStart | tableEnd | arrayTableStart | arrayTableEnd
  | keyStart | keyEnd | commentStart | inlineStart | inlineEnd
  | eof | error
  deriving DecidableEq, Repr

/-- A lexer item: its kind, text and line. -/
structure Item where
  kind : Kind
  val : String
  line : Nat
  deriving Repr

/-- The states of the lexer. -/
inductive State where
  | top | topEnd | tableStart | tableEnd | arrayTableEnd | tableNameStart | tableNameEnd
  | bareName | quotedName | keyStart | keyNameStart | keyEnd | value
  | arrayValue | arrayValueEnd | arrayEnd | inlineValue | inlineValueEnd | inlineEnd
  | string | stringEscape | rawString | multiString | multiStringEscape | multiRawString
  | shortUnicode | longUnicode | commentStart | comment | bool
  | numberOrDateStart | numberOrDate | datetime | hexInteger | octalInteger | binaryInteger
  | decimalNumber | decimalNumberStart | baseNumberOrDate | float
  deriving DecidableEq, Repr, Inhabited

/-- The lexer: the text, the current item's start, the position, the line,
whether the end was read, whether the string being read has escapes, the
states to return to and the items made. -/
structure Lexer where
  input : Array Char
  start : Nat := 0
  pos : Nat := 0
  line : Nat := 1
  atEnd : Bool := false
  escaped : Bool := false
  stack : List State := []
  items : Array Item := #[]

/-- Lexing: a stop means an error item was made. -/
abbrev LexM := ExceptT Unit (StateM Lexer)

/-- The character returned at the end of the text. -/
def eof : Char := '\x00'

/-- Whether a character may not appear in TOML text. -/
def isControl (c : Char) : Bool :=
  c != '\t' && c != '\n' && c != '\r' && (c.toNat < 0x20 || c.toNat == 0x7f)

/-- Space or tab. -/
def isBlank (c : Char) : Bool := c == ' ' || c == '\t'

/-- A line break character. -/
def isNL (c : Char) : Bool := c == '\n' || c == '\r'

/-- A character of a bare key. -/
def isBareKeyChar (c : Char) : Bool :=
  ('a' ≤ c && c ≤ 'z') || ('A' ≤ c && c ≤ 'Z') || c.isDigit || c == '_' || c == '-'

/-- A hex digit. -/
def isHex (c : Char) : Bool := c.isDigit || ('a' ≤ c && c ≤ 'f') || ('A' ≤ c && c ≤ 'F')

/-- A letter. -/
def isLetter (c : Char) : Bool := c.isAlpha || (c.toNat ≥ 0xC0 && c != '×' && c != '÷')

/-- The single-quoted literal of a character, as in `'\n'`. -/
def quoteRune (c : Char) : String :=
  if c == '\'' then "'\\''"
  else if c == '"' then "'\"'"
  else String.ofList ('\'' :: Text.escapeChar c ++ ['\''])

/-- A character, or the words `end of file`. -/
def runeOrEOF (c : Char) : String :=
  if c == eof then "end of file" else "'" ++ String.singleton c ++ "'"

namespace Lexer

/-- Records an error item on a line and stops. -/
def failAt {α : Type} (line : Nat) (msg : String) : LexM α := do
  modify fun lx => { lx with items := lx.items.push { kind := .error, val := msg, line } }
  throw ()

/-- An error on the current line; at the end of the text, on the line that
the last character ends. -/
def errorf {α : Type} (msg : String) : LexM α := do
  let lx ← get
  if lx.atEnd then
    let back := lx.pos ≥ 1 && lx.input.getD (lx.pos - 1) ' ' == '\n'
    failAt (if back then lx.line - 1 else lx.line) msg
  else failAt lx.line msg

/-- An error on the previous line. -/
def errorPrevLine {α : Type} (msg : String) : LexM α := do
  failAt ((← get).line - 1) msg

/-- An error on the current line, or the previous one at the end. -/
def error {α : Type} (msg : String) : LexM α := do
  if (← get).atEnd then errorPrevLine msg else failAt (← get).line msg

/-- Reads the next character; the end of the text gives `eof`. -/
def next : LexM Char := do
  let lx ← get
  if lx.pos ≥ lx.input.size then
    set { lx with atEnd := true }
    return eof
  let c := lx.input.getD lx.pos ' '
  let line := if c == '\n' then lx.line + 1 else lx.line
  let loneCR := c == '\r' && (lx.pos + 1 == lx.input.size || lx.input.getD (lx.pos + 1) ' ' != '\n')
  if isControl c || loneCR then
    let hex := String.ofList ((Text.hexDigits c.toNat 2).map Char.toLower)
    failAt line s!"TOML files cannot contain control characters: '0x{hex}'"
  set { lx with pos := lx.pos + 1, line }
  return c

/-- Steps back one character. -/
def backup : LexM Unit := modify fun lx =>
  if lx.atEnd then { lx with atEnd := false }
  else
    let pos := lx.pos - 1
    let line := if pos < lx.input.size && lx.input.getD pos ' ' == '\n' then lx.line - 1 else lx.line
    { lx with pos, line }

/-- The next character, not consumed. -/
def peek : LexM Char := do
  let c ← next
  backup
  return c

/-- Consumes the next character if it is `c`. -/
def accept (c : Char) : LexM Bool := do
  if (← next) == c then return true
  backup
  return false

/-- Drops the text read so far. -/
def ignore : LexM Unit := modify fun lx => { lx with start := lx.pos }

/-- The text read since the last item. -/
def current : LexM String := do
  let lx ← get
  return String.ofList ((lx.input.extract lx.start lx.pos).toList)

/-- Makes an item of the text read so far. -/
def emit (k : Kind) : LexM Unit := do
  let v ← current
  modify fun lx => { lx with items := lx.items.push { kind := k, val := v, line := lx.line }, start := lx.pos }

/-- Makes an item of the text read so far, blanks trimmed. -/
def emitTrim (k : Kind) : LexM Unit := do
  let v := (← current).trimAscii.toString
  modify fun lx => { lx with items := lx.items.push { kind := k, val := v, line := lx.line }, start := lx.pos }

/-- Skips characters while a test holds. -/
def skipWhile (p : Char → Bool) (fuel : Nat) : LexM Unit := do
  for _ in [0:fuel] do
    let c ← next
    if !p c then
      backup
      ignore
      return
  ignore

/-- Saves a state to return to. -/
def push (s : State) : LexM Unit := modify fun lx => { lx with stack := s :: lx.stack }

/-- The state to return to. -/
def pop : LexM State := do
  match (← get).stack with
  | s :: rest =>
    modify fun lx => { lx with stack := rest }
    return s
  | [] => errorf "BUG in lexer: no states to pop"

/-- Runs one state: the next state, or `none` at the end of the text. -/
def step (fuel : Nat) : State → LexM (Option State)
  | .top => do
    let c ← next
    if isBlank c || isNL c then ignore; return some .top
    if c == '#' then push .top; return some .commentStart
    if c == '[' then return some .tableStart
    if c == eof then
      let lx ← get
      if lx.pos > lx.start then errorf "unexpected EOF"
      emit .eof
      return none
    backup
    push .topEnd
    return some .keyStart
  | .topEnd => do
    let c ← next
    if c == '#' then push .top; return some .commentStart
    if isBlank c then return some .topEnd
    if isNL c then ignore; return some .top
    if c == eof then emit .eof; return none
    errorf s!"expected a top-level item to end with a newline, comment, or EOF, but got {quoteRune c} instead"
  | .tableStart => do
    if (← peek) == '[' then
      let _ ← next
      emit .arrayTableStart
      push .arrayTableEnd
    else
      emit .tableStart
      push .tableEnd
    return some .tableNameStart
  | .tableEnd => do emit .tableEnd; return some .topEnd
  | .arrayTableEnd => do
    let c ← next
    if c != ']' then
      errorf s!"expected end of table array name delimiter ']', but got {quoteRune c} instead"
    emit .arrayTableEnd
    return some .topEnd
  | .tableNameStart => do
    skipWhile isBlank fuel
    let c ← peek
    if c == ']' || c == eof then errorf "unexpected end of table name (table names cannot be empty)"
    if c == '.' then errorf "unexpected table separator (table names cannot be empty)"
    if c == '"' || c == '\'' then
      ignore
      push .tableNameEnd
      return some .quotedName
    push .tableNameEnd
    return some .bareName
  | .tableNameEnd => do
    skipWhile isBlank fuel
    let c ← next
    if isBlank c then return some .tableNameEnd
    if c == '.' then ignore; return some .tableNameStart
    if c == ']' then return some (← pop)
    errorf s!"expected '.' or ']' to end table name, but got {quoteRune c} instead"
  | .bareName => do
    let c ← next
    if isBareKeyChar c then return some .bareName
    backup
    emit .text
    return some (← pop)
  | .quotedName => do
    let c ← next
    if isBlank c then ignore; return some .value
    if c == '"' then ignore; return some .string
    if c == '\'' then ignore; return some .rawString
    if c == eof then errorf "unexpected EOF; expected value"
    errorf s!"expected value but found {quoteRune c} instead"
  | .keyStart => do
    skipWhile isBlank fuel
    let c ← peek
    if c == '=' || c == eof then errorf "unexpected '=': key name appears blank"
    if c == '.' then errorf "unexpected '.': keys cannot start with a '.'"
    if c == '"' || c == '\'' then ignore
    emit .keyStart
    return some .keyNameStart
  | .keyNameStart => do
    skipWhile isBlank fuel
    let c ← peek
    if c == '=' || c == eof then errorf "unexpected '='"
    if c == '.' then errorf "unexpected '.'"
    if c == '"' || c == '\'' then
      ignore
      push .keyEnd
      return some .quotedName
    push .keyEnd
    return some .bareName
  | .keyEnd => do
    skipWhile isBlank fuel
    let c ← next
    if isBlank c then ignore; return some .keyEnd
    if c == eof then errorf "unexpected EOF; expected key separator '='"
    if c == '.' then ignore; return some .keyNameStart
    if c == '=' then
      emit .keyEnd
      ignore
      return some .value
    if c == '\n' then errorPrevLine s!"expected '.' or '=', but got {quoteRune c} instead"
    errorf s!"expected '.' or '=', but got {quoteRune c} instead"
  | .value => do
    let c ← next
    if isBlank c then ignore; return some .value
    if c.isDigit then backup; return some .numberOrDateStart
    if c == '[' then
      ignore
      emit .array
      return some .arrayValue
    if c == '{' then
      ignore
      emit .inlineStart
      return some .inlineValue
    if c == '"' then
      if (← accept '"') then
        if (← accept '"') then
          ignore
          return some .multiString
        backup
      ignore
      return some .string
    if c == '\'' then
      if (← accept '\'') then
        if (← accept '\'') then
          ignore
          return some .multiRawString
        backup
      ignore
      return some .rawString
    if c == '.' then errorf "floats must start with a digit, not '.'"
    if c == 'i' || c == 'n' then
      let a ← accept 'n'
      let ok ← if a then accept 'f' else pure false
      let ok ← if ok then pure true else do
        let a ← accept 'a'
        if a then accept 'n' else pure false
      if ok then
        emit .float
        return some (← pop)
    if c == '-' || c == '+' then return some .decimalNumberStart
    if isLetter c then backup; return some .bool
    if c == eof then errorf "unexpected EOF; expected value"
    if c == '\n' then errorPrevLine s!"expected value but found {quoteRune c} instead"
    errorf s!"expected value but found {quoteRune c} instead"
  | .arrayValue => do
    let c ← next
    if isBlank c || isNL c then ignore; return some .arrayValue
    if c == '#' then push .arrayValue; return some .commentStart
    if c == ',' then errorf "unexpected comma"
    if c == ']' then return some .arrayEnd
    backup
    push .arrayValueEnd
    return some .value
  | .arrayValueEnd => do
    let c ← next
    if isBlank c || isNL c then ignore; return some .arrayValueEnd
    if c == '#' then push .arrayValueEnd; return some .commentStart
    if c == ',' then ignore; return some .arrayValue
    if c == ']' then return some .arrayEnd
    errorf s!"expected a comma (',') or array terminator (']'), but got {runeOrEOF c}"
  | .arrayEnd => do
    ignore
    emit .arrayEnd
    return some (← pop)
  | .inlineValue => do
    let c ← next
    if isBlank c then ignore; return some .inlineValue
    if isNL c then errorPrevLine "newlines not allowed within inline tables"
    if c == '#' then push .inlineValue; return some .commentStart
    if c == ',' then errorf "unexpected comma"
    if c == '}' then return some .inlineEnd
    backup
    push .inlineValueEnd
    return some .keyStart
  | .inlineValueEnd => do
    let c ← next
    if isBlank c then ignore; return some .inlineValueEnd
    if isNL c then errorPrevLine "newlines not allowed within inline tables"
    if c == '#' then push .inlineValueEnd; return some .commentStart
    if c == ',' then
      ignore
      skipWhile isBlank fuel
      if (← peek) == '}' then errorf "trailing comma not allowed in inline tables"
      return some .inlineValue
    if c == '}' then return some .inlineEnd
    errorf s!"expected a comma or an inline table terminator '\x7d', but got {runeOrEOF c} instead"
  | .inlineEnd => do
    ignore
    emit .inlineEnd
    return some (← pop)
  | .string => do
    let c ← next
    if c == eof then errorf "unexpected EOF; expected '\"'"
    if isNL c then errorPrevLine "strings cannot contain newlines"
    if c == '\\' then push .string; return some .stringEscape
    if c == '"' then
      backup
      if (← get).escaped then
        modify fun lx => { lx with escaped := false }
        emit .stringEsc
      else emit .string
      let _ ← next
      ignore
      return some (← pop)
    return some .string
  | .stringEscape => do
    modify fun lx => { lx with escaped := true }
    let c ← next
    if ['b', 't', 'n', 'f', 'r', '"', ' ', '\t', '\\'].contains c then return some (← pop)
    if c == 'u' then return some .shortUnicode
    if c == 'U' then return some .longUnicode
    error s!"invalid escape in string '\\{String.singleton c}'"
  | .shortUnicode => do
    for _ in [0:4] do
      let c ← next
      if !isHex c then
        let cur ← current
        errorf s!"expected four hexadecimal digits after '\\u', but got {Text.quote cur} instead"
    return some (← pop)
  | .longUnicode => do
    for _ in [0:8] do
      let c ← next
      if !isHex c then
        let cur ← current
        errorf s!"expected eight hexadecimal digits after '\\U', but got {Text.quote cur} instead"
    return some (← pop)
  | .rawString => do
    let c ← next
    if c == eof then errorf "unexpected EOF; expected \"'\""
    if isNL c then errorPrevLine "strings cannot contain newlines"
    if c == '\'' then
      backup
      emit .rawString
      let _ ← next
      ignore
      return some (← pop)
    return some .rawString
  | .multiString => do
    let c ← next
    if c == eof then errorf "unexpected EOF; expected '\"\"\"'"
    if c == '\\' then return some .multiStringEscape
    if c == '"' then
      if (← accept '"') then
        if (← accept '"') then
          if (← peek) == '"' then
            let cur ← current
            if cur.endsWith "\"\"\"\"\"" && !cur.endsWith "\\\"\"\"\"\"" then
              errorf "unexpected '\"\"\"\"\"\"'"
            backup
            backup
            return some .multiString
          backup
          backup
          backup
          modify fun lx => { lx with escaped := false }
          emit .multiString
          let _ ← next
          let _ ← next
          let _ ← next
          ignore
          return some (← pop)
        backup
    return some .multiString
  | .multiStringEscape => do
    if isNL (← next) then return some .multiString
    backup
    push .multiString
    return some .stringEscape
  | .multiRawString => do
    let c ← next
    if c == eof then errorf "unexpected EOF; expected \"'''\""
    if c == '\'' then
      if (← accept '\'') then
        if (← accept '\'') then
          if (← peek) == '\'' then
            if (← current).endsWith "'''''" then errorf "unexpected \"''''''\""
            backup
            backup
            return some .multiRawString
          backup
          backup
          backup
          emit .rawMultiString
          let _ ← next
          let _ ← next
          let _ ← next
          ignore
          return some (← pop)
        backup
    return some .multiRawString
  | .commentStart => do
    ignore
    emit .commentStart
    return some .comment
  | .comment => do
    let c ← next
    if isNL c || c == eof then
      backup
      emit .text
      return some (← pop)
    return some .comment
  | .bool => do
    let mut word := ""
    for _ in [0:fuel] do
      let c ← next
      if !isLetter c then
        backup
        break
      word := word.push c
    if word == "true" || word == "false" then
      emit .bool
      return some (← pop)
    errorf s!"expected value but found {Text.quote word} instead"
  | .numberOrDateStart => do
    let c ← next
    if c == '0' then return some .baseNumberOrDate
    if !c.isDigit then errorf s!"expected a digit but got {quoteRune c}"
    return some .numberOrDate
  | .numberOrDate => do
    let c ← next
    if c.isDigit then return some .numberOrDate
    if c == '-' || c == ':' then return some .datetime
    if c == '_' then return some .decimalNumber
    if c == '.' || c == 'e' || c == 'E' then return some .float
    backup
    emit .integer
    return some (← pop)
  | .datetime => do
    let c ← next
    if c.isDigit || ['-', ':', 'T', 't', ' ', '.', 'Z', 'z', '+'].contains c then return some .datetime
    backup
    emitTrim .datetime
    return some (← pop)
  | .hexInteger => do
    let c ← next
    if isHex c || c == '_' then return some .hexInteger
    backup
    emit .integer
    return some (← pop)
  | .octalInteger => do
    let c ← next
    if ('0' ≤ c && c ≤ '7') || c == '_' then return some .octalInteger
    backup
    emit .integer
    return some (← pop)
  | .binaryInteger => do
    let c ← next
    if c == '0' || c == '1' || c == '_' then return some .binaryInteger
    backup
    emit .integer
    return some (← pop)
  | .decimalNumber => do
    let c ← next
    if c.isDigit || c == '_' then return some .decimalNumber
    if c == '.' || c == 'e' || c == 'E' then return some .float
    backup
    emit .integer
    return some (← pop)
  | .decimalNumberStart => do
    let c ← next
    if c == 'i' then
      let a ← accept 'n'
      let b ← if a then accept 'f' else pure false
      if !b then
        let cur ← current
        errorf s!"invalid float: '{cur}'"
      emit .float
      return some (← pop)
    if c == 'n' then
      let a ← accept 'a'
      let b ← if a then accept 'n' else pure false
      if !b then
        let cur ← current
        errorf s!"invalid float: '{cur}'"
      emit .float
      return some (← pop)
    if c == '0' then
      let p ← peek
      if p == 'b' || p == 'o' || p == 'x' then
        let cur ← current
        errorf s!"cannot use sign with non-decimal numbers: '{cur}{String.singleton p}'"
    if c == '.' then errorf "floats must start with a digit, not '.'"
    if c.isDigit then return some .decimalNumber
    errorf s!"expected a digit but got {quoteRune c}"
  | .baseNumberOrDate => do
    let c ← next
    if c.isDigit then return some .numberOrDate
    if c == '_' then return some .decimalNumber
    if c == '.' || c == 'e' || c == 'E' then return some .float
    if c == 'b' then
      let p ← peek
      let cur ← current
      if !(p == '0' || p == '1') then errorf s!"not a binary number: '{cur}{String.singleton p}'"
      return some .binaryInteger
    if c == 'o' then
      let p ← peek
      let cur ← current
      if !('0' ≤ p && p ≤ '7') then errorf s!"not an octal number: '{cur}{String.singleton p}'"
      return some .octalInteger
    if c == 'x' then
      let p ← peek
      let cur ← current
      if !isHex p then errorf s!"not a hexadecimal number: '{cur}{String.singleton p}'"
      return some .hexInteger
    backup
    emit .integer
    return some (← pop)
  | .float => do
    let c ← next
    if c.isDigit || ['_', '.', '-', '+', 'e', 'E'].contains c then return some .float
    backup
    emit .float
    return some (← pop)

/-- Runs the lexer from a state for at most `fuel` steps. -/
def run (fuel : Nat) : Nat → State → LexM Unit
  | 0, _ => errorf "unexpected EOF"
  | n + 1, s => do
    match ← step fuel s with
    | none => return
    | some s' => run fuel n s'

end Lexer

/-- The items of a text, ending with an end item or an error item. -/
def lex (text : String) : Array Item :=
  let input := text.toList.toArray
  let lx : Lexer := { input }
  let fuel := 16 * (input.size + 4)
  ((Lexer.run (input.size + 2) fuel .top).run lx).2.items

end Toml

end ParityGames
