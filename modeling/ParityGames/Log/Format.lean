import ParityGames.Log.Record
import ParityGames.Text.Blank
import ParityGames.Text.Printable
import ParityGames.Text.Duration

/-!
# Log lines

A logger writes each record it keeps as one line: the time when it shows
times, the level as four capitals (`DEBU`, `INFO`, `WARN`, `ERRO`), the
message, and ` key=value` for each field.

A value is written as is unless it is empty (then `""`), spans several
lines, or holds a quote, an equals sign, a blank or an unprintable
character; such a value is quoted, with quotes and unprintable characters
escaped.  A value of several lines moves to lines of its own below
`key=`, each line indented by `  │ `.
-/

namespace ParityGames

namespace Log

/-- The four-letter name of a level. -/
def Level.tag : Level → String
  | .debug => "DEBU"
  | .info => "INFO"
  | .warn => "WARN"
  | .error => "ERRO"

/-- The text of a value. -/
def Value.render : Value → String
  | .text s => s
  | .int n => toString n
  | .duration d => Text.durationText d

/-- Whether a value must be quoted. -/
def needsQuoting (s : String) : Bool :=
  s.toList.any fun c => c == '"' || c == '=' || Text.isBlank c || !Text.isPrintable c

/-- Escapes unprintable characters, and quotes when `quotes` is set. -/
def escapeForOutput (quotes : Bool) (s : String) : String :=
  if !(s.toList.any fun c => !Text.isPrintable c || c == '"') then s
  else
    String.join (s.toList.map fun c =>
      if quotes && c == '"' then "\\\""
      else if Text.isPrintable c then String.singleton c
      else match c with
        | '\x07' => "\\a"
        | '\x08' => "\\b"
        | '\x0c' => "\\f"
        | '\n' => "\\n"
        | '\r' => "\\r"
        | '\t' => "\\t"
        | '\x0b' => "\\v"
        | _ =>
          if c.toNat < 0x20 then "\\x" ++ String.ofList (Text.hexDigits c.toNat 2)
          else if c.toNat < 0x10000 then "\\u" ++ String.ofList (Text.hexDigits c.toNat 4)
          else "\\U" ++ String.ofList (Text.hexDigits c.toNat 8))

/-- The indented lines of a value that spans several lines. -/
def indentLines (more : Bool) (s : String) : String :=
  let pieces := s.splitOn "\n"
  let body := pieces.dropLast.map fun p => "  │ " ++ escapeForOutput false p ++ "\n"
  let last := pieces.getLastD ""
  String.join body ++
    (if last.isEmpty then "" else "  │ " ++ escapeForOutput false last ++ (if more then "\n" else ""))

/-- The fields of a record as text. -/
def fieldsText : List (String × Value) → String
  | [] => ""
  | (k, v) :: rest =>
    let val := v.render
    let more := !rest.isEmpty
    let piece :=
      if k.isEmpty then ""
      else if val.isEmpty then " " ++ k ++ "=\"\""
      else if (val.splitOn "\n").length > 1 then "\n  " ++ k ++ "=\n" ++ indentLines more val
      else if needsQuoting val then " " ++ k ++ "=\"" ++ escapeForOutput true val ++ "\""
      else " " ++ k ++ "=" ++ val
    piece ++ fieldsText rest

/-- The line of a record, with the time text when times are shown. -/
def Record.line (time : Option String) (r : Record) : String :=
  let stamp := match time with
    | some t => t ++ " "
    | none => ""
  stamp ++ r.level.tag ++ " " ++ r.message ++ fieldsText r.fields ++ "\n"

/-- A logger: the lowest level it keeps and the time text it shows, if any. -/
structure Logger where
  level : Level := .info
  time : Option String := none
  deriving Repr, DecidableEq, Inhabited

/-- The text a logger writes for a record: nothing below its level. -/
def Logger.write (l : Logger) (r : Record) : String :=
  if r.level.rank < l.level.rank then "" else Record.line l.time r

end Log

end ParityGames
