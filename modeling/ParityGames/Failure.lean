import ParityGames.Game.Arena
import ParityGames.Measure.Basic

/-!
# Failures

A failure is what an operation reports when it cannot go on: a text, read
from the innermost cause outwards, the *marks* of the causes it carries (that
a vertex was unknown, that a file does not exist, …), and the outermost
*coded* cause, if any.  A coded cause has a machine-readable code, a message
for users and possibly a cause of its own; its text is
`CODE: message` or `CODE: message: cause`.

Wrapping a failure in context prefixes its text and keeps its marks and its
coded cause; wrapping it in a coded cause makes that the outermost one.
-/

namespace ParityGames

/-- A machine-readable error code.  The code is an open set of names; the
program uses the constants below. -/
structure ErrorCode where
  name : String
  deriving DecidableEq, Repr, Inhabited

namespace ErrorCode

def invalidInput : ErrorCode := ⟨"INVALID_INPUT"⟩
def invalidGame : ErrorCode := ⟨"INVALID_GAME"⟩
def invalidStrategy : ErrorCode := ⟨"INVALID_STRATEGY"⟩
def invalidFormat : ErrorCode := ⟨"INVALID_FORMAT"⟩
def invalidConfig : ErrorCode := ⟨"INVALID_CONFIG"⟩
def invalidPath : ErrorCode := ⟨"INVALID_PATH"⟩
def gameTooLarge : ErrorCode := ⟨"GAME_TOO_LARGE"⟩
def notFound : ErrorCode := ⟨"NOT_FOUND"⟩
def fileNotFound : ErrorCode := ⟨"FILE_NOT_FOUND"⟩
def internal : ErrorCode := ⟨"INTERNAL_ERROR"⟩
def unsupported : ErrorCode := ⟨"UNSUPPORTED"⟩

/-- The HTTP status of a code: invalid requests are `400`, oversized games
`413`, missing things `404`, unsupported features `501`, the rest `500`. -/
def httpStatus (c : ErrorCode) : Nat :=
  match c.name with
  | "INVALID_INPUT" | "INVALID_GAME" | "INVALID_STRATEGY" | "INVALID_FORMAT"
  | "INVALID_CONFIG" | "INVALID_PATH" => 400
  | "GAME_TOO_LARGE" => 413
  | "NOT_FOUND" | "FILE_NOT_FOUND" => 404
  | "UNSUPPORTED" => 501
  | _ => 500

end ErrorCode

/-- A cause that callers can test for, whatever context surrounds it. -/
inductive Mark where
  | unknownVertex
  | negativePriority
  | noSuccessor
  | invalidEdgeEndpoint
  | malformed
  | duplicateVertex
  | missingVertex
  | outOfRange
  | notExist
  | network
  | converterMissing
  | canceled
  | deadlineExceeded
  | retryable
  /-- A TOML document that could not be read; the failure's text ends with
  the reader's own message, which starts `toml: `. -/
  | tomlSyntax
  /-- JSON text that is not well formed; the failure's text ends with the
  reader's own message, after `decode: `. -/
  | jsonSyntax
  /-- A JSON value of the wrong kind for its place; the failure's text ends
  with the decoder's own message, after `decode: `. -/
  | jsonType
  deriving DecidableEq, Repr

/-- The outermost coded cause of a failure. -/
structure CodedCause where
  code : ErrorCode
  message : String
  cause : Option String
  deriving DecidableEq, Repr

/-- A failure: its text, the marks of its causes and its outermost coded
cause. -/
structure Failure where
  text : String
  marks : List Mark := []
  outermost : Option CodedCause := none
  deriving DecidableEq, Repr, Inhabited

namespace Failure

/-- A failure with nothing but a text. -/
def plain (text : String) : Failure := { text }

/-- A failure of one marked cause. -/
def marked (text : String) (m : Mark) : Failure := { text, marks := [m] }

/-- Prefixes the text with a context, as in `context: text`. -/
def context (f : Failure) (label : String) : Failure :=
  { f with text := label ++ ": " ++ f.text }

/-- Adds a mark. -/
def mark (f : Failure) (m : Mark) : Failure := { f with marks := m :: f.marks }

/-- Whether the failure carries a mark. -/
def has (f : Failure) (m : Mark) : Bool := f.marks.contains m

/-- A coded failure without a cause. -/
def coded (code : ErrorCode) (message : String) : Failure :=
  { text := code.name ++ ": " ++ message, outermost := some ⟨code, message, none⟩ }

/-- A coded failure around a cause: the cause keeps its marks. -/
def wrapCoded (code : ErrorCode) (cause : Failure) (message : String) : Failure :=
  { text := code.name ++ ": " ++ message ++ ": " ++ cause.text
    marks := cause.marks
    outermost := some ⟨code, message, some cause.text⟩ }

/-- The code of the outermost coded cause. -/
def code? (f : Failure) : Option ErrorCode := f.outermost.map (·.code)

/-- The message meant for users: the outermost coded message, or the text. -/
def userMessage (f : Failure) : String :=
  match f.outermost with
  | some c => c.message
  | none => f.text

/-- The HTTP status of a failure, from its code; uncoded failures are `500`. -/
def httpStatus (f : Failure) : Nat :=
  match f.code? with
  | some c => c.httpStatus
  | none => 500

/-- Whether the outermost coded cause has the given code. -/
def hasCode (f : Failure) (c : ErrorCode) : Bool := f.code? == some c

/-- The failure of an arena operation. -/
def ofArena (e : ArenaError) : Failure :=
  marked e.message <|
    match e.kind with
    | .unknownVertex => .unknownVertex
    | .negativePriority => .negativePriority
    | .noSuccessor => .noSuccessor
    | .invalidEdgeEndpoint => .invalidEdgeEndpoint

/-- The failure of a measure operation. -/
def ofMeasure (e : MeasureError) : Failure := marked e.message .outOfRange

/-- The failure of a cancelled operation. -/
def canceledFailure : Failure := marked "context canceled" .canceled

/-- The failure of an operation whose deadline passed. -/
def deadlineFailure : Failure := marked "context deadline exceeded" .deadlineExceeded

theorem context_text (f : Failure) (label : String) :
    (f.context label).text = label ++ ": " ++ f.text := rfl

theorem userMessage_coded (c : ErrorCode) (m : String) : (coded c m).userMessage = m := rfl

end Failure

end ParityGames
