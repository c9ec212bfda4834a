import ParityGames.Text.Utf8
import ParityGames.Text.Quoted

/-!
# HTTP requests

The parts of an HTTP request a handler reads: the method, the target split
into its path and query, the headers and the body.

* The path and the query values are percent-decoded; in a query, `+` stands
  for a blank.  The query is split at `&`; a pair holding `;`, an empty pair
  and a pair with a malformed escape are skipped.  A key may repeat; the
  first value counts.
* Header names are compared in canonical form: the first letter and every
  letter after a dash in capitals, the others in lower case.
* A request id is a UUID in one of its text forms: 36 characters with dashes
  at positions 8, 13, 18 and 23 and hex digits elsewhere, the same wrapped in
  two more characters (such as braces) or after `urn:uuid:`, or 32 hex
  digits.
* A media type is compared in lower case without blanks, its parameters
  after `;` as `key=value` pairs.
-/

namespace ParityGames

namespace Server

/-- A request as a handler sees it. -/
structure Request where
  method : String := "GET"
  /-- The request target: a path, with an optional query after `?`. -/
  target : String := "/"
  headers : List (String × String) := []
  body : ByteArray := ByteArray.empty
  /-- Whether reading the body fails after the bytes of `body`. -/
  bodyFails : Bool := false
  deriving Inhabited

/-- Whether a character is a hex digit. -/
def isHexDigit (c : Char) : Bool :=
  c.isDigit || ('a' ≤ c && c ≤ 'f') || ('A' ≤ c && c ≤ 'F')

/-- The value of a hex digit. -/
def hexValue (c : Char) : Nat :=
  if c.isDigit then c.toNat - 48 else c.toLower.toNat - 87

/-- Percent-decodes the bytes of a text, reading `+` as a blank when `plus`
is set, for at most `fuel` characters; `none` for a malformed escape. -/
def unescapeChars (plus : Bool) : Nat → List Char → Option (List UInt8)
  | 0, _ => some []
  | _, [] => some []
  | fuel + 1, '%' :: a :: b :: rest =>
    if isHexDigit a && isHexDigit b then
      (unescapeChars plus fuel rest).map ((hexValue a * 16 + hexValue b).toUInt8 :: ·)
    else none
  | _, '%' :: _ => none
  | fuel + 1, c :: rest =>
    let bytes := if plus && c == '+' then [32] else (String.singleton c).toUTF8.toList
    (unescapeChars plus fuel rest).map (bytes ++ ·)

/-- Percent-decodes a text: `none` for a malformed escape. -/
def unescape (plus : Bool) (s : String) : Option String :=
  (unescapeChars plus (s.length + 1) s.toList).map fun bs =>
    String.ofList ((Text.decode bs).map Text.Piece.shown)

/-- The path and the raw query of a target. -/
def splitTarget (target : String) : String × String :=
  let target :=
    if target.startsWith "http://" || target.startsWith "https://" then
      let afterScheme := ((target.splitOn "://").drop 1).headD ""
      match afterScheme.splitOn "/" with
      | _ :: rest@(_ :: _) => "/" ++ "/".intercalate rest
      | _ => "/"
    else target
  match target.splitOn "?" with
  | path :: rest@(_ :: _) => (path, "?".intercalate rest)
  | _ => (target, "")

/-- The path of a request, percent-decoded. -/
def Request.path (r : Request) : String :=
  let raw := (splitTarget r.target).1
  (unescape false raw).getD raw

/-- The path a request is routed by: the raw path. -/
def Request.routePath (r : Request) : String := (splitTarget r.target).1

/-- The decoded pairs of a raw query. -/
def queryPairs (q : String) : List (String × String) :=
  (q.splitOn "&").filterMap fun pair =>
    if pair.isEmpty || pair.contains ';' then none
    else
      let (k, v) := match pair.splitOn "=" with
        | k :: rest@(_ :: _) => (k, "=".intercalate rest)
        | _ => (pair, "")
      match unescape true k, unescape true v with
      | some k, some v => some (k, v)
      | _, _ => none

/-- The first value of a query key, or the empty text. -/
def Request.query (r : Request) (key : String) : String :=
  (((queryPairs (splitTarget r.target).2).find? (·.1 == key)).map (·.2)).getD ""

/-- Whether a character may appear in a header name. -/
def isTokenChar (c : Char) : Bool :=
  c.toNat > 32 && c.toNat < 127 && !"()<>@,;:\\\"/[]?={}".contains c

/-- The canonical form of a header name; a name with a character that may
not appear in one stays as it is. -/
def canonicalHeader (name : String) : String :=
  if !name.all isTokenChar then name
  else
    let (_, out) := name.toList.foldl (fun (up, out) c =>
      (c == '-', out.push (if up then c.toUpper else c.toLower))) (true, "")
    out

/-- The value of a header, or the empty text. -/
def Request.header (r : Request) (name : String) : String :=
  let key := canonicalHeader name
  ((r.headers.find? fun (k, _) => canonicalHeader k == key).map (·.2)).getD ""

/-- Whether a text of 36 characters has the dashes and hex digits of a
UUID. -/
def dashedUuid (cs : List Char) : Bool :=
  cs.length == 36 && cs.zipIdx.all fun (c, i) =>
    if i == 8 || i == 13 || i == 18 || i == 23 then c == '-' else isHexDigit c

/-- Whether a text is a UUID in one of its text forms. -/
def isUuid (s : String) : Bool :=
  let cs := s.toList
  match cs.length with
  | 36 => dashedUuid cs
  | 38 => dashedUuid ((cs.drop 1).take 36)
  | 45 => (String.ofList (cs.take 9)).toLower == "urn:uuid:" && dashedUuid (cs.drop 9)
  | 32 => cs.all isHexDigit
  | _ => false

/-- Whether a character is a blank in a media type. -/
def isMediaBlank (c : Char) : Bool := c == ' ' || c == '\t' || c == '\n' || c == '\r'

/-- Reads the parameters of a media type, for at most `fuel` of them:
whether they are well formed and the keys seen. -/
def mediaParams : Nat → List Char → List String → Bool
  | 0, _, _ => true
  | fuel + 1, cs, seen =>
    let cs := cs.dropWhile isMediaBlank
    match cs with
    | [] => true
    | ';' :: rest => if (rest.dropWhile isMediaBlank).isEmpty then true else mediaParams fuel rest seen
    | _ =>
      let key := cs.takeWhile isTokenChar
      let rest := (cs.drop key.length).dropWhile isMediaBlank
      match rest with
      | '=' :: rest =>
        let rest := rest.dropWhile isMediaBlank
        let (ok, rest) := match rest with
          | '"' :: more =>
            let body := more.takeWhile (· != '"')
            let after := more.drop body.length
            (!after.isEmpty, after.drop 1)
          | _ =>
            let value := rest.takeWhile isTokenChar
            (!value.isEmpty, rest.drop value.length)
        let k := (String.ofList key).toLower
        if key.isEmpty || !ok || seen.contains k then false
        else
          match rest.dropWhile isMediaBlank with
          | [] => true
          | ';' :: more => mediaParams fuel more (k :: seen)
          | _ => false
      | _ => false

/-- The media type of a `Content-Type` value, lower-cased, if the value is
well formed. -/
def mediaType (v : String) : Option String :=
  let (base, params) := match v.splitOn ";" with
    | b :: rest@(_ :: _) => (b, ";".intercalate rest)
    | _ => (v, "")
  let mt := (base.toLower.trimAscii).toString
  match mt.splitOn "/" with
  | [t, s] =>
    if t.isEmpty || s.isEmpty || !t.all isTokenChar || !s.all isTokenChar then none
    else if mediaParams (params.length + 1) params.toList [] then some mt else none
  | _ => none

theorem isUuid_plain : isUuid "123e4567-e89b-12d3-a456-426614174000" = true := by decide +kernel

theorem isUuid_short : isUuid "abc" = false := by decide +kernel

end Server

end ParityGames
