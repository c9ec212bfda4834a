import ParityGames.Server.Request
import ParityGames.Pipeline.Runner
import ParityGames.Format.GameFile
import ParityGames.Limits
import ParityGames.BuildInfo

/-!
# The HTTP API

The server answers five routes:

* `GET /healthz` with `{"status":"ok"}`;
* `GET /version` with the build information;
* `GET /strategies` with the names of the strategies;
* `POST /solve` with the solution of the game in the body;
* `POST /render` with the drawing of the solved game in the body.

A path the server knows with another method is answered `405` with an empty
body, and so is a method HTTP does not define; any other path is a coded
`NOT_FOUND` error.  Bodies are PGSolver text, or JSON when the content type
is `application/json`.  A body longer than the limit, an empty body and a
game over the size limits are refused before solving.

Errors are JSON objects with a code and a message; their status comes from
the code.  A failure without a code, or with a code of status 500 or more,
is logged and reported only as `internal error`.  Every request gets a
request id, the one the client sent when it is a UUID, and is logged once
answered.
-/

namespace ParityGames

namespace Server

/-- The body limit unless one is configured: 8 MiB. -/
def defaultMaxBodyBytes : Int := 8 * 1024 * 1024

/-- The priority limit unless one is configured. -/
def defaultMaxPriority : Int := 4096

/-- The measure size limit unless one is configured. -/
def defaultMaxMeasureCells : Int := 33554432

/-- The address the server listens on unless one is configured. -/
def defaultAddr : String := ":8080"

/-- How long reading and checking a request takes before its solve starts,
in nanoseconds: a deadline shorter than this has passed by then. -/
def checkTime : Int := 20000

/-- The settings of a server; zero means the default, and for the vertex
limit and the timeout, none. -/
structure Config where
  addr : String := ""
  maxBodyBytes : Int := 0
  maxVertices : Int := 0
  maxPriority : Int := 0
  maxMeasureCells : Int := 0
  /-- The time a request may take, in nanoseconds. -/
  timeout : Int := 0
  deriving Repr, Inhabited

/-- The settings with the defaults filled in. -/
def Config.resolved (c : Config) : Config :=
  { c with
    addr := if c.addr.isEmpty then defaultAddr else c.addr
    maxBodyBytes := if c.maxBodyBytes ≤ 0 then defaultMaxBodyBytes else c.maxBodyBytes
    maxPriority := if c.maxPriority ≤ 0 then defaultMaxPriority else c.maxPriority
    maxMeasureCells := if c.maxMeasureCells ≤ 0 then defaultMaxMeasureCells else c.maxMeasureCells }

/-- The lifetime of a request under a configuration. -/
def Config.lifetime (c : Config) : Lifetime :=
  if 0 < c.timeout && c.timeout < checkTime then .expired else .live

/-- An answer. -/
structure Response where
  status : Nat
  /-- The content type; empty when none was set. -/
  contentType : String
  requestId : String
  body : ByteArray
  deriving Inhabited

/-- The methods HTTP defines. -/
def knownMethods : List String :=
  ["CONNECT", "DELETE", "GET", "HEAD", "OPTIONS", "PATCH", "POST", "PUT", "TRACE"]

/-- The routes: method and path. -/
def routes : List (String × String) :=
  [("GET", "/healthz"), ("GET", "/version"), ("GET", "/strategies"), ("POST", "/solve"),
   ("POST", "/render")]

/-- Whether a character is a Unicode blank. -/
def isUnicodeSpace (c : Char) : Bool :=
  let n := c.toNat
  (9 ≤ n && n ≤ 13) || n == 32 || n == 0x85 || n == 0xA0 || n == 0x1680 ||
    (0x2000 ≤ n && n ≤ 0x200A) || n == 0x2028 || n == 0x2029 || n == 0x202F ||
    n == 0x205F || n == 0x3000

/-- Reads a decimal 64-bit integer: an optional sign and digits. -/
def parseDecimal (s : String) : Option Int :=
  let (neg, digits) := match s.toList with
    | '+' :: r => (false, r)
    | '-' :: r => (true, r)
    | r => (false, r)
  if digits.isEmpty || !digits.all Char.isDigit then none
  else
    let n : Int := digits.foldl (fun n c => n * 10 + (c.toNat - 48 : Nat)) 0
    let v := if neg then -n else n
    if Text.fitsInt64 v then some v else none

/-- The solve options of a request's query. -/
def Request.solveOptions (r : Request) : Except Failure Pipeline.Options := do
  let raw := r.query "seed"
  let seed ← if raw.isEmpty then pure 0
    else match parseDecimal raw with
      | some n => pure n
      | none => throw (.coded .invalidInput s!"invalid seed {Text.quote raw}")
  return { strategy := r.query "strategy", lockPolicy := r.query "lock_policy",
           refresh := r.query "refresh" == "true", seed }

/-- The content type of a drawing format. -/
def contentType : Render.Format → String
  | .svg => "image/svg+xml"
  | .png => "image/png"
  | .pdf => "application/pdf"
  | .dot => "text/vnd.graphviz"

/-- The JSON of the build information. -/
def buildJson (b : BuildInfo) : Json :=
  .obj [("version", .str b.version), ("commit", .str b.commit), ("date", .str b.date),
    ("go_version", .str b.toolchain)]

/-- The JSON of a solution. -/
def solutionJson (id : String) (res : Pipeline.Result) : Json :=
  .obj [("id", .str id), ("strategy", .str res.strategy.name),
    ("winners", match res.winners with
      | some ws => .arr (ws.toList.map fun p => .str p.name)
      | none => .null),
    ("lifts", Json.int res.stats.lifts), ("max_recursion_depth", Json.int res.stats.maxRecursionDepth),
    ("locked", Json.int res.stats.locked), ("duration_us", Json.int (res.duration / 1000)),
    ("cached", .bool res.cacheHit)]

/-- The status, content type and body of a JSON answer. -/
def jsonAnswer (status : Nat) (v : Json) : Nat × String × ByteArray :=
  (status, "application/json", (Json.encodeLine v).toUTF8)

variable {m : Type → Type} [Monad m]

/-- The answer to a failure, logging it when it is the server's own. -/
def failureAnswer (fx : Pipeline.Effects m) (path id : String) (f : Failure) :
    m (Nat × String × ByteArray) := do
  let status := f.httpStatus
  let code := (f.code?.map (·.name)).getD "INTERNAL_ERROR"
  let message ← if status ≥ 500 then do
      fx.log (Log.error "request failed" [("path", .text path), ("err", .text f.text)])
      pure "internal error"
    else pure <| match f.outermost with
      | some c => match c.cause with
        | some cause => c.message ++ ": " ++ cause
        | none => c.message
      | none => f.text
  return jsonAnswer status (.obj [("error", .obj [("code", .str code), ("message", .str message)]),
    ("request_id", .str id)])

/-- Reads the game of a request body and checks it against the limits. -/
def readGame (fx : Pipeline.Effects m) (c : Config) (r : Request) : m (Except Failure Arena) := do
  if (r.body.size : Int) > c.maxBodyBytes then
    return .error (.coded .gameTooLarge s!"game exceeds {c.maxBodyBytes} bytes")
  if r.bodyFails then
    return .error (Failure.wrapCoded .invalidInput (.plain "connection reset by client") "read body")
  let text := GameFile.bytesText r.body
  if text.all isUnicodeSpace then return .error (.coded .invalidInput "empty request body")
  let format := if mediaType (r.header "Content-Type") == some "application/json" then "json"
    else "pgsolver"
  match ← Pipeline.decode fx format text with
  | .error f => return .error f
  | .ok a =>
    return do
      Limits.checkGameSize a.size c.maxVertices
      Limits.checkPriority a.maxPriority c.maxPriority
      Limits.checkMeasureSize a.size a.maxPriority c.maxMeasureCells
      return a

/-- Answers `POST /solve`. -/
def solveRoute (fx : Pipeline.Effects m) (run : Pipeline.Runner) (c : Config) (r : Request)
    (id : String) : m (Except Failure (Nat × String × ByteArray)) := do
  match ← readGame fx c r with
  | .error f => return .error f
  | .ok a =>
    match r.solveOptions with
    | .error f => return .error f
    | .ok o =>
      match ← Pipeline.solve fx run c.lifetime a o with
      | .error f => return .error f
      | .ok res => return .ok (jsonAnswer 200 (solutionJson id res))

/-- Answers `POST /render`. -/
def renderRoute (fx : Pipeline.Effects m) (run : Pipeline.Runner) (c : Config) (r : Request) :
    m (Except Failure (Nat × String × ByteArray)) := do
  match ← readGame fx c r with
  | .error f => return .error f
  | .ok a =>
    match r.solveOptions with
    | .error f => return .error f
    | .ok o =>
      let ro : Pipeline.RenderOptions :=
        { format := r.query "format", detailed := r.query "detailed" == "true",
          measures := r.query "measures" == "true" }
      match ro.validate with
      | .error f => return .error f
      | .ok rs =>
        match ← Pipeline.solve fx run c.lifetime a o with
        | .error f => return .error f
        | .ok res =>
          match ← Pipeline.render fx run a (some res) ro with
          | .error f => return .error (Failure.wrapCoded .internal f "render")
          | .ok data => return .ok (200, contentType rs.format, data)

/-- Answers a request with a given request id, logging it. -/
def handle (fx : Pipeline.Effects m) (run : Pipeline.Runner) (config : Config) (r : Request)
    (freshId : String) : m Response := do
  let c := config.resolved
  let sent := r.header "X-Request-Id"
  let id := if isUuid sent then sent else freshId
  let path := r.path
  fx.event (.request r.method path)
  let routed := routes.any (·.2 == r.routePath)
  let outcome ←
    if !knownMethods.contains r.method then pure (.ok (405, "", ByteArray.empty))
    else if routes.contains (r.method, r.routePath) then
      match r.routePath with
      | "/healthz" => pure (.ok (jsonAnswer 200 (.obj [("status", .str "ok")])))
      | "/version" => pure (.ok (jsonAnswer 200 (buildJson BuildInfo.current)))
      | "/strategies" => pure (.ok (jsonAnswer 200 (.arr (Strategy.all.map fun s => .str s.name))))
      | "/solve" => solveRoute fx run c r id
      | _ => renderRoute fx run c r
    else if routed then pure (.ok (405, "", ByteArray.empty))
    else pure (.error (.coded .notFound s!"no route for {r.method} {path}"))
  let (status, contentType, body) ← match outcome with
    | .ok answer => pure answer
    | .error f => failureAnswer fx path id f
  fx.event (.response r.method path status 0)
  fx.log (Log.info "request" [("method", .text r.method), ("path", .text path), ("status", .int status),
    ("bytes", .int body.size), ("duration", .duration 0), ("id", .text id)])
  return { status, contentType, requestId := id, body }

/-- Why an address cannot be listened on, as the text after `listen tcp: `. -/
def addressFault (addr : String) : Option String :=
  let bad (why : String) : Option String := some s!"address {addr}: {why}"
  let cs := addr.toList
  match cs.findIdx? (· == ':') with
  | none => bad "missing port in address"
  | some _ =>
    let lastColon := cs.length - 1 - ((cs.reverse.findIdx? (· == ':')).getD 0)
    let hostPort : Except String (String × Nat × Nat) :=
      if cs.head? == some '[' then
        match cs.findIdx? (· == ']') with
        | none => .error "missing ']' in address"
        | some e =>
          if e + 1 == cs.length then .error "missing port in address"
          else if e + 1 == lastColon then .ok (String.ofList ((cs.drop 1).take (e - 1)), 1, e + 1)
          else if cs[e + 1]? == some ':' then .error "too many colons in address"
          else .error "missing port in address"
      else
        let host := cs.take lastColon
        if host.contains ':' then .error "too many colons in address"
        else .ok (String.ofList host, 0, 0)
    match hostPort with
    | .error why => bad why
    | .ok (host, j, k) =>
      if (cs.drop j).contains '[' then bad "unexpected '[' in address"
      else if (cs.drop k).contains ']' then bad "unexpected ']' in address"
      else
        let port := String.ofList (cs.drop (lastColon + 1))
        let (neg, digits) := match port.toList with
          | '+' :: r => (false, r)
          | '-' :: r => (true, r)
          | r => (false, r)
        let named := [("ftp", 21), ("ftps", 990), ("gopher", 70), ("http", 80), ("https", 443),
          ("imap2", 143), ("imap3", 220), ("imaps", 993), ("pop3", 110), ("pop3s", 995),
          ("smtp", 25), ("submissions", 465), ("ssh", 22), ("telnet", 23)]
        let portOk : Option String :=
          if port.isEmpty then none
          else if digits.all Char.isDigit then
            let n := digits.foldl (fun n c => min (n * 10 + (c.toNat - 48)) (Nat.pow 2 32)) 0
            if (neg && n > 0) || n > 65535 then some s!"address {port}: invalid port" else none
          else if named.any (·.1 == port.toLower) then none
          else some s!"lookup tcp/{port}: unknown port"
        match portOk with
        | some e => some e
        | none =>
          let ipv4 := (host.splitOn ".").length == 4 && (host.splitOn ".").all fun p =>
            !p.isEmpty && p.all Char.isDigit && p.length ≤ 3 && p.toNat! ≤ 255
          if host.isEmpty || host == "localhost" || ipv4 || host.contains ':' then none
          else some s!"lookup {host}: no such host"

theorem addressFault_colons : addressFault "bad:addr:x" =
    some "address bad:addr:x: too many colons in address" := by decide +kernel

end Server

end ParityGames
