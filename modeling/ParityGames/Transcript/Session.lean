import ParityGames.Cli.Run
import ParityGames.Server.Handler
import ParityGames.Pipeline.Memory
import ParityGames.Transcript.Workspace
import ParityGames.Json.Parse

/-!
# Transcripts of command lines and HTTP exchanges

A transcript records what a run showed, with the values that change
between runs masked (see `Transcript.mask`):

* a command line run as a library call records both streams and the
  failure it returned; run as a process it records the exit status instead;
* an HTTP exchange records each response (status, content type, request
  identifier and body) and the server's log.  A body that is JSON shows its
  value, with the members that carry durations, versions and identifiers
  masked; any other body is described as a file is (`describe`).
-/

namespace ParityGames

namespace Transcript

/-- One run of the command line. -/
structure Run where
  invocation : Cli.Invocation
  stdin : String := ""
  /-- Whether the output stream is a terminal. -/
  terminal : Bool := false
  /-- Whether what the run writes on the output stream is left out. -/
  quiet : Bool := false

/-- Runs the command line on a workspace machine and records the two
streams, masked, and the failure (a library call) or the exit status (a
process). -/
def Run.record (root : String) (r : Run) (m : Machine) : Machine × List (String × Json) :=
  let m := { m with stdin := r.stdin, stdout := "", stderr := "", terminal := r.terminal }
  let (outcome, m) :=
    if r.invocation.standalone then
      let (c, m) := (Cli.exitStatus Machine.platform r.invocation).run m
      (("exit", Json.nat c.toNat), m)
    else
      let (f, m) := (Cli.run Machine.platform r.invocation).run m
      (("error", match f with | some f => Json.str (errorText root f) | none => Json.null), m)
  let out := if r.quiet then "" else m.stdout
  (m, [("stdout", .str (maskTables (mask root out))),
    ("stderr", .str (maskTables (maskLog root m.stderr))), outcome])

/-- Runs several command lines one after another on one workspace machine:
the record of each run and the machine after the last. -/
def Run.session (root : String) (m : Machine) : List Run → List (List (String × Json)) × Machine
  | [] => ([], m)
  | r :: rest =>
    let (m, first) := r.record root m
    let (others, m) := Run.session root m rest
    (first :: others, m)

/-- The body of a response as a transcript shows it. -/
def bodyJson (root : String) (b : ByteArray) : Json :=
  match Json.readExact (Pipeline.bytesText b) with
  | .ok (.obj members) => .obj (members.map fun (k, v) => (k, match k, v with
      | "duration_us", _ => .str "<dur>"
      | "go_version", _ => .str "<go>"
      | "id", .str t | "request_id", .str t => .str (mask root t)
      | _, _ => v))
  | .ok v => v
  | .error _ => describe root b

/-- The identifier a transcript gives every request that brings none:
identifiers are masked, so one serves all. -/
def freshRequestId : String := "0b7e6a52-4c1d-4f7a-9d3e-2a5b8c9d0e1f"

/-- The record of one response. -/
def Server.Response.record (root : String) (r : Server.Response) : Json :=
  .obj [("status", .nat r.status), ("content_type", .str r.contentType),
    ("request_id", .str (mask root r.requestId)), ("body", bodyJson root r.body)]

/-- Serves requests one after another with a pipeline in memory, then
tries to listen on an address, if one is given: the records of the
responses, followed by the outcome of listening, and the masked log. -/
def exchange (root : String) (config : Server.Config) (store : Pipeline.MemoryStore)
    (converter : Render.Converter) (requests : List Server.Request) (listen : Option String) : Json :=
  let fx := Pipeline.MemoryStore.effects converter
  let (responses, store) := (requests.mapM fun r => Server.handle fx {} config r freshRequestId).run store
  let listening := match listen with
    | some a => [.obj [("listen_error", match Server.addressFault a with
        | some why => .str ("listen tcp: " ++ why)
        | none => .null)]]
    | none => []
  .obj [("responses", .arr (responses.map (Server.Response.record root) ++ listening)),
    ("log", .str (maskLog root store.log))]

theorem session_nil (root : String) (m : Machine) : (Run.session root m []).1 = [] := rfl

end Transcript

end ParityGames
