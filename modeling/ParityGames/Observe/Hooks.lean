import ParityGames.Log.Record

/-!
# Instrumentation events

The pipeline, the cache and the HTTP server report what they do as events:
loads, solves and renders with their outcome and time, cache hits, misses
and writes, and requests with their responses.  A registry tells, for each
of the three groups, whether its events are logged; by default none are.

A logged event is a debug record; an outcome with an error gets
` with error` after its message and the error as the last field.
-/

namespace ParityGames

namespace Observe

/-- An instrumentation event; times are in nanoseconds. -/
inductive Event where
  | loadStart (source : String)
  | loadComplete (source : String) (vertices : Nat) (elapsed : Nat) (err : Option String)
  | solveStart (strategy : String) (vertices : Nat)
  | solveComplete (strategy : String) (lifts : Int) (elapsed : Nat) (err : Option String)
  | renderStart (format : String)
  | renderComplete (format : String) (elapsed : Nat) (err : Option String)
  | cacheHit (kind : String)
  | cacheMiss (kind : String)
  | cacheSet (kind : String) (size : Nat)
  | request (method path : String)
  | response (method path : String) (status : Nat) (elapsed : Nat)
  deriving Repr, DecidableEq

/-- The groups of events. -/
inductive Group where
  | pipeline
  | cache
  | http
  deriving Repr, DecidableEq

/-- The group of an event. -/
def Event.group : Event → Group
  | .loadStart .. | .loadComplete .. | .solveStart .. | .solveComplete ..
  | .renderStart .. | .renderComplete .. => .pipeline
  | .cacheHit .. | .cacheMiss .. | .cacheSet .. => .cache
  | .request .. | .response .. => .http

/-- The record of an outcome, marked when it failed. -/
def outcome (msg : String) (err : Option String) (fields : List (String × Log.Value)) :
    Log.Record :=
  match err with
  | some e => Log.debug (msg ++ " with error") (fields ++ [("err", .text e)])
  | none => Log.debug msg fields

/-- The record that logs an event. -/
def Event.record : Event → Log.Record
  | .loadStart source => Log.debug "load" [("source", .text source)]
  | .loadComplete source n d err =>
    outcome "loaded" err [("source", .text source), ("vertices", .int n), ("elapsed", .duration d)]
  | .solveStart st n => Log.debug "solve" [("strategy", .text st), ("vertices", .int n)]
  | .solveComplete st lifts d err =>
    outcome "solved" err [("strategy", .text st), ("lifts", .int lifts), ("elapsed", .duration d)]
  | .renderStart f => Log.debug "render" [("format", .text f)]
  | .renderComplete f d err => outcome "rendered" err [("format", .text f), ("elapsed", .duration d)]
  | .cacheHit k => Log.debug "cache hit" [("type", .text k)]
  | .cacheMiss k => Log.debug "cache miss" [("type", .text k)]
  | .cacheSet k n => Log.debug "cache set" [("type", .text k), ("bytes", .int n)]
  | .request m p => Log.debug "request" [("method", .text m), ("path", .text p)]
  | .response m p s d =>
    Log.debug "response" [("method", .text m), ("path", .text p), ("status", .int s),
      ("elapsed", .duration d)]

/-- Which groups of events are logged. -/
structure Registry where
  pipeline : Bool := false
  cache : Bool := false
  http : Bool := false
  deriving Repr, DecidableEq, Inhabited

/-- Whether a registry logs a group. -/
def Registry.logs (r : Registry) : Group → Bool
  | .pipeline => r.pipeline
  | .cache => r.cache
  | .http => r.http

/-- The registry that logs every group. -/
def Registry.all : Registry := { pipeline := true, cache := true, http := true }

/-- The record a registry writes for an event, if it logs the event. -/
def Registry.recordOf (r : Registry) (e : Event) : Option Log.Record :=
  if r.logs e.group then some e.record else none

end Observe

end ParityGames
