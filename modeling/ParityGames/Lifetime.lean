import ParityGames.Failure

/-!
# Lifetimes of requests

A request runs until its caller cancels it or its deadline passes.  Work
that checks the lifetime before a step fails with the matching failure
instead of doing the step.
-/

namespace ParityGames

/-- Whether a request may go on: it is live, was cancelled, or is past its
deadline. -/
inductive Lifetime where
  | live
  | canceled
  | expired
  deriving DecidableEq, Repr, Inhabited

/-- The failure of a step checked against a lifetime, if it may not run. -/
def Lifetime.failure? : Lifetime → Option Failure
  | .live => none
  | .canceled => some Failure.canceledFailure
  | .expired => some Failure.deadlineFailure

/-- The lifetime of a request that was cancelled or not. -/
def Lifetime.ofCancelled (cancelled : Bool) : Lifetime := if cancelled then .canceled else .live

theorem failure?_live : Lifetime.live.failure? = none := rfl

end ParityGames
