import ParityGames.System.Platform
import ParityGames.Lifetime

/-!
# Retrying with backoff

An operation that fails with a failure marked retryable is tried again, up
to three attempts in all, waiting 100 ms before the second attempt and twice
as long before each later one.  Any other outcome ends the retrying at once.
A request that may no longer go on ends at the wait, with the failure of its
lifetime.
-/

namespace ParityGames

namespace Cache

/-- The number of attempts of a retried operation. -/
def attempts : Nat := 3

/-- The wait before the second attempt, in nanoseconds. -/
def firstDelay : Nat := 100000000

/-- Marks a failure as worth retrying. -/
def retryable (f : Failure) : Failure := f.mark .retryable

variable {m : Type → Type} [Monad m] {α : Type}

/-- Runs attempt `i` and the ones after it, with `left` retries left and the
next wait `delay`: the outcome and the number of attempts made. -/
def retryFrom (p : Platform m) (life : Lifetime) (attempt : Nat → m (Except Failure α)) :
    Nat → Nat → Nat → m (Except Failure α × Nat)
  | left, delay, i => do
    let r ← attempt i
    match r, left with
    | .ok _, _ => return (r, i + 1)
    | .error _, 0 => return (r, i + 1)
    | .error f, left + 1 =>
      if !f.has .retryable then return (r, i + 1)
      else match life.failure? with
        | some g => return (.error g, i + 1)
        | none =>
          p.sleep delay
          retryFrom p life attempt left (2 * delay) (i + 1)

/-- Runs an operation with retries: the outcome and the number of attempts
made. -/
def retry (p : Platform m) (life : Lifetime) (attempt : Nat → m (Except Failure α)) :
    m (Except Failure α × Nat) :=
  retryFrom p life attempt (attempts - 1) firstDelay 0

end Cache

end ParityGames
