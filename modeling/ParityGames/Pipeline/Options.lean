import ParityGames.Solver.Strategy
import ParityGames.Cache.Keys
import ParityGames.Render.Dot

/-!
# Solve and render options

The options of a solve name a strategy, a seed and a lock policy.  An empty
strategy means the default one and an empty policy the safe one; names are
read ignoring case and surrounding blanks, and an unknown name is a coded
error.

The key of a stored solution holds the strategy and policy names, and the
seed only for a randomized strategy, a zero seed counting as `1`, since only
those strategies depend on it.

A diagram's format defaults to SVG; an unknown format is an
`INVALID_FORMAT` error.
-/

namespace ParityGames

namespace Pipeline

/-- The options of a solve as given. -/
structure Options where
  strategy : String := ""
  seed : Int := 0
  lockPolicy : String := ""
  /-- Ignore a stored solution, but still store the new one. -/
  refresh : Bool := false
  deriving Repr, DecidableEq, Inhabited

/-- The options of a solve with the names resolved. -/
structure Settings where
  strategy : Strategy
  policy : LockPolicy
  seed : Int
  refresh : Bool
  deriving Repr, DecidableEq

/-- Resolves the names of the options. -/
def Options.resolve (o : Options) : Except Failure Settings := do
  let name := if o.strategy.isEmpty then Strategy.default.name else o.strategy
  let st ← Strategy.parse name
  let policy ← LockPolicy.parse o.lockPolicy
  return { strategy := st, policy, seed := o.seed, refresh := o.refresh }

/-- The seed a randomized strategy runs with. -/
def effectiveSeed (seed : Int) : Int := if seed == 0 then 1 else seed

/-- The key options of a solve. -/
def Settings.keyOpts (s : Settings) : Cache.SolutionKeyOpts :=
  { strategy := s.strategy.name, lockPolicy := s.policy.name,
    seed := if s.strategy.isRandomized then effectiveSeed s.seed else 0 }

/-- The options of a diagram as given. -/
structure RenderOptions where
  format : String := ""
  detailed : Bool := false
  measures : Bool := false
  deriving Repr, DecidableEq, Inhabited

/-- The options of a diagram with the format resolved. -/
structure RenderSettings where
  format : Render.Format
  detailed : Bool
  measures : Bool
  deriving Repr, DecidableEq

/-- Resolves the format of a diagram. -/
def RenderOptions.validate (o : RenderOptions) : Except Failure RenderSettings :=
  let name := if o.format.isEmpty then Render.Format.svg.name else o.format
  match Render.Format.parse name with
  | .ok f => .ok { format := f, detailed := o.detailed, measures := o.measures }
  | .error m => .error (Failure.wrapCoded ErrorCode.invalidFormat (.plain m) "render")

/-- The key options of a diagram. -/
def RenderSettings.keyOpts (s : RenderSettings) : Cache.RenderKeyOpts :=
  { format := s.format.name, detailed := s.detailed, measures := s.measures }

theorem keyOpts_seed_deterministic (s : Settings) (h : s.strategy.isRandomized = false) :
    s.keyOpts.seed = 0 := by
  simp [Settings.keyOpts, h]

end Pipeline

end ParityGames
