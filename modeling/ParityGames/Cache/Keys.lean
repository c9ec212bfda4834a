import ParityGames.Json.Value
import ParityGames.Digest.Sha256

/-!
# Cache keys

A stored solution is named by the hash of the canonical game text together
with the options that change it: the strategy, the seed of a randomized
strategy and the lock policy.  A rendered diagram is named by the game hash
with its format and the detailed and measures flags.

A key is `kind:digest`, where the digest is the SHA-256 of the JSON lines of
the game hash and of the options, each line ending in a newline, written
with HTML escaping and leaving out empty optional fields.  A scoped keyer
puts a fixed prefix before every key, so that several deployments can share
one store.
-/

namespace ParityGames

namespace Cache

/-- The options that change a stored solution. -/
structure SolutionKeyOpts where
  strategy : String
  seed : Int := 0
  lockPolicy : String := ""
  deriving Repr, DecidableEq, Inhabited

/-- The options that change a rendered diagram. -/
structure RenderKeyOpts where
  format : String
  detailed : Bool := false
  measures : Bool := false
  deriving Repr, DecidableEq, Inhabited

/-- The JSON of solution key options; a zero seed and an empty policy are
left out. -/
def SolutionKeyOpts.toJson (o : SolutionKeyOpts) : Json :=
  .obj ([("strategy", .str o.strategy)] ++
    (if o.seed == 0 then [] else [("seed", Json.int o.seed)]) ++
    (if o.lockPolicy.isEmpty then [] else [("lock_policy", .str o.lockPolicy)]))

/-- The JSON of render key options; false flags are left out. -/
def RenderKeyOpts.toJson (o : RenderKeyOpts) : Json :=
  .obj ([("format", .str o.format)] ++
    (if o.detailed then [("detailed", .bool true)] else []) ++
    (if o.measures then [("measures", .bool true)] else []))

/-- The key of kind `kind` for a list of JSON parts. -/
def hashKey (kind : String) (parts : List Json) : String :=
  kind ++ ":" ++ Sha256.hashText (String.join (parts.map Json.encodeLine))

/-- How keys are made: the default scheme, or a prefix put before the keys
of another keyer. -/
inductive Keyer where
  | standard
  | scoped (pfx : String) (inner : Keyer)
  deriving Repr, DecidableEq, Inhabited

/-- The key of the solution of a game. -/
def Keyer.solutionKey : Keyer → String → SolutionKeyOpts → String
  | .standard, hash, o => hashKey "solution" [.str hash, o.toJson]
  | .scoped pfx inner, hash, o => pfx ++ inner.solutionKey hash o

/-- The key of a rendered diagram of a game. -/
def Keyer.renderKey : Keyer → String → RenderKeyOpts → String
  | .standard, hash, o => hashKey "render" [.str hash, o.toJson]
  | .scoped pfx inner, hash, o => pfx ++ inner.renderKey hash o

theorem scoped_solutionKey (pfx hash : String) (o : SolutionKeyOpts) :
    (Keyer.scoped pfx .standard).solutionKey hash o = pfx ++ Keyer.standard.solutionKey hash o :=
  rfl

end Cache

end ParityGames
