import ParityGames.Cache.Retry

/-!
# A Redis-backed store

A Redis store keeps values under its key prefix (`papg:` unless another is
given) on a Redis server.  Opening the store pings the server and fails,
marked as a network failure, when the server cannot be reached.  Each
operation is retried with backoff when the network fails (see
`Cache.retry`); a closed client fails every operation the same way.

Programs here run without a network stack, so every connection attempt fails
as dialing into an unreachable network does.
-/

namespace ParityGames

namespace Cache

/-- The key prefix of a Redis store unless another is given. -/
def defaultRedisPrefix : String := "papg:"

/-- A client of a Redis server. -/
structure RedisClient where
  addr : String
  keyPrefix : String := defaultRedisPrefix
  closed : Bool := false
  deriving Repr, DecidableEq

/-- The text of a failed connection to an address. -/
def dialText (addr : String) : String :=
  s!"dial tcp {addr}: connect: network is unreachable"

/-- The failure of opening a store at an address: the ping found no server. -/
def openFailure (addr : String) : Failure :=
  .marked s!"redis {addr}: network error: {dialText addr}" .network

/-- Opens a store on a server, pinging it first. -/
def RedisClient.connect (addr : String) (_password : String) (_db : Int) (_keyPrefix : String) :
    Except Failure RedisClient :=
  .error (openFailure addr)

/-- A store on a client that is already set up; an empty prefix means the
default one. -/
def RedisClient.ofClient (addr keyPrefix : String) : RedisClient :=
  { addr, keyPrefix := if keyPrefix.isEmpty then defaultRedisPrefix else keyPrefix }

/-- The failure of one command sent by a client. -/
def RedisClient.commandFailure (c : RedisClient) : Failure :=
  let cause := if c.closed then "redis: client is closed" else dialText c.addr
  retryable (.marked s!"network error: {cause}" .network)

variable {m : Type → Type} [Monad m]

/-- Runs one command with retries. -/
def RedisClient.command {α : Type} (p : Platform m) (c : RedisClient) (life : Lifetime) :
    m (Except Failure α) := do
  let (r, _) ← retry p life fun _ => pure (.error c.commandFailure)
  return r

/-- Reads the value of a key: `none` when it is missing. -/
def RedisClient.get (p : Platform m) (c : RedisClient) (life : Lifetime) (_key : String) :
    m (Except Failure (Option ByteArray)) :=
  c.command p life

/-- Stores a value for a time in nanoseconds (`0` for ever). -/
def RedisClient.set (p : Platform m) (c : RedisClient) (life : Lifetime) (_key : String)
    (_data : ByteArray) (_ttl : Nat) : m (Except Failure Unit) :=
  c.command p life

/-- Removes a key. -/
def RedisClient.delete (p : Platform m) (c : RedisClient) (life : Lifetime) (_key : String) :
    m (Except Failure Unit) :=
  c.command p life

/-- Removes every key under the store's prefix; the key scan is not retried. -/
def RedisClient.clear (c : RedisClient) : Except Failure Unit :=
  .error c.commandFailure

/-- Closes the client; closing a closed client fails and changes nothing. -/
def RedisClient.close (c : RedisClient) : Option Failure × RedisClient :=
  if c.closed then (some (.plain "redis: client is closed"), c) else (none, { c with closed := true })

theorem close_close (c : RedisClient) : (c.close.2.close).1.isSome := by
  unfold RedisClient.close
  split <;> simp_all

theorem connect_fails (addr pw : String) (db : Int) (k : String) :
    (RedisClient.connect addr pw db k).toOption = none := rfl

end Cache

end ParityGames
