import ParityGames.Server.Handler
import ParityGames.Pipeline.Memory
import ParityGames.Proofs.PGSolverRoundTrip
import ParityGames.Proofs.TextLists

/-!
# The limits on the games a server reads

Before solving, `readGame` refuses a game with more vertices, a larger
priority or more measure components than the server's settings allow.  The
component count, the number of vertices times half of one more than the
largest priority, is computed in wrapping 64-bit arithmetic.

So the game it lets through has its largest priority within the limit and its
wrapped count within the limit, and whenever the exact count is a 64-bit
integer, the exact count is within the limit too (`readGame_within_limits`).
At the largest priority a 64-bit integer holds, one more than it wraps to the
smallest, the count comes out negative, and a one-vertex game whose measures
need `2 ^ 62` components passes (`top_priority_passes_measure_check`).
-/

namespace ParityGames

open Text (int64Min int64Max)

namespace Limits

theorem bmod_of_fits {n : Int} (low : int64Min ≤ n) (high : n ≤ int64Max) : n.bmod (2 ^ 64) = n := by
  simp only [int64Min, int64Max] at low high
  apply Int.bmod_eq_of_le <;> omega

/-- The wrapped count is the exact one when the exact one is a 64-bit integer
and the priority can be raised by one. -/
theorem measureCells_of_fits {v p : Int} (vLow : 0 ≤ v) (pLow : 0 ≤ p) (pHigh : p < int64Max)
    (fits : v * ((p + 1) / 2) ≤ int64Max) : measureCells v p = v * ((p + 1) / 2) := by
  have inRange {n : Int} (low : 0 ≤ n) (high : n ≤ int64Max) : n.bmod (2 ^ 64) = n :=
    bmod_of_fits (by simp only [int64Min]; omega) high
  simp only [int64Max] at pHigh
  have priority : p.bmod (2 ^ 64) = p := inRange pLow (by simp only [int64Max]; omega)
  have next : (p + 1).bmod (2 ^ 64) = p + 1 := inRange (by omega) (by simp only [int64Max]; omega)
  have halfLow : 0 ≤ (p + 1) / 2 := by omega
  have half : ((p + 1) / 2).bmod (2 ^ 64) = (p + 1) / 2 :=
    inRange halfLow (by simp only [int64Max]; omega)
  unfold measureCells
  rw [Int64.toInt_mul, Int64.toInt_div, Int64.toInt_add, Int64.toInt_ofInt, Int64.toInt_ofInt, Int64.toInt_one,
    show Int64.toInt 2 = 2 from rfl, show Int64.size = 2 ^ 64 from rfl, priority, next,
    Int.tdiv_eq_ediv_of_nonneg (by omega), half]
  -- a vertex count beyond the machine range only matters when each vertex has components
  by_cases empty : (p + 1) / 2 = 0
  · rw [empty, Int.mul_zero, Int.mul_zero]
    rfl
  · have positive : 1 ≤ (p + 1) / 2 := by omega
    have vHigh : v ≤ int64Max := calc
      v = v * 1 := (Int.mul_one v).symm
      _ ≤ v * ((p + 1) / 2) := Int.mul_le_mul_of_nonneg_left positive vLow
      _ ≤ int64Max := fits
    rw [inRange vLow vHigh, inRange (Int.mul_nonneg vLow halfLow) fits]

theorem le_of_checkPriority {p limit : Int} (enabled : 0 < limit) (passed : checkPriority p limit = .ok ()) :
    p ≤ limit := by
  unfold checkPriority at passed
  by_contra above
  rw [if_pos (by simp only [Bool.and_eq_true, decide_eq_true_eq]; omega)] at passed
  cases passed

theorem measureCells_le_of_checkMeasureSize {v p limit : Int} (enabled : 0 < limit)
    (passed : checkMeasureSize v p limit = .ok ()) : measureCells v p ≤ limit := by
  unfold checkMeasureSize at passed
  rw [if_neg (by omega)] at passed
  by_contra above
  rw [if_pos (by omega)] at passed
  cases passed

end Limits

namespace Server

theorem resolved_limits_pos (c : Config) : 0 < c.resolved.maxPriority ∧ 0 < c.resolved.maxMeasureCells := by
  -- a limit of zero or less is replaced by its default, which is positive
  have defaulted {limit fallback : Int} (positive : 0 < fallback) :
      0 < (if limit ≤ 0 then fallback else limit) := by
    split <;> omega
  exact ⟨defaulted (by decide), defaulted (by decide)⟩

theorem checks_eq_ok {x y z : Except Failure Unit} {b a : Arena}
    (ok : (x.bind fun _ => y.bind fun _ => z.bind fun _ => Except.pure b) = .ok a) :
    x = .ok () ∧ y = .ok () ∧ z = .ok () ∧ b = a := by
  cases x <;> cases y <;> cases z <;> cases ok
  exact ⟨rfl, rfl, rfl, rfl⟩

/-- A game `readGame` lets through has passed the three size checks. -/
theorem readGame_checks {fx : Pipeline.Effects Id} {c : Config} {r : Request} {a : Arena}
    (accepted : readGame fx c r = .ok a) :
    Limits.checkGameSize a.size c.maxVertices = .ok () ∧ Limits.checkPriority a.maxPriority c.maxPriority = .ok () ∧
      Limits.checkMeasureSize a.size a.maxPriority c.maxMeasureCells = .ok () := by
  unfold readGame at accepted
  simp only [bind, pure] at accepted
  -- every answer before the game is decoded, and a failed decoding, is a failure
  split at accepted
  · cases accepted
  split at accepted
  · cases accepted
  split at accepted
  · cases accepted
  split at accepted
  · cases accepted
  · obtain ⟨size, priority, measure, rfl⟩ := checks_eq_ok accepted
    exact ⟨size, priority, measure⟩

/-- Every game the server reads is within its limits: the largest priority is
at most the priority limit, and the measure components counted in 64-bit
arithmetic are at most the component limit.  When the priority is below the
largest 64-bit integer and the exact count, vertices times half of one more
than the largest priority, is a 64-bit integer, that exact count is at most
the component limit as well. -/
theorem readGame_within_limits (fx : Pipeline.Effects Id) (config : Config) (r : Request) {a : Arena}
    (accepted : readGame fx config.resolved r = .ok a) :
    (a.maxPriority : Int) ≤ config.resolved.maxPriority ∧
      Limits.measureCells a.size a.maxPriority ≤ config.resolved.maxMeasureCells ∧
      ((a.maxPriority : Int) < int64Max → (a.size : Int) * (((a.maxPriority : Int) + 1) / 2) ≤ int64Max →
        (a.size : Int) * (((a.maxPriority : Int) + 1) / 2) ≤ config.resolved.maxMeasureCells) := by
  obtain ⟨priorityOn, cellsOn⟩ := resolved_limits_pos config
  obtain ⟨-, priority, measure⟩ := readGame_checks accepted
  have counted := Limits.measureCells_le_of_checkMeasureSize cellsOn measure
  refine ⟨Limits.le_of_checkPriority priorityOn priority, counted, fun below fits => ?_⟩
  rw [← Limits.measureCells_of_fits (Int.natCast_nonneg _) (Int.natCast_nonneg _) below fits]
  exact counted

section TopPriority

theorem splitOn_empty {sep : String} (nonempty : sep ≠ "") : "".splitOn sep = [""] := by
  rw [String.splitOn, if_neg (by simpa using nonempty), String.splitOnAux, if_pos (by decide)]
  rfl

theorem trimAscii_empty : "".trimAscii.toString = "" := by
  apply String.toList_injective
  have front := Text.toList_dropWhile "" Char.isWhitespace
  simp only [String.trimAscii, String.Slice.trimAscii, String.Slice.trimAsciiStart, String.Slice.trimAsciiEnd,
    String.Slice.toString_eq, Text.toList_dropEndWhile]
  rw [show "".toSlice.dropWhile Char.isWhitespace = "".dropWhile Char.isWhitespace from rfl, front]
  rfl

/-- A request without a content type is not declared JSON. -/
theorem mediaType_empty : mediaType "" = none := by
  unfold mediaType
  rw [splitOn_empty (by decide)]
  dsimp only
  rw [show "".toLower = "" by decide +kernel, trimAscii_empty, splitOn_empty (by decide)]

theorem bytesText_toUTF8 (text : String) : GameFile.bytesText text.toUTF8 = text := by
  rw [GameFile.bytesText, String.toUTF8_eq_toByteArray, String.fromUTF8?, dif_pos text.isValidUTF8]
  rfl

/-- A body of PGSolver text under the size limit, read whole, not declared
JSON and not blank, is read as PGSolver text; a game read from it is then
only checked against the limits. -/
theorem readGame_pgsolver {fx : Pipeline.Effects Id} {c : Config} {r : Request} {text : String} {a : Arena}
    (body : r.body = text.toUTF8) (small : (r.body.size : Int) ≤ c.maxBodyBytes) (whole : r.bodyFails = false)
    (plain : mediaType (r.header "Content-Type") = none) (nonblank : text.all isUnicodeSpace = false)
    (read : PGSolver.read text = .ok a) :
    readGame fx c r = ((do
      Limits.checkGameSize a.size c.maxVertices
      Limits.checkPriority a.maxPriority c.maxPriority
      Limits.checkMeasureSize a.size a.maxPriority c.maxMeasureCells
      return a) : Except Failure Arena) := by
  unfold readGame
  simp only [bind, pure]
  rw [if_neg (by omega), whole, body, bytesText_toUTF8, nonblank, plain]
  simp only [Bool.false_eq_true, if_false, reduceCtorEq, beq_iff_eq]
  unfold Pipeline.decode
  simp only [bind, pure]
  rw [if_neg (by decide), show GameFormat.pgsolver.read text = (PGSolver.read text).mapError (·.toFailure) from rfl,
    read]
  rfl

/-- The PGSolver text of a valid arena the operations build, posted without a
content type, is read back as a game of the same size and largest priority,
which is then only checked against the limits. -/
theorem readGame_written (fx : Pipeline.Effects Id) (c : Config) {a : Arena} (reachable : a.Reachable)
    (valid : a.validate = .ok ())
    (owners : ∀ v < a.size, (a.vertex v).owner = .even ∨ (a.vertex v).owner = .odd)
    (fits : (a.size : Int) ≤ int64Max ∧ (a.maxPriority : Int) ≤ int64Max)
    (short : ∀ line ∈ PGSolver.writtenLines a, line.utf8ByteSize < PGSolver.maxLineBytes)
    (small : ((PGSolver.write a).toUTF8.size : Int) ≤ c.maxBodyBytes)
    (nonblank : (PGSolver.write a).all isUnicodeSpace = false) (target : String) :
    ∃ b, readGame fx c { method := "POST", target, body := (PGSolver.write a).toUTF8 } =
        ((do
          Limits.checkGameSize b.size c.maxVertices
          Limits.checkPriority b.maxPriority c.maxPriority
          Limits.checkMeasureSize b.size b.maxPriority c.maxMeasureCells
          return b) : Except Failure Arena) ∧
      b.size = a.size ∧ b.maxPriority = a.maxPriority := by
  have intact := reachable.intact
  obtain ⟨b, read, rebuilt⟩ :=
    PGSolver.read_write_rebuilt intact valid (PGSolver.writable_of_validate intact valid owners fits) short fits.1
  refine ⟨b, readGame_pgsolver rfl small rfl ?_ nonblank read, rebuilt.size_eq, rebuilt.maxPriority_eq intact⟩
  -- a request without headers has no content type
  rw [show Request.header _ _ = "" from rfl]
  exact mediaType_empty

/-- One vertex of priority `p` moving to itself. -/
def selfLoop (p : Nat) : Arena :=
  { vertices := #[{ priority := p, outgoing := #[0], incoming := #[0] }], edges := 1, maxPriority := p }

theorem selfLoop_reachable (p : Nat) : (selfLoop p).Reachable := by
  have edge : (Arena.new 1).addEdge 0 0 =
      .ok { vertices := #[{ outgoing := #[0], incoming := #[0] }], edges := 1 } := rfl
  have raised : ({ vertices := #[{ outgoing := #[0], incoming := #[0] }], edges := 1 } : Arena).setPriority 0 p =
      .ok (selfLoop p) := by
    unfold Arena.setPriority
    rw [if_neg (by decide), if_neg (by omega)]
    dsimp only
    -- a positive priority raises the largest one; priority zero leaves it at zero
    rcases Nat.eq_zero_or_pos p with zero | pos
    · subst zero
      rfl
    · rw [if_pos (by simpa using pos)]
      rfl
  exact ((Arena.Reachable.new 1).addEdge edge).setPriority raised

/-- A one-vertex game of priority 3 posted to a server with the default limits
is let through, within them. -/
theorem readGame_within_limits_loop :
    ∃ a, readGame (Pipeline.Effects.silent .missing : Pipeline.Effects Id) ({} : Config).resolved
        { method := "POST", target := "/solve", body := "parity 0;\n0 3 0 0;\n".toUTF8 } = .ok a ∧
      (a.maxPriority : Int) ≤ ({} : Config).resolved.maxPriority ∧
      Limits.measureCells a.size a.maxPriority ≤ ({} : Config).resolved.maxMeasureCells ∧
      ((a.maxPriority : Int) < int64Max → (a.size : Int) * (((a.maxPriority : Int) + 1) / 2) ≤ int64Max →
        (a.size : Int) * (((a.maxPriority : Int) + 1) / 2) ≤ ({} : Config).resolved.maxMeasureCells) := by
  obtain ⟨b, answered, size, priority⟩ :=
    readGame_written (Pipeline.Effects.silent .missing) ({} : Config).resolved (selfLoop_reachable 3)
      (by decide) (by decide) (by decide) (by decide +kernel) (by decide +kernel)
      (by rw [String.all_bool_eq]; decide +kernel) "/solve"
  rw [show PGSolver.write (selfLoop 3) = "parity 0;\n0 3 0 0;\n" by decide +kernel, size, priority] at answered
  have accepted : readGame (Pipeline.Effects.silent .missing : Pipeline.Effects Id) ({} : Config).resolved
      { method := "POST", target := "/solve", body := "parity 0;\n0 3 0 0;\n".toUTF8 } = .ok b := answered
  exact ⟨b, accepted, readGame_within_limits _ _ _ accepted⟩

/-- With the priority limit raised to the largest 64-bit integer, a game of
one vertex of that priority passes: one more than the priority wraps to the
smallest 64-bit integer, so the component count is negative, while the exact
count is `2 ^ 62`, far above the default limit of `2 ^ 25` components. -/
theorem top_priority_passes_measure_check :
    ∃ a, readGame (Pipeline.Effects.silent .missing : Pipeline.Effects Id)
        ({ maxPriority := 9223372036854775807 } : Config).resolved
        { method := "POST", target := "/solve?seed=x",
          body := "parity 0;\n0 9223372036854775807 0 0;\n".toUTF8 } = .ok a ∧
      a.size = 1 ∧ a.maxPriority = 9223372036854775807 ∧
      ({ maxPriority := 9223372036854775807 } : Config).resolved.maxMeasureCells <
        (a.size : Int) * (((a.maxPriority : Int) + 1) / 2) := by
  obtain ⟨b, answered, size, priority⟩ :=
    readGame_written (Pipeline.Effects.silent .missing) ({ maxPriority := 9223372036854775807 } : Config).resolved
      (selfLoop_reachable 9223372036854775807) (by decide) (by decide) (by decide) (by decide +kernel)
      (by decide +kernel) (by rw [String.all_bool_eq]; decide +kernel) "/solve?seed=x"
  rw [show PGSolver.write (selfLoop 9223372036854775807) = "parity 0;\n0 9223372036854775807 0 0;\n" by
    decide +kernel, size, priority] at answered
  refine ⟨b, answered, size, priority, ?_⟩
  rw [size, priority]
  decide

end TopPriority

end Server

end ParityGames
