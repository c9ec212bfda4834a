import ParityGames.Proofs.Winning
import ParityGames.Proofs.PGSolverRoundTrip

/-!
# Arenas that record the same game

The PGSolver text of an arena keeps its size and, for every vertex, its
owner, priority, label and successor list (`Arena.SameGame`), but not the
order of the predecessor lists, which follows the order in which the edges
were added.  For arenas whose text reads back, one text is one game
(`Arena.Readable.sameGame_of_write_eq`).

The solver reads an arena only through its successor lists, owners and
priorities, so the least fixpoint is one for all arenas with the same text
(`Arena.SameGame.fixRank_eq`).  Every strategy decides `⊤` by it, so every
solve of such arenas names the same winners (`Solver.solve_winners_agree`);
every solve that keeps to the least fixpoint also prints the same measures
(`Solver.solve_renders_agree`).  Every strategy but propagation reads the
predecessor lists at most through their lengths, so it runs over both arenas
step for step (`Solver.solve_relocate`) and leaves the same counters too.
-/

namespace ParityGames

namespace Arena

/-- Two arenas that record the same game: as many vertices, each with the
same owner, priority, label and successor list.  Their predecessor lists may
differ in order. -/
structure SameGame (a b : Arena) : Prop where
  size_eq : b.size = a.size
  owner_eq : ∀ v, (b.vertex v).owner = (a.vertex v).owner
  priority_eq : ∀ v, (b.vertex v).priority = (a.vertex v).priority
  label_eq : ∀ v, (b.vertex v).label = (a.vertex v).label
  outgoing_eq : ∀ v, (b.vertex v).outgoing = (a.vertex v).outgoing

variable {a b : Arena}

theorem SameGame.refl (a : Arena) : a.SameGame a :=
  ⟨rfl, fun _ => rfl, fun _ => rfl, fun _ => rfl, fun _ => rfl⟩

theorem SameGame.symm (same : a.SameGame b) : b.SameGame a :=
  ⟨same.size_eq.symm, fun v => (same.owner_eq v).symm, fun v => (same.priority_eq v).symm,
    fun v => (same.label_eq v).symm, fun v => (same.outgoing_eq v).symm⟩

theorem SameGame.trans {c : Arena} (first : a.SameGame b) (second : b.SameGame c) : a.SameGame c :=
  ⟨second.size_eq.trans first.size_eq, fun v => (second.owner_eq v).trans (first.owner_eq v),
    fun v => (second.priority_eq v).trans (first.priority_eq v),
    fun v => (second.label_eq v).trans (first.label_eq v),
    fun v => (second.outgoing_eq v).trans (first.outgoing_eq v)⟩

/-- Reordering the predecessor list of one vertex keeps the game. -/
theorem sameGame_reorder (a : Arena) (u : Nat) (order : Array Nat → Array Nat) :
    a.SameGame (a.modify u fun w => { w with incoming := order w.incoming }) where
  size_eq := size_modify a u _
  owner_eq v := by rw [vertex_modify]; split <;> rfl
  priority_eq v := by rw [vertex_modify]; split <;> rfl
  label_eq v := by rw [vertex_modify]; split <;> rfl
  outgoing_eq v := by rw [vertex_modify]; split <;> rfl

/-- Arenas that record the same game, each vertex under its position as id,
list their vertices alike up to the predecessor lists: whatever reads a vertex
but not its predecessors reads both lists alike. -/
theorem SameGame.map_vertices {β : Type} (same : a.SameGame b) (numberedA : a.Numbered)
    (numberedB : b.Numbered) (f : Vertex → β) (ignores : ∀ v, f v = f { v with incoming := #[] }) :
    b.vertices.toList.map f = a.vertices.toList.map f := by
  rw [← map_vertex_range, ← map_vertex_range, same.size_eq, List.map_map, List.map_map]
  apply List.map_congr_left
  intro i mem
  have inside := List.mem_range.1 mem
  have erased : { b.vertex i with incoming := #[] } = { a.vertex i with incoming := #[] } := by
    simp only [numberedA i inside, numberedB i (same.size_eq ▸ inside), same.owner_eq,
      same.priority_eq, same.label_eq, same.outgoing_eq]
  rw [Function.comp_apply, Function.comp_apply, ignores (b.vertex i), ignores (a.vertex i), erased]

section Numbered

variable (same : a.SameGame b) (numberedA : a.Numbered) (numberedB : b.Numbered)
include same numberedA numberedB

/-- Arenas that record the same game write the same PGSolver text. -/
theorem SameGame.write_eq : PGSolver.write b = PGSolver.write a := by
  rw [PGSolver.write, PGSolver.write, same.size_eq, same.map_vertices numberedA numberedB]
  intro v
  rfl

theorem SameGame.gameHash_eq : Pipeline.gameHash b = Pipeline.gameHash a := by
  rw [Pipeline.gameHash, Pipeline.gameHash, same.write_eq numberedA numberedB]

/-- Arenas that record the same game are drawn alike. -/
theorem SameGame.toDot_eq (opts : Render.DotOptions) :
    Render.toDot b opts = Render.toDot a opts := by
  unfold Render.toDot
  dsimp only
  rw [same.size_eq, same.map_vertices numberedA numberedB, same.map_vertices numberedA numberedB]
  all_goals intro v; rfl

end Numbered

/-- An arena whose PGSolver text reads back as it was written: built by the
arena operations, valid, every vertex owned by Even or Odd, and within the
reader's limits on lines and numbers. -/
structure Readable (a : Arena) : Prop where
  reachable : a.Reachable
  valid : a.validate = .ok ()
  owners : ∀ v < a.size, (a.vertex v).owner = .even ∨ (a.vertex v).owner = .odd
  short : ∀ line ∈ PGSolver.writtenLines a, line.utf8ByteSize < PGSolver.maxLineBytes
  fits : (a.size : Int) ≤ Text.int64Max ∧ (a.maxPriority : Int) ≤ Text.int64Max

theorem Readable.rebuilt (readable : a.Readable) :
    ∃ c, PGSolver.read (PGSolver.write a) = .ok c ∧ PGSolver.Rebuilt a a.size c :=
  PGSolver.read_write_rebuilt readable.reachable.intact readable.valid
    (PGSolver.writable_of_validate readable.reachable.intact readable.valid readable.owners
      readable.fits)
    readable.short readable.fits.1

/-- An arena that rebuilds every vertex of `a` records the game of `a`. -/
theorem sameGame_of_rebuilt (rebuilt : PGSolver.Rebuilt a a.size b) : a.SameGame b :=
  ⟨rebuilt.size_eq, fun v => (rebuilt.fields v).1, fun v => (rebuilt.fields v).2.1,
    fun v => (rebuilt.fields v).2.2.1, fun v => (rebuilt.fields v).2.2.2⟩

/-- Readable arenas with one PGSolver text record the same game: both read
back as the one arena the text describes. -/
theorem Readable.sameGame_of_write_eq (readableA : a.Readable) (readableB : b.Readable)
    (written : PGSolver.write b = PGSolver.write a) : a.SameGame b := by
  obtain ⟨c, readA, rebuiltA⟩ := readableA.rebuilt
  obtain ⟨d, readB, rebuiltB⟩ := readableB.rebuilt
  rw [written, readA] at readB
  cases readB
  exact (sameGame_of_rebuilt rebuiltA).trans (sameGame_of_rebuilt rebuiltB).symm

section Intact

variable (same : a.SameGame b) (intactA : a.Intact) (intactB : b.Intact)
include same intactA intactB

/-- The predecessor lists of arenas with the same game hold the same sources,
each once per edge. -/
theorem SameGame.incoming_perm (v : Nat) :
    (b.vertex v).incoming.toList.Perm (a.vertex v).incoming.toList := by
  rw [List.perm_iff_count]
  intro u
  rw [Array.count_toList, Array.count_toList, ← intactA.count_eq, ← intactB.count_eq,
    same.outgoing_eq]

theorem SameGame.maxPriority_eq : b.maxPriority = a.maxPriority := by
  rw [intactB.maxPriority_eq, intactA.maxPriority_eq]
  exact scanMaxPriority_congr (Nat.le_of_eq same.size_eq.symm) same.priority_eq

theorem SameGame.priorityHistogram_eq : b.priorityHistogram = a.priorityHistogram := by
  have highest := same.maxPriority_eq intactA intactB
  apply Array.ext_getElem?
  intro p
  by_cases inside : p ≤ a.maxPriority
  · rw [getElem?_priorityHistogram b (highest ▸ inside), getElem?_priorityHistogram a inside,
      same.size_eq]
    simp only [same.priority_eq]
  · rw [Array.getElem?_eq_none (by rw [size_priorityHistogram]; omega),
      Array.getElem?_eq_none (by rw [size_priorityHistogram]; omega)]

theorem SameGame.maximumOf_eq : Solver.maximumOf b = Solver.maximumOf a := by
  rw [Solver.maximumOf, Solver.maximumOf, same.priorityHistogram_eq intactA intactB]

theorem SameGame.scale_eq : b.scale = a.scale := by
  rw [Arena.scale, Arena.scale, same.maximumOf_eq intactA intactB]

/-- Arenas with the same game have one lifting operator on numbers. -/
theorem SameGame.liftRank_eq : b.liftRank = a.liftRank := by
  funext r v
  simp only [liftRank, same.owner_eq v, same.priority_eq v, same.outgoing_eq v,
    same.maximumOf_eq intactA intactB, same.scale_eq intactA intactB]

/-- Arenas with the same game have one least fixpoint. -/
theorem SameGame.fixRank_eq : b.fixRank = a.fixRank := by
  rw [fixRank, fixRank, rankIterate, rankIterate, same.liftRank_eq intactA intactB,
    same.size_eq, same.scale_eq intactA intactB]

end Intact

end Arena

namespace Measure

/-- Measures that `equal` calls equal print the same. -/
theorem render_eq_of_equal {m n : Measure} (equal : m.equal n = true) : m.render = n.render := by
  unfold Measure.equal at equal
  unfold render
  cases mTop : m.top <;> cases nTop : n.top <;> simp_all

end Measure

namespace Solver

variable {s t : Solver}

theorem Sound.winners_size (sound : t.Sound) : t.winners.size = t.size := by
  rw [winners, Array.size_map, sound.coherent.measures_size]

/-- A sound state names Odd the winner exactly where its number is the
count, and Even elsewhere. -/
theorem Sound.winners_getElem? (sound : t.Sound) {v : Nat} (inside : v < t.size) :
    t.winners[v]? = some (if t.rank v = t.arena.scale.count then Player.odd else Player.even) := by
  have inMeasures : v < t.measures.size := sound.coherent.measures_size ▸ inside
  have measureV : t.measure v = t.measures[v] := dif_pos inMeasures
  rw [winners, Array.getElem?_map, Array.getElem?_eq_getElem inMeasures, Option.map_some,
    ← measureV]
  congr 1
  have top := Measure.top_iff_rank (sound.coherent.fits v)
  rw [← sound.coherent.rank_eq_ofMaximum, ← sound.coherent.scale_eq_ofMaximum,
    sound.coherent.scale_eq] at top
  by_cases atCount : t.rank v = t.arena.scale.count
  · rw [if_pos (top.2 atCount), if_pos atCount]
  · rw [if_neg (fun isTop => atCount (top.1 isTop)), if_neg atCount]

/-- Two coherent states with one maximum hold equal measures at a vertex, and
print it alike, when they give it the same number. -/
theorem Coherent.equal_of_rank (coherent : s.Coherent) (coherent' : t.Coherent)
    (sameMaximum : t.maximum = s.maximum) {v : Nat} (sameRank : t.rank v = s.rank v) :
    (t.measure v).equal (s.measure v) = true := by
  have fits' := coherent'.fits v
  rw [sameMaximum] at fits'
  rw [Measure.equal_eq_decide fits' (coherent.fits v), decide_eq_true_iff,
    ← coherent.rank_eq_ofMaximum, ← sameMaximum, ← coherent'.rank_eq_ofMaximum]
  exact sameRank

theorem Coherent.render_eq_of_rank (coherent : s.Coherent) (coherent' : t.Coherent)
    (sameMaximum : t.maximum = s.maximum) {v : Nat} (sameRank : t.rank v = s.rank v) :
    (t.measure v).render = (s.measure v).render :=
  Measure.render_eq_of_equal (coherent.equal_of_rank coherent' sameMaximum sameRank)

/-- Whether solving `s` by `st` ends by its own test: every strategy does but
the random one, whose loop may run out of fuel first. -/
def SolveStops (st : Strategy) (s : Solver) : Prop :=
  st = .random → randomStops (s.solveStart.budget * 64 * (s.solveStart.size + 1)) s.solveStart = true

/-- A solve that keeps to the least fixpoint: every strategy but the
propagation strategies under the eager policy, and the random strategy when
it stops by its own test. -/
theorem solve_exact (reachable : s.LiftReachable) (st : Strategy)
    (safe : st = .propagation ∨ st = .propagationHybrid → s.policy = .safe)
    (stops : SolveStops st s) :
    (s.solve st).2.1.Sound ∧ (s.solve st).2.1.arena = s.arena ∧
      ∀ v < s.size, (s.solve st).2.1.rank v = s.arena.fixRank v := by
  obtain ⟨grows, exact⟩ := reachable.sound.solveStart.runStrategy_exact
    (lockSound_solveStart Exact s) st safe stops
  refine ⟨grows.sound, grows.arena_eq, fun v inside => ?_⟩
  have exactV : (runStrategy st s.solveStart).1.Exact v := exact v inside
  rw [Exact, grows.arena_eq] at exactV
  exact exactV

section Agree

variable (reachable : s.LiftReachable) (reachable' : t.LiftReachable)
  (intact : s.arena.Intact) (intact' : t.arena.Intact) (same : s.arena.SameGame t.arena)
include reachable reachable' intact intact' same

/-- Solving two arenas with the same game names the same winners, whatever
the strategies and lock policies: all of them decide `⊤` by the least
fixpoint, which the game determines. -/
theorem solve_winners_agree (st st' : Strategy)
    (stops : SolveStops st s) (stops' : SolveStops st' t) :
    (s.solve st).1 = (t.solve st').1 := by
  obtain ⟨sound, sameArena, counts⟩ := solve_rank_count_iff reachable st stops
  obtain ⟨sound', sameArena', counts'⟩ := solve_rank_count_iff reachable' st' stops'
  have sizes : t.size = s.size := same.size_eq
  show (s.solve st).2.1.winners = (t.solve st').2.1.winners
  apply Array.ext_getElem?
  intro v
  by_cases inside : v < s.size
  · have within : v < t.size := sizes ▸ inside
    have insideS : v < (s.solve st).2.1.size := by rw [size, sameArena]; exact inside
    have insideT : v < (t.solve st').2.1.size := by rw [size, sameArena']; exact within
    -- both sides are at the count where the one least fixpoint is
    have agree : (s.solve st).2.1.rank v = (s.solve st).2.1.arena.scale.count ↔
        (t.solve st').2.1.rank v = (t.solve st').2.1.arena.scale.count := by
      rw [sameArena, sameArena', counts v inside, counts' v within,
        same.fixRank_eq intact intact', same.scale_eq intact intact']
    rw [sound.winners_getElem? insideS, sound'.winners_getElem? insideT]
    simp only [agree]
  · have outsideS : (s.solve st).2.1.winners.size ≤ v := by
      rw [sound.winners_size, size, sameArena]; exact Nat.le_of_not_lt inside
    have outsideT : (t.solve st').2.1.winners.size ≤ v := by
      rw [sound'.winners_size, size, sameArena', same.size_eq]; exact Nat.le_of_not_lt inside
    rw [Array.getElem?_eq_none outsideS, Array.getElem?_eq_none outsideT]

/-- Solving two arenas with the same game by strategies that keep to the
least fixpoint prints every measure alike. -/
theorem solve_renders_agree (st st' : Strategy)
    (safe : st = .propagation ∨ st = .propagationHybrid → s.policy = .safe)
    (safe' : st' = .propagation ∨ st' = .propagationHybrid → t.policy = .safe)
    (stops : SolveStops st s) (stops' : SolveStops st' t) :
    ∀ v < s.size, ((t.solve st').2.1.measure v).render = ((s.solve st).2.1.measure v).render := by
  obtain ⟨sound, sameArena, exact⟩ := solve_exact reachable st safe stops
  obtain ⟨sound', sameArena', exact'⟩ := solve_exact reachable' st' safe' stops'
  have sameMaximum : (t.solve st').2.1.maximum = (s.solve st).2.1.maximum := by
    rw [sound.coherent.maximum_eq, sound'.coherent.maximum_eq, sameArena, sameArena',
      same.maximumOf_eq intact intact']
  intro v inside
  apply sound.coherent.render_eq_of_rank sound'.coherent sameMaximum
  have within : v < t.size := by rw [size, same.size_eq]; exact inside
  rw [exact v inside, exact' v within, same.fixRank_eq intact intact']

end Agree

section Relocate

/-! The strategies other than propagation read an arena only through lifts,
which read successor lists, owners and priorities, and through the orders of
the vertices, which read priorities and numbers of predecessors.  So each of
them runs alike over arenas with the same game: the run over `b` is the run
over `a` with the arena swapped, and the generator too where none is drawn. -/

/-- The state `s` over the arena `b`, with the generator `g`. -/
def relocate (s : Solver) (b : Arena) (g : Random.Generator) : Solver :=
  { s with arena := b, rng := g }

variable {b : Arena} {g : Random.Generator}

@[simp] theorem arena_relocate : (s.relocate b g).arena = b := rfl
@[simp] theorem measure_relocate (v : Nat) : (s.relocate b g).measure v = s.measure v := rfl
@[simp] theorem isLocked_relocate (v : Nat) : (s.relocate b g).isLocked v = s.isLocked v := rfl
@[simp] theorem winners_relocate : (s.relocate b g).winners = s.winners := rfl
theorem size_relocate (same : s.arena.SameGame b) : (s.relocate b g).size = s.size :=
  same.size_eq

theorem lift_relocate (same : s.arena.SameGame b) (v : Nat) :
    (s.relocate b g).lift v = ((s.lift v).1, (s.lift v).2.relocate b g) := by
  unfold lift relocate rank measure
  dsimp only
  -- what `lift` reads of the vertex of `b`, replaced all at once by that of `s`
  generalize outgoing : (b.vertex v).outgoing = ws
  generalize owner : (b.vertex v).owner = o
  generalize priority : (b.vertex v).priority = p
  rw [same.outgoing_eq v] at outgoing
  rw [same.owner_eq v] at owner
  rw [same.priority_eq v] at priority
  subst outgoing owner priority
  generalize (_ && _) = unchanged
  cases unchanged <;> rfl

/-- `liftLive` leaves the arena and the generator. -/
theorem liftLive_frame (s : Solver) (v : Nat) :
    (s.liftLive v).2.arena = s.arena ∧ (s.liftLive v).2.rng = s.rng := by
  unfold liftLive
  split
  · exact ⟨rfl, rfl⟩
  · refine ⟨arena_lift s v, ?_⟩
    unfold lift
    dsimp only
    generalize (_ && _) = unchanged
    cases unchanged <;> rfl

theorem liftLive_relocate (same : s.arena.SameGame b) (v : Nat) :
    (s.relocate b g).liftLive v = ((s.liftLive v).1, (s.liftLive v).2.relocate b g) := by
  unfold liftLive
  rw [measure_relocate]
  split
  · rfl
  · exact lift_relocate same v

theorem sweepReturning_relocate (order : Array Nat) :
    ∀ (fuel i : Nat) (s : Solver), s.arena.SameGame b →
      sweepReturning order fuel i (s.relocate b g) = (sweepReturning order fuel i s).relocate b g ∧
        (sweepReturning order fuel i s).arena = s.arena := by
  intro fuel
  induction fuel with
  | zero => intro i s _; exact ⟨rfl, rfl⟩
  | succ fuel ih =>
    intro i s same
    rw [sweepReturning, sweepReturning]
    cases order[i]? with
    | none => exact ⟨rfl, rfl⟩
    | some v =>
      dsimp only
      rw [liftLive_relocate same v]
      have kept := (liftLive_frame s v).1
      generalize s.liftLive v = lifted at kept ⊢
      obtain ⟨changed, t⟩ := lifted
      dsimp only at kept ⊢
      obtain ⟨moved, stays⟩ := ih (if changed then 0 else i + 1) t (kept ▸ same)
      exact ⟨moved, stays.trans kept⟩

theorem sweepFrom_relocate :
    ∀ (order : List Nat) (changed : Bool) (s : Solver), s.arena.SameGame b →
      sweepFrom order changed (s.relocate b g) =
          ((sweepFrom order changed s).1, (sweepFrom order changed s).2.relocate b g) ∧
        (sweepFrom order changed s).2.arena = s.arena ∧ (sweepFrom order changed s).2.rng = s.rng := by
  intro order
  induction order with
  | nil => intro changed s _; exact ⟨rfl, rfl, rfl⟩
  | cons v vs ih =>
    intro changed s same
    rw [sweepFrom, sweepFrom]
    dsimp only
    rw [liftLive_relocate same v]
    have kept := liftLive_frame s v
    generalize s.liftLive v = lifted at kept ⊢
    obtain ⟨c, t⟩ := lifted
    dsimp only at kept ⊢
    obtain ⟨moved, staysArena, staysRng⟩ := ih (changed || c) t (kept.1 ▸ same)
    exact ⟨moved, staysArena.trans kept.1, staysRng.trans kept.2⟩

theorem sweepNonReturning_relocate (order : List Nat) :
    ∀ (fuel : Nat) (s : Solver), s.arena.SameGame b →
      sweepNonReturning order fuel (s.relocate b g) = (sweepNonReturning order fuel s).relocate b g ∧
        (sweepNonReturning order fuel s).arena = s.arena := by
  intro fuel
  induction fuel with
  | zero => intro s _; exact ⟨rfl, rfl⟩
  | succ fuel ih =>
    intro s same
    rw [sweepNonReturning, sweepNonReturning, sweepOnce, sweepOnce]
    obtain ⟨swept, kept, -⟩ := sweepFrom_relocate (g := g) order false s same
    rw [swept]
    generalize sweepFrom order false s = passed at kept ⊢
    obtain ⟨changed, t⟩ := passed
    dsimp only at kept ⊢
    cases changed
    · exact ⟨rfl, kept⟩
    · obtain ⟨moved, stays⟩ := ih t (kept ▸ same)
      exact ⟨moved, stays.trans kept⟩

theorem draw_relocate {α : Type} (f : Random.Generator → α × Random.Generator) :
    (s.relocate b s.rng).draw f = ((s.draw f).1, (s.draw f).2.relocate b (s.draw f).2.rng) :=
  rfl

theorem arena_draw {α : Type} (f : Random.Generator → α × Random.Generator) :
    (s.draw f).2.arena = s.arena :=
  rfl

theorem liftRandomLoop_relocate (n : Nat) :
    ∀ (fuel : Nat) (finished : Array Bool) (remaining : Nat) (s : Solver), s.arena.SameGame b →
      liftRandomLoop n fuel finished remaining (s.relocate b s.rng) =
          (liftRandomLoop n fuel finished remaining s).relocate b
            (liftRandomLoop n fuel finished remaining s).rng ∧
        (liftRandomLoop n fuel finished remaining s).arena = s.arena := by
  intro fuel
  induction fuel with
  | zero => intro finished remaining s _; exact ⟨rfl, rfl⟩
  | succ fuel ih =>
    intro finished remaining s same
    rw [liftRandomLoop, liftRandomLoop]
    split
    · exact ⟨rfl, rfl⟩
    · rw [draw_relocate]
      have drawnArena := arena_draw (s := s) (·.below n)
      generalize s.draw (·.below n) = drawn at drawnArena ⊢
      obtain ⟨v, t⟩ := drawn
      dsimp only at drawnArena ⊢
      rw [liftLive_relocate (drawnArena ▸ same) v]
      obtain ⟨kept, keptRng⟩ := liftLive_frame t v
      rw [← keptRng]
      generalize t.liftLive v = lifted at kept ⊢
      obtain ⟨changed, u⟩ := lifted
      dsimp only at kept ⊢
      have sameU : u.arena.SameGame b := by rw [kept, drawnArena]; exact same
      have back : u.arena = s.arena := kept.trans drawnArena
      split
      · obtain ⟨moved, stays⟩ := ih (Array.replicate n false) n u sameU
        exact ⟨moved, stays.trans back⟩
      · split
        · obtain ⟨moved, stays⟩ := ih finished remaining u sameU
          exact ⟨moved, stays.trans back⟩
        · obtain ⟨moved, stays⟩ := ih (finished.set! v true) (remaining - 1) u sameU
          exact ⟨moved, stays.trans back⟩

theorem liftRandom_relocate (same : s.arena.SameGame b) (fuel : Nat) :
    liftRandom fuel (s.relocate b s.rng) = (liftRandom fuel s).relocate b (liftRandom fuel s).rng := by
  unfold liftRandom
  dsimp only
  rw [size_relocate same]
  split
  · rfl
  · exact (liftRandomLoop_relocate _ fuel _ _ s same).1

theorem liftRandomNonReturning_relocate :
    ∀ (fuel : Nat) (s : Solver), s.arena.SameGame b →
      liftRandomNonReturning fuel (s.relocate b s.rng) =
          (liftRandomNonReturning fuel s).relocate b (liftRandomNonReturning fuel s).rng ∧
        (liftRandomNonReturning fuel s).arena = s.arena := by
  intro fuel
  induction fuel with
  | zero => intro s _; exact ⟨rfl, rfl⟩
  | succ fuel ih =>
    intro s same
    rw [liftRandomNonReturning, liftRandomNonReturning, size_relocate same]
    split
    · exact ⟨rfl, rfl⟩
    · dsimp only
      rw [draw_relocate]
      have drawnArena := arena_draw (s := s) (·.permutation s.size)
      generalize s.draw (·.permutation s.size) = drawn at drawnArena ⊢
      obtain ⟨order, t⟩ := drawn
      dsimp only at drawnArena ⊢
      rw [sweepOnce, sweepOnce]
      obtain ⟨swept, kept, keptRng⟩ :=
        sweepFrom_relocate (g := t.rng) order.toList false t (drawnArena ▸ same)
      rw [swept, ← keptRng]
      generalize sweepFrom order.toList false t = passed at kept keptRng ⊢
      obtain ⟨changed, u⟩ := passed
      dsimp only at kept keptRng ⊢
      cases changed
      · exact ⟨rfl, kept.trans drawnArena⟩
      · obtain ⟨moved, stays⟩ := ih u (by rw [kept, drawnArena]; exact same)
        exact ⟨moved, stays.trans (kept.trans drawnArena)⟩

theorem relocate_self (s : Solver) : s.relocate s.arena s.rng = s := rfl

/-- A fold whose steps keep the arena and move to `b` with the state, from
every state whose arena `Q` accepts, moves to `b` with it. -/
theorem foldl_relocate {α : Type} (Q : Arena → Prop) {F : α × Solver → Nat → α × Solver}
    (step : ∀ (x : α) (t : Solver) (v : Nat), Q t.arena →
      F (x, t.relocate b g) v = ((F (x, t) v).1, (F (x, t) v).2.relocate b g) ∧
        (F (x, t) v).2.arena = t.arena) :
    ∀ (set : List Nat) (x : α) (s : Solver), Q s.arena →
      set.foldl F (x, s.relocate b g) = ((set.foldl F (x, s)).1, (set.foldl F (x, s)).2.relocate b g) := by
  intro set
  induction set with
  | nil => intro x s _; rfl
  | cons v vs ih =>
    intro x s same
    obtain ⟨stepped, kept⟩ := step x s v same
    rw [List.foldl_cons, List.foldl_cons, stepped]
    exact ih (F (x, s) v).1 (F (x, s) v).2 (kept ▸ same)

theorem recursivePass_relocate (fuel : Nat) (set : List Nat) (same : s.arena.SameGame b) :
    recursivePass fuel false set (s.relocate b g) =
      ((recursivePass fuel false set s).1, (recursivePass fuel false set s).2.relocate b g) := by
  unfold recursivePass
  dsimp only
  rw [foldl_relocate (·.SameGame b) ?step set #[] s same]
  case step =>
    -- one step of the pass: skip, or lift and, outside hybrid mode, only record
    intro x t v sameT
    dsimp only
    rw [isLocked_relocate, measure_relocate]
    split
    · exact ⟨rfl, rfl⟩
    · rw [lift_relocate sameT v]
      have kept := arena_lift t v
      generalize t.lift v = lifted at kept ⊢
      obtain ⟨changed, u⟩ := lifted
      cases changed <;> exact ⟨rfl, kept⟩

theorem arena_recursivePass (fuel : Nat) (set : List Nat) (s : Solver) :
    (recursivePass fuel false set s).2.arena = s.arena := by
  have moved := recursivePass_relocate (g := s.rng) fuel set (Arena.SameGame.refl s.arena)
  rw [relocate_self] at moved
  exact congrArg (fun passed => passed.2.arena) moved

theorem liftRecursive_relocate :
    ∀ (fuel : Nat) (set : List Nat) (depth : Nat) (s : Solver), s.arena.SameGame b →
      liftRecursive false fuel set depth (s.relocate b g) =
          (liftRecursive false fuel set depth s).relocate b g ∧
        (liftRecursive false fuel set depth s).arena = s.arena := by
  intro fuel
  induction fuel with
  | zero => intro set depth s _; exact ⟨rfl, rfl⟩
  | succ fuel ih =>
    intro set depth s same
    rw [liftRecursive, liftRecursive]
    have noted : (s.relocate b g).noteDepth depth = (s.noteDepth depth).relocate b g := rfl
    dsimp only
    rw [noted, recursivePass_relocate (s := s.noteDepth depth) fuel set same]
    have kept : (recursivePass fuel false set (s.noteDepth depth)).2.arena = s.arena :=
      arena_recursivePass fuel set (s.noteDepth depth)
    generalize recursivePass fuel false set (s.noteDepth depth) = passed at kept ⊢
    obtain ⟨changed, t⟩ := passed
    dsimp only at kept ⊢
    split
    · exact ⟨rfl, kept⟩
    · -- the nested call on the changed part, then the next pass on the whole set
      have sameT : t.arena.SameGame b := kept ▸ same
      have nested : (if changed.length < set.length then
            liftRecursive false fuel changed (depth + 1) (t.relocate b g) else t.relocate b g) =
          (if changed.length < set.length then
            liftRecursive false fuel changed (depth + 1) t else t).relocate b g ∧
          (if changed.length < set.length then
            liftRecursive false fuel changed (depth + 1) t else t).arena = t.arena := by
        split
        · exact ih changed (depth + 1) t sameT
        · exact ⟨rfl, rfl⟩
      obtain ⟨nestedEq, nestedArena⟩ := nested
      rw [nestedEq]
      generalize (if changed.length < set.length then _ else t) = after at nestedArena ⊢
      obtain ⟨moved, stays⟩ := ih set depth after (by rw [nestedArena, kept]; exact same)
      exact ⟨moved, stays.trans (nestedArena.trans kept)⟩

theorem inputOrder_relocate (same : s.arena.SameGame b) :
    inputOrder (s.relocate b g) = inputOrder s := by
  rw [inputOrder, inputOrder, size_relocate same]

theorem priorityOrder_relocate (same : s.arena.SameGame b) :
    priorityOrder (s.relocate b g) = priorityOrder s := by
  simp only [priorityOrder, inputOrder_relocate same, arena_relocate, same.priority_eq]

/-- The order by predecessors counts them, and arenas with the same game have
as many predecessors at every vertex. -/
theorem incomingOrder_relocate (same : s.arena.SameGame b) (intact : s.arena.Intact)
    (intactB : b.Intact) : incomingOrder (s.relocate b g) = incomingOrder s := by
  have degrees : ∀ v, (b.vertex v).inDegree = (s.arena.vertex v).inDegree := fun v => by
    rw [Vertex.inDegree, Vertex.inDegree, ← Array.length_toList, ← Array.length_toList]
    exact (same.incoming_perm intact intactB v).length_eq
  simp only [incomingOrder, inputOrder_relocate same, arena_relocate, degrees]

theorem budget_relocate (same : s.arena.SameGame b) : (s.relocate b g).budget = s.budget := by
  rw [budget, budget, size_relocate same]
  rfl

/-- Every strategy but the propagation strategies runs alike over an arena
with the same game; the random ones draw from the same generator. -/
theorem runStrategy_relocate (same : s.arena.SameGame b) (intact : s.arena.Intact)
    (intactB : b.Intact) {st : Strategy} (notPropagation : st ≠ .propagation ∧ st ≠ .propagationHybrid)
    (ownRng : st.isRandomized = true → g = s.rng) :
    ∃ g', (runStrategy st (s.relocate b g)).1 = (runStrategy st s).1.relocate b g' := by
  unfold runStrategy
  rw [budget_relocate same, size_relocate same]
  cases st with
  | input => exact ⟨g, by rw [inputOrder_relocate same]; exact (sweepReturning_relocate _ _ _ s same).1⟩
  | inputNonReturning =>
    exact ⟨g, by rw [inputOrder_relocate same]; exact (sweepNonReturning_relocate _ _ s same).1⟩
  | random =>
    rw [ownRng rfl]
    exact ⟨_, liftRandom_relocate same _⟩
  | randomNonReturning =>
    rw [ownRng rfl]
    exact ⟨_, (liftRandomNonReturning_relocate _ s same).1⟩
  | priority =>
    exact ⟨g, by rw [priorityOrder_relocate same]; exact (sweepReturning_relocate _ _ _ s same).1⟩
  | priorityNonReturning =>
    exact ⟨g, by rw [priorityOrder_relocate same]; exact (sweepNonReturning_relocate _ _ s same).1⟩
  | incoming =>
    exact ⟨g, by
      rw [incomingOrder_relocate same intact intactB]
      exact (sweepReturning_relocate _ _ _ s same).1⟩
  | incomingNonReturning =>
    exact ⟨g, by
      rw [incomingOrder_relocate same intact intactB]
      exact (sweepNonReturning_relocate _ _ s same).1⟩
  | recursive =>
    exact ⟨g, by rw [inputOrder_relocate same]; exact (liftRecursive_relocate _ _ _ s same).1⟩
  | recursivePriority =>
    exact ⟨g, by rw [priorityOrder_relocate same]; exact (liftRecursive_relocate _ _ _ s same).1⟩
  | recursiveIncoming =>
    exact ⟨g, by
      rw [incomingOrder_relocate same intact intactB]
      exact (liftRecursive_relocate _ _ _ s same).1⟩
  | propagation => exact absurd rfl notPropagation.1
  | propagationHybrid => exact absurd rfl notPropagation.2

theorem solveStart_relocate : (s.relocate b g).solveStart = s.solveStart.relocate b g := rfl

/-- Solving over an arena with the same game by a strategy other than
propagation names the same winners and leaves the same state but for the
arena and the generator. -/
theorem solve_relocate (same : s.arena.SameGame b) (intact : s.arena.Intact) (intactB : b.Intact)
    {st : Strategy} (notPropagation : st ≠ .propagation ∧ st ≠ .propagationHybrid)
    (ownRng : st.isRandomized = true → g = s.rng) :
    ((s.relocate b g).solve st).1 = (s.solve st).1 ∧
      ∃ g', ((s.relocate b g).solve st).2.1 = (s.solve st).2.1.relocate b g' := by
  obtain ⟨g', moved⟩ := runStrategy_relocate (s := s.solveStart) same intact intactB notPropagation
    ownRng
  have solved : ((s.relocate b g).solve st).2.1 = (s.solve st).2.1.relocate b g' := by
    rw [← solveStart_relocate] at moved
    exact moved
  refine ⟨?_, g', solved⟩
  show ((s.relocate b g).solve st).2.1.winners = (s.solve st).2.1.winners
  rw [solved, winners_relocate]

theorem new_relocate {a : Arena} (same : a.SameGame b) (intactA : a.Intact) (intactB : b.Intact)
    (g' : Random.Generator) (policy : LockPolicy) :
    new b g policy = (new a g' policy).relocate b g := by
  simp only [new, relocate, same.maximumOf_eq intactA intactB, same.size_eq]

/-- A fresh solve of an arena with the same game by a strategy other than
propagation, from the same generator where one is drawn: the same winners,
and the same state but for the arena and the generator. -/
theorem new_solve_relocate {a : Arena} (same : a.SameGame b) (intactA : a.Intact)
    (intactB : b.Intact) {g' : Random.Generator} (policy : LockPolicy) {st : Strategy}
    (notPropagation : st ≠ .propagation ∧ st ≠ .propagationHybrid)
    (ownRng : st.isRandomized = true → g = g') :
    ((new b g policy).solve st).1 = ((new a g' policy).solve st).1 ∧
      ∃ g'', ((new b g policy).solve st).2.1 = ((new a g' policy).solve st).2.1.relocate b g'' := by
  rw [new_relocate same intactA intactB g' policy]
  exact solve_relocate same intactA intactB notPropagation ownRng

/-- Fresh solves of two arenas built by the arena operations that record the
same game name the same winners, under every strategy, lock policy and
generator. -/
theorem new_solve_winners_agree {a : Arena} (reachableA : a.Reachable) (reachableB : b.Reachable)
    (same : a.SameGame b) (policy : LockPolicy) (st : Strategy) :
    ((new b g policy).solve st).1 = ((new a g policy).solve st).1 := by
  by_cases propagation : st = .propagation ∨ st = .propagationHybrid
  · -- propagation names its winners by the least fixpoint, and stops by its own test
    have stops : ∀ s, SolveStops st s := fun _ random => by
      rw [random] at propagation
      simp at propagation
    exact (solve_winners_agree (.new g policy reachableA) (.new g policy reachableB) reachableA.intact
      reachableB.intact same st st (stops _) (stops _)).symm
  · exact (new_solve_relocate same reachableA.intact reachableB.intact policy (not_or.1 propagation)
      fun _ => rfl).1

end Relocate

end Solver

end ParityGames
