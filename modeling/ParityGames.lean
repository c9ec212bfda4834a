import ParityGames.Analysis.Graph
import ParityGames.Analysis.Summary
import ParityGames.Benchmark
import ParityGames.Buffer
import ParityGames.BuildInfo
import ParityGames.Cache.File
import ParityGames.Cache.Keys
import ParityGames.Cache.Redis
import ParityGames.Cache.Retry
import ParityGames.Cli.Command
import ParityGames.Cli.Complete
import ParityGames.Cli.Flag
import ParityGames.Cli.Program
import ParityGames.Cli.Report
import ParityGames.Cli.Run
import ParityGames.Cli.Shell.Bash
import ParityGames.Cli.Shell.BashText
import ParityGames.Cli.Shell.Fish
import ParityGames.Cli.Shell.Names
import ParityGames.Cli.Shell.PowerShell
import ParityGames.Cli.Shell.Zsh
import ParityGames.Compress.Crc32
import ParityGames.Compress.Gzip
import ParityGames.Compress.Inflate
import ParityGames.Config.Settings
import ParityGames.Config.Toml
import ParityGames.Config.TomlDocument
import ParityGames.Digest.Sha256
import ParityGames.Failure
import ParityGames.Format.Game
import ParityGames.Format.GameFile
import ParityGames.Format.GameJson
import ParityGames.Format.PGSolver
import ParityGames.Game.Arena
import ParityGames.Game.Build
import ParityGames.Game.Layout
import ParityGames.Game.Player
import ParityGames.Json.Decode
import ParityGames.Json.Parse
import ParityGames.Json.Value
import ParityGames.Lifetime
import ParityGames.Limits
import ParityGames.Log.Format
import ParityGames.Log.Record
import ParityGames.Main
import ParityGames.Measure.Basic
import ParityGames.Measure.Rank
import ParityGames.Observe.Hooks
import ParityGames.Pipeline.Entry
import ParityGames.Pipeline.Load
import ParityGames.Pipeline.Memory
import ParityGames.Pipeline.Options
import ParityGames.Pipeline.Runner
import ParityGames.Proofs.ArenaInvariant
import ParityGames.Proofs.ArenaEdges
import ParityGames.Proofs.Attractors
import ParityGames.Proofs.Determinacy
import ParityGames.Proofs.Fixpoint
import ParityGames.Proofs.Games
import ParityGames.Proofs.Lifting
import ParityGames.Proofs.Locking
import ParityGames.Proofs.MeasureOrder
import ParityGames.Proofs.MeasureCalls
import ParityGames.Proofs.QuotedLabels
import ParityGames.Proofs.PGSolverLines
import ParityGames.Proofs.PGSolverRoundTrip
import ParityGames.Proofs.ProgLeast
import ParityGames.Proofs.PrefixCounter
import ParityGames.Proofs.LockRuns
import ParityGames.Proofs.SameGame
import ParityGames.Proofs.CacheKeys
import ParityGames.Proofs.CallsInRange
import ParityGames.Proofs.CompareLaws
import ParityGames.Proofs.Radix
import ParityGames.Proofs.Regions
import ParityGames.Proofs.Reuse
import ParityGames.Proofs.Schedules
import ParityGames.Proofs.SelfLoops
import ParityGames.Proofs.Strategies
import ParityGames.Proofs.TextLists
import ParityGames.Proofs.Termination
import ParityGames.Proofs.PGSolverReading
import ParityGames.Proofs.TopLocks
import ParityGames.Proofs.Quiescence
import ParityGames.Proofs.VertexWindow
import ParityGames.Proofs.GameLimits
import ParityGames.Proofs.Winning
import ParityGames.Proofs.JsonReading
import ParityGames.Proofs.JsonDecoding
import ParityGames.Proofs.GameJsonRoundTrip
import ParityGames.Random.Generator
import ParityGames.Random.SeedTable
import ParityGames.Render.Convert
import ParityGames.Render.Dot
import ParityGames.Render.Graphviz
import ParityGames.Screen.Keys
import ParityGames.Screen.Layout
import ParityGames.Screen.Table
import ParityGames.Screen.VertexList
import ParityGames.Server.Handler
import ParityGames.Server.Request
import ParityGames.Solver.Basic
import ParityGames.Solver.Lift
import ParityGames.Solver.Run
import ParityGames.Solver.Strategy
import ParityGames.System.FileSystem
import ParityGames.System.Machine
import ParityGames.System.Path
import ParityGames.System.Platform
import ParityGames.Text.Base64
import ParityGames.Text.Blank
import ParityGames.Text.Decimal
import ParityGames.Text.Duration
import ParityGames.Text.Floating
import ParityGames.Text.Printable
import ParityGames.Text.Quoted
import ParityGames.Text.Time
import ParityGames.Text.Utf8
import ParityGames.Transcript.Mask
import ParityGames.Transcript.Scripts
import ParityGames.Transcript.Session
import ParityGames.Transcript.Workspace
