/-!
# Build information

What a build of the program says about itself: its version, the commit it
was built from and when.  A build without these stamped in says `dev`,
`none` and `unknown`.
-/

namespace ParityGames

/-- The build information of the program. -/
structure BuildInfo where
  version : String := "dev"
  commit : String := "none"
  date : String := "unknown"
  /-- The toolchain that compiled the program. -/
  toolchain : String := "lean4.33.0"
  deriving Repr, DecidableEq, Inhabited

namespace BuildInfo

/-- The information of this build. -/
def current : BuildInfo := {}

/-- The information as three lines. -/
def text (b : BuildInfo) : String :=
  s!"version: {b.version}\ncommit: {b.commit}\nbuilt: {b.date}"

/-- The version message of a program of a name. -/
def versionText (b : BuildInfo) (name : String) : String :=
  s!"{name} version {b.version}\ncommit: {b.commit}\nbuilt: {b.date}\n"

/-- The version message as a template whose program name is filled in by
the command line. -/
def template (b : BuildInfo) : String :=
  "\x7b\x7b.Name\x7d\x7d version " ++ b.version ++ "\ncommit: " ++ b.commit ++ "\nbuilt: " ++
    b.date ++ "\n"

theorem text_current : current.text = "version: dev\ncommit: none\nbuilt: unknown" := rfl

end BuildInfo

end ParityGames
