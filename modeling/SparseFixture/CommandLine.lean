import SparseFixture.Fixture.Generate
import SparseFixture.Log.Filter

/-!
# The command line

The program generates the fixture in the working directory, unless one of its arguments asks for
help. All it prints goes to the error stream: the warnings about the log filter, then the log
records that the filter shows, then the usage or what went wrong.
-/

namespace SparseFixture

namespace CommandLine

/-- The target that every log record of the program has. -/
def target : String := "makepmafile"

/-- A line, or several that belong together, on the error stream. -/
inductive Line where
  | warning (w : Log.Warning)
  | record (r : Fixture.Record)
  | usage (program : Bytes)
  | failed (program : Bytes) (f : Failure)
deriving DecidableEq, Repr

/-- How the parts of a line are shown that differ from run to run: the time of each record, and the
number of bytes allocated. -/
structure Format where
  stamp : Fixture.Record → String
  figure : Nat → String

/-- The text of a line. -/
def Line.render (format : Format) : Line → String
  | warning w => w.text ++ "\n"
  | record r =>
    "[" ++ format.stamp r ++ " " ++ r.level.name ++ " " ++ target ++ "] "
      ++ r.message format.figure ++ "\n"
  | usage program =>
    "Create a 4 MiB sparse file named " ++ Fixture.name ++ " in the current directory\n\nUsage: "
      ++ Utf8.lossy program ++ "\n\n"
  | failed program f => Utf8.lossy program ++ ": " ++ f.display ++ "\n"

/-- What a run of the program shows to the outside. -/
structure Report where
  status : Nat
  stdout : String
  stderr : List Line
deriving DecidableEq, Repr

/-- The text on the error stream. -/
def Report.errors (format : Format) (r : Report) : String :=
  String.join (r.stderr.map (Line.render format))

/-- Whether an argument asks for help. -/
def asksHelp (arg : Bytes) : Bool := arg = Bytes.ofText "-h" || arg = Bytes.ofText "--help"

/-- Whether a filter shows a record. It is the message with the real number of bytes allocated that
has to fit the filter's pattern. -/
def isShown (lang : Log.PatternLanguage) (filter : Log.Filter) (r : Fixture.Record) : Bool :=
  filter.shows lang target.toList r.level (r.message toString).toList

/-- The report of a run that was asked for help. -/
def helpReport (program : Bytes) (warnings : List Log.Warning) : Report :=
  ⟨0, "", warnings.map .warning ++ [.usage program]⟩

/-- The report of a run that tried to generate the fixture. -/
def generateReport (lang : Log.PatternLanguage) (program : Bytes) (warnings : List Log.Warning)
    (filter : Log.Filter) (result : Except Failure Unit) (log : List Fixture.Record) : Report :=
  let shown := warnings.map .warning ++ (log.filter (isShown lang filter)).map .record
  match result with
  | .ok () => ⟨0, "", shown⟩
  | .error f => ⟨1, "", shown ++ [.failed program f]⟩

/-- Runs the program: `lang` is the language of the log filter's patterns, `program` the name that the
program was called by, `setting` the log filter's text. -/
def run (lang : Log.PatternLanguage) (fs : FileSystem) (p : Caller) (program : Bytes)
    (args : List Bytes) (setting : Option Bytes) : Report × FileSystem :=
  let (warnings, filter) := Log.Filter.ofSetting lang setting
  if args.any asksHelp then (helpReport program warnings, fs)
  else
    let outcome := Fixture.generate fs p
    (generateReport lang program warnings filter outcome.result outcome.log, outcome.files)

end CommandLine

end SparseFixture
