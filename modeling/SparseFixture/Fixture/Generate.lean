import SparseFixture.Failure
import SparseFixture.FileSystem.Calls
import SparseFixture.Fixture.Basic
import SparseFixture.Log.Level

/-!
# Generating the fixture

Three calls make the fixture: the file is opened (and created or emptied), its cursor is moved to
the last byte, and one zero is written there. The first call that fails ends the run; what the calls
before it did stays. A run leaves a log of what it did.
-/

namespace SparseFixture

namespace Fixture

/-! ### The log -/

/-- What a run notes in its log. -/
inductive Record where
  | creating (path : Bytes)
  | cursor (position : Nat)
  | wrote (path : Bytes) (length allocated : Nat)
deriving DecidableEq, Repr

/-- How much a record matters. -/
def Record.level : Record → Log.Level
  | creating _ => .debug
  | cursor _ => .trace
  | wrote _ _ _ => .debug

/-- The text of a record. The number of bytes allocated is shown as `figure` says. -/
def Record.message (figure : Nat → String) : Record → String
  | creating path => "creating " ++ Utf8.lossy path ++ " (mode " ++ mode.octal ++ ")"
  | cursor position => "cursor at " ++ toString position
  | wrote path length allocated =>
    "wrote " ++ Utf8.lossy path ++ ": " ++ toString length ++ " bytes, " ++ figure allocated
      ++ " bytes allocated"

/-! ### Runs -/

/-- What comes of a run: its result, its log, and the file system that it leaves. -/
structure Outcome where
  result : Except Failure Unit
  log : List Record
  files : FileSystem

/-- Opens a path for writing with the mode of the fixture. -/
def create (fs : FileSystem) (p : Caller) (path : Bytes) : Except Cause Handle × FileSystem :=
  fs.openTruncated p mode path

/-- The last record of a run: the length that the file has in the end, and the number of bytes that
the system says it has allocated. -/
def summary (fs : FileSystem) (p : Caller) (path : Bytes) (h : Handle) : List Record :=
  match fs.length h with
  | .ok n => [.wrote path n (p.allocated n)]
  | .error _ => []

/-- Generates the fixture at a path. -/
def generateAt (fs : FileSystem) (p : Caller) (path : Bytes) : Outcome :=
  match create fs p path with
  | (.error c, fs₁) => ⟨.error (.create path c), [.creating path], fs₁⟩
  | (.ok h, fs₁) =>
    match fs₁.seekSet h lastOffset with
    | (.error c, _) => ⟨.error (.seek lastOffset c), [.creating path], fs₁⟩
    | (.ok position, h₁) =>
      match fs₁.write p h₁ [0] with
      | (.error c, _, fs₂) =>
        ⟨.error (.write lastOffset c), [.creating path, .cursor position], fs₂⟩
      | (.ok (), h₂, fs₂) =>
        ⟨.ok (), [.creating path, .cursor position] ++ summary fs₂ p path h₂, fs₂⟩

/-- Generates the fixture in the working directory. -/
def generate (fs : FileSystem) (p : Caller) : Outcome := generateAt fs p nameBytes

/-- Generates the fixture in a directory. -/
def generateIn (fs : FileSystem) (p : Caller) (dir : Bytes) : Outcome := generateAt fs p (path dir)

end Fixture

end SparseFixture
