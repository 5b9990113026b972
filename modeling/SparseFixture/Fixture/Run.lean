import SparseFixture.Fixture.Generate

/-!
# Runs, one call at a time

A run of the generator as a machine that makes one system call at each step, so that several runs on
one file system can take turns. Taken without a break, its steps are `generateAt`.
-/

namespace SparseFixture

namespace Fixture

/-- How far a run has come. -/
inductive Phase where
  | waiting
  | opened (h : Handle)
  | positioned (h : Handle)
  | finished (result : Except Failure Unit)

/-- A run: its caller, its path, how far it has come, and its log. -/
structure Run where
  caller : Caller
  path : Bytes
  phase : Phase
  log : List Record

namespace Run

/-- A run that has not made a call yet. -/
def start (p : Caller) (path : Bytes) : Run := ⟨p, path, .waiting, [.creating path]⟩

/-- The run after it has ended. -/
def finish (r : Run) (result : Except Failure Unit) : Run := { r with phase := .finished result }

/-- The run after it has come to another phase and has noted more. -/
def advance (r : Run) (phase : Phase) (records : List Record) : Run :=
  { r with phase := phase, log := r.log ++ records }

/-- Makes the next call of a run. A run that has ended makes none. -/
def step (r : Run) (fs : FileSystem) : Run × FileSystem :=
  match r.phase with
  | .waiting =>
    match create fs r.caller r.path with
    | (.error c, fs') => (r.finish (.error (.create r.path c)), fs')
    | (.ok h, fs') => (r.advance (.opened h) [], fs')
  | .opened h =>
    match fs.seekSet h lastOffset with
    | (.error c, _) => (r.finish (.error (.seek lastOffset c)), fs)
    | (.ok position, h') => (r.advance (.positioned h') [.cursor position], fs)
  | .positioned h =>
    match fs.write r.caller h [0] with
    | (.error c, _, fs') => (r.finish (.error (.write lastOffset c)), fs')
    | (.ok (), h', fs') => (r.advance (.finished (.ok ())) (summary fs' r.caller r.path h'), fs')
  | .finished _ => (r, fs)

/-- Makes a number of calls without a break. -/
def steps : Nat → Run → FileSystem → Run × FileSystem
  | 0, r, fs => (r, fs)
  | n + 1, r, fs => steps n (r.step fs).1 (r.step fs).2

/-- The run that an outcome of `generateAt` describes. -/
def ofOutcome (p : Caller) (path : Bytes) (o : Outcome) : Run × FileSystem :=
  (⟨p, path, .finished o.result, o.log⟩, o.files)

/-- Three calls without a break are a whole run. -/
theorem steps_three (fs : FileSystem) (p : Caller) (path : Bytes) :
    steps 3 (start p path) fs = ofOutcome p path (generateAt fs p path) := by
  rcases hc : create fs p path with ⟨c | h, fs₁⟩
  · simp only [steps, step, start, finish, generateAt, hc, ofOutcome]
  · rcases hs : fs₁.seekSet h lastOffset with ⟨c | position, h₁⟩
    · simp only [steps, step, start, finish, advance, generateAt, hc, hs, ofOutcome,
        List.append_nil]
    · rcases hw : fs₁.write p h₁ [0] with ⟨c | u, h₂, fs₂⟩
      · simp only [steps, step, start, finish, advance, generateAt, hc, hs, hw, ofOutcome,
          List.cons_append, List.nil_append]
      · simp only [steps, step, start, advance, generateAt, hc, hs, hw, ofOutcome,
          List.cons_append, List.nil_append]

end Run

end Fixture

end SparseFixture
