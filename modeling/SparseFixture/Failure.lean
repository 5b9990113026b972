import SparseFixture.Cause
import SparseFixture.Quoted

/-!
# Failures

A failure names the step that failed (creating the file, moving its cursor, writing its last byte)
together with the cause. `display` is the line for people. `render` writes every field, either on
one line or with a line for each field.
-/

namespace SparseFixture

/-- A step that failed, and why. -/
inductive Failure where
  | create (path : Bytes) (cause : Cause)
  | seek (offset : Nat) (cause : Cause)
  | write (offset : Nat) (cause : Cause)
deriving DecidableEq, Repr

/-- How the fields of a record are set out. Each text depends on how deep the record is nested. -/
structure Layout where
  /-- Between an opening brace and the first field. -/
  brace : Nat → String
  /-- Between an opening parenthesis and its only field. -/
  paren : Nat → String
  /-- Between two fields. -/
  between : Nat → String
  /-- Between the last field and the closing brace. -/
  unbrace : Nat → String
  /-- Between the only field and the closing parenthesis. -/
  unparen : Nat → String

namespace Layout

/-- All fields on one line. -/
def compact : Layout where
  brace _ := " "
  paren _ := ""
  between _ := ", "
  unbrace _ := " "
  unparen _ := ""

/-- The start of a line at a depth, four blanks for each level. -/
def newline (depth : Nat) : String := "\n" ++ String.ofList (List.replicate (4 * depth) ' ')

/-- Every field on a line of its own, followed by a comma. -/
def spread : Layout where
  brace d := newline (d + 1)
  paren d := newline (d + 1)
  between d := "," ++ newline (d + 1)
  unbrace d := "," ++ newline d
  unparen d := "," ++ newline d

/-- A named record of two fields. -/
def record₂ (l : Layout) (depth : Nat) (name f₁ v₁ f₂ v₂ : String) : String :=
  name ++ " \x7b" ++ l.brace depth ++ f₁ ++ ": " ++ v₁ ++ l.between depth ++ f₂ ++ ": " ++ v₂
    ++ l.unbrace depth ++ "\x7d"

/-- A named record of three fields. -/
def record₃ (l : Layout) (depth : Nat) (name f₁ v₁ f₂ v₂ f₃ v₃ : String) : String :=
  name ++ " \x7b" ++ l.brace depth ++ f₁ ++ ": " ++ v₁ ++ l.between depth ++ f₂ ++ ": " ++ v₂
    ++ l.between depth ++ f₃ ++ ": " ++ v₃ ++ l.unbrace depth ++ "\x7d"

/-- A name applied to one value. -/
def applied (l : Layout) (depth : Nat) (name v : String) : String :=
  name ++ "(" ++ l.paren depth ++ v ++ l.unparen depth ++ ")"

end Layout

/-- A cause with all its fields. -/
def Cause.render (l : Layout) (depth : Nat) : Cause → String
  | os n =>
    l.record₃ depth "Os" "code" (toString n) "kind" (Errno.kind n).name
      "message" (Quoted.text (Errno.description n))
  | bare k => l.applied depth "Kind" k.name
  | fixed k m => l.record₂ depth "Error" "kind" k.name "message" (Quoted.text m)
  | custom k m => l.record₂ depth "Custom" "kind" k.name "error" (Quoted.text m)

namespace Failure

/-- The cause of a failure. -/
def cause : Failure → Cause
  | create _ c => c
  | seek _ c => c
  | write _ c => c

/-- The line that tells people what failed and why. -/
def display : Failure → String
  | create path c => "could not create " ++ Utf8.lossy path ++ ": " ++ c.text
  | seek _ c => "lseek failed: " ++ c.text
  | write _ c => "write failed: " ++ c.text

/-- A failure with all its fields. -/
def render (l : Layout) : Failure → String
  | create path c => l.record₂ 0 "Create" "path" (Quoted.bytes path) "source" (c.render l 1)
  | seek offset c => l.record₂ 0 "Seek" "offset" (toString offset) "source" (c.render l 1)
  | write offset c => l.record₂ 0 "Write" "offset" (toString offset) "source" (c.render l 1)

end Failure

end SparseFixture
