import SparseFixture.Errno

/-!
# Causes

What stood behind a failed call: an error number of the operating system, a bare kind, or a kind
with a message. A message belongs to the library that made the call, or was given by its user; the two
read alike and are rendered under different names.
-/

namespace SparseFixture

/-- What stood behind a failed call. -/
inductive Cause where
  | os (code : Int)
  | bare (kind : ErrorKind)
  | fixed (kind : ErrorKind) (message : String)
  | custom (kind : ErrorKind) (message : String)
deriving DecidableEq, Repr

namespace Cause

/-- The text of a cause. An error of the operating system is followed by its number. -/
def text : Cause → String
  | os n => Errno.description n ++ " (os error " ++ toString n ++ ")"
  | bare k => k.description
  | fixed _ m => m
  | custom _ m => m

/-- The kind of a cause. -/
def kind : Cause → ErrorKind
  | os n => Errno.kind n
  | bare k => k
  | fixed k _ => k
  | custom k _ => k

/-- The error number, if the operating system gave one. -/
def code? : Cause → Option Int
  | os n => some n
  | _ => none

/-- A path with a NUL byte cannot be handed to the operating system. -/
def nulInPath : Cause := fixed .invalidInput "file name contained an unexpected NUL byte"

/-- An offset above 2^63 - 1 cannot be handed to the operating system. -/
def offsetTooLarge : Cause := custom .invalidInput "offset does not fit in off_t"

end Cause

end SparseFixture
