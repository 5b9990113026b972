/-!
# Levels of log records

A level says how much a record matters. A threshold lets the records of some levels through; it may
also let none through.
-/

namespace SparseFixture.Log

/-- How much a record matters, the most important first. -/
inductive Level where
  | error
  | warn
  | info
  | debug
  | trace
deriving DecidableEq, Repr

namespace Level

/-- The place of a level in the order of importance. -/
def rank : Level → Nat
  | error => 1
  | warn => 2
  | info => 3
  | debug => 4
  | trace => 5

/-- The name of a level. -/
def name : Level → String
  | error => "ERROR"
  | warn => "WARN"
  | info => "INFO"
  | debug => "DEBUG"
  | trace => "TRACE"

end Level

/-- The least important level that is let through, if any is. -/
abbrev Threshold := Option Level

namespace Threshold

/-- Whether a threshold lets a level through. -/
def passes (t : Threshold) (l : Level) : Bool :=
  match t with
  | none => false
  | some m => l.rank ≤ m.rank

/-- The threshold that a word names, in capitals or not. -/
def ofWord? (word : List Char) : Option Threshold :=
  match String.ofList (word.map Char.toLower) with
  | "off" => some none
  | "error" => some (some .error)
  | "warn" => some (some .warn)
  | "info" => some (some .info)
  | "debug" => some (some .debug)
  | "trace" => some (some .trace)
  | _ => none

end Threshold

end SparseFixture.Log
