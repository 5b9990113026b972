import SparseFixture.Log.Level
import SparseFixture.Utf8

/-!
# Log filters

A filter is written as a list of directives with commas between them, and may end in a slash and a
pattern that a message has to fit. A directive gives a threshold to all records or to those whose
target starts with a name. Of the directives that apply to a target, one with the longest name
decides.

What cannot be read is left out, with a warning. Which patterns can be read, and what fits them, is not
laid down here: `PatternLanguage` stands for the library that does it.
-/

namespace SparseFixture.Log

/-! ### Words -/

/-- The characters that count as white space. -/
def isBlank (c : Char) : Bool :=
  (0x09 ≤ c.toNat && c.toNat ≤ 0x0D) || c.toNat == 0x20 || c.toNat == 0x85 || c.toNat == 0xA0
    || c.toNat == 0x1680 || (0x2000 ≤ c.toNat && c.toNat ≤ 0x200A) || c.toNat == 0x2028
    || c.toNat == 0x2029 || c.toNat == 0x202F || c.toNat == 0x205F || c.toNat == 0x3000

/-- A text without the white space at its ends. -/
def trim (cs : List Char) : List Char :=
  ((cs.dropWhile isBlank).reverse.dropWhile isBlank).reverse

/-- Whether a text occurs in another. -/
def occursIn (part : List Char) : List Char → Bool
  | [] => part.isEmpty
  | c :: cs => part.isPrefixOf (c :: cs) || occursIn part cs

/-! ### Patterns -/

/-- A language of patterns: why a pattern is refused, if it is, and whether a message fits a pattern. -/
structure PatternLanguage where
  refusal? : List Char → Option String
  fits : List Char → List Char → Bool

/-- The language in which a pattern stands for itself: a message fits if the pattern occurs in it. -/
def PatternLanguage.literal : PatternLanguage where
  refusal? _ := none
  fits := occursIn

/-! ### Directives -/

/-- A threshold, for the targets that start with a name or for all. -/
structure Directive where
  name : Option (List Char)
  threshold : Threshold
deriving DecidableEq, Repr

namespace Directive

/-- Whether a directive applies to a target. -/
def appliesTo (target : List Char) (d : Directive) : Bool :=
  match d.name with
  | none => true
  | some name => name.isPrefixOf target

/-- The length of the name in bytes; a directive for all has none. -/
def weight (d : Directive) : Nat :=
  match d.name with
  | none => 0
  | some name => (name.flatMap String.utf8EncodeChar).length

end Directive

/-- Why a part of a filter's text was left out. -/
inductive Warning where
  | tooManySlashes (spec : List Char)
  | malformed (part : List Char)
  | refused (reason : String)
deriving DecidableEq, Repr

/-- The line that tells of a warning. -/
def Warning.text : Warning → String
  | tooManySlashes spec =>
    "warning: invalid logging spec '" ++ String.ofList spec
      ++ "', ignoring it (too many '/'s)"
  | malformed part =>
    "warning: invalid logging spec '" ++ String.ofList part ++ "', ignoring it"
  | refused reason => "warning: invalid regex filter - " ++ reason

/-- The pieces between the commas, without the empty ones. -/
def pieces (spec : List Char) : List (List Char) :=
  ((spec.splitOn ',').map trim).filter (· ≠ [])

/-- Reads a piece. A name alone, or with nothing behind its equals sign, lets everything through. -/
def readPiece (piece : List Char) : Except Warning Directive :=
  match piece.splitOn '=' with
  | [word] =>
    match Threshold.ofWord? word with
    | some t => .ok ⟨none, t⟩
    | none => .ok ⟨some word, some .trace⟩
  | [name, word] =>
    if trim word = [] then .ok ⟨some name, some .trace⟩
    else match Threshold.ofWord? (trim word) with
      | some t => .ok ⟨some name, t⟩
      | none => .error (.malformed (trim word))
  | _ => .error (.malformed piece)

/-- The directive of a piece that can be read. -/
def accepted? (piece : List Char) : Option Directive :=
  match readPiece piece with
  | .ok d => some d
  | .error _ => none

/-- The warning about a piece that cannot be read. -/
def rejected? (piece : List Char) : Option Warning :=
  match readPiece piece with
  | .ok _ => none
  | .error w => some w

/-- Adds a directive; one of the same name is replaced in its place. -/
def insert (ds : List Directive) (d : Directive) : List Directive :=
  if ds.any (·.name == d.name) then ds.map fun e => if e.name = d.name then d else e
  else ds ++ [d]

/-- Puts a directive in front of the first one whose name is at least as long. -/
def place (d : Directive) : List Directive → List Directive
  | [] => [d]
  | e :: es => if d.weight ≤ e.weight then d :: e :: es else e :: place d es

/-- Directives in the order of the lengths of their names; those of one length keep their order.
Without any directive, errors are let through. -/
def arrange (ds : List Directive) : List Directive :=
  if ds = [] then [⟨none, some .error⟩] else ds.foldr place []

theorem place_perm (d : Directive) (ds : List Directive) : (place d ds).Perm (d :: ds) := by
  induction ds with
  | nil => exact List.Perm.refl _
  | cons e es ih =>
    simp only [place]
    split
    · exact List.Perm.refl _
    · exact (ih.cons e).trans (List.Perm.swap d e es)

/-! ### Filters -/

/-- Which records are shown: the directives, from the least specific on, and a pattern that a message
has to fit. -/
structure Filter where
  directives : List Directive
  pattern : Option (List Char)
deriving DecidableEq, Repr

namespace Filter

/-- The directives that a list of pieces gives. -/
def directivesOf (spec : List Char) : List Directive :=
  arrange (((pieces spec).filterMap accepted?).foldl insert [])

/-- Reads a filter. A pattern that is refused is left out. -/
def parse (lang : PatternLanguage) (spec : List Char) : List Warning × Filter :=
  match spec.splitOn '/' with
  | [directives] =>
    ((pieces directives).filterMap rejected?, ⟨directivesOf directives, none⟩)
  | [directives, pattern] =>
    let warnings := (pieces directives).filterMap rejected?
    match lang.refusal? pattern with
    | none => (warnings, ⟨directivesOf directives, some pattern⟩)
    | some reason => (warnings ++ [.refused reason], ⟨directivesOf directives, none⟩)
  | _ => ([.tooManySlashes spec], ⟨arrange [], none⟩)

/-- The filter that holds unless another is asked for. -/
def defaultSpec : List Char := "warn".toList

/-- The filter of a setting, which may be missing or not be a text. -/
def ofSetting (lang : PatternLanguage) (setting : Option Bytes) : List Warning × Filter :=
  match setting.bind Utf8.text? with
  | some spec => parse lang spec.toList
  | none => parse lang defaultSpec

/-- The threshold for a target: that of the last directive that applies to it. -/
def threshold (f : Filter) (target : List Char) : Threshold :=
  match f.directives.reverse.find? (·.appliesTo target) with
  | some d => d.threshold
  | none => none

/-- Whether a message fits the pattern, if there is one. -/
def admits (lang : PatternLanguage) (f : Filter) (message : List Char) : Bool :=
  match f.pattern with
  | some pattern => lang.fits pattern message
  | none => true

/-- Whether a record is shown. -/
def shows (lang : PatternLanguage) (f : Filter) (target : List Char) (l : Level)
    (message : List Char) : Bool :=
  (f.threshold target).passes l && f.admits lang message

end Filter

end SparseFixture.Log
