import SparseFixture.Bytes

/-!
# Reading bytes as UTF-8

A byte string is cut into *pieces*: the characters it spells, and between them the maximal invalid
subparts, each the longest start of some well-formed sequence that is not completed (or a single
byte that starts none). The cut is made by a small automaton that reads one byte at a time, so what
comes after an ASCII byte never depends on what came before it.

`lossy` shows each invalid subpart as one replacement character.
-/

namespace SparseFixture.Utf8

/-- A part of a byte string: a character, or bytes that spell none. -/
inductive Piece where
  | char (c : Char)
  | broken (bytes : Bytes)
deriving DecidableEq, Repr

/-- A sequence that has begun: the bytes read so far, how many bytes follow the next one, and the
range in which the next byte has to lie. -/
structure Unfinished where
  seen : Bytes
  more : Nat
  low : UInt8
  high : UInt8
deriving DecidableEq, Repr

/-- What a byte outside ASCII may begin. The ranges of the second byte exclude overlong forms,
surrogates and code points above U+10FFFF. -/
def begins? (b : UInt8) : Option Unfinished :=
  if 0xC2 ≤ b ∧ b ≤ 0xDF then some ⟨[b], 0, 0x80, 0xBF⟩
  else if b = 0xE0 then some ⟨[b], 1, 0xA0, 0xBF⟩
  else if b = 0xED then some ⟨[b], 1, 0x80, 0x9F⟩
  else if 0xE1 ≤ b ∧ b ≤ 0xEF then some ⟨[b], 1, 0x80, 0xBF⟩
  else if b = 0xF0 then some ⟨[b], 2, 0x90, 0xBF⟩
  else if 0xF1 ≤ b ∧ b ≤ 0xF3 then some ⟨[b], 2, 0x80, 0xBF⟩
  else if b = 0xF4 then some ⟨[b], 2, 0x80, 0x8F⟩
  else none

/-- The code point of a complete sequence of two, three or four bytes. -/
def codePoint : Bytes → Nat
  | [a, b] => (a.toNat - 0xC0) * 0x40 + (b.toNat - 0x80)
  | [a, b, c] => (a.toNat - 0xE0) * 0x1000 + (b.toNat - 0x80) * 0x40 + (c.toNat - 0x80)
  | [a, b, c, d] =>
    (a.toNat - 0xF0) * 0x40000 + (b.toNat - 0x80) * 0x1000 + (c.toNat - 0x80) * 0x40
      + (d.toNat - 0x80)
  | _ => 0xFFFD

/-- Reads a byte at the start of a piece. -/
def start (b : UInt8) : List Piece × Option Unfinished :=
  if b < 0x80 then ([.char (Char.ofNat b.toNat)], none)
  else match begins? b with
    | some u => ([], some u)
    | none => ([.broken [b]], none)

/-- Reads one byte: the pieces that it completes, and what is unfinished after it. -/
def step : Option Unfinished → UInt8 → List Piece × Option Unfinished
  | none, b => start b
  | some u, b =>
    if u.low ≤ b ∧ b ≤ u.high then
      match u.more with
      | 0 => ([.char (Char.ofNat (codePoint (u.seen ++ [b])))], none)
      | n + 1 => ([], some ⟨u.seen ++ [b], n, 0x80, 0xBF⟩)
    else (.broken u.seen :: (start b).1, (start b).2)

/-- The piece that is left when the bytes end. -/
def finish : Option Unfinished → List Piece
  | none => []
  | some u => [.broken u.seen]

/-- The pieces of what is unfinished followed by more bytes. -/
def scan : Option Unfinished → Bytes → List Piece
  | u, [] => finish u
  | u, b :: bs => (step u b).1 ++ scan (step u b).2 bs

/-- The pieces of a byte string. -/
def pieces (bs : Bytes) : List Piece := scan none bs

/-! ### An ASCII byte cuts the string -/

theorem begins?_low {b : UInt8} {u : Unfinished} (h : begins? b = some u) : 0x80 ≤ u.low := by
  unfold begins? at h
  repeat' split at h
  all_goals cases h
  all_goals dsimp only; decide

/-- Every unfinished sequence asks for a byte outside ASCII. -/
def AsksContinuation : Option Unfinished → Prop
  | none => True
  | some u => 0x80 ≤ u.low

theorem start_asksContinuation (b : UInt8) : AsksContinuation (start b).2 := by
  unfold start
  split
  · trivial
  · split
    · rename_i u h
      exact begins?_low h
    · trivial

theorem step_asksContinuation (u : Option Unfinished) (b : UInt8) :
    AsksContinuation (step u b).2 := by
  cases u with
  | none => exact start_asksContinuation b
  | some u =>
    simp only [step]
    split
    · split
      · trivial
      · exact UInt8.le_refl _
    · exact start_asksContinuation b

theorem start_ascii {b : UInt8} (h : b < 0x80) :
    start b = ([.char (Char.ofNat b.toNat)], none) := by
  simp only [start, h, if_true]

theorem step_ascii {u : Option Unfinished} (hu : AsksContinuation u) {b : UInt8} (h : b < 0x80) :
    step u b = (finish u ++ [.char (Char.ofNat b.toNat)], none) := by
  cases u with
  | none => simp only [step, finish, start_ascii h, List.nil_append]
  | some u =>
    have hlow : ¬ u.low ≤ b := by
      intro hle
      have hb : b.toNat < 0x80 := UInt8.lt_iff_toNat_lt.mp h
      have hl : 0x80 ≤ u.low.toNat := UInt8.le_iff_toNat_le.mp hu
      have hub : u.low.toNat ≤ b.toNat := UInt8.le_iff_toNat_le.mp hle
      omega
    simp only [step, hlow, false_and, if_false, finish, start_ascii h, List.cons_append,
      List.nil_append]

theorem scan_append_ascii {u : Option Unfinished} (hu : AsksContinuation u) (bs : Bytes)
    {b : UInt8} (h : b < 0x80) (rest : Bytes) :
    scan u (bs ++ b :: rest) =
      scan u bs ++ .char (Char.ofNat b.toNat) :: scan none rest := by
  induction bs generalizing u with
  | nil => simp only [List.nil_append, scan, step_ascii hu h, List.append_assoc, List.cons_append]
  | cons c cs ih =>
    simp only [List.cons_append, scan, ih (step_asksContinuation u c), List.append_assoc]

/-- The pieces before an ASCII byte and those after it do not touch. -/
theorem pieces_append_ascii (bs : Bytes) {b : UInt8} (h : b < 0x80) (rest : Bytes) :
    pieces (bs ++ b :: rest) = pieces bs ++ .char (Char.ofNat b.toNat) :: pieces rest :=
  scan_append_ascii (u := none) trivial bs h rest

/-! ### Readings of the pieces -/

/-- The character that stands for bytes that spell none. -/
def replacement : Char := Char.ofNat 0xFFFD

/-- The character by which a piece is shown. -/
def Piece.shown : Piece → Char
  | .char c => c
  | .broken _ => replacement

/-- The text of a byte string, each maximal invalid subpart shown as one replacement character. -/
def lossy (bs : Bytes) : String := String.ofList ((pieces bs).map Piece.shown)

/-- The character of a piece that is one. -/
def Piece.char? : Piece → Option Char
  | .char c => some c
  | .broken _ => none

/-- The text that a byte string spells, if it is well-formed UTF-8. -/
def text? (bs : Bytes) : Option String :=
  ((pieces bs).mapM Piece.char?).map String.ofList

theorem lossy_append_ascii (bs : Bytes) {b : UInt8} (h : b < 0x80) (rest : Bytes) :
    lossy (bs ++ b :: rest) =
      lossy bs ++ String.singleton (Char.ofNat b.toNat) ++ lossy rest := by
  apply String.toList_injective
  simp [lossy, pieces_append_ascii bs h rest, Piece.shown]

end SparseFixture.Utf8
