import SparseFixture.Character.Extending
import SparseFixture.Character.Ignorable
import SparseFixture.Character.Unshown
import SparseFixture.Utf8

/-!
# Quoted text

A text in double quotes, in which the quote, the backslash and every character that does not show
on its own are written as escapes, so that it stays on one line, its end can be found and no
character of it goes unseen. A byte string is quoted the same way; the bytes of it that spell no
character are written one by one in hexadecimal.
-/

namespace SparseFixture.Quoted

/-- Whether a character shows on its own: it has a form to show, is not drawn onto the character
before it, and is not one that a display may leave out. -/
def isVisible (c : Char) : Bool :=
  !Character.unshown.covers c.toNat && !Character.extending.covers c.toNat &&
    !Character.ignorable.covers c.toNat

/-- A hexadecimal digit, the letters in upper case. -/
def upperHexDigit (n : Nat) : Char := if n < 10 then Char.ofNat (0x30 + n) else Char.ofNat (0x37 + n)

/-- The form of a character between quotes. A character that does not show and has no form of its
own is written by its code point, in hexadecimal without a leading zero. -/
def escape (c : Char) : List Char :=
  if c = '"' then ['\\', '"']
  else if c = '\\' then ['\\', '\\']
  else if c = '\t' then ['\\', 't']
  else if c = '\n' then ['\\', 'n']
  else if c = '\r' then ['\\', 'r']
  else if c = '\x00' then ['\\', '0']
  else if isVisible c then [c]
  else ['\\', 'u', '\x7b'] ++ Nat.toDigits 16 c.toNat ++ ['\x7d']

/-- The form of a byte that belongs to no character. -/
def escapeByte (b : UInt8) : List Char :=
  ['\\', 'x', upperHexDigit (b.toNat / 16), upperHexDigit (b.toNat % 16)]

/-- The form of a piece of a byte string. -/
def escapePiece : Utf8.Piece → List Char
  | .char c => escape c
  | .broken bs => bs.flatMap escapeByte

/-- Puts a text between double quotes. -/
def enclose (cs : List Char) : String := String.ofList ('"' :: cs ++ ['"'])

/-- A text, quoted. -/
def text (s : String) : String := enclose (s.toList.flatMap escape)

/-- A byte string, quoted. -/
def bytes (bs : Bytes) : String := enclose ((Utf8.pieces bs).flatMap escapePiece)

theorem digitChar_ne_newline : ∀ n < 16, '\n' ≠ Nat.digitChar n := by
  decide

/-- A number in hexadecimal holds its digits only. -/
theorem not_mem_toDigits {c : Char} (hc : ∀ n < 16, c ≠ Nat.digitChar n) (n : Nat) :
    c ∉ Nat.toDigits 16 n := by
  induction n using Nat.strongRecOn with
  | _ n ih =>
    rw [Nat.toDigits_eq_if (by decide)]
    split
    · rename_i hn
      exact fun h => hc n hn (List.mem_singleton.1 h)
    · have hrest := ih (n / 16) (by omega)
      have hlast := hc (n % 16) (by omega)
      simp [hrest, hlast]

/-- No form between quotes breaks the line. -/
theorem newline_not_mem_escape (c : Char) : '\n' ∉ escape c := by
  unfold escape
  split
  · decide
  split
  · decide
  split
  · decide
  split
  · decide
  split
  · decide
  split
  · decide
  split
  · rename_i hn _ _ _
    simpa using fun h => hn h.symm
  · simpa using not_mem_toDigits digitChar_ne_newline c.toNat

end SparseFixture.Quoted
