import SparseFixture.Proofs.Utf8
import SparseFixture.Quoted

/-!
# Quoted text can be read back

What stands between the quotes is a row of marks, each for a character or for a byte that belongs to
none. A reader takes one mark after the other from the left: the character behind a backslash tells
where the mark ends, and only the quote at the end stands for itself without a backslash. So a quoted
text tells the text, and where it ends, whatever follows it.
-/

namespace SparseFixture.Quoted

/-! ### Marks -/

/-- What is written between two quotes, one thing at a time. -/
inductive Mark where
  | char (c : Char)
  | byte (b : UInt8)
deriving DecidableEq, Repr

def Mark.form : Mark → List Char
  | char c => escape c
  | byte b => escapeByte b

def Mark.bytes : Mark → Bytes
  | char c => String.utf8EncodeChar c
  | byte b => [b]

def marks : Utf8.Piece → List Mark
  | .char c => [.char c]
  | .broken bs => bs.map .byte

theorem flatMap_form_marks (p : Utf8.Piece) : (marks p).flatMap Mark.form = escapePiece p := by
  cases p with
  | char c => simp [marks, Mark.form, escapePiece]
  | broken bs => simp [marks, Mark.form, escapePiece, List.flatMap_map]

theorem flatMap_bytes_marks (p : Utf8.Piece) : (marks p).flatMap Mark.bytes = p.bytes := by
  cases p with
  | char c => simp [marks, Mark.bytes, Utf8.Piece.bytes]
  | broken bs => simp [marks, Mark.bytes, Utf8.Piece.bytes, List.flatMap_map]

/-! ### Numbers in hexadecimal -/

/-- The value of a digit, whose letters are in upper or in lower case. -/
def digitValue (c : Char) : Nat :=
  if c.toNat < 0x3A then c.toNat - 0x30
  else if c.toNat < 0x47 then c.toNat - 0x37
  else c.toNat - 0x57

def hexValue (cs : List Char) : Nat := cs.foldl (fun n c => 16 * n + digitValue c) 0

theorem digitValue_digitChar : ∀ n < 16, digitValue (Nat.digitChar n) = n := by decide

theorem digitValue_upperHexDigit : ∀ n < 16, digitValue (upperHexDigit n) = n := by decide

theorem hexValue_toDigits (n : Nat) : hexValue (Nat.toDigits 16 n) = n := by
  induction n using Nat.strongRecOn with
  | _ n ih =>
    rw [Nat.toDigits_eq_if (by decide)]
    split
    · next hn => simp [hexValue, digitValue_digitChar n hn]
    · have hrest := ih (n / 16) (by omega)
      have hlast := digitValue_digitChar (n % 16) (by omega)
      simp only [hexValue] at hrest
      simp only [hexValue, List.foldl_append, List.foldl_cons, List.foldl_nil, hrest, hlast]
      omega

theorem brace_not_mem_toDigits (n : Nat) : '\x7d' ∉ Nat.toDigits 16 n :=
  not_mem_toDigits (by decide) n

/-! ### Reading one mark -/

/-- The character for which a single one stands behind a backslash. -/
def unescape : Char → Char
  | 't' => '\t'
  | 'n' => '\n'
  | 'r' => '\r'
  | '0' => '\x00'
  | c => c

/-- Reads a mark, and tells what is left. There is none in front of a quote. -/
def readMark : List Char → Option (Mark × List Char)
  | [] => none
  | '"' :: _ => none
  | '\\' :: 'u' :: '\x7b' :: cs =>
    some (.char (Char.ofNat (hexValue (cs.takeWhile (· != '\x7d')))),
      (cs.dropWhile (· != '\x7d')).tail)
  | '\\' :: 'x' :: a :: b :: cs =>
    some (.byte (UInt8.ofNat (16 * digitValue a + digitValue b)), cs)
  | '\\' :: c :: cs => some (.char (unescape c), cs)
  | c :: cs => some (.char c, cs)

theorem readMark_number {ds : List Char} (h : '\x7d' ∉ ds) (rest : List Char) :
    readMark (['\\', 'u', '\x7b'] ++ ds ++ ['\x7d'] ++ rest) =
      some (.char (Char.ofNat (hexValue ds)), rest) := by
  have hall : ∀ c ∈ ds, (c != '\x7d') = true := by
    intro c hc
    have hne : c ≠ '\x7d' := fun heq => h (heq ▸ hc)
    simpa using hne
  simp [readMark, List.takeWhile_append_of_pos hall, List.dropWhile_append_of_pos hall]

theorem readMark_plain {c : Char} (hquote : c ≠ '"') (hback : c ≠ '\\') (rest : List Char) :
    readMark (c :: rest) = some (.char c, rest) := by
  unfold readMark
  split <;> simp_all

theorem readMark_escape (c : Char) (rest : List Char) :
    readMark (escape c ++ rest) = some (.char c, rest) := by
  unfold escape
  split
  · next h => simp [readMark, unescape, h]
  split
  · next h => simp [readMark, unescape, h]
  split
  · next h => simp [readMark, unescape, h]
  split
  · next h => simp [readMark, unescape, h]
  split
  · next h => simp [readMark, unescape, h]
  split
  · next h => simp [readMark, unescape, h]
  split
  · next hquote hback _ _ _ _ _ => exact readMark_plain hquote hback rest
  · rw [readMark_number (brace_not_mem_toDigits c.toNat), hexValue_toDigits, Char.ofNat_toNat]

theorem readMark_escapeByte (b : UInt8) (rest : List Char) :
    readMark (escapeByte b ++ rest) = some (.byte b, rest) := by
  have hb : b.toNat < 256 := b.toNat_lt
  have hhigh := digitValue_upperHexDigit (b.toNat / 16) (by omega)
  have hlow := digitValue_upperHexDigit (b.toNat % 16) (by omega)
  have hvalue : 16 * (b.toNat / 16) + b.toNat % 16 = b.toNat := by omega
  simp [escapeByte, readMark, hhigh, hlow, hvalue]

theorem readMark_form (m : Mark) (rest : List Char) :
    readMark (m.form ++ rest) = some (m, rest) := by
  cases m with
  | char c => exact readMark_escape c rest
  | byte b => exact readMark_escapeByte b rest

/-! ### Reading up to the quote -/

theorem form_append_ne_quote (m : Mark) (r s : List Char) : m.form ++ r ≠ '"' :: s := by
  intro h
  have hread := congrArg readMark h
  rw [readMark_form] at hread
  cases hread

theorem eq_of_flatMap_form {ms ns : List Mark} {r s : List Char}
    (h : ms.flatMap Mark.form ++ '"' :: r = ns.flatMap Mark.form ++ '"' :: s) :
    ms = ns ∧ r = s := by
  induction ms generalizing ns with
  | nil =>
    cases ns with
    | nil => exact ⟨rfl, (List.cons.inj h).2⟩
    | cons n ns =>
      rw [List.flatMap_cons, List.append_assoc] at h
      exact absurd h.symm (form_append_ne_quote n _ r)
  | cons m ms ih =>
    rw [List.flatMap_cons, List.append_assoc] at h
    cases ns with
    | nil => exact absurd h (form_append_ne_quote m _ s)
    | cons n ns =>
      rw [List.flatMap_cons, List.append_assoc] at h
      -- the reader takes the first mark from both sides, and leaves the rests to be compared
      have hread := congrArg readMark h
      rw [readMark_form, readMark_form] at hread
      obtain ⟨hmark, hrest⟩ := Prod.mk.inj (Option.some.inj hread)
      obtain ⟨hmarks, htail⟩ := ih hrest
      exact ⟨by rw [hmark, hmarks], htail⟩

theorem eq_of_enclose_append {ms ns : List Mark} {r s : String}
    (h : enclose (ms.flatMap Mark.form) ++ r = enclose (ns.flatMap Mark.form) ++ s) :
    ms = ns ∧ r = s := by
  have hlist := congrArg String.toList h
  simp only [enclose, String.toList_append, String.toList_ofList, List.cons_append,
    List.append_assoc, List.nil_append, List.cons.injEq, true_and] at hlist
  obtain ⟨hmarks, hrest⟩ := eq_of_flatMap_form hlist
  exact ⟨hmarks, String.toList_injective hrest⟩

/-! ### Texts and byte strings -/

theorem text_eq (s : String) : text s = enclose ((s.toList.map Mark.char).flatMap Mark.form) := by
  rw [List.flatMap_map]
  rfl

theorem bytes_eq (bs : Bytes) :
    bytes bs = enclose (((Utf8.pieces bs).flatMap marks).flatMap Mark.form) := by
  simp only [bytes, List.flatMap_assoc, flatMap_form_marks]

/-- A quoted text can be read from the front of a longer one. -/
theorem text_append_inj {s t r r' : String} (h : text s ++ r = text t ++ r') : s = t ∧ r = r' := by
  rw [text_eq, text_eq] at h
  obtain ⟨hmarks, hrest⟩ := eq_of_enclose_append h
  have hchars := List.map_inj_right (fun _ _ hc => Mark.char.inj hc) |>.mp hmarks
  exact ⟨String.toList_injective hchars, hrest⟩

/-- So can a quoted byte string: its marks hold its bytes, in order. -/
theorem bytes_append_inj {bs cs : Bytes} {r s : String} (h : bytes bs ++ r = bytes cs ++ s) :
    bs = cs ∧ r = s := by
  have hread : ∀ ds, ((Utf8.pieces ds).flatMap marks).flatMap Mark.bytes = ds := by
    intro ds
    simp only [List.flatMap_assoc, flatMap_bytes_marks, Utf8.flatMap_bytes_pieces]
  rw [bytes_eq, bytes_eq] at h
  obtain ⟨hmarks, hrest⟩ := eq_of_enclose_append h
  exact ⟨by rw [← hread bs, hmarks, hread cs], hrest⟩

end SparseFixture.Quoted
