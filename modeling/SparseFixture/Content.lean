import SparseFixture.Bytes

/-!
# Contents of files

A content is kept as a list of extents, each a number of equal bytes, so that a gap of any size
costs one extent. `toBytes` is the byte string it stands for; one lemma for each operation says what
the operation does to that byte string.
-/

namespace SparseFixture

/-- Equal bytes in a row. -/
structure Extent where
  count : Nat
  byte : UInt8
deriving DecidableEq, Repr

/-- The content of a file. -/
structure Content where
  extents : List Extent
deriving DecidableEq, Repr

namespace Extent

/-- The bytes of an extent. -/
def toBytes (e : Extent) : Bytes := List.replicate e.count e.byte

/-- The bytes of extents in a row. -/
def allBytes (es : List Extent) : Bytes := es.flatMap toBytes

/-- The number of bytes in extents. -/
def total : List Extent → Nat
  | [] => 0
  | e :: es => e.count + total es

/-- The number of bytes in extents that are not zero. -/
def totalNonzero : List Extent → Nat
  | [] => 0
  | e :: es => (if e.byte = 0 then 0 else e.count) + totalNonzero es

/-- The first `n` bytes. -/
def takeFrom : Nat → List Extent → List Extent
  | _, [] => []
  | n, e :: es => if n ≤ e.count then [⟨n, e.byte⟩] else e :: takeFrom (n - e.count) es

/-- All but the first `n` bytes. -/
def dropFrom : Nat → List Extent → List Extent
  | _, [] => []
  | n, e :: es => if n < e.count then ⟨e.count - n, e.byte⟩ :: es else dropFrom (n - e.count) es

theorem length_toBytes (e : Extent) : e.toBytes.length = e.count := by
  simp only [toBytes, List.length_replicate]

theorem allBytes_cons (e : Extent) (es : List Extent) :
    allBytes (e :: es) = e.toBytes ++ allBytes es := by
  simp only [allBytes, List.flatMap_cons]

theorem allBytes_append (es fs : List Extent) :
    allBytes (es ++ fs) = allBytes es ++ allBytes fs := by
  simp only [allBytes, List.flatMap_append]

theorem length_allBytes (es : List Extent) : (allBytes es).length = total es := by
  induction es with
  | nil => rfl
  | cons e es ih => rw [allBytes_cons, List.length_append, length_toBytes, ih, total]

theorem countP_allBytes (es : List Extent) : (allBytes es).countP (· != 0) = totalNonzero es := by
  induction es with
  | nil => rfl
  | cons e es ih =>
    rw [allBytes_cons, List.countP_append, ih, totalNonzero, toBytes, List.countP_replicate]
    by_cases h : e.byte = 0
    · simp [h]
    · simp [h]

theorem allBytes_takeFrom (n : Nat) (es : List Extent) :
    allBytes (takeFrom n es) = (allBytes es).take n := by
  induction es generalizing n with
  | nil => simp [takeFrom, allBytes]
  | cons e es ih =>
    simp only [takeFrom]
    split
    · rename_i h
      rw [allBytes_cons, allBytes_cons, List.take_append_of_le_length (by
        rw [length_toBytes]
        exact h)]
      simp [toBytes, allBytes, Nat.min_eq_left h]
    · rename_i h
      have hle : e.toBytes.length ≤ n := by
        rw [length_toBytes]
        omega
      rw [allBytes_cons, allBytes_cons, ih, List.take_append, List.take_of_length_le hle,
        length_toBytes]

theorem allBytes_dropFrom (n : Nat) (es : List Extent) :
    allBytes (dropFrom n es) = (allBytes es).drop n := by
  induction es generalizing n with
  | nil => simp [dropFrom, allBytes]
  | cons e es ih =>
    simp only [dropFrom]
    split
    · rename_i h
      rw [allBytes_cons, allBytes_cons, List.drop_append_of_le_length (by
        rw [length_toBytes]
        exact Nat.le_of_lt h)]
      simp [toBytes]
    · rename_i h
      have hle : e.toBytes.length ≤ n := by
        rw [length_toBytes]
        omega
      rw [allBytes_cons, ih, List.drop_append, List.drop_of_length_le hle, length_toBytes,
        List.nil_append]

end Extent

namespace Content

/-- The byte string that a content stands for. -/
def toBytes (c : Content) : Bytes := Extent.allBytes c.extents

/-- The content without a byte. -/
def empty : Content := ⟨[]⟩

/-- One byte, repeated. -/
def filled (n : Nat) (b : UInt8) : Content := ⟨[⟨n, b⟩]⟩

/-- The content that holds given bytes. -/
def ofBytes (bs : Bytes) : Content := ⟨bs.map fun b => ⟨1, b⟩⟩

/-- The number of bytes. -/
def size (c : Content) : Nat := Extent.total c.extents

/-- The number of bytes that are not zero. -/
def nonzero (c : Content) : Nat := Extent.totalNonzero c.extents

/-- The bytes from `offset` on, at most `n` of them. -/
def read (c : Content) (offset n : Nat) : Bytes :=
  Extent.allBytes (Extent.takeFrom n (Extent.dropFrom offset c.extents))

/-- The content after bytes are written at `offset`; a gap before them is filled with zeros. -/
def writeAt (c : Content) (offset : Nat) (bs : Bytes) : Content :=
  ⟨Extent.takeFrom offset c.extents ++ [⟨offset - c.size, 0⟩] ++ (ofBytes bs).extents ++
    Extent.dropFrom (offset + bs.length) c.extents⟩

theorem toBytes_empty : toBytes empty = [] := rfl

theorem toBytes_filled (n : Nat) (b : UInt8) : (filled n b).toBytes = List.replicate n b := by
  simp [filled, toBytes, Extent.allBytes, Extent.toBytes]

theorem toBytes_ofBytes (bs : Bytes) : (ofBytes bs).toBytes = bs := by
  induction bs with
  | nil => rfl
  | cons b bs ih =>
    have hcons : (ofBytes (b :: bs)).toBytes = b :: (ofBytes bs).toBytes := rfl
    rw [hcons, ih]

theorem length_toBytes (c : Content) : c.toBytes.length = c.size :=
  Extent.length_allBytes c.extents

theorem countP_toBytes (c : Content) : c.toBytes.countP (· != 0) = c.nonzero :=
  Extent.countP_allBytes c.extents

theorem read_eq (c : Content) (offset n : Nat) :
    c.read offset n = (c.toBytes.drop offset).take n := by
  rw [read, Extent.allBytes_takeFrom, Extent.allBytes_dropFrom, toBytes]

theorem toBytes_writeAt (c : Content) (offset : Nat) (bs : Bytes) :
    (c.writeAt offset bs).toBytes =
      c.toBytes.take offset ++ List.replicate (offset - c.toBytes.length) 0 ++ bs ++
        c.toBytes.drop (offset + bs.length) := by
  have hbs : Extent.allBytes (ofBytes bs).extents = bs := toBytes_ofBytes bs
  have hgap : Extent.allBytes [⟨offset - c.size, 0⟩] = List.replicate (offset - c.size) 0 := by
    simp [Extent.allBytes, Extent.toBytes]
  rw [length_toBytes, toBytes, writeAt, Extent.allBytes_append, Extent.allBytes_append,
    Extent.allBytes_append, Extent.allBytes_takeFrom, Extent.allBytes_dropFrom, hbs, hgap, toBytes]

end Content

end SparseFixture
