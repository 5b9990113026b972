import SparseFixture.FileSystem.Basic

/-!
# Listings

A listing names everything below a directory by its path from there, in the order of the bytes of
the paths. Symbolic links are listed and not followed.
-/

namespace SparseFixture

namespace FileSystem

/-- Everything below a directory, to a depth, each with `above` before its path. -/
def listBelow (fs : FileSystem) : Nat → Bytes → Ino → List (Bytes × Inode)
  | 0, _, _ => []
  | depth + 1, above, dir =>
    (fs.entries dir).flatMap fun (name, i) =>
      match fs.inode? i with
      | none => []
      | some inode =>
        (above ++ name, inode) :: fs.listBelow depth (above ++ name ++ [Bytes.slash]) i

/-- Everything below a directory. No way down a tree is longer than the number of its inodes. -/
def listing (fs : FileSystem) (dir : Ino) : List (Bytes × Inode) :=
  (fs.listBelow fs.inodes.length [] dir).mergeSort fun a b => decide (a.1 ≤ b.1)

end FileSystem

end SparseFixture
