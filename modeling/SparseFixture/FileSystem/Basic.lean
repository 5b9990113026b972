import SparseFixture.Mode
import SparseFixture.OpenFile

/-!
# File systems

A file system is a table of inodes; the number of an inode is its place in the table. A directory
holds the entries that give names to inodes, and the number of its parent. No inode is ever taken
out of the table: an inode that no entry names any more is out of reach of every path, but a caller
may still work in it.

Users differ only in whether permissions bind them: the owner owns every inode, the superuser passes
every check.
-/

namespace SparseFixture

/-- The number of an inode. -/
abbrev Ino := Nat

/-- What an inode is. -/
inductive Node where
  | directory (entries : List (Bytes × Ino)) (parent : Ino)
  | regular (content : Content)
  | symlink (target : Bytes)
  | fifo
  | socket
  | device (device : Device)
deriving DecidableEq, Repr

/-- An inode: its permission bits, how many entries name it, and what it is. The root directory
counts as named once. -/
structure Inode where
  mode : Mode
  links : Nat
  node : Node
deriving DecidableEq, Repr

/-- Changes the entries of a directory; anything else stays as it is. -/
def Inode.mapEntries (f : List (Bytes × Ino) → List (Bytes × Ino)) (inode : Inode) : Inode :=
  match inode.node with
  | .directory es p => { inode with node := .directory (f es) p }
  | _ => inode

/-- Who makes a call. -/
inductive User where
  | superuser
  | owner
deriving DecidableEq, Repr

/-- Whether the user has the permission that `bit` gives to the owner. -/
def User.may (u : User) (bit : Mode) (m : Mode) : Bool := u = .superuser || m.has bit

/-- What decides a system call besides the file system: the user who makes it, its working directory,
the permission bits that its new files do not get, and what the system allows and tells. -/
structure Caller where
  user : User
  cwd : Ino
  umask : Mode
  /-- The length beyond which no file may be written. A write that would go beyond it fails; the signal
  that comes with the failure, SIGXFSZ, is taken to be ignored. -/
  sizeLimit : Option Nat
  /-- Whether a file can be opened at all. -/
  canOpen : Bool
  /-- How many bytes the system says that it has allocated to a file, by its length. -/
  allocated : Nat → Nat

/-- A file system. -/
structure FileSystem where
  inodes : List Inode
deriving DecidableEq, Repr

namespace FileSystem

/-- The number of the root directory. -/
def root : Ino := 0

/-- The number that the next new inode gets. -/
def fresh (fs : FileSystem) : Ino := fs.inodes.length

/-- The inode of a number. -/
def inode? (fs : FileSystem) (i : Ino) : Option Inode := fs.inodes[i]?

/-- What the inode of a number is. -/
def node? (fs : FileSystem) (i : Ino) : Option Node := (fs.inode? i).map Inode.node

/-- The permission bits of an inode. -/
def mode (fs : FileSystem) (i : Ino) : Mode := ((fs.inode? i).map Inode.mode).getD 0

/-- The entries of a directory; nothing else has any. -/
def entries (fs : FileSystem) (dir : Ino) : List (Bytes × Ino) :=
  match fs.node? dir with
  | some (.directory es _) => es
  | _ => []

/-- What a name stands for in a directory. -/
def child? (fs : FileSystem) (dir : Ino) (name : Bytes) : Option Ino := (fs.entries dir).lookup name

/-- The parent of a directory. -/
def parent (fs : FileSystem) (dir : Ino) : Ino :=
  match fs.node? dir with
  | some (.directory _ p) => p
  | _ => dir

/-! ### Changes -/

/-- Changes one inode. -/
def modify (fs : FileSystem) (i : Ino) (f : Inode → Inode) : FileSystem := ⟨fs.inodes.modify i f⟩

/-- Adds an inode, under the number `fresh`. -/
def add (fs : FileSystem) (inode : Inode) : FileSystem := ⟨fs.inodes ++ [inode]⟩

/-- Adds an entry to a directory. -/
def enter (fs : FileSystem) (dir : Ino) (name : Bytes) (i : Ino) : FileSystem :=
  fs.modify dir (Inode.mapEntries (· ++ [(name, i)]))

/-- Adds an inode and gives it a name in a directory. -/
def addChild (fs : FileSystem) (dir : Ino) (name : Bytes) (inode : Inode) : FileSystem :=
  (fs.add inode).enter dir name fs.fresh

theorem inode?_modify (fs : FileSystem) (i j : Ino) (f : Inode → Inode) :
    (fs.modify i f).inode? j = if i = j then (fs.inode? j).map f else fs.inode? j := by
  unfold inode? modify
  rw [List.getElem?_modify]
  split <;> simp

theorem inode?_modify_of_ne (fs : FileSystem) {i j : Ino} (h : i ≠ j) (f : Inode → Inode) :
    (fs.modify i f).inode? j = fs.inode? j := by
  rw [inode?_modify, if_neg h]

theorem inode?_add (fs : FileSystem) (inode : Inode) (j : Ino) :
    (fs.add inode).inode? j = if j = fs.fresh then some inode else fs.inode? j := by
  unfold inode? add fresh
  rw [List.getElem?_append]
  rcases Nat.lt_trichotomy j fs.inodes.length with h | h | h
  · rw [if_pos h, if_neg (Nat.ne_of_lt h)]
  · rw [if_neg (by rw [h]; exact Nat.lt_irrefl _), if_pos h, h, Nat.sub_self]
    rfl
  · rw [if_neg (Nat.lt_asymm h), if_neg (Nat.ne_of_gt h),
      List.getElem?_eq_none (Nat.le_of_lt h)]
    exact List.getElem?_eq_none (Nat.sub_pos_of_lt h)

theorem inode?_fresh (fs : FileSystem) : fs.inode? fs.fresh = none :=
  List.getElem?_eq_none (Nat.le_refl _)

end FileSystem

end SparseFixture
