import SparseFixture.FileSystem.Resolve

/-!
# System calls on a file system

Opening a path for writing, and the calls on the handle that it gives. A handle has a cursor of its
own and shares the file with every other handle on the same inode. Every call answers with a value
or a cause, and with the file system that it leaves.
-/

namespace SparseFixture

/-- An inode opened for writing, and the cursor in it. -/
structure Handle where
  ino : Ino
  cursor : Nat
deriving DecidableEq, Repr

namespace Inode

/-- The inode of a regular file after a user has emptied it. -/
def emptied (u : User) (inode : Inode) : Inode :=
  { inode with
    mode := if u = .superuser then inode.mode else inode.mode.withoutSetId
    node := .regular .empty }

/-- Puts back what a call has made of a regular file. -/
def withObject (o : Object) (inode : Inode) : Inode :=
  match inode.node, o with
  | .regular _, .regular c => { inode with node := .regular c }
  | _, _ => inode

end Inode

namespace FileSystem

/-! ### Opening -/

/-- An empty file that an opening has just made. -/
def newFile (mode umask : Mode) : Inode := ⟨mode.without umask, 1, .regular .empty⟩

/-- Opens what is at a place for writing. A free name is given to a new file; a regular file is
emptied. A FIFO is taken to have a reader, so that it opens at once. -/
def openPlace (fs : FileSystem) (p : Caller) (mode : Mode) : Place → Except Int Ino × FileSystem
  | .absent dir name =>
    if p.user.may Mode.ownerWrite (fs.mode dir) then
      (.ok fs.fresh, fs.addChild dir name (newFile mode p.umask))
    else (.error Errno.accessDenied, fs)
  | .present i =>
    match fs.node? i with
    | none => (.error Errno.noEntry, fs)
    | some (.directory _ _) => (.error Errno.isDirectory, fs)
    | some (.symlink _) => (.error Errno.linkLoop, fs)
    | some node =>
      if !p.user.may Mode.ownerWrite (fs.mode i) then (.error Errno.accessDenied, fs)
      else match node with
        | .socket => (.error Errno.noDevice, fs)
        | .regular _ => (.ok i, fs.modify i (Inode.emptied p.user))
        | _ => (.ok i, fs)

/-- Whether a path can be handed to the system, and a file be opened at all. -/
def checkPath (p : Caller) (path : Bytes) : Except Cause Unit :=
  if Bytes.nul ∈ path then .error .nulInPath
  else if Path.tooLong ≤ path.length then .error (.os Errno.nameTooLong)
  else if path = [] then .error (.os Errno.noEntry)
  else if !p.canOpen then .error (.os Errno.tooManyOpen)
  else .ok ()

/-- Opens a path for writing, creating the file with a mode or emptying it. -/
def openTruncated (fs : FileSystem) (p : Caller) (mode : Mode) (path : Bytes) :
    Except Cause Handle × FileSystem :=
  match checkPath p path with
  | .error c => (.error c, fs)
  | .ok () =>
    match fs.locate p.user p.cwd path with
    | .error e => (.error (.os e), fs)
    | .ok place =>
      match fs.openPlace p mode place with
      | (.error e, fs') => (.error (.os e), fs')
      | (.ok i, fs') => (.ok ⟨i, 0⟩, fs')

/-! ### Calls on a handle -/

/-- What a handle on an inode leads to. The bytes in a FIFO are not kept with the inode. -/
def object (fs : FileSystem) (i : Ino) : Object :=
  match fs.node? i with
  | some (.regular c) => .regular c
  | some (.device d) => .device d
  | some .fifo => .pipe .empty
  | _ => .closed

theorem modify_withObject_object (fs : FileSystem) (i : Ino) :
    fs.modify i (Inode.withObject (fs.object i)) = fs := by
  have hinode : ∀ inode, fs.inode? i = some inode → inode.withObject (fs.object i) = inode := by
    rintro ⟨m, k, node⟩ h
    cases node <;> simp [object, node?, h, Inode.withObject]
  cases fs with
  | mk inodes =>
    simp only [modify, FileSystem.mk.injEq]
    apply List.ext_getElem?
    intro j
    rw [List.getElem?_modify]
    split
    · rename_i hij
      subst hij
      rcases hj : inodes[i]? with _ | inode
      · rfl
      · exact congrArg some (hinode inode hj)
    · exact Option.map_id'

/-- A handle as an open file; it can be written only. -/
def opened (fs : FileSystem) (h : Handle) : OpenFile := ⟨fs.object h.ino, false, true, h.cursor⟩

/-- Moves the cursor of a handle. -/
def seekSet (fs : FileSystem) (h : Handle) (offset : Nat) : Except Cause Nat × Handle :=
  let (answer, f) := (fs.opened h).seekSet offset
  (answer, { h with cursor := f.cursor })

/-- Reads from a handle. -/
def read (fs : FileSystem) (h : Handle) (n : Nat) : Except Cause Bytes × Handle :=
  let (answer, f) := (fs.opened h).read n
  (answer, { h with cursor := f.cursor })

/-- Writes to a handle. -/
def write (fs : FileSystem) (p : Caller) (h : Handle) (bs : Bytes) :
    Except Cause Unit × Handle × FileSystem :=
  let (answer, f) := (fs.opened h).write p.sizeLimit bs
  (answer, { h with cursor := f.cursor }, fs.modify h.ino (Inode.withObject f.object))

/-- The length of the file of a handle. -/
def length (fs : FileSystem) (h : Handle) : Except Cause Nat := (fs.opened h).length

end FileSystem

end SparseFixture
