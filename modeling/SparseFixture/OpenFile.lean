import SparseFixture.Cause
import SparseFixture.Content

/-!
# Open files

An open file is what a descriptor leads to, with the rights it was opened with and its cursor. The
operations on it are the system calls that move the cursor, read, write and ask for the length.
Each answers with a value or a cause and leaves an open file behind, also when it fails.

Input and output are synchronous and blocking, and nothing sets O_NONBLOCK: a call that finds no bytes
in a pipe, or no room for those that it writes, does not fail. It comes back only when the other end of
the pipe has moved.
-/

namespace SparseFixture

/-- The devices a path may lead to. -/
inductive Device where
  | null
  | zero
  | full
deriving DecidableEq, Repr

/-- A pipe: how many bytes it can hold, and those that have been written to it and not yet read. -/
structure Pipe where
  capacity : Nat
  held : Bytes
  fits : held.length ≤ capacity
deriving DecidableEq, Repr

namespace Pipe

/-- A pipe as the system makes it, with nothing in it. -/
def empty : Pipe := ⟨65536, [], Nat.zero_le _⟩

/-- How many more bytes fit. -/
def room (p : Pipe) : Nat := p.capacity - p.held.length

/-- Up to how many bytes are written in one piece. -/
def atomic : Nat := 4096

/-- Takes in as many bytes as there is room for. A few that do not all fit are not taken in part. -/
def push (p : Pipe) (bs : Bytes) : Pipe :=
  if p.room < bs.length ∧ bs.length ≤ atomic then p
  else { p with
    held := p.held ++ bs.take p.room
    fits := by
      have hfits := p.fits
      simp only [List.length_append, List.length_take, room]
      omega }

/-- Gives out the first `n` bytes. -/
def pop (p : Pipe) (n : Nat) : Pipe :=
  { p with
    held := p.held.drop n
    fits := by
      have hfits := p.fits
      simp only [List.length_drop]
      omega }

end Pipe

/-- What a descriptor leads to. Of a pipe it is one end; the other end stays open and silent. -/
inductive Object where
  | regular (content : Content)
  | device (device : Device)
  | pipe (pipe : Pipe)
  | closed
deriving DecidableEq, Repr

/-- An open file. -/
structure OpenFile where
  object : Object
  canRead : Bool
  canWrite : Bool
  cursor : Nat
deriving DecidableEq, Repr

namespace OpenFile

/-- The greatest offset that a file can have, 2^63 - 1. -/
def maxOffset : Nat := 0x7FFFFFFFFFFFFFFF

/-- Moves the cursor and answers the position reached. A device has no position but 0, and a pipe
has none at all. Moving past the end changes no length. -/
def seekSet (f : OpenFile) (offset : Nat) : Except Cause Nat × OpenFile :=
  if maxOffset < offset then (.error .offsetTooLarge, f)
  else match f.object with
    | .closed => (.error (.os Errno.badDescriptor), f)
    | .pipe _ => (.error (.os Errno.illegalSeek), f)
    | .device _ => (.ok 0, f)
    | .regular _ => (.ok offset, { f with cursor := offset })

/-- Reads at most `n` bytes at the cursor and moves it behind them, or takes them out of a pipe. -/
def read (f : OpenFile) (n : Nat) : Except Cause Bytes × OpenFile :=
  if !f.canRead then (.error (.os Errno.badDescriptor), f)
  else match f.object with
    | .closed => (.error (.os Errno.badDescriptor), f)
    | .pipe p => (.ok (p.held.take n), { f with object := .pipe (p.pop n) })
    | .device .null => (.ok [], f)
    | .device _ => (.ok (List.replicate n 0), f)
    | .regular c =>
      if n = 0 then (.ok [], f)
      else if maxOffset < f.cursor + n then (.error (.os Errno.invalid), f)
      else
        let bs := c.read f.cursor n
        (.ok bs, { f with cursor := f.cursor + bs.length })

/-- Writes all of the given bytes at the cursor and moves it behind them, or puts them into a pipe.
Without a byte to write nothing is asked of the file, so that this never fails. Bytes of which some would
lie beyond `limit` are refused together; under a limit only single bytes are ever written. -/
def write (f : OpenFile) (limit : Option Nat) (bs : Bytes) : Except Cause Unit × OpenFile :=
  if bs.isEmpty then (.ok (), f)
  else if !f.canWrite then (.error (.os Errno.badDescriptor), f)
  else match f.object with
    | .closed => (.error (.os Errno.badDescriptor), f)
    | .pipe p => (.ok (), { f with object := .pipe (p.push bs) })
    | .device .full => (.error (.os Errno.noSpace), f)
    | .device _ => (.ok (), f)
    | .regular c =>
      if maxOffset < f.cursor + bs.length then (.error (.os Errno.invalid), f)
      else if limit.any (· < f.cursor + bs.length) then (.error (.os Errno.tooLarge), f)
      else
        (.ok (), { f with
          object := .regular (c.writeAt f.cursor bs), cursor := f.cursor + bs.length })

/-- The length of the file; only a regular file has one. -/
def length (f : OpenFile) : Except Cause Nat :=
  match f.object with
  | .closed => .error (.os Errno.badDescriptor)
  | .regular c => .ok c.size
  | _ => .ok 0

/-! ### A call that fails changes nothing -/

theorem seekSet_of_error {f g : OpenFile} {offset : Nat} {c : Cause}
    (h : f.seekSet offset = (.error c, g)) : g = f := by
  unfold seekSet at h
  split at h
  · cases h
    rfl
  · split at h <;> cases h
    · rfl
    · rfl

theorem read_of_error {f g : OpenFile} {n : Nat} {c : Cause}
    (h : f.read n = (.error c, g)) : g = f := by
  unfold read at h
  split at h
  · cases h
    rfl
  · split at h
    · cases h
      rfl
    · cases h
    · cases h
    · cases h
    · split at h
      · cases h
      · split at h <;> cases h
        rfl

theorem write_of_error {f g : OpenFile} {limit : Option Nat} {bs : Bytes} {c : Cause}
    (h : f.write limit bs = (.error c, g)) : g = f := by
  unfold write at h
  split at h
  · cases h
  · split at h
    · cases h
      rfl
    · split at h
      · cases h
        rfl
      · cases h
      · cases h
        rfl
      · cases h
      · split at h
        · cases h
          rfl
        · split at h <;> cases h
          rfl

/-! ### Sessions -/

/-- A call on an open file. -/
inductive Request where
  | seekSet (offset : Nat)
  | read (n : Nat)
  | write (bytes : Bytes)
  | length
deriving DecidableEq, Repr

/-- The answer to a call. -/
inductive Reply where
  | position (n : Nat)
  | bytes (bs : Bytes)
  | written
  | length (n : Nat)
  | failed (cause : Cause)
deriving DecidableEq, Repr

/-- The reply to a call that answers a value. -/
def Reply.ofResult {α : Type} (reply : α → Reply) : Except Cause α → Reply
  | .ok a => reply a
  | .error c => .failed c

/-- Makes one call. -/
def perform (f : OpenFile) : Request → Reply × OpenFile
  | .seekSet offset => ((f.seekSet offset).1 |> Reply.ofResult .position, (f.seekSet offset).2)
  | .read n => ((f.read n).1 |> Reply.ofResult .bytes, (f.read n).2)
  | .write bs => ((f.write none bs).1 |> Reply.ofResult fun _ => .written, (f.write none bs).2)
  | .length => (f.length |> Reply.ofResult .length, f)

/-- Whether a call never comes back: it waits for bytes in a pipe, or for room, and the other end stays
silent. What the call has done until then is done, but its reply is never given. -/
def waits (f : OpenFile) (r : Request) : Bool :=
  match r, f.object with
  | .read n, .pipe p => f.canRead && 0 < n && p.held.isEmpty
  | .write bs, .pipe p => f.canWrite && p.room < bs.length
  | _, _ => false

/-- Makes calls one after the other: the replies, and the open file in the end. With a call that waits
the session is at an end. -/
def session (f : OpenFile) : List Request → List Reply × OpenFile
  | [] => ([], f)
  | r :: rs =>
    let (reply, g) := f.perform r
    if f.waits r then ([], g)
    else
      let (replies, h) := g.session rs
      (reply :: replies, h)

end OpenFile

end SparseFixture
