import SparseFixture.Fixture.Run
import SparseFixture.Proofs.Fixture.Frame

/-!
# Whole histories of calls

Whatever calls are made one after the other, and wherever one stops to look: a regular file holds
what it held at first, or nothing, or the fixture, and everything else is still what it was.
-/

namespace SparseFixture

open FileSystem

/-! ### Histories -/

/-- Makes calls one after the other, each as the caller that stands beside it. So the working
directory, the mask and the limits may change in any way from call to call. -/
def Session.play (s : Session) (history : List (Caller × Call)) : Session :=
  history.foldl (fun s next => next.2.perform { s with caller := next.1 }) s

/-- The files in the middle of a call, when it has made `n` system calls. There are three at most. -/
def Call.midway (s : Session) (n : Nat) : Call → FileSystem
  | create path => if n = 0 then s.files else (Fixture.create s.files s.caller path).2
  | call =>
    match call.path? with
    | none => s.files
    | some path => (Fixture.Run.steps n (Fixture.Run.start s.caller path) s.files).2

theorem Call.midway_three (s : Session) (call : Call) :
    call.midway s 3 = (call.perform s).files := by
  have hrun : ∀ path, (Fixture.Run.steps 3 (Fixture.Run.start s.caller path) s.files).2 =
      (Fixture.generateAt s.files s.caller path).files := by
    intro path
    rw [Fixture.Run.steps_three]
    rfl
  cases call with
  | generate => exact hrun Fixture.nameBytes
  | generateIn dir => exact hrun (Fixture.path dir)
  | generateAt path => exact hrun path
  | create path => rfl
  | commandLine lang program args setting =>
    unfold Call.midway Call.perform Call.path? CommandLine.run
    by_cases hhelp : args.any CommandLine.asksHelp = true
    · simp only [if_pos hhelp]
    · simp only [if_neg hhelp]
      exact hrun Fixture.nameBytes

namespace Fixture.Run

theorem step_finished {r : Run} {result : Except Failure Unit} (h : r.phase = .finished result)
    (fs : FileSystem) : r.step fs = (r, fs) := by
  unfold step
  rw [h]

theorem steps_finished {r : Run} {result : Except Failure Unit} (h : r.phase = .finished result)
    (n : Nat) (fs : FileSystem) : steps n r fs = (r, fs) := by
  induction n with
  | zero => rfl
  | succ n ih => rw [steps, step_finished h, ih]

theorem steps_add (n m : Nat) (r : Run) (fs : FileSystem) :
    steps (n + m) r fs = steps m (steps n r fs).1 (steps n r fs).2 := by
  induction n generalizing r fs with
  | zero => rw [Nat.zero_add, steps]
  | succ n ih =>
    have hsum : n + 1 + m = (n + m) + 1 := by omega
    rw [hsum, steps, steps, ih]

/-- A run leaves the files alone until it has opened its path, and moving the cursor changes none;
from the third call on they are those that the whole run leaves. -/
theorem files_steps (n : Nat) (fs : FileSystem) (p : Caller) (path : Bytes) :
    (steps n (start p path) fs).2 = fs ∨
    (steps n (start p path) fs).2 = (create fs p path).2 ∨
    (steps n (start p path) fs).2 = (generateAt fs p path).files := by
  match n with
  | 0 => exact .inl rfl
  | 1 =>
    right
    left
    rcases hc : create fs p path with ⟨c | h, fs₁⟩
    · simp only [steps, step, start, hc]
    · simp only [steps, step, start, hc]
  | 2 =>
    right
    left
    rcases hc : create fs p path with ⟨c | h, fs₁⟩
    · simp only [steps, step, start, finish, hc]
    · rcases hs : fs₁.seekSet h lastOffset with ⟨c | position, h₁⟩
      · simp only [steps, step, start, advance, hc, hs]
      · simp only [steps, step, start, advance, hc, hs]
  | n + 3 =>
    right
    right
    rw [Nat.add_comm n 3, steps_add, steps_three]
    exact congrArg Prod.snd (steps_finished rfl n _)

end Fixture.Run

/-! ### One call -/

theorem Inode.node_of_bare {inode inode' : Inode} {c : Content} (h : inode'.bare = inode.bare)
    (hn : inode.node = .regular c) : inode'.node = .regular c := by
  obtain ⟨m, k, n⟩ := inode
  obtain ⟨m', k', n'⟩ := inode'
  cases hn
  cases n' with
  | directory es q => cases h
  | _ => exact congrArg Inode.node h

namespace Change

variable {fs fs' : FileSystem} {p : Caller} {place : Option Place} {i : Ino}

/-- An inode keeps all but its entries, unless it is a regular file and has got a blank content. -/
theorem inode (C : Change fs p place fs') {inode : Inode} (h : fs.inode? i = some inode) :
    ∃ inode', fs'.inode? i = some inode' ∧ (inode'.bare = inode.bare ∨
      (∃ c, inode.node = .regular c) ∧ ∃ c, inode'.node = .regular c ∧ Blank c) := by
  cases C with
  | none => exact ⟨inode, h, .inl rfl⟩
  | @rewritten j c c' hn hc =>
    by_cases hij : j = i
    · subst hij
      rw [node?, h] at hn
      refine ⟨inode.rewritten p.user c', ?_, .inr ⟨⟨c, Option.some.inj hn⟩, c', rfl, hc⟩⟩
      rw [inode?_modify, if_pos rfl, h, Option.map_some]
    · exact ⟨inode, by rw [inode?_modify_of_ne _ hij, h], .inl rfl⟩
  | @added dir name c hfree hc =>
    have A := addition p c hfree
    have hne : i ≠ fs.fresh := by
      intro hi
      rw [hi, inode?_fresh] at h
      cases h
    obtain ⟨inode', hi', hbare⟩ := exists_of_bare (A.bare_of_ne hne) h
    exact ⟨inode', hi', .inl hbare⟩

/-- What is new is a file as an opening makes it, with a blank content. -/
theorem new (C : Change fs p place fs') {inode : Inode} (h : fs.inode? i = .none)
    (h' : fs'.inode? i = some inode) :
    ∃ c, Blank c ∧ inode = { newFile Fixture.mode p.umask with node := .regular c } := by
  cases C with
  | none =>
    rw [h] at h'
    cases h'
  | @rewritten j c c' hn hc =>
    rw [inode?_modify, h] at h'
    split at h' <;> cases h'
  | @added dir name c hfree hc =>
    have A := addition p c hfree
    by_cases hi : i = fs.fresh
    · subst hi
      rw [A.inode?_fresh] at h'
      exact ⟨c, hc, (Option.some.inj h').symm⟩
    · have hbare := A.bare_of_ne hi
      rw [inode?_bare, inode?_bare, h, h'] at hbare
      cases hbare

/-- In the middle of a call the files have changed as after a call. -/
theorem of_midway (s : Session) (n : Nat) (call : Call) :
    Change s.files s.caller (call.place? s) (call.midway s n) := by
  have hrun : ∀ path, Change s.files s.caller
      (s.files.locate s.caller.user s.caller.cwd path).toOption
      (Fixture.Run.steps n (Fixture.Run.start s.caller path) s.files).2 := by
    intro path
    rcases Fixture.Run.files_steps n s.files s.caller path with h | h | h
    · rw [h]
      exact .none
    · rw [h]
      exact of_create s.files s.caller path
    · rw [h]
      exact of_generateAt s.files s.caller path
  cases call with
  | generate => exact hrun Fixture.nameBytes
  | generateIn dir => exact hrun (Fixture.path dir)
  | generateAt path => exact hrun path
  | create path =>
    by_cases hn : n = 0
    · simp only [Call.midway, if_pos hn]
      exact .none
    · simp only [Call.midway, if_neg hn]
      exact of_create s.files s.caller path
  | commandLine lang program args setting =>
    unfold Call.midway Call.place? Call.path?
    by_cases hhelp : args.any CommandLine.asksHelp = true
    · simp only [if_pos hhelp]
      exact .none
    · simp only [if_neg hhelp]
      exact hrun Fixture.nameBytes

end Change

/-! ### The invariant -/

/-- What calls leave of a file system: each regular file holds what it held, or nothing, or the
fixture; all that is new is regular files that hold nothing or the fixture; everything else keeps
its mode, its target and its names. -/
structure ThreeStates (fs₀ fs : FileSystem) : Prop where
  files : ∀ i c, fs₀.node? i = some (.regular c) →
    ∃ c', fs.node? i = some (.regular c') ∧ (c'.toBytes = c.toBytes ∨ Blank c')
  added : ∀ i n, fs₀.node? i = none → fs.node? i = some n → ∃ c, n = .regular c ∧ Blank c
  others : ∀ i inode, fs₀.inode? i = some inode → (∀ c, inode.node ≠ .regular c) →
    ∃ inode', fs.inode? i = some inode' ∧ inode'.bare = inode.bare
  names : ∀ dir name i, fs₀.child? dir name = some i → fs.child? dir name = some i

namespace ThreeStates

theorem refl (fs : FileSystem) : ThreeStates fs fs where
  files _ c h := ⟨c, h, .inl rfl⟩
  added _ _ h h' := by
    rw [h] at h'
    cases h'
  others _ inode h _ := ⟨inode, h, rfl⟩
  names _ _ _ h := h

variable {fs₀ fs fs' : FileSystem} {p : Caller} {place : Option Place}

theorem change (H : ThreeStates fs₀ fs) (C : Change fs p place fs') : ThreeStates fs₀ fs' where
  files i c h := by
    obtain ⟨c₁, hn, hc₁⟩ := H.files i c h
    obtain ⟨inode, hi, hnode⟩ := Option.map_eq_some_iff.mp hn
    obtain ⟨inode', hi', hbare | ⟨_, c₂, hn₂, hc₂⟩⟩ := C.inode hi
    · refine ⟨c₁, ?_, hc₁⟩
      rw [node?, hi', Option.map_some, Inode.node_of_bare hbare hnode]
    · refine ⟨c₂, ?_, .inr hc₂⟩
      rw [node?, hi', Option.map_some, hn₂]
  added i n h h' := by
    obtain ⟨inode', hi', rfl⟩ := Option.map_eq_some_iff.mp h'
    cases hi : fs.inode? i with
    | none =>
      obtain ⟨c, hc, rfl⟩ := C.new hi hi'
      exact ⟨c, rfl, hc⟩
    | some inode =>
      obtain ⟨c₁, hnode, hc₁⟩ := H.added i inode.node h (by rw [node?, hi, Option.map_some])
      obtain ⟨inode'', hi'', hbare | ⟨_, c₂, hn₂, hc₂⟩⟩ := C.inode hi
      · rw [hi'] at hi''
        cases hi''
        exact ⟨c₁, Inode.node_of_bare hbare hnode, hc₁⟩
      · rw [hi'] at hi''
        cases hi''
        exact ⟨c₂, hn₂, hc₂⟩
  others i inode h hregular := by
    obtain ⟨inode₁, hi, hbare₁⟩ := H.others i inode h hregular
    obtain ⟨inode', hi', hbare | ⟨⟨c, hc⟩, _⟩⟩ := C.inode hi
    · exact ⟨inode', hi', hbare.trans hbare₁⟩
    · exact absurd (Inode.node_of_bare hbare₁.symm hc) (hregular c)
  names dir name i h := (OnlyAt.of_change C).entries dir name i (H.names dir name i h)

theorem play {s : Session} (H : ThreeStates fs₀ s.files) (history : List (Caller × Call)) :
    ThreeStates fs₀ (s.play history).files := by
  induction history generalizing s with
  | nil => exact H
  | cons next history ih => exact ih (H.change (.of_call next.2 { s with caller := next.1 }))

end ThreeStates

/-- At every point of every history, after a call or in the middle of one, a file is in one of the
three states. -/
theorem three_states_at_every_point (s : Session) (history : List (Caller × Call)) :
    ThreeStates s.files (s.play history).files ∧
    ∀ (p : Caller) (n : Nat) (call : Call),
      ThreeStates s.files (call.midway { s.play history with caller := p } n) := by
  have H : ThreeStates s.files (s.play history).files := (ThreeStates.refl s.files).play history
  exact ⟨H, fun p n call => H.change (.of_midway { s.play history with caller := p } n call)⟩

end SparseFixture
