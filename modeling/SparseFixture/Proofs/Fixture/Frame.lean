import SparseFixture.CommandLine
import SparseFixture.Proofs.Fixture.Endings

/-!
# Nothing but the target changes

Every call of the library, and every run of the program, changes at most what its path leads to.
`Change` lists what a call can do to a file system at all; `OnlyAt` says what stays the same.
-/

namespace SparseFixture

open FileSystem

/-! ### Calls -/

inductive Call where
  | generate
  | generateIn (dir : Bytes)
  | generateAt (path : Bytes)
  | create (path : Bytes)
  | commandLine (lang : Log.PatternLanguage) (program : Bytes) (args : List Bytes)
      (setting : Option Bytes)

structure Session where
  files : FileSystem
  caller : Caller

namespace Call

def perform (s : Session) : Call → Session
  | generate => { s with files := (Fixture.generate s.files s.caller).files }
  | generateIn dir => { s with files := (Fixture.generateIn s.files s.caller dir).files }
  | generateAt path => { s with files := (Fixture.generateAt s.files s.caller path).files }
  | create path => { s with files := (Fixture.create s.files s.caller path).2 }
  | commandLine lang program args setting =>
    { s with files := (CommandLine.run lang s.files s.caller program args setting).2 }

/-- The path that a call opens. A run of the program that is asked for help opens none. -/
def path? : Call → Option Bytes
  | generate => some Fixture.nameBytes
  | generateIn dir => some (Fixture.path dir)
  | generateAt path => some path
  | create path => some path
  | commandLine _ _ args _ => if args.any CommandLine.asksHelp then none else some Fixture.nameBytes

def place? (s : Session) (call : Call) : Option Place :=
  call.path?.bind fun path => (s.files.locate s.caller.user s.caller.cwd path).toOption

end Call

/-! ### All that a call can do -/

/-- A content that a run leaves: nothing, or the fixture. -/
def Blank (c : Content) : Prop := c.toBytes = [] ∨ c.toBytes = Fixture.bytes

theorem Blank.empty : Blank .empty := .inl Content.toBytes_empty

def Inode.rewritten (u : User) (c : Content) : Inode → Inode :=
  withObject (.regular c) ∘ emptied u

theorem outline_rewritten {fs : FileSystem} {i : Ino} {c : Content} (u : User) (c' : Content)
    (hn : fs.node? i = some (.regular c)) :
    (fs.modify i (Inode.rewritten u c')).outline = fs.outline := by
  rw [Inode.rewritten, ← modify_modify, outline_withObject, Opening.outline_emptied hn]

/-- What a call can do to a file system: nothing, or give the regular file at a place a blank
content, or make one with a blank content there. -/
inductive Change (fs : FileSystem) (p : Caller) : Option Place → FileSystem → Prop
  | none {place : Option Place} : Change fs p place fs
  | rewritten {i : Ino} {c c' : Content} : fs.node? i = some (.regular c) → Blank c' →
      Change fs p (some (.present i)) (fs.modify i (Inode.rewritten p.user c'))
  | added {dir : Ino} {name : Bytes} {c : Content} : fs.look dir name = .ok none → Blank c →
      Change fs p (some (.absent dir name))
        (fs.addChild dir name { newFile Fixture.mode p.umask with node := .regular c })

namespace Change

variable {fs fs' : FileSystem} {p : Caller} {path : Bytes} {i : Ino}

theorem addition {dir : Ino} {name : Bytes} (p : Caller) (c : Content)
    (hfree : fs.look dir name = .ok .none) :
    Addition fs dir name { newFile Fixture.mode p.umask with node := .regular c } :=
  ⟨hfree, ⟨c, rfl⟩, Mode.not_has_without Fixture.mode_closed p.umask⟩

theorem of_opening (O : Opening fs p Fixture.mode path i fs') :
    Change fs p (fs.locate p.user p.cwd path).toOption fs' := by
  cases O with
  | created hl _ =>
    rw [hl]
    exact .added (look_of_locate hl) .empty
  | emptied hl hn _ =>
    rw [hl]
    exact .rewritten hn .empty
  | untouched => exact .none

theorem of_filled {c : Content} (O : Opening fs p Fixture.mode path i fs')
    (hn : fs'.node? i = some (.regular .empty)) (hc : Blank c) :
    Change fs p (fs.locate p.user p.cwd path).toOption
      (fs'.modify i (Inode.withObject (.regular c))) := by
  cases O with
  | created hl _ =>
    have A := Opening.addition p.umask Fixture.mode_closed hl
    rw [hl, A.fill]
    exact .added A.free hc
  | emptied hl hn' _ =>
    rw [hl, modify_modify]
    exact .rewritten hn' hc
  | untouched hl hn' hkind _ =>
    rw [hn] at hn'
    rcases hkind with rfl | ⟨d, rfl⟩ <;> cases hn'

theorem of_generateAt (fs : FileSystem) (p : Caller) (path : Bytes) :
    Change fs p (fs.locate p.user p.cwd path).toOption (Fixture.generateAt fs p path).files := by
  have E := Fixture.ending fs p path
  generalize Fixture.generateAt fs p path = o at E ⊢
  cases E with
  | uncreated => exact .none
  | pipe hc _ | full hc _ | swallowed hc _ _ | limited hc _ _ =>
    exact of_opening (Fixture.opening_of_create hc).2
  | filled hc hn _ =>
    exact of_filled (Fixture.opening_of_create hc).2 hn (.inr Fixture.toBytes_content)

theorem of_create (fs : FileSystem) (p : Caller) (path : Bytes) :
    Change fs p (fs.locate p.user p.cwd path).toOption (Fixture.create fs p path).2 := by
  rcases hc : Fixture.create fs p path with ⟨c | h, fs₁⟩
  · rw [openTruncated_of_error hc]
    exact .none
  · exact of_opening (Fixture.opening_of_create hc).2

/-- Whatever the call and its outcome, the change is one of these at the place of its path. -/
theorem of_call (call : Call) (s : Session) :
    Change s.files s.caller (call.place? s) (call.perform s).files := by
  cases call with
  | generate => exact of_generateAt s.files s.caller Fixture.nameBytes
  | generateIn dir => exact of_generateAt s.files s.caller (Fixture.path dir)
  | generateAt path => exact of_generateAt s.files s.caller path
  | create path => exact of_create s.files s.caller path
  | commandLine lang program args setting =>
    unfold Call.perform Call.place? Call.path? CommandLine.run
    by_cases hhelp : args.any CommandLine.asksHelp = true
    · simp only [if_pos hhelp]
      exact .none
    · simp only [if_neg hhelp]
      exact of_generateAt s.files s.caller Fixture.nameBytes

end Change

/-! ### All that stays -/

/-- At most one entry has been added, and then it gives a new regular file the name that was free. -/
def OneEntryAtMost (place : Option Place) (fs fs' : FileSystem) : Prop :=
  (fs'.fresh = fs.fresh ∧ ∀ d, fs'.entries d = fs.entries d) ∨
  ∃ dir name, place = some (.absent dir name) ∧ fs.child? dir name = none ∧
    fs.inode? fs.fresh = none ∧ fs'.fresh = fs.fresh + 1 ∧
    fs'.entries dir = fs.entries dir ++ [(name, fs.fresh)] ∧
    (∀ d, d ≠ dir → fs'.entries d = fs.entries d) ∧
    ∃ m c, fs'.inode? fs.fresh = some ⟨m, 1, .regular c⟩

theorem OneEntryAtMost.of_outline {place : Option Place} {fs fs' fs'' : FileSystem}
    (H : OneEntryAtMost place fs fs') (h : fs''.outline = fs'.outline) :
    OneEntryAtMost place fs fs'' := by
  have hentries : ∀ d, fs''.entries d = fs'.entries d := by
    intro d
    rw [← entries_outline, h, entries_outline]
  have hfresh : fs''.fresh = fs'.fresh := by rw [← fresh_outline, h, fresh_outline]
  rcases H with ⟨hf, hes⟩ | ⟨dir, name, hp, hfree, hnone, hf, hdir, hne, m, c, hnew⟩
  · exact .inl ⟨hfresh.trans hf, fun d => (hentries d).trans (hes d)⟩
  · refine .inr ⟨dir, name, hp, hfree, hnone, hfresh.trans hf, (hentries dir).trans hdir,
      fun d hd => (hentries d).trans (hne d hd), ?_⟩
    have hi : (fs''.inode? fs.fresh).map Inode.outline =
        some (Inode.outline ⟨m, 1, .regular c⟩) := by
      rw [← inode?_outline, h, inode?_outline, hnew, Option.map_some]
    obtain ⟨⟨m', k', n'⟩, hi', ho⟩ := Option.map_eq_some_iff.mp hi
    have hk : k' = 1 := congrArg Inode.links ho
    have hn : n'.outline = (Node.regular c).outline := congrArg Inode.node ho
    obtain ⟨c', rfl⟩ := Node.eq_regular_of_shape (Node.shape_eq_of_outline hn)
    exact ⟨m', c', by rw [hi', hk]⟩

def shown (fs : FileSystem) (u : User) (dir : Ino) (path : Bytes) : Option Bytes :=
  match fs.locate u dir path with
  | .ok (.present i) => fs.contentOf i
  | _ => none

/-- One file system differs from another at most by what is at a place. -/
structure OnlyAt (place : Option Place) (fs fs' : FileSystem) : Prop where
  entries : ∀ dir name i, fs.child? dir name = some i → fs'.child? dir name = some i
  additions : OneEntryAtMost place fs fs'
  inodes : ∀ i inode, fs.inode? i = some inode →
    place ≠ some (.present i) ∨ (∀ c, inode.node ≠ .regular c) →
    ∃ inode', fs'.inode? i = some inode' ∧ inode'.bare = inode.bare
  links : ∀ i inode, fs.inode? i = some inode →
    ∃ inode', fs'.inode? i = some inode' ∧ inode'.links = inode.links ∧
      inode'.node.shape = inode.node.shape
  paths : ∀ u d q i, fs.locate u d q = .ok (.present i) → fs'.locate u d q = .ok (.present i)
  hardLinks : ∀ i u d q u' d' q', fs.locate u d q = .ok (.present i) →
    fs.locate u' d' q' = .ok (.present i) → shown fs' u d q = shown fs' u' d' q'
  others : ∀ i u d q, fs.locate u d q = .ok (.present i) → place ≠ some (.present i) →
    shown fs' u d q = shown fs u d q

theorem contentOf_bare (fs : FileSystem) (i : Ino) : fs.bare.contentOf i = fs.contentOf i := by
  simp only [contentOf, node?, inode?_bare]
  rcases fs.inode? i with _ | ⟨m, k, n⟩
  · rfl
  · cases n <;> rfl

namespace OnlyAt

variable {place : Option Place} {fs fs' : FileSystem}

theorem child?_of_additions (h : OneEntryAtMost place fs fs') {dir i : Ino} {name : Bytes}
    (hi : fs.child? dir name = some i) : fs'.child? dir name = some i := by
  unfold child? at hi ⊢
  rcases h with ⟨_, hes⟩ | ⟨dir', name', _, _, _, _, hdir, hne, _⟩
  · rw [hes, hi]
  · by_cases hd : dir = dir'
    · subst hd
      rw [hdir, List.lookup_append, hi, Option.some_or]
    · rw [hne dir hd, hi]

/-- It is enough that names are kept, that at most one entry is new, and that each inode has
changed its entries only, unless it is the regular file at the place. -/
theorem of_namesKept (H : NamesKept (fun _ => False) fs fs') (hadd : OneEntryAtMost place fs fs')
    (hinodes : ∀ i inode, fs.inode? i = some inode → ∃ inode', fs'.inode? i = some inode' ∧
      (inode'.bare = inode.bare ∨ place = some (.present i) ∧ inode'.links = inode.links ∧
        ∃ c c', inode.node = .regular c ∧ inode'.node = .regular c')) :
    OnlyAt place fs fs' := by
  have hpaths : ∀ u d q i, fs.locate u d q = .ok (.present i) →
      fs'.locate u d q = .ok (.present i) :=
    fun u d q i h => (H.locate_present h).resolve_left id
  refine ⟨fun dir name i => child?_of_additions hadd, hadd, ?_, ?_, hpaths, ?_, ?_⟩
  · intro i inode hi hplace
    obtain ⟨inode', hi', hb | ⟨hp, _, c, _, hn, _⟩⟩ := hinodes i inode hi
    · exact ⟨inode', hi', hb⟩
    · rcases hplace with hplace | hplace
      · exact absurd hp hplace
      · exact absurd hn (hplace c)
  · intro i inode hi
    obtain ⟨inode', hi', hb | ⟨_, hlinks, c, c', hn, hn'⟩⟩ := hinodes i inode hi
    · refine ⟨inode', hi', ?_, ?_⟩
      · rw [← Inode.links_bare, hb, Inode.links_bare]
      · rw [← Inode.shape_bare, hb, Inode.shape_bare]
    · refine ⟨inode', hi', hlinks, ?_⟩
      rw [hn, hn']
      rfl
  · intro i u d q u' d' q' h h'
    simp only [shown, hpaths _ _ _ _ h, hpaths _ _ _ _ h']
  · intro i u d q h hplace
    simp only [shown, hpaths _ _ _ _ h, h]
    obtain ⟨n, hn, _⟩ := node_of_locate h
    obtain ⟨inode, hi, _⟩ := Option.map_eq_some_iff.mp hn
    obtain ⟨inode', hi', hb | ⟨hp, _⟩⟩ := hinodes i inode hi
    · have hbare : fs'.bare.inode? i = fs.bare.inode? i := by
        rw [inode?_bare, inode?_bare, hi, hi', Option.map_some, Option.map_some, hb]
      rw [← contentOf_bare fs', ← contentOf_bare fs, contentOf, contentOf, node?, node?, hbare]
    · exact absurd hp hplace

theorem refl (place : Option Place) (fs : FileSystem) : OnlyAt place fs fs :=
  of_namesKept (.refl fs) (.inl ⟨rfl, fun _ => rfl⟩) fun _ inode h => ⟨inode, h, .inl rfl⟩

theorem rewritten {i : Ino} {c c' : Content} (u : User) (hn : fs.node? i = some (.regular c)) :
    OnlyAt (some (.present i)) fs (fs.modify i (Inode.rewritten u c')) := by
  have hout := outline_rewritten u c' hn
  refine of_namesKept (namesKept_of_outline hout) (.inl ⟨fresh_modify _ _ _, fun d => ?_⟩) ?_
  · rw [← entries_outline, hout, entries_outline]
  · intro j inode hj
    by_cases hij : i = j
    · subst hij
      rw [node?, hj] at hn
      refine ⟨inode.rewritten u c', ?_, .inr ⟨rfl, rfl, c, c', Option.some.inj hn, rfl⟩⟩
      rw [inode?_modify, if_pos rfl, hj, Option.map_some]
    · exact ⟨inode, by rw [inode?_modify_of_ne _ hij, hj], .inl rfl⟩

theorem added {dir : Ino} {name : Bytes} {new : Inode} (A : Addition fs dir name new)
    (hlinks : new.links = 1) :
    OnlyAt (some (.absent dir name)) fs (fs.addChild dir name new) := by
  refine of_namesKept A.namesKept (.inr ⟨dir, name, rfl, look_eq_ok A.free, inode?_fresh fs,
    fresh_addChild _ _ _ _, A.entries_dir, fun _ => A.entries_of_ne, ?_⟩) ?_
  · obtain ⟨c, hc⟩ := A.regular
    refine ⟨new.mode, c, ?_⟩
    rw [A.inode?_fresh, ← hlinks, ← hc]
  · intro i inode hi
    have hne : i ≠ fs.fresh := by
      intro h
      rw [h, inode?_fresh] at hi
      cases hi
    obtain ⟨inode', hi', hb⟩ := exists_of_bare (A.bare_of_ne hne) hi
    exact ⟨inode', hi', .inl hb⟩

theorem of_change {p : Caller} (C : Change fs p place fs') : OnlyAt place fs fs' := by
  cases C with
  | none => exact refl place fs
  | rewritten hn _ => exact rewritten p.user hn
  | added hfree _ => exact added (Change.addition p _ hfree) rfl

end OnlyAt

/-- Whatever the call and its outcome, nothing but what its path leads to changes, and the caller
keeps its working directory, its mask and its limits. -/
theorem call_changes_only_its_target (call : Call) (s : Session) :
    OnlyAt (call.place? s) s.files (call.perform s).files ∧
      (call.perform s).caller = s.caller := by
  refine ⟨.of_change (.of_call call s), ?_⟩
  cases call <;> rfl

end SparseFixture
