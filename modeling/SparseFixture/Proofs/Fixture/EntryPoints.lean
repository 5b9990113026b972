import SparseFixture.FileSystem.Layout
import SparseFixture.Fixture.Generate
import SparseFixture.Proofs.FileSystem.Detours

/-!
# The entry points agree

To generate the fixture in a directory is to generate it with that directory as the working
directory. The two outcomes differ in the path that they show, and in nothing else.
-/

namespace SparseFixture

/-! ### Outcomes under another path -/

def Failure.shownAs (path : Bytes) : Failure → Failure
  | create _ c => create path c
  | seek offset c => seek offset c
  | write offset c => write offset c

namespace Fixture

open FileSystem

def Record.shownAs (path : Bytes) : Record → Record
  | creating _ => creating path
  | cursor position => cursor position
  | wrote _ length allocated => wrote path length allocated

/-- An outcome with another path in its failure and in its log. Which step failed, for which cause,
and the files that are left stay as they are. -/
def Outcome.shownAs (path : Bytes) (o : Outcome) : Outcome where
  result := o.result.mapError (Failure.shownAs path)
  log := o.log.map (Record.shownAs path)
  files := o.files

variable {fs : FileSystem} {p : Caller}

theorem map_summary {p' : Caller} (hallocated : p.allocated = p'.allocated) (fs : FileSystem)
    (path path' : Bytes) (h : Handle) :
    (summary fs p' path' h).map (Record.shownAs path) = summary fs p path h := by
  unfold summary
  rw [hallocated]
  cases fs.length h with
  | ok n => rfl
  | error c => rfl

/-- Once a path is open, nothing but the records remembers it. -/
theorem generateAt_of_create_eq {p' : Caller} {path path' : Bytes}
    (hcreate : create fs p path = create fs p' path') (hlimit : p.sizeLimit = p'.sizeLimit)
    (hallocated : p.allocated = p'.allocated) :
    generateAt fs p path = (generateAt fs p' path').shownAs path := by
  have hwrite : ∀ (fs : FileSystem) h bs, fs.write p h bs = fs.write p' h bs := by
    intro fs h bs
    simp only [FileSystem.write, hlimit]
  unfold generateAt
  rw [hcreate]
  rcases create fs p' path' with ⟨c | h, fs₁⟩
  · rfl
  -- from here on the two runs hold the same handle and the same files
  · dsimp only
    rcases fs₁.seekSet h lastOffset with ⟨c | position, h₁⟩
    · rfl
    · simp only [hwrite]
      rcases fs₁.write p' h₁ [0] with ⟨c | u, h₂, fs₂⟩
      · rfl
      · simp only [Outcome.shownAs, List.map_append, map_summary hallocated]
        rfl

/-! ### The path of the fixture -/

theorem isName_nameBytes : Path.IsName nameBytes := ⟨by decide, by decide⟩

theorem path_below {dir : Bytes} (h : dir ≠ []) : Path.Below dir nameBytes (path dir) := by
  unfold path
  by_cases hslash : Bytes.endsWithSlash dir = true
  · rw [if_pos (.inr hslash)]
    exact Path.below_append_of_slash hslash isName_nameBytes
  · rw [if_neg fun hor => hor.elim h hslash]
    exact Path.below_append_slash h isName_nameBytes

theorem nul_not_mem_path {dir : Bytes} (h : Bytes.nul ∉ dir) : Bytes.nul ∉ path dir := by
  have hname : Bytes.nul ∉ nameBytes := by decide
  have hslash : Bytes.nul ≠ Bytes.slash := by decide
  unfold path
  split
  · simp only [List.mem_append, not_or]
    exact ⟨h, hname⟩
  · simp only [List.mem_append, List.mem_cons, not_or]
    exact ⟨h, hslash, hname⟩

theorem path_ne_nil (dir : Bytes) : path dir ≠ [] := by
  have hname : nameBytes ≠ [] := isName_nameBytes.1
  unfold path
  split <;> simp [hname]

/-! ### Opening it -/

theorem checkPath_of_sound {path : Bytes} (hnul : Bytes.nul ∉ path)
    (hlength : path.length < Path.tooLong) (hne : path ≠ []) :
    checkPath p path = if !p.canOpen then .error (.os Errno.tooManyOpen) else .ok () := by
  unfold checkPath
  rw [if_neg hnul, if_neg (Nat.not_le.mpr hlength), if_neg hne]

theorem checkPath_nameBytes :
    checkPath p nameBytes = if !p.canOpen then .error (.os Errno.tooManyOpen) else .ok () :=
  checkPath_of_sound (by decide) (by decide) isName_nameBytes.1

theorem checkPath_path {dir : Bytes} (h : Bytes.nul ∉ dir) :
    checkPath p (path dir) = .error (.os Errno.nameTooLong) ∨
      checkPath p (path dir) = checkPath p nameBytes := by
  by_cases hlength : (path dir).length < Path.tooLong
  · right
    rw [checkPath_of_sound (nul_not_mem_path h) hlength (path_ne_nil dir), checkPath_nameBytes]
  · left
    unfold checkPath
    rw [if_neg (nul_not_mem_path h), if_pos (Nat.not_lt.mp hlength)]

theorem create_of_locate_eq {d : Ino} {path path' : Bytes}
    (hcheck : checkPath p path = checkPath p path')
    (hlocate : fs.locate p.user p.cwd path = fs.locate p.user d path') :
    create fs p path = create fs { p with cwd := d } path' := by
  have hcheck' : checkPath { p with cwd := d } path' = checkPath p path' := rfl
  have hopen : ∀ place, fs.openPlace { p with cwd := d } mode place = fs.openPlace p mode place := by
    intro place
    cases place with
    | absent dir name => rfl
    | present i => rfl
  simp only [create, openTruncated, hcheck, hcheck', hlocate, hopen]

/-- A path that can be handed to the system leads the caller to a directory. -/
structure LeadsToDirectory (fs : FileSystem) (p : Caller) (dir : Bytes) (d : Ino) : Prop where
  nonempty : dir ≠ []
  nulFree : Bytes.nul ∉ dir
  reached : fs.directory p.user p.cwd dir = .ok d

theorem create_in_directory {dir : Bytes} {d : Ino} (h : LeadsToDirectory fs p dir d) :
    (∃ e, (e = Errno.nameTooLong ∨ e = Errno.linkLoop) ∧
      create fs p (path dir) = (.error (.os e), fs)) ∨
    create fs p (path dir) = create fs { p with cwd := d } nameBytes := by
  rcases checkPath_path (p := p) h.nulFree with hlong | hcheck
  · refine .inl ⟨_, .inl rfl, ?_⟩
    simp only [create, openTruncated, hlong]
  · rcases locate_below (path_below h.nonempty) isName_nameBytes h.reached with hloop | hlocate
    · cases hc : checkPath p (path dir) with
      | error c =>
        -- the check fails for both paths, and nothing is located
        right
        have hc' : checkPath { p with cwd := d } nameBytes = .error c := hcheck.symm.trans hc
        simp only [create, openTruncated, hc, hc']
      | ok u =>
        refine .inl ⟨_, .inr rfl, ?_⟩
        simp only [create, openTruncated, hc, hloop]
    · exact .inr (create_of_locate_eq hcheck hlocate)

theorem result_of_create_error {path : Bytes} {c : Cause}
    (h : create fs p path = (.error c, fs)) :
    (generateAt fs p path).result = .error (.create path c) := by
  simp only [generateAt, h]

/-- The entry points agree: without a directory, with the working directory under its own name, and
with any directory that the caller can reach, as long as the longer way is not too long. -/
theorem entry_points_agree (fs : FileSystem) (p : Caller) :
    generateIn fs p [] = generate fs p ∧
    generateIn fs p Bytes.dot = (generate fs p).shownAs (Bytes.ofText "./test.pma") ∧
    ∀ dir d, LeadsToDirectory fs p dir d →
      (∀ f, (generateIn fs p dir).result = .error f →
        f.cause.code? ≠ some Errno.nameTooLong ∧ f.cause.code? ≠ some Errno.linkLoop) →
      generateIn fs p dir = (generate fs { p with cwd := d }).shownAs (path dir) := by
  refine ⟨rfl, ?_, fun dir d h hf => ?_⟩
  · have hne : Bytes.dot ≠ [] := by decide
    have hpath : path Bytes.dot = Bytes.ofText "./test.pma" := by decide
    have hcheck : checkPath p (path Bytes.dot) = checkPath p nameBytes :=
      (checkPath_of_sound (by decide) (by decide) (by decide)).trans checkPath_nameBytes.symm
    have hcreate : create fs p (path Bytes.dot) = create fs { p with cwd := p.cwd } nameBytes :=
      create_of_locate_eq hcheck (locate_below_dot (path_below hne) isName_nameBytes p.cwd)
    rw [generateIn, generateAt_of_create_eq hcreate rfl rfl, hpath]
    rfl
  · rcases create_in_directory h with ⟨e, he, hfail⟩ | hcreate
    · obtain ⟨hlong, hloop⟩ := hf _ (result_of_create_error hfail)
      rcases he with rfl | rfl
      · exact absurd rfl hlong
      · exact absurd rfl hloop
    · exact generateAt_of_create_eq hcreate rfl rfl

/- A link in the working directory to the directory above. -/
def upward : FileSystem :=
  FileSystem.initial.addChild workplace (Bytes.ofText "up") ⟨0o777, 1, .symlink Bytes.dotDot⟩

theorem eq_ok_of_toOption {α β : Type} {x : Except α β} {b : β} (h : x.toOption = some b) :
    x = .ok b := by
  cases x with
  | error a => cases h
  | ok b' =>
    cases h
    rfl

theorem fixture_beyond_link :
    LeadsToDirectory upward (.initial .owner) (Bytes.ofText "up//work/../") 5 ∧
    (generateIn upward (.initial .owner) (Bytes.ofText "up//work/../")).result = .ok () ∧
    generateIn upward (.initial .owner) (Bytes.ofText "up//work/../") =
      (generate upward { Caller.initial .owner with cwd := 5 }).shownAs
        (path (Bytes.ofText "up//work/../")) := by
  have hlead : LeadsToDirectory upward (.initial .owner) (Bytes.ofText "up//work/../") 5 :=
    ⟨by decide +kernel, by decide +kernel, eq_ok_of_toOption (by decide +kernel)⟩
  have hok : (generateIn upward (.initial .owner) (Bytes.ofText "up//work/../")).result = .ok () :=
    eq_ok_of_toOption (by decide +kernel)
  refine ⟨hlead, hok, (entry_points_agree upward (.initial .owner)).2.2 _ _ hlead fun f hf => ?_⟩
  rw [hok] at hf
  cases hf

end Fixture

end SparseFixture
