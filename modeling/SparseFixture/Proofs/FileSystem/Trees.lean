import Mathlib.Logic.Equiv.Basic
import SparseFixture.Proofs.FileSystem.Changes

/-!
# Trees

A file system as somebody sees it who goes from name to name: a list of names leads, from a
directory, to something of a type, a mode, a number of links and a content, or to nothing. The
numbers of the inodes are no part of this. Two new files that are made in either order change their
numbers with each other, and the tree is the same.
-/

namespace SparseFixture

namespace FileSystem

/- A symbolic link is reached itself and not followed. -/
def descend (fs : FileSystem) : Ino → List Bytes → Option Ino
  | dir, [] => some dir
  | dir, name :: names => (fs.child? dir name).bind fun i => fs.descend i names

/-- What a list of names shows from a directory on. The entries of a directory are shown by longer
lists. -/
def seen (fs : FileSystem) (dir : Ino) (names : List Bytes) : Option Inode :=
  (fs.descend dir names).bind fs.bare.inode?

/- No call makes an entry without an inode. -/
def Dangling (fs : FileSystem) (dir : Ino) (name : Bytes) : Prop :=
  ∃ i, fs.child? dir name = some i ∧ fs.inode? i = none

/-- Two file systems with a common past are the same tree: every list of names shows the same in
both, and to change the numbers of what is new makes one of the other, type, mode, links, content and
entries. -/
structure SameTree (past fs fs' : FileSystem) : Prop where
  seen : ∀ dir names, fs'.seen dir names = fs.seen dir names
  renumbered : ∃ σ : Equiv.Perm Ino, (∀ i, past.inode? i ≠ none → σ i = i) ∧
    (∀ i, fs'.bare.inode? (σ i) = fs.bare.inode? i) ∧
    ∀ dir name, ¬ past.Dangling dir name → fs'.child? (σ dir) name = (fs.child? dir name).map σ

theorem SameTree.refl (past fs : FileSystem) : SameTree past fs fs := by
  refine ⟨fun _ _ => rfl, Equiv.refl Ino, fun _ _ => rfl, fun _ => rfl, fun dir name _ => ?_⟩
  exact Option.map_id'.symm

variable {fs fs' : FileSystem}

theorem inode?_fresh_succ (fs : FileSystem) : fs.inode? (fs.fresh + 1) = none :=
  List.getElem?_eq_none (Nat.le_succ _)

theorem child?_of_none {i : Ino} (h : fs.inode? i = none) (name : Bytes) :
    fs.child? i name = none := by
  rw [child?, entries, node?, h]
  rfl

theorem ne_of_known {i j : Ino} (hi : fs.inode? i ≠ none) (hj : fs.inode? j = none) : i ≠ j := by
  intro hij
  rw [hij] at hi
  exact hi hj

/-! ### Trees that go side by side -/

theorem seen_cons (fs : FileSystem) (dir : Ino) (name : Bytes) (names : List Bytes) :
    fs.seen dir (name :: names) = (fs.child? dir name).bind fun i => fs.seen i names := by
  show ((fs.child? dir name).bind fun i => fs.descend i names).bind fs.bare.inode? = _
  rw [Option.bind_assoc]
  rfl

/-- Inodes of two file systems that are alike, and have alike inodes under every name, show the same
under every list of names. -/
theorem seen_eq_of_alike {R : Ino → Ino → Prop}
    (hinode : ∀ i j, R i j → fs'.bare.inode? j = fs.bare.inode? i)
    (hchild : ∀ i j name, R i j → Option.Rel R (fs.child? i name) (fs'.child? j name))
    {i j : Ino} (h : R i j) (names : List Bytes) : fs'.seen j names = fs.seen i names := by
  induction names generalizing i j with
  | nil => exact hinode i j h
  | cons name names ih =>
    have hrel := hchild i j name h
    rw [seen_cons, seen_cons]
    revert hrel
    generalize fs.child? i name = a
    generalize fs'.child? j name = b
    intro hrel
    cases hrel with
    | none => rfl
    | some hij => exact ih hij

/-! ### Two new files -/

namespace Addition

variable {dir dir' : Ino} {name name' : Bytes} {new : Inode}

theorem child?_eq (A : Addition fs dir name new) (d : Ino) (x : Bytes) :
    (fs.addChild dir name new).child? d x =
      if d = dir ∧ x = name then some fs.fresh else fs.child? d x := by
  unfold child?
  by_cases hd : d = dir
  · subst hd
    have hfree : (fs.entries d).lookup name = none := look_eq_ok A.free
    rw [A.entries_dir, List.lookup_append]
    by_cases hx : x = name
    · subst hx
      rw [if_pos ⟨rfl, rfl⟩, hfree, List.lookup_cons_self, Option.none_or]
    · have hnone : [(name, fs.fresh)].lookup x = none := List.lookup_eq_none_iff.mpr (by simpa using hx)
      rw [if_neg fun h => hx h.2, hnone, Option.or_none]
  · rw [if_neg fun h => hd h.1, A.entries_of_ne hd]

theorem bare_eq (A : Addition fs dir name new) (i : Ino) :
    (fs.addChild dir name new).bare.inode? i =
      if i = fs.fresh then some new.bare else fs.bare.inode? i := by
  by_cases hi : i = fs.fresh
  · rw [if_pos hi, hi, inode?_bare, A.inode?_fresh, Option.map_some]
  · rw [if_neg hi, A.bare_of_ne hi]

theorem dir_known (A : Addition fs dir name new) : fs.inode? dir ≠ none := by
  obtain ⟨m, k, es, p, hd, _⟩ := look_eq_ok_iff.mp A.free
  rw [hd]
  nofun

/-- A free name stays free when another one is given. -/
theorem after (A : Addition fs dir name new) (A' : Addition fs dir' name' new)
    (hne : ¬ (dir' = dir ∧ name' = name)) :
    Addition (fs.addChild dir name new) dir' name' new where
  free := by
    rw [A.look_eq, if_neg hne]
    exact A'.free
  regular := A'.regular
  closed := A'.closed

section Twice

variable (A : Addition fs dir name new) (A' : Addition fs dir' name' new)
  (hne : ¬ (dir' = dir ∧ name' = name))

include A A' hne

theorem child?_twice (d : Ino) (x : Bytes) :
    ((fs.addChild dir name new).addChild dir' name' new).child? d x =
      if d = dir' ∧ x = name' then some (fs.fresh + 1)
      else if d = dir ∧ x = name then some fs.fresh else fs.child? d x := by
  rw [(A.after A' hne).child?_eq, A.child?_eq, fresh_addChild]

theorem bare_twice (i : Ino) :
    ((fs.addChild dir name new).addChild dir' name' new).bare.inode? i =
      if i = fs.fresh + 1 then some new.bare
      else if i = fs.fresh then some new.bare else fs.bare.inode? i := by
  rw [(A.after A' hne).bare_eq, A.bare_eq, fresh_addChild]

theorem child?_twice_of_none {i : Ino} (h : fs.inode? i = none) (x : Bytes) :
    ((fs.addChild dir name new).addChild dir' name' new).child? i x = none := by
  have hdir : ¬ (i = dir ∧ x = name) := fun hi => ne_of_known A.dir_known h hi.1.symm
  have hdir' : ¬ (i = dir' ∧ x = name') := fun hi => ne_of_known A'.dir_known h hi.1.symm
  rw [child?_twice A A' hne, if_neg hdir', if_neg hdir, child?_of_none h]

end Twice

/- The numbers of the two new files. -/
def New (fs : FileSystem) (i : Ino) : Prop := i = fs.fresh ∨ i = fs.fresh + 1

theorem New.inode? {i : Ino} (h : New fs i) : fs.inode? i = none := by
  rcases h with rfl | rfl
  · exact FileSystem.inode?_fresh fs
  · exact inode?_fresh_succ fs

theorem New.swap {i : Ino} (h : New fs i) :
    New fs (Equiv.swap fs.fresh (fs.fresh + 1) i) := by
  rcases h with rfl | rfl
  · exact .inr (Equiv.swap_apply_left _ _)
  · exact .inl (Equiv.swap_apply_right _ _)

section Either

variable (A : Addition fs dir name new) (A' : Addition fs dir' name' new)
  (hne : ¬ (dir' = dir ∧ name' = name))

include A A' hne

theorem bare_twice_of_new {i : Ino} (h : New fs i) :
    ((fs.addChild dir name new).addChild dir' name' new).bare.inode? i = some new.bare := by
  rw [bare_twice A A' hne]
  rcases h with rfl | rfl
  · rw [if_pos rfl, ite_self]
  · rw [if_pos rfl]

theorem bare_twice_of_known {i : Ino} (h : ¬ New fs i) :
    ((fs.addChild dir name new).addChild dir' name' new).bare.inode? i = fs.bare.inode? i := by
  rw [bare_twice A A' hne, if_neg fun hi => h (.inr hi), if_neg fun hi => h (.inl hi)]

/-- Under one name the two orders lead to the two new files, or to what was there before. -/
theorem child?_either (d : Ino) (x : Bytes) :
    (∃ i j, New fs i ∧ j = Equiv.swap fs.fresh (fs.fresh + 1) i ∧
      ((fs.addChild dir name new).addChild dir' name' new).child? d x = some i ∧
      ((fs.addChild dir' name' new).addChild dir name new).child? d x = some j) ∨
    ((fs.addChild dir name new).addChild dir' name' new).child? d x = fs.child? d x ∧
      ((fs.addChild dir' name' new).addChild dir name new).child? d x = fs.child? d x := by
  have hne' : ¬ (dir = dir' ∧ name = name') := fun h => hne ⟨h.1.symm, h.2.symm⟩
  rw [child?_twice A A' hne, child?_twice A' A hne']
  by_cases h' : d = dir' ∧ x = name'
  · have h : ¬ (d = dir ∧ x = name) := fun h => hne ⟨h'.1.symm.trans h.1, h'.2.symm.trans h.2⟩
    rw [if_pos h', if_neg h, if_pos h']
    exact .inl ⟨_, _, .inr rfl, (Equiv.swap_apply_right _ _).symm, rfl, rfl⟩
  · rw [if_neg h', if_neg h']
    by_cases h : d = dir ∧ x = name
    · rw [if_pos h, if_pos h]
      exact .inl ⟨_, _, .inl rfl, (Equiv.swap_apply_left _ _).symm, rfl, rfl⟩
    · rw [if_neg h, if_neg h]
      exact .inr ⟨rfl, rfl⟩

theorem seen_either (i : Ino) (names : List Bytes) :
    ((fs.addChild dir' name' new).addChild dir name new).seen i names =
      ((fs.addChild dir name new).addChild dir' name' new).seen i names := by
  have hne' : ¬ (dir = dir' ∧ name = name') := fun h => hne ⟨h.1.symm, h.2.symm⟩
  -- two inodes are alike if they are the same or if both are new
  refine seen_eq_of_alike (R := fun i j => i = j ∨ New fs i ∧ New fs j) ?_ ?_ (.inl rfl) names
  · rintro i j (rfl | ⟨hi, hj⟩)
    · by_cases hi : New fs i
      · rw [bare_twice_of_new A A' hne hi, bare_twice_of_new A' A hne' hi]
      · rw [bare_twice_of_known A A' hne hi, bare_twice_of_known A' A hne' hi]
    · rw [bare_twice_of_new A A' hne hi, bare_twice_of_new A' A hne' hj]
  · rintro i j x (rfl | ⟨hi, hj⟩)
    · rcases child?_either A A' hne i x with ⟨k, l, hk, hl, hone, hother⟩ | ⟨hone, hother⟩
      · rw [hone, hother, hl]
        exact .some (.inr ⟨hk, hk.swap⟩)
      · rw [hone, hother]
        cases fs.child? i x with
        | none => exact .none
        | some k => exact .some (.inl rfl)
    · rw [child?_twice_of_none A A' hne hi.inode?, child?_twice_of_none A' A hne' hj.inode?]
      exact .none

/-- Made in either order, two files differ in their numbers only. -/
theorem sameTree_either :
    SameTree fs ((fs.addChild dir name new).addChild dir' name' new)
      ((fs.addChild dir' name' new).addChild dir name new) := by
  have hne' : ¬ (dir = dir' ∧ name = name') := fun h => hne ⟨h.1.symm, h.2.symm⟩
  have hold : ∀ i, ¬ New fs i → Equiv.swap fs.fresh (fs.fresh + 1) i = i := fun i hi =>
    Equiv.swap_apply_of_ne_of_ne (fun h => hi (.inl h)) (fun h => hi (.inr h))
  have hknown : ∀ i, fs.inode? i ≠ none → ¬ New fs i := fun i hi hnew => hi hnew.inode?
  refine ⟨seen_either A A' hne, Equiv.swap fs.fresh (fs.fresh + 1), fun i hi => hold i (hknown i hi),
    fun i => ?_, fun d x hsound => ?_⟩
  · by_cases hi : New fs i
    · rw [bare_twice_of_new A A' hne hi, bare_twice_of_new A' A hne' hi.swap]
    · rw [hold i hi, bare_twice_of_known A A' hne hi, bare_twice_of_known A' A hne' hi]
  · by_cases hd : New fs d
    · rw [child?_twice_of_none A' A hne' hd.swap.inode?, child?_twice_of_none A A' hne hd.inode?]
      rfl
    · rw [hold d hd]
      rcases child?_either A A' hne d x with ⟨k, l, hk, hl, hone, hother⟩ | ⟨hone, hother⟩
      · rw [hone, hother, hl, Option.map_some]
      · rw [hone, hother]
        cases hk : fs.child? d x with
        | none => rfl
        | some k =>
          have hk' : fs.inode? k ≠ none := fun hnone => hsound ⟨k, hk, hnone⟩
          rw [Option.map_some, hold k (hknown k hk')]

end Either

end Addition

end FileSystem

end SparseFixture
