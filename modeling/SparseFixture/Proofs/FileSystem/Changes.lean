import SparseFixture.FileSystem.Calls
import SparseFixture.Proofs.FileSystem.Names

/-!
# Changes and the paths that survive them

Two changes happen to a file system when a file is written: a regular file gets another content, or
a new regular file gets a name that was free. The first keeps the outline of the file system, and
with it every path. The second keeps every path but those that led to the free name.
-/

namespace SparseFixture

namespace Mode

theorem has_and_access {bits : Mode} (h : access &&& bits = bits) (m : Mode) :
    (m &&& access).has bits = m.has bits := by
  unfold has
  rw [BitVec.and_assoc, h]

theorem without_and (m mask bits : Mode) :
    m.without mask &&& bits = (m &&& bits).without mask := by
  unfold without
  rw [BitVec.and_assoc, BitVec.and_comm (~~~mask), ← BitVec.and_assoc]

theorem not_has_without {m bits : Mode} (h : m.has bits = false) (mask : Mode) :
    (m.without mask).has bits = false := by
  simp only [has, bne_eq_false_iff_eq] at h ⊢
  rw [without_and, h]
  exact BitVec.zero_and

theorem without_of_disjoint {m mask : Mode} (h : m &&& mask = 0) : m.without mask = m := by
  apply BitVec.eq_of_getLsbD_eq
  intro i hi
  have hbit : (m &&& mask).getLsbD i = false := by
    rw [h]
    exact BitVec.getLsbD_zero
  simp only [BitVec.getLsbD_and] at hbit
  simp only [without, BitVec.getLsbD_and, BitVec.getLsbD_not]
  grind

theorem withoutSetId_of_disjoint {m : Mode} (h : m &&& (setUser ||| setGroup) = 0) :
    m.withoutSetId = m := by
  have huser : (setUser ||| setGroup) &&& setUser = setUser := by decide
  unfold withoutSetId
  split
  · exact without_of_disjoint h
  · apply without_of_disjoint
    rw [← huser, ← BitVec.and_assoc, h]
    exact BitVec.zero_and

end Mode

/-! ### Outlines -/

def Node.outline : Node → Node
  | .regular _ => .regular .empty
  | n => n

theorem Node.shape_eq_of_outline {n n' : Node} (h : n'.outline = n.outline) :
    n'.shape = n.shape := by
  cases n <;> cases n' <;> simp_all [outline, shape]

/-- An inode without the entries that it may have as a directory. -/
def Inode.bare (inode : Inode) : Inode := inode.mapEntries fun _ => []

theorem Inode.bare_mapEntries (f : List (Bytes × Ino) → List (Bytes × Ino)) (inode : Inode) :
    (inode.mapEntries f).bare = inode.bare := by
  rcases inode with ⟨m, k, n⟩
  cases n <;> rfl

theorem Inode.mode_bare (inode : Inode) : inode.bare.mode = inode.mode := by
  rcases inode with ⟨m, k, n⟩
  cases n <;> rfl

theorem Inode.links_bare (inode : Inode) : inode.bare.links = inode.links := by
  rcases inode with ⟨m, k, n⟩
  cases n <;> rfl

theorem Inode.shape_bare (inode : Inode) : inode.bare.node.shape = inode.node.shape := by
  rcases inode with ⟨m, k, n⟩
  cases n <;> rfl

/-- All of an inode but the content of a regular file and the set-id bits. -/
def Inode.outline (inode : Inode) : Inode :=
  ⟨inode.mode &&& Mode.access, inode.links, inode.node.outline⟩

namespace FileSystem

def mapInodes (f : Inode → Inode) (fs : FileSystem) : FileSystem := ⟨fs.inodes.map f⟩

def outline (fs : FileSystem) : FileSystem := fs.mapInodes Inode.outline

def bare (fs : FileSystem) : FileSystem := fs.mapInodes Inode.bare

variable {fs fs' : FileSystem}

theorem inode?_mapInodes (f : Inode → Inode) (fs : FileSystem) (i : Ino) :
    (fs.mapInodes f).inode? i = (fs.inode? i).map f := by
  simp only [mapInodes, inode?, List.getElem?_map]

theorem inode?_outline (fs : FileSystem) (i : Ino) :
    fs.outline.inode? i = (fs.inode? i).map Inode.outline :=
  inode?_mapInodes Inode.outline fs i

theorem inode?_bare (fs : FileSystem) (i : Ino) :
    fs.bare.inode? i = (fs.inode? i).map Inode.bare :=
  inode?_mapInodes Inode.bare fs i

theorem node?_outline (fs : FileSystem) (i : Ino) :
    fs.outline.node? i = (fs.node? i).map Node.outline := by
  simp only [node?, inode?_outline, Option.map_map]
  rfl

theorem fresh_outline (fs : FileSystem) : fs.outline.fresh = fs.fresh := by
  simp only [outline, mapInodes, fresh, List.length_map]

theorem mode_outline (fs : FileSystem) (i : Ino) :
    fs.outline.mode i = fs.mode i &&& Mode.access := by
  simp only [mode, inode?_outline]
  cases fs.inode? i with
  | none => rfl
  | some inode => rfl

theorem entries_outline (fs : FileSystem) (d : Ino) : fs.outline.entries d = fs.entries d := by
  simp only [entries, node?_outline]
  rcases fs.node? d with _ | n
  · rfl
  · cases n <;> rfl

theorem parent_outline (fs : FileSystem) (d : Ino) : fs.outline.parent d = fs.parent d := by
  simp only [parent, node?_outline]
  rcases fs.node? d with _ | n
  · rfl
  · cases n <;> rfl

theorem may_outline {bits : Mode} (h : Mode.access &&& bits = bits) (fs : FileSystem) (u : User)
    (i : Ino) : u.may bits (fs.outline.mode i) = u.may bits (fs.mode i) := by
  simp only [User.may, mode_outline, Mode.has_and_access h]

theorem search_outline (fs : FileSystem) (u : User) (d : Ino) :
    fs.outline.search u d = fs.search u d := by
  simp only [search, may_outline (by decide : Mode.access &&& Mode.ownerSearch = Mode.ownerSearch)]

theorem look_outline (fs : FileSystem) (d : Ino) (x : Bytes) :
    fs.outline.look d x = fs.look d x := by
  simp only [look, inode?_outline]
  rcases fs.inode? d with _ | ⟨m, k, n⟩
  · rfl
  · cases n <;> rfl

theorem namesKept_of_outline (h : fs'.outline = fs.outline) :
    NamesKept (fun _ => False) fs fs' where
  search u d hs := by
    rw [← search_outline, h, search_outline]
    exact hs
  parent d := by rw [← parent_outline, h, parent_outline]
  look d x i hl _ := by
    rw [← look_outline, h, look_outline]
    exact hl
  node i n hn _ := by
    have ho : (fs'.node? i).map Node.outline = some n.outline := by
      rw [← node?_outline, h, node?_outline, hn]
      rfl
    obtain ⟨n', hn', heq⟩ := Option.map_eq_some_iff.mp ho
    exact ⟨n', hn', Node.shape_eq_of_outline heq⟩
  plain _ hi := hi.elim

theorem locate_of_outline (h : fs'.outline = fs.outline) {u : User} {dir : Ino} {path : Bytes}
    {place : Place} (hl : fs.locate u dir path = .ok place) :
    fs'.locate u dir path = .ok place := by
  have H := namesKept_of_outline h
  cases place with
  | present i => exact (H.locate_present hl).resolve_left id
  | absent d name =>
    refine H.locate_absent hl ?_
    rw [← look_outline, h, look_outline]
    exact look_of_locate hl

theorem ext_inode? (h : ∀ i, fs.inode? i = fs'.inode? i) : fs = fs' := by
  cases fs
  cases fs'
  exact congrArg FileSystem.mk (List.ext_getElem? h)

theorem fresh_modify (fs : FileSystem) (i : Ino) (f : Inode → Inode) :
    (fs.modify i f).fresh = fs.fresh := by
  simp only [modify, fresh, List.length_modify]

theorem fresh_addChild (fs : FileSystem) (dir : Ino) (name : Bytes) (new : Inode) :
    (fs.addChild dir name new).fresh = fs.fresh + 1 := by
  rw [addChild, enter, fresh_modify]
  simp only [add, fresh, List.length_append, List.length_singleton]

theorem modify_modify (fs : FileSystem) (i : Ino) (f g : Inode → Inode) :
    (fs.modify i f).modify i g = fs.modify i (g ∘ f) := by
  rw [modify, modify, modify, List.modify_modify_eq]

theorem modify_congr {i : Ino} {f g : Inode → Inode}
    (h : ∀ inode, fs.inode? i = some inode → f inode = g inode) : fs.modify i f = fs.modify i g := by
  apply ext_inode?
  intro j
  rw [inode?_modify, inode?_modify]
  split
  · next hij =>
    subst hij
    cases hi : fs.inode? i with
    | none => rfl
    | some inode => exact congrArg some (h inode hi)
  · rfl

theorem modify_eq_self {i : Ino} {f : Inode → Inode}
    (h : ∀ inode, fs.inode? i = some inode → f inode = inode) : fs.modify i f = fs := by
  rw [modify_congr (g := id) h]
  apply ext_inode?
  intro j
  rw [inode?_modify, Option.map_id]
  exact ite_self _

theorem modify_comm {i j : Ino} {f g : Inode → Inode} (h : i = j → ∀ inode, f (g inode) = g (f inode)) :
    (fs.modify i f).modify j g = (fs.modify j g).modify i f := by
  apply ext_inode?
  intro k
  simp only [inode?_modify]
  by_cases hi : i = k
  · by_cases hj : j = k
    · simp only [if_pos hi, if_pos hj, Option.map_map]
      refine congrArg (Option.map · _) (funext fun inode => ?_)
      exact (h (hi.trans hj.symm) inode).symm
    · simp only [if_pos hi, if_neg hj]
  · simp only [if_neg hi]

theorem add_modify {i : Ino} (hi : i ≠ fs.fresh) (f : Inode → Inode) (new : Inode) :
    (fs.modify i f).add new = (fs.add new).modify i f := by
  apply ext_inode?
  intro k
  rw [inode?_add, fresh_modify, inode?_modify, inode?_modify, inode?_add]
  by_cases hk : k = fs.fresh
  · have hik : i ≠ k := fun h => hi (h.trans hk)
    simp only [if_pos hk, if_neg hik]
  · simp only [if_neg hk]

theorem outline_modify {i : Ino} {f : Inode → Inode}
    (hf : ∀ inode, fs.inode? i = some inode → (f inode).outline = inode.outline) :
    (fs.modify i f).outline = fs.outline := by
  apply ext_inode?
  intro j
  rw [inode?_outline, inode?_outline, inode?_modify]
  split
  · next hij =>
    subst hij
    cases hi : fs.inode? i with
    | none => rfl
    | some inode => exact congrArg some (hf inode hi)
  · rfl

/-! ### Entries apart -/

theorem mode_bare (fs : FileSystem) (i : Ino) : fs.bare.mode i = fs.mode i := by
  simp only [mode, inode?_bare, Option.map_map]
  have hbare : Inode.mode ∘ Inode.bare = Inode.mode := funext Inode.mode_bare
  rw [hbare]

theorem parent_bare (fs : FileSystem) (i : Ino) : fs.bare.parent i = fs.parent i := by
  simp only [parent, node?, inode?_bare]
  rcases fs.inode? i with _ | ⟨m, k, n⟩
  · rfl
  · cases n <;> rfl

section Bare

variable {i : Ino} (h : fs'.bare.inode? i = fs.bare.inode? i)

include h

theorem mode_of_bare : fs'.mode i = fs.mode i := by
  rw [← mode_bare fs', ← mode_bare fs, mode, mode, h]

theorem parent_of_bare : fs'.parent i = fs.parent i := by
  rw [← parent_bare fs', ← parent_bare fs, parent, parent, node?, node?, h]

theorem exists_of_bare {inode : Inode} (hi : fs.inode? i = some inode) :
    ∃ inode', fs'.inode? i = some inode' ∧ inode'.bare = inode.bare := by
  rw [inode?_bare, inode?_bare, hi] at h
  exact Option.map_eq_some_iff.mp h

theorem node_of_bare {n : Node} (hn : fs.node? i = some n) :
    ∃ n', fs'.node? i = some n' ∧ n'.shape = n.shape := by
  obtain ⟨inode, hi, rfl⟩ := Option.map_eq_some_iff.mp hn
  obtain ⟨inode', hi', hb⟩ := exists_of_bare h hi
  refine ⟨inode'.node, by rw [node?, hi', Option.map_some], ?_⟩
  rw [← Inode.shape_bare, hb, Inode.shape_bare]

end Bare

/-! ### A new file -/

theorem look_eq_ok_iff {d : Ino} {x : Bytes} {r : Option Ino} :
    fs.look d x = .ok r ↔ ∃ m k es p, fs.inode? d = some ⟨m, k, .directory es p⟩ ∧ k ≠ 0 ∧
      x.length ≤ Path.maxName ∧ es.lookup x = r := by
  constructor
  · intro h
    unfold look at h
    split at h
    · next m k es p hd =>
      split at h
      · cases h
      · next hk =>
        split at h
        · cases h
        · next hlen =>
          cases h
          exact ⟨m, k, es, p, hd, hk, Nat.le_of_not_lt hlen, rfl⟩
    · cases h
  · rintro ⟨m, k, es, p, hd, hk, hlen, rfl⟩
    simp only [look, hd, if_neg hk, if_neg (Nat.not_lt.mpr hlen)]

/-- A regular file that nobody can search, about to get a name that is free. -/
structure Addition (fs : FileSystem) (dir : Ino) (name : Bytes) (new : Inode) : Prop where
  free : fs.look dir name = .ok none
  regular : ∃ c, new.node = .regular c
  closed : new.mode.has Mode.ownerSearch = false

namespace Addition

variable {dir : Ino} {name : Bytes} {new : Inode}

theorem ne_fresh (A : Addition fs dir name new) : dir ≠ fs.fresh := by
  intro h
  obtain ⟨m, k, es, p, hd, _⟩ := look_eq_ok_iff.mp A.free
  rw [h, inode?_fresh] at hd
  cases hd

theorem inode?_fresh (A : Addition fs dir name new) :
    (fs.addChild dir name new).inode? fs.fresh = some new := by
  rw [addChild, enter, inode?_modify_of_ne _ A.ne_fresh, inode?_add, if_pos rfl]

theorem inode?_dir (A : Addition fs dir name new) : (fs.addChild dir name new).inode? dir =
    (fs.inode? dir).map (Inode.mapEntries (· ++ [(name, fs.fresh)])) := by
  rw [addChild, enter, inode?_modify, if_pos rfl, inode?_add, if_neg A.ne_fresh]

theorem inode?_of_ne (new : Inode) {i : Ino} (hd : i ≠ dir) (hi : i ≠ fs.fresh) :
    (fs.addChild dir name new).inode? i = fs.inode? i := by
  rw [addChild, enter, inode?_modify_of_ne _ (Ne.symm hd), inode?_add, if_neg hi]

theorem withContent (A : Addition fs dir name new) (c : Content) :
    Addition fs dir name { new with node := .regular c } :=
  ⟨A.free, ⟨c, rfl⟩, A.closed⟩

/-- To fill a new file is to make it with that content at once. -/
theorem fill (A : Addition fs dir name new) (c : Content) :
    (fs.addChild dir name new).modify fs.fresh (Inode.withObject (.regular c)) =
      fs.addChild dir name { new with node := .regular c } := by
  apply ext_inode?
  intro j
  rw [inode?_modify]
  split
  · next hj =>
    subst hj
    obtain ⟨c', hc'⟩ := A.regular
    rw [A.inode?_fresh, (A.withContent c).inode?_fresh]
    simp only [Option.map_some, Inode.withObject, hc']
  · next hj =>
    by_cases hd : j = dir
    · subst hd
      rw [A.inode?_dir, (A.withContent c).inode?_dir]
    · rw [inode?_of_ne new hd (Ne.symm hj), inode?_of_ne _ hd (Ne.symm hj)]

theorem node?_fresh (A : Addition fs dir name new) :
    ∃ c, (fs.addChild dir name new).node? fs.fresh = some (.regular c) := by
  obtain ⟨c, hc⟩ := A.regular
  exact ⟨c, by rw [node?, A.inode?_fresh, Option.map_some, hc]⟩

theorem look_eq (A : Addition fs dir name new) (d : Ino) (x : Bytes) :
    (fs.addChild dir name new).look d x =
      if d = dir ∧ x = name then .ok (some fs.fresh) else fs.look d x := by
  obtain ⟨m, k, es, p, hd, hk, hlen, hfree⟩ := look_eq_ok_iff.mp A.free
  by_cases hdir : d = dir
  · subst hdir
    have hd' : (fs.addChild d name new).inode? d =
        some ⟨m, k, .directory (es ++ [(name, fs.fresh)]) p⟩ := by
      rw [A.inode?_dir, hd]
      rfl
    by_cases hx : x = name
    · subst hx
      rw [if_pos ⟨rfl, rfl⟩, look_eq_ok_iff]
      refine ⟨m, k, _, p, hd', hk, hlen, ?_⟩
      rw [List.lookup_append, hfree, List.lookup_cons_self]
      rfl
    · rw [if_neg fun h => hx h.2]
      have hnone : [(name, fs.fresh)].lookup x = none := List.lookup_eq_none_iff.mpr (by simpa using hx)
      have hlook : (es ++ [(name, fs.fresh)]).lookup x = es.lookup x := by
        rw [List.lookup_append, hnone, Option.or_none]
      simp only [look, hd, hd', hlook]
  · rw [if_neg fun h => hdir h.1]
    by_cases hi : d = fs.fresh
    · obtain ⟨c, hc⟩ := A.regular
      subst hi
      have hnew : new = ⟨new.mode, new.links, .regular c⟩ := by rw [← hc]
      rw [look, A.inode?_fresh, hnew, look, FileSystem.inode?_fresh]
    · simp only [look, inode?_of_ne new hdir hi]

theorem bare_of_ne (A : Addition fs dir name new) {i : Ino} (hi : i ≠ fs.fresh) :
    (fs.addChild dir name new).bare.inode? i = fs.bare.inode? i := by
  rw [inode?_bare, inode?_bare]
  by_cases hd : i = dir
  · subst hd
    rw [A.inode?_dir, Option.map_map]
    exact congrArg (Option.map · _) (funext fun inode => Inode.bare_mapEntries _ inode)
  · rw [inode?_of_ne new hd hi]

theorem entries_dir (A : Addition fs dir name new) :
    (fs.addChild dir name new).entries dir = fs.entries dir ++ [(name, fs.fresh)] := by
  obtain ⟨m, k, es, p, hd, _⟩ := look_eq_ok_iff.mp A.free
  simp only [entries, node?, A.inode?_dir, hd, Option.map_some, Inode.mapEntries]

theorem entries_of_ne (A : Addition fs dir name new) {d : Ino} (hd : d ≠ dir) :
    (fs.addChild dir name new).entries d = fs.entries d := by
  by_cases hi : d = fs.fresh
  · obtain ⟨c, hc⟩ := A.node?_fresh
    subst hi
    rw [entries, hc, entries, node?, FileSystem.inode?_fresh]
    rfl
  · simp only [entries, node?, inode?_of_ne new hd hi]

theorem search_eq (A : Addition fs dir name new) (u : User) (d : Ino) :
    (fs.addChild dir name new).search u d = fs.search u d := by
  by_cases hi : d = fs.fresh
  · have hnew : (fs.addChild dir name new).mode d = new.mode := by
      rw [mode, hi, A.inode?_fresh]
      rfl
    have hold : fs.mode d = 0 := by
      rw [mode, hi, FileSystem.inode?_fresh]
      rfl
    have hzero : (0 : Mode).has Mode.ownerSearch = false := by decide
    simp only [search, User.may, hnew, hold, A.closed, hzero]
  · simp only [search, mode_of_bare (A.bare_of_ne hi)]

theorem parent_eq (A : Addition fs dir name new) (d : Ino) :
    (fs.addChild dir name new).parent d = fs.parent d := by
  by_cases hi : d = fs.fresh
  · obtain ⟨c, hc⟩ := A.node?_fresh
    subst hi
    rw [parent, hc, parent, node?, FileSystem.inode?_fresh]
    rfl
  · exact parent_of_bare (A.bare_of_ne hi)

theorem ne_fresh_of_node {i : Ino} {n : Node} (h : fs.node? i = some n) : i ≠ fs.fresh := by
  intro hi
  rw [hi, node?, FileSystem.inode?_fresh] at h
  cases h

theorem namesKept (A : Addition fs dir name new) :
    NamesKept (fun _ => False) fs (fs.addChild dir name new) where
  search u d h := by rw [A.search_eq, h]
  parent := A.parent_eq
  look d x i h _ := by
    rw [A.look_eq, if_neg]
    · exact h
    · rintro ⟨rfl, rfl⟩
      rw [A.free] at h
      cases h
  node i n h _ := node_of_bare (A.bare_of_ne (ne_fresh_of_node h)) h
  plain _ h := h.elim

theorem namesKept_before (A : Addition fs dir name new) :
    NamesKept (· = fs.fresh) (fs.addChild dir name new) fs where
  search u d h := by rw [← A.search_eq, h]
  parent d := (A.parent_eq d).symm
  look d x i h hi := by
    rw [A.look_eq] at h
    split at h
    · cases h
      exact absurd rfl hi
    · exact h
  node i n h hi := node_of_bare (A.bare_of_ne hi).symm h
  plain _ h := by
    rw [h]
    exact A.node?_fresh

theorem locate_fresh (A : Addition fs dir name new) {u : User} {d : Ino} {path : Bytes}
    (h : fs.locate u d path = .ok (.absent dir name)) :
    (fs.addChild dir name new).locate u d path = .ok (.present fs.fresh) := by
  obtain ⟨c, hc⟩ := A.node?_fresh
  exact A.namesKept.locate_filled h (by rw [A.look_eq, if_pos ⟨rfl, rfl⟩]) hc

theorem locate_before (A : Addition fs dir name new) {u : User} {d : Ino} {path : Bytes}
    {place : Place} (h : (fs.addChild dir name new).locate u d path = .ok place) :
    place = .present fs.fresh ∨ fs.locate u d path = .ok place := by
  cases place with
  | present i =>
    rcases A.namesKept_before.locate_present h with hi | hl
    · exact .inl (congrArg Place.present hi)
    · exact .inr hl
  | absent e x =>
    refine .inr (A.namesKept_before.locate_absent h ?_)
    have hl := look_of_locate h
    rw [A.look_eq] at hl
    split at hl
    · cases hl
    · exact hl

end Addition

end FileSystem

end SparseFixture
