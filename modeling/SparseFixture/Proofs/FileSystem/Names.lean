import SparseFixture.FileSystem.Resolve

/-!
# Names that are kept

When a path that leads somewhere in one file system still leads there in another. One way of
following a path is a chain of look-ups; `Turns` and `Ends` say what a look-up that succeeds has
found, and `NamesKept` says which finds of one file system are also finds of the other.
-/

namespace SparseFixture

theorem bind_eq_ok_iff {α β : Type} {x : Except Int α} {f : α → Except Int β} {b : β} :
    x >>= f = .ok b ↔ ∃ a, x = .ok a ∧ f a = .ok b := by
  constructor
  · intro h
    cases x with
    | error e => cases h
    | ok a => exact ⟨a, rfl, h⟩
  · rintro ⟨a, rfl, h⟩
    exact h

/-- What following a path can tell of a node: neither the entries of a directory, which are looked
up one by one, nor the content of a file. -/
def Node.shape : Node → Node
  | .directory _ p => .directory [] p
  | .regular _ => .regular .empty
  | n => n

namespace Node

theorem eq_directory_of_shape {n : Node} {es : List (Bytes × Ino)} {p : Ino}
    (h : n.shape = (directory es p).shape) : ∃ es', n = .directory es' p := by
  cases n with
  | directory es' q =>
    cases h
    exact ⟨es', rfl⟩
  | _ => cases h

theorem eq_symlink_of_shape {n : Node} {t : Bytes} (h : n.shape = (symlink t).shape) :
    n = .symlink t := by
  cases n with
  | symlink s => exact h
  | _ => cases h

theorem eq_regular_of_shape {n : Node} {c : Content} (h : n.shape = (regular c).shape) :
    ∃ c', n = .regular c' := by
  cases n with
  | regular c' => exact ⟨c', rfl⟩
  | _ => cases h

end Node

namespace FileSystem

/-! ### What a look-up has found -/

/-- A name that is not the final one leads on: into a directory, or along a symbolic link. -/
inductive Turns (fs : FileSystem) (dir : Ino) : Bytes → Turn → Prop
  | here : Turns fs dir Bytes.dot (.into dir)
  | up : Turns fs dir Bytes.dotDot (.into (fs.parent dir))
  | into {name : Bytes} {i p : Ino} {es : List (Bytes × Ino)} :
      name ≠ Bytes.dot → name ≠ Bytes.dotDot → fs.look dir name = .ok (some i) →
      fs.node? i = some (.directory es p) → Turns fs dir name (.into i)
  | along {name target : Bytes} {i : Ino} :
      name ≠ Bytes.dot → name ≠ Bytes.dotDot → fs.look dir name = .ok (some i) →
      fs.node? i = some (.symlink target) → Turns fs dir name (.along target)

/-- The final name of a path text is free, or that of a symbolic link, or that of anything else. -/
inductive Ends (fs : FileSystem) (dir : Ino) (name : Bytes) (left : Nat) : Arrival → Prop
  | absent : fs.look dir name = .ok none → Ends fs dir name left (.at (.absent dir name))
  | present {i : Ino} {node : Node} :
      fs.look dir name = .ok (some i) → fs.node? i = some node → (∀ t, node ≠ .symlink t) →
      Ends fs dir name left (.at (.present i))
  | link {i : Ino} {target : Bytes} :
      fs.look dir name = .ok (some i) → fs.node? i = some (.symlink target) →
      Ends fs dir name left (.link dir target left)

variable {fs fs' : FileSystem} {u : User}

theorem turn_eq_ok_iff {dir : Ino} {name : Bytes} {t : Turn} :
    fs.turn u dir name = .ok t ↔ fs.search u dir = .ok () ∧ fs.Turns dir name t := by
  unfold turn
  rw [bind_eq_ok_iff]
  constructor
  · rintro ⟨⟨⟩, hs, h⟩
    refine ⟨hs, ?_⟩
    split at h
    · next hdot =>
      cases h
      rw [hdot]
      exact .here
    · next hdot =>
      split at h
      · next hup =>
        cases h
        rw [hup]
        exact .up
      · next hup =>
        obtain ⟨found, hl, h⟩ := bind_eq_ok_iff.mp h
        cases found with
        | none => cases h
        | some i =>
          dsimp only at h
          split at h
          · next hn =>
            cases h
            exact .into hdot hup hl hn
          · next hn =>
            cases h
            exact .along hdot hup hl hn
          · cases h
          · cases h
  · rintro ⟨hs, h⟩
    refine ⟨(), hs, ?_⟩
    cases h with
    | here => rfl
    | up => rfl
    | into hdot hup hl hn =>
      rw [if_neg hdot, if_neg hup, bind_eq_ok_iff]
      exact ⟨_, hl, by simp only [hn]⟩
    | along hdot hup hl hn =>
      rw [if_neg hdot, if_neg hup, bind_eq_ok_iff]
      exact ⟨_, hl, by simp only [hn]⟩

theorem arrive_eq_ok_iff {left : Nat} {dir : Ino} {path : Bytes} {a : Arrival} :
    fs.arrive u left dir path = .ok a ↔ ∃ name d rest,
      (Path.components path).getLast? = some name ∧
      fs.walk u left (startOf dir path) (Path.components path).dropLast = .ok (d, rest) ∧
      fs.search u d = .ok () ∧
      ¬ (Bytes.endsWithSlash path ∨ name = Bytes.dot ∨ name = Bytes.dotDot) ∧
      fs.Ends d name rest a := by
  unfold arrive
  cases hlast : (Path.components path).getLast? with
  | none =>
    constructor
    · intro h
      cases h
    · rintro ⟨_, _, _, h, _⟩
      cases h
  | some name =>
    dsimp only
    rw [bind_eq_ok_iff]
    constructor
    · rintro ⟨⟨d, rest⟩, hw, h⟩
      obtain ⟨⟨⟩, hs, h⟩ := bind_eq_ok_iff.mp h
      split at h
      · cases h
      · next hname =>
        obtain ⟨found, hl, h⟩ := bind_eq_ok_iff.mp h
        refine ⟨name, d, rest, rfl, hw, hs, hname, ?_⟩
        cases found with
        | none =>
          cases h
          exact .absent hl
        | some i =>
          dsimp only at h
          split at h
          · next hn =>
            cases h
            exact .link hl hn
          · next hn hlink =>
            cases h
            exact .present hl hlink hn
          · cases h
    · rintro ⟨name', d, rest, heq, hw, hs, hname, hends⟩
      cases heq
      refine ⟨(d, rest), hw, bind_eq_ok_iff.mpr ⟨(), hs, ?_⟩⟩
      rw [if_neg hname, bind_eq_ok_iff]
      cases hends with
      | absent hl => exact ⟨none, hl, rfl⟩
      | present hl hn hlink =>
        refine ⟨_, hl, ?_⟩
        dsimp only
        split
        · next t ht =>
          rw [hn] at ht
          exact absurd (Option.some.inj ht) (hlink t)
        · rfl
        · next hnone =>
          rw [hn] at hnone
          cases hnone
      | link hl hn => exact ⟨_, hl, by simp only [hn]⟩

theorem locateFrom_of_at {hops left : Nat} {dir : Ino} {path : Bytes} {place : Place}
    (h : fs.arrive u left dir path = .ok (.at place)) :
    fs.locateFrom u hops left dir path = .ok place := by
  unfold locateFrom
  rw [h]

theorem locateFrom_of_link {hops left rest : Nat} {dir d : Ino} {path target : Bytes}
    (h : fs.arrive u left dir path = .ok (.link d target (rest + 1))) :
    fs.locateFrom u (hops + 1) left dir path = fs.locateFrom u hops rest d target := by
  rw [locateFrom, h]

theorem locateFrom_eq_ok {hops left : Nat} {dir : Ino} {path : Bytes} {place : Place}
    (h : fs.locateFrom u hops left dir path = .ok place) :
    fs.arrive u left dir path = .ok (.at place) ∨ ∃ hops' d target rest, hops = hops' + 1 ∧
      fs.arrive u left dir path = .ok (.link d target (rest + 1)) ∧
      fs.locateFrom u hops' rest d target = .ok place := by
  unfold locateFrom at h
  split at h
  · cases h
  · next ha =>
    cases h
    exact .inl ha
  · next d target rest ha =>
    split at h
    · exact .inr ⟨_, d, target, _, rfl, ha, h⟩
    · cases h

/-! ### Following a path in another file system -/

/-- Every find of one file system is also one of the other, apart from some regular files. -/
structure NamesKept (lost : Ino → Prop) (fs fs' : FileSystem) : Prop where
  search : ∀ u d, fs.search u d = .ok () → fs'.search u d = .ok ()
  parent : ∀ d, fs'.parent d = fs.parent d
  look : ∀ d x i, fs.look d x = .ok (some i) → ¬ lost i → fs'.look d x = .ok (some i)
  node : ∀ i n, fs.node? i = some n → ¬ lost i →
    ∃ n', fs'.node? i = some n' ∧ n'.shape = n.shape
  plain : ∀ i, lost i → ∃ c, fs.node? i = some (.regular c)

namespace NamesKept

variable {lost : Ino → Prop}

theorem not_lost_of_node (H : NamesKept lost fs fs') {i : Ino} {n : Node}
    (hn : fs.node? i = some n) (hc : ∀ c, n ≠ .regular c) : ¬ lost i := by
  intro hi
  obtain ⟨c, h⟩ := H.plain i hi
  rw [hn] at h
  exact hc c (Option.some.inj h)

theorem symlink (H : NamesKept lost fs fs') {dir i : Ino} {name target : Bytes}
    (hl : fs.look dir name = .ok (some i)) (hn : fs.node? i = some (.symlink target)) :
    fs'.look dir name = .ok (some i) ∧ fs'.node? i = some (.symlink target) := by
  have hi := H.not_lost_of_node hn fun c => nofun
  obtain ⟨n', hn', hs⟩ := H.node _ _ hn hi
  rw [Node.eq_symlink_of_shape hs] at hn'
  exact ⟨H.look _ _ _ hl hi, hn'⟩

theorem turns (H : NamesKept lost fs fs') {dir : Ino} {name : Bytes} {t : Turn}
    (h : fs.Turns dir name t) : fs'.Turns dir name t := by
  cases h with
  | here => exact .here
  | up =>
    rw [← H.parent dir]
    exact .up
  | into hdot hup hl hn =>
    have hi := H.not_lost_of_node hn fun c => nofun
    obtain ⟨n', hn', hs⟩ := H.node _ _ hn hi
    obtain ⟨es', rfl⟩ := Node.eq_directory_of_shape hs
    exact .into hdot hup (H.look _ _ _ hl hi) hn'
  | along hdot hup hl hn =>
    obtain ⟨hl', hn'⟩ := H.symlink hl hn
    exact .along hdot hup hl' hn'

theorem ends_link (H : NamesKept lost fs fs') {dir d : Ino} {name target : Bytes}
    {left rest : Nat} (h : fs.Ends dir name left (.link d target rest)) :
    fs'.Ends dir name left (.link d target rest) := by
  cases h with
  | link hl hn =>
    obtain ⟨hl', hn'⟩ := H.symlink hl hn
    exact .link hl' hn'

theorem turn (H : NamesKept lost fs fs') {dir : Ino} {name : Bytes} {t : Turn}
    (h : fs.turn u dir name = .ok t) : fs'.turn u dir name = .ok t := by
  obtain ⟨hs, ht⟩ := turn_eq_ok_iff.mp h
  exact turn_eq_ok_iff.mpr ⟨H.search u dir hs, H.turns ht⟩

theorem walkNames (H : NamesKept lost fs fs') {left : Nat} {r : Ino × Nat}
    {follow follow' : Ino → List Bytes → Except Int (Ino × Nat)}
    (hfollow : ∀ d xs, follow d xs = .ok r → follow' d xs = .ok r) (dir : Ino) (xs : List Bytes)
    (h : fs.walkNames u left follow dir xs = .ok r) :
    fs'.walkNames u left follow' dir xs = .ok r := by
  induction xs generalizing dir with
  | nil => exact h
  | cons x xs ih =>
    cases ht : fs.turn u dir x with
    | error e =>
      simp only [FileSystem.walkNames, ht] at h
      cases h
    | ok t =>
      simp only [FileSystem.walkNames, ht] at h
      simp only [FileSystem.walkNames, H.turn ht]
      cases t with
      | into d => exact ih d h
      | along target => exact hfollow _ _ h

theorem walk (H : NamesKept lost fs fs') (left : Nat) (dir : Ino) (xs : List Bytes)
    {r : Ino × Nat} (h : fs.walk u left dir xs = .ok r) : fs'.walk u left dir xs = .ok r := by
  induction left generalizing dir xs with
  | zero => exact H.walkNames (fun _ _ hf => hf) dir xs h
  | succ n ih => exact H.walkNames ih dir xs h

theorem arrive (H : NamesKept lost fs fs') {left : Nat} {dir : Ino} {path : Bytes} {a : Arrival}
    (h : fs.arrive u left dir path = .ok a) : ∃ d name rest, fs.Ends d name rest a ∧
      ∀ a', fs'.Ends d name rest a' → fs'.arrive u left dir path = .ok a' := by
  obtain ⟨name, d, rest, hlast, hw, hs, hname, hends⟩ := arrive_eq_ok_iff.mp h
  refine ⟨d, name, rest, hends, fun a' ha' => ?_⟩
  exact arrive_eq_ok_iff.mpr
    ⟨name, d, rest, hlast, H.walk left _ _ hw, H.search u d hs, hname, ha'⟩

/-- A path that leads somewhere comes, in both file systems, to the same final name in the same
directory; all that may differ is what this name stands for. -/
theorem locateFrom (H : NamesKept lost fs fs') {hops left : Nat} {dir : Ino} {path : Bytes}
    {place : Place} (h : fs.locateFrom u hops left dir path = .ok place) :
    ∃ d name rest, fs.Ends d name rest (.at place) ∧ ∀ place', fs'.Ends d name rest (.at place') →
      fs'.locateFrom u hops left dir path = .ok place' := by
  induction hops generalizing left dir path with
  | zero =>
    rcases locateFrom_eq_ok h with ha | ⟨_, _, _, _, hhops, _⟩
    · obtain ⟨d, name, rest, hends, ha'⟩ := H.arrive ha
      exact ⟨d, name, rest, hends, fun place' hp => locateFrom_of_at (ha' _ hp)⟩
    · cases hhops
  | succ hops ih =>
    rcases locateFrom_eq_ok h with ha | ⟨_, d, target, rest, hhops, ha, h⟩
    · obtain ⟨d, name, rest, hends, ha'⟩ := H.arrive ha
      exact ⟨d, name, rest, hends, fun place' hp => locateFrom_of_at (ha' _ hp)⟩
    · cases hhops
      obtain ⟨d', name, rest', hends, ha'⟩ := H.arrive ha
      obtain ⟨d'', name', rest'', hends', hl⟩ := ih h
      refine ⟨d'', name', rest'', hends', fun place' hp => ?_⟩
      rw [locateFrom_of_link (ha' _ (H.ends_link hends))]
      exact hl place' hp

theorem locate_present (H : NamesKept lost fs fs') {dir i : Ino} {path : Bytes}
    (h : fs.locate u dir path = .ok (.present i)) :
    lost i ∨ fs'.locate u dir path = .ok (.present i) := by
  obtain ⟨d, name, rest, hends, hl⟩ := H.locateFrom h
  by_cases hi : lost i
  · exact .inl hi
  · refine .inr (hl _ ?_)
    cases hends with
    | present hlook hn hlink =>
      obtain ⟨n', hn', hs⟩ := H.node _ _ hn hi
      refine .present (H.look _ _ _ hlook hi) hn' fun t ht => ?_
      subst ht
      exact hlink t (Node.eq_symlink_of_shape hs.symm)

theorem locate_absent (H : NamesKept lost fs fs') {dir d : Ino} {path name : Bytes}
    (h : fs.locate u dir path = .ok (.absent d name)) (hfree : fs'.look d name = .ok none) :
    fs'.locate u dir path = .ok (.absent d name) := by
  obtain ⟨d, name, rest, hends, hl⟩ := H.locateFrom h
  cases hends
  exact hl _ (.absent hfree)

theorem locate_filled (H : NamesKept lost fs fs') {dir d i : Ino} {path name : Bytes}
    {c : Content} (h : fs.locate u dir path = .ok (.absent d name))
    (hlook : fs'.look d name = .ok (some i)) (hn : fs'.node? i = some (.regular c)) :
    fs'.locate u dir path = .ok (.present i) := by
  obtain ⟨d, name, rest, hends, hl⟩ := H.locateFrom h
  cases hends
  exact hl _ (.present hlook hn fun t => nofun)

theorem refl (fs : FileSystem) : NamesKept (fun _ => False) fs fs where
  search _ _ h := h
  parent _ := rfl
  look _ _ _ h _ := h
  node _ n h _ := ⟨n, h, rfl⟩
  plain _ h := h.elim

end NamesKept

theorem look_of_locate {dir d : Ino} {path name : Bytes}
    (h : fs.locate u dir path = .ok (.absent d name)) : fs.look d name = .ok none := by
  obtain ⟨_, _, _, hends, _⟩ := (NamesKept.refl fs).locateFrom h
  cases hends with
  | absent hl => exact hl

theorem node_of_locate {dir i : Ino} {path : Bytes}
    (h : fs.locate u dir path = .ok (.present i)) :
    ∃ n, fs.node? i = some n ∧ ∀ t, n ≠ .symlink t := by
  obtain ⟨_, _, _, hends, _⟩ := (NamesKept.refl fs).locateFrom h
  cases hends with
  | present hl hn hlink => exact ⟨_, hn, hlink⟩

end FileSystem

end SparseFixture
