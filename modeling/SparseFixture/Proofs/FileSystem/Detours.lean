import SparseFixture.Proofs.FileSystem.Names

/-!
# Ways through a directory

To follow a path that ends in a name below a directory is to go to the directory and to follow the
name from there. The links on the way to the directory have then been counted already, so fewer are
left than for the name alone. This matters only to a way that runs out of links: any other way is
the same, however many more are left.
-/

namespace SparseFixture

namespace Path

/-- A single name: it is not empty and holds no slash. -/
def IsName (name : Bytes) : Prop := name ≠ [] ∧ Bytes.slash ∉ name

theorem components_append_slash (xs ys : Bytes) :
    components (xs ++ Bytes.slash :: ys) = components xs ++ components ys := by
  unfold components
  rw [List.splitOn_append_cons_self, List.filter_append]

theorem components_nil : components [] = [] := by
  unfold components
  rw [List.splitOn_nil]
  rfl

theorem components_of_isName {name : Bytes} (h : IsName name) : components name = [name] := by
  unfold components
  rw [List.splitOn_eq_singleton h.2]
  exact List.filter_eq_self.mpr (by simpa using h.1)

theorem not_isAbsolute_of_isName {name : Bytes} (h : IsName name) : isAbsolute name = false := by
  cases name with
  | nil => rfl
  | cons b bs =>
    have hb : b ≠ Bytes.slash := by
      intro hslash
      apply h.2
      rw [hslash]
      exact List.mem_cons_self
    simpa [isAbsolute] using hb

/-- A path that leads to a name below what another path leads to. -/
structure Below (dir name path : Bytes) : Prop where
  names : components path = components dir ++ [name]
  absolute : isAbsolute path = isAbsolute dir
  unslashed : Bytes.endsWithSlash path = Bytes.endsWithSlash name

theorem endsWithSlash_append_slash (xs : Bytes) {name : Bytes} (h : name ≠ []) :
    Bytes.endsWithSlash (xs ++ Bytes.slash :: name) = Bytes.endsWithSlash name := by
  have hlast : name.getLast? = some (name.getLast h) := List.getLast?_eq_some_getLast h
  unfold Bytes.endsWithSlash
  rw [List.getLast?_append, List.getLast?_cons, hlast]
  rfl

theorem isAbsolute_append {xs : Bytes} (h : xs ≠ []) (ys : Bytes) :
    isAbsolute (xs ++ ys) = isAbsolute xs := by
  cases xs with
  | nil => exact absurd rfl h
  | cons b bs => rfl

theorem below_append_slash {dir name : Bytes} (hdir : dir ≠ []) (hname : IsName name) :
    Below dir name (dir ++ Bytes.slash :: name) where
  names := by rw [components_append_slash, components_of_isName hname]
  absolute := isAbsolute_append hdir _
  unslashed := endsWithSlash_append_slash dir hname.1

theorem below_append_of_slash {dir name : Bytes} (hdir : Bytes.endsWithSlash dir = true)
    (hname : IsName name) : Below dir name (dir ++ name) := by
  have hlast : dir.getLast? = some Bytes.slash := by simpa [Bytes.endsWithSlash] using hdir
  obtain ⟨xs, rfl⟩ := List.getLast?_eq_some_iff.mp hlast
  have happend : xs ++ [Bytes.slash] ++ name = xs ++ Bytes.slash :: name := by
    rw [List.append_assoc, List.singleton_append]
  refine ⟨?_, isAbsolute_append (by simp) name, ?_⟩
  · rw [happend, components_append_slash, components_append_slash, components_nil,
      List.append_nil, components_of_isName hname]
  · rw [happend, endsWithSlash_append_slash xs hname.1]

end Path

namespace FileSystem

variable {fs : FileSystem} {u : User}

/-! ### Through the directory -/

theorem walk_nil (left : Nat) (dir : Ino) : fs.walk u left dir [] = .ok (dir, left) := by
  cases left with
  | zero => rfl
  | succ n => rfl

theorem startOf_of_isName {name : Bytes} (h : Path.IsName name) (dir : Ino) :
    startOf dir name = dir := by
  rw [startOf, Path.not_isAbsolute_of_isName h]
  rfl

theorem arrive_below {dir name path : Bytes} (h : Path.Below dir name path)
    (hname : Path.IsName name) (left : Nat) (cwd : Ino) :
    fs.arrive u left cwd path =
      (fs.walk u left (startOf cwd dir) (Path.components dir)).bind
        fun (d, rest) => fs.arrive u rest d name := by
  have hstart : startOf cwd path = startOf cwd dir := by rw [startOf, startOf, h.absolute]
  have hlast : (Path.components path).getLast? = some name := by
    rw [h.names, List.getLast?_concat]
  have hfirst : (Path.components path).dropLast = Path.components dir := by
    rw [h.names, List.dropLast_concat]
  simp only [arrive, hlast, hfirst, hstart, Path.components_of_isName hname, startOf_of_isName hname,
    h.unslashed, List.getLast?_singleton, List.dropLast_singleton, walk_nil]
  cases fs.walk u left (startOf cwd dir) (Path.components dir) with
  | error e => rfl
  | ok r => rfl

theorem locateFrom_congr {hops left left' : Nat} {dir dir' : Ino} {path path' : Bytes}
    (h : fs.arrive u left dir path = fs.arrive u left' dir' path') :
    fs.locateFrom u hops left dir path = fs.locateFrom u hops left' dir' path' := by
  rw [locateFrom, locateFrom, h]

theorem locateFrom_below {dir name path : Bytes} (h : Path.Below dir name path)
    (hname : Path.IsName name) {hops left rest : Nat} {cwd d : Ino}
    (hw : fs.walk u left (startOf cwd dir) (Path.components dir) = .ok (d, rest)) :
    fs.locateFrom u hops left cwd path = fs.locateFrom u hops rest d name := by
  apply locateFrom_congr
  rw [arrive_below h hname, hw]
  rfl

/-! ### More links -/

def gain (k : Nat) (r : Ino × Nat) : Ino × Nat := (r.1, r.2 + k)

theorem walkNames_more {left k : Nat} {follow follow' : Ino → List Bytes → Except Int (Ino × Nat)}
    (hfollow : ∀ d xs, follow d xs ≠ .error Errno.linkLoop →
      follow' d xs = (follow d xs).map (gain k)) (dir : Ino) (xs : List Bytes)
    (h : fs.walkNames u left follow dir xs ≠ .error Errno.linkLoop) :
    fs.walkNames u (left + k) follow' dir xs =
      (fs.walkNames u left follow dir xs).map (gain k) := by
  induction xs generalizing dir with
  | nil => rfl
  | cons x xs ih =>
    cases ht : fs.turn u dir x with
    | error e =>
      simp only [walkNames, ht]
      rfl
    | ok t =>
      simp only [walkNames, ht] at h ⊢
      cases t with
      | into d => exact ih d h
      | along target => exact hfollow _ _ h

theorem walk_more (k left : Nat) (dir : Ino) (xs : List Bytes)
    (h : fs.walk u left dir xs ≠ .error Errno.linkLoop) :
    fs.walk u (left + k) dir xs = (fs.walk u left dir xs).map (gain k) := by
  induction left generalizing dir xs with
  | zero =>
    -- without a link left, every link is one too many
    have hstop : ∀ (follow : Ino → List Bytes → Except Int (Ino × Nat)) d ys,
        (.error Errno.linkLoop : Except Int (Ino × Nat)) ≠ .error Errno.linkLoop →
        follow d ys = (.error Errno.linkLoop : Except Int (Ino × Nat)).map (gain k) :=
      fun _ _ _ hne => absurd rfl hne
    cases k with
    | zero => exact walkNames_more (hstop _) dir xs h
    | succ k =>
      have hmore := walkNames_more (hstop (fs.walk u k)) dir xs h
      rw [Nat.zero_add] at hmore ⊢
      exact hmore
  | succ n ih =>
    have hmore : fs.walkNames u (n + 1 + k) (fs.walk u (n + k)) dir xs = _ :=
      walkNames_more ih dir xs h
    have hsum : n + 1 + k = (n + k) + 1 := by omega
    rw [hsum] at hmore ⊢
    exact hmore

theorem walkNames_left_le {left : Nat} {follow : Ino → List Bytes → Except Int (Ino × Nat)}
    (hfollow : ∀ d xs r, follow d xs = .ok r → r.2 ≤ left) {dir : Ino} {xs : List Bytes}
    {r : Ino × Nat} (h : fs.walkNames u left follow dir xs = .ok r) : r.2 ≤ left := by
  induction xs generalizing dir with
  | nil =>
    cases h
    exact Nat.le_refl left
  | cons x xs ih =>
    cases ht : fs.turn u dir x with
    | error e =>
      simp only [walkNames, ht] at h
      cases h
    | ok t =>
      simp only [walkNames, ht] at h
      cases t with
      | into d => exact ih h
      | along target => exact hfollow _ _ _ h

theorem walk_left_le {left : Nat} {dir : Ino} {xs : List Bytes} {r : Ino × Nat}
    (h : fs.walk u left dir xs = .ok r) : r.2 ≤ left := by
  induction left generalizing dir xs r with
  | zero => exact walkNames_left_le (fun _ _ _ hf => by cases hf) h
  | succ n ih => exact walkNames_left_le (fun _ _ _ hf => Nat.le_succ_of_le (ih hf)) h

def Arrival.gain (k : Nat) : Arrival → Arrival
  | .at place => .at place
  | .link d target left => .link d target (left + k)

theorem arrive_more (k : Nat) {left : Nat} {dir : Ino} {path : Bytes}
    (h : fs.arrive u left dir path ≠ .error Errno.linkLoop) :
    fs.arrive u (left + k) dir path = (fs.arrive u left dir path).map (Arrival.gain k) := by
  unfold arrive at h ⊢
  cases hlast : (Path.components path).getLast? with
  | none => rfl
  | some name =>
    simp only [hlast] at h ⊢
    have hw : fs.walk u left (startOf dir path) (Path.components path).dropLast ≠
        .error Errno.linkLoop := by
      intro hw
      rw [hw] at h
      exact h rfl
    rw [walk_more k left _ _ hw]
    cases fs.walk u left (startOf dir path) (Path.components path).dropLast with
    | error e => rfl
    | ok r =>
      obtain ⟨d, rest⟩ := r
      simp only [Except.map, gain, bind, Except.bind]
      cases fs.search u d with
      | error e => rfl
      | ok s =>
        by_cases hdir : Bytes.endsWithSlash path = true ∨ name = Bytes.dot ∨ name = Bytes.dotDot
        · simp only [if_pos hdir]
        · simp only [if_neg hdir]
          rcases fs.look d name with e | _ | i
          · rfl
          · rfl
          · rcases hn : fs.node? i with _ | n
            · simp only [hn]
            · cases n <;> simp only [hn, Arrival.gain]

theorem links_left_of_ne {hops left rest : Nat} {dir d : Ino} {path target : Bytes}
    (ha : fs.arrive u left dir path = .ok (.link d target rest))
    (h : fs.locateFrom u hops left dir path ≠ .error Errno.linkLoop) :
    ∃ hops' rest', hops = hops' + 1 ∧ rest = rest' + 1 := by
  unfold locateFrom at h
  rw [ha] at h
  cases hops with
  | zero => exact absurd rfl h
  | succ hops' =>
    cases rest with
    | zero => exact absurd rfl h
    | succ rest' => exact ⟨hops', rest', rfl, rfl⟩

/-- A way that does not run out of links leads to the same place with more of them. -/
theorem locateFrom_more (k : Nat) {hops left : Nat} {dir : Ino} {path : Bytes}
    (h : fs.locateFrom u hops left dir path ≠ .error Errno.linkLoop) :
    fs.locateFrom u hops (left + k) dir path = fs.locateFrom u hops left dir path := by
  -- on the links that may end a path: each one met costs one hop, whatever else is left
  induction hops using Nat.strongRecOn generalizing left dir path with
  | _ hops ih =>
    have hloop : fs.arrive u left dir path ≠ .error Errno.linkLoop := by
      intro ha
      rw [locateFrom, ha] at h
      exact h rfl
    have hmore := arrive_more k hloop
    cases ha : fs.arrive u left dir path with
    | error e =>
      rw [ha] at hmore
      rw [locateFrom, locateFrom, hmore, ha]
      rfl
    | ok a =>
      rw [ha] at hmore
      cases a with
      | «at» place => rw [locateFrom_of_at ha, locateFrom_of_at hmore]
      | link d target rest =>
        obtain ⟨hops, rest, rfl, rfl⟩ := links_left_of_ne ha h
        have hrest : rest + 1 + k = (rest + k) + 1 := by omega
        simp only [Except.map, Arrival.gain, hrest] at hmore
        rw [locateFrom_of_link ha] at h
        rw [locateFrom_of_link ha, locateFrom_of_link hmore]
        exact ih hops (Nat.lt_succ_self hops) h

/-- A name below a directory leads where the name leads from the directory, unless the way through
the directory runs out of links. -/
theorem locate_below {dir name path : Bytes} (h : Path.Below dir name path)
    (hname : Path.IsName name) {cwd d : Ino} (hdir : fs.directory u cwd dir = .ok d) :
    fs.locate u cwd path = .error Errno.linkLoop ∨ fs.locate u cwd path = fs.locate u d name := by
  unfold directory at hdir
  cases hw : fs.walk u maxLinks (startOf cwd dir) (Path.components dir) with
  | error e =>
    rw [hw] at hdir
    cases hdir
  | ok r =>
    obtain ⟨d', rest⟩ := r
    rw [hw] at hdir
    cases hdir
    have hthrough : fs.locate u cwd path = fs.locateFrom u maxLinks rest d' name :=
      locateFrom_below h hname hw
    by_cases hloop : fs.locate u cwd path = .error Errno.linkLoop
    · exact .inl hloop
    · right
      have hle : rest ≤ maxLinks := walk_left_le hw
      have hmore := locateFrom_more (maxLinks - rest) (hthrough ▸ hloop)
      rw [Nat.add_sub_cancel' hle] at hmore
      rw [hthrough, locate, hmore]

theorem walk_dot (left : Nat) (dir : Ino) :
    fs.walk u left dir [Bytes.dot] = (fs.search u dir).map fun _ => (dir, left) := by
  have hturn : fs.turn u dir Bytes.dot = (fs.search u dir).map fun _ => .into dir := by
    unfold turn
    cases fs.search u dir with
    | error e => rfl
    | ok s => rfl
  cases left with
  | zero =>
    rw [walk, walkNames, hturn]
    cases fs.search u dir with
    | error e => rfl
    | ok s => rfl
  | succ n =>
    rw [walk, walkNames, hturn]
    cases fs.search u dir with
    | error e => rfl
    | ok s => rfl

/-- A dot on the way changes nothing, not even which failure is met. -/
theorem locate_below_dot {name path : Bytes} (h : Path.Below Bytes.dot name path)
    (hname : Path.IsName name) (cwd : Ino) : fs.locate u cwd path = fs.locate u cwd name := by
  have hdot : Path.IsName Bytes.dot := ⟨by decide, by decide⟩
  apply locateFrom_congr
  rw [arrive_below h hname, Path.components_of_isName hdot, startOf_of_isName hdot, walk_dot]
  cases hs : fs.search u cwd with
  | error e =>
    simp only [arrive, Path.components_of_isName hname, startOf_of_isName hname,
      List.getLast?_singleton, List.dropLast_singleton, walk_nil]
    show Except.error e = (fs.search u cwd >>= fun _ => _)
    rw [hs]
    rfl
  | ok s => rfl

end FileSystem

end SparseFixture
