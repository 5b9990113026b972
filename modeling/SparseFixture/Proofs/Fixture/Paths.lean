import Mathlib.Data.List.DropRight
import SparseFixture.Proofs.Fixture.Records
import SparseFixture.Proofs.Utf8

/-!
# The path of the fixture

The path of the fixture is a folder, which is empty or ends in a slash, and behind it the name. So
the name is what stands behind the last slash, and two directories share a path only if they differ
in that slash. A slash is a character of its own wherever it stands; so the path is shown as the
directory is shown, with the name behind it, also where the directory breaks off inside a character.
-/

namespace SparseFixture.Fixture

/-! ### The folder and the name -/

/-- A slash has to be added before a name can follow. -/
def LacksSlash (dir : Bytes) : Prop := dir ≠ [] ∧ dir.getLast? ≠ some Bytes.slash

instance (dir : Bytes) : Decidable (LacksSlash dir) := inferInstanceAs (Decidable (_ ∧ _))

def folder (dir : Bytes) : Bytes := if LacksSlash dir then dir ++ [Bytes.slash] else dir

variable {dir : Bytes}

theorem folder_of_lacksSlash (h : LacksSlash dir) : folder dir = dir ++ [Bytes.slash] := if_pos h

theorem folder_of_not_lacksSlash (h : ¬ LacksSlash dir) : folder dir = dir := if_neg h

theorem not_lacksSlash_iff : ¬ LacksSlash dir ↔ dir = [] ∨ Bytes.endsWithSlash dir = true := by
  simp only [LacksSlash, Bytes.endsWithSlash, beq_iff_eq, not_and_or, not_not]

theorem path_eq_folder_append (dir : Bytes) : path dir = folder dir ++ nameBytes := by
  by_cases h : LacksSlash dir
  · have hcond : ¬ (dir = [] ∨ Bytes.endsWithSlash dir = true) := by
      rw [← not_lacksSlash_iff, not_not]
      exact h
    rw [path, if_neg hcond, folder_of_lacksSlash h]
    simp
  · rw [path, if_pos (not_lacksSlash_iff.mp h), folder_of_not_lacksSlash h]

theorem folder_eq_nil_or (dir : Bytes) :
    folder dir = [] ∨ ∃ front, folder dir = front ++ [Bytes.slash] := by
  by_cases h : LacksSlash dir
  · exact .inr ⟨dir, folder_of_lacksSlash h⟩
  · rw [folder_of_not_lacksSlash h]
    simp only [LacksSlash, not_and_or, not_not] at h
    rcases h with hnil | hlast
    · exact .inl hnil
    · exact .inr (List.getLast?_eq_some_iff.mp hlast)

/-! ### Which directories share a path -/

theorem folder_append_slash (h : LacksSlash dir) :
    folder (dir ++ [Bytes.slash]) = folder dir := by
  have hslash : ¬ LacksSlash (dir ++ [Bytes.slash]) := by simp [LacksSlash]
  rw [folder_of_not_lacksSlash hslash, folder_of_lacksSlash h]

theorem folder_eq_iff (d e : Bytes) :
    folder d = folder e ↔
      d = e ∨ (LacksSlash d ∧ e = d ++ [Bytes.slash]) ∨ (LacksSlash e ∧ d = e ++ [Bytes.slash]) := by
  constructor
  · intro h
    by_cases hd : LacksSlash d
    · rw [folder_of_lacksSlash hd] at h
      by_cases he : LacksSlash e
      · rw [folder_of_lacksSlash he] at h
        exact .inl (List.append_cancel_right h)
      · rw [folder_of_not_lacksSlash he] at h
        exact .inr (.inl ⟨hd, h.symm⟩)
    · rw [folder_of_not_lacksSlash hd] at h
      by_cases he : LacksSlash e
      · rw [folder_of_lacksSlash he] at h
        exact .inr (.inr ⟨he, h⟩)
      · rw [folder_of_not_lacksSlash he] at h
        exact .inl h
  · intro h
    rcases h with rfl | ⟨hd, rfl⟩ | ⟨he, rfl⟩
    · rfl
    · exact (folder_append_slash hd).symm
    · exact folder_append_slash he

/-- What stands behind the last slash of a path, or all of it if there is none. -/
def lastName (path : Bytes) : Bytes := path.rtakeWhile (· != Bytes.slash)

theorem lastName_folder_append (dir : Bytes) {name : Bytes} (h : Bytes.slash ∉ name) :
    lastName (folder dir ++ name) = name := by
  have hname : ∀ b ∈ name.reverse, (b != Bytes.slash) = true := by
    intro b hb
    have hne : b ≠ Bytes.slash := fun hslash => h (hslash ▸ List.mem_reverse.mp hb)
    simpa using hne
  have hfolder : (folder dir).reverse.takeWhile (· != Bytes.slash) = [] := by
    rcases folder_eq_nil_or dir with hnil | ⟨front, hfront⟩
    · simp [hnil]
    · simp [hfront]
  rw [lastName, List.rtakeWhile, List.reverse_append, List.takeWhile_append_of_pos hname, hfolder,
    List.append_nil, List.reverse_reverse]

/-- Directories share a path only if they differ in one slash that the path needs, and the path always
ends in the name of the fixture. -/
theorem path_fixes_directory_up_to_slash :
    (∀ d e, path d = path e ↔
      d = e ∨ (LacksSlash d ∧ e = d ++ [Bytes.slash]) ∨ (LacksSlash e ∧ d = e ++ [Bytes.slash])) ∧
    ∀ d, lastName (path d) = Bytes.ofText "test.pma" := by
  constructor
  · intro d e
    rw [path_eq_folder_append, path_eq_folder_append, List.append_left_inj, folder_eq_iff]
  · intro d
    have hslash : Bytes.slash ∉ nameBytes := by decide
    rw [path_eq_folder_append, lastName_folder_append d hslash]
    rfl

/-! ### The path as it is shown -/

theorem slash_ascii : Bytes.slash < 0x80 := by decide

theorem lossy_slash (bs : Bytes) : Utf8.lossy (bs ++ [Bytes.slash]) = Utf8.lossy bs ++ "/" := by
  rw [Utf8.lossy_append_ascii bs slash_ascii []]
  exact String.append_empty

theorem lossy_slash_append (bs rest : Bytes) :
    Utf8.lossy (bs ++ [Bytes.slash] ++ rest) = Utf8.lossy (bs ++ [Bytes.slash]) ++ Utf8.lossy rest := by
  rw [List.append_assoc, List.singleton_append, Utf8.lossy_append_ascii bs slash_ascii rest,
    lossy_slash]
  rfl

theorem lossy_folder_append (dir rest : Bytes) :
    Utf8.lossy (folder dir ++ rest) = Utf8.lossy (folder dir) ++ Utf8.lossy rest := by
  rcases folder_eq_nil_or dir with hnil | ⟨front, hfront⟩
  · rw [hnil, List.nil_append]
    exact String.empty_append.symm
  · rw [hfront, lossy_slash_append]

theorem lossy_folder (dir : Bytes) :
    Utf8.lossy (folder dir) = Utf8.lossy dir ++ if LacksSlash dir then "/" else "" := by
  by_cases h : LacksSlash dir
  · rw [folder_of_lacksSlash h, if_pos h, lossy_slash]
  · rw [folder_of_not_lacksSlash h, if_neg h, String.append_empty]

/-- The directory as it is shown, a slash if it lacks one, and the name. -/
def shownPath (dir : Bytes) : String :=
  Utf8.lossy dir ++ (if LacksSlash dir then "/" else "") ++ "test.pma"

theorem lossy_path (dir : Bytes) : Utf8.lossy (path dir) = shownPath dir := by
  have hname : Utf8.lossy nameBytes = "test.pma" := Utf8.lossy_ofText name
  rw [path_eq_folder_append, lossy_folder_append, lossy_folder, hname]
  rfl

theorem display_of_create_error {fs : FileSystem} {p : Caller} {q : Bytes} {c : Cause}
    (h : (generateIn fs p dir).result = .error (.create q c)) :
    (Failure.create q c).display = "could not create " ++ shownPath dir ++ ": " ++ c.text := by
  have hq : q = path dir := path_of_create_error h
  subst hq
  show "could not create " ++ Utf8.lossy (path dir) ++ ": " ++ c.text = _
  rw [lossy_path]

theorem messages_of_generateIn (fs : FileSystem) (p : Caller) (dir : Bytes) :
    ∃ position length allocated : Nat, ∀ figure,
      (generateIn fs p dir).log.map (Record.message figure) <+:
        ["creating " ++ shownPath dir ++ " (mode 600)", "cursor at " ++ toString position,
          "wrote " ++ shownPath dir ++ ": " ++ toString length ++ " bytes, "
            ++ figure allocated ++ " bytes allocated"] := by
  obtain ⟨position, length, allocated, hlog, _⟩ := account_of_log fs p (path dir)
  refine ⟨position, length, allocated, fun figure => ?_⟩
  have hlines := hlog.map (Record.line figure)
  rw [← account_eq] at hlines
  have hmessages := hlines.map Prod.snd
  simp only [account, List.map_cons, List.map_nil, List.map_map, lossy_path] at hmessages
  exact hmessages

/-- The directory and the name are shown one behind the other: in the path, in the line of a run that
could not create the file, and in the log. -/
theorem directory_and_name_shown_apart (dir : Bytes) :
    Utf8.lossy (path dir) = shownPath dir ∧
    ∀ (fs : FileSystem) (p : Caller),
      (∀ q c, (generateIn fs p dir).result = .error (.create q c) →
        (Failure.create q c).display = "could not create " ++ shownPath dir ++ ": " ++ c.text) ∧
      ∃ position length allocated : Nat, ∀ figure,
        (generateIn fs p dir).log.map (Record.message figure) <+:
          ["creating " ++ shownPath dir ++ " (mode 600)", "cursor at " ++ toString position,
            "wrote " ++ shownPath dir ++ ": " ++ toString length ++ " bytes, "
              ++ figure allocated ++ " bytes allocated"] :=
  ⟨lossy_path dir, fun fs p =>
    ⟨fun _ _ => display_of_create_error, messages_of_generateIn fs p dir⟩⟩

/- A directory that breaks off inside a character of four bytes, and is not there. -/
theorem cut_directory_shown_apart :
    let cut : Bytes := [0x61, 0xF0, 0x9F, 0x98]
    let failure := Failure.create (path cut) (.os Errno.noEntry)
    (generateIn .initial (Caller.initial .owner) cut).result = .error failure ∧
    failure.display = "could not create a\uFFFD/test.pma: No such file or directory (os error 2)" := by
  intro cut failure
  have hresult : (generateIn .initial (Caller.initial .owner) cut).result = .error failure := by
    decide +kernel
  have hdisplay := ((directory_and_name_shown_apart cut).2 .initial (Caller.initial .owner)).1
    (path cut) (.os Errno.noEntry) hresult
  refine ⟨hresult, ?_⟩
  rw [hdisplay]
  decide +kernel

end SparseFixture.Fixture
