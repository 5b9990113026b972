import SparseFixture.Log.Filter

/-!
# Which directive decides

The directives that a filter keeps are the last ones of each name; they are put in the order of their
weights and searched from the end. So of those that apply to a target one of the greatest weight
decides. Names that begin the same target are the heavier the longer they are, and a directive for all
weighs nothing; so the longest name decides, and only without one the directive for all.
-/

namespace SparseFixture.Log

/-- The directives of the pieces that can be read, in order. -/
def accepted (spec : List Char) : List Directive := (pieces spec).filterMap accepted?

variable {ds : List Directive} {d e : Directive}

/-! ### The last directive of a name -/

/-- A directive behind which none of the same name follows. -/
def Latest (ds : List Directive) (d : Directive) : Prop :=
  ∃ before after, ds = before ++ d :: after ∧ ∀ e ∈ after, e.name ≠ d.name

theorem latest_cons :
    Latest (d :: ds) e ↔ Latest ds e ∨ e = d ∧ ∀ x ∈ ds, x.name ≠ d.name := by
  constructor
  · intro h
    obtain ⟨before, after, hds, hafter⟩ := h
    cases before with
    | nil =>
      obtain ⟨hd, htail⟩ := List.cons.inj hds
      subst hd htail
      exact .inr ⟨rfl, hafter⟩
    | cons b before => exact .inl ⟨before, after, (List.cons.inj hds).2, hafter⟩
  · intro h
    rcases h with ⟨before, after, hds, hafter⟩ | ⟨hd, hafter⟩
    · exact ⟨d :: before, after, by simp [hds], hafter⟩
    · subst hd
      exact ⟨[], ds, rfl, hafter⟩

theorem mem_of_latest (h : Latest ds d) : d ∈ ds := by
  obtain ⟨before, after, hds, _⟩ := h
  simp [hds]

theorem latest_unique (hd : Latest ds d) (he : Latest ds e) (h : d.name = e.name) : d = e := by
  induction ds with
  | nil => exact absurd (mem_of_latest hd) List.not_mem_nil
  | cons x ds ih =>
    rcases latest_cons.mp hd with hd | ⟨hdx, hlast⟩
    · rcases latest_cons.mp he with he | ⟨hex, hlast⟩
      · exact ih hd he
      · exact absurd (h.trans (by rw [hex])) (hlast d (mem_of_latest hd))
    · rcases latest_cons.mp he with he | ⟨hex, _⟩
      · exact absurd (h.symm.trans (by rw [hdx])) (hlast e (mem_of_latest he))
      · rw [hdx, hex]

theorem exists_latest (h : d ∈ ds) : ∃ e, Latest ds e ∧ e.name = d.name := by
  induction ds generalizing d with
  | nil => cases h
  | cons x ds ih =>
    by_cases hlater : ∃ y ∈ ds, y.name = d.name
    · obtain ⟨y, hy, hname⟩ := hlater
      obtain ⟨e, he, hey⟩ := ih hy
      exact ⟨e, latest_cons.mpr (.inl he), hey.trans hname⟩
    · have hdx : d = x := by
        rcases List.mem_cons.mp h with hdx | hmem
        · exact hdx
        · exact absurd ⟨d, hmem, rfl⟩ hlater
      subst hdx
      exact ⟨d, latest_cons.mpr (.inr ⟨rfl, fun y hy hname => hlater ⟨y, hy, hname⟩⟩), rfl⟩

theorem mem_insert : e ∈ insert ds d ↔ e = d ∨ e ∈ ds ∧ e.name ≠ d.name := by
  unfold insert
  split
  · next hany =>
    obtain ⟨x, hx, hname⟩ := List.any_eq_true.mp hany
    have hname : x.name = d.name := eq_of_beq hname
    constructor
    · intro h
      obtain ⟨y, hy, hye⟩ := List.mem_map.mp h
      split at hye
      · exact .inl hye.symm
      · next hne => exact .inr (hye ▸ ⟨hy, hne⟩)
    · intro h
      rcases h with hed | ⟨he, hne⟩
      · exact List.mem_map.mpr ⟨x, hx, by rw [if_pos hname, hed]⟩
      · exact List.mem_map.mpr ⟨e, he, if_neg hne⟩
  · next hany =>
    have hnone : ∀ x ∈ ds, x.name ≠ d.name := by
      intro x hx hname
      exact hany (List.any_eq_true.mpr ⟨x, hx, by simp [hname]⟩)
    rw [List.mem_append, List.mem_singleton]
    constructor
    · intro h
      rcases h with he | hed
      · exact .inr ⟨he, hnone e he⟩
      · exact .inl hed
    · intro h
      exact h.elim .inr fun he => .inl he.1

theorem mem_foldl_insert (as : List Directive) :
    e ∈ as.foldl insert ds ↔ Latest as e ∨ e ∈ ds ∧ ∀ a ∈ as, a.name ≠ e.name := by
  induction as generalizing ds with
  | nil =>
    have hnil : ¬ Latest [] e := fun h => absurd (mem_of_latest h) List.not_mem_nil
    simp [hnil]
  | cons a as ih =>
    rw [List.foldl_cons, ih, mem_insert, latest_cons]
    simp only [List.mem_cons, forall_eq_or_imp]
    constructor
    · intro h
      rcases h with he | ⟨hea | ⟨he, hne⟩, hall⟩
      · exact .inl (.inl he)
      · exact .inl (.inr ⟨hea, hea ▸ hall⟩)
      · exact .inr ⟨he, hne.symm, hall⟩
    · intro h
      rcases h with (he | ⟨hea, hall⟩) | ⟨he, hne, hall⟩
      · exact .inl he
      · exact .inr ⟨.inl hea, hea ▸ hall⟩
      · exact .inr ⟨.inr ⟨he, hne.symm⟩, hall⟩

/-! ### The order of the weights -/

def Sorted (ds : List Directive) : Prop := ds.Pairwise fun d e => d.weight ≤ e.weight

theorem sorted_place (d : Directive) (h : Sorted ds) : Sorted (place d ds) := by
  unfold Sorted at *
  induction ds with
  | nil => simp [place]
  | cons x ds ih =>
    obtain ⟨hx, hds⟩ := List.pairwise_cons.mp h
    simp only [place]
    split
    · next hle =>
      refine List.pairwise_cons.mpr ⟨?_, h⟩
      intro y hy
      rcases List.mem_cons.mp hy with hyx | hy
      · rw [hyx]
        exact hle
      · exact Nat.le_trans hle (hx y hy)
    · next hle =>
      refine List.pairwise_cons.mpr ⟨?_, ih hds⟩
      intro y hy
      rcases List.mem_cons.mp ((place_perm d ds).mem_iff.mp hy) with hyd | hy
      · rw [hyd]
        omega
      · exact hx y hy

theorem sorted_foldr_place (ds : List Directive) : Sorted (ds.foldr place []) := by
  induction ds with
  | nil => exact .nil
  | cons d ds ih => exact sorted_place d ih

theorem mem_foldr_place : e ∈ ds.foldr place [] ↔ e ∈ ds := by
  induction ds with
  | nil => rfl
  | cons d ds ih => rw [List.foldr_cons, (place_perm d _).mem_iff, List.mem_cons, List.mem_cons, ih]

/-- Of the directives that apply, the last one of a sorted list is one of the greatest weight. -/
theorem heaviest_of_find? {p : Directive → Bool} (hds : Sorted ds)
    (h : ds.reverse.find? p = some d) :
    d ∈ ds ∧ p d = true ∧ ∀ e ∈ ds, p e = true → e.weight ≤ d.weight := by
  obtain ⟨hd, after, before, hsplit, hafter⟩ := List.find?_eq_some_iff_append.mp h
  have hds' : ds = before.reverse ++ d :: after.reverse := by
    rw [← List.reverse_reverse ds, hsplit]
    simp
  unfold Sorted at hds
  rw [hds', List.pairwise_append] at hds
  refine ⟨by simp [hds'], hd, fun e he hpe => ?_⟩
  rw [hds'] at he
  rcases List.mem_append.mp he with hbefore | he
  · exact hds.2.2 e hbefore d (by simp)
  rcases List.mem_cons.mp he with hed | hbehind
  · exact Nat.le_of_eq (by rw [hed])
  · have hnot := hafter e (List.mem_reverse.mp hbehind)
    simp [hpe] at hnot

/-! ### The directives of a filter -/

variable {spec target name other : List Char}

theorem directivesOf_of_nil (h : accepted spec = []) :
    Filter.directivesOf spec = [⟨none, some .error⟩] := by
  unfold accepted at h
  rw [Filter.directivesOf, h]
  rfl

theorem directivesOf_of_mem (h : d ∈ accepted spec) :
    Filter.directivesOf spec = ((accepted spec).foldl insert []).foldr place [] := by
  have hne : (accepted spec).foldl insert [] ≠ [] := by
    obtain ⟨e, he, _⟩ := exists_latest h
    have hmem : e ∈ (accepted spec).foldl insert [] := (mem_foldl_insert _).mpr (.inl he)
    exact List.ne_nil_of_mem hmem
  exact if_neg hne

theorem mem_directivesOf (h : d ∈ accepted spec) :
    e ∈ Filter.directivesOf spec ↔ Latest (accepted spec) e := by
  rw [directivesOf_of_mem h, mem_foldr_place, mem_foldl_insert]
  simp

/-- If a directive applies, one that decides is among the last of their names, and none of these that
applies is heavier. -/
theorem exists_decider {f : Filter} (hf : f.directives = Filter.directivesOf spec)
    (hd : Latest (accepted spec) d) (happlies : d.appliesTo target = true) :
    ∃ e, Latest (accepted spec) e ∧ e.appliesTo target = true ∧
      (∀ x, Latest (accepted spec) x → x.appliesTo target = true → x.weight ≤ e.weight) ∧
      f.threshold target = e.threshold := by
  have hmem := mem_of_latest hd
  have hsorted : Sorted (Filter.directivesOf spec) := by
    rw [directivesOf_of_mem hmem]
    exact sorted_foldr_place _
  cases hfind : (Filter.directivesOf spec).reverse.find? (·.appliesTo target) with
  | none =>
    have hnone := List.find?_eq_none.mp hfind d
      (List.mem_reverse.mpr ((mem_directivesOf hmem).mpr hd))
    exact absurd happlies hnone
  | some e =>
    obtain ⟨he, hea, hheaviest⟩ := heaviest_of_find? hsorted hfind
    refine ⟨e, (mem_directivesOf hmem).mp he, hea, fun x hx => ?_, ?_⟩
    · exact hheaviest x ((mem_directivesOf hmem).mpr hx)
    · simp only [Filter.threshold, hf, hfind]

/-! ### Names and their weights -/

def width (name : List Char) : Nat := (name.flatMap String.utf8EncodeChar).length

theorem width_append (name other : List Char) : width (name ++ other) = width name + width other := by
  simp [width]

theorem width_pos (h : name ≠ []) : 0 < width name := by
  cases name with
  | nil => exact absurd rfl h
  | cons c cs =>
    have hc := Char.utf8Size_pos c
    simp only [width, List.flatMap_cons, List.length_append, String.length_utf8EncodeChar]
    omega

theorem width_lt (h : name <+: other) (hlength : name.length < other.length) :
    width name < width other := by
  obtain ⟨rest, hrest⟩ := h
  subst hrest
  have hne : rest ≠ [] := by
    intro hnil
    simp [hnil] at hlength
  have hpos := width_pos hne
  rw [width_append]
  omega

theorem weight_of_name (h : d.name = some name) : d.weight = width name := by
  simp only [Directive.weight, h, width]

theorem weight_of_global (h : d.name = none) : d.weight = 0 := by
  simp only [Directive.weight, h]

theorem appliesTo_of_name (h : d.name = some name) :
    d.appliesTo target = true ↔ name <+: target := by
  simp only [Directive.appliesTo, h, List.isPrefixOf_iff_prefix]

theorem appliesTo_of_global (h : d.name = none) : d.appliesTo target = true := by
  simp only [Directive.appliesTo, h]

/-! ### The threshold for a target -/

/-- A directive with a name that the target begins with. -/
structure Directive.Names (d : Directive) (name target : List Char) : Prop where
  named : d.name = some name
  nonempty : name ≠ []
  begins : name <+: target

theorem not_names_of_not_appliesTo (h : d.name ≠ none → d.appliesTo target = false)
    (name : List Char) : ¬ d.Names name target := by
  intro hnames
  have hnamed : d.name ≠ none := by
    rw [hnames.named]
    exact Option.some_ne_none name
  have happlies := (appliesTo_of_name hnames.named).mpr hnames.begins
  rw [h hnamed] at happlies
  cases happlies

/-- The longest name decides, and of the directives that bear it the last. -/
theorem threshold_of_name {f : Filter} (hf : f.directives = Filter.directivesOf spec)
    (hd : d ∈ accepted spec) (hname : d.Names name target) :
    ∃ e longest, Latest (accepted spec) e ∧ e.Names longest target ∧
      (∀ x ∈ accepted spec, ∀ other, x.Names other target → other.length ≤ longest.length) ∧
      f.threshold target = e.threshold := by
  have hlatest : ∀ x ∈ accepted spec, ∀ other, x.Names other target →
      ∃ y, Latest (accepted spec) y ∧ y.appliesTo target = true ∧ y.weight = width other := by
    intro x hx other hother
    obtain ⟨y, hy, hyx⟩ := exists_latest hx
    have hnamed := hyx.trans hother.named
    exact ⟨y, hy, (appliesTo_of_name hnamed).mpr hother.begins, weight_of_name hnamed⟩
  obtain ⟨y, hy, hyapplies, hyweight⟩ := hlatest d hd name hname
  obtain ⟨e, he, heapplies, hheaviest, hthreshold⟩ := exists_decider hf hy hyapplies
  have hpos : 0 < e.weight := by
    have hwidth := width_pos hname.nonempty
    have hle := hheaviest y hy hyapplies
    omega
  cases henamed : e.name with
  | none =>
    rw [weight_of_global henamed] at hpos
    exact absurd hpos (Nat.lt_irrefl 0)
  | some longest =>
    have hbegins := (appliesTo_of_name henamed).mp heapplies
    have hweight := weight_of_name henamed
    have hnonempty : longest ≠ [] := by
      intro hnil
      rw [hweight, hnil] at hpos
      exact absurd hpos (Nat.lt_irrefl 0)
    refine ⟨e, longest, he, ⟨henamed, hnonempty, hbegins⟩, fun x hx other hother => ?_, hthreshold⟩
    obtain ⟨z, hz, hzapplies, hzweight⟩ := hlatest x hx other hother
    have hle := hheaviest z hz hzapplies
    -- a longer name would begin with this one, and so be heavier
    by_cases hlength : longest.length < other.length
    · have hprefix := List.prefix_of_prefix_length_le hbegins hother.begins (Nat.le_of_lt hlength)
      have hlt := width_lt hprefix hlength
      omega
    · exact Nat.not_lt.mp hlength

/-- If no name begins the target, the last directive for all decides. -/
theorem threshold_of_global {f : Filter} (hf : f.directives = Filter.directivesOf spec)
    (hnames : ∀ x ∈ accepted spec, ∀ other, x.name = some other → ¬ other <+: target)
    (hd : d ∈ accepted spec) (hglobal : d.name = none) :
    ∃ e, Latest (accepted spec) e ∧ e.name = none ∧ f.threshold target = e.threshold := by
  obtain ⟨y, hy, hyd⟩ := exists_latest hd
  have hyapplies : y.appliesTo target = true := appliesTo_of_global (hyd.trans hglobal)
  obtain ⟨e, he, heapplies, _, hthreshold⟩ := exists_decider hf hy hyapplies
  cases henamed : e.name with
  | none => exact ⟨e, he, henamed, hthreshold⟩
  | some other =>
    have hprefix := (appliesTo_of_name henamed).mp heapplies
    exact absurd hprefix (hnames e (mem_of_latest he) other henamed)

/-- If none is for all either, nothing less than an error is let through. -/
theorem threshold_of_none {f : Filter} (hf : f.directives = Filter.directivesOf spec)
    (hnames : ∀ x ∈ accepted spec, ∀ other, x.name = some other → ¬ other <+: target)
    (hglobal : ∀ x ∈ accepted spec, x.name ≠ none) :
    f.threshold target = none ∨ f.threshold target = some .error := by
  cases haccepted : accepted spec with
  | nil =>
    right
    rw [Filter.threshold, hf, directivesOf_of_nil haccepted]
    rfl
  | cons d ds =>
    left
    have hmem : d ∈ accepted spec := by simp [haccepted]
    have hfind : (Filter.directivesOf spec).reverse.find? (·.appliesTo target) = none := by
      rw [List.find?_eq_none]
      intro x hx happlies
      have hx := mem_of_latest ((mem_directivesOf hmem).mp (List.mem_reverse.mp hx))
      cases hnamed : x.name with
      | none => exact hglobal x hx hnamed
      | some other => exact hnames x hx other hnamed ((appliesTo_of_name hnamed).mp happlies)
    simp only [Filter.threshold, hf, hfind]

end SparseFixture.Log
