import Mathlib
import SparseFixture.Proofs.Failure
import SparseFixture.Proofs.Quoted

/-!
# Rendered failures lose nothing

A rendered failure is read from the left. The first letter tells which step failed, and each field
tells where it ends: a number and a name by the comma or the parenthesis that follows them, a quoted
text by its closing quote, a cause by the fields that it has. So a rendering holds every field, on one
line as well as on many; and the one on a single line has no line break in it.
-/

namespace SparseFixture

/-! ### Values that can be read from the front of a text -/

/-- What is written in front of two texts can be told, and so can the texts, if these are such as may
stand next to it. -/
def Legible {α : Type} (write : α → String) (next : String → Prop) : Prop :=
  ∀ ⦃a b : α⦄ ⦃r s : String⦄, next r → next s → write a ++ r = write b ++ s → a = b ∧ r = s

/-- A text that does not go on with the characters of a word. -/
def StartsOutside (P : Char → Bool) (s : String) : Prop :=
  ∀ c, s.toList.head? = some c → P c = false

variable {P : Char → Bool}

theorem startsOutside_append {s : String} {c : Char} (hs : s.toList.head? = some c)
    (hc : P c = false) (r : String) : StartsOutside P (s ++ r) := by
  intro d hd
  rw [String.toList_append, List.head?_append, hs, Option.some_or] at hd
  rw [← Option.some.inj hd, hc]

theorem takeWhile_word {w r : String} (hw : ∀ c ∈ w.toList, P c = true) (hr : StartsOutside P r) :
    (w ++ r).toList.takeWhile P = w.toList := by
  have hstop : r.toList.takeWhile P = [] := by
    unfold StartsOutside at hr
    cases hlist : r.toList with
    | nil => rfl
    | cons c cs =>
      have hc : P c = false := hr c (by simp [hlist])
      simp [hc]
  rw [String.toList_append, List.takeWhile_append_of_pos hw, hstop, List.append_nil]

theorem legible_of_word {α : Type} {write : α → String} (hinj : Function.Injective write)
    (hword : ∀ a, ∀ c ∈ (write a).toList, P c = true) : Legible write (StartsOutside P) := by
  intro a b r s hr hs h
  have hlist := congrArg (·.toList.takeWhile P) h
  simp only [takeWhile_word (hword a) hr, takeWhile_word (hword b) hs] at hlist
  have hab : a = b := hinj (String.toList_injective hlist)
  subst hab
  exact ⟨rfl, (String.append_right_inj _).mp h⟩

theorem Legible.mono {α : Type} {write : α → String} {next next' : String → Prop}
    (h : Legible write next) (hnext : ∀ s, next' s → next s) : Legible write next' :=
  fun _ _ _ _ hr hs => h (hnext _ hr) (hnext _ hs)

def isNumeral (c : Char) : Bool := c == '-' || c.isDigit

theorem legible_integer : Legible (fun n : Int => toString n) (StartsOutside isNumeral) := by
  apply legible_of_word
  · intro m n h
    simp only [Int.toString_eq_repr] at h
    exact Int.repr_injective h
  · intro n c hc
    rcases minus_or_digit_of_mem hc with hminus | hdigit
    · simp [isNumeral, hminus]
    · simp [isNumeral, hdigit]

theorem legible_natural : Legible (fun n : Nat => toString n) (StartsOutside isNumeral) := by
  apply legible_of_word
  · intro m n h
    simp only [Nat.toString_eq_repr] at h
    exact Nat.repr_injective h
  · intro n c hc
    rw [Nat.toString_eq_repr, Nat.toList_repr] at hc
    have hdigit : c.isDigit = true := Nat.isDigit_of_mem_toDigits (by decide) (by decide) hc
    simp [isNumeral, hdigit]

theorem ErrorKind.all_isAlpha : ∀ k ∈ all, k.name.toList.all Char.isAlpha = true := by
  decide +kernel

theorem ErrorKind.isAlpha_of_mem_name {k : ErrorKind} {c : Char} (h : c ∈ k.name.toList) :
    c.isAlpha = true :=
  List.all_eq_true.mp (all_isAlpha k (mem_all k)) c h

theorem legible_kind : Legible ErrorKind.name (StartsOutside Char.isAlpha) := by
  apply legible_of_word
  · intro j k h
    exact ErrorKind.name_injective h
  · intro k c hc
    exact ErrorKind.isAlpha_of_mem_name hc

theorem legible_text : Legible Quoted.text fun _ => True :=
  fun _ _ _ _ _ _ => Quoted.text_append_inj

theorem legible_bytes : Legible Quoted.bytes fun _ => True :=
  fun _ _ _ _ _ _ => Quoted.bytes_append_inj

/-! ### Records -/

namespace Layout

/-- A comma stands between two fields, and none or a comma behind the only one. -/
structure PartsFields (l : Layout) : Prop where
  between : ∀ d, (l.between d).toList.head? = some ','
  unparen : ∀ d, (l.unparen d).toList.head? = some ',' ∨ l.unparen d = ""

theorem compact_partsFields : compact.PartsFields where
  between _ := by simp [compact]
  unparen _ := .inr rfl

theorem spread_partsFields : spread.PartsFields where
  between d := by simp [spread]
  unparen d := .inl (by simp [spread])

variable {l : Layout}

theorem startsOutside_between (hl : l.PartsFields) (hP : P ',' = false) (d : Nat) (r : String) :
    StartsOutside P (l.between d ++ r) :=
  startsOutside_append (hl.between d) hP r

theorem startsOutside_unparen (hl : l.PartsFields) (hP : P ',' = false) (hP' : P ')' = false)
    (d : Nat) (r : String) : StartsOutside P (l.unparen d ++ (")" ++ r)) := by
  rcases hl.unparen d with hcomma | hempty
  · exact startsOutside_append hcomma hP _
  · rw [hempty, String.empty_append]
    exact startsOutside_append (by simp) hP' r

theorem record₂_append (l : Layout) (d : Nat) (name f₁ v₁ f₂ v₂ r : String) :
    l.record₂ d name f₁ v₁ f₂ v₂ ++ r =
      name ++ (" \x7b" ++ (l.brace d ++ (f₁ ++ (": " ++ (v₁ ++ (l.between d ++ (f₂ ++ (": " ++
        (v₂ ++ (l.unbrace d ++ ("\x7d" ++ r))))))))))) := by
  show name ++ " \x7b" ++ l.brace d ++ f₁ ++ ": " ++ v₁ ++ l.between d ++ f₂ ++ ": " ++ v₂
    ++ l.unbrace d ++ "\x7d" ++ r = _
  simp only [String.append_assoc]

theorem record₃_append (l : Layout) (d : Nat) (name f₁ v₁ f₂ v₂ f₃ v₃ r : String) :
    l.record₃ d name f₁ v₁ f₂ v₂ f₃ v₃ ++ r =
      name ++ (" \x7b" ++ (l.brace d ++ (f₁ ++ (": " ++ (v₁ ++ (l.between d ++ (f₂ ++ (": " ++
        (v₂ ++ (l.between d ++ (f₃ ++ (": " ++
          (v₃ ++ (l.unbrace d ++ ("\x7d" ++ r))))))))))))))) := by
  show name ++ " \x7b" ++ l.brace d ++ f₁ ++ ": " ++ v₁ ++ l.between d ++ f₂ ++ ": " ++ v₂
    ++ l.between d ++ f₃ ++ ": " ++ v₃ ++ l.unbrace d ++ "\x7d" ++ r = _
  simp only [String.append_assoc]

theorem applied_append (l : Layout) (d : Nat) (name v r : String) :
    l.applied d name v ++ r =
      name ++ ("(" ++ (l.paren d ++ (v ++ (l.unparen d ++ (")" ++ r))))) := by
  show name ++ "(" ++ l.paren d ++ v ++ l.unparen d ++ ")" ++ r = _
  simp only [String.append_assoc]

theorem legible_record₂ {α β : Type} {write₁ : α → String} {write₂ : β → String}
    (hl : l.PartsFields) (hP : P ',' = false) (h₁ : Legible write₁ (StartsOutside P))
    (h₂ : Legible write₂ fun _ => True) (d : Nat) (name f₁ f₂ : String) :
    Legible (fun v : α × β => l.record₂ d name f₁ (write₁ v.1) f₂ (write₂ v.2)) fun _ => True := by
  intro v w r s _ _ h
  simp only [record₂_append, String.append_right_inj] at h
  obtain ⟨hfirst, h⟩ :=
    h₁ (startsOutside_between hl hP d _) (startsOutside_between hl hP d _) h
  simp only [String.append_right_inj] at h
  obtain ⟨hsecond, h⟩ := h₂ trivial trivial h
  simp only [String.append_right_inj] at h
  exact ⟨Prod.ext hfirst hsecond, h⟩

theorem legible_applied {α : Type} {write : α → String} (hl : l.PartsFields) (hP : P ',' = false)
    (hP' : P ')' = false) (h : Legible write (StartsOutside P)) (d : Nat) (name : String) :
    Legible (fun v => l.applied d name (write v)) fun _ => True := by
  intro v w r s _ _ heq
  simp only [applied_append, String.append_right_inj] at heq
  obtain ⟨hvalue, heq⟩ :=
    h (startsOutside_unparen hl hP hP' d _) (startsOutside_unparen hl hP hP' d _) heq
  simp only [String.append_right_inj] at heq
  exact ⟨hvalue, heq⟩

end Layout

/-! ### Causes and failures -/

variable {l : Layout}

namespace Cause

def initial : Cause → Char
  | os _ => 'O'
  | bare _ => 'K'
  | fixed _ _ => 'E'
  | custom _ _ => 'C'

theorem head_render (c : Cause) (d : Nat) (r : String) :
    (c.render l d ++ r).toList.head? = some c.initial := by
  cases c with
  | os n => simp [render, Layout.record₃_append, initial]
  | bare k => simp [render, Layout.applied_append, initial]
  | fixed k m | custom k m => simp [render, Layout.record₂_append, initial]

theorem legible_os (hl : l.PartsFields) (d : Nat) :
    Legible (fun n => render l d (.os n)) fun _ => True := by
  intro m n r s _ _ h
  -- once the number is known, so is what follows it
  have hmn : m = n := by
    simp only [render, Layout.record₃_append, String.append_right_inj] at h
    exact (legible_integer (Layout.startsOutside_between hl (by decide) d _)
      (Layout.startsOutside_between hl (by decide) d _) h).1
  subst hmn
  exact ⟨rfl, (String.append_right_inj _).mp h⟩

theorem legible_bare (hl : l.PartsFields) (d : Nat) :
    Legible (fun k => render l d (.bare k)) fun _ => True :=
  Layout.legible_applied hl (by decide) (by decide) legible_kind d "Kind"

/-- A kind with a message is rendered under the name of its form. -/
theorem legible_message (hl : l.PartsFields) (d : Nat) (name field : String) :
    Legible (fun v : ErrorKind × String =>
      l.record₂ d name "kind" v.1.name field (Quoted.text v.2)) fun _ => True :=
  Layout.legible_record₂ hl (by decide) legible_kind legible_text d name "kind" field

theorem legible_render (hl : l.PartsFields) (d : Nat) : Legible (render l d) fun _ => True := by
  intro a b r s _ _ h
  have hinitial : a.initial = b.initial := by
    have hhead := congrArg (·.toList.head?) h
    simpa only [head_render, Option.some.injEq] using hhead
  cases a with
  | os m =>
    cases b with
    | os n =>
      obtain ⟨hcode, hrest⟩ := legible_os hl d trivial trivial h
      exact ⟨by rw [hcode], hrest⟩
    | bare k | fixed k t | custom k t => simp [initial] at hinitial
  | bare j =>
    cases b with
    | bare k =>
      obtain ⟨hkind, hrest⟩ := legible_bare hl d trivial trivial h
      exact ⟨by rw [hkind], hrest⟩
    | os n | fixed k t | custom k t => simp [initial] at hinitial
  | fixed j t =>
    cases b with
    | fixed k u =>
      obtain ⟨hfields, hrest⟩ :=
        legible_message hl d "Error" "message" (a := (j, t)) (b := (k, u)) trivial trivial h
      cases hfields
      exact ⟨rfl, hrest⟩
    | os n | bare k | custom k u => simp [initial] at hinitial
  | custom j t =>
    cases b with
    | custom k u =>
      obtain ⟨hfields, hrest⟩ :=
        legible_message hl d "Custom" "error" (a := (j, t)) (b := (k, u)) trivial trivial h
      cases hfields
      exact ⟨rfl, hrest⟩
    | os n | bare k | fixed k u => simp [initial] at hinitial

end Cause

namespace Failure

def initial : Failure → Char
  | create _ _ => 'C'
  | seek _ _ => 'S'
  | write _ _ => 'W'

theorem head_render (f : Failure) (r : String) :
    (f.render l ++ r).toList.head? = some f.initial := by
  cases f with
  | create path c => simp [render, Layout.record₂_append, initial]
  | seek offset c => simp [render, Layout.record₂_append, initial]
  | write offset c => simp [render, Layout.record₂_append, initial]

theorem legible_create (hl : l.PartsFields) :
    Legible (fun v : Bytes × Cause => render l (.create v.1 v.2)) fun _ => True :=
  Layout.legible_record₂ (P := isNumeral) hl (by decide) (legible_bytes.mono fun _ _ => trivial)
    (Cause.legible_render hl 1) 0 "Create" "path" "source"

/-- A step that failed at an offset is rendered under its name. -/
theorem legible_at_offset (hl : l.PartsFields) (name : String) :
    Legible (fun v : Nat × Cause =>
      l.record₂ 0 name "offset" (toString v.1) "source" (v.2.render l 1)) fun _ => True :=
  Layout.legible_record₂ hl (by decide) legible_natural (Cause.legible_render hl 1) 0 name "offset"
    "source"

theorem eq_of_render {f g : Failure} (hl : l.PartsFields) (h : f.render l = g.render l) : f = g := by
  have h' : f.render l ++ "" = g.render l ++ "" := congrArg (· ++ "") h
  have hinitial : f.initial = g.initial := by
    have hhead := congrArg (·.toList.head?) h'
    simpa only [head_render, Option.some.injEq] using hhead
  cases f with
  | create p c =>
    cases g with
    | create q d =>
      cases (legible_create hl (a := (p, c)) (b := (q, d)) trivial trivial h').1
      rfl
    | seek offset d | write offset d => simp [initial] at hinitial
  | seek m c =>
    cases g with
    | seek n d =>
      cases (legible_at_offset hl "Seek" (a := (m, c)) (b := (n, d)) trivial trivial h').1
      rfl
    | create q d | write offset d => simp [initial] at hinitial
  | write m c =>
    cases g with
    | write n d =>
      cases (legible_at_offset hl "Write" (a := (m, c)) (b := (n, d)) trivial trivial h').1
      rfl
    | create q d | seek offset d => simp [initial] at hinitial

end Failure

/-! ### One line -/

namespace Quoted

theorem oneLine_enclose {cs : List Char} (h : '\n' ∉ cs) : OneLine (enclose cs) := by
  simp [OneLine, enclose, h]

theorem oneLine_text (s : String) : OneLine (text s) := by
  apply oneLine_enclose
  intro h
  obtain ⟨c, _, hc⟩ := List.mem_flatMap.mp h
  exact newline_not_mem_escape c hc

theorem upperHexDigit_ne_newline : ∀ n < 16, '\n' ≠ upperHexDigit n := by decide

theorem newline_not_mem_escapeByte (b : UInt8) : '\n' ∉ escapeByte b := by
  have hb : b.toNat < 256 := b.toNat_lt
  have hhigh := upperHexDigit_ne_newline (b.toNat / 16) (by omega)
  have hlow := upperHexDigit_ne_newline (b.toNat % 16) (by omega)
  simp [escapeByte, hhigh, hlow]

theorem oneLine_bytes (bs : Bytes) : OneLine (bytes bs) := by
  apply oneLine_enclose
  intro h
  obtain ⟨p, _, hp⟩ := List.mem_flatMap.mp h
  cases p with
  | char c => exact newline_not_mem_escape c hp
  | broken cs =>
    obtain ⟨b, _, hb⟩ := List.mem_flatMap.mp hp
    exact newline_not_mem_escapeByte b hb

end Quoted

theorem ErrorKind.oneLine_name (k : ErrorKind) : OneLine k.name := by
  intro h
  exact absurd (isAlpha_of_mem_name h) (by decide)

namespace Layout

theorem oneLine_record₂ {d : Nat} {name f₁ v₁ f₂ v₂ : String} (hname : OneLine name)
    (hf₁ : OneLine f₁) (hv₁ : OneLine v₁) (hf₂ : OneLine f₂) (hv₂ : OneLine v₂) :
    OneLine (compact.record₂ d name f₁ v₁ f₂ v₂) := by
  rw [← String.append_empty (s := compact.record₂ d name f₁ v₁ f₂ v₂), record₂_append]
  unfold OneLine at *
  simp [compact, hname, hf₁, hv₁, hf₂, hv₂]

theorem oneLine_record₃ {d : Nat} {name f₁ v₁ f₂ v₂ f₃ v₃ : String} (hname : OneLine name)
    (hf₁ : OneLine f₁) (hv₁ : OneLine v₁) (hf₂ : OneLine f₂) (hv₂ : OneLine v₂)
    (hf₃ : OneLine f₃) (hv₃ : OneLine v₃) :
    OneLine (compact.record₃ d name f₁ v₁ f₂ v₂ f₃ v₃) := by
  rw [← String.append_empty (s := compact.record₃ d name f₁ v₁ f₂ v₂ f₃ v₃), record₃_append]
  unfold OneLine at *
  simp [compact, hname, hf₁, hv₁, hf₂, hv₂, hf₃, hv₃]

theorem oneLine_applied {d : Nat} {name v : String} (hname : OneLine name) (hv : OneLine v) :
    OneLine (compact.applied d name v) := by
  rw [← String.append_empty (s := compact.applied d name v), applied_append]
  unfold OneLine at *
  simp [compact, hname, hv]

end Layout

/-- A cause is rendered on one line, whatever its message holds. -/
theorem Cause.oneLine_render (c : Cause) (d : Nat) : OneLine (c.render .compact d) := by
  cases c with
  | os n =>
    exact Layout.oneLine_record₃ (.of_bytes (by decide)) (.of_bytes (by decide)) (.integer n)
      (.of_bytes (by decide)) (ErrorKind.oneLine_name _) (.of_bytes (by decide))
      (Quoted.oneLine_text _)
  | bare k => exact Layout.oneLine_applied (.of_bytes (by decide)) k.oneLine_name
  | fixed k m | custom k m =>
    exact Layout.oneLine_record₂ (.of_bytes (by decide)) (.of_bytes (by decide)) k.oneLine_name
      (.of_bytes (by decide)) (Quoted.oneLine_text m)

theorem Failure.oneLine_render (f : Failure) : OneLine (f.render .compact) := by
  cases f with
  | create path c =>
    exact Layout.oneLine_record₂ (.of_bytes (by decide)) (.of_bytes (by decide))
      (Quoted.oneLine_bytes path) (.of_bytes (by decide)) (c.oneLine_render 1)
  | seek offset c | write offset c =>
    exact Layout.oneLine_record₂ (.of_bytes (by decide)) (.of_bytes (by decide))
      (.integer offset) (.of_bytes (by decide)) (c.oneLine_render 1)

/-- A rendering holds every field of a failure, set out on one line or on many, and the one on a single
line never breaks. -/
theorem rendering_loses_nothing :
    (∀ f g : Failure, f.render .compact = g.render .compact ↔ f = g) ∧
    (∀ f g : Failure, f.render .spread = g.render .spread ↔ f = g) ∧
    ∀ f : Failure, OneLine (f.render .compact) :=
  ⟨fun _ _ => ⟨Failure.eq_of_render Layout.compact_partsFields, congrArg _⟩,
    fun _ _ => ⟨Failure.eq_of_render Layout.spread_partsFields, congrArg _⟩,
    Failure.oneLine_render⟩

end SparseFixture
