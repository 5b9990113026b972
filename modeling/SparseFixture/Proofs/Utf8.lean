import SparseFixture.Utf8

/-!
# Cutting loses nothing

The pieces of a byte string, put together again, are the byte string: a character stands for its
UTF-8 bytes and a broken piece for its own. So a byte string that is read as a text is the bytes of
that text, and a line break is shown only where the bytes hold one. The other way round, the bytes of
a text are cut into its characters, so that a text is shown as it is.
-/

namespace SparseFixture.Utf8

def Piece.bytes : Piece → Bytes
  | .char c => String.utf8EncodeChar c
  | .broken bs => bs

/-! ### Complete sequences -/

/-- A sequence is the UTF-8 form of the character that is read from it. -/
def Spells (seq : Bytes) : Prop := String.utf8EncodeChar (Char.ofNat (codePoint seq)) = seq

theorem codePoint_two (a b : UInt8) :
    codePoint [a, b] = (a.toNat - 0xC0) * 0x40 + (b.toNat - 0x80) := rfl

theorem codePoint_three (a b c : UInt8) : codePoint [a, b, c] =
    (a.toNat - 0xE0) * 0x1000 + (b.toNat - 0x80) * 0x40 + (c.toNat - 0x80) := rfl

theorem codePoint_four (a b c d : UInt8) : codePoint [a, b, c, d] =
    (a.toNat - 0xF0) * 0x40000 + (b.toNat - 0x80) * 0x1000 + (c.toNat - 0x80) * 0x40
      + (d.toNat - 0x80) := rfl

theorem val_ofNat {v : Nat} (h : v.isValidChar) : (Char.ofNat v).val.toNat = v := by
  rw [Char.ofNat, dif_pos h]
  rfl

theorem ofNat_eq {n : Nat} {b : UInt8} (h : n = b.toNat) : UInt8.ofNat n = b := by
  rw [h]
  exact UInt8.ofNat_toNat

theorem spells_ascii {b : UInt8} (h : b < 0x80) :
    String.utf8EncodeChar (Char.ofNat b.toNat) = [b] := by
  have hb : b.toNat < 0x80 := UInt8.lt_iff_toNat_lt.mp h
  have hv : b.toNat.isValidChar := by
    left
    omega
  have hle : b.toNat ≤ 0x7f := by omega
  unfold String.utf8EncodeChar
  rw [val_ofNat hv]
  simp only [if_pos hle, UInt8.ofNat_toNat]

theorem spells_two {a b : UInt8} (ha : 0xC2 ≤ a ∧ a ≤ 0xDF) (hb : 0x80 ≤ b ∧ b ≤ 0xBF) :
    Spells [a, b] := by
  simp only [UInt8.le_iff_toNat_le, UInt8.reduceToNat] at ha hb
  unfold Spells
  rw [codePoint_two]
  generalize hv : (a.toNat - 0xC0) * 0x40 + (b.toNat - 0x80) = v
  have hvalid : v.isValidChar := by
    left
    omega
  unfold String.utf8EncodeChar
  rw [val_ofNat hvalid]
  dsimp only
  rw [if_neg (by omega), if_pos (by omega), ofNat_eq (b := a) (by omega),
    ofNat_eq (b := b) (by omega)]

theorem spells_three {a b c : UInt8} (ha : 0xE0 ≤ a ∧ a ≤ 0xEF) (hb : 0x80 ≤ b ∧ b ≤ 0xBF)
    (hc : 0x80 ≤ c ∧ c ≤ 0xBF) (hlow : a = 0xE0 → 0xA0 ≤ b) (hhigh : a = 0xED → b ≤ 0x9F) :
    Spells [a, b, c] := by
  simp only [UInt8.le_iff_toNat_le, ← UInt8.toNat_inj, UInt8.reduceToNat] at ha hb hc hlow hhigh
  unfold Spells
  rw [codePoint_three]
  generalize hv : (a.toNat - 0xE0) * 0x1000 + (b.toNat - 0x80) * 0x40 + (c.toNat - 0x80) = v
  -- the range of the second byte keeps overlong forms and surrogates out
  have hvalid : v.isValidChar := by
    unfold Nat.isValidChar
    omega
  unfold String.utf8EncodeChar
  rw [val_ofNat hvalid]
  dsimp only
  rw [if_neg (by omega), if_neg (by omega), if_pos (by omega), ofNat_eq (b := a) (by omega),
    ofNat_eq (b := b) (by omega), ofNat_eq (b := c) (by omega)]

theorem spells_four {a b c d : UInt8} (ha : 0xF0 ≤ a ∧ a ≤ 0xF4) (hb : 0x80 ≤ b ∧ b ≤ 0xBF)
    (hc : 0x80 ≤ c ∧ c ≤ 0xBF) (hd : 0x80 ≤ d ∧ d ≤ 0xBF) (hlow : a = 0xF0 → 0x90 ≤ b)
    (hhigh : a = 0xF4 → b ≤ 0x8F) : Spells [a, b, c, d] := by
  simp only [UInt8.le_iff_toNat_le, ← UInt8.toNat_inj, UInt8.reduceToNat] at ha hb hc hd hlow hhigh
  unfold Spells
  rw [codePoint_four]
  generalize hv : (a.toNat - 0xF0) * 0x40000 + (b.toNat - 0x80) * 0x1000 +
    (c.toNat - 0x80) * 0x40 + (d.toNat - 0x80) = v
  -- here it keeps overlong forms out, and what lies above U+10FFFF
  have hvalid : v.isValidChar := by
    unfold Nat.isValidChar
    omega
  unfold String.utf8EncodeChar
  rw [val_ofNat hvalid]
  dsimp only
  rw [if_neg (by omega), if_neg (by omega), if_neg (by omega), ofNat_eq (b := a) (by omega),
    ofNat_eq (b := b) (by omega), ofNat_eq (b := c) (by omega), ofNat_eq (b := d) (by omega)]

/-! ### Sequences that have begun -/

/-- Every way to complete a sequence spells a character: first a byte from the range, then as many
continuation bytes as are missing. -/
def Promises : Nat → Bytes → UInt8 → UInt8 → Prop
  | 0, seen, low, high => ∀ b, low ≤ b → b ≤ high → Spells (seen ++ [b])
  | n + 1, seen, low, high => ∀ b, low ≤ b → b ≤ high → Promises n (seen ++ [b]) 0x80 0xBF

def Sound : Option Unfinished → Prop
  | none => True
  | some u => Promises u.more u.seen u.low u.high

def seenBytes : Option Unfinished → Bytes
  | none => []
  | some u => u.seen

theorem promises_one {a low high : UInt8} (ha : 0xE0 ≤ a ∧ a ≤ 0xEF) (hl : 0x80 ≤ low)
    (hh : high ≤ 0xBF) (hlow : a = 0xE0 → 0xA0 ≤ low) (hhigh : a = 0xED → high ≤ 0x9F) :
    Promises 1 [a] low high := by
  intro b hlb hbh c hlc hch
  have hb : 0x80 ≤ b ∧ b ≤ 0xBF := ⟨UInt8.le_trans hl hlb, UInt8.le_trans hbh hh⟩
  exact spells_three ha hb ⟨hlc, hch⟩ (fun h => UInt8.le_trans (hlow h) hlb)
    fun h => UInt8.le_trans hbh (hhigh h)

theorem promises_two {a low high : UInt8} (ha : 0xF0 ≤ a ∧ a ≤ 0xF4) (hl : 0x80 ≤ low)
    (hh : high ≤ 0xBF) (hlow : a = 0xF0 → 0x90 ≤ low) (hhigh : a = 0xF4 → high ≤ 0x8F) :
    Promises 2 [a] low high := by
  intro b hlb hbh c hlc hch d hld hdh
  have hb : 0x80 ≤ b ∧ b ≤ 0xBF := ⟨UInt8.le_trans hl hlb, UInt8.le_trans hbh hh⟩
  exact spells_four ha hb ⟨hlc, hch⟩ ⟨hld, hdh⟩ (fun h => UInt8.le_trans (hlow h) hlb)
    fun h => UInt8.le_trans hbh (hhigh h)

theorem begins?_promises {a : UInt8} {u : Unfinished} (h : begins? a = some u) :
    u.seen = [a] ∧ Promises u.more u.seen u.low u.high := by
  revert h
  fun_cases begins? a with
  | case1 ha =>
    rintro ⟨⟩
    exact ⟨rfl, fun b hlb hbh => spells_two ha ⟨hlb, hbh⟩⟩
  | case2 _ ha =>
    subst ha
    rintro ⟨⟩
    exact ⟨rfl, promises_one (by decide) (by decide) (by decide) (by decide) (by decide)⟩
  | case3 _ _ ha =>
    subst ha
    rintro ⟨⟩
    exact ⟨rfl, promises_one (by decide) (by decide) (by decide) (by decide) (by decide)⟩
  | case4 _ hE0 hED ha =>
    rintro ⟨⟩
    have ha' : 0xE0 ≤ a ∧ a ≤ 0xEF := ⟨UInt8.le_trans (by decide) ha.1, ha.2⟩
    exact ⟨rfl, promises_one ha' (UInt8.le_refl _) (UInt8.le_refl _) (absurd · hE0) (absurd · hED)⟩
  | case5 _ _ _ _ ha =>
    subst ha
    rintro ⟨⟩
    exact ⟨rfl, promises_two (by decide) (by decide) (by decide) (by decide) (by decide)⟩
  | case6 _ _ _ _ hF0 ha =>
    rintro ⟨⟩
    have ha' : 0xF0 ≤ a ∧ a ≤ 0xF4 :=
      ⟨UInt8.le_trans (by decide) ha.1, UInt8.le_trans ha.2 (by decide)⟩
    have hF4 : a ≠ 0xF4 := by
      intro h
      rw [h] at ha
      exact absurd ha.2 (by decide)
    exact ⟨rfl, promises_two ha' (UInt8.le_refl _) (UInt8.le_refl _) (absurd · hF0) (absurd · hF4)⟩
  | case7 _ _ _ _ _ _ ha =>
    subst ha
    rintro ⟨⟩
    exact ⟨rfl, promises_two (by decide) (by decide) (by decide) (by decide) (by decide)⟩
  | case8 => rintro ⟨⟩

/-! ### One byte, and then all -/

theorem start_keeps (b : UInt8) :
    (start b).1.flatMap Piece.bytes ++ seenBytes (start b).2 = [b] ∧ Sound (start b).2 := by
  unfold start
  split
  · next hb =>
    refine ⟨?_, trivial⟩
    simp only [List.flatMap_cons, List.flatMap_nil, Piece.bytes, spells_ascii hb, seenBytes,
      List.append_nil]
  · split
    · next u hu => exact begins?_promises hu
    · exact ⟨rfl, trivial⟩

theorem step_keeps {u : Option Unfinished} (hu : Sound u) (b : UInt8) :
    (step u b).1.flatMap Piece.bytes ++ seenBytes (step u b).2 = seenBytes u ++ [b] ∧
      Sound (step u b).2 := by
  cases u with
  | none => exact start_keeps b
  | some u =>
    obtain ⟨seen, more, low, high⟩ := u
    simp only [step]
    split
    · next hb =>
      cases more with
      | zero =>
        have hspells : Spells (seen ++ [b]) := hu b hb.1 hb.2
        refine ⟨?_, trivial⟩
        simp only [List.flatMap_cons, List.flatMap_nil, Piece.bytes, seenBytes, List.append_nil]
        exact hspells
      | succ n => exact ⟨rfl, hu b hb.1 hb.2⟩
    · obtain ⟨hbytes, hsound⟩ := start_keeps b
      refine ⟨?_, hsound⟩
      simp only [List.flatMap_cons, Piece.bytes, seenBytes, List.append_assoc]
      rw [← hbytes]
      rfl

theorem scan_keeps {u : Option Unfinished} (hu : Sound u) (bs : Bytes) :
    (scan u bs).flatMap Piece.bytes = seenBytes u ++ bs := by
  induction bs generalizing u with
  | nil =>
    cases u with
    | none => rfl
    | some u => simp only [scan, finish, seenBytes, List.flatMap_cons, List.flatMap_nil, Piece.bytes]
  | cons b bs ih =>
    obtain ⟨hbytes, hsound⟩ := step_keeps hu b
    rw [scan, List.flatMap_append, ih hsound, ← List.append_assoc, hbytes, List.append_assoc]
    rfl

/-- The pieces hold every byte, in order. -/
theorem flatMap_bytes_pieces (bs : Bytes) : (pieces bs).flatMap Piece.bytes = bs :=
  scan_keeps (u := none) trivial bs

/-! ### What the pieces are read as -/

theorem flatMap_bytes_of_mapM {ps : List Piece} {cs : List Char}
    (h : ps.mapM Piece.char? = some cs) :
    ps.flatMap Piece.bytes = cs.flatMap String.utf8EncodeChar := by
  induction ps generalizing cs with
  | nil =>
    cases h
    rfl
  | cons p ps ih =>
    rw [List.mapM_cons] at h
    obtain ⟨c, hc, h⟩ := Option.bind_eq_some_iff.mp h
    obtain ⟨cs', hcs, h⟩ := Option.bind_eq_some_iff.mp h
    cases h
    cases p with
    | char c' =>
      cases hc
      simp only [List.flatMap_cons, ih hcs, Piece.bytes]
    | broken bs => cases hc

/-- A byte string that is read as a text is the bytes of this text. -/
theorem ofText_of_text? {bs : Bytes} {s : String} (h : text? bs = some s) : Bytes.ofText s = bs := by
  obtain ⟨cs, hcs, rfl⟩ := Option.map_eq_some_iff.mp h
  rw [Bytes.ofText, String.toList_ofList, ← flatMap_bytes_of_mapM hcs, flatMap_bytes_pieces]

theorem last_byte_not_mem_encode (c : Char) : 0xFF ∉ String.utf8EncodeChar c := by
  have hne : ∀ n, n % 256 ≠ 0xFF → 0xFF ≠ UInt8.ofNat n := by
    intro n hn h
    apply hn
    rw [← UInt8.toNat_ofNat', ← h]
    rfl
  unfold String.utf8EncodeChar
  dsimp only
  split
  · simp only [List.mem_singleton]
    exact hne _ (by omega)
  split
  · simp only [List.mem_cons, List.not_mem_nil, or_false, not_or]
    exact ⟨hne _ (by omega), hne _ (by omega)⟩
  split
  · simp only [List.mem_cons, List.not_mem_nil, or_false, not_or]
    exact ⟨hne _ (by omega), hne _ (by omega), hne _ (by omega)⟩
  · simp only [List.mem_cons, List.not_mem_nil, or_false, not_or]
    exact ⟨hne _ (by omega), hne _ (by omega), hne _ (by omega), hne _ (by omega)⟩

theorem last_byte_not_mem_ofText (s : String) : 0xFF ∉ Bytes.ofText s := by
  intro h
  obtain ⟨c, _, hc⟩ := List.mem_flatMap.mp h
  exact last_byte_not_mem_encode c hc

/-- A line break is shown only for the byte of a line break. -/
theorem newline_mem_of_lossy {bs : Bytes} (h : '\n' ∈ (lossy bs).toList) : 0x0A ∈ bs := by
  rw [lossy, String.toList_ofList] at h
  obtain ⟨p, hp, hshown⟩ := List.mem_map.mp h
  cases p with
  | char c =>
    have hc : c = '\n' := hshown
    subst hc
    rw [← flatMap_bytes_pieces bs]
    exact List.mem_flatMap.mpr ⟨_, hp, by decide⟩
  | broken b =>
    have hc : replacement = '\n' := hshown
    exact absurd hc (by decide)

/-! ### What is written is read -/

theorem scan_continued {seen : Bytes} {low high b : UInt8} (cs rest : Bytes)
    (hb : low ≤ b ∧ b ≤ high) (hcs : ∀ c ∈ cs, 0x80 ≤ c ∧ c ≤ 0xBF) :
    scan (some ⟨seen, cs.length, low, high⟩) (b :: (cs ++ rest)) =
      .char (Char.ofNat (codePoint (seen ++ b :: cs))) :: scan none rest := by
  induction cs generalizing seen low high b with
  | nil => simp only [scan, step, if_pos hb, List.length_nil, List.nil_append, List.cons_append]
  | cons c cs ih =>
    have hc : 0x80 ≤ c ∧ c ≤ 0xBF := hcs c (.head _)
    have hrest : ∀ d ∈ cs, 0x80 ≤ d ∧ d ≤ 0xBF := fun d hd => hcs d (.tail _ hd)
    have hseen : seen ++ b :: c :: cs = seen ++ [b] ++ c :: cs := by
      rw [List.append_assoc, List.singleton_append]
    rw [scan, step, if_pos hb, hseen]
    exact ih hc hrest

/-- The bytes that a well-formed sequence outside ASCII is made of. -/
structure Sequence (first second : UInt8) (others : Bytes) : Prop where
  nonascii : 0x80 ≤ first
  begun : ∃ low high, begins? first = some ⟨[first], others.length, low, high⟩ ∧
    low ≤ second ∧ second ≤ high
  continued : ∀ c ∈ others, 0x80 ≤ c ∧ c ≤ 0xBF

theorem scan_sequence {a b : UInt8} {cs : Bytes} (h : Sequence a b cs) (rest : Bytes) :
    scan none (a :: b :: (cs ++ rest)) =
      .char (Char.ofNat (codePoint (a :: b :: cs))) :: scan none rest := by
  obtain ⟨low, high, hbegins, hb⟩ := h.begun
  have hascii : ¬ a < 0x80 := UInt8.not_lt.mpr h.nonascii
  have hstart : start a = ([], some ⟨[a], cs.length, low, high⟩) := by
    simp only [start, if_neg hascii, hbegins]
  rw [scan, step, hstart]
  exact scan_continued cs rest hb h.continued

theorem sequence_two {a b : UInt8} (ha : 0xC2 ≤ a ∧ a ≤ 0xDF) (hb : 0x80 ≤ b ∧ b ≤ 0xBF) :
    Sequence a b [] where
  nonascii := UInt8.le_trans (by decide) ha.1
  begun := ⟨_, _, by rw [begins?, if_pos ha]; rfl, hb⟩
  continued := nofun

theorem sequence_three {a b c : UInt8} (ha : 0xE0 ≤ a ∧ a ≤ 0xEF) (hb : 0x80 ≤ b ∧ b ≤ 0xBF)
    (hc : 0x80 ≤ c ∧ c ≤ 0xBF) (hlow : a = 0xE0 → 0xA0 ≤ b) (hhigh : a = 0xED → b ≤ 0x9F) :
    Sequence a b [c] where
  nonascii := UInt8.le_trans (by decide) ha.1
  begun := by
    fun_cases begins? a with
    | case2 _ h => exact ⟨_, _, rfl, hlow h, hb.2⟩
    | case3 _ _ h => exact ⟨_, _, rfl, hb.1, hhigh h⟩
    | case4 => exact ⟨_, _, rfl, hb⟩
    -- the others are for first bytes in other ranges
    | case1 | case5 | case6 | case7 | case8 => grind
  continued := by simpa using hc

theorem sequence_four {a b c d : UInt8} (ha : 0xF0 ≤ a ∧ a ≤ 0xF4) (hb : 0x80 ≤ b ∧ b ≤ 0xBF)
    (hc : 0x80 ≤ c ∧ c ≤ 0xBF) (hd : 0x80 ≤ d ∧ d ≤ 0xBF) (hlow : a = 0xF0 → 0x90 ≤ b)
    (hhigh : a = 0xF4 → b ≤ 0x8F) : Sequence a b [c, d] where
  nonascii := UInt8.le_trans (by decide) ha.1
  begun := by
    fun_cases begins? a with
    | case5 _ _ _ _ h => exact ⟨_, _, rfl, hlow h, hb.2⟩
    | case6 => exact ⟨_, _, rfl, hb⟩
    | case7 _ _ _ _ _ _ h => exact ⟨_, _, rfl, hb.1, hhigh h⟩
    | case1 | case2 | case3 | case4 | case8 => grind
  continued := by simpa using ⟨hc, hd⟩

theorem encode_two {v : Nat} (h : 0x80 ≤ v) (h' : v ≤ 0x7FF) :
    Sequence (UInt8.ofNat (v / 64 % 32 + 192)) (UInt8.ofNat (v % 64 + 128)) [] ∧
      codePoint [UInt8.ofNat (v / 64 % 32 + 192), UInt8.ofNat (v % 64 + 128)] = v := by
  have ha := UInt8.toNat_ofNat_of_lt' (show v / 64 % 32 + 192 < 256 by omega)
  have hb := UInt8.toNat_ofNat_of_lt' (show v % 64 + 128 < 256 by omega)
  constructor
  · apply sequence_two
    all_goals
      simp only [UInt8.le_iff_toNat_le, UInt8.reduceToNat, ha, hb]
      omega
  · rw [codePoint_two, ha, hb]
    omega

theorem encode_three {v : Nat} (h : 0x800 ≤ v) (h' : v ≤ 0xFFFF) (hvalid : v < 0xD800 ∨ 0xDFFF < v) :
    Sequence (UInt8.ofNat (v / 4096 % 16 + 224)) (UInt8.ofNat (v / 64 % 64 + 128))
        [UInt8.ofNat (v % 64 + 128)] ∧
      codePoint [UInt8.ofNat (v / 4096 % 16 + 224), UInt8.ofNat (v / 64 % 64 + 128),
        UInt8.ofNat (v % 64 + 128)] = v := by
  have ha := UInt8.toNat_ofNat_of_lt' (show v / 4096 % 16 + 224 < 256 by omega)
  have hb := UInt8.toNat_ofNat_of_lt' (show v / 64 % 64 + 128 < 256 by omega)
  have hc := UInt8.toNat_ofNat_of_lt' (show v % 64 + 128 < 256 by omega)
  constructor
  -- no surrogate is encoded, so a second byte behind 0xED is low
  · apply sequence_three
    all_goals
      simp only [UInt8.le_iff_toNat_le, ← UInt8.toNat_inj, UInt8.reduceToNat, ha, hb, hc]
      omega
  · rw [codePoint_three, ha, hb, hc]
    omega

theorem encode_four {v : Nat} (h : 0x10000 ≤ v) (h' : v < 0x110000) :
    Sequence (UInt8.ofNat (v / 262144 % 8 + 240)) (UInt8.ofNat (v / 4096 % 64 + 128))
        [UInt8.ofNat (v / 64 % 64 + 128), UInt8.ofNat (v % 64 + 128)] ∧
      codePoint [UInt8.ofNat (v / 262144 % 8 + 240), UInt8.ofNat (v / 4096 % 64 + 128),
        UInt8.ofNat (v / 64 % 64 + 128), UInt8.ofNat (v % 64 + 128)] = v := by
  have ha := UInt8.toNat_ofNat_of_lt' (show v / 262144 % 8 + 240 < 256 by omega)
  have hb := UInt8.toNat_ofNat_of_lt' (show v / 4096 % 64 + 128 < 256 by omega)
  have hc := UInt8.toNat_ofNat_of_lt' (show v / 64 % 64 + 128 < 256 by omega)
  have hd := UInt8.toNat_ofNat_of_lt' (show v % 64 + 128 < 256 by omega)
  constructor
  · apply sequence_four
    all_goals
      simp only [UInt8.le_iff_toNat_le, ← UInt8.toNat_inj, UInt8.reduceToNat, ha, hb, hc, hd]
      omega
  · rw [codePoint_four, ha, hb, hc, hd]
    omega

/-- The UTF-8 form of a character outside ASCII is a sequence that spells it. -/
theorem encode_sequence (c : Char) (h : 0x80 ≤ c.val.toNat) :
    ∃ a b cs, String.utf8EncodeChar c = a :: b :: cs ∧ Sequence a b cs ∧
      codePoint (a :: b :: cs) = c.val.toNat := by
  have hvalid : c.val.toNat < 0xD800 ∨ 0xDFFF < c.val.toNat ∧ c.val.toNat < 0x110000 := c.valid
  unfold String.utf8EncodeChar
  generalize c.val.toNat = v at h hvalid
  dsimp only
  rw [if_neg (by omega)]
  split
  · next htwo => exact ⟨_, _, _, rfl, encode_two h htwo⟩
  split
  · next hthree => exact ⟨_, _, _, rfl, encode_three (by omega) hthree (by omega)⟩
  · exact ⟨_, _, _, rfl, encode_four (by omega) (by omega)⟩

theorem scan_encode (c : Char) (rest : Bytes) :
    scan none (String.utf8EncodeChar c ++ rest) = .char c :: scan none rest := by
  by_cases h : c.val.toNat < 0x80
  · have hb := UInt8.toNat_ofNat_of_lt' (show c.val.toNat < 256 by omega)
    have hlt : UInt8.ofNat c.val.toNat < 0x80 := by
      rw [UInt8.lt_iff_toNat_lt, hb]
      exact h
    have hencode : String.utf8EncodeChar c = [UInt8.ofNat c.val.toNat] := by
      unfold String.utf8EncodeChar
      exact if_pos (by omega)
    have hchar : Char.ofNat c.val.toNat = c := Char.ofNat_toNat c
    rw [hencode, List.singleton_append, scan, step, start_ascii hlt, hb, hchar]
    rfl
  · obtain ⟨a, b, cs, hencode, hsequence, hpoint⟩ := encode_sequence c (Nat.not_lt.mp h)
    have hchar : Char.ofNat c.val.toNat = c := Char.ofNat_toNat c
    rw [hencode, List.cons_append, List.cons_append, scan_sequence hsequence, hpoint, hchar]

/-- The pieces of the bytes of a text are its characters. -/
theorem pieces_ofText (s : String) : pieces (Bytes.ofText s) = s.toList.map Piece.char := by
  unfold pieces Bytes.ofText
  induction s.toList with
  | nil => rfl
  | cons c cs ih => rw [List.flatMap_cons, scan_encode, ih, List.map_cons]

theorem text?_ofText (s : String) : text? (Bytes.ofText s) = some s := by
  have hread : ∀ cs : List Char, (cs.map Piece.char).mapM Piece.char? = some cs := by
    intro cs
    induction cs with
    | nil => rfl
    | cons c cs ih =>
      rw [List.map_cons, List.mapM_cons, ih]
      rfl
  rw [text?, pieces_ofText, hread, Option.map_some, String.ofList_toList]

/-- A text is shown as it is. -/
theorem lossy_ofText (s : String) : lossy (Bytes.ofText s) = s := by
  have hshown : Piece.shown ∘ Piece.char = id := rfl
  rw [lossy, pieces_ofText, List.map_map, hshown, List.map_id, String.ofList_toList]

end SparseFixture.Utf8
