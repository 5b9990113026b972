/-!
# Permission bits

The twelve permission bits of an inode: set-user-id, set-group-id and sticky, then read, write and
execute for the owner, the group and the others.
-/

namespace SparseFixture

/-- Permission bits. -/
abbrev Mode := BitVec 12

namespace Mode

def setUser : Mode := 0o4000
def setGroup : Mode := 0o2000
def ownerWrite : Mode := 0o200
def ownerSearch : Mode := 0o100
def groupExecute : Mode := 0o010

/-- The nine bits for reading, writing and executing. -/
def access : Mode := 0o777

/-- Whether some bit of `bits` is set. -/
def has (m bits : Mode) : Bool := m &&& bits != 0

/-- The mode with the bits of a mask taken away. -/
def without (m mask : Mode) : Mode := m &&& ~~~mask

/-- What a change of content by an unprivileged user leaves of a mode: the set-user-id bit goes, and
the set-group-id bit goes with it if the group may execute the file. -/
def withoutSetId (m : Mode) : Mode :=
  m.without (if m.has groupExecute then setUser ||| setGroup else setUser)

/-- The octal digits of a mode, without leading zeros. -/
def octal (m : Mode) : String := String.ofList (Nat.toDigits 8 m.toNat)

theorem withoutSetId_and_access (m : Mode) : m.withoutSetId &&& access = m &&& access := by
  have h₁ : ~~~(setUser ||| setGroup) &&& access = access := by decide
  have h₂ : ~~~setUser &&& access = access := by decide
  unfold withoutSetId without
  split
  · rw [BitVec.and_assoc, h₁]
  · rw [BitVec.and_assoc, h₂]

theorem withoutSetId_idem (m : Mode) : m.withoutSetId.withoutSetId = m.withoutSetId := by
  have hx : ∀ k : Mode, k &&& groupExecute = 0 → (m &&& ~~~k) &&& groupExecute = m &&& groupExecute := by
    intro k hk
    apply BitVec.eq_of_getLsbD_eq
    intro i hi
    have := congrArg (fun v : Mode => v.getLsbD i) hk
    simp only [BitVec.getLsbD_and, BitVec.getLsbD_not] at this ⊢
    grind
  have h₁ := hx (setUser ||| setGroup) (by decide)
  have h₂ := hx setUser (by decide)
  by_cases h : m.has groupExecute
  · have hm : m.withoutSetId = m &&& ~~~(setUser ||| setGroup) := by
      simp only [withoutSetId, without, h, if_true]
    have hm' : m.withoutSetId.has groupExecute = true := by
      rw [hm, has, h₁]
      exact h
    rw [withoutSetId, hm']
    simp only [without, if_true, hm, BitVec.and_assoc, BitVec.and_self]
  · have hm : m.withoutSetId = m &&& ~~~setUser := by
      simp only [withoutSetId, without, h, if_false, Bool.false_eq_true]
    have hm' : ¬ m.withoutSetId.has groupExecute = true := by
      rw [hm, has, h₂]
      exact h
    rw [withoutSetId, if_neg hm']
    simp only [without, hm, BitVec.and_assoc, BitVec.and_self]

end Mode

end SparseFixture
