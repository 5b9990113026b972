import SparseFixture.Failure
import SparseFixture.Proofs.Utf8

/-!
# Failures are told on one line

The line that tells of a failure breaks only where the path breaks that it shows. Nothing else in it
can: the descriptions of the error numbers are free of line breaks, and so are the numbers.
-/

namespace SparseFixture

/-- A number is written with digits, behind a minus sign if it is negative. -/
theorem minus_or_digit_of_mem {n : Int} {c : Char} (h : c ∈ (toString n).toList) :
    c = '-' ∨ c.isDigit = true := by
  have hdigit : ∀ k : Nat, c ∈ k.repr.toList → c.isDigit = true := by
    intro k hk
    rw [Nat.toList_repr] at hk
    exact Nat.isDigit_of_mem_toDigits (by decide) (by decide) hk
  rw [Int.toString_eq_repr, Int.repr_eq_if] at h
  split at h
  · exact .inr (hdigit _ h)
  · rw [String.toList_append] at h
    rcases List.mem_append.mp h with hminus | hrest
    · exact .inl (List.mem_singleton.mp hminus)
    · exact .inr (hdigit _ hrest)

def OneLine (s : String) : Prop := '\n' ∉ s.toList

namespace OneLine

theorem append {s t : String} (hs : OneLine s) (ht : OneLine t) : OneLine (s ++ t) := by
  unfold OneLine at *
  rw [String.toList_append, List.mem_append]
  exact fun h => h.elim hs ht

/-- The bytes of a text tell as well as its characters do, and faster. -/
theorem of_bytes {s : String} (h : 0x0A ∉ s.toByteArray.data.toList) : OneLine s := by
  intro hs
  apply h
  rw [← String.utf8Encode_toList, List.utf8Encode, List.toList_data_toByteArray]
  exact List.mem_flatMap.mpr ⟨_, hs, by decide⟩

theorem integer (n : Int) : OneLine (toString n) := by
  intro h
  rcases minus_or_digit_of_mem h with hminus | hdigit
  · exact absurd hminus (by decide)
  · exact absurd hdigit (by decide)

theorem lossy {bs : Bytes} (h : 0x0A ∉ bs) : OneLine (Utf8.lossy bs) :=
  fun hs => h (Utf8.newline_mem_of_lossy hs)

end OneLine

theorem Errno.oneLine_table : ∀ row ∈ table, 0x0A ∉ row.1.toByteArray.data.toList := by
  decide +kernel

theorem Errno.oneLine_description (n : Int) : OneLine (description n) := by
  unfold description
  split
  · next s k hrow =>
    have hmem : (s, k) ∈ table := by
      unfold row? at hrow
      split at hrow
      · exact List.mem_of_getElem? hrow
      · cases hrow
    exact .of_bytes (oneLine_table _ hmem)
  · exact .append (.of_bytes (by decide)) (.integer n)

namespace Cause

theorem oneLine_os (n : Int) : OneLine (text (.os n)) :=
  (((Errno.oneLine_description n).append (.of_bytes (by decide))).append (.integer n)).append
    (.of_bytes (by decide))

theorem oneLine_nulInPath : OneLine nulInPath.text := .of_bytes (by decide)

end Cause

/-- The line of a failure breaks only where its cause or its path does. -/
theorem Failure.oneLine_display {f : Failure} (hc : OneLine f.cause.text)
    (hp : ∀ path c, f = .create path c → 0x0A ∉ path) : OneLine f.display := by
  cases f with
  | create path c =>
    have hpath : OneLine (Utf8.lossy path) := .lossy (hp path c rfl)
    exact ((OneLine.append (.of_bytes (by decide)) hpath).append (.of_bytes (by decide))).append hc
  | seek offset c => exact OneLine.append (.of_bytes (by decide)) hc
  | write offset c => exact OneLine.append (.of_bytes (by decide)) hc

end SparseFixture
