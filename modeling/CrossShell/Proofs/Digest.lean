import CrossShell.Digest

/-!
The form of a digest: lower-case hexadecimal digits, and so no character that means something in a
path.
-/

set_option autoImplicit false

namespace CrossShell.Digest

/-- The characters that a digest is made of. -/
def digits : List Char :=
  "0123456789abcdef".toList

theorem hexDigit_mem_digits {n : Nat} (h : n < 16) : Text.hexDigit n ∈ digits := by
  have hmem := List.mem_range.2 h
  revert n
  decide

theorem mem_digits_of_mem_hexPair {n : Nat} {c : Char} (h : c ∈ Text.hexPair n) : c ∈ digits := by
  simp only [Text.hexPair, List.mem_cons, List.not_mem_nil, or_false] at h
  obtain rfl | rfl := h
  · exact hexDigit_mem_digits (by omega)
  · exact hexDigit_mem_digits (by omega)

theorem mem_digits_of_mem_ofText {text : String} {c : Char} (h : c ∈ (ofText text).text.toList) :
    c ∈ digits := by
  unfold ofText at h
  rw [String.toList_ofList] at h
  obtain ⟨b, _, hc⟩ := List.mem_flatMap.1 (List.mem_of_mem_take h)
  exact mem_digits_of_mem_hexPair hc

end CrossShell.Digest
