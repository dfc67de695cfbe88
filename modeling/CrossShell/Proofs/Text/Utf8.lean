import CrossShell.Script.Literal
import CrossShell.Text.Utf8

/-!
Texts and their bytes: a text is what its bytes decode to and no other bytes decode to it, and the
bytes of a script's literal are those of its characters. Lossy decoding reads a text of plain
characters from its own bytes only, because whatever is more than one byte is read as something that
is not plain.
-/

set_option autoImplicit false

namespace CrossShell.Text

theorem decode?_encode (text : String) : decode? (encode text) = some text := by
  have hvalid : text.toUTF8.IsValidUTF8 := text.isValidUTF8
  unfold decode? encode String.fromUTF8?
  rw [dif_pos hvalid]
  rfl

theorem mk_bytesOf (text : String) :
    ByteArray.mk (Script.Literal.bytesOf text.toList).toArray = encode text := by
  have hencode : text.toList.utf8Encode = text.toByteArray := by simp
  unfold encode String.toUTF8
  rw [← hencode]
  ext1
  simp [List.utf8Encode, Script.Literal.bytesOf]

theorem encode_of_decode? {bytes : ByteArray} {text : String} (h : decode? bytes = some text) :
    encode text = bytes := by
  unfold decode? String.fromUTF8? at h
  split at h
  · cases h
    rfl
  · cases h

/-! ## Lossy decoding -/

/-- The characters that are one byte each, but for the one that ends texts. -/
def IsPlain (c : Char) : Prop :=
  c.toNat ≠ 0 ∧ c.toNat < 0x80

theorem not_isPlain_replacement : ¬ IsPlain replacement :=
  fun h => absurd h.2 (by decide)

theorem not_isPlain_ofNat {n : Nat} (h : 0x80 ≤ n) : ¬ IsPlain (Char.ofNat n) := by
  rintro ⟨hzero, hlt⟩
  by_cases hvalid : n.isValidChar
  · have hn : (Char.ofNat n).toNat = n := by
      rw [Char.ofNat, dif_pos hvalid]
      rfl
    omega
  · rw [Char.ofNat, dif_neg hvalid] at hzero
    exact hzero rfl

/-- What has been read of a character is enough for it not to be plain. -/
structure IsWide (p : Partial) : Prop where
  low : 0x80 ≤ p.low
  wide : 2 ≤ p.value ∨ p.owed ≠ 1 ∧ (1 ≤ p.value ∨ 0x90 ≤ p.low)

theorem isWide_leadByte {b : Nat} {p : Partial} (h : (leadByte b).2 = some p) : IsWide p := by
  unfold leadByte at h
  split at h
  · cases h
  · split at h
    · cases h
    · split at h
      · obtain rfl := Option.some.inj h
        exact ⟨Nat.le_refl _, .inl (by dsimp only; omega)⟩
      · split at h
        · obtain rfl := Option.some.inj h
          refine ⟨by dsimp only; split <;> omega, .inr ⟨by dsimp only; omega, ?_⟩⟩
          dsimp only
          split <;> omega
        · split at h
          · obtain rfl := Option.some.inj h
            refine ⟨by dsimp only; split <;> omega, .inr ⟨by dsimp only; omega, ?_⟩⟩
            dsimp only
            split <;> omega
          · cases h

/-- A byte that opens no character is plain, or is replaced. -/
theorem leadByte_of_none {b : Nat} (h : (leadByte b).2 = none) :
    b < 0x80 ∧ (leadByte b).1 = [Char.ofNat b] ∨ (leadByte b).1 = [replacement] := by
  unfold leadByte at h ⊢
  by_cases hsmall : b < 0x80
  · rw [if_pos hsmall]
    exact .inl ⟨hsmall, rfl⟩
  by_cases htrailing : b < 0xC2
  · rw [if_neg hsmall, if_pos htrailing]
    exact .inr rfl
  by_cases htwo : b < 0xE0
  · rw [if_neg hsmall, if_neg htrailing, if_pos htwo] at h
    cases h
  by_cases hthree : b < 0xF0
  · rw [if_neg hsmall, if_neg htrailing, if_neg htwo, if_pos hthree] at h
    cases h
  by_cases hfour : b < 0xF5
  · rw [if_neg hsmall, if_neg htrailing, if_neg htwo, if_neg hthree, if_pos hfour] at h
    cases h
  · rw [if_neg hsmall, if_neg htrailing, if_neg htwo, if_neg hthree, if_neg hfour]
    exact .inr rfl

/-- A character that has begun ends in something that is not plain. -/
theorem exists_not_isPlain {p : Partial} (h : IsWide p) (bytes : List UInt8) :
    ∃ c ∈ decodeFrom (some p) bytes, ¬ IsPlain c := by
  induction bytes generalizing p with
  | nil => exact ⟨replacement, List.mem_cons_self, not_isPlain_replacement⟩
  | cons b rest ih =>
    obtain ⟨hlow, hwide⟩ := h
    unfold decodeFrom nextByte
    dsimp only
    by_cases hnext : p.low ≤ b.toNat ∧ b.toNat ≤ p.high
    · rw [if_pos hnext]
      by_cases howed : p.owed = 1
      · rw [if_pos howed]
        have hvalue : 0x80 ≤ p.value * 64 + (b.toNat - 0x80) := by omega
        exact ⟨_, List.mem_append_left _ List.mem_cons_self, not_isPlain_ofNat hvalue⟩
      · rw [if_neg howed]
        have hvalue : 2 ≤ p.value * 64 + (b.toNat - 0x80) := by omega
        exact ih ⟨Nat.le_refl _, .inl hvalue⟩
    · rw [if_neg hnext]
      exact ⟨replacement, List.mem_cons_self, not_isPlain_replacement⟩

theorem eq_of_decodeFrom {bytes : List UInt8} (h : ∀ c ∈ decodeFrom none bytes, IsPlain c) :
    bytes = (decodeFrom none bytes).map fun c => UInt8.ofNat c.toNat := by
  induction bytes with
  | nil => rfl
  | cons b rest ih =>
    unfold decodeFrom nextByte at h ⊢
    dsimp only at h ⊢
    cases hlead : (leadByte b.toNat).2 with
    | some p =>
      obtain ⟨c, hc, hplain⟩ := exists_not_isPlain (isWide_leadByte hlead) rest
      rw [hlead] at h
      exact absurd (h c (List.mem_append_right _ hc)) hplain
    | none =>
      rw [hlead] at h
      obtain ⟨hsmall, hchar⟩ | hreplaced := leadByte_of_none hlead
      case inr =>
        refine absurd (h replacement (List.mem_append_left _ ?_)) not_isPlain_replacement
        rw [hreplaced]
        exact List.mem_cons_self
      have hvalid : b.toNat.isValidChar := .inl (by omega)
      have hback : UInt8.ofNat (Char.ofNat b.toNat).toNat = b := by
        have hn : (Char.ofNat b.toNat).toNat = b.toNat := by
          rw [Char.ofNat, dif_pos hvalid]
          rfl
        rw [hn, UInt8.ofNat_toNat]
      rw [hchar, List.map_append, List.map_singleton, hback,
        ← ih fun c hc => h c (List.mem_append_right _ hc)]
      rfl

theorem toList_loop (bytes : ByteArray) (i : Nat) (done : List UInt8) :
    ByteArray.toList.loop bytes i done = done.reverse ++ bytes.data.toList.drop i := by
  induction i, done using ByteArray.toList.loop.induct bytes with
  | case1 i done hlt ih =>
    have hlength : i < bytes.data.toList.length := by
      rw [Array.length_toList]
      exact hlt
    have hget : bytes.get! i = bytes.data.toList[i] := by
      show bytes.data[i]! = _
      rw [getElem!_pos bytes.data i hlt, Array.getElem_toList]
    rw [ByteArray.toList.loop.eq_def, if_pos hlt, ih, List.reverse_cons, List.append_assoc, hget,
      List.drop_eq_getElem_cons hlength]
    rfl
  | case2 i done hend =>
    have hlength : bytes.data.toList.length ≤ i := by
      rw [Array.length_toList]
      exact Nat.le_of_not_lt hend
    rw [ByteArray.toList.loop.eq_def, if_neg hend, List.drop_eq_nil_of_le hlength,
      List.append_nil]

theorem toList_mk (bytes : List UInt8) : (ByteArray.mk bytes.toArray).toList = bytes := by
  unfold ByteArray.toList
  rw [toList_loop]
  rfl

/-- A text of plain characters is read from one sequence of bytes only. -/
theorem bytes_of_decodeLossy {bytes : List UInt8} {text : String}
    (hplain : ∀ c ∈ text.toList, IsPlain c)
    (h : decodeLossy (ByteArray.mk bytes.toArray) = text) :
    bytes = text.toList.map fun c => UInt8.ofNat c.toNat := by
  unfold decodeLossy at h
  rw [toList_mk] at h
  have hchars : decodeFrom none bytes = text.toList := by
    rw [← h, String.toList_ofList]
  rw [← hchars] at hplain ⊢
  exact eq_of_decodeFrom hplain

end CrossShell.Text
