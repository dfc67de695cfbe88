import CrossShell.Proofs.Text.Search
import CrossShell.Script.Literal

/-!
Searches and slices by bytes.

A search may go through the bytes of a text and answer offsets. The bytes of a pattern are found
nowhere but where the pattern stands among the characters, since the first byte of a character is
never a later byte of another one. So the offsets of what is found are between characters, and what
is cut out of the bytes with them is what the search among characters gives.
-/

set_option autoImplicit false

namespace CrossShell.Text

open Script.Literal (bytesOf)

variable {c : Char} {pattern s before after opening closing inner : List Char}
  {bytes front sought : List UInt8} {n : Nat}

/-! ## Bytes of a text -/

theorem bytesOf_append (s t : List Char) : bytesOf (s ++ t) = bytesOf s ++ bytesOf t :=
  List.flatMap_append

theorem bytesOf_cons (c : Char) (s : List Char) :
    bytesOf (c :: s) = String.utf8EncodeChar c ++ bytesOf s :=
  List.flatMap_cons

theorem length_bytesOf_append (s t : List Char) :
    (bytesOf (s ++ t)).length = (bytesOf s).length + (bytesOf t).length := by
  rw [bytesOf_append, List.length_append]

theorem bytesOf_eq_nil : bytesOf s = [] ↔ s = [] := by
  cases s with
  | nil => exact iff_of_true rfl rfl
  | cons c s =>
    refine iff_of_false (fun h => ?_) (List.cons_ne_nil c s)
    have hlength := congrArg List.length h
    rw [bytesOf_cons, List.length_append, String.length_utf8EncodeChar, List.length_nil] at hlength
    have hpos := c.utf8Size_pos
    omega

/-- Bytes that begin as the bytes of a text do are of a text that begins so. -/
theorem prefix_of_bytesOf (h : bytesOf pattern <+: bytesOf s) : pattern <+: s := by
  obtain ⟨rest, hrest⟩ := h
  apply List.isPrefix_of_utf8Encode_append_eq_utf8Encode rest.toByteArray
  unfold List.utf8Encode
  rw [← List.toByteArray_append]
  exact congrArg List.toByteArray hrest

/-- No text is found within a character: the bytes of a character after its first are not the first
of any. -/
theorem not_prefix_inside (hpattern : pattern ≠ []) (hpos : 0 < n)
    (hn : n < (String.utf8EncodeChar c).length) (rest : List UInt8) :
    ¬ bytesOf pattern <+: (String.utf8EncodeChar c ++ rest).drop n := by
  cases pattern with
  | nil => exact absurd rfl hpattern
  | cons d pattern =>
    rintro ⟨more, hmore⟩
    have hd : 0 < (String.utf8EncodeChar d).length := by
      rw [String.length_utf8EncodeChar]
      exact d.utf8Size_pos
    have hbyte : (String.utf8EncodeChar d)[0] = (String.utf8EncodeChar c)[n] := by
      have hhead : (bytesOf (d :: pattern) ++ more)[0]?
          = ((String.utf8EncodeChar c ++ rest).drop n)[0]? := congrArg (·[0]?) hmore
      rw [bytesOf_cons, List.append_assoc, List.getElem?_append_left hd, List.getElem?_drop,
        Nat.add_zero, List.getElem?_append_left hn, List.getElem?_eq_getElem hd,
        List.getElem?_eq_getElem hn] at hhead
      exact Option.some.inj hhead
    have hfirst := UInt8.isUTF8FirstByte_getElem_zero_utf8EncodeChar (c := d)
    rw [hbyte, UInt8.isUTF8FirstByte_getElem_utf8EncodeChar] at hfirst
    omega

/-- An offset between two characters, or at an end. -/
def IsBoundary (s : List Char) (n : Nat) : Prop :=
  ∃ front back, s = front ++ back ∧ (bytesOf front).length = n

/-! ## Searches -/

/-- The first offset at which some bytes stand among others. -/
def offset? (sought : List UInt8) : List UInt8 → Option Nat
  | [] => if sought = [] then some 0 else none
  | b :: rest =>
    if sought.isPrefixOf (b :: rest) then some 0 else (offset? sought rest).map (· + 1)

theorem offset?_eq_zero (h : sought <+: bytes) : offset? sought bytes = some 0 := by
  cases bytes with
  | nil => rw [offset?, if_pos (List.prefix_nil.1 h)]
  | cons b rest => rw [offset?, if_pos (List.isPrefixOf_iff_prefix.2 h)]

/-- Bytes at which nothing is found are passed over. -/
theorem offset?_append (h : ∀ i < front.length, ¬ sought <+: (front ++ bytes).drop i) :
    offset? sought (front ++ bytes) = (offset? sought bytes).map (· + front.length) := by
  induction front with
  | nil => simp
  | cons b front ih =>
    have hhere : ¬ sought <+: b :: (front ++ bytes) := h 0 (Nat.zero_lt_succ _)
    have hlater : ∀ i < front.length, ¬ sought <+: (front ++ bytes).drop i :=
      fun i hi => h (i + 1) (Nat.succ_lt_succ hi)
    rw [List.cons_append, offset?, if_neg (mt List.isPrefixOf_iff_prefix.1 hhere), ih hlater,
      Option.map_map, List.length_cons]
    rfl

/-- A search through the bytes finds a pattern where one among the characters does. -/
theorem offset?_bytesOf (pattern s : List Char) :
    offset? (bytesOf pattern) (bytesOf s) =
      (cut pattern s).map fun parts => (bytesOf parts.1).length := by
  induction s with
  | nil =>
    unfold cut
    by_cases h : pattern = []
    · rw [if_pos h, h]
      rfl
    · have hbytes : ¬ bytesOf pattern = [] := mt bytesOf_eq_nil.1 h
      rw [if_neg h]
      exact if_neg hbytes
  | cons c rest ih =>
    unfold cut
    by_cases h : pattern <+: c :: rest
    · obtain ⟨more, hmore⟩ := h
      have hprefix : bytesOf pattern <+: bytesOf (c :: rest) :=
        ⟨bytesOf more, by rw [← bytesOf_append, hmore]⟩
      rw [offset?_eq_zero hprefix, if_pos (List.isPrefixOf_iff_prefix.2 ⟨more, hmore⟩)]
      rfl
    · -- The search among characters passes over one, the search among bytes over all of its bytes.
      have hpattern : pattern ≠ [] := fun hnil => h (hnil ▸ List.nil_prefix)
      have hpassed : ∀ i < (String.utf8EncodeChar c).length,
          ¬ bytesOf pattern <+: (String.utf8EncodeChar c ++ bytesOf rest).drop i := by
        intro i hi
        cases i with
        | zero =>
          rw [List.drop_zero, ← bytesOf_cons]
          exact mt prefix_of_bytesOf h
        | succ i => exact not_prefix_inside hpattern (Nat.zero_lt_succ i) hi (bytesOf rest)
      rw [bytesOf_cons, offset?_append hpassed, ih, if_neg (mt List.isPrefixOf_iff_prefix.1 h),
        Option.map_map, Option.map_map]
      congr 1
      funext parts
      simp only [Function.comp_apply, bytesOf_cons, List.length_append, Nat.add_comm]

theorem offset?_eq_some_iff :
    offset? (bytesOf pattern) (bytesOf s) = some n ↔
      ∃ before after, IsCut pattern s before after ∧ (bytesOf before).length = n := by
  rw [offset?_bytesOf, Option.map_eq_some_iff, Prod.exists]
  simp only [cut_eq_some_iff]

/-! ## Between two markers -/

/-- The offsets of what stands between the first opening marker and the first closing one behind
it. -/
def betweenOffsets? (bytes opening closing : List UInt8) : Option (Nat × Nat) := do
  let found ← offset? opening bytes
  let start := found + opening.length
  let size ← offset? closing (bytes.drop start)
  return (start, start + size)

/-- The bytes from one offset to another. -/
def slice (bytes : List UInt8) (start stop : Nat) : List UInt8 :=
  (bytes.take stop).drop start

theorem slice_bytesOf (front inner back : List Char) :
    slice (bytesOf (front ++ inner ++ back)) (bytesOf front).length
      (bytesOf (front ++ inner)).length = bytesOf inner := by
  rw [slice, bytesOf_append (front ++ inner), List.take_left, bytesOf_append, List.drop_left]

theorem IsCut.drop_bytesOf (h : IsCut pattern s before after) :
    (bytesOf s).drop ((bytesOf before).length + (bytesOf pattern).length) = bytesOf after := by
  rw [h.1, bytesOf_append, ← length_bytesOf_append, List.drop_left]

theorem betweenOffsets?_eq_some_iff {start stop : Nat} :
    betweenOffsets? (bytesOf s) (bytesOf opening) (bytesOf closing) = some (start, stop) ↔
      ∃ before rest inner after, IsCut opening s before rest ∧ IsCut closing rest inner after ∧
        (bytesOf (before ++ opening)).length = start ∧
        (bytesOf (before ++ opening ++ inner)).length = stop := by
  unfold betweenOffsets?
  simp only [Option.bind_eq_bind, Option.bind_eq_some_iff, Option.pure_def, Option.some_inj,
    Prod.mk.injEq]
  constructor
  · rintro ⟨found, hfound, size, hsize, rfl, rfl⟩
    obtain ⟨before, rest, hopening, rfl⟩ := offset?_eq_some_iff.1 hfound
    rw [hopening.drop_bytesOf] at hsize
    obtain ⟨inner, after, hclosing, rfl⟩ := offset?_eq_some_iff.1 hsize
    refine ⟨before, rest, inner, after, hopening, hclosing, ?_, ?_⟩
    · exact length_bytesOf_append before opening
    · rw [length_bytesOf_append, length_bytesOf_append]
  · rintro ⟨before, rest, inner, after, hopening, hclosing, rfl, rfl⟩
    have hfound := offset?_eq_some_iff.2 ⟨before, rest, hopening, rfl⟩
    refine ⟨(bytesOf before).length, hfound, (bytesOf inner).length, ?_, ?_, ?_⟩
    · rw [hopening.drop_bytesOf]
      exact offset?_eq_some_iff.2 ⟨inner, after, hclosing, rfl⟩
    · exact (length_bytesOf_append before opening).symm
    · rw [length_bytesOf_append, length_bytesOf_append]

theorem IsCut.eq_append {rest : List Char} (hopening : IsCut opening s before rest)
    (hclosing : IsCut closing rest inner after) :
    s = before ++ opening ++ inner ++ (closing ++ after) := by
  rw [hopening.1, hclosing.1]
  simp only [List.append_assoc]

theorem between_eq_some_iff_append :
    between s opening closing = some inner ↔
      ∃ before after, s = before ++ opening ++ inner ++ closing ++ after ∧
        (∀ a b, s = a ++ opening ++ b → before.length ≤ a.length) ∧
        ∀ a b, inner ++ closing ++ after = a ++ closing ++ b → inner.length ≤ a.length := by
  rw [between_eq_some_iff]
  constructor
  · rintro ⟨before, rest, after, ⟨hs, hopening⟩, rfl, hclosing⟩
    exact ⟨before, after, by rw [hs]; simp only [List.append_assoc], hopening, hclosing⟩
  · rintro ⟨before, after, hs, hopening, hclosing⟩
    exact ⟨before, inner ++ closing ++ after, after,
      ⟨by rw [hs]; simp only [List.append_assoc], hopening⟩, rfl, hclosing⟩

/-- What stands between is cut out of the bytes by the offsets that are found in them. -/
theorem map_bytesOf_between (s opening closing : List Char) :
    (between s opening closing).map bytesOf =
      (betweenOffsets? (bytesOf s) (bytesOf opening) (bytesOf closing)).map fun span =>
        slice (bytesOf s) span.1 span.2 := by
  cases hoffsets : betweenOffsets? (bytesOf s) (bytesOf opening) (bytesOf closing) with
  | none =>
    cases hbetween : between s opening closing with
    | none => rfl
    | some inner =>
      obtain ⟨before, rest, after, hopening, hclosing⟩ := between_eq_some_iff.1 hbetween
      have hsome := betweenOffsets?_eq_some_iff.2
        ⟨before, rest, inner, after, hopening, hclosing, rfl, rfl⟩
      rw [hoffsets] at hsome
      cases hsome
  | some span =>
    obtain ⟨start, stop⟩ := span
    obtain ⟨before, rest, inner, after, hopening, hclosing, rfl, rfl⟩ :=
      betweenOffsets?_eq_some_iff.1 hoffsets
    rw [between_eq_some_iff.2 ⟨before, rest, after, hopening, hclosing⟩, Option.map_some,
      Option.map_some]
    conv => rhs; rw [hopening.eq_append hclosing]
    rw [slice_bytesOf]

/-- What stands between two markers is the shortest text behind the first opening one and before a
closing one, and there is none only where one of them is missing. Found among the bytes it is the
same, and the slices that are taken of them begin and end between characters. -/
theorem between_exact (s opening closing : List Char) :
    (∀ inner, between s opening closing = some inner ↔
      ∃ before after, s = before ++ opening ++ inner ++ closing ++ after ∧
        (∀ a b, s = a ++ opening ++ b → before.length ≤ a.length) ∧
        ∀ a b, inner ++ closing ++ after = a ++ closing ++ b → inner.length ≤ a.length) ∧
    (between s opening closing = none ↔
      ¬ opening <:+: s ∨ ∃ before rest, IsCut opening s before rest ∧ ¬ closing <:+: rest) ∧
    (between s opening closing).map bytesOf =
      (betweenOffsets? (bytesOf s) (bytesOf opening) (bytesOf closing)).map (fun span =>
        slice (bytesOf s) span.1 span.2) ∧
    (∀ found, offset? (bytesOf opening) (bytesOf s) = some found →
      IsBoundary s (found + (bytesOf opening).length)) ∧
    ∀ start stop,
      betweenOffsets? (bytesOf s) (bytesOf opening) (bytesOf closing) = some (start, stop) →
      IsBoundary s start ∧ IsBoundary s stop := by
  refine ⟨fun inner => between_eq_some_iff_append, between_eq_none_iff,
    map_bytesOf_between s opening closing, ?_, ?_⟩
  · intro found hfound
    obtain ⟨before, rest, hcut, rfl⟩ := offset?_eq_some_iff.1 hfound
    exact ⟨before ++ opening, rest, hcut.1, length_bytesOf_append before opening⟩
  · intro start stop hoffsets
    obtain ⟨before, rest, inner, after, hopening, hclosing, rfl, rfl⟩ :=
      betweenOffsets?_eq_some_iff.1 hoffsets
    exact ⟨⟨before ++ opening, rest, hopening.1, rfl⟩,
      ⟨before ++ opening ++ inner, closing ++ after, hopening.eq_append hclosing, rfl⟩⟩

/-- A text in which all characters have more than one byte. -/
def accentedText : List Char :=
  "é‘ß’ü’".toList

theorem between_exact_accented :
    IsBoundary accentedText 5 ∧ IsBoundary accentedText 7 := by
  have hfound : offset? (bytesOf ['‘']) (bytesOf accentedText) = some 2 := by decide +kernel
  have hoffsets : betweenOffsets? (bytesOf accentedText) (bytesOf ['‘']) (bytesOf ['’'])
      = some (5, 7) := by decide +kernel
  obtain ⟨-, -, -, hopening, hboth⟩ := between_exact accentedText ['‘'] ['’']
  exact ⟨hopening 2 hfound, (hboth 5 7 hoffsets).2⟩

end CrossShell.Text
