import Stairway.Firmware.CString

/-!
# The first occurrence in a growing text

A text that arrives in pieces is searched again after every piece. `offsetOf` is the place of the
first occurrence of a word, and `offsetOf_take_iff` says that a prefix of the text shows the same
occurrence once it contains it.
-/

namespace Firmware

/-- The offset at which `strstr` finds a word. -/
def offsetOf (word s : List UInt8) : Option Nat :=
  (strstr s word).map fun found => s.length - found.length

section
variable {word s : List UInt8}

/-- What is found is a suffix that begins with the word. -/
theorem strstr_suffix {found : List UInt8} (search : strstr s word = some found) :
    found <:+ s ∧ word <+: found := by
  induction s with
  | nil =>
    rw [strstr] at search
    split at search
    · rename_i here
      cases Option.some.inj search
      exact ⟨List.suffix_refl _, List.isPrefixOf_iff_prefix.mp here⟩
    · cases search
  | cons c s ih =>
    rw [strstr] at search
    split at search
    · rename_i here
      cases Option.some.inj search
      exact ⟨List.suffix_refl _, List.isPrefixOf_iff_prefix.mp here⟩
    · obtain ⟨suffix, front⟩ := ih search
      exact ⟨suffix.trans (List.suffix_cons c s), front⟩

theorem offsetOf_nil (nonempty : word ≠ []) : offsetOf word [] = none := by
  have absent : ¬ word.isPrefixOf [] = true := by
    rw [List.isPrefixOf_iff_prefix, List.prefix_nil]
    exact nonempty
  rw [offsetOf, strstr, if_neg absent]
  rfl

theorem offsetOf_cons (c : UInt8) : offsetOf word (c :: s) =
    if word <+: c :: s then some 0 else (offsetOf word s).map (· + 1) := by
  rw [offsetOf, strstr]
  by_cases here : word <+: c :: s
  · rw [if_pos (List.isPrefixOf_iff_prefix.mpr here), if_pos here]
    simp
  · rw [if_neg (fun found => here (List.isPrefixOf_iff_prefix.mp found)), if_neg here]
    rw [offsetOf]
    cases search : strstr s word with
    | none => rfl
    | some found =>
      have short := (strstr_suffix search).1.length_le
      simp only [Option.map_some, List.length_cons]
      congr 1
      omega

/-- An occurrence lies inside the text. -/
theorem offsetOf_le {pos : Nat} (search : offsetOf word s = some pos) : pos + word.length ≤ s.length := by
  rw [offsetOf, Option.map_eq_some_iff] at search
  obtain ⟨found, search, place⟩ := search
  obtain ⟨suffix, front⟩ := strstr_suffix search
  have short := suffix.length_le
  have long := front.length_le
  omega

/-- **A prefix of the text shows the first occurrence once it contains it.** -/
theorem offsetOf_take_iff (nonempty : word ≠ []) {n pos : Nat} :
    offsetOf word (s.take n) = some pos ↔ offsetOf word s = some pos ∧ pos + word.length ≤ n := by
  have positive := List.length_pos_iff.mpr nonempty
  induction s generalizing n pos with
  | nil =>
    rw [List.take_nil, offsetOf_nil nonempty]
    exact iff_of_false (fun same => by cases same) (fun both => by cases both.1)
  | cons c s ih =>
    cases n with
    | zero =>
      rw [List.take_zero, offsetOf_nil nonempty]
      exact iff_of_false (fun same => by cases same) (fun both => by omega)
    | succ n =>
      have shown : word <+: c :: s.take n ↔ word <+: c :: s ∧ word.length ≤ n + 1 := by
        rw [← List.take_succ_cons, List.prefix_take_iff]
      rw [List.take_succ_cons, offsetOf_cons, offsetOf_cons]
      by_cases here : word <+: c :: s
      · rw [if_pos here]
        by_cases reaches : word.length ≤ n + 1
        · rw [if_pos (shown.mpr ⟨here, reaches⟩), Option.some.injEq]
          omega
        · -- what is left of the text is too short for the word
          rw [if_neg (fun short => reaches (shown.mp short).2), Option.map_eq_some_iff]
          constructor
          · rintro ⟨p, found, -⟩
            have fits := (ih.mp found).2
            omega
          · rintro ⟨-, fits⟩
            omega
      · rw [if_neg here, if_neg (fun short => here (shown.mp short).1), Option.map_eq_some_iff,
          Option.map_eq_some_iff]
        constructor
        · rintro ⟨p, found, same⟩
          obtain ⟨found', fits⟩ := ih.mp found
          exact ⟨⟨p, found', same⟩, by omega⟩
        · rintro ⟨⟨p, found, same⟩, fits⟩
          exact ⟨p, ih.mpr ⟨found, by omega⟩, same⟩

end

end Firmware
