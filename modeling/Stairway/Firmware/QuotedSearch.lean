import Stairway.Firmware.CString

/-!
# Substring search for a quoted word

A text is cut into segments by the quote byte `q`. A search for `q word q` with a word free of
quotes looks at nothing but the segments: it stops at the first quote that is followed by the
segment `word` and another quote.
-/

namespace Firmware

/-- The pattern `q word q`. -/
def quoted (q : UInt8) (word : List UInt8) : List UInt8 := q :: (word ++ [q])

section
variable {q : UInt8} {word : List UInt8}

/-- Against a segment that ends in a quote, the pattern matches exactly its own word. -/
theorem prefix_segment_iff {seg : List UInt8} (clean : q ∉ word) (segment : q ∉ seg)
    (rest : List UInt8) : (word ++ [q]).isPrefixOf (seg ++ q :: rest) = true ↔ word = seg := by
  induction word generalizing seg with
  | nil =>
    cases seg with
    | nil => simp
    | cons c seg =>
      have other : q ≠ c := fun same => segment (same ▸ List.mem_cons_self)
      simp [other]
  | cons k word ih =>
    have first : k ≠ q := fun same => clean (same ▸ List.mem_cons_self)
    cases seg with
    | nil => simp [first]
    | cons c seg =>
      have rest := ih (fun inside => clean (List.mem_cons_of_mem _ inside))
        (fun inside => segment (List.mem_cons_of_mem _ inside))
      simp only [List.cons_append, List.isPrefixOf, Bool.and_eq_true, beq_iff_eq, rest,
        List.cons.injEq]

/-- Bytes without a quote are skipped. -/
theorem strstr_skip {w : List UInt8} (clean : q ∉ w) (t : List UInt8) :
    strstr (w ++ t) (quoted q word) = strstr t (quoted q word) := by
  induction w with
  | nil => rfl
  | cons c w ih =>
    have other : q ≠ c := fun same => clean (same ▸ List.mem_cons_self)
    rw [List.cons_append, strstr, if_neg (by simp [quoted, other])]
    exact ih (fun inside => clean (List.mem_cons_of_mem _ inside))

/-- Without a quote there is nothing to find. -/
theorem strstr_none {t : List UInt8} (clean : q ∉ t) : strstr t (quoted q word) = none := by
  have skipped : strstr (t ++ []) (quoted q word) = strstr [] (quoted q word) := strstr_skip clean []
  rw [List.append_nil] at skipped
  rw [skipped, strstr, if_neg (by simp [quoted])]

/-- The quoted word is found where it stands. -/
theorem strstr_hit (rest : List UInt8) :
    strstr (q :: (word ++ q :: rest)) (quoted q word) = some (q :: (word ++ q :: rest)) := by
  have found : (quoted q word).isPrefixOf (q :: (word ++ q :: rest)) = true := by
    rw [List.isPrefixOf_iff_prefix]
    exact ⟨rest, by simp [quoted]⟩
  rw [strstr, if_pos found]

/-- Another segment is passed over, up to the quote that ends it. -/
theorem strstr_miss {seg : List UInt8} (clean : q ∉ word) (segment : q ∉ seg) (other : seg ≠ word)
    (rest : List UInt8) :
    strstr (q :: (seg ++ q :: rest)) (quoted q word) = strstr (q :: rest) (quoted q word) := by
  have differs : ¬ (quoted q word).isPrefixOf (q :: (seg ++ q :: rest)) = true := by
    intro hit
    simp only [quoted, List.isPrefixOf, beq_self_eq_true, Bool.true_and] at hit
    exact other ((prefix_segment_iff clean segment rest).mp hit).symm
  rw [strstr, if_neg differs]
  exact strstr_skip segment _

/-- The last quote begins no quoted word. -/
theorem strstr_last {seg : List UInt8} (segment : q ∉ seg) :
    strstr (q :: seg) (quoted q word) = none := by
  have differs : ¬ (quoted q word).isPrefixOf (q :: seg) = true := by
    intro hit
    simp only [quoted, List.isPrefixOf, beq_self_eq_true, Bool.true_and] at hit
    rw [List.isPrefixOf_iff_prefix] at hit
    exact segment (hit.subset (List.mem_append_right _ List.mem_cons_self))
  rw [strstr, if_neg differs]
  exact strstr_none segment

end

end Firmware
