import Mathlib.Data.List.Induction

/-!
# Stores to an indexed memory

A log lists stores in the order in which they are made, with their indices; nothing bounds the memory,
so a store past the end of an array is one with a large index. A log that fills a range from its
start on is read back as its values.
-/

namespace Firmware

variable {α : Type}

/-- The memory after the stores of a log. -/
def applyLog (m : Nat → α) (log : List (Nat × α)) : Nat → α :=
  log.foldl (fun m w k => if k = w.1 then w.2 else m k) m

/-- The first `n` elements. -/
def readRange (m : Nat → α) (n : Nat) : List α := (List.range n).map m

theorem applyLog_append (m : Nat → α) (log log' : List (Nat × α)) :
    applyLog m (log ++ log') = applyLog (applyLog m log) log' := List.foldl_append

/-- The indices of a log are those of a range, in order. -/
def Fills (log : List (Nat × α)) : Prop := log.map Prod.fst = List.range log.length

theorem fills_append {log : List (Nat × α)} {w : Nat × α} :
    Fills (log ++ [w]) ↔ Fills log ∧ w.1 = log.length := by
  unfold Fills
  rw [List.map_append, List.length_append, List.length_singleton, List.range_succ]
  constructor
  · intro same
    obtain ⟨front, last⟩ := List.append_inj same (by simp)
    exact ⟨front, List.singleton_inj.mp last⟩
  · rintro ⟨front, last⟩
    rw [front, List.map_singleton, last]

/-- **What is read back** from a range that a log fills. -/
theorem readRange_applyLog {log : List (Nat × α)} (fills : Fills log) (m : Nat → α) :
    readRange (applyLog m log) log.length = log.map Prod.snd := by
  induction log using List.reverseRecOn with
  | nil => rfl
  | append_singleton log w ih =>
    obtain ⟨front, last⟩ := fills_append.mp fills
    have earlier : readRange (applyLog m (log ++ [w])) log.length = readRange (applyLog m log) log.length := by
      refine List.map_congr_left fun k inside => ?_
      have other : k ≠ w.1 := by
        rw [last]
        exact Nat.ne_of_lt (List.mem_range.mp inside)
      rw [applyLog_append]
      exact if_neg other
    have here : applyLog m (log ++ [w]) log.length = w.2 := by
      rw [applyLog_append]
      exact if_pos last.symm
    rw [List.length_append, List.length_singleton, readRange, List.range_succ, List.map_append, ← readRange,
      earlier, ih front, List.map_append, List.map_singleton, here]
    rfl

/-- The largest index of a log that fills a range. -/
theorem fills_below {log : List (Nat × α)} (fills : Fills log) (bound : Nat) :
    (∀ w ∈ log, w.1 < bound) ↔ log.length ≤ bound := by
  have same : (∀ w ∈ log, w.1 < bound) ↔ ∀ k ∈ log.map Prod.fst, k < bound := by
    simp only [List.forall_mem_map]
  rw [same, fills]
  constructor
  · intro below
    apply Nat.not_lt.mp
    intro past
    exact Nat.lt_irrefl bound (below bound (List.mem_range.mpr past))
  · intro fits k inside
    exact Nat.lt_of_lt_of_le (List.mem_range.mp inside) fits

end Firmware
