import Mathlib.Order.Basic
import Mathlib.Data.Set.Insert

/-!
# Registers with timestamps: the newest writer wins

A register holds a value and the timestamp of the write that stored it; a write is applied only
when its timestamp is strictly newer. Writes that are still on their way to a register are kept
as a set together with the register itself, and `Newest S v` says that the newest member of `S`
carries `v`. Applying one of the writes of `S` to the register never changes what `S` settles
to, so it is decided when the writes are issued and not by the order in which they arrive. A list
of writes is merged by `puts`: its order does not matter, and the newest write of it wins.
-/

namespace Firmware

/-- A value with the timestamp of its writer. -/
@[ext] structure Stamped (V T : Type) where
  value : V
  ts : T
  deriving DecidableEq, Repr

section
variable {V T : Type} [LinearOrder T]

/-- Apply the write `w` to the register `r`: it is ignored unless it is strictly newer. -/
def Stamped.put (r w : Stamped V T) : Stamped V T := if r.ts < w.ts then w else r

theorem Stamped.put_choice (r w : Stamped V T) : r.put w = r ∨ r.put w = w := by
  unfold Stamped.put
  split
  · exact Or.inr rfl
  · exact Or.inl rfl

theorem Stamped.le_put (r w : Stamped V T) : r.ts ≤ (r.put w).ts := by
  unfold Stamped.put
  split
  · rename_i newer; exact le_of_lt newer
  · exact le_refl _

/-- Some member of `S` carries `v` and is strictly newer than every member that does not. -/
def Newest (S : Set (Stamped V T)) (v : V) : Prop :=
  ∃ e ∈ S, e.value = v ∧ ∀ e' ∈ S, e'.value ≠ v → e'.ts < e.ts

/-- A member that carries `v` and is newer than everything that does not settles the set. -/
theorem Newest.of_latest {S : Set (Stamped V T)} {v : V} {e : Stamped V T} (member : e ∈ S)
    (carries : e.value = v) (latest : ∀ e' ∈ S, e'.value ≠ v → e'.ts < e.ts) : Newest S v :=
  ⟨e, member, carries, latest⟩

/-- **Arrival does not matter.** When a pending write `w` reaches the register `r`, the set
that remains (the updated register and the other pending writes) settles to the same value. -/
theorem Newest.put {S S' : Set (Stamped V T)} {r w : Stamped V T} {v : V} (h : Newest S v)
    (register : r ∈ S) (pending : w ∈ S) (updated : r.put w ∈ S')
    (kept : ∀ e ∈ S, e ≠ r → e ≠ w → e ∈ S')
    (only : ∀ e ∈ S', e = r.put w ∨ e ∈ S) : Newest S' v := by
  obtain ⟨e, member, carries, newest⟩ := h
  -- the updated register is at least as new as either of the two it merges
  have newer : r.ts ≤ (r.put w).ts ∧ w.ts ≤ (r.put w).ts := by
    refine ⟨r.le_put w, ?_⟩
    unfold Stamped.put
    split
    · exact le_refl _
    · rename_i ge; exact not_lt.mp ge
  have others : ∀ x, e.ts ≤ x → ∀ e' ∈ S', e'.value ≠ v → e' ∈ S → e'.ts < x :=
    fun x le e' _ differs inS => lt_of_lt_of_le (newest e' inS differs) le
  by_cases merged : e = r ∨ e = w
  · -- the winner was the register or the arriving write: it is the updated register now
    have bound : e.ts ≤ (r.put w).ts := by
      rcases merged with same | same
      · rw [same]; exact newer.1
      · rw [same]; exact newer.2
    have value : (r.put w).value = v := by
      apply Classical.byContradiction
      intro differs
      have inS : r.put w ∈ S := by
        rcases r.put_choice w with same | same
        · rw [same]; exact register
        · rw [same]; exact pending
      exact absurd (newest _ inS differs) (not_lt.mpr bound)
    refine Newest.of_latest updated value ?_
    intro e' member' differs
    rcases only e' member' with same | inS
    · rw [same] at differs; exact absurd value differs
    · exact others _ bound e' member' differs inS
  · have apart := not_or.mp merged
    refine Newest.of_latest (kept e member apart.1 apart.2) carries ?_
    intro e' member' differs
    rcases only e' member' with same | inS
    · rcases r.put_choice w with choice | choice
      · rw [same, choice]
        exact newest r register (by rw [← choice, ← same]; exact differs)
      · rw [same, choice]
        exact newest w pending (by rw [← choice, ← same]; exact differs)
    · exact newest e' inS differs

/-! ## Merging -/

/-- The register after the writes of a list, in order. -/
def Stamped.puts (r : Stamped V T) (ws : List (Stamped V T)) : Stamped V T := ws.foldl Stamped.put r

/-- Writes with one timestamp carry one value. -/
def Agree (ws : List (Stamped V T)) : Prop := ∀ w ∈ ws, ∀ w' ∈ ws, w.ts = w'.ts → w = w'

/-- Two writes commute, a tie between them included if they are the same. -/
theorem Stamped.put_comm (r : Stamped V T) {w w' : Stamped V T} (agree : w.ts = w'.ts → w = w') :
    (r.put w).put w' = (r.put w').put w := by
  rcases lt_trichotomy w.ts w'.ts with less | same | less
  · unfold Stamped.put
    grind
  · rw [agree same]
  · unfold Stamped.put
    grind

/-- **The order of the writes does not matter.** -/
theorem Stamped.puts_perm (r : Stamped V T) {ws ws' : List (Stamped V T)} (agree : Agree ws)
    (same : ws.Perm ws') : r.puts ws = r.puts ws' :=
  same.foldl_eq' (fun w member w' member' z => z.put_comm (agree w member w' member')) r

/-- Writes that are not newer than the register are ignored. -/
theorem Stamped.puts_old {r : Stamped V T} {ws : List (Stamped V T)} (old : ∀ w ∈ ws, w.ts ≤ r.ts) :
    r.puts ws = r := by
  induction ws with
  | nil => rfl
  | cons w ws ih =>
    have ignored : r.put w = r := if_neg (not_lt.mpr (old w List.mem_cons_self))
    show (r.put w).puts ws = r
    rw [ignored]
    exact ih fun w' member => old w' (List.mem_cons_of_mem _ member)

/-- **The newest write wins** over a register that is older. -/
theorem Stamped.puts_newest {r w : Stamped V T} {ws : List (Stamped V T)} (agree : Agree ws) (member : w ∈ ws)
    (newer : r.ts < w.ts) (newest : ∀ w' ∈ ws, w'.ts ≤ w.ts) : r.puts ws = w := by
  obtain ⟨before, after, parts⟩ := List.append_of_mem member
  have first : ws.Perm (w :: (before ++ after)) := by
    rw [parts]
    exact List.perm_middle
  have stored : r.put w = w := if_pos newer
  rw [r.puts_perm agree first]
  show (r.put w).puts (before ++ after) = w
  rw [stored]
  exact Stamped.puts_old fun w' member' => newest w' (first.mem_iff.mpr (List.mem_cons_of_mem _ member'))

end

end Firmware
