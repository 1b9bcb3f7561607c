/-!
# Computations that may fail

`Ends x P E`: the computation `x` returns a value with `P` or fails with an error with `E`. The rules
are those of its constructors, of sequence and of a loop over a list.
-/

namespace Firmware

variable {ε α β ι : Type}

theorem ok_bind (a : α) (f : α → Except ε β) : (Except.ok a >>= f) = f a := rfl

/-- `x` returns with `P` or fails with `E`. -/
def Ends (x : Except ε α) (P : α → Prop) (E : ε → Prop) : Prop :=
  match x with
  | .ok a => P a
  | .error e => E e

namespace Ends

variable {P Q : α → Prop} {E : ε → Prop} {x : Except ε α}

theorem mono (ends : Ends x P E) (weaker : ∀ a, P a → Q a) : Ends x Q E := by
  cases x with
  | ok a => exact weaker a ends
  | error e => exact ends

/-- The errors do not matter. -/
theorem any (ends : Ends x P E) : Ends x P fun _ => True := by
  cases x with
  | ok a => exact ends
  | error e => trivial

theorem bind {R : β → Prop} {f : α → Except ε β} (first : Ends x P E)
    (second : ∀ a, P a → Ends (f a) R E) : Ends (x >>= f) R E := by
  cases x with
  | ok a => exact second a first
  | error e => exact first

/-- A loop keeps an invariant that each pass keeps. -/
theorem foldlM {f : α → ι → Except ε α} {inputs : List ι}
    (kept : ∀ i ∈ inputs, ∀ a, P a → Ends (f a i) P E) {a : α} (init : P a) :
    Ends (inputs.foldlM f a) P E := by
  induction inputs generalizing a with
  | nil => exact init
  | cons i inputs ih =>
    rw [List.foldlM_cons]
    apply (kept i List.mem_cons_self a init).bind
    intro a' holds
    exact ih (fun j member => kept j (List.mem_cons_of_mem _ member)) holds

/-- A loop keeps an invariant that each pass keeps under a condition on the state it is in. -/
theorem foldlM_along {f : α → ι → Except ε α} {C : α → ι → Prop}
    (kept : ∀ a i, P a → C a i → Ends (f a i) P E) {a : α} (init : P a) {inputs : List ι}
    (along : ∀ before i after, inputs = before ++ i :: after →
      ∀ b, before.foldlM f a = .ok b → C b i) : Ends (inputs.foldlM f a) P E := by
  induction inputs generalizing a with
  | nil => exact init
  | cons i inputs ih =>
    have first := kept a i init (along [] i inputs rfl a rfl)
    rw [List.foldlM_cons]
    cases next : f a i with
    | error e =>
      rw [next] at first
      exact first
    | ok a' =>
      rw [next] at first
      apply ih first
      intro before j after split b run
      apply along (i :: before) j after (by rw [split]; rfl) b
      rw [List.foldlM_cons, next]
      exact run

/-- What a computation that returned has shown. -/
theorem of_ok {a : α} (ends : Ends x P E) (returned : x = .ok a) : P a := by
  rw [returned] at ends
  exact ends

theorem of_error {e : ε} (ends : Ends x P E) (failed : x = .error e) : E e := by
  rw [failed] at ends
  exact ends

end Ends

end Firmware
