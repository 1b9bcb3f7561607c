import Stairway.Global

/-!
# The WS2812 driver (`ws2812.c`)

The handle keeps the number of pixels and the frame memory, one word a pixel; a pixel that the
state machine has shifted out keeps its colour until the next transmission that reaches it.
`strip` records the colours last transmitted, pixel by pixel.
-/

namespace Stairway

/-- `Ws2812_Header`, with the colours the strip shows. `mem = none` is the null pointer. -/
structure Ws2812 where
  ledCount : Nat
  mem : Option (List Nat)
  strip : List Nat
  deriving DecidableEq, Repr

namespace Ws2812

/-- `ws2812_refresh`: shift the frame memory out, pixel 0 first. -/
def refresh (h : Ws2812) : ErrCode × Ws2812 :=
  match h.mem with
  | none => (.needInit, h)
  | some mem => (.success, { h with strip := mem.take h.ledCount ++ h.strip.drop h.ledCount })

/-- `ws2812_set_color`. -/
def setColor (h : Ws2812) (index r g b : Nat) : ErrCode × Ws2812 :=
  match h.mem with
  | none => (.needInit, h)
  | some mem =>
    if index ≥ h.ledCount then (.paramInvalid, h)
    else (.success, { h with mem := some (mem.set index (g * 2 ^ 16 + r * 2 ^ 8 + b)) })

/-- The loop of `ws2812_clear` from index `i`; the results of `ws2812_set_color` are ignored. -/
def clearFrom (h : Ws2812) : Nat → Nat → Ws2812
  | 0, _ => h
  | n + 1, i => clearFrom (h.setColor i 0 0 0).2 n (i + 1)

/-- `ws2812_clear`. -/
def clear (h : Ws2812) : ErrCode × Ws2812 := (.success, (h.clearFrom h.ledCount 0).refresh.2)

/-- `ws2812_init` of a strip that is dark; `claimed` says whether a state machine was free, `allocated` is
the outcome of `malloc`. -/
def init (ledCount : Nat) (claimed allocated : Bool) : ErrCode × Ws2812 :=
  let unused : Ws2812 := { ledCount := 0, mem := none, strip := [] }
  if !claimed then (.paramInvalid, unused)
  else if !allocated then (.memAllocFail, unused)
  else (.success, clear { ledCount, mem := some (List.replicate ledCount 0), strip := [] } |>.2)

/-- `ws2812_set_led_count`; `allocated` is the outcome of `realloc`. -/
def setLedCount (h : Ws2812) (ledCount : Nat) (allocated : Bool) : ErrCode × Ws2812 :=
  if h.mem.isNone then (.needInit, h)
  else if ledCount = 0 then (.paramInvalid, h)
  else
    let h := h.clear.2
    if allocated then
      (.success, { h with mem := some (List.replicate ledCount 0), ledCount := ledCount })
    else (.memAllocFail, h)

@[simp] theorem setColor_ledCount (h : Ws2812) (index r g b : Nat) :
    (h.setColor index r g b).2.ledCount = h.ledCount := by
  unfold setColor
  split
  · rfl
  · split <;> rfl

@[simp] theorem refresh_ledCount (h : Ws2812) : h.refresh.2.ledCount = h.ledCount := by
  unfold refresh
  split <;> rfl

end Ws2812

end Stairway
