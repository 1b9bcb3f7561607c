import Mathlib.Algebra.Group.Nat.Defs

/-!
# Shared types of the firmware

The error codes of `global.h` and the enumerations of `main.h` and `stairway_leds.h`. An array
indexed by one of the enumerations is a record with one field for each value, read and written
through `get` and `set`.
-/

namespace Stairway

/-- `ErrCode` of `global.h`. -/
inductive ErrCode
  | success | fail | paramInvalid | paramIsNull | alreadyInited | needInit | openFile
  | memAllocFail | overflow | empty | busy
  deriving DecidableEq, Repr

inductive DetectorState
  | idle | firstLock | secondLock | inc | dec
  deriving DecidableEq, Repr

inductive DetectorType
  | up | down
  deriving DecidableEq, Repr

inductive StairwaySensorType
  | upFirst | upSecond | downFirst | downSecond
  deriving DecidableEq, Repr

inductive EmergencyType
  | up | down
  deriving DecidableEq, Repr

/-- An array indexed by `StairwaySensorType`. -/
@[ext] structure PerSensor (α : Type) where
  upFirst : α
  upSecond : α
  downFirst : α
  downSecond : α
  deriving DecidableEq, Repr

namespace PerSensor
variable {α β : Type}

def get (a : PerSensor α) : StairwaySensorType → α
  | .upFirst => a.upFirst
  | .upSecond => a.upSecond
  | .downFirst => a.downFirst
  | .downSecond => a.downSecond

/-- The array whose element `i` is `f i`. -/
def ofFn (f : StairwaySensorType → α) : PerSensor α :=
  ⟨f .upFirst, f .upSecond, f .downFirst, f .downSecond⟩

@[simp] theorem get_ofFn (f : StairwaySensorType → α) (i : StairwaySensorType) :
    (ofFn f).get i = f i := by
  cases i <;> rfl

end PerSensor

/-- An array indexed by `DetectorType`. -/
@[ext] structure PerDetector (α : Type) where
  up : α
  down : α
  deriving DecidableEq, Repr

namespace PerDetector
variable {α : Type}

def get (a : PerDetector α) : DetectorType → α
  | .up => a.up
  | .down => a.down

def set (a : PerDetector α) (d : DetectorType) (x : α) : PerDetector α :=
  match d with
  | .up => { a with up := x }
  | .down => { a with down := x }

def ofFn (f : DetectorType → α) : PerDetector α := ⟨f .up, f .down⟩

@[simp] theorem get_ofFn (f : DetectorType → α) (d : DetectorType) : (ofFn f).get d = f d := by
  cases d <;> rfl

@[simp] theorem get_set_same (a : PerDetector α) (d : DetectorType) (x : α) :
    (a.set d x).get d = x := by
  cases d <;> rfl

theorem get_set_other (a : PerDetector α) {d e : DetectorType} (x : α) (other : e ≠ d) :
    (a.set d x).get e = a.get e := by
  cases d <;> cases e <;> first | rfl | exact absurd rfl other

end PerDetector

/-- An array indexed by `EmergencyType`. -/
@[ext] structure PerEmergency (α : Type) where
  up : α
  down : α
  deriving DecidableEq, Repr

namespace PerEmergency
variable {α : Type}

def get (a : PerEmergency α) : EmergencyType → α
  | .up => a.up
  | .down => a.down

def set (a : PerEmergency α) (i : EmergencyType) (x : α) : PerEmergency α :=
  match i with
  | .up => { a with up := x }
  | .down => { a with down := x }

@[simp] theorem get_set_same (a : PerEmergency α) (i : EmergencyType) (x : α) :
    (a.set i x).get i = x := by
  cases i <;> rfl

theorem get_set_other (a : PerEmergency α) {i j : EmergencyType} (x : α) (other : j ≠ i) :
    (a.set i x).get j = a.get j := by
  cases i <;> cases j <;> first | rfl | exact absurd rfl other

end PerEmergency

end Stairway
