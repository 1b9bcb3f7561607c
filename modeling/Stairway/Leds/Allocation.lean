import Mathlib.Data.List.Induction
import Stairway.Leds.Strip

/-!
# The buffers when memory runs out

The LED buffer and the frame memory are allocated separately, and the driver's LED count stands for
both. `Covers` says that the count is inside both; a resize that shrinks the buffer and then cannot
resize the frame memory is the one step that breaks it.
-/

namespace Stairway

/-! ## Initialisation, again and again -/

/-- `ws2812_init` of a handle in any state. -/
def Ws2812.reinit (h : Ws2812) (ledCount : Nat) (claimed allocated : Bool) : ErrCode × Ws2812 :=
  if !claimed then (.paramInvalid, h)
  else if !allocated then (.memAllocFail, { h with ledCount := 0, mem := none })
  else (.success, clear { h with ledCount, mem := some (List.replicate ledCount 0) } |>.2)

/-- The handle before its first use. -/
def Ws2812.unused : Ws2812 := { ledCount := 0, mem := none, strip := [] }

theorem Ws2812.init_eq (ledCount : Nat) (claimed allocated : Bool) :
    Ws2812.init ledCount claimed allocated = Ws2812.unused.reinit ledCount claimed allocated := by
  cases claimed <;> cases allocated <;> rfl

/-- The words of the frame memory. -/
def Ws2812.words (h : Ws2812) : List Nat := h.mem.getD []

namespace StairwayLeds

/-- `stairway_leds_init` of the module in any state. -/
def reinit (l : StairwayLeds) (ledCount : Nat) (claimed allocated bufAllocated : Bool) :
    ErrCode × StairwayLeds :=
  let (err, ws2812) := l.ws2812.reinit ledCount claimed allocated
  if err ≠ .success then (err, { l with ws2812 })
  -- `ws2812_deinit`
  else if !bufAllocated then
    (.memAllocFail, { l with ws2812 := { ws2812 with ledCount := 0, mem := none }, buf := [] })
  else (.success, { l with ws2812, buf := zeroBuf ledCount })

/-- The module before its first use. -/
def unused : StairwayLeds := ⟨.unused, [], ⟨false, false⟩⟩

theorem init_eq (ledCount : Nat) (claimed allocated bufAllocated : Bool) :
    init ledCount claimed allocated bufAllocated =
      unused.reinit ledCount claimed allocated bufAllocated := by
  rw [init, Ws2812.init_eq]
  rfl

/-! ## Sizes -/

/-- The buffer has a LED and the frame memory a word for every index that is accepted. -/
structure Covers (l : StairwayLeds) : Prop where
  buf : l.ws2812.ledCount ≤ l.buf.length
  mem : l.ws2812.words.length = l.ws2812.ledCount

/-- The sizes are those of `h`. -/
structure SameWords (h h' : Ws2812) : Prop where
  words : h'.words.length = h.words.length
  ledCount : h'.ledCount = h.ledCount

theorem SameWords.trans {a b c : Ws2812} (first : SameWords a b) (second : SameWords b c) :
    SameWords a c :=
  ⟨second.words.trans first.words, second.ledCount.trans first.ledCount⟩

theorem setColor_words (h : Ws2812) (index r g b : Nat) : SameWords h (h.setColor index r g b).2 := by
  unfold Ws2812.setColor
  split
  · exact ⟨rfl, rfl⟩
  · rename_i mem some'
    split
    · exact ⟨rfl, rfl⟩
    · exact ⟨by simp [Ws2812.words, some'], rfl⟩

theorem refresh_words (h : Ws2812) : SameWords h h.refresh.2 := by
  unfold Ws2812.refresh
  split
  · exact ⟨rfl, rfl⟩
  · exact ⟨rfl, rfl⟩

theorem clear_words (h : Ws2812) : SameWords h h.clear.2 := by
  have loop : ∀ (n i : Nat) (h : Ws2812), SameWords h (h.clearFrom n i) := by
    intro n
    induction n with
    | zero => exact fun i h => ⟨rfl, rfl⟩
    | succ n ih => exact fun i h => (setColor_words h i 0 0 0).trans (ih (i + 1) _)
  exact (loop h.ledCount 0 h).trans (refresh_words _)

theorem setLedCount_words {h : Ws2812} (sized : h.words.length = h.ledCount) (ledCount : Nat)
    (allocated : Bool) :
    (h.setLedCount ledCount allocated).2.words.length = (h.setLedCount ledCount allocated).2.ledCount := by
  obtain ⟨words, count⟩ := clear_words h
  unfold Ws2812.setLedCount
  split
  · exact sized
  split
  · exact sized
  dsimp only
  split
  · exact List.length_replicate
  · exact words.trans (sized.trans count.symm)

/-- The count of a driver after a resize: the new one, or the old one with an error. -/
theorem setLedCount_count {h : Ws2812} {ledCount : Nat} (positive : 1 ≤ ledCount) (allocated : Bool) :
    (h.setLedCount ledCount allocated).2.ledCount =
      if h.mem.isSome ∧ allocated = true then ledCount else h.ledCount := by
  have cleared := (clear_words h).ledCount
  unfold Ws2812.setLedCount
  cases mem : h.mem with
  | none => simp
  | some words =>
    rw [if_neg (by simp), if_neg (by omega)]
    cases allocated with
    | true => simp
    | false => simpa using cleared

/-- The sizes of the buffers are those of `l`. -/
structure SameSizes (l l' : StairwayLeds) : Prop where
  buf : l'.buf.length = l.buf.length
  ws2812 : SameWords l.ws2812 l'.ws2812

theorem SameSizes.refl (l : StairwayLeds) : SameSizes l l := ⟨rfl, rfl, rfl⟩

theorem SameSizes.trans {a b c : StairwayLeds} (first : SameSizes a b) (second : SameSizes b c) :
    SameSizes a c :=
  ⟨second.buf.trans first.buf, first.ws2812.trans second.ws2812⟩

theorem SameSizes.covers_iff {l l' : StairwayLeds} (same : SameSizes l l') : Covers l' ↔ Covers l := by
  obtain ⟨buf, words, count⟩ := same
  constructor
  · rintro ⟨inside, sized⟩
    exact ⟨by omega, by omega⟩
  · rintro ⟨inside, sized⟩
    exact ⟨by omega, by omega⟩

theorem rampFrom_sizes (cfg : Settings) (l : StairwayLeds) (updated : Bool) (n i : Nat) :
    SameSizes l (rampFrom cfg l updated n i).2.1 := by
  induction n generalizing l updated i with
  | zero => exact .refl l
  | succ n ih =>
    rw [rampFrom]
    split
    · exact .refl l
    · rename_i led here
      dsimp only
      -- the LED and the word of its pixel are overwritten
      have written : SameSizes l { l with
          buf := l.buf.set i (rampLed cfg (inEmergency cfg l i) led).1
          ws2812 := (l.ws2812.setColor i (rampLed cfg (inEmergency cfg l i) led).1.ledValue
            (rampLed cfg (inEmergency cfg l i) led).1.ledValue
            (rampLed cfg (inEmergency cfg l i) led).1.ledValue).2 } :=
        ⟨List.length_set, setColor_words _ _ _ _ _⟩
      split
      · exact written.trans (ih _ _ _)
      · exact written

/-- A refresh changes the sizes by its resize only. -/
theorem refresh_sizes (cfg : Settings) (alloc : Alloc) (l : StairwayLeds) :
    SameSizes (if cfg.num .ledCount ≠ l.ws2812.ledCount then (l.resize (cfg.num .ledCount) alloc).2 else l)
      (l.refresh cfg alloc).2 := by
  obtain ⟨r, resized⟩ : ∃ r, r = if cfg.num .ledCount ≠ l.ws2812.ledCount then
      l.resize (cfg.num .ledCount) alloc else (.success, l) := ⟨_, rfl⟩
  have first : (if cfg.num .ledCount ≠ l.ws2812.ledCount then (l.resize (cfg.num .ledCount) alloc).2 else l) =
      r.2 := by
    rw [resized, apply_ite Prod.snd]
  have ramped := rampFrom_sizes cfg r.2 false r.2.ws2812.ledCount 0
  rw [first, refresh, ← resized]
  dsimp only
  split
  · exact .refl _
  split
  · exact ramped
  split
  · exact ramped.trans ⟨rfl, refresh_words _⟩
  · exact ramped

/-- The resize that breaks off in the middle: the buffer has shrunk, the frame memory has not. -/
def HalfShrink (ledCount : Nat) (alloc : Alloc) (l : StairwayLeds) : Prop :=
  ledCount < l.ws2812.ledCount ∧ alloc.buf = true ∧ alloc.mem = false

theorem resize_covers_iff {l : StairwayLeds} (covers : Covers l) {ledCount : Nat} (positive : 1 ≤ ledCount)
    (alloc : Alloc) : Covers (l.resize ledCount alloc).2 ↔ ¬ HalfShrink ledCount alloc l := by
  unfold resize HalfShrink
  cases shrunk : alloc.buf with
  | false =>
    rw [if_neg Bool.false_ne_true]
    exact iff_of_true covers (fun half => Bool.false_ne_true half.2.1)
  | true =>
    rw [if_pos rfl]
    have count := setLedCount_count (h := l.ws2812) positive alloc.mem
    have words := setLedCount_words covers.mem ledCount alloc.mem
    have unused : l.ws2812.mem.isSome = false → l.ws2812.ledCount = 0 := by
      intro null
      have sized := covers.mem
      rw [Ws2812.words, Option.isNone_iff_eq_none.mp (Option.isSome_eq_false_iff.mp null)] at sized
      exact sized.symm
    have new : (zeroBuf ledCount).length = ledCount := List.length_replicate
    constructor
    · rintro covers' ⟨shrinks, -, fails⟩
      have inside : (l.ws2812.setLedCount ledCount alloc.mem).2.ledCount ≤ (zeroBuf ledCount).length :=
        covers'.buf
      rw [count, fails, if_neg (by simp), new] at inside
      omega
    · intro whole
      refine ⟨?_, words⟩
      rw [count, new]
      split
      · exact Nat.le_refl _
      · rename_i refused
        cases resized : alloc.mem with
        | true =>
          rw [unused (by simpa [resized] using refused)]
          exact Nat.zero_le _
        | false =>
          apply Classical.byContradiction
          intro shrinks
          exact whole ⟨by omega, rfl, resized⟩

theorem refresh_covers_iff {cfg : Settings} {l : StairwayLeds} (covers : Covers l)
    (positive : 1 ≤ cfg.num .ledCount) (alloc : Alloc) :
    Covers (l.refresh cfg alloc).2 ↔ ¬ HalfShrink (cfg.num .ledCount) alloc l := by
  rw [(refresh_sizes cfg alloc l).covers_iff]
  split
  · exact resize_covers_iff covers positive alloc
  · exact iff_of_true covers (fun half => by have := half.1; omega)

theorem reinit_covers {l : StairwayLeds} (covers : Covers l) (ledCount : Nat)
    (claimed allocated bufAllocated : Bool) :
    Covers (l.reinit ledCount claimed allocated bufAllocated).2 := by
  have fresh := clear_words { l.ws2812 with ledCount, mem := some (List.replicate ledCount 0) }
  cases claimed with
  | false => exact covers
  | true =>
    cases allocated with
    | false => exact ⟨Nat.zero_le _, rfl⟩
    | true =>
      cases bufAllocated with
      | false => exact ⟨Nat.zero_le _, rfl⟩
      | true =>
        refine ⟨?_, ?_⟩
        · refine Nat.le_of_eq (fresh.ledCount.trans ?_)
          exact List.length_replicate.symm
        · exact (fresh.words.trans List.length_replicate).trans fresh.ledCount.symm

theorem setState_sizes (l : StairwayLeds) (index : Nat) (state : Bool) (eventTs : Nat) :
    SameSizes l (l.setState index state eventTs).2 := by
  unfold setState
  split
  · exact .refl l
  · exact ⟨List.length_modify _ _ _, rfl, rfl⟩

/-! ## Histories -/

/-- The calls of the module and the changes of the settings, with the outcomes of the allocations. -/
inductive AllocOp
  | init (claimed allocated bufAllocated : Bool)
  | change (settings : Settings) (valid : settings.Valid)
  | refresh (alloc : Alloc)
  | setState (index : Nat) (state : Bool) (eventTs : Nat)

def Panel.allocStep (p : Panel) : AllocOp → Panel
  | .init claimed allocated bufAllocated =>
    { p with leds := (p.leds.reinit (p.settings.num .ledCount) claimed allocated bufAllocated).2 }
  | .change settings _ => { p with settings := settings }
  | .refresh alloc => { p with leds := (p.leds.refresh p.settings alloc).2 }
  | .setState index state eventTs => { p with leds := (p.leds.setState index state eventTs).2 }

/-- The first initialisation, which also sets the pointer to the settings, and what follows it. -/
def Panel.history (settings : Settings) (first : Bool × Bool × Bool) (ops : List AllocOp) : Panel :=
  ops.foldl Panel.allocStep (Panel.allocStep ⟨settings, unused⟩ (.init first.1 first.2.1 first.2.2))

/-- Every index that is accepted is in range. -/
structure Accepts (l : StairwayLeds) : Prop where
  setState : ∀ index state eventTs, (l.setState index state eventTs).1 = .success → index < l.buf.length
  setColor : ∀ index r g b, (l.ws2812.setColor index r g b).1 = .success →
    index < l.ws2812.words.length

theorem Covers.accepts {l : StairwayLeds} (covers : Covers l) : Accepts l := by
  obtain ⟨inside, sized⟩ := covers
  constructor
  · intro index state eventTs accepted
    unfold setState at accepted
    split at accepted
    · cases accepted
    · omega
  · intro index r g b accepted
    unfold Ws2812.setColor at accepted
    split at accepted
    · cases accepted
    split at accepted
    · cases accepted
    · omega

/-- A refresh that shrinks the strip gets the memory for one of the buffers only. -/
def Panel.HalfShrinks (p : Panel) : AllocOp → Prop
  | .refresh alloc => HalfShrink (p.settings.num .ledCount) alloc p.leds
  | _ => False

theorem Panel.allocStep_valid {p : Panel} (valid : p.settings.Valid) (op : AllocOp) :
    (p.allocStep op).settings.Valid := by
  cases op with
  | change _ valid' => exact valid'
  | _ => exact valid

/-- **One step** keeps the indices in range, unless it is such a refresh. -/
theorem Panel.allocStep_covers_iff {p : Panel} (valid : p.settings.Valid) (covers : Covers p.leds)
    (op : AllocOp) : Covers (p.allocStep op).leds ↔ ¬ p.HalfShrinks op := by
  cases op with
  | init claimed allocated bufAllocated =>
    exact iff_of_true (reinit_covers covers _ claimed allocated bufAllocated) id
  | change settings valid' => exact iff_of_true covers id
  | refresh alloc => exact refresh_covers_iff covers valid.ledCountPos alloc
  | setState index state eventTs =>
    exact iff_of_true ((setState_sizes p.leds index state eventTs).covers_iff.mpr covers) id

theorem Panel.history_append (settings : Settings) (first : Bool × Bool × Bool) (ops : List AllocOp)
    (op : AllocOp) : Panel.history settings first (ops ++ [op]) =
      (Panel.history settings first ops).allocStep op := by
  rw [history, history, List.foldl_append]
  rfl

theorem Panel.history_valid {settings : Settings} (valid : settings.Valid) (first : Bool × Bool × Bool)
    (ops : List AllocOp) : (Panel.history settings first ops).settings.Valid := by
  induction ops using List.reverseRecOn with
  | nil => exact valid
  | append_singleton ops op ih =>
    rw [history_append]
    exact allocStep_valid ih op

/-- **The buffers cover every accepted index in every state of a history** exactly if no refresh of it
shrinks the LED buffer and then fails to resize the frame memory. -/
theorem buffers_cover_iff {settings : Settings} (valid : settings.Valid) (first : Bool × Bool × Bool)
    (ops : List AllocOp) :
    (∀ before, before <+: ops → Covers (Panel.history settings first before).leds ∧
        Accepts (Panel.history settings first before).leds) ↔
      ∀ before op, before ++ [op] <+: ops → ¬ (Panel.history settings first before).HalfShrinks op := by
  have step := fun before covers op =>
    Panel.allocStep_covers_iff (Panel.history_valid valid first before) covers op
  constructor
  · intro covers before op inside
    have earlier : before <+: ops := (List.prefix_append before [op]).trans inside
    have after := (covers _ inside).1
    rw [Panel.history_append] at after
    exact (step before (covers _ earlier).1 op).mp after
  · intro whole before inside
    have covers : Covers (Panel.history settings first before).leds := by
      induction before using List.reverseRecOn with
      | nil => exact reinit_covers ⟨Nat.le_refl 0, rfl⟩ _ _ _ _
      | append_singleton before op ih =>
        rw [Panel.history_append]
        have earlier : before <+: ops := (List.prefix_append before [op]).trans inside
        exact (step before (ih earlier) op).mpr (whole before op inside)
    exact ⟨covers, covers.accepts⟩

theorem eightLeds_valid : (defaultSettings.setNum .ledCount 8).Valid :=
  (settingsValidate_iff _).mp (by decide +kernel)

/-- The settings give up ten LEDs; at the refresh the frame memory cannot be resized, at the next one
it can. -/
def giveUpTen : List AllocOp :=
  [.change (defaultSettings.setNum .ledCount 8) eightLeds_valid, .refresh ⟨true, false⟩,
    .refresh ⟨true, true⟩]

theorem buffers_cover_iff_giveUpTen :
    (∀ before, before <+: giveUpTen →
        Covers (Panel.history defaultSettings (true, true, true) before).leds ∧
        Accepts (Panel.history defaultSettings (true, true, true) before).leds) ↔
      ∀ before op, before ++ [op] <+: giveUpTen →
        ¬ (Panel.history defaultSettings (true, true, true) before).HalfShrinks op :=
  buffers_cover_iff defaultSettings_valid (true, true, true) giveUpTen

/-- After the first refresh LED 17 is still accepted, and the buffer has 8. -/
theorem buffers_cover_fail :
    (Panel.history defaultSettings (true, true, true) (giveUpTen.take 2)).leds.buf.length = 8 ∧
      (Panel.history defaultSettings (true, true, true) (giveUpTen.take 2)).leds.ws2812.ledCount = 18 ∧
      ((Panel.history defaultSettings (true, true, true) (giveUpTen.take 2)).leds.setState 17 true 1).1 =
        .success ∧
      ¬ Covers (Panel.history defaultSettings (true, true, true) (giveUpTen.take 2)).leds := by
  have sizes : (Panel.history defaultSettings (true, true, true) (giveUpTen.take 2)).leds.buf.length = 8 ∧
      (Panel.history defaultSettings (true, true, true) (giveUpTen.take 2)).leds.ws2812.ledCount = 18 ∧
      ((Panel.history defaultSettings (true, true, true) (giveUpTen.take 2)).leds.setState 17 true 1).1 =
        .success := by decide +kernel
  refine ⟨sizes.1, sizes.2.1, sizes.2.2, fun covers => ?_⟩
  have inside := covers.buf
  rw [sizes.1, sizes.2.1] at inside
  omega

end StairwayLeds

end Stairway
