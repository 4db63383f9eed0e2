/-
Module: Scanout.Proofs.LoadHistory
Purpose: A load meter keeps the shares of the last frames in the order in which they came, counts
  all frames, and reads and writes none but the slots it has.
Imports: Scanout.Load, Scanout.Proofs.Checked.Word
Main exports: LoadMeter.observeAll, LoadMeter.Remembers, LoadMeter.remembers_push,
  LoadMeter.shares_eq, LoadMeter.rotate_stored, LoadMeter.Counted, Checked.remainder,
  LoadMeter.observeAllChecked
-/
import Mathlib.Data.List.FinRange
import Mathlib.Data.List.Rotate
import Scanout.Load
import Scanout.Proofs.Checked.Word

namespace Scanout

namespace LoadMeter

variable {window : Nat}

/-- Observe frames one after the other: the readings in order, and the meter that is left. -/
def observeAll (meter : LoadMeter window) : List FrameLoad → List LoadReading × LoadMeter window
  | [] => ([], meter)
  | sample :: samples =>
      let (reading, next) := meter.observe sample
      let (readings, last) := next.observeAll samples
      (reading :: readings, last)

/-! ### Where shares are kept -/

/-- What the slots, the cursor and the fill of a meter say about the shares that were observed, from
the first on: the next slot is the one that their number falls on, and each of the last `window`
shares is in the slot that its position falls on. -/
structure Remembers (meter : LoadMeter window) (history : List Float) : Prop where
  filled : meter.filled = min history.length window
  cursor : 0 < window → meter.cursor = history.length % window
  slot : ∀ i < history.length, history.length ≤ i + window →
    meter.slots[i % window]? = history[i]?

theorem Remembers.filled_le {meter : LoadMeter window} {history : List Float}
    (remembers : meter.Remembers history) : meter.filled ≤ window := by
  rw [remembers.filled]
  exact Nat.min_le_right _ _

theorem Remembers.cursor_lt {meter : LoadMeter window} {history : List Float}
    (remembers : meter.Remembers history) (positive : 0 < window) : meter.cursor < window := by
  rw [remembers.cursor positive]
  exact Nat.mod_lt _ positive

theorem remembers_new (window : Nat) : (new window).Remembers [] where
  filled := rfl
  cursor := fun _ => rfl
  slot := fun _ inside _ => absurd inside (Nat.not_lt_zero _)

/-- Of two positions that fall on one slot the later is at least a window further on. -/
theorem mod_ne_mod_of_near {i n : Nat} (before : i < n) (near : n < i + window) :
    n % window ≠ i % window := by
  intro same
  have divides : window ∣ n - i := Nat.dvd_of_mod_eq_zero (Nat.sub_mod_eq_zero_of_mod_eq same)
  have far : window ≤ n - i := Nat.le_of_dvd (Nat.sub_pos_of_lt before) divides
  omega

theorem remembers_push {meter : LoadMeter window} {history : List Float}
    (remembers : meter.Remembers history) (share : Float) :
    (meter.push share).Remembers (history ++ [share]) := by
  rw [push]
  split
  · next none =>
      subst none
      refine ⟨?_, fun slots => absurd slots (Nat.lt_irrefl 0), ?_⟩
      · rw [remembers.filled, Nat.min_zero, Nat.min_zero]
      · intro i inside recent
        omega
  · next some =>
      have positive : 0 < window := Nat.pos_of_ne_zero some
      have cursor := remembers.cursor positive
      have length : (history ++ [share]).length = history.length + 1 := List.length_append
      refine ⟨?filled, ?cursor, ?slot⟩
      case filled =>
        show min (meter.filled + 1) window = _
        rw [remembers.filled, length]
        omega
      case cursor =>
        intro _
        show (meter.cursor + 1) % window = _
        rw [cursor, length, Nat.mod_add_mod]
      case slot =>
        intro i inside recent
        show (meter.slots.setIfInBounds meter.cursor share)[i % window]? = _
        rw [Vector.getElem?_setIfInBounds, cursor]
        rcases Nat.lt_or_eq_of_le (Nat.le_of_lt_succ (length ▸ inside)) with earlier | rfl
        · -- The new share takes a slot that no recent one is in.
          rw [if_neg (mod_ne_mod_of_near earlier (by omega)), List.getElem?_append_left earlier]
          exact remembers.slot i earlier (by omega)
        · rw [if_pos rfl, if_pos (Nat.mod_lt _ positive), List.getElem?_concat_length]

/-- Counting a frame does not touch the shares. -/
theorem remembers_count {meter : LoadMeter window} {history : List Float}
    (remembers : meter.Remembers history) (sample : FrameLoad) :
    (meter.count sample).Remembers history :=
  ⟨remembers.filled, remembers.cursor, remembers.slot⟩

theorem remembers_observe {meter : LoadMeter window} {history : List Float}
    (remembers : meter.Remembers history) (sample : FrameLoad) :
    (meter.observe sample).2.Remembers (history ++ [sample.share]) :=
  remembers_push (remembers_count remembers sample) sample.share

theorem remembers_observeAll {meter : LoadMeter window} {history : List Float}
    (remembers : meter.Remembers history) (samples : List FrameLoad) :
    (meter.observeAll samples).2.Remembers (history ++ samples.map FrameLoad.share) := by
  induction samples generalizing meter history with
  | nil =>
      rw [List.map_nil, List.append_nil]
      exact remembers
  | cons sample samples inductionHypothesis =>
      rw [List.map_cons, List.append_cons]
      exact inductionHypothesis (remembers_observe remembers sample)

/-! ### What is read off the slots -/

section Reading

variable {meter : LoadMeter window} {history : List Float} (remembers : meter.Remembers history)

include remembers

/-- Counted from the oldest share on, the slots hold the shares of the window in order. -/
theorem slot_oldest_add {i : Nat} (kept : i < meter.filled) :
    meter.slots[(meter.oldest + i) % window]? = history[history.length - window + i]? := by
  have filled := remembers.filled
  have position : (meter.oldest + i) % window = (history.length - window + i) % window := by
    rw [oldest]
    split
    · next room => rw [Nat.sub_eq_zero_of_le (by omega)]
    · next full =>
        have wrapped : history.length + i = history.length - window + i + window := by omega
        rw [remembers.cursor (by omega), Nat.mod_add_mod, wrapped, Nat.add_mod_right]
  rw [position]
  exact remembers.slot _ (by omega) (by omega)

theorem getElem?_latest {i : Nat} (kept : i < meter.filled) :
    (history.drop (history.length - window))[i]? =
      meter.slots[(meter.oldest + i) % window]? := by
  rw [List.getElem?_drop, slot_oldest_add remembers kept]

theorem length_latest :
    (history.drop (history.length - window)).length = meter.filled := by
  rw [List.length_drop, remembers.filled]
  omega

theorem length_stored : meter.stored.length = meter.filled := by
  rw [stored, List.length_take, Vector.length_toList]
  exact Nat.min_eq_left remembers.filled_le

/-- The shares of the window, and zeros up to its size. -/
theorem shares_eq :
    meter.shares = history.drop (history.length - window) ++
      List.replicate (window - meter.filled) 0.0 := by
  have length := length_latest remembers
  apply List.ext_getElem?
  intro i
  rw [shares, List.getElem?_ofFn]
  by_cases kept : i < meter.filled
  · have inWindow : i < window := Nat.lt_of_lt_of_le kept remembers.filled_le
    rw [dif_pos inWindow, if_pos kept, List.getElem?_append_left (length.symm ▸ kept),
      getElem?_latest remembers kept,
      Vector.getElem?_eq_getElem (Nat.mod_lt _ (Nat.zero_lt_of_lt inWindow))]
    rfl
  · rw [List.getElem?_append_right (by omega), length, List.getElem?_replicate]
    by_cases inWindow : i < window
    · rw [dif_pos inWindow, if_neg kept, if_pos (by omega)]
    · rw [dif_neg inWindow, if_neg (by omega)]

/-- The slots start in the middle of the window if it has wrapped around. -/
theorem rotate_stored :
    meter.stored.rotate meter.oldest = history.drop (history.length - window) := by
  have length := length_stored remembers
  apply List.ext_getElem?
  intro i
  by_cases kept : i < meter.filled
  · have position : (i + meter.oldest) % meter.filled = (meter.oldest + i) % window := by
      have filled := remembers.filled
      rw [Nat.add_comm, oldest]
      split
      · next room => rw [Nat.zero_add, Nat.mod_eq_of_lt kept, Nat.mod_eq_of_lt (by omega)]
      · next full => rw [show meter.filled = window by omega]
    have inStored : (i + meter.oldest) % meter.filled < meter.filled :=
      Nat.mod_lt _ (Nat.zero_lt_of_lt kept)
    rw [List.getElem?_rotate (length.symm ▸ kept), length, getElem?_latest remembers kept, stored,
      List.getElem?_take_of_lt inStored, Vector.getElem?_toList, position]
  · rw [List.getElem?_eq_none, List.getElem?_eq_none]
    · rw [length_latest remembers]
      omega
    · rw [List.length_rotate, length]
      omega

end Reading

/-! ### Counters -/

/-- The counters of a meter count the observed frames, as many of them as were flattened or planned
worse than meant. -/
structure Counted (meter : LoadMeter window) (samples : List FrameLoad) : Prop where
  frames : meter.frames = samples.length
  flattened : meter.flattened = samples.countP FrameLoad.flattened
  degraded : meter.degraded = samples.countP FrameLoad.degraded

theorem counted_new (window : Nat) : (new window).Counted [] := ⟨rfl, rfl, rfl⟩

/-- A counter with room for one more goes up by one for a frame that it counts. -/
theorem countP_concat_eq {samples : List FrameLoad} (room : samples.length < Word.max64)
    (counts : FrameLoad → Bool) (sample : FrameLoad) :
    (samples ++ [sample]).countP counts =
      if counts sample then Word.satAdd (samples.countP counts) 1 else samples.countP counts := by
  have bounded : samples.countP counts ≤ samples.length := List.countP_le_length
  rw [List.countP_append, List.countP_singleton, Word.satAdd]
  split <;> omega

theorem counted_observe {meter : LoadMeter window} {samples : List FrameLoad}
    (counted : meter.Counted samples) (room : samples.length < Word.max64) (sample : FrameLoad) :
    (meter.observe sample).2.Counted (samples ++ [sample]) := by
  have untouched : ∀ other : LoadMeter window, other.Counted (samples ++ [sample]) →
      (other.push sample.share).Counted (samples ++ [sample]) := by
    intro other sure
    rw [push]
    split <;> exact ⟨sure.frames, sure.flattened, sure.degraded⟩
  apply untouched
  refine ⟨?frames, ?flattened, ?degraded⟩
  case frames =>
    show Word.satAdd meter.frames 1 = _
    rw [counted.frames, List.length_append, List.length_singleton, Word.satAdd]
    omega
  case flattened => rw [count, counted.flattened, countP_concat_eq room]
  case degraded => rw [count, counted.degraded, countP_concat_eq room]

theorem counted_observeAll {meter : LoadMeter window} {earlier : List FrameLoad}
    (counted : meter.Counted earlier) (samples : List FrameLoad)
    (few : (earlier ++ samples).length ≤ Word.max64) :
    (meter.observeAll samples).2.Counted (earlier ++ samples) := by
  induction samples generalizing meter earlier with
  | nil =>
      rw [List.append_nil]
      exact counted
  | cons sample samples inductionHypothesis =>
      rw [List.append_cons] at few ⊢
      have room : earlier.length < Word.max64 := by
        simp only [List.length_append, List.length_singleton] at few
        omega
      exact inductionHypothesis (counted_observe counted room sample) few

theorem observeAll_cons (meter : LoadMeter window) (sample : FrameLoad) (samples : List FrameLoad) :
    meter.observeAll (sample :: samples) =
      ((meter.observe sample).2.reading :: ((meter.observe sample).2.observeAll samples).1,
        ((meter.observe sample).2.observeAll samples).2) := rfl

/-- There is a reading for every frame, and the last one reads the meter that is left. -/
theorem readings_observeAll (meter : LoadMeter window) (samples : List FrameLoad) :
    (meter.observeAll samples).1.length = samples.length ∧
      ∀ reading, (meter.observeAll samples).1.getLast? = some reading →
        reading = (meter.observeAll samples).2.reading := by
  induction samples generalizing meter with
  | nil => exact ⟨rfl, fun _ last => nomatch last⟩
  | cons sample samples inductionHypothesis =>
      obtain ⟨length, last⟩ := inductionHypothesis (meter.observe sample).2
      rw [observeAll_cons]
      refine ⟨congrArg (· + 1) length, ?_⟩
      intro reading found
      cases samples with
      | nil => exact (Option.some.inj found).symm
      | cons next later =>
          rw [observeAll_cons, List.getLast?_cons_cons] at found
          exact last reading found

end LoadMeter

/-! ### Slots and positions, checked -/

namespace Checked

/-- Remainder of a word; what it is divided by must not be zero. -/
def remainder (a b : Nat) : Checked Nat := do
  require (0 < b)
  return a % b

theorem remainder_of_pos (a : Nat) {b : Nat} (positive : 0 < b) : remainder a b = .ok (a % b) := by
  simp only [remainder, require_of_true (decide_eq_true positive), ok_bind, pure_eq_ok]

/-- A list of computations none of which fails. -/
theorem mapM_eq_ok {α β : Type} {compute : α → Checked β} {value : α → β} {items : List α}
    (each : ∀ item ∈ items, compute item = .ok (value item)) :
    items.mapM compute = .ok (items.map value) := by
  induction items with
  | nil => rfl
  | cons item items inductionHypothesis =>
      rw [List.mapM_cons, each item List.mem_cons_self,
        inductionHypothesis fun other later => each other (List.mem_cons_of_mem item later)]
      rfl

end Checked

namespace LoadMeter

variable {window : Nat}

/-- The share in a slot, which has to be there. -/
def slotChecked (meter : LoadMeter window) (i : Nat) : Checked Float :=
  match meter.slots[i]? with
  | some share => return share
  | none => throw .outOfBounds

/-- A meter with slots overwrites the one under the cursor; one without has nothing to write to. -/
def pushChecked (meter : LoadMeter window) (share : Float) : Checked (LoadMeter window) := do
  if window = 0 then return meter
  else
    let _overwritten ← meter.slotChecked meter.cursor
    let cursor ← Checked.remainder (← Checked.add meter.cursor 1) window
    let filled := min (← Checked.add meter.filled 1) window
    return { meter with slots := meter.slots.setIfInBounds meter.cursor share, cursor, filled }

/-- The slots in use, which are cut out of all slots. -/
def storedChecked (meter : LoadMeter window) : Checked (List Float) := do
  Checked.require (meter.filled ≤ window)
  return meter.stored

def observeChecked (meter : LoadMeter window) (sample : FrameLoad) :
    Checked (LoadReading × LoadMeter window) := do
  let next ← (meter.count sample).pushChecked sample.share
  let _summed ← next.storedChecked
  return (next.reading, next)

def observeAllChecked (meter : LoadMeter window) :
    List FrameLoad → Checked (List LoadReading × LoadMeter window)
  | [] => return ([], meter)
  | sample :: samples => do
      let (reading, next) ← meter.observeChecked sample
      let (readings, last) ← next.observeAllChecked samples
      return (reading :: readings, last)

def shareChecked (meter : LoadMeter window) (i : Nat) : Checked Float := do
  if i < meter.filled then
    meter.slotChecked (← Checked.remainder (← Checked.add meter.oldest i) window)
  else return 0.0

def sharesChecked (meter : LoadMeter window) : Checked (List Float) :=
  (List.finRange window).mapM fun i : Fin window => meter.shareChecked i.val

section Words

variable {meter : LoadMeter window} {history : List Float}

theorem slotChecked_eq (meter : LoadMeter window) {i : Nat} (inside : i < window) :
    meter.slotChecked i = .ok (meter.slots.get ⟨i, inside⟩) := by
  rw [slotChecked, Vector.getElem?_eq_getElem inside]
  rfl

variable (remembers : meter.Remembers history) (small : 8 * window ≤ Word.max64)

include remembers small

theorem pushChecked_eq (share : Float) : meter.pushChecked share = .ok (meter.push share) := by
  rw [pushChecked, push]
  split
  · rfl
  · next some =>
      have positive : 0 < window := Nat.pos_of_ne_zero some
      have cursor := remembers.cursor_lt positive
      have filled := remembers.filled_le
      simp only [slotChecked_eq meter cursor,
        Checked.add_of_le (show meter.cursor + 1 ≤ _ by omega),
        Checked.add_of_le (show meter.filled + 1 ≤ _ by omega),
        Checked.remainder_of_pos _ positive, Checked.ok_bind, Checked.pure_eq_ok]

theorem observeChecked_eq (sample : FrameLoad) :
    meter.observeChecked sample = .ok (meter.observe sample) := by
  have counted := remembers_count remembers sample
  have inSlots := (remembers_push counted sample.share).filled_le
  simp only [observeChecked, pushChecked_eq counted small, storedChecked,
    Checked.require_of_true (decide_eq_true inSlots), Checked.ok_bind, Checked.pure_eq_ok]
  rfl

theorem observeAllChecked_eq (samples : List FrameLoad) :
    meter.observeAllChecked samples = .ok (meter.observeAll samples) := by
  induction samples generalizing meter history with
  | nil => rfl
  | cons sample samples inductionHypothesis =>
      simp only [observeAllChecked, observeChecked_eq remembers small,
        inductionHypothesis (remembers_observe remembers sample), Checked.ok_bind,
        Checked.pure_eq_ok]
      rfl

theorem sharesChecked_eq : meter.sharesChecked = .ok meter.shares := by
  rw [sharesChecked, shares, List.ofFn_eq_map]
  apply Checked.mapM_eq_ok
  intro i _
  rw [shareChecked]
  split
  · next kept =>
      have oldest : meter.oldest ≤ window := by
        rw [LoadMeter.oldest]
        split
        · exact Nat.zero_le window
        · exact Nat.le_of_lt (remembers.cursor_lt i.pos)
      have inside := i.isLt
      simp only [Checked.add_of_le (show meter.oldest + i.val ≤ _ by omega),
        Checked.remainder_of_pos _ i.pos, Checked.ok_bind]
      exact slotChecked_eq meter (Nat.mod_lt _ i.pos)
  · rfl

end Words

/-! ### Runs of a new meter -/

/-- After any number of frames that a word counts, a meter shows the shares of the last ones that
its window holds, oldest first, and zeros for the rest of the window.  The stored shares, whose mean
it reads, are the same ones from another one on.  The last reading counts all frames, the flattened
ones, and the ones planned worse than meant, once each.  No position is divided by zero, passes a
word or misses the slots, also in a window of size zero; for this the shares, each of which takes
eight bytes, have to fit into memory. -/
theorem history_exact (window : Nat) {samples : List FrameLoad}
    (few : samples.length ≤ Word.max64) :
    let meter := ((new window).observeAll samples).2
    let readings := ((new window).observeAll samples).1
    let latest := (samples.map FrameLoad.share).drop (samples.length - window)
    latest.length = min samples.length window ∧
      meter.shares = latest ++ List.replicate (window - min samples.length window) 0.0 ∧
      (meter.stored.IsRotated latest ∧
        meter.meanShare =
          if min samples.length window = 0 then 0.0
          else meter.stored.foldl (· + ·) (-0.0) / Word.toFloat (min samples.length window)) ∧
      (readings.length = samples.length ∧
        ∀ reading, readings.getLast? = some reading →
          reading.meanShare = meter.meanShare ∧ reading.frames = samples.length ∧
            reading.flattened = samples.countP (fun sample => sample.flattened) ∧
            reading.degraded = samples.countP (fun sample => sample.fallback || sample.rejected) ∧
            reading.degraded ≤ reading.frames) ∧
      (8 * window ≤ Word.max64 →
        (new window).observeAllChecked samples = .ok (readings, meter) ∧
          meter.sharesChecked = .ok meter.shares) := by
  intro meter readings latest
  have remembers : meter.Remembers (samples.map FrameLoad.share) :=
    remembers_observeAll (remembers_new window) samples
  have counted : meter.Counted samples := counted_observeAll (counted_new window) samples few
  have length : (samples.map FrameLoad.share).length = samples.length := List.length_map _
  have filled : meter.filled = min samples.length window := length ▸ remembers.filled
  have latestEq : latest = (samples.map FrameLoad.share).drop
      ((samples.map FrameLoad.share).length - window) := by rw [length]
  refine ⟨?_, ?shown, ⟨⟨meter.oldest, ?rotated⟩, ?mean⟩, ?counts, ?checked⟩
  · rw [latestEq, length_latest remembers, filled]
  case shown => rw [shares_eq remembers, latestEq, filled]
  case rotated => rw [rotate_stored remembers, latestEq]
  case mean => rw [meanShare, filled]
  case counts =>
    obtain ⟨all, last⟩ := readings_observeAll (new window) samples
    refine ⟨all, ?_⟩
    intro reading found
    rw [last reading found]
    refine ⟨rfl, counted.frames, counted.flattened, counted.degraded, ?_⟩
    show meter.degraded ≤ meter.frames
    rw [counted.degraded, counted.frames]
    exact List.countP_le_length
  case checked =>
    intro small
    exact ⟨observeAllChecked_eq (remembers_new window) small samples,
      sharesChecked_eq remembers small⟩

/-- Five frames in a window of two; the third was rejected after its reservation was given up, and
the window has wrapped around. -/
theorem history_exact_on_wrapped_window :
    let samples : List FrameLoad :=
      [{ share := 100.0, flattened := true }, { share := 12.5 },
        { share := 50.0, fallback := true, rejected := true }, { share := 25.0, rejected := true },
        { share := 0.5 }]
    let meter := ((new 2).observeAll samples).2
    samples.length ≤ Word.max64 ∧ meter.shares = [25.0, 0.5] ∧ meter.stored = [0.5, 25.0] ∧
      ∀ reading, ((new 2).observeAll samples).1.getLast? = some reading →
        reading.frames = 5 ∧ reading.flattened = 1 ∧ reading.degraded = 2 := by
  intro samples meter
  have few : samples.length ≤ Word.max64 := by decide
  obtain ⟨_, shown, _, ⟨_, counts⟩, _⟩ := history_exact 2 few
  refine ⟨few, shown, rfl, ?_⟩
  intro reading found
  obtain ⟨_, frames, flattened, degraded, _⟩ := counts reading found
  exact ⟨frames, flattened, degraded⟩

end LoadMeter

end Scanout
