/-
Module: Scanout.Proofs.Trace.Cursor
Purpose: Reading a recording through a cursor into its bytes, where every access outside the bytes
  is a fault: no access is, and the events are those that decoding gives.
Imports: Scanout.Proofs.Checked.Word, Scanout.Proofs.Trace.RoundTrip
Main exports: Bytes.value, Bytes.read_eq, Record.leftover, Cursor, Reading, Cursor.next,
  Cursor.Iterates, Reading.Follows, Cursor.next_follows, Cursor.iterates_decode
-/
import Scanout.Proofs.Checked.Word
import Scanout.Proofs.Trace.RoundTrip

namespace Scanout

/-! ### Words as bytes -/

namespace Bytes

/-- The number that some bytes stand for, the least significant byte first. -/
def value : List UInt8 → Nat
  | [] => 0
  | byte :: bytes => byte.toNat + 256 * value bytes

theorem value_lt (bytes : List UInt8) : value bytes < Nat.pow 256 bytes.length := by
  induction bytes with
  | nil => exact Nat.one_pos
  | cons byte bytes inductionHypothesis =>
      have small := byte.toNat_lt
      rw [value, List.length_cons, show Nat.pow 256 (bytes.length + 1) =
        Nat.pow 256 bytes.length * 256 from rfl]
      omega

/-- Bytes are the word that they stand for. -/
theorem ofNat_value (bytes : List UInt8) : ofNat bytes.length (value bytes) = bytes := by
  induction bytes with
  | nil => rfl
  | cons byte bytes inductionHypothesis =>
      have small := byte.toNat_lt
      have low : (byte.toNat + 256 * value bytes) % 256 = byte.toNat := by omega
      have high : (byte.toNat + 256 * value bytes) / 256 = value bytes := by omega
      rw [List.length_cons, value, ofNat, low, high, inductionHypothesis, UInt8.ofNat_toNat]

/-- Reading takes the first bytes, if there are as many. -/
theorem read_eq (width : Nat) (bytes : List UInt8) :
    read width bytes =
      if width ≤ bytes.length then some (value (bytes.take width), bytes.drop width) else none := by
  induction width generalizing bytes with
  | zero => rfl
  | succ width inductionHypothesis =>
      cases bytes with
      | nil => rfl
      | cons byte bytes =>
          rw [read, inductionHypothesis bytes, List.length_cons]
          by_cases enough : width ≤ bytes.length
          · rw [if_pos enough, if_pos (Nat.add_le_add_right enough 1)]
            rfl
          · rw [if_neg enough, if_neg (mt Nat.le_of_succ_le_succ enough)]

end Bytes

/-! ### What decoding leaves -/

namespace Record

/-- The bytes after the last record that decoding reads. -/
def leftover (bytes : List UInt8) : List UInt8 :=
  match _record : read bytes with
  | none => bytes
  | some (_, rest) => leftover rest
termination_by bytes.length
decreasing_by exact length_lt_of_read _record

theorem leftover_of_read_eq_some {bytes rest : List UInt8} {event : CountedEvent}
    (record : read bytes = some (event, rest)) : leftover bytes = leftover rest := by
  rw [leftover]
  split
  · next missing => cases missing.symm.trans record
  · next other after present =>
    cases present.symm.trans record
    rfl

theorem leftover_of_read_eq_none {bytes : List UInt8} (incomplete : read bytes = none) :
    leftover bytes = bytes := by
  rw [leftover]
  split
  · rfl
  · next event after present => cases present.symm.trans incomplete

/-- Decoding goes on as long as there is a record. -/
theorem read_leftover (bytes : List UInt8) : read (leftover bytes) = none := by
  fun_induction decode bytes with
  | case1 bytes incomplete => rw [leftover_of_read_eq_none incomplete, incomplete]
  | case2 bytes event rest record inductionHypothesis =>
      rw [leftover_of_read_eq_some record, inductionHypothesis]

end Record

/-! ### Cursors -/

/-- A position in some bytes. -/
structure Cursor where
  data : List UInt8
  pos : Nat
deriving DecidableEq, Repr, Inhabited

/-- A step that reads from a cursor and may find too few bytes or none that it can read.  What it
took before it found that out stays taken. -/
abbrev Reading := OptionT (StateT Cursor Checked)

namespace Cursor

/-- The bytes from the cursor on. -/
def rest (cursor : Cursor) : List UInt8 := cursor.data.drop cursor.pos

/-- The cursor is not past the end. -/
def Inside (cursor : Cursor) : Prop := cursor.pos ≤ cursor.data.length

def advance (cursor : Cursor) (count : Nat) : Cursor := { cursor with pos := cursor.pos + count }

/-- How many bytes are left. -/
def remaining (cursor : Cursor) : Checked Nat := Checked.sub cursor.data.length cursor.pos

/-- The byte at the cursor. -/
def current (cursor : Cursor) : Checked UInt8 :=
  match cursor.data[cursor.pos]? with
  | some byte => .ok byte
  | none => .error .outOfBounds

/-- The bytes from the cursor up to `count` positions later. -/
def slice (cursor : Cursor) (count : Nat) : Checked (List UInt8) :=
  if cursor.pos + count ≤ cursor.data.length then .ok (cursor.rest.take count)
  else .error .outOfBounds

def byte : Reading UInt8 := fun cursor => do
  if (← cursor.remaining) < 1 then return (none, cursor)
  return (some (← cursor.current), cursor.advance 1)

def word (width : Nat) : Reading Nat := fun cursor => do
  if (← cursor.remaining) < width then return (none, cursor)
  return (some (Bytes.value (← cursor.slice width)), cursor.advance width)

def flag : Reading Bool := do
  let byte ← byte
  return byte != 0

def choice {α : Type} (all : List α) : Reading α := do
  let byte ← byte
  match Record.choice? all byte with
  | some value => return value
  | none => failure

def client : Reading ClientRange := do
  let start ← word 8
  let size ← word 8
  return ClientRange.ofSpan start size

/-- The fields of the event that a tag announces. -/
def fields (tag : UInt8) : Reading (EventBody DecisionCounts) :=
  if tag = 1 then do
    let display ← word 4
    let layerCount ← word 4
    let usablePlanes ← word 4
    let flattenable ← flag
    return .begin { display := ⟨display⟩, layerCount, usablePlanes, flattenable }
  else if tag = 2 then do
    let state ← choice PassState.all
    return .state state
  else if tag = 3 then do
    let stage ← choice RangeRole.all
    let range ← client
    return .range stage range
  else if tag = 4 then do
    let reason ← choice FallbackCause.all
    return .fallback reason
  else if tag = 5 then do
    let accepted ← flag
    return .commitTest accepted
  else if tag = 6 then do
    let display ← word 4
    let result ← choice PassResult.all
    let client ← client
    let layerCount ← word 4
    let flattened ← flag
    let gpuPixels ← word 8
    let allPixels ← word 8
    return .summary
      { display := ⟨display⟩, result, client, layerCount, flattened, gpuPixels, allPixels }
  else if tag = 7 then do
    let client ← word 4
    let device ← word 4
    return .decisions { client, device }
  else failure

/-- The event that a tag announces.  An unknown tag ends the reading before the index of its pass is
read. -/
def announced (tag : UInt8) : Reading CountedEvent :=
  if 1 ≤ tag ∧ tag ≤ 7 then do
    let frame ← word 8
    let body ← fields tag
    return { frame, body }
  else failure

def next : Reading CountedEvent := do
  let tag ← byte
  announced tag

/-- Asking for the next event again and again, from the first cursor on, gives the events and then
for the first time none.  The second cursor stands behind the last event, the third one where the
reading broke off. -/
inductive Iterates : Cursor → List CountedEvent → Cursor → Cursor → Prop where
  | stop {cursor broken : Cursor} (nothing : next cursor = .ok (none, broken)) :
      Iterates cursor [] cursor broken
  | event {cursor after last broken : Cursor} {event : CountedEvent} {events : List CountedEvent}
      (found : next cursor = .ok (some event, after))
      (others : Iterates after events last broken) :
      Iterates cursor (event :: events) last broken

end Cursor

namespace Reading

/-! ### Reading from a cursor and from bytes -/

/-- From a cursor inside its bytes the step has no fault, moves forward and stays inside.  It finds
what `model` finds in the bytes that are left, and then stands before what `model` leaves. -/
def Follows {α : Type} (reading : Reading α) (model : List UInt8 → Option (α × List UInt8)) :
    Prop :=
  ∀ cursor : Cursor, cursor.Inside → ∃ after : Cursor,
    after.data = cursor.data ∧ cursor.pos ≤ after.pos ∧ after.Inside ∧
      reading cursor = .ok ((model cursor.rest).map Prod.fst, after) ∧
      ∀ value rest, model cursor.rest = some (value, rest) → after.rest = rest

variable {α β : Type}

theorem follows_pure (value : α) : Follows (pure value) fun bytes => some (value, bytes) := by
  intro cursor inside
  refine ⟨cursor, rfl, Nat.le_refl _, inside, rfl, ?_⟩
  rintro _ _ ⟨⟩
  rfl

theorem follows_failure : Follows (failure : Reading α) fun _ => none := by
  intro cursor inside
  refine ⟨cursor, rfl, Nat.le_refl _, inside, rfl, ?_⟩
  rintro _ _ ⟨⟩

/-- Steps one after the other. -/
theorem Follows.bind {first : Reading α} {second : α → Reading β}
    {model : List UInt8 → Option (α × List UInt8)}
    {nextModel : α → List UInt8 → Option (β × List UInt8)} (follows : Follows first model)
    (next : ∀ value, Follows (second value) (nextModel value)) :
    Follows (first >>= second) fun bytes => (model bytes).bind fun (value, rest) =>
      nextModel value rest := by
  intro cursor inside
  obtain ⟨middle, sameData, forward, middleInside, found, left⟩ := follows cursor inside
  have run : (first >>= second) cursor =
      match model cursor.rest with
      | some (value, _) => second value middle
      | none => .ok (none, middle) := by
    show (first cursor >>= fun (value, middle) => _ : Checked (Option β × Cursor)) = _
    rw [found]
    cases model cursor.rest <;> rfl
  dsimp only
  cases modelled : model cursor.rest with
  | none =>
      rw [modelled] at run
      refine ⟨middle, sameData, forward, middleInside, run, ?_⟩
      rintro _ _ ⟨⟩
  | some pair =>
      obtain ⟨value, rest⟩ := pair
      obtain ⟨after, afterData, afterForward, afterInside, afterFound, afterLeft⟩ :=
        next value middle middleInside
      rw [modelled] at run
      rw [left value rest modelled] at afterFound afterLeft
      exact ⟨after, afterData.trans sameData, Nat.le_trans forward afterForward, afterInside,
        run.trans afterFound, afterLeft⟩

theorem Follows.ite {condition : Prop} [Decidable condition] {first second : Reading α}
    {model other : List UInt8 → Option (α × List UInt8)} (one : Follows first model)
    (two : Follows second other) :
    Follows (if condition then first else second)
      fun bytes => if condition then model bytes else other bytes := by
  by_cases holds : condition
  · simp only [if_pos holds]
    exact one
  · simp only [if_neg holds]
    exact two

end Reading

namespace Cursor

open Reading

theorem length_rest {cursor : Cursor} : cursor.rest.length = cursor.data.length - cursor.pos :=
  List.length_drop

theorem remaining_eq {cursor : Cursor} (inside : cursor.Inside) :
    cursor.remaining = .ok cursor.rest.length := by
  rw [remaining, Checked.sub_of_le inside, length_rest]

theorem rest_advance (cursor : Cursor) (count : Nat) :
    (cursor.advance count).rest = cursor.rest.drop count :=
  (List.drop_drop ..).symm

/-- Words are read with all their bytes inside. -/
theorem word_follows (width : Nat) : Follows (word width) (Bytes.read width) := by
  intro cursor inside
  rw [Bytes.read_eq]
  by_cases enough : width ≤ cursor.rest.length
  · have fits : cursor.pos + width ≤ cursor.data.length := by
      rw [length_rest] at enough
      rw [Inside] at inside
      omega
    have sliced : cursor.slice width = .ok (cursor.rest.take width) := if_pos fits
    refine ⟨cursor.advance width, rfl, Nat.le_add_right _ _, fits, ?_, ?_⟩
    · rw [word, remaining_eq inside, Checked.ok_bind, if_neg (Nat.not_lt_of_le enough), sliced,
        if_pos enough]
      rfl
    · rw [if_pos enough]
      rintro _ _ ⟨⟩
      exact cursor.rest_advance width
  · refine ⟨cursor, rfl, Nat.le_refl _, inside, ?_, ?_⟩
    · rw [word, remaining_eq inside, Checked.ok_bind, if_pos (Nat.lt_of_not_le enough),
        if_neg enough]
      rfl
    · rw [if_neg enough]
      rintro _ _ ⟨⟩

theorem byte_follows : Follows byte Record.readByte := by
  intro cursor inside
  cases left : cursor.rest with
  | nil =>
      refine ⟨cursor, rfl, Nat.le_refl _, inside, ?_, ?_⟩
      · rw [byte, remaining_eq inside, left]
        rfl
      · rintro _ _ ⟨⟩
  | cons head tail =>
      have present : cursor.data[cursor.pos]? = some head := by
        rw [← List.head?_drop]
        exact congrArg List.head? left
      have room : cursor.pos < cursor.data.length := (List.getElem?_eq_some_iff.mp present).1
      refine ⟨cursor.advance 1, rfl, Nat.le_add_right _ _, room, ?_, ?_⟩
      · rw [byte, remaining_eq inside, left, current, present]
        rfl
      · rintro _ _ ⟨⟩
        rw [rest_advance, left]
        rfl

theorem flag_follows : Follows flag Record.readFlag := by
  have mapped : Record.readFlag = fun bytes =>
      (Record.readByte bytes).bind fun found => some (found.1 != 0, found.2) := by
    funext bytes
    rw [Record.readFlag, Option.map_eq_bind]
    rfl
  rw [mapped]
  exact byte_follows.bind fun byte => follows_pure (byte != 0)

theorem choice_follows {α : Type} (all : List α) :
    Follows (choice all) (Record.readChoice all) := by
  have chosen (byte : UInt8) :
      Follows
        (match Record.choice? all byte with
          | some value => pure value
          | none => failure)
        fun rest => (Record.choice? all byte).bind fun value => some (value, rest) := by
    cases Record.choice? all byte with
    | none => exact follows_failure
    | some value => exact follows_pure value
  exact byte_follows.bind chosen

theorem client_follows : Follows client Record.readClient :=
  (word_follows 8).bind fun _ => (word_follows 8).bind fun _ => follows_pure _

/-- One case for each record layout. -/
theorem fields_follows (tag : UInt8) : Follows (fields tag) (Record.readFields tag) := by
  refine .ite ?begin (.ite ?state (.ite ?range (.ite ?fallback (.ite ?commitTest (.ite ?summary
    (.ite ?decisions follows_failure))))))
  case begin =>
    exact (word_follows 4).bind fun _ => (word_follows 4).bind fun _ =>
      (word_follows 4).bind fun _ => flag_follows.bind fun _ => follows_pure _
  case state =>
    exact (choice_follows _).bind fun _ => follows_pure _
  case range =>
    exact (choice_follows _).bind fun _ => client_follows.bind fun _ => follows_pure _
  case fallback =>
    exact (choice_follows _).bind fun _ => follows_pure _
  case commitTest =>
    exact flag_follows.bind fun _ => follows_pure _
  case summary =>
    exact (word_follows 4).bind fun _ => (choice_follows _).bind fun _ =>
      client_follows.bind fun _ => (word_follows 4).bind fun _ => flag_follows.bind fun _ =>
      (word_follows 8).bind fun _ => (word_follows 8).bind fun _ => follows_pure _
  case decisions =>
    exact (word_follows 4).bind fun _ => (word_follows 4).bind fun _ => follows_pure _

/-- Without a known tag there are no fields. -/
theorem readFields_of_unknown {tag : UInt8} (unknown : ¬ (1 ≤ tag ∧ tag ≤ 7)) (bytes : List UInt8) :
    Record.readFields tag bytes = none := by
  have other (known : UInt8) (small : 1 ≤ known ∧ known ≤ 7) : tag ≠ known := by
    rintro rfl
    exact unknown small
  rw [Record.readFields, if_neg (other 1 (by decide)), if_neg (other 2 (by decide)),
    if_neg (other 3 (by decide)), if_neg (other 4 (by decide)), if_neg (other 5 (by decide)),
    if_neg (other 6 (by decide)), if_neg (other 7 (by decide))]

theorem announced_follows (tag : UInt8) :
    Follows (announced tag) fun bytes =>
      (Bytes.read 8 bytes).bind fun (frame, bytes) =>
        (Record.readFields tag bytes).bind fun (body, bytes) =>
          some (({ frame, body } : CountedEvent), bytes) := by
  by_cases known : 1 ≤ tag ∧ tag ≤ 7
  · rw [announced, if_pos known]
    exact (word_follows 8).bind fun _ => (fields_follows tag).bind fun _ => follows_pure _
  · rw [announced, if_neg known]
    simp only [readFields_of_unknown known, Option.bind_none, Option.bind_fun_none]
    exact follows_failure

/-- The next event is that of the next record. -/
theorem next_follows : Follows next Record.read := byte_follows.bind announced_follows

/-- Reading to the first incomplete record meets no fault, and gives what decoding gives.  The
induction is that of decoding: every record shortens what is left. -/
theorem iterates_decode {bytes : List UInt8} {cursor : Cursor} (left : cursor.rest = bytes)
    (inside : cursor.Inside) :
    ∃ last broken : Cursor, Iterates cursor (Record.decode bytes) last broken ∧
      last.data = cursor.data ∧ broken.data = cursor.data ∧ last.pos ≤ broken.pos ∧
      broken.Inside ∧ last.rest = Record.leftover bytes := by
  fun_induction Record.decode bytes generalizing cursor with
  | case1 bytes incomplete =>
      obtain ⟨broken, sameData, forward, brokenInside, found, _⟩ := next_follows cursor inside
      rw [left, incomplete] at found
      exact ⟨cursor, broken, .stop found, rfl, sameData, forward, brokenInside,
        left.trans (Record.leftover_of_read_eq_none incomplete).symm⟩
  | case2 bytes event rest record inductionHypothesis =>
      obtain ⟨after, sameData, forward, afterInside, found, afterLeft⟩ := next_follows cursor inside
      rw [left] at found afterLeft
      rw [record] at found
      obtain ⟨last, broken, others, lastData, brokenData, ordered, brokenInside, lastLeft⟩ :=
        inductionHypothesis (afterLeft event rest record) afterInside
      exact ⟨last, broken, .event found others, lastData.trans sameData, brokenData.trans sameData,
        ordered, brokenInside, lastLeft.trans (Record.leftover_of_read_eq_some record).symm⟩

end Cursor

end Scanout
