/-
Module: Scanout.Trace.Record
Purpose: Compact binary recordings of trace events.
Imports: Scanout.Bytes, Scanout.Trace.Event
Main exports: TraceEvent.encode, Record.encodeAll, Record.read, Record.fieldWidth, Record.decode
-/
import Scanout.Bytes
import Scanout.Trace.Event

namespace Scanout

namespace Record

/-!
A record is a tag byte, the index of the pass in eight bytes, and the fields of the event in a fixed
order and width, all words little-endian.  A choice is the byte of its position in the order of
declaration, a truth value is 1 or 0 and reads as true unless it is 0.  Decisions are kept as two
counts.  Reading stops at the first byte sequence that is no complete record.
-/

/-- The byte of a value of a small type listed in full. -/
def codeOf {α : Type} [DecidableEq α] (all : List α) (value : α) : UInt8 :=
  UInt8.ofNat (all.idxOf value)

/-- The value that a byte stands for. -/
def choice? {α : Type} (all : List α) (code : UInt8) : Option α := all[code.toNat]?

def readByte : List UInt8 → Option (UInt8 × List UInt8)
  | [] => none
  | byte :: bytes => some (byte, bytes)

def readFlag (bytes : List UInt8) : Option (Bool × List UInt8) :=
  (readByte bytes).map fun (byte, rest) => (byte != 0, rest)

/-- Read a choice from a small type listed in full. -/
def readChoice {α : Type} (all : List α) (bytes : List UInt8) : Option (α × List UInt8) := do
  let (byte, rest) ← readByte bytes
  let value ← choice? all byte
  pure (value, rest)

def rangeBytes (range : ClientRange) : List UInt8 :=
  Bytes.ofNat 8 range.start ++ Bytes.ofNat 8 range.size

/-- Read a range; one of size zero is the empty range. -/
def readClient (bytes : List UInt8) : Option (ClientRange × List UInt8) := do
  let (start, bytes) ← Bytes.read 8 bytes
  let (size, bytes) ← Bytes.read 8 bytes
  pure (ClientRange.ofSpan start size, bytes)

/-- How many layers were stamped client, and how many otherwise, each no larger than its field. -/
def countDecisions (layers : List StampedLayer) : DecisionCounts :=
  let client := layers.countP fun layer => layer.kind = .client
  { client := Word.clamp32 client, device := Word.clamp32 (layers.length - client) }

def tag {δ : Type} : EventBody δ → UInt8
  | .begin _ => 1
  | .state _ => 2
  | .range _ _ => 3
  | .fallback _ => 4
  | .commitTest _ => 5
  | .summary _ => 6
  | .decisions _ => 7

/-- The fields of an event whose decisions are counted. -/
def fields : EventBody DecisionCounts → List UInt8
  | .begin e =>
      Bytes.ofNat 4 e.display.number ++ Bytes.ofNat 4 e.layerCount ++
        Bytes.ofNat 4 e.usablePlanes ++ [Bytes.ofFlag e.flattenable]
  | .state state => [codeOf PassState.all state]
  | .range stage range => codeOf RangeRole.all stage :: rangeBytes range
  | .fallback reason => [codeOf FallbackCause.all reason]
  | .commitTest accepted => [Bytes.ofFlag accepted]
  | .summary e =>
      Bytes.ofNat 4 e.display.number ++ codeOf PassResult.all e.result :: rangeBytes e.client ++
        Bytes.ofNat 4 e.layerCount ++ Bytes.ofFlag e.flattened :: Bytes.ofNat 8 e.gpuPixels ++
        Bytes.ofNat 8 e.allPixels
  | .decisions counts => Bytes.ofNat 4 counts.client ++ Bytes.ofNat 4 counts.device

end Record

/-- The event as a recording keeps it: decisions counted, all else as it is. -/
def TraceEvent.counted (event : TraceEvent) : CountedEvent where
  frame := event.frame
  body :=
    match event.body with
    | .begin e => .begin e
    | .state state => .state state
    | .range stage range => .range stage range
    | .fallback reason => .fallback reason
    | .commitTest accepted => .commitTest accepted
    | .summary e => .summary e
    | .decisions layers => .decisions (Record.countDecisions layers)

/-- The record of an event whose decisions are counted. -/
def CountedEvent.encode (event : CountedEvent) : List UInt8 :=
  Record.tag event.body :: Bytes.ofNat 8 event.frame ++ Record.fields event.body

def TraceEvent.encode (event : TraceEvent) : List UInt8 :=
  CountedEvent.encode (TraceEvent.counted event)

namespace Record

/-- The records of some events, one after the other. -/
def encodeAll (events : List TraceEvent) : List UInt8 := events.flatMap TraceEvent.encode

/-- Read the fields of the event that a tag announces. -/
def readFields (tag : UInt8) (bytes : List UInt8) :
    Option (EventBody DecisionCounts × List UInt8) :=
  if tag = 1 then do
    let (display, bytes) ← Bytes.read 4 bytes
    let (layerCount, bytes) ← Bytes.read 4 bytes
    let (usablePlanes, bytes) ← Bytes.read 4 bytes
    let (flattenable, bytes) ← readFlag bytes
    let begin : PassBegin := { display := ⟨display⟩, layerCount, usablePlanes, flattenable }
    pure (.begin begin, bytes)
  else if tag = 2 then do
    let (state, bytes) ← readChoice PassState.all bytes
    pure (.state state, bytes)
  else if tag = 3 then do
    let (stage, bytes) ← readChoice RangeRole.all bytes
    let (range, bytes) ← readClient bytes
    pure (.range stage range, bytes)
  else if tag = 4 then do
    let (reason, bytes) ← readChoice FallbackCause.all bytes
    pure (.fallback reason, bytes)
  else if tag = 5 then do
    let (accepted, bytes) ← readFlag bytes
    pure (.commitTest accepted, bytes)
  else if tag = 6 then do
    let (display, bytes) ← Bytes.read 4 bytes
    let (result, bytes) ← readChoice PassResult.all bytes
    let (client, bytes) ← readClient bytes
    let (layerCount, bytes) ← Bytes.read 4 bytes
    let (flattened, bytes) ← readFlag bytes
    let (gpuPixels, bytes) ← Bytes.read 8 bytes
    let (allPixels, bytes) ← Bytes.read 8 bytes
    let summary : PassSummary :=
      { display := ⟨display⟩
        result, client, layerCount, flattened, gpuPixels, allPixels }
    pure (.summary summary, bytes)
  else if tag = 7 then do
    let (client, bytes) ← Bytes.read 4 bytes
    let (device, bytes) ← Bytes.read 4 bytes
    pure (.decisions { client, device }, bytes)
  else none

def read (bytes : List UInt8) : Option (CountedEvent × List UInt8) := do
  let (tag, bytes) ← readByte bytes
  let (frame, bytes) ← Bytes.read 8 bytes
  let (body, bytes) ← readFields tag bytes
  pure ({ frame, body }, bytes)

/-! ### Reading moves forward -/

theorem length_of_readByte {bytes rest : List UInt8} {byte : UInt8}
    (success : readByte bytes = some (byte, rest)) : bytes.length = 1 + rest.length := by
  cases bytes with
  | nil => simp [readByte] at success
  | cons head tail =>
      simp only [readByte, Option.some.injEq, Prod.mk.injEq] at success
      simp only [List.length_cons, success.2]
      omega

theorem length_of_readFlag {bytes rest : List UInt8} {flag : Bool}
    (success : readFlag bytes = some (flag, rest)) : bytes.length = 1 + rest.length := by
  simp only [readFlag, Option.map_eq_some_iff, Prod.mk.injEq, Prod.exists] at success
  obtain ⟨byte, after, taken, _, rfl⟩ := success
  exact length_of_readByte taken

theorem length_of_readChoice {α : Type} {all : List α} {bytes rest : List UInt8} {value : α}
    (success : readChoice all bytes = some (value, rest)) : bytes.length = 1 + rest.length := by
  simp only [readChoice, Option.bind_eq_bind, Option.bind_eq_some_iff, Prod.exists, Option.pure_def,
    Option.some.injEq, Prod.mk.injEq] at success
  obtain ⟨byte, after, taken, _, _, _, rfl⟩ := success
  exact length_of_readByte taken

theorem length_of_readClient {bytes rest : List UInt8} {range : ClientRange}
    (success : readClient bytes = some (range, rest)) : bytes.length = 16 + rest.length := by
  simp only [readClient, Option.bind_eq_bind, Option.bind_eq_some_iff, Prod.exists, Option.pure_def,
    Option.some.injEq, Prod.mk.injEq] at success
  obtain ⟨_, middle, first, _, after, second, _, rfl⟩ := success
  have := Bytes.length_of_read first
  have := Bytes.length_of_read second
  omega

/-- Bytes that the fields of an event take; they depend on its tag only. -/
def fieldWidth (tag : UInt8) : Nat :=
  if tag = 1 then 13
  else if tag = 2 then 1
  else if tag = 3 then 17
  else if tag = 4 then 1
  else if tag = 5 then 1
  else if tag = 6 then 42
  else if tag = 7 then 8
  else 0

/-- Reading fields takes exactly their width. -/
theorem length_of_readFields {tag : UInt8} {bytes rest : List UInt8}
    {body : EventBody DecisionCounts} (success : readFields tag bytes = some (body, rest)) :
    bytes.length = fieldWidth tag + rest.length := by
  unfold readFields at success
  repeat' split at success
  all_goals
    simp only [Option.bind_eq_bind, Option.bind_eq_some_iff, Prod.exists, Option.pure_def,
      Option.some.injEq, Prod.mk.injEq, reduceCtorEq] at success
  all_goals subst tag
  · obtain ⟨_, _, a, _, _, b, _, _, c, _, _, d, _, rfl⟩ := success
    have := Bytes.length_of_read a
    have := Bytes.length_of_read b
    have := Bytes.length_of_read c
    have := length_of_readFlag d
    show bytes.length = 13 + _
    omega
  · obtain ⟨_, _, a, _, rfl⟩ := success
    exact length_of_readChoice a
  · obtain ⟨_, _, a, _, _, b, _, rfl⟩ := success
    have := length_of_readChoice a
    have := length_of_readClient b
    show bytes.length = 17 + _
    omega
  · obtain ⟨_, _, a, _, rfl⟩ := success
    exact length_of_readChoice a
  · obtain ⟨_, _, a, _, rfl⟩ := success
    exact length_of_readFlag a
  · obtain ⟨_, _, a, _, _, b, _, _, c, _, _, d, _, _, e, _, _, f, _, _, g, _, rfl⟩ := success
    have := Bytes.length_of_read a
    have := length_of_readChoice b
    have := length_of_readClient c
    have := Bytes.length_of_read d
    have := length_of_readFlag e
    have := Bytes.length_of_read f
    have := Bytes.length_of_read g
    show bytes.length = 42 + _
    omega
  · obtain ⟨_, _, a, _, _, b, _, rfl⟩ := success
    have := Bytes.length_of_read a
    have := Bytes.length_of_read b
    show bytes.length = 8 + _
    omega

/-- Reading a record takes the tag, the index of the pass, and the fields. -/
theorem length_of_read {bytes rest : List UInt8} {event : CountedEvent}
    (success : read bytes = some (event, rest)) :
    ∃ tag after, bytes = tag :: after ∧ bytes.length = 9 + fieldWidth tag + rest.length := by
  simp only [read, Option.bind_eq_bind, Option.bind_eq_some_iff, Prod.exists, Option.pure_def,
    Option.some.injEq, Prod.mk.injEq] at success
  obtain ⟨tag, after, a, _, _, b, _, _, c, _, rfl⟩ := success
  cases bytes with
  | nil => cases a
  | cons head tail =>
    cases a
    have := Bytes.length_of_read b
    have := length_of_readFields c
    refine ⟨tag, after, rfl, ?_⟩
    rw [List.length_cons]
    omega

/-- What follows a record is shorter than what starts with it. -/
theorem length_lt_of_read {bytes rest : List UInt8} {event : CountedEvent}
    (success : read bytes = some (event, rest)) : rest.length < bytes.length := by
  obtain ⟨_, _, _, lengths⟩ := length_of_read success
  omega

/-- The events at the start of a recording, up to the first bytes that are no complete record. -/
def decode (bytes : List UInt8) : List CountedEvent :=
  match _record : read bytes with
  | none => []
  | some (event, rest) => event :: decode rest
termination_by bytes.length
decreasing_by exact length_lt_of_read _record

end Record

end Scanout
