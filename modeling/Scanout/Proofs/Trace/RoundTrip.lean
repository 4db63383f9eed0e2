/-
Module: Scanout.Proofs.Trace.RoundTrip
Purpose: A recording reads back as the canonical forms of its events, whatever follows it, and cut
  short anywhere it reads back as the events whose records are complete.
Imports: Scanout.Trace.Record
Main exports: ClientRange.canonical, TraceEvent.canonical, TraceEvent.Fits,
  Record.read_encode_append, Record.length_encode, Record.decode_encodeAll_append,
  Record.decode_of_proper_prefix, Record.exists_decode_take
-/
import Scanout.Trace.Record

namespace Scanout

/-! ### What a recording keeps of an event -/

/-- The range with the same layers that is stored in one way only: without layers it starts at
zero. -/
def ClientRange.canonical (range : ClientRange) : ClientRange :=
  if range.size = 0 then ⟨0, 0⟩ else range

/-- How many stamped layers are client, and how many are not, each cut off at the largest 32-bit
word. -/
def DecisionCounts.ofLayers (layers : List StampedLayer) : DecisionCounts where
  client := Word.clamp32 (layers.countP fun layer => layer.kind = .client)
  device := Word.clamp32 (layers.countP fun layer => layer.kind ≠ .client)

/-- The event that is read back: an empty range starts at zero, decisions are counted, and all else
is kept. -/
def TraceEvent.canonical (event : TraceEvent) : CountedEvent where
  frame := event.frame
  body :=
    match event.body with
    | .begin opening => .begin opening
    | .state state => .state state
    | .range stage range => .range stage range.canonical
    | .fallback reason => .fallback reason
    | .commitTest accepted => .commitTest accepted
    | .summary outcome => .summary { outcome with client := outcome.client.canonical }
    | .decisions layers => .decisions (DecisionCounts.ofLayers layers)

/-! ### Words that fit their fields -/

/-- Both words of the range have 64 bits. -/
def ClientRange.Fits (range : ClientRange) : Prop :=
  range.start < UInt64.size ∧ range.size < UInt64.size

/-- Every number that a report keeps has the width of its field. -/
def EventBody.Fits {δ : Type} : EventBody δ → Prop
  | .begin opening =>
      opening.display.number < UInt32.size ∧ opening.layerCount < UInt32.size ∧
        opening.usablePlanes < UInt32.size
  | .range _ client => client.Fits
  | .summary outcome =>
      outcome.display.number < UInt32.size ∧ outcome.client.Fits ∧
        outcome.layerCount < UInt32.size ∧ outcome.gpuPixels < UInt64.size ∧
        outcome.allPixels < UInt64.size
  | .state _ | .fallback _ | .commitTest _ | .decisions _ => True

/-- Every number of the event has the width of its field: 64 bits for the index of the pass, the
words of ranges and pixel counts, 32 bits for displays and other counts. -/
def TraceEvent.Fits (event : TraceEvent) : Prop :=
  event.frame < UInt64.size ∧ event.body.Fits

instance (range : ClientRange) : Decidable range.Fits :=
  inferInstanceAs (Decidable (_ ∧ _))

instance {δ : Type} (body : EventBody δ) : Decidable body.Fits :=
  match body with
  | .begin _ => inferInstanceAs (Decidable (_ ∧ _ ∧ _))
  | .range _ client => inferInstanceAs (Decidable client.Fits)
  | .summary _ => inferInstanceAs (Decidable (_ ∧ _ ∧ _ ∧ _ ∧ _))
  | .state _ | .fallback _ | .commitTest _ | .decisions _ => inferInstanceAs (Decidable True)

instance (event : TraceEvent) : Decidable (TraceEvent.Fits event) :=
  inferInstanceAs (Decidable (_ ∧ _))

namespace Record

/-! ### Single fields -/

theorem read4_append {n : Nat} (fits : n < UInt32.size) (rest : List UInt8) :
    Bytes.read 4 (Bytes.ofNat 4 n ++ rest) = some (n, rest) :=
  Bytes.read_ofNat_append 4 fits rest

theorem read8_append {n : Nat} (fits : n < UInt64.size) (rest : List UInt8) :
    Bytes.read 8 (Bytes.ofNat 8 n ++ rest) = some (n, rest) :=
  Bytes.read_ofNat_append 8 fits rest

@[simp] theorem readFlag_cons (flag : Bool) (rest : List UInt8) :
    readFlag (Bytes.ofFlag flag :: rest) = some (flag, rest) := by
  cases flag <;> rfl

/-- A choice is read back from the position of its value. -/
theorem readChoice_cons {α : Type} [DecidableEq α] {all : List α} {value : α}
    (listed : value ∈ all) (short : all.length ≤ 256) (rest : List UInt8) :
    readChoice all (codeOf all value :: rest) = some (value, rest) := by
  have position : all.idxOf value < all.length := List.idxOf_lt_length_of_mem listed
  have code : (codeOf all value).toNat = all.idxOf value :=
    UInt8.toNat_ofNat_of_lt (Nat.lt_of_lt_of_le position short)
  have found : all[all.idxOf value]? = some value := by
    rw [List.getElem?_eq_getElem position, List.getElem_idxOf position]
  simp [readChoice, readByte, choice?, code, found]

theorem readClient_append {range : ClientRange} (fits : range.Fits) (rest : List UInt8) :
    readClient (rangeBytes range ++ rest) = some (range.canonical, rest) := by
  have stored : ClientRange.ofSpan range.start range.size = range.canonical := rfl
  simp [readClient, rangeBytes, read8_append fits.1, read8_append fits.2, stored]

/-! ### Records -/

theorem countDecisions_eq (layers : List StampedLayer) :
    countDecisions layers = DecisionCounts.ofLayers layers := by
  have sides := List.length_eq_countP_add_countP (fun layer : StampedLayer => layer.kind = .client)
    (l := layers)
  have device : layers.length - layers.countP (fun layer => layer.kind = .client) =
      layers.countP (fun layer => layer.kind ≠ .client) := by
    rw [sides, Nat.add_sub_cancel_left]
    simp
  rw [countDecisions, DecisionCounts.ofLayers, device]

theorem clamp32_lt (n : Nat) : Word.clamp32 n < UInt32.size :=
  Nat.lt_of_le_of_lt (Word.clamp32_le_max32 n) (by decide)

/-- The fields of an event are read back under its tag, one case for each record layout. -/
theorem readFields_fields_append {event : TraceEvent} (fits : event.body.Fits)
    (rest : List UInt8) :
    readFields (tag (TraceEvent.counted event).body)
        (fields (TraceEvent.counted event).body ++ rest) =
      some ((TraceEvent.canonical event).body, rest) := by
  obtain ⟨frame, body⟩ := event
  cases body with
  | begin opening =>
      obtain ⟨display, layerCount, usablePlanes⟩ := fits
      simp [TraceEvent.counted, TraceEvent.canonical, tag, fields, readFields,
        read4_append display, read4_append layerCount, read4_append usablePlanes]
  | state state =>
      have listed : state ∈ PassState.all := by cases state <;> decide
      simp [TraceEvent.counted, TraceEvent.canonical, tag, fields, readFields,
        readChoice_cons listed (by decide)]
  | range stage client =>
      have listed : stage ∈ RangeRole.all := by cases stage <;> decide
      simp [TraceEvent.counted, TraceEvent.canonical, tag, fields, readFields,
        readChoice_cons listed (by decide), readClient_append fits]
  | fallback cause =>
      simp [TraceEvent.counted, TraceEvent.canonical, tag, fields, readFields,
        readChoice_cons cause.mem_all (by decide)]
  | commitTest accepted =>
      simp [TraceEvent.counted, TraceEvent.canonical, tag, fields, readFields]
  | summary outcome =>
      obtain ⟨display, client, layerCount, gpuPixels, allPixels⟩ := fits
      have listed : outcome.result ∈ PassResult.all := by cases outcome.result <;> decide
      simp [TraceEvent.counted, TraceEvent.canonical, tag, fields, readFields,
        read4_append display, readChoice_cons listed (by decide), readClient_append client,
        read4_append layerCount, read8_append gpuPixels, read8_append allPixels]
  | decisions layers =>
      have client : (DecisionCounts.ofLayers layers).client < UInt32.size := clamp32_lt _
      have device : (DecisionCounts.ofLayers layers).device < UInt32.size := clamp32_lt _
      simp [TraceEvent.counted, TraceEvent.canonical, tag, fields, readFields,
        countDecisions_eq, read4_append client, read4_append device]

/-- A record is read back and leaves what follows it. -/
theorem read_encode_append {event : TraceEvent} (fits : event.Fits) (rest : List UInt8) :
    read (TraceEvent.encode event ++ rest) = some (TraceEvent.canonical event, rest) := by
  have frame := read8_append fits.1 (fields (TraceEvent.counted event).body ++ rest)
  have body := readFields_fields_append fits.2 rest
  simp only [TraceEvent.encode, CountedEvent.encode, List.cons_append, List.append_assoc, read,
    readByte, Option.bind_eq_bind, Option.bind_some]
  rw [show (TraceEvent.counted event).frame = event.frame from rfl, frame, Option.bind_some, body]
  rfl

/-! ### Recordings -/

theorem decode_of_read_eq_some {bytes rest : List UInt8} {event : CountedEvent}
    (record : read bytes = some (event, rest)) : decode bytes = event :: decode rest := by
  rw [decode]
  split
  · next missing => cases missing.symm.trans record
  · next other after present =>
    cases present.symm.trans record
    rfl

theorem decode_of_read_eq_none {bytes : List UInt8} (incomplete : read bytes = none) :
    decode bytes = [] := by
  rw [decode]
  split
  · rfl
  · next event after present => cases present.symm.trans incomplete

theorem encodeAll_cons (event : TraceEvent) (events : List TraceEvent) :
    encodeAll (event :: events) = TraceEvent.encode event ++ encodeAll events := rfl

/-- A recording is read back event by event, and then what follows it is read.  The induction is on
the events recorded. -/
theorem decode_encodeAll_append {events : List TraceEvent} (fit : ∀ event ∈ events, event.Fits)
    (rest : List UInt8) :
    decode (encodeAll events ++ rest) = events.map TraceEvent.canonical ++ decode rest := by
  induction events with
  | nil => rfl
  | cons event events inductionHypothesis =>
    have first := read_encode_append (fit event List.mem_cons_self) (encodeAll events ++ rest)
    have others := inductionHypothesis fun other member => fit other (List.mem_cons_of_mem _ member)
    rw [encodeAll_cons, List.append_assoc, decode_of_read_eq_some first, others]
    rfl

theorem decode_encodeAll {events : List TraceEvent} (fit : ∀ event ∈ events, event.Fits) :
    decode (encodeAll events) = events.map TraceEvent.canonical := by
  have nothing : decode [] = [] := decode_of_read_eq_none rfl
  have decoded := decode_encodeAll_append fit []
  rwa [List.append_nil, nothing, List.append_nil] at decoded

theorem length_fields (body : EventBody DecisionCounts) :
    (fields body).length = fieldWidth (tag body) := by
  cases body with
  | begin opening => simp [fields, tag, fieldWidth]
  | state state => rfl
  | range stage client => simp [fields, tag, fieldWidth, rangeBytes]
  | fallback cause => rfl
  | commitTest accepted => rfl
  | summary outcome => simp [fields, tag, fieldWidth, rangeBytes]
  | decisions counts => simp [fields, tag, fieldWidth]

theorem length_encode (event : TraceEvent) :
    (TraceEvent.encode event).length = 9 + fieldWidth (tag (TraceEvent.counted event).body) := by
  simp only [TraceEvent.encode, CountedEvent.encode, List.length_cons, List.length_append,
    Bytes.length_ofNat, length_fields]

/-- A record cut short is not read: its tag asks for more bytes than there are. -/
theorem decode_of_proper_prefix {event : TraceEvent} {bytes : List UInt8}
    (cut : bytes <+: TraceEvent.encode event) (proper : bytes ≠ TraceEvent.encode event) :
    decode bytes = [] := by
  apply decode_of_read_eq_none
  cases record : read bytes with
  | none => rfl
  | some taken =>
    obtain ⟨other, rest⟩ := taken
    obtain ⟨head, after, rfl, width⟩ := length_of_read record
    -- The tag survives the cut, and with it the length that the record ought to have.
    have same : head = tag (TraceEvent.counted event).body := (List.cons_prefix_cons.mp cut).1
    have whole := length_encode event
    rw [← same] at whole
    have shorter := cut.length_le
    exact absurd (cut.eq_of_length (by omega)) proper

/-- Cut anywhere, a recording is read back up to the last record that lies wholly before the
cut. -/
theorem exists_decode_take {events : List TraceEvent} (fit : ∀ event ∈ events, event.Fits)
    (cut : Nat) :
    ∃ count, count ≤ events.length ∧
      decode ((encodeAll events).take cut) = (events.take count).map TraceEvent.canonical ∧
      ∀ i, i < events.length →
        (i < count ↔ (encodeAll (events.take (i + 1))).length ≤ cut) := by
  induction events generalizing cut with
  | nil =>
    refine ⟨0, Nat.le_refl 0, ?_, fun i impossible => absurd impossible (Nat.not_lt_zero i)⟩
    rw [encodeAll, List.flatMap_nil, List.take_nil]
    exact decode_of_read_eq_none rfl
  | cons event events inductionHypothesis =>
    by_cases whole : (TraceEvent.encode event).length ≤ cut
    -- The first record is complete: cut the rest of the recording.
    · obtain ⟨count, bounded, decoded, ends⟩ := inductionHypothesis
        (fun other member => fit other (List.mem_cons_of_mem _ member))
        (cut - (TraceEvent.encode event).length)
      have first := read_encode_append (fit event List.mem_cons_self)
        ((encodeAll events).take (cut - (TraceEvent.encode event).length))
      refine ⟨count + 1, Nat.succ_le_succ bounded, ?_, ?_⟩
      · rw [encodeAll_cons, List.take_append, List.take_of_length_le whole,
          decode_of_read_eq_some first, decoded]
        rfl
      · intro i inside
        rw [List.take_succ_cons, encodeAll_cons, List.length_append]
        cases i with
        | zero => simpa [encodeAll] using whole
        | succ i =>
          have next := ends i (Nat.lt_of_succ_lt_succ inside)
          omega
    -- The cut falls into the first record, and no later record can end before it.
    · have short : cut < (TraceEvent.encode event).length := Nat.lt_of_not_le whole
      refine ⟨0, Nat.zero_le _, ?_, ?_⟩
      · rw [encodeAll_cons, List.take_append_of_le_length (Nat.le_of_lt short)]
        apply decode_of_proper_prefix (List.take_prefix cut _)
        intro same
        have lengths := congrArg List.length same
        rw [List.length_take] at lengths
        omega
      · intro i _
        rw [List.take_succ_cons, encodeAll_cons, List.length_append]
        omega

/-- Recordings round-trip under concatenation: in front of any bytes they read back as the canonical
forms of their events and leave those bytes to be read on their own.  A record that is cut short
reads back as nothing, so that a recording cut anywhere reads back as exactly the events whose
records end at the cut or before it. -/
theorem decode_recording {events : List TraceEvent} (fit : ∀ event ∈ events, event.Fits) :
    (∀ rest, decode (encodeAll events ++ rest) =
        events.map TraceEvent.canonical ++ decode rest) ∧
      (∀ (event : TraceEvent) (bytes : List UInt8), bytes <+: TraceEvent.encode event →
        bytes ≠ TraceEvent.encode event → decode bytes = []) ∧
      ∀ cut, ∃ count, count ≤ events.length ∧
        decode ((encodeAll events).take cut) = (events.take count).map TraceEvent.canonical ∧
        ∀ i, i < events.length →
          (i < count ↔ (encodeAll (events.take (i + 1))).length ≤ cut) := by
  refine ⟨decode_encodeAll_append fit, ?_, exists_decode_take fit⟩
  intro event bytes cut proper
  exact decode_of_proper_prefix cut proper

/-- An empty range that starts at five, one that is not empty, and decisions about three layers. -/
def sampleEvents : List TraceEvent :=
  [⟨3, .range .mandatory ⟨5, 0⟩⟩, ⟨3, .range .resolved ⟨1, 2⟩⟩,
    ⟨3, .decisions [⟨0, .client⟩, ⟨1, .device⟩, ⟨2, .solidColor⟩]⟩]

/-- In front of a byte that is no tag, the sample reads back with its empty range at zero, the other
range as it was, and its decisions counted. -/
theorem decode_recording_on_sample :
    (∀ event ∈ sampleEvents, event.Fits) ∧
      decode (encodeAll sampleEvents ++ [9]) =
        [⟨3, .range .mandatory ⟨0, 0⟩⟩, ⟨3, .range .resolved ⟨1, 2⟩⟩, ⟨3, .decisions ⟨1, 2⟩⟩] := by
  have fit : ∀ event ∈ sampleEvents, event.Fits := by decide
  refine ⟨fit, ?_⟩
  rw [(decode_recording fit).1, decode_of_read_eq_none rfl]
  decide

end Record

end Scanout
