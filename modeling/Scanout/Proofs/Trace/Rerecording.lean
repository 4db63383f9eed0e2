/-
Module: Scanout.Proofs.Trace.Rerecording
Purpose: Any bytes are whole records and a rest that is none.  Recording what they decode to gives
  the same records again, up to truth bytes and the starts of empty ranges.
Imports: Scanout.Proofs.Trace.Cursor
Main exports: Field, Field.tidy, Record.layout, Record.tidy, TraceEvent.tallied,
  CountedEvent.Stored, Record.Takes, Record.TakesAll, Record.takesAll_readFields,
  Record.record_of_read, Record.exists_records, Record.decode_bytes
-/
import Scanout.Proofs.Trace.Cursor

namespace Scanout

/-! ### Layouts -/

/-- What some bytes of a record stand for. -/
inductive Field where
  /-- A number. -/
  | word (width : Nat)
  /-- A value of a small type listed in full. -/
  | choice
  /-- A truth value. -/
  | flag
  /-- A range: its start and then its size. -/
  | range
deriving DecidableEq, Repr, Inhabited

namespace Field

def width : Field → Nat
  | word width => width
  | choice => 1
  | flag => 1
  | range => 16

/-- The bytes of a field with every truth byte that is not 0 replaced by 1, and with start 0 for a
range of size 0. -/
def tidy : Field → List UInt8 → List UInt8
  | word _, bytes => bytes
  | choice, bytes => bytes
  | flag, bytes => bytes.map fun byte => if byte = 0 then 0 else 1
  | range, bytes =>
      if bytes.drop 8 = List.replicate 8 0 then List.replicate 8 0 ++ bytes.drop 8 else bytes

theorem length_tidy (field : Field) (bytes : List UInt8) :
    (field.tidy bytes).length = bytes.length := by
  cases field with
  | word width => rfl
  | choice => rfl
  | flag => exact List.length_map _
  | range =>
      by_cases empty : bytes.drop 8 = List.replicate 8 0
      · have lengths := congrArg List.length empty
        rw [List.length_drop, List.length_replicate] at lengths
        rw [tidy, if_pos empty, List.length_append, List.length_replicate, List.length_drop]
        omega
      · rw [tidy, if_neg empty]

/-- Fields laid end to end, each of them tidied. -/
def tidyAll : List Field → List UInt8 → List UInt8
  | [], bytes => bytes
  | field :: fields, bytes =>
      field.tidy (bytes.take field.width) ++ tidyAll fields (bytes.drop field.width)

theorem length_tidyAll (fields : List Field) (bytes : List UInt8) :
    (tidyAll fields bytes).length = bytes.length := by
  induction fields generalizing bytes with
  | nil => rfl
  | cons field fields inductionHypothesis =>
      rw [tidyAll, List.length_append, length_tidy, inductionHypothesis, ← List.length_append,
        List.take_append_drop]

theorem tidyAll_append {field : Field} (fields : List Field) {bytes : List UInt8}
    (whole : bytes.length = field.width) (others : List UInt8) :
    tidyAll (field :: fields) (bytes ++ others) = field.tidy bytes ++ tidyAll fields others := by
  rw [tidyAll, List.take_left' whole, List.drop_left' whole]

end Field

namespace Record

/-- The fields that a tag announces. -/
def layout (tag : UInt8) : List Field :=
  if tag = 1 then [.word 4, .word 4, .word 4, .flag]
  else if tag = 2 then [.choice]
  else if tag = 3 then [.choice, .range]
  else if tag = 4 then [.choice]
  else if tag = 5 then [.flag]
  else if tag = 6 then [.word 4, .choice, .range, .word 4, .flag, .word 8, .word 8]
  else if tag = 7 then [.word 4, .word 4]
  else []

/-- A record with its fields tidied. -/
def tidy : List UInt8 → List UInt8
  | [] => []
  | tag :: bytes => tag :: Field.tidyAll (.word 8 :: layout tag) bytes

theorem length_tidy (bytes : List UInt8) : (tidy bytes).length = bytes.length := by
  cases bytes with
  | nil => rfl
  | cons tag bytes => rw [tidy, List.length_cons, Field.length_tidyAll, List.length_cons]

end Record

/-! ### Recording what was read -/

/-- How many stamped layers are client, and how many are not. -/
def DecisionCounts.tally (layers : List StampedLayer) : DecisionCounts where
  client := layers.countP fun layer => layer.kind = .client
  device := layers.countP fun layer => layer.kind ≠ .client

/-- The event with its decisions as two counts of any size, and all else as it is. -/
def TraceEvent.tallied (event : TraceEvent) : CountedEvent where
  frame := event.frame
  body :=
    match event.body with
    | .begin opening => .begin opening
    | .state state => .state state
    | .range stage range => .range stage range
    | .fallback reason => .fallback reason
    | .commitTest accepted => .commitTest accepted
    | .summary outcome => .summary outcome
    | .decisions layers => .decisions (DecisionCounts.tally layers)

/-- Both counts have 32 bits. -/
def DecisionCounts.Fits (counts : DecisionCounts) : Prop :=
  counts.client < UInt32.size ∧ counts.device < UInt32.size

/-- Numbers have the width of their fields, and empty ranges start at zero. -/
def EventBody.Stored (body : EventBody DecisionCounts) : Prop :=
  body.Fits ∧
    match body with
    | .range _ client => client.canonical = client
    | .summary outcome => outcome.client.canonical = outcome.client
    | .decisions counts => counts.Fits
    | .begin _ | .state _ | .fallback _ | .commitTest _ => True

/-- The event is one that a record can hold. -/
def CountedEvent.Stored (event : CountedEvent) : Prop :=
  event.frame < UInt64.size ∧ event.body.Stored

theorem ClientRange.canonical_ofSpan (start size : Nat) :
    (ofSpan start size).canonical = ofSpan start size := by
  cases size <;> rfl

/-- Counts that fit are not cut off. -/
theorem DecisionCounts.ofLayers_of_fits {layers : List StampedLayer} (fit : (tally layers).Fits) :
    ofLayers layers = tally layers := by
  rw [ofLayers, tally]
  congr 1
  · exact Nat.min_eq_left (Nat.le_sub_one_of_lt fit.1)
  · exact Nat.min_eq_left (Nat.le_sub_one_of_lt fit.2)

namespace TraceEvent

/-- Some event has any given counts. -/
theorem exists_tallied (event : CountedEvent) : ∃ told : TraceEvent, tallied told = event := by
  obtain ⟨frame, body⟩ := event
  cases body with
  | begin opening => exact ⟨⟨frame, .begin opening⟩, rfl⟩
  | state state => exact ⟨⟨frame, .state state⟩, rfl⟩
  | range stage range => exact ⟨⟨frame, .range stage range⟩, rfl⟩
  | fallback reason => exact ⟨⟨frame, .fallback reason⟩, rfl⟩
  | commitTest accepted => exact ⟨⟨frame, .commitTest accepted⟩, rfl⟩
  | summary outcome => exact ⟨⟨frame, .summary outcome⟩, rfl⟩
  | decisions counts =>
      refine ⟨⟨frame, .decisions (List.replicate counts.client ⟨0, .client⟩ ++
        List.replicate counts.device ⟨0, .device⟩)⟩, ?_⟩
      simp [tallied, DecisionCounts.tally, List.countP_append, List.countP_replicate]

theorem exists_map_tallied (events : List CountedEvent) :
    ∃ told : List TraceEvent, told.map tallied = events := by
  induction events with
  | nil => exact ⟨[], rfl⟩
  | cons event events inductionHypothesis =>
      obtain ⟨first, firstTold⟩ := exists_tallied event
      obtain ⟨others, othersTold⟩ := inductionHypothesis
      exact ⟨first :: others, by rw [List.map_cons, firstTold, othersTold]⟩

variable {event : TraceEvent}

theorem canonical_of_stored (stored : (tallied event).Stored) :
    canonical event = tallied event := by
  obtain ⟨frame, body⟩ := event
  obtain ⟨_, _, kept⟩ := stored
  cases body with
  | range stage client => exact congrArg (fun range => Event.mk frame (.range stage range)) kept
  | summary outcome =>
      exact congrArg (fun client => Event.mk frame (.summary { outcome with client })) kept
  | decisions layers =>
      exact congrArg (fun counts => Event.mk frame (.decisions counts))
        (DecisionCounts.ofLayers_of_fits kept)
  | begin opening => rfl
  | state state => rfl
  | fallback reason => rfl
  | commitTest accepted => rfl

theorem counted_of_stored (stored : (tallied event).Stored) : counted event = tallied event := by
  obtain ⟨frame, body⟩ := event
  obtain ⟨_, _, kept⟩ := stored
  cases body with
  | decisions layers =>
      exact congrArg (fun counts => Event.mk frame (.decisions counts))
        ((Record.countDecisions_eq layers).trans (DecisionCounts.ofLayers_of_fits kept))
  | begin opening => rfl
  | state state => rfl
  | range stage client => rfl
  | fallback reason => rfl
  | commitTest accepted => rfl
  | summary outcome => rfl

theorem fits_of_stored (stored : (tallied event).Stored) : event.Fits := by
  obtain ⟨frame, body⟩ := event
  refine ⟨stored.1, ?_⟩
  cases body with
  | decisions layers => trivial
  | begin opening => exact stored.2.1
  | state state => exact stored.2.1
  | range stage range => exact stored.2.1
  | fallback reason => exact stored.2.1
  | commitTest accepted => exact stored.2.1
  | summary outcome => exact stored.2.1

end TraceEvent

namespace Record

/-! ### Single fields -/

section Fields

variable {α β : Type}

/-- The reader takes the bytes of a field, whatever follows them.  The values that it gives are as
`Kept` says, and writing them gives the bytes tidied. -/
def Takes (field : Field) (write : α → List UInt8) (Kept : α → Prop)
    (reader : List UInt8 → Option (α × List UInt8)) : Prop :=
  ∀ bytes value rest, reader bytes = some (value, rest) → Kept value ∧ ∃ taken : List UInt8,
    bytes = taken ++ rest ∧ taken.length = field.width ∧ write value = field.tidy taken ∧
      ∀ other, reader (taken ++ other) = some (value, other)

theorem takes_word (width : Nat) :
    Takes (.word width) (Bytes.ofNat width) (· < Nat.pow 256 width) (Bytes.read width) := by
  intro bytes value rest success
  rw [Bytes.read_eq] at success
  split at success
  · next enough =>
    cases success
    have length : (bytes.take width).length = width := List.length_take_of_le enough
    have bound := Bytes.value_lt (bytes.take width)
    have written := Bytes.ofNat_value (bytes.take width)
    rw [length] at bound written
    refine ⟨bound, bytes.take width, (List.take_append_drop _ _).symm, length, written, ?_⟩
    intro other
    rw [Bytes.read_eq, List.take_left' length, List.drop_left' length,
      if_pos (by rw [List.length_append, length]; exact Nat.le_add_right _ _)]
  · cases success

theorem takes_flag :
    Takes .flag (fun flag => [Bytes.ofFlag flag]) (fun _ => True) readFlag := by
  intro bytes value rest success
  cases bytes with
  | nil => cases success
  | cons byte bytes =>
      cases success
      refine ⟨trivial, [byte], rfl, rfl, ?_, fun other => rfl⟩
      by_cases zero : byte = 0 <;> simp [Field.tidy, Bytes.ofFlag, zero]

/-- A listed value is written as the byte that it was read from. -/
theorem takes_choice [DecidableEq α] {all : List α} (distinct : all.Nodup) :
    Takes .choice (fun value => [codeOf all value]) (fun _ => True) (readChoice all) := by
  intro bytes value rest success
  cases bytes with
  | nil => cases success
  | cons byte bytes =>
      cases found : choice? all byte with
      | none => simp [readChoice, readByte, found] at success
      | some listed =>
          have read (other : List UInt8) : readChoice all (byte :: other) = some (listed, other) :=
            by simp [readChoice, readByte, found]
          rw [read] at success
          cases success
          obtain ⟨inside, rfl⟩ := List.getElem?_eq_some_iff.mp found
          refine ⟨trivial, [byte], rfl, rfl, ?_, read⟩
          have code : codeOf all all[byte.toNat] = byte := by
            rw [codeOf, distinct.idxOf_getElem, UInt8.ofNat_toNat]
          exact congrArg (fun code => [code]) code

theorem ofNat_eq_zeros_iff {size : Nat} (fits : size < UInt64.size) :
    Bytes.ofNat 8 size = List.replicate 8 0 ↔ size = 0 := by
  constructor
  · intro zeros
    have again := read8_append fits []
    rw [zeros] at again
    cases again
    rfl
  · rintro rfl
    rfl

/-- A range is written as it was read, unless it is empty. -/
theorem takes_client :
    Takes .range rangeBytes (fun range => range.Fits ∧ range.canonical = range) readClient := by
  intro bytes range rest success
  simp only [readClient, Option.bind_eq_bind, Option.bind_eq_some_iff, Prod.exists, Option.pure_def,
    Option.some.injEq, Prod.mk.injEq] at success
  obtain ⟨start, _, readStart, size, _, readSize, rfl, rfl⟩ := success
  obtain ⟨startBound, _, rfl, _, rfl, startAgain⟩ := takes_word 8 _ _ _ readStart
  obtain ⟨sizeBound, _, rfl, _, rfl, sizeAgain⟩ := takes_word 8 _ _ _ readSize
  have split : (Bytes.ofNat 8 start ++ Bytes.ofNat 8 size).drop 8 = Bytes.ofNat 8 size :=
    List.drop_left' (Bytes.length_ofNat 8 start)
  refine ⟨⟨?fits, ClientRange.canonical_ofSpan start size⟩,
    Bytes.ofNat 8 start ++ Bytes.ofNat 8 size, (List.append_assoc ..).symm, ?length, ?written,
    ?again⟩
  case fits =>
    cases size with
    | zero => exact (by decide : ClientRange.empty.Fits)
    | succ size => exact ⟨startBound, sizeBound⟩
  case length =>
    rw [List.length_append, Bytes.length_ofNat, Bytes.length_ofNat]
    rfl
  case written =>
    rw [Field.tidy, split]
    by_cases empty : size = 0
    · rw [if_pos ((ofNat_eq_zeros_iff sizeBound).mpr empty), empty, ClientRange.ofSpan_zero]
      rfl
    · rw [if_neg (mt (ofNat_eq_zeros_iff sizeBound).mp empty),
        ClientRange.ofSpan_of_pos start (Nat.pos_of_ne_zero empty)]
      rfl
  case again =>
    intro other
    simp only [readClient, List.append_assoc, startAgain, sizeAgain, Option.bind_eq_bind,
      Option.bind_some, Option.pure_def]

/-! ### Fields laid end to end -/

/-- As `Takes`, for all fields of a layout, where some bytes have been written before them. -/
def TakesAll (fields : List Field) (written : List UInt8) (write : β → List UInt8)
    (Kept : β → Prop) (reader : List UInt8 → Option (β × List UInt8)) : Prop :=
  ∀ bytes value rest, reader bytes = some (value, rest) → Kept value ∧ ∃ taken : List UInt8,
    bytes = taken ++ rest ∧ write value = written ++ Field.tidyAll fields taken ∧
      ∀ other, reader (taken ++ other) = some (value, other)

variable {field : Field} {fields : List Field} {written : List UInt8} {write : α → List UInt8}
  {writeAll : β → List UInt8} {Kept : α → Prop} {KeptAll : β → Prop}

/-- No field is left. -/
theorem takesAll_pure {value : β} (kept : KeptAll value) (complete : writeAll value = written) :
    TakesAll [] written writeAll KeptAll fun bytes => some (value, bytes) := by
  rintro bytes _ _ ⟨⟩
  exact ⟨kept, [], rfl, complete.trans (List.append_nil _).symm, fun other => rfl⟩

/-- One field and then the others. -/
theorem Takes.bind {first : List UInt8 → Option (α × List UInt8)}
    {second : α × List UInt8 → Option (β × List UInt8)} (one : Takes field write Kept first)
    (others : ∀ value, Kept value →
      TakesAll fields (written ++ write value) writeAll KeptAll fun rest => second (value, rest)) :
    TakesAll (field :: fields) written writeAll KeptAll fun bytes => (first bytes).bind second := by
  intro bytes last rest success
  obtain ⟨⟨value, middle⟩, firstSuccess, secondSuccess⟩ := Option.bind_eq_some_iff.mp success
  obtain ⟨kept, taken, rfl, width, tidied, again⟩ := one _ _ _ firstSuccess
  obtain ⟨keptAll, takenAll, rfl, tidiedAll, againAll⟩ := others value kept _ _ _ secondSuccess
  refine ⟨keptAll, taken ++ takenAll, (List.append_assoc ..).symm, ?_, ?_⟩
  · rw [tidiedAll, tidied, Field.tidyAll_append fields width, List.append_assoc]
  · intro other
    dsimp only
    rw [List.append_assoc, again, Option.bind_some]
    exact againAll other

theorem takesAll_ite {condition : Prop} [Decidable condition] {others : List Field}
    {first second : List UInt8 → Option (β × List UInt8)}
    (one : condition → TakesAll fields written writeAll KeptAll first)
    (two : TakesAll others written writeAll KeptAll second) :
    TakesAll (if condition then fields else others) written writeAll KeptAll fun bytes =>
      if condition then first bytes else second bytes := by
  by_cases holds : condition
  · simp only [if_pos holds]
    exact one holds
  · simp only [if_neg holds]
    exact two

end Fields

/-! ### Records -/

/-- The fields of an event that is read are those that are written for it, tidied.  One case for
each record layout. -/
theorem takesAll_readFields (tag : UInt8) :
    TakesAll (layout tag) [] fields (fun body => Record.tag body = tag ∧ body.Stored)
      (readFields tag) := by
  refine takesAll_ite ?begin (takesAll_ite ?state (takesAll_ite ?range (takesAll_ite ?fallback
    (takesAll_ite ?commitTest (takesAll_ite ?summary (takesAll_ite ?decisions ?unknown))))))
  case begin =>
    rintro rfl
    refine (takes_word 4).bind fun display displayBound => (takes_word 4).bind
      fun layerCount layerBound => (takes_word 4).bind fun usablePlanes planeBound =>
      takes_flag.bind fun flattenable _ => takesAll_pure ⟨rfl, ?_, trivial⟩ rfl
    exact ⟨displayBound, layerBound, planeBound⟩
  case state =>
    rintro rfl
    exact (takes_choice (by decide)).bind fun _ _ => takesAll_pure ⟨rfl, trivial, trivial⟩ rfl
  case range =>
    rintro rfl
    exact (takes_choice (by decide)).bind fun _ _ => takes_client.bind fun _ kept =>
      takesAll_pure ⟨rfl, kept⟩ rfl
  case fallback =>
    rintro rfl
    exact (takes_choice (by decide)).bind fun _ _ => takesAll_pure ⟨rfl, trivial, trivial⟩ rfl
  case commitTest =>
    rintro rfl
    exact takes_flag.bind fun _ _ => takesAll_pure ⟨rfl, trivial, trivial⟩ rfl
  case summary =>
    rintro rfl
    refine (takes_word 4).bind fun display displayBound => (takes_choice (by decide)).bind
      fun result _ => takes_client.bind fun client clientKept => (takes_word 4).bind
      fun layerCount layerBound => takes_flag.bind fun flattened _ => (takes_word 8).bind
      fun gpuPixels gpuBound => (takes_word 8).bind fun allPixels allBound =>
      takesAll_pure ⟨rfl, ?_, clientKept.2⟩ ?_
    · exact ⟨displayBound, clientKept.1, layerBound, gpuBound, allBound⟩
    · simp [fields]
  case decisions =>
    rintro rfl
    exact (takes_word 4).bind fun _ client => (takes_word 4).bind fun _ device =>
      takesAll_pure ⟨rfl, trivial, client, device⟩ rfl
  case unknown =>
    rintro bytes _ _ ⟨⟩

/-- A record that is read is one that is written for its event, tidied, and is read in front of any
bytes. -/
theorem record_of_read {bytes rest : List UInt8} {event : CountedEvent}
    (success : read bytes = some (event, rest)) :
    event.Stored ∧ ∃ record : List UInt8, bytes = record ++ rest ∧
      CountedEvent.encode event = tidy record ∧
      ∀ other, read (record ++ other) = some (event, other) := by
  cases bytes with
  | nil => cases success
  | cons tag bytes =>
      simp only [read, readByte, Option.bind_eq_bind, Option.bind_eq_some_iff, Prod.exists,
        Option.pure_def, Option.some.injEq, Prod.mk.injEq] at success
      obtain ⟨_, _, ⟨rfl, rfl⟩, frame, middle, readFrame, body, rest, readBody, rfl, rfl⟩ := success
      obtain ⟨frameBound, frameBytes, rfl, frameWidth, frameWritten, frameAgain⟩ :=
        takes_word 8 _ _ _ readFrame
      obtain ⟨⟨sameTag, stored⟩, bodyBytes, rfl, bodyWritten, bodyAgain⟩ :=
        takesAll_readFields tag _ _ _ readBody
      refine ⟨⟨frameBound, stored⟩, tag :: frameBytes ++ bodyBytes, ?_, ?_, ?_⟩
      · rw [List.cons_append, List.cons_append, List.append_assoc]
      · rw [CountedEvent.encode, sameTag, frameWritten, bodyWritten, List.cons_append,
          List.cons_append, List.nil_append, tidy, Field.tidyAll_append _ frameWidth]
      · intro other
        rw [List.cons_append, List.cons_append, List.append_assoc]
        simp only [read, readByte, frameAgain, bodyAgain, Option.bind_eq_bind, Option.bind_some,
          Option.pure_def]

/-- Decoded bytes are whole records, one for each event, and what decoding leaves.  The induction is
that of decoding. -/
theorem exists_records (bytes : List UInt8) :
    ∃ records : List (List UInt8), bytes = records.flatten ++ leftover bytes ∧
      records.map read = (decode bytes).map (fun event => some (event, [])) ∧
      records.flatMap tidy = (decode bytes).flatMap CountedEvent.encode ∧
      ∀ event ∈ decode bytes, event.Stored := by
  fun_induction decode bytes with
  | case1 bytes incomplete =>
      refine ⟨[], (leftover_of_read_eq_none incomplete).symm, rfl, rfl, ?_⟩
      intro event impossible
      cases impossible
  | case2 bytes event rest success inductionHypothesis =>
      obtain ⟨stored, record, split, written, again⟩ := record_of_read success
      obtain ⟨records, restSplit, wholes, tidied, othersStored⟩ := inductionHypothesis
      have whole := again []
      rw [List.append_nil] at whole
      refine ⟨record :: records, ?_, ?_, ?_, ?_⟩
      · rw [leftover_of_read_eq_some success, List.flatten_cons, List.append_assoc, ← restSplit]
        exact split
      · rw [List.map_cons, List.map_cons, whole, wholes]
      · rw [List.flatMap_cons, List.flatMap_cons, written, tidied]
      · exact List.forall_mem_cons.mpr ⟨stored, othersStored⟩

/-! ### Recording decoded events again -/

/-- No record is shorter than its tag, its index and one more byte. -/
theorem ten_mul_length_le (events : List CountedEvent) :
    10 * events.length ≤ (events.flatMap CountedEvent.encode).length := by
  induction events with
  | nil => exact Nat.zero_le _
  | cons event events inductionHypothesis =>
      have width : 1 ≤ fieldWidth (tag event.body) := by
        cases event.body <;> simp [tag, fieldWidth]
      simp only [List.flatMap_cons, List.length_append, List.length_cons, CountedEvent.encode,
        Bytes.length_ofNat, length_fields]
      omega

theorem length_flatMap_tidy (records : List (List UInt8)) :
    (records.flatMap tidy).length = records.flatten.length := by
  simp only [List.length_flatMap, List.length_flatten, length_tidy]

section Told

variable {told : List TraceEvent}

theorem encodeAll_of_stored (stored : ∀ event ∈ told, (TraceEvent.tallied event).Stored) :
    encodeAll told = (told.map TraceEvent.tallied).flatMap CountedEvent.encode := by
  rw [encodeAll, List.flatMap_map, List.flatMap_def, List.flatMap_def]
  refine congrArg List.flatten (List.map_congr_left fun event member => ?_)
  exact congrArg CountedEvent.encode (TraceEvent.counted_of_stored (stored event member))

theorem decode_encodeAll_of_stored (stored : ∀ event ∈ told, (TraceEvent.tallied event).Stored) :
    decode (encodeAll told) = told.map TraceEvent.tallied := by
  rw [decode_encodeAll fun event member => TraceEvent.fits_of_stored (stored event member)]
  exact List.map_congr_left fun event member =>
    TraceEvent.canonical_of_stored (stored event member)

end Told

/-- Decoding is total, bounded and stable.  Any bytes are whole records, one for each decoded event,
and a rest that starts with none.  Reading them event by event meets no access outside the bytes,
and every record takes ten bytes or more.  Recording events that the decoded ones tally gives those
records again, with every truth byte that is not 0 replaced by 1 and the start of every range of
size 0 by 0, and decodes to the same events. -/
theorem decode_bytes (bytes : List UInt8) :
    ∃ records : List (List UInt8),
      bytes = records.flatten ++ leftover bytes ∧ read (leftover bytes) = none ∧
      records.map read = (decode bytes).map (fun event => some (event, [])) ∧
      (∃ stop, records.flatten.length ≤ stop ∧ stop ≤ bytes.length ∧
        Cursor.Iterates ⟨bytes, 0⟩ (decode bytes) ⟨bytes, records.flatten.length⟩
          ⟨bytes, stop⟩) ∧
      (decode bytes).length ≤ bytes.length / 10 ∧
      (∃ events : List TraceEvent, events.map TraceEvent.tallied = decode bytes) ∧
      ∀ events : List TraceEvent, events.map TraceEvent.tallied = decode bytes →
        encodeAll events = records.flatMap tidy ∧
        (encodeAll events).length = records.flatten.length ∧
        decode (encodeAll events) = decode bytes := by
  obtain ⟨records, split, wholes, tidied, stored⟩ := exists_records bytes
  have lengths := congrArg List.length split
  rw [List.length_append] at lengths
  refine ⟨records, split, read_leftover bytes, wholes, ?reading, ?bounded,
    TraceEvent.exists_map_tallied _, ?stable⟩
  case reading =>
    have begins : Cursor.rest ⟨bytes, 0⟩ = bytes := rfl
    obtain ⟨last, broken, events, lastData, brokenData, ordered, inside, left⟩ :=
      Cursor.iterates_decode begins (Nat.zero_le _)
    obtain ⟨_, position⟩ := last
    obtain ⟨_, stop⟩ := broken
    cases lastData
    cases brokenData
    have remaining := congrArg List.length left
    rw [Cursor.length_rest] at remaining
    have within : stop ≤ bytes.length := inside
    have behind : position = records.flatten.length := by
      dsimp only at remaining ordered
      omega
    rw [behind] at events ordered
    exact ⟨stop, ordered, within, events⟩
  case bounded =>
    have tenfold := ten_mul_length_le (decode bytes)
    rw [← tidied, length_flatMap_tidy] at tenfold
    omega
  case stable =>
    intro events told
    have toldStored : ∀ event ∈ events, (TraceEvent.tallied event).Stored := by
      intro event member
      exact stored _ (told ▸ List.mem_map_of_mem member)
    have written : encodeAll events = records.flatMap tidy := by
      rw [encodeAll_of_stored toldStored, told, tidied]
    refine ⟨written, ?_, ?_⟩
    · rw [written, length_flatMap_tidy]
    · rw [decode_encodeAll_of_stored toldStored, told]

-- An empty range that starts at five.
example :
    tidy [3, 9, 0, 0, 0, 0, 0, 0, 0, 1, 5, 0, 0, 0, 0, 0, 0, 0, 0, 0, 0, 0, 0, 0, 0, 0] =
      [3, 9, 0, 0, 0, 0, 0, 0, 0, 1, 0, 0, 0, 0, 0, 0, 0, 0, 0, 0, 0, 0, 0, 0, 0, 0] := by
  decide

end Record

end Scanout
