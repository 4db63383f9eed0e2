/-
Module: Scanout.Proofs.Checked.Budget
Purpose: Growing a client range for a plane budget, with and without a reserved video run, stays
  within machine words for any budget and any run.
Imports: Scanout.Proofs.Budget.Video, Scanout.Proofs.Checked.Cost
Main exports: fitToPlanesChecked_eq, ClientSide.ofChecked_eq, unlessAllFitChecked_eq,
  reservedRangeChecked_eq, fitAroundVideoChecked_eq
-/
import Scanout.Proofs.Budget.Video
import Scanout.Proofs.Checked.Cost

namespace Scanout

/-! ### Growing for the planes alone -/

/-- The cheapest of the windows of `size` layers that begin at `starts`; `best`, which costs
`bestCost`, if none of them is cheaper. -/
def scanWindowsChecked (read : CheckedCost) (size : Nat) :
    (best : ClientRange) → (bestCost : Nat) → (starts : List Nat) → Checked ClientRange
  | best, _, [] => return best
  | best, bestCost, start :: starts => do
      let cost ← read start size
      if cost < bestCost then
        scanWindowsChecked read size (ClientRange.ofSpan start size) cost starts
      else scanWindowsChecked read size best bestCost starts

/-- The cheapest of `steps` windows, the lowest of which begins at `first`. -/
def cheapestWindowChecked (read : CheckedCost) (first size steps : Nat) : Checked ClientRange := do
  let stop ← Checked.add first steps
  scanWindowsChecked read size (ClientRange.ofSpan first size) Word.max64
    (List.range' first (stop - first))

/-- The cheapest window of `client.size + excess` layers that covers `client`. -/
def cheapestCandidateChecked (layerCount excess : Nat) (client : ClientRange)
    (read : CheckedCost) : Checked ClientRange :=
  if client.isEmpty then do
    cheapestWindowChecked read 0 excess (← Checked.add (← Checked.sub layerCount excess) 1)
  else do
    let below := min client.start excess
    let above := min (← Checked.sub layerCount (← client.stopChecked)) excess
    let first ← Checked.sub client.start below
    let size ← Checked.add client.size excess
    let roomAbove ← Checked.sub layerCount (← Checked.add first size)
    cheapestWindowChecked read first size (← Checked.add 1 (min (min above below) roomAbove))

/-- The client range has to lie in the stack. -/
def fitToPlanesChecked (layerCount usablePlanes : Nat) (client : ClientRange)
    (read : CheckedCost) : Checked ClientRange := do
  Checked.require ((← client.stopChecked) ≤ layerCount)
  let outside ← Checked.sub layerCount client.size
  let planes := devicePlanes layerCount usablePlanes
  if outside ≤ planes then return client
  else cheapestCandidateChecked layerCount (← Checked.sub outside planes) client read

section Plain

variable {read : CheckedCost} {cost : WindowCost}

/-- The scan that carries the best window and its cost ends where the scan over starts ends. -/
theorem scanWindowsChecked_eq (reads : Reads read cost) (size best : Nat) (starts : List Nat) :
    scanWindowsChecked read size (ClientRange.ofSpan best size) (cost best size) starts =
      .ok (ClientRange.ofSpan (cheapestStart (fun start => cost start size) best starts) size) := by
  induction starts generalizing best with
  | nil => rfl
  | cons start starts inductionHypothesis =>
      simp only [scanWindowsChecked, cheapestStart, reads.exactly, Checked.ok_bind]
      by_cases cheaper : cost start size < cost best size
      · simp only [if_pos cheaper, inductionHypothesis]
      · simp only [if_neg cheaper, inductionHypothesis]

/-- The scan starts from a bound that no window costs more than, so its first step is settled. -/
theorem cheapestWindowChecked_eq (reads : Reads read cost) {first size steps : Nat}
    (room : first + steps ≤ Word.max64) {lowest : Nat} {others : List Nat}
    (listed : List.range' first steps = lowest :: others) :
    cheapestWindowChecked read first size steps =
      .ok (ClientRange.ofSpan (cheapestStart (fun start => cost start size) lowest others)
        size) := by
  have lowestEq : lowest = first := by
    cases steps with
    | zero => cases listed
    | succ steps => exact (List.cons.inj listed).1.symm
  subst lowestEq
  have scanned := scanWindowsChecked_eq reads size lowest others
  simp only [cheapestWindowChecked, Checked.add_of_le room, Checked.ok_bind,
    Nat.add_sub_cancel_left, listed, scanWindowsChecked, reads.exactly]
  by_cases cheaper : cost lowest size < Word.max64
  · rw [if_pos cheaper, scanned]
  · have dearest : cost lowest size = Word.max64 :=
      Nat.le_antisymm (reads.bounded lowest size) (Nat.le_of_not_lt cheaper)
    rw [dearest] at scanned
    rw [if_neg cheaper, scanned]

/-- The candidates end within the stack, the lowest one and those some steps above it. -/
theorem cheapestCandidateChecked_eq (reads : Reads read cost) {layerCount excess : Nat}
    {client : ClientRange} (small : layerCount < Word.max64) (inside : client.stop ≤ layerCount)
    (room : client.size + excess ≤ layerCount) {lowest : Nat} {others : List Nat}
    (listed : candidateStarts layerCount excess client = lowest :: others) :
    cheapestCandidateChecked layerCount excess client read =
      .ok (ClientRange.ofSpan
        (cheapestStart (fun start => cost start (client.size + excess)) lowest others)
        (client.size + excess)) := by
  rw [cheapestCandidateChecked]
  by_cases vacant : client.isEmpty = true
  · have noSize := ClientRange.isEmpty_iff.mp vacant
    have inStack : excess ≤ layerCount := by omega
    have steps : layerCount - excess + 1 ≤ Word.max64 := by omega
    rw [candidateStarts, if_pos vacant] at listed
    simp only [if_pos vacant, noSize, Nat.zero_add, Checked.sub_of_le inStack,
      Checked.add_of_le steps, Checked.ok_bind]
    exact cheapestWindowChecked_eq reads (by omega) listed
  · have clientStop := ClientRange.stop_eq client
    have stopped := ClientRange.stopChecked_eq (Nat.le_trans inside (Nat.le_of_lt small))
    rw [candidateStarts, if_neg vacant] at listed
    generalize belowEq : min client.start excess = below at listed
    generalize aboveEq : min (layerCount - client.stop) excess = above at listed
    have belowInside : below ≤ client.start := by omega
    have sizeInside : client.size + excess ≤ Word.max64 := by omega
    have stopInside : client.start - below + (client.size + excess) ≤ layerCount := by omega
    have stopSmall : client.start - below + (client.size + excess) ≤ Word.max64 := by omega
    have steps : 1 + min (min above below)
        (layerCount - (client.start - below + (client.size + excess))) ≤ Word.max64 := by omega
    simp only [if_neg vacant, stopped, Checked.sub_of_le inside, aboveEq,
      Checked.sub_of_le belowInside, Checked.add_of_le sizeInside, Checked.add_of_le stopSmall,
      Checked.sub_of_le stopInside, Checked.add_of_le steps, Checked.ok_bind]
    exact cheapestWindowChecked_eq reads (by omega) listed

theorem fitToPlanesChecked_eq (reads : Reads read cost) {layerCount : Nat} (usablePlanes : Nat)
    {client : ClientRange} (small : layerCount < Word.max64) (inside : client.stop ≤ layerCount) :
    fitToPlanesChecked layerCount usablePlanes client read =
      .ok (fitToPlanes layerCount usablePlanes client cost) := by
  have stopped := ClientRange.stopChecked_eq (Nat.le_trans inside (Nat.le_of_lt small))
  have sizeInside : client.size ≤ layerCount :=
    Nat.le_trans (Nat.le_add_left client.size client.start) inside
  simp only [fitToPlanesChecked, stopped, Checked.require_of_true (decide_eq_true inside),
    Checked.sub_of_le sizeInside, Checked.ok_bind]
  by_cases fits : layerCount - client.size ≤ devicePlanes layerCount usablePlanes
  · rw [if_pos fits, fitToPlanes_of_fits usablePlanes cost fits]
    rfl
  · have excessEq : Checked.sub (layerCount - client.size) (devicePlanes layerCount usablePlanes) =
        .ok (excessLayers layerCount usablePlanes client) :=
      Checked.sub_of_le (Nat.le_of_not_le fits)
    have short : excessLayers layerCount usablePlanes client ≠ 0 :=
      Nat.sub_ne_zero_of_lt (Nat.lt_of_not_le fits)
    have room : client.size + excessLayers layerCount usablePlanes client ≤ layerCount := by
      rw [excessLayers]
      omega
    simp only [if_neg fits, excessEq, Checked.ok_bind, fitToPlanes, if_neg short]
    cases listed : candidateStarts layerCount (excessLayers layerCount usablePlanes client) client
      with
    | nil => exact absurd listed (candidateStarts_ne_nil inside room)
    | cons lowest others => exact cheapestCandidateChecked_eq reads small inside room listed

end Plain

/-! ### Growing around a video run -/

/-- The place of a client range; both ends are asked for only where there are two runs. -/
def ClientSide.ofChecked (client : ClientRange) (device : DeviceRange) : Checked ClientSide :=
  if client.isEmpty then return .noClient
  else do
    if ← device.overlapsChecked client then return .overlapping
    else if (← client.stopChecked) ≤ device.start then return .belowVideo
    else return .aboveVideo

section Rules

variable (layerCount : Nat) (client : ClientRange) (device : DeviceRange)

def besideVideoChecked : Checked (Except FallbackCause ClientRange) :=
  if device.start = 0 then
    return .ok (← ClientRange.ofBoundsChecked device.stopWord layerCount)
  else if device.stopWord = layerCount then
    return .ok (← ClientRange.ofBoundsChecked 0 device.start)
  else return .error .videoNotAtEdge

def keepNextBelowChecked (kept : Nat) : Checked (Except FallbackCause ClientRange) := do
  let aboveVideo ← Checked.sub layerCount device.stopWord
  if kept < aboveVideo then return .error .sideOverReservation
  else
    let rest ← Checked.sub kept aboveVideo
    let between ← Checked.sub device.start (← client.stopChecked)
    if rest ≤ between then
      return .ok (← ClientRange.ofBoundsChecked 0 (← Checked.sub device.start rest))
    else
      return .ok (← ClientRange.ofBoundsChecked (← Checked.sub rest between)
        (← client.stopChecked))

def keepNextAboveChecked (kept : Nat) : Checked (Except FallbackCause ClientRange) := do
  if kept < device.start then return .error .sideOverReservation
  else
    let rest ← Checked.sub kept device.start
    let between ← Checked.sub client.start device.stopWord
    if rest ≤ between then
      return .ok (← ClientRange.ofBoundsChecked (← Checked.add device.stopWord rest) layerCount)
    else
      let joining ← Checked.sub rest between
      return .ok (← ClientRange.ofBoundsChecked client.start (← Checked.sub layerCount joining))

/-- The top of the stack, with everything below the video on planes. -/
def topEdgeChecked (kept : Nat) : Checked ClientRange := do
  let rest ← Checked.sub kept device.start
  ClientRange.ofBoundsChecked (← Checked.add device.stopWord rest) layerCount

/-- The bottom of the stack, with everything above the video on planes. -/
def bottomEdgeChecked (kept : Nat) : Checked ClientRange := do
  let rest ← Checked.sub kept (← Checked.sub layerCount device.stopWord)
  ClientRange.ofBoundsChecked 0 (← Checked.sub device.start rest)

/-- Each edge is worked out only if the planes allow it. -/
def cheaperEdgeChecked (read : CheckedCost) (kept : Nat) :
    Checked (Except FallbackCause ClientRange) := do
  let aboveVideo ← Checked.sub layerCount device.stopWord
  if device.start ≤ kept then
    let top ← topEdgeChecked layerCount device kept
    if aboveVideo ≤ kept then
      let bottom ← bottomEdgeChecked layerCount device kept
      if (← read bottom.start bottom.size) < (← read top.start top.size) then return .ok bottom
      else return .ok top
    else return .ok top
  else if aboveVideo ≤ kept then return .ok (← bottomEdgeChecked layerCount device kept)
  else return .error .sideOverReservation

/-- The rule is told how many of the free layers may stay. -/
def unlessAllFitChecked (planes : Nat)
    (rule : Nat → Checked (Except FallbackCause ClientRange)) :
    Checked (Except FallbackCause ClientRange) := do
  let free ← Checked.sub (← Checked.sub layerCount device.size) client.size
  let kept := min free planes
  if kept < free then rule kept else return .ok client

def reservedRangeChecked (usablePlanes : Nat) (read : CheckedCost) :
    Checked (Except FallbackCause ClientRange) := do
  match PlaneRoom.of layerCount usablePlanes device.size, ← ClientSide.ofChecked client device with
  | .short, _ => return .error .videoOverBudget
  | _, .overlapping => return .error .clientOverlapsVideo
  | .exact, _ => besideVideoChecked layerCount device
  | .spare planes, .noClient =>
      unlessAllFitChecked layerCount client device planes
        (cheaperEdgeChecked layerCount device read)
  | .spare planes, .belowVideo =>
      unlessAllFitChecked layerCount client device planes
        (keepNextBelowChecked layerCount client device)
  | .spare planes, .aboveVideo =>
      unlessAllFitChecked layerCount client device planes
        (keepNextAboveChecked layerCount client device)

end Rules

/-- Grow a client range for the budget and keep a video run on planes if one range can do both. -/
def fitAroundVideoChecked (layerCount usablePlanes : Nat) (client : ClientRange)
    (device : DeviceRange) (read : CheckedCost) : Checked BudgetFit := do
  let plain := fitToPlanesChecked layerCount usablePlanes client read
  if device.isEmpty then return { range := ← plain }
  else if layerCount < device.stopWord then
    return { range := ← plain, fallback := some .deviceRangeOutOfBounds }
  else
    match ← reservedRangeChecked layerCount client device usablePlanes read with
    | .ok range => return { range }
    | .error cause => return { range := ← plain, fallback := some cause }

section Around

variable {layerCount kept : Nat} {client : ClientRange} {device : DeviceRange}

theorem ClientSide.ofChecked_eq (clientInside : client.stop ≤ Word.max64)
    (deviceStop : device.stopWord = device.stop) :
    ClientSide.ofChecked client device = .ok (ClientSide.of client device) := by
  have stopped := ClientRange.stopChecked_eq clientInside
  have overlap : device.overlapsChecked client = .ok (device.overlaps client) := by
    simp only [DeviceRange.overlapsChecked, DeviceRange.overlaps, stopped, deviceStop,
      Checked.ok_bind]
    cases device.isEmpty <;> cases client.isEmpty <;> rfl
  rw [ofChecked, ClientSide.of]
  split
  · rfl
  · simp only [overlap, stopped, Checked.ok_bind]
    split
    · rfl
    · split <;> rfl

theorem besideVideoChecked_eq (deviceStop : device.stopWord = device.stop)
    (deviceInside : device.stop ≤ layerCount) :
    besideVideoChecked layerCount device = .ok (besideVideo layerCount device) := by
  rw [besideVideoChecked, besideVideo, deviceStop]
  split
  · simp [ClientRange.ofBoundsChecked_eq deviceInside]
  · split
    · simp [ClientRange.ofBoundsChecked_eq (Nat.zero_le device.start)]
    · rfl

theorem keepNextBelowChecked_eq (small : layerCount < Word.max64)
    (deviceStop : device.stopWord = device.stop) (deviceInside : device.stop ≤ layerCount)
    (below : client.stop ≤ device.start) (pressure : kept < freeLayers layerCount client device) :
    keepNextBelowChecked layerCount client device kept =
      .ok (keepNextBelow layerCount client device kept) := by
  have clientEnd := ClientRange.stop_eq client
  have deviceEnd := DeviceRange.stop_eq device
  have clientSmall : client.stop ≤ Word.max64 := by omega
  have stopped := ClientRange.stopChecked_eq clientSmall
  rw [freeLayers] at pressure
  simp only [keepNextBelowChecked, keepNextBelow, deviceStop, Checked.sub_of_le deviceInside,
    Checked.ok_bind]
  by_cases tooHigh : kept < layerCount - device.stop
  · rw [if_pos tooHigh, if_pos tooHigh]
    rfl
  · have reached := Nat.le_of_not_lt tooHigh
    simp only [if_neg tooHigh, Checked.sub_of_le reached, stopped, Checked.sub_of_le below,
      Checked.ok_bind]
    generalize restEq : kept - (layerCount - device.stop) = rest
    generalize betweenEq : device.start - client.stop = between
    by_cases inGap : rest ≤ between
    · have restInside : rest ≤ device.start := by omega
      simp [if_pos inGap, Checked.sub_of_le restInside, ClientRange.ofBoundsChecked_eq]
    · have past := Nat.le_of_not_le inGap
      have ordered : rest - between ≤ client.stop := by omega
      simp [if_neg inGap, Checked.sub_of_le past, ClientRange.ofBoundsChecked_eq ordered]

/-- Asked about a client range above the video, the rule would subtract too much. -/
example : keepNextBelowChecked 4 ⟨2, 1⟩ ⟨1, 1⟩ 3 = .error .underflow := rfl

theorem keepNextAboveChecked_eq (small : layerCount < Word.max64)
    (deviceStop : device.stopWord = device.stop) (clientInside : client.stop ≤ layerCount)
    (above : device.stop ≤ client.start) (pressure : kept < freeLayers layerCount client device) :
    keepNextAboveChecked layerCount client device kept =
      .ok (keepNextAbove layerCount client device kept) := by
  have clientEnd := ClientRange.stop_eq client
  have deviceEnd := DeviceRange.stop_eq device
  rw [freeLayers] at pressure
  simp only [keepNextAboveChecked, keepNextAbove, deviceStop]
  by_cases tooLow : kept < device.start
  · rw [if_pos tooLow, if_pos tooLow]
    rfl
  · have reached := Nat.le_of_not_lt tooLow
    simp only [if_neg tooLow, Checked.sub_of_le reached, Checked.sub_of_le above, Checked.ok_bind]
    generalize restEq : kept - device.start = rest
    generalize betweenEq : client.start - device.stop = between
    by_cases inGap : rest ≤ between
    · have restInside : device.stop + rest ≤ Word.max64 := by omega
      have ordered : device.stop + rest ≤ layerCount := by omega
      simp [if_pos inGap, Checked.add_of_le restInside, ClientRange.ofBoundsChecked_eq ordered]
    · have past := Nat.le_of_not_le inGap
      have joining : rest - between ≤ layerCount := by omega
      have ordered : client.start ≤ layerCount - (rest - between) := by omega
      simp [if_neg inGap, Checked.sub_of_le past, Checked.sub_of_le joining,
        ClientRange.ofBoundsChecked_eq ordered]

theorem topEdgeChecked_eq (small : layerCount < Word.max64)
    (deviceStop : device.stopWord = device.stop) (lower : device.start ≤ kept)
    (pressure : kept < layerCount - device.size) :
    topEdgeChecked layerCount device kept =
      .ok (ClientRange.ofBounds (device.stop + (kept - device.start)) layerCount) := by
  have deviceEnd := DeviceRange.stop_eq device
  have ordered : device.stop + (kept - device.start) ≤ layerCount := by omega
  have inWord : device.stop + (kept - device.start) ≤ Word.max64 := by omega
  simp [topEdgeChecked, deviceStop, Checked.sub_of_le lower, Checked.add_of_le inWord,
    ClientRange.ofBoundsChecked_eq ordered]

theorem bottomEdgeChecked_eq (deviceStop : device.stopWord = device.stop)
    (deviceInside : device.stop ≤ layerCount) (upper : layerCount - device.stop ≤ kept)
    (pressure : kept < layerCount - device.size) :
    bottomEdgeChecked layerCount device kept =
      .ok (ClientRange.ofBounds 0 (device.start - (kept - (layerCount - device.stop)))) := by
  have deviceEnd := DeviceRange.stop_eq device
  have inside : kept - (layerCount - device.stop) ≤ device.start := by omega
  simp [bottomEdgeChecked, deviceStop, Checked.sub_of_le deviceInside, Checked.sub_of_le upper,
    Checked.sub_of_le inside, ClientRange.ofBoundsChecked_eq]

theorem cheaperEdgeChecked_eq {read : CheckedCost} {cost : WindowCost} (reads : Reads read cost)
    (small : layerCount < Word.max64) (deviceStop : device.stopWord = device.stop)
    (deviceInside : device.stop ≤ layerCount) (pressure : kept < layerCount - device.size) :
    cheaperEdgeChecked layerCount device read kept =
      .ok (cheaperEdge layerCount device cost kept) := by
  simp only [cheaperEdgeChecked, cheaperEdge, deviceStop, Checked.sub_of_le deviceInside,
    Checked.ok_bind]
  by_cases lower : device.start ≤ kept
  · rw [if_pos lower, if_pos lower, topEdgeChecked_eq small deviceStop lower pressure]
    by_cases upper : layerCount - device.stop ≤ kept
    · simp only [upper, if_true, true_and, reads.exactly, Checked.ok_bind,
        bottomEdgeChecked_eq deviceStop deviceInside upper pressure]
      split <;> rfl
    · simp only [upper, if_false, false_and, Checked.ok_bind]
      rfl
  · rw [if_neg lower, if_neg lower]
    by_cases upper : layerCount - device.stop ≤ kept
    · rw [if_pos upper, if_pos upper,
        bottomEdgeChecked_eq deviceStop deviceInside upper pressure]
      rfl
    · rw [if_neg upper, if_neg upper]
      rfl

theorem unlessAllFitChecked_eq {planes : Nat} (room : device.size + client.size ≤ layerCount)
    {ruleChecked : Nat → Checked (Except FallbackCause ClientRange)}
    {rule : Nat → Except FallbackCause ClientRange}
    (ruled : planes < freeLayers layerCount client device →
      ruleChecked planes = .ok (rule planes)) :
    unlessAllFitChecked layerCount client device planes ruleChecked =
      .ok (unlessAllFit layerCount client device planes rule) := by
  have deviceInside : device.size ≤ layerCount := by omega
  have clientInside : client.size ≤ layerCount - device.size := by omega
  have freeEq : layerCount - device.size - client.size = freeLayers layerCount client device := rfl
  simp only [unlessAllFitChecked, unlessAllFit, Checked.sub_of_le deviceInside,
    Checked.sub_of_le clientInside, freeEq, Checked.ok_bind]
  by_cases allFit : freeLayers layerCount client device ≤ planes
  · rw [if_pos allFit, if_neg (by omega)]
    rfl
  · have pressure := Nat.lt_of_not_le allFit
    have kept : min (freeLayers layerCount client device) planes = planes :=
      Nat.min_eq_right (Nat.le_of_lt pressure)
    rw [kept, if_neg allFit, if_pos pressure, ruled pressure]

theorem reservedRangeChecked_eq {read : CheckedCost} {cost : WindowCost}
    (reads : Reads read cost) (usablePlanes : Nat) (small : layerCount < Word.max64)
    (deviceStop : device.stopWord = device.stop) (reserved : device.size ≠ 0)
    (clientInside : client.stop ≤ layerCount) (deviceInside : device.stop ≤ layerCount) :
    reservedRangeChecked layerCount client device usablePlanes read =
      .ok (reservedRange layerCount client device usablePlanes cost) := by
  have clientEnd := ClientRange.stop_eq client
  have deviceEnd := DeviceRange.stop_eq device
  have clientSmall : client.stop ≤ Word.max64 := by omega
  rw [reservedRangeChecked, reservedRange, ClientSide.ofChecked_eq clientSmall deviceStop,
    Checked.ok_bind]
  cases PlaneRoom.of layerCount usablePlanes device.size with
  | short => rfl
  | exact =>
      cases ClientSide.of client device with
      | overlapping => rfl
      | noClient | belowVideo | aboveVideo => exact besideVideoChecked_eq deviceStop deviceInside
  | spare planes =>
      -- Two runs on different sides have room for both in the stack.
      rcases ClientSide.of_cases client reserved with
        ⟨side, vacant⟩ | ⟨side, _⟩ | ⟨side, _, below⟩ | ⟨side, _, above⟩ <;> rw [side]
      · refine unlessAllFitChecked_eq (by omega) fun pressure => ?_
        rw [freeLayers, vacant, Nat.sub_zero] at pressure
        exact cheaperEdgeChecked_eq reads small deviceStop deviceInside pressure
      · rfl
      · exact unlessAllFitChecked_eq (by omega) fun pressure =>
          keepNextBelowChecked_eq small deviceStop deviceInside below pressure
      · exact unlessAllFitChecked_eq (by omega) fun pressure =>
          keepNextAboveChecked_eq small deviceStop clientInside above pressure

/-- A run is checked against the stack before anything is worked out from it. -/
theorem fitAroundVideoChecked_eq {read : CheckedCost} {cost : WindowCost}
    (reads : Reads read cost) (usablePlanes : Nat) (device : DeviceRange)
    (small : layerCount < Word.max64) (clientInside : client.stop ≤ layerCount) :
    fitAroundVideoChecked layerCount usablePlanes client device read =
      .ok (fitAroundVideo layerCount usablePlanes client device cost) := by
  simp only [fitAroundVideoChecked, fitAroundVideo, DeviceRange.lt_stopWord_iff small,
    fitToPlanesChecked_eq reads usablePlanes small clientInside, Checked.ok_bind]
  by_cases empty : device.isEmpty = true
  · rw [if_pos empty, if_pos empty]
    rfl
  · by_cases outside : layerCount < device.stop
    · rw [if_neg empty, if_neg empty, if_pos outside, if_pos outside]
      rfl
    · have reserved := DeviceRange.not_isEmpty_iff.mp empty
      have deviceInside := Nat.le_of_not_lt outside
      have deviceStop : device.stopWord = device.stop := by
        apply DeviceRange.stopWord_eq small
        exact Nat.le_of_not_lt (mt (DeviceRange.lt_stopWord_iff small).mp outside)
      rw [if_neg empty, if_neg empty, if_neg outside, if_neg outside,
        reservedRangeChecked_eq reads usablePlanes small deviceStop reserved clientInside
          deviceInside, Checked.ok_bind]
      cases reservedRange layerCount client device usablePlanes cost <;> rfl

end Around

end Scanout
