/-
Module: Scanout.Proofs.Budget.CheapestWindow
Purpose: Under any cost of windows the range grown for a plane budget is the lowest of the cheapest
  windows that cover the old range, and the costs asked for are those of these windows.
Imports: Scanout.Proofs.Budget.Plain
Main exports: Beats, beats_cheapestStart, WindowQuery, fitToPlanesAsking, recording,
  exists_windows_of_short, fitToPlanes_argmin
-/
import Scanout.Proofs.Budget.Plain

namespace Scanout

/-! ### The lowest of the cheapest -/

/-- `start` is cheaper than `other`, or as cheap and not above it. -/
def Beats (cost : Nat → Nat) (start other : Nat) : Prop :=
  cost start < cost other ∨ cost start = cost other ∧ start ≤ other

namespace Beats

variable {cost : Nat → Nat} {first second third : Nat}

theorem refl (start : Nat) : Beats cost start start := Or.inr ⟨rfl, Nat.le_refl start⟩

theorem trans (lower : Beats cost first second) (upper : Beats cost second third) :
    Beats cost first third := by
  rcases lower with cheaper | ⟨same, below⟩
  · rcases upper with dearer | ⟨same, _⟩
    · exact Or.inl (Nat.lt_trans cheaper dearer)
    · exact Or.inl (Nat.lt_of_lt_of_eq cheaper same)
  · rcases upper with dearer | ⟨sameAgain, above⟩
    · exact Or.inl (Nat.lt_of_le_of_lt (Nat.le_of_eq same) dearer)
    · exact Or.inr ⟨same.trans sameAgain, Nat.le_trans below above⟩

end Beats

/-- Where the starts go upwards, the one the scan ends on beats all it looks at. -/
theorem beats_cheapestStart (cost : Nat → Nat) {best : Nat} {starts : List Nat}
    (upwards : (best :: starts).Pairwise (· < ·)) :
    ∀ start ∈ best :: starts, Beats cost (cheapestStart cost best starts) start := by
  induction starts generalizing best with
  | nil =>
      intro start member
      rw [List.mem_singleton.mp member]
      exact Beats.refl best
  | cons next starts inductionHypothesis =>
      obtain ⟨bestBelow, nextUpwards⟩ := List.pairwise_cons.mp upwards
      obtain ⟨_, startsUpwards⟩ := List.pairwise_cons.mp nextUpwards
      rw [cheapestStart]
      -- The start carried on beats the two compared, and is beaten by the one the scan ends on.
      by_cases cheaper : cost next < cost best
      · rw [if_pos cheaper]
        have beaten := inductionHypothesis nextUpwards
        intro start member
        rcases List.mem_cons.mp member with rfl | later
        · exact (beaten next List.mem_cons_self).trans (Or.inl cheaper)
        · exact beaten start later
      · rw [if_neg cheaper]
        have bestUpwards : (best :: starts).Pairwise (· < ·) :=
          List.pairwise_cons.mpr
            ⟨fun start later => bestBelow start (List.mem_cons_of_mem next later), startsUpwards⟩
        have beaten := inductionHypothesis bestUpwards
        have overNext : Beats cost best next := by
          rcases Nat.lt_or_eq_of_le (Nat.le_of_not_lt cheaper) with dearer | same
          · exact Or.inl dearer
          · exact Or.inr ⟨same, Nat.le_of_lt (bestBelow next List.mem_cons_self)⟩
        intro start member
        rcases List.mem_cons.mp member with rfl | member
        · exact beaten start List.mem_cons_self
        · rcases List.mem_cons.mp member with rfl | later
          · exact (beaten best List.mem_cons_self).trans overNext
          · exact beaten start (List.mem_cons_of_mem best later)

theorem candidateStarts_upwards (layerCount excess : Nat) (client : ClientRange) :
    (candidateStarts layerCount excess client).Pairwise (· < ·) := by
  rw [candidateStarts]
  split <;> exact List.pairwise_lt_range'

/-! ### Asking for costs

A cost may also be found out by asking something that has a state of its own.  The search asks for
each window once and keeps the least cost so far; before the first answer that is the largest word,
which no cost exceeds.
-/

/-- The answer to what a window costs. -/
abbrev WindowQuery (m : Type → Type) := (first size : Nat) → m Nat

section Asking

variable {m : Type → Type} [Monad m]

/-- The cheapest of some starts, or `best` where none costs less than `bestCost`. -/
def scanAsking (ask : Nat → m Nat) : (best bestCost : Nat) → List Nat → m Nat
  | best, _, [] => return best
  | best, bestCost, start :: starts => do
      let cost ← ask start
      if cost < bestCost then scanAsking ask start cost starts
      else scanAsking ask best bestCost starts

/-- Grow a client range like `fitToPlanes`, asking for the costs. -/
def fitToPlanesAsking (layerCount usablePlanes : Nat) (client : ClientRange)
    (ask : WindowQuery m) : m ClientRange :=
  let excess := excessLayers layerCount usablePlanes client
  if excess = 0 then return client
  else
    let size := client.size + excess
    match candidateStarts layerCount excess client with
    | [] => return client
    | first :: others => do
        let start ← scanAsking (fun start => ask start size) first Word.max64 (first :: others)
        return ClientRange.ofSpan start size

end Asking

/-- Answers with the cost of a window and keeps a record of the windows asked for. -/
def recording (cost : WindowCost) : WindowQuery (StateM (List ClientRange)) :=
  fun first size => do
    modify (· ++ [⟨first, size⟩])
    return cost first size

section Recording

variable {cost : WindowCost}

/-- A question is answered and recorded before anything else happens. -/
theorem run_recording_bind {α : Type} (start size : Nat)
    (next : Nat → StateM (List ClientRange) α) (asked : List ClientRange) :
    (recording cost start size >>= next).run asked =
      (next (cost start size)).run (asked ++ [⟨start, size⟩]) := rfl

/-- The scan that asks ends where the scan over known costs ends, and has asked for every start. -/
theorem run_scanAsking (size best : Nat) (starts : List Nat) (asked : List ClientRange) :
    (scanAsking (fun start => recording cost start size) best (cost best size) starts).run asked =
      (cheapestStart (fun start => cost start size) best starts,
        asked ++ starts.map fun start => ⟨start, size⟩) := by
  induction starts generalizing best asked with
  | nil =>
      rw [List.map_nil, List.append_nil]
      rfl
  | cons start starts inductionHypothesis =>
      rw [cheapestStart, List.map_cons, List.append_cons, scanAsking, run_recording_bind]
      by_cases cheaper : cost start size < cost best size
      · rw [if_pos cheaper, if_pos cheaper]
        exact inductionHypothesis start _
      · rw [if_neg cheaper, if_neg cheaper]
        exact inductionHypothesis best _

/-- The bound that stands for no cost yet makes no difference: the first start becomes the best one,
or already was and costs as much as the bound. -/
theorem run_scanAsking_first (size : Nat) (first : Nat) (others : List Nat)
    (bounded : cost first size ≤ Word.max64) :
    (scanAsking (fun start => recording cost start size) first Word.max64 (first :: others)).run [] =
      (cheapestStart (fun start => cost start size) first others,
        (first :: others).map fun start => ⟨start, size⟩) := by
  have scanned := @run_scanAsking cost size first others [⟨first, size⟩]
  rw [scanAsking, run_recording_bind, List.nil_append]
  by_cases cheaper : cost first size < Word.max64
  · rw [if_pos cheaper]
    exact scanned
  · have dearest : cost first size = Word.max64 :=
      Nat.le_antisymm bounded (Nat.le_of_not_lt cheaper)
    rw [if_neg cheaper, ← dearest]
    exact scanned

end Recording

/-! ### The grown range -/

section Growth

variable {layerCount usablePlanes : Nat} {client : ClientRange} {cost : WindowCost}

/-- Where the client range fits nothing is asked for. -/
theorem run_fitToPlanesAsking_of_fits
    (fits : layerCount - client.size ≤ devicePlanes layerCount usablePlanes) :
    (fitToPlanesAsking layerCount usablePlanes client (recording cost)).run [] = (client, []) := by
  have enough : excessLayers layerCount usablePlanes client = 0 := Nat.sub_eq_zero_of_le fits
  rw [fitToPlanesAsking, if_pos enough]
  rfl

/-- Where it does not fit, the covering windows of the size that leaves no layer without a plane are
looked at upwards; the scan ends on one of them, and each of them is asked for. -/
theorem exists_windows_of_short (inside : client.stop ≤ layerCount)
    (bounded : ∀ first size, cost first size ≤ Word.max64)
    (short : devicePlanes layerCount usablePlanes < layerCount - client.size) {size : Nat}
    (sized : size = layerCount - devicePlanes layerCount usablePlanes) :
    ∃ first others,
      (first :: others).Pairwise (· < ·) ∧
        (∀ start, start ∈ first :: others ↔
          start + size ≤ layerCount ∧ (ClientRange.mk start size).covers client = true) ∧
        fitToPlanes layerCount usablePlanes client cost =
          ⟨cheapestStart (fun start => cost start size) first others, size⟩ ∧
        (fitToPlanesAsking layerCount usablePlanes client (recording cost)).run [] =
          (fitToPlanes layerCount usablePlanes client cost,
            (first :: others).map fun start => ⟨start, size⟩) := by
  have grows : excessLayers layerCount usablePlanes client ≠ 0 := Nat.sub_ne_zero_of_lt short
  have sizeEq : client.size + excessLayers layerCount usablePlanes client = size := by
    rw [excessLayers, sized]
    omega
  have room : client.size + excessLayers layerCount usablePlanes client ≤ layerCount := by
    rw [sizeEq, sized]
    exact Nat.sub_le _ _
  have occupied : 0 < size := by omega
  have windows (start : Nat) := @mem_candidateStarts_iff _ _ start _ inside room
  have upwards := candidateStarts_upwards layerCount
    (excessLayers layerCount usablePlanes client) client
  cases listed : candidateStarts layerCount (excessLayers layerCount usablePlanes client) client with
  | nil => exact absurd listed (candidateStarts_ne_nil inside room)
  | cons first others =>
      rw [listed] at upwards
      simp only [listed, sizeEq] at windows
      have found : fitToPlanes layerCount usablePlanes client cost =
          ClientRange.ofSpan (cheapestStart (fun start => cost start size) first others) size := by
        simp only [fitToPlanes, if_neg grows, listed, sizeEq]
      refine ⟨first, others, upwards, windows, ?_, ?_⟩
      · rw [found, ClientRange.ofSpan_of_pos _ occupied]
      · rw [found]
        simp only [fitToPlanesAsking, if_neg grows, listed, sizeEq, StateT.run_bind,
          run_scanAsking_first _ _ _ (bounded _ _)]
        rfl

/-- Growing for a plane budget is exact under any cost of windows.  A client range that fits stays as
it is, and nothing is asked for.  Otherwise the range takes in as many layers as there are no planes
for; of all windows of that size that lie in the stack and cover the client range it is the lowest of
the cheapest, and the costs asked for are those of all these windows, each once. -/
theorem fitToPlanes_argmin (inside : client.stop ≤ layerCount)
    (bounded : ∀ first size, cost first size ≤ Word.max64) :
    let planes := if usablePlanes < layerCount then usablePlanes - 1 else usablePlanes
    let size := layerCount - planes
    let grown := fitToPlanes layerCount usablePlanes client cost
    let asking := (fitToPlanesAsking layerCount usablePlanes client (recording cost)).run []
    (layerCount - client.size ≤ planes → grown = client ∧ asking = (client, [])) ∧
      (planes < layerCount - client.size →
        (grown.size = size ∧ grown.stop ≤ layerCount ∧ grown.covers client = true) ∧
          (∀ start, start + size ≤ layerCount →
            (ClientRange.mk start size).covers client = true →
              cost grown.start size < cost start size ∨
                cost grown.start size = cost start size ∧ grown.start ≤ start) ∧
          asking.1 = grown ∧ asking.2.Nodup ∧
          ∀ window, window ∈ asking.2 ↔
            window.size = size ∧ window.stop ≤ layerCount ∧ window.covers client = true) := by
  intro planes size grown asking
  refine ⟨?_, ?_⟩
  · intro fits
    exact ⟨fitToPlanes_of_fits usablePlanes cost fits, run_fitToPlanesAsking_of_fits fits⟩
  · intro short
    obtain ⟨first, others, upwards, windows, found, asked⟩ :=
      @exists_windows_of_short layerCount usablePlanes client cost inside bounded short size rfl
    have grownEq : grown = ⟨cheapestStart (fun start => cost start size) first others, size⟩ := found
    have askingEq : asking = (grown, (first :: others).map fun start => ⟨start, size⟩) := asked
    have chosen := (windows _).mp (cheapestStart_mem (fun start => cost start size) first others)
    have beaten := beats_cheapestStart (fun start => cost start size) upwards
    rw [askingEq, grownEq]
    refine ⟨⟨rfl, chosen⟩, ?_, rfl, ?_, ?_⟩
    · intro start within covers
      exact beaten start ((windows start).mpr ⟨within, covers⟩)
    · rw [List.nodup_iff_pairwise_ne, List.pairwise_map]
      exact upwards.imp fun below same => Nat.ne_of_lt below (ClientRange.mk.inj same).1
    · intro window
      rw [List.mem_map]
      constructor
      · rintro ⟨start, member, rfl⟩
        exact ⟨rfl, (windows start).mp member⟩
      · intro ⟨sized, within, covers⟩
        have windowEq : window = ⟨window.start, size⟩ := by rw [← sized]
        rw [windowEq] at within covers
        exact ⟨window.start, (windows window.start).mpr ⟨within, covers⟩, windowEq.symm⟩

/-- Six layers on three planes with layer 3 on the GPU, every window as dear as can be: of the three
windows of four layers that take in layer 3 the lowest one is chosen, after asking for all three. -/
theorem fitToPlanes_argmin_on_equal_costs :
    let cost : WindowCost := fun _ _ => Word.max64
    let asking := (fitToPlanesAsking 6 3 ⟨3, 1⟩ (recording cost)).run []
    fitToPlanes 6 3 ⟨3, 1⟩ cost = ⟨0, 4⟩ ∧ asking = (⟨0, 4⟩, [⟨0, 4⟩, ⟨1, 4⟩, ⟨2, 4⟩]) ∧
      ∀ window, window ∈ asking.2 ↔
        window.size = 4 ∧ window.stop ≤ 6 ∧ window.covers ⟨3, 1⟩ = true := by
  intro cost asking
  have exactly := (@fitToPlanes_argmin 6 3 ⟨3, 1⟩ cost (by decide) fun _ _ => Nat.le_refl _).2
    (by decide)
  exact ⟨by decide, rfl, exactly.2.2.2.2⟩

end Growth

end Scanout
