/-
Module: Scanout.Proofs.Flattening.Absorption
Purpose: Absorbing bytes into a signature loses nothing at once: any bytes keep different states
  different, and up to four bytes can be told from any others by the state they lead to.
Imports: Mathlib.Algebra.Group.Int.Defs, Mathlib.Algebra.Group.Nat.Defs,
  Scanout.Flattening.Signature
Main exports: Signature.absorbAll_left_inj, Signature.Apart.absorbAll,
  Signature.coefficients_eq_zero, Signature.eq_of_absorbAll_eq
-/
import Mathlib.Algebra.Group.Int.Defs
import Mathlib.Algebra.Group.Nat.Defs
import Scanout.Flattening.Signature

namespace Scanout.Signature

/-! ### Different states stay different -/

/-- What undoes the multiplication of a step; there is such a number because the multiplier is
odd. -/
def inverse : UInt64 := 0xce965057aff6957b

theorem multiplier_mul_inverse : multiplier * inverse = 1 := by decide

theorem mul_multiplier_inj {state other : UInt64} :
    state * multiplier = other * multiplier ↔ state = other := by
  constructor
  · intro same
    calc state = state * multiplier * inverse := by
          rw [UInt64.mul_assoc, multiplier_mul_inverse, UInt64.mul_one]
      _ = other * multiplier * inverse := by rw [same]
      _ = other := by rw [UInt64.mul_assoc, multiplier_mul_inverse, UInt64.mul_one]
  · exact congrArg (· * multiplier)

/-- A step with a given byte is one-to-one in the state. -/
theorem absorb_left_inj {state other : UInt64} {byte : UInt8} :
    absorb state byte = absorb other byte ↔ state = other := by
  rw [absorb, absorb, mul_multiplier_inj, UInt64.xor_left_inj]

/-- So are any number of steps with given bytes. -/
theorem absorbAll_left_inj {state other : UInt64} (bytes : List UInt8) :
    absorbAll state bytes = absorbAll other bytes ↔ state = other := by
  induction bytes generalizing state other with
  | nil => exact Iff.rfl
  | cons byte bytes inductionHypothesis =>
      exact Iff.trans inductionHypothesis absorb_left_inj

/-! ### The distance between two states

Two runs over different bytes are followed side by side.  A byte changes the low eight bits of a
state only, so each step moves the two states apart by a small number and then multiplies their
distance.  The distance after some steps is a polynomial in the multiplier with these small numbers
as its coefficients.
-/

/-- How far a byte moves a state before the multiplication. -/
def push (state : UInt64) (byte : UInt8) : Int :=
  ((state ^^^ byte.toUInt64).toNat : Int) - state.toNat

/-- A byte changes the low eight bits only. -/
theorem toNat_xor_byte (state : UInt64) (byte : UInt8) :
    (state ^^^ byte.toUInt64).toNat =
      256 * (state.toNat / 256) + (state.toNat % 256 ^^^ byte.toNat) := by
  have small : byte.toNat < 2 ^ 8 := byte.toNat_lt
  have high : (state.toNat ^^^ byte.toNat) / 2 ^ 8 = state.toNat / 2 ^ 8 := by
    rw [Nat.xor_div_two_pow, Nat.div_eq_of_lt small, Nat.xor_zero]
  have low : (state.toNat ^^^ byte.toNat) % 2 ^ 8 = state.toNat % 2 ^ 8 ^^^ byte.toNat := by
    rw [Nat.xor_mod_two_pow, Nat.mod_eq_of_lt small]
  rw [UInt64.toNat_xor, UInt8.toNat_toUInt64]
  calc state.toNat ^^^ byte.toNat
      = 2 ^ 8 * ((state.toNat ^^^ byte.toNat) / 2 ^ 8) + (state.toNat ^^^ byte.toNat) % 2 ^ 8 :=
        (Nat.div_add_mod _ _).symm
    _ = 2 ^ 8 * (state.toNat / 2 ^ 8) + (state.toNat % 2 ^ 8 ^^^ byte.toNat) := by rw [high, low]
    _ = 256 * (state.toNat / 256) + (state.toNat % 256 ^^^ byte.toNat) := rfl

theorem push_bounds (state : UInt64) (byte : UInt8) :
    -255 ≤ push state byte ∧ push state byte ≤ 255 := by
  have low : state.toNat % 256 ^^^ byte.toNat < 2 ^ 8 :=
    Nat.xor_lt_two_pow (Nat.mod_lt _ (by decide)) byte.toNat_lt
  rw [push, toNat_xor_byte]
  omega

/-- From a common state different bytes push differently far. -/
theorem eq_of_push_eq {state : UInt64} {byte other : UInt8}
    (same : push state byte = push state other) : byte = other := by
  rw [push, push] at same
  have sameNumber : (state ^^^ byte.toUInt64).toNat = (state ^^^ other.toUInt64).toNat := by omega
  rw [UInt64.toNat_inj, UInt64.xor_right_inj] at sameNumber
  exact UInt8.toUInt64_inj.mp sameNumber

/-- The multiplier as an integer. -/
def factor : Int := 1099511628211

/-- The first state is the second one moved by some distance, modulo `2 ^ 64`. -/
def Apart (distance : Int) (state other : UInt64) : Prop :=
  (2 : Int) ^ 64 ∣ state.toNat - other.toNat - distance

theorem Apart.refl (state : UInt64) : Apart 0 state state := by
  simp [Apart]

/-- What one step does to the distance of two states. -/
theorem Apart.absorb {distance : Int} {state other : UInt64}
    (apart : Apart distance state other) (byte next : UInt8) :
    Apart ((distance + (push state byte - push other next)) * factor)
      (Signature.absorb state byte) (Signature.absorb other next) := by
  obtain ⟨wraps, apart⟩ := apart
  simp only [Apart, Signature.absorb, UInt64.toNat_mul, push, factor]
  have multiplierEq : multiplier.toNat = 1099511628211 := rfl
  rw [multiplierEq]
  omega

/-- The small numbers by which the steps of two runs move the states apart. -/
def drifts : (state other : UInt64) → (bytes others : List UInt8) → List Int
  | state, other, byte :: bytes, next :: others =>
      (push state byte - push other next) ::
        drifts (absorb state byte) (absorb other next) bytes others
  | _, _, _, _ => []

/-- The distance of two states after steps that move them apart by some numbers. -/
def carry (distance : Int) (numbers : List Int) : Int :=
  numbers.foldl (fun distance number => (distance + number) * factor) distance

/-- What some steps do to the distance of two states. -/
theorem Apart.absorbAll {distance : Int} {state other : UInt64} {bytes others : List UInt8}
    (apart : Apart distance state other) (sameLength : bytes.length = others.length) :
    Apart (carry distance (drifts state other bytes others))
      (Signature.absorbAll state bytes) (Signature.absorbAll other others) := by
  induction bytes generalizing distance state other others with
  | nil =>
      cases others with
      | nil => exact apart
      | cons next others => cases sameLength
  | cons byte bytes inductionHypothesis =>
      cases others with
      | nil => cases sameLength
      | cons next others =>
          exact inductionHypothesis (apart.absorb byte next) (Nat.succ.inj sameLength)

theorem length_drifts {state other : UInt64} {bytes others : List UInt8}
    (sameLength : bytes.length = others.length) :
    (drifts state other bytes others).length = bytes.length := by
  induction bytes generalizing state other others with
  | nil => cases others <;> rfl
  | cons byte bytes inductionHypothesis =>
      cases others with
      | nil => cases sameLength
      | cons next others =>
          exact congrArg (· + 1) (inductionHypothesis (Nat.succ.inj sameLength))

theorem drifts_bounds {state other : UInt64} {bytes others : List UInt8} :
    ∀ number ∈ drifts state other bytes others, -510 ≤ number ∧ number ≤ 510 := by
  induction bytes generalizing state other others with
  | nil => cases others <;> exact fun _ member => nomatch member
  | cons byte bytes inductionHypothesis =>
      cases others with
      | nil => exact fun _ member => nomatch member
      | cons next others =>
          intro number member
          rcases List.mem_cons.mp member with rfl | later
          · have first := push_bounds state byte
            have second := push_bounds other next
            omega
          · exact inductionHypothesis number later

/-- Runs from a common state that never drift apart are over the same bytes. -/
theorem eq_of_drifts_eq_zero {state : UInt64} {bytes others : List UInt8}
    (sameLength : bytes.length = others.length)
    (together : ∀ number ∈ drifts state state bytes others, number = 0) : bytes = others := by
  induction bytes generalizing state others with
  | nil => exact (List.eq_nil_of_length_eq_zero sameLength.symm).symm
  | cons byte bytes inductionHypothesis =>
      cases others with
      | nil => cases sameLength
      | cons next others =>
          have first := together _ List.mem_cons_self
          have sameByte : byte = next := eq_of_push_eq (Int.sub_eq_zero.mp first)
          subst sameByte
          have rest := inductionHypothesis (Nat.succ.inj sameLength) fun number later =>
            together number (List.mem_cons_of_mem _ later)
          rw [rest]

/-! ### Four bytes

The multiplier is `2 ^ 40 + 435`.  In a polynomial of degree three with small coefficients the part
below `2 ^ 40` and the part above it do not meet, so both have to vanish on their own; 435 is large
against one pair of coefficients and small against another.
-/

/-- The multiplier is no root, modulo `2 ^ 64`, of a polynomial of degree three with coefficients of
magnitude at most 510 that are not all zero. -/
theorem coefficients_eq_zero {a b c d : Int} (boundA : -510 ≤ a ∧ a ≤ 510)
    (boundB : -510 ≤ b ∧ b ≤ 510) (boundC : -510 ≤ c ∧ c ≤ 510) (boundD : -510 ≤ d ∧ d ≤ 510)
    (root : (2 : Int) ^ 64 ∣ ((a * factor + b) * factor + c) * factor + d) :
    a = 0 ∧ b = 0 ∧ c = 0 ∧ d = 0 := by
  rw [factor] at root
  have lowPart : 435 ^ 3 * a + 435 ^ 2 * b + 435 * c + d = 0 := by omega
  have highPart : 3 * 435 ^ 2 * a + 2 * 435 * b + c = 0 := by omega
  have first : a = 0 := by omega
  have second : b = 0 := by omega
  omega

/-- The last multiplication of a run can be undone. -/
theorem dvd_of_dvd_mul_factor {distance : Int} (wraps : (2 : Int) ^ 64 ∣ distance * factor) :
    (2 : Int) ^ 64 ∣ distance := by
  have undone : distance * factor * inverse.toNat =
      distance + 2 ^ 64 * (887285111055 * distance) := by
    have inverseEq : inverse.toNat = 14886173955864302971 := rfl
    rw [factor, inverseEq]
    omega
  have scaled : (2 : Int) ^ 64 ∣ distance * factor * inverse.toNat :=
    Int.dvd_mul_of_dvd_left wraps
  rw [undone] at scaled
  exact (Int.dvd_add_left (Int.dvd_mul_right _ _)).mp scaled

/-- Four steps that lead from a common state to a common state are over the same bytes. -/
private theorem eq_of_absorbAll_eq_of_length_eq_four {state : UInt64} {bytes others : List UInt8}
    (four : bytes.length = 4) (sameLength : bytes.length = others.length)
    (same : absorbAll state bytes = absorbAll state others) : bytes = others := by
  have apart := (Apart.refl state).absorbAll sameLength
  rw [same, Apart, Int.sub_self, Int.zero_sub, Int.dvd_neg] at apart
  have bounds := @drifts_bounds state state bytes others
  have together := @eq_of_drifts_eq_zero state bytes others sameLength
  have fourDrifts : (drifts state state bytes others).length = 4 := by
    rw [length_drifts sameLength, four]
  apply together
  generalize drifts state state bytes others = numbers at apart bounds fourDrifts ⊢
  match numbers, fourDrifts with
  | [a, b, c, d], _ =>
      simp only [List.forall_mem_cons, List.not_mem_nil, false_implies, implies_true,
        and_true] at bounds ⊢
      obtain ⟨boundA, boundB, boundC, boundD⟩ := bounds
      simp only [carry, List.foldl_cons, List.foldl_nil, Int.zero_add] at apart
      exact coefficients_eq_zero boundA boundB boundC boundD (dvd_of_dvd_mul_factor apart)

/-- Up to four bytes absorbed into a common state are determined by where they lead: shorter runs
are made up to four steps by the same further bytes. -/
theorem eq_of_absorbAll_eq {state : UInt64} {bytes others : List UInt8}
    (short : bytes.length ≤ 4) (sameLength : bytes.length = others.length)
    (same : absorbAll state bytes = absorbAll state others) : bytes = others := by
  let further := List.replicate (4 - bytes.length) (0 : UInt8)
  have sameAfter : absorbAll state (bytes ++ further) = absorbAll state (others ++ further) := by
    rw [absorbAll_append, absorbAll_append, same]
  have padded : bytes ++ further = others ++ further := by
    apply eq_of_absorbAll_eq_of_length_eq_four _ _ sameAfter
    · rw [List.length_append, List.length_replicate]
      exact Nat.add_sub_cancel' short
    · rw [List.length_append, List.length_append, sameLength]
  exact List.append_cancel_right padded

end Scanout.Signature
