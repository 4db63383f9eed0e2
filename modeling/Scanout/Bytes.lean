/-
Module: Scanout.Bytes
Purpose: Little-endian words over byte lists.
Main exports: Bytes.ofNat, Bytes.read, Bytes.ofFlag
-/

namespace Scanout.Bytes

/-!
A word of `width` bytes is written least significant byte first.  Reading takes exactly the bytes
that writing produced and leaves the rest alone, so words can be laid end to end.
-/

/-- The `width` low-order bytes of `n`, least significant first. -/
def ofNat : (width : Nat) → (n : Nat) → List UInt8
  | 0, _ => []
  | width + 1, n => UInt8.ofNat (n % 256) :: ofNat width (n / 256)

/-- Read a word of `width` bytes and return it with the bytes after it. -/
def read : (width : Nat) → List UInt8 → Option (Nat × List UInt8)
  | 0, bytes => some (0, bytes)
  | _ + 1, [] => none
  | width + 1, byte :: bytes =>
      match read width bytes with
      | none => none
      | some (high, rest) => some (byte.toNat + 256 * high, rest)

/-- A truth value as one byte. -/
def ofFlag (flag : Bool) : UInt8 := if flag then 1 else 0

@[simp] theorem length_ofNat (width n : Nat) : (ofNat width n).length = width := by
  induction width generalizing n with
  | zero => rfl
  | succ width inductionHypothesis => simp [ofNat, inductionHypothesis]

/-- Reading back a written word gives the word and leaves what follows. -/
theorem read_ofNat_append (width : Nat) {n : Nat} (fits : n < Nat.pow 256 width)
    (rest : List UInt8) : read width (ofNat width n ++ rest) = some (n, rest) := by
  induction width generalizing n with
  | zero =>
      have zero : n = 0 := by simpa using fits
      simp [ofNat, read, zero]
  | succ width inductionHypothesis =>
      have high : n / 256 < Nat.pow 256 width := by
        rw [Nat.div_lt_iff_lt_mul (by decide)]
        simpa [Nat.pow_succ] using fits
      have low : n % 256 < 256 := Nat.mod_lt _ (by decide)
      simp only [ofNat, List.cons_append, read, inductionHypothesis high]
      have byte : (UInt8.ofNat (n % 256)).toNat = n % 256 := by
        simp
      simp only [byte, Option.some.injEq, Prod.mk.injEq, and_true]
      omega

/-- A successful read consumes exactly its width. -/
theorem length_of_read {width : Nat} {bytes rest : List UInt8} {n : Nat}
    (success : read width bytes = some (n, rest)) : bytes.length = width + rest.length := by
  induction width generalizing bytes n rest with
  | zero =>
      simp only [read, Option.some.injEq, Prod.mk.injEq] at success
      simp [success.2]
  | succ width inductionHypothesis =>
      cases bytes with
      | nil => simp [read] at success
      | cons byte bytes =>
          simp only [read] at success
          cases tail : read width bytes with
          | none => simp [tail] at success
          | some pair =>
              obtain ⟨high, after⟩ := pair
              simp only [tail, Option.some.injEq, Prod.mk.injEq] at success
              have shorter := inductionHypothesis tail
              simp only [List.length_cons, shorter, ← success.2]
              omega

end Scanout.Bytes
