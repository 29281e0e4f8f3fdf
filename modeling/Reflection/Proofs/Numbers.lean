import Mathlib.Algebra.Order.Field.Rat
import Mathlib.Algebra.Order.Field.Power
import Mathlib.Tactic.Linarith
import Reflection.Value.Basic
/-!
# Numbers that bits stand for

The bits of a floating-point number stand for a rational number, for an infinity, or for no number at all
(`BinaryNumber.value?`). Apart from the sign of zero a number has one representation
(`BinaryFormat.eq_of_fits`), so comparing representations compares numbers: two floating-point numbers are
equal if and only if both stand for the same number (`BinaryFormat.equal_decode_iff`).
-/

namespace Reflection

/-- The number itself: a rational number, or an infinity by its sign. -/
def BinaryNumber.value? : BinaryNumber → Option (ℚ ⊕ Bool)
  | .nan => none
  | .infinite negative => some (.inr negative)
  | .finite negative m q _ => some (.inl ((if negative then -1 else 1) * m * 2 ^ q))

namespace BinaryFormat

/-- What a finite number of the format is made of. Only at the least exponent the leading digit may be zero. -/
structure Fits (f : BinaryFormat) (m : Nat) (q : Int) : Prop where
  lt : m < 2 * f.fractions
  lowest_le : f.lowest ≤ q
  eq_lowest : m < f.fractions → q = f.lowest

variable {f : BinaryFormat} {bits m m' : Nat} {q q' : Int}

theorem fractions_pos (f : BinaryFormat) : 0 < f.fractions := Nat.pow_pos (by omega)

/-- Where the numbers below lie closer than those above can be told from the number itself. -/
theorem fits_of_decode {negative stepDown : Bool} (h : f.decode bits = .finite negative m q stepDown) :
    f.Fits m q ∧ stepDown = decide (m = f.fractions ∧ f.lowest < q) := by
  have hfraction : bits % f.fractions < f.fractions := Nat.mod_lt _ f.fractions_pos
  unfold decode at h
  simp only at h
  split at h
  · split at h <;> cases h
  · split at h
    · cases h
      refine ⟨⟨by omega, le_rfl, fun _ => rfl⟩, ?_⟩
      simp
    · rename_i hexponent
      have hexponent : bits / f.fractions % f.exponents ≠ 0 := by simpa using hexponent
      cases h
      refine ⟨⟨by omega, by omega, fun hlt => by omega⟩, ?_⟩
      rw [Bool.eq_iff_iff]
      simp only [Bool.and_eq_true, beq_iff_eq, decide_eq_true_eq]
      omega

/-- A greater exponent has a leading digit, which a lesser one has no room for. -/
theorem eq_of_fits_of_le (h : f.Fits m q) (h' : f.Fits m' q') (hle : q ≤ q')
    (hvalue : (m : ℚ) * 2 ^ q = m' * 2 ^ q') : m = m' ∧ q = q' := by
  obtain ⟨k, rfl⟩ := Int.le.dest hle
  have hscaled : (m : ℚ) = m' * 2 ^ k := by
    rw [zpow_add₀ two_ne_zero, zpow_natCast, mul_comm ((2 : ℚ) ^ q), ← mul_assoc] at hvalue
    exact mul_right_cancel₀ (zpow_ne_zero q two_ne_zero) hvalue
  have hm : m = m' * 2 ^ k := by exact_mod_cast hscaled
  cases k with
  | zero => exact ⟨by simpa using hm, by simp⟩
  | succ k =>
    have hleading : f.fractions ≤ m' := by
      by_contra hlt
      have hq := h'.eq_lowest (Nat.lt_of_not_le hlt)
      have hlowest := h.lowest_le
      omega
    have hpow : 0 < 2 ^ k := Nat.two_pow_pos k
    have hlt := h.lt
    have hscale : f.fractions * 1 ≤ m' * 2 ^ k := Nat.mul_le_mul hleading hpow
    rw [hm, pow_succ, ← mul_assoc] at hlt
    omega

theorem eq_of_fits (h : f.Fits m q) (h' : f.Fits m' q') (hvalue : (m : ℚ) * 2 ^ q = m' * 2 ^ q') :
    m = m' ∧ q = q' := by
  rcases le_total q q' with hle | hle
  · exact eq_of_fits_of_le h h' hle hvalue
  · obtain ⟨hm, hq⟩ := eq_of_fits_of_le h' h hle hvalue.symm
    exact ⟨hm.symm, hq.symm⟩

/-- Numbers that are equal with some signs have equal magnitudes. -/
theorem abs_eq_of_signed {negative negative' : Bool}
    (h : (if negative then -1 else 1) * ((m : ℚ) * 2 ^ q) = (if negative' then -1 else 1) * ((m' : ℚ) * 2 ^ q')) :
    (m : ℚ) * 2 ^ q = m' * 2 ^ q' := by
  have habs := congrArg abs h
  have hsign : ∀ negative : Bool, |(if negative then -1 else 1 : ℚ)| = 1 := by
    intro negative
    cases negative <;> simp
  have hmagnitude : ∀ (n : Nat) (k : Int), |(n : ℚ) * 2 ^ k| = n * 2 ^ k := fun n k => abs_of_nonneg (by positivity)
  rwa [abs_mul (ite _ _ _), hsign, one_mul, abs_mul (ite _ _ _), hsign, one_mul, hmagnitude, hmagnitude] at habs

/-- A number but zero has one sign. -/
theorem eq_of_signed {negative negative' : Bool} {x : ℚ} (hx : x ≠ 0)
    (h : (if negative then -1 else 1) * x = (if negative' then -1 else 1) * x) : negative = negative' := by
  have hsign := mul_right_cancel₀ hx h
  cases negative <;> cases negative' <;> first | rfl | norm_num at hsign

/-- Floating-point numbers are equal if both stand for the same number. -/
theorem equal_decode_iff (f : BinaryFormat) (a b : Nat) :
    (f.decode a).equal (f.decode b) = true ↔ ∃ r, (f.decode a).value? = some r ∧ (f.decode b).value? = some r := by
  cases ha : f.decode a with
  | nan => simp [BinaryNumber.equal, BinaryNumber.value?]
  | infinite negative =>
    cases f.decode b with
    | nan => simp [BinaryNumber.equal, BinaryNumber.value?]
    | infinite negative' => cases negative <;> cases negative' <;> simp [BinaryNumber.equal, BinaryNumber.value?]
    | finite negative' m' q' stepDown' => simp [BinaryNumber.equal, BinaryNumber.value?]
  | finite negative m q stepDown =>
    cases hb : f.decode b with
    | nan => simp [BinaryNumber.equal, BinaryNumber.value?]
    | infinite negative' => simp [BinaryNumber.equal, BinaryNumber.value?]
    | finite negative' m' q' stepDown' =>
      obtain ⟨hfits, rfl⟩ := fits_of_decode ha
      obtain ⟨hfits', rfl⟩ := fits_of_decode hb
      simp only [BinaryNumber.equal, BinaryNumber.value?, Option.some.injEq, exists_eq_left', Sum.inl.injEq,
        Bool.or_eq_true, Bool.and_eq_true, beq_iff_eq]
      constructor
      · rintro (⟨rfl, rfl⟩ | ⟨⟨⟨rfl, rfl⟩, rfl⟩, -⟩)
        · simp
        · rfl
      · intro hvalue
        rw [mul_assoc, mul_assoc, eq_comm] at hvalue
        obtain ⟨rfl, rfl⟩ := eq_of_fits hfits hfits' (abs_eq_of_signed hvalue)
        by_cases hm : m = 0
        · exact .inl ⟨hm, hm⟩
        · have hne : (m : ℚ) * 2 ^ q ≠ 0 := mul_ne_zero (Nat.cast_ne_zero.2 hm) (zpow_ne_zero q two_ne_zero)
          exact .inr ⟨⟨⟨eq_of_signed hne hvalue, rfl⟩, rfl⟩, rfl⟩

end BinaryFormat

end Reflection
