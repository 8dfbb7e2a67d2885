import LivePreview.Fingerprint
import LivePreview.Proofs.Text.Utf16
import Mathlib.Algebra.BigOperators.Fin
import Mathlib.Data.Int.ModEq
import Mathlib.Tactic.Ring

/-!
# Fingerprints as polynomials

Each step of a fingerprint shifts, subtracts and adds with wrapping. In exact arithmetic it takes a
sum `h` to `31 h + u`, up to a multiple of `2 ^ 32`. So the fingerprint of a text with the code
units `u₁, …, uₙ` is the sum of all `uᵢ * 31 ^ (n - i)`, wrapped once at the end.

## Main definitions

* `LivePreview.Fingerprint.polynomial`: the sum over the code units in exact arithmetic.
* `LivePreview.Fingerprint.IsWrapped`: the signed 32-bit number that an integer wraps to.

## Main results

* `LivePreview.Fingerprint.step_modEq`: one step in exact arithmetic.
* `LivePreview.Fingerprint.step_left_inj`, `LivePreview.Fingerprint.step_right_inj`: one step loses
  nothing.
* `LivePreview.Fingerprint.foldl_step_modEq`: any number of steps.
* `LivePreview.Fingerprint.wrapped_polynomial`: the fingerprint of a text, of several texts, and of
  two texts written one after the other.
-/

namespace LivePreview.Fingerprint

variable {h h' : Int32} {u v : UInt16} {units : List UInt16}

/-! ### One step -/

theorem shiftLeft_five (h : Int32) : h <<< 5 = 32 * h := by
  refine Int32.toBitVec.inj ?_
  rw [Int32.toBitVec_shiftLeft, Int32.toBitVec_mul, BitVec.mul_comm]
  exact BitVec.shiftLeft_eq_mul_twoPow h.toBitVec 5

theorem step_eq (h : Int32) (u : UInt16) : step h u = 31 * h + Int32.ofNat u.toNat := by
  have hsum : 32 * h = 31 * h + h := by
    rw [show (32 : Int32) = 31 + 1 from rfl, Int32.add_mul, Int32.one_mul]
  rw [step, shiftLeft_five, hsum, Int32.add_sub_cancel]

/-- One step in exact arithmetic. -/
theorem step_modEq (h : Int32) (u : UInt16) :
    (step h u).toInt ≡ 31 * h.toInt + u.toNat [ZMOD 2 ^ 32] := by
  have hwraps : (step h u).toInt = (31 * h.toInt + u.toNat).bmod (2 ^ 32) := by
    rw [step_eq, Int32.toInt_add, Int32.toInt_mul]
    simp
  rw [hwraps]
  exact Int.bmod_emod

/-- As 31 is odd, different sums stay different in a step. -/
theorem step_left_inj (heq : step h u = step h' u) : h = h' := by
  have hmod : 31 * h.toInt + u.toNat ≡ 31 * h'.toInt + u.toNat [ZMOD 2 ^ 32] :=
    (step_modEq h u).symm.trans (heq ▸ step_modEq h' u)
  have hcancel : h.toInt ≡ h'.toInt [ZMOD 2 ^ 32] := by
    have hgcd : (2 ^ 32 : ℤ) / Int.gcd (2 ^ 32) 31 = 2 ^ 32 := rfl
    exact hgcd ▸ Int.ModEq.cancel_left_div_gcd (by decide) (hmod.add_right_cancel' _)
  obtain ⟨k, hk⟩ := hcancel.dvd
  have hle := h.le_toInt
  have hlt := h.toInt_lt
  have hle' := h'.le_toInt
  have hlt' := h'.toInt_lt
  exact Int32.toInt.inj (by omega)

/-- Different code units take a sum to different ones. -/
theorem step_right_inj (heq : step h u = step h v) : u = v := by
  have hmod : 31 * h.toInt + u.toNat ≡ 31 * h.toInt + v.toNat [ZMOD 2 ^ 32] :=
    (step_modEq h u).symm.trans (heq ▸ step_modEq h v)
  obtain ⟨k, hk⟩ := hmod.dvd
  have hu := u.toNat_lt
  have hv := v.toNat_lt
  exact UInt16.toNat.inj (by omega)

/-! ### A sum of powers -/

/-- The sum of the terms `uᵢ * 31 ^ (n - i)` of the code units `u₁, …, uₙ`. -/
def polynomial (units : List UInt16) : ℤ :=
  ∑ i : Fin units.length, (units[i].toNat : ℤ) * 31 ^ (units.length - 1 - i)

theorem polynomial_cons (u : UInt16) (units : List UInt16) :
    polynomial (u :: units) = u.toNat * 31 ^ units.length + polynomial units := by
  rw [polynomial, polynomial]
  simp only [List.length_cons, Fin.sum_univ_succ]
  simp [Nat.sub_sub, Nat.add_comm]

/-- Any number of steps in exact arithmetic: the sum at the start counts as a code unit in front. -/
theorem foldl_step_modEq (units : List UInt16) (h : Int32) :
    (units.foldl step h).toInt ≡ h.toInt * 31 ^ units.length + polynomial units [ZMOD 2 ^ 32] := by
  induction units generalizing h with
  | nil => simp [polynomial]
  | cons u units ih =>
    calc (units.foldl step (step h u)).toInt
        ≡ (step h u).toInt * 31 ^ units.length + polynomial units [ZMOD 2 ^ 32] := ih (step h u)
      _ ≡ (31 * h.toInt + u.toNat) * 31 ^ units.length + polynomial units [ZMOD 2 ^ 32] :=
          ((step_modEq h u).mul_right _).add_right _
      _ = h.toInt * 31 ^ (u :: units).length + polynomial (u :: units) := by
          rw [polynomial_cons, List.length_cons]
          ring

/-! ### Texts and parts of texts -/

/-- The signed 32-bit number that an integer wraps to: the one that is congruent to it modulo
`2 ^ 32`. -/
def IsWrapped (value : Int32) (n : ℤ) : Prop :=
  -2 ^ 31 ≤ value.toInt ∧ value.toInt < 2 ^ 31 ∧ value.toInt ≡ n [ZMOD 2 ^ 32]

theorem isWrapped_of_modEq {n : ℤ} (heq : h.toInt ≡ n [ZMOD 2 ^ 32]) : IsWrapped h n :=
  ⟨h.le_toInt, h.toInt_lt, heq⟩

theorem foldl_accumulate (seed : Int32) (parts : List String) :
    parts.foldl accumulate seed = accumulate seed (String.join parts) := by
  induction parts generalizing seed with
  | nil => simp [accumulate, Text.units16]
  | cons part parts ih => rw [List.foldl_cons, ih, String.join_cons, accumulate_append]

theorem ofParts_eq_ofText (parts : List String) : ofParts parts = ofText (String.join parts) := by
  rw [ofParts, ofText, foldl_accumulate]

theorem value_ofText_modEq (text : String) :
    (ofText text).value.toInt ≡ polynomial (Text.units16 text.toList) [ZMOD 2 ^ 32] := by
  simpa [ofText, accumulate] using foldl_step_modEq (Text.units16 text.toList) 0

/-- A text behind another one takes the fingerprint of the first on by its own length. -/
theorem value_ofText_append_modEq (a b : String) : (ofText (a ++ b)).value.toInt ≡
    (ofText a).value.toInt * 31 ^ (Text.units16 b.toList).length + (ofText b).value.toInt
      [ZMOD 2 ^ 32] := by
  rw [ofText, accumulate_append]
  exact (foldl_step_modEq _ _).trans ((value_ofText_modEq b).symm.add_left _)

/-- The fingerprint of a text is the signed 32-bit number that the sum of all `uᵢ * 31 ^ (n - i)`
wraps to, where `u₁, …, uₙ` are the code units of the text in UTF-16. Several texts have the
fingerprint of the text that they make up, however it is divided into them. That of two texts is
what the fingerprint of the first, times 31 to the number of code units of the second, and the
fingerprint of the second add up to, wrapped. -/
theorem wrapped_polynomial :
    (∀ text : String, Text.IsUtf16 text.toList (Text.units16 text.toList) ∧
      IsWrapped (ofText text).value (polynomial (Text.units16 text.toList))) ∧
    (∀ parts : List String, ofParts parts = ofText (String.join parts)) ∧
    (∀ parts parts' : List String, String.join parts = String.join parts' →
      ofParts parts = ofParts parts') ∧
    ∀ a b : String, IsWrapped (ofText (a ++ b)).value
      ((ofText a).value.toInt * 31 ^ (Text.units16 b.toList).length + (ofText b).value.toInt) := by
  refine ⟨fun text => ⟨Text.isUtf16_units16 _, isWrapped_of_modEq (value_ofText_modEq text)⟩,
    ofParts_eq_ofText, fun parts parts' h => ?_,
    fun a b => isWrapped_of_modEq (value_ofText_append_modEq a b)⟩
  rw [ofParts_eq_ofText, ofParts_eq_ofText, h]

/-- Two divisions of a text with a surrogate pair. -/
theorem wrapped_polynomial_pair :
    String.join ["a", "😀b"] = String.join ["a😀", "", "b"] ∧
      ofParts ["a", "😀b"] = ofParts ["a😀", "", "b"] := by
  have hjoin : String.join ["a", "😀b"] = String.join ["a😀", "", "b"] := by decide
  exact ⟨hjoin, wrapped_polynomial.2.2.1 _ _ hjoin⟩

end LivePreview.Fingerprint
