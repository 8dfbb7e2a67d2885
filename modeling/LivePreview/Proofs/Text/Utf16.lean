import LivePreview.Text.Utf16
import Mathlib.Tactic.Common

/-!
# Characters and their code units

The code units of a text are what the UTF-16 encoding form lays down: a character below U+10000 is
its own unit, and any other one is a pair of surrogates that it can be computed from.

## Main definitions

* `LivePreview.Text.IsUtf16`: the code units of a text by the encoding form.
* `LivePreview.Text.UnitApart`: characters with the same code units but for one.

## Main results

* `LivePreview.Text.isUtf16_units16`: the code units of a text are the ones of the encoding form.
* `LivePreview.Text.unitApart_of_ne`: different characters below U+10000 differ in one unit.
-/

namespace LivePreview.Text

variable {c d : Char} {s : List Char} {units : List UInt16}

/-! ### The encoding form -/

/-- The code units of a text by the encoding form UTF-16. -/
inductive IsUtf16 : List Char → List UInt16 → Prop
  | nil : IsUtf16 [] []
  | unit {c : Char} {s : List Char} {u : UInt16} {units : List UInt16} (hu : u.toNat = c.toNat)
      (h : IsUtf16 s units) : IsUtf16 (c :: s) (u :: units)
  | pair {c : Char} {s : List Char} {high low : UInt16} {units : List UInt16}
      (hhigh : 0xD800 ≤ high.toNat ∧ high.toNat < 0xDC00)
      (hlow : 0xDC00 ≤ low.toNat ∧ low.toNat < 0xE000)
      (hc : c.toNat = 0x10000 + (high.toNat - 0xD800) * 0x400 + (low.toNat - 0xDC00))
      (h : IsUtf16 s units) : IsUtf16 (c :: s) (high :: low :: units)

theorem toNat_lt (c : Char) : c.toNat < 0x110000 := by
  rcases c.valid with h | h <;> simp only [Char.toNat, UInt32.toNat] at * <;> omega

theorem charUnits16_of_lt (h : c.toNat < 0x10000) : charUnits16 c = [c.toNat.toUInt16] :=
  if_pos h

theorem units16_cons (c : Char) (s : List Char) : units16 (c :: s) = charUnits16 c ++ units16 s :=
  List.flatMap_cons

/-- The code units of a text are the ones of the encoding form. -/
theorem isUtf16_units16 : (s : List Char) → IsUtf16 s (units16 s)
  | [] => .nil
  | c :: s => by
      have hrest := isUtf16_units16 s
      have hc := toNat_lt c
      rw [units16_cons, charUnits16]
      split
      · refine .unit ?_ hrest
        simp only [Nat.toUInt16_eq, UInt16.toNat_ofNat']
        omega
      · refine .pair ?_ ?_ ?_ hrest <;> simp only [Nat.toUInt16_eq, UInt16.toNat_ofNat'] <;> omega

/-! ### Characters that differ in one unit -/

/-- The code units of two characters are the same but for one. -/
def UnitApart (c d : Char) : Prop :=
  ∃ before u v after, u ≠ v ∧ charUnits16 c = before ++ u :: after ∧
    charUnits16 d = before ++ v :: after

/-- Different characters below U+10000 differ in their only unit. -/
theorem unitApart_of_ne (h : c ≠ d) (hc : c.toNat < 0x10000) (hd : d.toNat < 0x10000) :
    UnitApart c d := by
  refine ⟨[], c.toNat.toUInt16, d.toNat.toUInt16, [], fun heq => h ?_, charUnits16_of_lt hc,
    charUnits16_of_lt hd⟩
  have hnat : c.toNat = d.toNat := by
    have := congrArg UInt16.toNat heq
    simp only [Nat.toUInt16_eq, UInt16.toNat_ofNat'] at this
    omega
  exact Char.toNat_inj.1 hnat

end LivePreview.Text
