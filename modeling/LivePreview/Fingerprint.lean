import LivePreview.Text.Utf16

/-!
# Content fingerprints

A fingerprint is a signed 32-bit polynomial hash over the UTF-16 code units of a text: each unit
takes the sum `h` to `(h << 5) - h + u`, that is `31 h + u`, with every step wrapping. It detects
changes cheaply and is not cryptographic.

## Main definitions

* `LivePreview.Fingerprint`: a signed 32-bit number.
* `LivePreview.Fingerprint.ofText`: the fingerprint of a text.
* `LivePreview.Fingerprint.ofParts`: the fingerprint of several texts read one after another.

## Main results

* `LivePreview.Fingerprint.accumulate_append`: reading a text in two parts changes nothing.
-/

namespace LivePreview

/-- A signed 32-bit content fingerprint. -/
structure Fingerprint where
  /-- The hash value. -/
  value : Int32
deriving DecidableEq, Repr

namespace Fingerprint

/-- The sum after one more code unit. -/
def step (h : Int32) (unit : UInt16) : Int32 :=
  (h <<< 5) - h + Int32.ofNat unit.toNat

/-- The sum after the code units of a text, from a given sum. -/
def accumulate (seed : Int32) (text : String) : Int32 :=
  (Text.units16 text.toList).foldl step seed

/-- The fingerprint of the empty text. -/
def zero : Fingerprint := ⟨0⟩

/-- The fingerprint of a text. -/
def ofText (text : String) : Fingerprint := ⟨accumulate 0 text⟩

/-- The fingerprint of several texts, as if they were written one after another. -/
def ofParts (parts : List String) : Fingerprint := ⟨parts.foldl accumulate 0⟩

/-- The decimal text of the hash value. -/
def toText (fp : Fingerprint) : String := toString fp.value.toInt

theorem accumulate_append (seed : Int32) (s t : String) :
    accumulate seed (s ++ t) = accumulate (accumulate seed s) t := by
  simp [accumulate]

@[simp] theorem ofText_empty : ofText "" = zero := rfl

end Fingerprint

end LivePreview
