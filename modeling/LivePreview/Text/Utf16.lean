/-!
# UTF-16 code units

A text as the sequence of its UTF-16 code units: one unit for a character below U+10000, a
surrogate pair above.

## Main definitions

* `LivePreview.Text.units16`: the code units of a text.
-/

namespace LivePreview.Text

/-- The UTF-16 code units of one character. -/
def charUnits16 (c : Char) : List UInt16 :=
  if c.toNat < 0x10000 then [c.toNat.toUInt16]
  else
    let n := c.toNat - 0x10000
    [(0xD800 + n / 0x400).toUInt16, (0xDC00 + n % 0x400).toUInt16]

/-- The UTF-16 code units of a text. -/
def units16 (s : List Char) : List UInt16 :=
  s.flatMap charUnits16

@[simp] theorem units16_append (s t : List Char) : units16 (s ++ t) = units16 s ++ units16 t := by
  simp [units16]

end LivePreview.Text
