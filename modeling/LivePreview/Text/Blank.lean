/-!
# Blank characters

The blank characters of a text are those with the Unicode property `White_Space`. Trimming, blank
names and the blanks between the parts of a recognised phrase all refer to this one class.

## Main definitions

* `LivePreview.Text.isBlank`: the class.
* `LivePreview.Text.trim`: a text without its leading and trailing blanks.
* `LivePreview.Text.isBlankText`: texts that hold nothing but blanks.

## Main results

* `LivePreview.Text.isBlank_of_isWhitespace`: the ASCII blanks of the core library are blank.
* `LivePreview.Text.trim_eq_nil_iff`: trimming leaves nothing exactly of a blank text.
-/

namespace LivePreview.Text

/-- A character with the Unicode property `White_Space`. -/
def isBlank (c : Char) : Bool :=
  let n := c.toNat
  (9 ≤ n && n ≤ 13) || n == 0x20 || n == 0x85 || n == 0xA0 || n == 0x1680 ||
    (0x2000 ≤ n && n ≤ 0x200A) || n == 0x2028 || n == 0x2029 || n == 0x202F || n == 0x205F ||
    n == 0x3000

theorem isBlank_of_isWhitespace {c : Char} (h : c.isWhitespace = true) : isBlank c = true := by
  simp only [Char.isWhitespace, Bool.or_eq_true, decide_eq_true_eq] at h
  rcases h with ((rfl | rfl) | rfl) | rfl <;> rfl

/-- The text without its trailing blanks. -/
def trimEnd (s : List Char) : List Char :=
  (s.reverse.dropWhile isBlank).reverse

/-- The text without its leading and trailing blanks. -/
def trim (s : List Char) : List Char :=
  trimEnd (s.dropWhile isBlank)

/-- A text that holds nothing but blanks, such as the empty text. -/
def isBlankText (s : String) : Bool :=
  s.toList.all isBlank

private theorem dropWhile_eq_nil_iff_all (p : Char → Bool) :
    (s : List Char) → s.dropWhile p = [] ↔ s.all p = true
  | [] => by simp
  | c :: s => by
      by_cases h : p c = true
      · simp [h, dropWhile_eq_nil_iff_all p s]
      · simp [h]

theorem trim_eq_nil_iff (s : List Char) : trim s = [] ↔ s.all isBlank = true := by
  rw [trim, trimEnd, List.reverse_eq_nil_iff, dropWhile_eq_nil_iff_all, List.all_reverse]
  constructor
  · intro h
    rw [← List.takeWhile_append_dropWhile (p := isBlank) (l := s), List.all_append, h,
      Bool.and_true]
    exact List.all_takeWhile
  · intro h
    rw [(dropWhile_eq_nil_iff_all isBlank s).2 h]
    rfl

end LivePreview.Text
