import LivePreview.Text.Word

/-!
# Words without regard to case

Letters are compared under Unicode simple case folding. Among the letters of the English alphabet
only `s` and `k` have a partner outside ASCII: the long s and the Kelvin sign.

## Main definitions

* `LivePreview.Text.foldsTo`: a character that stands for a lower-case letter.
* `LivePreview.Text.dropFolded?`: the text behind a word, in whatever case it is written.
* `LivePreview.Text.wordEnds`: no word goes on at the start of a text.
-/

namespace LivePreview.Text

/-- Whether `c` equals the lower-case letter or other character `letter` up to simple case
folding. -/
def foldsTo (letter c : Char) : Bool :=
  c == letter || (letter.isLower && c == letter.toUpper) ||
    (letter == 's' && c == '\u017f') || (letter == 'k' && c == '\u212a')

/-- The text behind a word at its start, the word being written in any case. -/
def dropFolded? : List Char → List Char → Option (List Char)
  | [], s => some s
  | _ :: _, [] => none
  | letter :: word, c :: s => if foldsTo letter c then dropFolded? word s else none

/-- Whether the text starts with no word character. -/
def wordEnds : List Char → Bool
  | [] => true
  | c :: _ => !isWord c

/-- Whether a word stands alone in a text: no word character touches it on either side. `inside`
tells whether a word character comes just before the text. -/
def standsAlone (word : List Char) (inside : Bool) : List Char → Bool
  | [] => false
  | c :: s =>
    (!inside && (match word.isPrefixOf? (c :: s) with
      | some rest => wordEnds rest
      | none => false)) || standsAlone word (isWord c) s

end LivePreview.Text
