/-!
# New names

Names for variables that the text of a module does not have. A new name is made from another one: an
underscore, and a number after it if there are names like that. Of all such names only the one with
the most underscores and, among those, with the largest number is remembered.

## Main definitions

* `LivePreview.Script.TakenNames`: the names that new names must differ from.
* `LivePreview.Script.TakenNames.newName`: a new name.
-/

namespace LivePreview.Script

/-- Where the new names made from a stem go on. -/
structure NameMark where
  /-- The number of underscores before the stem. -/
  underscores : Nat
  /-- The number after the stem, one if there is none. -/
  number : Nat
  deriving DecidableEq, Repr

/-- The names that new names must differ from, by their stems. -/
abbrev TakenNames := List (List Char × NameMark)

namespace NameMark

/-- The largest number after a name. -/
def maxNumber : Nat := 4294967295

/-- The next name. -/
def next (m : NameMark) : NameMark :=
  if m.number < maxNumber then { m with number := m.number + 1 } else ⟨m.underscores + 1, 1⟩

/-- The later one of two names with the same stem. -/
def later (a b : NameMark) : NameMark :=
  if a.underscores < b.underscores then b
  else if a.underscores = b.underscores && a.number < b.number then b
  else a

/-- The text of a name. -/
def text (m : NameMark) (stem : List Char) : String :=
  String.ofList (List.replicate m.underscores '_' ++ stem ++
    if m.number ≤ 1 then [] else Nat.toDigits 10 m.number)

end NameMark

namespace TakenNames

/-- A name without underscores before it. -/
def withoutUnderscores (name : String) : List Char := name.toList.dropWhile (· = '_')

/-- A name as others are made from it: without underscores before it and digits after it. -/
def stemOf (name : String) : List Char :=
  ((withoutUnderscores name).reverse.dropWhile Char.isDigit).reverse

/-- The digits after a name. -/
def digitsOf (name : String) : List Char :=
  ((withoutUnderscores name).reverse.takeWhile Char.isDigit).reverse

/-- What there is to remember of a name. -/
def markOf (name : String) : NameMark :=
  let number := ((digitsOf name).foldl (fun n c => 10 * n + (c.toNat - '0'.toNat)) 0)
  ⟨(name.toList.takeWhile (· = '_')).length, min NameMark.maxNumber (max 1 number)⟩

/-- The names with another one, which starts with an underscore. -/
def add (t : TakenNames) (name : String) : TakenNames :=
  let stem := stemOf name
  match t.lookup stem with
  | some m => (stem, m.later (markOf name)) :: t
  | none => (stem, markOf name) :: t

/-- The names of a module that start with an underscore. -/
def ofNames (names : List String) : TakenNames := names.foldl add []

/-- A new name that is made from another one, and the names with that. -/
def newName (t : TakenNames) (name : String) : String × TakenNames :=
  let stem := stemOf name
  let m := (t.lookup stem).elim ⟨1, 1⟩ NameMark.next
  (m.text stem, (stem, m) :: t)

end TakenNames

end LivePreview.Script
