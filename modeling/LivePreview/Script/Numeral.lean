import LivePreview.Script.Binary64

/-!
# Written numbers

A number is written with the fewest decimal digits that read back as the same value. In a module it
has the shortest of the notations for those digits: plain, with a fraction, with an exponent or, for
an integer, hexadecimal. As a text it has the notation that is usual in scripts.

## Main definitions

* `LivePreview.Script.Rounded.shortest`: the fewest digits that read back.
* `LivePreview.Script.Rounded.text`: the shortest notation.
* `LivePreview.Script.Binary64.decimalText`: the usual notation.
-/

namespace LivePreview.Script

/-! ### Digits -/

namespace Rounded

/-- Four times the bounds of the values that round to this one, as numbers over a common
denominator, and that denominator. -/
def bounds (r : Rounded) : Nat × Nat × Nat × Nat :=
  let (n, d) := scaled 1 2 (r.exponent - 2)
  let m := r.significand
  let below := if m = Nat.pow 2 52 ∧ -1074 < r.exponent then 1 else 2
  ((4 * m - below) * n, 4 * m * n, (4 * m + 2) * n, d)

/-- The number of digits before the decimal point of `num / den`, not positive if the value is below
one: the least `k` with `num / den < 10 ^ k`. -/
def decimalPoint (num den : Nat) : Int :=
  let guess : Int := ((num.log2 : Int) - (den.log2 : Int)) * 1233 / 4096
  let below (k : Int) : Bool :=
    let (p, q) := scaled 1 10 k
    num * q < p * den
  if below (guess - 1) then guess - 1
  else if below guess then guess
  else if below (guess + 1) then guess + 1
  else guess + 2

/-- The nearest number of `count` digits that reads back, as digits and a power of ten. -/
def withDigits? (r : Rounded) (point : Int) (count : Nat) : Option (Nat × Int) :=
  let (low, value, high, den) := r.bounds
  let e := point - count
  let (p, q) := scaled 1 10 e
  -- The value lies between the neighbours `k` and `k + 1` of the grid of multiples of `10 ^ e`.
  let k := value * q / (p * den)
  let reads (j : Nat) : Bool :=
    if r.significand % 2 = 0 then low * q ≤ j * p * den && j * p * den ≤ high * q
    else low * q < j * p * den && j * p * den < high * q
  let nearDown := 2 * (value * q) ≤ (2 * k + 1) * p * den
  if reads k && (nearDown || !reads (k + 1)) then some (k, e)
  else if reads (k + 1) then some (k + 1, e)
  else none

/-- The first count of digits, from `count` on, for which a number reads back. -/
def searchDigits (r : Rounded) (point : Int) : Nat → Nat → Nat × Int
  | 0, _ => (0, 0)
  | fuel + 1, count => (r.withDigits? point count).getD (searchDigits r point fuel (count + 1))

/-- The power of ten with the digits that are left when trailing zeros are dropped. -/
def dropZeros : Nat → Nat → Int → Nat × Int
  | 0, n, e => (n, e)
  | fuel + 1, n, e => if n ≠ 0 ∧ n % 10 = 0 then dropZeros fuel (n / 10) (e + 1) else (n, e)

/-- The fewest digits that read back, as digits and a power of ten. Seventeen digits always do. -/
def shortest (r : Rounded) : Nat × Int :=
  let (_, value, _, den) := r.bounds
  let (m, e) := r.searchDigits (decimalPoint value den) 17 1
  dropZeros 20 m e

end Rounded

/-! ### Notations -/

/-- The decimal digits of a number. -/
def digitsOf (n : Nat) : List Char := Nat.toDigits 10 n

/-- An exponent with its letter and its sign, which for a positive one is given. -/
def exponentOf (plus : List Char) (e : Int) : List Char :=
  'e' :: (if e < 0 then ['-'] else plus) ++ digitsOf e.natAbs

/-- The usual notation of `digits * 10 ^ exponent`: positional from `10 ^ -6` up to `10 ^ 21`, else
with one digit before the point and an exponent. -/
def positional (plus digits : List Char) (exponent : Int) : List Char :=
  let point : Int := digits.length + exponent
  if 0 ≤ exponent ∧ point ≤ 21 then digits ++ List.replicate exponent.toNat '0'
  else if 0 < point ∧ point ≤ 21 then
    digits.take point.toNat ++ '.' :: digits.drop point.toNat
  else if -6 < point ∧ point ≤ 0 then
    '0' :: '.' :: (List.replicate (-point).toNat '0' ++ digits)
  else
    let fraction := if digits.length = 1 then [] else '.' :: digits.drop 1
    digits.take 1 ++ fraction ++ exponentOf plus (point - 1)

/-- The shorter of two notations, the first if they have one length. -/
def shorter (a b : List Char) : List Char := if b.length < a.length then b else a

/-- A notation without the zero before the point. -/
def withoutLeadingZero : List Char → List Char
  | '0' :: '.' :: rest => '.' :: rest
  | text => text

namespace Rounded

/-- The shortest notation. A hexadecimal notation shorter than the usual one is preferred to an
exponent. -/
def text (r : Rounded) : String :=
  if r.significand = 0 then "0"
  else
    let (m, e) := r.shortest
    let digits := digitsOf m
    let plain := withoutLeadingZero (positional [] digits e)
    let (num, den) := r.fraction
    let hexadecimal := '0' :: 'x' :: Nat.toDigits 16 (num / den)
    let chosen :=
      if 0 ≤ e ∧ num / den < 1000 then plain
      else if 0 ≤ e ∧ hexadecimal.length < plain.length then hexadecimal
      else shorter plain (digits ++ exponentOf [] e)
    String.ofList chosen

end Rounded

namespace Binary64

/-- The usual notation of a number. Zero is written without its sign. -/
def decimalText : Binary64 → String
  | nan => "NaN"
  | infinite negative => if negative then "-Infinity" else "Infinity"
  | finite negative r =>
    if r.significand = 0 then "0"
    else
      let (m, e) := r.shortest
      let text := String.ofList (positional ['+'] (digitsOf m) e)
      if negative then "-" ++ text else text

end Binary64

end LivePreview.Script
