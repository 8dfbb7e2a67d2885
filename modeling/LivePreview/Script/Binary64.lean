/-!
# Binary floating point

The numbers of a script: those with 53 significant bits, a sign that zero has too, two infinities
and a value that is no number. Arithmetic is exact on fractions and rounds once at the end, to the
nearest number and of two nearest ones to the even one.

## Main definitions

* `LivePreview.Script.Rounded`: the size of a finite number.
* `LivePreview.Script.Binary64`: a number.
* `LivePreview.Script.Binary64.add`, `mul`, `div`, `rem`, `pow`: arithmetic.
* `LivePreview.Script.Binary64.toWord`: the number as 32 bits.
-/

namespace LivePreview.Script

/-! ### Sizes -/

/-- The value `significand * 2 ^ exponent` of a finite number of 53 bits. -/
structure Rounded where
  /-- At most 53 bits. -/
  significand : Nat
  /-- The power of two, at least `-1074` unless the significand is zero. -/
  exponent : Int
  deriving DecidableEq, Repr

/-- A fraction as two numbers: `mantissa * base ^ exponent`. -/
def scaled (mantissa base : Nat) (exponent : Int) : Nat × Nat :=
  match exponent with
  | .ofNat n => (mantissa * base.pow n, 1)
  | .negSucc n => (mantissa, base.pow (n + 1))

/-- The quotient rounded to the nearest number, a half to the even neighbour. -/
def roundedQuotient (num den : Nat) : Nat :=
  let q := num / den
  let r := num % den
  if 2 * r < den then q else if 2 * r > den then q + 1 else q + q % 2

namespace Rounded

/-- Nothing. -/
def zero : Rounded := ⟨0, 0⟩

/-- The fraction `num / den` rounded to 53 bits, with the last bit at `2 ^ -1074` or above. -/
def ofFraction (num den : Nat) : Rounded :=
  let guess : Int := (num.log2 : Int) - (den.log2 : Int) - 53
  -- The quotient has 53 or 54 bits at `guess`, so one of two exponents is right.
  let fits (e : Int) : Bool :=
    let (n, d) := scaled num 2 (-e)
    n < Nat.pow 2 53 * (d * den)
  let e := max (-1074) (if fits guess then guess else guess + 1)
  let (n, d) := scaled num 2 (-e)
  let m := roundedQuotient n (d * den)
  if m = 0 then zero else if m = Nat.pow 2 53 then ⟨Nat.pow 2 52, e + 1⟩ else ⟨m, e⟩

/-- Whether the size is too large to be finite. -/
def isInfinite (r : Rounded) : Bool := 971 < r.exponent

/-- The size as a fraction. -/
def fraction (r : Rounded) : Nat × Nat := scaled r.significand 2 r.exponent

end Rounded

/-! ### Numbers -/

/-- A number of a script. -/
inductive Binary64
  /-- No number. -/
  | nan
  /-- A number beyond all others on its side. -/
  | infinite (negative : Bool)
  /-- A sign and a size. -/
  | finite (negative : Bool) (size : Rounded)
  deriving DecidableEq, Repr

namespace Binary64

/-- Zero with a sign. -/
def zero (negative : Bool) : Binary64 := finite negative .zero

/-- The number with a sign and the size that is nearest to a fraction. -/
def ofFraction (negative : Bool) (num den : Nat) : Binary64 :=
  if num = 0 then zero negative
  else
    let r := Rounded.ofFraction num den
    if r.isInfinite then infinite negative else finite negative r

/-- The number that is nearest to a natural one. -/
def ofNat (n : Nat) : Binary64 := ofFraction false n 1

/-- The number that is nearest to a multiple of a number with another one added. -/
def timesPlus (value : Binary64) (factor summand : Nat) : Binary64 :=
  match value with
  | finite negative r =>
    let (num, den) := r.fraction
    ofFraction negative (num * factor + summand * den) den
  | value => value

/-- The number that is nearest to an integer. -/
def ofInt (n : Int) : Binary64 := ofFraction (n < 0) n.natAbs 1

/-- The number that is nearest to `mantissa * 10 ^ exponent`, a number of `digits` digits. Values
far beyond the range are told by their size alone. -/
def ofDecimal (digits mantissa : Nat) (exponent : Int) : Binary64 :=
  let magnitude : Int := digits + exponent
  if mantissa = 0 || magnitude < -330 then zero false
  else if 310 + (digits : Int) < magnitude then infinite false
  else
    let (num, den) := scaled mantissa 10 exponent
    ofFraction false num den

/-- Whether the number has the sign of negative ones. -/
def isNegative : Binary64 → Bool
  | nan => false
  | infinite negative => negative
  | finite negative _ => negative

/-- Whether the number is zero. -/
def isZero : Binary64 → Bool
  | finite _ r => r.significand == 0
  | _ => false

/-! ### Arithmetic -/

/-- An integer with a sign and a size. -/
def signed (negative : Bool) (n : Nat) : Int := if negative then -n else n

/-- The number with the other sign. -/
def neg : Binary64 → Binary64
  | nan => nan
  | infinite negative => infinite !negative
  | finite negative r => finite (!negative) r

/-- The sum. That of numbers which cancel each other is zero, negative only if both are. -/
def add : Binary64 → Binary64 → Binary64
  | nan, _ => nan
  | _, nan => nan
  | infinite a, infinite b => if a = b then infinite a else nan
  | infinite a, _ => infinite a
  | _, infinite b => infinite b
  | finite a r, finite b s =>
    let (n, d) := r.fraction
    let (m, e) := s.fraction
    let sum := signed a (n * e) + signed b (m * d)
    if sum = 0 then zero (a && b) else ofFraction (sum < 0) sum.natAbs (d * e)

/-- The difference. -/
def sub (a b : Binary64) : Binary64 := a.add b.neg

/-- The product. -/
def mul : Binary64 → Binary64 → Binary64
  | finite a r, finite b s =>
    let (n, d) := r.fraction
    let (m, e) := s.fraction
    ofFraction (a != b) (n * m) (d * e)
  | nan, _ => nan
  | _, nan => nan
  | a, b => if a.isZero || b.isZero then nan else infinite (a.isNegative != b.isNegative)

/-- The quotient. -/
def div : Binary64 → Binary64 → Binary64
  | finite a r, finite b s =>
    if s.significand = 0 then if r.significand = 0 then nan else infinite (a != b)
    else
      let (n, d) := r.fraction
      let (m, e) := s.fraction
      ofFraction (a != b) (n * e) (d * m)
  | nan, _ => nan
  | _, nan => nan
  | infinite _, infinite _ => nan
  | infinite a, b => infinite (a != b.isNegative)
  | a, infinite b => zero (a.isNegative != b)

/-- What is left of a division whose quotient is an integer, with the sign of the dividend. -/
def rem : Binary64 → Binary64 → Binary64
  | finite a r, finite _ s =>
    if s.significand = 0 then nan
    else
      let (n, d) := r.fraction
      let (m, e) := s.fraction
      ofFraction a (n * e % (m * d)) (d * e)
  | nan, _ => nan
  | _, nan => nan
  | infinite _, _ => nan
  | a, infinite _ => a

/-! ### Powers -/

/-- The number of bits that are kept on the way to a power. -/
def workingBits : Nat := 256

/-- A value `mantissa * 2 ^ exponent` with a limited number of bits. -/
structure Approximation where
  /-- The bits. -/
  mantissa : Nat
  /-- The power of two. -/
  exponent : Int

namespace Approximation

/-- The first bits of a value. -/
def trimmed (a : Approximation) : Approximation :=
  let extra := a.mantissa.log2 + 1 - workingBits
  ⟨a.mantissa / Nat.pow 2 extra, a.exponent + extra⟩

/-- The product. -/
def mul (a b : Approximation) : Approximation :=
  trimmed ⟨a.mantissa * b.mantissa, a.exponent + b.exponent⟩

/-- The power with the exponent that has the given bits, the lowest first. -/
def pow (a : Approximation) : List Bool → Approximation
  | [] => ⟨1, 0⟩
  | bit :: bits =>
    let rest := pow (a.mul a) bits
    if bit then a.mul rest else rest

/-- The square root of a natural number, rounded down: bits are tried from the highest one on. -/
def rootOf (n : Nat) : Nat :=
  (List.range (n.log2 / 2 + 1)).reverse.foldl (fun root place =>
    let next := root + Nat.pow 2 place
    if next * next ≤ n then next else root) 0

/-- The square root. -/
def root (a : Approximation) : Approximation :=
  -- Twice the bits are needed, and an even power of two.
  let odd := if a.exponent % 2 = 0 then 0 else 1
  let shift := 2 * workingBits + odd
  ⟨rootOf (a.mantissa * Nat.pow 2 shift), (a.exponent - shift) / 2⟩

/-- The power with the exponent that has the given bits after its point, the highest first. -/
def rootPow (a : Approximation) : List Bool → Approximation
  | [] => ⟨1, 0⟩
  | bit :: bits =>
    let root := a.root.trimmed
    let rest := rootPow root bits
    if bit then root.mul rest else rest

end Approximation

/-- The bits of a natural number, the lowest first. The first argument bounds their number. -/
def bitsOf : Nat → Nat → List Bool
  | 0, _ => []
  | fuel + 1, n => if n = 0 then [] else (n % 2 == 1) :: bitsOf fuel (n / 2)

/-- The bits of the fraction `num / den` below one, the highest first. -/
def fractionBits (den : Nat) : Nat → Nat → List Bool
  | 0, _ => []
  | fuel + 1, num =>
    if num = 0 then [] else (den ≤ 2 * num : Bool) :: fractionBits den fuel (2 * num % den)

/-- The power of a positive size with a positive exponent. -/
def sizePow (base exponent : Rounded) (negative inverse : Bool) : Binary64 :=
  let (n, d) := exponent.fraction
  if Nat.pow 2 64 ≤ n / d then
    let (num, den) := base.fraction
    if num = den then finite negative base
    else if (den < num) != inverse then infinite negative
    else zero negative
  else
    let start : Approximation := ⟨base.significand, base.exponent⟩
    let whole := start.pow (bitsOf 64 (n / d))
    let power := whole.mul (start.rootPow (fractionBits d 128 (n % d)))
    let magnitude := power.exponent + power.mantissa.log2
    if 1100 < magnitude.natAbs then
      if (0 < magnitude) != inverse then infinite negative else zero negative
    else
      let (num, den) := scaled power.mantissa 2 power.exponent
      if inverse then ofFraction negative den num else ofFraction negative num den

/-- Whether a size is a natural number, and an odd one. -/
def parity (r : Rounded) : Bool × Bool :=
  let (n, d) := r.fraction
  (n % d == 0, n / d % 2 == 1)

/-- The power. One has only the power one, and every number the power one with exponent zero. -/
def pow (base exponent : Binary64) : Binary64 :=
  if exponent.isZero || base = ofNat 1 then ofNat 1
  else
    match base, exponent with
    | nan, _ => nan
    | _, nan => nan
    | infinite _, infinite b => if b then zero false else infinite false
    | finite _ r, infinite b =>
      let (n, d) := r.fraction
      if n = d then ofNat 1 else if (d < n) != b then infinite false else zero false
    | infinite a, finite b s =>
      let negative := a && (parity s).1 && (parity s).2
      if b then zero negative else infinite negative
    | finite a r, finite b s =>
      let (isWhole, isOdd) := parity s
      let negative := a && isWhole && isOdd
      if r.significand = 0 then if b then infinite negative else zero negative
      else if a && !isWhole then nan
      else sizePow r s negative b

/-! ### Bits -/

/-- The last 32 bits of the integer part, as those of a number with a sign. -/
def toWord : Binary64 → Int32
  | finite negative r =>
    let (n, d) := r.fraction
    Int32.ofInt (signed negative (n / d))
  | _ => 0

/-- The number that 32 bits with a sign stand for. -/
def ofWord (w : Int32) : Binary64 := ofInt w.toInt

end Binary64

end LivePreview.Script
