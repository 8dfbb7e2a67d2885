import LivePreview.Json

/-!
# Reading JSON by the expected shape

A reader consumes a JSON text from its start and builds a value of a known shape. The text is read
strictly from left to right, so the first fault met is the one reported, whatever follows it: a
value of the wrong shape wins over a broken token behind it.

## Main definitions

* `LivePreview.Json.Fault`: what is wrong with a text.
* `LivePreview.Json.Reader`: a reader.
* `LivePreview.Json.Reader.text`, `natBelow`, `list`, `map`, `record`, `choice`: readers of fixed
  shapes.
* `LivePreview.Json.Reader.value`: reads any value, nested no deeper than `depthLimit`.
* `LivePreview.Json.Reader.skip`: passes over any value at any depth.
* `LivePreview.Json.Reader.whole`: reads a whole text with a reader.
-/

namespace LivePreview.Json

/-- What is wrong with a text. -/
inductive Fault where
  /-- It is not JSON. -/
  | malformed
  /-- It ends early. -/
  | truncated
  /-- It is JSON of another shape than the one expected. -/
  | mistyped
deriving DecidableEq, Repr

/-- A reader of the rest of a text. -/
abbrev Reader (α : Type) := StateT (List Char) (Except Fault) α

namespace Reader

variable {α σ : Type}

/-- Stops with a fault. -/
def fault (f : Fault) : Reader α := fun _ => .error f

/-- Passes over blanks and looks at the rest of the text. -/
def ahead : Reader (List Char) := fun s =>
  let rest := s.dropWhile fun c => c == ' ' || c == '\n' || c == '\t' || c == '\r'
  .ok (rest, rest)

/-! ### Strings -/

/-- The value of a hexadecimal digit. -/
def hexValue? (c : Char) : Option Nat :=
  if '0' ≤ c ∧ c ≤ '9' then some (c.toNat - 48)
  else if 'a' ≤ c ∧ c ≤ 'f' then some (c.toNat - 87)
  else if 'A' ≤ c ∧ c ≤ 'F' then some (c.toNat - 55)
  else none

/-- The four hexadecimal digits of a Unicode escape. The text is cut short when fewer than four
bytes are left, whatever they are. -/
def hex4 (s : List Char) : Except Fault Nat :=
  match s.take 4 with
  | [a, b, c, d] =>
    match hexValue? a, hexValue? b, hexValue? c, hexValue? d with
    | some a, some b, some c, some d => .ok (((a * 16 + b) * 16 + c) * 16 + d)
    | _, _, _, _ => .error .malformed
  | few =>
    if few.foldl (fun n c => n + c.utf8Size) 0 < 4 then .error .truncated else .error .malformed

/-- The character of a Unicode escape, and how many characters behind the backslash it takes. A
high surrogate must be followed by the escape of a low one; no surrogate stands alone. -/
def unicodeEscape (s : List Char) : Except Fault (Char × Nat) := do
  let unit ← hex4 s
  if 0xDC00 ≤ unit ∧ unit ≤ 0xDFFF then .error .malformed
  else if unit < 0xD800 ∨ 0xDBFF < unit then .ok (Char.ofNat unit, 5)
  else
    match s.drop 4 with
    | [] => .error .truncated
    | '\\' :: [] => .error .truncated
    | '\\' :: 'u' :: rest =>
      let low ← hex4 rest
      if 0xDC00 ≤ low ∧ low ≤ 0xDFFF then
        .ok (Char.ofNat (0x10000 + (unit - 0xD800) * 0x400 + (low - 0xDC00)), 11)
      else .error .malformed
    | _ => .error .malformed

/-- The character an escape stands for, and how many characters behind the backslash it takes. When
`exact` is off only the form of an escape is checked, and surrogates may stand alone. -/
def escape (exact : Bool) : List Char → Except Fault (Char × Nat)
  | [] => .error .truncated
  | 'u' :: s => if exact then unicodeEscape s else (hex4 s).map fun _ => (' ', 5)
  | c :: _ =>
    if c = '"' ∨ c = '\\' ∨ c = '/' then .ok (c, 1)
    else if c = 'b' then .ok ('\x08', 1)
    else if c = 'f' then .ok ('\x0c', 1)
    else if c = 'n' then .ok ('\n', 1)
    else if c = 'r' then .ok ('\r', 1)
    else if c = 't' then .ok ('\t', 1)
    else .error .malformed

/-- The rest of a string literal and what follows it, where the next `pending` characters belong to
an escape that is read already. -/
def stringFrom (exact : Bool) : Nat → List Char → Except Fault (List Char × List Char)
  | _, [] => .error .truncated
  | pending + 1, _ :: s => stringFrom exact pending s
  | 0, c :: s =>
    if c = '"' then .ok ([], s)
    else if c = '\\' then do
      let (e, used) ← escape exact s
      let (text, rest) ← stringFrom exact used s
      .ok (e :: text, rest)
    else if c.toNat < 0x20 then .error .malformed
    else do
      let (text, rest) ← stringFrom exact 0 s
      .ok (c :: text, rest)

/-- The text of a string literal whose opening quote is read already. -/
def stringBody : Reader String := fun s =>
  (stringFrom true 0 s).map fun (text, rest) => (String.ofList text, rest)

/-! ### Numbers -/

/-- The rest of a literal such as `true`, whose first character is read already. -/
def literal (value : α) : List Char → Reader α
  | [] => pure value
  | expected :: more => fun
    | [] => .error .truncated
    | c :: s => if c = expected then literal value more s else .error .malformed

/-- A number that a text denotes. -/
inductive Number where
  /-- A signed or unsigned 64-bit integer. -/
  | integer (value : Int)
  /-- Any other number, such as `1.0`, `-0` or `1e2`. -/
  | other
deriving DecidableEq, Repr

/-- The natural number rounded to 53 significant bits, a tie going to the even neighbour. -/
def roundTo53Bits (n : Nat) : Nat :=
  if n < Nat.pow 2 53 then n
  else
    let unit := Nat.pow 2 (n.log2 - 52)
    let q := n / unit
    let r := n % unit
    if 2 * r < unit then q * unit
    else if unit < 2 * r then (q + 1) * unit
    else (q + q % 2) * unit

/-- Whether `significand * 10 ^ exponent` is beyond the largest double-precision number, both
factors being rounded before they are multiplied. -/
def exceedsDouble (significand : Nat) (exponent : Int) : Bool :=
  if significand = 0 ∨ exponent < 0 then false
  else if 308 < exponent then true
  else
    Nat.pow 2 1024 - Nat.pow 2 970 ≤
      roundTo53Bits significand * roundTo53Bits (Nat.pow 10 exponent.toNat)

/-- Digits appended to a significand while it fits into 64 bits, and how many digits were left
over. -/
def significandFrom (significand : Nat) : List Char → Nat × Nat
  | [] => (significand, 0)
  | c :: digits =>
    let next := significand * 10 + (c.toNat - 48)
    if next < UInt64.size then significandFrom next digits else (significand, digits.length + 1)

/-- A number from the parts of its literal: whole digits, fraction digits and exponent. It is an
integer if it has neither fraction nor exponent, is not `-0` and fits into 64 bits. -/
def numberOf (negative : Bool) (whole : List Char) (fraction : Option (List Char))
    (exponent : Option Int) : Except Fault Number :=
  let (significand, dropped) := significandFrom 0 whole
  let small := if negative then 0 < significand && significand ≤ Nat.pow 2 63 else true
  if fraction.isNone && exponent.isNone && dropped == 0 && small then
    .ok (.integer (if negative then -(significand : Int) else significand))
  else
    let digits := fraction.getD []
    let (significand, lost) := significandFrom significand digits
    let scale : Int := dropped - (digits.length - lost : Nat) + exponent.getD 0
    if exceedsDouble significand scale then .error .malformed else .ok .other

/-- The digits at the front of a text. -/
def digitsOf (s : List Char) : List Char := s.takeWhile Char.isDigit

/-- The exponent of a number literal behind its `e`. -/
def exponentOf (s : List Char) : Except Fault (Int × List Char) :=
  let (negative, s) := match s with
    | '-' :: s => (true, s)
    | '+' :: s => (false, s)
    | s => (false, s)
  match digitsOf s with
  | [] => .error (if s.isEmpty then .truncated else .malformed)
  | digits =>
    let n : Nat := digits.foldl (fun n c => n * 10 + (c.toNat - 48)) 0
    .ok (if negative then -(n : Int) else n, s.drop digits.length)

/-- The optional exponent of a number literal, and the number. -/
def numberTail (negative : Bool) (whole : List Char) (fraction : Option (List Char)) :
    List Char → Except Fault (Number × List Char)
  | [] => do return (← numberOf negative whole fraction none, [])
  | c :: s =>
    if c = 'e' ∨ c = 'E' then do
      let (exponent, rest) ← exponentOf s
      return (← numberOf negative whole fraction (some exponent), rest)
    else do return (← numberOf negative whole fraction none, c :: s)

/-- A number literal behind its sign. -/
def unsignedNumber (negative : Bool) (s : List Char) : Except Fault (Number × List Char) :=
  match digitsOf s with
  | [] => .error (if s.isEmpty then .truncated else .malformed)
  | '0' :: _ :: _ => .error .malformed
  | whole =>
    match s.drop whole.length with
    | '.' :: rest =>
      match digitsOf rest with
      | [] => .error (if rest.isEmpty then .truncated else .malformed)
      | fraction => numberTail negative whole (some fraction) (rest.drop fraction.length)
    | rest => numberTail negative whole none rest

/-- A number. -/
def number : Reader Number
  | '-' :: s => unsignedNumber true s
  | s => unsignedNumber false s

/-! ### Values of another shape -/

/-- Refuses a value of the wrong shape. A scalar is read first, so that a broken token is reported
as broken. -/
def mismatch : Reader α := do
  match ← ahead with
  | [] => fault .truncated
  | 'n' :: s => set s; literal () ['u', 'l', 'l']; fault .mistyped
  | 't' :: s => set s; literal () ['r', 'u', 'e']; fault .mistyped
  | 'f' :: s => set s; literal () ['a', 'l', 's', 'e']; fault .mistyped
  | '"' :: s => set s; let _ ← stringBody; fault .mistyped
  | '[' :: _ => fault .mistyped
  | '\x7b' :: _ => fault .mistyped
  | c :: _ =>
    if c = '-' ∨ c.isDigit then do
      let _ ← number
      fault .mistyped
    else fault .malformed

/-! ### Arrays and objects -/

/-- The items of an array behind its opening bracket or a comma, folded into a state. `first` says
that no item came before, so that the array may end here. -/
def itemsFrom (item : σ → Reader σ) : Nat → Bool → σ → Reader σ
  | 0, _, _ => fault .truncated
  | fuel + 1, first, state => do
    match ← ahead with
    | [] => fault .truncated
    | ']' :: s => if first then do set s; pure state else fault .malformed
    | _ =>
      let state ← item state
      match ← ahead with
      | [] => fault .truncated
      | ']' :: s => set s; pure state
      | ',' :: s => set s; itemsFrom item fuel false state
      | _ => fault .malformed

/-- The items of an array behind its opening bracket, folded into a state. -/
def items (item : σ → Reader σ) (state : σ) : Reader σ := do
  itemsFrom item ((← get).length + 1) true state

/-- The colon between a key and its value. -/
def colon : Reader Unit := do
  match ← ahead with
  | ':' :: s => set s
  | [] => fault .truncated
  | _ => fault .malformed

/-- The members of an object behind its opening brace or a comma, folded into a state. `member`
reads on from behind the key. -/
def membersFrom (key : Reader String) (member : σ → String → Reader σ) :
    Nat → Bool → σ → Reader σ
  | 0, _, _ => fault .truncated
  | fuel + 1, first, state => do
    match ← ahead with
    | [] => fault .truncated
    | '\x7d' :: s => if first then do set s; pure state else fault .malformed
    | '"' :: s =>
      set s
      let name ← key
      let state ← member state name
      match ← ahead with
      | [] => fault .truncated
      | '\x7d' :: s => set s; pure state
      | ',' :: s => set s; membersFrom key member fuel false state
      | _ => fault .malformed
    | _ => fault .malformed

/-- The members of an object behind its opening brace, folded into a state. -/
def members (member : σ → String → Reader σ) (state : σ) : Reader σ := do
  membersFrom stringBody member ((← get).length + 1) true state

/-! ### Any value -/

/-- Any value, whose items and members are read by `nested`; without it no array and no object is
accepted. -/
def valueWith (nested : Option (Reader Json)) : Reader Json := do
  match ← ahead with
  | [] => fault .truncated
  | 'n' :: s => set s; literal .null ['u', 'l', 'l']
  | 't' :: s => set s; literal (.bool true) ['r', 'u', 'e']
  | 'f' :: s => set s; literal (.bool false) ['a', 'l', 's', 'e']
  | '"' :: s => set s; return .string (← stringBody)
  | '[' :: s =>
    match nested with
    | none => fault .malformed
    | some nested =>
      set s
      return .array (← items (fun done => return (← nested) :: done) []).reverse
  | '\x7b' :: s =>
    match nested with
    | none => fault .malformed
    | some nested =>
      set s
      let member (done : List (String × Json)) (key : String) : Reader (List (String × Json)) := do
        colon
        return (key, ← nested) :: done
      return .object (← members member []).reverse
  | c :: s =>
    if c = '-' ∨ c.isDigit then do
      let _ ← number
      let rest ← get
      return .number (String.ofList ((c :: s).take (s.length + 1 - rest.length)))
    else fault .malformed

/-- Any value with at most `depth` arrays and objects around one another. -/
def value : Nat → Reader Json
  | 0 => valueWith none
  | depth + 1 => valueWith (some (value depth))

/-- The deepest nesting of a value that is read. -/
def depthLimit : Nat := 127

/-- Passes over the optional exponent of a number literal. -/
def skipExponent : List Char → Except Fault (Unit × List Char)
  | [] => .ok ((), [])
  | c :: s =>
    if c = 'e' ∨ c = 'E' then
      match exponentOf s with
      | .ok (_, rest) => .ok ((), rest)
      | .error _ => .error .malformed
    else .ok ((), c :: s)

/-- Passes over a number literal behind its sign, whatever its size. -/
def skipNumber (s : List Char) : Except Fault (Unit × List Char) :=
  match digitsOf s with
  | [] => .error .malformed
  | '0' :: _ :: _ => .error .malformed
  | whole =>
    match s.drop whole.length with
    | '.' :: rest =>
      match digitsOf rest with
      | [] => .error .malformed
      | fraction => skipExponent (rest.drop fraction.length)
    | rest => skipExponent rest

/-- Passes over a string literal whose opening quote is read already. -/
def skipString : Reader Unit := fun s => (stringFrom false 0 s).map fun (_, rest) => ((), rest)

/-- Passes over any value, whose items and members are passed over by `nested`. -/
def skipWith (nested : Reader Unit) : Reader Unit := do
  match ← ahead with
  | [] => fault .truncated
  | 'n' :: s => set s; literal () ['u', 'l', 'l']
  | 't' :: s => set s; literal () ['r', 'u', 'e']
  | 'f' :: s => set s; literal () ['a', 'l', 's', 'e']
  | '"' :: s => set s; skipString
  | '[' :: s => set s; items (fun _ => nested) ()
  | '\x7b' :: s =>
    set s
    membersFrom (do skipString; pure "") (fun _ _ => do colon; nested) (s.length + 1) true ()
  | '-' :: s => fun _ => skipNumber s
  | c :: s => if c.isDigit then fun _ => skipNumber (c :: s) else fault .malformed

/-- Passes over any value with fewer than `fuel` arrays and objects around one another. -/
def skipFrom : Nat → Reader Unit
  | 0 => fault .truncated
  | fuel + 1 => skipWith (skipFrom fuel)

/-- Passes over any value. Only the form of its strings and numbers is checked. -/
def skip : Reader Unit := do
  skipFrom ((← get).length + 1)

/-! ### Fixed shapes -/

/-- A string. -/
def text : Reader String := do
  match ← ahead with
  | '"' :: s => set s; stringBody
  | _ => mismatch

/-- A natural number below `limit`. -/
def natBelow (limit : Nat) : Reader Nat := do
  match ← ahead with
  | [] => fault .truncated
  | c :: _ =>
    if c = '-' ∨ c.isDigit then
      match ← number with
      | .integer n => if 0 ≤ n ∧ n < limit then return n.toNat else fault .mistyped
      | .other => fault .mistyped
    else mismatch

/-- A list of values of one shape. -/
def list (item : Reader α) : Reader (List α) := do
  match ← ahead with
  | '[' :: s =>
    set s
    return (← items (fun done => return (← item) :: done) []).reverse
  | _ => mismatch

/-- An object whose values have one shape, as its members in the order of the text. -/
def map (item : Reader α) : Reader (List (String × α)) := do
  match ← ahead with
  | '\x7b' :: s =>
    set s
    let member (done : List (String × α)) (key : String) : Reader (List (String × α)) := do
      colon
      return (key, ← item) :: done
    return (← members member []).reverse
  | _ => mismatch

/-- A field of a record, read behind its key. A second occurrence is refused before its value is
looked at. -/
def once (field : Option α) (item : Reader α) : Reader (Option α) := do
  if field.isSome then fault .mistyped
  else
    colon
    return some (← item)

/-- An unknown field of a record, read behind its key. -/
def ignored : Reader Unit := do
  colon
  skip

/-- The field of a record that must be present. -/
def required : Option α → Reader α
  | some a => pure a
  | none => fault .mistyped

/-- The next field of a record that is written as an array, if the array goes on. -/
def nextItem (first : Bool) (item : Reader α) : Reader (Option α) := do
  match ← ahead with
  | [] => fault .truncated
  | ']' :: _ => pure none
  | ',' :: s =>
    if first then return some (← item)
    else
      set s
      match ← ahead with
      | [] => fault .truncated
      | ']' :: _ => fault .malformed
      | _ => return some (← item)
  | _ => if first then return some (← item) else fault .malformed

/-- The end of a record that is written as an array. -/
def endItems : Reader Unit := do
  match ← ahead with
  | ']' :: s => set s
  | [] => fault .truncated
  | _ => fault .malformed

/-- A record, written as an object or as an array of its fields. -/
def record (fromMembers fromItems : Reader α) : Reader α := do
  match ← ahead with
  | '\x7b' :: s => set s; fromMembers
  | '[' :: s =>
    set s
    let a ← fromItems
    endItems
    pure a
  | _ => mismatch

/-- The value `null`. -/
def nothing : Reader Unit := do
  match ← ahead with
  | 'n' :: s => set s; literal () ['u', 'l', 'l']
  | _ => mismatch

/-- A choice from named alternatives, written as a string or as the only key of an object with the
value `null`. -/
def choice (named : String → Option α) : Reader α := do
  match ← ahead with
  | [] => fault .truncated
  | '"' :: s =>
    set s
    required (named (← stringBody))
  | '\x7b' :: s =>
    set s
    let a ← required (named (← text))
    colon
    nothing
    match ← ahead with
    | '\x7d' :: s => set s; pure a
    | [] => fault .truncated
    | _ => fault .malformed
  | _ => fault .malformed

/-- The value of a whole text: nothing but blanks follows it. -/
def whole (reader : Reader α) (s : String) : Except Fault α :=
  let all : Reader α := do
    let a ← reader
    match ← ahead with
    | [] => pure a
    | _ => fault .malformed
  all.run' s.toList

end Reader

/-- Reads any JSON text. -/
def parse (s : String) : Except Fault Json := Reader.whole (Reader.value Reader.depthLimit) s

end LivePreview.Json
