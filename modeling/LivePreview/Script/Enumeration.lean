import LivePreview.Script.Numeral
import LivePreview.Script.Scan
import LivePreview.Script.Tree

/-!
# Values of enumerations

A member of an enumeration without a value has the value after that of the member before it, the
first one zero. Values that can be told from the text are computed.

## Main definitions

* `LivePreview.Script.Constant`: a value that can be told from the text.
* `LivePreview.Script.Known`: the members whose values can be told.
* `LivePreview.Script.Expr.constant?`: the value of an expression, if it can be told.
* `LivePreview.Script.EnumValue`: the value of a member.
-/

namespace LivePreview.Script

/-- A value that can be told from the text. -/
inductive Constant
  /-- A number. -/
  | number (value : Binary64)
  /-- A string. -/
  | text (value : String)
  deriving DecidableEq, Repr

/-- The string that a value becomes where a string is needed. -/
def Constant.toText : Constant → String
  | number value => value.decimalText
  | text value => value

/-- Members of an enumeration with their values, as far as they can be told. -/
abbrev EnumMembers := List (String × Option Constant)

/-- What is known where the value of a member is given. -/
structure Known where
  /-- The enumerations before. -/
  enumerations : List (String × EnumMembers)
  /-- The members before. -/
  members : EnumMembers

namespace Known

/-- The value of a member of an enumeration before, if it can be told. -/
def member? (k : Known) (enumeration name : String) : Option Constant :=
  ((k.enumerations.lookup enumeration).bind (·.lookup name)).join

/-- The value of a name, if it can be told. -/
def value? (k : Known) (name : String) : Option Constant :=
  if name = "Infinity" then some (.number (.infinite false))
  else if name = "NaN" then some (.number .nan)
  else (k.members.lookup name).join

end Known

/-! ### Operators -/

/-- The result of an operator between words of 32 bits. -/
def wordOperation? (op : String) (a b : Binary64) : Option Binary64 :=
  let left := a.toWord
  let right := b.toWord
  match op with
  | "&" => some (.ofWord (left &&& right))
  | "|" => some (.ofWord (left ||| right))
  | "^" => some (.ofWord (left ^^^ right))
  | "<<" => some (.ofWord (left <<< (right &&& 31)))
  | ">>" => some (.ofWord (left >>> (right &&& 31)))
  | ">>>" => some (.ofNat (left.toUInt32 >>> (right &&& 31).toUInt32).toNat)
  | _ => none

/-- The result of an operator between numbers. -/
def numberOperation? (op : String) (a b : Binary64) : Option Binary64 :=
  match op with
  | "+" => some (a.add b)
  | "-" => some (a.sub b)
  | "*" => some (a.mul b)
  | "/" => some (a.div b)
  | "%" => some (a.rem b)
  | "**" => some (a.pow b)
  | op => wordOperation? op a b

/-- The result of an operator between values. A sum with a string is a string. -/
def constantOperation? (op : String) : Constant → Constant → Option Constant
  | .number a, .number b => (numberOperation? op a b).map .number
  | a, b => if op == "+" then some (.text (a.toText ++ b.toText)) else none

/-- The result of an operator before a number. -/
def signOperation? (op : String) (a : Binary64) : Option Binary64 :=
  match op with
  | "+" => some a
  | "-" => some a.neg
  | "~" => some (.ofWord (~~~a.toWord))
  | _ => none

/-- The result of an operator before a value. A string is taken for no number; an operator that does
not need one leaves it as it is. -/
def constantSign? (op : String) : Constant → Option Constant
  | .number a => (signOperation? op a).map .number
  | .text value =>
    match op with
    | "await" => none
    | "-" => some (.number .nan)
    | "~" => some (.number (.ofInt (-1)))
    | _ => some (.text value)

/-! ### Expressions -/

/-- The stretches of a template with the values between them. -/
def templateConstant? : List String → List Constant → Option String
  | [], _ => some ""
  | raw :: texts, values => do
    let rest ← templateConstant? texts (values.drop 1)
    return (← templateValue? raw) ++ (values.head?.elim "" Constant.toText) ++ rest

mutual

/-- The value of an expression, if it can be told. -/
def Expr.constant? (k : Known) : Expr → Option Constant
  | .number value => some (.number value)
  | .string value => some (.text value.text)
  | .template .absent texts values => do
    return .text (← templateConstant? texts (← constantsOf? k values))
  | .name text => k.value? text
  | .member (.name enumeration) text _ => k.member? enumeration text
  | .index (.name enumeration) (.string text) _ => k.member? enumeration text.text
  | .paren e => e.constant? k
  | .unary op e => (e.constant? k).bind (constantSign? op)
  | .binary op a b => do constantOperation? op (← a.constant? k) (← b.constant? k)
  | _ => none

/-- The values of expressions, if all can be told. -/
def constantsOf? (k : Known) : List Expr → Option (List Constant)
  | [] => some []
  | e :: l => do return (← e.constant? k) :: (← constantsOf? k l)

end

/-! ### Members -/

/-- What is written as the value of a member. -/
inductive EnumValue
  /-- A value that can be told from the text. -/
  | constant (value : Constant)
  /-- One more than the value of another member. -/
  | successor (name : String)
  /-- The value of the expression that was given. -/
  | given
  deriving DecidableEq, Repr

/-- The value of a member, if it can be told. -/
def EnumValue.constant? : EnumValue → Option Constant
  | constant value => some value
  | _ => none

/-- The value of a member without one, after another member. -/
def EnumValue.following (before : Option (String × EnumValue)) : EnumValue :=
  match before with
  | none => .constant (.number (.zero false))
  | some (_, .constant (.number n)) => .constant (.number (n.add (.ofNat 1)))
  | some (name, _) => .successor name

/-- The value of a member. -/
def EnumValue.ofMember (k : Known) (before : Option (String × EnumValue)) (value : Expr) :
    EnumValue :=
  match value with
  | .absent => .following before
  | value => (value.constant? k).elim .given .constant

/-- The text of the key of a member of an enumeration. -/
def Member.keyText : Member → String
  | .mk _ _ _ _ _ (.string value) _ => value.text
  | _ => ""

/-- The value that a member is given. -/
def Member.value : Member → Expr
  | .mk _ _ _ _ _ _ value => value

/-- The names and values of members after known ones, of which the last one may be needed. -/
def EnumValue.ofMembers (enumerations : List (String × EnumMembers)) (known : EnumMembers)
    (before : Option (String × EnumValue)) : List Member → List (String × EnumValue)
  | [] => []
  | m :: l =>
    let value := EnumValue.ofMember ⟨enumerations, known⟩ before m.value
    (m.keyText, value) ::
      ofMembers enumerations ((m.keyText, value.constant?) :: known) (some (m.keyText, value)) l

end LivePreview.Script
