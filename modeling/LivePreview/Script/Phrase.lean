import LivePreview.Script.Doc
import LivePreview.Script.Literal
import LivePreview.Script.Markup
import LivePreview.Script.Numeral
import LivePreview.Script.Place
import LivePreview.Script.Tree

/-!
# Parts of written code

How the parts of a lowered tree are written that hold no other expressions or statements: comments,
numbers, words before members and functions, and the clauses of imports and exports. How lists and
bodies are put together from written parts.

## Main definitions

* `LivePreview.Script.commentsDoc`: comments before a statement.
* `LivePreview.Script.argumentsDoc`: arguments of a call.
* `LivePreview.Script.bodyDoc`: the statements of a function in braces.
* `LivePreview.Script.bindingsDoc`, `specifiersDoc`: what imports bind and exports name.
-/

namespace LivePreview.Script

/-! ### Comments -/

/-- A line of a comment. The first one stands where the comment starts. -/
def commentLine (depth : Nat) (line : List Char) : Doc :=
  let start : Doc := if ['/', '*'].isPrefixOf line then "" else .margin depth
  let stop := if ['*', '/'].isSuffixOf line then "" else "\n"
  start ++ verbatim (String.ofList (line.dropWhile Text.isBlank)) ++ stop

/-- A comment. -/
def commentDoc (depth : Nat) (c : Comment) : Doc :=
  match linesOf (withPlainBreaks c.text.toList) with
  | [_] => verbatim c.text
  | lines => .concat (lines.map (commentLine depth))

/-- Whether what follows a comment is on another line. -/
def Comment.endsLine (c : Comment) : Bool := c.isLine || c.beforeBreak

/-- What follows the last of some comments. -/
def afterComment (c : Comment) : Doc := if c.endsLine then "\n" else .goOn

/-- What stands between a comment and another one. One that has to be kept starts a line. -/
def betweenComments (depth : Nat) (last c : Comment) : Doc :=
  if last.endsLine then "\n" ++ Doc.margin depth else if c.isLegal then "\n" else " "

/-- Comments after another one. -/
def laterComments (depth : Nat) (last : Comment) : List Comment → Doc
  | [] => afterComment last
  | c :: l => betweenComments depth last c ++ commentDoc depth c ++ laterComments depth c l

/-- Comments before a statement. -/
def commentsDoc (depth : Nat) : List Comment → Doc
  | [] => ""
  | c :: l =>
    (if c.afterBreak then .fresh depth else .margin depth) ++ commentDoc depth c ++
      laterComments depth c l

/-- Comments before an argument or a name, on lines of their own. -/
def notesDoc (depth : Nat) (comments : List Comment) : Doc :=
  .concat (comments.map fun c => "\n" ++ Doc.margin depth ++ commentDoc depth c) ++ "\n"

/-! ### Numbers -/

/-- A number. A negative one stands in parentheses where an operator before it would. -/
def numberDoc (level : Level) (value : Binary64) : Doc :=
  let size := match value with
    | .nan => "NaN"
    | .infinite _ => "Infinity"
    | .finite _ r => r.text
  if value.isNegative then .parens (Level.before ≤ level) ("-" ++ size) else size

/-- Whether the text of a number would run together with a point after it. -/
def needsSpaceBeforePoint : Expr → Bool
  | .number (.finite false r) => !(r.text.toList.any fun c => c == '.' || c == 'e' || c == 'x')
  | _ => false

/-- Whether a number is no key of a member by its text. -/
def isUnusualKey : Expr → Bool
  | .number value =>
    value.isNegative || match value with
      | .infinite _ => true
      | _ => false
  | _ => false

/-! ### Operators -/

/-- Whether an expression is a condition that is not written next to `??`. -/
def Expr.isCondition (e : Expr) : Bool :=
  match e.bare with
  | .binary op _ _ => op == "||" || op == "&&"
  | _ => false

/-- Whether an expression is the name of a private member, as it is where an object is asked for
one. -/
def Expr.isPrivateName : Expr → Bool
  | .name text => text.toList.head? == some '#'
  | _ => false

/-- Whether an expression is an operator before its operand, or is written like one. A value that is
awaited is not taken for one. -/
def Expr.isUnary (e : Expr) : Bool :=
  match e.bare with
  | .unary op _ => op != "await"
  | .number value => value.isNegative
  | _ => false

/-- Whether an expression chooses between its operands by a given operator. -/
def Expr.isChoiceBy (op : String) (e : Expr) : Bool :=
  match e.bare with
  | .binary other _ _ => op == other && ["&&", "||", "??"].contains op
  | _ => false

/-- The level of the left operand of an operator. -/
def leftLevel (op : String) (own : Level) (left : Expr) : Level :=
  if op == "??" then if left.isCondition then Level.before else own - 1
  else if fromRight own then if left.isUnary then Level.call else own
  else own - 1

/-- The level of the right operand of an operator. Choices by the same operator are written without
parentheses. -/
def rightLevel (op : String) (own : Level) (right : Expr) : Level :=
  if op == "??" && right.isCondition then Level.before
  else if fromRight own || right.isChoiceBy op then own - 1
  else own

/-- Whether an operator before its operand would run together with that. -/
def runsTogether (op : String) (operand : Expr) : Bool :=
  match operand.bare with
  | .unary other _ => ["+", "-"].contains op && op == other
  | .update other _ _ => (op == "+" && other == "++") || (op == "-" && other == "--")
  | .number value => op == "-" && value.isNegative
  | _ => false

/-- An operator before its operand. -/
def operatorDoc (op : String) (operand : Expr) (written : Doc) : Doc :=
  if isWordOperator op || runsTogether op operand then op ++ " " ++ written else op ++ written

/-! ### Members -/

/-- Whether a member is written as a name alone: its value is the variable of the name of the
key. -/
def isShorthand (computed : Bool) (key value : Expr) : Bool :=
  match key, value.bare with
  | .name text, .name other => !computed && text == other && text != "__proto__"
  | _, _ => false

/-- Whether a member of a pattern is written as a name, perhaps with a default value. -/
def isPatternShorthand (computed : Bool) (key value : Expr) : Bool :=
  match key, value with
  | .name text, .name other => !computed && text == other
  | .name text, .assign _ (.name other) _ => !computed && text == other
  | _, _ => false

/-- Words before the key of a member of a class. -/
def memberWords (isStatic : Bool) (kind : MemberKind) : String :=
  (if isStatic then "static " else "") ++
    match kind with
    | .getter => "get "
    | .setter => "set "
    | .accessor => "accessor "
    | _ => ""

/-- Words before the parameters of a method. -/
def methodWords (isAsync isGenerator : Bool) : String :=
  (if isAsync then "async " else "") ++ if isGenerator then "*" else ""

/-- Words before the parameters of a function. -/
def functionWords (isAsync isGenerator : Bool) (name : String) : String :=
  (if isAsync then "async " else "") ++ "function" ++
    (if isGenerator then "* " else if name.isEmpty then "" else " ") ++ name

/-- Whether a member of a class ends with a semicolon. -/
def isField (kind : MemberKind) : Bool := kind == .field || kind == .accessor

/-- The key of a member, in brackets if it is computed. -/
def keyDoc (computed : Bool) (key : Doc) : Doc := if computed then "[" ++ key ++ "]" else key

/-- A value after a sign, unless it is absent. -/
def valueDoc (value : Expr) (written : Doc) : Doc :=
  if value.isAbsent then "" else " = " ++ written

/-- The members of a pattern in braces. Those of one that is assigned to stand close. -/
def patternDoc (form : Form) (members : List Doc) : Doc :=
  if members.isEmpty then "\x7b\x7d"
  else if form == .target then "\x7b" ++ Doc.commas members ++ "\x7d"
  else "\x7b " ++ Doc.commas members ++ " \x7d"

/-- Decorators before what they decorate. -/
def decoratorsDoc (decorators : List Doc) : Doc :=
  .concat (decorators.map fun d => Doc.text "@" ++ d ++ " ")

/-! ### Lists -/

/-- The depth of the text in brackets that hold a number of parts, of which some fit on a line. -/
def partDepth (depth fitting count : Nat) : Nat := if fitting < count then depth + 1 else depth

/-- The elements of a list, with a comma after the last one if that is a hole. -/
def withLastHole (items : List Expr) (parts : List Doc) : List Doc :=
  if (items.getLast?.map Expr.isAbsent).getD false then parts.dropLast ++ [Doc.text ","]
  else parts

/-- Whether a pattern has nothing but the rest of a list. -/
def isRestAlone : List Expr → Bool
  | [.spread _] => true
  | _ => false

/-- A list pattern in brackets. What stands for the rest has a space before it, even alone where it
gives a name. -/
def arrayPatternDoc (form : Form) (items : List Expr) (parts : List Doc) : Doc :=
  (if form == .binding && isRestAlone items then "[ " else "[") ++
    Doc.commas (withLastHole items parts) ++ "]"

/-- A list in brackets. More than two elements are on lines of their own. -/
def listDoc (depth : Nat) (items : List Expr) (parts : List Doc) : Doc :=
  let parts := withLastHole items parts
  if 2 < items.length then .onLines depth "[" parts "]" else "[" ++ Doc.commas parts ++ "]"

/-- The comments before an argument. -/
def Expr.notes : Expr → List Comment
  | .noted comments _ => comments
  | _ => []

/-- The comments after the last of some arguments. -/
def closingNotes (args : List Expr) : List Comment :=
  match args.getLast? with
  | some (.noted comments .absent) => comments
  | _ => []

/-- Whether there are comments among arguments. -/
def haveNotes (args : List Expr) : Bool := args.any fun e => !e.notes.isEmpty

/-- An argument on a line of its own. -/
def noteDoc (depth : Nat) (comments : List Comment) (arg : Doc) : Doc :=
  (if comments.isEmpty then Doc.text "\n" else notesDoc depth comments) ++ .margin depth ++ arg

/-- Arguments in parentheses. If there are comments among them each is on a line of its own. -/
def argumentsDoc (depth : Nat) (args : List Expr) (parts : List Doc) : Doc :=
  if haveNotes args then
    let closing := closingNotes args
    let count := if closing.isEmpty then args.length else args.length - 1
    let lines := (args.zip parts).take count |>.map fun (e, d) => noteDoc (depth + 1) e.notes d
    let last := if closing.isEmpty then Doc.text "\n" else notesDoc (depth + 1) closing
    "(" ++ Doc.between "," lines ++ last ++ .margin depth ++ ")"
  else "(" ++ Doc.commas parts ++ ")"

/-- The arguments of a module that is loaded, in parentheses. The comments before its options are
not written, and the closing parenthesis stands at the very start of its line. -/
def importArgumentsDoc (depth : Nat) (args : List Expr) (parts : List Doc) : Doc :=
  if haveNotes args then
    let closing := closingNotes args
    let count := if closing.isEmpty then args.length else args.length - 1
    let comments := (args.head?.map Expr.notes).getD []
    let lines := (parts.take count).mapIdx fun i d =>
      noteDoc (depth + 1) (if i = 0 then comments else []) d
    let last := if closing.isEmpty then Doc.text "\n" else notesDoc (depth + 1) closing
    "(" ++ Doc.between "," lines ++ last ++ ")"
  else "(" ++ Doc.commas parts ++ ")"

/-! ### Bodies -/

/-- Whether the statements of a function are comments that stand on one line with its braces. -/
def isOnOneLine : List Stmt → Bool
  | [.remarks comments] => comments.all fun c => !c.isLine && !c.afterBreak && !c.beforeBreak
  | _ => false

/-- The statements of a function in braces. -/
def bodyDoc (depth : Nat) (body : List Stmt) (lines : Doc) : Doc :=
  match body with
  | [] => "\x7b\x7d"
  | [.remarks comments] =>
    if isOnOneLine body then "\x7b" ++ commentsDoc depth comments ++ Doc.stop ++ "\x7d"
    else .braced depth false lines
  | _ => .braced depth false lines

/-- The string that is a statement, which at the start of a body must not be taken for a
directive. -/
def Stmt.string? (s : Stmt) : Option StringValue :=
  match s.bare with
  | .expr (.string value) => some value
  | _ => none

/-- Whether a statement becomes ambiguous before `else`: a condition without an alternative is at
its end. -/
def Stmt.hangs : Stmt → Bool
  | .ifThen _ _ => true
  | .ifElse _ _ no => no.hangs
  | .forLoop _ _ _ body => body.hangs
  | .forEach _ _ _ _ body => body.hangs
  | .headed _ _ body => body.hangs
  | .labeled _ body => body.hangs
  | .commented _ s => s.hangs
  | _ => false

/-- Whether a statement is in braces. -/
def Stmt.isBlock (s : Stmt) : Bool :=
  match s.bare with
  | .block _ => true
  | _ => false

/-- Whether a statement is nothing but its end. -/
def Stmt.isEmpty (s : Stmt) : Bool :=
  match s.bare with
  | .empty => true
  | _ => false

/-- Whether a statement is a condition. -/
def Stmt.isCondition (s : Stmt) : Bool :=
  match s.bare with
  | .ifThen _ _ => true
  | .ifElse _ _ _ => true
  | _ => false

/-- Whether a statement stands after a head without anything that introduces it. -/
def Stmt.standsClose (s : Stmt) : Bool := s.isBlock || s.isEmpty

/-- The depth and the start of a statement in a condition. -/
def branchStart (depth : Nat) (s : Stmt) : Nat × Start :=
  if s.hangs then (depth + 1, .line) else (depth, if s.isBlock then .branch else .body)

/-- A statement in a condition, in braces if it is ambiguous without. -/
def branchDoc (depth : Nat) (s : Stmt) (written : Doc) : Doc :=
  if s.hangs then " " ++ Doc.braced depth false written else written

/-- Whether a statement in a condition is written in braces. -/
def Stmt.isBraced (s : Stmt) : Bool := s.isBlock || s.hangs

/-- The depth and the start of the body of a loop with its test last. -/
def doStart (depth : Nat) (s : Stmt) : Nat × Start :=
  if s.isBlock then (depth, .branch) else if s.isEmpty then (depth, .line) else (depth + 1, .line)

/-- The body of a loop with its test last, up to the word before the test. -/
def doDoc (depth : Nat) (s : Stmt) (written : Doc) : Doc :=
  if s.isBlock then written ++ " "
  else if s.isEmpty then written
  else "\n" ++ written ++ .margin depth

/-- Whether the clauses of a choice are followed by one statement, which stands beside them. -/
def isSole : List Stmt → Bool
  | [_] => true
  | _ => false

/-- The depth and the start of the statements of a clause of a choice. -/
def clauseStart (depth : Nat) (body : List Stmt) : Nat × Start :=
  if isSole body then (depth, .body) else (depth + 1, .line)

/-- The statements of a clause of a choice. -/
def clauseDoc (body : List Stmt) (written : Doc) : Doc :=
  if isSole body then written else "\n" ++ written

/-- What stands before a statement. -/
def Start.before (depth : Nat) : Start → Doc
  | .line => .margin depth
  | .exported => .margin depth ++ "export "
  | .body => .goOn ++ .margin depth
  | .branch => .margin depth
  | .otherwise => ""
  | .head => ""
  | .target => ""

/-- Whether an expression is a name that is mistaken for a keyword in the head of a loop. -/
def Expr.isAsyncName : Expr → Bool
  | .name text => text == "async"
  | _ => false

/-- Whether a statement is in the head of a loop. -/
def Start.isInHead (start : Start) : Bool := start == .head || start == .target

/-- A word before an expression in parentheses. -/
def headWord (word : String) : String := if word == "with" then word else word ++ " "

/-- What stands before statements in braces. -/
def Start.beforeBlock (depth : Nat) : Start → Doc
  | .body => " "
  | .branch => " "
  | .otherwise => " "
  | start => start.before depth

/-! ### Imports and exports -/

/-- How a name that is seen from outside is written. -/
def PublicName.written : PublicName → String
  | word text => text
  | quoted value => stringText value

/-- Names in braces. -/
def namesDoc (names : List Doc) : Doc :=
  if names.isEmpty then "\x7b\x7d" else "\x7b " ++ Doc.commas names ++ " \x7d"

/-- A name of a binding that is imported by name. -/
def Binding.named? : Binding → Option Doc
  | .named outer inner =>
    some (if outer.text = inner then outer.written else outer.written ++ " as " ++ inner)
  | _ => none

/-- A binding that is not in braces. -/
def Binding.single? : Binding → Option Doc
  | .default inner => some inner
  | .all inner => some ("* as " ++ inner)
  | _ => none

/-- The part of an import before its source. -/
def bindingsDoc (imports : List Binding) : Doc :=
  let named := imports.filterMap Binding.named?
  if imports.isEmpty then ""
  else
    .commas (imports.filterMap Binding.single? ++ if named.isEmpty then [] else [namesDoc named]) ++
      " from "

/-- A name with the comments before it. -/
def PublicName.after (depth : Nat) (comments : List Comment) (name : PublicName) : Doc :=
  if comments.isEmpty then name.written
  else commentsDoc depth comments ++ " " ++ Doc.stop ++ name.written

/-- A name that is exported. -/
def ExportSpecifier.written (depth : Nat) (specifier : ExportSpecifier) : Doc :=
  let name := specifier.inner.after depth specifier.comments
  if specifier.inner.text = specifier.outer.text then name
  else name ++ " as " ++ specifier.outer.after depth specifier.outerComments

/-- Names that are exported. -/
def specifiersDoc (depth : Nat) (specifiers : List ExportSpecifier) : Doc :=
  namesDoc (specifiers.map (ExportSpecifier.written depth))

/-- A source with the attributes of an import. -/
def sourceDoc (source : StringValue) (attributes : Option Attributes) : Doc :=
  stringText source ++
    match attributes with
    | none => Doc.text ""
    | some attributes =>
      " " ++ attributes.word ++ " " ++ namesDoc (attributes.entries.map fun (key, value) =>
        Doc.text (key.written ++ ": " ++ stringText value))

end LivePreview.Script
