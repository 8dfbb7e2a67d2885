import LivePreview.Script.Doc
import LivePreview.Script.Markup.Factory

/-!
# Syntax trees

The tree of a module without its types. Annotations are not part of the tree. A declaration of a
type is kept as it is written; of an overload and the other declarations that only say what values
there are the tree keeps the names, which decide about imports and exports, and the statements
inside, which may name other modules.

A pattern has the tree of the expression it looks like: a default value is an assignment, the rest
is a spread, and a hole is an absent expression.

## Main definitions

* `LivePreview.Script.Expr`, `Member`, `Stmt`, `Clause`: expressions and statements.
* `LivePreview.Script.Program`: a module.
-/

namespace LivePreview.Script

/-! ### Names of exports -/

/-- A name that is seen from outside of a module: a word, or any text in quotes. -/
inductive PublicName
  /-- A word. -/
  | word (text : String)
  /-- Text in quotes. -/
  | quoted (value : StringValue)
  deriving DecidableEq, Repr

/-- The text of a name. -/
def PublicName.text : PublicName → String
  | word text => text
  | quoted value => value.text

/-- What an import binds. -/
inductive Binding
  /-- The default export. -/
  | default (inner : String)
  /-- All exports. -/
  | all (inner : String)
  /-- One export. -/
  | named (outer : PublicName) (inner : String)
  /-- One export, of which only the type is used. -/
  | type (inner : String)
  deriving DecidableEq, Repr

/-- The name that an import binds in its module. -/
def Binding.inner : Binding → String
  | default inner => inner
  | all inner => inner
  | named _ inner => inner
  | type inner => inner

/-- Whether an import binds a type alone. -/
def Binding.isType : Binding → Bool
  | type _ => true
  | _ => false

/-- A name and the name it is exported under. -/
structure ExportSpecifier where
  /-- The comments before it. -/
  comments : List Comment
  /-- The name in the module that has it. -/
  inner : PublicName
  /-- The comments before the name under which others see it. -/
  outerComments : List Comment
  /-- The name under which others see it. -/
  outer : PublicName
  deriving DecidableEq, Repr

/-- The attributes of an import. -/
structure Attributes where
  /-- The word before them. -/
  word : String
  /-- Their keys and values. -/
  entries : List (PublicName × StringValue)
  deriving DecidableEq, Repr

/-! ### Trees -/

/-- What a member of an object or a class is. -/
inductive MemberKind
  /-- A key with a value. -/
  | property
  /-- A name that stands for the variable of that name, perhaps with a default value. -/
  | shorthand
  /-- A method. -/
  | method
  /-- A method that reads a property. -/
  | getter
  /-- A method that writes a property. -/
  | setter
  /-- A field of a class. -/
  | field
  /-- A field of a class with methods that read and write it. -/
  | accessor
  /-- A block of a class that runs when the class is defined. -/
  | block
  /-- The members of another object. -/
  | spread
  deriving DecidableEq, Repr

mutual

/-- An expression or a pattern. -/
inductive Expr
  /-- Nothing, where an expression may be left out. -/
  | absent
  /-- A variable. -/
  | name (text : String)
  /-- A word that is a value, such as `this`, or several such as `import.meta`. -/
  | keyword (text : String)
  /-- A number. -/
  | number (value : Binary64)
  /-- An integer without bounds. -/
  | bigint (digits : String)
  /-- A string. -/
  | string (value : StringValue)
  /-- A regular expression with its slashes and flags. -/
  | regex (text : String)
  /-- A template: its texts and the values between them. The tag may be absent. -/
  | template (tag : Expr) (texts : List String) (values : List Expr)
  /-- A list of elements. -/
  | array (items : List Expr)
  /-- An object after comments. -/
  | object (comments : List Comment) (members : List Member)
  /-- A function. Its name may be empty. -/
  | function (isAsync isGenerator : Bool) (name : String) (params : List Expr) (body : List Stmt)
  /-- An arrow function that returns a value. -/
  | arrow (isAsync : Bool) (params : List Expr) (value : Expr)
  /-- An arrow function with statements. -/
  | arrowBlock (isAsync : Bool) (params : List Expr) (body : List Stmt)
  /-- A class. Its name may be empty and its base absent. -/
  | classOf (name : String) (base : Expr) (members : List Member)
  /-- An operator before its operand. -/
  | unary (op : String) (operand : Expr)
  /-- An increment or decrement, before or after its operand. -/
  | update (op : String) (before : Bool) (operand : Expr)
  /-- An operator between its operands. -/
  | binary (op : String) (left right : Expr)
  /-- An assignment, or a pattern with a default value. -/
  | assign (op : String) (target value : Expr)
  /-- A choice. -/
  | conditional (test yes no : Expr)
  /-- Expressions of which the last gives the value. -/
  | sequence (items : List Expr)
  /-- A property by its name, which keeps the sign of a private one. -/
  | member (object : Expr) (name : String) (optional : Bool)
  /-- A property by the value of its key. -/
  | index (object key : Expr) (optional : Bool)
  /-- A call. -/
  | call (callee : Expr) (args : List Expr) (optional : Bool)
  /-- A new object. -/
  | construct (callee : Expr) (args : List Expr)
  /-- The whole of a chain with optional links. -/
  | chain (e : Expr)
  /-- An expression in parentheses. -/
  | paren (e : Expr)
  /-- The elements of a value, or the rest of a pattern. -/
  | spread (e : Expr)
  /-- What a generator gives; its value may be absent. -/
  | yield (delegate : Bool) (value : Expr)
  /-- A module that is loaded when it is asked for, perhaps in a phase that is named. -/
  | importCall (phase : String) (args : List Expr)
  /-- An element of markup, and the comments before its end. -/
  | element (tag : Expr) (attributes : List Member) (children : List Expr)
    (remarks : List Comment)
  /-- Elements of markup without a parent, and the comments before their end. -/
  | fragment (children : List Expr) (remarks : List Comment)
  /-- The tag of an element, with a namespace. -/
  | namespaced (space name : String)
  /-- A value that is given another type, which may stand before it. -/
  | cast (leads : Bool) (e : Expr)
  /-- A class or a parameter after decorators. -/
  | decorated (decorators : List Expr) (e : Expr)
  /-- An argument after comments. It may be absent at the end of the arguments. -/
  | noted (comments : List Comment) (e : Expr)
  /-- A call or a new object that can be left out if its value is not used. -/
  | pureCall (e : Expr)
  /-- A function whose calls can be left out if their values are not used. -/
  | pureFunction (e : Expr)

/-- A member of an object or a class, an attribute of an element or a member of an enumeration. -/
inductive Member
  /-- Its leading comments, its decorators, its kind, its key and its value. A method has a function
  as its value. -/
  | mk (comments : List Comment) (decorators : List Expr) (isStatic : Bool) (kind : MemberKind)
    (computed : Bool) (key value : Expr)

/-- A statement. -/
inductive Stmt
  /-- Nothing but its end. -/
  | empty
  /-- The comments at the end of a body. -/
  | remarks (comments : List Comment)
  /-- A statement after comments. -/
  | commented (comments : List Comment) (s : Stmt)
  /-- An expression. -/
  | expr (e : Expr)
  /-- A string at the start of a body, without its quotes. -/
  | directive (raw : String)
  /-- The declaration of a function or a class. -/
  | declaration (e : Expr)
  /-- The declaration of variables, each a pattern or an assignment to one. -/
  | bindings (kind : String) (declarators : List Expr)
  /-- Statements in braces. -/
  | block (body : List Stmt)
  /-- A condition. -/
  | ifThen (test : Expr) (yes : Stmt)
  /-- A choice. -/
  | ifElse (test : Expr) (yes no : Stmt)
  /-- A loop with a start, a test and a step. -/
  | forLoop (start : Stmt) (test step : Expr) (body : Stmt)
  /-- A loop over elements or keys; `link` is the word between the variable and the range. -/
  | forEach (isAwait : Bool) (left : Stmt) (link : String) (range : Expr) (body : Stmt)
  /-- A word and an expression in parentheses before a statement: a loop with its test first, or the
  object whose properties are variables. -/
  | headed (word : String) (head : Expr) (body : Stmt)
  /-- A loop with its test last. -/
  | doLoop (body : Stmt) (test : Expr)
  /-- A return or throw with its value, which may be absent. -/
  | jump (word : String) (value : Expr)
  /-- A break or continue with its label, which may be empty. -/
  | exit (word label : String)
  /-- A statement with a label. -/
  | labeled (label : String) (body : Stmt)
  /-- A choice by value. -/
  | switch (subject : Expr) (clauses : List Clause)
  /-- A block whose failures are caught, or after which something is done. -/
  | attempt (body : List Stmt) (clauses : List Clause)
  /-- An enumeration, with the comments at its end. -/
  | enumeration (name : String) (members : List Member) (remarks : List Comment)
  /-- A space of names after its word, which is an object with what is exported in it. -/
  | space (word name : String) (body : List Stmt)
  /-- The description of another module, which is named by a text. -/
  | outside (body : List Stmt)
  /-- A name for a part of a space of names or for another module. -/
  | alias (name : String) (target : Expr)
  /-- A declaration of a type, as it is written. -/
  | typeDeclaration (name : String) (text : Doc)
  /-- A declaration that says that it is of something elsewhere. -/
  | ambient (s : Stmt)
  /-- A declaration of values, which perhaps exist elsewhere, or of types. Of its statements nothing
  is written. -/
  | erased (isAmbient : Bool) (values types : List String) (body : List Stmt)
  /-- An import, perhaps in a phase that is named. Without bindings it is made for its effects. -/
  | importFrom (phase : String) (bindings : List Binding) (source : StringValue)
    (attributes : Option Attributes)
  /-- Names of another module that are exported. -/
  | exportFrom (specifiers : List ExportSpecifier) (source : StringValue)
    (attributes : Option Attributes)
  /-- All names of another module, perhaps under one name. -/
  | exportAll (name : Option PublicName) (source : StringValue) (attributes : Option Attributes)
  /-- Names of this module that are exported. -/
  | exportNames (specifiers : List ExportSpecifier)
  /-- A declaration that is exported: by its name, as the default export, or because a space of
  names has a name with points. -/
  | exportDeclaration (isNamed : Bool) (s : Stmt)
  /-- The default export. A function or class is declared by it. -/
  | exportDefault (declares : Bool) (e : Expr)
  /-- The value that a module is. -/
  | exportValue (e : Expr)
  /-- An import or export of types, perhaps of another module, and the names it declares. -/
  | typesOnly (types : List String) (source : Option StringValue)

/-- A clause of a choice by value or of an attempt. -/
inductive Clause
  /-- What is done for a value. -/
  | case (value : Expr) (body : List Stmt)
  /-- What is done for the other values. -/
  | default (body : List Stmt)
  /-- What is done about a failure; the pattern for it may be absent. Comments stand before it and
  before its statements. -/
  | handler (comments : List Comment) (param : Expr) (inner : List Comment) (body : List Stmt)
  /-- What is done in the end. -/
  | finalizer (body : List Stmt)

end

/-- A module. -/
structure Program where
  /-- The first line, if it names what runs the module. -/
  hashbang : Option String
  /-- The name of its file without folders and ending. -/
  title : String
  /-- What markup stands for. -/
  factory : Factory
  /-- The names that start with an underscore, of values and of types. -/
  marked : List String
  /-- The statements. -/
  body : List Stmt

/-! ### Shapes -/

/-- Whether an expression is a hole. -/
def Expr.isAbsent : Expr → Bool
  | .absent => true
  | _ => false

/-- An expression without the parentheses around it. -/
def Expr.bare : Expr → Expr
  | .paren e => e.bare
  | e => e

/-- A statement without the comments before it. -/
def Stmt.bare : Stmt → Stmt
  | .commented _ s => s.bare
  | s => s

/-- Whether a statement gives another name to something. -/
def Stmt.isAlias (s : Stmt) : Bool :=
  match s.bare with
  | .alias _ _ => true
  | _ => false

/-- Whether a statement declares an enumeration. -/
def Stmt.isEnumeration (s : Stmt) : Bool :=
  match s.bare with
  | .enumeration _ _ _ => true
  | _ => false

/-- Whether a statement declares a space of names. -/
def Stmt.isSpace (s : Stmt) : Bool :=
  match s.bare with
  | .space _ _ _ => true
  | _ => false

/-- Whether a statement describes another module, even if it says so. -/
def Stmt.isOutside : Stmt → Bool
  | .outside _ => true
  | .erased _ _ _ [s] => s.isOutside
  | .commented _ s => s.isOutside
  | .exportDeclaration _ s => s.isOutside
  | _ => false

/-- Whether a statement is a declaration that plain script does not have. -/
def Stmt.isTyped : Stmt → Bool
  | .erased _ _ _ _ => true
  | .enumeration _ _ _ => true
  | .space _ _ _ => true
  | .typeDeclaration _ _ => true
  | .outside _ => true
  | .alias _ _ => true
  | .exportValue _ => true
  | .typesOnly _ _ => true
  | .commented _ s => s.isTyped
  | .exportDeclaration _ s => s.isTyped
  | _ => false

/-- An expression after comments, if there are any. -/
def Expr.after (comments : List Comment) (e : Expr) : Expr :=
  if comments.isEmpty then e else .noted comments e

/-- A statement after comments, if there are any. -/
def Stmt.after (comments : List Comment) (s : Stmt) : Stmt :=
  if comments.isEmpty then s else .commented comments s

/-- Whether a statement is a directive. -/
def Stmt.isDirective : Stmt → Bool
  | .directive _ => true
  | .commented _ s => s.isDirective
  | _ => false

end LivePreview.Script
