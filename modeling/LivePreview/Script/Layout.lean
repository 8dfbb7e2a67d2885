import LivePreview.Script.Phrase

/-!
# Layout of expressions and statements

How lowered trees are written: a statement a line, tabs for indentation, parentheses only where they
are needed, objects with several members and lists with more than two elements over several lines.

## Main definitions

* `LivePreview.Script.Expr.layout`: an expression or a pattern.
* `LivePreview.Script.Stmt.layout`: a statement.
* `LivePreview.Script.bodyLayout`: the statements of a function or a module.
-/

namespace LivePreview.Script

/-- What the members of an object, a pattern or a class are written as parts of. -/
inductive MemberPlace
  /-- An object. -/
  | object
  /-- A pattern that gives names. -/
  | binding
  /-- A pattern that is assigned to. -/
  | target
  /-- A class. -/
  | classBody
  deriving DecidableEq, Repr

namespace MemberPlace

/-- The members of a pattern. -/
def ofForm : Form → MemberPlace
  | .value => object
  | .binding => binding
  | .target => target

/-- What the value of a member is. -/
def form : MemberPlace → Form
  | binding => .binding
  | target => .target
  | _ => .value

end MemberPlace

/-- What stands before a call that can be left out if its value is not used. -/
def pureMark : String := "/* @__PURE__ */ "

/-- What stands before a function whose calls can be left out if their values are not used. -/
def pureFunctionMark : String := "/* @__NO_SIDE_EFFECTS__ */"

mutual

/-- How an expression or pattern is written. -/
def Expr.layout (p : Place) : Expr → Doc
  | .absent => ""
  | .name text => text
  | .keyword text => text
  | .number value => numberDoc p.level value
  | .bigint digits => digits ++ "n"
  | .string value => stringText value
  | .regex text => text
  | .template tag texts values =>
    tag.layout p.callee ++ "`" ++ templateLayout p.depth texts values ++ "`"
  | .array items =>
    if p.form == .value then
      listDoc p.depth items (layouts (partDepth p.depth 2 items.length) .value items)
    else arrayPatternDoc p.form items (layouts p.depth p.form items)
  | .object comments members =>
    if p.form == .value then
      .parens (p.startsLikeBlock || !comments.isEmpty) <|
        (if comments.isEmpty then Doc.text ""
          else commentsDoc p.depth comments ++ .margin p.depth) ++
          .members p.depth
            (memberLayouts .object p.limits (partDepth p.depth 1 members.length) members)
    else patternDoc p.form (memberLayouts (.ofForm p.form) .none p.depth members)
  | .function isAsync isGenerator name params body =>
    let limits := p.limits.withCalls
    .parens p.startsLikeDeclaration <|
      functionWords isAsync isGenerator name ++ "(" ++
        Doc.commas (layoutsAt (.given p.depth limits) params) ++ ") " ++
        bodyDoc p.depth body (bodyLayout limits (p.depth + 1) body)
  | .arrow isAsync params value =>
    .parens (Level.assign ≤ p.level) <|
      (if isAsync then "async (" else "(") ++
        Doc.commas (layoutsAt (.given p.depth p.limits) params) ++ ") => " ++
        value.layout { p.later Level.comma with lead := .arrow }
  | .arrowBlock isAsync params body =>
    .parens (Level.assign ≤ p.level) <|
      (if isAsync then "async (" else "(") ++
        Doc.commas (layoutsAt (.given p.depth p.limits) params) ++ ") => " ++
        bodyDoc p.depth body (bodyLayout p.limits (p.depth + 1) body)
  | .classOf name base members =>
    .parens p.startsLikeDeclaration <|
      "class" ++ (if name.isEmpty then "" else " " ++ name) ++
        (if base.isAbsent then Doc.text ""
          else " extends " ++ base.layout (.inner p.depth Level.after)) ++
        " " ++ Doc.braced p.depth members.isEmpty
          (.concat (memberLayouts .classBody p.limits.withCalls (p.depth + 1) members))
  | .unary op operand =>
    .parens (Level.before ≤ p.level) <|
      match op, operand with
      | "delete", .number (.infinite false) => "delete (0, Infinity)"
      | op, operand => operatorDoc op operand (operand.layout (p.later Level.power))
  | .update op before operand =>
    let wrap := (if before then Level.before else Level.after) ≤ p.level
    .parens wrap <|
      if before then operatorDoc op operand (operand.layout (p.later Level.before))
      else operand.layout ((p.inParens wrap).first Level.after) ++ op
  | .binary op left right =>
    if left.isPrivateName then
      .parens (Level.power ≤ p.level) <|
        left.layout (.inner p.depth Level.lowest) ++ " in " ++
          right.layout { Place.inner p.depth (Level.compare - 1) with limits := .loopStart }
    else
      let own := (levelOf? op).getD Level.compare
      let wrap := own ≤ p.level || (op == "in" && p.limits.inLoopStart)
      let p := p.inClosedParens wrap
      .parens wrap <|
        left.layout (p.first (leftLevel op own left)) ++ " " ++ op ++ " " ++
          right.layout (p.later (rightLevel op own right))
  | .assign op target value =>
    if p.form == .value then
      let isObject := match target with
        | .object _ _ => true
        | _ => false
      let wrap := Level.assign ≤ p.level || (p.startsLikeBlock && isObject)
      .parens wrap <|
        target.layout { (p.inParens wrap).first Level.comma with form := .target } ++ " " ++ op ++
          " " ++ value.layout (p.later Level.comma)
    else
      target.layout { p.first Level.comma with form := p.form } ++ " " ++ op ++ " " ++
        value.layout (p.later Level.comma)
  | .conditional test yes no =>
    let wrap := Level.conditional ≤ p.level
    let p := p.inClosedParens wrap
    .parens wrap <|
      test.layout (p.test Level.conditional) ++ " ? " ++
        yes.layout (.inner p.depth Level.yield) ++ " : " ++ no.layout (p.operand Level.yield)
  | .sequence items =>
    let wrap := Level.comma ≤ p.level
    .parens wrap (.commas (sequenceLayouts ((p.inParens wrap).test Level.lowest) items))
  | .member object name optional =>
    let point := if optional then "?." else if needsSpaceBeforePoint object then " ." else "."
    object.layout p.object ++ point ++ name
  | .index object key optional =>
    let isKeyword := match object with
      | .name text => text == "let"
      | _ => false
    .parens isKeyword (object.layout p.object) ++ (if optional then "?.[" else "[") ++
      key.layout (.inner p.depth Level.lowest) ++ "]"
  | .call callee args optional =>
    .parens (Level.new ≤ p.level || p.limits.inNew) <|
      callee.layout p.callee ++ (if optional then "?." else "") ++
        argumentsDoc p.depth args (layouts (if haveNotes args then p.depth + 1 else p.depth) .value
          args)
  | .construct callee args =>
    .parens (args.isEmpty && Level.new ≤ p.level) <|
      "new " ++ callee.layout { Place.inner p.depth Level.new with limits := .newObject } ++
        argumentsDoc p.depth args (layouts (if haveNotes args then p.depth + 1 else p.depth) .value
          args)
  | .chain e =>
    let wrap := Level.after ≤ p.level
    .parens wrap (e.layout (p.inParens wrap))
  | .paren (.pureFunction e) =>
    pureFunctionMark ++ " (" ++
      e.layout { Place.inner p.depth Level.lowest with limits := p.limits } ++ ")"
  | .paren e => "(" ++ e.layout { Place.inner p.depth Level.lowest with limits := p.limits } ++ ")"
  | .spread e => "..." ++ e.layout (.part p.depth p.form)
  | .yield delegate value =>
    .parens (Level.assign ≤ p.level) <|
      (if delegate then "yield*" else "yield") ++
        if value.isAbsent then Doc.text "" else " " ++ value.layout (.inner p.depth Level.yield)
  | .importCall phase args =>
    .parens (Level.new ≤ p.level || p.limits.inNew) <|
      "import" ++ (if phase.isEmpty then "" else "." ++ phase) ++ importArgumentsDoc p.depth args
        (layouts (if haveNotes args then p.depth + 1 else p.depth) .value args)
  | .pureCall e =>
    let isNew := match e with
      | .construct _ _ => true
      | _ => false
    .parens (Level.after ≤ p.level || (p.limits.inNew && !isNew)) <|
      pureMark ++ e.layout { p with level := Level.lowest, limits := p.limits.withCalls }
  | .pureFunction e => pureFunctionMark ++ " " ++ e.layout (p.later p.level)
  | .noted _ e => e.layout p
  | .cast _ e => e.layout p
  | .decorated decorators e =>
    .parens p.startsLikeDeclaration <|
      decoratorsDoc (layoutsAt (.inner p.depth Level.lowest) decorators) ++
        e.layout { p with lead := .none }
  | .element _ _ _ _ => ""
  | .fragment _ _ => ""
  | .namespaced space name => space ++ ":" ++ name

/-- How expressions or patterns between commas are written. -/
def layouts (depth : Nat) (form : Form) : List Expr → List Doc
  | [] => []
  | e :: l => e.layout (.part depth form) :: layouts depth form l

/-- How expressions or patterns are written that are all at one place. -/
def layoutsAt (p : Place) : List Expr → List Doc
  | [] => []
  | e :: l => e.layout p :: layoutsAt p l

/-- How the parts of a sequence are written. -/
def sequenceLayouts (p : Place) : List Expr → List Doc
  | [] => []
  | e :: l => e.layout p :: sequenceLayouts (p.later Level.lowest) l

/-- How the stretches of a template and the values between them are written. -/
def templateLayout (depth : Nat) (texts : List String) : List Expr → Doc
  | [] => "".intercalate (texts.map verbatim)
  | e :: l =>
    "".intercalate ((texts.take 1).map verbatim) ++ "$\x7b" ++
      e.layout (.inner depth Level.lowest) ++ "\x7d" ++ templateLayout depth (texts.drop 1) l

/-- How the members of an object, a pattern or a class are written. -/
def memberLayouts (place : MemberPlace) (limits : Limits) (depth : Nat) : List Member → List Doc
  | [] => []
  | m :: l => m.layout place limits depth :: memberLayouts place limits depth l

/-- How a member of an object or a pattern is written, or one of a class with its lines. -/
def Member.layout (place : MemberPlace) (limits : Limits) (depth : Nat) : Member → Doc
  | .mk comments decorators isStatic kind computed key value =>
    let keyPart := keyDoc computed (key.layout (.inner depth Level.comma))
    let written : Doc := match kind with
      | .spread => value.layout (.part depth place.form)
      | .shorthand => keyPart ++ valueDoc value (value.layout (.inner depth Level.comma))
      | .property =>
        let valuePart := value.layout (.part depth place.form)
        if place == .binding && isPatternShorthand computed key value then valuePart
        else if place == .object && isShorthand computed key value then keyPart
        else if place == .object && isUnusualKey key then
          keyDoc true (key.layout (.inner depth Level.comma)) ++ ": " ++ valuePart
        else keyPart ++ ": " ++ valuePart
      | .block =>
        match value with
        | .function _ _ _ _ body =>
          "static " ++
            Doc.braced depth body.isEmpty (statementsLayout limits (depth + 1) .line body)
        | _ => ""
      | kind =>
        decoratorsDoc (layoutsAt (.inner depth Level.lowest) decorators) ++
          memberWords isStatic kind ++
          if isField kind then
            keyPart ++ valueDoc value (value.layout (.inner depth Level.comma)) ++ ";"
          else
            match value with
            | .function isAsync isGenerator _ params body =>
              methodWords isAsync isGenerator ++ keyPart ++ "(" ++
                Doc.commas (layoutsAt (.given depth limits) params) ++ ") " ++
                bodyDoc depth body (bodyLayout limits (depth + 1) body)
            | _ => ""
    if place == .classBody then commentsDoc depth comments ++ .margin depth ++ written ++ "\n"
    else written

/-- How a statement is written at a place. -/
def Stmt.layout (limits : Limits) (depth : Nat) (start : Start) : Stmt → Doc
  | .empty =>
    match start with
    | .body => ";\n"
    | .head => ""
    | start => start.before depth ++ ";\n"
  | .remarks comments => commentsDoc depth comments ++ Doc.stop
  | .commented comments s =>
    if start == .branch || (start == .body && s.standsClose) ||
        (start == .otherwise && s.isCondition) then s.layout limits depth start
    else if start == .otherwise then " " ++ s.layout limits depth start
    else
      (if start == .body then Doc.goOn else "") ++ commentsDoc depth comments ++
        s.layout limits depth .line
  | .expr e =>
    match start with
    | .head => e.layout (.head depth limits .value)
    | .target => .parens e.isAsyncName (e.layout (.head depth limits .target))
    | start => start.before depth ++ e.layout (.statement depth) ++ ";\n"
  | .directive raw => start.before depth ++ directiveText raw ++ ";\n"
  | .declaration e =>
    let p : Place := { Place.inner depth Level.lowest with limits }
    match e with
    | .pureFunction e =>
      (if start == .exported then Doc.text "" else .margin depth) ++ pureFunctionMark ++ "\n" ++
        start.before depth ++ e.layout p ++ "\n"
    | e => start.before depth ++ e.layout p ++ "\n"
  | .bindings kind declarators =>
    start.before depth ++ kind ++ " " ++
      Doc.commas (layoutsAt (.given depth limits) declarators) ++
      if start.isInHead then Doc.text "" else ";\n"
  | .block body =>
    start.beforeBlock depth ++
      Doc.braced depth body.isEmpty (statementsLayout limits (depth + 1) .line body) ++
      if start == .branch then Doc.text "" else "\n"
  | .ifThen test yes =>
    let (inner, innerStart) := branchStart depth yes
    start.before depth ++ "if (" ++ test.layout (.inner depth Level.lowest) ++ ")" ++
      branchDoc depth yes (yes.layout limits inner innerStart) ++
      if yes.isBraced then Doc.text "\n" else ""
  | .ifElse test yes no =>
    let (inner, innerStart) := branchStart depth yes
    start.before depth ++ "if (" ++ test.layout (.inner depth Level.lowest) ++ ")" ++
      branchDoc depth yes (yes.layout limits inner innerStart) ++
      (if yes.isBraced then Doc.text " " else .margin depth) ++ "else" ++
      (if no.isCondition then Doc.text " " else "") ++
      no.layout limits depth (if no.isCondition then .otherwise else .body)
  | .forLoop first test step body =>
    start.before depth ++ "for (" ++ first.layout .loopStart depth .head ++ ";" ++
      (if test.isAbsent then Doc.text "" else " " ++ test.layout (.inner depth Level.lowest)) ++
      ";" ++
      (if step.isAbsent then Doc.text "" else " " ++ step.layout (.inner depth Level.lowest)) ++
      ")" ++ body.layout limits depth .body
  | .forEach isAwait left link range body =>
    start.before depth ++ (if isAwait then "for await (" else "for (") ++
      left.layout limits depth .target ++ " " ++ link ++ " " ++
      range.layout (.inner depth (if link == "of" then Level.comma else Level.lowest)) ++ ")" ++
      body.layout limits depth .body
  | .headed word head body =>
    start.before depth ++ headWord word ++ "(" ++ head.layout (.inner depth Level.lowest) ++ ")" ++
      body.layout limits depth .body
  | .doLoop body test =>
    let (inner, innerStart) := doStart depth body
    start.before depth ++ "do" ++ doDoc depth body (body.layout limits inner innerStart) ++
      "while (" ++ test.layout (.inner depth Level.lowest) ++ ");\n"
  | .jump word value =>
    start.before depth ++ word ++
      (if value.isAbsent then Doc.text "" else " " ++ value.layout (.inner depth Level.lowest)) ++
      ";\n"
  | .exit word label =>
    start.before depth ++ word ++ (if label.isEmpty then "" else " " ++ label) ++ ";\n"
  | .labeled label body => start.before depth ++ label ++ ":" ++ body.layout limits depth .body
  | .switch subject clauses =>
    start.before depth ++ "switch (" ++ subject.layout (.inner depth Level.lowest) ++ ") " ++
      Doc.braced depth clauses.isEmpty (clausesLayout limits (depth + 1) clauses) ++ "\n"
  | .attempt body clauses =>
    start.before depth ++ "try " ++
      Doc.braced depth body.isEmpty (statementsLayout limits (depth + 1) .line body) ++
      clausesLayout limits depth clauses ++ "\n"
  | .importFrom phase imports source attributes =>
    start.before depth ++ "import " ++ (if phase.isEmpty then "" else phase ++ " ") ++
      bindingsDoc imports ++ sourceDoc source attributes ++ ";\n"
  | .exportFrom specifiers source attributes =>
    start.before depth ++ "export " ++ specifiersDoc depth specifiers ++ " from " ++
      sourceDoc source attributes ++ ";\n"
  | .exportAll name source attributes =>
    start.before depth ++ "export *" ++ (name.elim "" fun name => " as " ++ name.written) ++
      " from " ++ sourceDoc source attributes ++ ";\n"
  | .exportNames specifiers =>
    start.before depth ++ "export " ++ specifiersDoc depth specifiers ++ ";\n"
  | .exportDeclaration _ s => s.layout limits depth .exported
  | .exportDefault declares e =>
    match declares, e with
    | true, .pureFunction e =>
      pureFunctionMark ++ "\n" ++ start.before depth ++ "export default " ++
        e.layout (.inner depth Level.comma) ++ "\n"
    | declares, e =>
      start.before depth ++ "export default " ++
      if declares then e.layout (.inner depth Level.comma) ++ "\n"
      else e.layout { Place.inner depth Level.comma with lead := .defaultExport } ++ ";\n"
  | .enumeration _ _ _ => ""
  | .space word name body =>
    start.before depth ++ word ++ " " ++ name ++ " " ++
      Doc.braced depth body.isEmpty (statementsLayout limits (depth + 1) .line body) ++ "\n"
  | .typeDeclaration _ text => start.before depth ++ text.indented depth ++ "\n"
  | .ambient s =>
    start.before depth ++ "declare" ++ Doc.goOn ++ s.layout limits depth .line
  | .alias _ _ => ""
  | .erased _ _ _ _ => ""
  | .outside _ => ""
  | .exportValue _ => ""
  | .typesOnly _ _ => ""

/-- How statements are written. -/
def statementsLayout (limits : Limits) (depth : Nat) (start : Start) : List Stmt → Doc
  | [] => ""
  | s :: l => s.layout limits depth start ++ statementsLayout limits depth start l

/-- How the statements of a function or a module are written. A string at their start is no
directive; it stands in parentheses. -/
def bodyLayout (limits : Limits) (depth : Nat) : List Stmt → Doc
  | [] => ""
  | s :: l =>
    (match s.string? with
    | some value => Doc.text ("(" ++ stringText value ++ ");\n")
    | none => s.layout limits depth .line) ++ statementsLayout limits depth .line l

/-- How clauses are written. -/
def clausesLayout (limits : Limits) (depth : Nat) : List Clause → Doc
  | [] => ""
  | c :: l => c.layout limits depth ++ clausesLayout limits depth l

/-- How a clause is written. -/
def Clause.layout (limits : Limits) (depth : Nat) : Clause → Doc
  | .case value body =>
    let (inner, start) := clauseStart depth body
    Doc.margin depth ++ "case " ++ value.layout (.inner depth Level.lowest) ++ ":" ++
      clauseDoc body (statementsLayout limits inner start body)
  | .default body =>
    let (inner, start) := clauseStart depth body
    Doc.margin depth ++ "default:" ++ clauseDoc body (statementsLayout limits inner start body)
  | .handler comments param inner body =>
    " " ++ commentsDoc depth comments ++ "catch" ++
      (if param.isAbsent then Doc.text ""
        else " (" ++ param.layout (.part depth .binding) ++ ")") ++
      " " ++ commentsDoc depth inner ++ Doc.settle ++
      Doc.braced depth body.isEmpty (statementsLayout limits (depth + 1) .line body)
  | .finalizer body =>
    " finally " ++ Doc.braced depth body.isEmpty (statementsLayout limits (depth + 1) .line body)

end

end LivePreview.Script
