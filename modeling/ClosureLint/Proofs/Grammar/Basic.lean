import ClosureLint.Syntax.Reading.Items

/-!
# The grammar

What it means that a run of tokens is a path, a type, a pattern, an expression or an item. Each
relation has one rule for each way to write the construct, and gives the tree, with the extent of
every node, and the late faults in the order in which they are reported. A node covers the tokens
of its rule; parentheses leave no node, so what they enclose keeps its own extent.

* `IsPath`, `IsType`, `IsPattern`, `IsClosureParam` — the parts of expressions and items.
* `IsExpr`, `IsUnary`, `IsPostfix`, `IsAtom` — the levels of an expression, from loose to tight. A
  field is never called: a parenthesis behind `.name` belongs to a method call.
* `IsStmts`, `IsFunction`, `IsMethods`, `IsItems` — bodies and items.
-/

namespace ClosureLint.Syntax

/-- Where the last of `ts` stops. -/
def stopOf (ts : List Token) : Pos := (ts.getLast?.map Token.stop).getD {}

/-- The extent of the tokens `ts`. -/
def extentOf (ts : List Token) : Loc := .between (startOf ts) (stopOf ts)

@[simp] theorem startOf_cons (t : Token) (ts : List Token) : startOf (t :: ts) = t.start := rfl

@[simp] theorem stopOf_singleton (t : Token) : stopOf [t] = t.stop := rfl

@[simp] theorem stopOf_append_cons (ts : List Token) (t : Token) (us : List Token) :
    stopOf (ts ++ t :: us) = stopOf (t :: us) := by
  simp [stopOf, List.getLast?_append, List.getLast?_cons]

@[simp] theorem stopOf_cons_cons (t u : Token) (ts : List Token) :
    stopOf (t :: u :: ts) = stopOf (u :: ts) := by
  simp [stopOf, List.getLast?_cons_cons]

theorem stopOf_append (ts : List Token) {us : List Token} (h : us ≠ []) :
    stopOf (ts ++ us) = stopOf us := by
  obtain ⟨u, us, rfl⟩ := List.exists_cons_of_ne_nil h
  exact stopOf_append_cons ts u us

theorem stopOf_cons (t : Token) {us : List Token} (h : us ≠ []) :
    stopOf (t :: us) = stopOf us := stopOf_append [t] h

theorem startOf_append {ts : List Token} (us : List Token) (h : ts ≠ []) :
    startOf (ts ++ us) = startOf ts := by
  obtain ⟨t, ts, rfl⟩ := List.exists_cons_of_ne_nil h
  rfl

/-! ### Words, paths and literals -/

/-- An optional token of kind `k`, and whether it is there. -/
inductive IsOptional (k : TokenKind) : List Token → Bool → Prop
  | absent : IsOptional k [] false
  | present {t : Token} : t.kind = k → IsOptional k [t] true

/-- Names with `::` between them. -/
inductive IsPath : List Token → Path → Prop
  | single {t : Token} : t.kind = .name → IsPath [t] [t.text]
  | cons {t colons : Token} {ts : List Token} {p : Path} :
    t.kind = .name → colons.kind = .doubleColon → IsPath ts p →
    IsPath (t :: colons :: ts) (t.text :: p)

/-- The value of an integer token. -/
def intValue (t : Token) : Int := digitsValue t.text.toList

/-- The late faults of an integer token. -/
def intLate (t : Token) : List LateFault :=
  if maxDigits < t.text.toList.length then [.longNumber t.text.toList.length] else []

/-- The value of a string token. One whose escapes are wrong has none. -/
def stringValue (t : Token) : List Nat :=
  match Text.unescape (stringContent t.text) with
  | .ok points => points
  | .error _ => []

/-- The late faults of a string token. -/
def stringLate (t : Token) : List LateFault :=
  match Text.unescape (stringContent t.text) with
  | .ok _ => []
  | .error e => [.badEscape e]

/-! ### Types -/

mutual

/-- A written type. -/
inductive IsType : List Token → TypeExpr → List LateFault → Prop
  | ref {amp : Token} {ms ts : List Token} {isMut : Bool} {inner : TypeExpr}
      {late : List LateFault} :
    amp.kind = .ampersand → IsOptional .mutWord ms isMut → IsType ts inner late →
    IsType (amp :: (ms ++ ts)) (.ref (extentOf (amp :: (ms ++ ts))) isMut inner) late
  | array {op semicolon n cl : Token} {ts : List Token} {elem : TypeExpr}
      {late : List LateFault} :
    op.kind = .leftBracket → IsType ts elem late → semicolon.kind = .semicolon →
    n.kind = .int → cl.kind = .rightBracket →
    IsType (op :: (ts ++ [semicolon, n, cl]))
      (.array (extentOf (op :: (ts ++ [semicolon, n, cl]))) elem (intValue n))
      (late ++ intLate n)
  | slice {op cl : Token} {ts : List Token} {elem : TypeExpr} {late : List LateFault} :
    op.kind = .leftBracket → IsType ts elem late → cl.kind = .rightBracket →
    IsType (op :: (ts ++ [cl])) (.slice (extentOf (op :: (ts ++ [cl]))) elem) late
  | unit {op cl : Token} :
    op.kind = .leftParen → cl.kind = .rightParen →
    IsType [op, cl] (.tuple (extentOf [op, cl]) []) []
  | tuple {op comma : Token} {ts us : List Token} {first : TypeExpr} {others : List TypeExpr}
      {late late' : List LateFault} :
    op.kind = .leftParen → IsType ts first late → comma.kind = .comma →
    IsTypesClosing us others late' →
    IsType (op :: (ts ++ comma :: us))
      (.tuple (extentOf (op :: (ts ++ comma :: us))) (first :: others)) (late ++ late')
  | paren {op cl : Token} {ts : List Token} {t : TypeExpr} {late : List LateFault} :
    op.kind = .leftParen → IsType ts t late → cl.kind = .rightParen →
    IsType (op :: (ts ++ [cl])) t late
  | unsafeFnPtr {word fn : Token} {ts : List Token} {params : List TypeExpr}
      {ret : Option TypeExpr} {late : List LateFault} :
    word.kind = .unsafeWord → fn.kind = .fnWord → IsSignature ts params ret late →
    IsType (word :: fn :: ts) (.fnPtr (extentOf (word :: fn :: ts)) true params ret) late
  | fnPtr {fn : Token} {ts : List Token} {params : List TypeExpr} {ret : Option TypeExpr}
      {late : List LateFault} :
    fn.kind = .fnWord → IsSignature ts params ret late →
    IsType (fn :: ts) (.fnPtr (extentOf (fn :: ts)) false params ret) late
  | named {ts : List Token} {p : Path} :
    IsPath ts p → IsType ts (.named (extentOf ts) p []) []
  | generic {less : Token} {ts us : List Token} {p : Path} {args : List TypeExpr}
      {late : List LateFault} :
    IsPath ts p → less.kind = .less → IsTypeArgs us args late →
    IsType (ts ++ less :: us) (.named (extentOf (ts ++ less :: us)) p args) late

/-- The parameters and result of a function type. -/
inductive IsSignature : List Token → List TypeExpr → Option TypeExpr → List LateFault → Prop
  | unit {op : Token} {ts : List Token} {params : List TypeExpr} {late : List LateFault} :
    op.kind = .leftParen → IsTypesClosing ts params late →
    IsSignature (op :: ts) params none late
  | ret {op arrow : Token} {ts us : List Token} {params : List TypeExpr} {ret : TypeExpr}
      {late late' : List LateFault} :
    op.kind = .leftParen → IsTypesClosing ts params late → arrow.kind = .arrow →
    IsType us ret late' →
    IsSignature (op :: (ts ++ arrow :: us)) params (some ret) (late ++ late')

/-- Types with commas between them, perhaps one behind the last, and a closing parenthesis. -/
inductive IsTypesClosing : List Token → List TypeExpr → List LateFault → Prop
  | nil {cl : Token} : cl.kind = .rightParen → IsTypesClosing [cl] [] []
  | last {cl : Token} {ts : List Token} {t : TypeExpr} {late : List LateFault} :
    IsType ts t late → cl.kind = .rightParen → IsTypesClosing (ts ++ [cl]) [t] late
  | cons {comma : Token} {ts us : List Token} {t : TypeExpr} {others : List TypeExpr}
      {late late' : List LateFault} :
    IsType ts t late → comma.kind = .comma → IsTypesClosing us others late' →
    IsTypesClosing (ts ++ comma :: us) (t :: others) (late ++ late')

/-- One or more types with commas between them, and `>`. -/
inductive IsTypeArgs : List Token → List TypeExpr → List LateFault → Prop
  | last {cl : Token} {ts : List Token} {t : TypeExpr} {late : List LateFault} :
    IsType ts t late → cl.kind = .greater → IsTypeArgs (ts ++ [cl]) [t] late
  | cons {comma : Token} {ts us : List Token} {t : TypeExpr} {others : List TypeExpr}
      {late late' : List LateFault} :
    IsType ts t late → comma.kind = .comma → IsTypeArgs us others late' →
    IsTypeArgs (ts ++ comma :: us) (t :: others) (late ++ late')

end

/-- A type behind a token of kind `k`, or nothing. -/
inductive IsOptionalType (k : TokenKind) :
    List Token → Option TypeExpr → List LateFault → Prop
  | absent : IsOptionalType k [] none []
  | present {mark : Token} {ts : List Token} {t : TypeExpr} {late : List LateFault} :
    mark.kind = k → IsType ts t late → IsOptionalType k (mark :: ts) (some t) late

/-! ### Patterns and closure parameters -/

mutual

/-- The pattern of a closure parameter. -/
inductive IsPattern : List Token → Pattern → Prop
  | mutBinding {word name : Token} :
    word.kind = .mutWord → name.kind = .name →
    IsPattern [word, name] (.binding (extentOf [word, name]) true name.text)
  | binding {name : Token} :
    name.kind = .name → IsPattern [name] (.binding (extentOf [name]) false name.text)
  | wildcard {t : Token} : t.kind = .underscore → IsPattern [t] (.wildcard (extentOf [t]))
  | ref {amp : Token} {ts : List Token} {inner : Pattern} :
    amp.kind = .ampersand → IsPattern ts inner →
    IsPattern (amp :: ts) (.ref (extentOf (amp :: ts)) inner)
  | tuple {op comma : Token} {ts us : List Token} {first : Pattern} {others : List Pattern} :
    op.kind = .leftParen → IsPattern ts first → comma.kind = .comma →
    IsPatternsClosing us others →
    IsPattern (op :: (ts ++ comma :: us))
      (.tuple (extentOf (op :: (ts ++ comma :: us))) (first :: others))
  | paren {op cl : Token} {ts : List Token} {p : Pattern} :
    op.kind = .leftParen → IsPattern ts p → cl.kind = .rightParen →
    IsPattern (op :: (ts ++ [cl])) p

/-- Patterns with commas between them, perhaps one behind the last, and a closing parenthesis. -/
inductive IsPatternsClosing : List Token → List Pattern → Prop
  | nil {cl : Token} : cl.kind = .rightParen → IsPatternsClosing [cl] []
  | last {cl : Token} {ts : List Token} {p : Pattern} :
    IsPattern ts p → cl.kind = .rightParen → IsPatternsClosing (ts ++ [cl]) [p]
  | cons {comma : Token} {ts us : List Token} {p : Pattern} {others : List Pattern} :
    IsPattern ts p → comma.kind = .comma → IsPatternsClosing us others →
    IsPatternsClosing (ts ++ comma :: us) (p :: others)

end

/-- A closure parameter. -/
inductive IsClosureParam : List Token → ClosureParam → List LateFault → Prop
  | mk {ts us : List Token} {p : Pattern} {declared : Option TypeExpr} {late : List LateFault} :
    IsPattern ts p → IsOptionalType .colon us declared late →
    IsClosureParam (ts ++ us) ⟨extentOf (ts ++ us), p, declared⟩ late

/-- Closure parameters with commas between them, perhaps one behind the last, and a bar. -/
inductive IsClosureParams : List Token → List ClosureParam → List LateFault → Prop
  | nil {cl : Token} : cl.kind = .bar → IsClosureParams [cl] [] []
  | last {cl : Token} {ts : List Token} {p : ClosureParam} {late : List LateFault} :
    IsClosureParam ts p late → cl.kind = .bar → IsClosureParams (ts ++ [cl]) [p] late
  | cons {comma : Token} {ts us : List Token} {p : ClosureParam} {others : List ClosureParam}
      {late late' : List LateFault} :
    IsClosureParam ts p late → comma.kind = .comma → IsClosureParams us others late' →
    IsClosureParams (ts ++ comma :: us) (p :: others) (late ++ late')

/-! ### Expressions -/

mutual

/-- An expression: a closure, or something tighter. -/
inductive IsExpr : List Token → Expr → List LateFault → Prop
  | closure {bar : Token} {ps rs bs : List Token} {params : List ClosureParam}
      {ret : Option TypeExpr} {body : Expr} {late late' late'' : List LateFault} :
    bar.kind = .bar → IsClosureParams ps params late → IsOptionalType .arrow rs ret late' →
    IsExpr bs body late'' →
    IsExpr (bar :: (ps ++ (rs ++ bs)))
      (.closure (extentOf (bar :: (ps ++ (rs ++ bs)))) params ret body)
      (late ++ (late' ++ late''))
  | unary {ts : List Token} {e : Expr} {late : List LateFault} :
    IsUnary ts e late → IsExpr ts e late

/-- A borrow, a dereference, or something tighter. -/
inductive IsUnary : List Token → Expr → List LateFault → Prop
  | borrow {amp : Token} {ms ts : List Token} {isMut : Bool} {e : Expr}
      {late : List LateFault} :
    amp.kind = .ampersand → IsOptional .mutWord ms isMut → IsUnary ts e late →
    IsUnary (amp :: (ms ++ ts)) (.borrow (extentOf (amp :: (ms ++ ts))) isMut e) late
  | deref {star : Token} {ts : List Token} {e : Expr} {late : List LateFault} :
    star.kind = .star → IsUnary ts e late →
    IsUnary (star :: ts) (.deref (extentOf (star :: ts)) e) late
  | chain {bare : Bool} {ts : List Token} {e : Expr} {late : List LateFault} :
    IsPostfix bare ts e late → IsUnary ts e late

/-- An atom with calls, method calls and fields behind it. `bare` is set when the last of these is
a field. -/
inductive IsPostfix : (bare : Bool) → List Token → Expr → List LateFault → Prop
  | atom {ts : List Token} {e : Expr} {late : List LateFault} :
    IsAtom ts e late → IsPostfix false ts e late
  | call {op : Token} {ts us : List Token} {callee : Expr} {args : List Expr}
      {late late' : List LateFault} :
    IsPostfix false ts callee late → op.kind = .leftParen → IsArgs us args late' →
    IsPostfix false (ts ++ op :: us) (.call (extentOf (ts ++ op :: us)) callee args)
      (late ++ late')
  | methodCall {bare : Bool} {dot name op : Token} {ts us : List Token} {receiver : Expr}
      {args : List Expr} {late late' : List LateFault} :
    IsPostfix bare ts receiver late → dot.kind = .dot → name.kind = .name →
    op.kind = .leftParen → IsArgs us args late' →
    IsPostfix false (ts ++ dot :: name :: op :: us)
      (.methodCall (extentOf (ts ++ dot :: name :: op :: us)) receiver name.text args)
      (late ++ late')
  | field {bare : Bool} {dot name : Token} {ts : List Token} {subject : Expr}
      {late : List LateFault} :
    IsPostfix bare ts subject late → dot.kind = .dot → name.kind = .name →
    IsPostfix true (ts ++ [dot, name]) (.field (extentOf (ts ++ [dot, name])) subject name.text)
      late

/-- A path, `self`, a literal, a macro invocation, or an expression in parentheses. -/
inductive IsAtom : List Token → Expr → List LateFault → Prop
  | path {ts : List Token} {p : Path} : IsPath ts p → IsAtom ts (.path (extentOf ts) p) []
  | selfWord {t : Token} :
    t.kind = .selfWord → IsAtom [t] (.path (extentOf [t]) ["self"]) []
  | int {t : Token} : t.kind = .int → IsAtom [t] (.int (extentOf [t]) (intValue t)) (intLate t)
  | string {t : Token} :
    t.kind = .string → IsAtom [t] (.str (extentOf [t]) (stringValue t)) (stringLate t)
  | macroCall {name bang op cl : Token} {ts : List Token} {e : Expr} {late : List LateFault} :
    name.kind = .name → bang.kind = .bang → op.kind = .leftParen → IsExpr ts e late →
    cl.kind = .rightParen →
    IsAtom (name :: bang :: op :: (ts ++ [cl]))
      (.macroCall (extentOf (name :: bang :: op :: (ts ++ [cl]))) name.text e) late
  | paren {op cl : Token} {ts : List Token} {e : Expr} {late : List LateFault} :
    op.kind = .leftParen → IsExpr ts e late → cl.kind = .rightParen →
    IsAtom (op :: (ts ++ [cl])) e late

/-- Arguments with commas between them, perhaps one behind the last, and a closing parenthesis. -/
inductive IsArgs : List Token → List Expr → List LateFault → Prop
  | nil {cl : Token} : cl.kind = .rightParen → IsArgs [cl] [] []
  | last {cl : Token} {ts : List Token} {e : Expr} {late : List LateFault} :
    IsExpr ts e late → cl.kind = .rightParen → IsArgs (ts ++ [cl]) [e] late
  | cons {comma : Token} {ts us : List Token} {e : Expr} {others : List Expr}
      {late late' : List LateFault} :
    IsExpr ts e late → comma.kind = .comma → IsArgs us others late' →
    IsArgs (ts ++ comma :: us) (e :: others) (late ++ late')

end

/-! ### Statements and items -/

/-- A statement. -/
inductive IsStmt : List Token → Stmt → List LateFault → Prop
  | letStmt {word name equal semicolon : Token} {ms ds vs : List Token} {isMut : Bool}
      {declared : Option TypeExpr} {value : Expr} {late late' : List LateFault} :
    word.kind = .letWord → IsOptional .mutWord ms isMut → name.kind = .name →
    IsOptionalType .colon ds declared late → equal.kind = .equal → IsExpr vs value late' →
    semicolon.kind = .semicolon →
    IsStmt (word :: (ms ++ name :: (ds ++ equal :: (vs ++ [semicolon]))))
      (.letStmt (extentOf (word :: (ms ++ name :: (ds ++ equal :: (vs ++ [semicolon]))))) isMut
        name.text declared value)
      (late ++ late')
  | exprStmt {semicolon : Token} {ts : List Token} {e : Expr} {late : List LateFault} :
    IsExpr ts e late → semicolon.kind = .semicolon →
    IsStmt (ts ++ [semicolon]) (.exprStmt (extentOf (ts ++ [semicolon])) e) late

/-- Statements and a closing brace. -/
inductive IsStmts : List Token → List Stmt → List LateFault → Prop
  | nil {cl : Token} : cl.kind = .rightBrace → IsStmts [cl] [] []
  | cons {ts us : List Token} {s : Stmt} {others : List Stmt} {late late' : List LateFault} :
    IsStmt ts s late → IsStmts us others late' → IsStmts (ts ++ us) (s :: others) (late ++ late')

/-- A parameter of a function. -/
inductive IsParam : List Token → WrittenParam → List LateFault → Prop
  | value {ms : List Token} {isMut : Bool} {word : Token} :
    IsOptional .mutWord ms isMut → word.kind = .selfWord →
    IsParam (ms ++ [word]) (.receiver ⟨extentOf (ms ++ [word]), .value⟩) []
  | ref {amp word : Token} {ms : List Token} {isMut : Bool} :
    amp.kind = .ampersand → IsOptional .mutWord ms isMut → word.kind = .selfWord →
    IsParam (amp :: (ms ++ [word]))
      (.receiver ⟨extentOf (amp :: (ms ++ [word])), if isMut then .refMut else .ref⟩) []
  | typed {word colon : Token} {ts : List Token} {t : TypeExpr} {late : List LateFault} :
    word.kind = .selfWord → colon.kind = .colon → IsType ts t late →
    IsParam (word :: colon :: ts)
      (.receiver ⟨extentOf (word :: colon :: ts), .typed t⟩) late
  | named {name colon : Token} {ts : List Token} {t : TypeExpr} {late : List LateFault} :
    name.kind = .name → colon.kind = .colon → IsType ts t late →
    IsParam (name :: colon :: ts) (.named ⟨extentOf (name :: colon :: ts), name.text, t⟩) late

/-- The late faults of a parameter as written, at place `index`. -/
def paramLate (inMethod : Bool) (index : Nat) : WrittenParam → List LateFault
  | .named _ => []
  | .receiver r => (receiverFault? inMethod index r.loc).toList

/-- Parameters from place `index` on with commas between them, perhaps one behind the last, and a
closing parenthesis. -/
inductive IsParams (inMethod : Bool) :
    Nat → List Token → List WrittenParam → List LateFault → Prop
  | nil {index : Nat} {cl : Token} : cl.kind = .rightParen → IsParams inMethod index [cl] [] []
  | last {index : Nat} {cl : Token} {ts : List Token} {p : WrittenParam} {late : List LateFault} :
    IsParam ts p late → cl.kind = .rightParen →
    IsParams inMethod index (ts ++ [cl]) [p] (paramLate inMethod index p ++ late)
  | cons {index : Nat} {comma : Token} {ts us : List Token} {p : WrittenParam}
      {others : List WrittenParam} {late late' : List LateFault} :
    IsParam ts p late → comma.kind = .comma → IsParams inMethod (index + 1) us others late' →
    IsParams inMethod index (ts ++ comma :: us) (p :: others)
      (paramLate inMethod index p ++ late ++ late')

/-- The end of a function: a semicolon, or a body. -/
inductive IsTail : List Token → Option (List Stmt) → List LateFault → Prop
  | none {semicolon : Token} : semicolon.kind = .semicolon → IsTail [semicolon] none []
  | body {op : Token} {ts : List Token} {stmts : List Stmt} {late : List LateFault} :
    op.kind = .leftBrace → IsStmts ts stmts late → IsTail (op :: ts) (some stmts) late

/-- A function, which may be a method when `inMethod` is set. -/
inductive IsFunction (inMethod : Bool) : List Token → FunctionDef → List LateFault → Prop
  | mk {us : List Token} {isUnsafe : Bool} {fn op : Token} {ns ps rs bs : List Token}
      {path : Path} {params : List WrittenParam} {ret : Option TypeExpr}
      {body : Option (List Stmt)} {late late' late'' : List LateFault} :
    IsOptional .unsafeWord us isUnsafe → fn.kind = .fnWord → IsPath ns path →
    op.kind = .leftParen → IsParams inMethod 0 ps params late → IsOptionalType .arrow rs ret late' →
    IsTail bs body late'' →
    IsFunction inMethod (us ++ fn :: (ns ++ op :: (ps ++ (rs ++ bs))))
      ⟨extentOf (us ++ fn :: (ns ++ op :: (ps ++ (rs ++ bs)))), path, isUnsafe,
        receiverOf params, namedOf params, ret, body⟩
      (late ++ (late' ++ late''))

/-- Methods and a closing brace. -/
inductive IsMethods : List Token → List FunctionDef → List LateFault → Prop
  | nil {cl : Token} : cl.kind = .rightBrace → IsMethods [cl] [] []
  | cons {ts us : List Token} {f : FunctionDef} {others : List FunctionDef}
      {late late' : List LateFault} :
    IsFunction true ts f late → IsMethods us others late' →
    IsMethods (ts ++ us) (f :: others) (late ++ late')

/-- An item. -/
inductive IsItem : List Token → Item → List LateFault → Prop
  | structDef {word semicolon : Token} {ns rs : List Token} {path : Path}
      {target : Option TypeExpr} {late : List LateFault} :
    word.kind = .structWord → IsPath ns path → IsOptionalType .arrow rs target late →
    semicolon.kind = .semicolon →
    IsItem (word :: (ns ++ (rs ++ [semicolon])))
      (.structDef ⟨extentOf (word :: (ns ++ (rs ++ [semicolon]))), path, target⟩) late
  | traitDef {word op : Token} {ns ms : List Token} {path : Path} {methods : List FunctionDef}
      {late : List LateFault} :
    word.kind = .traitWord → IsPath ns path → op.kind = .leftBrace →
    IsMethods ms methods late →
    IsItem (word :: (ns ++ op :: ms))
      (.traitDef ⟨extentOf (word :: (ns ++ op :: ms)), path, methods⟩) late
  | inherentImpl {word op : Token} {ts ms : List Token} {target : TypeExpr}
      {methods : List FunctionDef} {late late' : List LateFault} :
    word.kind = .implWord → IsType ts target late → op.kind = .leftBrace →
    IsMethods ms methods late' →
    IsItem (word :: (ts ++ op :: ms))
      (.implDef ⟨extentOf (word :: (ts ++ op :: ms)), target, none, methods⟩) (late' ++ late)
  | traitImpl {word forWord op : Token} {ns ts ms : List Token} {path : Path}
      {target : TypeExpr} {methods : List FunctionDef} {late late' : List LateFault} :
    word.kind = .implWord → IsPath ns path → forWord.kind = .forWord → IsType ts target late →
    op.kind = .leftBrace → IsMethods ms methods late' →
    IsItem (word :: (ns ++ forWord :: (ts ++ op :: ms)))
      (.implDef ⟨extentOf (word :: (ns ++ forWord :: (ts ++ op :: ms))), target, some path,
        methods⟩)
      (late' ++ late)
  | function {ts : List Token} {f : FunctionDef} {late : List LateFault} :
    IsFunction false ts f late → IsItem ts (.function f) late

/-- The items of a whole text. -/
inductive IsItems : List Token → List Item → List LateFault → Prop
  | nil : IsItems [] [] []
  | cons {ts us : List Token} {i : Item} {others : List Item} {late late' : List LateFault} :
    IsItem ts i late → IsItems us others late' → IsItems (ts ++ us) (i :: others) (late ++ late')

end ClosureLint.Syntax
