import ClosureLint.Proofs.Core.Bare
import ClosureLint.Proofs.Grammar.Basic

/-!
# The productions

The language once more, as a context-free grammar has it: a relation for each symbol, with a rule for
each of its productions, that gives the tree and forgets where it stands. Unlike the relations that
follow how a text is read, these say nothing of the extents of nodes and of late faults, and do not
tell one way to write a list from another.

A parenthesis behind `.name` can be read in two ways, as the call of a field and as a method call.
Each relation therefore has a flag `methods`: with it only the second reading is left.

* `TypeExpr.bare`, `Expr.bare`, `Item.bare`, … — trees that have forgotten where they stand.
* `Separated`, `Listed`, `Repeated`, `Marked` — lists and optional parts.
* `DerivesType`, `DerivesPattern`, `DerivesExpr`, `DerivesStmt`, `DerivesFunction`, `DerivesItem` —
  the symbols of the grammar.
* `DerivesItems` — its start.
-/

namespace ClosureLint.Syntax

/-! ### Trees without places -/

mutual

/-- A pattern that has forgotten where it stands. -/
def Pattern.bare : Pattern → Pattern
  | .binding _ isMut name => .binding {} isMut name
  | .tuple _ elems => .tuple {} (Pattern.bareAll elems)
  | .ref _ inner => .ref {} inner.bare
  | .wildcard _ => .wildcard {}

/-- Patterns that have forgotten where they stand. -/
def Pattern.bareAll : List Pattern → List Pattern
  | [] => []
  | p :: ps => p.bare :: Pattern.bareAll ps

end

/-- A closure parameter that has forgotten where it stands. -/
def ClosureParam.bare (p : ClosureParam) : ClosureParam :=
  ⟨{}, p.pattern.bare, p.declared.map TypeExpr.bare⟩

mutual

/-- An expression that has forgotten where it stands. -/
def Expr.bare : Expr → Expr
  | .path _ segments => .path {} segments
  | .int _ value => .int {} value
  | .str _ value => .str {} value
  | .borrow _ isMut operand => .borrow {} isMut operand.bare
  | .deref _ operand => .deref {} operand.bare
  | .field _ subject name => .field {} subject.bare name
  | .call _ callee args => .call {} callee.bare (Expr.bareAll args)
  | .methodCall _ receiver method args => .methodCall {} receiver.bare method (Expr.bareAll args)
  | .closure _ params ret body =>
    .closure {} (params.map ClosureParam.bare) (ret.map TypeExpr.bare) body.bare
  | .macroCall _ name expansion => .macroCall {} name expansion.bare

/-- Expressions that have forgotten where they stand. -/
def Expr.bareAll : List Expr → List Expr
  | [] => []
  | e :: es => e.bare :: Expr.bareAll es

end

theorem TypeExpr.bareAll_eq_map (ts : List TypeExpr) : TypeExpr.bareAll ts = ts.map bare := by
  induction ts with
  | nil => rfl
  | cons t ts ih => rw [bareAll, ih, List.map_cons]

theorem Pattern.bareAll_eq_map (ps : List Pattern) : Pattern.bareAll ps = ps.map bare := by
  induction ps with
  | nil => rfl
  | cons p ps ih => rw [bareAll, ih, List.map_cons]

theorem Expr.bareAll_eq_map (es : List Expr) : Expr.bareAll es = es.map bare := by
  induction es with
  | nil => rfl
  | cons e es ih => rw [bareAll, ih, List.map_cons]

/-- A statement that has forgotten where it stands. -/
def Stmt.bare : Stmt → Stmt
  | .letStmt _ isMut name declared value =>
    .letStmt {} isMut name (declared.map TypeExpr.bare) value.bare
  | .exprStmt _ e => .exprStmt {} e.bare

/-- A parameter that has forgotten where it stands. -/
def Param.bare (p : Param) : Param := ⟨{}, p.name, p.type.bare⟩

/-- A receiver that has forgotten where it stands. -/
def Receiver.bare (r : Receiver) : Receiver where
  loc := {}
  form :=
    match r.form with
    | .typed t => .typed t.bare
    | form => form

/-- A parameter as written that has forgotten where it stands. -/
def WrittenParam.bare : WrittenParam → WrittenParam
  | .named p => .named p.bare
  | .receiver r => .receiver r.bare

/-- A function that has forgotten where it stands. -/
def FunctionDef.bare (f : FunctionDef) : FunctionDef where
  loc := {}
  path := f.path
  isUnsafe := f.isUnsafe
  receiver := f.receiver.map Receiver.bare
  params := f.params.map Param.bare
  ret := f.ret.map TypeExpr.bare
  body := f.body.map fun stmts => stmts.map Stmt.bare

/-- An item that has forgotten where it stands. -/
def Item.bare : Item → Item
  | .structDef d => .structDef ⟨{}, d.path, d.derefTarget.map TypeExpr.bare⟩
  | .traitDef d => .traitDef ⟨{}, d.path, d.methods.map FunctionDef.bare⟩
  | .implDef d => .implDef ⟨{}, d.target.bare, d.traitPath, d.methods.map FunctionDef.bare⟩
  | .function d => .function d.bare

/-! ### Lists and optional parts -/

section

variable {α : Type} (R : List Token → α → Prop)

/-- One or more with commas between them: `x ("," x)*`. -/
inductive Separated : List Token → List α → Prop
  | one {ts : List Token} {a : α} : R ts a → Separated ts [a]
  | more {comma : Token} {ts us : List Token} {a : α} {as : List α} :
    R ts a → comma.kind = .comma → Separated us as → Separated (ts ++ comma :: us) (a :: as)

/-- Any number with commas between them, and perhaps one behind the last: `(x ("," x)* ","?)?`. -/
inductive Listed : List Token → List α → Prop
  | empty : Listed [] []
  | some {ts cs : List Token} {as : List α} {trailing : Bool} :
    Separated R ts as → IsOptional .comma cs trailing → Listed (ts ++ cs) as

/-- Any number, one behind the other: `x*`. -/
inductive Repeated : List Token → List α → Prop
  | nil : Repeated [] []
  | cons {ts us : List Token} {a : α} {as : List α} :
    R ts a → Repeated us as → Repeated (ts ++ us) (a :: as)

/-- One behind a mark, or nothing: `(mark x)?`. -/
inductive Marked (k : TokenKind) : List Token → Option α → Prop
  | absent : Marked k [] none
  | present {mark : Token} {ts : List Token} {a : α} :
    mark.kind = k → R ts a → Marked k (mark :: ts) (some a)

end

/-! ### Types, patterns and closure parameters -/

/-- `type` -/
inductive DerivesType : List Token → TypeExpr → Prop
  | ref {amp : Token} {ms ts : List Token} {isMut : Bool} {inner : TypeExpr} :
    amp.kind = .ampersand → IsOptional .mutWord ms isMut → DerivesType ts inner →
    DerivesType (amp :: (ms ++ ts)) (.ref {} isMut inner)
  | array {op semicolon n cl : Token} {ts : List Token} {elem : TypeExpr} :
    op.kind = .leftBracket → DerivesType ts elem → semicolon.kind = .semicolon →
    n.kind = .int → cl.kind = .rightBracket →
    DerivesType (op :: (ts ++ [semicolon, n, cl])) (.array {} elem (intValue n))
  | slice {op cl : Token} {ts : List Token} {elem : TypeExpr} :
    op.kind = .leftBracket → DerivesType ts elem → cl.kind = .rightBracket →
    DerivesType (op :: (ts ++ [cl])) (.slice {} elem)
  | fnPtr {fn op cl : Token} {us ts rs : List Token} {isUnsafe : Bool} {params : List TypeExpr}
      {ret : Option TypeExpr} :
    IsOptional .unsafeWord us isUnsafe → fn.kind = .fnWord → op.kind = .leftParen →
    Listed DerivesType ts params → cl.kind = .rightParen → Marked DerivesType .arrow rs ret →
    DerivesType (us ++ fn :: op :: (ts ++ cl :: rs)) (.fnPtr {} isUnsafe params ret)
  | unit {op cl : Token} :
    op.kind = .leftParen → cl.kind = .rightParen → DerivesType [op, cl] (.tuple {} [])
  | single {op comma cl : Token} {ts : List Token} {t : TypeExpr} :
    op.kind = .leftParen → DerivesType ts t → comma.kind = .comma → cl.kind = .rightParen →
    DerivesType (op :: (ts ++ [comma, cl])) (.tuple {} [t])
  | tuple {op comma cl : Token} {ts us cs : List Token} {first : TypeExpr} {others : List TypeExpr}
      {trailing : Bool} :
    op.kind = .leftParen → DerivesType ts first → comma.kind = .comma →
    Separated DerivesType us others → IsOptional .comma cs trailing → cl.kind = .rightParen →
    DerivesType (op :: (ts ++ comma :: (us ++ (cs ++ [cl])))) (.tuple {} (first :: others))
  | paren {op cl : Token} {ts : List Token} {t : TypeExpr} :
    op.kind = .leftParen → DerivesType ts t → cl.kind = .rightParen →
    DerivesType (op :: (ts ++ [cl])) t
  | named {ts : List Token} {p : Path} : IsPath ts p → DerivesType ts (.named {} p [])
  | generic {less cl : Token} {ts us : List Token} {p : Path} {args : List TypeExpr} :
    IsPath ts p → less.kind = .less → Separated DerivesType us args → cl.kind = .greater →
    DerivesType (ts ++ less :: (us ++ [cl])) (.named {} p args)

/-- `pattern` -/
inductive DerivesPattern : List Token → Pattern → Prop
  | binding {name : Token} {ms : List Token} {isMut : Bool} :
    IsOptional .mutWord ms isMut → name.kind = .name →
    DerivesPattern (ms ++ [name]) (.binding {} isMut name.text)
  | wildcard {t : Token} : t.kind = .underscore → DerivesPattern [t] (.wildcard {})
  | ref {amp : Token} {ts : List Token} {inner : Pattern} :
    amp.kind = .ampersand → DerivesPattern ts inner → DerivesPattern (amp :: ts) (.ref {} inner)
  | paren {op cl : Token} {ts : List Token} {p : Pattern} :
    op.kind = .leftParen → DerivesPattern ts p → cl.kind = .rightParen →
    DerivesPattern (op :: (ts ++ [cl])) p
  | single {op comma cl : Token} {ts : List Token} {p : Pattern} :
    op.kind = .leftParen → DerivesPattern ts p → comma.kind = .comma → cl.kind = .rightParen →
    DerivesPattern (op :: (ts ++ [comma, cl])) (.tuple {} [p])
  | tuple {op comma cl : Token} {ts us cs : List Token} {first : Pattern} {others : List Pattern}
      {trailing : Bool} :
    op.kind = .leftParen → DerivesPattern ts first → comma.kind = .comma →
    Separated DerivesPattern us others → IsOptional .comma cs trailing → cl.kind = .rightParen →
    DerivesPattern (op :: (ts ++ comma :: (us ++ (cs ++ [cl])))) (.tuple {} (first :: others))

/-- `closure_param` -/
inductive DerivesClosureParam : List Token → ClosureParam → Prop
  | mk {ts us : List Token} {p : Pattern} {declared : Option TypeExpr} :
    DerivesPattern ts p → Marked DerivesType .colon us declared →
    DerivesClosureParam (ts ++ us) ⟨{}, p, declared⟩

/-! ### Expressions -/

variable (methods : Bool)

mutual

/-- `expr` -/
inductive DerivesExpr : List Token → Expr → Prop
  | closure {bar bar' : Token} {ps rs bs : List Token} {params : List ClosureParam}
      {ret : Option TypeExpr} {body : Expr} :
    bar.kind = .bar → Listed DerivesClosureParam ps params → bar'.kind = .bar →
    Marked DerivesType .arrow rs ret → DerivesExpr bs body →
    DerivesExpr (bar :: (ps ++ bar' :: (rs ++ bs))) (.closure {} params ret body)
  | unary {ts : List Token} {e : Expr} : DerivesUnary ts e → DerivesExpr ts e

/-- `unary` -/
inductive DerivesUnary : List Token → Expr → Prop
  | borrow {amp : Token} {ms ts : List Token} {isMut : Bool} {e : Expr} :
    amp.kind = .ampersand → IsOptional .mutWord ms isMut → DerivesUnary ts e →
    DerivesUnary (amp :: (ms ++ ts)) (.borrow {} isMut e)
  | deref {star : Token} {ts : List Token} {e : Expr} :
    star.kind = .star → DerivesUnary ts e → DerivesUnary (star :: ts) (.deref {} e)
  | chain {bare : Bool} {ts : List Token} {e : Expr} : DerivesPostfix bare ts e → DerivesUnary ts e

/-- `postfix`. The index `bare` is set for a field that stands without parentheses; with `methods` it
is not called. -/
inductive DerivesPostfix : (bare : Bool) → List Token → Expr → Prop
  | atom {ts : List Token} {e : Expr} : DerivesAtom ts e → DerivesPostfix false ts e
  | call {bare : Bool} {op cl : Token} {ts us : List Token} {callee : Expr} {args : List Expr} :
    DerivesPostfix bare ts callee → (methods = true → bare = false) → op.kind = .leftParen →
    Listed DerivesExpr us args → cl.kind = .rightParen →
    DerivesPostfix false (ts ++ op :: (us ++ [cl])) (.call {} callee args)
  | methodCall {bare : Bool} {dot name op cl : Token} {ts us : List Token} {receiver : Expr}
      {args : List Expr} :
    DerivesPostfix bare ts receiver → dot.kind = .dot → name.kind = .name → op.kind = .leftParen →
    Listed DerivesExpr us args → cl.kind = .rightParen →
    DerivesPostfix false (ts ++ dot :: name :: op :: (us ++ [cl]))
      (.methodCall {} receiver name.text args)
  | field {bare : Bool} {dot name : Token} {ts : List Token} {subject : Expr} :
    DerivesPostfix bare ts subject → dot.kind = .dot → name.kind = .name →
    DerivesPostfix true (ts ++ [dot, name]) (.field {} subject name.text)

/-- `atom` -/
inductive DerivesAtom : List Token → Expr → Prop
  | path {ts : List Token} {p : Path} : IsPath ts p → DerivesAtom ts (.path {} p)
  | selfWord {t : Token} : t.kind = .selfWord → DerivesAtom [t] (.path {} ["self"])
  | int {t : Token} : t.kind = .int → DerivesAtom [t] (.int {} (intValue t))
  | string {t : Token} : t.kind = .string → DerivesAtom [t] (.str {} (stringValue t))
  | macroCall {name bang op cl : Token} {ts : List Token} {e : Expr} :
    name.kind = .name → bang.kind = .bang → op.kind = .leftParen → DerivesExpr ts e →
    cl.kind = .rightParen →
    DerivesAtom (name :: bang :: op :: (ts ++ [cl])) (.macroCall {} name.text e)
  | paren {op cl : Token} {ts : List Token} {e : Expr} :
    op.kind = .leftParen → DerivesExpr ts e → cl.kind = .rightParen →
    DerivesAtom (op :: (ts ++ [cl])) e

end

/-! ### Statements and items -/

/-- `stmt` -/
inductive DerivesStmt : List Token → Stmt → Prop
  | letStmt {word name equal semicolon : Token} {ms ds vs : List Token} {isMut : Bool}
      {declared : Option TypeExpr} {value : Expr} :
    word.kind = .letWord → IsOptional .mutWord ms isMut → name.kind = .name →
    Marked DerivesType .colon ds declared → equal.kind = .equal → DerivesExpr methods vs value →
    semicolon.kind = .semicolon →
    DerivesStmt (word :: (ms ++ name :: (ds ++ equal :: (vs ++ [semicolon]))))
      (.letStmt {} isMut name.text declared value)
  | exprStmt {semicolon : Token} {ts : List Token} {e : Expr} :
    DerivesExpr methods ts e → semicolon.kind = .semicolon →
    DerivesStmt (ts ++ [semicolon]) (.exprStmt {} e)

/-- `fn_param` -/
inductive DerivesParam : List Token → WrittenParam → Prop
  | value {word : Token} {ms : List Token} {isMut : Bool} :
    IsOptional .mutWord ms isMut → word.kind = .selfWord →
    DerivesParam (ms ++ [word]) (.receiver ⟨{}, .value⟩)
  | ref {amp word : Token} {ms : List Token} {isMut : Bool} :
    amp.kind = .ampersand → IsOptional .mutWord ms isMut → word.kind = .selfWord →
    DerivesParam (amp :: (ms ++ [word])) (.receiver ⟨{}, if isMut then .refMut else .ref⟩)
  | typed {word colon : Token} {ts : List Token} {t : TypeExpr} :
    word.kind = .selfWord → colon.kind = .colon → DerivesType ts t →
    DerivesParam (word :: colon :: ts) (.receiver ⟨{}, .typed t⟩)
  | named {name colon : Token} {ts : List Token} {t : TypeExpr} :
    name.kind = .name → colon.kind = .colon → DerivesType ts t →
    DerivesParam (name :: colon :: ts) (.named ⟨{}, name.text, t⟩)

/-- `fn_tail` -/
inductive DerivesTail : List Token → Option (List Stmt) → Prop
  | none {semicolon : Token} : semicolon.kind = .semicolon → DerivesTail [semicolon] none
  | block {op cl : Token} {ts : List Token} {stmts : List Stmt} :
    op.kind = .leftBrace → Repeated (DerivesStmt methods) ts stmts → cl.kind = .rightBrace →
    DerivesTail (op :: (ts ++ [cl])) (some stmts)

/-- `fn_def` -/
inductive DerivesFunction : List Token → FunctionDef → Prop
  | mk {fn op cl : Token} {us ns ps rs bs : List Token} {isUnsafe : Bool} {path : Path}
      {params : List WrittenParam} {ret : Option TypeExpr} {body : Option (List Stmt)} :
    IsOptional .unsafeWord us isUnsafe → fn.kind = .fnWord → IsPath ns path →
    op.kind = .leftParen → Listed DerivesParam ps params → cl.kind = .rightParen →
    Marked DerivesType .arrow rs ret → DerivesTail methods bs body →
    DerivesFunction (us ++ fn :: (ns ++ op :: (ps ++ cl :: (rs ++ bs))))
      ⟨{}, path, isUnsafe, receiverOf params, namedOf params, ret, body⟩

/-- `item` -/
inductive DerivesItem : List Token → Item → Prop
  | structDef {word semicolon : Token} {ns rs : List Token} {path : Path}
      {target : Option TypeExpr} :
    word.kind = .structWord → IsPath ns path → Marked DerivesType .arrow rs target →
    semicolon.kind = .semicolon →
    DerivesItem (word :: (ns ++ (rs ++ [semicolon]))) (.structDef ⟨{}, path, target⟩)
  | traitDef {word op cl : Token} {ns ms : List Token} {path : Path} {fs : List FunctionDef} :
    word.kind = .traitWord → IsPath ns path → op.kind = .leftBrace →
    Repeated (DerivesFunction methods) ms fs → cl.kind = .rightBrace →
    DerivesItem (word :: (ns ++ op :: (ms ++ [cl]))) (.traitDef ⟨{}, path, fs⟩)
  | inherentImpl {word op cl : Token} {ts ms : List Token} {target : TypeExpr}
      {fs : List FunctionDef} :
    word.kind = .implWord → DerivesType ts target → op.kind = .leftBrace →
    Repeated (DerivesFunction methods) ms fs → cl.kind = .rightBrace →
    DerivesItem (word :: (ts ++ op :: (ms ++ [cl]))) (.implDef ⟨{}, target, none, fs⟩)
  | traitImpl {word forWord op cl : Token} {ns ts ms : List Token} {path : Path}
      {target : TypeExpr} {fs : List FunctionDef} :
    word.kind = .implWord → IsPath ns path → forWord.kind = .forWord → DerivesType ts target →
    op.kind = .leftBrace → Repeated (DerivesFunction methods) ms fs → cl.kind = .rightBrace →
    DerivesItem (word :: (ns ++ forWord :: (ts ++ op :: (ms ++ [cl]))))
      (.implDef ⟨{}, target, some path, fs⟩)
  | function {ts : List Token} {f : FunctionDef} :
    DerivesFunction methods ts f → DerivesItem ts (.function f)

/-- The start of the grammar: `item*`. -/
def DerivesItems (ts : List Token) (items : List Item) : Prop :=
  Repeated (DerivesItem methods) ts items

end ClosureLint.Syntax
