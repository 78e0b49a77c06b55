import ClosureLint.Syntax.Reading.Exprs

/-!
# Reading items

* `readFunction` — a function, or a method of a trait or impl.
* `readItems` — the items of a whole text.

The grammar lets a receiver stand in any parameter list, at any place. It is a late fault outside a
trait or impl, and anywhere but at the front.
-/

namespace ClosureLint.Syntax

/-- A parameter as written. -/
inductive WrittenParam where
  | named (param : Param)
  | receiver (receiver : Receiver)

/-- The late fault of a receiver at place `index` of a parameter list. -/
def receiverFault? (inMethod : Bool) (index : Nat) (loc : Loc) : Option LateFault :=
  if !inMethod then some (.receiverOutsideMethod loc)
  else if index ≠ 0 then some (.receiverNotFirst loc)
  else none

/-- A receiver written with the word `self` alone, behind `mut` or `&` or `& mut`, or with a type.
The word comes next; `start` is where the parameter starts, and `form` what stood in front. -/
def readSelf (start : Pos) (form : ReceiverForm) (ts : List Token) :
    Attempt (Read ts.length Receiver) := do
  let word ← expect .selfWord ts
  return word.giving ⟨.between start word.stop, form⟩

/-- A parameter of a function. -/
def readParam : (ts : List Token) → Attempt (Read ts.length WrittenParam)
  | [] => throw []
  | t :: ts =>
    match t.kind with
    | .mutWord => do
      let receiver ← readSelf t.start .value ts
      return receiver.behind t (.receiver receiver.value)
    | .ampersand => do
      let mutable := dropIf .mutWord ts
      let receiver ← readSelf t.start (if mutable.1 then .refMut else .ref) mutable.2
      return (receiver.behindOpt .mutWord ts).behind t (.receiver receiver.value)
    | .selfWord => do
      -- `self` with a written type, or alone
      if nextIs .colon ts then
        let colon ← expect .colon ts
        let type ← readType colon.rest
        let receiver := ⟨.between t.start type.stop, .typed type.value⟩
        return (colon.seq type ()).behind t (.receiver receiver)
      else return .token t ts (.receiver ⟨t.loc, .value⟩)
    | _ => do
      let name ← expect .name (t :: ts)
      let colon ← expect .colon name.rest
      let type ← readType colon.rest
      let param := ⟨.between t.start type.stop, t.text, type.value⟩
      return (name.seq colon ()).seq type (.named param)

/-- Parameters up to and with a closing parenthesis; a comma may stand behind the last. The first
of them has place `index`. -/
def readParams (inMethod : Bool) (index : Nat) (ts : List Token) :
    Attempt (Read ts.length (List WrittenParam)) := do
  if nextIs .rightParen ts then
    let close ← expect .rightParen ts
    return close.giving []
  else
    let param ← readParam ts
    -- a receiver out of place is read nonetheless, and refused when all else is read
    let fault :=
      match param.value with
      | .named _ => none
      | .receiver r => receiverFault? inMethod index r.loc
    let first := param.withLate (fault.toList ++ param.late)
    have := param.shorter
    if nextIs .comma param.rest then
      let comma ← expect .comma param.rest
      have := comma.shorter
      let others ← readParams inMethod (index + 1) comma.rest
      return (first.seq comma ()).seq others (first.value :: others.value)
    else
      let close ← expect .rightParen param.rest
      return first.seq close [first.value]
termination_by ts.length

/-- The receiver among the parameters as written. -/
def receiverOf (ps : List WrittenParam) : Option Receiver :=
  ps.findSome? fun | .receiver r => some r | .named _ => none

/-- The named ones among the parameters as written. -/
def namedOf (ps : List WrittenParam) : List Param :=
  ps.filterMap fun | .named p => some p | .receiver _ => none

/-- A function, which may be a method when `inMethod` is set. -/
def readFunction (inMethod : Bool) (ts : List Token) : Attempt (Read ts.length FunctionDef) := do
  let flagged := dropIf .unsafeWord ts
  let word ← expect .fnWord flagged.2
  let path ← readPath word.rest
  let open_ ← expect .leftParen path.rest
  let params ← readParams inMethod 0 open_.rest
  let ret ← readRet params.stop params.rest
  let head := (((word.seq path ()).seq open_ ()).seq params ()).seqOpt ret ()
  -- it starts at its first word and stops with its body, or with the semicolon
  let function (stop : Pos) (body : Option (List Stmt)) : FunctionDef :=
    ⟨.between (startOf ts) stop, path.value, flagged.1, receiverOf params.value,
      namedOf params.value, ret.value, body⟩
  if nextIs .semicolon ret.rest then
    let close ← expect .semicolon ret.rest
    return (head.seq close (function close.stop none)).behindOpt .unsafeWord ts
  else
    let brace ← expect .leftBrace ret.rest
    let body ← readStmts brace.rest
    let whole := (head.seq brace ()).seq body (function body.stop (some body.value))
    return whole.behindOpt .unsafeWord ts

/-- Methods up to and with a closing brace. -/
def readMethods (ts : List Token) : Attempt (Read ts.length (List FunctionDef)) := do
  if nextIs .rightBrace ts then
    let close ← expect .rightBrace ts
    return close.giving []
  else
    let first ← readFunction true ts
    have := first.shorter
    let others ← readMethods first.rest
    return first.seq others (first.value :: others.value)
termination_by ts.length

/-- Methods in braces. -/
def readMethodBlock (ts : List Token) : Attempt (Read ts.length (List FunctionDef)) := do
  let brace ← expect .leftBrace ts
  let methods ← readMethods brace.rest
  return brace.seq methods methods.value

/-- A struct, behind its first word, which starts at `start`. -/
def readStruct (start : Pos) (ts : List Token) : Attempt (Read ts.length StructDef) := do
  let path ← readPath ts
  let target ← readRet path.stop path.rest
  let close ← expect .semicolon target.rest
  let struct := ⟨.between start close.stop, path.value, target.value⟩
  return (path.seqOpt target ()).seq close struct

/-- A trait, behind its first word, which starts at `start`. -/
def readTrait (start : Pos) (ts : List Token) : Attempt (Read ts.length TraitDef) := do
  let path ← readPath ts
  let methods ← readMethodBlock path.rest
  return path.seq methods ⟨.between start methods.stop, path.value, methods.value⟩

/-- The path that a written type is, if it is one without arguments and without parentheses. -/
def barePath? (ts : List Token) (type : TypeExpr) : Option Path :=
  match type with
  | .named _ path [] => if nextIs .name ts then some path else none
  | _ => none

/-- An impl, behind its first word, which starts at `start`. A path with `for` behind it is a
trait. Late faults of the methods are reported before those of the target. -/
def readImpl (start : Pos) (ts : List Token) : Attempt (Read ts.length ImplDef) := do
  let head ← readType ts
  match barePath? ts head.value, nextIs .forWord head.rest with
  | some path, true =>
    let word ← expect .forWord head.rest
    let target ← readType word.rest
    let methods ← readMethodBlock target.rest
    let impl := ⟨.between start methods.stop, target.value, some path, methods.value⟩
    let whole := ((head.seq word ()).seq target ()).seq methods impl
    return whole.withLate (methods.late ++ target.late)
  | _, _ =>
    let methods ← readMethodBlock head.rest
    let impl := ⟨.between start methods.stop, head.value, none, methods.value⟩
    return (head.seq methods impl).withLate (methods.late ++ head.late)

/-- An item. -/
def readItem : (ts : List Token) → Attempt (Read ts.length Item)
  | [] => throw []
  | t :: ts =>
    match t.kind with
    | .structWord => do
      let item ← readStruct t.start ts
      return item.behind t (.structDef item.value)
    | .traitWord => do
      let item ← readTrait t.start ts
      return item.behind t (.traitDef item.value)
    | .implWord => do
      let item ← readImpl t.start ts
      return item.behind t (.implDef item.value)
    | _ => do
      let item ← readFunction false (t :: ts)
      return item.giving (.function item.value)

/-- All items of a text, with the late faults. -/
def readItems (ts : List Token) : Attempt (List Item × List LateFault) :=
  match ts with
  | [] => return ([], [])
  | t :: ts => do
    let first ← readItem (t :: ts)
    let (items, late) ← readItems first.rest
    return (first.value :: items, first.late ++ late)
termination_by ts.length
decreasing_by exact first.shorter

end ClosureLint.Syntax
