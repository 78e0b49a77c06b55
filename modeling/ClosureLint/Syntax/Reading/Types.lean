import ClosureLint.Syntax.Reading.Basic

/-!
# Reading types

* `readType` — one written type.
* `readTypesClosing` — types with commas between them, up to and with a closing parenthesis; a
  comma may stand behind the last.
* `readTypeArgs` — one or more types with commas between them, up to and with `>`.
* `readRet` — the result type of a function type, if there is one.
-/

namespace ClosureLint.Syntax

mutual

/-- A written type. Parentheses around one type leave no node. -/
def readType : (ts : List Token) → Attempt (Read ts.length TypeExpr)
  | [] => throw []
  | t :: ts =>
    match t.kind with
    | .ampersand => do
      let mutable := dropIf .mutWord ts
      have := length_dropIf_le .mutWord ts
      let inner ← readType mutable.2
      let type := TypeExpr.ref (.between t.start inner.stop) mutable.1 inner.value
      return (inner.behindOpt .mutWord ts).behind t type
    | .leftBracket => do
      let elem ← readType ts
      if nextIs .semicolon elem.rest then
        let semicolon ← expect .semicolon elem.rest
        let length ← readInt semicolon.rest
        let close ← expect .rightBracket length.rest
        let type := TypeExpr.array (.between t.start close.stop) elem.value length.value
        return (((elem.seq semicolon ()).seq length ()).seq close ()).behind t type
      else
        let close ← expect .rightBracket elem.rest
        let type := TypeExpr.slice (.between t.start close.stop) elem.value
        return (elem.seq close ()).behind t type
    | .leftParen => do
      if nextIs .rightParen ts then
        let close ← expect .rightParen ts
        return close.behind t (.tuple (.between t.start close.stop) [])
      else
        let first ← readType ts
        have := first.shorter
        -- with a comma behind the first type it is a tuple
        if nextIs .comma first.rest then
          let comma ← expect .comma first.rest
          have := comma.shorter
          let others ← readTypesClosing comma.rest
          let type := TypeExpr.tuple (.between t.start others.stop) (first.value :: others.value)
          return ((first.seq comma ()).seq others ()).behind t type
        else
          let close ← expect .rightParen first.rest
          return (first.seq close ()).behind t first.value
    | .unsafeWord => do
      let word ← expect .fnWord ts
      have := word.shorter
      let signature ← readSignature word.rest
      let (params, ret) := signature.value
      let type := TypeExpr.fnPtr (.between t.start signature.stop) true params ret
      return (word.seq signature ()).behind t type
    | .fnWord => do
      let signature ← readSignature ts
      let (params, ret) := signature.value
      return signature.behind t (.fnPtr (.between t.start signature.stop) false params ret)
    | _ => do
      let path ← readPath (t :: ts)
      have : path.rest.length < ts.length + 1 := path.shorter
      -- a path, with arguments or without
      if nextIs .less path.rest then
        let less ← expect .less path.rest
        have := less.shorter
        let args ← readTypeArgs less.rest
        let type := TypeExpr.named (.between t.start args.stop) path.value args.value
        return (path.seq less ()).seq args type
      else return path.giving (.named (.between t.start path.stop) path.value [])
termination_by ts => 2 * ts.length

/-- The parameters and result of a function type, behind its `fn`. -/
def readSignature (ts : List Token) :
    Attempt (Read ts.length (List TypeExpr × Option TypeExpr)) := do
  let open_ ← expect .leftParen ts
  have := open_.shorter
  let params ← readTypesClosing open_.rest
  have := params.shorter
  if nextIs .arrow params.rest then
    let arrow ← expect .arrow params.rest
    have := arrow.shorter
    let ret ← readType arrow.rest
    return ((open_.seq params ()).seq arrow ()).seq ret (params.value, some ret.value)
  else return open_.seq params (params.value, none)
termination_by 2 * ts.length

/-- Types up to and with a closing parenthesis. -/
def readTypesClosing (ts : List Token) : Attempt (Read ts.length (List TypeExpr)) := do
  if nextIs .rightParen ts then
    let close ← expect .rightParen ts
    return close.giving []
  else
    let first ← readType ts
    have := first.shorter
    if nextIs .comma first.rest then
      let comma ← expect .comma first.rest
      have := comma.shorter
      let others ← readTypesClosing comma.rest
      return (first.seq comma ()).seq others (first.value :: others.value)
    else
      let close ← expect .rightParen first.rest
      return first.seq close [first.value]
termination_by 2 * ts.length + 1

/-- Generic arguments up to and with `>`. -/
def readTypeArgs (ts : List Token) : Attempt (Read ts.length (List TypeExpr)) := do
  let first ← readType ts
  have := first.shorter
  if nextIs .comma first.rest then
    let comma ← expect .comma first.rest
    have := comma.shorter
    -- behind a comma there is another argument
    let others ← readTypeArgs comma.rest
    return (first.seq comma ()).seq others (first.value :: others.value)
  else
    let close ← expect .greater first.rest
    return first.seq close [first.value]
termination_by 2 * ts.length + 1

end

end ClosureLint.Syntax
