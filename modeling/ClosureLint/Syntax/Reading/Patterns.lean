import ClosureLint.Syntax.Reading.Types

/-!
# Reading patterns and closure parameters

* `readPattern` — the pattern of a closure parameter.
* `readPatternsClosing` — patterns with commas between them, up to and with a closing parenthesis;
  a comma may stand behind the last.
* `readClosureParams` — closure parameters up to and with the bar that closes them.
-/

namespace ClosureLint.Syntax

mutual

/-- A pattern. Parentheses around one pattern leave no node. -/
def readPattern : (ts : List Token) → Attempt (Read ts.length Pattern)
  | [] => throw []
  | t :: ts =>
    match t.kind with
    | .mutWord => do
      let name ← expect .name ts
      let pattern := Pattern.binding (.between t.start name.stop) true name.value.text
      return name.behind t pattern
    | .underscore => return .token t ts (.wildcard t.loc)
    | .ampersand => do
      let inner ← readPattern ts
      return inner.behind t (.ref (.between t.start inner.stop) inner.value)
    | .leftParen => do
      let first ← readPattern ts
      have := first.shorter
      if nextIs .comma first.rest then
        let comma ← expect .comma first.rest
        have := comma.shorter
        let others ← readPatternsClosing comma.rest
        let pattern := Pattern.tuple (.between t.start others.stop) (first.value :: others.value)
        return ((first.seq comma ()).seq others ()).behind t pattern
      else
        let close ← expect .rightParen first.rest
        return (first.seq close ()).behind t first.value
    | _ => do
      let name ← expect .name (t :: ts)
      return name.giving (.binding t.loc false name.value.text)
termination_by ts => 2 * ts.length

/-- Patterns up to and with a closing parenthesis. -/
def readPatternsClosing (ts : List Token) : Attempt (Read ts.length (List Pattern)) := do
  if nextIs .rightParen ts then
    let close ← expect .rightParen ts
    return close.giving []
  else
    let first ← readPattern ts
    have := first.shorter
    if nextIs .comma first.rest then
      let comma ← expect .comma first.rest
      have := comma.shorter
      let others ← readPatternsClosing comma.rest
      return (first.seq comma ()).seq others (first.value :: others.value)
    else
      let close ← expect .rightParen first.rest
      return first.seq close [first.value]
termination_by 2 * ts.length + 1

end

/-- A closure parameter: a pattern and perhaps a type. -/
def readClosureParam (ts : List Token) : Attempt (Read ts.length ClosureParam) := do
  let pattern ← readPattern ts
  if nextIs .colon pattern.rest then
    let colon ← expect .colon pattern.rest
    let type ← readType colon.rest
    let param := ⟨.between (startOf ts) type.stop, pattern.value, some type.value⟩
    return (pattern.seq colon ()).seq type param
  else
    let param := ⟨.between (startOf ts) pattern.stop, pattern.value, none⟩
    return pattern.giving param

/-- Closure parameters up to and with the bar that closes them. -/
def readClosureParams (ts : List Token) : Attempt (Read ts.length (List ClosureParam)) := do
  if nextIs .bar ts then
    let close ← expect .bar ts
    return close.giving []
  else
    let first ← readClosureParam ts
    have := first.shorter
    if nextIs .comma first.rest then
      let comma ← expect .comma first.rest
      have := comma.shorter
      let others ← readClosureParams comma.rest
      return (first.seq comma ()).seq others (first.value :: others.value)
    else
      let close ← expect .bar first.rest
      return first.seq close [first.value]
termination_by ts.length

end ClosureLint.Syntax
