import ClosureLint.Text.CharName
import ClosureLint.Text.Hex

/-!
# Escapes in string literals

The characters between the quotes of a literal are read as the octets of their UTF-8 form. An
octet that no backslash precedes stands for the code point of the same number, so a character
outside ASCII becomes one code point per octet.

* `\\ \' \"` stand for the second character, `\a \b \f \n \r \t \v` for controls, and a backslash
  before a line feed for nothing.
* Up to three octal digits give a code point, and so do two, four or eight hexadecimal digits
  after `\x`, `\u`, `\U`, and a character's name in braces after `\N`. A code point may be a lone
  surrogate.
* A backslash before any other octet stands for itself.

Main definitions:

* `unescape` — the code points that a literal denotes.
* `EscapeError` — an escape that cannot be read, with the range of octets it was seen in.
-/

namespace ClosureLint.Text

/-- Why an escape cannot be read. -/
inductive EscapeProblem where
  | nothingFollows
  | truncated (letter : Char) (digits : Nat)
  | beyondUnicode
  | malformedName
  | unknownName
deriving DecidableEq, Repr, Inhabited

/-- The wording of an escape problem. -/
def EscapeProblem.message : EscapeProblem → String
  | .nothingFollows => "\\ at end of string"
  | .truncated letter digits =>
    "truncated \\" ++ String.ofList (letter :: List.replicate digits 'X') ++ " escape"
  | .beyondUnicode => "illegal Unicode character"
  | .malformedName => "malformed \\N character escape"
  | .unknownName => "unknown Unicode character name"

/-- An escape that cannot be read: it starts at octet `start`, and `stop` is the first octet that
was not part of it. -/
structure EscapeError where
  start : Nat
  stop : Nat
  problem : EscapeProblem
deriving DecidableEq, Repr, Inhabited

/-- The wording of an escape error. A range of one octet holds the backslash. -/
def EscapeError.message (e : EscapeError) : String :=
  let place :=
    if e.stop = e.start + 1 then "byte 0x5c in position " ++ toString e.start
    else "bytes in position " ++ toString e.start ++ "-" ++ toString (e.stop - 1)
  "'unicodeescape' codec can't decode " ++ place ++ ": " ++ e.problem.message

/-- The octets of a text's UTF-8 form, each as the character of its number. -/
def octets (cs : List Char) : List Char :=
  cs.flatMap fun c => (String.utf8EncodeChar c).map fun b => Char.ofNat b.toNat

/-- Whether `c` is an octal digit. -/
def isOctal (c : Char) : Bool := '0' ≤ c && c ≤ '7'

/-- The number that the given digits write in base `base`. -/
def numberOf (base : Nat) (digits : List Nat) : Nat :=
  digits.foldl (fun n d => n * base + d) 0

/-- What an escape denotes, and how many octets after the backslash belong to it. -/
abbrev Escaped := List Nat × Nat

/-- A hexadecimal escape of exactly `count` digits; `cs` follows its letter. -/
def readHex (letter : Char) (count : Nat) (cs : List Char) :
    Except (Nat × EscapeProblem) Escaped :=
  let digits := ((cs.take count).takeWhile fun c => (hexValue? c).isSome).filterMap hexValue?
  if digits.length < count then throw (1 + digits.length, .truncated letter count)
  else
    let value := numberOf 16 digits
    if 0x10ffff < value then throw (1 + count, .beyondUnicode) else return ([value], 1 + count)

/-- A name escape; `cs` follows its letter. -/
def readName : (cs : List Char) → Except (Nat × EscapeProblem) Escaped
  | '{' :: cs =>
    let name := cs.takeWhile (· ≠ '}')
    if name.length = cs.length then throw (2 + cs.length, .malformedName)
    else if name.isEmpty then throw (2, .malformedName)
    else
      match charNamed? name with
      | some value => return ([value], 3 + name.length)
      | none => throw (3 + name.length, .unknownName)
  | _ => throw (1, .malformedName)

/-- The escape whose backslash stands before `cs`. The error says how many octets after the
backslash were seen. -/
def readEscape : (cs : List Char) → Except (Nat × EscapeProblem) Escaped
  | [] => throw (0, .nothingFollows)
  | c :: cs =>
    match c with
    | '\n' => return ([], 1)
    | '\\' | '\'' | '"' => return ([c.toNat], 1)
    | 'a' => return ([7], 1)
    | 'b' => return ([8], 1)
    | 't' => return ([9], 1)
    | 'n' => return ([10], 1)
    | 'v' => return ([11], 1)
    | 'f' => return ([12], 1)
    | 'r' => return ([13], 1)
    | 'x' => readHex c 2 cs
    | 'u' => readHex c 4 cs
    | 'U' => readHex c 8 cs
    | 'N' => readName cs
    | _ =>
      if isOctal c then
        let digits := c :: (cs.take 2).takeWhile isOctal
        return ([numberOf 8 (digits.map fun d => d.toNat - '0'.toNat)], digits.length)
      else return (['\\'.toNat, c.toNat], 1)

/-- The code points that the octets `cs`, of which the first has number `start`, denote. -/
def unescapeFrom (start : Nat) : (cs : List Char) → Except EscapeError (List Nat)
  | [] => return []
  | c :: cs =>
    if c = '\\' then
      match readEscape cs with
      | .error (seen, problem) => throw ⟨start, start + 1 + seen, problem⟩
      | .ok (points, n) => return points ++ (← unescapeFrom (start + 1 + n) (cs.drop n))
    else return c.toNat :: (← unescapeFrom (start + 1) cs)
termination_by cs => cs.length
decreasing_by all_goals (simp only [List.length_cons, List.length_drop]; omega)

/-- The code points that the characters between the quotes of a literal denote. -/
def unescape (content : List Char) : Except EscapeError (List Nat) :=
  unescapeFrom 0 (octets content)

end ClosureLint.Text
