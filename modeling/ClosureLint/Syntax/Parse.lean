import ClosureLint.Diagnostic
import ClosureLint.Syntax.Reading.Items
import ClosureLint.Text.Blank
import ClosureLint.Text.Quoted
import ClosureLint.Token.Lexer

/-!
# From a source text to a program

* `ParseError` — why a text is no program: a token or the end comes where it cannot, a character
  starts no token, or a late fault.
* `parse` — the program of a text. An error at an earlier token wins over a character that starts
  none, and both over late faults, of which the first counts.
* `ParseError.report`, `parseFile` — the one diagnostic that stands for a program that is not there.
-/

namespace ClosureLint.Syntax

/-- Why a text is no program. The end of the text is reported where its last token starts. -/
inductive ParseError where
  | unexpectedToken (token : Token)
  | unexpectedEnd (at_ : Pos)
  | unexpectedChar (c : Char) (at_ : Pos)
  | late (fault : LateFault)
deriving DecidableEq, Repr, Inhabited

/-- The error of a text whose reading is hopeless from `rest` on. -/
def ParseError.ofHopeless (lexed : Lexed) (rest : List Token) : ParseError :=
  match rest, lexed.stuck with
  | t :: _, _ => .unexpectedToken t
  | [], some (c, p) => .unexpectedChar c p
  | [], none => .unexpectedEnd ((lexed.tokens.getLast?.map Token.start).getD {})

/-- The program that the tokens of `source` form. -/
def ofLexed (source : String) (lexed : Lexed) : Except ParseError Program :=
  match readItems lexed.tokens, lexed.stuck with
  | .error rest, _ => throw (.ofHopeless lexed rest)
  | .ok _, some (c, p) => throw (.unexpectedChar c p)
  | .ok (items, late), none =>
    match late with
    | fault :: _ => throw (.late fault)
    | [] => return .ofItems source items

/-- The program of a source text. -/
def parse (source : String) : Except ParseError Program :=
  ofLexed source (lex source)

/-! ### Wording -/

/-- The wording of a late fault. -/
def LateFault.message : LateFault → String
  | .receiverOutsideMethod _ => "`self` receiver is only allowed on trait or impl methods"
  | .receiverNotFirst _ => "`self` receiver must be the first parameter"
  | .badEscape e => e.message
  | .longNumber digits =>
    "Exceeds the limit (" ++ toString maxDigits
      ++ " digits) for integer string conversion: value has " ++ toString digits
      ++ " digits; use sys.set_int_max_str_digits() to increase the limit"

/-- The wording of an unexpected token of the given kind and text. -/
def unexpectedTokenMessage (label text : String) (p : Pos) : String :=
  "Unexpected token Token('" ++ label ++ "', " ++ Text.quoted text ++ ") at line "
    ++ toString p.line ++ ", column " ++ toString p.column ++ "."

/-- The wording of a parse error, which is one line. -/
def ParseError.message : ParseError → String
  | .unexpectedToken t => unexpectedTokenMessage t.kind.label t.text t.start
  | .unexpectedEnd p => unexpectedTokenMessage "$END" "" p
  | .unexpectedChar c p =>
    Text.firstLine ("No terminal matches '" ++ c.toString
      ++ "' in the current parser context, at line " ++ toString p.line ++ " col "
      ++ toString p.column)
  | .late fault => fault.message

/-- The position a syntax error is reported at: a line and a column, and no extent. -/
def pointLoc (p : Pos) : Loc := { line := some p.line, column := some p.column }

/-- Where an error is reported, if it has a place. -/
def ParseError.loc? : ParseError → Option Loc
  | .unexpectedToken t => some (pointLoc t.start)
  | .unexpectedEnd p | .unexpectedChar _ p => some (pointLoc p)
  | .late (.receiverOutsideMethod l) | .late (.receiverNotFirst l) => some l
  | .late _ => none

/-- The diagnostic of an error. A literal whose value cannot be formed has none: it ends the
pipeline. -/
def ParseError.report (file : Option String) (e : ParseError) : Except LateFault Diagnostic :=
  let here (l : Loc) : Span := (Span.ofLoc l).withFile file
  match e with
  | .late (.receiverOutsideMethod l) | .late (.receiverNotFirst l) =>
    return .error "parser" e.message (here l)
  | .late fault => throw fault
  | .unexpectedToken ⟨_, _, p, _⟩ | .unexpectedEnd p | .unexpectedChar _ p =>
    return .error "parser" ("syntax error: " ++ e.message) (here (pointLoc p))

/-- The program of a source text, or the one diagnostic that says why there is none. -/
def parseFile (file : Option String) (source : String) :
    Except LateFault (Except Diagnostic Program) :=
  match parse source with
  | .ok program => return .ok program
  | .error e => return .error (← e.report file)

end ClosureLint.Syntax
