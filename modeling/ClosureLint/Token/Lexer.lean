import ClosureLint.Token.Basic

/-!
# From characters to tokens

The lexer always takes the longest lexeme that starts where it stands. Spaces, tabs, form feeds,
carriage returns, line feeds and line comments are passed over.

* a word starts with an ASCII letter or underscore and goes on with those and digits;
* a number is a run of ASCII digits, and may be followed by a word at once;
* a string runs to the first double quote that no backslash protects; it may hold line feeds, but
  not one behind a backslash;
* `->` and `::` are marks of two characters, the others have one.

Main definitions:

* `munch` — the lexeme at the front of a text.
* `lexFrom`, `lex` — all tokens up to the end, or up to the first character that starts none.
-/

namespace ClosureLint

/-- Characters between tokens. -/
def isGap (c : Char) : Bool :=
  c == ' ' || c == '\t' || c == '\x0c' || c == '\r' || c == '\n'

/-- ASCII letters and the underscore. -/
def isWordStart (c : Char) : Bool :=
  ('a' ≤ c && c ≤ 'z') || ('A' ≤ c && c ≤ 'Z') || c == '_'

/-- ASCII digits. -/
def isDecimal (c : Char) : Bool := '0' ≤ c && c ≤ '9'

/-- Characters inside a word. -/
def isWordPart (c : Char) : Bool := isWordStart c || isDecimal c

/-- The part of a string up to its closing quote, that quote included. -/
def stringBody? : List Char → Option (List Char)
  | [] => none
  | ['\\'] => none
  | '\\' :: c :: cs =>
    if c = '\n' then none else (stringBody? cs).map fun body => '\\' :: c :: body
  | c :: cs => if c = '"' then some ['"'] else (stringBody? cs).map (c :: ·)

/-- What stands at the front of a text: a gap, or a token of some kind. -/
structure Lexeme where
  kind : Option TokenKind
  text : List Char
deriving DecidableEq, Repr

/-- The longest lexeme that starts with `c` in the text `c :: cs`. -/
def munch (c : Char) (cs : List Char) : Option Lexeme :=
  if isGap c then some ⟨none, c :: cs.takeWhile isGap⟩
  else if isWordStart c then
    let word := c :: cs.takeWhile isWordPart
    some ⟨some (.ofWord (String.ofList word)), word⟩
  else if isDecimal c then some ⟨some .int, c :: cs.takeWhile isDecimal⟩
  else if c = '"' then (stringBody? cs).map fun body => ⟨some .string, c :: body⟩
  else
    match c, cs with
    | '/', '/' :: cs => some ⟨none, '/' :: '/' :: cs.takeWhile (· ≠ '\n')⟩
    | '-', '>' :: _ => some ⟨some .arrow, ['-', '>']⟩
    | ':', ':' :: _ => some ⟨some .doubleColon, [':', ':']⟩
    | _, _ => (TokenKind.ofMark? c).map fun kind => ⟨some kind, [c]⟩

/-- The tokens of a text, and the character that ended them if it starts no lexeme. -/
structure Lexed where
  tokens : List Token
  stuck : Option (Char × Pos)
deriving DecidableEq, Repr

/-- The tokens of the text `cs`, which starts at `p`. -/
def lexFrom (p : Pos) : (cs : List Char) → Lexed
  | [] => ⟨[], none⟩
  | c :: cs =>
    match munch c cs with
    | none => ⟨[], some (c, p)⟩
    | some lexeme =>
      let q := p.advanceAll lexeme.text
      let later := lexFrom q (cs.drop (lexeme.text.length - 1))
      match lexeme.kind with
      | none => later
      | some kind =>
        { later with tokens := ⟨kind, String.ofList lexeme.text, p, q⟩ :: later.tokens }
termination_by cs => cs.length
decreasing_by all_goals (simp only [List.length_cons, List.length_drop]; omega)

/-- The tokens of a source text. -/
def lex (source : String) : Lexed := lexFrom {} source.toList

end ClosureLint
