import ClosureLint.Source.Position

/-!
# Tokens

* `TokenKind` — the kinds of tokens, with the names under which errors report them.
* `Token` — a token with its text and its place in the source.
* `TokenKind.ofWord` — a word is a keyword when all of it equals one.
-/

namespace ClosureLint

/-- The kinds of tokens. -/
inductive TokenKind where
  | unsafeWord | mutWord | structWord | traitWord | implWord | forWord | fnWord | selfWord | letWord
  | underscore | name | int | string
  | semicolon | arrow | leftBrace | rightBrace | leftParen | rightParen | leftBracket | rightBracket
  | less | greater | comma | ampersand | colon | doubleColon | equal | bar | star | dot | bang
deriving DecidableEq, Repr, Inhabited

namespace TokenKind

/-- The name under which an error reports a token of this kind. -/
def label : TokenKind → String
  | unsafeWord => "UNSAFE"
  | mutWord => "MUT"
  | structWord => "STRUCT"
  | traitWord => "TRAIT"
  | implWord => "IMPL"
  | forWord => "FOR"
  | fnWord => "FN"
  | selfWord => "SELF"
  | letWord => "LET"
  | underscore => "UNDERSCORE"
  | name => "NAME"
  | int => "INT"
  | string => "STRING"
  | semicolon => "SEMICOLON"
  | arrow => "__ANON_0"
  | leftBrace => "LBRACE"
  | rightBrace => "RBRACE"
  | leftParen => "LPAR"
  | rightParen => "RPAR"
  | leftBracket => "LSQB"
  | rightBracket => "RSQB"
  | less => "LESSTHAN"
  | greater => "MORETHAN"
  | comma => "COMMA"
  | ampersand => "AMPERSAND"
  | colon => "COLON"
  | doubleColon => "__ANON_1"
  | equal => "EQUAL"
  | bar => "VBAR"
  | star => "STAR"
  | dot => "DOT"
  | bang => "BANG"

/-- The keywords. -/
def keywords : List (String × TokenKind) :=
  [("unsafe", unsafeWord), ("mut", mutWord), ("struct", structWord), ("trait", traitWord),
    ("impl", implWord), ("for", forWord), ("fn", fnWord), ("self", selfWord), ("let", letWord),
    ("_", underscore)]

/-- The kind of a word: a keyword when all of it equals one, else a name. -/
def ofWord (word : String) : TokenKind := (keywords.lookup word).getD name

/-- The kind of a mark of one character. -/
def ofMark? : Char → Option TokenKind
  | ';' => some semicolon
  | '{' => some leftBrace
  | '}' => some rightBrace
  | '(' => some leftParen
  | ')' => some rightParen
  | '[' => some leftBracket
  | ']' => some rightBracket
  | '<' => some less
  | '>' => some greater
  | ',' => some comma
  | '&' => some ampersand
  | ':' => some colon
  | '=' => some equal
  | '|' => some bar
  | '*' => some star
  | '.' => some dot
  | '!' => some bang
  | _ => none

end TokenKind

/-- A token: its kind, its text, and where it starts and stops. -/
structure Token where
  kind : TokenKind
  text : String
  start : Pos
  stop : Pos
deriving DecidableEq, Repr, Inhabited

/-- The extent of a token. -/
def Token.loc (t : Token) : Loc := Loc.between t.start t.stop

end ClosureLint
