import ClosureLint.Text.Hex
import ClosureLint.Text.Printable

/-!
# Quoted text

The form in which messages show a piece of text, so that every character of it can be told.
Single quotes surround the text, or double quotes if it holds a single quote and no double one.

* `escapeChar` — how one character is written inside the quotes.
* `quoted` — the whole form.
-/

namespace ClosureLint.Text

/-- A character inside quotes: the quote itself, the backslash, and what cannot be shown as it is
are escaped. -/
def escapeChar (quote c : Char) : List Char :=
  if c = quote ∨ c = '\\' then ['\\', c]
  else if c = '\t' then ['\\', 't']
  else if c = '\n' then ['\\', 'n']
  else if c = '\r' then ['\\', 'r']
  else if isPrintable c then [c]
  else if c.toNat < 0x100 then ['\\', 'x'] ++ hexDigits 2 c.toNat
  else if c.toNat < 0x10000 then ['\\', 'u'] ++ hexDigits 4 c.toNat
  else ['\\', 'U'] ++ hexDigits 8 c.toNat

/-- The quote that surrounds a text. -/
def quoteFor (cs : List Char) : Char :=
  if '\'' ∈ cs ∧ '"' ∉ cs then '"' else '\''

/-- The quoted form of a text. -/
def quoted (s : String) : String :=
  let quote := quoteFor s.toList
  String.ofList (quote :: s.toList.flatMap (escapeChar quote) ++ [quote])

end ClosureLint.Text
