import ClosureLint.Text.CharName.Aliases
import ClosureLint.Text.CharName.AncientScripts
import ClosureLint.Text.CharName.EasternScripts
import ClosureLint.Text.CharName.Pictographs
import ClosureLint.Text.CharName.Rule
import ClosureLint.Text.CharName.Scripts
import ClosureLint.Text.CharName.Symbols

/-!
# Characters by name

Unicode gives names to characters, some by a rule and the others by a list. The case of letters
counts only in the names of ideographs and syllables.

* `charNamed?` — the code point of a name.
-/

namespace ClosureLint.Text

/-- All names that no rule gives. -/
def nameTables : List (List NameRow) :=
  [scriptNames, symbolNames, easternNames, ancientNames, pictographNames, aliasNames]

/-- The code point of a listed name. -/
def listedNamed? (name : List Char) : Option Nat :=
  nameTables.findSome? fun rows => findInRows rows name

/-- The code point of the given name. -/
def charNamed? (name : List Char) : Option Nat :=
  match "CJK UNIFIED IDEOGRAPH-".toList.isPrefixOf? name with
  | some cs => ideographNamed? cs
  | none =>
    match "HANGUL SYLLABLE ".toList.isPrefixOf? name with
    | some cs => syllableNamed? cs
    | none =>
      let name := name.map Char.toUpper
      (numberedNamed? name).or (listedNamed? name)

end ClosureLint.Text
