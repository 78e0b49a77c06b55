import ClosureLint.Text.Hex

/-!
# Reading octets as UTF-8

Octets are read from left to right. The first octet of a character says how many octets follow it
and between which bounds the second one lies, so that no code point has two forms and none is a
surrogate.

* `decode` — the characters that octets form.
* `Utf8Error` — the first octets that form none.
-/

namespace ClosureLint.Text

/-- Why octets form no character: the first one starts none, a later one does not belong to it, or
the octets end too early. -/
inductive Utf8Problem where
  | badStart
  | badContinuation
  | endOfOctets
deriving DecidableEq, Repr, Inhabited

/-- The wording of a problem. -/
def Utf8Problem.message : Utf8Problem → String
  | .badStart => "invalid start byte"
  | .badContinuation => "invalid continuation byte"
  | .endOfOctets => "unexpected end of data"

/-- Octets that form no character: the first of them, its place, and how many of those behind it
would belong to the character. -/
structure Utf8Error where
  octet : UInt8
  position : Nat
  following : Nat
  problem : Utf8Problem
deriving DecidableEq, Repr, Inhabited

/-- The hexadecimal form of an octet. -/
def hexOctet (b : UInt8) : String := String.ofList (hexDigits 2 b.toNat)

/-- The wording of an error. -/
def Utf8Error.message (e : Utf8Error) : String :=
  let place :=
    if e.following = 0 then "byte 0x" ++ hexOctet e.octet ++ " in position " ++ toString e.position
    else "bytes in position " ++ toString e.position ++ "-" ++ toString (e.position + e.following)
  "'utf-8' codec can't decode " ++ place ++ ": " ++ e.problem.message

/-- What the first octet of a character says: how many octets follow, the bits it holds itself, and
the bounds of the second octet. -/
structure Lead where
  count : Nat
  bits : Nat
  low : Nat := 0x80
  high : Nat := 0xbf
deriving DecidableEq, Repr, Inhabited

/-- What an octet says as the first one of a character. -/
def lead? (b : Nat) : Option Lead :=
  if b < 0x80 then some { count := 0, bits := b }
  else if b < 0xc2 then none
  else if b < 0xe0 then some { count := 1, bits := b - 0xc0 }
  else if b < 0xf0 then
    some { count := 2, bits := b - 0xe0
           low := if b = 0xe0 then 0xa0 else 0x80, high := if b = 0xed then 0x9f else 0xbf }
  else if b < 0xf5 then
    some { count := 3, bits := b - 0xf0
           low := if b = 0xf0 then 0x90 else 0x80, high := if b = 0xf4 then 0x8f else 0xbf }
  else none

/-- The octets of `bs` that continue a character of which `count` are missing; the first of them
lies between `low` and `high`. -/
def continuation : (count low high : Nat) → (bs : List UInt8) → List UInt8
  | 0, _, _, _ => []
  | _, _, _, [] => []
  | count + 1, low, high, b :: bs =>
    if low ≤ b.toNat ∧ b.toNat ≤ high then b :: continuation count 0x80 0xbf bs else []

/-- The code point of the bits of a first octet and the octets that continue it. -/
def codePoint (bits : Nat) (bs : List UInt8) : Nat :=
  bs.foldl (fun n b => n * 0x40 + (b.toNat - 0x80)) bits

/-- The characters that the octets `bs`, of which the first has number `position`, form. -/
def decodeFrom (position : Nat) : (bs : List UInt8) → Except Utf8Error (List Char)
  | [] => return []
  | b :: bs =>
    match lead? b.toNat with
    | none => throw ⟨b, position, 0, .badStart⟩
    | some lead =>
      let more := continuation lead.count lead.low lead.high bs
      if more.length = lead.count then do
        let rest ← decodeFrom (position + 1 + lead.count) (bs.drop lead.count)
        return Char.ofNat (codePoint lead.bits more) :: rest
      else if more.length = bs.length then throw ⟨b, position, more.length, .endOfOctets⟩
      else throw ⟨b, position, more.length, .badContinuation⟩
termination_by bs => bs.length
decreasing_by simp only [List.length_cons, List.length_drop]; omega

/-- The characters that octets form. -/
def decode (bs : List UInt8) : Except Utf8Error (List Char) := decodeFrom 0 bs

end ClosureLint.Text
