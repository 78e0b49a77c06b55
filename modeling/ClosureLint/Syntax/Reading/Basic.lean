import ClosureLint.Syntax.Basic
import ClosureLint.Text.Escape
import ClosureLint.Token.Basic

/-!
# Reading tokens

A reader takes tokens from the front of a list. It looks one token ahead and never goes back, so
when it fails, the tokens it returns start with the first one that no continuation could accept.

* `Read` — what a successful reader has to tell: a value, where its last token stopped, the tokens
  left over (fewer than a bound, which is what makes readers of nested syntax terminate), and late
  faults.
* `LateFault` — what is wrong with a text although it follows the grammar. Only a text that can be
  read to its end is faulted for these.
* `expect`, `nextIs`, `dropIf` — one token.
* `readPath`, `readInt`, `readString` — paths and literals.
-/

namespace ClosureLint.Syntax

/-- What is wrong with a text that follows the grammar. -/
inductive LateFault where
  | receiverOutsideMethod (loc : Loc)
  | receiverNotFirst (loc : Loc)
  | badEscape (error : Text.EscapeError)
  | longNumber (digits : Nat)
deriving DecidableEq, Repr, Inhabited

/-- The result of reading from a list of at most `bound` tokens. `late` holds late faults in the
order in which they are reported. -/
structure Read (bound : Nat) (α : Type) where
  value : α
  late : List LateFault := []
  stop : Pos
  rest : List Token
  shorter : rest.length < bound

/-- A result, or the tokens that start with the first hopeless one. -/
abbrev Attempt := Except (List Token)

namespace Read

variable {n : Nat} {α β γ : Type}

/-- The same read with another value. -/
def giving (r : Read n α) (value : β) : Read n β := ⟨value, r.late, r.stop, r.rest, r.shorter⟩

/-- The same read under a larger bound. -/
def loosen (r : Read n α) : Read (n + 1) α :=
  ⟨r.value, r.late, r.stop, r.rest, Nat.lt_succ_of_lt r.shorter⟩

/-- The read of the token `t` in front of `ts`. -/
def token (t : Token) (ts : List Token) (value : α) : Read (t :: ts).length α :=
  ⟨value, [], t.stop, ts, Nat.lt_succ_self _⟩

/-- The read of no token. The position is where the token before stopped. -/
def nothing (before : Pos) (ts : List Token) (value : α) : Read (ts.length + 1) α :=
  ⟨value, [], before, ts, Nat.lt_succ_self _⟩

/-- The read `r` of what stands behind the token `t`. -/
def behind (t : Token) {ts : List Token} (r : Read ts.length α) (value : β) :
    Read (t :: ts).length β :=
  ⟨value, r.late, r.stop, r.rest, Nat.lt_succ_of_lt r.shorter⟩

/-- The read `r` followed by the read `s`. -/
def seq (r : Read n α) (s : Read r.rest.length β) (value : γ) : Read n γ :=
  ⟨value, r.late ++ s.late, s.stop, s.rest, Nat.lt_trans s.shorter r.shorter⟩

/-- The read `r` followed by the read `s`, which may have taken no token. -/
def seqOpt (r : Read n α) (s : Read (r.rest.length + 1) β) (value : γ) : Read n γ :=
  ⟨value, r.late ++ s.late, s.stop, s.rest,
    Nat.lt_of_le_of_lt (Nat.le_of_lt_succ s.shorter) r.shorter⟩

/-- The read with other late faults. -/
def withLate (r : Read n α) (late : List LateFault) : Read n α := { r with late := late }

end Read

/-! ### One token -/

/-- Whether the next token has kind `k`. -/
def nextIs (k : TokenKind) : List Token → Bool
  | t :: _ => t.kind == k
  | [] => false

/-- The next token, which has to be of kind `k`. -/
def expect (k : TokenKind) : (ts : List Token) → Attempt (Read ts.length Token)
  | [] => throw []
  | t :: ts => if t.kind = k then return .token t ts t else throw (t :: ts)

/-- The tokens without a first one of kind `k`, and whether there was one. -/
def dropIf (k : TokenKind) : List Token → Bool × List Token
  | [] => (false, [])
  | t :: ts => if t.kind = k then (true, ts) else (false, t :: ts)

theorem length_dropIf_le (k : TokenKind) (ts : List Token) :
    (dropIf k ts).2.length ≤ ts.length := by
  cases ts with
  | nil => exact Nat.le_refl _
  | cons t ts => simp only [dropIf]; split <;> simp

/-- The read `r` of what stands behind a token of kind `k`, or in its place. -/
def Read.behindOpt {α : Type} (k : TokenKind) (ts : List Token)
    (r : Read (dropIf k ts).2.length α) : Read ts.length α :=
  ⟨r.value, r.late, r.stop, r.rest, Nat.lt_of_lt_of_le r.shorter (length_dropIf_le k ts)⟩

/-- Where the first of `ts` starts. -/
def startOf : List Token → Pos
  | t :: _ => t.start
  | [] => {}

/-! ### Paths and literals -/

/-- The segments of a path: names with `::` between them. -/
def readPath (ts : List Token) : Attempt (Read ts.length Path) := do
  let first ← expect .name ts
  have := first.shorter
  if nextIs .doubleColon first.rest then
    let colons ← expect .doubleColon first.rest
    have := colons.shorter
    let others ← readPath colons.rest
    return (first.seq colons ()).seq others (first.value.text :: others.value)
  else return first.giving [first.value.text]
termination_by ts.length

/-- Numbers with more digits than this are refused. -/
def maxDigits : Nat := 4300

/-- The value of a run of decimal digits. -/
def digitsValue (digits : List Char) : Nat :=
  Text.numberOf 10 (digits.map fun d => d.toNat - '0'.toNat)

/-- An integer. -/
def readInt (ts : List Token) : Attempt (Read ts.length Int) := do
  let r ← expect .int ts
  let digits := r.value.text.toList
  let late := if maxDigits < digits.length then [.longNumber digits.length] else []
  return (r.giving (digitsValue digits : Int)).withLate late

/-- The content of a string token: what stands between its quotes. -/
def stringContent (text : String) : List Char := (text.toList.drop 1).dropLast

/-- A string. -/
def readString (ts : List Token) : Attempt (Read ts.length (List Nat)) := do
  let r ← expect .string ts
  match Text.unescape (stringContent r.value.text) with
  | .ok points => return r.giving points
  | .error e => return (r.giving []).withLate [.badEscape e]

end ClosureLint.Syntax
