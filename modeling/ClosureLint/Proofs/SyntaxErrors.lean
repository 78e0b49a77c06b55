import ClosureLint.Proofs.Extents
import ClosureLint.Proofs.Grammar.Prefixes.Items

/-!
# Syntax errors come at the first hopeless token

The parser reads tokens as long as some text of the grammar goes on like that. The token it
complains about is the first one behind which nothing could follow, and it complains about a
character that starts no token only if all tokens in front of it could still be the beginning of a
program.

* `Accepted`, `Viable` — what the grammar accepts, and the beginnings of that.
* `readItems_viable` — reading fails in front of the first token that makes a beginning hopeless.
* `munch_isSome` — where the lexer is stuck, no lexeme starts.
* `Earliest` — what the error of a text says about it.
* `syntax_error_earliest` — every syntax error says so, and is reported there.
-/

namespace ClosureLint

/-! ### Beginnings of programs -/

namespace Syntax

/-- The grammar has a derivation of the tokens `ts`. -/
def Accepted (ts : List Token) : Prop := ∃ trees, DerivesItems false ts trees

/-- The tokens `ts` are the beginning of tokens that the grammar accepts. -/
def Viable (ts : List Token) : Prop := ∃ more, Accepted (ts ++ more)

theorem Accepted.viable {ts : List Token} (h : Accepted ts) : Viable ts :=
  ⟨[], by rwa [List.append_nil]⟩

theorem not_accepted_of_error {ts rest : List Token} (h : readItems ts = .error rest) :
    ¬ Accepted ts := by
  intro hts
  obtain ⟨items, late, hok⟩ := (readItems_iff_derives ts).1.mpr hts
  nomatch h.symm.trans hok

theorem accepted_of_ok {ts : List Token} {r : List Item × List LateFault}
    (h : readItems ts = .ok r) : Accepted ts :=
  (readItems_iff_derives ts).1.mp ⟨r.1, r.2, h⟩

theorem takeItems_eq_error {ts rest : List Token} :
    takeItems ts = .error rest ↔ readItems ts = .error rest := by
  rw [takeItems]
  cases readItems ts with
  | error e => exact ⟨fun h => by cases h; rfl, fun h => by cases h; rfl⟩
  | ok r =>
    constructor <;> intro h
    · cases h
    · cases h

/-- **Reading fails in front of the first hopeless token**: what it took could still be completed,
and together with the next token it no longer can. -/
theorem readItems_viable {ts rest : List Token} (h : readItems ts = .error rest) :
    ∃ before, ts = before ++ rest ∧ Viable before ∧
      ∀ t ∈ rest.head?, ¬ Viable (before ++ [t]) := by
  obtain ⟨before, rfl, ⟨more, hmore⟩, hagain⟩ :=
    (foresees_takeItems ts).error (takeItems_eq_error.mpr h)
  refine ⟨before, rfl, ⟨more, hmore⟩, ?_⟩
  rintro t ht ⟨others, hothers⟩
  rw [List.append_assoc] at hothers
  -- in front of other tokens the reader fails at the same place
  exact not_accepted_of_error (takeItems_eq_error.mp (hagain ([t] ++ others) ht.symm)) hothers

end Syntax

/-! ### Characters that start no token -/

/-- Where a lexeme stands, the lexer finds one. -/
theorem munch_isSome {text rest : List Char} {kind : Option TokenKind} (h : Munches text rest kind)
    (more : List Char) : ∃ c cs, text = c :: cs ∧ (munch c (cs ++ more)).isSome = true := by
  cases h with
  | @gap c cs _ hc =>
    refine ⟨c, cs, rfl, ?_⟩
    unfold munch
    rw [if_pos hc]
    rfl
  | @comment cs => exact ⟨'/', '/' :: cs, rfl, rfl⟩
  | @word c cs _ hc =>
    refine ⟨c, cs, rfl, ?_⟩
    unfold munch
    rw [if_neg (not_gap_of_word hc), if_pos hc]
    rfl
  | @int c cs _ hc =>
    refine ⟨c, cs, rfl, ?_⟩
    unfold munch
    rw [if_neg (not_gap_of_decimal hc), if_neg (not_word_of_decimal hc), if_pos hc]
    rfl
  | @string body _ hbody =>
    refine ⟨'"', body, rfl, ?_⟩
    unfold munch
    rw [if_neg (by decide), if_neg (by decide), if_neg (by decide), if_pos rfl, hbody]
    rfl
  | arrow => exact ⟨'-', ['>'], rfl, rfl⟩
  | doubleColon => exact ⟨':', [':'], rfl, rfl⟩
  | @mark c _ kind hk =>
    refine ⟨c, [], rfl, ?_⟩
    obtain ⟨hgap, hword, hdecimal, hquote, hslash, hdash⟩ := ofMark?_plain hk
    unfold munch
    rw [if_neg hgap, if_neg hword, if_neg hdecimal, if_neg hquote]
    -- whether one colon or two, there is a mark
    split
    · rfl
    · rfl
    · rfl
    · rw [hk]
      rfl

/-- No token, gap or comment starts the text `cs`. -/
def StartsNothing (cs : List Char) : Prop :=
  ∀ text more rest kind, cs = text ++ more → ¬ Munches text rest kind

theorem startsNothing_of_munch {c : Char} {cs : List Char} (h : munch c cs = none) :
    StartsNothing (c :: cs) := by
  intro text more rest kind hcs hm
  obtain ⟨d, ds, rfl, hsome⟩ := munch_isSome hm more
  rw [List.cons_append] at hcs
  obtain ⟨rfl, rfl⟩ := List.cons.inj hcs
  rw [h] at hsome
  nomatch hsome

theorem lexes_of_stuck {source : String} {c : Char} {p : Pos}
    (h : (lex source).stuck = some (c, p)) :
    ∃ ds, Lexes {} source.toList (lex source).tokens p (c :: ds) ∧
      source.toList.drop p.offset = c :: ds ∧ StartsNothing (c :: ds) := by
  obtain ⟨q, rest, hq, ⟨hnone, -⟩ | ⟨d, ds, hstuck, rfl, hm⟩⟩ := lexes_lexFrom {} source.toList
  · nomatch hnone.symm.trans h
  · obtain ⟨rfl, rfl⟩ := Prod.mk.inj (Option.some.inj (h.symm.trans hstuck))
    refine ⟨ds, hq, ?_, startsNothing_of_munch hm⟩
    obtain ⟨used, hused, rfl⟩ := hq.used
    rw [hused, Pos.offset_advanceAll, Nat.zero_add]
    exact List.drop_left

/-! ### Errors -/

namespace Syntax

/-- The error `e` of the text `source` names the earliest place from which on there is no hope, and
this place is `p`. -/
inductive Earliest (source : String) : (e : ParseError) → (p : Pos) → Prop
  /-- A token behind which nothing can follow, though it could behind the ones in front of it. -/
  | token {before after : List Token} {t : Token} :
    (lex source).tokens = before ++ t :: after → Viable before → ¬ Viable (before ++ [t]) →
    Earliest source (.unexpectedToken t) t.start
  /-- All tokens are the beginning of a program, and no program. The place is that of the last. -/
  | atEnd : (lex source).stuck = none → Viable (lex source).tokens →
    ¬ Accepted (lex source).tokens →
    Earliest source (.unexpectedEnd (((lex source).tokens.getLast?.map Token.start).getD {}))
      (((lex source).tokens.getLast?.map Token.start).getD {})
  /-- A character that starts no token, behind tokens that are the beginning of a program. -/
  | char {c : Char} {ds : List Char} {p : Pos} :
    Lexes {} source.toList (lex source).tokens p (c :: ds) →
    source.toList.drop p.offset = c :: ds → StartsNothing (c :: ds) →
    Viable (lex source).tokens → Earliest source (.unexpectedChar c p) p

variable {source : String} {e : ParseError} {p : Pos}

theorem Earliest.of_stuck {c : Char} (h : (lex source).stuck = some (c, p))
    (hviable : Viable (lex source).tokens) : Earliest source (.unexpectedChar c p) p := by
  obtain ⟨ds, hlexes, hdrop, hnothing⟩ := lexes_of_stuck h
  exact .char hlexes hdrop hnothing hviable

theorem earliest_of_parse (h : parse source = .error e) (hlate : ∀ fault, e ≠ .late fault) :
    ∃ p, Earliest source e p := by
  rw [parse, ofLexed] at h
  cases hread : readItems (lex source).tokens with
  | error rest =>
    obtain ⟨before, hts, hviable, hhopeless⟩ := readItems_viable hread
    rw [hread] at h
    obtain rfl : ParseError.ofHopeless (lex source) rest = e := Except.error.inj h
    cases rest with
    | cons t after => exact ⟨_, .token hts hviable (hhopeless t rfl)⟩
    | nil =>
      -- all tokens were taken, so the end of the text or a character behind them is to blame
      rw [List.append_nil] at hts
      rw [← hts] at hviable
      unfold ParseError.ofHopeless
      cases hstuck : (lex source).stuck with
      | none => exact ⟨_, .atEnd hstuck hviable (not_accepted_of_error hread)⟩
      | some stuck => exact ⟨_, .of_stuck hstuck hviable⟩
  | ok r =>
    rw [hread] at h
    cases hstuck : (lex source).stuck with
    | none =>
      -- all that can be wrong with a text that is read to its end are late faults
      rw [hstuck] at h
      obtain ⟨items, late⟩ := r
      cases late with
      | nil => cases h
      | cons fault late => exact absurd (Except.error.inj h).symm (hlate fault)
    | some stuck =>
      rw [hstuck] at h
      obtain rfl : ParseError.unexpectedChar stuck.1 stuck.2 = e := Except.error.inj h
      exact ⟨_, .of_stuck hstuck (accepted_of_ok hread).viable⟩

/-- The place is one of the text, its line and column counted there. -/
theorem Earliest.placed (h : Earliest source e p) : p = placeAt source.toList p.offset := by
  obtain ⟨q, rest, hlexes, -⟩ := lexes_lexFrom {} source.toList
  cases h with
  | @token before after t hts =>
    have hmem : t ∈ (lex source).tokens := by
      rw [hts]
      exact List.mem_append_right _ List.mem_cons_self
    exact (hlexes.placed t hmem).1
  | atEnd =>
    cases hlast : (lex source).tokens.getLast? with
    | none => rfl
    | some t => exact (hlexes.placed t (List.mem_of_getLast? hlast)).1
  | char hchar =>
    obtain ⟨used, hused, rfl⟩ := hchar.used
    rw [hused, Pos.offset_advanceAll, Nat.zero_add]
    exact advanceAll_eq_placeAt used _

theorem Earliest.report (h : Earliest source e p) (file : Option String) :
    ∃ d, e.report file = .ok d ∧ d.span = (Span.ofLoc (pointLoc p)).withFile file := by
  cases h <;> exact ⟨_, rfl, rfl⟩

/-- **Every syntax error comes at the earliest hopeless token**, or at a character that starts none,
and it is reported there. At the end of the text it is reported where the last token starts. -/
theorem syntax_error_earliest (file : Option String) (h : parse source = .error e)
    (hlate : ∀ fault, e ≠ .late fault) :
    ∃ p d, Earliest source e p ∧ p = placeAt source.toList p.offset ∧
      parseFile file source = .ok (.error d) ∧ d.span.line = some (p.line : Int) ∧
      d.span.column = some (p.column : Int) ∧ d.span.file = file := by
  obtain ⟨p, hp⟩ := earliest_of_parse h hlate
  obtain ⟨d, hd, hspan⟩ := hp.report file
  refine ⟨p, d, hp, hp.placed, ?_, ?_, ?_, ?_⟩
  · rw [parseFile, h]
    dsimp only
    rw [hd]
    rfl
  all_goals rw [hspan]; rfl

/-- A name where a semicolon is missing, and behind it a character that starts no token. -/
def missingSemicolon : String := "fn f() \x7b\n  x.y(1) z;\n\x7d\n#"

/-- The name is reported, and not the character at which the tokens end. -/
theorem missingSemicolon_earliest : ∃ z d, parse missingSemicolon = .error (.unexpectedToken z) ∧
    z.text = "z" ∧ (lex missingSemicolon).stuck = some ('#', ⟨23, 4, 1⟩) ∧
    Earliest missingSemicolon (.unexpectedToken z) z.start ∧
    parseFile none missingSemicolon = .ok (.error d) ∧ d.span.line = some 2 ∧
    d.span.column = some 10 := by
  have hstuck : (lex missingSemicolon).stuck = some ('#', ⟨23, 4, 1⟩) := by decide +kernel
  have herror : (match parse missingSemicolon with
      | .error e => some e
      | .ok _ => none) = some (.unexpectedToken ⟨.name, "z", ⟨18, 2, 10⟩, ⟨19, 2, 11⟩⟩) := by
    decide +kernel
  cases hparse : parse missingSemicolon with
  | ok p =>
    rw [hparse] at herror
    nomatch herror
  | error e =>
    rw [hparse] at herror
    obtain rfl := Option.some.inj herror
    obtain ⟨p, d, hearliest, -, hreport, hline, hcolumn, -⟩ :=
      syntax_error_earliest none hparse nofun
    -- an unexpected token is reported for one reason only
    cases hearliest with
    | token hts hviable hhopeless =>
      exact ⟨_, d, rfl, rfl, hstuck, .token hts hviable hhopeless, hreport, hline, hcolumn⟩

end Syntax

end ClosureLint
