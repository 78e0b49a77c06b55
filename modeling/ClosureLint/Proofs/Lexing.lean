import ClosureLint.Token.Lexer

/-!
# How a text falls into tokens

* `Munches` — a piece of text is the longest lexeme in front of what follows it. One character of
  what follows settles that.
* `Lexes` — a text begins with certain tokens, up to some place. It can be cut before and behind
  each token, and put together again.
* `Lexes.retarget` — the tokens stay when what follows them changes, if the last lexeme allows it.
* `Lexes.moved` — at another position the same text falls into alike tokens.
* `lexes_lexFrom`, `lex_iff` — the lexer finds exactly these tokens, up to the end of the text or to a
  character that starts none.
-/

namespace ClosureLint

/-- What follows does not start with a character of the given sort. -/
def Stops (sort : Char → Bool) (cs : List Char) : Prop := ∀ c ∈ cs.head?, sort c = false

/-- The characters of one sort at the front, up to where they stop. -/
theorem takeWhile_stops (sort : Char → Bool) (cs : List Char) :
    (∀ c ∈ cs.takeWhile sort, sort c = true) ∧ Stops sort (cs.dropWhile sort) := by
  induction cs with
  | nil => exact ⟨nofun, nofun⟩
  | cons c cs ih =>
    rw [List.takeWhile_cons, List.dropWhile_cons]
    split
    · next hc => exact ⟨List.forall_mem_cons.mpr ⟨hc, ih.1⟩, ih.2⟩
    · next hc => exact ⟨nofun, fun d hd => Option.some.inj hd ▸ Bool.eq_false_iff.mpr hc⟩

/-- Characters of one sort are all that is taken, if they stop behind them. -/
theorem takeWhile_append_of_stops {sort : Char → Bool} {cs rest : List Char}
    (h : ∀ c ∈ cs, sort c = true) (hrest : Stops sort rest) :
    (cs ++ rest).takeWhile sort = cs := by
  induction cs with
  | nil =>
    cases rest with
    | nil => rfl
    | cons c rest => exact List.takeWhile_cons_of_neg (by rw [hrest c rfl]; exact Bool.false_ne_true)
  | cons c cs ih =>
    obtain ⟨hc, h⟩ := List.forall_mem_cons.mp h
    rw [List.cons_append, List.takeWhile_cons_of_pos hc, ih h]

/-- What follows a string does not matter to it. -/
theorem stringBody?_append (cs : List Char) {body : List Char} (h : stringBody? cs = some body) :
    ∃ rest, cs = body ++ rest ∧ ∀ rest', stringBody? (body ++ rest') = some body := by
  induction cs using stringBody?.induct generalizing body with
  | case1 | case2 | case3 =>
    simp only [stringBody?, if_pos] at h
    nomatch h
  -- a backslash and the character that it escapes
  | case4 c cs hc ih =>
    rw [stringBody?, if_neg hc] at h
    obtain ⟨body, hb, rfl⟩ := Option.map_eq_some_iff.mp h
    obtain ⟨rest, rfl, hrest⟩ := ih hb
    refine ⟨rest, rfl, fun rest' => ?_⟩
    rw [List.cons_append, List.cons_append, stringBody?, if_neg hc, hrest]
    rfl
  -- the quote that closes the string
  | case5 cs h₁ h₂ =>
    rw [stringBody?.eq_4 _ _ h₁ h₂, if_pos rfl] at h
    obtain rfl := Option.some.inj h
    refine ⟨cs, rfl, fun rest' => ?_⟩
    have hslash : '"' ≠ '\\' := by decide
    rw [List.cons_append, stringBody?.eq_4 _ _ (fun h => absurd h hslash)
      (fun _ _ h => absurd h hslash), if_pos rfl]
  | case6 c cs h₁ h₂ hc ih =>
    rw [stringBody?.eq_4 _ _ h₁ h₂, if_neg hc] at h
    obtain ⟨body, hb, rfl⟩ := Option.map_eq_some_iff.mp h
    obtain ⟨rest, rfl, hrest⟩ := ih hb
    refine ⟨rest, rfl, fun rest' => ?_⟩
    -- the last two equations are tried behind the ones for a backslash
    have hslash : c ≠ '\\' := by
      rintro rfl
      cases hcs : body ++ rest with
      | nil => exact h₁ rfl hcs
      | cons d ds => exact h₂ d ds rfl hcs
    rw [List.cons_append, stringBody?.eq_4 _ _ (fun h => absurd h hslash) (fun _ _ h => absurd h hslash),
      if_neg hc, hrest]
    rfl

/-- `text` is the longest lexeme that stands in front of `rest`, and it is a token of kind `kind`
or a gap. -/
inductive Munches : (text rest : List Char) → (kind : Option TokenKind) → Prop
  | gap {c : Char} {cs rest : List Char} :
    isGap c = true → (∀ d ∈ cs, isGap d = true) → Stops isGap rest → Munches (c :: cs) rest none
  | comment {cs rest : List Char} :
    (∀ d ∈ cs, (decide (d ≠ '\n')) = true) → Stops (fun d => decide (d ≠ '\n')) rest →
    Munches ('/' :: '/' :: cs) rest none
  | word {c : Char} {cs rest : List Char} :
    isWordStart c = true → (∀ d ∈ cs, isWordPart d = true) → Stops isWordPart rest →
    Munches (c :: cs) rest (some (.ofWord (String.ofList (c :: cs))))
  | int {c : Char} {cs rest : List Char} :
    isDecimal c = true → (∀ d ∈ cs, isDecimal d = true) → Stops isDecimal rest →
    Munches (c :: cs) rest (some .int)
  | string {body rest : List Char} :
    (∀ rest', stringBody? (body ++ rest') = some body) →
    Munches ('"' :: body) rest (some .string)
  | arrow {rest : List Char} : Munches ['-', '>'] rest (some .arrow)
  | doubleColon {rest : List Char} : Munches [':', ':'] rest (some .doubleColon)
  | mark {c : Char} {rest : List Char} {kind : TokenKind} :
    TokenKind.ofMark? c = some kind → (c = ':' → Stops (· == ':') rest) →
    Munches [c] rest (some kind)

/-- What the lexer takes is the longest lexeme. -/
theorem munches_of_munch {c : Char} {cs : List Char} {l : Lexeme} (h : munch c cs = some l) :
    ∃ rest, c :: cs = l.text ++ rest ∧ Munches l.text rest l.kind := by
  -- a lexeme of one sort of characters goes as far as they do
  have hsplit (sort : Char → Bool) : c :: cs = c :: cs.takeWhile sort ++ cs.dropWhile sort := by
    rw [List.cons_append, List.takeWhile_append_dropWhile]
  unfold munch at h
  split at h
  · next hc =>
    obtain rfl := Option.some.inj h
    obtain ⟨hs, hrest⟩ := takeWhile_stops isGap cs
    exact ⟨_, hsplit isGap, .gap hc hs hrest⟩
  · split at h
    · next hc =>
      obtain rfl := Option.some.inj h
      obtain ⟨hs, hrest⟩ := takeWhile_stops isWordPart cs
      exact ⟨_, hsplit isWordPart, .word hc hs hrest⟩
    · split at h
      · next hc =>
        obtain rfl := Option.some.inj h
        obtain ⟨hs, hrest⟩ := takeWhile_stops isDecimal cs
        exact ⟨_, hsplit isDecimal, .int hc hs hrest⟩
      · split at h
        · next hc =>
          -- a string ends at its quote, not at the first character of another sort
          obtain ⟨body, hb, rfl⟩ := Option.map_eq_some_iff.mp h
          obtain ⟨rest, rfl, hbody⟩ := stringBody?_append cs hb
          exact ⟨rest, rfl, hc ▸ .string hbody⟩
        -- the marks of two characters come before those of one
        · split at h
          · obtain rfl := Option.some.inj h
            obtain ⟨hs, hrest⟩ := takeWhile_stops (fun d => decide (d ≠ '\n')) _
            exact ⟨_, by simp only [List.cons_append, List.takeWhile_append_dropWhile],
              .comment hs hrest⟩
          · obtain rfl := Option.some.inj h
            exact ⟨_, rfl, .arrow⟩
          · obtain rfl := Option.some.inj h
            exact ⟨_, rfl, .doubleColon⟩
          · next hcolon =>
            obtain ⟨kind, hk, rfl⟩ := Option.map_eq_some_iff.mp h
            -- two colons in a row were one mark, so what follows this one is another character
            refine ⟨cs, rfl, .mark hk fun hc => ?_⟩
            cases cs with
            | nil => exact nofun
            | cons d cs =>
              intro e he
              obtain rfl := Option.some.inj he
              exact beq_eq_false_iff_ne.mpr fun hd => hcolon cs hc (by rw [hd])

/-- What is tested of every element of a list holds for them. That there are finitely many characters
plays no part in it. -/
theorem forall_mem_of_all {α : Type} {P : α → Prop} [DecidablePred P] {l : List α}
    (h : (l.all fun a => decide (P a)) = true) : ∀ a ∈ l, P a :=
  fun a ha => of_decide_eq_true (List.all_eq_true.mp h a ha)

/-- The characters that are marks of their own. -/
def marks : List Char :=
  [';', '{', '}', '(', ')', '[', ']', '<', '>', ',', '&', ':', '=', '|', '*', '.', '!']

/-- There are only so many marks. -/
theorem ofMark?_mem {c : Char} {kind : TokenKind} (h : TokenKind.ofMark? c = some kind) :
    c ∈ marks := by
  unfold TokenKind.ofMark? at h
  split at h
  all_goals first | decide | nomatch h

/-- A mark begins nothing else. -/
theorem ofMark?_plain {c : Char} {kind : TokenKind} (h : TokenKind.ofMark? c = some kind) :
    ¬ isGap c = true ∧ ¬ isWordStart c = true ∧ ¬ isDecimal c = true ∧ c ≠ '"' ∧ c ≠ '/' ∧
      c ≠ '-' := by
  have hall : ∀ c ∈ marks, ¬ isGap c = true ∧ ¬ isWordStart c = true ∧ ¬ isDecimal c = true ∧
      c ≠ '"' ∧ c ≠ '/' ∧ c ≠ '-' := forall_mem_of_all (by decide)
  exact hall c (ofMark?_mem h)

/-- There are only so many blanks. -/
theorem mem_of_gap {c : Char} (h : isGap c = true) : c ∈ [' ', '\t', '\x0c', '\r', '\n'] := by
  unfold isGap at h
  simp only [Bool.or_eq_true, beq_iff_eq] at h
  rcases h with (((rfl | rfl) | rfl) | rfl) | rfl <;> decide

/-- Words and numbers begin with no gap. -/
theorem not_gap_of_word {c : Char} (h : isWordStart c = true) : ¬ isGap c = true := fun hg =>
  forall_mem_of_all (P := fun c => ¬ isWordStart c = true) (by decide) c (mem_of_gap hg) h

/-- A digit is no blank, -/
theorem not_gap_of_decimal {c : Char} (h : isDecimal c = true) : ¬ isGap c = true := fun hg =>
  forall_mem_of_all (P := fun c => ¬ isDecimal c = true) (by decide) c (mem_of_gap hg) h

/-- and no word begins with one. -/
theorem not_word_of_decimal {c : Char} (h : isDecimal c = true) : ¬ isWordStart c = true := by
  have hle (a b : Char) : a ≤ b ↔ a.toNat ≤ b.toNat := by
    rw [Char.le_def, UInt32.le_iff_toNat_le]
    rfl
  simp only [isDecimal, isWordStart, Bool.and_eq_true, Bool.or_eq_true, decide_eq_true_eq, hle,
    beq_iff_eq, Char.reduceToNat] at h ⊢
  rintro ((hc | hc) | rfl)
  · omega
  · omega
  · exact absurd h (by decide)

/-- The longest lexeme is what the lexer takes: no rule that is tried before fits. -/
theorem munch_of_munches {text rest : List Char} {kind : Option TokenKind}
    (h : Munches text rest kind) :
    ∃ c cs, text = c :: cs ∧ munch c (cs ++ rest) = some ⟨kind, text⟩ := by
  cases h with
  | @gap c cs _ hc hs hrest =>
    refine ⟨c, cs, rfl, ?_⟩
    unfold munch
    rw [if_pos hc, takeWhile_append_of_stops hs hrest]
  | @comment cs _ hs hrest =>
    refine ⟨'/', '/' :: cs, rfl, ?_⟩
    unfold munch
    rw [if_neg (by decide), if_neg (by decide), if_neg (by decide), if_neg (by decide)]
    simp only [List.cons_append, takeWhile_append_of_stops hs hrest]
  | @word c cs _ hc hs hrest =>
    refine ⟨c, cs, rfl, ?_⟩
    unfold munch
    rw [if_neg (not_gap_of_word hc), if_pos hc, takeWhile_append_of_stops hs hrest]
  | @int c cs _ hc hs hrest =>
    refine ⟨c, cs, rfl, ?_⟩
    unfold munch
    rw [if_neg (not_gap_of_decimal hc), if_neg (not_word_of_decimal hc), if_pos hc,
      takeWhile_append_of_stops hs hrest]
  | @string body _ hbody =>
    refine ⟨'"', body, rfl, ?_⟩
    unfold munch
    rw [if_neg (by decide), if_neg (by decide), if_neg (by decide), if_pos rfl, hbody]
    rfl
  | arrow => exact ⟨'-', ['>'], rfl, rfl⟩
  | doubleColon => exact ⟨':', [':'], rfl, rfl⟩
  | @mark c _ kind hk hcolon =>
    refine ⟨c, [], rfl, ?_⟩
    -- a mark is none of the characters that the other rules begin with
    obtain ⟨hgap, hword, hdecimal, hquote, hslash, hdash⟩ := ofMark?_plain hk
    unfold munch
    rw [if_neg hgap, if_neg hword, if_neg hdecimal, if_neg hquote]
    split
    · exact absurd rfl hslash
    · exact absurd rfl hdash
    · next heq =>
      exact absurd (hcolon rfl ':' (by rw [List.nil_append] at heq; rw [heq]; rfl)) (by decide)
    · rw [hk]
      rfl

/-- A lexeme takes some text. -/
theorem Munches.ne_nil {text rest : List Char} {kind : Option TokenKind}
    (h : Munches text rest kind) : text ≠ [] := by
  obtain ⟨c, cs, rfl, -⟩ := munch_of_munches h
  exact List.cons_ne_nil c cs

/-- One character of what follows settles a lexeme. -/
theorem Munches.lookahead {text rest rest' : List Char} {kind : Option TokenKind}
    (h : Munches text rest kind) (hhead : rest'.head? = rest.head?) : Munches text rest' kind := by
  -- all that is asked of what follows is asked of its first character
  have hstops {sort : Char → Bool} (h : Stops sort rest) : Stops sort rest' := by
    unfold Stops
    rw [hhead]
    exact h
  cases h with
  | gap hc hs hrest => exact .gap hc hs (hstops hrest)
  | comment hs hrest => exact .comment hs (hstops hrest)
  | word hc hs hrest => exact .word hc hs (hstops hrest)
  | int hc hs hrest => exact .int hc hs (hstops hrest)
  | string hbody => exact .string hbody
  | arrow => exact .arrow
  | doubleColon => exact .doubleColon
  | mark hk hcolon => exact .mark hk fun hc => hstops (hcolon hc)

/-! ### The tokens of a text -/

/-- The text `cs` at `p` begins with the tokens `ts`. They, and perhaps gaps behind them, end at `q`
in front of `rest`. -/
inductive Lexes : (p : Pos) → (cs : List Char) → (ts : List Token) → (q : Pos) →
    (rest : List Char) → Prop
  | done {p : Pos} {cs : List Char} : Lexes p cs [] p cs
  | gap {p q : Pos} {text cs rest : List Char} {ts : List Token} :
    Munches text cs none → Lexes (p.advanceAll text) cs ts q rest →
    Lexes p (text ++ cs) ts q rest
  | token {p q : Pos} {text cs rest : List Char} {kind : TokenKind} {ts : List Token} :
    Munches text cs (some kind) → Lexes (p.advanceAll text) cs ts q rest →
    Lexes p (text ++ cs) (⟨kind, String.ofList text, p, p.advanceAll text⟩ :: ts) q rest

variable {p q q' : Pos} {cs rest rest' : List Char} {ts us : List Token}

/-- Two pieces of a text, one behind the other. -/
theorem Lexes.append (h : Lexes p cs ts q rest) (h' : Lexes q rest us q' rest') :
    Lexes p cs (ts ++ us) q' rest' := by
  induction h with
  | done => exact h'
  | gap hm _ ih => exact .gap hm (ih h')
  | token hm _ ih => exact .token hm (ih h')

/-- A text begins with the text of its tokens and the gaps. -/
theorem Lexes.used (h : Lexes p cs ts q rest) :
    ∃ used, cs = used ++ rest ∧ q = p.advanceAll used := by
  induction h with
  | done => exact ⟨[], rfl, rfl⟩
  | @gap p _ text _ _ _ _ _ ih | @token p _ text _ _ _ _ _ _ ih =>
    obtain ⟨used, rfl, rfl⟩ := ih
    exact ⟨text ++ used, (List.append_assoc ..).symm, (Pos.advanceAll_append p text used).symm⟩

/-- The lexer passes by a gap, -/
theorem lexFrom_gap {text : List Char} (p : Pos) (h : Munches text cs none) :
    lexFrom p (text ++ cs) = lexFrom (p.advanceAll text) cs := by
  obtain ⟨c, ds, rfl, hm⟩ := munch_of_munches h
  rw [List.cons_append, lexFrom, hm]
  simp only [List.length_cons, Nat.add_sub_cancel, List.drop_left]

/-- and keeps a token. -/
theorem lexFrom_token {text : List Char} {kind : TokenKind} (p : Pos)
    (h : Munches text cs (some kind)) :
    lexFrom p (text ++ cs) =
      ⟨⟨kind, String.ofList text, p, p.advanceAll text⟩ :: (lexFrom (p.advanceAll text) cs).tokens,
        (lexFrom (p.advanceAll text) cs).stuck⟩ := by
  obtain ⟨c, ds, rfl, hm⟩ := munch_of_munches h
  rw [List.cons_append, lexFrom, hm]
  simp only [List.length_cons, Nat.add_sub_cancel, List.drop_left]

/-- A text that falls into tokens up to its end is lexed into these. -/
theorem Lexes.lexFrom_eq (h : Lexes p cs ts q []) : lexFrom p cs = ⟨ts, none⟩ := by
  generalize hrest : ([] : List Char) = rest at h
  induction h with
  | done =>
    subst hrest
    rw [lexFrom]
  | gap hm _ ih => rw [lexFrom_gap _ hm, ih hrest]
  | token hm _ ih => rw [lexFrom_token _ hm, ih hrest]

/-- A text with tokens is not empty. -/
theorem isEmpty_of_tokens {source : String} (h : (lex source).tokens ≠ []) : source.isEmpty = false := by
  refine Bool.eq_false_iff.mpr fun hempty => h ?_
  rw [String.isEmpty_iff.mp hempty]
  exact congrArg Lexed.tokens (Lexes.lexFrom_eq (.done : Lexes {} [] [] {} []))

/-- The lexer goes on until the text ends, or until a character that starts no lexeme. -/
theorem lexes_lexFrom (p : Pos) (cs : List Char) :
    ∃ q rest, Lexes p cs (lexFrom p cs).tokens q rest ∧
      ((lexFrom p cs).stuck = none ∧ rest = [] ∨
        ∃ c ds, (lexFrom p cs).stuck = some (c, q) ∧ rest = c :: ds ∧ munch c ds = none) := by
  cases cs with
  | nil =>
    rw [lexFrom]
    exact ⟨p, [], .done, .inl ⟨rfl, rfl⟩⟩
  | cons c cs =>
    -- no lexeme starts here, or the longest one is taken
    cases hm : munch c cs with
    | none =>
      rw [lexFrom, hm]
      exact ⟨p, c :: cs, .done, .inr ⟨c, cs, rfl, rfl, hm⟩⟩
    | some l =>
      obtain ⟨kind, text⟩ := l
      obtain ⟨rest, hcs, hl⟩ := munches_of_munch hm
      dsimp only at hcs hl
      -- the lexer goes on with less text
      have hshort : rest.length < (c :: cs).length := by
        have := List.length_pos_iff.mpr hl.ne_nil
        rw [hcs, List.length_append]
        omega
      rw [hcs]
      obtain ⟨q, behind, hq, hstuck⟩ := lexes_lexFrom (p.advanceAll text) rest
      cases kind with
      | none =>
        rw [lexFrom_gap p hl]
        exact ⟨q, behind, .gap hl hq, hstuck⟩
      | some kind =>
        rw [lexFrom_token p hl]
        exact ⟨q, behind, .token hl hq, hstuck⟩
termination_by cs.length
decreasing_by exact hshort

/-- The lexer that gets to the end has found the tokens of the whole text. -/
theorem lexes_of_lexFrom (p : Pos) (cs : List Char) (h : (lexFrom p cs).stuck = none) :
    ∃ q, Lexes p cs (lexFrom p cs).tokens q [] := by
  obtain ⟨q, rest, hq, ⟨-, rfl⟩ | ⟨c, ds, hstuck, -, -⟩⟩ := lexes_lexFrom p cs
  · exact ⟨q, hq⟩
  · nomatch h.symm.trans hstuck

/-- The same for a source text, from its first position on. -/
theorem lexes_of_lex {source : String} (h : (lex source).stuck = none) :
    ∃ q, Lexes {} source.toList (lex source).tokens q [] :=
  lexes_of_lexFrom {} source.toList h

/-- **The lexer** finds the tokens into which a text falls. -/
theorem lex_iff {source : String} :
    lex source = ⟨ts, none⟩ ↔ ∃ q, Lexes {} source.toList ts q [] := by
  refine ⟨fun h => ?_, fun ⟨q, h⟩ => h.lexFrom_eq⟩
  obtain ⟨q, hq⟩ := lexes_of_lex (congrArg Lexed.stuck h)
  rw [h] at hq
  exact ⟨q, hq⟩

/-! ### Cutting a text at its tokens -/

/-- A text can be cut before and behind each of its tokens. -/
theorem Lexes.cut {t : Token} (h : Lexes p cs (ts ++ t :: us) q rest) :
    ∃ text behind, Lexes p cs ts t.start (text ++ behind) ∧
      Munches text behind (some t.kind) ∧ t.text = String.ofList text ∧
      t.stop = t.start.advanceAll text ∧ Lexes t.stop behind us q rest := by
  -- the tokens have to be a variable before the induction
  generalize hts : ts ++ t :: us = whole at h
  induction h generalizing ts with
  | done => exact absurd hts (List.append_ne_nil_of_right_ne_nil _ (List.cons_ne_nil _ _))
  | gap hm _ ih =>
    obtain ⟨text, behind, hfront, hlast⟩ := ih hts
    exact ⟨text, behind, .gap hm hfront, hlast⟩
  | @token _ _ text cs _ _ _ hm hrest ih =>
    -- the token is the first one, or it is further on
    cases ts with
    | nil =>
      obtain ⟨rfl, rfl⟩ := List.cons.inj hts
      exact ⟨text, cs, .done, hm, rfl, rfl, hrest⟩
    | cons u ts =>
      obtain ⟨rfl, htail⟩ := List.cons.inj hts
      obtain ⟨text', behind, hfront, hlast⟩ := ih htail
      exact ⟨text', behind, .token hm hfront, hlast⟩

/-- What makes a token, apart from its place. -/
def Token.face (t : Token) : TokenKind × String := (t.kind, t.text)

/-- The tokens without their places. -/
def faces (ts : List Token) : List (TokenKind × String) := ts.map Token.face

/-! ### Changing what follows -/

/-- A token takes some text. -/
theorem Lexes.eq_nil (h : Lexes p cs ts q cs) : ts = [] := by
  generalize hrest : cs = rest at h
  cases h with
  | done => rfl
  | @gap _ _ text cs' _ _ hm h' | @token _ _ text cs' _ _ _ hm h' =>
    obtain ⟨used, hcs', -⟩ := h'.used
    -- a lexeme is not empty, so the rest cannot be the whole
    have hlength := congrArg List.length hcs'
    simp only [List.length_append] at hlength
    have := List.length_pos_iff.mpr hm.ne_nil
    omega

/-- The tokens stay when what follows them changes, as long as the last lexeme, which is a gap or
the last token, stays the longest. -/
theorem Lexes.retarget {used : List Char} (h : Lexes p (used ++ rest) ts q rest)
    (hlast : ∀ text kind, Munches text rest kind →
      (∀ k, kind = some k → ∃ t ∈ ts.getLast?, t.kind = k) → Munches text rest' kind) :
    Lexes p (used ++ rest') ts q rest' := by
  generalize hcs : used ++ rest = cs at h
  induction h generalizing used with
  | done =>
    obtain rfl : used = [] := List.append_left_eq_self.mp hcs
    exact .done
  | @gap p q text cs rest ts hm hrest ih =>
    obtain ⟨used', rfl, -⟩ := hrest.used
    rw [← List.append_assoc] at hcs
    obtain rfl := List.append_cancel_right hcs
    rw [List.append_assoc]
    refine .gap ?_ (ih hlast rfl)
    -- a lexeme that is not the last sees no further than the next one
    cases used' with
    | nil => exact hlast text none hm nofun
    | cons c used' => exact hm.lookahead rfl
  | @token p q text cs rest kind ts hm hrest ih =>
    obtain ⟨used', rfl, -⟩ := hrest.used
    rw [← List.append_assoc] at hcs
    obtain rfl := List.append_cancel_right hcs
    rw [List.append_assoc]
    refine .token ?_ (ih (fun text kind hm hk => hlast text kind hm fun k hkind => ?_) rfl)
    · cases used' with
      | nil =>
        obtain rfl := hrest.eq_nil
        exact hlast text (some kind) hm fun k hk => ⟨_, rfl, Option.some.inj hk⟩
      | cons c used' => exact hm.lookahead rfl
    · obtain ⟨t, ht, hk⟩ := hk k hkind
      exact ⟨t, by rw [List.getLast?_cons, Option.mem_def.mp ht]; rfl, hk⟩

/-- At another position the same text falls into tokens that differ in their places only. -/
theorem Lexes.moved (h : Lexes p cs ts q rest) (p' : Pos) :
    ∃ us q', Lexes p' cs us q' rest ∧ faces us = faces ts := by
  induction h generalizing p' with
  | done => exact ⟨[], p', .done, rfl⟩
  | @gap _ _ text _ _ _ hm _ ih =>
    obtain ⟨us, q', h, hf⟩ := ih (p'.advanceAll text)
    exact ⟨us, q', .gap hm h, hf⟩
  | @token _ _ text _ _ _ _ hm _ ih =>
    obtain ⟨us, q', h, hf⟩ := ih (p'.advanceAll text)
    exact ⟨_, q', .token hm h, congrArg (_ :: ·) hf⟩

/-! ### What stands where -/

/-- No word is a mark. -/
theorem ofWord_kinds (word : String) :
    TokenKind.ofWord word ∈ TokenKind.name :: TokenKind.keywords.map Prod.snd := by
  unfold TokenKind.ofWord
  cases h : TokenKind.keywords.lookup word with
  | none => exact List.mem_cons_self
  | some kind =>
    obtain ⟨l, l', hl, -⟩ := List.lookup_eq_some_iff.mp h
    have hmem : (word, kind) ∈ TokenKind.keywords := by
      rw [hl]
      exact List.mem_append_right _ List.mem_cons_self
    exact List.mem_cons_of_mem _ (List.mem_map_of_mem hmem)

/-- A token begins with no gap. -/
theorem Munches.head_token {text rest : List Char} {kind : TokenKind}
    (h : Munches text rest (some kind)) : Stops isGap text := by
  generalize hkind : some kind = k at h
  have hhead {c : Char} {cs : List Char} (hc : ¬ isGap c = true) : Stops isGap (c :: cs) :=
    fun d hd => Option.some.inj hd ▸ Bool.eq_false_iff.mpr hc
  cases h with
  | gap | comment => nomatch hkind
  | word hc => exact hhead (not_gap_of_word hc)
  | int hc => exact hhead (not_gap_of_decimal hc)
  | string | arrow | doubleColon => exact hhead (by decide)
  | mark hk => exact hhead (ofMark?_plain hk).1

/-- The text of a name: a word that is no keyword. -/
def IsName (s : String) : Prop :=
  ∃ c cs, s = String.ofList (c :: cs) ∧ isWordStart c = true ∧ (∀ d ∈ cs, isWordPart d = true) ∧
    TokenKind.ofWord s = .name

theorem Munches.isName {text rest : List Char} (h : Munches text rest (some .name)) :
    IsName (String.ofList text) := by
  generalize hkind : some TokenKind.name = kind at h
  cases h with
  | gap | comment | int | string | arrow | doubleColon => nomatch hkind
  | @word c cs _ hc hcs => exact ⟨c, cs, rfl, hc, hcs, (Option.some.inj hkind).symm⟩
  | @mark c _ kind hk =>
    obtain rfl := Option.some.inj hkind
    -- no mark is a name
    have hall : ∀ c ∈ marks, TokenKind.ofMark? c ≠ some .name := forall_mem_of_all (by decide)
    exact absurd hk (hall c (ofMark?_mem hk))

/-- A parenthesis, comma or bar is one character. -/
theorem Munches.mark_text {text rest : List Char} {kind : TokenKind}
    (h : Munches text rest (some kind))
    (hk : kind ∈ [TokenKind.leftParen, .rightParen, .comma, .bar]) :
    ∃ c, text = [c] ∧ TokenKind.ofMark? c = some kind := by
  generalize hkind : some kind = k at h
  cases h with
  | gap | comment => nomatch hkind
  | @word c cs =>
    obtain rfl := Option.some.inj hkind
    -- no keyword is a mark
    have hapart : ∀ k ∈ TokenKind.name :: TokenKind.keywords.map Prod.snd,
        k ∉ [TokenKind.leftParen, .rightParen, .comma, .bar] := by decide
    exact absurd hk (hapart _ (ofWord_kinds _))
  | int | string | arrow | doubleColon =>
    obtain rfl := Option.some.inj hkind
    exact absurd hk (by decide)
  | mark hk => exact ⟨_, rfl, hkind ▸ hk⟩

/-- **Names** are words that are no keywords. -/
theorem Lexes.isName (h : Lexes p cs ts q rest) :
    ∀ t ∈ ts, t.kind = .name → IsName t.text := by
  induction h with
  | done => exact nofun
  | gap _ _ ih => exact ih
  | token hm _ ih =>
    refine List.forall_mem_cons.mpr ⟨fun hk => ?_, ih⟩
    obtain rfl : _ = TokenKind.name := hk
    exact hm.isName

/-- What may follow an argument: a gap or comment, a closing parenthesis, a comma. -/
def closers : List Char := [' ', '\t', '\x0c', '\r', '\n', '/', ')', ',']

/-- A gap closes whatever is in front of it. -/
theorem mem_closers_of_gap {c : Char} (h : isGap c = true) : c ∈ closers :=
  List.mem_append_left ['/', ')', ','] (mem_of_gap h)

/-- What stands in front of a closing parenthesis or a comma begins with a closer. -/
theorem Lexes.head_closer {t : Token} (h : Lexes p cs (t :: ts) q rest)
    (hk : t.kind = .rightParen ∨ t.kind = .comma) : ∃ c, cs.head? = some c ∧ c ∈ closers := by
  generalize hts : t :: ts = us at h
  cases h with
  | done => nomatch hts
  | gap hm _ =>
    -- a gap comes first: a blank, or a comment, which begins with a slash
    generalize hnone : (none : Option TokenKind) = k at hm
    cases hm with
    | gap hc => exact ⟨_, rfl, mem_closers_of_gap hc⟩
    | comment => exact ⟨'/', rfl, by decide⟩
    | word | int | string | arrow | doubleColon | mark => nomatch hnone
  | token hm _ =>
    obtain rfl := (List.cons.inj hts).1
    dsimp only at hk
    obtain ⟨c, rfl, hc⟩ := hm.mark_text (by rcases hk with hk | hk <;> rw [hk] <;> decide)
    refine ⟨c, rfl, ?_⟩
    -- both of these marks are closers
    have hall : ∀ c ∈ marks, TokenKind.ofMark? c = some .rightParen ∨
        TokenKind.ofMark? c = some .comma → c ∈ closers := forall_mem_of_all (by decide)
    exact hall c (ofMark?_mem hc) (hc ▸ hk.imp (congrArg some) (congrArg some))

/-- A token stays the longest in front of a closer. -/
theorem Munches.closed {text rest rest' : List Char} {kind : TokenKind}
    (h : Munches text rest (some kind)) (hrest' : ∀ c ∈ rest'.head?, c ∈ closers) :
    Munches text rest' (some kind) := by
  generalize hkind : some kind = k at h
  -- no closer can be part of a word or a number
  have hstops (sort : Char → Bool) (h : ∀ c ∈ closers, sort c = false) : Stops sort rest' :=
    fun c hc => h c (hrest' c hc)
  cases h with
  | gap | comment => nomatch hkind
  | word hc hs _ => exact .word hc hs (hstops _ (forall_mem_of_all (by decide)))
  | int hc hs _ => exact .int hc hs (hstops _ (forall_mem_of_all (by decide)))
  | string hbody => exact .string hbody
  | arrow => exact .arrow
  | doubleColon => exact .doubleColon
  | mark hk _ => exact .mark hk fun _ => hstops _ (forall_mem_of_all (by decide))

/-- Behind an opening parenthesis or a comma the text may begin otherwise. -/
theorem Lexes.reopened {used : List Char} {t : Token} (h : Lexes p (used ++ rest) ts q rest)
    (ht : t ∈ ts.getLast?) (hk : t.kind = .leftParen ∨ t.kind = .comma)
    (hrest : ∃ c ∈ rest.head?, c ≠ '\n') (hrest' : Stops isGap rest') :
    Lexes p (used ++ rest') ts q rest' := by
  refine h.retarget fun text kind hm hlast => ?_
  cases kind with
  | none =>
    generalize hnone : (none : Option TokenKind) = k at hm
    cases hm with
    | gap hc hs _ => exact .gap hc hs hrest'
    | comment _ hstops =>
      -- a comment would go on up to a line break, and there is none here
      obtain ⟨c, hc, hne⟩ := hrest
      exact absurd hne (decide_eq_false_iff_not.mp (hstops c hc))
    | word | int | string | arrow | doubleColon | mark => nomatch hnone
  | some kind =>
    obtain ⟨u, hu, rfl⟩ := hlast kind rfl
    obtain rfl : t = u := Option.some.inj (ht.symm.trans hu)
    obtain ⟨c, rfl, hc⟩ := hm.mark_text (by rcases hk with hk | hk <;> rw [hk] <;> decide)
    refine .mark hc fun hcolon => ?_
    rw [hcolon] at hc
    -- of the marks only a colon looks at what follows, and this is none
    rcases hk with hk | hk <;> rw [hk] at hc <;> nomatch hc

/-! ### Moving a run of tokens -/

/-- What follows later does not matter. -/
theorem Stops.append {sort : Char → Bool} {cs : List Char} (h : Stops sort cs) (hne : cs ≠ [])
    (ds : List Char) : Stops sort (cs ++ ds) := by
  obtain ⟨c, cs, rfl⟩ := List.exists_cons_of_ne_nil hne
  exact h

/-- What follows a gap can change as long as it begins in the same way. -/
theorem Lexes.refollowed {used : List Char} (h : Lexes p (used ++ rest) ts q rest)
    (hhead : rest'.head? = rest.head?) : Lexes p (used ++ rest') ts q rest' :=
  h.retarget fun _ _ hm _ => hm.lookahead hhead

/-- **A run of tokens** can be cut out of a text, from where the first one starts to where the last
one stops. It falls into the same tokens in front of anything that may follow an argument. -/
theorem Lexes.cut_run {us vs : List Token} (hus : us ≠ [])
    (h : Lexes p cs (ts ++ (us ++ vs)) q rest) :
    ∃ start stop text behind, us.head?.map Token.start = some start ∧
      us.getLast?.map Token.stop = some stop ∧ Lexes p cs ts start (text ++ behind) ∧
      Stops isGap text ∧ text ≠ [] ∧ stop = start.advanceAll text ∧
      (∀ behind', (∀ c ∈ behind'.head?, c ∈ closers) →
        Lexes start (text ++ behind') us stop behind') ∧ Lexes stop behind vs q rest := by
  induction us generalizing p cs ts with
  | nil => exact absurd rfl hus
  | cons t us ih =>
    obtain ⟨text, behind, hfront, hm, htext, hstop, hrest⟩ := h.cut
    have htoken : t = ⟨t.kind, String.ofList text, t.start, t.start.advanceAll text⟩ := by
      rw [← htext, ← hstop]
    -- one token, or a token and a run behind it
    cases us with
    | nil =>
      refine ⟨t.start, t.stop, text, behind, rfl, rfl, hfront, hm.head_token, hm.ne_nil, hstop,
        fun behind' hclose => ?_, hrest⟩
      have hone := Lexes.token (p := t.start) (hm.closed hclose) .done
      rwa [← htoken, ← hstop] at hone
    | cons u us =>
      have hrest' : Lexes t.stop behind ([] ++ (u :: us ++ vs)) q rest := hrest
      obtain ⟨start, stop, text', behind', hstart, hlast, hgap, hhead, hne, hstop', hrun, hbehind⟩ :=
        ih (List.cons_ne_nil u us) hrest'
      -- between the first token and the others there is nothing but gaps
      obtain ⟨gap, rfl, hadvance⟩ := hgap.used
      refine ⟨t.start, stop, text ++ (gap ++ text'), behind', rfl, ?_, ?_, ?_, ?_, ?_,
        fun rest' hclose => ?_, hbehind⟩
      · rw [List.getLast?_cons_cons]
        exact hlast
      · simpa only [List.append_assoc] using hfront
      · exact hm.head_token.append hm.ne_nil _
      · exact List.append_ne_nil_of_left_ne_nil hm.ne_nil _
      · rw [Pos.advanceAll_append, Pos.advanceAll_append, ← hstop, ← hadvance, hstop']
      · -- the first token and the gap see no further than to the next token
        have hsame : (text' ++ rest').head? = (text' ++ behind').head? := by
          obtain ⟨c, cs, rfl⟩ := List.exists_cons_of_ne_nil hne
          rfl
        have hgap' := hgap.refollowed hsame
        have hm' : Munches text (gap ++ (text' ++ rest')) (some t.kind) := by
          refine hm.lookahead ?_
          cases gap with
          | nil => exact hsame
          | cons c gap => rfl
        have hfirst := Lexes.token (p := t.start) hm' (hstop ▸ hgap'.append (hrun rest' hclose))
        rw [← htoken] at hfirst
        simpa only [List.append_assoc, List.nil_append] using hfirst

end ClosureLint
