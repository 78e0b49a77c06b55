import ClosureLint.Proofs.Extents
import ClosureLint.Proofs.Splicing

/-!
# Nothing is lost between a text and its tokens

A text is its tokens and what stands between them, and what stands between them is blanks and comments.
So the tokens of a text can be joined by other blanks and comments, and the lexer finds them again.

* `Spacing`, `Trailing` — blanks and closed comments; behind them, perhaps, a comment that nothing closes.
* `Lexes.spacing` — a stretch of text without tokens.
* `lexFrom_spacing` — the lexer passes over blanks and comments, in front of whatever.
* `Respaced`, `lex_respaced` — the tokens joined anew are found again.
* `Lossless`, `lex_lossless` — what holds of a text and its tokens.
-/

namespace ClosureLint

/-! ### Blanks and comments -/

/-- Blanks and line comments, each of which a line feed closes. -/
inductive Spacing : List Char → Prop
  | nil : Spacing []
  | blank {c : Char} {cs : List Char} : isGap c = true → Spacing cs → Spacing (c :: cs)
  | comment {text cs : List Char} : (∀ d ∈ text, d ≠ '\n') → Spacing cs →
    Spacing ('/' :: '/' :: (text ++ '\n' :: cs))

/-- Blanks and comments at the end of a text, where the last comment may be without a line feed. -/
inductive Trailing : List Char → Prop
  | spacing {cs : List Char} : Spacing cs → Trailing cs
  | comment {cs text : List Char} : Spacing cs → (∀ d ∈ text, d ≠ '\n') →
    Trailing (cs ++ '/' :: '/' :: text)

namespace Spacing

variable {cs ds : List Char}

theorem blanks (h : ∀ c ∈ cs, isGap c = true) (hds : Spacing ds) : Spacing (cs ++ ds) := by
  induction cs with
  | nil => exact hds
  | cons c cs ih =>
    obtain ⟨hc, hcs⟩ := List.forall_mem_cons.mp h
    exact .blank hc (ih hcs)

/-- What begins with a line feed is still blanks and comments without it. -/
theorem of_lineFeed (h : Spacing ('\n' :: cs)) : Spacing cs := by
  cases h with
  | blank _ h => exact h

/-- Blanks and comments begin with a character that may follow a token. -/
theorem head_closer (h : Spacing cs) : ∀ c ∈ cs.head?, c ∈ closers := by
  intro c hc
  cases h with
  | nil => nomatch hc
  | blank hgap _ => exact Option.some.inj hc ▸ mem_closers_of_gap hgap
  | comment => exact Option.some.inj hc ▸ (by decide)

end Spacing

namespace Trailing

variable {cs ds : List Char}

theorem blanks (h : ∀ c ∈ cs, isGap c = true) (hds : Trailing ds) : Trailing (cs ++ ds) := by
  cases hds with
  | spacing hds => exact .spacing (.blanks h hds)
  | comment hds htext =>
    rw [← List.append_assoc]
    exact .comment (.blanks h hds) htext

theorem closed {text : List Char} (htext : ∀ d ∈ text, d ≠ '\n') (hds : Trailing ds) :
    Trailing ('/' :: '/' :: (text ++ '\n' :: ds)) := by
  cases hds with
  | spacing hds => exact .spacing (.comment htext hds)
  | @comment cs text' hds htext' =>
    have hsplit : '/' :: '/' :: (text ++ '\n' :: (cs ++ '/' :: '/' :: text'))
        = ('/' :: '/' :: (text ++ '\n' :: cs)) ++ '/' :: '/' :: text' := by simp
    rw [hsplit]
    exact .comment (.comment htext hds) htext'

theorem of_lineFeed (h : Trailing ('\n' :: cs)) : Trailing cs := by
  generalize hwhole : '\n' :: cs = whole at h
  cases h with
  | spacing h => exact .spacing (.of_lineFeed (hwhole ▸ h))
  | @comment front text hfront htext =>
    cases front with
    | nil => nomatch hwhole
    | cons c front =>
      obtain ⟨rfl, rfl⟩ := List.cons.inj hwhole
      exact .comment hfront.of_lineFeed htext

end Trailing

/-! ### Stretches without tokens -/

variable {p q : Pos} {cs rest : List Char} {ts : List Token}

/-- **A stretch of text without tokens** is blanks and comments. Its last comment is closed, unless the
text ends there. -/
theorem Lexes.spacing (h : Lexes p cs [] q rest) : ∃ gap, cs = gap ++ rest ∧ q = p.advanceAll gap ∧
    ((∃ c ∈ rest.head?, c ≠ '\n') → Spacing gap) ∧ (rest = [] → Trailing gap) := by
  generalize hts : ([] : List Token) = ts at h
  induction h with
  | done => exact ⟨[], rfl, rfl, fun _ => .nil, fun _ => .spacing .nil⟩
  | token => nomatch hts
  -- each piece is a run of blanks or one comment
  | @gap p q text cs rest ts hm hrest ih =>
    obtain ⟨gap, rfl, rfl, hspacing, htrailing⟩ := ih hts
    refine ⟨text ++ gap, (List.append_assoc ..).symm, (Pos.advanceAll_append p text gap).symm, ?_⟩
    generalize hnone : (none : Option TokenKind) = kind at hm
    cases hm with
    | word | int | string | arrow | doubleColon | mark => nomatch hnone
    | @gap c blanks _ hc hblanks _ =>
      have hall : ∀ d ∈ c :: blanks, isGap d = true := List.forall_mem_cons.mpr ⟨hc, hblanks⟩
      exact ⟨fun hhead => .blanks hall (hspacing hhead), fun hend => .blanks hall (htrailing hend)⟩
    | @comment text _ htext hstops =>
      have htext : ∀ d ∈ text, d ≠ '\n' := fun d hd => of_decide_eq_true (htext d hd)
      cases gap with
      | nil =>
        rw [List.append_nil]
        refine ⟨fun ⟨c, hc, hne⟩ => ?_, fun _ => Trailing.comment .nil htext⟩
        exact absurd hne (of_decide_eq_false (hstops c hc))
      | cons c gap =>
        -- the comment goes on up to a line feed, which closes it
        have hfeed : c = '\n' := Decidable.not_not.mp (of_decide_eq_false (hstops c rfl))
        subst hfeed
        exact ⟨fun hhead => .comment htext (hspacing hhead).of_lineFeed,
          fun hend => .closed htext (htrailing hend).of_lineFeed⟩

/-- A token begins with no line feed. -/
theorem Munches.head_ne_lineFeed {text : List Char} {kind : TokenKind}
    (h : Munches text rest (some kind)) (behind : List Char) :
    ∃ c ∈ (text ++ behind).head?, c ≠ '\n' := by
  obtain ⟨c, text, rfl⟩ := List.exists_cons_of_ne_nil h.ne_nil
  refine ⟨c, rfl, ?_⟩
  rintro rfl
  have hgap := h.head_token '\n' rfl
  exact absurd hgap (by decide)

/-! ### Passing over blanks and comments -/

/-- One blank less makes no difference but for the place. -/
theorem lexFrom_blank {c : Char} (hc : isGap c = true) (p : Pos) (cs : List Char) :
    lexFrom p (c :: cs) = lexFrom (p.advance c) cs := by
  -- all blanks at the front of a text are passed over at once
  have hrun (p : Pos) {d : Char} (hd : isGap d = true) (ds : List Char) : lexFrom p (d :: ds)
      = lexFrom (p.advanceAll (d :: ds.takeWhile isGap)) (ds.dropWhile isGap) := by
    obtain ⟨hblanks, hstops⟩ := takeWhile_stops isGap ds
    have hgap := lexFrom_gap p (Munches.gap hd hblanks hstops)
    rwa [List.cons_append, List.takeWhile_append_dropWhile] at hgap
  cases cs with
  | nil => rw [hrun p hc]; rfl
  | cons d ds =>
    by_cases hd : isGap d = true
    · rw [hrun p hc, hrun _ hd, List.takeWhile_cons_of_pos hd, List.dropWhile_cons_of_pos hd]
      rfl
    · rw [hrun p hc, List.takeWhile_cons_of_neg hd, List.dropWhile_cons_of_neg hd]
      rfl

/-- **The lexer passes over blanks and comments**, whatever stands behind them. -/
theorem lexFrom_spacing {gap : List Char} (h : Spacing gap) (p : Pos) (rest : List Char) :
    lexFrom p (gap ++ rest) = lexFrom (p.advanceAll gap) rest := by
  induction h generalizing p with
  | nil => rfl
  | blank hc _ ih => rw [List.cons_append, lexFrom_blank hc, ih, Pos.advanceAll_cons]
  | @comment text cs htext _ ih =>
    -- the line feed ends the comment and is a blank itself
    have hcomment : Munches ('/' :: '/' :: text) ('\n' :: (cs ++ rest)) none := by
      refine .comment (fun d hd => decide_eq_true (htext d hd)) fun d hd => ?_
      obtain rfl := Option.some.inj hd
      rfl
    have hsplit : ('/' :: '/' :: (text ++ '\n' :: cs)) ++ rest
        = ('/' :: '/' :: text) ++ '\n' :: (cs ++ rest) := by simp
    have hplace : (p.advanceAll ('/' :: '/' :: text)).advanceAll ('\n' :: cs)
        = p.advanceAll ('/' :: '/' :: (text ++ '\n' :: cs)) :=
      (Pos.advanceAll_append p ('/' :: '/' :: text) ('\n' :: cs)).symm
    rw [hsplit, lexFrom_gap p hcomment, lexFrom_blank rfl, ih, ← hplace]
    rfl

/-! ### Joining tokens anew -/

/-- The texts of the tokens one behind the other, with blanks or comments between any two. -/
inductive Respaced : List Token → List Char → Prop
  | nil : Respaced [] []
  | last {t : Token} : Respaced [t] t.text.toList
  | cons {t u : Token} {ts : List Token} {gap rest : List Char} :
    Spacing gap → gap ≠ [] → Respaced (u :: ts) rest →
    Respaced (t :: u :: ts) (t.text.toList ++ (gap ++ rest))

/-- A token that some text falls into. -/
def Token.Found (t : Token) : Prop :=
  ∃ text rest, t.text = String.ofList text ∧ Munches text rest (some t.kind)

theorem Lexes.found (h : Lexes p cs ts q rest) : ∀ t ∈ ts, t.Found := by
  intro t ht
  obtain ⟨before, after, rfl⟩ := List.append_of_mem ht
  obtain ⟨text, behind, -, hm, htext, -⟩ := h.cut
  exact ⟨text, behind, htext, hm⟩

/-- The lexer finds a token again in front of anything that begins like a gap. -/
theorem Token.Found.lexFrom_eq {t : Token} (h : t.Found) (p : Pos) {rest : List Char}
    (hrest : ∀ c ∈ rest.head?, c ∈ closers) : ∃ u q, u.face = t.face ∧
      lexFrom p (t.text.toList ++ rest)
        = ⟨u :: (lexFrom q rest).tokens, (lexFrom q rest).stuck⟩ := by
  obtain ⟨text, behind, htext, hm⟩ := h
  refine ⟨⟨t.kind, String.ofList text, p, p.advanceAll text⟩, p.advanceAll text, ?_, ?_⟩
  · rw [Token.face, Token.face, htext]
  · rw [htext, String.toList_ofList]
    exact lexFrom_token p (hm.closed hrest)

/-- **The tokens joined anew are found again**: they have the same kinds and texts. -/
theorem lex_respaced {text : List Char} (h : Respaced ts text) (hts : ∀ t ∈ ts, t.Found) (p : Pos) :
    ∃ us, lexFrom p text = ⟨us, none⟩ ∧ faces us = faces ts := by
  -- on how the tokens are joined: every token but the last has a gap behind it
  induction h generalizing p with
  | nil =>
    rw [lexFrom]
    exact ⟨[], rfl, rfl⟩
  | @last t =>
    have hend : ∀ c ∈ ([] : List Char).head?, c ∈ closers := fun c hc => by cases hc
    obtain ⟨u, q, hface, hlex⟩ := (hts t List.mem_cons_self).lexFrom_eq p hend
    rw [List.append_nil] at hlex
    rw [hlex, lexFrom]
    exact ⟨[u], rfl, congrArg (fun f => [f]) hface⟩
  | @cons t u ts gap rest hgap hne _ ih =>
    obtain ⟨ht, hrest⟩ := List.forall_mem_cons.mp hts
    -- what stands behind the token cannot lengthen it
    have hcloser : ∀ c ∈ (gap ++ rest).head?, c ∈ closers := by
      obtain ⟨c, gap, rfl⟩ := List.exists_cons_of_ne_nil hne
      exact hgap.head_closer
    obtain ⟨v, q, hface, hlex⟩ := ht.lexFrom_eq p hcloser
    obtain ⟨us, hus, hfaces⟩ := ih hrest (q.advanceAll gap)
    rw [hlex, lexFrom_spacing hgap, hus]
    exact ⟨v :: us, rfl, List.cons_eq_cons.mpr ⟨hface, hfaces⟩⟩

/-! ### A text and its tokens -/

/-- What holds of a text and the tokens into which it falls. -/
structure Lossless (source : String) (ts : List Token) : Prop where
  /-- No token starts before the one in front of it has ended. -/
  apart : ts.Pairwise fun t u => t.stop.offset ≤ u.start.offset
  /-- Tokens lie inside of the text, and none of them is empty. -/
  inside : ∀ t ∈ ts, t.start.offset < t.stop.offset ∧ t.stop.offset ≤ source.toList.length
  /-- The text of a token is what stands between its offsets. -/
  exact_text : ∀ t ∈ ts,
    t.text = String.ofList (slice source.toList t.start.offset t.stop.offset)
  /-- Lines and columns are counted by the line feeds in front of the offset. -/
  placed : ∀ t ∈ ts, t.start = placeAt source.toList t.start.offset ∧
    t.stop = placeAt source.toList t.stop.offset
  /-- In front of the first token there are blanks and comments only, -/
  front : ∀ t ∈ ts.head?, Spacing (source.toList.take t.start.offset)
  /-- so there are between two neighbours, -/
  between : ∀ before t u after, ts = before ++ t :: u :: after →
    Spacing (slice source.toList t.stop.offset u.start.offset)
  /-- and behind the last one, where a comment may be without a line feed. -/
  behind : Trailing (source.toList.drop ((ts.getLast?.map fun t => t.stop.offset).getD 0))
  /-- Joined by other blanks and comments, the tokens are found again. -/
  respaced : ∀ text, Respaced ts text →
    ∃ us, lex (String.ofList text) = ⟨us, none⟩ ∧ faces us = faces ts

/-- **The lexer is lossless.** -/
theorem lex_lossless {source : String} (h : (lex source).stuck = none) :
    Lossless source (lex source).tokens := by
  obtain ⟨q, hlexes⟩ := lexes_of_lex h
  generalize (lex source).tokens = ts at hlexes
  constructor
  case apart => exact hlexes.apart.1
  case inside =>
    intro t ht
    have hstop := hlexes.stop_le t ht
    rw [Nat.zero_add] at hstop
    exact ⟨(hlexes.apart.2 t ht).2, hstop⟩
  case exact_text =>
    intro t ht
    -- the text is cut before and behind the token
    obtain ⟨before, after, rfl⟩ := List.append_of_mem ht
    obtain ⟨text, behind, hfront, -, htext, hstop, -⟩ := hlexes.cut
    obtain ⟨front, hcs, hstart, hend⟩ := hfront.run_text hstop
    rw [htext, hcs, hstart, hend, slice_append]
  case placed => exact hlexes.placed
  case front =>
    intro t ht
    -- no token stands before the first one, so all before it is spacing
    obtain ⟨after, rfl⟩ := List.head?_eq_some_iff.mp ht
    have hfirst : Lexes {} source.toList ([] ++ t :: after) q [] := hlexes
    obtain ⟨text, behind, hfront, hm, -⟩ := hfirst.cut
    obtain ⟨gap, hcs, hstart, hspacing, -⟩ := hfront.spacing
    rw [hcs, hstart, Pos.offset_advanceAll, Nat.zero_add, List.take_left]
    exact hspacing (hm.head_ne_lineFeed behind)
  case between =>
    rintro before t u after rfl
    obtain ⟨text, behind, hfront, -, -, hstop, hrest⟩ := hlexes.cut
    obtain ⟨front, hcs, hstart, hend⟩ := hfront.run_text hstop
    -- the next cut is made in what stands behind the first of the two
    have hnext : Lexes t.stop behind ([] ++ u :: after) q [] := hrest
    obtain ⟨text', behind', hgap, hm, -⟩ := hnext.cut
    obtain ⟨gap, rfl, hstart', hspacing, -⟩ := hgap.spacing
    have hoffset : u.start.offset = (front ++ text).length + gap.length := by
      rw [hstart', Pos.offset_advanceAll, hend, List.length_append]
    rw [hcs, ← List.append_assoc, hoffset, hend, ← List.length_append, slice_append]
    exact hspacing (hm.head_ne_lineFeed behind')
  case behind =>
    -- without tokens the whole text is spacing
    rcases List.eq_nil_or_concat ts with rfl | ⟨before, t, rfl⟩
    · obtain ⟨gap, hcs, -, -, htrailing⟩ := hlexes.spacing
      rw [hcs, List.append_nil]
      exact htrailing rfl
    · rw [List.concat_eq_append] at hlexes
      obtain ⟨text, behind, hfront, -, -, hstop, hrest⟩ := hlexes.cut
      obtain ⟨front, hcs, -, hend⟩ := hfront.run_text hstop
      obtain ⟨gap, rfl, -, -, htrailing⟩ := hrest.spacing
      have hlast : ((before.concat t).getLast?.map fun t => t.stop.offset).getD 0 = t.stop.offset := by
        rw [List.concat_eq_append, List.getLast?_append_of_ne_nil _ (List.cons_ne_nil t [])]
        rfl
      rw [hlast, hcs, hend, ← List.drop_drop, List.drop_left, List.drop_left, List.append_nil]
      exact htrailing rfl
  case respaced =>
    intro text htext
    rw [lex, String.toList_ofList]
    exact lex_respaced htext hlexes.found {}

/-- A number and a word without a blank between them, a comment, a string over two lines. -/
def crowdedTokens : String := "1a//b\n\"//\n\"//"

/-- Its tokens, which are found again with other blanks and comments between them. -/
theorem crowdedTokens_lossless : ∃ ts, lex crowdedTokens = ⟨ts, none⟩ ∧ Lossless crowdedTokens ts ∧
    ts = [⟨.int, "1", ⟨0, 1, 1⟩, ⟨1, 1, 2⟩⟩, ⟨.name, "a", ⟨1, 1, 2⟩, ⟨2, 1, 3⟩⟩,
      ⟨.string, "\"//\n\"", ⟨6, 2, 1⟩, ⟨11, 3, 2⟩⟩] ∧
    ∃ us, lex "1//\n\ta \"//\n\"" = ⟨us, none⟩ ∧ faces us = faces ts := by
  have hlex : lex crowdedTokens = ⟨[⟨.int, "1", ⟨0, 1, 1⟩, ⟨1, 1, 2⟩⟩,
      ⟨.name, "a", ⟨1, 1, 2⟩, ⟨2, 1, 3⟩⟩,
      ⟨.string, "\"//\n\"", ⟨6, 2, 1⟩, ⟨11, 3, 2⟩⟩], none⟩ := by decide +kernel
  have hlossless : Lossless crowdedTokens (lex crowdedTokens).tokens :=
    lex_lossless (congrArg Lexed.stuck hlex)
  rw [hlex] at hlossless
  have hcomment : Spacing ['/', '/', '\n', '\t'] := @Spacing.comment [] ['\t'] nofun (.blank rfl .nil)
  have hblank : Spacing [' '] := .blank rfl .nil
  exact ⟨_, hlex, hlossless, rfl, hlossless.respaced _
    (.cons hcomment (List.cons_ne_nil _ _) (.cons hblank (List.cons_ne_nil _ _) .last))⟩

end ClosureLint
