import ClosureLint.Proofs.FindingsElsewhere
import ClosureLint.Proofs.Grammar.Complete.Items
import ClosureLint.Proofs.Grammar.Layout
import ClosureLint.Proofs.Grammar.Sound.Items
import ClosureLint.Proofs.Positions
import ClosureLint.Proofs.Splicing
import ClosureLint.Proofs.Totality

/-!
# Formatting does not change the verdict

Two texts with the same tokens differ in blanks and comments only. What is read from the second one is
what is read from the first, laid out anew; so the lint says the same about both.

* `Syntax.Layout.onto`, `Syntax.parse_relocate` — the second text as another layout of the first.
* `Lexes.slice_run` — from the start of a token to the stop of another, a text falls into the tokens
  between them.
* `SameTokens` — spans in two texts that begin and end at the same tokens.
* `lint_reformatted` — the diagnostics for two texts with the same tokens.
-/

namespace ClosureLint

variable {ts us : List Token} {source source' : String}

/-! ### The second text as a layout of the first -/

namespace Syntax

/-- The index of the token that starts at an offset, or that of the last one. -/
def startIndex (ts : List Token) (offset : Int) : Nat :=
  min ((ts.map fun t => (t.start.offset : Int)).idxOf offset) (ts.length - 1)

/-- The index of the token that stops at an offset, or that of the last one. -/
def stopIndex (ts : List Token) (offset : Int) : Nat :=
  min ((ts.map fun t => (t.stop.offset : Int)).idxOf offset) (ts.length - 1)

/-- The layout that puts each of the tokens `ts` where the token of `us` at its index stands. -/
def Layout.onto (ts us : List Token) : Layout where
  start offset := (us.getD (startIndex ts offset) default).start
  stop offset := (us.getD (stopIndex ts offset) default).stop

/-- **Tokens with the same faces** differ in their layout only. -/
theorem Layout.map_token_onto (hstarts : (ts.map fun t => (t.start.offset : Int)).Nodup)
    (hstops : (ts.map fun t => (t.stop.offset : Int)).Nodup) (hfaces : faces us = faces ts) :
    ts.map (Layout.onto ts us).token = us := by
  have hlength : us.length = ts.length := by simpa [faces] using congrArg List.length hfaces
  refine List.ext_getElem (by rw [List.length_map, hlength]) fun i hi hi' => ?_
  have hi : i < ts.length := hlength ▸ hi'
  -- no two tokens start at one offset, so it has the index of its token; likewise for stops
  have hstart : startIndex ts (ts[i].start.offset : Int) = i := by
    have hindex := hstarts.idxOf_getElem i (by rwa [List.length_map])
    rw [List.getElem_map] at hindex
    rw [startIndex, hindex]
    omega
  have hstop : stopIndex ts (ts[i].stop.offset : Int) = i := by
    have hindex := hstops.idxOf_getElem i (by rwa [List.length_map])
    rw [List.getElem_map] at hindex
    rw [stopIndex, hindex]
    omega
  -- the tokens at one index agree in kind and text
  have hface : us[i].face = ts[i].face := by
    have h := List.getElem_of_eq hfaces (show i < (faces us).length by simpa [faces] using hi')
    simpa [faces] using h
  obtain ⟨hkind, htext⟩ := Prod.mk.inj hface
  have hget : us.getD i default = us[i] := by
    rw [List.getD_eq_getElem?_getD, List.getElem?_eq_getElem hi', Option.getD_some]
  rw [List.getElem_map, Layout.token]
  simp only [Layout.onto, hstart, hstop, hget, ← hkind, ← htext]

/-- **Another layout of a text** is read as the same program elsewhere. -/
theorem parse_relocate {p : Program} {L : Layout} (h : parse source = .ok p)
    (hstuck : (lex source').stuck = none)
    (htokens : (lex source).tokens.map L.token = (lex source').tokens) :
    parse source' = .ok (p.relocate L.loc source') := by
  obtain ⟨-, items, hitems, rfl⟩ := parse_sound h
  have hitems' := hitems.relocate (L := L) rfl
  rw [htokens] at hitems'
  -- the grammar has one reading of the tokens, which is the one that was laid out anew
  rw [parse_complete hstuck hitems', Program.ofItems_relocate source]

end Syntax

/-! ### Texts between tokens -/

/-- A piece whose end lies before its start is empty. -/
theorem slice_eq_nil {cs : List Char} {a b : Nat} (h : b ≤ a) : slice cs a b = [] := by
  have ha : ¬ (a : Int) < 0 := by omega
  have hb : ¬ (b : Int) < 0 := by omega
  have hlength : min b cs.length - min a cs.length = 0 := by omega
  -- offsets are natural numbers here, so none counts from the end of the text
  simp only [slice, clampOffset, ha, hb, if_false, Int.toNat_natCast]
  rw [hlength, List.take_zero]

/-- **The text between two tokens**, both included, falls into the tokens from the one to the other. -/
theorem Lexes.slice_run {cs : List Char} {q : Pos} (h : Lexes {} cs ts q []) {i j : Nat}
    {first last : Token} (hi : ts[i]? = some first) (hj : ts[j]? = some last) :
    ∃ vs, lex (String.ofList (slice cs first.start.offset last.stop.offset)) = ⟨vs, none⟩ ∧
      faces vs = ((faces ts).drop i).take (j + 1 - i) := by
  obtain ⟨hi', hfirst⟩ := List.getElem?_eq_some_iff.mp hi
  obtain ⟨hj', hlast⟩ := List.getElem?_eq_some_iff.mp hj
  rcases Nat.lt_or_ge j i with hji | hij
  · -- the last token stops before the first one starts
    have hapart := List.pairwise_iff_getElem.mp h.apart.1 j i hj' hi' hji
    rw [hlast, hfirst] at hapart
    rw [slice_eq_nil hapart, Nat.sub_eq_zero_of_le hji, List.take_zero]
    exact ⟨[], Lexes.done.lexFrom_eq, rfl⟩
  -- otherwise the run is not empty, and stands between two others
  · have hsplit : ts = ts.take i ++ ((ts.drop i).take (j + 1 - i) ++ ts.drop (j + 1)) := by
      have hrest : ts.drop (j + 1) = (ts.drop i).drop (j + 1 - i) := by
        rw [List.drop_drop]
        congr 1
        omega
      rw [hrest, List.take_append_drop, List.take_append_drop]
    have hrun : (ts.drop i).take (j + 1 - i) ≠ [] := by
      refine List.ne_nil_of_length_pos ?_
      rw [List.length_take, List.length_drop]
      omega
    rw [hsplit] at h
    -- the run of tokens is cut out, from the start of its first one to the stop of its last one
    obtain ⟨start, stop, text, behind, hstart, hstop, hfront, -, -, hadvance, hruns, -⟩ :=
      h.cut_run hrun
    have hstart' : start = first.start := by
      rw [List.head?_take, List.head?_drop, hi, if_neg (by omega)] at hstart
      exact (Option.some.inj hstart).symm
    have hstop' : stop = last.stop := by
      rw [List.getLast?_take, List.getElem?_drop, if_neg (by omega)] at hstop
      have hindex : i + (j + 1 - i - 1) = j := by omega
      rw [hindex, hj] at hstop
      exact (Option.some.inj hstop).symm
    subst hstart' hstop'
    obtain ⟨front, hcs, hoffset, hend⟩ := hfront.run_text hadvance
    -- the text that was cut out falls into the run at the origin as well, with other places
    obtain ⟨vs, q', hvs, hfaces⟩ := (hruns [] (by simp)).moved {}
    rw [List.append_nil] at hvs
    refine ⟨vs, ?_, ?_⟩
    · rw [hcs, hoffset, hend, slice_append, lex, String.toList_ofList]
      exact hvs.lexFrom_eq
    · rw [hfaces, faces, faces, List.map_take, List.map_drop]

/-! ### Spans at the same tokens -/

/-- Two spans, in a text with the tokens `ts` and in one with the tokens `us`, begin at the same token
and end at the same token. -/
structure SameTokens (ts us : List Token) (s s' : Span) : Prop where
  tokens : ∃ (i j : Nat) (first last first' last' : Token),
    ts[i]? = some first ∧ ts[j]? = some last ∧ us[i]? = some first' ∧ us[j]? = some last' ∧
      s.toLoc = .between first.start last.stop ∧ s'.toLoc = .between first'.start last'.stop
  file : s.file = s'.file
  fromMacro : s.fromMacro = s'.fromMacro

/-- Spans that start at known places are ordered by file, and in one file by these places. -/
theorem Span.le_between {s t : Span} {a b c d : Pos} (hs : s.toLoc = .between a b)
    (ht : t.toLoc = .between c d) :
    s.le t = true ↔ if s.file.getD "" = t.file.getD "" then ¬ c.Before a
      else s.file.getD "" < t.file.getD "" := by
  have hsline : s.line = some ↑a.line := congrArg Loc.line hs
  have hscolumn : s.column = some ↑a.column := congrArg Loc.column hs
  have htline : t.line = some ↑c.line := congrArg Loc.line ht
  have htcolumn : t.column = some ↑c.column := congrArg Loc.column ht
  simp only [Span.le, Span.sortKey, hsline, hscolumn, htline, htcolumn, Option.getD_some,
    Pos.Before]
  -- by whether both are of one file
  split
  · split
    · simp only [decide_eq_true_eq]
      omega
    · simp only [decide_eq_true_eq]
      omega
  · exact decide_eq_true_iff

section

variable {q q' : Pos}

/-- **Two texts with the same tokens** correspond where spans at the same tokens are concerned. -/
theorem Lexes.corresponds (h : Lexes {} source.toList ts q [])
    (h' : Lexes {} source'.toList us q' []) (hfaces : faces us = faces ts) (hne : ts ≠ []) :
    Corresponds (SameTokens ts us) (Syntax.Layout.onto ts ts).loc (Syntax.Layout.onto ts us).loc
      (some source) (some source') where
  span s := by
    have hlength : us.length = ts.length := by simpa [faces] using congrArg List.length hfaces
    have hpos := List.length_pos_iff.mpr hne
    have hget {vs : List Token} {i : Nat} (hi : i < vs.length) :
        vs[i]? = some (vs.getD i default) := by
      rw [List.getD_eq_getElem?_getD, List.getElem?_eq_getElem hi, Option.getD_some]
    -- an index that is looked up is one of a token, as there are some
    have hstart : Syntax.startIndex ts (s.startPos.getD 0) < ts.length := by
      unfold Syntax.startIndex
      omega
    have hstop : Syntax.stopIndex ts (s.endPos.getD 0) < ts.length := by
      unfold Syntax.stopIndex
      omega
    exact ⟨⟨_, _, _, _, _, _, hget hstart, hget hstop, hget (hlength ▸ hstart),
      hget (hlength ▸ hstop), rfl, rfl⟩, rfl, rfl⟩
  le {s s' t t'} hs ht := by
    obtain ⟨⟨i, _, a, _, a', _, hi, -, hi', -, hloc, hloc'⟩, hfile, -⟩ := hs
    obtain ⟨⟨k, _, c, _, c', _, hk, -, hk', -, kloc, kloc'⟩, kfile, -⟩ := ht
    -- in either text the tokens are ordered as their indices are
    rw [Bool.eq_iff_iff, Span.le_between hloc kloc, Span.le_between hloc' kloc', ← hfile, ← kfile,
      h.before_iff hk hi, h'.before_iff hk' hi']
  text {s s'} hs := by
    obtain ⟨⟨i, j, a, b, a', b', hi, hj, hi', hj', hloc, hloc'⟩, -, -⟩ := hs
    obtain ⟨vs, hvs, hrun⟩ := h.slice_run hi hj
    obtain ⟨vs', hvs', hrun'⟩ := h'.slice_run hi' hj'
    rw [Span.textIn_between hloc, Span.textIn_between hloc']
    refine .some ⟨?_, ?_⟩
    · rw [hvs, hvs', hrun, hrun', hfaces]
    · rw [hvs, hvs']

end

/-! ### The lint -/

theorem lintSource_eq_of_parse {config : Config} {file : Option String} {p : Syntax.Program}
    (h : Syntax.parse source = .ok p) :
    lintSource config file source = (lintProgram config file p).mapError .check := by
  unfold lintSource Syntax.parseFile
  rw [h]
  rfl

/-- A program without items has no functions. -/
theorem check_empty (file : Option String) (source : String) : ∃ checked,
    Typing.check file (.ofItems source []) = .ok checked ∧ checked.functions = [] ∧
      checked.diagnostics = [] :=
  ⟨_, rfl, rfl, rfl⟩

/-- It is given no diagnostics. -/
theorem lintProgram_empty (config : Config) (file : Option String) :
    lintProgram config file (.ofItems source []) = .ok [] := by
  obtain ⟨checked, hcheck, hfunctions, hdiagnostics⟩ := check_empty file source
  have hlint : lintChecked config checked = .ok [] := by
    unfold lintChecked
    rw [hfunctions]
    exact congrArg Except.ok List.mergeSort_nil
  unfold lintProgram
  rw [hcheck]
  change (if hasErrors checked.diagnostics then _ else _) = _
  rw [hlint, hdiagnostics]
  rfl

/-- A text without tokens has no items. -/
theorem parse_of_no_tokens (hstuck : (lex source).stuck = none) (htokens : (lex source).tokens = []) :
    Syntax.parse source = .ok (.ofItems source []) :=
  Syntax.parse_complete hstuck (htokens ▸ .nil)

/-- It is given no diagnostics. -/
theorem lintSource_of_no_tokens (config : Config) (file : Option String)
    (hstuck : (lex source).stuck = none) (htokens : (lex source).tokens = []) :
    lintSource config file source = .ok [] := by
  rw [lintSource_eq_of_parse (parse_of_no_tokens hstuck htokens), lintProgram_empty]
  rfl

/-- A text that can be read can be linted. -/
theorem lintSource_succeeds {p : Syntax.Program} (h : Syntax.parse source = .ok p) (config : Config)
    (file : Option String) : ∃ ds, lintSource config file source = .ok ds := by
  obtain ⟨checked, hcheck⟩ := check_succeeds h file
  obtain ⟨ds, hds, -⟩ := runLints_succeeds (query_regular hcheck) [config] checked.functions
  have hlint : lintChecked config checked = .ok ds := hds
  rw [lintSource_eq_of_parse h]
  unfold lintProgram
  rw [hcheck]
  change ∃ ds, Except.mapError _ (if hasErrors checked.diagnostics then _ else _) = _
  rw [hlint]
  -- with errors nothing is linted, and the diagnostics are those of the check
  split <;> exact ⟨_, rfl⟩

/-- A text with tokens is kept with what is found out about its program. -/
theorem Typing.Checked.source_relocate (checked : Typing.Checked) (g : Loc → Loc)
    (h : (lex source).tokens ≠ []) : (checked.relocate g source).source = some source := by
  rw [Typing.Checked.relocate, isEmpty_of_tokens h]
  rfl

/-- **Formatting does not change the verdict.** Two texts that can be read and fall into the same tokens
are given diagnostics, one for one, that say the same, that begin and end at the same tokens, and whose
replacements fall into the same tokens. -/
theorem lint_reformatted {p p' : Syntax.Program} (hparse : Syntax.parse source = .ok p)
    (hparse' : Syntax.parse source' = .ok p')
    (hfaces : faces (lex source').tokens = faces (lex source).tokens) (config : Config)
    (file : Option String) :
    ∃ ds ds', lintSource config file source = .ok ds ∧ lintSource config file source' = .ok ds' ∧
      List.Forall₂ (SameVerdict (SameTokens (lex source).tokens (lex source').tokens)) ds ds' := by
  have hstuck := (Syntax.parse_sound hparse).1
  have hstuck' := (Syntax.parse_sound hparse').1
  by_cases hne : (lex source).tokens = []
  · have hne' : (lex source').tokens = [] := Syntax.faces_nil_iff.mp (hne ▸ hfaces)
    exact ⟨[], [], lintSource_of_no_tokens config file hstuck hne,
      lintSource_of_no_tokens config file hstuck' hne', .nil⟩
  · have hne' : (lex source').tokens ≠ [] := fun h =>
      hne (Syntax.faces_nil_iff.mp (h ▸ hfaces).symm)
    obtain ⟨q, hlexes⟩ := lexes_of_lex hstuck
    obtain ⟨q', hlexes'⟩ := lexes_of_lex hstuck'
    -- both programs are the first one, laid out over the tokens of either text
    have hlayout {us : List Token} (h : faces us = faces (lex source).tokens) :=
      Syntax.Layout.map_token_onto hlexes.starts_nodup hlexes.stops_nodup h
    have hp := Syntax.parse_relocate hparse hstuck (hlayout rfl)
    have hp' := Syntax.parse_relocate hparse hstuck' (hlayout hfaces)
    obtain ⟨checked, hcheck⟩ := check_succeeds hparse file
    -- there are tokens, so neither text is empty and both are kept with their programs
    have hcorresponds := hlexes.corresponds hlexes' hfaces hne
    rw [← checked.source_relocate _ hne, ← checked.source_relocate _ hne'] at hcorresponds
    have hagrees := (lintProgram_relocate config hcheck hcorresponds).mapError
      LintFault.check LintFault.check
    rw [← lintSource_eq_of_parse hp, ← lintSource_eq_of_parse hp'] at hagrees
    obtain ⟨ds, hds⟩ := lintSource_succeeds hparse config file
    obtain ⟨ds', hds', hsame⟩ := hagrees.answers hds
    exact ⟨ds, ds', hds, hds', hsame⟩

/-- A program with a redundant closure, on few lines. -/
def denseCall : String :=
  "fn pick(n:i32)->fn(i32)->i32;fn apply(f:fn(i32)->i32);\n"
    ++ "fn main()\x7bapply(|x|pick(1)(x));\x7d"

/-- The same program, with blanks and a comment inside of what is called. -/
def spacedCall : String :=
  "fn pick(n: i32) -> fn(i32) -> i32;\nfn apply(f: fn(i32) -> i32);\n"
    ++ "fn main() \x7b\n  apply(|x| pick( // the first\n    1)(x));\n\x7d\n"

/-- **The closure is reported in both**, with replacements that fall into the same tokens. -/
theorem spacedCall_reformatted : ∃ ds ds', lintSource .standard none denseCall = .ok ds ∧
    lintSource .standard none spacedCall = .ok ds' ∧ ds ≠ [] ∧
    List.Forall₂ (SameVerdict (SameTokens (lex denseCall).tokens (lex spacedCall).tokens)) ds ds' := by
  have hdense : (Syntax.parse denseCall).toOption.isSome = true := by decide +kernel
  have hspaced : (Syntax.parse spacedCall).toOption.isSome = true := by decide +kernel
  obtain ⟨p, hp⟩ := Option.isSome_iff_exists.mp hdense
  obtain ⟨p', hp'⟩ := Option.isSome_iff_exists.mp hspaced
  obtain ⟨ds, ds', hds, hds', hsame⟩ := lint_reformatted (toOption_eq_some.mp hp)
    (toOption_eq_some.mp hp') (by decide +kernel) .standard none
  have hfound : (lintSource .standard none denseCall).toOption.any (fun ds => !ds.isEmpty) = true := by
    decide +kernel
  obtain ⟨found, heq, hfound⟩ := (Option.any_eq_true _ _).mp hfound
  obtain rfl : ds = found := Except.ok.inj (hds.symm.trans (toOption_eq_some.mp heq))
  refine ⟨ds, ds', hds, hds', ?_, hsame⟩
  rintro rfl
  exact absurd hfound Bool.false_ne_true

end ClosureLint
