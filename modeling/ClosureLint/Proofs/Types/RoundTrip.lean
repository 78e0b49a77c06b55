import ClosureLint.Proofs.Grammar.Derivations
import ClosureLint.Proofs.Types.Legible
import ClosureLint.Ty.Text
import Mathlib.Data.List.Forall2

/-!
# The text of a type can be read again

What a type is written as is a written type, and it means that type: printing, cutting into tokens,
reading and resolving come back to where they began. The text of a part stands in front of marks and
spaces only, so everything is said of a text in front of what does not go on with a word.

* `Spells` — a text that can be read as a type that means `t`.
* `lexes_separated`, `lexes_closing` — so can lists of such texts, up to the mark that closes them.
* `Legible.spelled` — the text of every legible type is of that kind.
* `typeIn?` — the type that a text holds.
* `text_roundtrip` — printing a type that was resolved, and reading it again.
-/

namespace ClosureLint

open ClosureLint.Syntax
open ClosureLint.Ty (commaSeparated)

variable {paths : List Path} {s : TypeScope} {t u : Ty} {text : String}

/-! ### Pieces of text -/

section Pieces

variable {cs rest : List Char} {ts us : List Token} {start q : Pos}

/-- A mark is a token of its own. -/
theorem lexes_mark {c : Char} {kind : TokenKind} (hk : TokenKind.ofMark? c = some kind)
    (hc : c ≠ ':') (start : Pos) (cs : List Char) :
    ∃ t q, Lexes start (c :: cs) [t] q cs ∧ t.kind = kind :=
  ⟨_, _, .token (.mark hk fun h => absurd h hc) .done, rfl⟩

/-- So is a keyword in front of what does not go on with it. -/
theorem lexes_keyword (c : Char) (ds : List Char) (kind : TokenKind) (hc : isWordStart c = true)
    (hds : ds.all isWordPart = true) (hk : TokenKind.ofWord (String.ofList (c :: ds)) = kind)
    (start : Pos) (hcs : Stops isWordPart cs) :
    ∃ t q, Lexes start (c :: ds ++ cs) [t] q cs ∧ t.kind = kind :=
  ⟨_, _, .token (.word hc (List.all_eq_true.mp hds) hcs) .done, hk⟩

/-- A space is a gap in front of a token. -/
theorem lexes_space (start : Pos) (hcs : Stops isGap cs) :
    ∃ q, Lexes start (' ' :: cs) [] q cs :=
  ⟨_, .gap (.gap rfl (fun _ hd => absurd hd List.not_mem_nil) hcs) .done⟩

theorem stops_cons {sort : Char → Bool} {c : Char} (h : sort c = false) (cs : List Char) :
    Stops sort (c :: cs) := fun _ hd => Option.some.inj hd ▸ h

theorem isDecimal_of_isDigit {c : Char} (h : c.isDigit = true) : isDecimal c = true := by
  simp only [Char.isDigit, isDecimal, Bool.and_eq_true, decide_eq_true_eq, Char.le_def] at h ⊢
  exact h

/-- A number is written with digits. -/
theorem isDecimal_repr (n : Nat) :
    ∃ c ds, Nat.toDigits 10 n = c :: ds ∧ isDecimal c = true ∧ ∀ d ∈ ds, isDecimal d = true := by
  have hdigits : ∀ c ∈ Nat.toDigits 10 n, isDecimal c = true := fun c hc =>
    isDecimal_of_isDigit (Nat.isDigit_of_mem_toDigits (by decide) (by decide) hc)
  obtain ⟨c, ds, hsplit⟩ := List.exists_cons_of_ne_nil (Nat.toDigits_ne_nil (n := n) (b := 10))
  rw [hsplit] at hdigits
  obtain ⟨hc, hds⟩ := List.forall_mem_cons.mp hdigits
  exact ⟨c, ds, hsplit, hc, hds⟩

theorem stops_repr (n : Nat) (cs : List Char) : Stops isGap (n.repr.toList ++ cs) := by
  obtain ⟨c, ds, hsplit, hc, -⟩ := isDecimal_repr n
  rw [Nat.repr_eq_ofList_toDigits, String.toList_ofList, hsplit]
  exact stops_cons (Bool.eq_false_iff.mpr (not_gap_of_decimal hc)) _

/-- **A number** is a token, which has that value. -/
theorem lexes_number {n : Nat} (hn : FitsDigits maxDigits n) (start : Pos) (hcs : Stops isDecimal cs) :
    ∃ t q, Lexes start (n.repr.toList ++ cs) [t] q cs ∧ t.kind = .int ∧ intValue t = n ∧
      intLate t = [] := by
  -- it has no more digits than a number may have
  have hlength : (Nat.toDigits 10 n).length ≤ maxDigits := by
    revert hn
    generalize hmax : maxDigits = k
    have hpos : 0 < k := hmax ▸ (by decide)
    exact (Nat.length_toDigits_le_iff (by decide) hpos).mpr
  have hvalue : digitsValue (Nat.toDigits 10 n) = n := by
    -- the library multiplies from the other side
    rw [digitsValue, Text.numberOf, List.foldl_map]
    refine Eq.trans ?_ Nat.ofDigitChars_ten_toDigits
    rw [Nat.ofDigitChars]
    congr 1
    funext m c
    rw [Nat.mul_comm]
  obtain ⟨c, ds, hsplit, hc, hds⟩ := isDecimal_repr n
  rw [Nat.repr_eq_ofList_toDigits, String.toList_ofList]
  rw [hsplit] at hlength hvalue ⊢
  refine ⟨_, _, .token (.int hc hds hcs) .done, rfl, ?_, ?_⟩
  · rw [intValue, String.toList_ofList, hvalue]
  · rw [intLate, String.toList_ofList]
    exact if_neg (Nat.not_lt_of_le hlength)

end Pieces

/-! ### Texts that can be read -/

/-- In front of anything that does not go on with a word, the text falls into the tokens of a written
type, and that means `t`. -/
structure Spells (s : TypeScope) (text : String) (t : Ty) : Prop where
  head : Stops isGap text.toList
  ne_nil : text.toList ≠ []
  reads : ∀ (start : Pos) {rest : List Char}, Stops isWordPart rest → ∃ ts q e,
    Lexes start (text.toList ++ rest) ts q rest ∧ IsType ts e [] ∧ resolveType s e = (t, [])

theorem Spells.stops_append (h : Spells s text t) (rest : List Char) :
    Stops isGap (text.toList ++ rest) := h.head.append h.ne_nil rest

/-- A path that is neither `Self` nor built in, and that a struct is declared under. -/
theorem spelled_path {p : Path} (hp : p.Written)
    (hmeans : ∀ l, resolveType s (.named l p []) = (t, [])) : Spells s p.text t := by
  obtain ⟨c, hc, hstart⟩ := hp.head_text
  refine ⟨fun d hd => ?_, fun hnil => ?_, fun start rest hrest => ?_⟩
  · obtain rfl := Option.some.inj (hc.symm.trans hd)
    exact Bool.eq_false_iff.mpr (not_gap_of_word hstart)
  · rw [hnil] at hc
    cases hc
  · obtain ⟨ts, q, hlexes, hpath⟩ := lexes_path_before hp start hrest
    exact ⟨ts, q, _, hlexes, .named hpath, hmeans _⟩

/-! ### Prefixes and brackets -/

theorem Spells.ref (h : Spells s text t) (isMut : Bool) :
    Spells s ((if isMut then "&mut " else "&") ++ text) (.ref t isMut) := by
  cases isMut with
  | false =>
    refine ⟨?_, ?_, fun start rest hrest => ?_⟩
    all_goals simp only [Bool.false_eq_true, if_false, String.toList_append]
    · exact stops_cons (by decide) _
    · exact List.cons_ne_nil _ _
    -- without the keyword the type follows at once
    · obtain ⟨amp, q, hamp, hk⟩ := lexes_mark (c := '&') rfl (by decide) start (text.toList ++ rest)
      obtain ⟨ts, q', e, hts, htype, hmeans⟩ := h.reads q hrest
      refine ⟨_, q', _, hamp.append hts, .ref hk .absent htype, ?_⟩
      rw [resolveType, hmeans]
  -- a space keeps the keyword apart from the type
  | true =>
    refine ⟨?_, ?_, fun start rest hrest => ?_⟩
    all_goals simp only [if_true, String.toList_append]
    · exact stops_cons (by decide) _
    · exact List.cons_ne_nil _ _
    · obtain ⟨amp, q₁, hamp, hk⟩ := lexes_mark (c := '&') rfl (by decide) start
        ("mut".toList ++ ' ' :: (text.toList ++ rest))
      obtain ⟨word, q₂, hword, hk'⟩ := lexes_keyword 'm' ['u', 't'] .mutWord (by decide)
        (by decide) (by decide) q₁ (stops_cons (c := ' ') (by decide) (text.toList ++ rest))
      obtain ⟨q₃, hspace⟩ := lexes_space q₂ (h.stops_append rest)
      obtain ⟨ts, q₄, e, hts, htype, hmeans⟩ := h.reads q₃ hrest
      have href : IsType (amp :: ([word] ++ ts)) _ [] := .ref hk (.present hk') htype
      refine ⟨_, q₄, _, hamp.append (hword.append (hspace.append hts)), href, ?_⟩
      rw [resolveType, hmeans]

theorem Spells.slice (h : Spells s text t) : Spells s ("[" ++ text ++ "]") (.slice t) := by
  refine ⟨?_, ?_, fun start rest hrest => ?_⟩
  all_goals simp only [String.toList_append, List.append_assoc]
  · exact stops_cons (by decide) _
  · exact List.cons_ne_nil _ _
  · obtain ⟨op, q₁, hop, hk⟩ := lexes_mark (c := '[') rfl (by decide) start
      (text.toList ++ ']' :: rest)
    obtain ⟨ts, q₂, e, hts, htype, hmeans⟩ := h.reads q₁ (stops_cons (c := ']') (by decide) rest)
    obtain ⟨cl, q₃, hcl, hk'⟩ := lexes_mark (c := ']') rfl (by decide) q₂ rest
    refine ⟨_, q₃, _, hop.append (hts.append hcl), .slice hk htype hk', ?_⟩
    rw [resolveType, hmeans]

theorem Spells.array (h : Spells s text t) {n : Nat} (hn : FitsDigits maxDigits n) :
    Spells s ("[" ++ text ++ "; " ++ n.repr ++ "]") (.array t (some n)) := by
  refine ⟨?_, ?_, fun start rest hrest => ?_⟩
  all_goals simp only [String.toList_append, List.append_assoc]
  · exact stops_cons (by decide) _
  · exact List.cons_ne_nil _ _
  · obtain ⟨op, q₁, hop, hk⟩ := lexes_mark (c := '[') rfl (by decide) start
      (text.toList ++ ';' :: ' ' :: (n.repr.toList ++ ']' :: rest))
    obtain ⟨ts, q₂, e, hts, htype, hmeans⟩ := h.reads q₁
      (stops_cons (c := ';') (by decide) (' ' :: (n.repr.toList ++ ']' :: rest)))
    obtain ⟨semicolon, q₃, hsemicolon, hk₁⟩ := lexes_mark (c := ';') rfl (by decide) q₂
      (' ' :: (n.repr.toList ++ ']' :: rest))
    obtain ⟨q₄, hspace⟩ := lexes_space q₃ (stops_repr n (']' :: rest))
    -- the length, which the bracket closes
    obtain ⟨number, q₅, hnumber, hk₂, hvalue, hlate⟩ := lexes_number hn q₄
      (stops_cons (c := ']') (by decide) rest)
    obtain ⟨cl, q₆, hcl, hk₃⟩ := lexes_mark (c := ']') rfl (by decide) q₅ rest
    have harray := IsType.array hk htype hk₁ hk₂ hk₃
    rw [hlate] at harray
    refine ⟨_, q₆, _, hop.append (hts.append (hsemicolon.append (hspace.append
      (hnumber.append hcl)))), harray, ?_⟩
    rw [resolveType, hmeans, hvalue]

/-! ### Lists -/

theorem commaSeparated_singleton (text : String) : commaSeparated [text] = text := by
  rw [← String.toList_inj, commaSeparated, String.toList_intercalate]
  simp [List.intercalate]

theorem toList_commaSeparated_cons (text : String) {texts : List String} (h : texts ≠ []) :
    (commaSeparated (text :: texts)).toList
      = text.toList ++ ',' :: ' ' :: (commaSeparated texts).toList := by
  obtain ⟨other, others, rfl⟩ := List.exists_cons_of_ne_nil h
  rw [commaSeparated, commaSeparated, String.toList_intercalate, String.toList_intercalate]
  cases others <;> simp [List.intercalate]

variable {texts : List String} {types : List Ty}

theorem stops_commaSeparated (h : List.Forall₂ (Spells s) texts types) (hne : texts ≠ [])
    (rest : List Char) : Stops isGap ((commaSeparated texts).toList ++ rest) := by
  cases h with
  | nil => exact absurd rfl hne
  | @cons text _ texts _ hone _ =>
    by_cases hrest : texts = []
    · rw [hrest, commaSeparated_singleton]
      exact hone.stops_append rest
    · rw [toList_commaSeparated_cons text hrest, List.append_assoc]
      exact hone.stops_append _

/-- The lists of types that a mark closes. -/
theorem typesClosing_closesLists :
    ClosesLists (fun ts e => IsType ts e []) (fun ts es => IsTypesClosing ts es []) .rightParen :=
  ⟨.last, .cons⟩

theorem typeArgs_closesSilently :
    ClosesLists (fun ts e => IsType ts e []) (fun ts es => IsTypeArgs ts es []) .greater :=
  ⟨.last, .cons⟩

/-- **Texts with commas between them** can be read up to the mark that closes them. -/
theorem lexes_separated {C : List Token → List TypeExpr → Prop} {kind : TokenKind} (mark : Char)
    (hC : ClosesLists (fun ts e => IsType ts e []) C kind)
    (hk : TokenKind.ofMark? mark = some kind) (hcolon : mark ≠ ':')
    (hword : isWordPart mark = false) (h : List.Forall₂ (Spells s) texts types) (hne : texts ≠ [])
    (start : Pos) (rest : List Char) :
    ∃ ts q es, Lexes start ((commaSeparated texts).toList ++ mark :: rest) ts q rest ∧ C ts es ∧
      es ≠ [] ∧ resolveTypes s es = (types, []) := by
  -- the last text stands in front of the mark, each other one in front of a comma
  induction h generalizing start with
  | nil => exact absurd rfl hne
  | @cons text _ texts _ hone hothers ih =>
    by_cases hrest : texts = []
    · subst hrest
      cases hothers
      rw [commaSeparated_singleton]
      obtain ⟨ts, q₁, e, hts, htype, hmeans⟩ := hone.reads start (stops_cons hword rest)
      obtain ⟨cl, q₂, hcl, hk'⟩ := lexes_mark hk hcolon q₁ rest
      refine ⟨_, q₂, [e], hts.append hcl, hC.last htype hk', List.cons_ne_nil _ _, ?_⟩
      rw [resolveTypes_cons, hmeans]
      rfl
    · rw [toList_commaSeparated_cons text hrest, List.append_assoc, List.cons_append,
        List.cons_append]
      obtain ⟨ts, q₁, e, hts, htype, hmeans⟩ := hone.reads start
        (stops_cons (c := ',') (by decide) (' ' :: ((commaSeparated texts).toList ++ mark :: rest)))
      obtain ⟨comma, q₂, hcomma, hk'⟩ := lexes_mark (c := ',') rfl (by decide) q₁
        (' ' :: ((commaSeparated texts).toList ++ mark :: rest))
      -- behind the comma there is a space, and then the others
      obtain ⟨q₃, hspace⟩ := lexes_space q₂ (stops_commaSeparated hothers hrest (mark :: rest))
      obtain ⟨us, q₄, es, hus, htypes, -, hmeans'⟩ := ih hrest q₃
      refine ⟨_, q₄, e :: es, hts.append (hcomma.append (hspace.append hus)),
        hC.cons htype hk' htypes, List.cons_ne_nil _ _, ?_⟩
      rw [resolveTypes_cons, hmeans, hmeans']
      rfl

/-- Between parentheses there may be none. -/
theorem lexes_closing (h : List.Forall₂ (Spells s) texts types) (start : Pos) (rest : List Char) :
    ∃ ts q es, Lexes start ((commaSeparated texts).toList ++ ')' :: rest) ts q rest ∧
      IsTypesClosing ts es [] ∧ resolveTypes s es = (types, []) := by
  by_cases hne : texts = []
  · subst hne
    cases h
    obtain ⟨cl, q, hcl, hk⟩ := lexes_mark (c := ')') rfl (by decide) start rest
    refine ⟨_, q, [], hcl, .nil hk, ?_⟩
    rw [resolveTypes]
  · obtain ⟨ts, q, es, hts, htypes, -, hmeans⟩ := lexes_separated ')' typesClosing_closesLists rfl
      (by decide) (by decide) h hne start rest
    exact ⟨ts, q, es, hts, htypes, hmeans⟩

/-- **A struct with its arguments.** -/
theorem Spells.generic {p : Path} (hp : p.Written) (hfound : s.names.find? p = some p.text)
    (h : List.Forall₂ (Spells s) texts types) (hne : texts ≠ []) :
    Spells s (p.text ++ "<" ++ commaSeparated texts ++ ">") (.nominal p.text types) := by
  have hhead := hp.head_text
  refine ⟨?_, ?_, fun start rest hrest => ?_⟩
  all_goals simp only [String.toList_append, List.append_assoc]
  · obtain ⟨c, hc, hstart⟩ := hhead
    intro d hd
    rw [List.head?_append, hc] at hd
    obtain rfl := Option.some.inj hd
    exact Bool.eq_false_iff.mpr (not_gap_of_word hstart)
  · obtain ⟨c, hc, -⟩ := hhead
    refine List.append_ne_nil_of_left_ne_nil (fun hnil => ?_) _
    rw [hnil] at hc
    cases hc
  -- the path goes up to the bracket
  · obtain ⟨ts, q₁, hts, hpath⟩ := lexes_path_before hp start
      (stops_cons (c := '<') (by decide) ((commaSeparated texts).toList ++ '>' :: rest))
    obtain ⟨less, q₂, hless, hk⟩ := lexes_mark (c := '<') rfl (by decide) q₁
      ((commaSeparated texts).toList ++ '>' :: rest)
    obtain ⟨us, q₃, es, hus, hargs, hne', hmeans⟩ := lexes_separated '>' typeArgs_closesSilently rfl
      (by decide) (by decide) h hne q₂ rest
    refine ⟨_, q₃, _, hts.append (hless.append hus), .generic hpath hk hargs, ?_⟩
    -- with arguments a path is looked up among the structs only
    have hhas : (!es.isEmpty) = true := by
      obtain ⟨e, es, rfl⟩ := List.exists_cons_of_ne_nil hne'
      rfl
    rw [resolveType, hhas, builtIn_args, hfound, hmeans]

/-- **A tuple**: one of one element keeps its comma. -/
theorem Spells.tuple (h : List.Forall₂ (Spells s) texts types) :
    Spells s (if texts.length = 1 then "(" ++ commaSeparated texts ++ ",)"
      else "(" ++ commaSeparated texts ++ ")") (.tuple types) := by
  refine ⟨?_, ?_, fun start rest hrest => ?_⟩
  · split <;> simp only [String.toList_append, List.append_assoc] <;> exact stops_cons (by decide) _
  · split <;> simp only [String.toList_append, List.append_assoc] <;> exact List.cons_ne_nil _ _
  · cases h with
    | nil =>
      obtain ⟨op, q₁, hop, hk⟩ := lexes_mark (c := '(') rfl (by decide) start (')' :: rest)
      obtain ⟨cl, q₂, hcl, hk'⟩ := lexes_mark (c := ')') rfl (by decide) q₁ rest
      refine ⟨_, q₂, _, hop.append hcl, .unit hk hk', ?_⟩
      rw [resolveType, resolveTypes]
    | @cons text _ texts _ hone hothers =>
      -- without its comma a single type would be in parentheses, and no tuple
      by_cases hrest : texts = []
      · subst hrest
        cases hothers
        simp only [List.length_singleton, if_true, commaSeparated_singleton, String.toList_append,
          List.append_assoc]
        obtain ⟨op, q₁, hop, hk⟩ := lexes_mark (c := '(') rfl (by decide) start
          (text.toList ++ ',' :: ')' :: rest)
        obtain ⟨ts, q₂, e, hts, htype, hmeans⟩ := hone.reads q₁
          (stops_cons (c := ',') (by decide) (')' :: rest))
        obtain ⟨comma, q₃, hcomma, hk₁⟩ := lexes_mark (c := ',') rfl (by decide) q₂ (')' :: rest)
        obtain ⟨cl, q₄, hcl, hk₂⟩ := lexes_mark (c := ')') rfl (by decide) q₃ rest
        refine ⟨_, q₄, _, hop.append (hts.append (hcomma.append hcl)),
          .tuple hk htype hk₁ (.nil hk₂), ?_⟩
        rw [resolveType, resolveTypes_cons, resolveTypes, hmeans]
        rfl
      · have hlength : (text :: texts).length ≠ 1 := by
          rw [List.length_cons]
          have := List.length_pos_iff.mpr hrest
          omega
        simp only [if_neg hlength, String.toList_append, toList_commaSeparated_cons text hrest,
          List.append_assoc]
        obtain ⟨op, q₁, hop, hk⟩ := lexes_mark (c := '(') rfl (by decide) start
          (text.toList ++ ',' :: ' ' :: ((commaSeparated texts).toList ++ ')' :: rest))
        obtain ⟨ts, q₂, e, hts, htype, hmeans⟩ := hone.reads q₁
          (stops_cons (c := ',') (by decide) (' ' :: ((commaSeparated texts).toList ++ ')' :: rest)))
        obtain ⟨comma, q₃, hcomma, hk₁⟩ := lexes_mark (c := ',') rfl (by decide) q₂
          (' ' :: ((commaSeparated texts).toList ++ ')' :: rest))
        obtain ⟨q₄, hspace⟩ := lexes_space q₃ (stops_commaSeparated hothers hrest (')' :: rest))
        obtain ⟨us, q₅, es, hus, htypes, hmeans'⟩ := lexes_closing hothers q₄ rest
        refine ⟨_, q₅, _, hop.append (hts.append (hcomma.append (hspace.append hus))),
          .tuple hk htype hk₁ htypes, ?_⟩
        rw [resolveType, resolveTypes_cons, hmeans, hmeans']
        rfl

/-! ### Functions -/

/-- What the result of a function is written as: nothing for the unit type. -/
def retText (ret : Ty) (text : String) : String := if ret = .unit then "" else " -> " ++ text

/-- **The parameters and the result of a function.** -/
theorem lexes_signature {ret : Ty} (h : List.Forall₂ (Spells s) texts types)
    (hret : Spells s text ret) (start : Pos) {rest : List Char} (hrest : Stops isWordPart rest) :
    ∃ ts q params written, Lexes start
        ('(' :: ((commaSeparated texts).toList ++ ')' :: ((retText ret text).toList ++ rest))) ts q rest ∧
      IsSignature ts params written [] ∧ ∀ l isUnsafe,
        resolveType s (.fnPtr l isUnsafe params written) = (.function types ret isUnsafe, []) := by
  -- the unit result is left out, and is what is read where there is none
  by_cases hunit : ret = .unit
  · rw [retText, if_pos hunit]
    obtain ⟨op, q₁, hop, hk⟩ := lexes_mark (c := '(') rfl (by decide) start
      ((commaSeparated texts).toList ++ ')' :: rest)
    obtain ⟨ts, q₂, es, hts, htypes, hmeans⟩ := lexes_closing h q₁ rest
    refine ⟨_, q₂, es, none, hop.append hts, .unit hk htypes, fun l isUnsafe => ?_⟩
    rw [resolveType, hmeans, hunit]
  · rw [retText, if_neg hunit, String.toList_append, List.append_assoc]
    obtain ⟨op, q₁, hop, hk⟩ := lexes_mark (c := '(') rfl (by decide) start
      ((commaSeparated texts).toList ++ ')' :: (" -> ".toList ++ (text.toList ++ rest)))
    obtain ⟨ts, q₂, es, hts, htypes, hmeans⟩ :=
      lexes_closing h q₁ (" -> ".toList ++ (text.toList ++ rest))
    obtain ⟨q₃, hspace⟩ := lexes_space q₂
      (stops_cons (c := '-') (by decide) ('>' :: ' ' :: (text.toList ++ rest)))
    obtain ⟨q₅, hspace'⟩ := lexes_space (q₃.advanceAll ['-', '>']) (hret.stops_append rest)
    obtain ⟨us, q₆, e, hus, htype, hmeans'⟩ := hret.reads q₅ hrest
    -- the arrow is the one token of two characters here
    have harrow : Lexes q₃ (['-', '>'] ++ (' ' :: (text.toList ++ rest))) _ _ _ := .token .arrow hspace'
    refine ⟨_, q₆, es, some e, hop.append (hts.append (hspace.append (harrow.append hus))),
      .ret hk htypes rfl htype, fun l isUnsafe => ?_⟩
    rw [resolveType, hmeans]
    dsimp only
    rw [hmeans']
    rfl

theorem Spells.function {ret : Ty} (h : List.Forall₂ (Spells s) texts types)
    (hret : Spells s text ret) (isUnsafe : Bool) :
    Spells s ((if isUnsafe then "unsafe fn(" else "fn(") ++ commaSeparated texts ++ ")"
      ++ retText ret text) (.function types ret isUnsafe) := by
  refine ⟨?_, ?_, fun start rest hrest => ?_⟩
  · cases isUnsafe <;> simp only [Bool.false_eq_true, if_false, if_true, String.toList_append,
      List.append_assoc] <;> exact stops_cons (by decide) _
  · cases isUnsafe <;> simp only [Bool.false_eq_true, if_false, if_true, String.toList_append,
      List.append_assoc] <;> exact List.cons_ne_nil _ _
  · have hparen : Stops isWordPart
        ('(' :: ((commaSeparated texts).toList ++ ')' :: ((retText ret text).toList ++ rest))) :=
      stops_cons (by decide) _
    cases isUnsafe with
    | false =>
      simp only [Bool.false_eq_true, if_false, String.toList_append, List.append_assoc]
      -- `fn`, which the parenthesis ends, and the signature
      obtain ⟨fn, q₁, hfn, hk⟩ := lexes_keyword 'f' ['n'] .fnWord (by decide) (by decide) (by decide)
        start hparen
      obtain ⟨ts, q₂, params, written, hts, hsignature, hmeans⟩ := lexes_signature h hret q₁ hrest
      exact ⟨_, q₂, _, hfn.append hts, .fnPtr hk hsignature, hmeans _ _⟩
    | true =>
      simp only [if_true, String.toList_append, List.append_assoc]
      -- `unsafe` and a space in front of it
      obtain ⟨word, q₁, hword, hk⟩ := lexes_keyword 'u' ['n', 's', 'a', 'f', 'e'] .unsafeWord
        (by decide) (by decide) (by decide) start (stops_cons (c := ' ') (by decide) ('f' :: 'n' ::
          '(' :: ((commaSeparated texts).toList ++ ')' :: ((retText ret text).toList ++ rest))))
      obtain ⟨q₂, hspace⟩ := lexes_space q₁ (stops_cons (c := 'f') (by decide) ('n' :: '(' ::
        ((commaSeparated texts).toList ++ ')' :: ((retText ret text).toList ++ rest))))
      obtain ⟨fn, q₃, hfn, hk'⟩ := lexes_keyword 'f' ['n'] .fnWord (by decide) (by decide) (by decide)
        q₂ hparen
      obtain ⟨ts, q₄, params, written, hts, hsignature, hmeans⟩ := lexes_signature h hret q₃ hrest
      exact ⟨_, q₄, _, hword.append (hspace.append (hfn.append hts)),
        .unsafeFnPtr hk hk' hsignature, hmeans _ _⟩

/-! ### Names and `Self` -/

/-- The spellings of the built-in types. -/
def builtInNames : List String :=
  ["bool", "char", "str"] ++ (Ty.signedNames ++ (Ty.unsignedNames ++ Ty.floatNames))

theorem mem_builtInNames {name : String} (h : Ty.primitive? name = some t) :
    name ∈ builtInNames := by
  simp only [builtInNames, List.mem_append, List.mem_cons, List.not_mem_nil, or_false]
  unfold Ty.primitive? at h
  split at h
  · next hname => exact .inl (.inl hname)
  split at h
  · next hname => exact .inl (.inr (.inl hname))
  split at h
  · next hname => exact .inl (.inr (.inr hname))
  split at h
  · next hname => exact .inr (.inl hname)
  split at h
  · next hname => exact .inr (.inr (.inl hname))
  split at h
  · next hname => exact .inr (.inr (.inr hname))
  · cases h

/-- A word that is no keyword, checked letter by letter. -/
theorem isName_of_checked {name : String} (hstart : name.toList.head?.any isWordStart = true)
    (hparts : name.toList.tail.all isWordPart = true) (hk : TokenKind.ofWord name = .name) :
    IsName name := by
  obtain ⟨c, hc, hword⟩ := (Option.any_eq_true _ _).mp hstart
  obtain ⟨cs, hcs⟩ := List.head?_eq_some_iff.mp hc
  rw [hcs] at hparts
  exact ⟨c, cs, hcs ▸ String.ofList_toList.symm, hword, List.all_eq_true.mp hparts, hk⟩

/-- **A built-in type** is spelled with a name, which is not `Self`. -/
theorem isName_of_primitive {name : String} (h : Ty.primitive? name = some t) :
    IsName name ∧ name ≠ "Self" := by
  have hall : ∀ name ∈ builtInNames, name.toList.head?.any isWordStart = true ∧
      name.toList.tail.all isWordPart = true ∧ TokenKind.ofWord name = .name ∧
      name ≠ "Self" := by
    decide
  obtain ⟨hstart, hparts, hk, hself⟩ := hall name (mem_builtInNames h)
  exact ⟨isName_of_checked hstart hparts hk, hself⟩

/-- A single name that means something without arguments. -/
theorem spelled_name {name : String} (hname : IsName name) (h : s.builtIn [name] false = .type t) :
    Spells s name t := by
  have hpath : Path.Written [name] :=
    ⟨List.cons_ne_nil _ _, List.forall_mem_singleton.mpr hname⟩
  rw [← Path.text_singleton name]
  refine spelled_path hpath fun l => ?_
  have hbuiltIn : s.builtIn [name] (!([] : List TypeExpr).isEmpty) = .type t := h
  rw [resolveType, hbuiltIn]

theorem spelled_primitive {name : String} (h : Ty.primitive? name = some t) :
    Spells s name t := by
  obtain ⟨hname, hself⟩ := isName_of_primitive h
  refine spelled_name hname ?_
  rw [TypeScope.builtIn, if_neg hself, h]

theorem spelled_selfParam (h : s.selfType = some .selfParam) : Spells s "Self" .selfParam := by
  refine spelled_name (isName_of_checked (by decide) (by decide) (by decide)) ?_
  rw [TypeScope.builtIn, if_pos rfl, h]

/-! ### Every legible type -/

/-- The type has a text, which can be read as a type that means it. -/
def HasSpelling (s : TypeScope) (t : Ty) : Prop :=
  ∃ text, t.text = .ok text ∧ Spells s text t

/-- The text of a primitive type is its name. -/
theorem text_primitive {name : String} (h : Ty.primitive? name = some t) : t.text = .ok name := by
  obtain ⟨ht, hk⟩ := Ty.primitive?_eq_some h
  rw [ht]
  simp only [List.mem_cons, List.not_mem_nil, or_false] at hk
  rcases hk with hk | hk | hk | hk | hk | hk <;> rw [hk] <;> rfl

/-- Types that can be spelled can be spelled one by one. -/
theorem textAll_spelled (h : ∀ t ∈ types, HasSpelling s t) :
    ∃ texts, Ty.textAll types = .ok texts ∧ List.Forall₂ (Spells s) texts types := by
  induction types with
  | nil => exact ⟨[], rfl, .nil⟩
  | cons t types ih =>
    obtain ⟨⟨text, htext, hspelled⟩, hothers⟩ := List.forall_mem_cons.mp h
    obtain ⟨texts, htexts, hall⟩ := ih hothers
    refine ⟨text :: texts, ?_, .cons hspelled hall⟩
    rw [Ty.textAll, htext, htexts]
    rfl

/-- The texts of the parameters and the result. -/
theorem textAll_concat (htexts : Ty.textAll types = .ok texts) (htext : t.text = .ok text) :
    Ty.textAll (types ++ [t]) = .ok (texts ++ [text]) := by
  induction types generalizing texts with
  | nil =>
    obtain rfl := Except.ok.inj htexts
    show Ty.textAll [t] = _
    rw [Ty.textAll, htext]
    rfl
  | cons u types ih =>
    rw [Ty.textAll] at htexts
    obtain ⟨first, hfirst, htexts⟩ := bind_eq_ok.mp htexts
    obtain ⟨others, hothers, htexts⟩ := bind_eq_ok.mp htexts
    obtain rfl := pure_eq_ok.mp htexts
    show Ty.textAll (u :: (types ++ [t])) = _
    rw [Ty.textAll, hfirst, ih hothers]
    rfl

/-- The text of a reference. -/
theorem text_ref {isMut : Bool} (h : t.text = .ok text) :
    (Ty.ref t isMut).text = .ok ((if isMut then "&mut " else "&") ++ text) := by
  show (t.text >>= _) = _
  rw [h]
  rfl

/-- The text of an array whose length is known. -/
theorem text_array (h : t.text = .ok text) (n : Nat) :
    (Ty.array t (some n)).text = .ok ("[" ++ text ++ "; " ++ n.repr ++ "]") := by
  show (t.text >>= _) = _
  rw [h]
  rfl

/-- The text of a slice. -/
theorem text_slice (h : t.text = .ok text) : (Ty.slice t).text = .ok ("[" ++ text ++ "]") := by
  show (t.text >>= _) = _
  rw [h]
  rfl

/-- The text of a struct, with its arguments if there are any. -/
theorem text_nominal {name : String} (h : Ty.textAll types = .ok texts) :
    (Ty.nominal name types).text
      = .ok (if texts.isEmpty then name else name ++ "<" ++ commaSeparated texts ++ ">") := by
  show (Ty.textAll types >>= _) = _
  rw [h]
  rfl

/-- The text of a tuple: behind one element alone stands a comma. -/
theorem text_tuple (h : Ty.textAll types = .ok texts) :
    (Ty.tuple types).text = .ok (if texts.length = 1 then "(" ++ commaSeparated texts ++ ",)"
      else "(" ++ commaSeparated texts ++ ")") := by
  show (Ty.textAll types >>= _) = _
  rw [h]
  cases texts with
  | nil => rfl
  | cons one others =>
    cases others with
    | nil => rw [commaSeparated_singleton]; rfl
    | cons => rfl

theorem text_function {ret : Ty} {isUnsafe : Bool} (h : Ty.textAll types = .ok texts)
    (hret : ret.text = .ok text) :
    (Ty.function types ret isUnsafe).text
      = .ok ((if isUnsafe then "unsafe fn(" else "fn(") ++ commaSeparated texts ++ ")"
          ++ retText ret text) := by
  show (Ty.textAll (types ++ [ret]) >>= _) = _
  rw [textAll_concat h hret, List.getLast?_concat, ok_bind, List.getLast?_concat,
    List.dropLast_concat]
  rfl

/-- **Every legible type** has a text that can be read as a type that means it. -/
theorem Legible.spelled (hs : LegibleScope paths s) (h : Legible paths s.selfType t) :
    HasSpelling s t := by
  induction h with
  | @primitive name t hp =>
    exact ⟨name, text_primitive hp, spelled_primitive hp⟩
  | selfParam h => exact ⟨"Self", rfl, spelled_selfParam (h)⟩
  | @ref inner isMut _ ih =>
    obtain ⟨text, htext, hspelled⟩ := ih
    exact ⟨_, text_ref htext, hspelled.ref isMut⟩
  | @array elem n _ hn ih =>
    obtain ⟨text, htext, hspelled⟩ := ih
    exact ⟨_, text_array htext n, hspelled.array hn⟩
  | @slice elem _ ih =>
    obtain ⟨text, htext, hspelled⟩ := ih
    exact ⟨_, text_slice htext, hspelled.slice⟩
  | @nominal p args hp hplain _ ih =>
    obtain ⟨texts, htexts, hall⟩ := textAll_spelled ih
    have hfound : s.names.find? p = some p.text := by
      rw [hs.names]
      exact StructNames.find?_text (List.mem_map_of_mem hp)
    refine ⟨_, text_nominal htexts, ?_⟩
    by_cases hnone : texts = []
    · subst hnone
      cases hall
      refine spelled_path (hs.written p hp) fun l => ?_
      -- without arguments the path must not be taken for `Self` or a built-in type
      have hbuiltIn : s.builtIn p (!([] : List TypeExpr).isEmpty) = .none :=
        builtIn_of_plain (hplain rfl)
      rw [resolveType, hbuiltIn]
      dsimp only
      rw [hfound, resolveTypes]
    · rw [if_neg (fun hempty => hnone (List.isEmpty_iff.mp hempty))]
      exact .generic (hs.written p hp) hfound hall hnone
  | @function params ret isUnsafe _ _ ihs ih =>
    obtain ⟨texts, htexts, hall⟩ := textAll_spelled ihs
    obtain ⟨text, htext, hspelled⟩ := ih
    exact ⟨_, text_function htexts htext, hspelled.function hall isUnsafe⟩
  | @tuple elems _ ih =>
    obtain ⟨texts, htexts, hall⟩ := textAll_spelled ih
    exact ⟨_, text_tuple htexts, .tuple hall⟩

/-! ### Reading the text again -/

/-- The type that is written in a text, if that holds nothing else. -/
def typeIn? (text : String) : Option TypeExpr := do
  let r ← (readType (lex text).tokens).toOption
  if (lex text).stuck.isNone && r.rest.isEmpty && r.late.isEmpty then some r.value else none

/-- What is found so is a written type. -/
theorem written_of_typeIn? {e : TypeExpr} (h : typeIn? text = some e) : TypeExpr.Written e := by
  obtain ⟨r, hread, h⟩ := Option.bind_eq_some_iff.mp h
  obtain ⟨hwhole, hvalue⟩ := Option.ite_none_right_eq_some.mp h
  simp only [Bool.and_eq_true, Option.isNone_iff_eq_none, List.isEmpty_iff] at hwhole
  obtain ⟨⟨hstuck, hrest⟩, hlate⟩ := hwhole
  obtain ⟨q, hlexes⟩ := lexes_of_lex hstuck
  obtain ⟨us, ⟨-, hsplit, -⟩, htype⟩ := readType_sound _ (toOption_eq_some.mp hread)
  rw [hrest, List.append_nil] at hsplit
  rw [hlate, Option.some.inj hvalue] at htype
  rw [hsplit] at hlexes
  refine ⟨text, [], us, [], q, ?_, htype⟩
  rwa [List.nil_append, List.append_nil]

/-- **A text that can be read** holds a type that means `t`. -/
theorem Spells.typeIn? (h : Spells s text t) :
    ∃ e, ClosureLint.typeIn? text = some e ∧ resolveType s e = (t, []) := by
  -- nothing follows the text, so its last word ends with it
  have hstops : Stops isWordPart [] := fun _ hd => by cases hd
  obtain ⟨ts, q, e, hlexes, htype, hmeans⟩ := h.reads {} hstops
  have hends : TypeEnds [] := fun _ hd => by cases hd
  have hcomplete := readType_complete htype [] hends
  rw [List.append_nil] at hlexes hcomplete
  obtain ⟨r, hread, hvalue, hlate, -, hrest⟩ := hcomplete
  have hlex : lex text = ⟨ts, none⟩ := hlexes.lexFrom_eq
  refine ⟨e, ?_, hmeans⟩
  rw [ClosureLint.typeIn?, hlex, hread]
  show (if (true && r.rest.isEmpty && r.late.isEmpty) = true then some r.value else none) = some e
  rw [hrest, hlate, hvalue]
  rfl

/-- **Printing and reading types.** Where the structs `paths` are declared and `Self` means what it
may, the text of each type that a written type means without a diagnostic holds a type again, and
that means the same. So no two of these types have the same text. -/
theorem text_roundtrip (hpaths : ∀ p ∈ paths, p.Written) {self : Option Ty}
    (hself : SelfMeaning paths self) (file : Option String) :
    (∀ e t, TypeExpr.Written e → resolveType ⟨namesOf paths, file, self⟩ e = (t, []) →
      ∃ text e', t.text = .ok text ∧ typeIn? text = some e' ∧
        resolveType ⟨namesOf paths, file, self⟩ e' = (t, [])) ∧
    ∀ e t e' t', TypeExpr.Written e → TypeExpr.Written e' →
      resolveType ⟨namesOf paths, file, self⟩ e = (t, []) →
      resolveType ⟨namesOf paths, file, self⟩ e' = (t', []) → t.text = t'.text → t = t' := by
  have hs := hself.scope hpaths file
  have hround : ∀ e t, TypeExpr.Written e →
      resolveType ⟨namesOf paths, file, self⟩ e = (t, []) →
      ∃ text e', t.text = .ok text ∧ typeIn? text = some e' ∧
        resolveType ⟨namesOf paths, file, self⟩ e' = (t, []) := by
    intro e t he hmeans
    obtain ⟨text, htext, hspelled⟩ := (he.legible hs hmeans).spelled hs
    obtain ⟨e', he', hmeans'⟩ := hspelled.typeIn?
    exact ⟨text, e', htext, he', hmeans'⟩
  refine ⟨hround, fun e t e' t' he he' hmeans hmeans' hsame => ?_⟩
  -- equal texts hold one type, which means both
  obtain ⟨text, e₁, htext, he₁, hmeans₁⟩ := hround e t he hmeans
  obtain ⟨text', e₂, htext', he₂, hmeans₂⟩ := hround e' t' he' hmeans'
  obtain rfl := Except.ok.inj (htext.symm.trans (hsame.trans htext'))
  obtain rfl := Option.some.inj (he₁.symm.trans he₂)
  exact congrArg Prod.fst (hmeans₁.symm.trans hmeans₂)

/-- A struct whose last segment spells a built-in type, and which arguments tell apart from that,
where `Self` means a slice. -/
theorem text_roundtrip_of_nested :
    ∃ e t e', typeIn? "&mut [i32<i32, fn(Self,), (u8,)>; 007]" = some e ∧
      resolveType ⟨namesOf [["a", "i32"]], none, some (.slice (.int "i8"))⟩ e = (t, []) ∧
      t.text = .ok "&mut [a::i32<i32, fn([i8]), (u8,)>; 7]" ∧
      typeIn? "&mut [a::i32<i32, fn([i8]), (u8,)>; 7]" = some e' ∧
      resolveType ⟨namesOf [["a", "i32"]], none, some (.slice (.int "i8"))⟩ e' = (t, []) := by
  have hpaths : ∀ p ∈ [["a", "i32"]], Path.Written p := by
    refine List.forall_mem_singleton.mpr ⟨List.cons_ne_nil _ _, List.forall_mem_cons.mpr ⟨?_, ?_⟩⟩
    · exact isName_of_checked (by decide) (by decide) (by decide)
    · exact List.forall_mem_singleton.mpr (isName_of_checked (by decide) (by decide) (by decide))
  -- `Self` is what `[i8]` means
  have hself : SelfMeaning [["a", "i32"]] (some (.slice (.int "i8"))) := by
    have hmeans : ((typeIn? "[i8]").any fun e =>
        (resolveType ⟨namesOf [["a", "i32"]], none, none⟩ e).1 == .slice (.int "i8") &&
          (resolveType ⟨namesOf [["a", "i32"]], none, none⟩ e).2.isEmpty) = true := by decide +kernel
    obtain ⟨e, he, hmeans⟩ := (Option.any_eq_true _ _).mp hmeans
    obtain ⟨ht, hds⟩ := Bool.and_eq_true_iff.mp hmeans
    exact .type (written_of_typeIn? he) (Prod.ext (eq_of_beq ht) (List.isEmpty_iff.mp hds))
  have hmeans : ((typeIn? "&mut [i32<i32, fn(Self,), (u8,)>; 007]").any fun e =>
      (resolveType ⟨namesOf [["a", "i32"]], none, some (.slice (.int "i8"))⟩ e).2.isEmpty &&
        (resolveType ⟨namesOf [["a", "i32"]], none, some (.slice (.int "i8"))⟩ e).1.text.toOption
          == some "&mut [a::i32<i32, fn([i8]), (u8,)>; 7]") = true := by decide +kernel
  obtain ⟨e, he, hmeans⟩ := (Option.any_eq_true _ _).mp hmeans
  obtain ⟨hds, htext⟩ := Bool.and_eq_true_iff.mp hmeans
  have htext := toOption_eq_some.mp (eq_of_beq htext)
  have hresolved : resolveType ⟨namesOf [["a", "i32"]], none, some (.slice (.int "i8"))⟩ e = (_, []) :=
    Prod.ext rfl (List.isEmpty_iff.mp hds)
  obtain ⟨text, e', htext', he', hmeans'⟩ :=
    (text_roundtrip hpaths hself none).1 e _ (written_of_typeIn? he) hresolved
  obtain rfl := Except.ok.inj (htext.symm.trans htext')
  exact ⟨e, _, e', he, hresolved, htext, he', hmeans'⟩

end ClosureLint
