import ClosureLint.Proofs.Grammar.Prefixes.Basic

/-!
# Types and patterns, up to the first hopeless token

For each reader first what it takes, construct by construct, and then that it foresees the language
of the construct.

* `foresees_readPath`, `foresees_readType`
* `foresees_readPattern`, `foresees_readClosureParams`
-/

namespace ClosureLint.Syntax

variable {t : Token} {ts : List Token}

/-! ### Paths and literals -/

/-- A path takes a name, and more of it behind `::`. -/
theorem leaves_readPath (ts : List Token) : leaves (readPath ts) = (do
    let ts ← leaves (expect .name ts)
    if nextIs .doubleColon ts then do
      let ts ← leaves (expect .doubleColon ts)
      leaves (readPath ts)
    else pure ts) := by
  rw [readPath]
  simp only [leaves_bind, leaves_ite, leaves_pure, bind_leaves, bind_pure_rest, Read.seq,
    Read.giving]

/-- A number takes one token. -/
theorem leaves_readInt (ts : List Token) : leaves (readInt ts) = leaves (expect .int ts) := by
  simp only [readInt, leaves_bind, leaves_pure, Read.withLate, Read.giving, bind_pure_rest]

/-- So does a string. -/
theorem leaves_readString (ts : List Token) :
    leaves (readString ts) = leaves (expect .string ts) := by
  rw [readString, leaves_bind, ← bind_pure_rest]
  refine bind_congr fun r => ?_
  -- whether the escapes are right makes a difference for the value only
  split <;> rfl

/-- Paths. -/
def Phrases.path : Phrases := .of IsPath ⟨_, _, .single (sample_kind _)⟩

/-- A reader of paths stops at the first token no path goes on with. -/
theorem foresees_readPath (ts : List Token) :
    Foresees .path (fun ts => leaves (readPath ts)) ts := by
  -- by induction on the number of tokens, since the rest of a path is a path
  induction hm : ts.length using Nat.strongRecOn generalizing ts with
  | _ m ih =>
    subst hm
    let behind : Phrases := .orElse (.andThen (.one .doubleColon) .path) .nothing
    refine (Foresees.of_eq leaves_readPath <| .bind (M := behind) (.expect .name ts) ?_).mono ?_
    · intro rest hrest
      refine .ite (fun _ => .bind (.expect .doubleColon rest) fun rest' hrest' => ?_)
        fun _ => .nothing rest
      exact ih _ (Nat.lt_trans (leaves_shorter hrest') (leaves_shorter hrest)) rest' rfl
    · rintro _ ⟨_, _, rfl, ⟨name, hn, rfl⟩, ⟨_, us, rfl, ⟨colons, hc, rfl⟩, p, hp⟩ | rfl⟩
      · exact ⟨_, .cons hn hc hp⟩
      · exact ⟨_, .single hn⟩

/-! ### What the readers of types take -/

/-- A reference takes `&`, perhaps `mut`, and a type. -/
theorem leaves_readType_ref (ts : List Token) (hk : t.kind = .ampersand) :
    leaves (readType (t :: ts)) = (do
      let ts ← leaves (expect .ampersand (t :: ts))
      let ts ← pure (dropIf .mutWord ts).2
      leaves (readType ts)) := by
  rw [readType]
  simp only [hk, leaves_bind, leaves_pure, bind_leaves, bind_pure_rest, pure_bind, Read.behind,
    Read.behindOpt]
  rw [expect_cons hk]
  rfl

/-- In brackets stands a type, and a length behind a semicolon if it is an array. -/
theorem leaves_readType_bracket (ts : List Token) (hk : t.kind = .leftBracket) :
    leaves (readType (t :: ts)) = (do
      let ts ← leaves (expect .leftBracket (t :: ts))
      let ts ← leaves (readType ts)
      if nextIs .semicolon ts then do
        let ts ← leaves (expect .semicolon ts)
        let ts ← leaves (expect .int ts)
        leaves (expect .rightBracket ts)
      else leaves (expect .rightBracket ts)) := by
  rw [readType]
  simp only [hk, leaves_bind, leaves_ite, leaves_pure, bind_leaves, bind_pure_rest,
    ← leaves_readInt, Read.behind, Read.seq]
  rw [expect_cons hk]
  rfl

/-- In parentheses stands nothing, a type or a list of types. -/
theorem leaves_readType_paren (ts : List Token) (hk : t.kind = .leftParen) :
    leaves (readType (t :: ts)) = (do
      let ts ← leaves (expect .leftParen (t :: ts))
      if nextIs .rightParen ts then leaves (expect .rightParen ts) else do
        let ts ← leaves (readType ts)
        if nextIs .comma ts then do
          let ts ← leaves (expect .comma ts)
          leaves (readTypesClosing ts)
        else leaves (expect .rightParen ts)) := by
  rw [readType]
  simp only [hk, leaves_bind, leaves_ite, leaves_pure, bind_leaves, bind_pure_rest, Read.behind,
    Read.seq]
  rw [expect_cons hk]
  rfl

/-- Behind `unsafe` stands a function type. -/
theorem leaves_readType_unsafe (ts : List Token) (hk : t.kind = .unsafeWord) :
    leaves (readType (t :: ts)) = (do
      let ts ← leaves (expect .unsafeWord (t :: ts))
      let ts ← leaves (expect .fnWord ts)
      leaves (readSignature ts)) := by
  rw [readType]
  simp only [hk, leaves_bind, leaves_pure, bind_leaves, bind_pure_rest, Read.behind, Read.seq]
  rw [expect_cons hk]
  rfl

/-- A function type takes `fn` and a signature. -/
theorem leaves_readType_fn (ts : List Token) (hk : t.kind = .fnWord) :
    leaves (readType (t :: ts)) = (do
      let ts ← leaves (expect .fnWord (t :: ts))
      leaves (readSignature ts)) := by
  rw [readType]
  simp only [hk, leaves_bind, leaves_pure, bind_leaves, bind_pure_rest, Read.behind]
  rw [expect_cons hk]
  rfl

/-- Whatever else begins a type has to begin a path. -/
theorem leaves_readType_named (ts : List Token)
    (hk : t.kind ∉ [.ampersand, .leftBracket, .leftParen, .unsafeWord, .fnWord]) :
    leaves (readType (t :: ts)) = (do
      let ts ← leaves (readPath (t :: ts))
      if nextIs .less ts then do
        let ts ← leaves (expect .less ts)
        leaves (readTypeArgs ts)
      else pure ts) := by
  simp only [List.mem_cons, List.not_mem_nil, or_false, not_or] at hk
  obtain ⟨h₁, h₂, h₃, h₄, h₅⟩ := hk
  rw [readType]
  split
  case h_6 =>
    simp only [leaves_bind, leaves_ite, leaves_pure, bind_leaves, bind_pure_rest, Read.seq,
      Read.giving]
  all_goals contradiction

/-- What is taken of a type behind a token of kind `k`, if there is one. -/
def takeTypeBehind (k : TokenKind) (ts : List Token) : Attempt (List Token) :=
  if nextIs k ts then do
    let ts ← leaves (expect k ts)
    leaves (readType ts)
  else pure ts

/-- A signature takes types in parentheses, and a result behind an arrow. -/
theorem leaves_readSignature (ts : List Token) : leaves (readSignature ts) = (do
    let ts ← leaves (expect .leftParen ts)
    let ts ← leaves (readTypesClosing ts)
    takeTypeBehind .arrow ts) := by
  rw [readSignature]
  unfold takeTypeBehind
  simp only [leaves_bind, leaves_ite, leaves_pure, bind_leaves, bind_pure_rest, Read.seq]

/-- Types are taken up to a parenthesis. -/
theorem leaves_readTypesClosing (ts : List Token) : leaves (readTypesClosing ts) =
    if nextIs .rightParen ts then leaves (expect .rightParen ts) else (do
      let ts ← leaves (readType ts)
      if nextIs .comma ts then do
        let ts ← leaves (expect .comma ts)
        leaves (readTypesClosing ts)
      else leaves (expect .rightParen ts)) := by
  rw [readTypesClosing]
  simp only [leaves_bind, leaves_ite, leaves_pure, bind_leaves, bind_pure_rest, Read.seq,
    Read.giving]

/-- Type arguments are taken up to `>`: there is one at least. -/
theorem leaves_readTypeArgs (ts : List Token) : leaves (readTypeArgs ts) = (do
    let ts ← leaves (readType ts)
    if nextIs .comma ts then do
      let ts ← leaves (expect .comma ts)
      leaves (readTypeArgs ts)
    else leaves (expect .greater ts)) := by
  rw [readTypeArgs]
  simp only [leaves_bind, leaves_ite, leaves_pure, bind_leaves, bind_pure_rest, Read.seq]

/-- A result takes an arrow and a type, or nothing. -/
theorem leaves_readRet (before : Pos) (ts : List Token) :
    leaves (readRet before ts) = takeTypeBehind .arrow ts := by
  rw [readRet, takeTypeBehind]
  simp only [leaves_bind, leaves_ite, leaves_pure, bind_leaves, bind_pure_rest, Read.seq,
    Read.loosen, Read.nothing]

/-! ### Types -/

namespace Phrases

/-- A type. -/
theorem exists_type : ∃ us type, DerivesType us type :=
  ⟨_, _, .named (.single (sample_kind _))⟩

/-- Types. -/
def type : Phrases := .of DerivesType exists_type

/-- A type behind a token of kind `k`, or nothing. -/
def typeBehind (k : TokenKind) : Phrases := .of (Marked DerivesType k) ⟨[], none, .absent⟩

/-- The parameters and the result of a function type. -/
def signature : Phrases :=
  .andThen (.one .leftParen) (.andThen (.closed .rightParen DerivesType) (.typeBehind .arrow))

/-- Generic arguments with the token that closes them. -/
def typeArgs : Phrases :=
  .of (fun us args => ∃ vs cl, us = vs ++ [cl] ∧ cl.kind = .greater ∧ Separated DerivesType vs args)
    (exists_type.elim fun us h => h.elim fun type h =>
      ⟨_, [type], us, _, rfl, sample_kind _, .one h⟩)

/-- A signature behind `fn`, safe or unsafe, is a type. -/
theorem signature_has {fn : Token} {us vs : List Token} {isUnsafe : Bool}
    (hu : IsOptional .unsafeWord us isUnsafe) (hf : fn.kind = .fnWord) (h : signature.has vs) :
    type.has (us ++ fn :: vs) := by
  obtain ⟨_, _, rfl, ⟨op, ho, rfl⟩, _, rs, rfl, ⟨params, vs, cl, rfl, hcl, hparams⟩, ret, hret⟩ := h
  refine ⟨.fnPtr {} isUnsafe params ret, ?_⟩
  rw [List.append_assoc]
  exact .fnPtr hu hf ho hparams hcl hret

end Phrases

/-- A type behind a mark, or nothing, is foreseen as the type is. -/
theorem Foresees.typeBehind {k : TokenKind}
    (h : ForeseesUpTo .type (fun ts => leaves (readType ts)) ts) :
    Foresees (.typeBehind k) (takeTypeBehind k) ts := by
  refine (Foresees.ite (L := .andThen (.one k) .type) (fun _ => ?_) fun _ => .nothing ts).mono ?_
  · exact .bind (.expect k ts) fun us hus => (h.behind (.expect k ts) hus).self
  · rintro _ (⟨_, us, rfl, ⟨mark, hk, rfl⟩, type, htype⟩ | rfl)
    · exact ⟨some type, .present hk htype⟩
    · exact ⟨none, .absent⟩

section

variable (ih : ForeseesUpTo .type (fun ts => leaves (readType ts)) ts)

include ih

/-- A reader of types up to a parenthesis stops at the first token that none go on with. -/
theorem foresees_typesClosing :
    Foresees (.closed .rightParen DerivesType) (fun ts => leaves (readTypesClosing ts)) ts :=
  .closed (fun _ ts => leaves (readTypesClosing ts)) (fun _ => leaves_readTypesClosing) ih 0

/-- A reader of type arguments stops at the first token that none go on with. -/
theorem foresees_typeArgs : Foresees .typeArgs (fun ts => leaves (readTypeArgs ts)) ts := by
  -- by induction on the number of tokens, since behind a comma stand type arguments again
  induction hm : ts.length using Nat.strongRecOn generalizing ts with
  | _ m ihm =>
    subst hm
    have hfirst := ih.self
    let behind : Phrases := .orElse (.andThen (.one .comma) .typeArgs) (.one .greater)
    refine (Foresees.of_eq leaves_readTypeArgs <| .bind (M := behind) hfirst ?_).mono ?_
    · intro rest hrest
      refine .ite (fun _ => .bind (.expect .comma rest) ?_) fun _ => .expect .greater rest
      intro rest' hrest'
      have hlt : rest'.length < ts.length :=
        Nat.lt_of_lt_of_le (leaves_shorter hrest') (hfirst.length_le hrest)
      exact ihm _ hlt (ih.shorter (Nat.le_of_lt hlt)) rfl
    · rintro _ ⟨vs, _, rfl, ⟨type, htype⟩, h⟩
      obtain ⟨_, _, rfl, ⟨comma, hc, rfl⟩, types, ws, cl, rfl, hcl, htypes⟩ | ⟨cl, hcl, rfl⟩ := h
      · refine ⟨type :: types, vs ++ comma :: ws, cl, ?_, hcl, .more htype hc htypes⟩
        rw [List.append_assoc, List.cons_append]
        rfl
      · exact ⟨[type], vs, cl, rfl, hcl, .one htype⟩

/-- So does a reader of signatures. -/
theorem foresees_signature :
    Foresees .signature (fun ts => leaves (readSignature ts)) ts := by
  refine .of_eq leaves_readSignature <| .bind (.expect .leftParen ts) fun rest hrest => ?_
  have ih := ih.behind (.expect .leftParen ts) hrest
  have hclosing := foresees_typesClosing ih
  exact .bind hclosing fun rest' hrest' => .typeBehind (ih.behind hclosing hrest')

/-- A reader stops so in an array or a slice. -/
theorem foresees_readType_bracket (hk : t.kind = .leftBracket) :
    Foresees .type (fun ts => leaves (readType ts)) (t :: ts) := by
  let array : Phrases := .andThen (.one .semicolon) (.andThen (.one .int) (.one .rightBracket))
  refine (Foresees.of_cons (fun ts => leaves_readType_bracket ts hk) <|
    .bind (M := .andThen .type (.orElse array (.one .rightBracket)))
      (.expect .leftBracket (t :: ts)) fun rest hrest => ?_).mono ?_
  · refine .bind (ih.first hrest).self fun us _ =>
      .ite (fun _ => ?_) fun _ => .expect .rightBracket us
    exact .bind (.expect .semicolon us) fun vs _ =>
      .bind (.expect .int vs) fun ws _ => .expect .rightBracket ws
  -- what is taken so is an array or a slice
  · rintro _ ⟨_, _, rfl, ⟨op, ho, rfl⟩, us, _, rfl, ⟨elem, helem⟩, h⟩
    rcases h with harray | ⟨cl, hc, rfl⟩
    · obtain ⟨_, _, rfl, ⟨semicolon, hs, rfl⟩, _, _, rfl, ⟨n, hn, rfl⟩, ⟨cl, hc, rfl⟩⟩ := harray
      exact ⟨_, .array ho helem hs hn hc⟩
    · exact ⟨_, .slice ho helem hc⟩

/-- A reader stops so in parentheses. -/
theorem foresees_readType_paren (hk : t.kind = .leftParen) :
    Foresees .type (fun ts => leaves (readType ts)) (t :: ts) := by
  let behind : Phrases :=
    .orElse (.andThen (.one .comma) (.closed .rightParen DerivesType)) (.one .rightParen)
  refine (Foresees.of_cons (fun ts => leaves_readType_paren ts hk) <|
    .bind (M := .orElse (.one .rightParen) (.andThen .type behind))
      (.expect .leftParen (t :: ts)) fun rest hrest => ?_).mono ?_
  · have ih := ih.first hrest
    refine .ite (fun _ => .expect .rightParen rest) fun _ => .bind ih.self fun us hus => ?_
    have ih := ih.behind ih.self hus
    exact .ite (fun _ => .bind (.expect .comma us) fun vs hvs =>
      foresees_typesClosing (ih.behind (.expect .comma us) hvs)) fun _ => .expect .rightParen us
  -- what is taken so is the unit, a tuple or a type in parentheses
  · rintro _ ⟨_, _, rfl, ⟨op, ho, rfl⟩, ⟨cl, hc, rfl⟩ | ⟨us, _, rfl, ⟨first, hfirst⟩, h⟩⟩
    · exact ⟨_, .unit ho hc⟩
    · obtain ⟨_, _, rfl, ⟨comma, hc, rfl⟩, others, hothers⟩ | ⟨cl, hc, rfl⟩ := h
      · exact ⟨_, .closed ho hfirst hc hothers⟩
      · exact ⟨_, .paren ho hfirst hc⟩

/-- A reader stops so in any type, if it does in shorter ones. -/
theorem foresees_readType_cons : Foresees .type (fun ts => leaves (readType ts)) (t :: ts) := by
  -- the reader decides on the first token which form of a type it is
  by_cases hamp : t.kind = .ampersand
  · refine (Foresees.of_cons (fun ts => leaves_readType_ref ts hamp) <|
      .bind (M := .andThen (.optional .mutWord) .type) (.expect .ampersand (t :: ts)) ?_).mono ?_
    · intro rest hrest
      exact .bind (.optional .mutWord rest) fun us hus =>
        ((ih.first hrest).behind (.optional .mutWord rest) hus).self
    · rintro _ ⟨_, _, rfl, ⟨amp, hk, rfl⟩, ms, us, rfl, ⟨isMut, hm⟩, inner, hinner⟩
      have href : DerivesType (amp :: (ms ++ us)) (.ref {} isMut inner) := .ref hk hm hinner
      exact ⟨_, href⟩
  by_cases hbracket : t.kind = .leftBracket
  · exact foresees_readType_bracket ih hbracket
  by_cases hparen : t.kind = .leftParen
  · exact foresees_readType_paren ih hparen
  by_cases hunsafe : t.kind = .unsafeWord
  · refine (Foresees.of_cons (fun ts => leaves_readType_unsafe ts hunsafe) <|
      .bind (M := .andThen (.one .fnWord) .signature) (.expect .unsafeWord (t :: ts)) ?_).mono ?_
    · intro rest hrest
      exact .bind (.expect .fnWord rest) fun us hus =>
        foresees_signature ((ih.first hrest).behind (.expect .fnWord rest) hus)
    · rintro _ ⟨_, _, rfl, ⟨word, hw, rfl⟩, _, us, rfl, ⟨fn, hf, rfl⟩, hus⟩
      exact Phrases.signature_has (.present hw) hf hus
  by_cases hfn : t.kind = .fnWord
  · refine (Foresees.of_cons (fun ts => leaves_readType_fn ts hfn) <|
      .bind (M := .signature) (.expect .fnWord (t :: ts)) fun rest hrest => ?_).mono ?_
    · exact foresees_signature (ih.first hrest)
    · rintro _ ⟨_, us, rfl, ⟨fn, hf, rfl⟩, hus⟩
      exact Phrases.signature_has .absent hf hus
  -- whatever else comes next has to be a name
  have hk : t.kind ∉ [.ampersand, .leftBracket, .leftParen, .unsafeWord, .fnWord] := by
    simp [hamp, hbracket, hparen, hunsafe, hfn]
  refine (Foresees.of_cons (fun ts => leaves_readType_named ts hk) <|
    .bind (M := .orElse (.andThen (.one .less) .typeArgs) .nothing)
      (foresees_readPath (t :: ts)) ?_).mono ?_
  · intro rest hrest
    exact .ite (fun _ => .bind (.expect .less rest) fun us hus =>
      foresees_typeArgs ((ih.first hrest).behind (.expect .less rest) hus)) fun _ => .nothing rest
  · rintro _ ⟨us, _, rfl, ⟨p, hp⟩, h⟩
    obtain ⟨_, _, rfl, ⟨less, hl, rfl⟩, args, vs, cl, rfl, hcl, hargs⟩ | rfl := h
    · exact ⟨_, .generic hp hl hargs hcl⟩
    · rw [List.append_nil]
      exact ⟨_, .named hp⟩

end

/-- **A reader of types** stops at the first token that no type goes on with. -/
theorem foresees_readType (ts : List Token) :
    Foresees .type (fun ts => leaves (readType ts)) ts := by
  refine .of_shorter ?_ (fun t ts ih => foresees_readType_cons ih) ts
  rw [readType]
  rfl

/-! ### What the readers of patterns take -/

/-- Behind `mut` stands a name. -/
theorem leaves_readPattern_mut (ts : List Token) (hk : t.kind = .mutWord) :
    leaves (readPattern (t :: ts)) = (do
      let ts ← leaves (expect .mutWord (t :: ts))
      leaves (expect .name ts)) := by
  rw [readPattern]
  simp only [hk, leaves_bind, leaves_pure, bind_leaves, bind_pure_rest, Read.behind]
  rw [expect_cons hk]
  rfl

/-- A reference pattern takes `&` and a pattern. -/
theorem leaves_readPattern_ref (ts : List Token) (hk : t.kind = .ampersand) :
    leaves (readPattern (t :: ts)) = (do
      let ts ← leaves (expect .ampersand (t :: ts))
      leaves (readPattern ts)) := by
  rw [readPattern]
  simp only [hk, leaves_bind, leaves_pure, bind_leaves, bind_pure_rest, Read.behind]
  rw [expect_cons hk]
  rfl

/-- A wildcard takes one token. -/
theorem leaves_readPattern_wildcard (ts : List Token) (hk : t.kind = .underscore) :
    leaves (readPattern (t :: ts)) = leaves (expect .underscore (t :: ts)) := by
  rw [readPattern, expect_cons hk]
  simp only [hk]
  rfl

/-- In parentheses stands a pattern, or a list of patterns. -/
theorem leaves_readPattern_paren (ts : List Token) (hk : t.kind = .leftParen) :
    leaves (readPattern (t :: ts)) = (do
      let ts ← leaves (expect .leftParen (t :: ts))
      let ts ← leaves (readPattern ts)
      if nextIs .comma ts then do
        let ts ← leaves (expect .comma ts)
        leaves (readPatternsClosing ts)
      else leaves (expect .rightParen ts)) := by
  rw [readPattern]
  simp only [hk, leaves_bind, leaves_ite, leaves_pure, bind_leaves, bind_pure_rest, Read.behind,
    Read.seq]
  rw [expect_cons hk]
  rfl

/-- Whatever else begins a pattern has to be a name. -/
theorem leaves_readPattern_name (ts : List Token)
    (hk : t.kind ∉ [.mutWord, .underscore, .ampersand, .leftParen]) :
    leaves (readPattern (t :: ts)) = leaves (expect .name (t :: ts)) := by
  simp only [List.mem_cons, List.not_mem_nil, or_false, not_or] at hk
  obtain ⟨h₁, h₂, h₃, h₄⟩ := hk
  rw [readPattern]
  split
  case h_5 => simp only [leaves_bind, leaves_pure, bind_pure_rest, Read.giving]
  all_goals contradiction

/-- Patterns are taken up to a parenthesis. -/
theorem leaves_readPatternsClosing (ts : List Token) : leaves (readPatternsClosing ts) =
    if nextIs .rightParen ts then leaves (expect .rightParen ts) else (do
      let ts ← leaves (readPattern ts)
      if nextIs .comma ts then do
        let ts ← leaves (expect .comma ts)
        leaves (readPatternsClosing ts)
      else leaves (expect .rightParen ts)) := by
  rw [readPatternsClosing]
  simp only [leaves_bind, leaves_ite, leaves_pure, bind_leaves, bind_pure_rest, Read.seq,
    Read.giving]

/-- A parameter of a closure takes a pattern, and a type behind a colon. -/
theorem leaves_readClosureParam (ts : List Token) : leaves (readClosureParam ts) = (do
    let ts ← leaves (readPattern ts)
    takeTypeBehind .colon ts) := by
  rw [readClosureParam]
  unfold takeTypeBehind
  simp only [leaves_bind, leaves_ite, leaves_pure, bind_leaves, bind_pure_rest, Read.seq,
    Read.giving]

/-- Parameters of a closure are taken up to a bar. -/
theorem leaves_readClosureParams (ts : List Token) : leaves (readClosureParams ts) =
    if nextIs .bar ts then leaves (expect .bar ts) else (do
      let ts ← leaves (readClosureParam ts)
      if nextIs .comma ts then do
        let ts ← leaves (expect .comma ts)
        leaves (readClosureParams ts)
      else leaves (expect .bar ts)) := by
  rw [readClosureParams]
  simp only [leaves_bind, leaves_ite, leaves_pure, bind_leaves, bind_pure_rest, Read.seq,
    Read.giving]

/-! ### Patterns and closure parameters -/

/-- There is a pattern. -/
theorem exists_pattern : ∃ us pattern, DerivesPattern us pattern :=
  ⟨_, _, .wildcard (sample_kind _)⟩

/-- There is a parameter of a closure. -/
theorem exists_closureParam : ∃ us param, DerivesClosureParam us param :=
  exists_pattern.elim fun us h => h.elim fun p h => ⟨us ++ [], ⟨{}, p, none⟩, .mk h .absent⟩

/-- Patterns. -/
def Phrases.pattern : Phrases := .of DerivesPattern exists_pattern

/-- Closure parameters. -/
def Phrases.closureParam : Phrases := .of DerivesClosureParam exists_closureParam

/-- A reader stops so in any pattern, if it does in shorter ones. -/
theorem foresees_readPattern_cons
    (ih : ForeseesUpTo .pattern (fun ts => leaves (readPattern ts)) ts) :
    Foresees .pattern (fun ts => leaves (readPattern ts)) (t :: ts) := by
  -- as with types, the first token decides
  by_cases hmut : t.kind = .mutWord
  · refine (Foresees.of_cons (fun ts => leaves_readPattern_mut ts hmut) <|
      .bind (.expect .mutWord (t :: ts)) fun rest _ => .expect .name rest).mono ?_
    rintro _ ⟨_, _, rfl, ⟨word, hw, rfl⟩, ⟨name, hn, rfl⟩⟩
    exact ⟨_, .binding (.present hw) hn⟩
  by_cases hwildcard : t.kind = .underscore
  · refine (Foresees.of_cons (fun ts => leaves_readPattern_wildcard ts hwildcard) <|
      .expect .underscore (t :: ts)).mono ?_
    rintro _ ⟨word, hw, rfl⟩
    exact ⟨_, .wildcard hw⟩
  by_cases hamp : t.kind = .ampersand
  · refine (Foresees.of_cons (fun ts => leaves_readPattern_ref ts hamp) <|
      .bind (M := .pattern) (.expect .ampersand (t :: ts)) fun rest hrest => ?_).mono ?_
    · exact (ih.first hrest).self
    · rintro _ ⟨_, us, rfl, ⟨amp, hk, rfl⟩, inner, hinner⟩
      exact ⟨_, .ref hk hinner⟩
  by_cases hparen : t.kind = .leftParen
  · let behind : Phrases :=
      .orElse (.andThen (.one .comma) (.closed .rightParen DerivesPattern)) (.one .rightParen)
    refine (Foresees.of_cons (fun ts => leaves_readPattern_paren ts hparen) <|
      .bind (M := .andThen .pattern behind) (.expect .leftParen (t :: ts))
        fun rest hrest => ?_).mono ?_
    · have ih := ih.first hrest
      refine .bind ih.self fun us hus => .ite (fun _ => ?_) fun _ => .expect .rightParen us
      have ih := ih.behind ih.self hus
      exact .bind (.expect .comma us) fun vs hvs =>
        .closed (fun _ ts => leaves (readPatternsClosing ts)) (fun _ => leaves_readPatternsClosing)
          (ih.behind (.expect .comma us) hvs) 0
    · rintro _ ⟨_, _, rfl, ⟨op, ho, rfl⟩, us, _, rfl, ⟨first, hfirst⟩, h⟩
      obtain ⟨_, _, rfl, ⟨comma, hc, rfl⟩, others, hothers⟩ | ⟨cl, hc, rfl⟩ := h
      · exact ⟨_, .closed ho hfirst hc hothers⟩
      · exact ⟨_, .paren ho hfirst hc⟩
  -- whatever else comes next has to be a name
  have hk : t.kind ∉ [.mutWord, .underscore, .ampersand, .leftParen] := by
    simp [hmut, hwildcard, hamp, hparen]
  refine (Foresees.of_cons (fun ts => leaves_readPattern_name ts hk) <|
    .expect .name (t :: ts)).mono ?_
  rintro _ ⟨name, hn, rfl⟩
  exact ⟨_, .binding .absent hn⟩

/-- **A reader of patterns** stops at the first token that no pattern goes on with. -/
theorem foresees_readPattern (ts : List Token) :
    Foresees .pattern (fun ts => leaves (readPattern ts)) ts := by
  refine .of_shorter ?_ (fun t ts ih => foresees_readPattern_cons ih) ts
  rw [readPattern]
  rfl

/-- So does a reader of a closure's parameter. -/
theorem foresees_readClosureParam (ts : List Token) :
    Foresees .closureParam (fun ts => leaves (readClosureParam ts)) ts := by
  refine (Foresees.of_eq leaves_readClosureParam <| .bind (foresees_readPattern ts)
    fun rest _ => .typeBehind fun us _ => foresees_readType us).mono ?_
  rintro _ ⟨us, vs, rfl, ⟨p, hp⟩, declared, hdeclared⟩
  exact ⟨_, .mk hp hdeclared⟩

/-- So does a reader of a closure's parameters. -/
theorem foresees_readClosureParams (ts : List Token) :
    Foresees (.closed .bar DerivesClosureParam) (fun ts => leaves (readClosureParams ts)) ts :=
  .closed (fun _ ts => leaves (readClosureParams ts)) (fun _ => leaves_readClosureParams)
    (fun us _ => foresees_readClosureParam us) 0

end ClosureLint.Syntax
