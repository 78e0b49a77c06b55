import ClosureLint.Proofs.Grammar.Prefixes.Types

/-!
# Expressions and statements, up to the first hopeless token

What follows an atom is foreseen as a language of its own: the tokens that turn every chain of calls
and fields into another one. A parenthesis behind `.name` can always be taken for the arguments of a
method call, so that nothing else has to be kept open.

* `foresees_readExpr`, `foresees_readStmts`
-/

namespace ClosureLint.Syntax

variable {t : Token} {ts : List Token}

/-! ### What the readers of expressions take -/

/-- A closure takes its parameters up to a bar, perhaps a result type, and a body. -/
theorem leaves_readExpr_closure (ts : List Token) (hk : t.kind = .bar) :
    leaves (readExpr (t :: ts)) = (do
      let ts ← leaves (expect .bar (t :: ts))
      let ts ← leaves (readClosureParams ts)
      let ts ← takeTypeBehind .arrow ts
      leaves (readExpr ts)) := by
  rw [readExpr, if_pos hk, expect_cons hk]
  simp only [leaves_bind, leaves_pure, bind_leaves, bind_pure_rest, Read.behind, Read.seq,
    Read.seqOpt, ok_bind, Read.token]
  refine bind_congr fun params => ?_
  rw [← leaves_readRet params.stop, bind_leaves]

/-- Any other expression begins with prefix operators. -/
theorem leaves_readExpr_unary (ts : List Token) (hk : t.kind ≠ .bar) :
    leaves (readExpr (t :: ts)) = leaves (readUnary (t :: ts)) := by
  rw [readExpr, if_neg hk]

/-- A borrow takes `&`, perhaps `mut`, and what is borrowed. -/
theorem leaves_readUnary_borrow (ts : List Token) (hk : t.kind = .ampersand) :
    leaves (readUnary (t :: ts)) = (do
      let ts ← leaves (expect .ampersand (t :: ts))
      let ts ← pure (dropIf .mutWord ts).2
      leaves (readUnary ts)) := by
  rw [readUnary]
  simp only [hk, leaves_bind, leaves_pure, bind_leaves, bind_pure_rest, pure_bind, Read.behind,
    Read.behindOpt]
  rw [expect_cons hk]
  rfl

/-- A dereference takes `*` and what is dereferenced. -/
theorem leaves_readUnary_deref (ts : List Token) (hk : t.kind = .star) :
    leaves (readUnary (t :: ts)) = (do
      let ts ← leaves (expect .star (t :: ts))
      leaves (readUnary ts)) := by
  rw [readUnary]
  simp only [hk, leaves_bind, leaves_pure, bind_leaves, bind_pure_rest, Read.behind]
  rw [expect_cons hk]
  rfl

/-- What follows an expression does not depend on it, nor on where it stands. -/
theorem leaves_readTail (ts : List Token) : ∀ (start start' : Pos) (head head' : Expr)
    (stop stop' : Pos), leaves (readTail start head stop ts) =
      if nextIs .leftParen ts then (do
        let ts ← leaves (expect .leftParen ts)
        let ts ← leaves (readArgs ts)
        leaves (readTail start' head' stop' ts))
      else if nextIs .dot ts then (do
        let ts ← leaves (expect .dot ts)
        let ts ← leaves (expect .name ts)
        if nextIs .leftParen ts then do
          let ts ← leaves (expect .leftParen ts)
          let ts ← leaves (readArgs ts)
          leaves (readTail start' head' stop' ts)
        else leaves (readTail start' head' stop' ts))
      else pure ts := by
  intro start start' head head' stop stop'
  -- one step of either reader behind the same shorter list
  have hsame : ∀ {us : List Token}, us.length < ts.length → ∀ head₁ stop₁,
      leaves (readTail start head₁ stop₁ us) = leaves (readTail start' head' stop' us) :=
    fun {us} hus head₁ stop₁ => (leaves_readTail us start start' head₁ head' stop₁ stop').trans
      (leaves_readTail us start' start' head' head' stop' stop').symm
  rw [readTail]
  simp only [leaves_bind, leaves_ite, leaves_pure, bind_leaves, bind_pure_rest, Read.seq,
    Read.seqOpt, Read.loosen, Read.nothing]
  -- three ways to go on: a call, a dot, or nothing
  refine ite_congr rfl (fun _ => ?_) fun _ => ite_congr rfl (fun _ => ?_) fun _ => rfl
  · refine bind_congr fun op => bind_congr fun args => hsame ?_ _ _
    exact Nat.lt_trans args.shorter op.shorter
  · refine bind_congr fun dot => bind_congr fun name => ?_
    have hname := Nat.lt_trans name.shorter dot.shorter
    refine ite_congr rfl (fun _ => ?_) fun _ => hsame hname _ _
    refine bind_congr fun op => bind_congr fun args => hsame ?_ _ _
    exact Nat.lt_trans (Nat.lt_trans args.shorter op.shorter) hname
termination_by ts.length

/-- What is taken behind an expression. -/
def takeTail (ts : List Token) : Attempt (List Token) := leaves (readTail {} default {} ts)

/-- So it is a matter of the tokens alone. -/
theorem leaves_readTail_eq (start : Pos) (head : Expr) (stop : Pos) (ts : List Token) :
    leaves (readTail start head stop ts) = takeTail ts :=
  (leaves_readTail ts start {} head default stop {}).trans
    (leaves_readTail ts {} {} default default {} {}).symm

/-- Without a prefix operator, an atom and what follows it are taken. -/
theorem leaves_readUnary_chain (ts : List Token) (hk : t.kind ∉ [.ampersand, .star]) :
    leaves (readUnary (t :: ts)) = (do
      let ts ← leaves (readAtom (t :: ts))
      takeTail ts) := by
  simp only [List.mem_cons, List.not_mem_nil, or_false, not_or] at hk
  obtain ⟨h₁, h₂⟩ := hk
  rw [readUnary]
  split
  case h_3 =>
    simp only [leaves_bind, leaves_pure, bind_leaves, bind_pure_rest, Read.seqOpt,
      leaves_readTail_eq]
  all_goals contradiction

/-- The word `self` is one token. -/
theorem leaves_readAtom_self (ts : List Token) (hk : t.kind = .selfWord) :
    leaves (readAtom (t :: ts)) = leaves (expect .selfWord (t :: ts)) := by
  rw [readAtom, expect_cons hk]
  simp only [hk]
  rfl

/-- A number is one token. -/
theorem leaves_readAtom_int (ts : List Token) (hk : t.kind = .int) :
    leaves (readAtom (t :: ts)) = leaves (expect .int (t :: ts)) := by
  rw [readAtom, ← leaves_readInt]
  simp only [hk, leaves_bind, leaves_pure, Read.giving, bind_pure_rest]

/-- A string is one token. -/
theorem leaves_readAtom_string (ts : List Token) (hk : t.kind = .string) :
    leaves (readAtom (t :: ts)) = leaves (expect .string (t :: ts)) := by
  rw [readAtom, ← leaves_readString]
  simp only [hk, leaves_bind, leaves_pure, Read.giving, bind_pure_rest]

/-- In parentheses stands an expression. -/
theorem leaves_readAtom_paren (ts : List Token) (hk : t.kind = .leftParen) :
    leaves (readAtom (t :: ts)) = (do
      let ts ← leaves (expect .leftParen (t :: ts))
      let ts ← leaves (readExpr ts)
      leaves (expect .rightParen ts)) := by
  rw [readAtom]
  simp only [hk, leaves_bind, leaves_pure, bind_leaves, bind_pure_rest, Read.behind, Read.seq]
  rw [expect_cons hk]
  rfl

/-- What is taken behind the first name of a macro invocation or a path. -/
theorem leaves_readAtom_name (ts : List Token)
    (hk : t.kind ∉ [.selfWord, .int, .string, .leftParen]) :
    leaves (readAtom (t :: ts)) = (do
      let ts ← leaves (expect .name (t :: ts))
      if nextIs .bang ts then do
        let ts ← leaves (expect .bang ts)
        let ts ← leaves (expect .leftParen ts)
        let ts ← leaves (readExpr ts)
        leaves (expect .rightParen ts)
      else if nextIs .doubleColon ts then do
        let ts ← leaves (expect .doubleColon ts)
        leaves (readPath ts)
      else pure ts) := by
  simp only [List.mem_cons, List.not_mem_nil, or_false, not_or] at hk
  obtain ⟨h₁, h₂, h₃, h₄⟩ := hk
  rw [readAtom]
  split
  case h_5 =>
    simp only [leaves_ite, leaves_bind, leaves_pure, bind_leaves, bind_pure_rest, Read.giving,
      Read.behind, Read.seq]
    rw [leaves_readPath]
    simp only [bind_leaves]
    -- a path reads the name itself, so what is left has to be taken before its first name
    by_cases hn : t.kind = .name
    · by_cases hb : nextIs .bang ts
      · rw [if_pos ⟨hn, hb⟩, expect_cons hn]
        exact (if_pos hb).symm
      · rw [if_neg fun h => hb h.2, expect_cons hn]
        exact (if_neg hb).symm
    · rw [if_neg fun h => hn h.1, expect, if_neg hn]
      rfl
  all_goals contradiction

/-- Arguments are taken up to a parenthesis. -/
theorem leaves_readArgs (ts : List Token) : leaves (readArgs ts) =
    if nextIs .rightParen ts then leaves (expect .rightParen ts) else (do
      let ts ← leaves (readExpr ts)
      if nextIs .comma ts then do
        let ts ← leaves (expect .comma ts)
        leaves (readArgs ts)
      else leaves (expect .rightParen ts)) := by
  rw [readArgs]
  simp only [leaves_bind, leaves_ite, leaves_pure, bind_leaves, bind_pure_rest, Read.seq,
    Read.giving]

/-- Behind a colon stands a type. -/
theorem leaves_readDeclared (before : Pos) (ts : List Token) :
    leaves (readDeclared before ts) = takeTypeBehind .colon ts := by
  rw [readDeclared, takeTypeBehind]
  simp only [leaves_bind, leaves_ite, leaves_pure, bind_leaves, bind_pure_rest, Read.seq,
    Read.loosen, Read.nothing]

/-- Behind `let` stand a name, perhaps a type, and a value. -/
theorem leaves_readLet (start : Pos) (ts : List Token) : leaves (readLet start ts) = (do
    let ts ← pure (dropIf .mutWord ts).2
    let ts ← leaves (expect .name ts)
    let ts ← takeTypeBehind .colon ts
    let ts ← leaves (expect .equal ts)
    let ts ← leaves (readExpr ts)
    leaves (expect .semicolon ts)) := by
  rw [readLet, pure_bind]
  simp only [leaves_bind, leaves_pure, bind_leaves, bind_pure_rest, Read.seq, Read.seqOpt,
    Read.behindOpt]
  refine bind_congr fun name => ?_
  rw [← leaves_readDeclared name.stop, bind_leaves]

/-- A statement that begins with `let` is a binding. -/
theorem leaves_readStmt_let (ts : List Token) (hk : t.kind = .letWord) :
    leaves (readStmt (t :: ts)) = (do
      let ts ← leaves (expect .letWord (t :: ts))
      leaves (readLet {} ts)) := by
  rw [readStmt, if_pos hk, expect_cons hk, bind_leaves, ok_bind, leaves_readLet,
    ← leaves_readLet t.start]
  simp only [leaves_bind, leaves_pure, Read.behind, bind_pure_rest, Read.token]

/-- Any other statement is an expression with a semicolon. -/
theorem leaves_readStmt_expr (ts : List Token) (hk : t.kind ≠ .letWord) :
    leaves (readStmt (t :: ts)) = (do
      let ts ← leaves (readExpr (t :: ts))
      leaves (expect .semicolon ts)) := by
  rw [readStmt, if_neg hk]
  simp only [leaves_bind, leaves_pure, bind_leaves, bind_pure_rest, Read.seq]

/-- Statements are taken up to a brace. -/
theorem leaves_readStmts (ts : List Token) : leaves (readStmts ts) =
    if nextIs .rightBrace ts then leaves (expect .rightBrace ts) else (do
      let ts ← leaves (readStmt ts)
      leaves (readStmts ts)) := by
  rw [readStmts]
  simp only [leaves_bind, leaves_ite, leaves_pure, bind_leaves, bind_pure_rest, Read.seq,
    Read.giving]

/-! ### Expressions -/

namespace Phrases

/-- There is an atom. -/
theorem exists_atom : ∃ us e, DerivesAtom false us e :=
  ⟨_, _, .selfWord (sample_kind _)⟩

/-- There is an expression below prefix operators. -/
theorem exists_unary : ∃ us e, DerivesUnary false us e :=
  exists_atom.imp fun _ h => h.imp fun _ h => .chain (.atom h)

/-- There is an expression. -/
theorem exists_expr : ∃ us e, DerivesExpr false us e :=
  exists_unary.imp fun _ h => h.imp fun _ h => .unary h

/-- Atoms. -/
def atom : Phrases := .of (DerivesAtom false) exists_atom

/-- Borrows, dereferences and what is tighter. -/
def unary : Phrases := .of (DerivesUnary false) exists_unary

/-- Expressions. -/
def expr : Phrases := .of (DerivesExpr false) exists_expr

/-- What can stand behind a chain: with it, the chain is one again. -/
def tail : Phrases where
  has us := ∀ bare ts head, DerivesPostfix false bare ts head →
    ∃ bare' e, DerivesPostfix false bare' (ts ++ us) e
  inhabited := ⟨[], fun bare ts head h => ⟨bare, head, by rwa [List.append_nil]⟩⟩

/-- A call goes on as its result does. -/
theorem tail_call {op : Token} {us vs : List Token} {args : List Expr} (ho : op.kind = .leftParen)
    (hargs : Closed .rightParen (DerivesExpr false) us args) (h : tail.has vs) :
    tail.has ([op] ++ (us ++ vs)) := by
  intro bare ts head hhead
  obtain ⟨us, cl, rfl, hcl, hargs⟩ := hargs
  have hany : false = true → bare = false := fun h => absurd h Bool.false_ne_true
  have hcall := DerivesPostfix.call hhead hany ho hargs hcl
  simpa using h _ _ _ hcall

/-- So does a method call. -/
theorem tail_methodCall {dot name op : Token} {us vs : List Token} {args : List Expr}
    (hd : dot.kind = .dot) (hn : name.kind = .name) (ho : op.kind = .leftParen)
    (hargs : Closed .rightParen (DerivesExpr false) us args) (h : tail.has vs) :
    tail.has ([dot] ++ ([name] ++ ([op] ++ (us ++ vs)))) := by
  intro bare ts head hhead
  obtain ⟨us, cl, rfl, hcl, hargs⟩ := hargs
  have hcall := DerivesPostfix.methodCall hhead hd hn ho hargs hcl
  simpa using h _ _ _ hcall

/-- So does a field access. -/
theorem tail_field {dot name : Token} {vs : List Token} (hd : dot.kind = .dot)
    (hn : name.kind = .name) (h : tail.has vs) : tail.has ([dot] ++ ([name] ++ vs)) := by
  intro bare ts head hhead
  have hfield := DerivesPostfix.field hhead hd hn
  simpa using h _ _ _ hfield

end Phrases

section

variable (ih : ForeseesUpTo .expr (fun ts => leaves (readExpr ts)) ts)

include ih

/-- A reader of arguments stops at the first token that none go on with. -/
theorem foresees_args :
    Foresees (.closed .rightParen (DerivesExpr false)) (fun ts => leaves (readArgs ts)) ts :=
  .closed (fun _ ts => leaves (readArgs ts)) (fun _ => leaves_readArgs) ih 0

/-- A reader of what follows an atom stops at the first token that no chain goes on with. -/
theorem foresees_tail : Foresees .tail takeTail ts := by
  -- by induction on the number of tokens, since behind a call the chain goes on
  induction hm : ts.length using Nat.strongRecOn generalizing ts with
  | _ m ihm =>
    subst hm
    have htail : ∀ us, us.length < ts.length → Foresees .tail takeTail us :=
      fun us hus => ihm _ hus (ih.shorter (Nat.le_of_lt hus)) rfl
    -- arguments with their parentheses and what follows them
    let call : Phrases :=
      .andThen (.one .leftParen) (.andThen (.closed .rightParen (DerivesExpr false)) .tail)
    have hcall : ForeseesUpTo call (fun us => do
        let us ← leaves (expect .leftParen us)
        let us ← leaves (readArgs us)
        takeTail us) ts := by
      intro us hus
      refine .bind (.expect .leftParen us) fun vs hvs => ?_
      have hvs := Nat.lt_of_lt_of_le (leaves_shorter hvs) hus
      exact .bind (foresees_args (ih.shorter (Nat.le_of_lt hvs))) fun ws hws =>
        htail ws (Nat.lt_trans (leaves_shorter hws) hvs)
    refine (Foresees.of_eq (fun ts => leaves_readTail ts {} {} default default {} {}) <|
      .ite (fun _ => hcall.self) fun _ => .ite (fun _ =>
        .bind (M := .andThen (.one .name) (.orElse call .tail)) (.expect .dot ts) ?_)
          fun _ => .nothing ts).mono ?_
    · intro us hus
      refine .bind (.expect .name us) fun vs hvs => ?_
      have hvs := Nat.lt_trans (leaves_shorter hvs) (leaves_shorter hus)
      exact .ite (fun _ => hcall vs (Nat.le_of_lt hvs)) fun _ => htail vs hvs
    -- whatever is taken turns a chain into a chain
    · rintro _ (⟨_, _, rfl, ⟨op, ho, rfl⟩, us, vs, rfl, ⟨args, hargs⟩, hvs⟩ | h | rfl)
      · exact Phrases.tail_call ho hargs hvs
      · obtain ⟨_, _, rfl, ⟨dot, hd, rfl⟩, _, _, rfl, ⟨name, hn, rfl⟩, h | h⟩ := h
        · obtain ⟨_, _, rfl, ⟨op, ho, rfl⟩, us, vs, rfl, ⟨args, hargs⟩, hvs⟩ := h
          exact Phrases.tail_methodCall hd hn ho hargs hvs
        · exact Phrases.tail_field hd hn h
      · intro bare ts head hhead
        exact ⟨bare, head, by rwa [List.append_nil]⟩

/-- A reader stops so behind the first name of a path or a macro invocation. -/
theorem foresees_atom_name (hk : t.kind ∉ [.selfWord, .int, .string, .leftParen]) :
    Foresees .atom (fun ts => leaves (readAtom ts)) (t :: ts) := by
  let invocation : Phrases := .andThen (.one .bang)
    (.andThen (.one .leftParen) (.andThen .expr (.one .rightParen)))
  let others : Phrases := .orElse (.andThen (.one .doubleColon) .path) .nothing
  refine (Foresees.of_cons (fun ts => leaves_readAtom_name ts hk) <|
    .bind (M := .orElse invocation others) (.expect .name (t :: ts)) fun us hus =>
      .ite (fun _ => ?_) fun _ => .ite (fun _ => ?_) fun _ => .nothing us).mono ?_
  · refine .bind (.expect .bang us) fun vs hvs => .bind (.expect .leftParen vs) fun ws hws => ?_
    have ih := ((ih.first hus).behind (.expect .bang us) hvs).behind (.expect .leftParen vs) hws
    exact .bind ih.self fun xs _ => .expect .rightParen xs
  · exact .bind (.expect .doubleColon us) fun vs _ => foresees_readPath vs
  -- a macro invocation, a longer path or a name alone
  · rintro _ ⟨_, _, rfl, ⟨name, hn, rfl⟩, h | h | rfl⟩
    · obtain ⟨_, _, rfl, ⟨bang, hb, rfl⟩, _, _, rfl, ⟨op, ho, rfl⟩, us, _, rfl, ⟨e, he⟩,
        ⟨cl, hc, rfl⟩⟩ := h
      exact ⟨_, .macroCall hn hb ho he hc⟩
    · obtain ⟨_, us, rfl, ⟨colons, hc, rfl⟩, p, hp⟩ := h
      exact ⟨_, .path (.cons hn hc hp)⟩
    · exact ⟨_, .path (.single hn)⟩

/-- A reader stops so in any atom. -/
theorem foresees_atom : Foresees .atom (fun ts => leaves (readAtom ts)) (t :: ts) := by
  -- the first token decides what kind of atom it is
  by_cases hself : t.kind = .selfWord
  · refine (Foresees.of_cons (fun ts => leaves_readAtom_self ts hself) <|
      .expect .selfWord (t :: ts)).mono ?_
    rintro _ ⟨word, hw, rfl⟩
    exact ⟨_, .selfWord hw⟩
  by_cases hint : t.kind = .int
  · refine (Foresees.of_cons (fun ts => leaves_readAtom_int ts hint) <|
      .expect .int (t :: ts)).mono ?_
    rintro _ ⟨digits, hd, rfl⟩
    exact ⟨_, .int hd⟩
  by_cases hstring : t.kind = .string
  · refine (Foresees.of_cons (fun ts => leaves_readAtom_string ts hstring) <|
      .expect .string (t :: ts)).mono ?_
    rintro _ ⟨quoted, hq, rfl⟩
    exact ⟨_, .string hq⟩
  by_cases hparen : t.kind = .leftParen
  · refine (Foresees.of_cons (fun ts => leaves_readAtom_paren ts hparen) <|
      .bind (M := .andThen .expr (.one .rightParen)) (.expect .leftParen (t :: ts)) ?_).mono ?_
    · intro us hus
      exact .bind (ih.first hus).self fun vs _ => .expect .rightParen vs
    · rintro _ ⟨_, _, rfl, ⟨op, ho, rfl⟩, us, _, rfl, ⟨e, he⟩, ⟨cl, hc, rfl⟩⟩
      exact ⟨_, .paren ho he hc⟩
  refine foresees_atom_name ih ?_
  simp [hself, hint, hstring, hparen]

/-- A reader stops so below prefix operators, if it does in shorter expressions. -/
theorem foresees_unary_cons (ihu : ForeseesUpTo .unary (fun ts => leaves (readUnary ts)) ts) :
    Foresees .unary (fun ts => leaves (readUnary ts)) (t :: ts) := by
  by_cases hamp : t.kind = .ampersand
  · refine (Foresees.of_cons (fun ts => leaves_readUnary_borrow ts hamp) <|
      .bind (M := .andThen (.optional .mutWord) .unary) (.expect .ampersand (t :: ts)) ?_).mono ?_
    · intro us hus
      exact .bind (.optional .mutWord us) fun vs hvs =>
        ((ihu.first hus).behind (.optional .mutWord us) hvs).self
    · rintro _ ⟨_, _, rfl, ⟨amp, hk, rfl⟩, ms, us, rfl, ⟨isMut, hm⟩, e, he⟩
      have hborrow : DerivesUnary false (amp :: (ms ++ us)) (.borrow {} isMut e) :=
        .borrow hk hm he
      exact ⟨_, hborrow⟩
  by_cases hstar : t.kind = .star
  · refine (Foresees.of_cons (fun ts => leaves_readUnary_deref ts hstar) <|
      .bind (M := .unary) (.expect .star (t :: ts)) ?_).mono ?_
    · exact fun us hus => (ihu.first hus).self
    · rintro _ ⟨_, us, rfl, ⟨star, hs, rfl⟩, e, he⟩
      exact ⟨_, .deref hs he⟩
  -- without a prefix operator there is an atom, and a chain behind it
  have hk : t.kind ∉ [.ampersand, .star] := by simp [hamp, hstar]
  refine (Foresees.of_cons (fun ts => leaves_readUnary_chain ts hk) <|
    .bind (foresees_atom ih) fun us hus => foresees_tail (ih.first hus)).mono ?_
  rintro _ ⟨us, vs, rfl, ⟨e, he⟩, hvs⟩
  obtain ⟨bare, e', hchain⟩ := hvs _ _ _ (.atom he)
  exact ⟨e', .chain hchain⟩

/-- A reader stops so in any expression, if it does in shorter ones. -/
theorem foresees_expr_cons (ihu : ForeseesUpTo .unary (fun ts => leaves (readUnary ts)) ts) :
    Foresees .expr (fun ts => leaves (readExpr ts)) (t :: ts) := by
  by_cases hk : t.kind = .bar
  · refine (Foresees.of_cons (fun ts => leaves_readExpr_closure ts hk) <|
      .bind (M := .andThen (.closed .bar DerivesClosureParam) (.andThen (.typeBehind .arrow) .expr))
        (.expect .bar (t :: ts)) fun us hus => .bind (foresees_readClosureParams us)
          fun vs hvs => ?_).mono ?_
    · have hret : Foresees (.typeBehind .arrow) (takeTypeBehind .arrow) vs :=
        .typeBehind fun ws _ => foresees_readType ws
      have ih := (ih.first hus).behind (foresees_readClosureParams us) hvs
      exact .bind hret fun ws hws => (ih.behind hret hws).self
    -- the parts together derive a closure
    · rintro _ ⟨_, _, rfl, ⟨bar, hb, rfl⟩, _, _, rfl, ⟨params, ps, cl, rfl, hcl, hps⟩, rs, bs, rfl,
        ⟨ret, hret⟩, body, hbody⟩
      have hclosure : DerivesExpr false (bar :: (ps ++ cl :: (rs ++ bs)))
          (.closure {} params ret body) := .closure hb hps hcl hret hbody
      rw [List.append_assoc]
      exact ⟨_, hclosure⟩
  -- without a bar an expression is a unary one
  · refine (Foresees.of_cons (fun ts => leaves_readExpr_unary ts hk) <|
      foresees_unary_cons ih ihu).mono ?_
    exact fun us ⟨e, he⟩ => ⟨e, .unary he⟩

end

/-- Readers of both kinds of expression stop at the first hopeless token. -/
theorem foresees_expr_and_unary (ts : List Token) :
    Foresees .expr (fun ts => leaves (readExpr ts)) ts ∧
      Foresees .unary (fun ts => leaves (readUnary ts)) ts := by
  -- both at once, by induction on the number of tokens: each kind stands inside the other
  induction hm : ts.length using Nat.strongRecOn generalizing ts with
  | _ m ih =>
    subst hm
    cases ts with
    | nil =>
      constructor <;> refine .fails_at_end ?_
      · rw [readExpr]
        rfl
      · rw [readUnary]
        rfl
    | cons t ts =>
      have ihe : ForeseesUpTo .expr (fun ts => leaves (readExpr ts)) ts :=
        fun us hus => (ih _ (Nat.lt_succ_of_le hus) us rfl).1
      have ihu : ForeseesUpTo .unary (fun ts => leaves (readUnary ts)) ts :=
        fun us hus => (ih _ (Nat.lt_succ_of_le hus) us rfl).2
      exact ⟨foresees_expr_cons ihe ihu, foresees_unary_cons ihe ihu⟩

/-- **A reader of expressions** stops at the first token that no expression goes on with. -/
theorem foresees_readExpr (ts : List Token) :
    Foresees .expr (fun ts => leaves (readExpr ts)) ts := (foresees_expr_and_unary ts).1

/-! ### Statements -/

namespace Phrases

/-- There is a statement. -/
theorem exists_stmt : ∃ us stmt, DerivesStmt false us stmt :=
  exists_expr.elim fun _ h => h.elim fun _ h =>
    ⟨_, _, .exprStmt h (sample_kind _)⟩

/-- Statements. -/
def stmt : Phrases := .of (DerivesStmt false) exists_stmt

end Phrases

/-- **A reader of statements** stops at the first token that no statement goes on with. -/
theorem foresees_readStmt (ts : List Token) :
    Foresees .stmt (fun ts => leaves (readStmt ts)) ts := by
  cases ts with
  | nil => exact .fails_at_end rfl
  | cons t ts =>
    by_cases hk : t.kind = .letWord
    · refine (Foresees.of_cons (fun ts => leaves_readStmt_let ts hk) <|
        .bind (.expect .letWord (t :: ts)) fun us _ => .of_eq (leaves_readLet {}) <|
          .bind (.optional .mutWord us) fun us _ => .bind (.expect .name us) fun us _ =>
            .bind (.typeBehind fun us _ => foresees_readType us) fun us _ =>
              .bind (.expect .equal us) fun us _ => .bind (foresees_readExpr us) fun us _ =>
                .expect .semicolon us).mono ?_
      -- the parts are taken in this order, and together they derive the statement
      rintro _ ⟨_, _, rfl, ⟨word, hw, rfl⟩, ms, _, rfl, ⟨isMut, hm⟩, _, _, rfl, ⟨name, hn, rfl⟩,
        ds, _, rfl, ⟨declared, hd⟩, _, _, rfl, ⟨equal, he, rfl⟩, vs, _, rfl, ⟨value, hv⟩,
        ⟨semicolon, hs, rfl⟩⟩
      exact ⟨_, .letStmt hw hm hn hd he hv hs⟩
    · refine (Foresees.of_cons (fun ts => leaves_readStmt_expr ts hk) <|
        .bind (foresees_readExpr (t :: ts)) fun us _ => .expect .semicolon us).mono ?_
      rintro _ ⟨us, _, rfl, ⟨e, he⟩, ⟨semicolon, hs, rfl⟩⟩
      exact ⟨_, .exprStmt he hs⟩

/-- So does a reader of statements up to a brace. -/
theorem foresees_readStmts (ts : List Token) :
    Foresees (.repeated .rightBrace (DerivesStmt false)) (fun ts => leaves (readStmts ts)) ts :=
  .repeated _ leaves_readStmts foresees_readStmt leaves_shorter ts

end ClosureLint.Syntax
