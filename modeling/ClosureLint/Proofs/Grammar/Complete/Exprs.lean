import ClosureLint.Proofs.Grammar.Complete.Types

/-!
# Expressions that follow the grammar are read

* `ExprEnds` — an expression can end in front of certain tokens.
* `readExpr_complete`, `readArgs_complete` — expressions and arguments.
* `readStmts_complete` — the statements of a body.
-/

namespace ClosureLint.Syntax

/-- Behind an expression none of the tokens comes that could carry it on. -/
def ExprEnds (ts : List Token) : Prop := NotNext [.leftParen, .dot, .doubleColon, .bang] ts

/-- A token that cannot carry on an expression ends it. -/
theorem exprEnds_cons {k : TokenKind} {t : Token} (h : t.kind = k)
    (hk : k ∉ [TokenKind.leftParen, .dot, .doubleColon, .bang]) (ts : List Token) :
    ExprEnds (t :: ts) := notNext_cons (h ▸ hk) ts

/-! ### What expressions begin with -/

/-- The kinds that begin an atom. -/
def atomStarts : List TokenKind := [.name, .selfWord, .int, .string, .leftParen]

/-- What an atom begins with. -/
theorem IsAtom.starts {ts : List Token} {e : Expr} {late : List LateFault}
    (h : IsAtom ts e late) : StartsIn atomStarts ts := by
  cases h with
  | path hp => exact hp.starts.mono (by decide)
  | selfWord hk | int hk | string hk | macroCall hk _ _ _ _ | paren hk _ _ =>
    exact .cons hk (by decide) _

/-- A chain begins with its atom. -/
theorem IsPostfix.starts {bare : Bool} {ts : List Token} {e : Expr} {late : List LateFault}
    (h : IsPostfix bare ts e late) : StartsIn atomStarts ts := by
  match h with
  | .atom ha => exact ha.starts
  | .call hp _ _ | .methodCall hp _ _ _ _ | .field hp _ _ => exact hp.starts.append _

/-- The kinds that begin an operand. -/
def unaryStarts : List TokenKind := .ampersand :: .star :: atomStarts

/-- An operand begins with its operator, if it has one. -/
theorem IsUnary.starts {ts : List Token} {e : Expr} {late : List LateFault}
    (h : IsUnary ts e late) : StartsIn unaryStarts ts := by
  cases h with
  | borrow hk _ _ | deref hk _ => exact .cons hk (by decide) _
  | chain hp => exact hp.starts.mono (by decide)

/-- The kinds that begin an expression. -/
def exprStarts : List TokenKind := .bar :: unaryStarts

/-- An expression begins with the bar of a closure, or as an operand does. -/
theorem IsExpr.starts {ts : List Token} {e : Expr} {late : List LateFault}
    (h : IsExpr ts e late) : StartsIn exprStarts ts := by
  cases h with
  | closure hk _ _ _ => exact .cons hk (by decide) _
  | unary hu => exact hu.starts.mono (by decide)

/-- Arguments have their closing parenthesis. -/
theorem IsArgs.ne_nil {ts : List Token} {es : List Expr} {late : List LateFault}
    (h : IsArgs ts es late) : ts ≠ [] := by
  cases h <;> simp

/-! ### Which level reads -/

/-- Without a bar, what is read is no closure. -/
theorem readExpr_eq_readUnary {ts : List Token} (h : nextIs .bar ts = false) :
    readExpr ts = readUnary ts := by
  cases ts with
  | nil =>
    rw [readExpr, readUnary]
  | cons t ts => rw [readExpr, if_neg (beq_eq_false_iff_ne.mp h)]

/-- Without an operator, what is read is an atom and what stands behind it. -/
theorem readUnary_eq_chain {ts : List Token} (h : NotNext [.ampersand, .star] ts) :
    readUnary ts = (do
      let atom ← readAtom ts
      let whole ← readTail (startOf ts) atom.value atom.stop atom.rest
      return atom.seqOpt whole whole.value) := by
  -- both sides fail at the end of the input
  cases ts with
  | nil =>
    rw [readUnary, readAtom]
    rfl
  | cons t ts =>
    have hk := h t rfl
    rw [readUnary]
    split
    · next hamp => exact absurd (hamp ▸ List.mem_cons_self) hk
    · next hstar => exact absurd (hstar ▸ List.mem_cons_of_mem _ List.mem_cons_self) hk
    · rfl

/-! ### What stands behind an atom -/

section

variable {start stop stop' : Pos} {head e : Expr} {rest rest' : List Token}
  {late late' : List LateFault}

/-- Nothing stands behind the atom. -/
theorem readTail_done (hrest : ExprEnds rest) :
    ReadsOpt (readTail start head stop) rest head [] stop rest := by
  unfold ReadsOpt
  rw [readTail]
  simp only [hrest.nextIs (k := .leftParen) (by decide), hrest.nextIs (k := .dot) (by decide)]
  exact ⟨_, rfl, rfl, rfl, rfl, rfl⟩

/-- Arguments stand behind it, and then the rest. -/
theorem readTail_call {op : Token} {us : List Token} {args : List Expr}
    (hk : op.kind = .leftParen) (hargs : Reads readArgs (us ++ rest) args late (stopOf us) rest)
    (htail : ReadsOpt (readTail start (.call (.between start (stopOf us)) head args) (stopOf us))
      rest e late' stop' rest') :
    ReadsOpt (readTail start head stop) (op :: (us ++ rest)) e (late ++ late') stop' rest' := by
  obtain ⟨_, ha⟩ := hargs.eq_ok
  obtain ⟨_, ht⟩ := htail.eq_ok
  unfold ReadsOpt
  rw [readTail]
  simp only [nextIs_cons, hk, beq_self_eq_true, if_true, expect_cons hk, ok_bind, Read.token, ha,
    ht]
  exact ⟨_, rfl, rfl, rfl, rfl, rfl⟩

/-- A method call stands behind it, and then the rest. -/
theorem readTail_methodCall {dot name op : Token} {us : List Token} {args : List Expr}
    (hd : dot.kind = .dot) (hn : name.kind = .name) (hk : op.kind = .leftParen)
    (hargs : Reads readArgs (us ++ rest) args late (stopOf us) rest)
    (htail : ReadsOpt
      (readTail start (.methodCall (.between start (stopOf us)) head name.text args) (stopOf us))
      rest e late' stop' rest') :
    ReadsOpt (readTail start head stop) (dot :: name :: op :: (us ++ rest)) e (late ++ late')
      stop' rest' := by
  obtain ⟨_, ha⟩ := hargs.eq_ok
  obtain ⟨_, ht⟩ := htail.eq_ok
  unfold ReadsOpt
  rw [readTail]
  simp only [nextIs_cons, hd, hk, beq_self_eq_true, if_true, expect_cons hd, expect_cons hn,
    expect_cons hk, ok_bind, Read.token, ha, ht]
  exact ⟨_, rfl, rfl, rfl, rfl, rfl⟩

/-- A field stands behind it, and then the rest. A parenthesis would have made it a method call. -/
theorem readTail_field {dot name : Token} (hd : dot.kind = .dot) (hn : name.kind = .name)
    (hrest : nextIs .leftParen rest = false)
    (htail : ReadsOpt (readTail start (.field (.between start name.stop) head name.text) name.stop)
      rest e late stop' rest') :
    ReadsOpt (readTail start head stop) (dot :: name :: rest) e late stop' rest' := by
  obtain ⟨_, ht⟩ := htail.eq_ok
  unfold ReadsOpt
  rw [readTail]
  simp only [nextIs_cons, hd, beq_self_eq_true, if_true, expect_cons hd, expect_cons hn, ok_bind,
    Read.token, hrest, ht]
  exact ⟨_, rfl, rfl, rfl, rfl, rfl⟩

end

/-- A path alone is an atom, unless it is the name of a macro. -/
private theorem readAtom_path {us : List Token} {p : Path} (hp : IsPath us p) {rest : List Token}
    (hrest : NotNext [.doubleColon, .bang] rest) :
    Reads readAtom (us ++ rest) (.path (extentOf us) p) [] (stopOf us) rest := by
  have hpath : Reads readPath (us ++ rest) p [] (stopOf us) rest :=
    readPath_complete hp (hrest.mono (by decide))
  cases hp with
  -- a name in front of `!` would call a macro
  | @single t hk =>
    rw [List.singleton_append] at hpath ⊢
    obtain ⟨_, he⟩ := hpath.eq_ok
    unfold Reads
    rw [readAtom]
    simp only [hk, hrest.nextIs (k := .bang) (by decide), he, ok_bind]
    exact ⟨_, rfl, rfl, rfl, rfl, rfl⟩
  -- with `::` behind the first name, there is no `!` to look for
  | @cons t colons ts p hk hc hp =>
    rw [List.cons_append, List.cons_append] at hpath ⊢
    obtain ⟨_, he⟩ := hpath.eq_ok
    unfold Reads
    rw [readAtom]
    simp only [hk, nextIs_cons, hc, he, ok_bind]
    exact ⟨_, rfl, rfl, rfl, rfl, rfl⟩

/-! ### Expressions -/

mutual

/-- **An expression that follows the grammar is read**, whatever stands behind it that cannot carry it
on. -/
theorem readExpr_complete {us : List Token} {e : Expr} {late : List LateFault}
    (h : IsExpr us e late) (rest : List Token) (hrest : ExprEnds rest) :
    Reads readExpr (us ++ rest) e late (stopOf us) rest := by
  match h with
  | @IsExpr.closure bar ps rs bs params ret body _ _ _ hk hp hr hb =>
    -- no expression begins with what could carry on the return type
    have hends : TypeEnds (bs ++ rest) := hb.starts.notNext (by decide) rest
    obtain ⟨_, hps⟩ := (readClosureParams_complete hp (rs ++ (bs ++ rest))).eq_ok
    obtain ⟨_, hrs⟩ := (readRet_complete hr (stopOf ps) _ hends).eq_ok
    obtain ⟨_, hbs⟩ := (readExpr_complete hb rest hrest).eq_ok
    simp only [List.cons_append, List.append_assoc]
    unfold Reads
    rw [readExpr, if_pos hk]
    simp only [hps, hrs, hbs, ok_bind]
    refine ⟨_, rfl, ?_, ?_, ?_, rfl⟩
    all_goals
      simp [extentOf, Read.behind, Read.seq, Read.seqOpt, stopOf_cons, stopOf_append,
        hb.starts.ne_nil]
  | @IsExpr.unary _ _ _ hu =>
    unfold Reads
    rw [readExpr_eq_readUnary (hu.starts.nextIs (by decide) rest)]
    exact readUnary_complete hu rest hrest

/-- An operand with its prefix operators. -/
theorem readUnary_complete {us : List Token} {e : Expr} {late : List LateFault}
    (h : IsUnary us e late) (rest : List Token) (hrest : ExprEnds rest) :
    Reads readUnary (us ++ rest) e late (stopOf us) rest := by
  match h with
  | @IsUnary.borrow amp ms ts isMut e _ hk hm hu =>
    have hdrop := hm.dropIf (hu.starts.notNext (by decide) rest)
    have hread : Reads readUnary (dropIf .mutWord (ms ++ (ts ++ rest))).2 e late (stopOf ts)
        rest := by
      rw [hdrop]
      exact readUnary_complete hu rest hrest
    obtain ⟨_, he⟩ := hread.eq_ok
    simp only [List.cons_append, List.append_assoc]
    unfold Reads
    rw [readUnary]
    simp only [hk, he, ok_bind]
    refine ⟨_, rfl, ?_, rfl, ?_, rfl⟩
    all_goals
      simp [extentOf, hdrop, Read.behind, Read.behindOpt, stopOf_cons, stopOf_append,
        hu.starts.ne_nil]
  | @IsUnary.deref star ts e _ hk hu =>
    obtain ⟨_, he⟩ := (readUnary_complete hu rest hrest).eq_ok
    simp only [List.cons_append]
    unfold Reads
    rw [readUnary]
    simp only [hk, he, ok_bind]
    refine ⟨_, rfl, ?_, rfl, ?_, rfl⟩
    all_goals simp [extentOf, Read.behind, stopOf_cons, hu.starts.ne_nil]
  -- nothing is taken off the end of the chain yet, so what is left to read of it is nothing
  | @IsUnary.chain bare _ _ _ hp =>
    have hread := readPostfix_complete hp rest (hrest.mono (by decide))
      (fun _ => hrest.nextIs (by decide)) (readTail_done hrest)
    rwa [List.append_nil] at hread

/-- An atom and what stands behind it are read together with all that follows. -/
theorem readPostfix_complete {bare : Bool} {us : List Token} {e : Expr} {late : List LateFault}
    (h : IsPostfix bare us e late) (rest : List Token)
    (hrest : NotNext [.doubleColon, .bang] rest)
    (hbare : bare = true → nextIs .leftParen rest = false)
    {e' : Expr} {late' : List LateFault} {stop : Pos} {rest' : List Token}
    (htail : ReadsOpt (readTail (startOf us) e (stopOf us)) rest e' late' stop rest') :
    Reads readUnary (us ++ rest) e' (late ++ late') stop rest' := by
  match h with
  -- the chain was taken apart from its end: `htail` reads all that was taken off so far
  | @IsPostfix.atom _ _ _ ha =>
    obtain ⟨_, he⟩ := (readAtom_complete ha rest hrest).eq_ok
    obtain ⟨_, ht⟩ := htail.eq_ok
    unfold Reads
    rw [readUnary_eq_chain (ha.starts.notNext (by decide) rest)]
    simp only [he, ok_bind, startOf_append rest ha.starts.ne_nil, ht]
    exact ⟨_, rfl, rfl, rfl, rfl, rfl⟩
  | @IsPostfix.call op ts vs callee args l l' hp hk ha =>
    have hnext : NotNext [.doubleColon, .bang] (op :: (vs ++ rest)) :=
      notNext_cons (by rw [hk]; decide) _
    -- where the call lies is known from where its callee begins
    have hextent : extentOf (ts ++ op :: vs) = .between (startOf ts) (stopOf vs) := by
      simp [extentOf, startOf_append, stopOf_cons, hp.starts.ne_nil, ha.ne_nil]
    rw [startOf_append _ hp.starts.ne_nil, stopOf_append_cons, stopOf_cons op ha.ne_nil,
      hextent] at htail
    rw [List.append_assoc, List.cons_append, List.append_assoc]
    exact readPostfix_complete hp _ hnext nofun
      (readTail_call hk (readArgs_complete ha rest) htail)
  | @IsPostfix.methodCall bare dot name op ts vs receiver args l l' hp hd hn hk ha =>
    have hnext : NotNext [.doubleColon, .bang] (dot :: name :: op :: (vs ++ rest)) :=
      notNext_cons (by rw [hd]; decide) _
    -- a `.` comes first, so even a bare field access is no method call
    have hparen : nextIs .leftParen (dot :: name :: op :: (vs ++ rest)) = false := by
      rw [nextIs_cons, hd]
      rfl
    have hextent :
        extentOf (ts ++ dot :: name :: op :: vs) = .between (startOf ts) (stopOf vs) := by
      simp [extentOf, startOf_append, stopOf_cons, hp.starts.ne_nil, ha.ne_nil]
    rw [startOf_append _ hp.starts.ne_nil, stopOf_append_cons, stopOf_cons_cons, stopOf_cons_cons,
      stopOf_cons op ha.ne_nil, hextent] at htail
    rw [List.append_assoc, List.cons_append, List.cons_append, List.cons_append,
      List.append_assoc]
    exact readPostfix_complete hp _ hnext (fun _ => hparen)
      (readTail_methodCall hd hn hk (readArgs_complete ha rest) htail)
  | @IsPostfix.field bare dot name ts subject _ hp hd hn =>
    have hnext : NotNext [.doubleColon, .bang] (dot :: name :: rest) :=
      notNext_cons (by rw [hd]; decide) _
    have hparen : nextIs .leftParen (dot :: name :: rest) = false := by
      rw [nextIs_cons, hd]
      rfl
    have hextent : extentOf (ts ++ [dot, name]) = .between (startOf ts) name.stop := by
      simp [extentOf, startOf_append, hp.starts.ne_nil]
    rw [startOf_append _ hp.starts.ne_nil, stopOf_append_cons, stopOf_cons_cons, stopOf_singleton,
      hextent] at htail
    rw [List.append_assoc, List.cons_append, List.cons_append, List.nil_append]
    -- this is where a bare field access must not be followed by a parenthesis
    exact readPostfix_complete hp _ hnext (fun _ => hparen)
      (readTail_field hd hn (hbare rfl) htail)

/-- An expression without any operator around it. -/
theorem readAtom_complete {us : List Token} {e : Expr} {late : List LateFault}
    (h : IsAtom us e late) (rest : List Token) (hrest : NotNext [.doubleColon, .bang] rest) :
    Reads readAtom (us ++ rest) e late (stopOf us) rest := by
  match h with
  | @IsAtom.path _ p hp => exact readAtom_path hp hrest
  | @IsAtom.selfWord t hk =>
    unfold Reads
    rw [List.singleton_append, readAtom]
    simp only [hk]
    exact ⟨_, rfl, rfl, rfl, rfl, rfl⟩
  | @IsAtom.int t hk =>
    obtain ⟨_, he⟩ := (readInt_complete hk rest).eq_ok
    unfold Reads
    rw [List.singleton_append, readAtom]
    simp only [hk, he, ok_bind]
    exact ⟨_, rfl, rfl, rfl, rfl, rfl⟩
  | @IsAtom.string t hk =>
    obtain ⟨_, he⟩ := (readString_complete hk rest).eq_ok
    unfold Reads
    rw [List.singleton_append, readAtom]
    simp only [hk, he, ok_bind]
    exact ⟨_, rfl, rfl, rfl, rfl, rfl⟩
  -- the expression inside ends in front of the parenthesis
  | @IsAtom.macroCall name bang op cl ts e _ hn hb ho he hc =>
    have hends : ExprEnds (cl :: rest) := exprEnds_cons hc (by decide) _
    obtain ⟨_, hr⟩ := (readExpr_complete he _ hends).eq_ok
    simp only [List.cons_append, List.append_assoc, List.nil_append]
    unfold Reads
    rw [readAtom]
    simp only [hn, nextIs_cons, hb, beq_self_eq_true, and_self, if_true, expect_cons hb,
      expect_cons ho, ok_bind, Read.token, hr, expect_cons hc]
    refine ⟨_, rfl, ?_, ?_, ?_, rfl⟩
    all_goals simp [extentOf, Read.behind, Read.seq, stopOf_cons]
  | @IsAtom.paren op cl ts e _ ho he hc =>
    have hends : ExprEnds (cl :: rest) := exprEnds_cons hc (by decide) _
    obtain ⟨_, hr⟩ := (readExpr_complete he _ hends).eq_ok
    simp only [List.cons_append, List.append_assoc, List.nil_append]
    unfold Reads
    rw [readAtom]
    simp only [ho, ok_bind, hr, expect_cons hc, Read.token]
    refine ⟨_, rfl, rfl, ?_, ?_, rfl⟩
    all_goals simp [Read.behind, Read.seq, stopOf_cons]

/-- The arguments of a call, with the parenthesis that closes them. -/
theorem readArgs_complete {us : List Token} {es : List Expr} {late : List LateFault}
    (h : IsArgs us es late) (rest : List Token) :
    Reads readArgs (us ++ rest) es late (stopOf us) rest := by
  match h with
  | @IsArgs.nil cl hc =>
    unfold Reads
    rw [List.singleton_append, readArgs]
    simp only [nextIs_cons, hc, beq_self_eq_true, if_true, expect_cons hc, ok_bind]
    exact ⟨_, rfl, rfl, rfl, rfl, rfl⟩
  -- no expression begins with the parenthesis, so one is read first
  | @IsArgs.last cl ts e _ he hc =>
    have hends : ExprEnds (cl :: rest) := exprEnds_cons hc (by decide) _
    obtain ⟨_, hr⟩ := (readExpr_complete he _ hends).eq_ok
    rw [List.append_assoc, List.singleton_append]
    unfold Reads
    rw [readArgs]
    simp only [he.starts.nextIs (k := .rightParen) (by decide), hr, ok_bind, nextIs_cons, hc,
      expect_cons hc, Read.token]
    refine ⟨_, rfl, rfl, ?_, ?_, rfl⟩
    all_goals simp [Read.seq]
  | @IsArgs.cons comma ts vs e others _ _ he hc hes =>
    have hends : ExprEnds (comma :: (vs ++ rest)) := exprEnds_cons hc (by decide) _
    obtain ⟨_, hr⟩ := (readExpr_complete he _ hends).eq_ok
    obtain ⟨_, hrs⟩ := (readArgs_complete hes rest).eq_ok
    rw [List.append_assoc, List.cons_append]
    unfold Reads
    rw [readArgs]
    simp only [he.starts.nextIs (k := .rightParen) (by decide), hr, ok_bind, nextIs_cons, hc,
      beq_self_eq_true, if_true, expect_cons hc, Read.token, hrs]
    refine ⟨_, rfl, rfl, ?_, ?_, rfl⟩
    all_goals simp [Read.seq, stopOf_cons, hes.ne_nil]

end

/-! ### Statements -/

/-- The type of a `let`, if it is written. -/
theorem readDeclared_complete {us : List Token} {t : Option TypeExpr} {late : List LateFault}
    (h : IsOptionalType .colon us t late) (before : Pos) (rest : List Token)
    (hrest : TypeEnds rest) (hcolon : nextIs .colon rest = false) :
    ReadsOpt (readDeclared before) (us ++ rest) t late (if us = [] then before else stopOf us)
      rest := by
  cases h with
  | absent =>
    unfold ReadsOpt
    simp only [List.nil_append, readDeclared, hcolon]
    exact ⟨_, rfl, rfl, rfl, rfl, rfl⟩
  | @present mark ts t _ hk ht =>
    obtain ⟨_, he⟩ := (readType_complete ht rest hrest).eq_ok
    unfold ReadsOpt
    simp only [List.cons_append, readDeclared, nextIs_cons, hk, beq_self_eq_true, if_true,
      expect_cons hk, ok_bind, Read.token, he]
    refine ⟨_, rfl, rfl, rfl, ?_, rfl⟩
    simp [Read.seq, Read.loosen, stopOf_cons, ht.starts.ne_nil]

/-- What a statement begins with. -/
theorem IsStmt.starts {ts : List Token} {s : Stmt} {late : List LateFault}
    (h : IsStmt ts s late) : StartsIn (.letWord :: exprStarts) ts := by
  cases h with
  | letStmt hk _ _ _ _ _ _ => exact .cons hk (by decide) _
  | exprStmt he _ => exact (he.starts.mono (by decide)).append _

/-- A body has its closing brace. -/
theorem IsStmts.ne_nil {ts : List Token} {ss : List Stmt} {late : List LateFault}
    (h : IsStmts ts ss late) : ts ≠ [] := by
  cases h with
  | nil => simp
  | cons hs _ => exact List.append_ne_nil_of_left_ne_nil hs.starts.ne_nil _

/-- Without `let`, what is read is an expression and a semicolon. -/
theorem readStmt_eq_exprStmt {ts : List Token} (h : nextIs .letWord ts = false) :
    readStmt ts = (do
      let expr ← readExpr ts
      let close ← expect .semicolon expr.rest
      return expr.seq close (.exprStmt (.between (startOf ts) close.stop) expr.value)) := by
  cases ts with
  | nil =>
    rw [readStmt, readExpr]
    rfl
  | cons t ts =>
    rw [readStmt, if_neg (beq_eq_false_iff_ne.mp h)]
    rfl

/-- A `let` behind its first word. -/
theorem readLet_complete {name equal semicolon : Token} {ms ds vs : List Token} {isMut : Bool}
    {declared : Option TypeExpr} {value : Expr} {late late' : List LateFault} (start : Pos)
    (hm : IsOptional .mutWord ms isMut) (hn : name.kind = .name)
    (hd : IsOptionalType .colon ds declared late) (he : equal.kind = .equal)
    (hv : IsExpr vs value late') (hs : semicolon.kind = .semicolon) (rest : List Token) :
    Reads (readLet start) (ms ++ name :: (ds ++ equal :: (vs ++ semicolon :: rest)))
      (.letStmt (.between start semicolon.stop) isMut name.text declared value) (late ++ late')
      semicolon.stop rest := by
  have hends : TypeEnds (equal :: (vs ++ semicolon :: rest)) := typeEnds_cons he (by decide) _
  have hcolon : nextIs .colon (equal :: (vs ++ semicolon :: rest)) = false := by
    rw [nextIs_cons, he]
    rfl
  have hexpr : ExprEnds (semicolon :: rest) := exprEnds_cons hs (by decide) _
  have hdrop : dropIf .mutWord (ms ++ name :: (ds ++ equal :: (vs ++ semicolon :: rest)))
      = (isMut, name :: (ds ++ equal :: (vs ++ semicolon :: rest))) :=
    hm.dropIf (notNext_cons (by rw [hn]; decide) _)
  -- the name is looked for behind `mut`, if that is there
  have hread : Reads (expect .name)
      (dropIf .mutWord (ms ++ name :: (ds ++ equal :: (vs ++ semicolon :: rest)))).2 name []
      name.stop (ds ++ equal :: (vs ++ semicolon :: rest)) := by
    rw [hdrop]
    exact expect_complete hn _
  obtain ⟨_, hname⟩ := hread.eq_ok
  obtain ⟨_, hds⟩ := (readDeclared_complete hd name.stop _ hends hcolon).eq_ok
  obtain ⟨_, hvs⟩ := (readExpr_complete hv _ hexpr).eq_ok
  unfold Reads
  simp only [readLet, hname, hds, expect_cons he, hvs, expect_cons hs, ok_bind, Read.token]
  refine ⟨_, rfl, ?_, ?_, ?_, rfl⟩
  all_goals simp [Read.behindOpt, Read.seq, Read.seqOpt, hdrop]

/-- **A statement that follows the grammar is read.** -/
theorem readStmt_complete {us : List Token} {s : Stmt} {late : List LateFault}
    (h : IsStmt us s late) (rest : List Token) :
    Reads readStmt (us ++ rest) s late (stopOf us) rest := by
  cases h with
  | @letStmt word name equal semicolon ms ds vs isMut declared value _ _ hw hm hn hd he hv hs =>
    obtain ⟨_, hr⟩ := (readLet_complete word.start hm hn hd he hv hs rest).eq_ok
    simp only [List.cons_append, List.append_assoc, List.nil_append]
    unfold Reads
    rw [readStmt, if_pos hw, hr, ok_bind]
    refine ⟨_, rfl, ?_, rfl, ?_, rfl⟩
    all_goals simp [extentOf, Read.behind, stopOf_cons]
  | @exprStmt semicolon ts e _ he hs =>
    -- the semicolon cannot continue the expression in front of it
    have hends : ExprEnds (semicolon :: rest) := exprEnds_cons hs (by decide) _
    obtain ⟨_, hr⟩ := (readExpr_complete he _ hends).eq_ok
    have hlet := he.starts.nextIs (k := .letWord) (by decide) (semicolon :: rest)
    rw [List.append_assoc, List.singleton_append]
    unfold Reads
    simp only [readStmt_eq_exprStmt hlet, hr, ok_bind, expect_cons hs, Read.token]
    refine ⟨_, rfl, ?_, ?_, ?_, rfl⟩
    all_goals simp [extentOf, Read.seq, startOf_append, he.starts.ne_nil]

/-- The statements of a body, with the brace that closes them. -/
theorem readStmts_complete {us : List Token} {ss : List Stmt} {late : List LateFault}
    (h : IsStmts us ss late) (rest : List Token) :
    Reads readStmts (us ++ rest) ss late (stopOf us) rest := by
  induction h with
  | @nil cl hc =>
    unfold Reads
    rw [List.singleton_append, readStmts]
    simp only [nextIs_cons, hc, beq_self_eq_true, if_true, expect_cons hc, ok_bind]
    exact ⟨_, rfl, rfl, rfl, rfl, rfl⟩
  | @cons ts us s others _ _ hs hss ih =>
    obtain ⟨_, hr⟩ := (readStmt_complete hs (us ++ rest)).eq_ok
    obtain ⟨_, hrs⟩ := ih.eq_ok
    -- no statement begins with the brace
    have hbrace := hs.starts.nextIs (k := .rightBrace) (by decide) (us ++ rest)
    rw [List.append_assoc]
    unfold Reads
    rw [readStmts]
    simp only [hbrace, hr, ok_bind, hrs]
    refine ⟨_, rfl, rfl, rfl, ?_, rfl⟩
    simp [Read.seq, stopOf_append, hss.ne_nil]

end ClosureLint.Syntax
