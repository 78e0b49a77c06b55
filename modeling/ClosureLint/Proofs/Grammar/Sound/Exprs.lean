import ClosureLint.Proofs.Grammar.Sound.Types

/-!
# Expressions are read as the grammar says

* `readExpr_sound`, `readArgs_sound` — expressions and arguments.
* `readStmts_sound` — the statements of a body.
-/

namespace ClosureLint.Syntax

mutual

theorem readExpr_sound : (ts : List Token) → {r : Read ts.length Expr} →
    readExpr ts = .ok r → Took IsExpr ts r
  | [], _, h => by
    rw [readExpr] at h
    nomatch h
  | t :: ts, r, h => by
    rw [readExpr] at h
    split at h
    · next hk =>
      simp only [bind_eq_ok, pure_eq_ok] at h
      obtain ⟨params, hp, ret, hr, body, hb, rfl⟩ := h
      -- a closure, whose parameters close with a bar of their own
      obtain ⟨ps, hps, hparams⟩ := readClosureParams_sound _ hp
      obtain ⟨rs, hrs, hret⟩ := readRet_sound hr
      have := params.shorter
      have := ret.shorter
      obtain ⟨bs, hbs, hbody⟩ := readExpr_sound _ hb
      have hs := (((hps.seqOpt hrs).seq hbs).behind t).cast
        (congrArg (t :: ·) (List.append_assoc ps rs bs))
      refine ⟨_, hs, ?_⟩
      simp only [Read.behind, Read.seq, Read.seqOpt, hs.extent, List.append_assoc]
      exact .closure hk hparams hret hbody
    · obtain ⟨used, hu, hexpr⟩ := readUnary_sound _ h
      exact ⟨used, hu, .unary hexpr⟩
termination_by ts => 5 * ts.length + 3

theorem readUnary_sound : (ts : List Token) → {r : Read ts.length Expr} →
    readUnary ts = .ok r → Took IsUnary ts r
  | [], _, h => by
    rw [readUnary] at h
    nomatch h
  | t :: ts, r, h => by
    rw [readUnary] at h
    split at h
    · next hk =>
      simp only [bind_eq_ok, pure_eq_ok] at h
      obtain ⟨operand, ho, rfl⟩ := h
      -- a borrow, with or without the word `mut`
      have := length_dropIf_le .mutWord ts
      obtain ⟨used, hu, hexpr⟩ := readUnary_sound _ ho
      obtain ⟨ms, hm, hu⟩ := hu.behindOpt
      have hs := hu.behind t
      refine ⟨_, hs, ?_⟩
      simp only [Read.behind, Read.behindOpt, hs.extent]
      exact .borrow hk hm hexpr
    · next hk =>
      simp only [bind_eq_ok, pure_eq_ok] at h
      obtain ⟨operand, ho, rfl⟩ := h
      obtain ⟨used, hu, hexpr⟩ := readUnary_sound _ ho
      have hs := hu.behind t
      refine ⟨_, hs, ?_⟩
      simp only [Read.behind, hs.extent]
      exact .deref hk hexpr
    · simp only [bind_eq_ok, pure_eq_ok] at h
      obtain ⟨atom, ha, tail, ht, rfl⟩ := h
      obtain ⟨used, hu, hatom⟩ := readAtom_sound _ ha
      have : atom.rest.length < ts.length + 1 := atom.shorter
      -- the atom is the first head of the chain, and it is not bare
      obtain ⟨used', hu', bare, hexpr⟩ := readTail_sound _ hu (.atom hatom) (.inl rfl) ht
      exact ⟨used', hu', .chain hexpr⟩
termination_by ts => 5 * ts.length + 2

theorem readAtom_sound : (ts : List Token) → {r : Read ts.length Expr} →
    readAtom ts = .ok r → Took IsAtom ts r
  | [], _, h => by
    rw [readAtom] at h
    nomatch h
  | t :: ts, r, h => by
    rw [readAtom] at h
    split at h
    · next hk =>
      obtain rfl := pure_eq_ok.mp h
      exact ⟨_, .token t ts, .selfWord hk⟩
    · simp only [bind_eq_ok, pure_eq_ok] at h
      obtain ⟨value, hv, rfl⟩ := h
      obtain ⟨u, hu, hk, hvalue, hlate⟩ := readInt_sound hv
      -- the token that was looked at is the one that is read
      obtain rfl : t = u := (List.cons.inj hu.split).1
      refine ⟨_, hu, ?_⟩
      simp only [Read.giving, hvalue, hlate]
      exact .int hk
    · simp only [bind_eq_ok, pure_eq_ok] at h
      obtain ⟨value, hv, rfl⟩ := h
      obtain ⟨u, hu, hk, hvalue, hlate⟩ := readString_sound hv
      -- the same for a string
      obtain rfl : t = u := (List.cons.inj hu.split).1
      refine ⟨_, hu, ?_⟩
      simp only [Read.giving, hvalue, hlate]
      exact .string hk
    · next hk =>
      simp only [bind_eq_ok, pure_eq_ok] at h
      obtain ⟨inner, hi, close, h₁, rfl⟩ := h
      obtain ⟨used, hu, hexpr⟩ := readExpr_sound _ hi
      obtain ⟨hs₁, hk₁, hl₁⟩ := expect_sound h₁
      refine ⟨_, (hu.seq hs₁).behind t, ?_⟩
      simp only [Read.behind, Read.seq, hl₁, List.append_nil]
      exact .paren hk hexpr hk₁
    · split at h
      · next hname =>
        simp only [bind_eq_ok, pure_eq_ok] at h
        -- an invocation, which looks like a path up to the mark
        obtain ⟨bang, h₁, op, h₂, inner, hi, close, h₃, rfl⟩ := h
        obtain ⟨hs₁, hk₁, hl₁⟩ := expect_sound h₁
        obtain ⟨hs₂, hk₂, hl₂⟩ := expect_sound h₂
        have := bang.shorter
        have := op.shorter
        obtain ⟨used, hu, hexpr⟩ := readExpr_sound _ hi
        obtain ⟨hs₃, hk₃, hl₃⟩ := expect_sound h₃
        have hs := (hs₁.seq (hs₂.seq (hu.seq hs₃))).behind t
        refine ⟨_, hs, ?_⟩
        simp only [Read.behind, Read.seq, hs.extent, hl₁, hl₂, hl₃, List.nil_append,
          List.append_nil]
        exact .macroCall hname.1 hk₁ hk₂ hexpr hk₃
      · simp only [bind_eq_ok, pure_eq_ok] at h
        obtain ⟨path, hp, rfl⟩ := h
        obtain ⟨used, hu, hpath, hlate⟩ := readPath_sound hp
        refine ⟨_, hu, ?_⟩
        simp only [Read.giving, hu.extent, hlate]
        exact .path hpath
termination_by ts => 5 * ts.length + 1

/-- What follows an expression makes a longer one of it. -/
theorem readTail_sound (ts : List Token) {whole us : List Token} {stop : Pos} {head : Expr}
    {bare : Bool} {late : List LateFault} {r : Read (ts.length + 1) Expr} (hu : Spelled whole us stop ts)
    (hhead : IsPostfix bare us head late) (hbare : bare = false ∨ nextIs .leftParen ts = false)
    (h : readTail (startOf whole) head stop ts = .ok r) :
    ∃ used, Spelled whole used r.stop r.rest ∧
      ∃ bare', IsPostfix bare' used r.value (late ++ r.late) := by
  rw [readTail] at h
  split at h
  · next hp =>
    simp only [bind_eq_ok, pure_eq_ok] at h
    obtain ⟨op, h₁, args, ha, tail, ht, rfl⟩ := h
    obtain ⟨hs₁, hk₁, hl₁⟩ := expect_sound h₁
    have := op.shorter
    obtain ⟨used, hus, hargs⟩ := readArgs_sound _ ha
    have := args.shorter
    have hs := hu.seq (hs₁.seq hus)
    -- a bare field in front of a parenthesis would have been a method call
    obtain rfl := hbare.resolve_right fun h => Bool.eq_false_iff.mp h hp
    have hcall := IsPostfix.call hhead hk₁ hargs
    rw [hs.extent'] at ht
    obtain ⟨used', hu', bare', hexpr⟩ := readTail_sound _ hs hcall (.inl rfl) ht
    refine ⟨used', hu', bare', ?_⟩
    simpa only [Read.loosen, Read.seqOpt, Read.seq, hl₁, List.nil_append, List.append_assoc]
      using hexpr
  · split at h
    · simp only [bind_eq_ok] at h
      obtain ⟨dot, h₁, name, h₂, h⟩ := h
      obtain ⟨hs₁, hk₁, hl₁⟩ := expect_sound h₁
      have := dot.shorter
      obtain ⟨hs₂, hk₂, hl₂⟩ := expect_sound h₂
      have := name.shorter
      split at h
      · simp only [bind_eq_ok, pure_eq_ok] at h
        obtain ⟨op, h₃, args, ha, tail, ht, rfl⟩ := h
        obtain ⟨hs₃, hk₃, hl₃⟩ := expect_sound h₃
        have := op.shorter
        obtain ⟨used, hus, hargs⟩ := readArgs_sound _ ha
        have := args.shorter
        have hs := hu.seq (hs₁.seq (hs₂.seq (hs₃.seq hus)))
        -- a method call, which is no bare head either
        have hcall := IsPostfix.methodCall hhead hk₁ hk₂ hk₃ hargs
        rw [hs.extent'] at ht
        obtain ⟨used', hu', bare', hexpr⟩ := readTail_sound _ hs hcall (.inl rfl) ht
        refine ⟨used', hu', bare', ?_⟩
        simpa only [Read.loosen, Read.seqOpt, Read.seq, hl₁, hl₂, hl₃, List.nil_append,
          List.append_assoc] using hexpr
      · next hp =>
        simp only [bind_eq_ok, pure_eq_ok] at h
        obtain ⟨tail, ht, rfl⟩ := h
        have hs := hu.seq (hs₁.seq hs₂)
        -- a field is a bare head, as no parenthesis follows
        have hfield := IsPostfix.field hhead hk₁ hk₂
        rw [hs.extent'] at ht
        obtain ⟨used', hu', bare', hexpr⟩ :=
          readTail_sound _ hs hfield (.inr (Bool.eq_false_iff.mpr hp)) ht
        refine ⟨used', hu', bare', ?_⟩
        simpa only [Read.loosen, Read.seqOpt, Read.seq, hl₁, hl₂, List.nil_append] using hexpr
    · obtain rfl := pure_eq_ok.mp h
      exact ⟨us, hu, bare, by rw [Read.nothing, List.append_nil]; exact hhead⟩
termination_by 5 * ts.length

theorem readArgs_sound (ts : List Token) {r : Read ts.length (List Expr)}
    (h : readArgs ts = .ok r) : Took IsArgs ts r := by
  rw [readArgs] at h
  split at h
  · simp only [bind_eq_ok, pure_eq_ok] at h
    obtain ⟨close, h₁, rfl⟩ := h
    obtain ⟨hs₁, hk₁, hl₁⟩ := expect_sound h₁
    refine ⟨_, hs₁, ?_⟩
    simp only [Read.giving, hl₁]
    exact .nil hk₁
  · simp only [bind_eq_ok] at h
    obtain ⟨first, hf, h⟩ := h
    obtain ⟨used, hu, hexpr⟩ := readExpr_sound _ hf
    have := first.shorter
    split at h
    · simp only [bind_eq_ok, pure_eq_ok] at h
      obtain ⟨comma, h₁, others, ho, rfl⟩ := h
      obtain ⟨hs₁, hk₁, hl₁⟩ := expect_sound h₁
      have := comma.shorter
      -- behind a comma there may be no more arguments
      obtain ⟨used', hu', hargs⟩ := readArgs_sound _ ho
      refine ⟨_, hu.seq (hs₁.seq hu'), ?_⟩
      simp only [Read.seq, hl₁, List.append_nil]
      exact .cons hexpr hk₁ hargs
    · simp only [bind_eq_ok, pure_eq_ok] at h
      obtain ⟨close, h₁, rfl⟩ := h
      obtain ⟨hs₁, hk₁, hl₁⟩ := expect_sound h₁
      refine ⟨_, hu.seq hs₁, ?_⟩
      simp only [Read.seq, hl₁, List.append_nil]
      exact .last hexpr hk₁
termination_by 5 * ts.length + 4

end

/-! ### Statements -/

theorem readDeclared_sound {before : Pos} {ts : List Token} {r : Read (ts.length + 1) (Option TypeExpr)}
    (h : readDeclared before ts = .ok r) : TookOpt (IsOptionalType .colon) before ts r := by
  rw [readDeclared] at h
  split at h
  · simp only [bind_eq_ok, pure_eq_ok] at h
    obtain ⟨colon, h₁, type, h₂, rfl⟩ := h
    obtain ⟨hs₁, hk₁, hl₁⟩ := expect_sound h₁
    obtain ⟨used, hu, htype⟩ := readType_sound _ h₂
    refine ⟨_, .of_spelled before (hs₁.seq hu), ?_⟩
    simp only [Read.loosen, Read.seq, hl₁, List.nil_append]
    exact .present hk₁ htype
  · obtain rfl := pure_eq_ok.mp h
    exact ⟨[], .nothing before ts, .absent⟩

theorem readStmt_sound : (ts : List Token) → {r : Read ts.length Stmt} →
    readStmt ts = .ok r → Took IsStmt ts r
  | [], _, h => by
    rw [readStmt] at h
    nomatch h
  | t :: ts, r, h => by
    rw [readStmt] at h
    split at h
    · next hk =>
      -- every part of the `let` was taken, and each is what the grammar asks for
      simp only [readLet, bind_eq_ok, pure_eq_ok] at h
      obtain ⟨_, ⟨name, h₁, declared, hd, equal, h₂, value, hv, close, h₃, rfl⟩, rfl⟩ := h
      obtain ⟨hs₁, hk₁, hl₁⟩ := expect_sound h₁
      obtain ⟨ds, hds, hdeclared⟩ := readDeclared_sound hd
      obtain ⟨hs₂, hk₂, hl₂⟩ := expect_sound h₂
      obtain ⟨vs, hvs, hvalue⟩ := readExpr_sound _ hv
      obtain ⟨hs₃, hk₃, hl₃⟩ := expect_sound h₃
      obtain ⟨ms, hm, hlet⟩ := ((hs₁.seqOpt hds).seq (hs₂.seq (hvs.seq hs₃))).behindOpt
      have htokens : t :: (ms ++ (([name.value] ++ ds) ++ ([equal.value] ++ (vs ++ [close.value]))))
          = t :: (ms ++ name.value :: (ds ++ equal.value :: (vs ++ [close.value]))) := by simp
      have hs := (hlet.behind t).cast htokens
      refine ⟨_, hs, ?_⟩
      simp only [Read.behind, Read.behindOpt, Read.seq, Read.seqOpt, hs.extent, hl₁, hl₂, hl₃,
        List.nil_append, List.append_nil]
      exact .letStmt hk hm hk₁ hdeclared hk₂ hvalue hk₃
    · simp only [bind_eq_ok, pure_eq_ok] at h
      -- otherwise an expression and a semicolon
      obtain ⟨expr, he, close, h₁, rfl⟩ := h
      obtain ⟨used, hu, hexpr⟩ := readExpr_sound _ he
      obtain ⟨hs₁, hk₁, hl₁⟩ := expect_sound h₁
      have hs := hu.seq hs₁
      refine ⟨_, hs, ?_⟩
      simp only [Read.seq, hs.extent, hl₁, List.append_nil]
      exact .exprStmt hexpr hk₁

theorem readStmts_sound (ts : List Token) {r : Read ts.length (List Stmt)}
    (h : readStmts ts = .ok r) : Took IsStmts ts r := by
  rw [readStmts] at h
  split at h
  · simp only [bind_eq_ok, pure_eq_ok] at h
    obtain ⟨close, h₁, rfl⟩ := h
    obtain ⟨hs₁, hk₁, hl₁⟩ := expect_sound h₁
    refine ⟨_, hs₁, ?_⟩
    simp only [Read.giving, hl₁]
    exact .nil hk₁
  · simp only [bind_eq_ok, pure_eq_ok] at h
    obtain ⟨first, hf, others, ho, rfl⟩ := h
    obtain ⟨used, hu, hstmt⟩ := readStmt_sound _ hf
    have := first.shorter
    obtain ⟨used', hu', hstmts⟩ := readStmts_sound _ ho
    exact ⟨_, hu.seq hu', .cons hstmt hstmts⟩
termination_by ts.length

end ClosureLint.Syntax
