import ClosureLint.Proofs.Grammar.Complete.Items
import ClosureLint.Proofs.Grammar.Productions
import ClosureLint.Proofs.Grammar.Sound.Items
import ClosureLint.Syntax.Parse

/-!
# Reading accepts what the grammar derives

* `IsType.derives`, `IsExpr.derives`, `IsItems.derives`, … — what is read can be derived.
* `DerivesType.accepted`, `DerivesExpr.accepted`, `DerivesItems.accepted`, … — what can be derived is
  read, and as the same tree if every parenthesis behind `.name` was taken for a method call.
* `readItems_iff_derives` — so a text is read exactly if it can be derived, and then as the one tree
  of such a derivation.
-/

namespace ClosureLint.Syntax

/-! ### Lists -/

section

variable {α : Type} {R : List Token → α → Prop} {k : TokenKind} {ts us : List Token} {a : α}
  {as : List α}

/-- A list with an element and a comma put before it is a list. -/
theorem Listed.cons {comma : Token} (h : R ts a) (hc : comma.kind = .comma) (hs : Listed R us as) :
    Listed R (ts ++ comma :: us) (a :: as) := by
  cases hs with
  | empty => exact .some (.one h) (.present hc)
  | some hs htrailing =>
    rw [← List.cons_append, ← List.append_assoc]
    exact .some (.more h hc hs) htrailing

/-- A list with the token behind it that closes it. -/
def Closed (k : TokenKind) (R : List Token → α → Prop) (ts : List Token) (as : List α) : Prop :=
  ∃ us cl, ts = us ++ [cl] ∧ cl.kind = k ∧ Listed R us as

/-- The closing token alone closes no element. -/
theorem Closed.nil {cl : Token} (hk : cl.kind = k) : Closed k R [cl] [] := ⟨[], cl, rfl, hk, .empty⟩

/-- The last element needs no comma before the closing token. -/
theorem Closed.last {cl : Token} (h : R ts a) (hk : cl.kind = k) : Closed k R (ts ++ [cl]) [a] := by
  have hlist : Listed R (ts ++ []) [a] := .some (.one h) .absent
  rw [List.append_nil] at hlist
  exact ⟨ts, cl, rfl, hk, hlist⟩

/-- An element and a comma stand before a closed list. -/
theorem Closed.cons {comma : Token} (h : R ts a) (hc : comma.kind = .comma)
    (hs : Closed k R us as) : Closed k R (ts ++ comma :: us) (a :: as) := by
  obtain ⟨us, cl, rfl, hk, hs⟩ := hs
  exact ⟨ts ++ comma :: us, cl, by rw [List.append_assoc, List.cons_append], hk, .cons h hc hs⟩

/-- A closed list is empty, or it has elements and perhaps a comma behind them. -/
theorem Closed.split (h : Closed k R ts as) :
    (∃ cl, ts = [cl] ∧ as = [] ∧ cl.kind = k) ∨
      ∃ us cs cl trailing, ts = us ++ (cs ++ [cl]) ∧ Separated R us as ∧
        IsOptional .comma cs trailing ∧ cl.kind = k := by
  obtain ⟨us, cl, rfl, hk, hs⟩ := h
  cases hs with
  | empty => exact .inl ⟨cl, rfl, rfl, hk⟩
  | some hs htrailing =>
    exact .inr ⟨_, _, cl, _, List.append_assoc .., hs, htrailing, hk⟩

end

/-! ### What is read can be derived -/

section

variable {ts us : List Token} {late : List LateFault}

/-- A tuple type without its position has the elements without theirs. -/
theorem TypeExpr.bare_tuple (l : Loc) (elems : List TypeExpr) :
    (TypeExpr.tuple l elems).bare = .tuple {} (elems.map bare) := by
  rw [bare, bareAll_eq_map]

/-- A generic type without its position has the arguments without theirs. -/
theorem TypeExpr.bare_named (l : Loc) (p : Path) (args : List TypeExpr) :
    (TypeExpr.named l p args).bare = .named {} p (args.map bare) := by
  rw [bare, bareAll_eq_map]

/-- A function type without its position has the parameters and the result without theirs. -/
theorem TypeExpr.bare_function (l : Loc) (isUnsafe : Bool) (params : List TypeExpr)
    (ret : Option TypeExpr) : (TypeExpr.fnPtr l isUnsafe params ret).bare
      = .fnPtr {} isUnsafe (params.map bare) (ret.map bare) := by
  cases ret <;> rw [bare, bareAll_eq_map] <;> rfl

/-- The elements of a tuple type, read one by one, derive the tuple. -/
theorem DerivesType.closed {op comma : Token} {first : TypeExpr} {others : List TypeExpr}
    (ho : op.kind = .leftParen) (h : DerivesType ts first) (hc : comma.kind = .comma)
    (hs : Closed .rightParen DerivesType us others) :
    DerivesType (op :: (ts ++ comma :: us)) (.tuple {} (first :: others)) := by
  obtain ⟨cl, rfl, rfl, hcl⟩ | ⟨vs, cs, cl, trailing, rfl, hvs, htrailing, hcl⟩ := hs.split
  · exact .single ho h hc hcl
  · exact .tuple ho h hc hvs htrailing hcl

mutual

/-- **A type that is read** can be derived, as the tree it is read as. -/
theorem IsType.derives {ts : List Token} {t : TypeExpr} {late : List LateFault}
    (h : IsType ts t late) : DerivesType ts t.bare := by
  match h with
  | .ref hk hm ht => exact .ref hk hm ht.derives
  | .array ho ht hs hn hc => exact .array ho ht.derives hs hn hc
  | .slice ho ht hc => exact .slice ho ht.derives hc
  -- a tuple is read element by element, and derived as a whole
  | .unit ho hc => exact .unit ho hc
  | .tuple ho ht hc hts =>
    rw [TypeExpr.bare_tuple]
    exact .closed ho ht.derives hc hts.derives
  | .paren ho ht hc => exact .paren ho ht.derives hc
  -- one rule of the grammar derives both kinds of function type: the word `unsafe` is optional
  | .unsafeFnPtr hw hf hs =>
    obtain ⟨op, us, cl, rs, rfl, ho, hparams, hcl, hret⟩ := hs.derives
    rw [TypeExpr.bare_function]
    exact .fnPtr (.present hw) hf ho hparams hcl hret
  | .fnPtr hf hs =>
    obtain ⟨op, us, cl, rs, rfl, ho, hparams, hcl, hret⟩ := hs.derives
    rw [TypeExpr.bare_function]
    exact .fnPtr .absent hf ho hparams hcl hret
  | .named hp => exact .named hp
  | .generic hp hl hs =>
    obtain ⟨us, cl, rfl, hcl, hargs⟩ := hs.derives
    rw [TypeExpr.bare_named]
    exact .generic hp hl hargs hcl

/-- The parameters and the result of a function type that are read can be derived. -/
theorem IsSignature.derives {ts : List Token} {params : List TypeExpr} {ret : Option TypeExpr}
    {late : List LateFault} (h : IsSignature ts params ret late) : ∃ op us cl rs,
      ts = op :: (us ++ cl :: rs) ∧ op.kind = .leftParen ∧
      Listed DerivesType us (params.map TypeExpr.bare) ∧ cl.kind = .rightParen ∧
      Marked DerivesType .arrow rs (ret.map TypeExpr.bare) := by
  match h with
  -- the reader closes the parameters first, the grammar takes them as a list
  | .unit ho hts =>
    obtain ⟨us, cl, rfl, hcl, hlist⟩ := hts.derives
    exact ⟨_, us, cl, [], rfl, ho, hlist, hcl, .absent⟩
  | .ret ho hts ha ht =>
    obtain ⟨us, cl, rfl, hcl, hlist⟩ := hts.derives
    refine ⟨_, us, cl, _, ?_, ho, hlist, hcl, .present ha ht.derives⟩
    rw [List.append_assoc, List.cons_append, List.nil_append]

/-- The types up to a parenthesis that are read can be derived. -/
theorem IsTypesClosing.derives {ts : List Token} {types : List TypeExpr} {late : List LateFault}
    (h : IsTypesClosing ts types late) :
    Closed .rightParen DerivesType ts (types.map TypeExpr.bare) := by
  match h with
  | .nil hc => exact .nil hc
  | .last ht hc => exact .last ht.derives hc
  | .cons ht hc hts => exact .cons ht.derives hc hts.derives

/-- Type arguments that are read can be derived: there is one at least, and no trailing comma. -/
theorem IsTypeArgs.derives {ts : List Token} {types : List TypeExpr} {late : List LateFault}
    (h : IsTypeArgs ts types late) : ∃ us cl, ts = us ++ [cl] ∧ cl.kind = .greater ∧
      Separated DerivesType us (types.map TypeExpr.bare) := by
  match h with
  | .last ht hc => exact ⟨_, _, rfl, hc, .one ht.derives⟩
  | .cons ht hc hts =>
    obtain ⟨us, cl, rfl, hcl, hs⟩ := hts.derives
    refine ⟨_, cl, ?_, hcl, .more ht.derives hc hs⟩
    rw [List.append_assoc, List.cons_append]

end

/-- A type behind a mark that is read, if there is one, can be derived. -/
theorem IsOptionalType.derives {k : TokenKind} {t : Option TypeExpr}
    (h : IsOptionalType k ts t late) : Marked DerivesType k ts (t.map TypeExpr.bare) := by
  cases h with
  | absent => exact .absent
  | present hk ht => exact .present hk ht.derives

/-- The parts of a tuple pattern, read one by one, derive the tuple. -/
theorem DerivesPattern.closed {op comma : Token} {first : Pattern} {others : List Pattern}
    (ho : op.kind = .leftParen) (h : DerivesPattern ts first) (hc : comma.kind = .comma)
    (hs : Closed .rightParen DerivesPattern us others) :
    DerivesPattern (op :: (ts ++ comma :: us)) (.tuple {} (first :: others)) := by
  obtain ⟨cl, rfl, rfl, hcl⟩ | ⟨vs, cs, cl, trailing, rfl, hvs, htrailing, hcl⟩ := hs.split
  · exact .single ho h hc hcl
  · exact .tuple ho h hc hvs htrailing hcl

mutual

/-- **A pattern that is read** can be derived. -/
theorem IsPattern.derives {ts : List Token} {p : Pattern} (h : IsPattern ts p) :
    DerivesPattern ts p.bare := by
  match h with
  | .mutBinding hw hn => exact .binding (.present hw) hn
  | .binding hn => exact .binding .absent hn
  | .wildcard hk => exact .wildcard hk
  | .ref hk hp => exact .ref hk hp.derives
  | .tuple ho hp hc hps =>
    rw [Pattern.bare, Pattern.bareAll_eq_map]
    exact .closed ho hp.derives hc hps.derives
  | .paren ho hp hc => exact .paren ho hp.derives hc

/-- The patterns up to a parenthesis that are read can be derived. -/
theorem IsPatternsClosing.derives {ts : List Token} {ps : List Pattern}
    (h : IsPatternsClosing ts ps) :
    Closed .rightParen DerivesPattern ts (ps.map Pattern.bare) := by
  match h with
  | .nil hc => exact .nil hc
  | .last hp hc => exact .last hp.derives hc
  | .cons hp hc hps => exact .cons hp.derives hc hps.derives

end

/-- A parameter of a closure that is read can be derived. -/
theorem IsClosureParam.derives {p : ClosureParam} (h : IsClosureParam ts p late) :
    DerivesClosureParam ts p.bare := by
  cases h with
  | mk hp ht => exact .mk hp.derives ht.derives

/-- The parameters of a closure that are read can be derived. -/
theorem IsClosureParams.derives {ps : List ClosureParam} (h : IsClosureParams ts ps late) :
    Closed .bar DerivesClosureParam ts (ps.map ClosureParam.bare) := by
  induction h with
  | nil hc => exact .nil hc
  | last hp hc => exact .last hp.derives hc
  | cons hp hc _ ih => exact .cons hp.derives hc ih

variable {methods : Bool}

mutual

/-- **An expression that is read** can be derived, in either reading. -/
theorem IsExpr.derives {ts : List Token} {e : Expr} {late : List LateFault}
    (h : IsExpr ts e late) : DerivesExpr methods ts e.bare := by
  match h with
  | .closure hk hp hr hb =>
    obtain ⟨us, cl, rfl, hcl, hparams⟩ := hp.derives
    rw [List.append_assoc, List.cons_append, List.nil_append]
    exact .closure hk hparams hcl hr.derives hb.derives
  | .unary hu => exact .unary hu.derives

/-- An expression below prefix operators that is read can be derived. -/
theorem IsUnary.derives {ts : List Token} {e : Expr} {late : List LateFault}
    (h : IsUnary ts e late) : DerivesUnary methods ts e.bare := by
  match h with
  | .borrow hk hm hu => exact .borrow hk hm hu.derives
  | .deref hk hu => exact .deref hk hu.derives
  | .chain hp => exact .chain hp.derives

/-- A chain that is read can be derived, and is never called where it ends with a bare field. -/
theorem IsPostfix.derives {bare : Bool} {ts : List Token} {e : Expr} {late : List LateFault}
    (h : IsPostfix bare ts e late) : DerivesPostfix methods bare ts e.bare := by
  match h with
  | .atom ha => exact .atom ha.derives
  -- a chain that is called does not end with a bare field, so the rule for calls applies in either
  -- reading
  | .call hp ho hargs =>
    obtain ⟨us, cl, rfl, hcl, hlist⟩ := hargs.derives
    rw [Expr.bare, Expr.bareAll_eq_map]
    exact .call hp.derives (fun _ => rfl) ho hlist hcl
  | .methodCall hp hd hn ho hargs =>
    obtain ⟨us, cl, rfl, hcl, hlist⟩ := hargs.derives
    rw [Expr.bare, Expr.bareAll_eq_map]
    exact .methodCall hp.derives hd hn ho hlist hcl
  | .field hp hd hn => exact .field hp.derives hd hn

/-- An atom that is read can be derived. -/
theorem IsAtom.derives {ts : List Token} {e : Expr} {late : List LateFault}
    (h : IsAtom ts e late) : DerivesAtom methods ts e.bare := by
  match h with
  | .path hp => exact .path hp
  | .selfWord hk => exact .selfWord hk
  | .int hk => exact .int hk
  | .string hk => exact .string hk
  | .macroCall hn hb ho he hc => exact .macroCall hn hb ho he.derives hc
  | .paren ho he hc => exact .paren ho he.derives hc

/-- Arguments that are read can be derived. -/
theorem IsArgs.derives {ts : List Token} {es : List Expr} {late : List LateFault}
    (h : IsArgs ts es late) :
    Closed .rightParen (DerivesExpr methods) ts (es.map Expr.bare) := by
  match h with
  | .nil hc => exact .nil hc
  | .last he hc => exact .last he.derives hc
  | .cons he hc hes => exact .cons he.derives hc hes.derives

end

/-- A statement that is read can be derived. -/
theorem IsStmt.derives {s : Stmt} (h : IsStmt ts s late) : DerivesStmt methods ts s.bare := by
  cases h with
  | letStmt hw hm hn ht he hv hs => exact .letStmt hw hm hn ht.derives he hv.derives hs
  | exprStmt he hs => exact .exprStmt he.derives hs

/-- The statements up to a brace that are read can be derived. -/
theorem IsStmts.derives {ss : List Stmt} (h : IsStmts ts ss late) :
    ∃ us cl, ts = us ++ [cl] ∧ cl.kind = .rightBrace ∧
      Repeated (DerivesStmt methods) us (ss.map Stmt.bare) := by
  induction h with
  | nil hc => exact ⟨[], _, rfl, hc, .nil⟩
  | cons hs _ ih =>
    obtain ⟨us, cl, rfl, hcl, hss⟩ := ih
    exact ⟨_, cl, (List.append_assoc ..).symm, hcl, .cons hs.derives hss⟩

/-- A parameter that is read can be derived. -/
theorem IsParam.derives {p : WrittenParam} (h : IsParam ts p late) : DerivesParam ts p.bare := by
  cases h with
  | value hm hw => exact .value hm hw
  | @ref _ _ _ isMut hk hm hw => cases isMut <;> exact .ref hk hm hw
  | typed hw hc ht => exact .typed hw hc ht.derives
  | named hn hc ht => exact .named hn hc ht.derives

/-- Parameters that are read can be derived; where `self` stands makes no difference to that. -/
theorem IsParams.derives {inMethod : Bool} {index : Nat} {ps : List WrittenParam}
    (h : IsParams inMethod index ts ps late) :
    Closed .rightParen DerivesParam ts (ps.map WrittenParam.bare) := by
  induction h with
  | nil hc => exact .nil hc
  | last hp hc => exact .last hp.derives hc
  | cons hp hc _ ih => exact .cons hp.derives hc ih

/-- What is read behind the head of a function can be derived. -/
theorem IsTail.derives {body : Option (List Stmt)} (h : IsTail ts body late) :
    DerivesTail methods ts (body.map fun stmts => stmts.map Stmt.bare) := by
  cases h with
  | none hs => exact .none hs
  | body ho hs =>
    obtain ⟨us, cl, rfl, hcl, hss⟩ := hs.derives
    exact .block ho hss hcl

/-- The receiver among parameters without positions. -/
theorem receiverOf_bare (ps : List WrittenParam) :
    receiverOf (ps.map WrittenParam.bare) = (receiverOf ps).map Receiver.bare := by
  induction ps with
  | nil => rfl
  | cons p ps ih =>
    cases p with
    | named p => exact ih
    | receiver r => rfl

/-- The parameters with names among parameters without positions. -/
theorem namedOf_bare (ps : List WrittenParam) :
    namedOf (ps.map WrittenParam.bare) = (namedOf ps).map Param.bare := by
  induction ps with
  | nil => rfl
  | cons p ps ih =>
    cases p with
    | named p => exact congrArg (p.bare :: ·) ih
    | receiver r => exact ih

/-- **A function that is read** can be derived. -/
theorem IsFunction.derives {inMethod : Bool} {f : FunctionDef}
    (h : IsFunction inMethod ts f late) : DerivesFunction methods ts f.bare := by
  cases h with
  | mk hu hf hpath ho hparams hr hb =>
    obtain ⟨us, cl, rfl, hcl, hlist⟩ := hparams.derives
    rw [FunctionDef.bare, ← receiverOf_bare, ← namedOf_bare, List.append_assoc, List.cons_append,
      List.nil_append]
    exact .mk hu hf hpath ho hlist hcl hr.derives hb.derives

/-- The methods up to a brace that are read can be derived. -/
theorem IsMethods.derives {fs : List FunctionDef} (h : IsMethods ts fs late) :
    ∃ us cl, ts = us ++ [cl] ∧ cl.kind = .rightBrace ∧
      Repeated (DerivesFunction methods) us (fs.map FunctionDef.bare) := by
  induction h with
  | nil hc => exact ⟨[], _, rfl, hc, .nil⟩
  | cons hf _ ih =>
    obtain ⟨us, cl, rfl, hcl, hfs⟩ := ih
    exact ⟨_, cl, (List.append_assoc ..).symm, hcl, .cons hf.derives hfs⟩

/-- **An item that is read** can be derived. -/
theorem IsItem.derives {i : Item} (h : IsItem ts i late) : DerivesItem methods ts i.bare := by
  cases h with
  | structDef hw hp hr hs => exact .structDef hw hp hr.derives hs
  -- methods are read up to the brace, and derived as a row with the brace behind it
  | traitDef hw hp ho hms =>
    obtain ⟨us, cl, rfl, hcl, hfs⟩ := hms.derives
    exact .traitDef hw hp ho hfs hcl
  | inherentImpl hw ht ho hms =>
    obtain ⟨us, cl, rfl, hcl, hfs⟩ := hms.derives
    exact .inherentImpl hw ht.derives ho hfs hcl
  | traitImpl hw hp hf ht ho hms =>
    obtain ⟨us, cl, rfl, hcl, hfs⟩ := hms.derives
    exact .traitImpl hw hp hf ht.derives ho hfs hcl
  | function hf => exact .function hf.derives

/-- **A text that is read** can be derived, in either reading. -/
theorem IsItems.derives {items : List Item} (h : IsItems ts items late) :
    DerivesItems methods ts (items.map Item.bare) := by
  induction h with
  | nil => exact .nil
  | cons hi _ ih => exact .cons hi.derives ih

end

/-! ### What can be derived is read -/

section

variable {α β : Type} {R : List Token → α → Prop} {S : List Token → β → Prop} {f : β → α}
  {C : List Token → List α → Prop} {k : TokenKind} {ts us : List Token} {as : List α} {P : Prop}

/-- Elements with commas between them are replaced by others one by one. -/
theorem Separated.map (h : Separated R ts as)
    (hR : ∀ ts a, R ts a → ∃ b, S ts b ∧ (P → f b = a)) :
    ∃ bs, Separated S ts bs ∧ (P → bs.map f = as) := by
  induction h with
  | one ha =>
    obtain ⟨b, hb, he⟩ := hR _ _ ha
    exact ⟨[b], .one hb, fun h => List.singleton_inj.mpr (he h)⟩
  | more ha hc _ ih =>
    obtain ⟨b, hb, he⟩ := hR _ _ ha
    obtain ⟨bs, hbs, hes⟩ := ih
    exact ⟨b :: bs, .more hb hc hbs, fun h => List.cons_eq_cons.mpr ⟨he h, hes h⟩⟩

/-- Elements of a list are replaced by others one by one. -/
theorem Listed.map (h : Listed R ts as) (hR : ∀ ts a, R ts a → ∃ b, S ts b ∧ (P → f b = a)) :
    ∃ bs, Listed S ts bs ∧ (P → bs.map f = as) := by
  cases h with
  | empty => exact ⟨[], .empty, fun _ => rfl⟩
  | some hs htrailing =>
    obtain ⟨bs, hbs, he⟩ := hs.map hR
    exact ⟨bs, .some hbs htrailing, he⟩

/-- Elements in a row are replaced by others one by one. -/
theorem Repeated.map (h : Repeated R ts as)
    (hR : ∀ ts a, R ts a → ∃ b, S ts b ∧ (P → f b = a)) :
    ∃ bs, Repeated S ts bs ∧ (P → bs.map f = as) := by
  induction h with
  | nil => exact ⟨[], .nil, fun _ => rfl⟩
  | cons ha _ ih =>
    obtain ⟨b, hb, he⟩ := hR _ _ ha
    obtain ⟨bs, hbs, hes⟩ := ih
    exact ⟨b :: bs, .cons hb hbs, fun h => List.cons_eq_cons.mpr ⟨he h, hes h⟩⟩

/-- The lists `C` of `R` with commas between them end with a token of kind `k`. -/
structure ClosesLists (R : List Token → α → Prop) (C : List Token → List α → Prop) (k : TokenKind) :
    Prop where
  last : ∀ {cl : Token} {ts : List Token} {a : α}, R ts a → cl.kind = k → C (ts ++ [cl]) [a]
  cons : ∀ {comma : Token} {ts us : List Token} {a : α} {as : List α},
    R ts a → comma.kind = .comma → C us as → C (ts ++ comma :: us) (a :: as)

namespace ClosesLists

variable {cl : Token} (hC : ClosesLists R C k)

include hC

/-- A list without a trailing comma is closed. -/
theorem separated (h : Separated R ts as) (hk : cl.kind = k) : C (ts ++ [cl]) as := by
  induction h with
  | one ha => exact hC.last ha hk
  | more ha hc _ ih =>
    rw [List.append_assoc, List.cons_append]
    exact hC.cons ha hc ih

/-- A list is closed behind a trailing comma as well. -/
theorem trailing {cs : List Token} {trailing : Bool} (hnil : ∀ {cl : Token}, cl.kind = k → C [cl] [])
    (h : Separated R ts as) (hcs : IsOptional .comma cs trailing) (hk : cl.kind = k) :
    C (ts ++ (cs ++ [cl])) as := by
  cases hcs with
  | absent => exact hC.separated h hk
  | present hcomma =>
    induction h with
    | one ha => exact hC.cons ha hcomma (hnil hk)
    | more ha hc _ ih =>
      rw [List.append_assoc, List.cons_append]
      exact hC.cons ha hc ih

/-- A list is closed, with elements or without. -/
theorem listed (hnil : ∀ {cl : Token}, cl.kind = k → C [cl] []) (h : Listed R ts as)
    (hk : cl.kind = k) : C (ts ++ [cl]) as := by
  cases h with
  | empty => exact hnil hk
  | some hs hcs =>
    rw [List.append_assoc]
    exact hC.trailing hnil hs hcs hk

end ClosesLists

/-- `R` holds with some late faults. -/
def Faulty (R : List Token → α → List LateFault → Prop) (ts : List Token) (a : α) : Prop :=
  ∃ late, R ts a late

end

section

variable {ts us rs : List Token} {late : List LateFault} {cl : Token}

/-- Types are read one by one up to a parenthesis. -/
theorem types_closesLists : ClosesLists (Faulty IsType) (Faulty IsTypesClosing) .rightParen where
  last := fun ⟨_, h⟩ hk => ⟨_, .last h hk⟩
  cons := fun ⟨_, h⟩ hc ⟨_, hs⟩ => ⟨_, .cons h hc hs⟩

/-- Type arguments are read one by one up to `>`. -/
theorem typeArgs_closesLists : ClosesLists (Faulty IsType) (Faulty IsTypeArgs) .greater where
  last := fun ⟨_, h⟩ hk => ⟨_, .last h hk⟩
  cons := fun ⟨_, h⟩ hc ⟨_, hs⟩ => ⟨_, .cons h hc hs⟩

/-- A function type whose parameters and result are read is read. -/
theorem fnPtr_accepted {fn op : Token} {isUnsafe : Bool} {params : List TypeExpr}
    {ret : Option TypeExpr} (hu : IsOptional .unsafeWord us isUnsafe) (hf : fn.kind = .fnWord)
    (ho : op.kind = .leftParen) (hps : Listed (Faulty IsType) ts params)
    (hc : cl.kind = .rightParen) (hr : Marked (Faulty IsType) .arrow rs ret) :
    ∃ l, Faulty IsType (us ++ fn :: op :: (ts ++ cl :: rs)) (.fnPtr l isUnsafe params ret) := by
  obtain ⟨late, hps⟩ := types_closesLists.listed (fun hk => ⟨[], .nil hk⟩) hps hc
  have hsignature : ∃ late', IsSignature (op :: (ts ++ cl :: rs)) params ret late' := by
    -- with a result or without one, the reader closes the parameters in the same way
    cases hr with
    | absent => exact ⟨_, .unit ho hps⟩
    | present ha ht =>
      obtain ⟨late', ht⟩ := ht
      rw [List.append_cons]
      exact ⟨_, .ret ho hps ha ht⟩
  obtain ⟨late', hs⟩ := hsignature
  -- and the word `unsafe` decides which of two rules reads the type
  cases hu with
  | absent => exact ⟨_, _, .fnPtr hf hs⟩
  | present hw => exact ⟨_, _, .unsafeFnPtr hw hf hs⟩

mutual

/-- **A type that can be derived** is read, as the same tree up to positions. -/
theorem DerivesType.accepted {ts : List Token} {t : TypeExpr} (h : DerivesType ts t) :
    ∃ t', Faulty IsType ts t' ∧ t'.bare = t := by
  match h with
  | .ref hk hm ht =>
    obtain ⟨_, ⟨_, ht'⟩, rfl⟩ := ht.accepted
    exact ⟨_, ⟨_, .ref hk hm ht'⟩, rfl⟩
  | .array ho ht hs hn hc =>
    obtain ⟨_, ⟨_, ht'⟩, rfl⟩ := ht.accepted
    exact ⟨_, ⟨_, .array ho ht' hs hn hc⟩, rfl⟩
  | .slice ho ht hc =>
    obtain ⟨_, ⟨_, ht'⟩, rfl⟩ := ht.accepted
    exact ⟨_, ⟨_, .slice ho ht' hc⟩, rfl⟩
  -- the induction gives the parts as read trees, and the reader's rules put these together
  | .fnPtr hu hf ho hps hc hr =>
    obtain ⟨_, hps', rfl⟩ := hps.acceptedTypes
    obtain ⟨_, hr', rfl⟩ := hr.acceptedResult
    obtain ⟨l, ht⟩ := fnPtr_accepted hu hf ho hps' hc hr'
    exact ⟨_, ht, TypeExpr.bare_function ..⟩
  | .unit ho hc => exact ⟨_, ⟨_, .unit ho hc⟩, rfl⟩
  -- a tuple of one is a list that ends behind its first comma
  | .single ho ht hk hc =>
    obtain ⟨_, ⟨_, ht'⟩, rfl⟩ := ht.accepted
    exact ⟨_, ⟨_, .tuple ho ht' hk (.nil hc)⟩, rfl⟩
  | .tuple ho ht hk hs hcs hc =>
    obtain ⟨_, ⟨_, ht'⟩, rfl⟩ := ht.accepted
    obtain ⟨_, hs', rfl⟩ := hs.acceptedTypes
    obtain ⟨_, hs'⟩ := types_closesLists.trailing (fun hk => ⟨[], .nil hk⟩) hs' hcs hc
    exact ⟨_, ⟨_, .tuple ho ht' hk hs'⟩, TypeExpr.bare_tuple ..⟩
  | .paren ho ht hc =>
    obtain ⟨_, ⟨_, ht'⟩, rfl⟩ := ht.accepted
    exact ⟨_, ⟨_, .paren ho ht' hc⟩, rfl⟩
  | .named hp => exact ⟨_, ⟨_, .named hp⟩, rfl⟩
  | .generic hp hl hs hc =>
    obtain ⟨_, hs', rfl⟩ := hs.acceptedTypes
    obtain ⟨_, hs'⟩ := typeArgs_closesLists.separated hs' hc
    exact ⟨_, ⟨_, .generic hp hl hs'⟩, TypeExpr.bare_named ..⟩

/-- Types with commas between them that can be derived are read. -/
theorem Separated.acceptedTypes {ts : List Token} {types : List TypeExpr}
    (h : Separated DerivesType ts types) :
    ∃ types', Separated (Faulty IsType) ts types' ∧ types'.map TypeExpr.bare = types := by
  match h with
  | .one ht =>
    obtain ⟨t, ht', rfl⟩ := ht.accepted
    exact ⟨[t], .one ht', rfl⟩
  | .more ht hc hs =>
    obtain ⟨t, ht', rfl⟩ := ht.accepted
    obtain ⟨types, hs', rfl⟩ := hs.acceptedTypes
    exact ⟨t :: types, .more ht' hc hs', rfl⟩

/-- A list of types that can be derived is read. -/
theorem Listed.acceptedTypes {ts : List Token} {types : List TypeExpr}
    (h : Listed DerivesType ts types) :
    ∃ types', Listed (Faulty IsType) ts types' ∧ types'.map TypeExpr.bare = types := by
  match h with
  | .empty => exact ⟨[], .empty, rfl⟩
  | .some hs hcs =>
    obtain ⟨types, hs', rfl⟩ := hs.acceptedTypes
    exact ⟨types, .some hs' hcs, rfl⟩

/-- A result type that can be derived is read, if there is one. -/
theorem Marked.acceptedResult {ts : List Token} {t : Option TypeExpr}
    (h : Marked DerivesType .arrow ts t) :
    ∃ t', Marked (Faulty IsType) .arrow ts t' ∧ t'.map TypeExpr.bare = t := by
  match h with
  | .absent => exact ⟨none, .absent, rfl⟩
  | .present hk ht =>
    obtain ⟨t, ht', rfl⟩ := ht.accepted
    exact ⟨some t, .present hk ht', rfl⟩

end

/-- An optional type that can be derived is read. -/
theorem Marked.acceptedType {k : TokenKind} {t : Option TypeExpr} (h : Marked DerivesType k ts t) :
    ∃ t', Faulty (IsOptionalType k) ts t' ∧ t'.map TypeExpr.bare = t := by
  cases h with
  | absent => exact ⟨none, ⟨[], .absent⟩, rfl⟩
  | present hk ht =>
    obtain ⟨t, ⟨late, ht'⟩, rfl⟩ := ht.accepted
    exact ⟨some t, ⟨late, .present hk ht'⟩, rfl⟩

/-- Patterns are read one by one up to a parenthesis. -/
theorem patterns_closesLists : ClosesLists IsPattern IsPatternsClosing .rightParen := ⟨.last, .cons⟩

mutual

/-- **A pattern that can be derived** is read, as the same tree up to positions. -/
theorem DerivesPattern.accepted {ts : List Token} {p : Pattern} (h : DerivesPattern ts p) :
    ∃ p', IsPattern ts p' ∧ p'.bare = p := by
  match h with
  -- whether `mut` is written decides which rule of the reader applies
  | .binding .absent hn => exact ⟨_, .binding hn, rfl⟩
  | .binding (.present hw) hn => exact ⟨_, .mutBinding hw hn, rfl⟩
  | .wildcard hk => exact ⟨_, .wildcard hk, rfl⟩
  | .ref hk hp =>
    obtain ⟨_, hp', rfl⟩ := hp.accepted
    exact ⟨_, .ref hk hp', rfl⟩
  | .paren ho hp hc =>
    obtain ⟨_, hp', rfl⟩ := hp.accepted
    exact ⟨_, .paren ho hp' hc, rfl⟩
  -- as with types, a tuple of one ends behind its first comma
  | .single ho hp hk hc =>
    obtain ⟨_, hp', rfl⟩ := hp.accepted
    exact ⟨_, .tuple ho hp' hk (.nil hc), rfl⟩
  | .tuple ho hp hk hs hcs hc =>
    obtain ⟨_, hp', rfl⟩ := hp.accepted
    obtain ⟨_, hs', rfl⟩ := hs.acceptedPatterns
    refine ⟨_, .tuple ho hp' hk (patterns_closesLists.trailing .nil hs' hcs hc), ?_⟩
    rw [Pattern.bare, Pattern.bareAll_eq_map, List.map_cons]

/-- Patterns with commas between them that can be derived are read. -/
theorem Separated.acceptedPatterns {ts : List Token} {ps : List Pattern}
    (h : Separated DerivesPattern ts ps) :
    ∃ ps', Separated IsPattern ts ps' ∧ ps'.map Pattern.bare = ps := by
  match h with
  | .one hp =>
    obtain ⟨p, hp', rfl⟩ := hp.accepted
    exact ⟨[p], .one hp', rfl⟩
  | .more hp hc hs =>
    obtain ⟨p, hp', rfl⟩ := hp.accepted
    obtain ⟨ps, hs', rfl⟩ := hs.acceptedPatterns
    exact ⟨p :: ps, .more hp' hc hs', rfl⟩

end

/-- A parameter of a closure that can be derived is read. -/
theorem DerivesClosureParam.accepted {p : ClosureParam} (h : DerivesClosureParam ts p) :
    ∃ p', Faulty IsClosureParam ts p' ∧ p'.bare = p := by
  cases h with
  | mk hp ht =>
    obtain ⟨_, hp', rfl⟩ := hp.accepted
    obtain ⟨_, ⟨_, ht'⟩, rfl⟩ := ht.acceptedType
    exact ⟨_, ⟨_, .mk hp' ht'⟩, rfl⟩

/-- The parameters of a closure are read one by one up to a bar. -/
theorem closureParams_closesLists : ClosesLists (Faulty IsClosureParam) (Faulty IsClosureParams) .bar where
  last := fun ⟨_, h⟩ hk => ⟨_, .last h hk⟩
  cons := fun ⟨_, h⟩ hc ⟨_, hs⟩ => ⟨_, .cons h hc hs⟩

/-- Arguments are read one by one up to a parenthesis. -/
theorem args_closesLists : ClosesLists (Faulty IsExpr) (Faulty IsArgs) .rightParen where
  last := fun ⟨_, h⟩ hk => ⟨_, .last h hk⟩
  cons := fun ⟨_, h⟩ hc ⟨_, hs⟩ => ⟨_, .cons h hc hs⟩

/-- A parenthesis behind a bare field belongs to a method call, and to a call behind all else. -/
theorem IsPostfix.called {bare : Bool} {op : Token} {callee : Expr} {args : List Expr}
    {late' : List LateFault} (h : IsPostfix bare ts callee late) (ho : op.kind = .leftParen)
    (hs : IsArgs us args late') : ∃ e, Faulty (IsPostfix false) (ts ++ op :: us) e ∧
      (bare = false → ∃ l, e = .call l callee args) := by
  cases bare with
  | false => exact ⟨_, ⟨_, .call h ho hs⟩, fun _ => ⟨_, rfl⟩⟩
  -- the only bare chain is one that ends with a field
  | true =>
    cases h with
    | field hp hd hn =>
      rw [List.append_assoc]
      exact ⟨_, ⟨_, .methodCall hp hd hn ho hs⟩, nofun⟩

variable {methods : Bool}

mutual

/-- **An expression that can be derived** is read, and as the same tree if every parenthesis behind
`.name` was taken for a method call. -/
theorem DerivesExpr.accepted {ts : List Token} {e : Expr} (h : DerivesExpr methods ts e) :
    ∃ e', Faulty IsExpr ts e' ∧ (methods = true → e'.bare = e) := by
  match h with
  | .closure hk hps hc hr hb =>
    obtain ⟨_, hps, hparams⟩ := hps.map fun _ _ h => h.accepted.imp fun _ h => h.imp_right fun h _ => h
    obtain ⟨_, hps⟩ := closureParams_closesLists.listed (fun hk => ⟨[], .nil hk⟩) hps hc
    obtain ⟨_, ⟨_, hr'⟩, rfl⟩ := hr.acceptedType
    obtain ⟨_, ⟨_, hb⟩, hbody⟩ := hb.accepted
    rw [List.append_cons]
    -- only the body can hold a call that the reader takes otherwise
    refine ⟨_, ⟨_, .closure hk hps hr' hb⟩, fun h => ?_⟩
    rw [Expr.bare, hbody h, hparams trivial]
  | .unary hu =>
    obtain ⟨_, ⟨_, hu⟩, he⟩ := hu.accepted
    exact ⟨_, ⟨_, .unary hu⟩, he⟩

/-- An expression below prefix operators that can be derived is read. -/
theorem DerivesUnary.accepted {ts : List Token} {e : Expr} (h : DerivesUnary methods ts e) :
    ∃ e', Faulty IsUnary ts e' ∧ (methods = true → e'.bare = e) := by
  match h with
  | .borrow hk hm hu =>
    obtain ⟨_, ⟨_, hu⟩, he⟩ := hu.accepted
    exact ⟨_, ⟨_, .borrow hk hm hu⟩, fun h => congrArg (Expr.borrow {} _) (he h)⟩
  | .deref hk hu =>
    obtain ⟨_, ⟨_, hu⟩, he⟩ := hu.accepted
    exact ⟨_, ⟨_, .deref hk hu⟩, fun h => congrArg (Expr.deref {}) (he h)⟩
  | .chain hp =>
    obtain ⟨_, ⟨_, hp⟩, he⟩ := hp.accepted
    exact ⟨_, ⟨_, .chain hp⟩, he⟩

/-- A chain that can be derived is read, though a call of a field becomes a method call. -/
theorem DerivesPostfix.accepted {bare : Bool} {ts : List Token} {e : Expr}
    (h : DerivesPostfix methods bare ts e) :
    ∃ e', Faulty (IsPostfix bare) ts e' ∧ (methods = true → e'.bare = e) := by
  match h with
  | .atom ha =>
    obtain ⟨_, ⟨_, ha⟩, he⟩ := ha.accepted
    exact ⟨_, ⟨_, .atom ha⟩, he⟩
  | .call hp hbare ho hargs hc =>
    obtain ⟨_, ⟨_, hp⟩, hcallee⟩ := hp.accepted
    obtain ⟨_, hs, hargs⟩ := hargs.acceptedExprs
    obtain ⟨_, hs⟩ := args_closesLists.listed (fun hk => ⟨[], .nil hk⟩) hs hc
    -- the reader may take the call for a method call, which the derivation did not where it is said to
    obtain ⟨_, hcall, hsame⟩ := hp.called ho hs
    refine ⟨_, hcall, fun h => ?_⟩
    obtain ⟨l, rfl⟩ := hsame (hbare h)
    rw [Expr.bare, Expr.bareAll_eq_map, hcallee h, hargs h]
  | .methodCall hp hd hn ho hargs hc =>
    obtain ⟨_, ⟨_, hp⟩, hreceiver⟩ := hp.accepted
    obtain ⟨_, hs, hargs⟩ := hargs.acceptedExprs
    obtain ⟨_, hs⟩ := args_closesLists.listed (fun hk => ⟨[], .nil hk⟩) hs hc
    refine ⟨_, ⟨_, .methodCall hp hd hn ho hs⟩, fun h => ?_⟩
    rw [Expr.bare, Expr.bareAll_eq_map, hreceiver h, hargs h]
  | .field hp hd hn =>
    obtain ⟨_, ⟨_, hp⟩, he⟩ := hp.accepted
    exact ⟨_, ⟨_, .field hp hd hn⟩, fun h => congrArg (Expr.field {} · _) (he h)⟩

/-- An atom that can be derived is read. -/
theorem DerivesAtom.accepted {ts : List Token} {e : Expr} (h : DerivesAtom methods ts e) :
    ∃ e', Faulty IsAtom ts e' ∧ (methods = true → e'.bare = e) := by
  match h with
  | .path hp => exact ⟨_, ⟨_, .path hp⟩, fun _ => rfl⟩
  | .selfWord hk => exact ⟨_, ⟨_, .selfWord hk⟩, fun _ => rfl⟩
  | .int hk => exact ⟨_, ⟨_, .int hk⟩, fun _ => rfl⟩
  | .string hk => exact ⟨_, ⟨_, .string hk⟩, fun _ => rfl⟩
  | .macroCall hn hb ho he hc =>
    obtain ⟨_, ⟨_, he⟩, hsame⟩ := he.accepted
    exact ⟨_, ⟨_, .macroCall hn hb ho he hc⟩, fun h => congrArg (Expr.macroCall {} _) (hsame h)⟩
  | .paren ho he hc =>
    obtain ⟨_, ⟨_, he⟩, hsame⟩ := he.accepted
    exact ⟨_, ⟨_, .paren ho he hc⟩, hsame⟩

/-- Expressions with commas between them that can be derived are read. -/
theorem Separated.acceptedExprs {ts : List Token} {es : List Expr}
    (h : Separated (DerivesExpr methods) ts es) :
    ∃ es', Separated (Faulty IsExpr) ts es' ∧ (methods = true → es'.map Expr.bare = es) := by
  match h with
  | .one he =>
    obtain ⟨e, he, hsame⟩ := he.accepted
    exact ⟨[e], .one he, fun h => List.singleton_inj.mpr (hsame h)⟩
  | .more he hc hs =>
    obtain ⟨e, he, hsame⟩ := he.accepted
    obtain ⟨es, hs, hall⟩ := hs.acceptedExprs
    exact ⟨e :: es, .more he hc hs, fun h => List.cons_eq_cons.mpr ⟨hsame h, hall h⟩⟩

/-- A list of expressions that can be derived is read. -/
theorem Listed.acceptedExprs {ts : List Token} {es : List Expr}
    (h : Listed (DerivesExpr methods) ts es) :
    ∃ es', Listed (Faulty IsExpr) ts es' ∧ (methods = true → es'.map Expr.bare = es) := by
  match h with
  | .empty => exact ⟨[], .empty, fun _ => rfl⟩
  | .some hs hcs =>
    obtain ⟨es, hs, hall⟩ := hs.acceptedExprs
    exact ⟨es, .some hs hcs, hall⟩

end

/-- A statement that can be derived is read. -/
theorem DerivesStmt.accepted {s : Stmt} (h : DerivesStmt methods ts s) :
    ∃ s', Faulty IsStmt ts s' ∧ (methods = true → s'.bare = s) := by
  cases h with
  | letStmt hw hm hn ht he hv hs =>
    obtain ⟨_, ⟨_, ht'⟩, rfl⟩ := ht.acceptedType
    obtain ⟨_, ⟨_, hv⟩, hvalue⟩ := hv.accepted
    exact ⟨_, ⟨_, .letStmt hw hm hn ht' he hv hs⟩, fun h => by rw [Stmt.bare, hvalue h]⟩
  | exprStmt he hs =>
    obtain ⟨_, ⟨_, he⟩, hsame⟩ := he.accepted
    exact ⟨_, ⟨_, .exprStmt he hs⟩, fun h => congrArg (Stmt.exprStmt {}) (hsame h)⟩

/-- Statements that are read, with a closing brace behind them. -/
theorem Repeated.isStmts {ss : List Stmt} (h : Repeated (Faulty IsStmt) ts ss)
    (hc : cl.kind = .rightBrace) : Faulty IsStmts (ts ++ [cl]) ss := by
  induction h with
  | nil => exact ⟨_, .nil hc⟩
  | cons hs _ ih =>
    obtain ⟨_, hs⟩ := hs
    obtain ⟨_, hss⟩ := ih
    rw [List.append_assoc]
    exact ⟨_, .cons hs hss⟩

/-- What is derived behind the head of a function is read. -/
theorem DerivesTail.accepted {body : Option (List Stmt)} (h : DerivesTail methods ts body) :
    ∃ body', Faulty IsTail ts body' ∧
      (methods = true → body'.map (fun stmts => stmts.map Stmt.bare) = body) := by
  cases h with
  | none hs => exact ⟨_, ⟨_, .none hs⟩, fun _ => rfl⟩
  | block ho hs hc =>
    obtain ⟨_, hs, hsame⟩ := hs.map fun _ _ h => h.accepted
    obtain ⟨_, hs⟩ := hs.isStmts hc
    exact ⟨_, ⟨_, .body ho hs⟩, fun h => congrArg some (hsame h)⟩

/-- A parameter that can be derived is read. -/
theorem DerivesParam.accepted {p : WrittenParam} (h : DerivesParam ts p) :
    ∃ p', Faulty IsParam ts p' ∧ p'.bare = p := by
  cases h with
  | value hm hw => exact ⟨_, ⟨_, .value hm hw⟩, rfl⟩
  | @ref _ _ _ isMut hk hm hw => exact ⟨_, ⟨_, .ref hk hm hw⟩, by cases isMut <;> rfl⟩
  | typed hw hc ht =>
    obtain ⟨_, ⟨_, ht'⟩, rfl⟩ := ht.accepted
    exact ⟨_, ⟨_, .typed hw hc ht'⟩, rfl⟩
  | named hn hc ht =>
    obtain ⟨_, ⟨_, ht'⟩, rfl⟩ := ht.accepted
    exact ⟨_, ⟨_, .named hn hc ht'⟩, rfl⟩

/-- Parameters are read at whatever place. -/
theorem params_closesLists (inMethod : Bool) : ClosesLists (Faulty IsParam)
    (fun ts ps => ∀ index, Faulty (IsParams inMethod index) ts ps) .rightParen where
  last := fun ⟨_, h⟩ hk _ => ⟨_, .last h hk⟩
  cons := fun ⟨_, h⟩ hc hs index => (hs (index + 1)).imp' _ fun _ hs => .cons h hc hs

/-- **A function that can be derived** is read, inside an item or outside. -/
theorem DerivesFunction.accepted {f : FunctionDef} (inMethod : Bool)
    (h : DerivesFunction methods ts f) :
    ∃ f', Faulty (IsFunction inMethod) ts f' ∧ (methods = true → f'.bare = f) := by
  cases h with
  | @mk _ _ _ _ _ ps _ _ _ _ _ _ _ hu hf hpath ho hps hc hr hb =>
    -- parameters have one tree in either reading
    obtain ⟨_, hps, hparams⟩ := hps.map (P := True) fun _ _ h => by simpa using h.accepted
    obtain ⟨_, hps⟩ := (params_closesLists inMethod).listed (fun hk _ => ⟨[], .nil hk⟩) hps hc 0
    obtain ⟨_, ⟨_, hr'⟩, rfl⟩ := hr.acceptedType
    obtain ⟨_, ⟨_, hb⟩, hbody⟩ := hb.accepted
    rw [List.append_cons ps]
    refine ⟨_, ⟨_, .mk hu hf hpath ho hps hr' hb⟩, fun h => ?_⟩
    rw [FunctionDef.bare, hbody h, ← hparams trivial, receiverOf_bare, namedOf_bare]

/-- Methods that are read, with a closing brace behind them. -/
theorem Repeated.isMethods {fs : List FunctionDef} (h : Repeated (Faulty (IsFunction true)) ts fs)
    (hc : cl.kind = .rightBrace) : Faulty IsMethods (ts ++ [cl]) fs := by
  induction h with
  | nil => exact ⟨_, .nil hc⟩
  | cons hf _ ih =>
    obtain ⟨_, hf⟩ := hf
    obtain ⟨_, hfs⟩ := ih
    rw [List.append_assoc]
    exact ⟨_, .cons hf hfs⟩

/-- Methods that can be derived are read. -/
theorem Repeated.acceptedMethods {fs : List FunctionDef}
    (h : Repeated (DerivesFunction methods) ts fs) (hc : cl.kind = .rightBrace) :
    ∃ fs', Faulty IsMethods (ts ++ [cl]) fs' ∧ (methods = true → fs'.map FunctionDef.bare = fs) := by
  obtain ⟨fs', hfs, hsame⟩ := h.map fun _ _ h => h.accepted true
  exact ⟨fs', hfs.isMethods hc, hsame⟩

/-- **An item that can be derived** is read. -/
theorem DerivesItem.accepted {i : Item} (h : DerivesItem methods ts i) :
    ∃ i', Faulty IsItem ts i' ∧ (methods = true → i'.bare = i) := by
  cases h with
  | structDef hw hp hr hs =>
    obtain ⟨_, ⟨_, hr'⟩, rfl⟩ := hr.acceptedType
    exact ⟨_, ⟨_, .structDef hw hp hr' hs⟩, fun _ => rfl⟩
  -- in every block the methods are accepted together, and give the same trees under the same condition
  | traitDef hw hp ho hms hc =>
    obtain ⟨_, ⟨_, hms⟩, hsame⟩ := hms.acceptedMethods hc
    exact ⟨_, ⟨_, .traitDef hw hp ho hms⟩, fun h => by rw [Item.bare, hsame h]⟩
  | inherentImpl hw ht ho hms hc =>
    obtain ⟨_, ⟨_, ht'⟩, rfl⟩ := ht.accepted
    obtain ⟨_, ⟨_, hms⟩, hsame⟩ := hms.acceptedMethods hc
    exact ⟨_, ⟨_, .inherentImpl hw ht' ho hms⟩, fun h => by rw [Item.bare, hsame h]⟩
  | traitImpl hw hp hf ht ho hms hc =>
    obtain ⟨_, ⟨_, ht'⟩, rfl⟩ := ht.accepted
    obtain ⟨_, ⟨_, hms⟩, hsame⟩ := hms.acceptedMethods hc
    exact ⟨_, ⟨_, .traitImpl hw hp hf ht' ho hms⟩, fun h => by rw [Item.bare, hsame h]⟩
  | function hf =>
    obtain ⟨_, ⟨_, hf⟩, hsame⟩ := hf.accepted false
    exact ⟨_, ⟨_, .function hf⟩, fun h => congrArg Item.function (hsame h)⟩

/-- Items that are read one by one are read as a program. -/
theorem Repeated.isItems {items : List Item} (h : Repeated (Faulty IsItem) ts items) :
    Faulty IsItems ts items := by
  induction h with
  | nil => exact ⟨_, .nil⟩
  | cons hi _ ih =>
    obtain ⟨_, hi⟩ := hi
    obtain ⟨_, his⟩ := ih
    exact ⟨_, .cons hi his⟩

/-- **A text that can be derived** is read, and as the same tree if every parenthesis behind `.name`
was taken for a method call. -/
theorem DerivesItems.accepted {items : List Item} (h : DerivesItems methods ts items) :
    ∃ items', Faulty IsItems ts items' ∧ (methods = true → items'.map Item.bare = items) := by
  obtain ⟨items', hitems, hsame⟩ := Repeated.map h fun _ _ h => h.accepted
  exact ⟨items', hitems.isItems, hsame⟩

end

/-! ### The grammar -/

/-- **A text is read exactly if it can be derived**, and what is read then is the tree of every
derivation that takes each parenthesis behind `.name` for a method call: there is one such tree. Where
there is a derivation and yet no program, a late fault is the reason. -/
theorem readItems_iff_derives (ts : List Token) :
    ((∃ items late, readItems ts = .ok (items, late)) ↔ ∃ trees, DerivesItems false ts trees) ∧
    (∀ trees, DerivesItems true ts trees ↔
      ∃ items late, readItems ts = .ok (items, late) ∧ items.map Item.bare = trees) ∧
    (∀ trees, DerivesItems true ts trees →
      DerivesItems false ts trees ∧ ∀ others, DerivesItems true ts others → others = trees) ∧
    ∀ source, (∃ trees, DerivesItems false ts trees) ↔
      (∃ items, readItems ts = .ok (items, []) ∧
        ofLexed source ⟨ts, none⟩ = .ok (.ofItems source items)) ∨
      ∃ fault, ofLexed source ⟨ts, none⟩ = .error (.late fault) := by
  -- which reading the derivation takes does not matter for whether there is one
  have hread : ∀ {methods : Bool}, (∃ items late, readItems ts = .ok (items, late)) ↔
      ∃ trees, DerivesItems methods ts trees := by
    refine fun {methods} => ⟨fun ⟨items, late, h⟩ => ⟨_, (readItems_sound ts h).derives⟩, ?_⟩
    rintro ⟨trees, h⟩
    obtain ⟨items, ⟨late, hitems⟩, -⟩ := h.accepted
    exact ⟨items, late, readItems_complete hitems⟩
  have htree : ∀ trees, DerivesItems true ts trees ↔
      ∃ items late, readItems ts = .ok (items, late) ∧ items.map Item.bare = trees := by
    refine fun trees => ⟨fun h => ?_, ?_⟩
    · obtain ⟨items, ⟨late, hitems⟩, hsame⟩ := h.accepted
      exact ⟨items, late, readItems_complete hitems, hsame rfl⟩
    · rintro ⟨items, late, h, rfl⟩
      exact (readItems_sound ts h).derives
  -- a derivation that prefers method calls is one among all, and its tree is the one that is read
  refine ⟨hread, htree, fun trees h => ?_, fun source => ?_⟩
  · obtain ⟨items, late, hitems, rfl⟩ := (htree trees).mp h
    refine ⟨(readItems_sound ts hitems).derives, fun others hothers => ?_⟩
    -- both trees are what the one run of the reader gives
    obtain ⟨items', late', hitems', rfl⟩ := (htree others).mp hothers
    rw [(Prod.mk.inj (Except.ok.inj (hitems.symm.trans hitems'))).1]
  -- a program is given unless the reader noted a late fault
  · rw [← hread, ofLexed]
    constructor
    · rintro ⟨items, late, h⟩
      rw [h]
      cases late with
      | nil => exact .inl ⟨items, rfl, rfl⟩
      | cons fault late => exact .inr ⟨fault, rfl⟩
    · rintro (⟨items, h, -⟩ | ⟨fault, h⟩)
      · exact ⟨items, [], h⟩
      · cases hr : readItems ts with
        | ok r => exact ⟨r.1, r.2, rfl⟩
        | error rest =>
          rw [hr] at h
          cases rest <;> nomatch h

end ClosureLint.Syntax
