import ClosureLint.Proofs.Core.Relocated
import ClosureLint.Proofs.Grammar.Faces

/-!
# Other layouts of a text

A layout says where each token of a text stands. Tokens that are laid out anew form the construct that
they formed before, and every node of it goes where its first and its last token go.

* `Layout` — new places for tokens; `Layout.token` and `Layout.loc` for tokens and extents.
* `Layout.loc_extentOf` — the extent of tokens that are laid out anew.
* `IsType.relocate`, `IsExpr.relocate`, `IsItems.relocate` — the constructs that such tokens form.
-/

namespace ClosureLint.Syntax

/-- New places for the tokens of a text: where the token starts that started at an offset, and where
the token stops that stopped at one. -/
structure Layout where
  start : Int → Pos
  stop : Int → Pos

namespace Layout

variable (L : Layout)

/-- A token in its new place. -/
def token (t : Token) : Token :=
  { t with start := L.start t.start.offset, stop := L.stop t.stop.offset }

/-- An extent in its new place: from where its first token starts to where its last one stops. -/
def loc (l : Loc) : Loc := .between (L.start (l.startPos.getD 0)) (L.stop (l.endPos.getD 0))

variable {L}

/-- **Tokens that are laid out anew** take up the new place of what they took up. -/
theorem loc_extentOf {ts : List Token} (h : ts ≠ []) :
    L.loc (extentOf ts) = extentOf (ts.map L.token) := by
  obtain ⟨t, ts, rfl⟩ := List.exists_cons_of_ne_nil h
  -- the last token stops where the layout has its stop
  have hstop : stopOf ((t :: ts).map L.token) = L.stop (stopOf (t :: ts)).offset := by
    obtain ⟨u, hu⟩ := List.getLast?_isSome.mpr h |> Option.isSome_iff_exists.mp
    rw [stopOf, stopOf, List.getLast?_map, hu]
    rfl
  rw [extentOf, extentOf, hstop]
  rfl

end Layout

variable {L : Layout} {ts : List Token}

/-! ### Words, paths and types -/

/-- A word that may be missing is there, or is not, in any layout. -/
theorem IsOptional.relocate {k : TokenKind} {b : Bool} (h : IsOptional k ts b) :
    IsOptional k (ts.map L.token) b := by
  cases h with
  | absent => exact .absent
  | present hk => exact .present hk

/-- A path has tokens. -/
theorem IsPath.ne_nil {p : Path} (h : IsPath ts p) : ts ≠ [] := by
  cases h <;> exact List.cons_ne_nil _ _

/-- A path is the same path in any layout. -/
theorem IsPath.relocate {p : Path} (h : IsPath ts p) : IsPath (ts.map L.token) p := by
  induction h with
  | @single t hk => exact .single hk
  | @cons t colons _ _ hk hc _ ih => exact .cons hk hc ih

mutual

/-- **A type** in another layout stands where its tokens do. -/
theorem IsType.relocate {ts : List Token} {t : TypeExpr} {late : List LateFault}
    (h : IsType ts t late) : IsType (ts.map L.token) (t.relocate L.loc) late := by
  match h with
  -- kinds and texts of tokens are what they were, so each rule applies again, and its node goes where
  -- the tokens go
  | .ref hk hm ht =>
    rw [TypeExpr.relocate, Layout.loc_extentOf (List.cons_ne_nil _ _)]
    simp only [List.map_cons, List.map_append]
    exact .ref hk hm.relocate ht.relocate
  | .array hk ht hs hn hc =>
    rw [TypeExpr.relocate, Layout.loc_extentOf (List.cons_ne_nil _ _)]
    simp only [List.map_cons, List.map_append, List.map_nil]
    exact .array hk ht.relocate hs hn hc
  | .slice hk ht hc =>
    rw [TypeExpr.relocate, Layout.loc_extentOf (List.cons_ne_nil _ _)]
    simp only [List.map_cons, List.map_append, List.map_nil]
    exact .slice hk ht.relocate hc
  | .unit hk hc =>
    rw [TypeExpr.relocate, Layout.loc_extentOf (List.cons_ne_nil _ _)]
    exact .unit hk hc
  | .tuple hk ht hc hts =>
    rw [TypeExpr.relocate, Layout.loc_extentOf (List.cons_ne_nil _ _)]
    simp only [List.map_cons, List.map_append]
    exact .tuple hk ht.relocate hc hts.relocate
  | .paren hk ht hc =>
    simp only [List.map_cons, List.map_append, List.map_nil]
    exact .paren hk ht.relocate hc
  | .unsafeFnPtr hw hfn hs =>
    rw [TypeExpr.relocate_fnPtr, Layout.loc_extentOf (List.cons_ne_nil _ _)]
    exact .unsafeFnPtr hw hfn hs.relocate
  | .fnPtr hfn hs =>
    rw [TypeExpr.relocate_fnPtr, Layout.loc_extentOf (List.cons_ne_nil _ _)]
    exact .fnPtr hfn hs.relocate
  | .named hp =>
    rw [TypeExpr.relocate, Layout.loc_extentOf hp.ne_nil]
    exact .named hp.relocate
  | .generic hp hk ha =>
    rw [TypeExpr.relocate, Layout.loc_extentOf (by simp)]
    simp only [List.map_cons, List.map_append]
    exact .generic hp.relocate hk ha.relocate

/-- So do the parameters and the result of a function type. -/
theorem IsSignature.relocate {ts : List Token} {params : List TypeExpr} {ret : Option TypeExpr}
    {late : List LateFault} (h : IsSignature ts params ret late) :
    IsSignature (ts.map L.token) (TypeExpr.relocateAll L.loc params)
      (ret.map (TypeExpr.relocate L.loc)) late := by
  match h with
  | .unit hk hts => exact .unit hk hts.relocate
  | .ret hk hts ha ht =>
    simp only [List.map_cons, List.map_append]
    exact .ret hk hts.relocate ha ht.relocate

/-- So do the types up to a parenthesis. -/
theorem IsTypesClosing.relocate {ts : List Token} {types : List TypeExpr} {late : List LateFault}
    (h : IsTypesClosing ts types late) :
    IsTypesClosing (ts.map L.token) (TypeExpr.relocateAll L.loc types) late := by
  match h with
  | .nil hc => exact .nil hc
  | .last ht hc =>
    simp only [List.map_cons, List.map_append, List.map_nil]
    exact .last ht.relocate hc
  | .cons ht hc hts =>
    simp only [List.map_cons, List.map_append]
    exact .cons ht.relocate hc hts.relocate

/-- So do type arguments. -/
theorem IsTypeArgs.relocate {ts : List Token} {types : List TypeExpr} {late : List LateFault}
    (h : IsTypeArgs ts types late) :
    IsTypeArgs (ts.map L.token) (TypeExpr.relocateAll L.loc types) late := by
  match h with
  | .last ht hc =>
    simp only [List.map_cons, List.map_append, List.map_nil]
    exact .last ht.relocate hc
  | .cons ht hc hts =>
    simp only [List.map_cons, List.map_append]
    exact .cons ht.relocate hc hts.relocate

end

/-- So does a type behind a mark, if there is one. -/
theorem IsOptionalType.relocate {k : TokenKind} {t : Option TypeExpr} {late : List LateFault}
    (h : IsOptionalType k ts t late) :
    IsOptionalType k (ts.map L.token) (t.map (TypeExpr.relocate L.loc)) late := by
  cases h with
  | absent => exact .absent
  | present hk ht => exact .present hk ht.relocate

/-! ### Patterns and closure parameters -/

mutual

/-- **A pattern** in another layout stands where its tokens do. -/
theorem IsPattern.relocate {ts : List Token} {p : Pattern} (h : IsPattern ts p) :
    IsPattern (ts.map L.token) (p.relocate L.loc) := by
  match h with
  | .mutBinding hw hn =>
    rw [Pattern.relocate, Layout.loc_extentOf (List.cons_ne_nil _ _)]
    exact .mutBinding hw hn
  | .binding hn =>
    rw [Pattern.relocate, Layout.loc_extentOf (List.cons_ne_nil _ _)]
    exact .binding hn
  | .wildcard hk =>
    rw [Pattern.relocate, Layout.loc_extentOf (List.cons_ne_nil _ _)]
    exact .wildcard hk
  | .ref hk hp =>
    rw [Pattern.relocate, Layout.loc_extentOf (List.cons_ne_nil _ _)]
    exact .ref hk hp.relocate
  | .tuple hk hp hc hps =>
    rw [Pattern.relocate, Layout.loc_extentOf (List.cons_ne_nil _ _)]
    simp only [List.map_cons, List.map_append]
    exact .tuple hk hp.relocate hc hps.relocate
  -- parentheses leave no node of their own
  | .paren hk hp hc =>
    simp only [List.map_cons, List.map_append, List.map_nil]
    exact .paren hk hp.relocate hc

/-- So do the patterns up to a parenthesis. -/
theorem IsPatternsClosing.relocate {ts : List Token} {ps : List Pattern}
    (h : IsPatternsClosing ts ps) :
    IsPatternsClosing (ts.map L.token) (Pattern.relocateAll L.loc ps) := by
  match h with
  | .nil hc => exact .nil hc
  | .last hp hc =>
    simp only [List.map_cons, List.map_append, List.map_nil]
    exact .last hp.relocate hc
  | .cons hp hc hps =>
    simp only [List.map_cons, List.map_append]
    exact .cons hp.relocate hc hps.relocate

end

/-- A pattern has tokens. -/
theorem IsPattern.ne_nil {p : Pattern} (h : IsPattern ts p) : ts ≠ [] := by
  cases h <;> exact List.cons_ne_nil _ _

/-- A parameter of a closure in another layout stands where its tokens do. -/
theorem IsClosureParam.relocate {p : ClosureParam} {late : List LateFault}
    (h : IsClosureParam ts p late) : IsClosureParam (ts.map L.token) (p.relocate L.loc) late := by
  obtain ⟨hp, hd⟩ := h
  rw [ClosureParam.relocate,
    Layout.loc_extentOf (List.append_ne_nil_of_left_ne_nil hp.ne_nil _), List.map_append]
  exact .mk hp.relocate hd.relocate

/-- So do the parameters of a closure. -/
theorem IsClosureParams.relocate {ps : List ClosureParam} {late : List LateFault}
    (h : IsClosureParams ts ps late) :
    IsClosureParams (ts.map L.token) (ps.map (ClosureParam.relocate L.loc)) late := by
  induction h with
  | nil hc => exact .nil hc
  | last hp hc =>
    simp only [List.map_cons, List.map_append, List.map_nil]
    exact .last hp.relocate hc
  | cons hp hc _ ih =>
    simp only [List.map_cons, List.map_append]
    exact .cons hp.relocate hc ih

/-! ### Expressions -/

mutual

/-- **An expression** whose tokens are laid out anew. -/
theorem IsExpr.relocate {ts : List Token} {e : Expr} {late : List LateFault}
    (h : IsExpr ts e late) : IsExpr (ts.map L.token) (e.relocate L.loc) late := by
  match h with
  | .closure hk hp hr hb =>
    rw [Expr.relocate, Layout.loc_extentOf (List.cons_ne_nil _ _)]
    simp only [List.map_cons, List.map_append]
    exact .closure hk hp.relocate hr.relocate hb.relocate
  | .unary hu => exact .unary hu.relocate

/-- So does an expression below prefix operators. -/
theorem IsUnary.relocate {ts : List Token} {e : Expr} {late : List LateFault}
    (h : IsUnary ts e late) : IsUnary (ts.map L.token) (e.relocate L.loc) late := by
  match h with
  | .borrow hk hm he =>
    rw [Expr.relocate, Layout.loc_extentOf (List.cons_ne_nil _ _)]
    simp only [List.map_cons, List.map_append]
    exact .borrow hk hm.relocate he.relocate
  | .deref hk he =>
    rw [Expr.relocate, Layout.loc_extentOf (List.cons_ne_nil _ _)]
    exact .deref hk he.relocate
  | .chain hp => exact .chain hp.relocate

/-- So does a chain. -/
theorem IsPostfix.relocate {bare : Bool} {ts : List Token} {e : Expr} {late : List LateFault}
    (h : IsPostfix bare ts e late) : IsPostfix bare (ts.map L.token) (e.relocate L.loc) late := by
  match h with
  | .atom ha => exact .atom ha.relocate
  -- a chain stands where its first atom begins and its last token ends
  | .call hc hk ha =>
    rw [Expr.relocate, Layout.loc_extentOf (by simp)]
    simp only [List.map_cons, List.map_append]
    exact .call hc.relocate hk ha.relocate
  | .methodCall hr hd hn hk ha =>
    rw [Expr.relocate, Layout.loc_extentOf (by simp)]
    simp only [List.map_cons, List.map_append]
    exact .methodCall hr.relocate hd hn hk ha.relocate
  | .field hs hd hn =>
    rw [Expr.relocate, Layout.loc_extentOf (by simp)]
    simp only [List.map_cons, List.map_append, List.map_nil]
    exact .field hs.relocate hd hn

/-- So does an atom. -/
theorem IsAtom.relocate {ts : List Token} {e : Expr} {late : List LateFault}
    (h : IsAtom ts e late) : IsAtom (ts.map L.token) (e.relocate L.loc) late := by
  match h with
  | .path hp =>
    rw [Expr.relocate, Layout.loc_extentOf hp.ne_nil]
    exact .path hp.relocate
  | .selfWord hk =>
    rw [Expr.relocate, Layout.loc_extentOf (List.cons_ne_nil _ _)]
    exact .selfWord hk
  | .int hk =>
    rw [Expr.relocate, Layout.loc_extentOf (List.cons_ne_nil _ _)]
    exact .int hk
  | .string hk =>
    rw [Expr.relocate, Layout.loc_extentOf (List.cons_ne_nil _ _)]
    exact .string hk
  | .macroCall hn hb hk he hc =>
    rw [Expr.relocate, Layout.loc_extentOf (List.cons_ne_nil _ _)]
    simp only [List.map_cons, List.map_append, List.map_nil]
    exact .macroCall hn hb hk he.relocate hc
  | .paren hk he hc =>
    simp only [List.map_cons, List.map_append, List.map_nil]
    exact .paren hk he.relocate hc

/-- So do arguments. -/
theorem IsArgs.relocate {ts : List Token} {es : List Expr} {late : List LateFault}
    (h : IsArgs ts es late) : IsArgs (ts.map L.token) (Expr.relocateAll L.loc es) late := by
  match h with
  | .nil hc => exact .nil hc
  | .last he hc =>
    simp only [List.map_cons, List.map_append, List.map_nil]
    exact .last he.relocate hc
  | .cons he hc hes =>
    simp only [List.map_cons, List.map_append]
    exact .cons he.relocate hc hes.relocate

end

/-! ### Statements and functions -/

/-- **A statement** in another layout stands where its tokens do. -/
theorem IsStmt.relocate {s : Stmt} {late : List LateFault} (h : IsStmt ts s late) :
    IsStmt (ts.map L.token) (s.relocate L.loc) late := by
  cases h with
  | @letStmt _ name _ _ _ _ _ _ _ _ _ _ hw hm hn hd he hv hs =>
    rw [Stmt.relocate, Layout.loc_extentOf (List.cons_ne_nil _ _)]
    simp only [List.map_cons, List.map_append, List.map_nil]
    exact .letStmt hw hm.relocate hn hd.relocate he hv.relocate hs
  | exprStmt he hs =>
    rw [Stmt.relocate, Layout.loc_extentOf (by simp)]
    simp only [List.map_cons, List.map_append, List.map_nil]
    exact .exprStmt he.relocate hs

/-- So do statements. -/
theorem IsStmts.relocate {ss : List Stmt} {late : List LateFault} (h : IsStmts ts ss late) :
    IsStmts (ts.map L.token) (ss.map (Stmt.relocate L.loc)) late := by
  induction h with
  | nil hc => exact .nil hc
  | cons hs _ ih =>
    rw [List.map_append]
    exact .cons hs.relocate ih

/-- The same parameter elsewhere. -/
def WrittenParam.relocate (g : Loc → Loc) : WrittenParam → WrittenParam
  | .named p => .named (p.relocate g)
  | .receiver r => .receiver (r.relocate g)

/-- **A parameter** in another layout stands where its tokens do. -/
theorem IsParam.relocate {p : WrittenParam} {late : List LateFault} (h : IsParam ts p late) :
    IsParam (ts.map L.token) (p.relocate L.loc) late := by
  cases h with
  | value hm hw =>
    rw [WrittenParam.relocate, Receiver.relocate, Layout.loc_extentOf (by simp)]
    simp only [List.map_cons, List.map_append, List.map_nil]
    exact .value hm.relocate hw
  | @ref _ _ _ isMut hk hm hw =>
    have hform : (if isMut then ReceiverForm.refMut else .ref).relocate L.loc
        = if isMut then .refMut else .ref := by
      cases isMut <;> rfl
    rw [WrittenParam.relocate, Receiver.relocate, hform,
      Layout.loc_extentOf (List.cons_ne_nil _ _)]
    simp only [List.map_cons, List.map_append, List.map_nil]
    exact .ref hk hm.relocate hw
  | typed hw hc ht =>
    rw [WrittenParam.relocate, Receiver.relocate, Layout.loc_extentOf (List.cons_ne_nil _ _)]
    exact .typed hw hc ht.relocate
  | @named name _ _ _ _ hn hc ht =>
    rw [WrittenParam.relocate, Param.relocate, Layout.loc_extentOf (List.cons_ne_nil _ _)]
    exact .named hn hc ht.relocate

/-- Whether a receiver is at fault does not depend on where it stands in the text. -/
theorem paramLate_relocate {inMethod : Bool} {index : Nat} {p : WrittenParam} {g : Loc → Loc}
    (h : paramLate inMethod index p = []) : paramLate inMethod index (p.relocate g) = [] := by
  cases p with
  | named p => rfl
  | receiver r =>
    have hnone : receiverFault? inMethod index r.loc = none := Option.toList_eq_nil_iff.mp h
    refine Option.toList_eq_nil_iff.mpr ?_
    unfold receiverFault? at hnone ⊢
    -- a fault carries the place of the receiver, but which of the two it is comes from elsewhere
    by_cases hm : (!inMethod) = true
    · rw [if_pos hm] at hnone
      nomatch hnone
    · rw [if_neg hm] at hnone ⊢
      by_cases hi : index ≠ 0
      · rw [if_pos hi] at hnone
        nomatch hnone
      · rw [if_neg hi]

/-- So do the parameters of a function, if none of them is at fault. -/
theorem IsParams.relocate {inMethod : Bool} {index : Nat} {ps : List WrittenParam}
    {late : List LateFault} (h : IsParams inMethod index ts ps late) (hl : late = []) :
    IsParams inMethod index (ts.map L.token) (ps.map (WrittenParam.relocate L.loc)) [] := by
  induction h with
  | nil hc => exact .nil hc
  | @last index cl ts p _ hp hc =>
    -- a receiver that may stand here may stand here in any layout
    obtain ⟨hfault, rfl⟩ := List.append_eq_nil_iff.mp hl
    simp only [List.map_cons, List.map_append, List.map_nil]
    have hps : IsParams inMethod index (ts.map L.token ++ [L.token cl]) [p.relocate L.loc] _ :=
      .last hp.relocate hc
    rwa [paramLate_relocate hfault] at hps
  | @cons index comma ts us p others _ _ hp hc _ ih =>
    simp only [List.append_eq_nil_iff] at hl
    obtain ⟨⟨hfault, rfl⟩, hothers⟩ := hl
    simp only [List.map_cons, List.map_append]
    have hps : IsParams inMethod index (ts.map L.token ++ L.token comma :: us.map L.token)
        (p.relocate L.loc :: others.map (WrittenParam.relocate L.loc)) _ :=
      .cons hp.relocate hc (ih hothers)
    rwa [paramLate_relocate hfault] at hps

/-- The receiver among parameters that stand elsewhere. -/
theorem receiverOf_relocate {g : Loc → Loc} (ps : List WrittenParam) :
    receiverOf (ps.map (WrittenParam.relocate g)) = (receiverOf ps).map (Receiver.relocate g) := by
  induction ps with
  | nil => rfl
  | cons p ps ih =>
    cases p with
    | named p => exact ih
    | receiver r => rfl

/-- The parameters with names among them. -/
theorem namedOf_relocate {g : Loc → Loc} (ps : List WrittenParam) :
    namedOf (ps.map (WrittenParam.relocate g)) = (namedOf ps).map (Param.relocate g) := by
  induction ps with
  | nil => rfl
  | cons p ps ih =>
    cases p with
    | named p => exact congrArg (_ :: ·) ih
    | receiver r => exact ih

/-- What stands behind the head of a function goes where its tokens go. -/
theorem IsTail.relocate {body : Option (List Stmt)} {late : List LateFault}
    (h : IsTail ts body late) :
    IsTail (ts.map L.token) (body.map fun ss => ss.map (Stmt.relocate L.loc)) late := by
  cases h with
  | none hs => exact .none hs
  | body hk hs => exact .body hk hs.relocate

/-- **A function** in another layout stands where its tokens do. -/
theorem IsFunction.relocate {inMethod : Bool} {f : FunctionDef} {late : List LateFault}
    (h : IsFunction inMethod ts f late) (hl : late = []) :
    IsFunction inMethod (ts.map L.token) (f.relocate L.loc) [] := by
  obtain ⟨hu, hfn, hn, ho, hp, hr, hb⟩ := h
  simp only [List.append_eq_nil_iff] at hl
  obtain ⟨hps, rfl, rfl⟩ := hl
  rw [FunctionDef.relocate, Layout.loc_extentOf (by simp), ← receiverOf_relocate,
    ← namedOf_relocate]
  simp only [List.map_cons, List.map_append]
  -- the constructor lists the late faults of the parts, of which there are none
  show IsFunction inMethod _ _ ([] ++ ([] ++ []))
  exact .mk hu.relocate hfn hn.relocate ho (hp.relocate hps) hr.relocate hb.relocate

/-! ### Items -/

/-- So do methods. -/
theorem IsMethods.relocate {ms : List FunctionDef} {late : List LateFault} (h : IsMethods ts ms late)
    (hl : late = []) : IsMethods (ts.map L.token) (ms.map (FunctionDef.relocate L.loc)) [] := by
  induction h with
  | nil hc => exact .nil hc
  | cons hf _ ih =>
    obtain ⟨hl, hl'⟩ := List.append_eq_nil_iff.mp hl
    rw [List.map_append]
    exact .cons (hf.relocate hl) (ih hl')

/-- **An item** in another layout stands where its tokens do. -/
theorem IsItem.relocate {i : Item} {late : List LateFault} (h : IsItem ts i late) (hl : late = []) :
    IsItem (ts.map L.token) (i.relocate L.loc) [] := by
  cases h with
  | structDef hk hn hr hs =>
    subst hl
    rw [Item.relocate, StructDef.relocate, Layout.loc_extentOf (List.cons_ne_nil _ _)]
    simp only [List.map_cons, List.map_append, List.map_nil]
    exact .structDef hk hn.relocate hr.relocate hs
  | traitDef hk hn ho hm =>
    rw [Item.relocate, TraitDef.relocate, Layout.loc_extentOf (List.cons_ne_nil _ _)]
    simp only [List.map_cons, List.map_append]
    exact .traitDef hk hn.relocate ho (hm.relocate hl)
  -- none of the parts is at fault, so there is nothing to list
  | inherentImpl hk ht ho hm =>
    obtain ⟨hms, rfl⟩ := List.append_eq_nil_iff.mp hl
    rw [Item.relocate, ImplDef.relocate, Layout.loc_extentOf (List.cons_ne_nil _ _)]
    simp only [List.map_cons, List.map_append]
    show IsItem _ _ ([] ++ [])
    exact .inherentImpl hk ht.relocate ho (hm.relocate hms)
  | traitImpl hk hn hw ht ho hm =>
    obtain ⟨hms, rfl⟩ := List.append_eq_nil_iff.mp hl
    rw [Item.relocate, ImplDef.relocate, Layout.loc_extentOf (List.cons_ne_nil _ _)]
    simp only [List.map_cons, List.map_append]
    show IsItem _ _ ([] ++ [])
    exact .traitImpl hk hn.relocate hw ht.relocate ho (hm.relocate hms)
  | function hf => exact .function (hf.relocate hl)

/-- **The items of a text** that is laid out anew. -/
theorem IsItems.relocate {items : List Item} {late : List LateFault} (h : IsItems ts items late)
    (hl : late = []) : IsItems (ts.map L.token) (items.map (Item.relocate L.loc)) [] := by
  induction h with
  | nil => exact .nil
  | cons hi _ ih =>
    obtain ⟨hl, hl'⟩ := List.append_eq_nil_iff.mp hl
    rw [List.map_append]
    exact .cons (hi.relocate hl) (ih hl')

end ClosureLint.Syntax
