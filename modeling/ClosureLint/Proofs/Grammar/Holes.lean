import ClosureLint.Lint.Eta
import ClosureLint.Proofs.Core.Replace
import ClosureLint.Proofs.Grammar.Basic

/-!
# Closures that are arguments

A closure in the arguments of a call, or in front of a method call, stands between an opening
parenthesis or comma and a closing parenthesis or comma. Any other expression can stand there too,
and the tree changes nowhere else.

* `numbered` — a lowered and numbered expression.
* `Opens`, `Closes` — what stands around an argument.
* `HasHole` — a closure among the tokens of a construct, and what the construct becomes when other
  tokens stand in its place.
* `IsExpr.hole`, `IsArgs.hole` — every closure that is an argument stands in such a place.
-/

namespace ClosureLint.Syntax

open ClosureLint.Core
open ClosureLint.Eta (candidates)

/-- An expression, lowered and with its identities given out from `n` on. -/
def numbered (c : Lowering) (n : NodeId) (e : Syntax.Expr) : Core.Expr := ((lowerExpr c e).number n).1

/-- Several expressions, lowered and with their identities given out from `n` on. -/
def numberedAll (c : Lowering) (n : NodeId) (es : List Syntax.Expr) : List Core.Expr :=
  (Expr.numberAll n (lowerExprs c es)).1

/-- The first identity behind those of an expression. -/
def behindExpr (c : Lowering) (n : NodeId) (e : Syntax.Expr) : NodeId := ((lowerExpr c e).number n).2

/-- Behind `ts` an argument can begin. -/
def Opens (ts : List Token) : Prop := ∃ t ∈ ts.getLast?, t.kind = .leftParen ∨ t.kind = .comma

/-- In front of `ts` an argument can end. -/
def Closes (ts : List Token) : Prop := ∃ t ∈ ts.head?, t.kind = .rightParen ∨ t.kind = .comma

/-- An opening mark at the end is one behind more tokens. -/
theorem Opens.append {us : List Token} (h : Opens us) (ts : List Token) : Opens (ts ++ us) := by
  obtain ⟨t, ht, hk⟩ := h
  exact ⟨t, by rw [List.getLast?_append, Option.mem_def.mp ht]; rfl, hk⟩

/-- A parenthesis or a comma at the end opens. -/
theorem Opens.concat (ts : List Token) {t : Token} (h : t.kind = .leftParen ∨ t.kind = .comma) :
    Opens (ts ++ [t]) := ⟨t, List.getLast?_concat, h⟩

/-- A closing mark at the start is one in front of more tokens. -/
theorem Closes.append {ts : List Token} (h : Closes ts) (us : List Token) : Closes (ts ++ us) := by
  obtain ⟨t, ht, hk⟩ := h
  exact ⟨t, by rw [List.head?_append, Option.mem_def.mp ht]; rfl, hk⟩

/-- A parenthesis or a comma at the start closes. -/
theorem Closes.cons {t : Token} (h : t.kind = .rightParen ∨ t.kind = .comma) (ts : List Token) :
    Closes (t :: ts) := ⟨t, rfl, h⟩

/-- The closure `x` stands among the tokens `ts` of a construct, with `C` for its tokens, which its
extent covers. With other tokens in their place, which form the expression `d`, the construct gets a tree that is
related to every node `z` that says what `d` says. -/
def HasHole {α : Type} (R : List Token → α → List LateFault → Prop) (ts : List Token)
    (x : Core.Expr) (Becomes : Core.Expr → α → Prop) : Prop :=
  ∃ before C behind params ret body c n, ts = before ++ (C ++ behind) ∧ Opens before ∧
    Closes behind ∧ IsExpr C (.closure (extentOf C) params ret body) [] ∧
    x = numbered c n (.closure (extentOf C) params ret body) ∧
    ∀ D d, IsExpr D d [] → ∃ e, R (before ++ (D ++ behind)) e [] ∧
      ∀ z, z.bare = plainExpr d → Becomes z e

variable {α β : Type} {R : List Token → α → List LateFault → Prop}
  {R' : List Token → β → List LateFault → Prop} {ts : List Token} {x : Core.Expr}
  {P : Core.Expr → α → Prop} {P' : Core.Expr → β → Prop}

/-- A construct with more tokens around it has the holes of what it surrounds. -/
theorem HasHole.wrap (h : HasHole R ts x P) (before behind : List Token)
    (frame : List Token → List Token) (hframe : ∀ us, frame us = before ++ (us ++ behind))
    (hstep : ∀ us e, R us e [] → ∃ e', R' (frame us) e' [] ∧ ∀ z, P z e → P' z e') :
    HasHole R' (frame ts) x P' := by
  obtain ⟨X, C, B, params, ret, body, c, n, rfl, hX, hB, hC, hx, hhole⟩ := h
  -- the closure keeps its tokens, and what surrounds it grows on both sides
  refine ⟨before ++ X, C, B ++ behind, params, ret, body, c, n, ?_, hX.append _, hB.append _,
    hC, hx, fun D d hd => ?_⟩
  · rw [hframe]
    simp only [List.append_assoc]
  · obtain ⟨e, he, hP⟩ := hhole D d hd
    obtain ⟨e', he', hP'⟩ := hstep _ e he
    refine ⟨e', ?_, fun z hz => hP' z (hP z hz)⟩
    rw [hframe] at he'
    simpa only [List.append_assoc] using he'

/-! ### A closure in its place -/

/-- Whether an expression is a closure. -/
def isClosure : Core.Expr → Bool
  | .closure .. => true
  | _ => false

mutual

/-- A closure as an expression of its own, perhaps in parentheses or the argument of a macro. -/
theorem IsExpr.closure_hole {ts : List Token} {e : Syntax.Expr} {late : List LateFault}
    (h : IsExpr ts e late) (hl : late = []) {c : Lowering} {n : NodeId}
    (hc : isClosure (numbered c n e) = true) {before behind : List Token} (hopen : Opens before)
    (hclose : Closes behind)
    (hstep : ∀ us d, IsExpr us d [] → ∃ e', R' (before ++ (us ++ behind)) e' [] ∧
      ∀ z, z.bare = plainExpr d → P' z e') :
    HasHole R' (before ++ (ts ++ behind)) (numbered c n e) P' := by
  match h with
  | @IsExpr.closure bar ps rs bs params ret body _ _ _ hk hp hr hb =>
    exact ⟨before, _, behind, params, ret, body, c, n, rfl, hopen, hclose,
      hl ▸ IsExpr.closure hk hp hr hb, rfl, hstep⟩
  | @IsExpr.unary _ _ _ hu =>
    exact hu.closure_hole hl hc fun us d hd => hstep us d (.unary (.chain (.atom hd)))

/-- A closure below no prefix operator. -/
theorem IsUnary.closure_hole {ts : List Token} {e : Syntax.Expr} {late : List LateFault}
    (h : IsUnary ts e late) (hl : late = []) {c : Lowering} {n : NodeId}
    (hc : isClosure (numbered c n e) = true) {before behind : List Token}
    (hstep : ∀ us d, IsAtom us d [] → ∃ e', R' (before ++ (us ++ behind)) e' [] ∧
      ∀ z, z.bare = plainExpr d → P' z e') :
    HasHole R' (before ++ (ts ++ behind)) (numbered c n e) P' := by
  match h with
  | .borrow _ _ _ | .deref _ _ => nomatch hc
  | .chain hp => exact hp.closure_hole hl hc hstep

/-- A closure as a chain of nothing else. -/
theorem IsPostfix.closure_hole {bare : Bool} {ts : List Token} {e : Syntax.Expr}
    {late : List LateFault} (h : IsPostfix bare ts e late) (hl : late = []) {c : Lowering}
    {n : NodeId} (hc : isClosure (numbered c n e) = true) {before behind : List Token}
    (hstep : ∀ us d, IsAtom us d [] → ∃ e', R' (before ++ (us ++ behind)) e' [] ∧
      ∀ z, z.bare = plainExpr d → P' z e') :
    HasHole R' (before ++ (ts ++ behind)) (numbered c n e) P' := by
  match h with
  | .call _ _ _ | .methodCall _ _ _ _ _ | .field _ _ _ => nomatch hc
  | .atom ha => exact ha.closure_hole hl hc hstep

/-- A closure as an atom: in parentheses, or the argument of a macro. -/
theorem IsAtom.closure_hole {ts : List Token} {e : Syntax.Expr} {late : List LateFault}
    (h : IsAtom ts e late) (hl : late = []) {c : Lowering} {n : NodeId}
    (hc : isClosure (numbered c n e) = true) {before behind : List Token}
    (hstep : ∀ us d, IsAtom us d [] → ∃ e', R' (before ++ (us ++ behind)) e' [] ∧
      ∀ z, z.bare = plainExpr d → P' z e') :
    HasHole R' (before ++ (ts ++ behind)) (numbered c n e) P' := by
  match h with
  | .path _ | .selfWord _ | .int _ | .string _ => nomatch hc
  | @IsAtom.macroCall name bang op cl us e _ hn hb ho he hcl =>
    -- the invocation leaves no node: what is lowered is its argument, inside of a macro
    have hts (vs : List Token) :
        before ++ (name :: bang :: op :: (vs ++ [cl]) ++ behind)
          = before ++ [name, bang, op] ++ (vs ++ cl :: behind) := by simp
    rw [hts]
    refine he.closure_hole hl (c := c.inside) hc ?_ (.cons (.inl hcl) _) fun vs d hd => ?_
    · exact (Opens.concat [name, bang] (.inl ho)).append before
    · obtain ⟨e', he', hP⟩ := hstep _ _ (.macroCall hn hb ho hd hcl)
      rw [hts] at he'
      exact ⟨e', he', fun z hz => hP z (hz.trans (plainExpr_macroCall ..).symm)⟩
  | @IsAtom.paren op cl us e _ ho he hcl =>
    have hts (vs : List Token) :
        before ++ (op :: (vs ++ [cl]) ++ behind) = before ++ [op] ++ (vs ++ cl :: behind) := by
      simp
    rw [hts]
    refine he.closure_hole hl hc (.concat before (.inl ho)) (.cons (.inl hcl) _) fun vs d hd => ?_
    obtain ⟨e', he', hP⟩ := hstep _ _ (.paren ho hd hcl)
    rw [hts] at he'
    exact ⟨e', he', hP⟩

end

/-! ### Numbers around a place -/

section

variable {c : Lowering} {n : NodeId}

/-- The walk of a numbered expression has its identities in order. -/
theorem numbered_walk (c : Lowering) (n : NodeId) (e : Syntax.Expr) :
    Numbered n (behindExpr c n e) (numbered c n e).walk := Expr.numbered_number _ n

/-- So have the walks of numbered expressions. -/
theorem numberedAll_walk (c : Lowering) (n : NodeId) (es : List Syntax.Expr) :
    Numbered n (Expr.numberAll n (lowerExprs c es)).2 (Expr.walkAll (numberedAll c n es)) :=
  Expr.numbered_numberAll _ n

/-- Without identities and places, a numbered expression is the plain one. -/
theorem numbered_bare (c : Lowering) (n : NodeId) (e : Syntax.Expr) :
    (numbered c n e).bare = plainExpr e :=
  (Expr.bare_number _ n).trans (bare_lowerExpr e c)

/-- So are numbered expressions. -/
theorem numberedAll_bare (c : Lowering) (n : NodeId) (es : List Syntax.Expr) :
    Core.Expr.bareAll (numberedAll c n es) = plainExprs es :=
  (Expr.bareAll_number _ n).trans (bareAll_lowerExprs es c)

/-- The first identity is that of the root. -/
theorem numbered_id (c : Lowering) (n : NodeId) (e : Syntax.Expr) : (numbered c n e).id = n := by
  unfold numbered
  generalize lowerExpr c e = e'
  cases e' <;> rfl

/-- What lies inside an expression has another identity. -/
theorem numbered_id_ne {e : Syntax.Expr} (hx : x ∈ (numbered c n e).inside) : n ≠ x.id := by
  have hsorted := (numbered_walk c n e).sorted
  rw [Expr.walk_eq, List.pairwise_cons] at hsorted
  exact Int.ne_of_lt (numbered_id c n e ▸ hsorted.1 x hx)

end

/-! ### Closures that are arguments inside an expression -/

/-- The closure `x` is an argument of, or stands in front of, one of the expressions `es`. -/
def IsHeld (x : Core.Expr) (es : List Core.Expr) : Prop :=
  isClosure x = true ∧ ∃ y ∈ es, x ∈ candidates y

/-- A closure is an argument of the first expression or of one behind it. -/
theorem isHeld_cons {y : Core.Expr} {es : List Core.Expr} :
    IsHeld x (y :: es) ↔ (isClosure x = true ∧ x ∈ candidates y) ∨ IsHeld x es := by
  simp [IsHeld, and_or_left]

/-- It is an argument in one list or in the other. -/
theorem isHeld_append {es fs : List Core.Expr} :
    IsHeld x (es ++ fs) ↔ IsHeld x es ∨ IsHeld x fs := by
  simp only [IsHeld, List.mem_append, or_and_right, exists_or, and_or_left]

/-- An argument lies inside. -/
theorem inside_of_candidate {y : Core.Expr} (h : x ∈ candidates y) : x ∈ y.inside := by
  cases y with
  | call node callee args =>
    exact List.mem_append_right _ (Expr.mem_walkAll.mpr ⟨x, h, x.mem_walk_self⟩)
  | methodCall node receiver method args =>
    rcases List.mem_cons.mp h with rfl | h
    · exact List.mem_append_left _ (Expr.mem_walk_self _)
    · exact List.mem_append_right _ (Expr.mem_walkAll.mpr ⟨x, h, x.mem_walk_self⟩)
  | _ => nomatch h

/-- A closure that is an argument lies inside the expression. -/
theorem IsHeld.mem_inside {e : Core.Expr} (h : IsHeld x e.walk) : x ∈ e.inside := by
  obtain ⟨-, y, hy, hx⟩ := h
  exact Expr.inside_trans e hy (inside_of_candidate hx)

/-- And in the walk. -/
theorem IsHeld.mem_walkAll {es : List Core.Expr} (h : IsHeld x (Expr.walkAll es)) :
    x ∈ Expr.walkAll es := by
  obtain ⟨-, y, hy, hx⟩ := h
  exact Expr.walkAll_trans es hy (inside_of_candidate hx)

/-- A construct that is one of another sort as it stands has the same holes. -/
theorem HasHole.imp (h : HasHole R ts x P) {R' : List Token → α → List LateFault → Prop}
    (himp : ∀ us e, R us e [] → R' us e []) : HasHole R' ts x P :=
  h.wrap [] [] id (fun us => (List.append_nil us).symm) fun us e he => ⟨e, himp us e he, fun _ => id⟩

/-- An expression with `z` in the place of the node `x`. -/
def Swapped (c : Lowering) (n : NodeId) (e : Syntax.Expr) (x z : Core.Expr) (e' : Syntax.Expr) :
    Prop := plainExpr e' = (Expr.replace x.id z (numbered c n e)).bare

/-- Expressions with `z` in the place of the node `x`. -/
def SwappedAll (c : Lowering) (n : NodeId) (es : List Syntax.Expr) (x z : Core.Expr)
    (es' : List Syntax.Expr) : Prop :=
  plainExprs es' = Core.Expr.bareAll (Expr.replaceAll x.id z (numberedAll c n es))

section

variable {c : Lowering} {n : NodeId} {z : Core.Expr} {e e' : Syntax.Expr}
  {es es' : List Syntax.Expr}

/-- The expression itself can be swapped for another. -/
theorem Swapped.self (h : z.bare = plainExpr e') : Swapped c n e (numbered c n e) z e' := by
  unfold Swapped
  rw [Expr.replace_self rfl, h]

/-- A replacement in the first expression leaves the others alone. -/
theorem Swapped.leaves (es : List Syntax.Expr) (hx : x ∈ (numbered c n e).walk) :
    SwappedAll c (behindExpr c n e) es x z es := by
  unfold SwappedAll
  rw [(numberedAll_walk c _ es).replaceAll_below ((numbered_walk c n e).upper x hx),
    numberedAll_bare]

/-- A replacement in later expressions leaves the first one alone. -/
theorem SwappedAll.leaves (e : Syntax.Expr)
    (hx : x ∈ Expr.walkAll (numberedAll c (behindExpr c n e) es)) : Swapped c n e x z e := by
  unfold Swapped
  rw [(numbered_walk c n e).replace_above ((numberedAll_walk c _ es).lower x hx), numbered_bare]

/-- What is swapped in the first expression, and stays in the others, is swapped in the list. -/
theorem SwappedAll.cons (h : Swapped c n e x z e') (hs : SwappedAll c (behindExpr c n e) es x z es') :
    SwappedAll c n (e :: es) x z (e' :: es') := by
  unfold SwappedAll
  show plainExpr e' :: plainExprs es' = _
  rw [h, hs]
  rfl

/-- What is swapped in its subject is swapped in a borrow. -/
theorem Swapped.borrow {l l' : Loc} {isMut : Bool} (hne : n ≠ x.id)
    (h : Swapped c (n + 1) e x z e') :
    Swapped c n (.borrow l isMut e) x z (.borrow l' isMut e') := by
  show Core.Expr.borrow {} isMut (plainExpr e')
    = (Expr.replace x.id z (.borrow ((c.node l).withId n) isMut (numbered c (n + 1) e))).bare
  rw [Expr.replace, if_neg (show ((c.node l).withId n).id ≠ x.id from hne), Core.Expr.bare, h]

/-- Or in a dereference. -/
theorem Swapped.deref {l l' : Loc} (hne : n ≠ x.id) (h : Swapped c (n + 1) e x z e') :
    Swapped c n (.deref l e) x z (.deref l' e') := by
  show Core.Expr.deref {} (plainExpr e')
    = (Expr.replace x.id z (.deref ((c.node l).withId n) (numbered c (n + 1) e))).bare
  rw [Expr.replace, if_neg (show ((c.node l).withId n).id ≠ x.id from hne), Core.Expr.bare, h]

/-- Or in a field access. -/
theorem Swapped.field {l l' : Loc} {name : String} (hne : n ≠ x.id)
    (h : Swapped c (n + 1) e x z e') :
    Swapped c n (.field l e name) x z (.field l' e' name) := by
  show Core.Expr.field {} (plainExpr e') name
    = (Expr.replace x.id z (.field ((c.node l).withId n) (numbered c (n + 1) e) name)).bare
  rw [Expr.replace, if_neg (show ((c.node l).withId n).id ≠ x.id from hne), Core.Expr.bare, h]

/-- What is swapped in the callee or the arguments is swapped in a call. -/
theorem Swapped.call {l l' : Loc} (hne : n ≠ x.id) (h : Swapped c (n + 1) e x z e')
    (hs : SwappedAll c (behindExpr c (n + 1) e) es x z es') :
    Swapped c n (.call l e es) x z (.call l' e' es') := by
  show Core.Expr.call {} (plainExpr e') (plainExprs es')
    = (Expr.replace x.id z (.call ((c.node l).withId n) (numbered c (n + 1) e)
        (numberedAll c (behindExpr c (n + 1) e) es))).bare
  rw [Expr.replace, if_neg (show ((c.node l).withId n).id ≠ x.id from hne), Core.Expr.bare, h, hs]

/-- And so it is in a method call. -/
theorem Swapped.methodCall {l l' : Loc} {name : String} (hne : n ≠ x.id)
    (h : Swapped c (n + 1) e x z e')
    (hs : SwappedAll c (behindExpr c (n + 1) e) es x z es') :
    Swapped c n (.methodCall l e name es) x z (.methodCall l' e' name es') := by
  show Core.Expr.methodCall {} (plainExpr e') name (plainExprs es')
    = (Expr.replace x.id z (.methodCall ((c.node l).withId n) (numbered c (n + 1) e) name
        (numberedAll c (behindExpr c (n + 1) e) es))).bare
  rw [Expr.replace, if_neg (show ((c.node l).withId n).id ≠ x.id from hne), Core.Expr.bare, h, hs]

/-- The first identity behind those of closure parameters. -/
def behindParams (c : Lowering) (n : NodeId) (ps : List Syntax.ClosureParam) : NodeId :=
  (Core.Param.numberAll n (ps.map (lowerClosureParam c))).2

/-- What is swapped in its body is swapped in a closure, as the parameters stand in front. -/
theorem Swapped.closure {l l' : Loc} {params : List Syntax.ClosureParam}
    {ret : Option TypeExpr} (hne : n ≠ x.id)
    (h : Swapped c (behindParams c (n + 1) params) e x z e') :
    Swapped c n (.closure l params ret e) x z (.closure l' params ret e') := by
  show Core.Expr.closure {} ((params.map (lowerClosureParam {})).map Core.Param.bare)
      (ret.map TypeExpr.bare) (plainExpr e')
    = (Expr.replace x.id z (.closure ((c.node l).withId n)
        (Core.Param.numberAll (n + 1) (params.map (lowerClosureParam c))).1 ret
        (numbered c (behindParams c (n + 1) params) e))).bare
  rw [Expr.replace, if_neg (show ((c.node l).withId n).id ≠ x.id from hne), Core.Expr.bare, h,
    Core.Param.bare_numberAll, bare_lowerClosureParams c]

end

/-- Behind the token `op` stands what `R` says. -/
def Behind (op : Token) (R : List Token → α → List LateFault → Prop) (ts : List Token) (a : α)
    (late : List LateFault) : Prop := ∃ us, ts = op :: us ∧ R us a late

mutual

/-- **A closure that is an argument** stands where any expression can stand. -/
theorem IsExpr.hole {ts : List Token} {e : Syntax.Expr} {late : List LateFault}
    (h : IsExpr ts e late) (hl : late = []) {c : Lowering} {n : NodeId}
    (hx : IsHeld x (numbered c n e).walk) : HasHole IsExpr ts x (Swapped c n e x) := by
  match h with
  | @IsExpr.closure bar ps rs bs params ret body _ _ _ hk hp hr hb =>
    -- the closure is inside, so it is not this expression, and has another identity
    have hne := numbered_id_ne hx.mem_inside
    obtain ⟨-, hx⟩ | hx := isHeld_cons.mp hx
    · nomatch hx
    simp only [List.append_eq_nil_iff] at hl
    obtain ⟨rfl, rfl, hl⟩ := hl
    exact (hb.hole hl hx).wrap (bar :: (ps ++ rs)) [] (fun us => bar :: (ps ++ (rs ++ us)))
      (by simp) fun us e' he' => ⟨_, .closure hk hp hr he', fun z => .closure hne⟩
  | @IsExpr.unary _ _ _ hu => exact (hu.hole hl hx).imp fun _ _ => .unary

/-- So it does below prefix operators. -/
theorem IsUnary.hole {ts : List Token} {e : Syntax.Expr} {late : List LateFault}
    (h : IsUnary ts e late) (hl : late = []) {c : Lowering} {n : NodeId}
    (hx : IsHeld x (numbered c n e).walk) : HasHole IsUnary ts x (Swapped c n e x) := by
  match h with
  | @IsUnary.borrow amp ms us isMut e _ hk hm hu =>
    have hne := numbered_id_ne hx.mem_inside
    obtain ⟨-, hx⟩ | hx := isHeld_cons.mp hx
    · nomatch hx
    exact (hu.hole hl hx).wrap (amp :: ms) [] (fun us => amp :: (ms ++ us)) (by simp)
      fun us e' he' => ⟨_, .borrow hk hm he', fun z => .borrow hne⟩
  | @IsUnary.deref star us e _ hk hu =>
    have hne := numbered_id_ne hx.mem_inside
    obtain ⟨-, hx⟩ | hx := isHeld_cons.mp hx
    · nomatch hx
    exact (hu.hole hl hx).wrap [star] [] (fun us => star :: us) (by simp)
      fun us e' he' => ⟨_, .deref hk he', fun z => .deref hne⟩
  | @IsUnary.chain bare _ _ _ hp => exact (hp.hole hl hx).imp fun _ _ => .chain

/-- So it does in a chain: as an argument of its last call, or further inside. -/
theorem IsPostfix.hole {bare : Bool} {ts : List Token} {e : Syntax.Expr} {late : List LateFault}
    (h : IsPostfix bare ts e late) (hl : late = []) {c : Lowering} {n : NodeId}
    (hx : IsHeld x (numbered c n e).walk) : HasHole (IsPostfix bare) ts x (Swapped c n e x) := by
  match h with
  | @IsPostfix.atom _ _ _ ha => exact (ha.hole hl hx).imp fun _ _ => .atom
  | @IsPostfix.call op us vs callee args _ _ hp hk ha =>
    have hne := numbered_id_ne hx.mem_inside
    obtain ⟨hl, hl'⟩ := List.append_eq_nil_iff.mp hl
    have hcallee : IsPostfix false us callee [] := hl ▸ hp
    -- the closure is an argument, or lies in the callee, or in an argument
    have hargs (hx : (isClosure x = true ∧ x ∈ numberedAll c (behindExpr c (n + 1) callee) args) ∨
        IsHeld x (Expr.walkAll (numberedAll c (behindExpr c (n + 1) callee) args)))
        (hmem : x ∈ Expr.walkAll (numberedAll c (behindExpr c (n + 1) callee) args)) :
        HasHole (IsPostfix false) (us ++ op :: vs) x
          (Swapped c n (.call (extentOf (us ++ op :: vs)) callee args) x) := by
      refine (ha.hole hl' (.inl hk) hx).wrap us [] (us ++ ·) (by simp) ?_
      rintro _ es' ⟨vs', rfl, hes'⟩
      exact ⟨_, .call hcallee hk hes', fun z => .call hne (SwappedAll.leaves callee hmem)⟩
    obtain ⟨hc, hx⟩ | hx := isHeld_cons.mp hx
    · exact hargs (.inl ⟨hc, hx⟩) (Expr.mem_walkAll.mpr ⟨x, hx, x.mem_walk_self⟩)
    obtain hx | hx := isHeld_append.mp hx
    -- in the callee, the arguments stay as they are
    · refine (hp.hole hl hx).wrap [] (op :: vs) (· ++ op :: vs) (by simp) fun us' e' he' =>
        ⟨_, .call he' hk (hl' ▸ ha), fun z hz => .call hne hz ?_⟩
      exact Swapped.leaves args (Expr.walk_of_inside hx.mem_inside)
    · exact hargs (.inr hx) hx.mem_walkAll
  | @IsPostfix.methodCall bare dot name op us vs receiver args _ _ hp hd hn hk ha =>
    have hne := numbered_id_ne hx.mem_inside
    obtain ⟨hl, hl'⟩ := List.append_eq_nil_iff.mp hl
    have hreceiver : IsPostfix bare us receiver [] := hl ▸ hp
    have hall : IsArgs vs args [] := hl' ▸ ha
    -- as with a call, but the receiver is an argument too
    have hargs (hx : (isClosure x = true ∧ x ∈ numberedAll c (behindExpr c (n + 1) receiver) args) ∨
        IsHeld x (Expr.walkAll (numberedAll c (behindExpr c (n + 1) receiver) args)))
        (hmem : x ∈ Expr.walkAll (numberedAll c (behindExpr c (n + 1) receiver) args)) :
        HasHole (IsPostfix false) (us ++ dot :: name :: op :: vs) x (Swapped c n
          (.methodCall (extentOf (us ++ dot :: name :: op :: vs)) receiver name.text args) x) := by
      refine (ha.hole hl' (.inl hk) hx).wrap (us ++ [dot, name]) []
        (us ++ dot :: name :: ·) (by simp) ?_
      rintro _ es' ⟨vs', rfl, hes'⟩
      exact ⟨_, .methodCall hreceiver hd hn hk hes', fun z => .methodCall hne
        (SwappedAll.leaves receiver hmem)⟩
    obtain ⟨hc, hx⟩ | hx := isHeld_cons.mp hx
    · rcases List.mem_cons.mp hx with rfl | hx
      · -- only in parentheses can a closure stand in front of a method call
        have hstep (us' : List Token) (d : Syntax.Expr) (hd' : IsAtom us' d []) :
            ∃ e', IsPostfix false ([] ++ (us' ++ dot :: name :: op :: vs)) e' [] ∧
              ∀ z, z.bare = plainExpr d → Swapped c n (.methodCall
                (extentOf (us ++ dot :: name :: op :: vs)) receiver name.text args)
                (numbered c (n + 1) receiver) z e' :=
          ⟨_, .methodCall (.atom hd') hd hn hk hall, fun z hz =>
            .methodCall hne (.self hz) (Swapped.leaves args (Expr.mem_walk_self _))⟩
        exact hp.closure_hole hl hc hstep
      · exact hargs (.inl ⟨hc, hx⟩) (Expr.mem_walkAll.mpr ⟨x, hx, x.mem_walk_self⟩)
    obtain hx | hx := isHeld_append.mp hx
    · refine (hp.hole hl hx).wrap [] (dot :: name :: op :: vs) (· ++ dot :: name :: op :: vs)
        (by simp) fun us' e' he' =>
        ⟨_, .methodCall he' hd hn hk hall, fun z hz => .methodCall hne hz ?_⟩
      exact Swapped.leaves args (Expr.walk_of_inside hx.mem_inside)
    · exact hargs (.inr hx) hx.mem_walkAll
  | @IsPostfix.field bare dot name us subject _ hp hd hn =>
    have hne := numbered_id_ne hx.mem_inside
    obtain ⟨-, hx⟩ | hx := isHeld_cons.mp hx
    · nomatch hx
    exact (hp.hole hl hx).wrap [] [dot, name] (· ++ [dot, name]) (by simp)
      fun us e' he' => ⟨_, .field he' hd hn, fun z => .field hne⟩

/-- So it does in an atom. -/
theorem IsAtom.hole {ts : List Token} {e : Syntax.Expr} {late : List LateFault}
    (h : IsAtom ts e late) (hl : late = []) {c : Lowering} {n : NodeId}
    (hx : IsHeld x (numbered c n e).walk) : HasHole IsAtom ts x (Swapped c n e x) := by
  match h with
  | .path _ | .selfWord _ | .int _ | .string _ =>
    obtain ⟨-, hx⟩ | hx := isHeld_cons.mp hx
    · nomatch hx
    · nomatch hx.2
  | @IsAtom.macroCall name bang op cl us e _ hn hb ho he hcl =>
    -- what is lowered of an invocation is its argument, inside of a macro
    have hhole : HasHole IsExpr us x (Swapped c.inside n e x) := he.hole hl hx
    exact hhole.wrap [name, bang, op] [cl] (fun us => name :: bang :: op :: (us ++ [cl])) (by simp)
      fun us e' he' => ⟨_, .macroCall hn hb ho he' hcl, fun z hz =>
        (plainExpr_macroCall ..).trans hz⟩
  | @IsAtom.paren op cl us e _ ho he hcl =>
    exact (he.hole hl hx).wrap [op] [cl] (fun us => op :: (us ++ [cl])) (by simp)
      fun us e' he' => ⟨_, .paren ho he' hcl, fun z hz => hz⟩

/-- So it does among arguments, behind the mark in front of them. -/
theorem IsArgs.hole {us : List Token} {es : List Syntax.Expr} {late : List LateFault}
    (h : IsArgs us es late) (hl : late = []) {op : Token}
    (hop : op.kind = .leftParen ∨ op.kind = .comma) {c : Lowering} {n : NodeId}
    (hx : (isClosure x = true ∧ x ∈ numberedAll c n es) ∨
      IsHeld x (Expr.walkAll (numberedAll c n es))) :
    HasHole (Behind op IsArgs) (op :: us) x (SwappedAll c n es x) := by
  match h with
  | .nil _ =>
    obtain ⟨-, hx⟩ | ⟨-, y, hy, -⟩ := hx
    · nomatch hx
    · nomatch hy
  | @IsArgs.last cl ts e _ he hc =>
    -- the closure is the last argument, or lies inside it
    obtain ⟨hclosure, hx⟩ | hx := hx
    · obtain rfl := List.mem_singleton.mp hx
      exact he.closure_hole hl hclosure (.concat [] hop) (.cons (.inl hc) [])
        fun us d hd => ⟨[d], ⟨us ++ [cl], rfl, .last hd hc⟩, fun z hz =>
          .cons (.self hz) (Swapped.leaves [] (Expr.mem_walk_self _))⟩
    · obtain hx | ⟨-, y, hy, -⟩ := isHeld_append.mp hx
      · refine (he.hole hl hx).wrap [op] [cl] (fun us => op :: (us ++ [cl])) (by simp)
          fun us e' he' => ⟨[e'], ⟨us ++ [cl], rfl, .last he' hc⟩, fun z hz => .cons hz ?_⟩
        exact Swapped.leaves [] (Expr.walk_of_inside hx.mem_inside)
      · nomatch hy
  | @IsArgs.cons comma ts us e others _ _ he hc hes =>
    obtain ⟨hl, hl'⟩ := List.append_eq_nil_iff.mp hl
    have hfirst : IsExpr ts e [] := hl ▸ he
    have hrest : IsArgs us others [] := hl' ▸ hes
    -- the closure is this argument, lies inside it, or belongs to the ones behind
    have hothers (hx : (isClosure x = true ∧ x ∈ numberedAll c (behindExpr c n e) others) ∨
        IsHeld x (Expr.walkAll (numberedAll c (behindExpr c n e) others)))
        (hmem : x ∈ Expr.walkAll (numberedAll c (behindExpr c n e) others)) :
        HasHole (Behind op IsArgs) (op :: (ts ++ comma :: us)) x
          (SwappedAll c n (e :: others) x) := by
      refine (hes.hole hl' (.inr hc) hx).wrap (op :: ts) [] (fun us => op :: (ts ++ us)) (by simp) ?_
      rintro _ es' ⟨us', rfl, hes'⟩
      exact ⟨e :: es', ⟨_, rfl, .cons hfirst hc hes'⟩, fun z hz => .cons (SwappedAll.leaves e hmem) hz⟩
    obtain ⟨hclosure, hx⟩ | hx := hx
    · rcases List.mem_cons.mp hx with rfl | hx
      · exact he.closure_hole hl hclosure (.concat [] hop) (.cons (.inr hc) us)
          fun us' d hd => ⟨d :: others, ⟨us' ++ comma :: us, rfl, .cons hd hc hrest⟩, fun z hz =>
            .cons (.self hz) (Swapped.leaves others (Expr.mem_walk_self _))⟩
      · exact hothers (.inl ⟨hclosure, hx⟩) (Expr.mem_walkAll.mpr ⟨x, hx, x.mem_walk_self⟩)
    · obtain hx | hx := isHeld_append.mp hx
      · refine (he.hole hl hx).wrap [op] (comma :: us) (fun us' => op :: (us' ++ comma :: us))
          (by simp) fun us' e' he' => ⟨e' :: others, ⟨_, rfl, .cons he' hc hrest⟩, fun z hz =>
            .cons hz ?_⟩
        exact Swapped.leaves others (Expr.walk_of_inside hx.mem_inside)
      · exact hothers (.inr hx) hx.mem_walkAll

end

end ClosureLint.Syntax
