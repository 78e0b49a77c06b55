import ClosureLint.Proofs.Core.AlikeBodies

/-!
# Another expression in the place of a part

An expression may make way for another wherever it stands: as a whole statement, as an argument, as
what is called, or as the body of a closure.

* `Inlaid` — two trees are the same up to identities, but `r` stands in the place of `x`.
* `Apart` — how identities are paired all around the one that is replaced.
* `inlaid_number`, `inlaidFunctions_number` — trees and functions in which `x` makes way for `r`,
  numbered anew.
-/

namespace ClosureLint.Core

open ClosureLint.Syntax (TypeExpr)

variable {P : NodeId → NodeId → Prop} {x r : Expr}

mutual

/-- The second expression is the first up to identities, but `r` stands in the place of `x`, which is
the expression or a part of it. -/
inductive Inlaid (P : NodeId → NodeId → Prop) (x r : Expr) : Expr → Expr → Prop
  | here : Inlaid P x r x r
  | borrow {n n' : Node} {isMut : Bool} {e e' : Expr} :
    Pairs P n n' → Inlaid P x r e e' → Inlaid P x r (.borrow n isMut e) (.borrow n' isMut e')
  | deref {n n' : Node} {e e' : Expr} :
    Pairs P n n' → Inlaid P x r e e' → Inlaid P x r (.deref n e) (.deref n' e')
  | field {n n' : Node} {e e' : Expr} {name : String} :
    Pairs P n n' → Inlaid P x r e e' → Inlaid P x r (.field n e name) (.field n' e' name)
  | callee {n n' : Node} {callee callee' : Expr} {args args' : List Expr} :
    Pairs P n n' → Inlaid P x r callee callee' → AlikeAll P args args' →
    Inlaid P x r (.call n callee args) (.call n' callee' args')
  | call {n n' : Node} {callee callee' : Expr} {args args' : List Expr} :
    Pairs P n n' → Alike P callee callee' → InlaidAll P x r args args' →
    Inlaid P x r (.call n callee args) (.call n' callee' args')
  | receiver {n n' : Node} {receiver receiver' : Expr} {method : String}
    {args args' : List Expr} :
    Pairs P n n' → Inlaid P x r receiver receiver' → AlikeAll P args args' →
    Inlaid P x r (.methodCall n receiver method args) (.methodCall n' receiver' method args')
  | methodCall {n n' : Node} {receiver receiver' : Expr} {method : String}
    {args args' : List Expr} :
    Pairs P n n' → Alike P receiver receiver' → InlaidAll P x r args args' →
    Inlaid P x r (.methodCall n receiver method args) (.methodCall n' receiver' method args')
  | closure {n n' : Node} {params params' : List Param} {ret : Option TypeExpr}
    {body body' : Expr} :
    Pairs P n n' → params'.map Param.unnumbered = params.map Param.unnumbered →
    Inlaid P x r body body' →
    Inlaid P x r (.closure n params ret body) (.closure n' params' ret body')

/-- So it is with one of several expressions. -/
inductive InlaidAll (P : NodeId → NodeId → Prop) (x r : Expr) : List Expr → List Expr → Prop
  | head {e e' : Expr} {es es' : List Expr} :
    Inlaid P x r e e' → AlikeAll P es es' → InlaidAll P x r (e :: es) (e' :: es')
  | tail {e e' : Expr} {es es' : List Expr} :
    Alike P e e' → InlaidAll P x r es es' → InlaidAll P x r (e :: es) (e' :: es')

end

/-- Functions the same up to identities, but for an expression somewhere in them. -/
abbrev InlaidFunction (P : NodeId → NodeId → Prop) (x r : Expr) : Function → Function → Prop :=
  FunctionWith P (Inlaid P x r)

/-! ### Identities around a node -/

/-- How identities are paired around the node `i` when what stands there takes `d` more of them: those
in front stay, those behind move up, and `i` itself is paired with none. -/
def Apart (i d k j : Int) : Prop := @LT.lt Int _ k i ∧ j = k ∨ @LT.lt Int _ i k ∧ j = k + d

/-- The part itself keeps its first identity, and what is behind it is moved by the difference in width.
-/
theorem Apart.shifts : Shifts x r (Apart x.id (r.width - x.width)) := by
  have hpos := x.width_pos
  rintro i j (⟨hi, rfl⟩ | ⟨hi, rfl⟩)
  · exact .inl ⟨hi, rfl⟩
  · exact .inr ⟨by omega, rfl⟩

/-- All that lies behind the part is paired with what is as far behind what replaces it. -/
theorem Apart.along {i d : Int} {a : NodeId} {w : Int} (h : @LT.lt Int _ i a) :
    Along (Apart i d) a (a + d) w := fun k hk _ => .inr ⟨by omega, by omega⟩

/-! ### Trees numbered anew -/

/-- The whole makes way. -/
private theorem here_number {e : Expr} {a : NodeId} (h : IsNumbered a e) :
    Inlaid P e (r.number e.id).1 e ((Expr.replace e.id r e).number a).1 ∧
      (Expr.replace e.id r e).width = e.width + (r.width - e.width) := by
  obtain rfl := h.id_eq
  rw [Expr.replace_self rfl]
  exact ⟨.here, by omega⟩

mutual

/-- **A numbered tree with `r` in the place of `x`**, numbered anew. -/
theorem inlaid_number (hP : Shifts x r P) : (e : Expr) → {a : NodeId} → IsNumbered a e →
    x ∈ e.walk →
    Inlaid P x (r.number x.id).1 e ((Expr.replace x.id r e).number a).1 ∧
      (Expr.replace x.id r e).width = e.width + (r.width - x.width)
  -- a leaf has no proper part, so it is what makes way
  | .path .., _, h, hx | .int .., _, h, hx | .str .., _, h, hx => by
    obtain rfl := List.mem_singleton.mp hx
    exact here_number h
  -- `x` is the whole, or it is in the operand, and then the root is not replaced
  | .borrow n m subject, a, h, hx => by
    rcases List.mem_cons.mp hx with rfl | hx
    · exact here_number h
    · obtain ⟨hn, hne⟩ := root_number (n := n) hP rfl h hx
      obtain ⟨hinlaid, hwidth⟩ := inlaid_number hP subject h.of_borrow hx
      rw [show Expr.replace x.id r (.borrow n m subject) = _ from if_neg hne]
      exact ⟨.borrow hn hinlaid, by rw [Expr.width, hwidth, Expr.width, Int.add_assoc]⟩
  | .deref n subject, a, h, hx => by
    rcases List.mem_cons.mp hx with rfl | hx
    · exact here_number h
    · obtain ⟨hn, hne⟩ := root_number (n := n) hP rfl h hx
      obtain ⟨hinlaid, hwidth⟩ := inlaid_number hP subject h.of_deref hx
      rw [show Expr.replace x.id r (.deref n subject) = _ from if_neg hne]
      exact ⟨.deref hn hinlaid, by rw [Expr.width, hwidth, Expr.width, Int.add_assoc]⟩
  | .field n subject name, a, h, hx => by
    rcases List.mem_cons.mp hx with rfl | hx
    · exact here_number h
    · obtain ⟨hn, hne⟩ := root_number (n := n) hP rfl h hx
      obtain ⟨hinlaid, hwidth⟩ := inlaid_number hP subject h.of_field hx
      rw [show Expr.replace x.id r (.field n subject name) = _ from if_neg hne]
      exact ⟨.field hn hinlaid, by rw [Expr.width, hwidth, Expr.width, Int.add_assoc]⟩
  | .call n callee args, a, h, hx => by
    rcases List.mem_cons.mp hx with rfl | hx
    · exact here_number h
    · obtain ⟨hn, hne⟩ := root_number (n := n) hP rfl h hx
      obtain ⟨hc, has⟩ := h.of_call
      rw [Expr.replace_call hne]
      simp only [Expr.width]
      -- `x` is in the callee or in one of the arguments. In the callee, the arguments are behind it and
      -- move by the difference in width; among the arguments, the callee is before it and stays.
      rcases List.mem_append.mp hx with hx | hx
      · obtain ⟨hinlaid, hwidth⟩ := inlaid_number hP callee hc hx
        obtain ⟨hargs, halike⟩ := behind_numberAll hP has (hc.lies callee x hx).upper
        rw [Expr.number_call, hwidth, ← Int.add_assoc]
        exact ⟨.callee hn hinlaid halike, by rw [hargs]; omega⟩
      · obtain ⟨hcallee, halike⟩ := before_number hP hc (has.lies _ _ hx).lower
        obtain ⟨hinlaid, hwidth⟩ := inlaidAll_number hP args has hx
        rw [Expr.number_call, hwidth, hcallee] at *
        exact ⟨.call hn halike hinlaid, by omega⟩
  | .methodCall n receiver method args, a, h, hx => by
    rcases List.mem_cons.mp hx with rfl | hx
    · exact here_number h
    · obtain ⟨hn, hne⟩ := root_number (n := n) hP rfl h hx
      obtain ⟨hc, has⟩ := h.of_methodCall
      rw [Expr.replace_methodCall hne]
      simp only [Expr.width]
      -- the receiver takes the place of the callee, and the argument is the same
      rcases List.mem_append.mp hx with hx | hx
      · obtain ⟨hinlaid, hwidth⟩ := inlaid_number hP receiver hc hx
        obtain ⟨hargs, halike⟩ := behind_numberAll hP has (hc.lies receiver x hx).upper
        rw [Expr.number_methodCall, hwidth, ← Int.add_assoc]
        exact ⟨.receiver hn hinlaid halike, by rw [hargs]; omega⟩
      · obtain ⟨hreceiver, halike⟩ := before_number hP hc (has.lies _ _ hx).lower
        obtain ⟨hinlaid, hwidth⟩ := inlaidAll_number hP args has hx
        rw [Expr.number_methodCall, hwidth, hreceiver] at *
        exact ⟨.methodCall hn halike hinlaid, by omega⟩
  | .closure n params ret body, a, h, hx => by
    rcases List.mem_cons.mp hx with rfl | hx
    · exact here_number h
    · obtain ⟨hn, hne⟩ := root_number (n := n) hP rfl h hx
      obtain ⟨hinlaid, hwidth⟩ := inlaid_number hP body h.of_closure hx
      rw [show Expr.replace x.id r (.closure n params ret body) = _ from if_neg hne,
        Expr.number_closure]
      -- parameters have identities of their own, but no part of them makes way
      exact ⟨.closure hn (Param.unnumbered_numberAll ..) hinlaid,
        by rw [Expr.width, hwidth, Expr.width, ← Int.add_assoc]⟩

/-- The same in a list of expressions, in one of which `x` stands. -/
theorem inlaidAll_number (hP : Shifts x r P) : (es : List Expr) → {a : NodeId} →
    IsNumberedAll a es → x ∈ Expr.walkAll es →
    InlaidAll P x (r.number x.id).1 es (Expr.numberAll a (Expr.replaceAll x.id r es)).1 ∧
      Expr.widthAll (Expr.replaceAll x.id r es) = Expr.widthAll es + (r.width - x.width)
  | [], _, _, hx => nomatch hx
  | e :: es, a, h, hx => by
    obtain ⟨he, hes⟩ := h.of_cons
    rw [Expr.replaceAll, Expr.numberAll_cons, Expr.widthAll, Expr.widthAll]
    -- in the first of them, with the others behind it, or in a later one
    rcases List.mem_append.mp hx with hx | hx
    · obtain ⟨hinlaid, hwidth⟩ := inlaid_number hP e he hx
      obtain ⟨htail, halike⟩ := behind_numberAll hP hes (he.lies e x hx).upper
      rw [hwidth, ← Int.add_assoc]
      exact ⟨.head hinlaid halike, by rw [htail]; omega⟩
    · obtain ⟨hhead, halike⟩ := before_number hP he (hes.lies _ _ hx).lower
      obtain ⟨hinlaid, hwidth⟩ := inlaidAll_number hP es hes hx
      rw [hwidth, hhead] at *
      exact ⟨.tail halike hinlaid, by omega⟩

end

/-- **Functions in one of which `x` makes way for `r`**, wherever it stands, numbered anew. -/
theorem inlaidFunctions_number (hP : Shifts x r P) (fs : List Function) {a : NodeId}
    (h : Function.numberAll a fs = fs) (hx : x ∈ fs.flatMap Function.walk) :
    OneOff (AlikeFunction P) (InlaidFunction P x (r.number x.id).1) fs
      (Function.numberAll a (fs.map (Function.replace x.id r))) := by
  obtain ⟨f, hf, hx⟩ := List.mem_flatMap.mp hx
  obtain ⟨s, hs, hx⟩ := List.mem_flatMap.mp hx
  exact functionsWith_number hP ⟨fun h => h, inlaid_number hP _⟩ fs h ⟨f, hf, s, hs, hx⟩

/-! ### Where the part stands -/

mutual

/-- What makes way is part of what it makes way in. -/
theorem Inlaid.mem : {e e' : Expr} → Inlaid P x r e e' → x ∈ e.walk
  | _, _, .here => x.mem_walk_self
  | _, _, .borrow _ h | _, _, .deref _ h | _, _, .field _ h | _, _, .closure _ _ h =>
    List.mem_cons_of_mem _ h.mem
  | _, _, .callee _ h _ | _, _, .receiver _ h _ =>
    List.mem_cons_of_mem _ (List.mem_append_left _ h.mem)
  | _, _, .call _ _ h | _, _, .methodCall _ _ h =>
    List.mem_cons_of_mem _ (List.mem_append_right _ h.mem)

/-- So it is in a list of expressions. -/
theorem InlaidAll.mem : {es es' : List Expr} → InlaidAll P x r es es' → x ∈ Expr.walkAll es
  | _, _, .head h _ => List.mem_append_left _ h.mem
  | _, _, .tail _ h => List.mem_append_right _ h.mem

end

/-- What makes way in a function is part of it. -/
theorem FunctionWith.mem {S : Expr → Expr → Prop} {f f' : Function} (h : FunctionWith P S f f')
    (hS : ∀ {e e'}, S e e' → x ∈ e.walk) : x ∈ f.walk := by
  -- the one statement in which something makes way is found by going down the body
  have hstmts {ss ss' : List Stmt} (h : OneOff (StmtWith (Alike P)) (StmtWith S) ss ss') :
      x ∈ ss.flatMap fun s => s.expr.walk := by
    induction h with
    | here hs _ =>
      refine List.mem_append_left _ ?_
      cases hs with
      | letStmt _ he | exprStmt he => exact hS he
    | there _ _ ih => exact List.mem_append_right _ ih
  exact hstmts h.stmts

end ClosureLint.Core
