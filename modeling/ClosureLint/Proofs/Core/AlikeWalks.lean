import ClosureLint.Proofs.Core.AlikeBodies

/-!
# Walks over trees that differ in identities

* `Alike.walk`, `Fixed.walk` — trees that are alike are walked side by side, but for the argument
  that is replaced.
* `Kin` — two expressions are alike, or so but for that argument.
* `Kin.unnumbered` — the second is what replacing makes of the first.
-/

namespace ClosureLint.Core

open ClosureLint.Syntax (Path TypeExpr)

variable {P : NodeId → NodeId → Prop} {x r y : Expr}

/-- Two expressions are the same up to identities, or `r` stands in the place of the argument `x`
in the second. -/
def Kin (P : NodeId → NodeId → Prop) (x r e e' : Expr) : Prop := Alike P e e' ∨ Fixed P x r e e'

/-- In both cases the roots are paired. -/
theorem Kin.node {e e' : Expr} (h : Kin P x r e e') : Pairs P e.node e'.node :=
  h.elim Alike.node Fixed.node

mutual

/-- **Trees that are alike** are walked side by side. -/
theorem Alike.walk : {e e' : Expr} → Alike P e e' → List.Forall₂ (Alike P) e.walk e'.walk
  | _, _, .path h => .cons (.path h) .nil
  | _, _, .int h => .cons (.int h) .nil
  | _, _, .str h => .cons (.str h) .nil
  | _, _, .borrow h hs => .cons (.borrow h hs) hs.walk
  | _, _, .deref h hs => .cons (.deref h hs) hs.walk
  | _, _, .field h hs => .cons (.field h hs) hs.walk
  | _, _, .call h hc has => .cons (.call h hc has) (List.rel_append hc.walk has.walk)
  | _, _, .methodCall h hc has => .cons (.methodCall h hc has) (List.rel_append hc.walk has.walk)
  | _, _, .closure h hp hb => .cons (.closure h hp hb) hb.walk

/-- So are lists of such trees. -/
theorem AlikeAll.walk : {es es' : List Expr} → AlikeAll P es es' →
    List.Forall₂ (Alike P) (Expr.walkAll es) (Expr.walkAll es')
  | _, _, .nil => .nil
  | _, _, .cons h hs => List.rel_append h.walk hs.walk

end

/-- Lists that are alike are so member by member. -/
theorem AlikeAll.forall₂ : {es es' : List Expr} → AlikeAll P es es' → List.Forall₂ (Alike P) es es'
  | _, _, .nil => .nil
  | _, _, .cons h hs => .cons h hs.forall₂

/-- What is alike is kin. -/
theorem kin_of_alike {es es' : List Expr} (h : List.Forall₂ (Alike P) es es') :
    List.Forall₂ (Kin P x r) es es' := h.imp fun _ _ => .inl

/-- The walks go side by side, but for the argument `x` of a place with all that is inside of it, and
for `r`, which is walked instead. -/
inductive Aside (P : NodeId → NodeId → Prop) (x r : Expr) : List Expr → List Expr → Prop
  | intro {outer outer' between between' behind behind' : List Expr} {place place' : Expr} :
    List.Forall₂ (Kin P x r) outer outer' → Fixed P x r place place' → x ∈ place.arguments →
    List.Forall₂ (Kin P x r) between between' → List.Forall₂ (Kin P x r) behind behind' →
    Aside P x r (outer ++ place :: (between ++ (x.walk ++ behind)))
      (outer' ++ place' :: (between' ++ (r.walk ++ behind')))

/-- So they go along the arguments of that place. -/
inductive Within (P : NodeId → NodeId → Prop) (x r : Expr) : List Expr → List Expr → Prop
  | intro {between between' behind behind' : List Expr} :
    List.Forall₂ (Kin P x r) between between' → List.Forall₂ (Kin P x r) behind behind' →
    Within P x r (between ++ (x.walk ++ behind)) (between' ++ (r.walk ++ behind'))

section

variable {es es' fs fs' : List Expr}

/-- Something alike in front of both. -/
theorem Within.prepend (hfs : List.Forall₂ (Alike P) fs fs') (h : Within P x r es es') :
    Within P x r (fs ++ es) (fs' ++ es') := by
  obtain ⟨hbetween, hbehind⟩ := h
  rw [← List.append_assoc fs, ← List.append_assoc fs']
  exact .intro (List.rel_append (kin_of_alike hfs) hbetween) hbehind

namespace Aside

/-- One more on both sides. -/
theorem cons {e e' : Expr} (he : Kin P x r e e') (h : Aside P x r es es') :
    Aside P x r (e :: es) (e' :: es') := by
  obtain ⟨houter, hplace, hx, hbetween, hbehind⟩ := h
  exact .intro (.cons he houter) hplace hx hbetween hbehind

/-- The place itself, and its arguments. -/
theorem here {e e' : Expr} (he : Fixed P x r e e') (hx : x ∈ e.arguments)
    (h : Within P x r es es') : Aside P x r (e :: es) (e' :: es') := by
  obtain ⟨hbetween, hbehind⟩ := h
  exact .intro .nil he hx hbetween hbehind

/-- Something alike in front of both, -/
theorem prepend (hfs : List.Forall₂ (Alike P) fs fs') (h : Aside P x r es es') :
    Aside P x r (fs ++ es) (fs' ++ es') := by
  obtain ⟨houter, hplace, hx, hbetween, hbehind⟩ := h
  rw [← List.append_assoc fs, ← List.append_assoc fs']
  exact .intro (List.rel_append (kin_of_alike hfs) houter) hplace hx hbetween hbehind

/-- or behind both. -/
theorem append (h : Aside P x r es es') (hfs : List.Forall₂ (Alike P) fs fs') :
    Aside P x r (es ++ fs) (es' ++ fs') := by
  obtain ⟨houter, hplace, hx, hbetween, hbehind⟩ := h
  simp only [List.append_assoc, List.cons_append]
  exact .intro houter hplace hx hbetween (List.rel_append hbehind (kin_of_alike hfs))

end Aside

end

mutual

/-- **An expression in which an argument is replaced** is walked as before, but for the argument. -/
theorem Fixed.walk : {e e' : Expr} → Fixed P x r e e' → Aside P x r e.walk e'.walk
  | _, _, .borrow h hs => .cons (.inr (.borrow h hs)) hs.walk
  | _, _, .deref h hs => .cons (.inr (.deref h hs)) hs.walk
  | _, _, .field h hs => .cons (.inr (.field h hs)) hs.walk
  | _, _, .callee h hc has => .cons (.inr (.callee h hc has)) (hc.walk.append has.walk)
  | _, _, .call h hc has => by
    -- either the argument is one of this call, or the place is inside of an argument
    rcases has.walk with ⟨hx, hwithin⟩ | haside
    · exact .here (.call h hc has) hx (hwithin.prepend hc.walk)
    · exact .cons (.inr (.call h hc has)) (haside.prepend hc.walk)
  | _, _, .receiver h hc has => .cons (.inr (.receiver h hc has)) (hc.walk.append has.walk)
  | _, _, .methodCall h hc has => by
    -- the same two places in a method call
    rcases has.walk with ⟨hx, hwithin⟩ | haside
    · exact .here (.methodCall h hc has) hx (hwithin.prepend hc.walk)
    · exact .cons (.inr (.methodCall h hc has)) (haside.prepend hc.walk)
  | _, _, .closure h hp hb => .cons (.inr (.closure h hp hb)) hb.walk

/-- The argument is one of these, or it is that of a place inside of one. -/
theorem FixedAll.walk : {es es' : List Expr} → FixedAll P x r es es' →
    x ∈ es ∧ Within P x r (Expr.walkAll es) (Expr.walkAll es') ∨
      Aside P x r (Expr.walkAll es) (Expr.walkAll es')
  | _, _, .here hs => .inl ⟨List.mem_cons_self, .intro .nil (kin_of_alike hs.walk)⟩
  | _, _, .head h hs => .inr (h.walk.append hs.walk)
  | _, _, .tail h hs =>
    hs.walk.imp (fun ⟨hx, hwithin⟩ => ⟨List.mem_cons_of_mem _ hx, hwithin.prepend h.walk⟩)
      fun haside => haside.prepend h.walk

end

/-! ### Arguments of a place -/

/-- A node that is paired has not an identity without a counterpart. -/
theorem Pairs.ne {i : NodeId} {n n' : Node} (h : Pairs P n n') (hi : ¬ ∃ j, P i j) : n.id ≠ i :=
  fun he => hi ⟨n'.id, he ▸ h.id⟩

/-- What is not paired is not among expressions that have counterparts. -/
theorem notMem_of_kin (hx : ¬ ∃ j, P x.id j) {es es' : List Expr}
    (h : List.Forall₂ (Kin P x r) es es') : x ∉ es := by
  induction h with
  | nil => exact List.not_mem_nil
  | cons h _ ih =>
    -- every one of these has a counterpart, and `x` has none
    exact fun hmem => (List.mem_cons.mp hmem).elim (fun he => h.node.ne hx (he ▸ rfl)) ih

/-- Arguments among which the one that is replaced is not. -/
theorem FixedAll.kin {es es' : List Expr} (h : FixedAll P x r es es') (hx : x ∉ es) :
    List.Forall₂ (Kin P x r) es es' := by
  induction es generalizing es' with
  | nil => cases h
  | cons e es ih =>
    -- only the first of the three forms has the argument among them
    cases h with
    | here => exact absurd List.mem_cons_self hx
    | head h hs => exact .cons (.inr h) (kin_of_alike hs.forall₂)
    | tail h hs => exact .cons (.inl h) (ih hs fun hmem => hx (List.mem_cons_of_mem _ hmem))

/-- Arguments among which it is. -/
theorem FixedAll.split {es es' : List Expr} (h : FixedAll P x r es es') (hx : ¬ ∃ j, P x.id j)
    (hmem : x ∈ es) : ∃ as as' bs bs', es = as ++ x :: bs ∧ es' = as' ++ r :: bs' ∧
      List.Forall₂ (Kin P x r) as as' ∧ List.Forall₂ (Kin P x r) bs bs' := by
  induction es generalizing es' with
  | nil => cases h
  | cons e es ih =>
    cases h with
    | here hs => exact ⟨[], [], _, _, rfl, rfl, .nil, kin_of_alike hs.forall₂⟩
    | head h hs =>
      -- all of these have counterparts, so `x` is not among them
      have hkin : List.Forall₂ (Kin P x r) (e :: es) _ := .cons (.inr h) (kin_of_alike hs.forall₂)
      exact absurd hmem (notMem_of_kin hx hkin)
    | tail h hs =>
      -- the first of them has a counterpart, so `x` is another
      have hes : x ∈ es := (List.mem_cons.mp hmem).resolve_left fun he => h.node.ne hx (he ▸ rfl)
      obtain ⟨as, as', bs, bs', rfl, rfl, has, hbs⟩ := ih hs hes
      exact ⟨e :: as, _ :: as', bs, bs', rfl, rfl, .cons (.inl h) has, hbs⟩

/-! ### Walks over bodies -/

/-- Statements that are related have related expressions. -/
theorem StmtWith.expr {E : Expr → Expr → Prop} {s s' : Stmt} (h : StmtWith E s s') :
    E s.expr s'.expr := by
  cases h <;> assumption

/-- The walk over statements that are alike. -/
theorem walk_of_stmts {ss ss' : List Stmt} (h : List.Forall₂ (StmtWith (Alike P)) ss ss') :
    List.Forall₂ (Alike P) (ss.flatMap fun s => s.expr.walk) (ss'.flatMap fun s => s.expr.walk) := by
  induction h with
  | nil => exact .nil
  | cons h _ ih => exact List.rel_append h.expr.walk ih

/-- The walk over statements in one of which an argument is replaced. -/
theorem aside_of_stmts {ss ss' : List Stmt}
    (h : OneOff (StmtWith (Alike P)) (StmtWith (Fixed P x r)) ss ss') :
    Aside P x r (ss.flatMap fun s => s.expr.walk) (ss'.flatMap fun s => s.expr.walk) := by
  induction h with
  | here h hs => exact h.expr.walk.append (walk_of_stmts hs)
  | there h _ ih => exact .prepend h.expr.walk ih

/-- **Functions in one of which an argument is replaced** are walked as before, but for the
argument. -/
theorem aside_of_functions {fs fs' : List Function}
    (h : OneOff (AlikeFunction P) (FixedFunction P x r) fs fs') :
    Aside P x r (fs.flatMap Function.walk) (fs'.flatMap Function.walk) := by
  -- all other functions are alike
  have hrest {fs fs' : List Function} (h : List.Forall₂ (AlikeFunction P) fs fs') :
      List.Forall₂ (Alike P) (fs.flatMap Function.walk) (fs'.flatMap Function.walk) := by
    induction h with
    | nil => exact .nil
    | cons h _ ih => exact List.rel_append (walk_of_stmts h.stmts) ih
  induction h with
  | here h hs => exact (aside_of_stmts h.stmts).append (hrest hs)
  | there h _ ih => exact .prepend (walk_of_stmts h.stmts) ih

/-! ### What comes of replacing -/

mutual

/-- Without identities, trees that are alike are the same. -/
theorem Alike.unnumbered : {e e' : Expr} → Alike P e e' → e'.unnumbered = e.unnumbered
  | _, _, .path h | _, _, .int h | _, _, .str h => by
    simp only [Expr.unnumbered, Node.unnumbered, Node.withId, h.span]
  | _, _, .borrow h hs | _, _, .deref h hs | _, _, .field h hs => by
    simp only [Expr.unnumbered, Node.unnumbered, Node.withId, h.span, hs.unnumbered]
  | _, _, .call h hc has | _, _, .methodCall h hc has => by
    simp only [Expr.unnumbered, Node.unnumbered, Node.withId, h.span, hc.unnumbered, has.unnumbered]
  | _, _, .closure h hp hb => by
    simp only [Expr.unnumbered, Node.unnumbered, Node.withId, h.span, hp, hb.unnumbered]

/-- The same for lists of trees. -/
theorem AlikeAll.unnumbered : {es es' : List Expr} → AlikeAll P es es' →
    Expr.unnumberedAll es' = Expr.unnumberedAll es
  | _, _, .nil => rfl
  | _, _, .cons h hs => by rw [Expr.unnumberedAll, Expr.unnumberedAll, h.unnumbered, hs.unnumbered]

end

mutual

/-- An identity that is not paired is not in a tree that has a counterpart. -/
theorem Alike.replace {i : NodeId} (hi : ¬ ∃ j, P i j) : {e e' : Expr} → Alike P e e' →
    Expr.replace i y e = e
  | _, _, .path h | _, _, .int h | _, _, .str h => if_neg (h.ne hi)
  | _, _, .borrow h hs | _, _, .deref h hs | _, _, .field h hs =>
    (if_neg (h.ne hi)).trans (by rw [hs.replace hi])
  | _, _, .call h hc has | _, _, .methodCall h hc has =>
    (if_neg (h.ne hi)).trans (by rw [hc.replace hi, has.replace hi])
  | _, _, .closure h _ hb => (if_neg (h.ne hi)).trans (by rw [hb.replace hi])

theorem AlikeAll.replace {i : NodeId} (hi : ¬ ∃ j, P i j) : {es es' : List Expr} →
    AlikeAll P es es' → Expr.replaceAll i y es = es
  | _, _, .nil => rfl
  | _, _, .cons h hs => by rw [Expr.replaceAll, h.replace hi, hs.replace hi]

end

mutual

/-- The second tree is what replacing the argument makes of the first. -/
theorem Fixed.unnumbered (hr : r.unnumbered = y.unnumbered) (hx : ¬ ∃ j, P x.id j) :
    {e e' : Expr} → Fixed P x r e e' → e'.unnumbered = (Expr.replace x.id y e).unnumbered
  | _, _, .borrow h hs | _, _, .deref h hs | _, _, .field h hs => by
    rw [Expr.replace, if_neg (h.ne hx)]
    simp only [Expr.unnumbered, Node.unnumbered, Node.withId, h.span, hs.unnumbered hr hx]
  | _, _, .callee h hc has | _, _, .receiver h hc has => by
    rw [Expr.replace, if_neg (h.ne hx), has.replace hx]
    simp only [Expr.unnumbered, Node.unnumbered, Node.withId, h.span, hc.unnumbered hr hx,
      has.unnumbered]
  | _, _, .call h hc has | _, _, .methodCall h hc has => by
    rw [Expr.replace, if_neg (h.ne hx), hc.replace hx]
    simp only [Expr.unnumbered, Node.unnumbered, Node.withId, h.span, hc.unnumbered,
      has.unnumbered hr hx]
  | _, _, .closure h hp hb => by
    rw [Expr.replace, if_neg (h.ne hx)]
    simp only [Expr.unnumbered, Node.unnumbered, Node.withId, h.span, hp, hb.unnumbered hr hx]

theorem FixedAll.unnumbered (hr : r.unnumbered = y.unnumbered) (hx : ¬ ∃ j, P x.id j) :
    {es es' : List Expr} → FixedAll P x r es es' →
    Expr.unnumberedAll es' = Expr.unnumberedAll (Expr.replaceAll x.id y es)
  | _, _, .here hs => by
    rw [Expr.replaceAll, Expr.replace_self rfl, hs.replace hx, Expr.unnumberedAll,
      Expr.unnumberedAll, hr, hs.unnumbered]
  | _, _, .head h hs => by
    rw [Expr.replaceAll, hs.replace hx, Expr.unnumberedAll, Expr.unnumberedAll,
      h.unnumbered hr hx, hs.unnumbered]
  | _, _, .tail h hs => by
    rw [Expr.replaceAll, h.replace hx, Expr.unnumberedAll, Expr.unnumberedAll, h.unnumbered,
      hs.unnumbered hr hx]

end

/-- **What has a counterpart** has what replacing the argument makes of it. -/
theorem Kin.unnumbered {e e' : Expr} (h : Kin P x r e e') (hr : r.unnumbered = y.unnumbered)
    (hx : ¬ ∃ j, P x.id j) : e'.unnumbered = (Expr.replace x.id y e).unnumbered := by
  rcases h with h | h
  · rw [h.replace hx, h.unnumbered]
  · exact h.unnumbered hr hx

end ClosureLint.Core
