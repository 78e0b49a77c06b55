import ClosureLint.Core.Number
import ClosureLint.Core.Walk

/-!
# Nodes in the order in which they are walked

* `Expr.inside` — what is walked after an expression itself.
* `Expr.Numbered` — identities grow along the walk and stay within two bounds.
* `Expr.numbered_number`, `Function.numbered_number` — numbering gives such identities, so no two
  nodes share one.
-/

namespace ClosureLint.Core

/-! ### Walking -/

/-- The expressions inside an expression, without itself. -/
def Expr.inside : Expr → List Expr
  | .path .. | .int .. | .str .. => []
  | .borrow _ _ subject | .deref _ subject | .field _ subject _ => subject.walk
  | .call _ callee args => callee.walk ++ Expr.walkAll args
  | .methodCall _ receiver _ args => receiver.walk ++ Expr.walkAll args
  | .closure _ _ _ body => body.walk

/-- A walk begins with the expression itself. -/
theorem Expr.walk_eq (e : Expr) : e.walk = e :: e.inside := by
  cases e <;> rfl

/-- So the expression is in its walk. -/
theorem Expr.mem_walk_self (e : Expr) : e ∈ e.walk := by
  rw [walk_eq]
  exact List.mem_cons_self

/-- What holds for the whole walk, holds for where it begins and for what lies inside. -/
theorem Expr.forall_walk {e : Expr} {P : Expr → Prop} :
    (∀ x ∈ e.walk, P x) ↔ P e ∧ ∀ x ∈ e.inside, P x := by
  rw [walk_eq, List.forall_mem_cons]

/-- A walk of expressions goes through the walk of each. -/
theorem Expr.mem_walkAll {x : Expr} {es : List Expr} :
    x ∈ Expr.walkAll es ↔ ∃ e ∈ es, x ∈ e.walk := by
  induction es with
  | nil => simp [walkAll]
  | cons e es ih => simp [walkAll, ih]

/-- What lies inside is in the walk. -/
theorem Expr.walk_of_inside {x e : Expr} (h : x ∈ e.inside) : x ∈ e.walk := by
  rw [walk_eq]
  exact List.mem_cons_of_mem e h

mutual

/-- What lies inside an expression of a walk lies inside the expression where the walk began. -/
theorem Expr.inside_trans : (e : Expr) → {x y : Expr} → x ∈ e.walk → y ∈ x.inside → y ∈ e.inside
  | .path .., x, y, hx, hy | .int .., x, y, hx, hy | .str .., x, y, hx, hy => by
    obtain rfl := List.mem_singleton.mp hx
    exact hy
  | .borrow _ _ subject, x, y, hx, hy | .deref _ subject, x, y, hx, hy
  | .field _ subject _, x, y, hx, hy | .closure _ _ _ subject, x, y, hx, hy => by
    rcases List.mem_cons.mp hx with rfl | hx
    · exact hy
    · exact walk_of_inside (inside_trans subject hx hy)
  | .call _ callee args, x, y, hx, hy | .methodCall _ callee _ args, x, y, hx, hy => by
    rcases List.mem_cons.mp hx with rfl | hx
    · exact hy
    · exact List.mem_append.mpr <| (List.mem_append.mp hx).imp
        (fun hx => walk_of_inside (inside_trans callee hx hy))
        (fun hx => walkAll_trans args hx hy)

/-- The same for a walk over several expressions. -/
theorem Expr.walkAll_trans : (es : List Expr) → {x y : Expr} → x ∈ Expr.walkAll es →
    y ∈ x.inside → y ∈ Expr.walkAll es
  | e :: es, _, _, hx, hy => List.mem_append.mpr <| (List.mem_append.mp hx).imp
    (fun hx => walk_of_inside (inside_trans e hx hy)) (fun hx => walkAll_trans es hx hy)

end

/-- What is in the walk of something in a walk is in that walk. -/
theorem Expr.walk_trans {e x y : Expr} (hx : x ∈ e.walk) (hy : y ∈ x.walk) : y ∈ e.walk := by
  rw [walk_eq, List.mem_cons] at hy
  rcases hy with rfl | hy
  · exact hx
  · exact walk_of_inside (inside_trans e hx hy)

mutual

/-- The walk from an expression is one stretch of every walk that comes past it. -/
theorem Expr.walk_sublist : (e : Expr) → {x : Expr} → x ∈ e.walk → x.walk.Sublist e.walk
  | .path .., _, hx | .int .., _, hx | .str .., _, hx => by
    obtain rfl := List.mem_singleton.mp hx
    exact List.Sublist.refl _
  | .borrow _ _ subject, _, hx | .deref _ subject, _, hx | .field _ subject _, _, hx
  | .closure _ _ _ subject, _, hx => by
    rcases List.mem_cons.mp hx with rfl | hx
    · exact List.Sublist.refl _
    · exact (walk_sublist subject hx).cons _
  -- the walk through the arguments comes behind the one through the callee
  | .call _ callee args, _, hx | .methodCall _ callee _ args, _, hx => by
    rcases List.mem_cons.mp hx with rfl | hx
    · exact List.Sublist.refl _
    · refine List.Sublist.cons _ ?_
      rcases List.mem_append.mp hx with hx | hx
      · exact (walk_sublist callee hx).trans (List.sublist_append_left _ _)
      · exact (walkAll_sublist args hx).trans (List.sublist_append_right _ _)

/-- So it is with walks of expressions. -/
theorem Expr.walkAll_sublist : (es : List Expr) → {x : Expr} → x ∈ Expr.walkAll es →
    x.walk.Sublist (Expr.walkAll es)
  | e :: es, _, hx => (List.mem_append.mp hx).elim
    (fun hx => (walk_sublist e hx).trans (List.sublist_append_left _ _))
    (fun hx => (walkAll_sublist es hx).trans (List.sublist_append_right _ _))

end

/-- The list for one element is a stretch of the lists for all. -/
private theorem sublist_flatMap {α β : Type} {l : List α} {g : α → List β} {a : α} (h : a ∈ l) :
    (g a).Sublist (l.flatMap g) := by
  obtain ⟨l₁, l₂, rfl⟩ := List.append_of_mem h
  rw [List.flatMap_append, List.flatMap_cons]
  exact (List.sublist_append_left _ _).trans (List.sublist_append_right _ _)

/-- The walk from an expression is one stretch of the walk through all functions. -/
theorem Function.walk_sublist {fs : List Function} {x : Expr}
    (hx : x ∈ fs.flatMap Function.walk) : x.walk.Sublist (fs.flatMap Function.walk) := by
  obtain ⟨f, hf, hx⟩ := List.mem_flatMap.mp hx
  obtain ⟨st, hst, hx⟩ := List.mem_flatMap.mp hx
  exact ((Expr.walk_sublist _ hx).trans (sublist_flatMap (g := fun st => st.expr.walk) hst)).trans
    (sublist_flatMap (g := Function.walk) hf)

/-- What is in the walk of something in a function is in the function. -/
theorem Function.walk_trans {f : Function} {x y : Expr} (hx : x ∈ f.walk) (hy : y ∈ x.walk) :
    y ∈ f.walk := by
  obtain ⟨st, hst, hx⟩ := List.mem_flatMap.mp hx
  exact List.mem_flatMap.mpr ⟨st, hst, Expr.walk_trans hx hy⟩

/-! ### Identities -/

/-- The identities of `es` grow, and lie from `first` up to before `after`. -/
structure Numbered (first after : NodeId) (es : List Expr) : Prop where
  sorted : es.Pairwise fun x y => x.id < y.id
  lower : ∀ x ∈ es, first ≤ x.id
  upper : ∀ x ∈ es, x.id < after

namespace Numbered

variable {a b c : NodeId} {es fs : List Expr}

/-- No expressions have their identities in order. -/
theorem nil : Numbered a b [] :=
  ⟨List.Pairwise.nil, nofun, nofun⟩

/-- Expressions whose identities stay within bounds stay within wider ones. -/
theorem mono (h : Numbered b c es) (hab : a ≤ b) {d : NodeId} (hcd : c ≤ d) : Numbered a d es where
  sorted := h.sorted
  lower := fun x hx => Int.le_trans hab (h.lower x hx)
  upper := fun x hx => Int.lt_of_lt_of_le (h.upper x hx) hcd

/-- Expressions with lower identities stand in front of those with higher ones. -/
theorem append (h : Numbered a b es) (h' : Numbered b c fs) (hab : a ≤ b) (hbc : b ≤ c) :
    Numbered a c (es ++ fs) where
  sorted := List.pairwise_append.mpr ⟨h.sorted, h'.sorted, fun x hx y hy =>
    Int.lt_of_lt_of_le (h.upper x hx) (h'.lower y hy)⟩
  lower := fun x hx => (List.mem_append.mp hx).elim (h.lower x)
    fun hx => Int.le_trans hab (h'.lower x hx)
  upper := fun x hx => (List.mem_append.mp hx).elim
    (fun hx => Int.lt_of_lt_of_le (h.upper x hx) hbc) (h'.upper x)

/-- An expression with the lowest identity stands in front. -/
theorem cons {e : Expr} (he : e.id = a) (h : Numbered (a + 1) b es) (hab : a < b) :
    Numbered a b (e :: es) where
  sorted := List.pairwise_cons.mpr
    ⟨fun x hx => he ▸ Int.lt_of_add_one_le (h.lower x hx), h.sorted⟩
  -- the first has the lowest identity, and the others begin behind it
  lower := fun x hx => by
    rcases List.mem_cons.mp hx with rfl | hx
    · exact Int.le_of_eq he.symm
    · exact Int.le_of_lt (Int.lt_of_add_one_le (h.lower x hx))
  upper := fun x hx => by
    rcases List.mem_cons.mp hx with rfl | hx
    · exact he ▸ hab
    · exact h.upper x hx

/-- No two nodes share an identity. -/
theorem eq_of_id (h : Numbered a b es) {x y : Expr} (hx : x ∈ es) (hy : y ∈ es)
    (hid : x.id = y.id) : x = y := by
  have hs := h.sorted
  -- only the order matters, which the rest of the list has in its turn
  clear h
  induction es with
  | nil => nomatch hx
  | cons e es ih =>
    obtain ⟨he, hs⟩ := List.pairwise_cons.mp hs
    rw [List.mem_cons] at hx hy
    rcases hx with rfl | hx <;> rcases hy with rfl | hy
    · rfl
    · exact absurd (hid ▸ he y hy) (Int.lt_irrefl _)
    · exact absurd (hid ▸ he x hx) (Int.lt_irrefl _)
    · exact ih hx hy hs

end Numbered

/-! ### Numbering goes up -/

/-- A bound above the next identity is above this one. -/
private theorem lt_of_succ_lt {a b : NodeId} (h : a + 1 < b) : a < b :=
  Int.lt_trans (Int.lt_succ a) h

/-- A bound that is at least the next identity is above this one. -/
private theorem lt_of_succ_le {a b : NodeId} (h : a + 1 ≤ b) : a < b :=
  Int.lt_of_add_one_le h

mutual

/-- A pattern takes an identity at least. -/
theorem Pattern.lt_number : (p : Pattern) → (next : NodeId) → next < (p.number next).2
  | .binding .., next | .wildcard _, next => Int.lt_succ next
  | .tuple _ elems, next => lt_of_succ_le (Pattern.le_numberAll elems (next + 1))
  | .ref _ inner, next => lt_of_succ_lt (Pattern.lt_number inner (next + 1))

/-- Patterns take some identities or none. -/
theorem Pattern.le_numberAll :
    (ps : List Pattern) → (next : NodeId) → next ≤ (Pattern.numberAll next ps).2
  | [], next => Int.le_refl next
  | p :: ps, next =>
    Int.le_trans (Int.le_of_lt (Pattern.lt_number p next)) (Pattern.le_numberAll ps _)

end

/-- A parameter takes an identity at least. -/
theorem Param.lt_number (p : Param) (next : NodeId) : next < (p.number next).2 :=
  lt_of_succ_lt (Pattern.lt_number p.pattern (next + 1))

/-- Parameters take some or none. -/
theorem Param.le_numberAll (ps : List Param) (next : NodeId) :
    next ≤ (Param.numberAll next ps).2 := by
  induction ps generalizing next with
  | nil => exact Int.le_refl next
  | cons p ps ih => exact Int.le_trans (Int.le_of_lt (p.lt_number next)) (ih _)

mutual

/-- An expression takes an identity at least. -/
theorem Expr.lt_number : (e : Expr) → (next : NodeId) → next < (e.number next).2
  | .path .., next | .int .., next | .str .., next => Int.lt_succ next
  | .borrow _ _ subject, next | .deref _ subject, next | .field _ subject _, next =>
    lt_of_succ_lt (Expr.lt_number subject (next + 1))
  | .call _ callee args, next | .methodCall _ callee _ args, next =>
    Int.lt_of_lt_of_le (lt_of_succ_lt (Expr.lt_number callee (next + 1)))
      (Expr.le_numberAll args _)
  | .closure _ params _ body, next =>
    lt_of_succ_le (Int.le_trans (Param.le_numberAll params (next + 1))
      (Int.le_of_lt (Expr.lt_number body _)))

/-- Expressions take some or none. -/
theorem Expr.le_numberAll :
    (es : List Expr) → (next : NodeId) → next ≤ (Expr.numberAll next es).2
  | [], next => Int.le_refl next
  | e :: es, next =>
    Int.le_trans (Int.le_of_lt (Expr.lt_number e next)) (Expr.le_numberAll es _)

end

/-- A statement takes an identity at least. -/
theorem Stmt.lt_number (s : Stmt) (next : NodeId) : next < (s.number next).2 := by
  cases s with
  | letStmt node pattern declared value =>
    exact Int.lt_trans (lt_of_succ_lt (pattern.lt_number (next + 1))) (value.lt_number _)
  | exprStmt node e => exact lt_of_succ_lt (e.lt_number (next + 1))

/-- Statements take some or none. -/
theorem Stmt.le_numberAll (ss : List Stmt) (next : NodeId) :
    next ≤ (Stmt.numberAll next ss).2 := by
  induction ss generalizing next with
  | nil => exact Int.le_refl next
  | cons s ss ih => exact Int.le_trans (Int.le_of_lt (s.lt_number next)) (ih _)

/-- A function takes an identity at least. -/
theorem Function.lt_number (f : Function) (next : NodeId) : next < (f.number next).2 :=
  lt_of_succ_le <| Int.le_trans (Param.le_numberAll f.params (next + 1)) <|
    Int.le_of_lt (lt_of_succ_le (Stmt.le_numberAll f.body.stmts _))

/-! ### Numbering along the walk -/

mutual

/-- An expression with its identities given out from `next` on. -/
theorem Expr.numbered_number : (e : Expr) → (next : NodeId) →
    Numbered next (e.number next).2 (e.number next).1.walk
  | .path .., next | .int .., next | .str .., next =>
    Numbered.cons rfl Numbered.nil (Int.lt_succ next)
  | .borrow n m subject, next =>
    Numbered.cons rfl (Expr.numbered_number subject (next + 1)) ((Expr.borrow n m subject).lt_number next)
  | .deref n subject, next =>
    Numbered.cons rfl (Expr.numbered_number subject (next + 1)) ((Expr.deref n subject).lt_number next)
  | .field n subject name, next =>
    Numbered.cons rfl (Expr.numbered_number subject (next + 1))
      ((Expr.field n subject name).lt_number next)
  | .call n callee args, next =>
    Numbered.cons rfl
      ((Expr.numbered_number callee (next + 1)).append (Expr.numbered_numberAll args _)
        (Int.le_of_lt (callee.lt_number _)) (Expr.le_numberAll args _))
      ((Expr.call n callee args).lt_number next)
  | .methodCall n receiver method args, next =>
    Numbered.cons rfl
      ((Expr.numbered_number receiver (next + 1)).append (Expr.numbered_numberAll args _)
        (Int.le_of_lt (receiver.lt_number _)) (Expr.le_numberAll args _))
      ((Expr.methodCall n receiver method args).lt_number next)
  | .closure n params ret body, next =>
    Numbered.cons rfl
      ((Expr.numbered_number body _).mono (Param.le_numberAll params (next + 1)) (Int.le_refl _))
      ((Expr.closure n params ret body).lt_number next)

/-- Several expressions with their identities given out from `next` on. -/
theorem Expr.numbered_numberAll : (es : List Expr) → (next : NodeId) →
    Numbered next (Expr.numberAll next es).2 (Expr.walkAll (Expr.numberAll next es).1)
  | [], _ => Numbered.nil
  | e :: es, next =>
    (Expr.numbered_number e next).append (Expr.numbered_numberAll es _)
      (Int.le_of_lt (e.lt_number next)) (Expr.le_numberAll es _)

end

/-- A statement with its identities given out from `next` on. -/
theorem Stmt.numbered_number (s : Stmt) (next : NodeId) :
    Numbered next (s.number next).2 (s.number next).1.expr.walk := by
  cases s with
  | letStmt node pattern declared value =>
    -- the pattern takes its identities in front of the value, and no expression stands in it
    exact (value.numbered_number _).mono
      (Int.le_of_lt (lt_of_succ_lt (pattern.lt_number (next + 1)))) (Int.le_refl _)
  | exprStmt node e =>
    exact (e.numbered_number _).mono (Int.le_of_lt (Int.lt_succ next)) (Int.le_refl _)

/-- Statements with their identities given out one behind the other. -/
theorem Stmt.numbered_numberAll (ss : List Stmt) (next : NodeId) :
    Numbered next (Stmt.numberAll next ss).2
      ((Stmt.numberAll next ss).1.flatMap fun s => s.expr.walk) := by
  induction ss generalizing next with
  | nil => exact Numbered.nil
  | cons s ss ih =>
    rw [Stmt.numberAll, List.flatMap_cons]
    exact (s.numbered_number next).append (ih _)
      (Int.le_of_lt (s.lt_number next)) (Stmt.le_numberAll ss _)

/-- **A numbered function has no identity twice**: identities grow along its walk. -/
theorem Function.numbered_number (f : Function) (next : NodeId) :
    Numbered next (f.number next).2 (f.number next).1.walk :=
  (Stmt.numbered_numberAll f.body.stmts _).mono
    (Int.le_of_lt (lt_of_succ_le (Int.le_trans (Param.le_numberAll f.params (next + 1))
      (Int.le_of_lt (Int.lt_succ _))))) (Int.le_refl _)

end ClosureLint.Core
