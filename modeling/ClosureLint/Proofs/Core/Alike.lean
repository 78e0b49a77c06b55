import ClosureLint.Proofs.Core.Unnumbered

/-!
# Trees that differ in identities

* `Alike` — two trees are the same up to identities, and these are paired.
* `Fixed` — so they are but for one argument of a call, in whose place something else stands.
* `Shifted` — how identities are paired when one expression makes way for another.
* `alike_number`, `fixed_number` — trees numbered anew are of that kind.
-/

namespace ClosureLint.Core

open ClosureLint.Syntax (Path TypeExpr)

variable {P : NodeId → NodeId → Prop} {x r : Expr}

/-- Two nodes are paired and stand at the same place. -/
structure Pairs (P : NodeId → NodeId → Prop) (n n' : Node) : Prop where
  id : P n.id n'.id
  span : n'.span = n.span

mutual

/-- The second expression is the first up to identities, and these are paired by `P`. -/
inductive Alike (P : NodeId → NodeId → Prop) : Expr → Expr → Prop
  | path {n n' : Node} {segments : Path} :
    Pairs P n n' → Alike P (.path n segments) (.path n' segments)
  | int {n n' : Node} {value : Int} : Pairs P n n' → Alike P (.int n value) (.int n' value)
  | str {n n' : Node} {value : List Nat} : Pairs P n n' → Alike P (.str n value) (.str n' value)
  | borrow {n n' : Node} {isMut : Bool} {e e' : Expr} :
    Pairs P n n' → Alike P e e' → Alike P (.borrow n isMut e) (.borrow n' isMut e')
  | deref {n n' : Node} {e e' : Expr} :
    Pairs P n n' → Alike P e e' → Alike P (.deref n e) (.deref n' e')
  | field {n n' : Node} {e e' : Expr} {name : String} :
    Pairs P n n' → Alike P e e' → Alike P (.field n e name) (.field n' e' name)
  | call {n n' : Node} {callee callee' : Expr} {args args' : List Expr} :
    Pairs P n n' → Alike P callee callee' → AlikeAll P args args' →
    Alike P (.call n callee args) (.call n' callee' args')
  | methodCall {n n' : Node} {receiver receiver' : Expr} {method : String}
    {args args' : List Expr} :
    Pairs P n n' → Alike P receiver receiver' → AlikeAll P args args' →
    Alike P (.methodCall n receiver method args) (.methodCall n' receiver' method args')
  | closure {n n' : Node} {params params' : List Param} {ret : Option TypeExpr}
    {body body' : Expr} :
    Pairs P n n' → params'.map Param.unnumbered = params.map Param.unnumbered →
    Alike P body body' → Alike P (.closure n params ret body) (.closure n' params' ret body')

/-- So it is with all of several expressions. -/
inductive AlikeAll (P : NodeId → NodeId → Prop) : List Expr → List Expr → Prop
  | nil : AlikeAll P [] []
  | cons {e e' : Expr} {es es' : List Expr} :
    Alike P e e' → AlikeAll P es es' → AlikeAll P (e :: es) (e' :: es')

end

mutual

/-- The second expression is the first up to identities, but `r` stands in the place of `x`, which
is an argument of some call. -/
inductive Fixed (P : NodeId → NodeId → Prop) (x r : Expr) : Expr → Expr → Prop
  | borrow {n n' : Node} {isMut : Bool} {e e' : Expr} :
    Pairs P n n' → Fixed P x r e e' → Fixed P x r (.borrow n isMut e) (.borrow n' isMut e')
  | deref {n n' : Node} {e e' : Expr} :
    Pairs P n n' → Fixed P x r e e' → Fixed P x r (.deref n e) (.deref n' e')
  | field {n n' : Node} {e e' : Expr} {name : String} :
    Pairs P n n' → Fixed P x r e e' → Fixed P x r (.field n e name) (.field n' e' name)
  | callee {n n' : Node} {callee callee' : Expr} {args args' : List Expr} :
    Pairs P n n' → Fixed P x r callee callee' → AlikeAll P args args' →
    Fixed P x r (.call n callee args) (.call n' callee' args')
  | call {n n' : Node} {callee callee' : Expr} {args args' : List Expr} :
    Pairs P n n' → Alike P callee callee' → FixedAll P x r args args' →
    Fixed P x r (.call n callee args) (.call n' callee' args')
  | receiver {n n' : Node} {receiver receiver' : Expr} {method : String}
    {args args' : List Expr} :
    Pairs P n n' → Fixed P x r receiver receiver' → AlikeAll P args args' →
    Fixed P x r (.methodCall n receiver method args) (.methodCall n' receiver' method args')
  | methodCall {n n' : Node} {receiver receiver' : Expr} {method : String}
    {args args' : List Expr} :
    Pairs P n n' → Alike P receiver receiver' → FixedAll P x r args args' →
    Fixed P x r (.methodCall n receiver method args) (.methodCall n' receiver' method args')
  | closure {n n' : Node} {params params' : List Param} {ret : Option TypeExpr}
    {body body' : Expr} :
    Pairs P n n' → params'.map Param.unnumbered = params.map Param.unnumbered →
    Fixed P x r body body' →
    Fixed P x r (.closure n params ret body) (.closure n' params' ret body')

/-- So it is with several arguments, of which `x` may be one. -/
inductive FixedAll (P : NodeId → NodeId → Prop) (x r : Expr) : List Expr → List Expr → Prop
  | here {es es' : List Expr} : AlikeAll P es es' → FixedAll P x r (x :: es) (r :: es')
  | head {e e' : Expr} {es es' : List Expr} :
    Fixed P x r e e' → AlikeAll P es es' → FixedAll P x r (e :: es) (e' :: es')
  | tail {e e' : Expr} {es es' : List Expr} :
    Alike P e e' → FixedAll P x r es es' → FixedAll P x r (e :: es) (e' :: es')

end

/-- The roots of such trees are paired. -/
theorem Alike.node {e e' : Expr} (h : Alike P e e') : Pairs P e.node e'.node := by
  cases h <;> assumption

/-- So are they here: no root is an argument of the tree itself. -/
theorem Fixed.node {e e' : Expr} (h : Fixed P x r e e') : Pairs P e.node e'.node := by
  cases h <;> assumption

/-! ### Where an expression stands in a numbered tree -/

/-- A list of expressions takes no negative number of identities. -/
theorem Expr.widthAll_nonneg : (es : List Expr) → 0 ≤ Expr.widthAll es
  | [] => Int.le_refl 0
  | e :: es => Int.add_nonneg (Int.le_of_lt e.width_pos) (widthAll_nonneg es)

/-- A pattern takes an identity at least. -/
theorem Pattern.width_pos (p : Pattern) : 0 < p.width := by
  have h := p.lt_number 0
  rwa [number_snd, Int.zero_add] at h

/-- A list of parameters takes no negative number of identities. -/
theorem Param.widthAll_nonneg : (ps : List Param) → 0 ≤ Param.widthAll ps
  | [] => Int.le_refl 0
  | p :: ps => Int.add_nonneg (Int.add_nonneg (by decide) (Int.le_of_lt p.pattern.width_pos))
    (widthAll_nonneg ps)

/-- `x` is numbered, and its identities are among those from `a` on up to before `b`. -/
structure Lies (a b : Int) (x : Expr) : Prop where
  numbered : IsNumbered x.id x
  lower : @LE.le Int _ a x.id
  upper : @LE.le Int _ (x.id + x.width) b

/-- Between bounds, and so between wider ones. -/
theorem Lies.mono {a a' b b' : Int} (h : Lies a b x) (ha : a' ≤ a) (hb : b ≤ b') :
    Lies a' b' x :=
  ⟨h.numbered, Int.le_trans ha h.lower, Int.le_trans h.upper hb⟩

/-- A numbered tree fills its bounds. -/
theorem IsNumbered.lies_self {e : Expr} {a : NodeId} (h : IsNumbered a e) :
    Lies a (a + e.width) e := by
  obtain rfl := h.id_eq
  exact ⟨h, Int.le_refl _, Int.le_refl _⟩

mutual

/-- Every expression of a numbered tree is numbered, between the bounds of the tree. -/
theorem IsNumbered.lies : (e : Expr) → {a : NodeId} → IsNumbered a e → ∀ x ∈ e.walk,
    Lies a (a + e.width) x
  | .path .., a, h, x, hx | .int .., a, h, x, hx | .str .., a, h, x, hx => by
    obtain rfl := List.mem_singleton.mp hx
    exact h.lies_self
  | .borrow _ _ subject, a, h, x, hx => by
    rcases List.mem_cons.mp hx with rfl | hx
    · exact h.lies_self
    -- a part is numbered from behind the root on
    · exact (IsNumbered.lies subject h.of_borrow x hx).mono (by omega) (by rw [Expr.width]; omega)
  | .deref _ subject, a, h, x, hx => by
    rcases List.mem_cons.mp hx with rfl | hx
    · exact h.lies_self
    · exact (IsNumbered.lies subject h.of_deref x hx).mono (by omega) (by rw [Expr.width]; omega)
  | .field _ subject _, a, h, x, hx => by
    rcases List.mem_cons.mp hx with rfl | hx
    · exact h.lies_self
    · exact (IsNumbered.lies subject h.of_field x hx).mono (by omega) (by rw [Expr.width]; omega)
  | .call _ callee args, a, h, x, hx => by
    rcases List.mem_cons.mp hx with rfl | hx
    · exact h.lies_self
    · obtain ⟨hc, has⟩ := h.of_call
      -- the callee ends before the arguments, and the arguments end where the call does
      have hw := Expr.widthAll_nonneg args
      have hw' := callee.width_pos
      rcases List.mem_append.mp hx with hx | hx
      · exact (IsNumbered.lies callee hc x hx).mono (by omega) (by rw [Expr.width]; omega)
      · exact (IsNumberedAll.lies args has x hx).mono (by omega) (by rw [Expr.width]; omega)
  | .methodCall _ receiver _ args, a, h, x, hx => by
    rcases List.mem_cons.mp hx with rfl | hx
    · exact h.lies_self
    · obtain ⟨hc, has⟩ := h.of_methodCall
      have hw := Expr.widthAll_nonneg args
      have hw' := receiver.width_pos
      rcases List.mem_append.mp hx with hx | hx
      · exact (IsNumbered.lies receiver hc x hx).mono (by omega) (by rw [Expr.width]; omega)
      · exact (IsNumberedAll.lies args has x hx).mono (by omega) (by rw [Expr.width]; omega)
  | .closure _ params _ body, a, h, x, hx => by
    rcases List.mem_cons.mp hx with rfl | hx
    · exact h.lies_self
    -- the parameters are numbered between the root and the body
    · have hw := Param.widthAll_nonneg params
      exact (IsNumbered.lies body h.of_closure x hx).mono (by omega) (by rw [Expr.width]; omega)

/-- Every expression in a numbered list is numbered, between the bounds of the list. -/
theorem IsNumberedAll.lies : (es : List Expr) → {a : NodeId} → IsNumberedAll a es →
    ∀ x ∈ Expr.walkAll es, Lies a (a + Expr.widthAll es) x
  | [], _, _, _, hx => nomatch hx
  | e :: es, a, h, x, hx => by
    obtain ⟨he, hes⟩ := h.of_cons
    have hw := Expr.widthAll_nonneg es
    have hw' := e.width_pos
    rcases List.mem_append.mp hx with hx | hx
    · exact (IsNumbered.lies e he x hx).mono (by omega) (by rw [Expr.widthAll]; omega)
    · exact (IsNumberedAll.lies es hes x hx).mono (by omega) (by rw [Expr.widthAll]; omega)

end

/-! ### Trees numbered anew -/

/-- A node and the same node with the identity that it is paired with. -/
private theorem pairs_number {n : Node} {a a' : NodeId} (hn : n.id = a) (h : P a a') :
    Pairs P n (n.withId a') := ⟨hn ▸ h, rfl⟩

/-- `P` pairs the `w` identities from `a` on with those from `a'` on. -/
def Along (P : NodeId → NodeId → Prop) (a a' : NodeId) (w : Int) : Prop :=
  ∀ k : Int, 0 ≤ k → k < w → P (a + k) (a' + k)

/-- The first of the identities that are paired, -/
theorem Along.first {a a' : NodeId} {w : Int} (h : Along P a a' w) (hw : 0 < w) : P a a' := by
  have h₀ := h 0 (Int.le_refl 0) hw
  rwa [Int.add_zero, Int.add_zero] at h₀

/-- those from some place on, -/
theorem Along.drop {a a' : NodeId} {w v : Int} (h : Along P a a' w) (v₀ : Int) (hv : 0 ≤ v₀)
    (hle : v₀ + v ≤ w) : Along P (a + v₀) (a' + v₀) v := by
  intro k hk hkv
  rw [Int.add_assoc, Int.add_assoc]
  exact h (v₀ + k) (by omega) (by omega)

/-- and those before some place. -/
theorem Along.take {a a' : NodeId} {w v : Int} (h : Along P a a' w) (hle : v ≤ w) :
    Along P a a' v := fun k hk hkv => h k hk (Int.lt_of_lt_of_le hkv hle)

mutual

/-- **A numbered tree and the same tree numbered from elsewhere on.** -/
theorem alike_number : (e : Expr) → {a a' : NodeId} → IsNumbered a e → Along P a a' e.width →
    Alike P e (e.number a').1
  | .path .., a, a', h, hP | .int .., a, a', h, hP | .str .., a, a', h, hP => by
    constructor
    exact pairs_number h.id_eq (hP.first Int.one_pos)
  | .borrow n m subject, a, a', h, hP => by
    have hw := subject.width_pos
    rw [Expr.width] at hP
    exact .borrow (pairs_number h.id_eq (hP.first (by omega)))
      (alike_number subject h.of_borrow (hP.drop 1 (by decide) (by omega)))
  | .deref n subject, a, a', h, hP => by
    have hw := subject.width_pos
    rw [Expr.width] at hP
    exact .deref (pairs_number h.id_eq (hP.first (by omega)))
      (alike_number subject h.of_deref (hP.drop 1 (by decide) (by omega)))
  | .field n subject name, a, a', h, hP => by
    have hw := subject.width_pos
    rw [Expr.width] at hP
    exact .field (pairs_number h.id_eq (hP.first (by omega)))
      (alike_number subject h.of_field (hP.drop 1 (by decide) (by omega)))
  | .call n callee args, a, a', h, hP => by
    obtain ⟨hc, has⟩ := h.of_call
    have hw := callee.width_pos
    have hws := Expr.widthAll_nonneg args
    rw [Expr.width] at hP
    -- the arguments are numbered behind the callee
    have hargs := hP.drop (v := Expr.widthAll args) (1 + callee.width) (by omega) (by omega)
    rw [← Int.add_assoc, ← Int.add_assoc] at hargs
    rw [Expr.number_call]
    exact .call (pairs_number h.id_eq (hP.first (by omega)))
      (alike_number callee hc (hP.drop 1 (by decide) (by omega))) (alikeAll_number args has hargs)
  | .methodCall n receiver method args, a, a', h, hP => by
    obtain ⟨hc, has⟩ := h.of_methodCall
    have hw := receiver.width_pos
    have hws := Expr.widthAll_nonneg args
    rw [Expr.width] at hP
    -- and so are those of a method call behind its receiver
    have hargs := hP.drop (v := Expr.widthAll args) (1 + receiver.width) (by omega) (by omega)
    rw [← Int.add_assoc, ← Int.add_assoc] at hargs
    rw [Expr.number_methodCall]
    exact .methodCall (pairs_number h.id_eq (hP.first (by omega)))
      (alike_number receiver hc (hP.drop 1 (by decide) (by omega))) (alikeAll_number args has hargs)
  | .closure n params ret body, a, a', h, hP => by
    have hw := body.width_pos
    have hws := Param.widthAll_nonneg params
    rw [Expr.width] at hP
    -- the body is numbered behind the parameters
    have hbody := hP.drop (v := body.width) (1 + Param.widthAll params) (by omega) (by omega)
    rw [← Int.add_assoc, ← Int.add_assoc] at hbody
    rw [Expr.number_closure]
    exact .closure (pairs_number h.id_eq (hP.first (by omega))) (Param.unnumbered_numberAll ..)
      (alike_number body h.of_closure hbody)

/-- The same for a list of expressions, one behind the other. -/
theorem alikeAll_number : (es : List Expr) → {a a' : NodeId} → IsNumberedAll a es →
    Along P a a' (Expr.widthAll es) → AlikeAll P es (Expr.numberAll a' es).1
  | [], _, _, _, _ => .nil
  | e :: es, a, a', h, hP => by
    obtain ⟨he, hes⟩ := h.of_cons
    have hw := e.width_pos
    have hws := Expr.widthAll_nonneg es
    rw [Expr.widthAll] at hP
    rw [Expr.numberAll_cons]
    exact .cons (alike_number e he (hP.take (by omega)))
      (alikeAll_number es hes (hP.drop e.width (by omega) (by omega)))

end

/-! ### Another expression in the place of an argument -/

/-- The arguments of a call, without what it is called on. -/
def Expr.arguments : Expr → List Expr
  | .call _ _ args | .methodCall _ _ _ args => args
  | _ => []

/-- `x` is an argument of a call that `e` is or holds. -/
def IsArgument (x e : Expr) : Prop := ∃ place ∈ e.walk, x ∈ place.arguments

/-- `x` is one of `es`, or an argument of a call in one of them. -/
def IsArgumentIn (x : Expr) (es : List Expr) : Prop := x ∈ es ∨ ∃ e ∈ es, IsArgument x e

/-- An argument of a call is a proper part of what the call is in. -/
theorem IsArgument.inside {e : Expr} (h : IsArgument x e) : x ∈ e.inside := by
  obtain ⟨place, hplace, hx⟩ := h
  -- a part of a part, so it is enough to look at the call itself
  refine Expr.inside_trans e hplace ?_
  have hwalk : ∀ args : List Expr, x ∈ args → x ∈ Expr.walkAll args := fun _ h =>
    Expr.mem_walkAll.mpr ⟨x, h, x.mem_walk_self⟩
  cases place with
  | call | methodCall => exact List.mem_append_right _ (hwalk _ hx)
  | path | int | str | borrow | deref | field | closure => nomatch hx

/-- An argument that is in a list, or in one of its expressions, is among their parts. -/
theorem IsArgumentIn.walk {es : List Expr} (h : IsArgumentIn x es) : x ∈ Expr.walkAll es := by
  rcases h with h | ⟨e, he, h⟩
  · exact Expr.mem_walkAll.mpr ⟨x, h, x.mem_walk_self⟩
  · exact Expr.mem_walkAll.mpr ⟨e, he, Expr.walk_of_inside h.inside⟩

/-- The three places where it can be: the first expression, a part of it, or further on. -/
theorem isArgumentIn_cons {e : Expr} {es : List Expr} :
    IsArgumentIn x (e :: es) ↔ x = e ∨ IsArgument x e ∨ IsArgumentIn x es := by
  simp only [IsArgumentIn, List.mem_cons, exists_eq_or_imp]
  exact ⟨by grind, by grind⟩

/-- Below an expression that has no arguments itself. -/
theorem IsArgument.below {e : Expr} (h : IsArgument x e) (he : e.arguments = []) :
    ∃ place ∈ e.inside, x ∈ place.arguments := by
  obtain ⟨place, hplace, hx⟩ := h
  rw [Expr.walk_eq] at hplace
  rcases List.mem_cons.mp hplace with rfl | hplace
  · rw [he] at hx
    nomatch hx
  · exact ⟨place, hplace, hx⟩

/-- An argument of a part of the list is in the list. -/
private theorem isArgument_walkAll {es : List Expr} {place : Expr}
    (hplace : place ∈ Expr.walkAll es) (hx : x ∈ place.arguments) : IsArgumentIn x es := by
  obtain ⟨e, he, hplace⟩ := Expr.mem_walkAll.mp hplace
  exact .inr ⟨e, he, place, hplace, hx⟩

/-- An argument in a call is one in the callee or among the arguments. -/
theorem IsArgument.of_call {n : Node} {callee : Expr} {args : List Expr}
    (h : IsArgument x (.call n callee args)) : IsArgument x callee ∨ IsArgumentIn x args := by
  obtain ⟨place, hplace, hx⟩ := h
  rcases List.mem_cons.mp hplace with rfl | hplace
  · exact .inr (.inl hx)
  · exact (List.mem_append.mp hplace).imp (⟨place, ·, hx⟩) (isArgument_walkAll · hx)

/-- An argument in a method call is one in the receiver or among the arguments. -/
theorem IsArgument.of_methodCall {n : Node} {receiver : Expr} {method : String} {args : List Expr}
    (h : IsArgument x (.methodCall n receiver method args)) :
    IsArgument x receiver ∨ IsArgumentIn x args := by
  obtain ⟨place, hplace, hx⟩ := h
  rcases List.mem_cons.mp hplace with rfl | hplace
  · exact .inr (.inl hx)
  · exact (List.mem_append.mp hplace).imp (⟨place, ·, hx⟩) (isArgument_walkAll · hx)

/-- What lies inside of a numbered tree has no identity of the root. -/
theorem IsNumbered.lies_inside {e : Expr} {a : NodeId} (h : IsNumbered a e) (hx : x ∈ e.inside) :
    Lies (a + 1) (a + e.width) x := by
  obtain ⟨hnumbered, -, hupper⟩ := h.lies e x (Expr.walk_of_inside hx)
  have hsorted := h.numbered.sorted
  rw [Expr.walk_eq] at hsorted
  -- the identities increase along the walk, which starts with the root
  have hlt := (List.pairwise_cons.mp hsorted).1 x hx
  rw [h.id_eq] at hlt
  exact ⟨hnumbered, hlt, hupper⟩

/-- How identities are paired when `r` comes in the place of `x`: those in front stay, those behind
move up. -/
def Shifted (x r : Expr) (i j : Int) : Prop :=
  @LT.lt Int _ i x.id ∧ j = i ∨ @LE.le Int _ (x.id + x.width) i ∧ j = i + (r.width - x.width)

/-- `P` pairs at least these. -/
abbrev Shifts (x r : Expr) (P : NodeId → NodeId → Prop) : Prop := ∀ i j, Shifted x r i j → P i j

/-- What is before the part stays where it is. -/
theorem Shifts.before (hP : Shifts x r P) {a : NodeId} {w : Int}
    (h : @LE.le Int _ (a + w) x.id) : Along P a a w :=
  fun k _ hk => hP _ _ (.inl ⟨by omega, rfl⟩)

/-- What is behind the part moves by the difference in width. -/
theorem Shifts.behind (hP : Shifts x r P) {a : NodeId} {w : Int}
    (h : @LE.le Int _ (x.id + x.width) a) : Along P a (a + (r.width - x.width)) w :=
  fun k hk _ => hP _ _ (.inr ⟨by omega, by omega⟩)

section

variable {a : NodeId}

/-- A part in front of `x`. -/
theorem before_number (hP : Shifts x r P) {e : Expr} (h : IsNumbered a e)
    (hx : @LE.le Int _ (a + e.width) x.id) : Expr.replace x.id r e = e ∧
      Alike P e ((Expr.replace x.id r e).number a).1 := by
  -- the identity of `x` is none of its own
  have he : Expr.replace x.id r e = e := h.numbered.replace_above hx
  rw [he]
  exact ⟨rfl, alike_number e h (hP.before hx)⟩

/-- Parts behind `x`. -/
theorem behind_numberAll (hP : Shifts x r P) {es : List Expr} (h : IsNumberedAll a es)
    (hx : @LE.le Int _ (x.id + x.width) a) : Expr.replaceAll x.id r es = es ∧
      AlikeAll P es
        (Expr.numberAll (a + (r.width - x.width)) (Expr.replaceAll x.id r es)).1 := by
  have hlt : x.id < a := by
    have := x.width_pos
    change @LT.lt Int _ x.id a
    omega
  have hes : Expr.replaceAll x.id r es = es := h.numbered.replaceAll_below hlt
  rw [hes]
  exact ⟨rfl, alikeAll_number es h (hP.behind hx)⟩

end

/-- The root stays where it is. -/
theorem root_number (hP : Shifts x r P) {e : Expr} {a : NodeId} {n : Node} (he : e.node = n)
    (h : IsNumbered a e) (hx : x ∈ e.inside) :
    Pairs P n (n.withId a) ∧ n.id ≠ x.id := by
  have hlt : @LE.le Int _ (a + 1) x.id := (h.lies_inside hx).lower
  have hn : n.id = a := he ▸ h.id_eq
  refine ⟨⟨hP _ _ (.inl ⟨hn ▸ Int.lt_of_add_one_le hlt, hn.symm⟩), rfl⟩, fun heq => ?_⟩
  -- the identity of a part lies behind that of the whole
  rw [← heq, hn] at hlt
  omega

mutual

/-- **A numbered tree with another expression in the place of an argument**, numbered anew. -/
theorem fixed_number (hP : Shifts x r P) : (e : Expr) → {a : NodeId} → IsNumbered a e → IsArgument x e →
    Fixed P x (r.number x.id).1 e ((Expr.replace x.id r e).number a).1 ∧
      (Expr.replace x.id r e).width = e.width + (r.width - x.width)
  | .path .., _, _, hx | .int .., _, _, hx | .str .., _, _, hx => nomatch hx.inside
  -- the root has no arguments, so the one that makes way is further down
  | .borrow n m subject, a, h, hx => by
    obtain ⟨hn, hne⟩ := root_number (n := n) hP rfl h hx.inside
    obtain ⟨hfixed, hwidth⟩ := fixed_number hP subject h.of_borrow (hx.below rfl)
    rw [show Expr.replace x.id r (.borrow n m subject) = _ from if_neg hne]
    exact ⟨.borrow hn hfixed, by rw [Expr.width, hwidth, Expr.width, Int.add_assoc]⟩
  | .deref n subject, a, h, hx => by
    obtain ⟨hn, hne⟩ := root_number (n := n) hP rfl h hx.inside
    obtain ⟨hfixed, hwidth⟩ := fixed_number hP subject h.of_deref (hx.below rfl)
    rw [show Expr.replace x.id r (.deref n subject) = _ from if_neg hne]
    exact ⟨.deref hn hfixed, by rw [Expr.width, hwidth, Expr.width, Int.add_assoc]⟩
  | .field n subject name, a, h, hx => by
    obtain ⟨hn, hne⟩ := root_number (n := n) hP rfl h hx.inside
    obtain ⟨hfixed, hwidth⟩ := fixed_number hP subject h.of_field (hx.below rfl)
    rw [show Expr.replace x.id r (.field n subject name) = _ from if_neg hne]
    exact ⟨.field hn hfixed, by rw [Expr.width, hwidth, Expr.width, Int.add_assoc]⟩
  | .call n callee args, a, h, hx => by
    obtain ⟨hn, hne⟩ := root_number (n := n) hP rfl h hx.inside
    obtain ⟨hc, has⟩ := h.of_call
    rw [Expr.replace_call hne]
    simp only [Expr.width]
    -- in the callee, and the arguments behind it move; or among the arguments, and the callee stays
    rcases hx.of_call with hx | hx
    · obtain ⟨hfixed, hwidth⟩ := fixed_number hP callee hc hx
      obtain ⟨hargs, halike⟩ := behind_numberAll hP has (hc.lies_inside hx.inside).upper
      rw [Expr.number_call, hwidth, ← Int.add_assoc]
      exact ⟨.callee hn hfixed halike, by rw [hargs]; omega⟩
    · obtain ⟨hcallee, halike⟩ := before_number hP hc (has.lies _ _ hx.walk).lower
      obtain ⟨hfixed, hwidth⟩ := fixedAll_number hP args has hx
      rw [Expr.number_call, hwidth, hcallee] at *
      exact ⟨.call hn halike hfixed, by omega⟩
  | .methodCall n receiver method args, a, h, hx => by
    obtain ⟨hn, hne⟩ := root_number (n := n) hP rfl h hx.inside
    obtain ⟨hc, has⟩ := h.of_methodCall
    rw [Expr.replace_methodCall hne]
    simp only [Expr.width]
    -- the same with the receiver for the callee
    rcases hx.of_methodCall with hx | hx
    · obtain ⟨hfixed, hwidth⟩ := fixed_number hP receiver hc hx
      obtain ⟨hargs, halike⟩ := behind_numberAll hP has (hc.lies_inside hx.inside).upper
      rw [Expr.number_methodCall, hwidth, ← Int.add_assoc]
      exact ⟨.receiver hn hfixed halike, by rw [hargs]; omega⟩
    · obtain ⟨hreceiver, halike⟩ := before_number hP hc (has.lies _ _ hx.walk).lower
      obtain ⟨hfixed, hwidth⟩ := fixedAll_number hP args has hx
      rw [Expr.number_methodCall, hwidth, hreceiver] at *
      exact ⟨.methodCall hn halike hfixed, by omega⟩
  | .closure n params ret body, a, h, hx => by
    obtain ⟨hn, hne⟩ := root_number (n := n) hP rfl h hx.inside
    obtain ⟨hfixed, hwidth⟩ := fixed_number hP body h.of_closure (hx.below rfl)
    rw [show Expr.replace x.id r (.closure n params ret body) = _ from if_neg hne,
      Expr.number_closure]
    exact ⟨.closure hn (Param.unnumbered_numberAll ..) hfixed,
      by rw [Expr.width, hwidth, Expr.width, ← Int.add_assoc]⟩

/-- The same for a list in which such an argument stands, or is a part of one that stands there. -/
theorem fixedAll_number (hP : Shifts x r P) : (es : List Expr) → {a : NodeId} → IsNumberedAll a es →
    IsArgumentIn x es →
    FixedAll P x (r.number x.id).1 es
        (Expr.numberAll a (Expr.replaceAll x.id r es)).1 ∧
      Expr.widthAll (Expr.replaceAll x.id r es) = Expr.widthAll es + (r.width - x.width)
  | [], _, _, hx => nomatch hx.walk
  | e :: es, a, h, hx => by
    obtain ⟨he, hes⟩ := h.of_cons
    rw [Expr.replaceAll, Expr.numberAll_cons, Expr.widthAll, Expr.widthAll]
    -- the first is the argument itself, has it as a part, or comes before it
    rcases isArgumentIn_cons.mp hx with rfl | hx | hx
    · obtain rfl := he.id_eq
      obtain ⟨htail, halike⟩ := behind_numberAll hP hes (Int.le_refl _)
      -- what follows moves by as much as `r` takes more than `x`
      have hnext : x.id + x.width + (r.width - x.width) = x.id + r.width := by
        change @Eq Int _ _
        omega
      rw [hnext] at halike
      rw [Expr.replace_self rfl]
      exact ⟨.here halike, by rw [htail]; omega⟩
    · obtain ⟨hfixed, hwidth⟩ := fixed_number hP e he hx
      obtain ⟨htail, halike⟩ := behind_numberAll hP hes (he.lies_inside hx.inside).upper
      rw [hwidth, ← Int.add_assoc]
      exact ⟨.head hfixed halike, by rw [htail]; omega⟩
    · obtain ⟨hhead, halike⟩ := before_number hP he (hes.lies _ _ hx.walk).lower
      obtain ⟨hfixed, hwidth⟩ := fixedAll_number hP es hes hx
      rw [hwidth, hhead] at *
      exact ⟨.tail halike hfixed, by omega⟩

end

end ClosureLint.Core
