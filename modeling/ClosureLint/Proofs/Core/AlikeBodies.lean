import ClosureLint.Proofs.Core.Alike
import Mathlib.Data.List.Forall2

/-!
# Bodies that differ in identities

What numbering anew does to expressions it does to statements, to functions, and to all functions of
a program.

* `OneOff` — two lists whose entries are related in one way, but for one pair related in another.
* `StmtWith` — two statements that differ in their expressions at most.
* `AlikeFunction`, `FunctionWith`, `FixedFunction` — functions the same up to identities, with one
  expression exchanged, and with an argument replaced.
* `functionsWith_number`, `fixedFunctions_number` — functions in one of which something is replaced,
  numbered anew.
-/

namespace ClosureLint.Core

variable {P : NodeId → NodeId → Prop} {R S : Expr → Expr → Prop} {Holds : Expr → Prop} {x r : Expr}

/-- Entries are related by `R`, but for one pair that is related by `S`. -/
inductive OneOff {α : Type} (R S : α → α → Prop) : List α → List α → Prop
  | here {a a' : α} {as as' : List α} : S a a' → List.Forall₂ R as as' →
    OneOff R S (a :: as) (a' :: as')
  | there {a a' : α} {as as' : List α} : R a a' → OneOff R S as as' →
    OneOff R S (a :: as) (a' :: as')

/-- One more pair that is related as usual. -/
theorem OneOff.concat {α : Type} {R S : α → α → Prop} {l l' : List α} {a : α} (h : OneOff R S l l')
    (ha : R a a) : OneOff R S (l ++ [a]) (l' ++ [a]) := by
  induction h with
  | here hS hR => exact .here hS (List.rel_append hR (.cons ha .nil))
  | there hR _ ih => exact .there hR ih

/-- Two statements that are the same but for identities and the expressions in them, which are
related by `R`. -/
inductive StmtWith (R : Expr → Expr → Prop) : Stmt → Stmt → Prop
  | letStmt {n n' : Node} {p p' : Pattern} {declared : Option Syntax.TypeExpr} {e e' : Expr} :
    p'.unnumbered = p.unnumbered → R e e' →
    StmtWith R (.letStmt n p declared e) (.letStmt n' p' declared e')
  | exprStmt {n n' : Node} {e e' : Expr} : R e e' → StmtWith R (.exprStmt n e) (.exprStmt n' e')

/-- Two functions that are the same up to identities. -/
structure AlikeFunction (P : NodeId → NodeId → Prop) (f f' : Function) : Prop where
  params : f'.params.map Param.unnumbered = f.params.map Param.unnumbered
  stmts : List.Forall₂ (StmtWith (Alike P)) f.body.stmts f'.body.stmts

/-- Two functions that are the same up to identities, but for the expressions of one statement, which
are related by `S`. -/
structure FunctionWith (P : NodeId → NodeId → Prop) (S : Expr → Expr → Prop) (f f' : Function) :
    Prop where
  params : f'.params.map Param.unnumbered = f.params.map Param.unnumbered
  stmts : OneOff (StmtWith (Alike P)) (StmtWith S) f.body.stmts f'.body.stmts

/-- Two functions that are the same up to identities, but `r` stands in the place of the argument
`x`. -/
abbrev FixedFunction (P : NodeId → NodeId → Prop) (x r : Expr) : Function → Function → Prop :=
  FunctionWith P (Fixed P x r)

/-! ### Statements -/

/-- The identities that a statement takes in front of its expression. -/
def Stmt.front : Stmt → Int
  | .letStmt _ pattern _ _ => 1 + pattern.width
  | .exprStmt .. => 1

/-- A statement takes what comes before its expression, and then the expression. -/
theorem Stmt.width_eq (s : Stmt) : s.width = s.front + s.expr.width := by
  cases s <;> rfl

/-- Its own identity comes before its expression. -/
theorem Stmt.front_pos (s : Stmt) : 0 < s.front := by
  cases s with
  | letStmt _ pattern _ _ => exact Int.add_pos Int.one_pos pattern.width_pos
  | exprStmt => exact Int.one_pos

/-- A statement with `e` in the place of its expression. -/
def Stmt.withExpr (e : Expr) : Stmt → Stmt
  | .letStmt node pattern declared _ => .letStmt node pattern declared e
  | .exprStmt node _ => .exprStmt node e

/-- A statement with its own expression. -/
theorem Stmt.withExpr_self (s : Stmt) : s.withExpr s.expr = s := by
  cases s <;> rfl

/-- Only in its expression can something be replaced. -/
theorem Stmt.replace_eq (s : Stmt) : s.replace x.id r = s.withExpr (Expr.replace x.id r s.expr) := by
  cases s <;> rfl

/-- Only its expression makes a difference to what it takes. -/
theorem Stmt.width_withExpr (s : Stmt) (e : Expr) : (s.withExpr e).width = s.front + e.width := by
  cases s <;> rfl

/-- A statement numbered anew, with an expression that may be another. -/
private theorem stmtWith_number (s : Stmt) {e : Expr} {a : NodeId}
    (h : R s.expr (e.number (a + s.front)).1) : StmtWith R s ((s.withExpr e).number a).1 := by
  cases s with
  | letStmt n pattern declared value =>
    -- the expression is numbered behind the pattern
    have hnumber : ((Stmt.letStmt n pattern declared e).number a).1
        = .letStmt (n.withId a) (pattern.number (a + 1)).1 declared
          (e.number (a + (1 + pattern.width))).1 := by
      rw [← Int.add_assoc, ← Pattern.number_snd]
      rfl
    rw [Stmt.withExpr, hnumber]
    exact .letStmt (Pattern.unnumbered_number ..) h
  | exprStmt n e => exact .exprStmt h

/-- Statements that are numbered from `a` on. -/
def AreNumbered (a : NodeId) (ss : List Stmt) : Prop := (Stmt.numberAll a ss).1 = ss

/-- Statements are numbered one behind the other. -/
theorem Stmt.numberAll_cons (s : Stmt) (ss : List Stmt) (a : NodeId) :
    (Stmt.numberAll a (s :: ss)).1 = (s.number a).1 :: (Stmt.numberAll (a + s.width) ss).1 := by
  rw [← number_snd]
  rfl

/-- If statements are numbered, then so are the first one's expression and the others. -/
theorem AreNumbered.of_cons {a : NodeId} {s : Stmt} {ss : List Stmt} (h : AreNumbered a (s :: ss)) :
    IsNumbered (a + s.front) s.expr ∧ AreNumbered (a + s.width) ss := by
  rw [AreNumbered, Stmt.numberAll_cons] at h
  obtain ⟨hs, hss⟩ := List.cons.inj h
  refine ⟨?_, hss⟩
  cases s with
  | letStmt n pattern declared value =>
    have hvalue : (value.number (pattern.number (a + 1)).2).1 = value := (Stmt.letStmt.inj hs).2.2.2
    rwa [Pattern.number_snd, Int.add_assoc] at hvalue
  | exprStmt n e => exact (Stmt.exprStmt.inj hs).2

/-- Statements take no negative number of identities. -/
theorem Stmt.widthAll_nonneg : (ss : List Stmt) → 0 ≤ Stmt.widthAll ss
  | [] => Int.le_refl 0
  | s :: ss => by
    have hfront := s.front_pos
    have hexpr := s.expr.width_pos
    have hwidth := s.width_eq
    have hrest := widthAll_nonneg ss
    rw [widthAll]
    omega

/-- An expression lies among the identities of the statements. -/
theorem AreNumbered.lies : (ss : List Stmt) → {a : NodeId} → AreNumbered a ss →
    (∃ s ∈ ss, x ∈ s.expr.walk) → Lies a (a + Stmt.widthAll ss) x
  | [], _, _, ⟨_, hs, _⟩ => nomatch hs
  | s :: ss, a, h, ⟨t, ht, hx⟩ => by
    obtain ⟨he, hss⟩ := h.of_cons
    have hfront := s.front_pos
    have hexpr := s.expr.width_pos
    have hwidth := s.width_eq
    have hrest := Stmt.widthAll_nonneg ss
    rw [Stmt.widthAll]
    -- in the first statement, or in those behind it
    rcases List.mem_cons.mp ht with rfl | ht
    · exact (he.lies _ x hx).mono (by omega) (by omega)
    · exact (AreNumbered.lies ss hss ⟨t, ht, hx⟩).mono (by omega) (by omega)

/-- Statements numbered from elsewhere on. -/
private theorem alikeStmts_number : (ss : List Stmt) → {a a' : NodeId} → AreNumbered a ss →
    Along P a a' (Stmt.widthAll ss) →
    List.Forall₂ (StmtWith (Alike P)) ss (Stmt.numberAll a' ss).1
  | [], _, _, _, _ => .nil
  | s :: ss, a, a', h, hP => by
    obtain ⟨he, hss⟩ := h.of_cons
    have hfront := s.front_pos
    have hexpr := s.expr.width_pos
    have hwidth := s.width_eq
    have hrest := Stmt.widthAll_nonneg ss
    rw [Stmt.widthAll] at hP
    have hhead := stmtWith_number s (alike_number s.expr he (hP.drop s.front (by omega) (by omega)))
    rw [Stmt.withExpr_self] at hhead
    rw [Stmt.numberAll_cons]
    exact .cons hhead (alikeStmts_number ss hss (hP.drop s.width (by omega) (by omega)))

/-- Statements that do not hold the identity stay as they are. -/
private theorem stmts_replace {ss : List Stmt} {a : NodeId} (h : AreNumbered a ss)
    (hx : @LT.lt Int _ x.id a ∨ @LE.le Int _ (a + Stmt.widthAll ss) x.id) :
    ss.map (Stmt.replace x.id r) = ss := by
  -- identities of numbered statements lie between their bounds
  have hn := Stmt.numbered_numberAll ss a
  rw [h, Stmt.numberAll_snd] at hn
  refine (List.map_congr_left fun s hs => Stmt.replace_of_notMem fun y hy => ?_).trans (List.map_id ss)
  have hmem : y ∈ ss.flatMap fun s => s.expr.walk := List.mem_flatMap.mpr ⟨s, hs, hy⟩
  rcases hx with hx | hx
  · exact (Int.ne_of_lt (Int.lt_of_lt_of_le hx (hn.lower y hmem))).symm
  · exact Int.ne_of_lt (Int.lt_of_lt_of_le (hn.upper y hmem) hx)

/-- Expressions of which `Holds` says that `x` is in them are related by `S` to what they become when
they are numbered anew with `r` in the place of `x`. -/
structure Renumbers (x r : Expr) (Holds : Expr → Prop) (S : Expr → Expr → Prop) : Prop where
  walk : ∀ {e}, Holds e → x ∈ e.walk
  number : ∀ {e a}, IsNumbered a e → Holds e → S e ((Expr.replace x.id r e).number a).1 ∧
    (Expr.replace x.id r e).width = e.width + (r.width - x.width)

/-- Statements in one of which `x` is replaced. -/
private theorem stmtsWith_number (hP : Shifts x r P) (hS : Renumbers x r Holds S) : (ss : List Stmt) → {a : NodeId} →
    AreNumbered a ss → (∃ s ∈ ss, Holds s.expr) →
    OneOff (StmtWith (Alike P)) (StmtWith S) ss
        (Stmt.numberAll a (ss.map (Stmt.replace x.id r))).1 ∧
      Stmt.widthAll (ss.map (Stmt.replace x.id r)) = Stmt.widthAll ss + (r.width - x.width)
  | [], _, _, ⟨_, hs, _⟩ => nomatch hs
  | s :: ss, a, h, ⟨t, ht, hx⟩ => by
    obtain ⟨he, hss⟩ := h.of_cons
    have hwidth := s.width_eq
    rw [List.map_cons, Stmt.numberAll_cons, Stmt.widthAll, Stmt.widthAll, Stmt.replace_eq,
      Stmt.width_withExpr]
    -- either this statement holds `x`, and those behind it move, or it comes before the one that does,
    -- and stays
    rcases List.mem_cons.mp ht with rfl | ht
    · obtain ⟨hwith, hgrown⟩ := hS.number he hx
      have hupper := (he.lies _ x (hS.walk hx)).upper
      have hpos := x.width_pos
      -- the statements behind this one are numbered from a place that has moved
      have hnext : a + (t.front + (Expr.replace x.id r t.expr).width)
          = a + t.width + (r.width - x.width) := by
        rw [hgrown]
        change @Eq Int _ _
        omega
      have hrest := alikeStmts_number ss hss (hP.behind (by omega))
      rw [stmts_replace hss (.inl (by omega)), hnext]
      exact ⟨.here (stmtWith_number t hwith) hrest, by omega⟩
    · have hlower := (hss.lies ss ⟨t, ht, hS.walk hx⟩).lower
      have hself : Expr.replace x.id r s.expr = s.expr := he.numbered.replace_above <| by
        change @LE.le Int _ (a + s.front + s.expr.width) x.id
        omega
      have hhead := stmtWith_number s
        (alike_number s.expr he (hP.before (by omega)))
      obtain ⟨hwith, hgrown⟩ := stmtsWith_number hP hS ss hss ⟨t, ht, hx⟩
      rw [hself, ← hwidth]
      exact ⟨.there hhead hwith, by omega⟩

/-! ### Functions -/

/-- Functions numbered from `a` on, one after the other. -/
def Function.numberAll (a : NodeId) : List Function → List Function
  | [] => []
  | f :: fs => (f.number a).1 :: Function.numberAll (f.number a).2 fs

/-- Functions are numbered the same whatever their identities were. -/
theorem Function.numberAll_unnumbered (fs : List Function) (a : NodeId) :
    Function.numberAll a (fs.map Function.unnumbered) = Function.numberAll a fs := by
  induction fs generalizing a with
  | nil => rfl
  | cons f fs ih => rw [List.map_cons, numberAll, numberAll, number_unnumbered, ih]

/-- Numbering changes nothing else. -/
theorem Function.unnumbered_numberAll (fs : List Function) (a : NodeId) :
    (Function.numberAll a fs).map Function.unnumbered = fs.map Function.unnumbered := by
  induction fs generalizing a with
  | nil => rfl
  | cons f fs ih => rw [numberAll, List.map_cons, List.map_cons, unnumbered_number, ih]

/-- The identities that a function takes in front of its statements. -/
def Function.front (f : Function) : Int := 2 + Param.widthAll f.params

/-- The statements of a numbered function are numbered behind its parameters. -/
private theorem stmts_number (f : Function) (a : NodeId) :
    (f.number a).1.body.stmts = (Stmt.numberAll (a + f.front) f.body.stmts).1 := by
  have hstart : (Param.numberAll (a + 1) f.params).2 + 1 = a + f.front := by
    rw [Param.numberAll_snd, Function.front]
    change @Eq Int _ _
    omega
  rw [← hstart]
  rfl

/-- Its parameters are the same up to identities. -/
private theorem params_number (f : Function) (a : NodeId) :
    (f.number a).1.params.map Param.unnumbered = f.params.map Param.unnumbered :=
  Param.unnumbered_numberAll ..

/-- So the statements of a numbered function are numbered. -/
private theorem areNumbered_of_number {f : Function} {a : NodeId} (h : (f.number a).1 = f) :
    AreNumbered (a + f.front) f.body.stmts := by
  have hstmts := stmts_number f a
  rw [h] at hstmts
  exact hstmts.symm

/-- A function and its body have identities of their own. -/
private theorem front_pos (f : Function) : 0 < f.front := by
  have := Param.widthAll_nonneg f.params
  rw [Function.front]
  omega

/-- A function numbered from elsewhere on. -/
theorem alikeFunction_number {f : Function} {a a' : NodeId} (h : (f.number a).1 = f)
    (hP : Along P a a' f.width) : AlikeFunction P f (f.number a').1 := by
  have hfront := front_pos f
  refine ⟨params_number .., ?_⟩
  rw [stmts_number]
  exact alikeStmts_number _ (areNumbered_of_number h)
    (hP.drop f.front (Int.le_of_lt hfront) (Int.le_refl _))

/-- A function that does not hold the identity stays as it is. -/
private theorem function_replace {f : Function} {a : NodeId} (h : (f.number a).1 = f)
    (hx : @LT.lt Int _ x.id a ∨ @LE.le Int _ (a + f.width) x.id) : f.replace x.id r = f := by
  have hfront := front_pos f
  have hstmts : f.body.stmts.map (Stmt.replace x.id r) = f.body.stmts := by
    refine stmts_replace (areNumbered_of_number h) (hx.imp (fun hx => ?_) fun hx => ?_)
    · omega
    · rw [Int.add_assoc]
      exact hx
  rw [Function.replace, hstmts]

/-- Functions behind the one in which something is replaced. -/
private theorem functions_behind (hP : Shifts x r P) : (fs : List Function) → {a : NodeId} →
    Function.numberAll a fs = fs → @LE.le Int _ (x.id + x.width) a →
    fs.map (Function.replace x.id r) = fs ∧ List.Forall₂ (AlikeFunction P) fs
      (Function.numberAll (a + (r.width - x.width)) fs)
  | [], _, _, _ => ⟨rfl, .nil⟩
  | f :: fs, a, h, hx => by
    obtain ⟨hf, hfs⟩ := List.cons.inj h
    have hlt := f.lt_number a
    have hpos := x.width_pos
    rw [Function.number_snd] at hfs hlt
    obtain ⟨hrest, hothers⟩ := functions_behind hP fs hfs (Int.le_trans hx (Int.le_of_lt hlt))
    have hhead := alikeFunction_number hf (hP.behind hx)
    rw [List.map_cons, function_replace hf (.inl (by omega)), hrest, Function.numberAll,
      Function.number_snd, Int.add_right_comm]
    exact ⟨rfl, .cons hhead hothers⟩

/-- An expression in one of several functions is numbered, and lies behind the first identity of them
all. -/
theorem functions_lies : (fs : List Function) → {a : NodeId} → Function.numberAll a fs = fs →
    x ∈ fs.flatMap Function.walk → ∃ b, Lies a b x
  | [], _, _, hx => nomatch hx
  | f :: fs, a, h, hx => by
    obtain ⟨hf, hfs⟩ := List.cons.inj h
    -- in the first function, or in those behind it
    rcases List.mem_append.mp hx with hx | hx
    · have hfront := front_pos f
      have hlies := (areNumbered_of_number hf).lies _ (List.mem_flatMap.mp hx)
      exact ⟨_, hlies.mono (by omega) (Int.le_refl _)⟩
    · obtain ⟨b, hlies⟩ := functions_lies fs hfs hx
      exact ⟨b, hlies.mono (Int.le_of_lt (f.lt_number a)) (Int.le_refl _)⟩

/-- **Functions in one of which `x` makes way for `r`**, numbered anew. -/
theorem functionsWith_number (hP : Shifts x r P) (hS : Renumbers x r Holds S) : (fs : List Function) → {a : NodeId} →
    Function.numberAll a fs = fs → (∃ f ∈ fs, ∃ s ∈ f.body.stmts, Holds s.expr) →
    OneOff (AlikeFunction P) (FunctionWith P S) fs
      (Function.numberAll a (fs.map (Function.replace x.id r)))
  | [], _, _, ⟨_, hf, _⟩ => nomatch hf
  | f :: fs, a, h, ⟨g, hg, hx⟩ => by
    obtain ⟨hf, hfs⟩ := List.cons.inj h
    rw [Function.number_snd] at hfs
    rw [List.map_cons, Function.numberAll, Function.number_snd]
    -- as with statements: this function holds `x`, or it comes before the one that does
    rcases List.mem_cons.mp hg with rfl | hg
    · have hbody := areNumbered_of_number hf
      obtain ⟨hwith, hgrown⟩ := stmtsWith_number hP hS g.body.stmts hbody hx
      have hwalk : ∃ s ∈ g.body.stmts, x ∈ s.expr.walk := hx.imp fun _ h => ⟨h.1, hS.walk h.2⟩
      -- so are the functions behind this one
      have hnext : a + (g.replace x.id r).width = a + g.width + (r.width - x.width) := by
        change a + (g.front + Stmt.widthAll (g.body.stmts.map _)) = a + (g.front + _) + _
        rw [hgrown]
        change @Eq Int _ _
        omega
      have hupper : @LE.le Int _ (x.id + x.width) (a + g.width) := by
        have := (hbody.lies _ hwalk).upper
        rwa [Int.add_assoc] at this
      obtain ⟨hrest, hothers⟩ := functions_behind hP fs hfs hupper
      rw [hnext, hrest]
      refine .here ⟨params_number .., ?_⟩ hothers
      rw [stmts_number]
      exact hwith
    · obtain ⟨s, hs, hholds⟩ := hx
      obtain ⟨_, hlies⟩ := functions_lies fs hfs
        (List.mem_flatMap.mpr ⟨g, hg, List.mem_flatMap.mpr ⟨s, hs, hS.walk hholds⟩⟩)
      rw [function_replace hf (.inr hlies.lower)]
      exact .there (alikeFunction_number hf (hP.before hlies.lower))
        (functionsWith_number hP hS fs hfs ⟨g, hg, s, hs, hholds⟩)

/-- **Functions in one of which an argument makes way for another expression**, numbered anew. -/
theorem fixedFunctions_number (hP : Shifts x r P) (fs : List Function) {a : NodeId}
    (h : Function.numberAll a fs = fs) (hx : ∃ f ∈ fs, ∃ s ∈ f.body.stmts, IsArgument x s.expr) :
    OneOff (AlikeFunction P) (FixedFunction P x (r.number x.id).1) fs
      (Function.numberAll a (fs.map (Function.replace x.id r))) :=
  functionsWith_number hP ⟨fun h => Expr.walk_of_inside h.inside, fixed_number hP _⟩ fs h hx

end ClosureLint.Core
