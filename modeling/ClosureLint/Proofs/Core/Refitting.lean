import ClosureLint.Core.Lower
import ClosureLint.Proofs.Checking.Headers
import ClosureLint.Proofs.Core.AlikeBodies

/-!
# Trees that can be written

Lowering leaves out macro invocations and marks what they hold. So not every tree comes from
lowering; but every part of one that does can be written where any expression around it stands, and
what can be written for one expression can be put in its place in a whole program.

* `Writable` — some expression is lowered to the tree, up to identities.
* `writable_part` — so can every part of such a tree.
* `MayReplace`, `writable_replace` — what can be written in the place of an expression, and the tree
  with it.
* `writable_functions` — so it is with the functions of a program.
* `Refits` — a program differs from another one in what stands in the place of one expression.
* `exists_refits` — there is such a program.
-/

namespace ClosureLint.Core

open ClosureLint.Syntax (FunctionDef ImplDef Program TraitDef)

variable {c : Lowering} {a i : NodeId} {y : Expr}

/-- An expression can be written that is lowered to `e`, up to identities. -/
def Writable (c : Lowering) (e : Expr) : Prop := ∃ E, (lowerExpr c E).unnumbered = e.unnumbered

/-- So it is with several expressions. -/
def WritableAll (c : Lowering) (es : List Expr) : Prop :=
  ∃ Es, Expr.unnumberedAll (lowerExprs c Es) = Expr.unnumberedAll es

/-- What an expression is lowered to can be written. -/
theorem writable_self (E : Syntax.Expr) : Writable c ((lowerExpr c E).number a).1 :=
  ⟨E, (Expr.unnumbered_number ..).symm⟩

mutual

/-- **A part of a tree can be written** where the tree can. -/
theorem writable_part : (E : Syntax.Expr) → {c : Lowering} → {a : NodeId} →
    ∀ y ∈ ((lowerExpr c E).number a).1.walk, Writable c y
  | .path l segments, _, _, _, hy => List.mem_singleton.mp hy ▸ writable_self (.path l segments)
  | .int l value, _, _, _, hy => List.mem_singleton.mp hy ▸ writable_self (.int l value)
  | .str l value, _, _, _, hy => List.mem_singleton.mp hy ▸ writable_self (.str l value)
  -- the part is the whole, or it is a part of what is inside
  | .borrow l isMut operand, c, a, y, hy => by
    rcases List.mem_cons.mp hy with rfl | hy
    · exact writable_self (a := a) (.borrow l isMut operand)
    · exact writable_part operand y hy
  | .deref l operand, c, a, y, hy => by
    rcases List.mem_cons.mp hy with rfl | hy
    · exact writable_self (a := a) (.deref l operand)
    · exact writable_part operand y hy
  | .field l subject name, c, a, y, hy => by
    rcases List.mem_cons.mp hy with rfl | hy
    · exact writable_self (a := a) (.field l subject name)
    · exact writable_part subject y hy
  | .call l callee args, c, a, y, hy => by
    rcases List.mem_cons.mp hy with rfl | hy
    · exact writable_self (a := a) (.call l callee args)
    -- a part of the callee, or of an argument
    · rcases List.mem_append.mp hy with hy | hy
      · exact writable_part callee y hy
      · exact writable_parts args y hy
  | .methodCall l receiver method args, c, a, y, hy => by
    rcases List.mem_cons.mp hy with rfl | hy
    · exact writable_self (a := a) (.methodCall l receiver method args)
    · rcases List.mem_append.mp hy with hy | hy
      · exact writable_part receiver y hy
      · exact writable_parts args y hy
  | .closure l params ret body, c, a, y, hy => by
    rcases List.mem_cons.mp hy with rfl | hy
    · exact writable_self (a := a) (.closure l params ret body)
    · exact writable_part body y hy
  | .macroCall l name expansion, c, a, y, hy => by
    -- a part of a macro is written inside of the same macro
    obtain ⟨E, hE⟩ := writable_part (c := c.inside) expansion y hy
    exact ⟨.macroCall l name E, hE⟩

/-- The same for lists of expressions. -/
theorem writable_parts : (Es : List Syntax.Expr) → {c : Lowering} → {a : NodeId} →
    ∀ y ∈ Expr.walkAll (Expr.numberAll a (lowerExprs c Es)).1, Writable c y
  | [], _, _, _, hy => nomatch hy
  | E :: Es, c, a, y, hy => by
    rcases List.mem_append.mp hy with hy | hy
    · exact writable_part E y hy
    · exact writable_parts Es y hy

end

/-- `y` is a part of every expression among `es` that has the identity `i`. -/
def PartAt (i : NodeId) (y : Expr) (es : List Expr) : Prop := ∀ z ∈ es, z.id = i → y ∈ z.walk

/-- `y` can be written where an expression among `es` stands that has the identity `i`. -/
def MayReplace (i : NodeId) (y : Expr) (es : List Expr) : Prop :=
  ∀ z ∈ es, z.id = i → ∀ c E a, z = ((lowerExpr c E).number a).1 → Writable c y

theorem MayReplace.mono {es fs : List Expr} (h : MayReplace i y es) (hsub : ∀ z ∈ fs, z ∈ es) :
    MayReplace i y fs := fun z hz => h z (hsub z hz)

theorem PartAt.mayReplace {es : List Expr} (h : PartAt i y es) : MayReplace i y es :=
  fun z hz hid _ E _ he => writable_part E y (he ▸ h z hz hid)

/-- Where the root makes way, nothing is left to be written. -/
private theorem writable_root {E : Syntax.Expr} {e e' : Expr}
    (he : e = ((lowerExpr c E).number a).1) (h : MayReplace i y e.walk)
    (hne : e.id ≠ i → Expr.replace i y e = e') (hinside : Writable c e') :
    Writable c (Expr.replace i y e) := by
  -- either the root makes way, or what is inside has been written already
  by_cases hi : e.id = i
  · rw [Expr.replace_self hi]
    exact h e e.mem_walk_self hi c E a he
  · rw [hne hi]
    exact hinside

/-! ### Forms that can be written when their parts can -/

namespace Writable

variable {e : Expr} {es : List Expr}

theorem borrow (l : Loc) (isMut : Bool) (a : NodeId) (h : Writable c e) :
    Writable c (.borrow ((c.node l).withId a) isMut e) :=
  h.elim fun E hE => ⟨.borrow l isMut E, congrArg (Expr.borrow _ isMut) hE⟩

theorem deref (l : Loc) (a : NodeId) (h : Writable c e) :
    Writable c (.deref ((c.node l).withId a) e) :=
  h.elim fun E hE => ⟨.deref l E, congrArg (Expr.deref _) hE⟩

theorem field (l : Loc) (name : String) (a : NodeId) (h : Writable c e) :
    Writable c (.field ((c.node l).withId a) e name) :=
  h.elim fun E hE => ⟨.field l E name, congrArg (Expr.field _ · name) hE⟩

theorem call (l : Loc) (a : NodeId) (h : Writable c e) (hs : WritableAll c es) :
    Writable c (.call ((c.node l).withId a) e es) :=
  h.elim fun E hE => hs.elim fun Es hEs => ⟨.call l E Es, congrArg₂ (Expr.call _) hE hEs⟩

theorem methodCall (l : Loc) (method : String) (a : NodeId) (h : Writable c e)
    (hs : WritableAll c es) : Writable c (.methodCall ((c.node l).withId a) e method es) :=
  h.elim fun E hE => hs.elim fun Es hEs =>
    ⟨.methodCall l E method Es, congrArg₂ (Expr.methodCall _ · method) hE hEs⟩

theorem closure (l : Loc) (params : List Syntax.ClosureParam) (ret : Option Syntax.TypeExpr)
    (a b : NodeId) (h : Writable c e) : Writable c (.closure ((c.node l).withId a)
      (Param.numberAll b (params.map (lowerClosureParam c))).1 ret e) :=
  h.elim fun E hE => ⟨.closure l params ret E, by
    rw [lowerExpr, Expr.unnumbered, Expr.unnumbered, hE, Param.unnumbered_numberAll,
      Node.unnumbered_withId]⟩

end Writable

mutual

/-- **A tree can be written** with `y` in the place of an expression for which it can be. -/
theorem writable_replace : (E : Syntax.Expr) → {c : Lowering} → {a : NodeId} →
    MayReplace i y ((lowerExpr c E).number a).1.walk →
    Writable c (Expr.replace i y ((lowerExpr c E).number a).1)
  | .path l segments, c, a, h =>
    writable_root rfl h (fun hi => if_neg hi) (writable_self (a := a) (.path l segments))
  | .int l value, c, a, h =>
    writable_root rfl h (fun hi => if_neg hi) (writable_self (a := a) (.int l value))
  | .str l value, c, a, h =>
    writable_root rfl h (fun hi => if_neg hi) (writable_self (a := a) (.str l value))
  | .borrow l isMut operand, c, a, h =>
    writable_root rfl h (fun hi => if_neg hi) <|
      .borrow l isMut a (writable_replace operand (h.mono fun _ => List.mem_cons_of_mem _))
  | .deref l operand, c, a, h =>
    writable_root rfl h (fun hi => if_neg hi) <|
      .deref l a (writable_replace operand (h.mono fun _ => List.mem_cons_of_mem _))
  | .field l subject name, c, a, h =>
    writable_root rfl h (fun hi => if_neg hi) <|
      .field l name a (writable_replace subject (h.mono fun _ => List.mem_cons_of_mem _))
  | .call l callee args, c, a, h =>
    have hparts := List.forall_mem_append.mp (List.forall_mem_cons.mp h).2
    writable_root rfl h (fun hi => if_neg hi) <|
      .call l a (writable_replace callee hparts.1) (writable_replaceAll args hparts.2)
  | .methodCall l receiver method args, c, a, h =>
    have hparts := List.forall_mem_append.mp (List.forall_mem_cons.mp h).2
    writable_root rfl h (fun hi => if_neg hi) <|
      .methodCall l method a (writable_replace receiver hparts.1) (writable_replaceAll args hparts.2)
  | .closure l params ret body, c, a, h =>
    writable_root rfl h (fun hi => if_neg hi) <| .closure l params ret a (a + 1)
      (writable_replace body (h.mono fun _ => List.mem_cons_of_mem _))
  -- the invocation is written again around what its argument has become
  | .macroCall l name expansion, c, a, h => by
    obtain ⟨E, hE⟩ := writable_replace (c := c.inside) expansion h
    exact ⟨.macroCall l name E, hE⟩

/-- The same for lists of expressions. -/
theorem writable_replaceAll : (Es : List Syntax.Expr) → {c : Lowering} → {a : NodeId} →
    MayReplace i y (Expr.walkAll (Expr.numberAll a (lowerExprs c Es)).1) →
    WritableAll c (Expr.replaceAll i y (Expr.numberAll a (lowerExprs c Es)).1)
  | [], _, _, _ => ⟨[], rfl⟩
  | E :: Es, c, a, h => by
    obtain ⟨he, hes⟩ := List.forall_mem_append.mp h
    obtain ⟨E', hE'⟩ := writable_replace E he
    obtain ⟨Es', hEs'⟩ := writable_replaceAll Es hes
    exact ⟨E' :: Es', congrArg₂ List.cons hE' hEs'⟩

end

/-! ### Bodies and programs -/

theorem writable_stmt (s : Syntax.Stmt) (h : MayReplace i y ((lowerStmt c s).number a).1.expr.walk) :
    ∃ s', (lowerStmt c s').unnumbered
      = (((lowerStmt c s).number a).1.replace i y).unnumbered := by
  -- only the expression of a statement is written anew
  cases s with
  | letStmt l isMut name declared value =>
    obtain ⟨E, hE⟩ := writable_replace value h
    exact ⟨.letStmt l isMut name declared E, congrArg (Stmt.letStmt _ _ declared) hE⟩
  | exprStmt l e =>
    obtain ⟨E, hE⟩ := writable_replace e h
    exact ⟨.exprStmt l E, congrArg (Stmt.exprStmt _) hE⟩

theorem writable_stmts (ss : List Syntax.Stmt)
    (h : MayReplace i y ((Stmt.numberAll a (ss.map (lowerStmt c))).1.flatMap fun s => s.expr.walk)) :
    ∃ ss' : List Syntax.Stmt, (ss'.map (lowerStmt c)).map Stmt.unnumbered
      = ((Stmt.numberAll a (ss.map (lowerStmt c))).1.map (Stmt.replace i y)).map
          Stmt.unnumbered := by
  induction ss generalizing a with
  | nil => exact ⟨[], rfl⟩
  | cons s ss ih =>
    obtain ⟨hs, hss⟩ := List.forall_mem_append.mp h
    obtain ⟨s', hs'⟩ := writable_stmt s hs
    obtain ⟨ss', hss'⟩ := ih hss
    exact ⟨s' :: ss', congrArg₂ List.cons hs' hss'⟩

theorem writable_function (f : FunctionDef) (body : List Syntax.Stmt)
    (h : MayReplace i y ((lowerFunction c f body).number a).1.walk) :
    ∃ body', (lowerFunction c f body').unnumbered
      = (((lowerFunction c f body).number a).1.replace i y).unnumbered := by
  obtain ⟨body', hbody⟩ := writable_stmts body h
  -- the parameters stay, up to identities
  have hparams := Param.unnumbered_numberAll (lowerParams c f) (a + 1)
  refine ⟨body', ?_⟩
  simp only [Function.unnumbered, Function.replace, lowerFunction, hbody]
  exact congrArg (fun ps => Function.mk _ _ ps _ _ _) hparams.symm

/-- **Functions can be written** with `y` in the place of an expression for which it can be. -/
theorem writable_functions {file : Option String} (fs : List FunctionDef)
    (h : MayReplace i y
      (((lowerFunctions file a fs).filterMap Except.toOption).flatMap Function.walk)) :
    ∃ fs' : List FunctionDef, fs'.map FunctionDef.header = fs.map FunctionDef.header ∧
      ∀ b, (lowerFunctions file b fs').map (Except.map Function.unnumbered)
        = (lowerFunctions file a fs).map
            (Except.map fun F => (F.replace i y).unnumbered) := by
  induction fs generalizing a with
  | nil => exact ⟨[], rfl, fun _ => rfl⟩
  | cons f fs ih =>
    rw [lowerFunctions] at h
    cases hbody : f.body with
    -- a function without a body is left as it is, and takes no identities
    | none =>
      rw [hbody] at h
      obtain ⟨fs', hheaders, hfs'⟩ := ih h
      refine ⟨f :: fs', by rw [List.map_cons, List.map_cons, hheaders], fun b => ?_⟩
      simp only [lowerFunctions, hbody, List.map_cons, hfs' b]
      rfl
    | some body =>
      rw [hbody] at h
      obtain ⟨hf, hfs⟩ := List.forall_mem_append.mp h
      obtain ⟨body', hbody'⟩ := writable_function f body hf
      obtain ⟨fs', hheaders, hfs'⟩ := ih hfs
      refine ⟨{ f with body := some body' } :: fs', ?_, fun b => ?_⟩
      · rw [List.map_cons, List.map_cons, hheaders]
        simp only [FunctionDef.header, hbody, Option.map_some]
      -- the new body is lowered to the old one with the replacement, wherever the numbering starts
      · have hsame : ((lowerFunction { file := file } f body').number b).1.unnumbered = _ :=
          (Function.unnumbered_number ..).trans hbody'
        simp only [lowerFunctions, hbody, List.map_cons]
        exact congrArg₂ List.cons (congrArg Except.ok hsame) (hfs' _)

/-- Declarations that hold functions can be given other functions with the same headers. -/
private theorem exists_holding {D : Type} {methods : D → List FunctionDef} (header : D → D)
    (hput : ∀ d ms, ms.map FunctionDef.header = (methods d).map FunctionDef.header →
      ∃ d', methods d' = ms ∧ header d' = header d) (ds : List D) {ms : List FunctionDef}
    (h : ms.map FunctionDef.header = (ds.flatMap methods).map FunctionDef.header) :
    ∃ ds' : List D, ds'.flatMap methods = ms ∧ ds'.map header = ds.map header := by
  induction ds generalizing ms with
  | nil => exact ⟨[], (List.map_eq_nil_iff.mp h).symm, rfl⟩
  | cons d ds ih =>
    rw [List.flatMap_cons, List.map_append] at h
    -- the new functions are cut where those of the first declaration end
    obtain ⟨ms₁, ms₂, rfl, h₁, h₂⟩ := List.map_eq_append_iff.mp h
    obtain ⟨d', rfl, hd⟩ := hput d ms₁ h₁
    obtain ⟨ds', rfl, hds⟩ := ih h₂
    exact ⟨d' :: ds', rfl, congrArg₂ List.cons hd hds⟩

/-- A program can be given other functions with the same headers. -/
private theorem exists_program (p : Program) {fs : List FunctionDef}
    (h : fs.map FunctionDef.header = (allFunctions p).map FunctionDef.header) :
    ∃ p', allFunctions p' = fs ∧ p'.headers = p.headers := by
  -- the functions are those of traits, of impls, and the free ones, in this order
  rw [allFunctions, List.map_append, List.map_append] at h
  obtain ⟨fs₁, fs₂, rfl, h₁, hfunctions⟩ := List.map_eq_append_iff.mp h
  obtain ⟨ts, ms, rfl, htraits, himpls⟩ := List.map_eq_append_iff.mp h₁
  obtain ⟨traits, rfl, hts⟩ := exists_holding TraitDef.header
    (fun d ms hms => ⟨{ d with methods := ms }, rfl, by rw [TraitDef.header, hms]; rfl⟩) _ htraits
  obtain ⟨impls, rfl, his⟩ := exists_holding ImplDef.header
    (fun d ms hms => ⟨{ d with methods := ms }, rfl, by rw [ImplDef.header, hms]; rfl⟩) _ himpls
  refine ⟨{ p with traits := traits, impls := impls, functions := fs₂ }, rfl, ?_⟩
  simp only [Program.headers, hts, his, hfunctions]

/-- The program `p'` is `p`, but its bodies have `y` in the place of the node `i`: it has the same
declarations, and lowering its functions gives the same up to identities. -/
structure Refits (file : Option String) (p p' : Program) (i : NodeId) (y : Expr) : Prop where
  headers : p'.headers = p.headers
  bodies : (lowerFunctions file 1 (allFunctions p')).map (Except.map Function.unnumbered)
    = (lowerFunctions file 1 (allFunctions p)).map
        (Except.map fun F => (F.replace i y).unnumbered)

/-- **There is a program** in which `y` stands in the place of an expression for which it can be
written. -/
theorem exists_refits {file : Option String} {p : Program} (h : MayReplace i y
    (((lowerFunctions file 1 (allFunctions p)).filterMap Except.toOption).flatMap Function.walk)) :
    ∃ p', Refits file p p' i y := by
  obtain ⟨fs, hheaders, hbodies⟩ := writable_functions (allFunctions p) h
  obtain ⟨p', rfl, hp'⟩ := exists_program p hheaders
  exact ⟨p', hp', hbodies 1⟩

end ClosureLint.Core
