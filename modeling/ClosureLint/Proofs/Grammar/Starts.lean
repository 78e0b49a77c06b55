import ClosureLint.Proofs.Grammar.ItemHoles
import Mathlib.Data.List.Perm.Basic
import Mathlib.Data.List.Perm.Subperm

/-!
# Where closures start

A closure starts with a bar, which no other expression starts with, and closures come in the order of
their bars. So no two closures of a text start at the same place.

* `closurePlaces` — the lines and columns where the closures among some expressions start.
* `IsExpr.startIn`, `IsFunction.startIn` — they are those of some tokens, in order.
* `IsItems.startIn` — the closures of a whole text start at different tokens.
-/

namespace ClosureLint.Syntax

open ClosureLint.Core

/-- A line and a column, each of which may be unknown. -/
abbrev Place := Option Int × Option Int

/-- The line and column where a token starts. -/
def placeOf (t : Token) : Place := (some t.start.line, some t.start.column)

/-- The lines and columns where tokens start. -/
def places (ts : List Token) : List Place := ts.map placeOf

/-- The lines and columns where the closures among `es` start. -/
def closurePlaces (es : List Core.Expr) : List Place :=
  (es.filter isClosure).map fun x => (x.span.line, x.span.column)

/-- The places of tokens, one list behind the other. -/
theorem places_append (ts us : List Token) : places (ts ++ us) = places ts ++ places us :=
  List.map_append

/-- The closures of some expressions come before those of others. -/
theorem closurePlaces_append (es fs : List Core.Expr) :
    closurePlaces (es ++ fs) = closurePlaces es ++ closurePlaces fs := by
  rw [closurePlaces, List.filter_append, List.map_append]
  rfl

/-- An expression that is no closure counts for nothing. -/
theorem closurePlaces_cons {e : Core.Expr} (h : isClosure e = false) (es : List Core.Expr) :
    closurePlaces (e :: es) = closurePlaces es := by
  rw [closurePlaces, List.filter_cons_of_neg (Bool.eq_false_iff.mp h)]
  rfl

/-! ### Expressions -/

/-- The closures among `es` start at some of the tokens `ts`, in their order. -/
def StartIn (ts : List Token) (es : List Core.Expr) : Prop :=
  (closurePlaces es).Sublist (places ts)

variable {ts us : List Token} {es fs : List Core.Expr} {e : Core.Expr}

namespace StartIn

/-- More tokens around. -/
theorem wrap (h : StartIn ts es) (before behind : List Token) :
    StartIn (before ++ (ts ++ behind)) es := by
  have hts : ts.Sublist (before ++ (ts ++ behind)) :=
    (List.sublist_append_left ts behind).trans (List.sublist_append_right before _)
  exact List.Sublist.trans h (hts.map placeOf)

/-- Expressions side by side stand among tokens side by side. -/
theorem append (h : StartIn ts es) (h' : StartIn us fs) : StartIn (ts ++ us) (es ++ fs) := by
  rw [StartIn, closurePlaces_append, places_append]
  exact List.Sublist.append h h'

/-- An expression in front that is no closure. -/
theorem cons (h : StartIn ts es) (he : isClosure e = false) : StartIn ts (e :: es) := by
  rwa [StartIn, closurePlaces_cons he]

/-- No expressions stand among any tokens. -/
theorem nil (ts : List Token) : StartIn ts [] := List.nil_sublist _

/-- A closure in front, which starts at the first token. -/
theorem closure {bar : Token} (h : StartIn ts e.inside) (he : isClosure e = true)
    (hplace : (e.span.line, e.span.column) = placeOf bar) : StartIn (bar :: ts) e.walk := by
  rw [StartIn, Expr.walk_eq, closurePlaces, List.filter_cons_of_pos he, List.map_cons, hplace]
  exact List.Sublist.cons_cons _ h

end StartIn

section

/-- A node starts where its first token does. -/
theorem node_place (c : Lowering) (t : Token) (ts : List Token) :
    ((c.node (extentOf (t :: ts))).span.line, (c.node (extentOf (t :: ts))).span.column)
      = placeOf t := by
  unfold Lowering.node
  split <;> rfl

/-- An expression without parts that is no closure. -/
private theorem startIn_leaf (he : isClosure e = false) (hinside : e.inside = []) :
    StartIn ts e.walk := by
  rw [Expr.walk_eq, hinside]
  exact (StartIn.nil ts).cons he

/-- An expression that is no closure, with one part. -/
private theorem startIn_part {x : Core.Expr} (h : StartIn ts x.walk) (he : isClosure e = false)
    (hinside : e.inside = x.walk) (before behind : List Token) :
    StartIn (before ++ (ts ++ behind)) e.walk := by
  rw [Expr.walk_eq, hinside]
  exact (h.wrap before behind).cons he

/-- An expression that is no closure, with a part and arguments. -/
private theorem startIn_parts {x : Core.Expr} {xs : List Core.Expr} (h : StartIn ts x.walk)
    (hs : StartIn us (Expr.walkAll xs)) (he : isClosure e = false)
    (hinside : e.inside = x.walk ++ Expr.walkAll xs) (between : List Token) :
    StartIn (ts ++ (between ++ us)) e.walk := by
  have hargs := hs.wrap between []
  rw [List.append_nil] at hargs
  rw [Expr.walk_eq, hinside]
  exact (h.append hargs).cons he

mutual

/-- **The closures of an expression** start at some of its tokens, in order. -/
theorem IsExpr.startIn {ts : List Token} {e : Syntax.Expr} {late : List LateFault}
    (h : IsExpr ts e late) {c : Lowering} {n : NodeId} : StartIn ts (numbered c n e).walk := by
  match h with
  | @IsExpr.closure bar ps rs bs params ret body _ _ _ hk hp hr hb =>
    have hbody : StartIn bs (numbered c (Param.numberAll (n + 1) (params.map
      (lowerClosureParam c))).2 body).walk := hb.startIn
    -- there are no expressions in parameters and types, so all closures inside are in the body
    have hinside := hbody.wrap (ps ++ rs) []
    rw [List.append_nil, List.append_assoc] at hinside
    exact hinside.closure rfl (node_place c bar _)
  | .unary hu => exact hu.startIn

/-- An operand: the operator in front of it starts no closure. -/
theorem IsUnary.startIn {ts : List Token} {e : Syntax.Expr} {late : List LateFault}
    (h : IsUnary ts e late) {c : Lowering} {n : NodeId} : StartIn ts (numbered c n e).walk := by
  match h with
  | @IsUnary.borrow amp ms us isMut e _ hk hm hu =>
    have hpart : StartIn us (numbered c (n + 1) e).walk := hu.startIn
    have hwhole := startIn_part (e := numbered c n (.borrow (extentOf (amp :: (ms ++ us))) isMut e))
      hpart rfl rfl (amp :: ms) []
    simpa only [List.append_nil, List.cons_append] using hwhole
  | @IsUnary.deref star us e _ hk hu =>
    have hpart : StartIn us (numbered c (n + 1) e).walk := hu.startIn
    have hwhole := startIn_part (e := numbered c n (.deref (extentOf (star :: us)) e))
      hpart rfl rfl [star] []
    simpa only [List.append_nil, List.cons_append, List.nil_append] using hwhole
  | .chain hp => exact hp.startIn

/-- A chain: the closures of the callee or receiver come before those of the arguments. -/
theorem IsPostfix.startIn {bare : Bool} {ts : List Token} {e : Syntax.Expr}
    {late : List LateFault} (h : IsPostfix bare ts e late) {c : Lowering} {n : NodeId} :
    StartIn ts (numbered c n e).walk := by
  match h with
  | .atom ha => exact ha.startIn
  | @IsPostfix.call op ts us callee args _ _ hp hk ha =>
    have hcallee : StartIn ts (numbered c (n + 1) callee).walk := hp.startIn
    -- the arguments are numbered behind the callee
    have hargs : StartIn us
        (Expr.walkAll (numberedAll c (behindExpr c (n + 1) callee) args)) := ha.startIn
    exact startIn_parts (e := numbered c n (.call (extentOf (ts ++ op :: us)) callee args))
      hcallee hargs rfl rfl [op]
  | @IsPostfix.methodCall _ dot name op ts us receiver args _ _ hp hd hn hk ha =>
    have hreceiver : StartIn ts (numbered c (n + 1) receiver).walk := hp.startIn
    have hargs : StartIn us
        (Expr.walkAll (numberedAll c (behindExpr c (n + 1) receiver) args)) := ha.startIn
    exact startIn_parts
      (e := numbered c n
        (.methodCall (extentOf (ts ++ dot :: name :: op :: us)) receiver name.text args))
      hreceiver hargs rfl rfl [dot, name, op]
  | @IsPostfix.field _ dot name ts subject _ hp hd hn =>
    have hsubject : StartIn ts (numbered c (n + 1) subject).walk := hp.startIn
    exact startIn_part
      (e := numbered c n (.field (extentOf (ts ++ [dot, name])) subject name.text))
      hsubject rfl rfl [] [dot, name]

/-- What has no operator around it. -/
theorem IsAtom.startIn {ts : List Token} {e : Syntax.Expr} {late : List LateFault}
    (h : IsAtom ts e late) {c : Lowering} {n : NodeId} : StartIn ts (numbered c n e).walk := by
  match h with
  | .path hp => exact startIn_leaf rfl rfl
  | .selfWord hk => exact startIn_leaf rfl rfl
  | .int hk => exact startIn_leaf rfl rfl
  | .string hk => exact startIn_leaf rfl rfl
  | @IsAtom.macroCall name bang op cl us e _ _ _ _ he _ =>
    -- a macro call leaves no node of its own behind
    have hinner : StartIn us (numbered c.inside n e).walk := he.startIn
    exact hinner.wrap [name, bang, op] [cl]
  | @IsAtom.paren op cl us e _ _ he _ => exact (he.startIn (c := c) (n := n)).wrap [op] [cl]

/-- The arguments of a call, one behind the other. -/
theorem IsArgs.startIn {ts : List Token} {es : List Syntax.Expr} {late : List LateFault}
    (h : IsArgs ts es late) {c : Lowering} {n : NodeId} :
    StartIn ts (Expr.walkAll (numberedAll c n es)) := by
  match h with
  | .nil _ => exact .nil _
  | @IsArgs.last cl ts e _ he _ =>
    have hlast : StartIn ts (numbered c n e).walk := he.startIn
    exact hlast.append (.nil [cl])
  | @IsArgs.cons comma ts us e others _ _ he _ hes =>
    have hfirst : StartIn ts (numbered c n e).walk := he.startIn
    have hothers : StartIn us (Expr.walkAll (numberedAll c (behindExpr c n e) others)) :=
      hes.startIn
    -- no closure starts at the comma
    have hbehind := hothers.wrap [comma] []
    rw [List.append_nil] at hbehind
    exact hfirst.append hbehind

end

end

/-! ### Functions -/

section

variable {late : List LateFault} {c : Lowering} {n : NodeId}

/-- A statement: all its closures are in its value. -/
theorem IsStmt.startIn {s : Syntax.Stmt} (h : IsStmt ts s late) :
    StartIn ts ((lowerStmt c s).number n).1.expr.walk := by
  cases h with
  | @letStmt word name equal semicolon ms ds vs isMut declared value _ _ _ _ _ _ _ hv _ =>
    have hvalue : StartIn vs (numbered c (n + 1 + 1) value).walk := hv.startIn
    have hwhole := hvalue.wrap (word :: (ms ++ name :: (ds ++ [equal]))) [semicolon]
    simp only [List.cons_append, List.append_assoc, List.nil_append] at hwhole
    exact hwhole
  | @exprStmt semicolon ts e _ he _ =>
    have hexpr : StartIn ts (numbered c (n + 1) e).walk := he.startIn
    exact hexpr.wrap [] [semicolon]

/-- The statements of a body. -/
theorem IsStmts.startIn {ss : List Syntax.Stmt} (h : IsStmts ts ss late) :
    StartIn ts ((numberedStmts c n ss).flatMap fun s => s.expr.walk) := by
  induction h generalizing n with
  | nil => exact .nil _
  | @cons ts us s others _ _ hs _ ih =>
    have hothers := ih (n := behindStmt c n s)
    exact hs.startIn.append hothers

/-- A function: no closure starts in its head. -/
theorem IsFunction.startIn {inMethod : Bool} {f : FunctionDef} {body : List Syntax.Stmt}
    (h : IsFunction inMethod ts f late) (hbody : f.body = some body) :
    StartIn ts ((lowerFunction c f body).number n).1.walk := by
  obtain @⟨us, isUnsafe, fn, op, ns, ps, rs, bs, path, params, ret, _, l, l', l'', _, _, _, _, _, _,
    hb⟩ := h
  obtain rfl : _ = some body := hbody
  cases hb with
  | @body brace ts _ _ _ hs =>
    have hwhole (k : NodeId) :=
      (hs.startIn (c := c) (n := k)).wrap (us ++ fn :: (ns ++ op :: (ps ++ (rs ++ [brace])))) []
    simp only [List.append_nil, List.cons_append, List.append_assoc, List.nil_append] at hwhole
    exact hwhole _

end

/-- Among the tokens `ts` stand the functions `fs`, one behind the other. -/
inductive FunctionsIn : List Token → List FunctionDef → Prop
  | nil (ts : List Token) : FunctionsIn ts []
  | cons {inMethod : Bool} (before : List Token) {ts us : List Token} {f : FunctionDef}
      {fs : List FunctionDef} {late : List LateFault} :
    IsFunction inMethod ts f late → FunctionsIn us fs → FunctionsIn (before ++ (ts ++ us)) (f :: fs)

namespace FunctionsIn

variable {fs gs : List FunctionDef}

/-- The functions stand in the last part of the tokens. -/
theorem behind (h : FunctionsIn ts fs) (before : List Token) : FunctionsIn (before ++ ts) fs := by
  cases h with
  | nil => exact .nil _
  | cons before' hf hfs =>
    rw [← List.append_assoc]
    exact .cons _ hf hfs

/-- Functions side by side stand among tokens side by side. -/
theorem append (h : FunctionsIn ts fs) (h' : FunctionsIn us gs) :
    FunctionsIn (ts ++ us) (fs ++ gs) := by
  induction h with
  | nil ts => exact h'.behind ts
  | cons before hf _ ih =>
    rw [List.append_assoc, List.append_assoc]
    exact .cons before hf ih

/-- Their closures start at some of the tokens, in order. -/
theorem startIn (h : FunctionsIn ts fs) {file : Option String} {n : NodeId} :
    StartIn ts (((lowerFunctions file n fs).filterMap Except.toOption).flatMap Function.walk) := by
  induction h generalizing n with
  | nil ts => exact .nil ts
  | @cons _ before ts us f fs _ hf _ ih =>
    rw [lowerFunctions]
    cases hbody : f.body with
    -- a function without a body is not lowered
    | none =>
      have hrest := (ih (n := n)).wrap (before ++ ts) []
      rw [List.append_nil, List.append_assoc] at hrest
      exact hrest
    | some body =>
      have hfirst : StartIn ts ((lowerFunction { file := file } f body).number n).1.walk :=
        hf.startIn hbody
      have hwhole := (hfirst.append (ih (n := ((lowerFunction { file := file } f body).number n).2))).wrap
        before []
      rw [List.append_nil] at hwhole
      exact hwhole

end FunctionsIn

/-! ### Items -/

/-- The methods of a trait or of an impl. -/
theorem IsMethods.functionsIn {ms : List FunctionDef} {late : List LateFault}
    (h : IsMethods ts ms late) : FunctionsIn ts ms := by
  induction h with
  | nil => exact .nil _
  | cons hf _ ih => exact .cons [] hf ih

/-- The functions of an item. -/
theorem IsItem.functionsIn {i : Item} {late : List LateFault} (h : IsItem ts i late) :
    FunctionsIn ts i.functions := by
  cases h with
  | structDef => exact .nil _
  | @traitDef word op ns ms _ _ _ _ _ _ hms =>
    have hmethods := hms.functionsIn.behind (word :: (ns ++ [op]))
    rwa [List.cons_append, List.append_assoc] at hmethods
  | @inherentImpl word op us ms _ _ _ _ _ _ _ hms =>
    have hmethods := hms.functionsIn.behind (word :: (us ++ [op]))
    rwa [List.cons_append, List.append_assoc] at hmethods
  | @traitImpl word forWord op ns us ms _ _ _ _ _ _ _ _ _ _ hms =>
    have hmethods := hms.functionsIn.behind (word :: (ns ++ forWord :: (us ++ [op])))
    simp only [List.cons_append, List.append_assoc, List.nil_append] at hmethods
    exact hmethods
  | function hf =>
    have hone := FunctionsIn.cons [] hf (.nil [])
    rwa [List.append_nil] at hone

/-- The functions of each sort of items stand among tokens of their own. -/
theorem IsItems.functionsIn {items : List Item} {late : List LateFault} (h : IsItems ts items late) :
    ∃ T I F, (T ++ (I ++ F)).Subperm ts ∧ FunctionsIn T (functionsOf .trait items) ∧
      FunctionsIn I (functionsOf .impl items) ∧ FunctionsIn F (functionsOf .function items) := by
  induction h with
  | nil => exact ⟨[], [], [], .refl _, .nil _, .nil _, .nil _⟩
  | @cons ts us i others _ _ hi _ ih =>
    obtain ⟨T, I, F, hsub, hT, hI, hF⟩ := ih
    -- items of one sort are listed together, and the other lists pass over them
    have hsame {sort : ItemSort} (h : i.sort = sort) :
        functionsOf sort (i :: others) = i.functions ++ functionsOf sort others := by
      rw [functionsOf, List.flatMap_cons, if_pos h]
      rfl
    have hskip {sort : ItemSort} (h : i.sort ≠ sort) :
        functionsOf sort (i :: others) = functionsOf sort others := by
      rw [functionsOf, List.flatMap_cons, if_neg h]
      rfl
    have hwhole : (ts ++ (T ++ (I ++ F))).Subperm (ts ++ us) := (List.subperm_append_left ts).mpr hsub
    have hfunctions := hi.functionsIn
    cases hsort : i.sort with
    | struct =>
      refine ⟨T, I, F, (List.sublist_append_right _ _).subperm.trans hwhole, ?_, ?_, ?_⟩
      all_goals
        rw [hskip (by rw [hsort]; decide)]
        assumption
    | trait =>
      refine ⟨ts ++ T, I, F, by rwa [List.append_assoc], ?_, ?_, ?_⟩
      · rw [hsame hsort]
        exact hfunctions.append hT
      all_goals
        rw [hskip (by rw [hsort]; decide)]
        assumption
    | impl =>
      -- the tokens of an impl go behind those of all traits
      refine ⟨T, ts ++ I, F, ?_, ?_, ?_, ?_⟩
      · rw [List.append_assoc]
        exact (List.perm_append_comm_assoc _ _ _).subperm.trans hwhole
      · rw [hskip (by rw [hsort]; decide)]
        exact hT
      · rw [hsame hsort]
        exact hfunctions.append hI
      · rw [hskip (by rw [hsort]; decide)]
        exact hF
    | function =>
      -- and those of a function behind those of all traits and impls
      refine ⟨T, I, ts ++ F, ?_, ?_, ?_, ?_⟩
      · refine List.Subperm.trans (List.Perm.subperm ?_) hwhole
        refine ((List.perm_append_comm_assoc I ts F).append_left T).trans ?_
        exact List.perm_append_comm_assoc _ _ _
      · rw [hskip (by rw [hsort]; decide)]
        exact hT
      · rw [hskip (by rw [hsort]; decide)]
        exact hI
      · rw [hsame hsort]
        exact hfunctions.append hF

/-- **The closures of a whole text** start at different tokens. -/
theorem IsItems.closurePlaces_subperm {items : List Item} {late : List LateFault}
    (h : IsItems ts items late) {source : String} {file : Option String} {n : NodeId} :
    (closurePlaces (((lowerFunctions file n (allFunctions (.ofItems source items))).filterMap
      Except.toOption).flatMap Function.walk)).Subperm (places ts) := by
  obtain ⟨T, I, F, hsub, hT, hI, hF⟩ := h.functionsIn
  have hall : FunctionsIn (T ++ (I ++ F)) (allFunctions (.ofItems source items)) := by
    rw [allFunctions_ofItems, List.append_assoc]
    exact hT.append (hI.append hF)
  obtain ⟨us, hperm, hus⟩ := hsub
  have hstart : (closurePlaces (((lowerFunctions file n (allFunctions (.ofItems source items))).filterMap
      Except.toOption).flatMap Function.walk)).Sublist (places (T ++ (I ++ F))) := hall.startIn
  exact hstart.subperm.trans ((hperm.symm.map placeOf).subperm.trans (hus.map placeOf).subperm)

end ClosureLint.Syntax
