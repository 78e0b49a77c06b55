import ClosureLint.Proofs.Checking.Around
import ClosureLint.Proofs.Checking.Closures

/-!
# The moments of a check

The check of an expression checks the expressions inside it, each from the state that the steps
before have left. All of these checks begin and end one after the other or one inside the other, and
the moments at which they do are listed here in the order of time.

* `callExpects`, `methodExpects`, `closureFront`, `closureBack` — what a check does in front of and
  behind the checks of the parts.
* `Moment` — the check of an expression begins, or it ends.
* `momentsIn`, `momentsInArgs`, `momentsInStmts`, `momentsInBody` — the moments of a check.
* `Recounts`, `momentsInBody_recounts` — a check that begins has all its moments listed, and one
  that ends is a check with this result.
* `entered_momentsInBody` — every expression of a body is checked once, in the order of the text.
-/

namespace ClosureLint.Typing

open ClosureLint.Core
open ClosureLint.Syntax (Path TypeExpr)

variable {c : Context} {s s' : State} {α β : Type} {node : Node}

/-! ### In front of the parts and behind them -/

/-- What the arguments of a call are expected to be, and the type of the call, when what is called
has type `type`. -/
def callExpects (node : Node) (callee : Expr) (args : List Expr) (type : Ty) :
    Check (List (Option Ty) × Ty) := do
  if type.kind = .function then
    let params ← type.fnParams
    let ret ← type.fnRet
    return (← expectedArgs "function" node args.length params, ret)
  else
    if type.kind ≠ .unknown then report (.notCallable (← type.text)) callee.span
    return ([], .unknown)

/-- Behind the callee, a call checks its arguments against what is expected of them. -/
theorem callRest_split (callee : Expr) (args : List Expr) (type : Ty) :
    callRest c node callee args type = (do
      let p ← callExpects node callee args type
      checkArgs c args p.1
      return p.2) := by
  -- the arguments are checked last in either case, so what differs is in front of them
  unfold callRest callExpects
  split
  · simp only [bind_assoc, pure_bind]
  · split <;> simp only [bind_assoc, pure_bind]

/-- What the arguments of a method call are expected to be, and the type of the call, when the
receiver has type `type`. -/
def methodExpects (c : Context) (node : Node) (receiver : Expr) (method : String)
    (args : List Expr) (type : Ty) : Check (List (Option Ty) × Ty) := do
  if type.kind = .unknown then
    return ([], .unknown)
  else
    match c.registry.resolveMethod c.targets type method with
    | .error (.fault f) => throw f
    | .error (.refused e) =>
      report (.resolution e) node.span
      return ([], .unknown)
    | .ok r =>
      setMethod node.id r
      if r.receiverAdjusted then setAdjusted receiver.id
      let fnType := r.decl.type.substSelf r.step
      let params ← fnType.fnParams
      let ret ← fnType.fnRet
      return (← expectedArgs "method" node args.length (params.drop 1), ret)

/-- So does a method call behind its receiver. -/
theorem methodRest_split (receiver : Expr) (method : String) (args : List Expr) (type : Ty) :
    methodRest c node receiver method args type = (do
      let p ← methodExpects c node receiver method args type
      checkArgs c args p.1
      return p.2) := by
  unfold methodRest methodExpects
  split
  · simp only [pure_bind]
  -- whatever the search answers, the arguments are checked last
  · cases c.registry.resolveMethod c.targets type method with
    | error e =>
      cases e with
      | fault => rfl
      | refused => simp only [bind_assoc, pure_bind]
    | ok r =>
      unfold resolvedRest
      by_cases h : r.receiverAdjusted = true
      · simp only [if_pos h, bind_assoc, pure_bind]
      · simp only [if_neg h, bind_assoc, pure_bind]

/-- What the check of a closure does in front of the body, and what the body is expected to be. -/
def closureFront (c : Context) (params : List Param) (ret : Option TypeExpr)
    (signature : Option (List Ty × Ty)) : Check (Option Ty) := do
  bindParams c params (((signature.map Prod.fst).getD []).map some)
  writtenOr c ret (signature.map Prod.snd)

/-- What the check of a closure does behind the body, and the type of the closure. -/
def closureBack (c : Context) (params : List Param) (body : Expr) (expected : Option Ty)
    (type : Ty) : Check Ty := do
  coerceTo c body type expected
  let paramTypes ← params.mapM (paramType c)
  return Ty.function paramTypes (expected.getD type) false

/-- Between its parameters and its result, a closure checks its body. -/
theorem closureInside_split (params : List Param) (ret : Option TypeExpr) (body : Expr)
    (signature : Option (List Ty × Ty)) :
    closureInside c params ret body signature = (do
      let expected ← closureFront c params ret signature
      let type ← checkExpr c body expected
      closureBack c params body expected type) := by
  unfold closureInside closureFront closureBack
  simp only [bind_assoc]

/-! ### Moments -/

/-- A moment of a check: the check of an expression begins in a state, or it ends in a state, having
begun in another and found a type. -/
inductive Moment where
  | enters (e : Expr) (expected : Option Ty) (s : State)
  | leaves (e : Expr) (expected : Option Ty) (start : State) (type : Ty) (s : State)

/-- The state at a moment. -/
def Moment.state : Moment → State
  | .enters _ _ s | .leaves _ _ _ _ s => s

/-- The stacks of scopes at several moments. -/
def scopesAt (ms : List Moment) : List (List Scope) := ms.map fun m => m.state.scopes

/-- What goes on after a step, given its answer and the state it leaves; nothing, if it fails. -/
def following (m : Check α) (s : State) (next : α → State → List β) : List β :=
  match m s with
  | .ok (a, s') => next a s'
  | .error _ => []

section

variable (c : Context)

mutual

/-- The moments of the check of an expression that begins in the state `s`. -/
def momentsIn (e : Expr) (expected : Option Ty) (s : State) : List Moment :=
  .enters e expected s :: ((match e with
    | .path .. | .int .. | .str .. => []
    | .borrow _ _ subject =>
      following (liftM (expectedPointee expected)) s fun x s => momentsIn subject x s
    | .deref _ subject | .field _ subject _ => momentsIn subject none s
    | .call node callee args =>
      momentsIn callee none s ++
        following (checkExpr c callee none) s fun type s =>
          following (callExpects node callee args type) s fun p s => momentsInArgs args p.1 s
    | .methodCall node receiver method args =>
      momentsIn receiver none s ++
        following (checkExpr c receiver none) s fun type s =>
          following (methodExpects c node receiver method args type) s fun p s =>
            momentsInArgs args p.1 s
    | .closure _ params ret body =>
      following (liftM (expectedSignature expected params.length)) s fun signature s =>
        let opened := { s with scopes := [] :: s.scopes }
        following (closureFront c params ret signature) opened fun x s => momentsIn body x s) ++
    -- a check that fails never ends
    following (checkExpr c e expected) s fun type s' => [.leaves e expected s type s'])

/-- The moments of the checks of arguments. -/
def momentsInArgs : List Expr → List (Option Ty) → State → List Moment
  | [], _, _ => []
  | e :: es, expected, s =>
    momentsIn e (expected.head?.getD none) s ++
      following (checkExpr c e (expected.head?.getD none)) s fun type s =>
        following (coerceTo c e type (expected.head?.getD none)) s fun _ s =>
          momentsInArgs es expected.tail s

end

/-- The moments of the check of a statement. -/
def momentsInStmt : Stmt → State → List Moment
  | .letStmt _ _ declared value, s =>
    following (writtenOr c declared none) s fun expected s => momentsIn c value expected s
  | .exprStmt _ e, s => momentsIn c e none s

/-- The moments of the checks of several statements. -/
def momentsInStmts : List Stmt → State → List Moment
  | [], _ => []
  | st :: sts, s =>
    momentsInStmt c st s ++
      following (checkStmt c st) s fun _ s => momentsInStmts sts s

/-- The moments of the check of a body whose parameters have the given types, in the scope that is
its own. -/
def momentsInside (f : Function) (types : List Ty) (s : State) : List Moment :=
  following ((f.params.zip types).forM fun (p, t) => bindPattern p.pattern (some t)) s fun _ s =>
    momentsInStmts c f.body.stmts s

/-- The moments of the check of a body. -/
def momentsInBody (f : Function) (type : Ty) (s : State) : List Moment :=
  following (liftM type.fnParams) s fun types s =>
    momentsInside c f types { s with scopes := [] :: s.scopes }

end

section

variable {m : Check α} {a : α}

/-- What follows a success goes on from there. -/
theorem following_of_gives (h : Gives m s a s') (next : α → State → List β) :
    following m s next = next a s' := by
  unfold following
  rw [h]

/-- Nothing follows a failure. -/
theorem following_of_fails {f : Fault} (h : m s = .error f) (next : α → State → List β) :
    following m s next = [] := by
  unfold following
  rw [h]

/-- What follows a step follows its success. -/
theorem mem_following {next : α → State → List β} {b : β} :
    b ∈ following m s next ↔ ∃ a s', Gives m s a s' ∧ b ∈ next a s' := by
  cases h : m s with
  | error f =>
    rw [following_of_fails h]
    refine ⟨nofun, ?_⟩
    rintro ⟨a, s', hg, -⟩
    exact absurd (h.symm.trans hg) nofun
  | ok p =>
    -- a step has one answer only, so it is this one that the rest was given
    rw [following_of_gives (show Gives m s p.1 p.2 from h)]
    constructor
    · exact fun hb => ⟨p.1, p.2, h, hb⟩
    · rintro ⟨a, s', hg, hb⟩
      obtain ⟨rfl, rfl⟩ := Gives.unique hg h
      exact hb

end

/-! ### What moments are about -/

/-- Of each check that begins in the course of `ms` all moments are among them, one right after the
other. Each check that ends has begun there, and it is a check that gives this result. -/
structure Recounts (c : Context) (ms : List Moment) : Prop where
  begun : ∀ e x s, .enters e x s ∈ ms → momentsIn c e x s <:+: ms
  ended : ∀ e x s t s', .leaves e x s t s' ∈ ms →
    .enters e x s ∈ ms ∧ Gives (checkExpr c e x) s t s'

namespace Recounts

variable {ms ms' : List Moment}

/-- No moments tell nothing. -/
theorem nil : Recounts c [] := ⟨nofun, nofun⟩

/-- Moments one after the other tell what each of them tells. -/
theorem append (h : Recounts c ms) (h' : Recounts c ms') : Recounts c (ms ++ ms') where
  begun e x s he := by
    rcases List.mem_append.mp he with he | he
    · exact (h.begun e x s he).trans (List.prefix_append ms ms').isInfix
    · exact (h'.begun e x s he).trans (List.suffix_append ms ms').isInfix
  ended e x s t s' he := by
    rcases List.mem_append.mp he with he | he
    · obtain ⟨hbegun, hg⟩ := h.ended e x s t s' he
      exact ⟨List.mem_append_left _ hbegun, hg⟩
    · obtain ⟨hbegun, hg⟩ := h'.ended e x s t s' he
      exact ⟨List.mem_append_right _ hbegun, hg⟩

/-- So do the moments that follow a step. -/
theorem following {m : Check α} {next : α → State → List Moment}
    (h : ∀ a s', Recounts c (next a s')) : Recounts c (following m s next) := by
  cases hm : m s with
  | error f =>
    rw [following_of_fails hm]
    exact nil
  | ok p =>
    rw [following_of_gives (show Gives m s p.1 p.2 from hm)]
    exact h p.1 p.2

/-- The check of an expression begins in front of what is inside it and ends behind. -/
theorem check {e : Expr} {expected : Option Ty}
    (hm : momentsIn c e expected s = .enters e expected s ::
      (ms ++ Typing.following (checkExpr c e expected) s fun t s' => [.leaves e expected s t s']))
    (h : Recounts c ms) : Recounts c (momentsIn c e expected s) := by
  have hinside : ms <:+: momentsIn c e expected s := by
    rw [hm]
    exact (List.prefix_append ms _).isInfix.trans (List.suffix_cons _ _).isInfix
  -- only a check that ends has an end among its moments
  have hlast {m : Moment} (h : m ∈ Typing.following (checkExpr c e expected) s fun t s' =>
      [.leaves e expected s t s']) :
      ∃ t s', Gives (checkExpr c e expected) s t s' ∧ m = .leaves e expected s t s' := by
    obtain ⟨t, s', hg, hmem⟩ := mem_following.mp h
    exact ⟨t, s', hg, List.mem_singleton.mp hmem⟩
  -- a moment is the beginning of this check, one inside it, or its end
  constructor
  · intro e' x' s₁ he
    rw [hm] at he
    rcases List.mem_cons.mp he with he | he
    · -- it is the check itself
      obtain ⟨rfl, rfl, rfl⟩ := Moment.enters.inj he
      exact List.infix_rfl
    · rcases List.mem_append.mp he with he | he
      · exact (h.begun e' x' s₁ he).trans hinside
      · obtain ⟨t, s', -, he⟩ := hlast he
        nomatch he
  · intro e' x' s₁ t s' he
    rw [hm] at he
    obtain he | he := List.mem_append.mp ((List.mem_cons.mp he).resolve_left nofun)
    · obtain ⟨hbegun, hg⟩ := h.ended e' x' s₁ t s' he
      exact ⟨hinside.subset hbegun, hg⟩
    · obtain ⟨t', s'', hg, he⟩ := hlast he
      obtain ⟨rfl, rfl, rfl, rfl, rfl⟩ := Moment.leaves.inj he
      refine ⟨?_, hg⟩
      rw [hm]
      exact List.mem_cons_self

end Recounts

mutual

/-- **The moments of an expression** are those of the checks inside it and its own. -/
theorem momentsIn_recounts (c : Context) : (e : Expr) → (expected : Option Ty) → (s : State) →
    Recounts c (momentsIn c e expected s)
  | .path .., _, _ | .int .., _, _ | .str .., _, _ => .check (by rw [momentsIn]) .nil
  | .borrow _ _ subject, _, _ => .check (by rw [momentsIn]) <|
    .following fun x s => momentsIn_recounts c subject x s
  | .deref _ subject, _, s | .field _ subject _, _, s => .check (by rw [momentsIn]) <|
    momentsIn_recounts c subject none s
  | .call _ callee args, _, s => .check (by rw [momentsIn]) <|
    (momentsIn_recounts c callee none s).append <|
      .following fun _ _ => .following fun (p : List (Option Ty) × Ty) s =>
        momentsInArgs_recounts c args p.1 s
  | .methodCall _ receiver _ args, _, s => .check (by rw [momentsIn]) <|
    (momentsIn_recounts c receiver none s).append <|
      .following fun _ _ => .following fun (p : List (Option Ty) × Ty) s =>
        momentsInArgs_recounts c args p.1 s
  | .closure _ _ _ body, _, _ => .check (by rw [momentsIn]) <|
    .following fun _ _ => .following fun x s => momentsIn_recounts c body x s

/-- The moments of arguments are those of each. -/
theorem momentsInArgs_recounts (c : Context) : (es : List Expr) → (expected : List (Option Ty)) →
    (s : State) → Recounts c (momentsInArgs c es expected s)
  | [], _, _ => by
    rw [momentsInArgs]
    exact .nil
  | e :: es, expected, s => by
    rw [momentsInArgs]
    exact (momentsIn_recounts c e _ s).append <|
      .following fun _ _ => .following fun _ s => momentsInArgs_recounts c es expected.tail s

end

/-- The moments of a statement are those of its expression. -/
theorem momentsInStmt_recounts (st : Stmt) (s : State) : Recounts c (momentsInStmt c st s) := by
  cases st with
  | letStmt node pattern declared value =>
    exact .following fun x s => momentsIn_recounts c value x s
  | exprStmt node e => exact momentsIn_recounts c e none s

/-- The moments of statements are those of each. -/
theorem momentsInStmts_recounts (sts : List Stmt) (s : State) :
    Recounts c (momentsInStmts c sts s) := by
  induction sts generalizing s with
  | nil => exact .nil
  | cons st sts ih => exact (momentsInStmt_recounts st s).append (.following fun _ s => ih s)

/-- **The moments of a body** belong to checks that are listed wholly. -/
theorem momentsInBody_recounts (f : Function) (type : Ty) (s : State) :
    Recounts c (momentsInBody c f type s) :=
  .following fun _ _ => .following fun _ s => momentsInStmts_recounts f.body.stmts s

/-! ### Which expressions are checked -/

/-- The expressions whose checks begin, in the order of time. -/
def entered (ms : List Moment) : List Expr :=
  ms.filterMap fun
    | .enters e _ _ => some e
    | .leaves .. => none

/-- What is entered in moments one after the other. -/
theorem entered_append (ms ms' : List Moment) :
    entered (ms ++ ms') = entered ms ++ entered ms' := List.filterMap_append ..

/-- If the step `m` succeeds from the state `s`, then `es` are the expressions whose checks begin in
the course of `ms`. -/
def Enters (m : Check α) (s : State) (ms : List Moment) (es : List Expr) : Prop :=
  ∀ a s', Gives m s a s' → entered ms = es

namespace Enters

variable {m : Check α} {ms : List Moment} {es es' : List Expr}

/-- A step without checks of expressions enters none. -/
theorem nothing : Enters m s [] [] := fun _ _ _ => rfl

/-- Steps one after the other enter what each of them enters. -/
theorem bind {f : α → Check β} {next : α → State → List Moment} (hm : Enters m s ms es)
    (hf : ∀ a s', Enters (f a) s' (next a s') es') :
    Enters (m >>= f) s (ms ++ following m s next) (es ++ es') := by
  intro b s' hg
  obtain ⟨a, s₁, h₁, h₂⟩ := gives_bind.mp hg
  rw [following_of_gives h₁, entered_append, hm a s₁ h₁, hf a s₁ b s' h₂]

/-- A step without checks in front changes nothing. -/
theorem before {f : α → Check β} {next : α → State → List Moment}
    (hf : ∀ a s', Enters (f a) s' (next a s') es) :
    Enters (m >>= f) s (following m s next) es := (nothing (m := m) (s := s)).bind hf

/-- Nor does one behind. -/
theorem after {f : α → Check β} (hm : Enters m s ms es) : Enters (m >>= f) s ms es := by
  intro b s' hg
  obtain ⟨a, s₁, h₁, -⟩ := gives_bind.mp hg
  exact hm a s₁ h₁

/-- Nor does a scope of its own. -/
theorem inScope (h : Enters m { s with scopes := [] :: s.scopes } ms es) :
    Enters (inScope m) s ms es := by
  intro a s' hg
  obtain ⟨s₁, h₁, -⟩ := gives_inScope.mp hg
  exact h a s₁ h₁

/-- The check of an expression enters it, and then what is inside. -/
theorem checkExpr {e : Expr} {expected : Option Ty} (h : Enters (unfiled c expected e) s ms es) :
    Enters (checkExpr c e expected) s (.enters e expected s ::
      (ms ++ following (checkExpr c e expected) s fun t s' => [.leaves e expected s t s']))
      (e :: es) := by
  intro t s' hg
  have hinside : Enters (Typing.checkExpr c e expected) s ms es := by
    rw [checkExpr_eq_filed]
    exact h.after
  rw [following_of_gives hg]
  calc entered (.enters e expected s :: (ms ++ [.leaves e expected s t s']))
      = e :: entered (ms ++ [.leaves e expected s t s']) := rfl
    _ = e :: (entered ms ++ []) := by rw [entered_append]; rfl
    _ = e :: es := by rw [List.append_nil, hinside t s' hg]

end Enters

mutual

/-- The check of an expression begins with that of the expression itself, and goes on with those of
the expressions inside it. -/
theorem momentsIn_enters (c : Context) : (e : Expr) → (expected : Option Ty) → (s : State) →
    Enters (checkExpr c e expected) s (momentsIn c e expected s) e.walk
  | .path .., _, _ | .int .., _, _ | .str .., _, _ => by
    rw [momentsIn, Expr.walk]
    exact .checkExpr .nothing
  | .borrow _ _ subject, _, _ => by
    rw [momentsIn, Expr.walk]
    exact .checkExpr <| .before fun x s => (momentsIn_enters c subject x s).after
  | .deref _ subject, _, s | .field _ subject _, _, s => by
    rw [momentsIn, Expr.walk]
    exact .checkExpr (momentsIn_enters c subject none s).after
  -- the callee is entered first, and the arguments behind it, as in the walk
  | .call node callee args, _, s => by
    rw [momentsIn, Expr.walk]
    refine .checkExpr ?_
    simp only [unfiled, callRest_split]
    exact (momentsIn_enters c callee none s).bind fun _ _ =>
      .before fun p s => (momentsInArgs_enters c args p.1 s).after
  | .methodCall node receiver method args, _, s => by
    rw [momentsIn, Expr.walk]
    refine .checkExpr ?_
    simp only [unfiled, methodRest_split]
    exact (momentsIn_enters c receiver none s).bind fun _ _ =>
      .before fun p s => (momentsInArgs_enters c args p.1 s).after
  | .closure _ _ _ body, _, _ => by
    rw [momentsIn, Expr.walk]
    refine .checkExpr ?_
    -- the parameters are bound in front of the body, which enters nothing
    simp only [unfiled, closureInside_split]
    exact .before fun _ _ => .inScope <| .before fun x s => (momentsIn_enters c body x s).after

/-- The check of arguments enters each of them, in order. -/
theorem momentsInArgs_enters (c : Context) : (es : List Expr) → (expected : List (Option Ty)) →
    (s : State) → Enters (checkArgs c es expected) s (momentsInArgs c es expected s)
      (Expr.walkAll es)
  | [], _, _ => by
    rw [momentsInArgs, Expr.walkAll]
    exact .nothing
  | e :: es, expected, s => by
    rw [momentsInArgs, checkArgs_cons, Expr.walkAll]
    exact (momentsIn_enters c e _ s).bind fun _ _ =>
      .before fun _ s => momentsInArgs_enters c es expected.tail s

end

/-- The check of a statement enters its expression. -/
theorem momentsInStmt_enters (st : Stmt) (s : State) :
    Enters (checkStmt c st) s (momentsInStmt c st s) st.expr.walk := by
  cases st with
  | letStmt node pattern declared value =>
    rw [checkStmt_letStmt]
    exact .before fun x s => (momentsIn_enters c value x s).after
  | exprStmt node e => exact (momentsIn_enters c e none s).after

/-- The check of statements enters each of them, in order. -/
theorem momentsInStmts_enters (sts : List Stmt) (s : State) :
    Enters (sts.forM (checkStmt c)) s (momentsInStmts c sts s)
      (sts.flatMap fun st => st.expr.walk) := by
  induction sts generalizing s with
  | nil => exact .nothing
  | cons st sts ih => exact (momentsInStmt_enters st s).bind fun _ s => ih s

/-- **Every expression of a body** is checked once, in the order of the text. -/
theorem entered_momentsInBody {f : Function} {type : Ty} {u : Unit}
    (h : Gives (checkBody c f type) s u s') : entered (momentsInBody c f type s) = f.walk := by
  have hbody : Enters (checkBody c f type) s (momentsInBody c f type s) f.walk := by
    rw [checkBody_eq]
    exact .before fun types s => .inScope <|
      .before fun _ s => momentsInStmts_enters f.body.stmts s
  exact hbody u s' h

end ClosureLint.Typing
