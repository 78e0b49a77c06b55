import Mathlib.Data.Set.Function
import Mathlib.Logic.Equiv.Basic
import ClosureLint.Proofs.FixedFindings

/-!
# Names of parameters

The detectors ask of names only which of them are equal. So a closure may give its parameters other
names, as long as different names stay different: what is found out about it is the same, and so is the
text to put in its place, which is cut out of the source or made of the tables.

* `Expr.rename`, `Param.rename` — the same tree with other names for its locals.
* `Occurs` — the names of a closure.
* `forwards_iff` — what it is to hand the parameters on.
* `names_ignored` — **a closure and the same closure with other names are treated alike**.
-/

namespace ClosureLint

open ClosureLint.Syntax (Path)

namespace Core

section

variable (ρ σ : String → String)

mutual

/-- The pattern with other names. -/
def Pattern.rename : Pattern → Pattern
  | .binding n isMut name => .binding n isMut (ρ name)
  | .tuple n elems => .tuple n (Pattern.renameAll elems)
  | .ref n inner => .ref n inner.rename
  | .wildcard n => .wildcard n

/-- The patterns with other names. -/
def Pattern.renameAll : List Pattern → List Pattern
  | [] => []
  | p :: ps => p.rename :: Pattern.renameAll ps

end

/-- The parameter with other names. -/
def Param.rename (p : Param) : Param := { p with pattern := p.pattern.rename ρ }

/-- A path of one segment with another name. Longer paths do not mean locals. -/
def renamePath : Path → Path
  | [name] => [ρ name]
  | segments => segments

mutual

/-- The expression with other names: `ρ` renames the paths of one segment, and `σ` what the closures in it
bind. -/
def Expr.rename : Expr → Expr
  | .path n segments => .path n (renamePath ρ segments)
  | .int n value => .int n value
  | .str n value => .str n value
  | .borrow n isMut subject => .borrow n isMut subject.rename
  | .deref n subject => .deref n subject.rename
  | .field n subject name => .field n subject.rename name
  | .call n callee args => .call n callee.rename (Expr.renameAll args)
  | .methodCall n receiver method args => .methodCall n receiver.rename method (Expr.renameAll args)
  | .closure n params ret body => .closure n (params.map (Param.rename σ)) ret body.rename

/-- The expressions with other names. -/
def Expr.renameAll : List Expr → List Expr
  | [] => []
  | e :: es => e.rename :: Expr.renameAll es

end

end

variable {ρ σ : String → String}

theorem Expr.renameAll_eq_map (es : List Expr) :
    Expr.renameAll ρ σ es = es.map (Expr.rename ρ σ) := by
  induction es with
  | nil => rfl
  | cons e es ih => rw [renameAll, ih, List.map_cons]

/-- Other names change neither identity nor span. -/
theorem Expr.node_rename (e : Expr) : (e.rename ρ σ).node = e.node := by
  cases e <;> rfl

end Core

namespace Eta

open ClosureLint.Core

variable {ρ σ : String → String} {q : Query} {p : Param} {e body call callee receiver : Expr}
  {params : List Param} {args : List Expr} {method : String}

/-! ### Parameters handed on -/

/-- The parameter binds one name, with or without `mut`. -/
def IsSimple (p : Param) : Prop := ∃ n isMut name, p.pattern = .binding n isMut name

theorem paramNames_cons {ps : List Param} {n : Node} {isMut : Bool} {name : String}
    (hp : p.pattern = .binding n isMut name) : paramNames (p :: ps) = name :: paramNames ps := by
  unfold paramNames
  rw [List.flatMap_cons, hp]
  rfl

/-- **What it is to hand the parameters on**, for as many arguments: all parameters bind one name, and
the arguments are the paths of these names in order. -/
theorem forwards_iff (hlength : args.length = params.length) : forwards params args = true ↔
    (∀ p ∈ params, IsSimple p) ∧
      List.Forall₂ (fun e name => ∃ n, e = .path n [name]) args (paramNames params) := by
  induction params generalizing args with
  | nil =>
    obtain rfl := List.length_eq_zero_iff.mp hlength
    exact ⟨fun _ => ⟨List.forall_mem_nil _, .nil⟩, fun _ => rfl⟩
  | cons p ps ih =>
    obtain ⟨e, es, rfl⟩ := List.exists_cons_of_length_eq_add_one hlength
    -- one parameter and one argument at a time
    have hcons : forwards (p :: ps) (e :: es) = (forwardsOne p e && forwards ps es) := rfl
    rw [hcons, Bool.and_eq_true, forwardsOne_iff, ih (Nat.succ.inj hlength), List.forall_mem_cons]
    constructor
    · rintro ⟨⟨n, isMut, name, n', hp, rfl⟩, hsimple, hpaths⟩
      rw [paramNames_cons hp]
      exact ⟨⟨⟨n, isMut, name, hp⟩, hsimple⟩, .cons ⟨n', rfl⟩ hpaths⟩
    · rintro ⟨⟨⟨n, isMut, name, hp⟩, hsimple⟩, hpaths⟩
      rw [paramNames_cons hp] at hpaths
      obtain ⟨⟨n', rfl⟩, hrest⟩ := List.forall₂_cons.mp hpaths
      exact ⟨⟨n, isMut, name, n', hp, rfl⟩, hsimple, hrest⟩

/-! ### Other names -/

/-- A name occurs in the closure `|params| body`: a parameter binds it, or it stands in the body as a
path of one segment. -/
def Occurs (params : List Param) (body : Expr) (name : String) : Prop :=
  name ∈ paramNames params ∨ ∃ n, Expr.path n [name] ∈ body.walk

/-- A parameter is handed on under its new name where it was under the old. -/
theorem forwardsOne_rename
    (h : ∀ x ∈ p.pattern.names, ∀ n y, e = .path n [y] → ρ y = ρ x → y = x) :
    forwardsOne (p.rename ρ) (e.rename ρ σ) = forwardsOne p e := by
  obtain ⟨n, pattern, declared⟩ := p
  cases pattern with
  | binding _ _ name =>
    cases e with
    | path m segments =>
      rcases segments with - | ⟨y, - | ⟨_, _⟩⟩
      · rfl
      · -- the only place where names are looked at
        have hname : ρ y = ρ name ↔ y = name :=
          ⟨h name (List.mem_singleton_self name) m y rfl, congrArg ρ⟩
        change (ρ y == ρ name) = (y == name)
        rw [Bool.eq_iff_iff, beq_iff_eq, beq_iff_eq, hname]
      · rfl
    | int | str | borrow | deref | field | call | methodCall | closure => rfl
  | tuple | ref | wildcard => rfl

/-- The same for all parameters, and arguments from the body. -/
theorem forwards_rename (h : Set.InjOn ρ {name | Occurs params body name})
    (hargs : ∀ e ∈ args, e ∈ body.walk) :
    forwards (params.map (Param.rename ρ)) (args.map (Expr.rename ρ σ)) = forwards params args := by
  unfold forwards
  rw [List.zip_map, List.all_map, Bool.eq_iff_iff, List.all_eq_true, List.all_eq_true]
  refine forall₂_congr fun pair hpair => ?_
  obtain ⟨hp, he⟩ := List.of_mem_zip (a := pair.1) (b := pair.2) hpair
  have hone : forwardsOne (pair.1.rename ρ) (pair.2.rename ρ σ) = forwardsOne pair.1 pair.2 := by
    refine forwardsOne_rename fun x hx n y hy hname => ?_
    exact h (.inr ⟨n, hy ▸ hargs _ he⟩) (.inl (List.mem_flatMap.mpr ⟨_, hp, hx⟩)) hname
  exact iff_of_eq (congrArg (· = true) hone)

/-! ### Closures with other names -/

/-- Every query answers like itself. -/
theorem AnswersAlike.refl (q : Query) : AnswersAlike (fun i j => j = i) q q where
  tables := ⟨fun _ _ h => h ▸ rfl, fun _ _ h => h ▸ rfl, fun _ _ h => h ▸ rfl, fun _ _ h => h ▸ Iff.rfl⟩
  source := rfl

theorem pairs_rename (e : Expr) : Pairs (fun i j => j = i) e.node (e.rename ρ σ).node :=
  ⟨congrArg Node.id e.node_rename, congrArg Node.span e.node_rename⟩

theorem any_isAdjusted_rename (args : List Expr) :
    (args.map (Expr.rename ρ σ)).any q.isAdjusted = args.any q.isAdjusted := by
  rw [List.any_map]
  exact congrArg args.any (funext fun e => (AnswersAlike.refl q).isAdjusted (pairs_rename e))

theorem checkCall_rename
    (h : forwards (params.map (Param.rename ρ)) (args.map (Expr.rename ρ σ)) = forwards params args) :
    checkCall q (params.map (Param.rename ρ)) (call.rename ρ σ) (callee.rename ρ σ)
        (args.map (Expr.rename ρ σ)) = checkCall q params call callee args := by
  have hq := AnswersAlike.refl q
  unfold checkCall
  rw [List.length_map, List.length_map, hq.isAdjusted (pairs_rename call), any_isAdjusted_rename,
    hq.typeOf (pairs_rename callee), h, hq.text? (pairs_rename callee)]

theorem checkMethodCall_rename (h : forwards (params.map (Param.rename ρ))
      ((receiver :: args).map (Expr.rename ρ σ)) = forwards params (receiver :: args)) :
    checkMethodCall q (params.map (Param.rename ρ)) (call.rename ρ σ) (receiver.rename ρ σ) method
        (args.map (Expr.rename ρ σ)) = checkMethodCall q params call receiver method args := by
  have hq := AnswersAlike.refl q
  -- the owner is found by types, which stay where they are filed
  have howner (d : Decl) : methodOwner? q d (call.rename ρ σ) (receiver.rename ρ σ)
      = methodOwner? q d call receiver := by
    unfold methodOwner?
    rw [hq.signature? (pairs_rename call), hq.typeOf (pairs_rename receiver)]
  unfold checkMethodCall
  simp only [← List.map_cons, List.length_map, hq.isAdjusted (pairs_rename call),
    any_isAdjusted_rename, hq.method? (pairs_rename call), h, howner]

/-- **A closure with other names** is found redundant if it is with its own, with the same text. -/
theorem checkClosure_rename {n : Node} {ret : Option Syntax.TypeExpr}
    (h : Set.InjOn ρ {name | Occurs params body name}) :
    checkClosure q (.closure n (params.map (Param.rename ρ)) ret (body.rename ρ σ))
      = checkClosure q (.closure n params ret body) := by
  cases body with
  | call m callee args =>
    have hargs : ∀ e ∈ args, e ∈ (Expr.call m callee args).walk := fun e he =>
      Expr.walk_of_inside (List.mem_append_right _ (Expr.mem_walkAll.mpr ⟨e, he, e.mem_walk_self⟩))
    have hcall : checkCall q (params.map (Param.rename ρ)) ((Expr.call m callee args).rename ρ σ)
        (callee.rename ρ σ) (args.map (Expr.rename ρ σ))
          = checkCall q params (.call m callee args) callee args :=
      checkCall_rename (forwards_rename h hargs)
    rw [← Expr.renameAll_eq_map] at hcall
    exact congrArg Except.ok hcall
  | methodCall m receiver method args =>
    -- the receiver counts as the first argument
    have hargs : ∀ e ∈ receiver :: args, e ∈ (Expr.methodCall m receiver method args).walk := by
      refine List.forall_mem_cons.mpr ⟨?_, fun e he => ?_⟩
      · exact Expr.walk_of_inside (List.mem_append_left _ receiver.mem_walk_self)
      · exact Expr.walk_of_inside
          (List.mem_append_right _ (Expr.mem_walkAll.mpr ⟨e, he, e.mem_walk_self⟩))
    have hcall : checkMethodCall q (params.map (Param.rename ρ))
        ((Expr.methodCall m receiver method args).rename ρ σ) (receiver.rename ρ σ) method
        (args.map (Expr.rename ρ σ))
          = checkMethodCall q params (.methodCall m receiver method args) receiver method args :=
      checkMethodCall_rename (forwards_rename h hargs)
    rw [← Expr.renameAll_eq_map] at hcall
    exact hcall
  | path | int | str | borrow | deref | field | closure => rfl

/-- **Only equality of names counts.** Let the parameters of a closure and the paths of one segment in
it be renamed so that different names of the closure stay different, and let what closures in it bind be
renamed in any way. Then there is the same finding as before, with the same text, or none as before;
and whichever expressions of the body are taken for arguments, the parameters are handed on as them if
and only if they were. And for as many arguments as parameters, the parameters are handed on if and only
if all of them bind one name and the arguments are the paths of these names, in the same order. -/
theorem names_ignored :
    (∀ (q : Query) (ρ σ : String → String) (n : Node) (params : List Param)
        (ret : Option Syntax.TypeExpr) (body : Expr),
      Set.InjOn ρ {name | Occurs params body name} →
        checkClosure q (.closure n (params.map (Param.rename ρ)) ret (body.rename ρ σ))
            = checkClosure q (.closure n params ret body) ∧
          ∀ args, (∀ e ∈ args, e ∈ body.walk) →
            forwards (params.map (Param.rename ρ)) (args.map (Expr.rename ρ σ))
              = forwards params args) ∧
    ∀ (params : List Param) (args : List Expr), args.length = params.length →
      (forwards params args = true ↔ (∀ p ∈ params, IsSimple p) ∧
        List.Forall₂ (fun e name => ∃ n, e = .path n [name]) args (paramNames params)) :=
  ⟨fun _ _ _ _ _ _ _ h => ⟨checkClosure_rename h, fun _ => forwards_rename h⟩,
    fun _ _ => forwards_iff⟩

/-- A parameter that binds `name`. -/
def paramNamed (name : String) : Param := ⟨{}, .binding {} false name, none⟩

/-- Names that become equal can make a difference. -/
example :
    let params := [paramNamed "a", paramNamed "b"]
    let args := [Expr.path {} ["b"], .path {} ["a"]]
    forwards params args = false ∧ forwards (params.map (Param.rename fun _ => "c"))
      (args.map (Expr.rename (fun _ => "c") id)) = true := by decide

/-- The body of `|a, b| pick(|b| a)(a, b)`. -/
def pickedCall : Expr :=
  .call { id := 1 }
    (.call { id := 2, span := { startPos := some 7, endPos := some 18 } } (.path { id := 3 } ["pick"])
      [.closure { id := 4 } [paramNamed "b"] none (.path { id := 5 } ["a"])])
    [.path { id := 6 } ["a"], .path { id := 7 } ["b"]]

/-- What is known about it. -/
def pickedQuery : Query :=
  ⟨{ types := [(2, .function [.int "i32", .int "i32"] .unit false)] }, some "|a, b| pick(|b| a)(a, b)"⟩

/-- **Two parameters change names**, in a closure whose callee uses one of them and binds the other
again, and whatever that is called, the finding is the same. -/
theorem swappedNames_ignored :
    Set.InjOn (Equiv.swap "a" "b") {name | Occurs [paramNamed "a", paramNamed "b"] pickedCall name} ∧
    (∀ σ, checkClosure pickedQuery (.closure {} [paramNamed "b", paramNamed "a"] none
      (pickedCall.rename (Equiv.swap "a" "b") σ)) = .ok (some ⟨some "pick(|b| a)"⟩)) ∧
    (∀ e ∈ candidates pickedCall, e ∈ pickedCall.walk) ∧
    forwards [paramNamed "b", paramNamed "a"] [.path { id := 6 } ["b"], .path { id := 7 } ["a"]] = true ∧
    (candidates pickedCall).length = [paramNamed "a", paramNamed "b"].length ∧
    ∀ p ∈ [paramNamed "a", paramNamed "b"], IsSimple p := by
  obtain ⟨hrenamed, hforwards⟩ := names_ignored
  have hinj := (Equiv.swap "a" "b").injective.injOn
    (s := {name | Occurs [paramNamed "a", paramNamed "b"] pickedCall name})
  have hargs : ∀ e ∈ candidates pickedCall, e ∈ pickedCall.walk := by
    simp [candidates, pickedCall, Expr.walk, Expr.walkAll]
  have hplain : forwards [paramNamed "a", paramNamed "b"] (candidates pickedCall) = true := by decide
  have hswapped (σ : String → String) :=
    hrenamed pickedQuery (Equiv.swap "a" "b") σ {} [paramNamed "a", paramNamed "b"] none pickedCall hinj
  refine ⟨hinj, fun σ => (hswapped σ).1.trans ?_, hargs, ((hswapped id).2 _ hargs).trans hplain, rfl,
    ((hforwards _ _ rfl).mp hplain).1⟩
  decide +kernel

end Eta

end ClosureLint
