import ClosureLint.Core.Basic

/-!
# What expressions mean

Nothing in the language fixes what a borrow, a field or a call does, so all of it is left open: an
interpretation says what each form makes of the values of its parts. Only names have a meaning of
their own. A parameter means the value it is given, wherever no closure in between binds its name
again.

* `Interpretation` — what the forms of expressions make of values.
* `Expr.eval`, `callClosure` — the value of an expression, and of a closure's body for given
  arguments.
* `Expr.freeNames` — the names that an expression takes from outside.
* `Expr.eval_congr` — the value depends on no other names.
-/

namespace ClosureLint.Core

open ClosureLint.Syntax (Path TypeExpr)

/-- The values of the locals. -/
abbrev Env (V : Type) := String → Option V

/-- The environment with `name` bound to `v`. -/
def Env.bind {V : Type} (ρ : Env V) (name : String) (v : V) : Env V :=
  fun x => if x = name then some v else ρ x

/-- What the forms of expressions make of values. A closure is given as its number of parameters and
the value of its body for each choice of arguments, which are counted from 0. -/
structure Interpretation (V : Type) where
  global : Path → V
  int : Int → V
  str : List Nat → V
  borrow : Bool → V → V
  deref : V → V
  field : V → String → V
  part : V → Nat → V
  apply : V → List V → V
  method : String → V → List V → V
  closure : Nat → ((Nat → V) → V) → V

variable {V : Type}

mutual

/-- Binds the names of a pattern to the parts of a value. -/
def Pattern.bindAll (M : Interpretation V) : Pattern → V → Env V → Env V
  | .binding _ _ name, v, ρ => ρ.bind name v
  | .tuple _ elems, v, ρ => Pattern.bindParts M elems v 0 ρ
  | .ref _ inner, v, ρ => inner.bindAll M (M.deref v) ρ
  | .wildcard _, _, ρ => ρ

/-- Binds the names of several patterns to the parts of a tuple, from number `i` on. -/
def Pattern.bindParts (M : Interpretation V) : List Pattern → V → Nat → Env V → Env V
  | [], _, _, ρ => ρ
  | p :: ps, v, i, ρ => Pattern.bindParts M ps v (i + 1) (p.bindAll M (M.part v i) ρ)

end

/-- Binds parameters to arguments, from number `i` on. A later binding of a name counts. -/
def bindArgs (M : Interpretation V) : List Param → (Nat → V) → Nat → Env V → Env V
  | [], _, _, ρ => ρ
  | p :: ps, vs, i, ρ => bindArgs M ps vs (i + 1) (p.pattern.bindAll M (vs i) ρ)

mutual

/-- The value of an expression. A path of one segment means the local of that name, if there is
one. -/
def Expr.eval (M : Interpretation V) (ρ : Env V) : Expr → V
  | .path _ segments =>
    match segments with
    | [name] => (ρ name).getD (M.global [name])
    | _ => M.global segments
  | .int _ value => M.int value
  | .str _ value => M.str value
  | .borrow _ isMut subject => M.borrow isMut (subject.eval M ρ)
  | .deref _ subject => M.deref (subject.eval M ρ)
  | .field _ subject name => M.field (subject.eval M ρ) name
  | .call _ callee args => M.apply (callee.eval M ρ) (Expr.evalAll M ρ args)
  | .methodCall _ receiver method args =>
    M.method method (receiver.eval M ρ) (Expr.evalAll M ρ args)
  | .closure _ params _ body =>
    M.closure params.length fun vs => body.eval M (bindArgs M params vs 0 ρ)

/-- The values of several expressions. -/
def Expr.evalAll (M : Interpretation V) (ρ : Env V) : List Expr → List V
  | [] => []
  | e :: es => e.eval M ρ :: Expr.evalAll M ρ es

end

/-- The value of the body of a closure with the given parameters, called on the arguments `vs`. -/
def callClosure (M : Interpretation V) (ρ : Env V) (params : List Param) (body : Expr)
    (vs : Nat → V) : V :=
  body.eval M (bindArgs M params vs 0 ρ)

/-! ### Names -/

mutual

/-- The names that a pattern binds. -/
def Pattern.names : Pattern → List String
  | .binding _ _ name => [name]
  | .tuple _ elems => Pattern.namesAll elems
  | .ref _ inner => inner.names
  | .wildcard _ => []

/-- The names that several patterns bind. -/
def Pattern.namesAll : List Pattern → List String
  | [] => []
  | p :: ps => p.names ++ Pattern.namesAll ps

end

/-- The names that parameters bind. -/
def paramNames (params : List Param) : List String := params.flatMap fun p => p.pattern.names

mutual

/-- The paths of one segment in an expression, other than those inside a closure that binds their
name. -/
def Expr.freeNames : Expr → List String
  | .path _ segments =>
    match segments with
    | [name] => [name]
    | _ => []
  | .int .. | .str .. => []
  | .borrow _ _ subject | .deref _ subject | .field _ subject _ => subject.freeNames
  | .call _ callee args => callee.freeNames ++ Expr.freeNamesAll args
  | .methodCall _ receiver _ args => receiver.freeNames ++ Expr.freeNamesAll args
  | .closure _ params _ body => body.freeNames.filter fun name => name ∉ paramNames params

/-- The same for several expressions. -/
def Expr.freeNamesAll : List Expr → List String
  | [] => []
  | e :: es => e.freeNames ++ Expr.freeNamesAll es

end

/-! ### The value depends on free names only -/

section Coincidence

variable {M : Interpretation V} {ρ ρ' : Env V} {name : String}

theorem Env.bind_self (ρ : Env V) (v : V) : ρ.bind name v name = some v := if_pos rfl

theorem Env.bind_of_ne {x : String} (h : x ≠ name) (v : V) : ρ.bind name v x = ρ x := if_neg h

mutual

/-- A pattern gives the names it binds a value that does not depend on the environment, and leaves
all other names alone. -/
theorem Pattern.bindAll_congr : (p : Pattern) → (v : V) → {ρ ρ' : Env V} →
    (name ∉ p.names → ρ name = ρ' name) → p.bindAll M v ρ name = p.bindAll M v ρ' name
  | .binding _ _ x, v, ρ, ρ', h => by
    by_cases hx : name = x
    · simp only [Pattern.bindAll, Env.bind, if_pos hx]
    · simp only [Pattern.bindAll, Env.bind, if_neg hx]
      exact h (by simpa [Pattern.names] using hx)
  | .tuple _ elems, v, _, _, h => Pattern.bindParts_congr elems v 0 h
  | .ref _ inner, v, _, _, h => Pattern.bindAll_congr inner (M.deref v) h
  | .wildcard _, _, _, _, h => h List.not_mem_nil

theorem Pattern.bindParts_congr : (ps : List Pattern) → (v : V) → (i : Nat) → {ρ ρ' : Env V} →
    (name ∉ Pattern.namesAll ps → ρ name = ρ' name) →
    Pattern.bindParts M ps v i ρ name = Pattern.bindParts M ps v i ρ' name
  | [], _, _, _, _, h => h List.not_mem_nil
  | p :: ps, v, i, _, _, h => by
    refine Pattern.bindParts_congr ps v (i + 1) fun hps => Pattern.bindAll_congr p _ fun hp => h ?_
    rw [Pattern.namesAll, List.mem_append]
    exact not_or.mpr ⟨hp, hps⟩

end

theorem bindArgs_congr (ps : List Param) (vs : Nat → V) (i : Nat)
    (h : name ∉ paramNames ps → ρ name = ρ' name) :
    bindArgs M ps vs i ρ name = bindArgs M ps vs i ρ' name := by
  induction ps generalizing i ρ ρ' with
  | nil => exact h List.not_mem_nil
  | cons p ps ih =>
    refine ih (i + 1) fun hps => Pattern.bindAll_congr p.pattern _ fun hp => h ?_
    rw [paramNames, List.flatMap_cons, List.mem_append]
    exact not_or.mpr ⟨hp, hps⟩

mutual

/-- **Coincidence**: environments that agree on the free names of an expression give it the same
value. -/
theorem Expr.eval_congr : (e : Expr) → {ρ ρ' : Env V} → (∀ x ∈ e.freeNames, ρ x = ρ' x) →
    e.eval M ρ = e.eval M ρ'
  | .path _ segments, ρ, ρ', h => by
    match segments with
    | [name] => simp only [Expr.eval, h name (List.mem_singleton_self name)]
    | [] | _ :: _ :: _ => rfl
  | .int .., _, _, _ | .str .., _, _, _ => rfl
  | .borrow _ _ subject, _, _, h => by
    rw [Expr.eval, Expr.eval, Expr.eval_congr subject h]
  | .deref _ subject, _, _, h => by
    rw [Expr.eval, Expr.eval, Expr.eval_congr subject h]
  | .field _ subject _, _, _, h => by
    rw [Expr.eval, Expr.eval, Expr.eval_congr subject h]
  | .call _ callee args, _, _, h => by
    obtain ⟨hc, ha⟩ := List.forall_mem_append.mp h
    rw [Expr.eval, Expr.eval, Expr.eval_congr callee hc, Expr.evalAll_congr args ha]
  | .methodCall _ receiver _ args, _, _, h => by
    obtain ⟨hc, ha⟩ := List.forall_mem_append.mp h
    rw [Expr.eval, Expr.eval, Expr.eval_congr receiver hc, Expr.evalAll_congr args ha]
  | .closure _ params _ body, _, _, h => by
    rw [Expr.eval, Expr.eval]
    refine congrArg _ (funext fun vs => Expr.eval_congr body fun x hx => ?_)
    -- a name that the closure binds means the argument in both
    refine bindArgs_congr params vs 0 fun hp => h x ?_
    exact List.mem_filter.mpr ⟨hx, by simpa using hp⟩

theorem Expr.evalAll_congr : (es : List Expr) → {ρ ρ' : Env V} →
    (∀ x ∈ Expr.freeNamesAll es, ρ x = ρ' x) → Expr.evalAll M ρ es = Expr.evalAll M ρ' es
  | [], _, _, _ => rfl
  | e :: es, _, _, h => by
    obtain ⟨he, hs⟩ := List.forall_mem_append.mp h
    rw [Expr.evalAll, Expr.evalAll, Expr.eval_congr e he, Expr.evalAll_congr es hs]

end

end Coincidence

end ClosureLint.Core
