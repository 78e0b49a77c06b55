import ClosureLint.Proofs.Checking.Chronicles
import ClosureLint.Proofs.Checking.Programs

/-!
# Scopes are balanced

A check goes through the bodies of a program one after the other, and all of them share the scopes.
Each finds no scope open, opens one of its own and closes it again. In between the check of an
expression gives back the scopes that it finds, with the same locals in them. The type of a local is
decided on once at most, however deep inside closures this is done.

* `Carried` — the state and the meaning of `Self`, carried from body to body.
* `checkTurns_eq` — the meaning of `Self` need not be carried.
* `Turn`, `turnsOf` — the check of a body, with all its moments.
* `Turn.Balanced` — what holds of the scopes in the course of it.
* `scopes_balanced` — it holds of each body of every program.
-/

namespace ClosureLint.Typing

open ClosureLint.Core
open ClosureLint.Syntax (Program)

/-! ### From body to body -/

/-- What is carried from body to body: the state, and what `Self` means, if it means anything. -/
structure Carried where
  state : State
  selfType : Option Ty

/-- No scope is open, and `Self` means nothing. -/
structure Carried.Idle (k : Carried) : Prop where
  scopes : k.state.scopes = []
  selfType : k.selfType = none

/-- The check of a body: where it begins, its moments, and where it ends, unless it fails. -/
structure Turn where
  body : Body
  context : Context
  start : Carried
  moments : List Moment
  stop : Except Fault Carried

section

variable (file : Option String) (names : StructNames) (d : Declared)

/-- Checks a body. `Self` gets its meaning in front of it and loses it behind. -/
def checkTurn (f : Function) (b : Body) (k : Carried) : Except Fault Carried := do
  let inside : Carried := { k with selfType := b.selfType }
  let ((), s) ← checkBody (contextOf file names d inside.selfType) f b.type inside.state
  let behind : Carried := { inside with state := s }
  return { behind with selfType := none }

/-- Checks bodies one after the other. Their nodes are numbered from `next` on. -/
def checkTurns : NodeId → List Body → Carried → Except Fault (List Function × Carried)
  | _, [], k => return ([], k)
  | next, b :: bs, k => do
    let numbered := (b.lowered file).number next
    let k ← checkTurn file names d numbered.1 b k
    let (fs, k) ← checkTurns numbered.2 bs k
    return (numbered.1 :: fs, k)

/-- The check of a body, with all its moments. -/
def turnOf (f : Function) (b : Body) (k : Carried) : Turn where
  body := b
  context := contextOf file names d b.selfType
  start := k
  moments := momentsInBody (contextOf file names d b.selfType) f b.type k.state
  stop := checkTurn file names d f b k

/-- The checks of several bodies, up to the first that fails. -/
def turnsIn : NodeId → List Body → Carried → List Turn
  | _, [], _ => []
  | next, b :: bs, k =>
    let numbered := (b.lowered file).number next
    let turn := turnOf file names d numbered.1 b k
    turn ::
      match turn.stop with
      | .ok k => turnsIn numbered.2 bs k
      | .error _ => []

end

/-- The checks of the bodies of a program, up to the first that fails. -/
def turnsOf (file : Option String) (p : Program) : List Turn :=
  match (declare file p).run {} with
  | .ok ((), d) =>
    turnsIn file (structNames p) d 1 d.bodies ⟨{ diagnostics := d.diagnostics }, none⟩
  | .error _ => []

variable {file : Option String} {names : StructNames} {d : Declared} {f : Function} {b : Body}
  {k k' : Carried} {next : NodeId}

theorem checkTurn_eq_ok : checkTurn file names d f b k = .ok k' ↔
    ∃ s', Gives (checkBody (contextOf file names d b.selfType) f b.type) k.state () s' ∧
      (⟨s', none⟩ : Carried) = k' := by
  unfold checkTurn
  rw [bind_eq_ok]
  constructor
  · rintro ⟨⟨_, s'⟩, hg, h⟩
    exact ⟨s', hg, pure_eq_ok.mp h⟩
  · rintro ⟨s', hg, h⟩
    exact ⟨((), s'), hg, pure_eq_ok.mpr h⟩

/-- **What `Self` means** need not be carried: it means nothing between two bodies. -/
theorem checkTurns_eq (bs : List Body) (s : State) :
    checkTurns file names d next bs ⟨s, none⟩ =
      (checkBodies file names d next bs s).map fun p => (p.1, ⟨p.2, none⟩) := by
  induction bs generalizing next s with
  | nil => rfl
  | cons b bs ih =>
    let numbered := (b.lowered file).number next
    let step : Except Fault (Unit × State) :=
      checkBody (contextOf file names d b.selfType) numbered.1 b.type s
    have hturns : checkTurns file names d next (b :: bs) ⟨s, none⟩ = step >>= fun p =>
        checkTurns file names d numbered.2 bs ⟨p.2, none⟩ >>= fun q =>
          pure (numbered.1 :: q.1, q.2) := by
      rw [checkTurns]
      exact bind_assoc ..
    have hbodies : checkBodies file names d next (b :: bs) s = step >>= fun p =>
        checkBodies file names d numbered.2 bs p.2 >>= fun q =>
          pure (numbered.1 :: q.1, q.2) := rfl
    -- behind the body `Self` means nothing again, so the rest begins as the induction has it
    rw [hturns, hbodies]
    cases step with
    | error fault => rfl
    | ok p =>
      change (checkTurns file names d numbered.2 bs ⟨p.2, none⟩ >>= _) =
        Except.map _ (checkBodies file names d numbered.2 bs p.2 >>= _)
      rw [ih]
      cases checkBodies file names d numbered.2 bs p.2 <;> rfl

/-! ### What holds of the check of a body -/

/-- **The scopes in the course of the check of a body.** -/
structure Turn.Balanced (t : Turn) : Prop where
  /-- When the check begins no scope is open, and `Self` means nothing. -/
  starts : t.start.Idle
  /-- So it is when it ends. -/
  stops : ∀ k, t.stop = .ok k → k.Idle
  /-- In between `Self` means what it means in this body. -/
  selfType : t.context.scope.selfType = t.body.selfType
  /-- A scope is open then. -/
  opened : ∀ ss ∈ scopesAt t.moments, ss ≠ []
  /-- The outermost one gets new locals in front of those that it has, and these stay. -/
  grows : (scopesAt t.moments).Pairwise fun ss ss' =>
    List.Forall₂ Grown (outermost 1 ss) (outermost 1 ss')
  /-- The check of an expression has all its moments among those of the body. Between any two of
  them the scopes that were open when it began have the same locals. -/
  calls : ∀ e expected s, .enters e expected s ∈ t.moments →
    momentsIn t.context e expected s <:+: t.moments ∧
      (scopesAt (momentsIn t.context e expected s)).Pairwise fun ss ss' => List.Forall₂ SameLocals
        (outermost s.scopes.length ss) (outermost s.scopes.length ss')
  /-- One that ends has begun, and gives the type that it ends with. The scopes that were open are
  open again and have the same locals, whose types may have been decided on in between. -/
  returns : ∀ e expected s type s', .leaves e expected s type s' ∈ t.moments →
    .enters e expected s ∈ t.moments ∧ Gives (checkExpr t.context e expected) s type s' ∧
      List.Forall₂ SameLocals s.scopes s'.scopes

theorem turnOf_balanced (file : Option String) (names : StructNames) (d : Declared) (f : Function)
    (b : Body) (hk : k.Idle) : (turnOf file names d f b k).Balanced := by
  -- the moments of the body are a chronicle over the one scope that it opens
  obtain ⟨scope, rest, hchronicle, hend⟩ :=
    momentsInBody_chronicle (contextOf file names d b.selfType) f b.type k.state
  rw [hk.scopes] at hchronicle
  obtain ⟨hall, hpairs⟩ := hchronicle.pairwise
  rw [List.length_singleton] at hpairs
  have hrecounts := momentsInBody_recounts (c := contextOf file names d b.selfType) f b.type k.state
  unfold turnOf
  constructor
  case starts => exact hk
  case stops =>
    intro k' hk'
    obtain ⟨s', hg, rfl⟩ := checkTurn_eq_ok.mp hk'
    -- below the scope of the body there was none in the beginning, so there is none in the end
    have hrest : rest = [] := List.forall₂_nil_left_iff.mp (List.forall₂_cons.mp hchronicle.whole).2
    exact ⟨(hend () s' hg).trans hrest, rfl⟩
  case selfType => rfl
  case opened =>
    rintro ss hss rfl
    nomatch hall [] hss
  case grows => exact hpairs
  case calls =>
    intro e expected s he
    exact ⟨hrecounts.begun e expected s he, momentsIn_pairwise _ e expected s⟩
  case returns =>
    intro e expected s type s' he
    obtain ⟨hbegun, hg⟩ := hrecounts.ended e expected s type s' he
    exact ⟨hbegun, hg, checkExpr_settles hg⟩

theorem turnsIn_balanced {bs : List Body} (hk : k.Idle) :
    ∀ t ∈ turnsIn file names d next bs k, t.Balanced := by
  induction bs generalizing next k with
  | nil =>
    rw [turnsIn]
    exact List.forall_mem_nil _
  | cons b bs ih =>
    rw [turnsIn]
    generalize (b.lowered file).number next = numbered
    have hfirst := turnOf_balanced file names d numbered.1 b hk
    refine List.forall_mem_cons.mpr ⟨hfirst, ?_⟩
    -- a check that fails is the last turn
    split
    · next hstop => exact ih (hfirst.stops _ hstop)
    · exact List.forall_mem_nil _

/-! ### Which expressions are checked -/

theorem entered_turnsIn {bs : List Body} {fs : List Function}
    (h : checkTurns file names d next bs k = .ok (fs, k')) :
    (turnsIn file names d next bs k).flatMap (fun t => entered t.moments) =
      fs.flatMap Function.walk := by
  induction bs generalizing next k fs with
  | nil =>
    obtain ⟨rfl, -⟩ := Prod.mk.inj (pure_eq_ok.mp h)
    rfl
  | cons b bs ih =>
    rw [checkTurns] at h
    rw [turnsIn]
    generalize (b.lowered file).number next = numbered at h ⊢
    obtain ⟨k₁, hturn, h⟩ := bind_eq_ok.mp h
    obtain ⟨⟨fs₁, k₂⟩, hrest, h⟩ := bind_eq_ok.mp h
    obtain ⟨rfl, rfl⟩ := Prod.mk.inj (pure_eq_ok.mp h)
    obtain ⟨s', hg, -⟩ := checkTurn_eq_ok.mp hturn
    -- this turn ended, so the turns of the rest follow
    have hstop : (turnOf file names d numbered.1 b k).stop = .ok k₁ := hturn
    have hwalk : entered (turnOf file names d numbered.1 b k).moments = numbered.1.walk :=
      entered_momentsInBody hg
    simp only [hstop, List.flatMap_cons, hwalk, ih hrest]

/-! ### Main result -/

/-- **Scopes are balanced** in the check of every program, whether it succeeds or not. Nothing is
left out of the moments: if the check succeeds, as it does for all that can be read from a text
(`check_succeeds`), they tell of the check of every expression, in the order of the text. -/
theorem scopes_balanced (file : Option String) (p : Program) :
    (∀ t ∈ turnsOf file p, t.Balanced) ∧ ∀ checked, check file p = .ok checked →
      (turnsOf file p).flatMap (fun t => entered t.moments) =
        checked.functions.flatMap Function.walk := by
  constructor
  · unfold turnsOf
    split
    · exact turnsIn_balanced ⟨rfl, rfl⟩
    · exact List.forall_mem_nil _
  · intro checked hchecked
    obtain ⟨declared, final, hd, hbodies, -⟩ := check_eq_ok hchecked
    have hturns : turnsOf file p = turnsIn file (structNames p) declared 1 declared.bodies
        ⟨{ diagnostics := declared.diagnostics }, none⟩ := by
      unfold turnsOf
      rw [show (declare file p).run {} = .ok ((), declared) from hd]
    -- the turns are what the checker runs, apart from what they remember about `Self`
    have hchecks : checkTurns file (structNames p) declared 1 declared.bodies
        ⟨{ diagnostics := declared.diagnostics }, none⟩ =
          .ok (checked.functions, ⟨final, none⟩) := by
      rw [checkTurns_eq, show checkBodies _ _ _ _ _ _ = _ from hbodies]
      rfl
    rw [hturns]
    exact entered_turnsIn hchecks

/-- A closure inside another, whose body decides on the type of the outer one's parameter. -/
def nestedClosures : String :=
  "fn g(n: i32) \x7b\x7d\nfn f() \x7b let k = |x| |y| g(x); k(1); \x7d\n"

/-- **A local of an outer scope** may be decided on from within. -/
theorem nestedClosures_balanced : ∃ p checked, Syntax.parse nestedClosures = .ok p ∧
    check none p = .ok checked ∧
    (turnsOf none p).flatMap (fun t => entered t.moments) =
      checked.functions.flatMap Function.walk ∧
    ∃ t ∈ turnsOf none p, t.Balanced ∧
      [[("y", none)], [("x", none)], []] ∈ scopesAt t.moments ∧
      [[("y", none)], [("x", some (.int "i32"))], []] ∈ scopesAt t.moments := by
  have htest : ((Syntax.parse nestedClosures).toOption.any fun p =>
      (check none p).toOption.isSome && (turnsOf none p).any fun t =>
        (scopesAt t.moments).contains [[("y", none)], [("x", none)], []] &&
          (scopesAt t.moments).contains
            [[("y", none)], [("x", some (.int "i32"))], []]) = true := by
    decide +kernel
  obtain ⟨p, hp, htest⟩ := (Option.any_eq_true _ _).mp htest
  obtain ⟨hcheck, hturns⟩ := Bool.and_eq_true_iff.mp htest
  obtain ⟨checked, hchecked⟩ := Option.isSome_iff_exists.mp hcheck
  have hchecked := toOption_eq_some.mp hchecked
  -- one turn has both stacks among those at its moments
  obtain ⟨t, ht, hstacks⟩ := List.any_eq_true.mp hturns
  obtain ⟨hbefore, hbehind⟩ := Bool.and_eq_true_iff.mp hstacks
  obtain ⟨hbalanced, hwalk⟩ := scopes_balanced none p
  exact ⟨p, checked, toOption_eq_some.mp hp, hchecked, hwalk checked hchecked, t, ht,
    hbalanced t ht, List.contains_iff_mem.mp hbefore, List.contains_iff_mem.mp hbehind⟩

end ClosureLint.Typing
