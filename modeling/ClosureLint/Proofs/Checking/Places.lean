import ClosureLint.Proofs.Checking.Closures
import ClosureLint.Proofs.Checking.Coercing
import ClosureLint.Proofs.Checking.Methods

/-!
# What a place expects

Each part of an expression is checked against the type that its place expects. Where the place coerces,
the part is adjusted if it has to be coerced; the receiver of a method call is adjusted if the method
asks for another type. What a place expects can be read off the results of the expression around it,
whatever errors there are.

* `CheckedAs` — an expression was checked where some type is expected.
* `Placed` — and it is adjusted exactly under a condition on its type.
* `callRest_run`, `methodRest_run` — how the arguments of a call come to be checked.
* `CheckedAs.borrow`, `CheckedAs.call`, `CheckedAs.methodCall`, `CheckedAs.closure` — the places of the
  parts of an expression.
* `checkBody_places` — the places of the expressions of statements.
-/

namespace ClosureLint.Typing

open ClosureLint.Core
open ClosureLint.Syntax (TypeExpr)

variable {c : Context} {s s' s₁ s₂ : State} {e x : Expr} {type : Ty} {expected : Option Ty}
  {node : Node} {args : List Expr} {t t' : Tables} {A : Prop}

/-- `x` was checked where `expected` is expected, nothing having been filed for it before, and found to
have type `type`. The results `t` still say so. -/
inductive CheckedAs (c : Context) (x : Expr) (expected : Option Ty) (type : Ty) (t : Tables) : Prop
  | intro {before after : State} (fresh : Fresh x.walk before.tables)
    (gives : Gives (checkExpr c x expected) before type after)
    (tables : Tables.Agree (Among x.walk) (Among x.inside) after.tables t)

/-- `x` was checked so, and it is adjusted exactly if `A` holds. -/
structure Placed (c : Context) (x : Expr) (expected : Option Ty) (type : Ty) (A : Prop) (t : Tables) :
    Prop where
  checked : CheckedAs c x expected type t
  adjusted : x.id ∈ t.adjusted ↔ A

/-- A value of type `type` has to be coerced where `expected` is expected. -/
def NeedsCoercionTo (c : Context) (expected : Option Ty) (type : Ty) : Prop :=
  ∃ u, expected = some u ∧ NeedsCoercion c.targets type u

/-- Every argument is placed: the one at `i` where `want i` is expected. -/
def ArgsPlaced (c : Context) (args : List Expr) (want : Nat → Option Ty) (t : Tables) : Prop :=
  ∀ ⦃i x⦄, args[i]? = some x →
    ∃ type, Placed c x (want i) type (NeedsCoercionTo c (want i) type) t

theorem CheckedAs.lookup (h : CheckedAs c x expected type t) : t.types.lookup x.id = some type := by
  obtain ⟨-, hg, ht⟩ := h
  rw [ht.types _ (among_of_mem x.mem_walk_self)]
  exact checkExpr_type hg

/-- Results that say the same about `x`, up to its own adjustment, leave it so. -/
theorem CheckedAs.agree {F M : NodeId → Prop} (h : CheckedAs c x expected type t)
    (ha : Tables.Agree F M t t') (hF : ∀ y ∈ x.walk, F y.id) (hM : ∀ y ∈ x.inside, M y.id) :
    CheckedAs c x expected type t' := by
  obtain ⟨hf, hg, ht⟩ := h
  refine ⟨hf, hg, ht.trans (ha.mono ?_ ?_)⟩
  · rintro _ ⟨y, hy, rfl⟩
    exact hF y hy
  · rintro _ ⟨y, hy, rfl⟩
    exact hM y hy

theorem Placed.agree {F M : NodeId → Prop} (h : Placed c x expected type A t)
    (ha : Tables.Agree F M t t') (hF : ∀ y ∈ x.walk, F y.id) (hM : ∀ y ∈ x.walk, M y.id) :
    Placed c x expected type A t' where
  checked := h.checked.agree ha hF fun y hy => hM y (Expr.walk_of_inside hy)
  adjusted := (ha.adjusted _ (hM x x.mem_walk_self)).trans h.adjusted

/-- What is checked elsewhere leaves it so. -/
theorem Placed.later {I J : NodeId → Prop} (h : Placed c x expected type A s.tables) (he : Extends I J s s')
    (hI : ∀ y ∈ x.walk, ¬ I y.id) (hJ : ∀ y ∈ x.walk, ¬ J y.id) : Placed c x expected type A s'.tables :=
  h.agree he.tables hI hJ

/-- What is placed before the type of the whole is filed, is placed in the end. -/
private theorem Placed.outward {whole : Ty} {u : Unit} (h : Placed c x expected type A s₁.tables)
    (hx : ∀ y ∈ x.walk, y ∈ e.inside) (hd : Distinct e.walk) (hset : Gives (setType e.id whole) s₁ u s₂)
    (ht : Tables.Agree (Among e.walk) (Among e.inside) s₂.tables t) : Placed c x expected type A t := by
  rw [e.walk_eq] at hd
  have hne (y : Expr) (hy : y ∈ x.walk) : y.id ≠ e.id :=
    fun he => (List.pairwise_cons.mp hd).1 y (hx y hy) he.symm
  have hset := (setType_confined (I := (· = e.id)) (J := Nowhere) rfl whole).grows hset
  exact (h.later hset hne fun _ _ => id).agree ht
    (fun y hy => among_of_mem (Expr.walk_of_inside (hx y hy))) fun y hy => among_of_mem (hx y hy)

private theorem ArgsPlaced.outward {want : Nat → Option Ty} {whole : Ty} {u : Unit}
    (h : ArgsPlaced c args want s₁.tables) (hargs : ∀ y ∈ Expr.walkAll args, y ∈ e.inside)
    (hd : Distinct e.walk) (hset : Gives (setType e.id whole) s₁ u s₂)
    (ht : Tables.Agree (Among e.walk) (Among e.inside) s₂.tables t) : ArgsPlaced c args want t := by
  intro i x hx
  obtain ⟨_, hplaced⟩ := h hx
  exact ⟨_, hplaced.outward (fun y hy => hargs y
    (Expr.mem_walkAll.mpr ⟨x, List.mem_of_getElem? hx, hy⟩)) hd hset ht⟩

/-! ### One expression in its place -/

/-- Checking an expression does not adjust it. -/
theorem notMem_adjusted (hd : Distinct x.walk) (hf : Fresh x.walk s.tables)
    (h : Gives (checkExpr c x expected) s type s₁) : x.id ∉ s₁.tables.adjusted := by
  rw [x.walk_eq] at hd
  rw [(checkExpr_extends h).tables.adjusted _ (not_among (List.pairwise_cons.mp hd).1),
    hf.adjusted _ (among_of_mem x.mem_walk_self)]
  exact List.not_mem_nil

/-- A place where nothing is coerced. -/
theorem placed_of_gives (hd : Distinct x.walk) (hf : Fresh x.walk s.tables)
    (h : Gives (checkExpr c x expected) s type s₁) : Placed c x expected type False s₁.tables :=
  ⟨⟨hf, h, .refl _⟩, fun hmem => notMem_adjusted hd hf h hmem, False.elim⟩

/-- A place where what does not fit is coerced. -/
theorem placed_of_coerceTo {u : Unit} (hd : Distinct x.walk) (hf : Fresh x.walk s.tables)
    (h : Gives (checkExpr c x expected) s type s₁) (hc : Gives (coerceTo c x type expected) s₁ u s₂) :
    Placed c x expected type (NeedsCoercionTo c expected type) s₂.tables := by
  have hadjusted := (coerceTo_adjusted hc).trans (or_iff_left (notMem_adjusted hd hf h))
  rw [x.walk_eq] at hd
  exact ⟨CheckedAs.agree ⟨hf, h, .refl _⟩ (coerceTo_extends hc).tables (fun _ _ => id) fun y hy he =>
    (List.pairwise_cons.mp hd).1 y hy he.symm, hadjusted⟩

/-- The expectations of arguments in a list. Where it runs out nothing is expected. -/
def Hands (given : List (Option Ty)) (want : Nat → Option Ty) : Prop :=
  ∀ i, (given[i]?).getD none = want i

/-- The arguments of a call are placed one by one. -/
theorem checkArgs_places {given : List (Option Ty)} {want : Nat → Option Ty} {u : Unit}
    (hwant : Hands given want) (hd : Distinct (Expr.walkAll args))
    (hf : Fresh (Expr.walkAll args) s.tables) (h : Gives (checkArgs c args given) s u s') :
    ArgsPlaced c args want s'.tables := by
  induction args generalizing given want s with
  | nil => exact fun i x hx => nomatch hx
  | cons e es ih =>
    rw [checkArgs_cons] at h
    obtain ⟨hde, hds, hapart⟩ := List.pairwise_append.mp hd
    obtain ⟨type, s₁, h₁, h⟩ := gives_bind.mp h
    obtain ⟨_, s₂, h₂, h⟩ := gives_bind.mp h
    intro i x hx
    -- the first argument is placed at once, and the later ones leave it alone
    cases i with
    | zero =>
      obtain rfl := Option.some.inj hx
      have hplaced := placed_of_coerceTo hde (hf.mono fun _ => List.mem_append_left _) h₁ h₂
      have hother (y : Expr) (hy : y ∈ e.walk) : ¬ Among (Expr.walkAll es) y.id :=
        not_among (hapart y hy)
      rw [List.head?_eq_getElem?, hwant 0] at hplaced
      exact ⟨type, hplaced.later (checkArgs_extends h) hother hother⟩
    | succ i =>
      -- nothing is filed for the later ones while the first is checked and coerced
      have hfs : Fresh (Expr.walkAll es) s₂.tables := by
        refine ((hf.mono fun _ => List.mem_append_right _).later (checkExpr_extends h₁) fun y hy =>
          ⟨?_, ?_⟩).later (coerceTo_extends h₂) fun y hy => ⟨id, ?_⟩
        · exact not_among fun z hz he => hapart z hz y hy he.symm
        · exact not_among fun z hz he => hapart z (Expr.walk_of_inside hz) y hy he.symm
        · exact fun he => hapart e e.mem_walk_self y hy he.symm
      have htail : Hands given.tail fun i => want (i + 1) := fun i => by
        rw [List.getElem?_tail]
        exact hwant (i + 1)
      exact ih htail hds hfs h hx

/-! ### How arguments come to be checked -/

/-- What the argument at `i` of `n` is expected to be: the parameter, if there are as many. -/
def expectedAt (params : List Ty) (n i : Nat) : Option Ty :=
  if n = params.length then params[i]? else none

theorem expectedArgs_run {callable : String} {n : Nat} {params : List Ty} {given : List (Option Ty)}
    (h : Gives (expectedArgs callable node n params) s given s') :
    Extends Nowhere Nowhere s s' ∧ Hands given (expectedAt params n) := by
  refine ⟨(expectedArgs_confined _ _ _ _).grows h, fun i => ?_⟩
  unfold expectedArgs at h
  unfold expectedAt
  -- as many arguments as parameters, or a report and nothing to expect
  split at h
  · next hn =>
    obtain ⟨rfl, -⟩ := gives_pure.mp h
    rw [if_pos hn, List.getElem?_map]
    cases params[i]? <;> rfl
  · next hn =>
    obtain ⟨_, -, rfl⟩ := gives_bind_pure.mp h
    rw [if_neg hn, List.getElem?_replicate]
    split <;> rfl

/-- The arguments of a call are checked against the parameters of what is called, if that is a
function; else nothing is expected of them. -/
theorem callRest_run {callee : Expr} {ret : Ty} (h : Gives (callRest c node callee args type) s ret s') :
    ∃ given s₁, Extends Nowhere Nowhere s s₁ ∧ Gives (checkArgs c args given) s₁ () s' ∧
      ((type.kind = .function ∧ ∃ params, type.fnParams = .ok params ∧
          Hands given (expectedAt params args.length)) ∨
        type.kind ≠ .function ∧ Hands given fun _ => none) := by
  unfold callRest at h
  split at h
  -- a function gives its parameters
  · next hk =>
    obtain ⟨params, hparams, h⟩ := gives_lift_bind.mp h
    obtain ⟨_, -, h⟩ := gives_lift_bind.mp h
    obtain ⟨given, s₁, hgiven, h⟩ := gives_bind.mp h
    obtain ⟨_, hargs, -⟩ := gives_bind_pure.mp h
    obtain ⟨hextends, hat⟩ := expectedArgs_run hgiven
    exact ⟨given, s₁, hextends, hargs, .inl ⟨hk, params, hparams, hat⟩⟩
  · next hk =>
    -- anything else is reported, unless its type is unknown
    split at h
    · obtain ⟨_, -, h⟩ := gives_lift_bind.mp h
      obtain ⟨_, s₁, hreport, h⟩ := gives_bind.mp h
      obtain ⟨_, hargs, -⟩ := gives_bind_pure.mp h
      exact ⟨[], s₁, (report_confined _ _).grows hreport, hargs, .inr ⟨hk, fun _ => rfl⟩⟩
    · obtain ⟨_, hargs, -⟩ := gives_bind_pure.mp h
      exact ⟨[], s, .refl s, hargs, .inr ⟨hk, fun _ => rfl⟩⟩

/-- What is filed when a method call is resolved to `r`: the resolution, and the adjustment of the
receiver if it asks for one. -/
structure Resolves (node : Node) (receiver : Expr) (r : Resolution) (s s' : State) : Prop where
  grows : Extends (· = node.id) (· = receiver.id) s s'
  method : s'.tables.methods.lookup node.id = some r
  adjusted : receiver.id ∈ s'.tables.adjusted ↔
    r.receiverAdjusted = true ∨ receiver.id ∈ s.tables.adjusted

/-- What files nothing leaves it so. -/
theorem Resolves.later {receiver : Expr} {r : Resolution} (h : Resolves node receiver r s s₁)
    (he : Extends Nowhere Nowhere s₁ s₂) : Resolves node receiver r s s₂ where
  grows := h.grows.trans (he.mono (fun _ => False.elim) fun _ => False.elim)
  method := (he.tables.methods _ id).trans h.method
  adjusted := (he.tables.adjusted _ id).trans h.adjusted

/-- The arguments of a method call that is resolved are checked against the parameters behind the
receiver. -/
theorem resolvedRest_run {receiver : Expr} {r : Resolution} {ret : Ty}
    (h : Gives (resolvedRest c node receiver args r) s ret s') :
    ∃ params given s₁,
      (r.decl.type.substSelf r.step).fnParams = .ok params ∧
      Resolves node receiver r s s₁ ∧ Gives (checkArgs c args given) s₁ () s' ∧
      Hands given (expectedAt (params.drop 1) args.length) := by
  unfold resolvedRest at h
  obtain ⟨_, s₁, hset, h⟩ := gives_bind.mp h
  dsimp only at h
  -- what follows is the same whether the receiver is adjusted or not
  have hrest {s₂ : State} (hresolves : Resolves node receiver r s s₂) (h : Gives (do
        let params ← (r.decl.type.substSelf r.step).fnParams
        let ret ← (r.decl.type.substSelf r.step).fnRet
        checkArgs c args (← expectedArgs "method" node args.length (params.drop 1))
        return ret : Check Ty) s₂ ret s') :
      ∃ params given s₁,
      (r.decl.type.substSelf r.step).fnParams = .ok params ∧
        Resolves node receiver r s s₁ ∧ Gives (checkArgs c args given) s₁ () s' ∧
        Hands given (expectedAt (params.drop 1) args.length) := by
    obtain ⟨params, hparams, h⟩ := gives_lift_bind.mp h
    obtain ⟨_, -, h⟩ := gives_lift_bind.mp h
    obtain ⟨given, s₃, hgiven, h⟩ := gives_bind.mp h
    obtain ⟨_, hargs, -⟩ := gives_bind_pure.mp h
    obtain ⟨hextends, hat⟩ := expectedArgs_run hgiven
    exact ⟨params, given, s₃, hparams, hresolves.later hextends, hargs, hat⟩
  have hgrows := (setMethod_confined (I := (· = node.id)) (J := (· = receiver.id)) rfl r).grows hset
  -- the method is filed first, so that it is there whatever comes then
  obtain rfl := gives_modify.mp hset
  split at h
  · next hadjusted =>
    obtain ⟨_, s₂, hadjust, h⟩ := gives_bind.mp h
    have hgrows₂ := hgrows.trans ((setAdjusted_confined (J := (· = receiver.id)) rfl).grows hadjust)
    obtain rfl := gives_modify.mp hadjust
    exact hrest ⟨hgrows₂, List.lookup_cons_self, fun _ => .inl hadjusted, fun _ => List.mem_cons_self⟩ h
  · next hadjusted =>
    exact hrest ⟨hgrows, List.lookup_cons_self, .inr, fun h => h.resolve_left hadjusted⟩ h

/-- The arguments of a method call are checked against the parameters behind the receiver, if the
method is found; else nothing is expected of them. -/
theorem methodRest_run {receiver : Expr} {method : String} {ret : Ty}
    (h : Gives (methodRest c node receiver method args type) s ret s') :
    ∃ given s₁, Gives (checkArgs c args given) s₁ () s' ∧
      ((∃ r params, c.registry.resolveMethod c.targets type method = .ok r ∧
          Resolves node receiver r s s₁ ∧ (r.decl.type.substSelf r.step).fnParams = .ok params ∧
          Hands given (expectedAt (params.drop 1) args.length)) ∨
        Extends Nowhere Nowhere s s₁ ∧ Hands given fun _ => none) := by
  unfold methodRest at h
  -- nothing is known of the receiver, no method is found, or one is
  split at h
  · obtain ⟨_, hargs, -⟩ := gives_bind_pure.mp h
    exact ⟨[], s, hargs, .inr ⟨.refl s, fun _ => rfl⟩⟩
  · split at h
    · exact absurd h not_gives_throw
    · obtain ⟨_, s₁, hreport, h⟩ := gives_bind.mp h
      obtain ⟨_, hargs, -⟩ := gives_bind_pure.mp h
      exact ⟨[], s₁, hargs, .inr ⟨(report_confined _ _).grows hreport, fun _ => rfl⟩⟩
    · next r hr =>
      obtain ⟨params, given, s₁, hparams, hresolves, hargs, hat⟩ := resolvedRest_run h
      exact ⟨given, s₁, hargs, .inl ⟨r, params, hr, hresolves, hparams, hat⟩⟩

/-! ### The parts of an expression -/

theorem CheckedAs.borrow {isMut : Bool} (h : CheckedAs c (.borrow node isMut x) expected type t)
    (hd : Distinct (Expr.borrow node isMut x).walk) :
    ∃ inner u, expectedPointee expected = .ok inner ∧ Placed c x inner u False t := by
  obtain ⟨hf, hg, ht⟩ := h
  rw [checkExpr_borrow] at hg
  obtain ⟨s₁, hinside, hset⟩ := gives_filed.mp hg
  obtain ⟨inner, hinner, hinside⟩ := gives_lift_bind.mp hinside
  obtain ⟨_, hx, -⟩ := gives_bind_pure.mp hinside
  have hplaced := placed_of_gives (List.pairwise_cons.mp hd).2 (hf.mono fun _ => List.mem_cons_of_mem _) hx
  exact ⟨inner, _, hinner, hplaced.outward (fun _ => id) hd hset ht⟩

theorem CheckedAs.deref (h : CheckedAs c (.deref node x) expected type t)
    (hd : Distinct (Expr.deref node x).walk) : ∃ u, Placed c x none u False t := by
  obtain ⟨hf, hg, ht⟩ := h
  rw [checkExpr_deref] at hg
  obtain ⟨s₁, hinside, hset⟩ := gives_filed.mp hg
  obtain ⟨_, s₂, hx, hderef⟩ := gives_bind.mp hinside
  have hplaced := placed_of_gives (List.pairwise_cons.mp hd).2 (hf.mono fun _ => List.mem_cons_of_mem _) hx
  have hplaced₁ := hplaced.later ((derefType_confined (I := Nowhere) (J := Nowhere) _ _).grows hderef)
    (fun _ _ => id) fun _ _ => id
  exact ⟨_, hplaced₁.outward (fun _ => id) hd hset ht⟩

theorem CheckedAs.field {name : String} (h : CheckedAs c (.field node x name) expected type t)
    (hd : Distinct (Expr.field node x name).walk) : ∃ u, Placed c x none u False t := by
  obtain ⟨hf, hg, ht⟩ := h
  rw [checkExpr_field] at hg
  obtain ⟨s₁, hinside, hset⟩ := gives_filed.mp hg
  obtain ⟨_, hx, -⟩ := gives_bind_pure.mp hinside
  have hplaced := placed_of_gives (List.pairwise_cons.mp hd).2 (hf.mono fun _ => List.mem_cons_of_mem _) hx
  exact ⟨_, hplaced.outward (fun _ => id) hd hset ht⟩

/-- **The parts of a call.** Nothing is expected of the callee, and it is not coerced. Of the arguments
the parameters are expected if the callee is a function with as many, else nothing. -/
theorem CheckedAs.call {callee : Expr} (h : CheckedAs c (.call node callee args) expected type t)
    (hd : Distinct (Expr.call node callee args).walk) :
    ∃ calleeType, Placed c callee none calleeType False t ∧
      ((calleeType.kind = .function ∧ ∃ params, calleeType.fnParams = .ok params ∧
          ArgsPlaced c args (expectedAt params args.length) t) ∨
        calleeType.kind ≠ .function ∧ ArgsPlaced c args (fun _ => none) t) := by
  obtain ⟨hf, hg, ht⟩ := h
  rw [checkExpr_call] at hg
  obtain ⟨s₃, hinside, hset⟩ := gives_filed.mp hg
  obtain ⟨calleeType, s₁, hcallee, hrest⟩ := gives_bind.mp hinside
  obtain ⟨given, s₂, hextends, hargs, hgiven⟩ := callRest_run hrest
  obtain ⟨hdc, hda, hapart⟩ := List.pairwise_append.mp (List.pairwise_cons.mp hd).2
  have hother (y : Expr) (hy : y ∈ callee.walk) : ¬ Among (Expr.walkAll args) y.id :=
    not_among (hapart y hy)
  have hfc : Fresh callee.walk _ :=
    hf.mono fun _ hy => List.mem_cons_of_mem _ (List.mem_append_left _ hy)
  -- nothing has been filed for the arguments when they are checked
  have hfa : Fresh (Expr.walkAll args) s₂.tables := by
    refine ((hf.mono fun _ hy => List.mem_cons_of_mem _ (List.mem_append_right _ hy)).later
      (checkExpr_extends hcallee) fun y hy => ⟨?_, ?_⟩).later hextends fun _ _ => ⟨id, id⟩
    · exact not_among fun z hz he => hapart z hz y hy he.symm
    · exact not_among fun z hz he => hapart z (Expr.walk_of_inside hz) y hy he.symm
  -- the callee comes first, and nothing behind it touches it
  have hplaced := ((placed_of_gives hdc hfc hcallee).later hextends (fun _ _ => id) fun _ _ => id).later
    (checkArgs_extends hargs) hother hother
  have hplaced := hplaced.outward (fun y hy => List.mem_append_left _ hy) hd hset ht
  have hplacedArgs {want : Nat → Option Ty} (hwant : Hands given want) : ArgsPlaced c args want t :=
    (checkArgs_places hwant hda hfa hargs).outward (fun y hy => List.mem_append_right _ hy) hd hset ht
  refine ⟨calleeType, hplaced, ?_⟩
  -- the callee is a function whose parameters are expected, or it is none
  rcases hgiven with ⟨hk, params, hparams, hwant⟩ | ⟨hk, hwant⟩
  · exact .inl ⟨hk, params, hparams, hplacedArgs hwant⟩
  · exact .inr ⟨hk, hplacedArgs hwant⟩

/-- **The parts of a method call.** Nothing is expected of the receiver, which is adjusted if the call is
resolved and the resolution asks for it. Of the arguments the parameters behind the receiver are
expected if the call is resolved and there are as many, else nothing. -/
theorem CheckedAs.methodCall {receiver : Expr} {method : String}
    (h : CheckedAs c (.methodCall node receiver method args) expected type t)
    (hd : Distinct (Expr.methodCall node receiver method args).walk) :
    ∃ receiverType, (∃ r params, c.registry.resolveMethod c.targets receiverType method = .ok r ∧
        t.methods.lookup node.id = some r ∧ (r.decl.type.substSelf r.step).fnParams = .ok params ∧
        Placed c receiver none receiverType (r.receiverAdjusted = true) t ∧
        ArgsPlaced c args (expectedAt (params.drop 1) args.length) t) ∨
      t.methods.lookup node.id = none ∧ Placed c receiver none receiverType False t ∧
        ArgsPlaced c args (fun _ => none) t := by
  obtain ⟨hf, hg, ht⟩ := h
  rw [checkExpr_methodCall] at hg
  obtain ⟨s₃, hinside, hset⟩ := gives_filed.mp hg
  obtain ⟨receiverType, s₁, hreceiver, hrest⟩ := gives_bind.mp hinside
  obtain ⟨given, s₂, hargs, hgiven⟩ := methodRest_run hrest
  obtain ⟨hnode, hparts⟩ := List.pairwise_cons.mp hd
  obtain ⟨hdr, hda, hapart⟩ := List.pairwise_append.mp hparts
  have hother (y : Expr) (hy : y ∈ receiver.walk) : ¬ Among (Expr.walkAll args) y.id :=
    not_among (hapart y hy)
  have hself := receiver.mem_walk_self
  have hplaced := placed_of_gives hdr
    (hf.mono fun _ hy => List.mem_cons_of_mem _ (List.mem_append_left _ hy)) hreceiver
  -- the receiver files nothing for the arguments
  have hfa : Fresh (Expr.walkAll args) s₁.tables := by
    refine (hf.mono fun _ hy => List.mem_cons_of_mem _ (List.mem_append_right _ hy)).later
      (checkExpr_extends hreceiver) fun y hy => ⟨?_, ?_⟩
    · exact not_among fun z hz he => hapart z hz y hy he.symm
    · exact not_among fun z hz he => hapart z (Expr.walk_of_inside hz) y hy he.symm
  -- what is filed for the call itself stays as it is
  have hmethod : t.methods.lookup node.id = s₂.tables.methods.lookup node.id :=
    calc
      _ = _ := ht.methods node.id
        (among_of_mem (Expr.mem_walk_self (.methodCall node receiver method args)))
      _ = s₃.tables.methods.lookup node.id := by rw [← gives_modify.mp hset]
      _ = _ := (checkArgs_extends hargs).tables.methods node.id
        (not_among fun y hy => hnode y (List.mem_append_right _ hy))
  -- what holds right behind the receiver holds in the end
  have houtward {A : Prop} (h : Placed c receiver none receiverType A s₂.tables) :
      Placed c receiver none receiverType A t :=
    (h.later (checkArgs_extends hargs) hother hother).outward
      (fun y hy => List.mem_append_left _ hy) hd hset ht
  have hplacedArgs {want : Nat → Option Ty} (hwant : Hands given want)
      (hf : Fresh (Expr.walkAll args) s₂.tables) : ArgsPlaced c args want t :=
    (checkArgs_places hwant hda hf hargs).outward (fun y hy => List.mem_append_right _ hy) hd hset ht
  refine ⟨receiverType, ?_⟩
  rcases hgiven with ⟨r, params, hr, hresolves, hparams, hwant⟩ | ⟨hextends, hwant⟩
  · refine .inl ⟨r, params, hr, hmethod.trans hresolves.method, hparams, houtward ⟨?_, ?_⟩,
      hplacedArgs hwant (hfa.later hresolves.grows fun y hy => ⟨?_, ?_⟩)⟩
    -- the method is filed for the call and the adjustment for the receiver itself, so the parts of the
    -- receiver are as they were
    · refine hplaced.checked.agree hresolves.grows.tables (fun y hy he => ?_) fun y hy he => ?_
      · exact hnode y (List.mem_append_left _ hy) he.symm
      · rw [receiver.walk_eq] at hdr
        exact (List.pairwise_cons.mp hdr).1 y hy he.symm
    · exact hresolves.adjusted.trans (or_iff_left hplaced.adjusted.mp)
    · exact fun he => hnode y (List.mem_append_right _ hy) he.symm
    · exact fun he => hapart receiver hself y hy he.symm
  · refine .inr ⟨?_, houtward (hplaced.later hextends (fun _ _ => id) fun _ _ => id),
      hplacedArgs hwant (hfa.later hextends fun _ _ => ⟨id, id⟩)⟩
    -- a call that is not resolved has no method: none was filed before, and none is filed now
    calc
      _ = _ := hmethod
      _ = s₁.tables.methods.lookup node.id := hextends.tables.methods node.id id
      _ = _ := (checkExpr_extends hreceiver).tables.methods node.id
        (not_among fun y hy => hnode y (List.mem_append_left _ hy))
      _ = none := hf.methods node.id
        (among_of_mem (Expr.mem_walk_self (.methodCall node receiver method args)))

/-- The type that is written, if one is. -/
def writtenType (c : Context) (written : Option TypeExpr) : Option Ty :=
  written.map fun w => (resolveType c.scope w).1

theorem writtenOr_answer {written : Option TypeExpr} {otherwise want : Option Ty}
    (h : Gives (writtenOr c written otherwise) s want s') : want = (writtenType c written).or otherwise := by
  cases written with
  | none => exact (gives_pure.mp h).1.symm
  | some w =>
    obtain ⟨_, hresolve, rfl⟩ := gives_bind_pure.mp h
    obtain ⟨_, -, rfl⟩ := gives_bind_pure.mp hresolve
    rfl

/-- **The body of a closure.** The result is expected that is written, or else that of the function type
that is expected of the closure. -/
theorem CheckedAs.closure {params : List Param} {ret : Option TypeExpr}
    (h : CheckedAs c (.closure node params ret x) expected type t)
    (hd : Distinct (Expr.closure node params ret x).walk) :
    ∃ signature u, expectedSignature expected params.length = .ok signature ∧
      Placed c x ((writtenType c ret).or (signature.map Prod.snd)) u
        (NeedsCoercionTo c ((writtenType c ret).or (signature.map Prod.snd)) u) t := by
  obtain ⟨hf, hg, ht⟩ := h
  obtain @⟨signature, want, bodyType, _, s₁, s₂, s₃, s₄, s₅, hsignature, hbinds, hresult, hchecks, hcoerces,
    hreads, -, hset⟩ := checkExpr_closure_run hg
  obtain rfl := writtenOr_answer hresult
  have hbefore : Extends Nowhere Nowhere _ s₂ := ((Extends.rescope _ _).trans
    ((bindParams_confined _ _).grows hbinds)).trans ((writtenOr_confined _ _).grows hresult)
  have hfx : Fresh x.walk s₂.tables :=
    (hf.mono fun _ => List.mem_cons_of_mem _).later hbefore fun _ _ => ⟨id, id⟩
  have hplaced := placed_of_coerceTo (List.pairwise_cons.mp hd).2 hfx hchecks hcoerces
  have hafter : Extends Nowhere Nowhere s₄ { s₅ with scopes := s₅.scopes.drop 1 } :=
    ((Confined.mapM fun p _ => paramType_confined p).grows hreads).trans (.rescope s₅ _)
  exact ⟨signature, bodyType, hsignature,
    (hplaced.later hafter (fun _ _ => id) fun _ _ => id).outward (fun _ => id) hd hset ht⟩

/-! ### The expressions of a body -/

/-- What is expected of the expression of a statement. -/
def stmtExpects (c : Context) : Stmt → Option Ty
  | .letStmt _ _ declared _ => writtenType c declared
  | .exprStmt .. => none

theorem checkStmt_places {st : Stmt} {u : Unit} (hd : Distinct st.expr.walk)
    (hf : Fresh st.expr.walk s.tables) (h : Gives (checkStmt c st) s u s') :
    ∃ type, Placed c st.expr (stmtExpects c st) type (NeedsCoercionTo c (stmtExpects c st) type)
      s'.tables := by
  cases st with
  | letStmt node pattern declared value =>
    rw [checkStmt_letStmt] at h
    obtain ⟨_, s₁, h₁, h⟩ := gives_bind.mp h
    obtain ⟨type, s₂, h₂, h⟩ := gives_bind.mp h
    obtain ⟨_, s₃, h₃, h⟩ := gives_bind.mp h
    obtain rfl := (writtenOr_answer h₁).trans (Option.or_none ..)
    have hf₁ := hf.later ((writtenOr_confined (I := Nowhere) (J := Nowhere) _ _).grows h₁)
      fun _ _ => ⟨id, id⟩
    exact ⟨type, (placed_of_coerceTo hd hf₁ h₂ h₃).later
      ((bindPattern_confined (I := Nowhere) (J := Nowhere) _ _).grows h) (fun _ _ => id) fun _ _ => id⟩
  | exprStmt node e =>
    obtain ⟨type, h₁, -⟩ := gives_bind_pure.mp h
    obtain ⟨hchecked, hadjusted⟩ := placed_of_gives hd hf h₁
    exact ⟨type, hchecked, hadjusted.trans ⟨False.elim, fun ⟨_, hu, _⟩ => by cases hu⟩⟩

theorem checkStmts_places {ss : List Stmt} {u : Unit}
    (hd : Distinct (ss.flatMap fun st => st.expr.walk))
    (hf : Fresh (ss.flatMap fun st => st.expr.walk) s.tables)
    (h : Gives (ss.forM (checkStmt c)) s u s') :
    ∀ st ∈ ss, ∃ type, Placed c st.expr (stmtExpects c st) type
      (NeedsCoercionTo c (stmtExpects c st) type) s'.tables := by
  induction ss generalizing s with
  | nil => exact List.forall_mem_nil _
  | cons st ss ih =>
    rw [List.flatMap_cons] at hd hf
    obtain ⟨hde, hds, hapart⟩ := List.pairwise_append.mp hd
    obtain ⟨_, s₁, h₁, h₂⟩ := gives_bind.mp h
    refine List.forall_mem_cons.mpr ⟨?_, ih hds ?_ h₂⟩
    · obtain ⟨type, hplaced⟩ := checkStmt_places hde (hf.mono fun _ => List.mem_append_left _) h₁
      -- the statements behind file under ids of their own
      have hrest : Extends (Among (ss.flatMap fun st => st.expr.walk))
          (Among (ss.flatMap fun st => st.expr.walk)) s₁ s' :=
        (Confined.forM fun st hst => checkStmt_confined st fun y hy =>
          ⟨among_of_mem (List.mem_flatMap.mpr ⟨st, hst, hy⟩),
            among_of_mem (List.mem_flatMap.mpr ⟨st, hst, hy⟩)⟩).grows h₂
      have hother (y : Expr) (hy : y ∈ st.expr.walk) := not_among (hapart y hy)
      exact ⟨type, hplaced.later hrest hother hother⟩
    · have hfirst : Extends (Among st.expr.walk) (Among st.expr.walk) s s₁ :=
        (checkStmt_confined st fun y hy => ⟨among_of_mem hy, among_of_mem hy⟩).grows h₁
      exact (hf.mono fun _ => List.mem_append_right _).later hfirst fun y hy =>
        ⟨not_among fun z hz he => hapart z hz y hy he.symm,
          not_among fun z hz he => hapart z hz y hy he.symm⟩

/-- The expressions of the statements of a body are placed. -/
theorem checkBody_places {f : Function} {type : Ty} {u : Unit} (hd : Distinct f.walk)
    (hf : Fresh f.walk s.tables) (h : Gives (checkBody c f type) s u s') :
    ∀ st ∈ f.body.stmts, ∃ type, Placed c st.expr (stmtExpects c st) type
      (NeedsCoercionTo c (stmtExpects c st) type) s'.tables := by
  intro st hst
  obtain ⟨_, -, hscope⟩ := gives_lift_bind.mp h
  obtain ⟨s₃, hinside, rfl⟩ := gives_inScope.mp hscope
  obtain ⟨_, s₂, h₁, h₂⟩ := gives_bind.mp hinside
  have hbefore : Extends Nowhere Nowhere s s₂ := (Extends.rescope _ _).trans
    ((Confined.forM fun _ _ => bindPattern_confined _ _).grows h₁)
  exact checkStmts_places hd (hf.later hbefore fun _ _ => ⟨id, id⟩) h₂ st hst

end ClosureLint.Typing
