import ClosureLint.Proofs.Checking.BodyByBody
import ClosureLint.Proofs.Checking.Places
import ClosureLint.Proofs.Totality

/-!
# Where values are coerced

The results record which expressions are adjusted. That says exactly where a coercion happens: at the
receiver of a method call that is of another type than the method asks for, and where a place coerces
and the type that it expects differs from the type that is found there.

* `Expects` — what the place of an expression expects, and whether it coerces.
* `ReceiverDiffers` — a receiver is of another type than the method asks for.
* `expected_of_walk`, `Expects.checkedAs` — every expression was checked against what its place expects.
* `adjusted_iff` — **which expressions are adjusted**.
* `coercedOnce_adjusted` — a program with a coercion at each kind of place, for instance.
-/

namespace ClosureLint

open ClosureLint.Core

/-! ### Parts -/

namespace Core.Expr

/-- The expressions right below an expression. -/
def parts : Expr → List Expr
  | .path .. | .int .. | .str .. => []
  | .borrow _ _ subject | .deref _ subject | .field _ subject _ => [subject]
  | .call _ callee args => callee :: args
  | .methodCall _ receiver _ args => receiver :: args
  | .closure _ _ _ body => [body]

mutual

/-- What holds of an expression and goes over from each expression to its parts, holds of the whole
walk. -/
theorem forall_walk_of_parts {P : Expr → Prop} : (e : Expr) → P e →
    (∀ y ∈ e.walk, P y → ∀ x ∈ y.parts, P x) → ∀ x ∈ e.walk, P x
  | .path .., he, _ | .int .., he, _ | .str .., he, _ => List.forall_mem_singleton.mpr he
  | .borrow node isMut subject, he, h | .deref node subject, he, h | .field node subject _, he, h
  | .closure node _ _ subject, he, h => by
    refine forall_walk.mpr ⟨he, forall_walk_of_parts subject ?_ fun y hy => ?_⟩
    · exact h _ (mem_walk_self _) he _ List.mem_cons_self
    · exact h y (List.mem_cons_of_mem _ hy)
  | .call node first args, he, h | .methodCall node first _ args, he, h => by
    -- a call hands it to what is called and to each argument
    have hparts := h _ (mem_walk_self _) he
    refine forall_walk.mpr ⟨he, List.forall_mem_append.mpr ⟨?_, ?_⟩⟩
    · exact forall_walk_of_parts first (hparts _ List.mem_cons_self) fun y hy =>
        h y (List.mem_cons_of_mem _ (List.mem_append_left _ hy))
    · exact forall_walkAll_of_parts args (fun x hx => hparts x (List.mem_cons_of_mem _ hx)) fun y hy =>
        h y (List.mem_cons_of_mem _ (List.mem_append_right _ hy))

theorem forall_walkAll_of_parts {P : Expr → Prop} : (es : List Expr) → (∀ e ∈ es, P e) →
    (∀ y ∈ walkAll es, P y → ∀ x ∈ y.parts, P x) → ∀ x ∈ walkAll es, P x
  | [], _, _ => nofun
  | e :: es, hes, h => by
    obtain ⟨he, hes⟩ := List.forall_mem_cons.mp hes
    refine List.forall_mem_append.mpr ⟨?_, ?_⟩
    · exact forall_walk_of_parts e he fun y hy => h y (List.mem_append_left _ hy)
    · exact forall_walkAll_of_parts es hes fun y hy => h y (List.mem_append_right _ hy)

end

end Core.Expr

namespace Typing

open ClosureLint.Syntax (Program TypeExpr)

variable {c : Context} {q : Query} {f : Function} {x y : Expr} {u : Ty} {coerced : Bool}

/-! ### What places expect -/

/-- The place of an expression in the body of `f` expects a type. Unless it is the place behind a `&`,
what is found there is coerced. -/
inductive Expects (c : Context) (q : Query) (f : Function) : (coerced : Bool) → Expr → Ty → Prop
  /-- An argument of a call: what is called is a function with as many parameters. -/
  | argument {node : Node} {callee : Expr} {args : List Expr} {params : List Ty} {i : Nat} {x : Expr}
      {u : Ty} : .call node callee args ∈ f.walk → (q.typeOf callee).kind = .function →
      (q.typeOf callee).fnParams = .ok params → args.length = params.length → args[i]? = some x →
      params[i]? = some u → Expects c q f true x u
  /-- An argument of a method call that is resolved: the method has as many parameters behind the
  receiver, in which `Self` is the type that the method was found on. -/
  | methodArgument {node : Node} {receiver : Expr} {method : String} {args : List Expr}
      {r : Resolution} {params : List Ty} {i : Nat} {x : Expr} {u : Ty} :
      .methodCall node receiver method args ∈ f.walk → q.tables.methods.lookup node.id = some r →
      (r.decl.type.substSelf r.step).fnParams = .ok params →
      args.length = (params.drop 1).length → args[i]? = some x → (params.drop 1)[i]? = some u →
      Expects c q f true x u
  /-- The value of a `let` with a written type. -/
  | value {node : Node} {pattern : Pattern} {written : TypeExpr} {x : Expr} :
      .letStmt node pattern (some written) x ∈ f.body.stmts →
      Expects c q f true x (resolveType c.scope written).1
  /-- The body of a closure with a written result. -/
  | result {node : Node} {params : List Param} {written : TypeExpr} {x : Expr} :
      .closure node params (some written) x ∈ f.walk →
      Expects c q f true x (resolveType c.scope written).1
  /-- The body of a closure in whose place a function with as many parameters is expected. -/
  | expectedResult {node : Node} {params : List Param} {x : Expr} {t u : Ty} {coerced : Bool}
      {ts : List Ty} : .closure node params none x ∈ f.walk →
      Expects c q f coerced (.closure node params none x) t → t.kind = .function →
      t.fnParams = .ok ts → ts.length = params.length → t.fnRet = .ok u → Expects c q f true x u
  /-- What a reference refers to, where a reference is expected. -/
  | pointee {node : Node} {isMut : Bool} {x : Expr} {t u : Ty} {coerced : Bool} :
      .borrow node isMut x ∈ f.walk → Expects c q f coerced (.borrow node isMut x) t → t.kind = .ref →
      Ty.firstPart t.params = .ok u → Expects c q f false x u

/-- `x` is the receiver of a method call that is resolved, and of another type than the method asks for
on the type that it was found on. -/
inductive ReceiverDiffers (q : Query) (f : Function) (x : Expr) : Prop
  | intro {node : Node} {method : String} {args : List Expr} {r : Resolution} {u : Ty} :
      .methodCall node x method args ∈ f.walk → q.tables.methods.lookup node.id = some r →
      expectedReceiver r.decl r.step = .ok u → u ≠ q.typeOf x → ReceiverDiffers q f x

/-- What is adjusted in the body of `f` are the receivers of resolved method calls that are of another
type than the method asks for, and the expressions in places that coerce whose type has to be coerced
where that of the place is expected. -/
def AdjustedByNeed (c : Context) (q : Query) (f : Function) : Prop :=
  ∀ x ∈ f.walk, x.id ∈ q.tables.adjusted ↔ ReceiverDiffers q f x ∨
    ∃ u, Expects c q f true x u ∧ NeedsCoercion c.targets (q.typeOf x) u

theorem expectedAt_eq_some {params : List Ty} {n i : Nat} :
    expectedAt params n i = some u ↔ n = params.length ∧ params[i]? = some u := by
  rw [expectedAt, Option.ite_none_right_eq_some]

/-- What is expected behind a `&`. -/
theorem expectedPointee_eq_some {expected : Option Ty} : expectedPointee expected = .ok (some u) ↔
    ∃ t, expected = some t ∧ t.kind = .ref ∧ Ty.firstPart t.params = .ok u := by
  unfold expectedPointee
  constructor
  · intro h
    split at h
    · next t =>
      split at h
      · next hk =>
        obtain ⟨v, hv, h⟩ := bind_eq_ok.mp h
        exact ⟨t, rfl, hk, Option.some.inj (pure_eq_ok.mp h) ▸ hv⟩
      · cases pure_eq_ok.mp h
    · cases pure_eq_ok.mp h
  · rintro ⟨t, rfl, hk, hu⟩
    exact (if_pos hk).trans (by rw [hu]; rfl)

/-- What is expected of a closure's body without a written result. -/
theorem expectedSignature_eq_some {expected : Option Ty} {n : Nat} {signature : List Ty × Ty} :
    expectedSignature expected n = .ok (some signature) ↔
      ∃ t, expected = some t ∧ t.kind = .function ∧ t.fnParams = .ok signature.1 ∧
        signature.1.length = n ∧ t.fnRet = .ok signature.2 := by
  unfold expectedSignature
  constructor
  · intro h
    split at h
    · cases pure_eq_ok.mp h
    · next t ht =>
      obtain ⟨rfl, hk⟩ := Option.filter_eq_some_iff.mp ht
      obtain ⟨params, hparams, h⟩ := bind_eq_ok.mp h
      split at h
      · next hn =>
        obtain ⟨ret, hret, h⟩ := bind_eq_ok.mp h
        obtain rfl := Option.some.inj (pure_eq_ok.mp h)
        exact ⟨t, rfl, of_decide_eq_true hk, hparams, hn, hret⟩
      · cases pure_eq_ok.mp h
  -- read backwards, each of the three tests is passed
  · rintro ⟨t, rfl, hk, hparams, hn, hret⟩
    rw [Option.filter_some, if_pos (decide_eq_true hk)]
    dsimp only
    rw [hparams, hret]
    exact if_pos hn

/-! ### Every expression is placed -/

/-- The expressions of the statements of `f` were checked against what the statements expect. -/
def RootsPlaced (c : Context) (t : Tables) (f : Function) : Prop :=
  ∀ st ∈ f.body.stmts, ∃ type, Placed c st.expr (stmtExpects c st) type
    (NeedsCoercionTo c (stmtExpects c st) type) t

/-- `x` was checked against what its place expects, and adjusted only for a reason. -/
structure Expected (c : Context) (q : Query) (f : Function) (x : Expr) (expected : Option Ty) (type : Ty)
    (A : Prop) : Prop where
  placed : Placed c x expected type A q.tables
  expects : ∀ u, expected = some u → ∃ coerced, Expects c q f coerced x u
  reason : A → ReceiverDiffers q f x ∨ ∃ u, Expects c q f true x u ∧ NeedsCoercion c.targets type u

theorem CheckedAs.typeOf {expected : Option Ty} {type : Ty} (h : CheckedAs c x expected type q.tables) :
    q.typeOf x = type := typeOf_of_lookup h.lookup

/-- A place that coerces gives what is found there its reason. -/
private theorem Expected.of_coerced {expected : Option Ty} {type : Ty}
    (h : Placed c x expected type (NeedsCoercionTo c expected type) q.tables)
    (he : ∀ u, expected = some u → Expects c q f true x u) :
    Expected c q f x expected type (NeedsCoercionTo c expected type) where
  placed := h
  expects := fun u hu => ⟨true, he u hu⟩
  reason := fun ⟨u, hu, hneeds⟩ => .inr ⟨u, he u hu, hneeds⟩

/-- A place that coerces nothing needs no reason. -/
private theorem Expected.of_plain {expected : Option Ty} {type : Ty}
    (h : Placed c x expected type False q.tables)
    (he : ∀ u, expected = some u → ∃ coerced, Expects c q f coerced x u) :
    Expected c q f x expected type False := ⟨h, he, False.elim⟩

theorem distinct_walk (hd : Distinct f.walk) (hy : y ∈ f.walk) : Distinct y.walk := by
  have hf : [f].flatMap Function.walk = f.walk := List.flatMap_singleton ..
  exact hd.sublist (hf ▸ Function.walk_sublist (hf.symm ▸ hy))

private theorem not_expected {P : Ty → Prop} (u : Ty) (h : none = some u) : P u := nomatch h

/-- From an expression it goes over to its parts. -/
private theorem expected_parts {expected : Option Ty} {type : Ty} {A : Prop} (hd : Distinct f.walk)
    (hy : y ∈ f.walk) (h : Expected c q f y expected type A) :
    ∀ x ∈ y.parts, ∃ expected type A, Expected c q f x expected type A := by
  have hdy := distinct_walk hd hy
  -- arguments are placed in the same way, whatever is called
  have hargs {args : List Expr} {want : Nat → Option Ty} (hplaced : ArgsPlaced c args want q.tables)
      (hwant : ∀ i x u, args[i]? = some x → want i = some u → Expects c q f true x u) :
      ∀ x ∈ args, ∃ expected type A, Expected c q f x expected type A := by
    intro x hx
    obtain ⟨i, hi⟩ := List.mem_iff_getElem?.mp hx
    obtain ⟨type, hplaced⟩ := hplaced hi
    exact ⟨_, _, _, .of_coerced hplaced fun u hu => hwant i x u hi hu⟩
  have hchecked := h.placed.checked
  cases y with
  | path | int | str => exact nofun
  | borrow node isMut subject =>
    obtain ⟨inner, type, hinner, hplaced⟩ := hchecked.borrow hdy
    refine List.forall_mem_singleton.mpr ⟨inner, type, False, .of_plain hplaced fun u hu => ?_⟩
    -- something is expected behind the `&` only where a reference is expected
    obtain ⟨t, ht, hk, hpart⟩ := expectedPointee_eq_some.mp (hu ▸ hinner)
    obtain ⟨coerced, ht⟩ := h.expects t ht
    exact ⟨false, .pointee hy ht hk hpart⟩
  | deref node subject =>
    obtain ⟨type, hplaced⟩ := hchecked.deref hdy
    exact List.forall_mem_singleton.mpr ⟨_, type, False, .of_plain hplaced not_expected⟩
  | field node subject name =>
    obtain ⟨type, hplaced⟩ := hchecked.field hdy
    exact List.forall_mem_singleton.mpr ⟨_, type, False, .of_plain hplaced not_expected⟩
  | call node callee args =>
    obtain ⟨calleeType, hcallee, hrest⟩ := hchecked.call hdy
    refine List.forall_mem_cons.mpr ⟨⟨_, _, False, .of_plain hcallee not_expected⟩, ?_⟩
    obtain rfl := hcallee.checked.typeOf
    -- where no function is called, nothing is expected of the arguments
    rcases hrest with ⟨hk, params, hparams, hplaced⟩ | ⟨-, hplaced⟩
    · refine hargs hplaced fun i x u hx hu => ?_
      obtain ⟨hn, hu⟩ := expectedAt_eq_some.mp hu
      exact .argument hy hk hparams hn hx hu
    · exact hargs hplaced fun _ _ u _ hu => not_expected u hu
  | methodCall node receiver method args =>
    obtain ⟨receiverType, ⟨r, params, hr, hmethod, hparams, hreceiver, hplaced⟩ |
      ⟨-, hreceiver, hplaced⟩⟩ := hchecked.methodCall hdy
    · refine List.forall_mem_cons.mpr ⟨⟨_, _, _, hreceiver, not_expected, fun hadjusted => ?_⟩, ?_⟩
      -- the receiver is coerced by the search, which adjusts it where the types differ
      · obtain ⟨steps, -, hon⟩ := Registry.resolveMethod_eq_ok hr
        obtain ⟨-, -, -, -, -, -, u, hu, hdiffers⟩ := Registry.resolveOn_eq_ok hon
        rw [hadjusted, hreceiver.checked.typeOf.symm] at hdiffers
        exact .inl (.intro hy hmethod hu (bne_iff_ne.mp hdiffers.symm))
      · refine hargs hplaced fun i x u hx hu => ?_
        obtain ⟨hn, hu⟩ := expectedAt_eq_some.mp hu
        exact .methodArgument hy hmethod hparams hn hx hu
    · refine List.forall_mem_cons.mpr ⟨⟨_, _, False, .of_plain hreceiver not_expected⟩, ?_⟩
      exact hargs hplaced fun _ _ u _ hu => not_expected u hu
  | closure node params ret body =>
    obtain ⟨signature, type, hsignature, hplaced⟩ := hchecked.closure hdy
    refine List.forall_mem_singleton.mpr ⟨_, type, _, .of_coerced hplaced fun u hu => ?_⟩
    cases ret with
    | some written =>
      -- the written result comes before the expected one
      obtain rfl := Option.some.inj hu
      exact .result hy
    | none =>
      obtain ⟨signature, rfl, rfl⟩ := Option.map_eq_some_iff.mp hu
      obtain ⟨t, ht, hk, hts, hn, hret⟩ := expectedSignature_eq_some.mp hsignature
      obtain ⟨coerced, ht⟩ := h.expects t ht
      exact .expectedResult hy ht hk hts hn hret

/-- **Every expression of a body** was checked against what its place expects, and is adjusted only for a
reason. -/
theorem expected_of_walk (hd : Distinct f.walk) (hroots : RootsPlaced c q.tables f) :
    ∀ x ∈ f.walk, ∃ expected type A, Expected c q f x expected type A := by
  intro x hx
  obtain ⟨st, hst, hx⟩ := List.mem_flatMap.mp hx
  obtain ⟨type, hplaced⟩ := hroots st hst
  -- the statement's expression is placed, and so are the parts of each placed expression
  refine Expr.forall_walk_of_parts (P := fun x => ∃ expected type A, Expected c q f x expected type A)
    st.expr ⟨_, type, _, .of_coerced hplaced fun u hu => ?_⟩ (fun y hy h => ?_) x hx
  · cases st with
    | letStmt node pattern declared value =>
      obtain ⟨written, rfl, rfl⟩ := Option.map_eq_some_iff.mp hu
      exact .value hst
    | exprStmt => nomatch hu
  · obtain ⟨expected, type, A, h⟩ := h
    exact expected_parts hd (List.mem_flatMap.mpr ⟨st, hst, hy⟩) h

/-- **What a place expects is what the expression there was checked against**, and where the place
coerces, the expression is adjusted if it has to be. -/
theorem Expects.checkedAs (hd : Distinct f.walk) (hroots : RootsPlaced c q.tables f)
    (h : Expects c q f coerced x u) : ∃ type, CheckedAs c x (some u) type q.tables ∧
      (coerced = true → NeedsCoercion c.targets type u → x.id ∈ q.tables.adjusted) := by
  have hcoerced {x : Expr} {expected : Option Ty} {type u : Ty} (hu : expected = some u)
      (hplaced : Placed c x expected type (NeedsCoercionTo c expected type) q.tables) :
      ∃ type, CheckedAs c x (some u) type q.tables ∧
        (true = true → NeedsCoercion c.targets type u → x.id ∈ q.tables.adjusted) := by
    obtain rfl := hu
    exact ⟨type, hplaced.checked, fun _ hneeds => hplaced.adjusted.mpr ⟨u, rfl, hneeds⟩⟩
  -- by the ways in which a place expects something, as references and closures pass on what their own
  -- place expects
  induction h with
  | argument hy hk hparams hn hx hu =>
    obtain ⟨_, _, _, hexpected⟩ := expected_of_walk hd hroots _ hy
    obtain ⟨calleeType, hcallee, ⟨-, params, hparams', hplaced⟩ | ⟨hk', -⟩⟩ :=
      hexpected.placed.checked.call (distinct_walk hd hy)
    · rw [hcallee.checked.typeOf] at hparams
      obtain rfl := Except.ok.inj (hparams.symm.trans hparams')
      obtain ⟨type, hplaced⟩ := hplaced hx
      exact hcoerced (expectedAt_eq_some.mpr ⟨hn, hu⟩) hplaced
    · rw [hcallee.checked.typeOf] at hk
      exact absurd hk hk'
  | methodArgument hy hmethod hparams hn hx hu =>
    obtain ⟨_, _, _, hexpected⟩ := expected_of_walk hd hroots _ hy
    obtain ⟨_, ⟨r, params, -, hmethod', hparams', -, hplaced⟩ | ⟨hnone, -, -⟩⟩ :=
      hexpected.placed.checked.methodCall (distinct_walk hd hy)
    · obtain rfl := Option.some.inj (hmethod.symm.trans hmethod')
      obtain rfl := Except.ok.inj (hparams.symm.trans hparams')
      obtain ⟨type, hplaced⟩ := hplaced hx
      exact hcoerced (expectedAt_eq_some.mpr ⟨hn, hu⟩) hplaced
    -- a resolution was recorded, so the search did not fail
    · nomatch hmethod.symm.trans hnone
  | value hst =>
    obtain ⟨type, hplaced⟩ := hroots _ hst
    exact hcoerced rfl hplaced
  | result hy =>
    obtain ⟨_, _, _, hexpected⟩ := expected_of_walk hd hroots _ hy
    obtain ⟨_, type, -, hplaced⟩ := hexpected.placed.checked.closure (distinct_walk hd hy)
    exact hcoerced rfl hplaced
  | expectedResult hy _ hk hts hn hret ih =>
    obtain ⟨_, hchecked, -⟩ := ih
    obtain ⟨signature, type, hsignature, hplaced⟩ := hchecked.closure (distinct_walk hd hy)
    have hfound : expectedSignature (some _) _ = .ok (some (_, _)) :=
      expectedSignature_eq_some.mpr ⟨_, rfl, hk, hts, hn, hret⟩
    obtain rfl := Except.ok.inj (hfound.symm.trans hsignature)
    exact hcoerced rfl hplaced
  | pointee hy _ hk hpart ih =>
    obtain ⟨_, hchecked, -⟩ := ih
    obtain ⟨inner, type, hinner, hplaced⟩ := hchecked.borrow (distinct_walk hd hy)
    rw [expectedPointee_eq_some.mpr ⟨_, rfl, hk, hpart⟩] at hinner
    obtain rfl := Except.ok.inj hinner
    exact ⟨type, hplaced.checked, nofun⟩

/-- A receiver is adjusted where it differs. -/
theorem ReceiverDiffers.adjusted (hd : Distinct f.walk) (hroots : RootsPlaced c q.tables f)
    (h : ReceiverDiffers q f x) : x.id ∈ q.tables.adjusted := by
  obtain ⟨hy, hmethod, hu, hdiffers⟩ := h
  obtain ⟨_, _, _, hexpected⟩ := expected_of_walk hd hroots _ hy
  obtain ⟨_, ⟨r, -, hr, hmethod', -, hreceiver, -⟩ | ⟨hnone, -, -⟩⟩ :=
    hexpected.placed.checked.methodCall (distinct_walk hd hy)
  · obtain rfl := Option.some.inj (hmethod.symm.trans hmethod')
    -- the search adjusts exactly where the receiver's type is not the one that is asked for
    obtain ⟨steps, -, hon⟩ := Registry.resolveMethod_eq_ok hr
    obtain ⟨-, -, -, -, -, -, v, hv, hadjusted⟩ := Registry.resolveOn_eq_ok hon
    obtain rfl := Except.ok.inj (hu.symm.trans hv)
    rw [hreceiver.checked.typeOf] at hdiffers
    exact hreceiver.adjusted.mpr (hadjusted.trans (bne_iff_ne.mpr hdiffers))
  · nomatch hmethod.symm.trans hnone

/-- So it is if the expressions of the statements are placed. -/
theorem adjustedByNeed_of_roots (hd : Distinct f.walk) (hroots : RootsPlaced c q.tables f) :
    AdjustedByNeed c q f := by
  intro x hx
  constructor
  · intro hadjusted
    obtain ⟨expected, type, A, h⟩ := expected_of_walk hd hroots x hx
    rw [h.placed.checked.typeOf]
    exact h.reason (h.placed.adjusted.mp hadjusted)
  · rintro (h | ⟨u, h, hneeds⟩)
    · exact h.adjusted hd hroots
    · obtain ⟨type, hchecked, hadjusts⟩ := h.checkedAs hd hroots
      rw [hchecked.typeOf] at hneeds
      exact hadjusts rfl hneeds

/-! ### Programs -/

/-- The statements of every body of a program are placed in the end. -/
theorem BodyChecks.places {file : Option String} {names : StructNames} {d : Declared} {next : NodeId}
    {s s' : State} {checks : List BodyCheck} (h : BodyChecks file names d next s checks s')
    (hf : FreshFrom next s.tables) : ∀ k ∈ checks, Distinct k.function.walk ∧
      RootsPlaced (contextOf file names d k.body.selfType) s'.tables k.function := by
  induction h with
  | nil => exact List.forall_mem_nil _
  | @cons next s s₁ s₂ b reported checks hbody _ hrest ih =>
    have hn := (b.lowered file).numbered_number next
    have hfresh : Fresh ((b.lowered file).number next).1.walk s.tables :=
      hf.mono (fun _ ⟨x, hx, hi⟩ => hi ▸ hn.lower x hx) fun _ ⟨x, hx, hi⟩ => hi ▸ hn.lower x hx
    have hdistinct := Distinct.of_numbered hn
    refine List.forall_mem_cons.mpr ⟨⟨hdistinct, fun st hst => ?_⟩, ih (hf.later hbody)⟩
    obtain ⟨type, hplaced⟩ := checkBody_places hdistinct hfresh hbody st hst
    -- the bodies that are checked later write under later identities only
    have hlt : ∀ y ∈ st.expr.walk, ¬ ((b.lowered file).number next).2 ≤ y.id := fun y hy =>
      Int.not_le.mpr (hn.upper y (List.mem_flatMap.mpr ⟨st, hst, hy⟩))
    exact ⟨type, hplaced.later hrest.extends hlt hlt⟩

/-- **Which expressions are adjusted.** A program that was read can be checked, and in each of its bodies
the expressions are adjusted that need it, and no others. -/
theorem adjusted_iff {source : String} {p : Program} (h : Syntax.parse source = .ok p)
    (file : Option String) : ∃ declared checks checked, check file p = .ok checked ∧
      CheckedBy file p declared checks checked ∧ ∀ k ∈ checks,
        AdjustedByNeed (contextOf file (structNames p) declared k.body.selfType) checked.query
          k.function := by
  obtain ⟨checked, hcheck⟩ := check_succeeds h file
  obtain ⟨declared, checks, hchecked⟩ := check_iff_checkedBy.mp hcheck
  refine ⟨declared, checks, checked, hcheck, hchecked, fun k hk => ?_⟩
  obtain ⟨final, hbodies, he⟩ := hchecked.checks
  obtain ⟨hd, hroots⟩ := hbodies.places (.refl {}) k hk
  have htables : checked.query.tables = final.tables := by rw [he]; rfl
  exact adjustedByNeed_of_roots hd (htables ▸ hroots)

/-- A program with a coercion at an argument of a call, at a receiver, at an argument of a method call,
at the value of a `let`, and at the bodies of two closures. -/
def coercedOnce : String :=
  "struct S;\nstruct B -> S;\nimpl S \x7b fn m(&self, h: unsafe fn(i32) -> i32); \x7d\n"
    ++ "fn f(s: &S) -> &S;\nfn g(x: i32) -> i32;\nfn apply(h: fn(&B) -> &S);\n"
    ++ "fn main(b: B, r: &B) \x7b\n  f(&b);\n  b.m(g);\n  let s: &S = r;\n  apply(|x| x);\n"
    ++ "  let h = |y: &B| -> &S y;\n\x7d\n"

/-- **Each of them is recorded**, and nothing else is. -/
theorem coercedOnce_adjusted : ∃ p declared checks checked, Syntax.parse coercedOnce = .ok p ∧
    check none p = .ok checked ∧ checked.diagnostics = [] ∧ checked.tables.adjusted.length = 6 ∧
      CheckedBy none p declared checks checked ∧ ∀ k ∈ checks,
        AdjustedByNeed (contextOf none (structNames p) declared k.body.selfType) checked.query
          k.function := by
  have htest : ((checkedSource? none coercedOnce).any fun c =>
      c.diagnostics.isEmpty && c.tables.adjusted.length == 6) = true := by decide +kernel
  obtain ⟨checked, hsource, htest⟩ := (Option.any_eq_true _ _).mp htest
  obtain ⟨hclean, hlength⟩ := Bool.and_eq_true_iff.mp htest
  obtain ⟨p, hparse, hcheck⟩ := checkedSource?_eq_some.mp hsource
  obtain ⟨declared, checks, checked', hcheck', hchecked, hneed⟩ := adjusted_iff hparse none
  obtain rfl := Except.ok.inj (hcheck.symm.trans hcheck')
  exact ⟨p, declared, checks, checked, hparse, hcheck, List.isEmpty_iff.mp hclean, eq_of_beq hlength,
    hchecked, hneed⟩

end Typing

end ClosureLint
