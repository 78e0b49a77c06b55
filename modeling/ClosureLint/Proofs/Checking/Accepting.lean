import ClosureLint.Proofs.Checking.Foresight
import ClosureLint.Proofs.Checking.Places
import ClosureLint.Proofs.Checking.Reaching
import ClosureLint.Proofs.Types.Parts

/-!
# What is accepted where nothing is reported

Where a place coerces and nothing is reported, the type that is found there fits. Of two functions
only the number of parameters is compared, and whether they are unsafe.

* `Fits` — a type is accepted where another is expected.
* `fits_function_iff` — which functions are accepted where a function is expected.
* `CleanAs` — an expression was checked where some type is expected, and nothing was reported.
* `Accepted` — and what was found fits.
* `CleanAs.borrow`, `CleanAs.call`, `CleanAs.closure`, … — so it is with the parts of an expression.
* `CleanAs.closureType` — the type of a closure where a function is expected.
-/

namespace ClosureLint.Typing

open ClosureLint.Core
open ClosureLint.Syntax (TypeExpr)

variable {targets : DerefTable} {actual expected : Ty}

/-! ### What fits -/

/-- A value of type `actual` is accepted where `expected` is expected. -/
def Fits (targets : DerefTable) (actual expected : Ty) : Prop :=
  ∃ f, fit targets actual expected = .ok f ∧ f ≠ .mismatch

/-- Two functions have equally many parameters, and the second is unsafe if the first is. -/
structure SameArity (actual expected : Ty) : Prop where
  arity : ∃ ts us, actual.fnParams = .ok ts ∧ expected.fnParams = .ok us ∧ ts.length = us.length
  safety : actual.isUnsafe = true → expected.isUnsafe = true

theorem fnParams_of_kind {t : Ty} (h : t.kind = .function) : t.fnParams = .ok t.params.dropLast :=
  if_pos h

/-- **A function is accepted where a function is expected** if it has as many parameters and is not
unsafe where the other is safe. Their parameters and results are not compared. -/
theorem fits_function_iff (hactual : actual.kind = .function)
    (hexpected : expected.kind = .function) :
    Fits targets actual expected ↔ SameArity actual expected := by
  -- a function is no reference, so no coercion between references applies
  have href : isRefCoercion targets actual expected = .ok false :=
    if_pos (.inl (by rw [hactual]; decide))
  constructor
  · rintro ⟨f, hf, hne⟩
    unfold fit at hf
    split at hf
    · next hexact =>
      -- neither is lenient, so they are equal
      have hlenient : (expected.isLenient || actual.isLenient) = false := by
        rw [Ty.isLenient, Ty.isLenient, hactual, hexpected]
        rfl
      rw [hlenient, Bool.false_or] at hexact
      obtain rfl := eq_of_beq hexact
      exact ⟨⟨_, _, fnParams_of_kind hactual, fnParams_of_kind hactual, rfl⟩, id⟩
    · obtain ⟨_, hcoercion, hf⟩ := bind_eq_ok.mp hf
      obtain rfl := Except.ok.inj (href.symm.trans hcoercion)
      obtain ⟨ts, hts, hf⟩ := bind_eq_ok.mp ((if_pos ⟨hactual, hexpected⟩).symm.trans hf)
      obtain ⟨us, hus, hf⟩ := bind_eq_ok.mp hf
      split at hf
      · next hfits =>
        refine ⟨⟨ts, us, hts, hus, hfits.1⟩, fun hflag => ?_⟩
        have hsafe := hfits.2
        rwa [hflag, Bool.not_true, Bool.or_false] at hsafe
      · exact absurd (pure_eq_ok.mp hf).symm hne
  -- the other way round, equal types fit, and the others pass both tests
  · rintro ⟨⟨ts, us, hts, hus, hlength⟩, hsafety⟩
    unfold Fits fit
    split
    · exact ⟨.exact, rfl, by rintro ⟨⟩⟩
    -- an unsafe function is expected, or a safe one is given
    · have hstands : (expected.isUnsafe || !actual.isUnsafe) = true := by
        cases hflag : actual.isUnsafe with
        | false => rw [Bool.not_false, Bool.or_true]
        | true => rw [hsafety hflag, Bool.true_or]
      rw [href, hts, hus]
      refine ⟨_, (if_pos ⟨hactual, hexpected⟩).trans (if_pos ⟨hlength, hstands⟩), ?_⟩
      split <;> rintro ⟨⟩

theorem fits_of_coerceTo {c : Context} {s s' : State} {e : Expr} {v : Unit}
    (h : Gives (coerceTo c e actual (some expected)) s v s') (hclean : s'.diagnostics = []) :
    Fits c.targets actual expected := by
  obtain ⟨f, hf, h⟩ := gives_lift_bind.mp h
  refine ⟨f, hf, ?_⟩
  rintro rfl
  obtain ⟨_, -, h⟩ := gives_lift_bind.mp h
  obtain ⟨_, -, h⟩ := gives_lift_bind.mp h
  exact not_clean_report h hclean

/-! ### One expression -/

variable {c : Context} {s s' s₁ s₂ : State} {e x : Expr} {type : Ty} {want : Option Ty}
  {wants : Nat → Option Ty} {node : Node} {args : List Expr} {t t' : Tables}

/-- Filing a type reports nothing. -/
theorem diagnostics_setType {id : NodeId} {u : Unit} (h : Gives (setType id type) s u s') :
    s'.diagnostics = s.diagnostics := by
  rw [← gives_modify.mp h]

/-- `x` was checked where `want` is expected, found to have type `type`, and nothing was reported.
The results `t` still say so of `x` and of what is inside. -/
inductive CleanAs (c : Context) (x : Expr) (want : Option Ty) (type : Ty) (t : Tables) : Prop
  | intro {before after : State} (gives : Gives (checkExpr c x want) before type after)
    (clean : after.diagnostics = []) (tables : Tables.Agree (Among x.walk) Nowhere after.tables t)

theorem CleanAs.lookup (h : CleanAs c x want type t) : t.types.lookup x.id = some type := by
  obtain ⟨hg, -, ht⟩ := h
  rw [ht.types _ (among_of_mem x.mem_walk_self)]
  exact checkExpr_type hg

/-- Results that say the same about `x` leave it so. -/
theorem CleanAs.agree {F M : NodeId → Prop} (h : CleanAs c x want type t)
    (ha : Tables.Agree F M t t') (hF : ∀ y ∈ x.walk, F y.id) : CleanAs c x want type t' := by
  obtain ⟨hg, hclean, ht⟩ := h
  refine ⟨hg, hclean, ht.trans (ha.mono ?_ fun _ => False.elim)⟩
  rintro _ ⟨y, hy, rfl⟩
  exact hF y hy

/-- Steps behind it that report nothing and file nothing for it leave it so. -/
theorem CleanAs.of_gives {I J : NodeId → Prop} (h : Gives (checkExpr c x want) s type s₁)
    (he : Extends I J s₁ s₂) (hI : ∀ y ∈ x.walk, ¬ I y.id) (hclean : s₂.diagnostics = []) :
    CleanAs c x want type s₂.tables :=
  CleanAs.agree ⟨h, he.clean hclean, .refl _⟩ he.tables hI

/-- An expression that was visited on the way to a state without diagnostics. -/
theorem Visited.cleanAs (h : Visited c x s) (hclean : s.diagnostics = []) :
    ∃ want type, CleanAs c x want type s.tables := by
  obtain ⟨-, hg, hdiagnostics, ht⟩ := h
  exact ⟨_, _, hg, List.prefix_nil.mp (hclean ▸ hdiagnostics),
    ht.mono (fun _ => id) fun _ => False.elim⟩

/-- What is inside `e` was checked so before the type of `e` is filed, and so it stays. -/
theorem CleanAs.outward {whole : Ty} {u : Unit} (h : CleanAs c x want type s₁.tables)
    (hx : ∀ y ∈ x.walk, y ∈ e.inside) (hd : Distinct e.walk)
    (hset : Gives (setType e.id whole) s₁ u s₂)
    (ht : Tables.Agree (Among e.walk) Nowhere s₂.tables t) : CleanAs c x want type t := by
  rw [e.walk_eq] at hd
  have hset := (setType_confined (I := (· = e.id)) (J := Nowhere) rfl whole).grows hset
  refine (h.agree hset.tables fun y hy he => ?_).agree ht fun y hy =>
    among_of_mem (Expr.walk_of_inside (hx y hy))
  exact (List.pairwise_cons.mp hd).1 y (hx y hy) he.symm

/-- `x` was checked so, and what was found fits. -/
structure Accepted (c : Context) (x : Expr) (want : Option Ty) (type : Ty) (t : Tables) : Prop where
  checked : CleanAs c x want type t
  fits : ∀ u, want = some u → Fits c.targets type u

/-- An expression is checked and accepted, and nothing is reported. -/
theorem accepted_of_gives {I J : NodeId → Prop} {u : Unit} (h : Gives (checkExpr c x want) s type s₁)
    (hcoerces : Gives (coerceTo c x type want) s₁ u s₂) (he : Extends I J s₂ s')
    (hI : ∀ y ∈ x.walk, ¬ I y.id) (hclean : s'.diagnostics = []) :
    Accepted c x want type s'.tables where
  checked :=
    have hafter := (coerceTo_extends hcoerces).mono (fun _ => False.elim) fun _ _ => trivial
    .of_gives h (hafter.trans (he.mono (fun _ => id) fun _ _ => trivial)) hI hclean
  fits := by
    rintro v rfl
    exact fits_of_coerceTo hcoerces (he.clean hclean)

/-- Every argument is accepted: the one at `i` where `wants i` is expected. -/
def ArgsAccepted (c : Context) (args : List Expr) (wants : Nat → Option Ty) (t : Tables) : Prop :=
  ∀ ⦃i x⦄, args[i]? = some x → ∃ type, Accepted c x (wants i) type t

/-- Arguments are accepted one by one. -/
theorem checkArgs_accepts {given : List (Option Ty)} {u : Unit} (hwants : Hands given wants)
    (hd : Distinct (Expr.walkAll args)) (h : Gives (checkArgs c args given) s u s')
    (hclean : s'.diagnostics = []) : ArgsAccepted c args wants s'.tables := by
  induction args generalizing given wants s with
  | nil => exact fun i x hx => nomatch hx
  | cons e es ih =>
    rw [checkArgs_cons] at h
    obtain ⟨-, hds, hapart⟩ := List.pairwise_append.mp hd
    obtain ⟨type, s₁, h₁, h⟩ := gives_bind.mp h
    obtain ⟨_, s₂, h₂, h⟩ := gives_bind.mp h
    intro i x hx
    -- the first argument is accepted at once, the others behind it
    cases i with
    | zero =>
      obtain rfl := Option.some.inj hx
      have haccepted := accepted_of_gives h₁ h₂ (checkArgs_extends h)
        (fun y hy => not_among (hapart y hy)) hclean
      rw [List.head?_eq_getElem?, hwants 0] at haccepted
      exact ⟨type, haccepted⟩
    | succ i =>
      have htail : Hands given.tail fun i => wants (i + 1) := fun i => by
        rw [List.getElem?_tail]
        exact hwants (i + 1)
      exact ih htail hds h hx

/-! ### The parts of an expression -/

theorem CleanAs.borrow {isMut : Bool} (h : CleanAs c (.borrow node isMut x) want type t)
    (hd : Distinct (Expr.borrow node isMut x).walk) :
    ∃ inner u, expectedPointee want = .ok inner ∧ CleanAs c x inner u t := by
  obtain ⟨hg, hclean, ht⟩ := h
  rw [checkExpr_borrow] at hg
  obtain ⟨s₁, hinside, hset⟩ := gives_filed.mp hg
  obtain ⟨inner, hinner, hinside⟩ := gives_lift_bind.mp hinside
  obtain ⟨_, hx, -⟩ := gives_bind_pure.mp hinside
  have hclean₁ := (diagnostics_setType hset).symm.trans hclean
  have hchecked : CleanAs c x inner _ s₁.tables := ⟨hx, hclean₁, .refl _⟩
  exact ⟨inner, _, hinner, hchecked.outward (fun _ => id) hd hset ht⟩

private theorem ArgsAccepted.outward {whole : Ty} {u : Unit} (h : ArgsAccepted c args wants s₁.tables)
    (hargs : ∀ y ∈ Expr.walkAll args, y ∈ e.inside) (hd : Distinct e.walk)
    (hset : Gives (setType e.id whole) s₁ u s₂)
    (ht : Tables.Agree (Among e.walk) Nowhere s₂.tables t) :
    ArgsAccepted c args wants t := by
  intro i x hx
  obtain ⟨_, hchecked, hfits⟩ := h hx
  exact ⟨_, hchecked.outward (fun y hy => hargs y
    (Expr.mem_walkAll.mpr ⟨x, List.mem_of_getElem? hx, hy⟩)) hd hset ht, hfits⟩

/-- **The arguments of a call** are accepted where the parameters are expected, if a function is
called. -/
theorem CleanAs.call {callee : Expr} (h : CleanAs c (.call node callee args) want type t)
    (hd : Distinct (Expr.call node callee args).walk) :
    ∃ calleeType, t.types.lookup callee.id = some calleeType ∧ ∀ params,
      calleeType.kind = .function → calleeType.fnParams = .ok params →
        ArgsAccepted c args (expectedAt params args.length) t := by
  obtain ⟨hg, hclean, ht⟩ := h
  rw [checkExpr_call] at hg
  obtain ⟨s₃, hinside, hset⟩ := gives_filed.mp hg
  obtain ⟨calleeType, s₁, hcallee, hrest⟩ := gives_bind.mp hinside
  obtain ⟨given, s₂, hextends, hargs, hgiven⟩ := callRest_run hrest
  have hclean₃ := (diagnostics_setType hset).symm.trans hclean
  obtain ⟨-, hda, hapart⟩ := List.pairwise_append.mp (List.pairwise_cons.mp hd).2
  refine ⟨calleeType, ?_, fun params hk hparams => ?_⟩
  -- nothing behind the callee touches what was filed for it
  · have hafter :=
      (hextends.mono (fun _ => False.elim) fun _ => False.elim).trans (checkArgs_extends hargs)
    have hchecked := CleanAs.of_gives hcallee hafter (fun y hy => not_among (hapart y hy)) hclean₃
    exact (hchecked.outward (fun y hy => List.mem_append_left _ hy) hd hset ht).lookup
  · rcases hgiven with ⟨-, params', hparams', hwants⟩ | ⟨hk', -⟩
    · obtain rfl := Except.ok.inj (hparams.symm.trans hparams')
      exact (checkArgs_accepts hwants hda hargs hclean₃).outward
        (fun y hy => List.mem_append_right _ hy) hd hset ht
    · exact absurd hk hk'

/-- **The arguments of a method call** are accepted where the parameters behind the receiver are
expected, if the call is resolved. -/
theorem Visited.methodArgs_accepted {receiver : Expr} {method : String} {r : Resolution}
    {params : List Ty} (h : Visited c (.methodCall node receiver method args) s)
    (hd : Distinct (Expr.methodCall node receiver method args).walk) (hclean : s.diagnostics = [])
    (hr : s.tables.methods.lookup node.id = some r)
    (hparams : (r.decl.type.substSelf r.step).fnParams = .ok params) :
    ArgsAccepted c args (expectedAt (params.drop 1) args.length) s.tables := by
  obtain ⟨hf, hg, hdiagnostics, ht⟩ := h
  have hself := Expr.mem_walk_self (.methodCall node receiver method args)
  rw [ht.methods node.id (among_of_mem hself)] at hr
  have hclean := List.prefix_nil.mp (hclean ▸ hdiagnostics)
  rw [checkExpr_methodCall] at hg
  obtain ⟨s₃, hinside, hset⟩ := gives_filed.mp hg
  obtain ⟨receiverType, s₁, hreceiver, hrest⟩ := gives_bind.mp hinside
  obtain ⟨given, s₂, hargs, hgiven⟩ := methodRest_run hrest
  have hclean₃ := (diagnostics_setType hset).symm.trans hclean
  obtain ⟨hnode, hparts⟩ := List.pairwise_cons.mp hd
  obtain ⟨-, hda, -⟩ := List.pairwise_append.mp hparts
  -- what the call means is found out before the arguments are checked, and stays
  have hmethod : s₂.tables.methods.lookup node.id = some r := by
    rw [← gives_modify.mp hset] at hr
    rw [← hr]
    exact ((checkArgs_extends hargs).tables.methods node.id
      (not_among fun y hy => hnode y (List.mem_append_right _ hy))).symm
  -- the call was resolved with this method, or not at all
  rcases hgiven with ⟨r', params', -, hresolves, hparams', hwants⟩ | ⟨hextends, -⟩
  · obtain rfl := Option.some.inj (hmethod.symm.trans hresolves.method)
    obtain rfl := Except.ok.inj (hparams.symm.trans hparams')
    exact (checkArgs_accepts hwants hda hargs hclean₃).outward
      (fun y hy => List.mem_append_right _ hy) hd hset (ht.mono (fun _ => id) fun _ => False.elim)
  · -- a call that is not resolved files no method, and nothing was filed before
    have hnone : s₂.tables.methods.lookup node.id = none :=
      calc
        _ = s₁.tables.methods.lookup node.id := hextends.tables.methods node.id id
        _ = _ := (checkExpr_extends hreceiver).tables.methods node.id
          (not_among fun y hy => hnode y (List.mem_append_left _ hy))
        _ = none := hf.methods node.id (among_of_mem hself)
    nomatch hmethod.symm.trans hnone

/-- **The body of a closure** is accepted where a result is expected. -/
theorem CleanAs.closure {params : List Param} {ret : Option TypeExpr}
    (h : CleanAs c (.closure node params ret x) want type t)
    (hd : Distinct (Expr.closure node params ret x).walk) :
    ∃ signature u, expectedSignature want params.length = .ok signature ∧
      Accepted c x ((writtenType c ret).or (signature.map Prod.snd)) u t := by
  obtain ⟨hg, hclean, ht⟩ := h
  obtain @⟨signature, result, bodyType, _, s₁, s₂, s₃, s₄, s₅, hsignature, -, hresult, hchecks,
    hcoerces, hreads, -, hset⟩ := checkExpr_closure_run hg
  obtain rfl := writtenOr_answer hresult
  have hclean₅ := (diagnostics_setType hset).symm.trans hclean
  -- reading the parameters and closing the scope file nothing for the body
  have hafter : Extends Nowhere Nowhere s₄ { s₅ with scopes := s₅.scopes.drop 1 } :=
    ((Confined.mapM fun p _ => paramType_confined p).grows hreads).trans (.rescope s₅ _)
  obtain ⟨hchecked, hfits⟩ := accepted_of_gives hchecks hcoerces hafter (fun _ _ => id) hclean₅
  exact ⟨signature, bodyType, hsignature, hchecked.outward (fun _ => id) hd hset ht, hfits⟩

/-- **The value of a `let`** is accepted where a type is written. -/
theorem StmtChecked.value {pattern : Pattern} {written : TypeExpr}
    (h : StmtChecked c (.letStmt node pattern (some written) x) s) (hclean : s.diagnostics = []) :
    ∃ u, Accepted c x (some (resolveType c.scope written).1) u s.tables := by
  obtain ⟨hg, hgrows⟩ := h
  rw [checkStmt_letStmt] at hg
  obtain ⟨_, s₁, hwritten, hg⟩ := gives_bind.mp hg
  obtain ⟨u, s₂, hchecks, hg⟩ := gives_bind.mp hg
  obtain ⟨_, s₃, hcoerces, hbinds⟩ := gives_bind.mp hg
  obtain rfl := writtenOr_answer hwritten
  have hafter : Extends (¬ Among x.walk ·) (fun _ => True) s₃ _ :=
    ((bindPattern_confined (I := Nowhere) (J := Nowhere) _ _).grows hbinds).mono
      (fun _ => False.elim) fun _ => False.elim
  exact ⟨u, accepted_of_gives hchecks hcoerces (hafter.trans hgrows)
    (fun y hy h => h (among_of_mem hy)) hclean⟩

/-! ### The type of a closure -/

variable {ps : List Param} {p : Param} {es : List (Option Ty)} {us : List Ty} {u : Ty} {i : Nat}

/-- A parameter that is a name is bound to what is expected there, if no type is written and no
other parameter has the name. -/
theorem lookup_of_bindParams {new : Scope} {n : Node} {isMut : Bool} {name : String}
    (hnew : Pushes new (bindParams c ps es)) (hnames : (paramNames ps).Nodup) (hp : ps[i]? = some p)
    (hpattern : p.pattern = .binding n isMut name) (hdeclared : p.declared = none) :
    new.lookup name = some ((es[i]?).getD none) := by
  induction ps generalizing new es i with
  | nil => nomatch hp
  | cons q ps ih =>
    obtain ⟨type, first, s, ht, hfirst, hrest⟩ :=
      bindParams_cons_pushes (hnew { scopes := [[]] } [] [] rfl) rfl
    obtain ⟨others, hothers⟩ := bindParams_pushes hrest rfl
    obtain rfl := hnew.unique (pushes_bindParams_cons ht hfirst hothers)
    obtain ⟨-, hnodup, hdisjoint⟩ := List.nodup_append.mp hnames
    rw [List.lookup_append]
    -- it is the first parameter, or one behind it, whose name stands in front
    cases i with
    | zero =>
      obtain rfl := Option.some.inj hp
      have hmem : name ∈ q.pattern.names := by rw [hpattern]; exact .head _
      rw [hpattern] at hfirst
      -- the names differ, so no later parameter hides this one
      obtain rfl := hfirst.unique (pushes_binding _ _ _ _)
      have hnone : others.lookup name = none := by
        refine Option.not_isSome_iff_eq_none.mp fun h => ?_
        exact hdisjoint name hmem name ((hothers.names name).mp (isSome_lookup_iff.mp h)) rfl
      rw [hdeclared] at ht
      obtain ⟨htype, -⟩ := gives_pure.mp (ht s)
      rw [hnone, Option.none_or, List.lookup_cons_self, ← htype, List.head?_eq_getElem?]
    | succ i =>
      have hlookup := ih hothers hnodup hp
      rw [List.getElem?_tail] at hlookup
      rw [hlookup, Option.some_or]

/-- What is expected of a closure where a function with as many parameters is expected. -/
theorem signature_of_kind {signature : Option (List Ty × Ty)} (hk : u.kind = .function)
    (hus : u.fnParams = .ok us) (h : expectedSignature (some u) us.length = .ok signature) :
    ∃ r, u.fnRet = .ok r ∧ signature = some (us, r) := by
  unfold expectedSignature at h
  rw [Option.filter_some, if_pos (decide_eq_true hk)] at h
  dsimp only at h
  rw [hus] at h
  obtain ⟨r, hr, h⟩ := bind_eq_ok.mp ((if_pos rfl).symm.trans h)
  exact ⟨r, hr, (pure_eq_ok.mp h).symm⟩

/-- A closure is a function with as many parameters. -/
theorem CleanAs.arity {ret : Option TypeExpr} {body : Expr}
    (h : CleanAs c (.closure node ps ret body) want type t) :
    ∃ types, type.fnParams = .ok types ∧ types.length = ps.length := by
  obtain ⟨hg, -, -⟩ := h
  obtain ⟨-, -, -, -, -, hreads, rfl, -⟩ := checkExpr_closure_run hg
  exact ⟨_, Ty.fnParams_function .., length_of_gives_mapM hreads⟩

/-- **The type of a closure** where a function with as many parameters is expected. A parameter
without a written type has the expected type, or is unknown. A result that is not written is the
expected one. -/
theorem CleanAs.closureType {ret : Option TypeExpr} {body : Expr}
    (h : CleanAs c (.closure node ps ret body) (some u) type t) (hk : u.kind = .function)
    (hus : u.fnParams = .ok us) (hlength : us.length = ps.length) (hnames : (paramNames ps).Nodup) :
    ∃ types result r, type = .function types result false ∧ u.fnRet = .ok r ∧
      (ret = none → result = r) ∧
      ∀ (i : Nat) (p : Param), ps[i]? = some p → p.declared = none →
        types[i]? = us[i]? ∨ types[i]? = some .unknown := by
  obtain ⟨hg, hclean, -⟩ := h
  rw [checkExpr_closure] at hg
  obtain ⟨s₂, hinside, hset⟩ := gives_filed.mp hg
  obtain ⟨signature, hsignature, hscope⟩ := gives_lift_bind.mp hinside
  have hclean₂ := (diagnostics_setType hset).symm.trans hclean
  -- a function type with as many parameters is what gives the signature
  obtain ⟨r, hr, rfl⟩ := signature_of_kind hk hus (hlength ▸ hsignature)
  obtain ⟨new, result, types, s₁, hnew, hresult, htypes, rfl, rfl⟩ :=
    (gives_closure hclean₂).mp hscope
  refine ⟨types, result, r, rfl, hr, ?_, fun i p hp hdeclared => ?_⟩
  -- without a written result, the expected one is the answer
  · rintro rfl
    obtain ⟨want, s₃, hwant, hrest⟩ := gives_bind.mp hresult
    obtain ⟨rfl, -⟩ := gives_pure.mp hwant
    obtain ⟨_, s₄, -, hrest⟩ := gives_bind.mp hrest
    obtain ⟨_, -, rfl⟩ := gives_bind_pure.mp hrest
    rfl
  · obtain ⟨hi, rfl⟩ := List.getElem?_eq_some_iff.mp hp
    have hi' : i < types.length := htypes.length_eq ▸ hi
    have htype : HasType c s₁.scopes ps[i] types[i] := htypes.get hi hi'
    rw [List.getElem?_eq_getElem hi', List.getElem?_eq_getElem (hlength ▸ hi)]
    cases hpattern : ps[i].pattern with
    | binding _ _ name =>
      -- what is decided on at the start is so in the end
      have hstart := lookup_of_bindParams hnew hnames hp hpattern hdeclared
      rw [Option.map_some, Option.getD_some, List.getElem?_map,
        List.getElem?_eq_getElem (hlength ▸ hi)] at hstart
      have hforesees : Foresees (fun _ => none) (closureResult c ret body (some r)) :=
        closureResult_foresees (checkExpr_foresees body)
      have hlater := hforesees.later hresult
      obtain ⟨f, rest, hf, -, hscopes⟩ := List.forall₂_cons_left_iff.mp hlater
      have hdecided : decidedType? s₁.scopes ps[i].pattern = some us[i] := by
        rw [hpattern, hscopes, decidedType?, lookupLocal_cons, (hf name).2 _ hstart]
        rfl
      exact .inl (congrArg some (htype.decided hdecided).symm)
    -- a pattern that is no name has no type of its own
    | tuple | ref | wildcard =>
      have hundecided : decidedType? s₁.scopes ps[i].pattern = none := by rw [hpattern]; rfl
      exact .inr (congrArg some (htype.unique (hasType_undecided hundecided hdeclared)).symm)

end ClosureLint.Typing
