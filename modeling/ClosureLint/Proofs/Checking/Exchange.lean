import ClosureLint.Proofs.Checking.Around
import ClosureLint.Proofs.EtaLaw
import ClosureLint.Proofs.Types.Parts

/-!
# What a closure calls, checked in its place

A closure that hands its parameters on to a path leaves the scopes around it alone, and where it is
accepted the path is accepted as well. So a body in which the path stands in its place is checked in
the same way everywhere else.

* `checkGlobal_again` — a path that means a declaration means it everywhere.
* `fit_again` — a function fits where a closure with as many parameters does.
* `Settled` — what is known in the end about the path.
* `Exchanges` — a step goes with another one, in which the path stands in the place of the closure.
* `checkArg_exchanges` — the argument itself.
-/

namespace ClosureLint.Typing

open ClosureLint.Core
open ClosureLint.Eta (Forwards)
open ClosureLint.Syntax (Path TypeExpr)

variable {P : NodeId → NodeId → Prop} {c : Context} {s s' s₁ s₂ : State} {α β : Type}
  {segments : Path} {t : Ty} {expected : Option Ty}

/-! ### The path -/

/-- The state after a path was found to mean a declaration. -/
def State.withPath (s : State) (id : NodeId) (d : Decl) : State :=
  { s with tables := { s.tables with paths := (id, d) :: s.tables.paths } }

theorem gives_setPath {id : NodeId} {d : Decl} (t : Ty) :
    Gives (do setPath id d; return t) s t (s.withPath id d) :=
  gives_bind.mpr ⟨(), _, gives_modify.mpr rfl, gives_pure.mpr ⟨rfl, rfl⟩⟩

/-- **A path that means a declaration** means it at every node and in every state. -/
theorem checkGlobal_again {n : Node} (h : Gives (checkGlobal c n segments) s t s')
    (hclean : s'.diagnostics = []) : ∃ d, s' = s.withPath n.id d ∧
      ∀ (n : Node) (s : State), Gives (checkGlobal c n segments) s t (s.withPath n.id d) := by
  unfold checkGlobal at h ⊢
  split at h
  · next d _ =>
    obtain ⟨_, h₁, rfl⟩ := gives_bind_pure.mp h
    exact ⟨d, (gives_modify.mp h₁).symm, fun _ _ => gives_setPath _⟩
  · split at h
    · obtain ⟨_, h₁, -⟩ := gives_bind_pure.mp h
      -- a name that means nothing is reported
      exact (not_clean_report h₁ hclean).elim
    · next hlength =>
      simp only [if_neg hlength]
      unfold checkAssociated at h ⊢
      dsimp only at h ⊢
      generalize (if (ownerType? c segments.dropLast).isSome then none
        else c.registry.findTrait? segments.dropLast) = traitPath at h ⊢
      generalize ownerType? c segments.dropLast = owner at h ⊢
      split at h
      · obtain ⟨_, h₁, -⟩ := gives_bind_pure.mp h
        exact (not_clean_report h₁ hclean).elim
      · next hknown =>
        simp only [if_neg hknown]
        split at h
        · next d hd =>
          obtain ⟨_, h₁, rfl⟩ := gives_bind_pure.mp h
          exact ⟨d, (gives_modify.mp h₁).symm, fun _ _ => gives_setPath _⟩
        · obtain ⟨_, h₁, -⟩ := gives_bind_pure.mp h
          exact (not_clean_report h₁ hclean).elim
        · exact absurd h not_gives_throw

/-- A path that is filed as a declaration spells no local. -/
theorem checkPath_global {n : Node} (h : Gives (checkPath c n segments expected) s t s')
    (hbefore : s.tables.paths.lookup n.id = none) (hafter : s'.tables.paths.lookup n.id ≠ none) :
    (∀ name, segments = [name] → lookupLocal s.scopes name = none) ∧
      Gives (checkGlobal c n segments) s t s' := by
  have hlocal : ∀ name, segments = [name] → lookupLocal s.scopes name = none := by
    rintro name rfl
    refine Option.not_isSome_iff_eq_none.mp fun hsome => hafter ?_
    -- a local would leave the path without a meaning
    rw [checkPath_local hsome h, hbefore]
  refine ⟨hlocal, ?_⟩
  unfold checkPath at h
  split at h
  · next name =>
    have h := gives_get_bind.mp h
    rwa [hlocal name rfl] at h
  · exact h

/-- A path that spells no local is looked up among the declarations. -/
theorem checkPath_eq_global {n : Node}
    (h : ∀ name, segments = [name] → lookupLocal s.scopes name = none)
    (hg : Gives (checkGlobal c n segments) s t s') :
    Gives (checkPath c n segments expected) s t s' := by
  unfold checkPath
  split
  · next name =>
    refine gives_bind.mpr ⟨s, s, gives_get.mpr ⟨rfl, rfl⟩, ?_⟩
    rwa [h name rfl]
  · exact hg

/-! ### Whether it fits -/

/-- What is accepted instead of a closure of `n` parameters: a function with as many that is not
unsafe, or what could not be typed. -/
def Replaces (n : Nat) (t : Ty) : Prop :=
  t.kind = .unknown ∨ t.kind = .function ∧ t.isUnsafe = false ∧
    ∃ params, t.fnParams = .ok params ∧ params.length = n

variable {targets : DerefTable}

/-- A function that is not unsafe fits where one with as many parameters is expected. -/
theorem fit_function {e : Ty} {ps qs : List Ty} (ht : t.kind = .function)
    (hsafe : t.isUnsafe = false) (hps : t.fnParams = .ok ps) (he : e.kind = .function)
    (hqs : e.fnParams = .ok qs) (hlength : ps.length = qs.length) :
    ∃ f, fit targets t e = .ok f ∧ f ≠ .mismatch := by
  unfold fit
  split
  · exact ⟨.exact, rfl, nofun⟩
  · have href : isRefCoercion targets t e = .ok false := if_pos (.inl (by rw [ht]; decide))
    have hunsafe : (e.isUnsafe || !t.isUnsafe) = true := by rw [hsafe, Bool.not_false, Bool.or_true]
    rw [href, hps, hqs]
    refine ⟨if t.isUnsafe = e.isUnsafe then .exact else .adjusted, ?_, ?_⟩
    · exact (if_pos ⟨ht, he⟩).trans (if_pos ⟨hlength, hunsafe⟩)
    · split <;> exact nofun

/-- **Where a closure fits, so does what replaces it.** -/
theorem fit_again {params : List Ty} {ret e : Ty} {f : Fit}
    (h : fit targets (.function params ret false) e = .ok f) (hf : f ≠ .mismatch)
    (ht : Replaces params.length t) : ∃ f', fit targets t e = .ok f' ∧ f' ≠ .mismatch := by
  have hexact (hlenient : (e.isLenient || t.isLenient || t == e) = true) :
      ∃ f', fit targets t e = .ok f' ∧ f' ≠ .mismatch :=
    ⟨.exact, by rw [fit, if_pos hlenient]; rfl, nofun⟩
  rcases ht with hunknown | ⟨hkind, hsafe, ps, hps, hlength⟩
  · -- what could not be typed is accepted everywhere
    refine hexact ?_
    rw [show t.isLenient = true by rw [Ty.isLenient, hunknown]; rfl, Bool.or_true, Bool.true_or]
  cases hlenient : e.isLenient with
  | true => exact hexact (by rw [hlenient, Bool.true_or, Bool.true_or])
  | false =>
    -- a closure fits only where a function with as many parameters is expected
    have hfunction : e.kind = .function ∧ ∃ qs, e.fnParams = .ok qs ∧ params.length = qs.length := by
      -- a function is no reference
      have href : isRefCoercion targets (.function params ret false) e = .ok false :=
        if_pos (.inl nofun)
      unfold fit at h
      rw [hlenient, href, Ty.fnParams_function] at h
      split at h
      · next hsame =>
        obtain rfl : Ty.function params ret false = e := eq_of_beq hsame
        exact ⟨rfl, params, Ty.fnParams_function .., rfl⟩
      · change (if _ then _ else _) = _ at h
        split at h
        · next hkinds =>
          obtain ⟨_, hparams, h⟩ := bind_eq_ok.mp h
          obtain rfl := Except.ok.inj hparams
          obtain ⟨qs, hqs, h⟩ := bind_eq_ok.mp h
          split at h
          · next hboth => exact ⟨hkinds.2, qs, hqs, hboth.1⟩
          · exact absurd (pure_eq_ok.mp h).symm hf
        · exact absurd (pure_eq_ok.mp h).symm hf
    obtain ⟨he, qs, hqs, heq⟩ := hfunction
    exact fit_function hkind hsafe hps he hqs (hlength.trans heq)

/-! ### The scopes around the closure -/

/-- On the way from `s` to `s'` locals of the innermost scope may be decided on, and nothing else
becomes of the scopes. -/
def Inner (s s' : State) : Prop := ∀ scope rest, s.scopes = scope :: rest →
  ∃ scope', s'.scopes = scope' :: rest ∧ scope'.map Prod.fst = scope.map Prod.fst

theorem Inner.of_scopes (h : s'.scopes = s.scopes) : Inner s s' := fun scope _ hs =>
  ⟨scope, h.trans hs, rfl⟩

theorem Inner.trans (h : Inner s s₁) (h' : Inner s₁ s₂) : Inner s s₂ := fun scope rest hs => by
  obtain ⟨scope₁, hs₁, hn₁⟩ := h scope rest hs
  obtain ⟨scope₂, hs₂, hn₂⟩ := h' scope₁ rest hs₁
  exact ⟨scope₂, hs₂, hn₂.trans hn₁⟩

/-- The name is one of the innermost scope. -/
def Bound (s : State) (name : String) : Prop :=
  ∃ scope rest, s.scopes = scope :: rest ∧ name ∈ scope.map Prod.fst

theorem Bound.inner {name : String} (h : Bound s name) (hi : Inner s s') : Bound s' name := by
  obtain ⟨scope, rest, hs, hname⟩ := h
  obtain ⟨scope', hs', hn⟩ := hi scope rest hs
  exact ⟨scope', rest, hs', hn ▸ hname⟩

theorem decideLocal_inner {name : String} (h : Bound s name) (t : Ty) :
    Inner s { s with scopes := decideLocal name t s.scopes } := by
  obtain ⟨scope, rest, hs, hname⟩ := h
  intro scope' rest' hs'
  obtain ⟨rfl, rfl⟩ := List.cons.inj (hs.symm.trans hs')
  refine ⟨decideIn name t scope, ?_, names_decideIn ..⟩
  change decideLocal name t s.scopes = _
  rw [hs, decideLocal, if_pos (isSome_lookup_iff.mpr hname)]

theorem checkPath_inner {n : Node} {name : String} (h : Bound s name)
    (hg : Gives (checkPath c n [name] expected) s t s') : Inner s s' := by
  have hsome : (lookupLocal s.scopes name).isSome := by
    obtain ⟨scope, rest, hs, hname⟩ := h
    exact hs ▸ lookupLocal_of_mem hname
  have hg := gives_get_bind.mp hg
  obtain ⟨l, hl⟩ := Option.isSome_iff_exists.mp hsome
  rw [hl] at hg
  -- the local has a type, or it is decided on where it stands
  cases l with
  | some type => exact .of_scopes (by rw [(gives_pure.mp hg).2])
  | none =>
    change Gives (decideType n name expected) s t s' at hg
    unfold decideType at hg
    split at hg
    · obtain ⟨_, s₁, h₁, hg⟩ := gives_bind.mp hg
      rw [← (gives_pure.mp hg).2, ← gives_modify.mp h₁]
      exact decideLocal_inner h _
    · obtain ⟨_, s₁, h₁, hg⟩ := gives_bind.mp hg
      obtain ⟨_, s₂, h₂, hg⟩ := gives_bind.mp hg
      have hreport : Inner s s₁ := .of_scopes (report_scopes h₁)
      rw [← (gives_pure.mp hg).2, ← gives_modify.mp h₂]
      exact hreport.trans (decideLocal_inner (h.inner hreport) _)

/-- Parameters that are handed on are locals of the innermost scope. -/
theorem checkArgs_inner {params : List Param} {args : List Expr} {names : List String}
    (h : Forwards params args names) {expected : List (Option Ty)} {u : Unit}
    (hbound : ∀ x ∈ names, Bound s x) (hg : Gives (checkArgs c args expected) s u s') :
    Inner s s' := by
  induction h generalizing s expected with
  | nil => exact .of_scopes (by rw [(gives_pure.mp hg).2])
  | cons hp _ ih =>
    rw [checkArgs_cons] at hg
    obtain ⟨type, s₁, h₁, hg⟩ := gives_bind.mp hg
    obtain ⟨_, s₂, h₂, hg⟩ := gives_bind.mp hg
    rw [checkExpr_path] at h₁
    obtain ⟨s₃, hpath, hset⟩ := gives_filed.mp h₁
    -- an argument is a path, and accepting it leaves the scopes alone
    have hfirst : Inner s s₂ :=
      (checkPath_inner (hbound _ List.mem_cons_self) hpath).trans <|
        .of_scopes (by rw [coerceTo_scopes h₂, ← gives_modify.mp hset])
    exact hfirst.trans (ih (fun x hx => (hbound x (List.mem_cons_of_mem _ hx)).inner hfirst) hg)

/-! ### The closure and the path -/

/-- What is known in the end about the path, whose node is `i`: it means a declaration, and no
unsafe function, in a program without diagnostics. -/
structure Settled (i : NodeId) (s : State) : Prop where
  clean : s.diagnostics = []
  resolved : s.tables.paths.lookup i ≠ none
  safe : ∀ t, s.tables.types.lookup i = some t → t.isUnsafeFn = false

/-- Steps that keep to other nodes found it so. -/
theorem Settled.earlier {I J : NodeId → Prop} {i : NodeId} (h : Settled i s')
    (he : Extends I J s s') (hi : ¬ I i) : Settled i s where
  clean := he.clean h.clean
  resolved := he.tables.paths i hi ▸ h.resolved
  safe t ht := h.safe t ((he.tables.types i hi).trans ht)

/-- So it was where the results said the same already. -/
theorem Settled.of_agree {I J : NodeId → Prop} {i : NodeId} (h : Settled i s')
    (hclean : s.diagnostics = []) (hagree : Tables.Agree I J s.tables s'.tables) (hi : I i) :
    Settled i s where
  clean := hclean
  resolved := hagree.paths i hi ▸ h.resolved
  safe t ht := h.safe t ((hagree.types i hi).trans ht)

/-- The arguments of a clean call are as many as what is called has parameters, if it is known. -/
theorem callRest_replaces {n : Node} {callee : Expr} {args : List Expr} {u : Ty}
    (h : Gives (callRest c n callee args t) s u s') (hclean : s'.diagnostics = [])
    (hsafe : t.isUnsafeFn = false) : Replaces args.length t := by
  unfold callRest at h
  split at h
  · next hkind =>
    obtain ⟨params, hparams, h⟩ := gives_lift_bind.mp h
    obtain ⟨ret, -, h⟩ := gives_lift_bind.mp h
    obtain ⟨wanted, s₃, h₃, h⟩ := gives_bind.mp h
    have hclean₃ : s₃.diagnostics = [] := by
      obtain ⟨_, h₄, -⟩ := gives_bind_pure.mp h
      exact (checkArgs_extends h₄).clean hclean
    -- any other number of arguments is reported
    unfold expectedArgs at h₃
    split at h₃
    · next hlength =>
      refine .inr ⟨hkind, ?_, params, hparams, hlength.symm⟩
      simpa [Ty.isUnsafeFn, hkind] using hsafe
    · obtain ⟨_, h₄, -⟩ := gives_bind_pure.mp h₃
      exact (not_clean_report h₄ hclean₃).elim
  · split at h
    · obtain ⟨_, -, h⟩ := gives_lift_bind.mp h
      obtain ⟨_, s₂, h₂, h⟩ := gives_bind.mp h
      obtain ⟨_, h₃, -⟩ := gives_bind_pure.mp h
      exact (not_clean_report h₂ ((checkArgs_extends h₃).clean hclean)).elim
    -- what is called is unknown
    · next hkind => exact .inl (Decidable.not_not.mp hkind)

theorem callRest_inner {n : Node} {callee : Expr} {params : List Param} {args : List Expr}
    {names : List String} {u : Ty} (hfw : Forwards params args names)
    (hbound : ∀ x ∈ names, Bound s x) (h : Gives (callRest c n callee args t) s u s') :
    Inner s s' := by
  -- comparing the numbers of arguments and parameters decides on no local
  have hwanted {callable : String} {given : Nat} {params : List Ty} {s s' : State}
      {wanted : List (Option Ty)} (h : Gives (expectedArgs callable n given params) s wanted s') :
      s'.scopes = s.scopes := by
    unfold expectedArgs at h
    split at h
    · rw [(gives_pure.mp h).2]
    · obtain ⟨_, s₁, h₁, h⟩ := gives_bind.mp h
      rw [← (gives_pure.mp h).2, report_scopes h₁]
  unfold callRest at h
  split at h
  · obtain ⟨params, -, h⟩ := gives_lift_bind.mp h
    obtain ⟨ret, -, h⟩ := gives_lift_bind.mp h
    obtain ⟨wanted, s₃, h₃, h⟩ := gives_bind.mp h
    obtain ⟨_, h₄, -⟩ := gives_bind_pure.mp h
    have hstart : Inner s s₃ := .of_scopes (hwanted h₃)
    exact hstart.trans (checkArgs_inner hfw (fun x hx => (hbound x hx).inner hstart) h₄)
  · split at h
    · obtain ⟨_, -, h⟩ := gives_lift_bind.mp h
      obtain ⟨_, s₂, h₂, h⟩ := gives_bind.mp h
      obtain ⟨_, h₃, -⟩ := gives_bind_pure.mp h
      have hstart : Inner s s₂ := .of_scopes (report_scopes h₂)
      exact hstart.trans (checkArgs_inner hfw (fun x hx => (hbound x hx).inner hstart) h₃)
    · obtain ⟨_, h₁, -⟩ := gives_bind_pure.mp h
      exact checkArgs_inner hfw hbound h₁

/-- **The check of a closure that hands its parameters on to a path**: the path means a declaration
wherever it stands, the scopes around the closure stay as they are, and what the path means can
replace the closure. -/
theorem checkExpr_forwarding {node call n : Node} {params : List Param} {ret : Option TypeExpr}
    {args : List Expr} {names : List String} (hfw : Forwards params args names)
    (hd : Distinct (Expr.closure node params ret (.call call (.path n segments) args)).walk)
    (h : Gives (checkExpr c (.closure node params ret (.call call (.path n segments) args)) expected)
      s t s')
    (hbefore : s.tables.paths.lookup n.id = none) (hafter : Settled n.id s') :
    (∀ name, segments = [name] → ¬ Knows s name) ∧ s'.scopes = s.scopes ∧
      ∃ (type : Ty) (d : Decl) (ps : List Ty) (r : Ty), t = .function ps r false ∧
        Replaces ps.length type ∧
        ∀ (n : Node) (s : State), Gives (checkGlobal c n segments) s type (s.withPath n.id d) := by
  cases checkExpr_closure_run h with
  | @intro signature wanted result ps b₁ b₂ b₃ b₄ b₅ _ hbinds hret hbody hcoerce hreads htype hfiles =>
  rw [checkExpr_call] at hbody
  obtain ⟨s₃, hcall, hset⟩ := gives_filed.mp hbody
  obtain ⟨type, s₂, hcallee, hrest⟩ := gives_bind.mp hcall
  rw [checkExpr_path] at hcallee
  obtain ⟨s₁, hpath, hsettype⟩ := gives_filed.mp hcallee
  -- no other node of the closure is that of the path
  obtain ⟨hd₀, hd⟩ := List.pairwise_cons.mp hd
  obtain ⟨hd₁, hd⟩ := List.pairwise_cons.mp hd
  obtain ⟨hd₂, -⟩ := List.pairwise_cons.mp hd
  have hnode : node.id ≠ n.id := hd₀ _ (List.mem_cons_of_mem _ List.mem_cons_self)
  have hcallid : call.id ≠ n.id := hd₁ _ List.mem_cons_self
  have hbehind : Extends (· ≠ n.id) (fun _ => True) s₃ b₅ := by
    have hfile : Extends (· ≠ n.id) (fun _ => True) s₃ b₃ :=
      (setType_confined (I := (· ≠ n.id)) hcallid _).grows hset
    have hco : Extends (· ≠ n.id) (fun _ => True) b₃ b₄ :=
      (coerceTo_confined trivial _ _).grows hcoerce
    exact (hfile.trans hco).trans ((Confined.mapM fun p _ => paramType_confined p).grows hreads)
  -- all that comes after the arguments files elsewhere
  have hlater₃ : Extends (· ≠ n.id) (fun _ => True) s₃ s' :=
    (hbehind.trans (.rescope b₅ _)).trans
      ((setType_confined (I := (· ≠ n.id)) hnode _).grows hfiles)
  have hlater : Extends (· ≠ n.id) (fun _ => True) s₂ s' :=
    ((callRest_confined fun expected => checkArgs_confined args expected fun y hy =>
      ⟨fun he => hd₂ y hy he.symm, trivial⟩).grows hrest).trans hlater₃
  have hsettled : Settled n.id s₂ := hafter.earlier hlater fun h => h rfl
  have hextends : Extends Nowhere Nowhere s b₂ := ((Extends.rescope s _).trans
    ((bindParams_confined _ _).grows hbinds)).trans ((writtenOr_confined _ _).grows hret)
  -- so the path was found to mean a declaration
  have hstart : b₂.tables.paths.lookup n.id = none := by rw [hextends.tables.paths n.id id, hbefore]
  obtain rfl := gives_modify.mp hsettype
  obtain ⟨hlocal, hglobal⟩ := checkPath_global hpath hstart hsettled.resolved
  obtain ⟨d, rfl, hagain⟩ := checkGlobal_again hglobal hsettled.clean
  have hsafe : type.isUnsafeFn = false := hsettled.safe type List.lookup_cons_self
  have hreplaces := callRest_replaces hrest (hlater₃.clean hafter.clean) hsafe
  -- what becomes of the scopes
  obtain ⟨new, hnew, hnames⟩ := bindParams_binds hbinds [] s.scopes rfl
  have hscopes : b₂.scopes = (new ++ []) :: s.scopes := (writtenOr_scopes hret).trans hnew
  refine ⟨fun name hname hknows => ?_, ?_, type, d, ps, _, htype, ?_, hagain⟩
  · have hb₂ : Knows b₂ name := by
      obtain ⟨names, hmem, hname⟩ := hknows
      refine ⟨names, ?_, hname⟩
      rw [State.names, hscopes]
      exact List.mem_cons_of_mem _ hmem
    have hsome := knows_iff.mp hb₂
    rw [hlocal name hname] at hsome
    exact absurd hsome Bool.false_ne_true
  · have hbound : ∀ x ∈ names, Bound { b₂.withPath n.id d with
        tables := { (b₂.withPath n.id d).tables with
          types := (n.id, type) :: (b₂.withPath n.id d).tables.types } } x := fun x hx =>
      ⟨new ++ [], s.scopes, hscopes, by
        rw [List.append_nil, hnames, hfw.paramNames_eq]
        exact hx⟩
    obtain ⟨scope, hs₃, -⟩ := callRest_inner hfw hbound hrest _ _ hscopes
    rw [← gives_modify.mp hfiles]
    change b₅.scopes.drop 1 = s.scopes
    rw [paramTypes_scopes hreads, coerceTo_scopes hcoerce, ← gives_modify.mp hset]
    change s₃.scopes.drop 1 = s.scopes
    rw [hs₃]
    rfl
  · rwa [length_of_gives_mapM hreads, ← hfw.length_args]

/-! ### Around the closure -/

/-- What `m` does from a state, `m'` does from any state that matches, provided that nothing has been
filed for the path before, and that the path is settled in the end. Then it spells no local. -/
structure Exchanges (P : NodeId → NodeId → Prop) (n : Node) (segments : Path) (m m' : Check α) :
    Prop where
  runs : ∀ {s a s₁ s'}, Gives m s a s₁ → s.tables.paths.lookup n.id = none → Settled n.id s₁ →
    Matches P s s' → ∃ s₁', Gives m' s' a s₁' ∧ Matches P s₁ s₁'
  global : ∀ {s a s₁}, Gives m s a s₁ → s.tables.paths.lookup n.id = none → Settled n.id s₁ →
    ∀ name, segments = [name] → ¬ Knows s name

/-- It can be said of steps that hold such steps. -/
theorem Exchanges.spreads {n : Node} (hn : ¬ Paired P n.id) : Spreads P (Exchanges P n segments) where
  -- the steps in front run alike, and the exchange is in those behind
  after hm hf := by
    refine ⟨fun h hs hs₁ hmatch => ?_, fun h hs hs₁ name hname hknows => ?_⟩
    · obtain ⟨a, s₂, h₁, h₂⟩ := gives_bind.mp h
      obtain ⟨s₂', h₁', hmatch₂⟩ := hm.runs h₁ hmatch
      have hs₂ := (hm.confined.grows h₁).tables.paths n.id hn
      obtain ⟨s₁', h₂', hmatch₁⟩ := (hf a).runs h₂ (hs₂.trans hs) hs₁ hmatch₂
      exact ⟨s₁', gives_bind.mpr ⟨a, s₂', h₁', h₂'⟩, hmatch₁⟩
    · obtain ⟨a, s₂, h₁, h₂⟩ := gives_bind.mp h
      have hs₂ := (hm.confined.grows h₁).tables.paths n.id hn
      exact (hf a).global h₂ (hs₂.trans hs) hs₁ name hname ((hm.deepens h₁).knows hknows)
  -- the exchange is in the steps in front, and those behind run alike
  before hm hf := by
    refine ⟨fun h hs hs₁ hmatch => ?_, fun h hs hs₁ => ?_⟩
    · obtain ⟨a, s₂, h₁, h₂⟩ := gives_bind.mp h
      have hs₂ := hs₁.earlier ((hf a).confined.grows h₂) hn
      obtain ⟨s₂', h₁', hmatch₂⟩ := hm.runs h₁ hs hs₂ hmatch
      obtain ⟨s₁', h₂', hmatch₁⟩ := (hf a).runs h₂ hmatch₂
      exact ⟨s₁', gives_bind.mpr ⟨a, s₂', h₁', h₂'⟩, hmatch₁⟩
    · obtain ⟨a, s₂, h₁, h₂⟩ := gives_bind.mp h
      exact hm.global h₁ hs (hs₁.earlier ((hf a).confined.grows h₂) hn)
  scope hm := by
    refine ⟨fun h hs hs₁ hmatch => ?_, fun h hs hs₁ name hname hknows => ?_⟩
    · obtain ⟨s₂, h₂, rfl⟩ := gives_inScope.mp h
      obtain ⟨s₂', h₂', hmatch₂⟩ := hm.runs h₂ hs ⟨hs₁.clean, hs₁.resolved, hs₁.safe⟩
        (hmatch.rescope fun scopes => [] :: scopes)
      exact ⟨_, gives_inScope.mpr ⟨s₂', h₂', rfl⟩, hmatch₂.rescope fun scopes => scopes.drop 1⟩
    · obtain ⟨s₂, h₂, rfl⟩ := gives_inScope.mp h
      obtain ⟨names, hmem, hnames⟩ := hknows
      exact hm.global h₂ hs ⟨hs₁.clean, hs₁.resolved, hs₁.safe⟩ name hname
        ⟨names, List.mem_cons_of_mem _ hmem, hnames⟩
  throw _ := ⟨fun h => absurd h not_gives_throw, fun h => absurd h not_gives_throw⟩

/-- The results for paired nodes are the same after each side has filed something for others. -/
theorem Matches.apart {I J I' J' : NodeId → Prop} (h : Matches P s s') (he : Extends I J s s₁)
    (he' : Extends I' J' s' s₂) (hscopes : s₁.scopes = s.scopes) (hscopes' : s₂.scopes = s'.scopes)
    (hd : s₁.diagnostics = s.diagnostics) (hd' : s₂.diagnostics = s'.diagnostics)
    (hP : ∀ i j, P i j → ¬ I i ∧ ¬ J i ∧ ¬ I' j ∧ ¬ J' j) : Matches P s₁ s₂ where
  scopes := by rw [hscopes', h.scopes, hscopes]
  diagnostics := by rw [hd', h.diagnostics, hd]
  tables := by
    obtain ⟨ht, hm, hp, ha⟩ := h.tables
    refine ⟨fun i j hij => ?_, fun i j hij => ?_, fun i j hij => ?_, fun i j hij => ?_⟩
    all_goals obtain ⟨hi, hji, hi', hj'⟩ := hP i j hij
    · rw [he'.tables.types j hi', ht i j hij, he.tables.types i hi]
    · rw [he'.tables.methods j hi', hm i j hij, he.tables.methods i hi]
    · rw [he'.tables.paths j hi', hp i j hij, he.tables.paths i hi]
    · rw [he'.tables.adjusted j hj', ha i j hij, he.tables.adjusted i hji]

/-- **Where a closure is accepted, so is what replaces it**, and nothing is reported. -/
theorem coerceTo_again {e : Expr} {params : List Ty} {ret : Ty} {u : Unit}
    (h : Gives (coerceTo c e (.function params ret false) expected) s u s₁)
    (hclean : s₁.diagnostics = []) (ht : Replaces params.length t) (e' : Expr) (s' : State) :
    ∃ s₁', Gives (coerceTo c e' t expected) s' () s₁' ∧ s₁'.diagnostics = s'.diagnostics := by
  cases expected with
  | none => exact ⟨s', gives_pure.mpr ⟨rfl, rfl⟩, rfl⟩
  | some wanted =>
    obtain ⟨f, hf, h⟩ := gives_lift_bind.mp h
    -- a mismatch would have been reported
    have hne : f ≠ .mismatch := by
      rintro rfl
      obtain ⟨_, s₃, h₃, h⟩ := gives_bind.mp h
      obtain ⟨_, s₄, h₄, h⟩ := gives_bind.mp h
      exact not_clean_report h hclean
    obtain ⟨f', hf', hne'⟩ := fit_again hf hne ht
    cases f' with
    | mismatch => exact absurd rfl hne'
    | exact =>
      exact ⟨s', gives_bind.mpr ⟨.exact, s', gives_lift.mpr ⟨hf', rfl⟩, gives_pure.mpr ⟨rfl, rfl⟩⟩, rfl⟩
    | adjusted =>
      exact ⟨_, gives_bind.mpr ⟨.adjusted, s', gives_lift.mpr ⟨hf', rfl⟩, gives_modify.mpr rfl⟩, rfl⟩

/-- **The argument itself**: the path in the place of the closure. -/
theorem checkArg_exchanges {node call n n' : Node} {params : List Param} {ret : Option TypeExpr}
    {args : List Expr} {names : List String} (hfw : Forwards params args names) {x : Expr}
    (hx : x = .closure node params ret (.call call (.path n segments) args))
    (hd : Distinct x.walk) (hP : ∀ i j, P i j → ¬ Among x.walk i ∧ j ≠ n'.id)
    (expected : Option Ty) :
    Exchanges P n segments (checkArg c x expected) (checkArg c (.path n' segments) expected) where
  runs {s a s₁ s'} h hs hs₁ hmatch := by
    obtain ⟨type, s₂, hcheck, hco⟩ := gives_bind.mp h
    have hs₂ : Settled n.id s₂ := hs₁.earlier (coerceTo_extends hco) id
    obtain ⟨hlocal, hscopes, type', d, ps, r, rfl, hreplaces, hagain⟩ :=
      checkExpr_forwarding hfw (hx ▸ hd) (hx ▸ hcheck) hs hs₂
    -- the path is found among the declarations, and accepted where the closure was
    have hpath : Gives (checkPath c n' segments expected) s' type' (s'.withPath n'.id d) := by
      refine checkPath_eq_global (fun name hname => ?_) (hagain n' s')
      refine Option.not_isSome_iff_eq_none.mp fun hsome => hlocal name hname (knows_iff.mpr ?_)
      rwa [← hmatch.scopes]
    obtain ⟨s₂', hexpr, hscopes₂, hdiagnostics₂⟩ : ∃ s₂',
        Gives (checkExpr c (.path n' segments) expected) s' type' s₂' ∧ s₂'.scopes = s'.scopes ∧
          s₂'.diagnostics = s'.diagnostics :=
      ⟨_, gives_filed.mpr ⟨_, hpath, gives_modify.mpr rfl⟩, rfl, rfl⟩
    obtain ⟨s₁', hco', hdiagnostics₁⟩ :=
      coerceTo_again hco hs₁.clean hreplaces (.path n' segments) s₂'
    refine ⟨s₁', gives_bind.mpr ⟨type', s₂', hexpr, hco'⟩, ?_⟩
    -- and each side has filed results for nodes of its own only
    have hextends : Extends (Among x.walk) (Among x.walk) s s₁ :=
      ((checkExpr_extends hcheck).mono (fun _ h => h) fun i ⟨y, hy, hi⟩ =>
        ⟨y, Expr.walk_of_inside hy, hi⟩).trans
        ((coerceTo_extends hco).mono (fun _ h => h.elim) fun i hi =>
          hi ▸ among_of_mem x.mem_walk_self)
    have hextends' : Extends (· = n'.id) (· = n'.id) s' s₁' := by
      refine ((checkExpr_extends hexpr).mono ?_ ?_).trans
        ((coerceTo_extends hco').mono (fun _ h => h.elim) fun _ h => h)
      · rintro _ ⟨y, hy, rfl⟩
        exact congrArg Expr.id (List.mem_singleton.mp hy)
      · rintro _ ⟨y, hy, rfl⟩
        nomatch hy
    have hclean : s.diagnostics = [] := hextends.clean hs₁.clean
    refine hmatch.apart hextends hextends' ?_ ?_ ?_ ?_ fun i j hij => ?_
    · rw [coerceTo_scopes hco, hscopes]
    · rw [coerceTo_scopes hco', hscopes₂]
    · rw [hs₁.clean, hclean]
    · rw [hdiagnostics₁, hdiagnostics₂]
    · obtain ⟨hi, hj⟩ := hP i j hij
      exact ⟨hi, hi, hj, hj⟩
  global {s a s₁} h hs hs₁ := by
    obtain ⟨type, s₂, hcheck, hco⟩ := gives_bind.mp h
    have hs₂ : Settled n.id s₂ := hs₁.earlier (coerceTo_extends hco) id
    exact (checkExpr_forwarding hfw (hx ▸ hd) (hx ▸ hcheck) hs hs₂).1

end ClosureLint.Typing
