import ClosureLint.Proofs.Checking.Steps
import ClosureLint.Proofs.Registry.WellMade

/-!
# The types that checking comes across

Where the declared types are types that can be written, so is every type that checking gives to an
expression or a local. Such types have all their parts, so checking never breaks off.

* `Context.Regular`, `State.Regular` — all types around are such types.
* `Yields` — a step keeps it so, and never fails.
* `checkExpr_yields`, `checkBody_yields` — the checker does.
-/

namespace ClosureLint.Typing

open ClosureLint.Core
open ClosureLint.Syntax (Path TypeExpr)

/-- The declarations of a body are made of types that can be written. -/
structure Context.Regular (names : String → Prop) (c : Context) : Prop where
  scope : c.scope.Regular names
  decls : ∀ d ∈ c.registry.decls, d.WellMade names
  targets : Ty.Regular.TargetsRegular names c.targets

/-- The types of locals and of expressions are types that can be written, and method calls mean
callables with such types. -/
structure State.Regular (names : String → Prop) (s : State) : Prop where
  scopes : ∀ scope ∈ s.scopes, ∀ l ∈ scope, ∀ t, l.2 = some t → t.Regular names
  types : ∀ e ∈ s.tables.types, e.2.Regular names
  methods : ∀ e ∈ s.tables.methods, e.2.decl.WellMade names

/-- A type, if there is one, can be written. -/
def OptRegular (names : String → Prop) (t : Option Ty) : Prop := ∀ u, t = some u → u.Regular names

/-- Where nothing is expected, nothing irregular is. -/
theorem none_regular {names : String → Prop} : OptRegular names none := nofun

/-- An expected type that can be written can be expected. -/
theorem some_regular {names : String → Prop} {t : Ty} (h : t.Regular names) :
    OptRegular names (some t) := fun _ hu => Option.some.inj hu ▸ h

/-- No arguments are expected to have an irregular type. -/
theorem nil_regular {names : String → Prop} : ∀ e ∈ ([] : List (Option Ty)), OptRegular names e :=
  fun _ he => absurd he List.not_mem_nil

/-- A type that is there in any case can be written. -/
theorem getD_regular {names : String → Prop} {o : Option Ty} {t : Ty} (ho : OptRegular names o)
    (ht : t.Regular names) : (o.getD t).Regular names := by
  cases o with
  | none => exact ht
  | some u => exact ho u rfl

/-- From a state with such types, `m` succeeds and leaves one, and its answer has the property
`P`. -/
abbrev Yields {α : Type} (names : String → Prop) (P : α → Prop) (m : Check α) : Prop :=
  Keeps (fun _ => False) (State.Regular names) P m

variable {c : Context} {names : String → Prop} {α : Type} {P : α → Prop}

/-- A scope of its own changes nothing about the types that a step comes across. -/
theorem inScope_yields {m : Check α} (h : Yields names P m) : Yields names P (inScope m) := by
  refine Keeps.bind (.modify fun s hs => ⟨?_, hs.types, hs.methods⟩) fun _ _ => h.bind fun _ ha =>
    Keeps.bind (.modify fun s hs => ⟨?_, hs.types, hs.methods⟩) fun _ _ => .pure ha
  · exact List.forall_mem_cons.mpr ⟨fun _ hl => absurd hl List.not_mem_nil, hs.scopes⟩
  · exact fun sc hsc => hs.scopes sc (List.mem_of_mem_drop hsc)

/-! ### Basic steps -/

section Steps

/-- Reporting comes across no type. -/
theorem report_yields (p : Problem) (span : Span) :
    Yields names (fun _ => True) (report p span) :=
  .modify fun _ hs => ⟨hs.scopes, hs.types, hs.methods⟩

/-- A written type resolves to a type that can be written. -/
theorem resolve_yields (hc : c.Regular names) (e : TypeExpr) :
    Yields names (Ty.Regular names) (resolve c e) := by
  refine Keeps.bind (.modify fun _ hs => ⟨hs.scopes, hs.types, hs.methods⟩) fun _ _ => .pure ?_
  exact resolveType_regular hc.scope e

/-- A type that can be written may be filed. -/
theorem setType_yields {id : NodeId} {t : Ty} (h : t.Regular names) :
    Yields names (fun _ => True) (setType id t) :=
  .modify fun _ hs => ⟨hs.scopes, List.forall_mem_cons.mpr ⟨h, hs.types⟩, hs.methods⟩

/-- Filing an adjustment files no type. -/
theorem setAdjusted_yields (id : NodeId) : Yields names (fun _ => True) (setAdjusted id) :=
  .modify fun _ hs => ⟨hs.scopes, hs.types, hs.methods⟩

/-- A method that is well made may be filed. -/
theorem setMethod_yields {id : NodeId} {r : Resolution} (h : r.decl.WellMade names) :
    Yields names (fun _ => True) (setMethod id r) :=
  .modify fun _ hs => ⟨hs.scopes, hs.types, List.forall_mem_cons.mpr ⟨h, hs.methods⟩⟩

/-- Filing a declaration under a path files no type. -/
theorem setPath_yields (id : NodeId) (d : Decl) : Yields names (fun _ => True) (setPath id d) :=
  .modify fun _ hs => ⟨hs.scopes, hs.types, hs.methods⟩

/-- What a step answers may be filed. -/
theorem filed_yields {id : NodeId} {m : Check Ty} (h : Yields names (Ty.Regular names) m) :
    Yields names (Ty.Regular names) (filed id m) :=
  h.bind fun _ ht => (setType_yields ht).bind fun _ _ => .pure ht

/-- A written type, or else the expected one, can be written. -/
theorem writtenOr_yields (hc : c.Regular names) {written : Option TypeExpr}
    {otherwise : Option Ty} (h : OptRegular names otherwise) :
    Yields names (OptRegular names) (writtenOr c written otherwise) := by
  cases written with
  | none => exact .pure h
  | some e =>
    exact (resolve_yields hc e).bind fun t ht => .pure (some_regular ht)

/-- A name may be bound to a type that can be written. -/
theorem bindName_yields {name : String} {type : Option Ty} (h : OptRegular names type) :
    Yields names (fun _ => True) (bindName name type) := by
  refine .modify fun s hs => ⟨?_, hs.types, hs.methods⟩
  unfold bindIn
  split
  · exact List.forall_mem_singleton.mpr (List.forall_mem_singleton.mpr h)
  · next sc rest he =>
    obtain ⟨hsc, hrest⟩ := List.forall_mem_cons.mp (he ▸ hs.scopes)
    exact List.forall_mem_cons.mpr ⟨List.forall_mem_cons.mpr ⟨h, hsc⟩, hrest⟩

/-- A pattern that wants a tuple never fails: the type can be named. -/
theorem reportNotTuple_yields {type : Option Ty} (h : OptRegular names type) (span : Span) :
    Yields names (fun _ => True) (reportNotTuple type span) := by
  unfold reportNotTuple
  split
  · split
    · exact .pure trivial
    · exact (Keeps.lift (h _ rfl).text).bind fun _ _ => report_yields _ _
  · exact .pure trivial

/-- What an expected reference points to can be written. -/
theorem pointee_regular {type : Option Ty} (h : OptRegular names type) :
    Succeeds (Ty.Regular names) (pointee type) := by
  unfold pointee
  split
  · split
    · next hk => exact (h _ rfl).firstPart (by rw [hk]; rfl)
    · exact .pure .unknown
  · exact .pure .unknown

/-- The parts of an expected tuple can be written. -/
theorem tupleParts_regular {type : Option Ty} {n : Nat} {ts : List Ty} (h : OptRegular names type)
    (hp : tupleParts type n = some ts) : ∀ t ∈ ts, t.Regular names := by
  unfold tupleParts at hp
  split at hp
  · split at hp
    · rw [← Option.some.inj hp]
      exact (h _ rfl).params
    · cases hp
  · cases hp

mutual

/-- A pattern is bound without a failure. -/
theorem bindPattern_yields : (p : Pattern) → {type : Option Ty} → OptRegular names type →
    Yields names (fun _ => True) (bindPattern p type)
  | .binding .., _, h => bindName_yields h
  | .tuple node elems, type, h => by
    rw [bindPattern]
    split
    · next hp => exact bindPatterns_yields elems (tupleParts_regular h hp)
    · exact (reportNotTuple_yields h _).bind fun _ _ => bindPatterns_yields elems nofun
  | .ref _ inner, _, h => (Keeps.lift (pointee_regular h)).bind fun _ ht =>
    bindPattern_yields inner (some_regular ht)
  | .wildcard _, _, _ => .pure trivial

/-- So are the parts of one. -/
theorem bindPatterns_yields : (ps : List Pattern) → {types : List Ty} →
    (∀ t ∈ types, t.Regular names) → Yields names (fun _ => True) (bindPatterns ps types)
  | [], _, _ => by rw [bindPatterns]; exact .pure trivial
  | p :: ps, [], h => (bindPattern_yields p (some_regular .unknown)).bind
    fun _ _ => bindPatterns_yields ps h
  | p :: ps, t :: ts, h =>
    (bindPattern_yields p (some_regular (h t List.mem_cons_self))).bind
      fun _ _ => bindPatterns_yields ps fun u hu => h u (List.mem_cons_of_mem t hu)

end

/-- Types that can be written can be compared. -/
theorem isRefCoercion_succeeds {targets : DerefTable}
    (ht : Ty.Regular.TargetsRegular names targets) {actual expected : Ty}
    (ha : actual.Regular names) (he : expected.Regular names) :
    Succeeds (fun _ => True) (isRefCoercion targets actual expected) := by
  unfold isRefCoercion
  split
  · exact .pure trivial
  · next hkinds =>
    obtain ⟨hka, hke⟩ := not_or.mp hkinds
    split
    · exact .pure trivial
    · refine (ha.firstPart (by rw [Decidable.not_not.mp hka]; rfl)).bind fun from_ hfrom => ?_
      refine (he.firstPart (by rw [Decidable.not_not.mp hke]; rfl)).bind fun to_ hto => ?_
      -- what is left to do unless a shortcut answers
      have hchain : Succeeds (fun _ => True) (do
          return ((← from_.derefChain targets).drop 1).contains to_) :=
        (hfrom.derefChain ht).bind fun _ _ => .pure trivial
      split
      · exact .pure trivial
      · split
        · next hk =>
          refine (hfrom.firstPart (by rw [hk.1]; rfl)).bind fun elem _ => ?_
          refine (hto.firstPart (by rw [hk.2]; rfl)).bind fun elem' _ => ?_
          split
          · exact .pure trivial
          · exact hchain
        · exact hchain

/-- Whether a type fits another can always be decided. -/
theorem fit_succeeds {targets : DerefTable} (ht : Ty.Regular.TargetsRegular names targets)
    {actual expected : Ty} (ha : actual.Regular names) (he : expected.Regular names) :
    Succeeds (fun _ => True) (fit targets actual expected) := by
  unfold fit
  split
  · exact .pure trivial
  · refine (isRefCoercion_succeeds ht ha he).bind fun coerces _ => ?_
    split
    · exact .pure trivial
    · split
      -- functions are compared by the number of their parameters, and both have such
      · next hk =>
        refine (ha.fnParams hk.1).bind fun _ _ => (he.fnParams hk.2).bind fun _ _ => ?_
        split
        · exact .pure trivial
        · exact .pure trivial
      · exact .pure trivial

/-- A coercion never fails. -/
theorem coerce_yields (hc : c.Regular names) (e : Expr) {actual expected : Ty}
    (ha : actual.Regular names) (he : expected.Regular names) :
    Yields names (fun _ => True) (coerce c e actual expected) := by
  refine (Keeps.lift (fit_succeeds hc.targets ha he)).bind fun fits _ => ?_
  cases fits with
  | exact => exact .pure trivial
  | adjusted => exact setAdjusted_yields _
  | mismatch =>
    exact (Keeps.lift he.text).bind fun _ _ => (Keeps.lift ha.text).bind fun _ _ =>
      report_yields _ _

/-- Nor does one to a type that is only sometimes expected. -/
theorem coerceTo_yields (hc : c.Regular names) (e : Expr) {actual : Ty} {expected : Option Ty}
    (ha : actual.Regular names) (he : OptRegular names expected) :
    Yields names (fun _ => True) (coerceTo c e actual expected) := by
  cases expected with
  | none => exact .pure trivial
  | some t => exact coerce_yields hc e ha (he t rfl)

/-- The owner that a path names can be written. -/
theorem ownerType?_regular (hc : c.Regular names) {owner : Path} {t : Ty}
    (h : ownerType? c owner = some t) : t.Regular names := by
  -- `Self` and the built-in types come first, and hide a struct of that name
  have hbuiltIn : ∀ {t}, builtInOwner? c.scope.selfType owner = some t → t.Regular names := by
    intro t h
    unfold builtInOwner? at h
    split at h
    · split at h
      · next ht =>
        split at ht
        · exact Option.some.inj h ▸ hc.scope.selfType _ ht
        · cases ht
      · exact .primitive h
    · cases h
  unfold ownerType? at h
  split at h
  · next ht => exact hbuiltIn (ht.trans h)
  · obtain ⟨full, hfull, rfl⟩ := Option.map_eq_some_iff.mp h
    exact .nominal (hc.scope.structs _ _ hfull) fun _ ha => absurd ha List.not_mem_nil

/-- The item of an owner has a type that can be written, with the owner in place of `Self`. -/
theorem checkAssociated_yields (hc : c.Regular names) (node : Node) (segments : Path) :
    Yields names (Ty.Regular names) (checkAssociated c node segments) := by
  unfold checkAssociated
  dsimp only
  -- owner and trait are looked up once, and only what they are counts
  generalize howner : ownerType? c segments.dropLast = owner
  generalize (if owner.isSome then none else c.registry.findTrait? segments.dropLast) = traitPath
  have howners : ∀ t, owner = some t → t.Regular names := fun t ht =>
    ownerType?_regular hc (howner.trans ht)
  split
  · exact (report_yields _ _).bind fun _ _ => .pure .unknown
  · have hresolved : Faultless (fun _ => True)
        (c.registry.resolveAssociated owner traitPath (Path.last segments)) :=
      Registry.resolveAssociated_faultless howners traitPath
    generalize hd : c.registry.resolveAssociated owner traitPath (Path.last segments) = found
      at hresolved
    cases hresolved with
    -- the item may mention `Self`, which the owner replaces if there is one
    | @ok d _ =>
      refine (setPath_yields _ _).bind fun _ _ => .pure ?_
      have ht := (hc.decls _ (Registry.resolveAssociated_mem hd)).type
      cases owner with
      | none => exact ht
      | some t => exact ht.substSelf (howners t rfl)
    | refused e => exact (report_yields _ _).bind fun _ _ => .pure .unknown

/-- What a path that is no local denotes has a type that can be written. -/
theorem checkGlobal_yields (hc : c.Regular names) (node : Node) (segments : Path) :
    Yields names (Ty.Regular names) (checkGlobal c node segments) := by
  unfold checkGlobal
  split
  · next hd =>
    have hwell := hc.decls _ (Registry.getFree?_mem hd).1
    exact (setPath_yields _ _).bind fun _ _ => .pure hwell.type
  · split
    · exact (report_yields _ _).bind fun _ _ => .pure .unknown
    · exact checkAssociated_yields hc node segments

/-- A decided type that can be written keeps a scope regular. -/
theorem decideIn_regular {name : String} {t : Ty} (ht : t.Regular names) {scope : Scope}
    (h : ∀ l ∈ scope, ∀ u, l.2 = some u → u.Regular names) :
    ∀ l ∈ decideIn name t scope, ∀ u, l.2 = some u → u.Regular names := by
  induction scope with
  | nil => exact fun _ hl => absurd hl List.not_mem_nil
  | cons l ls ih =>
    obtain ⟨hl, hls⟩ := List.forall_mem_cons.mp h
    unfold decideIn
    split
    · exact List.forall_mem_cons.mpr ⟨some_regular ht, hls⟩
    · exact List.forall_mem_cons.mpr ⟨hl, ih hls⟩

/-- And so it keeps all scopes. -/
theorem decideLocal_regular {name : String} {t : Ty} (ht : t.Regular names) {scopes : List Scope}
    (h : ∀ scope ∈ scopes, ∀ l ∈ scope, ∀ u, l.2 = some u → u.Regular names) :
    ∀ scope ∈ decideLocal name t scopes, ∀ l ∈ scope, ∀ u, l.2 = some u → u.Regular names := by
  induction scopes with
  | nil => exact fun _ hs => absurd hs List.not_mem_nil
  | cons s ss ih =>
    obtain ⟨hs, hss⟩ := List.forall_mem_cons.mp h
    unfold decideLocal
    split
    · exact List.forall_mem_cons.mpr ⟨decideIn_regular ht hs, hss⟩
    · exact List.forall_mem_cons.mpr ⟨hs, ih hss⟩

/-- The type that is decided on for a local can be written. -/
theorem decideType_yields (node : Node) (name : String) {expected : Option Ty}
    (h : OptRegular names expected) :
    Yields names (Ty.Regular names) (decideType node name expected) := by
  unfold decideType
  split
  · next t hf =>
    have ht := h t (Option.filter_eq_some_iff.mp hf).1
    refine Keeps.bind (.modify fun s hs => ?_) fun _ _ => .pure ht
    exact ⟨decideLocal_regular ht hs.scopes, hs.types, hs.methods⟩
  · refine (report_yields _ _).bind fun _ _ =>
      Keeps.bind (.modify fun s hs => ?_) fun _ _ => .pure .unknown
    exact ⟨decideLocal_regular .unknown hs.scopes, hs.types, hs.methods⟩

/-- The type of a local can be written. -/
theorem lookupLocal_regular {s : State} (hs : s.Regular names) {name : String} {t : Ty}
    (h : lookupLocal s.scopes name = some (some t)) : t.Regular names := by
  obtain ⟨scope, hscope, hl⟩ := List.exists_of_findSome?_eq_some h
  exact Ty.Regular.of_lookup (P := OptRegular names) (hs.scopes scope hscope) hl t rfl

/-- The type of a path can be written. -/
theorem checkPath_yields (hc : c.Regular names) (node : Node) (segments : Path)
    {expected : Option Ty} (h : OptRegular names expected) :
    Yields names (Ty.Regular names) (checkPath c node segments expected) := by
  unfold checkPath
  split
  · refine Keeps.get.bind fun s hs => ?_
    split
    · next hl => exact .pure (lookupLocal_regular hs hl)
    · exact decideType_yields _ _ h
    · exact checkGlobal_yields hc node _
  · exact checkGlobal_yields hc node _

/-- What a type is dereferenced to can be written. -/
theorem derefType_yields (hc : c.Regular names) (node : Node) {type : Ty}
    (h : type.Regular names) : Yields names (Ty.Regular names) (derefType c node type) := by
  refine (Keeps.lift (h.deref? hc.targets)).bind fun target ht => ?_
  split
  · exact .pure (ht _ rfl)
  · split
    · exact (Keeps.lift h.text).bind fun _ _ =>
        (report_yields _ _).bind fun _ _ => .pure .unknown
    · exact .pure .unknown

/-- The types that arguments are expected to have can be written. -/
theorem expectedArgs_yields (callable : String) (node : Node) (given : Nat) {params : List Ty}
    (h : ∀ t ∈ params, t.Regular names) :
    Yields names (fun es => ∀ e ∈ es, OptRegular names e)
      (expectedArgs callable node given params) := by
  unfold expectedArgs
  split
  · refine .pure fun e he => ?_
    obtain ⟨t, ht, rfl⟩ := List.mem_map.mp he
    exact some_regular (h t ht)
  · refine (report_yields _ _).bind fun _ _ => .pure fun e he => ?_
    rw [List.eq_of_mem_replicate he]
    exact nofun

/-- The type that the next argument is expected to have can be written. -/
theorem head_regular {expected : List (Option Ty)} (h : ∀ e ∈ expected, OptRegular names e) :
    OptRegular names (expected.head?.getD none) := by
  cases expected with
  | nil => exact nofun
  | cons e es => exact h e List.mem_cons_self

/-- The parameters of a closure are bound to types that can be written. -/
theorem bindParams_yields (hc : c.Regular names) (ps : List Param) {expected : List (Option Ty)}
    (h : ∀ e ∈ expected, OptRegular names e) :
    Yields names (fun _ => True) (bindParams c ps expected) := by
  induction ps generalizing expected with
  | nil => exact .pure trivial
  | cons p ps ih =>
    rw [bindParams_cons]
    exact (writtenOr_yields hc (head_regular h)).bind fun _ ht =>
      (bindPattern_yields _ ht).bind fun _ _ => ih fun e he => h e (List.mem_of_mem_tail he)

/-- The type that a parameter of a closure ends with can be written. -/
theorem paramType_yields (hc : c.Regular names) (p : Param) :
    Yields names (Ty.Regular names) (paramType c p) := by
  refine Keeps.get.bind fun s hs => ?_
  split
  · next t _ hd =>
    refine .pure ?_
    -- only a parameter that is a plain binding can have been decided on
    unfold decidedType? at hd
    split at hd
    · next name _ =>
      cases hl : lookupLocal s.scopes name with
      | none => rw [hl] at hd; nomatch hd
      | some type =>
        rw [hl] at hd
        exact lookupLocal_regular hs (hl.trans (congrArg some hd))
    · nomatch hd
  · exact resolve_yields hc _
  · exact .pure .unknown

end Steps

/-! ### Expressions -/

/-- Whatever is called, the type of a call can be written. -/
theorem callRest_yields {node : Node} {callee : Expr} {args : List Expr} {type : Ty}
    (ht : type.Regular names)
    (h : ∀ expected, (∀ e ∈ expected, OptRegular names e) →
      Yields names (fun _ => True) (checkArgs c args expected)) :
    Yields names (Ty.Regular names) (callRest c node callee args type) := by
  unfold callRest
  split
  · next hk =>
    exact (Keeps.lift (ht.fnParams hk)).bind fun _ hp => (Keeps.lift (ht.fnRet hk)).bind fun _ hr =>
      (expectedArgs_yields _ _ _ hp).bind fun _ he => (h _ he).bind fun _ _ => .pure hr
  -- for the message, the type of what is no function is named, which cannot fail either
  · split
    · exact (Keeps.lift ht.text).bind fun _ _ =>
        (report_yields _ _).bind fun _ _ => (h _ nil_regular).bind fun _ _ => .pure .unknown
    · exact (h _ nil_regular).bind fun _ _ => .pure .unknown

/-- The result of a method that is found can be written, with the receiver in place of `Self`. -/
theorem resolvedRest_yields {node : Node} {receiver : Expr} {args : List Expr} {r : Resolution}
    (hd : r.decl.WellMade names) (hm : r.decl.isMethod = true) (hs : r.step.Regular names)
    (h : ∀ expected, (∀ e ∈ expected, OptRegular names e) →
      Yields names (fun _ => True) (checkArgs c args expected)) :
    Yields names (Ty.Regular names) (resolvedRest c node receiver args r) := by
  have ht := hd.type.substSelf hs
  -- `Self` is put in place of the type variable, which leaves a function a function
  have hk : (r.decl.type.substSelf r.step).kind = .function :=
    Ty.kind_substSelf_function (hd.isFunction hm)
  have hargs : Yields names (Ty.Regular names) (do
      let params ← (r.decl.type.substSelf r.step).fnParams
      let ret ← (r.decl.type.substSelf r.step).fnRet
      checkArgs c args (← expectedArgs "method" node args.length (params.drop 1))
      return ret) :=
    (Keeps.lift (ht.fnParams hk)).bind fun _ hp => (Keeps.lift (ht.fnRet hk)).bind fun _ hr =>
      (expectedArgs_yields _ _ _ fun t ht => hp t (List.mem_of_mem_drop ht)).bind fun _ he =>
        (h _ he).bind fun _ _ => .pure hr
  refine (setMethod_yields hd).bind fun _ _ => ?_
  dsimp only
  split
  · exact (setAdjusted_yields _).bind fun _ _ => hargs
  · exact hargs

/-- A resolved method is declared, and found on a type that the receiver derefs to. -/
theorem resolveMethod_regular (hc : c.Regular names) {type : Ty} (ht : type.Regular names)
    {method : String} {r : Resolution}
    (h : c.registry.resolveMethod c.targets type method = .ok r) :
    r.decl.WellMade names ∧ r.decl.isMethod = true ∧ r.step.Regular names := by
  obtain ⟨steps, hsteps, hr⟩ := Registry.resolveMethod_eq_ok h
  obtain ⟨before, after, rfl, -, -, hat, -⟩ := Registry.resolveOn_eq_ok hr
  exact ⟨hc.decls _ hat.mem.1, hat.mem.2, ht.of_derefChain hc.targets hsteps _
    (List.mem_append_right _ List.mem_cons_self)⟩

/-- Whether a method is found or not, the type of its call can be written. -/
theorem methodRest_yields (hc : c.Regular names) {node : Node} {receiver : Expr} {method : String}
    {args : List Expr} {type : Ty} (ht : type.Regular names)
    (h : ∀ expected, (∀ e ∈ expected, OptRegular names e) →
      Yields names (fun _ => True) (checkArgs c args expected)) :
    Yields names (Ty.Regular names) (methodRest c node receiver method args type) := by
  unfold methodRest
  split
  · exact (h _ nil_regular).bind fun _ _ => .pure .unknown
  -- the search can refuse, but never fails
  · have hresolved : Faultless (fun _ => True)
        (c.registry.resolveMethod c.targets type method) :=
      Registry.resolveMethod_faultless hc.decls hc.targets ht
    generalize hr : c.registry.resolveMethod c.targets type method = found at hresolved
    cases hresolved with
    | refused e =>
      exact (report_yields _ _).bind fun _ _ => (h _ nil_regular).bind fun _ _ => .pure .unknown
    | @ok r _ =>
      obtain ⟨hd, hm, hs⟩ := resolveMethod_regular hc ht hr
      exact resolvedRest_yields hd hm hs h

/-- What a closure is expected to be is made of such types. -/
theorem expectedSignature_regular {expected : Option Ty} {n : Nat}
    (he : OptRegular names expected) :
    Succeeds (fun signature => (∀ t ∈ (signature.map Prod.fst).getD [], t.Regular names) ∧
      OptRegular names (signature.map Prod.snd)) (expectedSignature expected n) := by
  unfold expectedSignature
  split
  · exact .pure ⟨fun _ ht => absurd ht List.not_mem_nil, nofun⟩
  · next t hf =>
    obtain ⟨hexpected, hk⟩ := Option.filter_eq_some_iff.mp hf
    have ht := he t hexpected
    have hk : t.kind = .function := of_decide_eq_true hk
    refine (ht.fnParams hk).bind fun params hp => ?_
    split
    · exact (ht.fnRet hk).bind fun ret hr => .pure ⟨hp, some_regular hr⟩
    · exact .pure ⟨fun _ ht => absurd ht List.not_mem_nil, nofun⟩

/-- What is expected behind a borrow can be written. -/
theorem expectedPointee_regular {expected : Option Ty} (he : OptRegular names expected) :
    Succeeds (OptRegular names) (expectedPointee expected) := by
  unfold expectedPointee
  split
  · split
    · next hk =>
      exact ((he _ rfl).firstPart (by rw [hk]; rfl)).bind fun t ht => .pure (some_regular ht)
    · exact .pure fun _ h => by cases h
  · exact .pure fun _ h => by cases h

/-- The type of a number can be written. -/
theorem intType_regular {expected : Option Ty} (he : OptRegular names expected) :
    (intType expected).Regular names := by
  unfold intType
  cases hf : expected.filter fun t => t.kind = .int ∨ t.kind = .uint with
  -- without an expected integer type a literal is an `i32`
  | none => exact .primitive (show Ty.primitive? "i32" = some _ from rfl)
  | some t => exact he t (Option.filter_eq_some_iff.mp hf).1

/-- The type of a closure can be written. -/
theorem closureInside_yields (hc : c.Regular names) {params : List Param} {ret : Option TypeExpr}
    {body : Expr} {signature : Option (List Ty × Ty)}
    (hp : ∀ t ∈ (signature.map Prod.fst).getD [], t.Regular names)
    (hr : OptRegular names (signature.map Prod.snd))
    (h : ∀ expected, OptRegular names expected →
      Yields names (Ty.Regular names) (checkExpr c body expected)) :
    Yields names (Ty.Regular names) (closureInside c params ret body signature) := by
  refine (bindParams_yields hc params fun e he => ?_).bind fun _ _ =>
    (writtenOr_yields hc hr).bind fun _ hx => (h _ hx).bind fun _ hb =>
      (coerceTo_yields hc _ hb hx).bind fun _ _ =>
        (Keeps.mapM fun p _ => paramType_yields hc p).bind fun _ hps =>
          .pure (.function hps (getD_regular hx hb))
  obtain ⟨t, ht, rfl⟩ := List.mem_map.mp he
  exact some_regular (hp t ht)

mutual

/-- **Every type that checking gives to an expression** is a type that can be written. -/
theorem checkExpr_yields (hc : c.Regular names) : (e : Expr) → (expected : Option Ty) →
    OptRegular names expected → Yields names (Ty.Regular names) (checkExpr c e expected)
  | .path node segments, _, he => filed_yields (checkPath_yields hc node segments he)
  | .int .., expected, he => filed_yields (.pure (intType_regular he))
  | .str .., _, _ => filed_yields (.pure (.ref (.primitive (show Ty.primitive? "str" = some _ from rfl))))
  -- by induction on the expression: types of parts can be written, and so can what is made of them
  | .borrow node isMut subject, expected, he => by
    rw [checkExpr_borrow]
    exact filed_yields <| (Keeps.lift (expectedPointee_regular he)).bind fun _ ho =>
      (checkExpr_yields hc subject _ ho).bind fun _ ht => .pure (.ref ht)
  | .deref node subject, expected, _ => by
    rw [checkExpr_deref]
    exact filed_yields <| (checkExpr_yields hc subject none none_regular).bind fun _ ht =>
      derefType_yields hc node ht
  | .field node subject name, expected, _ => by
    rw [checkExpr_field]
    exact filed_yields <| (checkExpr_yields hc subject none none_regular).bind fun _ _ => .pure .unknown
  | .call node callee args, expected, _ => by
    rw [checkExpr_call]
    exact filed_yields <| (checkExpr_yields hc callee none none_regular).bind fun _ ht =>
      callRest_yields ht fun expected he => checkArgs_yields hc args expected he
  | .methodCall node receiver method args, expected, _ => by
    rw [checkExpr_methodCall]
    exact filed_yields <| (checkExpr_yields hc receiver none none_regular).bind fun _ ht =>
      methodRest_yields hc ht fun expected he => checkArgs_yields hc args expected he
  | .closure node params ret body, expected, he => by
    rw [checkExpr_closure]
    refine filed_yields <| (Keeps.lift (expectedSignature_regular he)).bind
      fun _ hs => inScope_yields <| closureInside_yields hc hs.1 hs.2 fun expected he =>
        checkExpr_yields hc body expected he

/-- The types of arguments can be written. -/
theorem checkArgs_yields (hc : c.Regular names) : (es : List Expr) →
    (expected : List (Option Ty)) → (∀ e ∈ expected, OptRegular names e) →
    Yields names (fun _ => True) (checkArgs c es expected)
  | [], _, _ => .pure trivial
  | e :: es, expected, he => by
    rw [checkArgs_cons]
    exact (checkExpr_yields hc e _ (head_regular he)).bind fun _ ht =>
      (coerceTo_yields hc e ht (head_regular he)).bind fun _ _ =>
        checkArgs_yields hc es _ fun e h => he e (List.mem_of_mem_tail h)

end

/-! ### Statements and bodies -/

/-- Checking a statement never fails. -/
theorem checkStmt_yields (hc : c.Regular names) (st : Stmt) :
    Yields names (fun _ => True) (checkStmt c st) := by
  cases st with
  | letStmt node pattern declared value =>
    rw [checkStmt_letStmt]
    exact (writtenOr_yields hc none_regular).bind fun _ hx =>
      (checkExpr_yields hc value _ hx).bind fun _ ht => (coerceTo_yields hc _ ht hx).bind fun _ _ =>
        bindPattern_yields _ (some_regular (getD_regular hx ht))
  | exprStmt node e => exact (checkExpr_yields hc e none none_regular).bind fun _ _ => .pure trivial

/-- Checking a body of such a type keeps to such types. -/
theorem checkBody_yields (hc : c.Regular names) (f : Function) {type : Ty}
    (ht : type.Regular names) (hk : type.kind = .function) :
    Yields names (fun _ => True) (checkBody c f type) :=
  (Keeps.lift (ht.fnParams hk)).bind fun _ hp => inScope_yields <|
    (Keeps.forM fun _ hpair => bindPattern_yields _
      (some_regular (hp _ (List.of_mem_zip hpair).2))).bind fun _ _ =>
        .forM fun st _ => checkStmt_yields hc st

/-- Checking bodies one after the other never fails. -/
theorem checkBodies_yields {file : Option String} {structs : StructNames} {d : Declared}
    (bs : List Body) (next : NodeId)
    (h : ∀ b ∈ bs, (contextOf file structs d b.selfType).Regular names ∧ b.type.Regular names ∧
      b.type.kind = .function) :
    Yields names (fun _ => True) (checkBodies file structs d next bs) := by
  induction bs generalizing next with
  | nil =>
    rw [checkBodies]
    exact .pure trivial
  | cons b bs ih =>
    -- where `Self` stands depends on the body, so each has a context of its own
    obtain ⟨⟨hc, ht, hk⟩, hbs⟩ := List.forall_mem_cons.mp h
    rw [checkBodies]
    exact (checkBody_yields hc _ ht hk).bind fun _ _ => (ih _ hbs).bind fun _ _ => .pure trivial

end ClosureLint.Typing
