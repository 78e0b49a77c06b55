import ClosureLint.Proofs.Checking.Closures
import ClosureLint.Proofs.Core.AlikeBodies

/-!
# Two checks side by side

The checker never reads its results. So two trees that are the same up to identities are checked in
the same way, whatever has been filed before: the answers are the same, and so are the results for
nodes that are paired.

* `Matches` — two states agree on scopes, diagnostics, and the results for paired nodes.
* `Mirrors` — a step goes with another one: what the one does from a state, the other does from any
  state that matches.
* `Spreads` — what can be said of two steps because it can be said of one of their parts.
* `checkExpr_mirrors`, `checkArgs_mirrors` — the checker on trees that are alike.
-/

namespace ClosureLint

open ClosureLint.Core (NodeId)

/-- The second results say of `j` what the first say of `i`, for all `i` and `j` that are paired. -/
structure Tables.Paired (P : NodeId → NodeId → Prop) (t t' : Tables) : Prop where
  types : ∀ i j, P i j → t'.types.lookup j = t.types.lookup i
  methods : ∀ i j, P i j → t'.methods.lookup j = t.methods.lookup i
  paths : ∀ i j, P i j → t'.paths.lookup j = t.paths.lookup i
  adjusted : ∀ i j, P i j → (j ∈ t'.adjusted ↔ i ∈ t.adjusted)

namespace Typing

open ClosureLint.Core
open ClosureLint.Syntax (Path TypeExpr)

variable {P : NodeId → NodeId → Prop} {c : Context} {s s' s₁ s₂ : State} {α β : Type}

/-! ### Names in scopes -/

/-- The names in each scope. -/
def State.names (s : State) : List (List String) := s.scopes.map fun scope => scope.map Prod.fst

/-- The name spells a local. -/
def Knows (s : State) (name : String) : Prop := ∃ names ∈ s.names, name ∈ names

/-- A name is known if a lookup finds it. -/
theorem knows_iff {name : String} : Knows s name ↔ (lookupLocal s.scopes name).isSome := by
  unfold Knows State.names lookupLocal
  rw [List.findSome?_isSome_iff]
  simp only [List.mem_map, exists_exists_and_eq_and, isSome_lookup_iff]

/-- On the way from `s` to `s'` names come into the innermost scope, and no others. -/
def Deepens (s s' : State) : Prop :=
  ∀ names rest, s.names = names :: rest → ∃ names', s'.names = names' :: rest ∧
    ∀ x ∈ names, x ∈ names'

/-- A step that leaves the names alone deepens nothing. -/
theorem Deepens.of_names (h : s'.names = s.names) : Deepens s s' := fun names _ hs =>
  ⟨names, h.trans hs, fun _ => id⟩

/-- A step that leaves the scopes alone deepens nothing. -/
theorem Deepens.of_scopes (h : s'.scopes = s.scopes) : Deepens s s' :=
  .of_names (congrArg (List.map _) h)

/-- Names that are added twice are added. -/
theorem Deepens.trans (h : Deepens s s₁) (h' : Deepens s₁ s₂) : Deepens s s₂ :=
  fun names rest hs => by
    obtain ⟨names₁, hs₁, hn⟩ := h names rest hs
    obtain ⟨names₂, hs₂, hn'⟩ := h' names₁ rest hs₁
    exact ⟨names₂, hs₂, fun x hx => hn' x (hn x hx)⟩

/-- A local stays one. -/
theorem Deepens.knows (h : Deepens s s') {name : String} (hk : Knows s name) : Knows s' name := by
  obtain ⟨names, hmem, hname⟩ := hk
  cases hs : s.names with
  | nil => rw [hs] at hmem; nomatch hmem
  | cons first rest =>
    obtain ⟨first', hs', hn⟩ := h first rest hs
    rw [hs] at hmem
    rcases List.mem_cons.mp hmem with rfl | hmem
    · exact ⟨first', hs' ▸ List.mem_cons_self, hn name hname⟩
    · exact ⟨names, hs' ▸ List.mem_cons_of_mem _ hmem, hname⟩

/-- Deciding a type keeps the names of its scope. -/
theorem names_decideIn (name : String) (type : Ty) (scope : Scope) :
    (decideIn name type scope).map Prod.fst = scope.map Prod.fst := by
  induction scope with
  | nil => rfl
  | cons l ls ih =>
    rw [decideIn]
    split
    · next h => rw [List.map_cons, List.map_cons, h]
    · rw [List.map_cons, List.map_cons, ih]

/-- Deciding a type keeps the names of all scopes. -/
theorem names_decideLocal (name : String) (type : Ty) (scopes : List Scope) :
    (decideLocal name type scopes).map (fun scope => scope.map Prod.fst)
      = scopes.map fun scope => scope.map Prod.fst := by
  induction scopes with
  | nil => rfl
  | cons scope scopes ih =>
    rw [decideLocal]
    split
    · rw [List.map_cons, List.map_cons, names_decideIn]
    · rw [List.map_cons, List.map_cons, ih]

/-! ### States that match -/

/-- The second state has the scopes and the diagnostics of the first, and the same results for
paired nodes. -/
structure Matches (P : NodeId → NodeId → Prop) (s s' : State) : Prop where
  scopes : s'.scopes = s.scopes
  diagnostics : s'.diagnostics = s.diagnostics
  tables : s.tables.Paired P s'.tables

/-- States that match still do when their scopes change in the same way. -/
theorem Matches.rescope (h : Matches P s s') (f : List Scope → List Scope) :
    Matches P { s with scopes := f s.scopes } { s' with scopes := f s'.scopes } :=
  ⟨congrArg f h.scopes, h.diagnostics, h.tables⟩

/-- States that match still do when the same is reported in both. -/
theorem Matches.report (h : Matches P s s') (ds : List Diagnostic) :
    Matches P { s with diagnostics := s.diagnostics ++ ds }
      { s' with diagnostics := s'.diagnostics ++ ds } :=
  ⟨h.scopes, congrArg (fun l => l ++ ds) h.diagnostics, h.tables⟩

/-- Nothing is paired with two nodes. -/
def OneToOne (P : NodeId → NodeId → Prop) : Prop := ∀ i j i' j', P i j → P i' j' → (i' = i ↔ j' = j)

/-- `i` is paired with some node. -/
def Paired (P : NodeId → NodeId → Prop) (i : NodeId) : Prop := ∃ j, P i j

/-- Some node is paired with `j`. -/
def Reached (P : NodeId → NodeId → Prop) (j : NodeId) : Prop := ∃ i, P i j

/-- What `m` does from a state, `m'` does from any state that matches. What they file is for paired
nodes, and no names go away. -/
structure Mirrors (P : NodeId → NodeId → Prop) (m m' : Check α) : Prop where
  runs : ∀ {s a s₁ s'}, Gives m s a s₁ → Matches P s s' → ∃ s₁', Gives m' s' a s₁' ∧ Matches P s₁ s₁'
  confined : Confined (Paired P) (Paired P) m
  confined' : Confined (Reached P) (Reached P) m'
  deepens : ∀ {s a s₁}, Gives m s a s₁ → Deepens s s₁

namespace Mirrors

/-- Steps that only answer mirror each other. -/
theorem pure (a : α) : Mirrors P (pure a : Check α) (pure a) where
  runs h hm := by
    obtain ⟨rfl, rfl⟩ := gives_pure.mp h
    exact ⟨_, gives_pure.mpr ⟨rfl, rfl⟩, hm⟩
  confined := .pure a
  confined' := .pure a
  deepens h := .of_names (by rw [(gives_pure.mp h).2])

/-- Steps that mirror each other, one after the other, make runs that do. -/
theorem bind {m m' : Check α} {f f' : α → Check β} (hm : Mirrors P m m')
    (hf : ∀ a, Mirrors P (f a) (f' a)) : Mirrors P (m >>= f) (m' >>= f') where
  runs h hs := by
    -- the second step starts from states that match because the first one ended in such states
    obtain ⟨a, s₁, h₁, h₂⟩ := gives_bind.mp h
    obtain ⟨s₁', h₁', hs₁⟩ := hm.runs h₁ hs
    obtain ⟨s₂', h₂', hs₂⟩ := (hf a).runs h₂ hs₁
    exact ⟨s₂', gives_bind.mpr ⟨a, s₁', h₁', h₂'⟩, hs₂⟩
  confined := hm.confined.bind fun a => (hf a).confined
  confined' := hm.confined'.bind fun a => (hf a).confined'
  deepens h := by
    obtain ⟨a, s₁, h₁, h₂⟩ := gives_bind.mp h
    exact (hm.deepens h₁).trans ((hf a).deepens h₂)

/-- A step that does not look at the state mirrors itself. -/
theorem lift (x : Except Fault α) : Mirrors P (liftM x : Check α) (liftM x) where
  runs h hm := by
    obtain ⟨hx, rfl⟩ := gives_lift.mp h
    exact ⟨_, gives_lift.mpr ⟨hx, rfl⟩, hm⟩
  confined := .lift x
  confined' := .lift x
  deepens h := .of_names (by rw [(gives_lift.mp h).2])

/-- A step that fails mirrors itself: it has no run to compare. -/
theorem throw (f : Fault) : Mirrors P (throw f : Check α) (throw f) where
  runs h := absurd h not_gives_throw
  confined := .throw f
  confined' := .throw f
  deepens h := absurd h not_gives_throw

/-- A look at the scopes. -/
theorem get {f f' : State → Check α} (h : ∀ s s', s'.scopes = s.scopes → Mirrors P (f s) (f' s')) :
    Mirrors P (get >>= f) (get >>= f') where
  runs {s a s₁ s'} hg hs := by
    obtain ⟨s₁', h₁', hs₁⟩ := (h s s' hs.scopes).runs (gives_get_bind.mp hg) hs
    exact ⟨s₁', gives_get_bind.mpr h₁', hs₁⟩
  confined := Confined.get.bind fun s => (h s s rfl).confined
  confined' := Confined.get.bind fun s => (h s s rfl).confined'
  deepens {s _ _} hg := (h s s rfl).deepens (gives_get_bind.mp hg)

/-- Changes of matching states mirror each other if they keep them matching and write where they may. -/
theorem modify {f f' : State → State} (hruns : ∀ s s', Matches P s s' → Matches P (f s) (f' s'))
    (hconfined : Confined (Paired P) (Paired P) (modify f : Check Unit))
    (hconfined' : Confined (Reached P) (Reached P) (modify f' : Check Unit))
    (hdeepens : ∀ s, Deepens s (f s)) :
    Mirrors P (modify f : Check Unit) (modify f') where
  runs {s _ _ s'} h hs := by
    rw [← gives_modify.mp h]
    exact ⟨f' s', gives_modify.mpr rfl, hruns s s' hs⟩
  confined := hconfined
  confined' := hconfined'
  deepens {s _ _} h := by
    rw [← gives_modify.mp h]
    exact hdeepens s

/-- A step for each element mirrors a step for each element. -/
theorem mapM {γ : Type} {f f' : γ → Check β} {l : List γ} (h : ∀ a ∈ l, Mirrors P (f a) (f' a)) :
    Mirrors P (l.mapM f) (l.mapM f') := by
  induction l with
  | nil => rw [List.mapM_nil, List.mapM_nil]; exact pure []
  | cons a l ih =>
    rw [List.mapM_cons, List.mapM_cons]
    exact (h a List.mem_cons_self).bind fun _ =>
      (ih fun b hb => h b (List.mem_cons_of_mem a hb)).bind fun _ => pure _

/-- A scope of its own is gone in the end. -/
theorem names_inScope {m m' : Check α} (h : Mirrors P m m') {a : α}
    (hg : Gives (inScope m) s a s') : s'.names = s.names := by
  obtain ⟨s₁, h₁, rfl⟩ := gives_inScope.mp hg
  obtain ⟨names, hnames, -⟩ := h.deepens h₁ [] s.names rfl
  rw [State.names, List.map_drop, ← State.names, hnames]
  rfl

/-- Steps in a scope of their own mirror each other: the names that were there before are kept. -/
theorem scope {m m' : Check α} (h : Mirrors P m m') : Mirrors P (inScope m) (inScope m') where
  runs hg hs := by
    obtain ⟨s₂, h₂, rfl⟩ := gives_inScope.mp hg
    obtain ⟨s₂', h₂', hs₂⟩ := h.runs h₂ (hs.rescope fun scopes => [] :: scopes)
    exact ⟨_, gives_inScope.mpr ⟨s₂', h₂', rfl⟩, hs₂.rescope fun scopes => scopes.drop 1⟩
  confined := h.confined.inScope
  confined' := h.confined'.inScope
  deepens hg := .of_names (h.names_inScope hg)

end Mirrors

/-! ### Basic steps -/

section Steps

/-- The same problem at the same place is reported in both runs. -/
theorem report_mirrors (p : Problem) {span span' : Span} (h : span' = span) :
    Mirrors P (report p span) (report p span') := by
  subst h
  exact .modify (fun _ _ hs => hs.report _) (report_confined p _) (report_confined p _)
    fun _ => .of_scopes rfl

/-- A written type is resolved in the same way in both runs. -/
theorem resolve_mirrors (t : TypeExpr) : Mirrors P (resolve c t) (resolve c t) := by
  have hreport : Mirrors P
      (modify fun s => { s with diagnostics := s.diagnostics ++ (resolveType c.scope t).2 } :
        Check Unit)
      (modify fun s => { s with diagnostics := s.diagnostics ++ (resolveType c.scope t).2 }) :=
    .modify (fun _ _ hs => hs.report _)
      (.modify fun s => .reported s (resolveType_errors c.scope t))
      (.modify fun s => .reported s (resolveType_errors c.scope t)) fun _ => .of_scopes rfl
  exact hreport.bind fun _ => .pure _

/-- A name is bound in both runs. -/
theorem bindName_mirrors (name : String) (type : Option Ty) :
    Mirrors P (bindName name type) (bindName name type) := by
  refine .modify (fun _ _ hs => hs.rescope (bindIn name type)) (bindName_confined name type)
    (bindName_confined name type) fun s names rest hs => ?_
  -- without a scope there is no innermost one
  cases hscopes : s.scopes with
  | nil =>
    rw [State.names, hscopes] at hs
    nomatch hs
  | cons scope scopes =>
    rw [State.names, hscopes] at hs
    obtain ⟨rfl, rfl⟩ := List.cons.inj hs
    refine ⟨name :: scope.map Prod.fst, ?_, fun _ => List.mem_cons_of_mem _⟩
    simp only [State.names]
    rfl

/-- A local is decided on. -/
theorem decide_mirrors (name : String) (type : Ty) :
    Mirrors P (modify fun s => { s with scopes := decideLocal name type s.scopes } : Check Unit)
      (modify fun s => { s with scopes := decideLocal name type s.scopes }) :=
  .modify (fun _ _ hs => hs.rescope (decideLocal name type)) .rescope .rescope fun _ =>
    .of_names (names_decideLocal ..)

variable {i j : NodeId}

/-- Tables that agree at paired identities still do when paired entries are put before them. -/
private theorem lookup_cons_paired {δ : Type} {i' j' : NodeId} {v : δ} {l l' : Table δ}
    (h : i' = i ↔ j' = j) (hl : l'.lookup j' = l.lookup i') :
    List.lookup j' ((j, v) :: l') = List.lookup i' ((i, v) :: l) := by
  rw [List.lookup_cons, List.lookup_cons, hl]
  have hbeq : (j' == j) = (i' == i) := by
    rw [Bool.eq_iff_iff, beq_iff_eq, beq_iff_eq, h]
  rw [hbeq]

/-- A type is filed at paired identities. -/
theorem setType_mirrors (hP : OneToOne P) (h : P i j) (t : Ty) :
    Mirrors P (setType i t) (setType j t) := by
  refine .modify (fun s s' hs => ⟨hs.scopes, hs.diagnostics, ?_⟩) (setType_confined ⟨j, h⟩ t)
    (setType_confined ⟨i, h⟩ t) fun _ => .of_scopes rfl
  obtain ⟨ht, hm, hp, ha⟩ := hs.tables
  exact ⟨fun i' j' h' => lookup_cons_paired (hP i j i' j' h h') (ht i' j' h'), hm, hp, ha⟩

/-- A resolved method is filed at paired identities. -/
theorem setMethod_mirrors (hP : OneToOne P) (h : P i j) (r : Resolution) :
    Mirrors P (setMethod i r) (setMethod j r) := by
  refine .modify (fun s s' hs => ⟨hs.scopes, hs.diagnostics, ?_⟩) (setMethod_confined ⟨j, h⟩ r)
    (setMethod_confined ⟨i, h⟩ r) fun _ => .of_scopes rfl
  obtain ⟨ht, hm, hp, ha⟩ := hs.tables
  exact ⟨ht, fun i' j' h' => lookup_cons_paired (hP i j i' j' h h') (hm i' j' h'), hp, ha⟩

/-- A resolved path is filed at paired identities. -/
theorem setPath_mirrors (hP : OneToOne P) (h : P i j) (d : Decl) :
    Mirrors P (setPath i d) (setPath j d) := by
  refine .modify (fun s s' hs => ⟨hs.scopes, hs.diagnostics, ?_⟩) (setPath_confined ⟨j, h⟩ d)
    (setPath_confined ⟨i, h⟩ d) fun _ => .of_scopes rfl
  obtain ⟨ht, hm, hp, ha⟩ := hs.tables
  exact ⟨ht, hm, fun i' j' h' => lookup_cons_paired (hP i j i' j' h h') (hp i' j' h'), ha⟩

/-- An adjustment is filed at paired identities. -/
theorem setAdjusted_mirrors (hP : OneToOne P) (h : P i j) :
    Mirrors P (setAdjusted i) (setAdjusted j) := by
  refine .modify (fun s s' hs => ⟨hs.scopes, hs.diagnostics, ?_⟩) (setAdjusted_confined ⟨j, h⟩)
    (setAdjusted_confined ⟨i, h⟩) fun _ => .of_scopes rfl
  obtain ⟨ht, hm, hp, ha⟩ := hs.tables
  refine ⟨ht, hm, hp, fun i' j' h' => ?_⟩
  rw [List.mem_cons, List.mem_cons, ha i' j' h', hP i j i' j' h h']

/-- A step whose answer is filed at paired identities mirrors the other. -/
theorem filed_mirrors (hP : OneToOne P) (h : P i j) {m m' : Check Ty} (hm : Mirrors P m m') :
    Mirrors P (filed i m) (filed j m') :=
  hm.bind fun _ => (setType_mirrors hP h _).bind fun _ => .pure _

/-- A pattern that wants a tuple reports in both runs. -/
theorem reportNotTuple_mirrors (type : Option Ty) {span span' : Span} (h : span' = span) :
    Mirrors P (reportNotTuple type span) (reportNotTuple type span') := by
  unfold reportNotTuple
  split
  · split
    · exact .pure ()
    · exact (Mirrors.lift _).bind fun _ => report_mirrors _ h
  · exact .pure ()

mutual

/-- A pattern is bound in the same way in both runs. -/
theorem bindPattern_mirrors : (p : Pattern) → (type : Option Ty) →
    Mirrors P (bindPattern p type) (bindPattern p type)
  | .binding _ _ name, type => bindName_mirrors name type
  | .tuple node elems, type => by
    rw [bindPattern]
    split
    · exact bindPatterns_mirrors elems _
    · exact (reportNotTuple_mirrors _ rfl).bind fun _ => bindPatterns_mirrors elems _
  | .ref _ inner, type => (Mirrors.lift _).bind fun _ => bindPattern_mirrors inner _
  | .wildcard _, _ => .pure ()

/-- The parts of a pattern are bound in the same way in both runs. -/
theorem bindPatterns_mirrors : (ps : List Pattern) → (types : List Ty) →
    Mirrors P (bindPatterns ps types) (bindPatterns ps types)
  | [], _ => .pure ()
  | p :: ps, [] => (bindPattern_mirrors p _).bind fun _ => bindPatterns_mirrors ps []
  | p :: ps, _ :: ts => (bindPattern_mirrors p _).bind fun _ => bindPatterns_mirrors ps ts

end

/-- Nodes at paired identities and the same place are coerced in the same way. -/
theorem coerceTo_mirrors (hP : OneToOne P) {e e' : Expr} (h : Pairs P e.node e'.node) (actual : Ty)
    (expected : Option Ty) : Mirrors P (coerceTo c e actual expected) (coerceTo c e' actual expected) := by
  cases expected with
  | none => exact .pure ()
  | some t =>
    refine (Mirrors.lift _).bind fun fits => ?_
    cases fits with
    | exact => exact .pure ()
    | adjusted => exact setAdjusted_mirrors hP h.id
    | mismatch =>
      exact (Mirrors.lift _).bind fun _ => (Mirrors.lift _).bind fun _ => report_mirrors _ h.span

variable {n n' : Node}

/-- A path with an owner is looked up in the same way at paired nodes. -/
theorem checkAssociated_mirrors (hP : OneToOne P) (h : Pairs P n n') (segments : Path) :
    Mirrors P (checkAssociated c n segments) (checkAssociated c n' segments) := by
  unfold checkAssociated
  dsimp only
  -- owner and trait are looked up in the context alone, so the cases are those of the two answers
  generalize ownerType? c segments.dropLast = owner
  generalize (if owner.isSome then none else c.registry.findTrait? segments.dropLast) = traitPath
  split
  · exact (report_mirrors _ h.span).bind fun _ => .pure _
  · split
    · exact (setPath_mirrors hP h.id _).bind fun _ => .pure _
    · exact (report_mirrors _ h.span).bind fun _ => .pure _
    · exact .throw _

/-- A path that is no local is looked up in the same way at paired nodes. -/
theorem checkGlobal_mirrors (hP : OneToOne P) (h : Pairs P n n') (segments : Path) :
    Mirrors P (checkGlobal c n segments) (checkGlobal c n' segments) := by
  unfold checkGlobal
  split
  · exact (setPath_mirrors hP h.id _).bind fun _ => .pure _
  · split
    · exact (report_mirrors _ h.span).bind fun _ => .pure _
    · exact checkAssociated_mirrors hP h segments

/-- The type of a local is decided in the same way at nodes of one place. -/
theorem decideType_mirrors (h : n'.span = n.span) (name : String) (expected : Option Ty) :
    Mirrors P (decideType n name expected) (decideType n' name expected) := by
  unfold decideType
  split
  · exact (decide_mirrors name _).bind fun _ => .pure _
  · exact (report_mirrors _ h).bind fun _ => (decide_mirrors name _).bind fun _ => .pure _

/-- A path is checked in the same way at paired nodes. -/
theorem checkPath_mirrors (hP : OneToOne P) (h : Pairs P n n') (segments : Path)
    (expected : Option Ty) :
    Mirrors P (checkPath c n segments expected) (checkPath c n' segments expected) := by
  unfold checkPath
  split
  -- the only look at the state is the lookup of a local, and the scopes match
  · refine .get fun s s' hs => ?_
    rw [hs]
    split
    · exact .pure _
    · exact decideType_mirrors h.span _ _
    · exact checkGlobal_mirrors hP h _
  · exact checkGlobal_mirrors hP h _

/-- A type is dereferenced in the same way at nodes of one place. -/
theorem derefType_mirrors (h : n'.span = n.span) (type : Ty) :
    Mirrors P (derefType c n type) (derefType c n' type) := by
  refine (Mirrors.lift _).bind fun target => ?_
  split
  · exact .pure _
  · split
    · exact (Mirrors.lift _).bind fun _ => (report_mirrors _ h).bind fun _ => .pure _
    · exact .pure _

/-- The number of arguments is compared in the same way at nodes of one place. -/
theorem expectedArgs_mirrors (callable : String) (h : n'.span = n.span) (given : Nat)
    (params : List Ty) :
    Mirrors P (expectedArgs callable n given params) (expectedArgs callable n' given params) := by
  unfold expectedArgs
  split
  · exact .pure _
  · exact (report_mirrors _ h).bind fun _ => .pure _

/-- A written type takes precedence in the same way in both runs. -/
theorem writtenOr_mirrors (written : Option TypeExpr) (otherwise : Option Ty) :
    Mirrors P (writtenOr c written otherwise) (writtenOr c written otherwise) := by
  cases written with
  | none => exact .pure _
  | some _ => exact (resolve_mirrors _).bind fun _ => .pure _

/-- The parameters of a closure are bound in the same way in both runs. -/
theorem bindParams_mirrors (ps : List Param) (expected : List (Option Ty)) :
    Mirrors P (bindParams c ps expected) (bindParams c ps expected) := by
  induction ps generalizing expected with
  | nil => exact .pure ()
  | cons p ps ih =>
    rw [bindParams_cons]
    exact (writtenOr_mirrors _ _).bind fun _ => (bindPattern_mirrors _ _).bind fun _ => ih _

/-- The type of a parameter is asked for in the same way in both runs. -/
theorem paramType_mirrors (p : Param) : Mirrors P (paramType c p) (paramType c p) := by
  refine .get fun s s' hs => ?_
  rw [hs]
  split
  · exact .pure _
  · exact resolve_mirrors _
  · exact .pure _

end Steps

/-! ### Patterns are bound without a look at identities -/

mutual

/-- Binding a pattern does not look at identities. -/
theorem bindPattern_unnumbered : (p : Pattern) → (type : Option Ty) →
    bindPattern p.unnumbered type = bindPattern p type
  | .binding .., _ | .wildcard _, _ => rfl
  | .tuple node elems, type => by
    -- the problem with a tuple names the number of its parts, which identities do not change
    have hlength : (Pattern.unnumberedAll elems).length = elems.length := by
      induction elems with
      | nil => rfl
      | cons p ps ih => rw [Pattern.unnumberedAll, List.length_cons, List.length_cons, ih]
    simp only [Pattern.unnumbered, bindPattern, hlength, bindPatterns_unnumbered elems]
    rfl
  | .ref _ inner, type => by
    simp only [Pattern.unnumbered, bindPattern, bindPattern_unnumbered inner]

/-- Nor does binding the parts of one. -/
theorem bindPatterns_unnumbered : (ps : List Pattern) → (types : List Ty) →
    bindPatterns (Pattern.unnumberedAll ps) types = bindPatterns ps types
  | [], _ => rfl
  | p :: ps, [] => by
    simp only [Pattern.unnumberedAll, bindPatterns, bindPattern_unnumbered p,
      bindPatterns_unnumbered ps]
  | p :: ps, _ :: ts => by
    simp only [Pattern.unnumberedAll, bindPatterns, bindPattern_unnumbered p,
      bindPatterns_unnumbered ps]

end

/-- Patterns that are the same up to identities are bound in the same way. -/
theorem bindPattern_congr {p p' : Pattern} (h : p'.unnumbered = p.unnumbered) (type : Option Ty) :
    bindPattern p' type = bindPattern p type := by
  rw [← bindPattern_unnumbered p', h, bindPattern_unnumbered]

/-- Nor does binding the parameters of a closure. -/
theorem bindParams_unnumbered (ps : List Param) (expected : List (Option Ty)) :
    bindParams c (ps.map Param.unnumbered) expected = bindParams c ps expected := by
  induction ps generalizing expected with
  | nil => rfl
  | cons p ps ih =>
    simp only [List.map_cons, bindParams_cons, ih, Param.unnumbered, bindPattern_unnumbered]

/-- Nor does asking for their types. -/
theorem paramTypes_unnumbered (ps : List Param) :
    (ps.map Param.unnumbered).mapM (paramType c) = ps.mapM (paramType c) := by
  -- a decided type is looked up by name
  have hone (p : Param) : paramType c p.unnumbered = paramType c p := by
    unfold paramType Param.unnumbered
    cases p.pattern <;> rfl
  induction ps with
  | nil => rfl
  | cons p ps ih => rw [List.map_cons, List.mapM_cons, List.mapM_cons, hone, ih]

/-! ### From a part to the whole -/

/-- What `R` says of two steps, it says of any two that hold these and are mirrored otherwise. -/
structure Spreads (P : NodeId → NodeId → Prop) (R : {α : Type} → Check α → Check α → Prop) :
    Prop where
  after : ∀ {α β : Type} {m m' : Check α} {f f' : α → Check β}, Mirrors P m m' →
    (∀ a, R (f a) (f' a)) → R (m >>= f) (m' >>= f')
  before : ∀ {α β : Type} {m m' : Check α} {f f' : α → Check β}, R m m' →
    (∀ a, Mirrors P (f a) (f' a)) → R (m >>= f) (m' >>= f')
  scope : ∀ {α : Type} {m m' : Check α}, R m m' → R (inScope m) (inScope m')
  throw : ∀ {α : Type} (f : Fault), R (throw f : Check α) (throw f)

/-- Mirroring spreads from the parts of an expression to the whole. -/
theorem Mirrors.spreads : Spreads P (Mirrors P) := ⟨.bind, .bind, .scope, .throw⟩

namespace Spreads

variable {R : {α : Type} → Check α → Check α → Prop} {n n' : Node} {args args' : List Expr}

/-- What is filed at paired identities is related if the steps before are. -/
theorem filed (hR : Spreads P R) (hP : OneToOne P) {i j : NodeId} (h : P i j) {m m' : Check Ty}
    (hm : R m m') : R (filed i m) (filed j m') :=
  hR.before hm fun _ => (setType_mirrors hP h _).bind fun _ => .pure _

/-- An expression is checked and accepted where its type is needed, and then the rest follows. -/
theorem accepts (hR : Spreads P R) (hP : OneToOne P) {e e' : Expr} (h : Pairs P e.node e'.node)
    (he : ∀ expected, R (checkExpr c e expected) (checkExpr c e' expected)) (expected : Option Ty)
    {β : Type} {f f' : Ty → Check β} (hf : ∀ t, Mirrors P (f t) (f' t)) :
    R (do let type ← checkExpr c e expected; coerceTo c e type expected; f type)
      (do let type ← checkExpr c e' expected; coerceTo c e' type expected; f' type) :=
  hR.before (he _) fun _ => (coerceTo_mirrors hP h _ _).bind fun _ => hf _

/-- Nodes that are paired are adjusted. -/
theorem adjusts (hR : Spreads P R) (hP : OneToOne P) {i j : NodeId} (h : P i j) {m m' : Check Ty}
    (hm : R m m') : R (do setAdjusted i; m) (do setAdjusted j; m') :=
  hR.after (setAdjusted_mirrors hP h) fun _ => hm

/-- The arguments are checked against what is expected of them. -/
theorem arguments (hR : Spreads P R) {callable : String} {params : List Ty} {ret : Ty}
    (h : n'.span = n.span) (hlength : args'.length = args.length)
    (hargs : ∀ expected, R (checkArgs c args expected) (checkArgs c args' expected)) :
    R (do checkArgs c args (← expectedArgs callable n args.length params); return ret)
      (do checkArgs c args' (← expectedArgs callable n' args'.length params); return ret) := by
  rw [hlength]
  exact hR.after (expectedArgs_mirrors _ h _ _) fun _ => hR.before (hargs _) fun _ => .pure _

/-- A call is related to a call with related arguments, once the callees have a type. -/
theorem callRest (hR : Spreads P R) {callee callee' : Expr} (h : n'.span = n.span)
    (hcallee : callee'.span = callee.span) (hlength : args'.length = args.length)
    (hargs : ∀ expected, R (checkArgs c args expected) (checkArgs c args' expected)) (type : Ty) :
    R (callRest c n callee args type) (callRest c n' callee' args' type) := by
  unfold Typing.callRest
  split
  · exact hR.after (.lift _) fun _ => hR.after (.lift _) fun _ => hR.arguments h hlength hargs
  · split
    · exact hR.after (.lift _) fun _ => hR.after (report_mirrors _ hcallee) fun _ =>
        hR.before (hargs _) fun _ => .pure _
    · exact hR.before (hargs _) fun _ => .pure _

/-- A method call is related to one with related arguments, once the receivers have a type. -/
theorem methodRest (hR : Spreads P R) (hP : OneToOne P) {receiver receiver' : Expr}
    {method : String} (h : Pairs P n n')
    (hadjust : ∀ {m m' : Check Ty}, R m m' →
      R (do setAdjusted receiver.id; m) (do setAdjusted receiver'.id; m'))
    (hlength : args'.length = args.length)
    (hargs : ∀ expected, R (checkArgs c args expected) (checkArgs c args' expected)) (type : Ty) :
    R (methodRest c n receiver method args type) (methodRest c n' receiver' method args' type) := by
  -- the cases are those of what the search for the method answers
  unfold Typing.methodRest
  split
  · exact hR.before (hargs _) fun _ => .pure _
  · split
    · exact hR.throw _
    · exact hR.after (report_mirrors _ h.span) fun _ => hR.before (hargs _) fun _ => .pure _
    · next r _ =>
      have hrest : R (do
            let params ← (r.decl.type.substSelf r.step).fnParams
            let ret ← (r.decl.type.substSelf r.step).fnRet
            checkArgs c args (← expectedArgs "method" n args.length (params.drop 1))
            return ret) (do
            let params ← (r.decl.type.substSelf r.step).fnParams
            let ret ← (r.decl.type.substSelf r.step).fnRet
            checkArgs c args' (← expectedArgs "method" n' args'.length (params.drop 1))
            return ret) :=
        hR.after (.lift _) fun _ => hR.after (.lift _) fun _ => hR.arguments h.span hlength hargs
      -- the method is filed, and the receiver may be adjusted, before the arguments are checked
      unfold resolvedRest
      refine hR.after (setMethod_mirrors hP h.id r) fun _ => ?_
      dsimp only
      split
      · exact hadjust hrest
      · exact hrest

/-- A closure is related to one with a related body, up to the identities in its parameters. -/
theorem closureInside (hR : Spreads P R) {params params' : List Param} {ret : Option TypeExpr}
    {body body' : Expr} {signature : Option (List Ty × Ty)}
    (hparams : params'.map Param.unnumbered = params.map Param.unnumbered)
    (hbody : ∀ expected {β : Type} {f f' : Ty → Check β}, (∀ t, Mirrors P (f t) (f' t)) →
      R (do let type ← checkExpr c body expected; coerceTo c body type expected; f type)
        (do let type ← checkExpr c body' expected; coerceTo c body' type expected; f' type)) :
    R (closureInside c params ret body signature) (closureInside c params' ret body' signature) := by
  -- parameters are only bound and asked for their types, and neither looks at an identity
  have hbind (expected : List (Option Ty)) :
      bindParams c params' expected = bindParams c params expected := by
    rw [← bindParams_unnumbered params', hparams, bindParams_unnumbered]
  have htypes : params'.mapM (paramType c) = params.mapM (paramType c) := by
    rw [← paramTypes_unnumbered params', hparams, paramTypes_unnumbered]
  unfold Typing.closureInside
  rw [hbind, htypes]
  exact hR.after (bindParams_mirrors _ _) fun _ => hR.after (writtenOr_mirrors _ _) fun _ =>
    hbody _ fun _ => (Mirrors.mapM fun p _ => paramType_mirrors p).bind fun _ => .pure _

end Spreads

/-! ### Expressions -/

/-- Lists of expressions that are alike are equally long. -/
theorem length_of_alike {es es' : List Expr} (h : AlikeAll P es es') : es'.length = es.length := by
  induction es generalizing es' with
  | nil => cases h; rfl
  | cons e es ih =>
    cases h with
    | cons _ h => rw [List.length_cons, List.length_cons, ih h]

/-- Parameters that agree up to identities are equally many. -/
theorem length_params {ps ps' : List Param} (h : ps'.map Param.unnumbered = ps.map Param.unnumbered) :
    ps'.length = ps.length := by
  rw [← List.length_map (f := Param.unnumbered), h, List.length_map]

mutual

/-- **Expressions that are alike** are checked in the same way. -/
theorem checkExpr_mirrors (hP : OneToOne P) : {e e' : Expr} → Alike P e e' →
    (expected : Option Ty) → Mirrors P (checkExpr c e expected) (checkExpr c e' expected)
  | _, _, .path h, expected => filed_mirrors hP h.id (checkPath_mirrors hP h _ _)
  | _, _, .int h, _ => filed_mirrors hP h.id (.pure _)
  | _, _, .str h, _ => filed_mirrors hP h.id (.pure _)
  | _, _, .borrow h hsubject, expected => by
    rw [checkExpr_borrow, checkExpr_borrow]
    exact filed_mirrors hP h.id <| (Mirrors.lift _).bind fun _ =>
      (checkExpr_mirrors hP hsubject _).bind fun _ => .pure _
  | _, _, .deref h hsubject, expected => by
    rw [checkExpr_deref, checkExpr_deref]
    exact filed_mirrors hP h.id <| (checkExpr_mirrors hP hsubject _).bind fun _ =>
      derefType_mirrors h.span _
  | _, _, .field h hsubject, expected => by
    rw [checkExpr_field, checkExpr_field]
    exact filed_mirrors hP h.id <| (checkExpr_mirrors hP hsubject _).bind fun _ => .pure _
  -- by induction on the pair: the parts are checked first, and `Spreads` takes the rest from there
  | _, _, .call h hcallee hargs, expected => by
    rw [checkExpr_call, checkExpr_call]
    exact filed_mirrors hP h.id <| (checkExpr_mirrors hP hcallee _).bind fun _ =>
      Mirrors.spreads.callRest h.span hcallee.node.span (length_of_alike hargs)
        (checkArgs_mirrors hP hargs) _
  -- the receiver may be filed as adjusted, at the identity of the paired receiver
  | _, _, .methodCall h hreceiver hargs, expected => by
    rw [checkExpr_methodCall, checkExpr_methodCall]
    exact filed_mirrors hP h.id <| (checkExpr_mirrors hP hreceiver _).bind fun _ =>
      Mirrors.spreads.methodRest hP h (Mirrors.spreads.adjusts hP hreceiver.node.id)
        (length_of_alike hargs) (checkArgs_mirrors hP hargs) _
  | _, _, .closure h hparams hbody, expected => by
    rw [checkExpr_closure, checkExpr_closure, length_params hparams]
    exact filed_mirrors hP h.id <| (Mirrors.lift _).bind fun _ => .scope <|
      Mirrors.spreads.closureInside hparams
        (Mirrors.spreads.accepts hP hbody.node (checkExpr_mirrors hP hbody))

/-- Arguments that are alike are checked in the same way. -/
theorem checkArgs_mirrors (hP : OneToOne P) : {es es' : List Expr} → AlikeAll P es es' →
    (expected : List (Option Ty)) → Mirrors P (checkArgs c es expected) (checkArgs c es' expected)
  | _, _, .nil, _ => .pure ()
  | _, _, .cons h hs, expected => by
    rw [checkArgs_cons, checkArgs_cons]
    exact (checkExpr_mirrors hP h _).bind fun _ => (coerceTo_mirrors hP h.node _ _).bind fun _ =>
      checkArgs_mirrors hP hs _

end

end Typing

end ClosureLint
