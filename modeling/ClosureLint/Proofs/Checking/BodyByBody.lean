import ClosureLint.Proofs.Checking.Around
import ClosureLint.Proofs.Checking.Programs
import ClosureLint.Proofs.Checking.Relocated
import ClosureLint.Proofs.Core.AlikeWalks

/-!
# A program is checked body by body

All bodies share the scopes, the results and the diagnostics. But each of them finds no scope open and
nothing filed under its nodes, and leaves it so to the next. So what is found out about a body depends
on the body and on the declarations, and on nothing else.

* `BodyCheck`, `BodyChecks` — the checks of the bodies one after the other, and what each reports.
* `CheckedBy` — how a program comes to be checked.
* `Ready` — the state in which a body is checked.
* `SameFindings` — two checks of a body find out the same about it, with its nodes under other
  identities.
* `checkBody_again` — a body that is checked again, numbered from elsewhere on.
* `sameFindings_of_bodyChecks` — bodies that are checked again behind others.
-/

namespace ClosureLint.Typing

open ClosureLint.Core
open ClosureLint.Syntax (Program)

variable {c : Context} {s s' s₁ s₂ : State} {file : Option String} {names : StructNames}
  {d d' : Declared} {next next' : NodeId}

/-! ### Body by body -/

/-- The check of a body: the body, its function as it is numbered, and what is reported. -/
structure BodyCheck where
  body : Body
  function : Function
  reported : List Diagnostic

/-- Bodies are checked one after the other, numbered from `next` on: `checks` on the way from `s` to
`s'`. -/
inductive BodyChecks (file : Option String) (names : StructNames) (d : Declared) :
    NodeId → State → List BodyCheck → State → Prop
  | nil {next : NodeId} {s : State} : BodyChecks file names d next s [] s
  | cons {next : NodeId} {s s₁ s₂ : State} {b : Body} {reported : List Diagnostic}
    {checks : List BodyCheck} :
    Gives (checkBody (contextOf file names d b.selfType) ((b.lowered file).number next).1 b.type)
      s () s₁ →
    s₁.diagnostics = s.diagnostics ++ reported →
    BodyChecks file names d ((b.lowered file).number next).2 s₁ checks s₂ →
    BodyChecks file names d next s
      (⟨b, ((b.lowered file).number next).1, reported⟩ :: checks) s₂

/-- Checking several bodies is checking them one after the other. -/
theorem bodyChecks_iff {bodies : List Body} {fs : List Function} :
    Gives (checkBodies file names d next bodies) s fs s' ↔
      ∃ checks, BodyChecks file names d next s checks s' ∧ checks.map BodyCheck.body = bodies ∧
        checks.map BodyCheck.function = fs := by
  constructor
  · intro h
    induction bodies generalizing next s fs with
    | nil =>
      rw [checkBodies] at h
      obtain ⟨rfl, rfl⟩ := gives_pure.mp h
      exact ⟨[], .nil, rfl, rfl⟩
    | cons b bodies ih =>
      rw [checkBodies] at h
      obtain ⟨_, s₁, h₁, h⟩ := gives_bind.mp h
      obtain ⟨rest, h₂, rfl⟩ := gives_bind_pure.mp h
      -- a body only ever adds to what is reported
      obtain ⟨reported, hreported⟩ := (checkBody_extends h₁).diagnostics
      obtain ⟨checks, hchecks, hbodies, hfunctions⟩ := ih h₂
      exact ⟨_, .cons h₁ hreported.symm hchecks, congrArg (b :: ·) hbodies,
        congrArg (_ :: ·) hfunctions⟩
  · rintro ⟨checks, h, rfl, rfl⟩
    induction h with
    | nil => exact gives_pure.mpr ⟨rfl, rfl⟩
    | cons h₁ _ _ ih =>
      exact gives_bind.mpr ⟨(), _, h₁, gives_bind.mpr ⟨_, _, ih, gives_pure.mpr ⟨rfl, rfl⟩⟩⟩

/-- What is reported in the end is what was reported before, and then what each body reports. -/
theorem BodyChecks.diagnostics {checks : List BodyCheck}
    (h : BodyChecks file names d next s checks s') :
    s'.diagnostics = s.diagnostics ++ checks.flatMap BodyCheck.reported := by
  induction h with
  | nil => exact (List.append_nil _).symm
  | cons _ hreported _ ih => rw [ih, hreported, List.flatMap_cons, List.append_assoc]

/-- What bodies touch that are numbered from `next` on. -/
theorem BodyChecks.extends {checks : List BodyCheck}
    (h : BodyChecks file names d next s checks s') : Extends (next ≤ ·) (next ≤ ·) s s' := by
  induction h with
  | nil => exact .refl _
  | @cons next _ _ _ b _ _ h₁ _ _ ih =>
    have hnext : next ≤ ((b.lowered file).number next).2 :=
      Int.le_of_lt (Function.lt_number _ next)
    exact ((checkBody_extends h₁).mono (fun _ h => h.1) fun _ h => h.1).trans
      (ih.mono (fun _ h => Int.le_trans hnext h) fun _ h => Int.le_trans hnext h)

/-- How the program `p` comes to be checked: its declarations give `declared`, and its bodies are
checked one after the other. -/
structure CheckedBy (file : Option String) (p : Program) (declared : Declared)
    (checks : List BodyCheck) (checked : Checked) : Prop where
  declares : Gives (declare file p) {} () declared
  bodies : checks.map BodyCheck.body = declared.bodies
  checks : ∃ final, BodyChecks file (structNames p) declared 1
      { diagnostics := declared.diagnostics } checks final ∧
    checked = ⟨checks.map BodyCheck.function, final.tables, declared.registry, final.diagnostics,
      if p.source.isEmpty then none else some p.source⟩

/-- **Every checked program** comes about in this way. -/
theorem check_iff_checkedBy {p : Program} {checked : Checked} :
    check file p = .ok checked ↔ ∃ declared checks, CheckedBy file p declared checks checked := by
  constructor
  · intro h
    obtain ⟨declared, final, hd, hb, he⟩ := check_eq_ok h
    obtain ⟨checks, hchecks, hbodies, hfunctions⟩ := bodyChecks_iff.mp hb
    exact ⟨declared, checks, hd, hbodies, final, hchecks, by rw [hfunctions]; exact he⟩
  · rintro ⟨declared, checks, hd, hbodies, final, hchecks, rfl⟩
    exact check_of_gives hd (bodyChecks_iff.mpr ⟨checks, hchecks, hbodies, rfl⟩)

/-- The diagnostics of a checked program are those of its declarations, and then those of its bodies
in turn. -/
theorem CheckedBy.diagnostics {p : Program} {declared : Declared} {checks : List BodyCheck}
    {checked : Checked} (h : CheckedBy file p declared checks checked) :
    checked.diagnostics = declared.diagnostics ++ checks.flatMap BodyCheck.reported := by
  obtain ⟨final, hchecks, rfl⟩ := h.checks
  exact hchecks.diagnostics

/-! ### The state in which a body is checked -/

/-- No scope is open, and nothing is filed under nodes from `next` on. -/
structure Ready (next : NodeId) (s : State) : Prop where
  scopes : s.scopes = []
  fresh : FreshFrom next s.tables

theorem ready_start (ds : List Diagnostic) : Ready next { diagnostics := ds } := ⟨rfl, .refl {}⟩

/-- `i` is one of the `w` identities from `a` on, and `j` stands as far behind `a'`. -/
def Moved (a a' w i j : Int) : Prop := a ≤ i ∧ i < a + w ∧ j = i + (a' - a)

theorem moved_oneToOne {a a' w : Int} : OneToOne (Moved a a' w) := by
  rintro i j i' j' ⟨-, -, hj⟩ ⟨-, -, hj'⟩
  change @Eq Int _ _ ↔ @Eq Int _ _
  omega

theorem moved_along (a a' w : Int) : Along (Moved a a' w) a a' w := by
  intro k hk hkw
  refine ⟨?_, ?_, ?_⟩ <;> omega

/-- A function that is numbered may be numbered anew. -/
theorem number_number (f : Function) (a a' : NodeId) : (f.number a).1.number a' = f.number a' := by
  rw [← Function.number_unnumbered, Function.unnumbered_number, Function.number_unnumbered]

theorem number_snd_eq (f : Function) (a a' : NodeId) :
    (f.number a').2 = a' + (f.number a).1.width := by
  rw [← number_number f a a', Function.number_snd]

/-- A function numbered from `a` on, and the same from `a'` on. -/
theorem number_alike (f : Function) (a a' : NodeId) :
    AlikeFunction (Moved a a' (f.number a).1.width) (f.number a).1 (f.number a').1 := by
  have hnumber : ((f.number a).1.number a).1 = (f.number a).1 := by rw [number_number]
  have halike := alikeFunction_number hnumber (moved_along a a' _)
  rwa [number_number] at halike

/-- A body leaves to the next what it needs. -/
theorem Ready.later {f : Function} {type : Ty} (hs : Ready next s)
    (h : Gives (checkBody c (f.number next).1 type) s () s') : Ready (f.number next).2 s' := by
  refine ⟨?_, hs.fresh.later h⟩
  -- The inside of the body goes with itself, so its names stay within its own scope.
  have halike := number_alike f next next
  have hinside (types : List Ty) :=
    Mirrors.spreads.bodyInside (c := c) halike.params
      (stmts_mirrors moved_oneToOne halike.stmts) types
  rw [checkBody_eq] at h
  obtain ⟨types, -, hscope⟩ := gives_lift_bind.mp h
  have hnames := (hinside types).names_inScope hscope
  rw [State.names, State.names, hs.scopes] at hnames
  exact List.map_eq_nil_iff.mp hnames

/-- Where nothing is filed, nothing differs. -/
theorem paired_of_ready {w : Int} (hs : Ready next s) (hs' : Ready next' s') :
    s.tables.Paired (Moved next next' w) s'.tables := by
  -- both identities are ones that nothing is filed under yet
  have hbounds {i j : NodeId} (h : Moved next next' w i j) :
      @LE.le Int _ next i ∧ @LE.le Int _ next' j := by
    obtain ⟨hi, -, hj⟩ := h
    exact ⟨hi, by omega⟩
  obtain ⟨ht, hm, hp, ha⟩ := hs.fresh
  obtain ⟨ht', hm', hp', ha'⟩ := hs'.fresh
  refine ⟨fun i j h => ?_, fun i j h => ?_, fun i j h => ?_, fun i j h => ?_⟩
  · exact (ht' j (hbounds h).2).trans (ht i (hbounds h).1).symm
  · exact (hm' j (hbounds h).2).trans (hm i (hbounds h).1).symm
  · exact (hp' j (hbounds h).2).trans (hp i (hbounds h).1).symm
  · rw [ha' j (hbounds h).2, ha i (hbounds h).1]
    exact iff_of_false List.not_mem_nil List.not_mem_nil

/-- **A body that is checked again**, behind other bodies and with other identities, reports the same,
and gets the same results. -/
theorem checkBody_again {f : Function} {type : Ty} {reported : List Diagnostic} (hs : Ready next s)
    (hs' : Ready next' s') (h : Gives (checkBody c (f.number next).1 type) s () s₁)
    (hreported : s₁.diagnostics = s.diagnostics ++ reported) :
    ∃ s₁', Gives (checkBody c (f.number next').1 type) s' () s₁' ∧
      s₁'.diagnostics = s'.diagnostics ++ reported ∧
      s₁.tables.Paired (Moved next next' (f.number next).1.width) s₁'.tables := by
  -- First the diagnostics of the other run are put in front, and then the identities are changed.
  have hstart : Elsewhere (fun l => l) Eq s.diagnostics s'.diagnostics s
      { s with diagnostics := s'.diagnostics } :=
    ⟨rfl, .refl _, [], (List.append_nil _).symm, (List.append_nil _).symm⟩
  obtain ⟨s₂, h₂, -, htables, ds, hds, hds'⟩ :=
    (checkBody_relocate (.refl c) (f.number next).1 type fun _ _ => trivial).runs h hstart
  rw [Function.relocate_id] at h₂
  obtain rfl : ds = reported := List.append_cancel_left (hds.symm.trans hreported)
  have hmatches : Matches (Moved next next' (f.number next).1.width)
      { s with diagnostics := s'.diagnostics } s' :=
    ⟨hs'.scopes.trans hs.scopes.symm, rfl, paired_of_ready ⟨hs.scopes, hs.fresh⟩ hs'⟩
  have halike := number_alike f next next'
  obtain ⟨s₃, h₃, hmatches₃⟩ := (Mirrors.spreads.body halike.params
    (stmts_mirrors moved_oneToOne halike.stmts) type).runs h₂ hmatches
  refine ⟨s₃, h₃, ?_, htables.eq ▸ hmatches₃.tables⟩
  rw [hmatches₃.diagnostics, hds', List.map_congr_left fun d _ => Diagnostic.relocate_id d,
    List.map_id']

/-- What follows a body leaves its results alone. -/
theorem paired_later {w : Int} (h : s₁.tables.Paired (Moved next next' w) s₂.tables)
    (hs : Extends (next + w ≤ ·) (next + w ≤ ·) s₁ s)
    (hs' : Extends (next' + w ≤ ·) (next' + w ≤ ·) s₂ s') :
    s.tables.Paired (Moved next next' w) s'.tables := by
  -- both identities are below those that are written later
  have hbounds {i j : NodeId} (h : Moved next next' w i j) :
      ¬ @LE.le Int _ (next + w) i ∧ ¬ @LE.le Int _ (next' + w) j := by
    obtain ⟨-, hi, hj⟩ := h
    exact ⟨by omega, by omega⟩
  obtain ⟨ht, hm, hp, ha⟩ := hs.tables
  obtain ⟨ht', hm', hp', ha'⟩ := hs'.tables
  refine ⟨fun i j hij => ?_, fun i j hij => ?_, fun i j hij => ?_, fun i j hij => ?_⟩
  · rw [ht' j (hbounds hij).2, ht i (hbounds hij).1]
    exact h.types i j hij
  · rw [hm' j (hbounds hij).2, hm i (hbounds hij).1]
    exact h.methods i j hij
  · rw [hp' j (hbounds hij).2, hp i (hbounds hij).1]
    exact h.paths i j hij
  · rw [ha' j (hbounds hij).2, ha i (hbounds hij).1]
    exact h.adjusted i j hij

/-! ### The same findings -/

/-- The second results say of `e'` what the first say of `e`, and `e'` is `e` but for identities,
which are moved by `shift`. -/
structure SameAnswers (q q' : Query) (shift : Int) (e e' : Expr) : Prop where
  unnumbered : e'.unnumbered = e.unnumbered
  id : e'.id = e.id + shift
  typeOf : q'.typeOf e' = q.typeOf e
  isAdjusted : q'.isAdjusted e' = q.isAdjusted e
  resolution : q'.tables.methods.lookup e'.id = q.tables.methods.lookup e.id
  path? : q'.path? e' = q.path? e

/-- Two checks of the same body report the same and find out the same about its expressions, one by
one in the order of the walk. Only identities are moved. -/
structure SameFindings (q q' : Query) (k k' : BodyCheck) : Prop where
  body : k'.body = k.body
  reported : k'.reported = k.reported
  answers : ∃ shift, List.Forall₂ (SameAnswers q q' shift) k.function.walk k'.function.walk

theorem sameAnswers_of_alike {q q' : Query} {w : Int} {e e' : Expr}
    (hq : q.tables.Paired (Moved next next' w) q'.tables) (h : Alike (Moved next next' w) e e') :
    SameAnswers q q' (next' - next) e e' where
  unnumbered := h.unnumbered
  id := h.node.id.2.2
  typeOf := congrArg (Option.getD · Ty.unknown) (hq.types _ _ h.node.id)
  isAdjusted := by
    rw [Bool.eq_iff_iff]
    unfold Query.isAdjusted
    rw [List.contains_iff_mem, List.contains_iff_mem]
    exact hq.adjusted _ _ h.node.id
  resolution := hq.methods _ _ h.node.id
  path? := hq.paths _ _ h.node.id

section

variable {q q' : Query} {b : Body} {reported : List Diagnostic} {checks checks' : List BodyCheck}
  (hregistry : d'.registry = d.registry) (htargets : d'.targets = d.targets)
  (hq : q.tables = s.tables) (hq' : q'.tables = s'.tables)

include hregistry htargets hq hq'

/-- The first of the bodies in both runs, when it is the same. -/
theorem sameFindings_first {k' : BodyCheck} (hs₁ : Ready next s₁) (hs₂ : Ready next' s₂)
    (h : BodyChecks file names d next s₁
      (⟨b, ((b.lowered file).number next).1, reported⟩ :: checks) s)
    (h' : BodyChecks file names d' next' s₂ (k' :: checks') s') (hbody : k'.body = b) :
    SameFindings q q' ⟨b, ((b.lowered file).number next).1, reported⟩ k' := by
  cases h with
  | cons h₁ hreported hrest =>
  cases h' with
  | cons h₁' hreported' hrest' =>
  dsimp only at hbody
  subst hbody
  rw [contextOf_congr hregistry htargets] at h₁'
  -- the second run is the first one again, as checking gives one result
  obtain ⟨s₄, h₄, hreported₄, hpaired⟩ := checkBody_again hs₁ hs₂ h₁ hreported
  obtain rfl : _ = s₄ := congrArg Prod.snd (Except.ok.inj (h₁'.symm.trans h₄))
  -- the bodies behind file results for nodes of their own
  have hextends := hrest.extends
  have hextends' := hrest'.extends
  rw [number_snd_eq _ next] at hextends hextends'
  have hfinal := paired_later hpaired hextends hextends'
  rw [← hq, ← hq'] at hfinal
  refine ⟨rfl, List.append_cancel_left (hreported'.symm.trans hreported₄), next' - next, ?_⟩
  exact (walk_of_stmts (number_alike _ next next').stmts).imp fun _ _ => sameAnswers_of_alike hfinal

/-- **Bodies that are checked again** behind others: each finds the same. -/
theorem sameFindings_of_bodyChecks (h : BodyChecks file names d next s₁ checks s)
    (h' : BodyChecks file names d' next' s₂ checks' s') (hs₁ : Ready next s₁)
    (hs₂ : Ready next' s₂) (hbodies : checks'.map BodyCheck.body = checks.map BodyCheck.body) :
    List.Forall₂ (SameFindings q q') checks checks' := by
  induction h generalizing next' s₂ checks' with
  | nil =>
    obtain rfl := List.map_eq_nil_iff.mp hbodies
    exact .nil
  | cons h₁ hreported hrest ih =>
    obtain ⟨k', rest', rfl, hbody, hbodies'⟩ := List.map_eq_cons_iff.mp hbodies
    refine .cons (sameFindings_first hregistry htargets hq hq' hs₁ hs₂ (.cons h₁ hreported hrest) h'
      hbody) ?_
    cases h' with
    | cons h₁' _ hrest' => exact ih hq hrest' (hs₁.later h₁) (hs₂.later h₁') hbodies'

/-- **Bodies of which one is another** in the second run: the others find the same. -/
theorem oneOff_of_bodyChecks {S : Body → Body → Prop}
    (h : BodyChecks file names d next s₁ checks s)
    (h' : BodyChecks file names d' next' s₂ checks' s') (hs₁ : Ready next s₁)
    (hs₂ : Ready next' s₂)
    (hbodies : OneOff Eq S (checks.map BodyCheck.body) (checks'.map BodyCheck.body)) :
    OneOff (SameFindings q q') (fun k k' => S k.body k'.body) checks checks' := by
  induction h generalizing next' s₂ checks' with
  | nil => cases hbodies
  | cons h₁ hreported hrest ih =>
    cases h' with
    | nil => cases hbodies
    | cons h₁' hreported' hrest' =>
      have hready := hs₁.later h₁
      have hready' := hs₂.later h₁'
      cases hbodies with
      -- behind the body that differs, all are the same again
      | here hbody hbodies =>
        rw [List.forall₂_eq_eq_eq] at hbodies
        exact .here hbody (sameFindings_of_bodyChecks hregistry htargets hq hq' hrest hrest' hready
          hready' hbodies.symm)
      | there hbody hbodies =>
        exact .there (sameFindings_first hregistry htargets hq hq' hs₁ hs₂
          (.cons h₁ hreported hrest) (.cons h₁' hreported' hrest') hbody.symm)
          (ih hq hrest' hready hready' hbodies)

end

end ClosureLint.Typing
