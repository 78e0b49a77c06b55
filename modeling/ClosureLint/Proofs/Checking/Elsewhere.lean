import ClosureLint.Proofs.Checking.Around
import ClosureLint.Proofs.Checking.Headers
import ClosureLint.Proofs.Checking.Programs

/-!
# Checking a program that stands elsewhere

A program is declared, lowered, numbered and checked without a look at where anything stands in its
text. So the same program elsewhere gets the same results, for the same trees elsewhere, and the same
diagnostics elsewhere.

* `checkEach_relocate` — bodies that stand elsewhere.
* `GoesOn`, `check_restated` — what it takes of two declarations for the checks of the bodies to go
  alike, and that they do.
* `declare_relocate`, `check_relocate` — programs that stand elsewhere.
-/

namespace ClosureLint.Typing

open ClosureLint.Core
open ClosureLint.Syntax (FunctionDef ImplDef Program StructDef TraitDef)

variable {g : Loc → Loc} {A : Syntax.Path → Prop} {V : Decl → Decl → Prop} {file : Option String}
  {names names' : StructNames} {d d' : Declared} {D D' : List Diagnostic}

/-- The same body elsewhere. -/
def Body.relocate (g : Loc → Loc) (b : Body) : Body :=
  { b with function := b.function.relocate g, stmts := b.stmts.map (Syntax.Stmt.relocate g) }

theorem Body.lowered_relocate (b : Body) :
    (b.relocate g).lowered file = (b.lowered file).relocate g :=
  lowerFunction_relocate { file := file } b.function b.stmts

/-- **Bodies that stand elsewhere** are checked in the same way. -/
theorem checkEach_relocate
    (hc : ∀ selfType,
      (contextOf file names d selfType).Accords A V (contextOf file names' d' selfType))
    {fs : List Function} (hfs : ∀ f ∈ fs, ∀ path ∈ f.body.stmts.flatMap Stmt.paths, A path)
    (signatures : List (Ty × Option Ty)) :
    Repeats g V D D' (checkEach file names d fs signatures)
      (checkEach file names' d' (fs.map (Function.relocate g)) signatures) := by
  induction fs generalizing signatures with
  | nil => exact .pure ()
  | cons f fs ih =>
    obtain ⟨hf, hfs⟩ := List.forall_mem_cons.mp hfs
    cases signatures with
    | nil => exact .pure ()
    | cons signature signatures =>
      exact (checkBody_relocate (hc signature.2) f signature.1 hf).bind fun _ => ih hfs signatures

/-- The paths of bodies that are lowered and numbered. -/
theorem paths_numberAll {bodies : List Body}
    (h : ∀ b ∈ bodies, ∀ path ∈ b.stmts.flatMap Syntax.Stmt.paths, A path) (next : NodeId) :
    ∀ f ∈ Function.numberAll next (bodies.map (Body.lowered file)),
      ∀ path ∈ f.body.stmts.flatMap Stmt.paths, A path := by
  induction bodies generalizing next with
  | nil => exact List.forall_mem_nil _
  | cons b bodies ih =>
    obtain ⟨hb, hbodies⟩ := List.forall_mem_cons.mp h
    rw [List.map_cons, Function.numberAll, List.forall_mem_cons, Body.lowered, paths_lowerFunction]
    exact ⟨hb, ih hbodies _⟩

/-- The bodies of the second declarations are those of the first, elsewhere; their paths are in `A`,
and mean the same. -/
structure GoesOn (g : Loc → Loc) (A : Syntax.Path → Prop) (V : Decl → Decl → Prop)
    (file : Option String) (names names' : StructNames) (d d' : Declared) : Prop where
  contexts : ∀ selfType,
    (contextOf file names d selfType).Accords A V (contextOf file names' d' selfType)
  written : ∀ b ∈ d.bodies, ∀ path ∈ b.stmts.flatMap Syntax.Stmt.paths, A path
  lowered : d'.bodies.map (Body.lowered file)
    = (d.bodies.map (Body.lowered file)).map (Function.relocate g)
  signatures : d'.bodies.map Body.signature = d.bodies.map Body.signature
  diagnostics : d'.diagnostics = d.diagnostics.map (Diagnostic.relocate g)

/-- **Programs with such declarations** are checked alike. -/
theorem check_restated {p p' : Program} {checked : Checked} (h : check file p = .ok checked)
    (hd : Gives (declare file p) {} () d) (hd' : Gives (declare file p') {} () d')
    (hgoes : GoesOn g A V file (structNames p) (structNames p') d d') :
    ∃ tables, checked.tables.Accords V tables ∧ checked.registry = d.registry ∧
      check file p' = .ok ⟨checked.functions.map (Function.relocate g), tables, d'.registry,
        checked.diagnostics.map (Diagnostic.relocate g),
        if p'.source.isEmpty then none else some p'.source⟩ := by
  obtain ⟨declared, final, hdeclared, hb, he⟩ := check_eq_ok h
  obtain rfl : declared = d := (hd.unique hdeclared).2
  obtain ⟨hfunctions, heach⟩ := (checkBodies_iff _).mp hb
  -- The bodies are lowered and numbered as before, and have the signatures that they had.
  have hfunctions' : Function.numberAll 1 (d'.bodies.map (Body.lowered file))
      = checked.functions.map (Function.relocate g) := by
    rw [hgoes.lowered, Function.numberAll_relocate, ← hfunctions]
  have hfs : ∀ f ∈ checked.functions, ∀ path ∈ f.body.stmts.flatMap Stmt.paths, A path := by
    rw [hfunctions]
    exact paths_numberAll hgoes.written 1
  -- the check starts from what the declarations have reported
  have hstart : Elsewhere g V [] [] { diagnostics := declared.diagnostics }
      { diagnostics := d'.diagnostics } :=
    ⟨rfl, ⟨rfl, rfl, .nil, .nil⟩, declared.diagnostics, rfl, hgoes.diagnostics⟩
  obtain ⟨final', heach', -, htables, ds, hds, hds'⟩ :=
    (checkEach_relocate hgoes.contexts hfs _).runs heach hstart
  rw [← hgoes.signatures] at heach'
  have hbodies' : Gives (checkBodies file (structNames p') d' 1 d'.bodies)
      { diagnostics := d'.diagnostics } (checked.functions.map (Function.relocate g)) final' :=
    (checkBodies_iff _).mpr ⟨hfunctions'.symm, heach'⟩
  have hdiagnostics : final'.diagnostics = checked.diagnostics.map (Diagnostic.relocate g) := by
    rw [hds', he, hds]
    rfl
  refine ⟨final'.tables, ?_, ?_, ?_⟩
  · rwa [he]
  · rw [he]
  · rw [check_of_gives hd' hbodies', hdiagnostics]

/-! ### Declarations -/

/-- The bodies stand elsewhere. -/
def BodiesElsewhere (g : Loc → Loc) : BodyRelation := fun bs bs' => bs' = bs.map (Body.relocate g)

theorem adds_relocate (f : FunctionDef) :
    Adds g (fun _ => True) (BodiesElsewhere g) (BodiesElsewhere g) f (f.relocate g) where
  header := by
    unfold FunctionDef.header FunctionDef.relocate
    cases f.body <;> rfl
  written _ _ _ _ := trivial
  skipped _ _ h := h
  added {bs bs' stmts stmts'} type selfType hbody hbody' h := by
    -- a declared body is added with the statements that the relocated function has
    have hstmts : stmts' = stmts.map (Syntax.Stmt.relocate g) := by
      rw [FunctionDef.relocate, hbody] at hbody'
      exact (Option.some.inj hbody').symm
    unfold BodiesElsewhere at h ⊢
    rw [h, hstmts, List.map_append]
    rfl

theorem addsTrait_relocate (d : TraitDef) :
    AddsTrait g (fun _ => True) (BodiesElsewhere g) (BodiesElsewhere g) d (d.relocate g) :=
  ⟨rfl, rfl, trivial, .map adds_relocate _⟩

theorem addsImpl_relocate (d : ImplDef) :
    AddsImpl g (fun _ => True) (BodiesElsewhere g) (BodiesElsewhere g) d (d.relocate g) :=
  ⟨rfl, rfl, rfl, fun _ _ => trivial, fun _ _ => trivial, .map adds_relocate _⟩

/-- **A program that stands elsewhere** declares the same. -/
theorem declare_relocate (p : Program) (source : String) :
    Redeclares g Eq (BodiesElsewhere g) (BodiesElsewhere g) (declare file p)
      (declare file (p.relocate g source)) :=
  declare_restated (BodiesElsewhere g) (BodiesElsewhere g) registersAlike_eq
    ⟨rfl, fun _ _ _ _ => trivial, .map addsTrait_relocate _, .map addsImpl_relocate _,
      .map (fun f => ⟨trivial, adds_relocate f⟩) _⟩

/-! ### Programs -/

/-- The same checked program elsewhere, with another text. -/
def Checked.relocate (g : Loc → Loc) (source : String) (c : Checked) : Checked where
  functions := c.functions.map (Function.relocate g)
  tables := c.tables
  registry := c.registry
  diagnostics := c.diagnostics.map (Diagnostic.relocate g)
  source := if source.isEmpty then none else some source

/-- **A program that stands elsewhere** is checked to the same. -/
theorem check_relocate {p : Program} {checked : Checked} (h : check file p = .ok checked)
    (source : String) : check file (p.relocate g source) = .ok (checked.relocate g source) := by
  obtain ⟨declared, -, hd, -, -⟩ := check_eq_ok h
  obtain ⟨declared', hd', hregistry, htargets, hdiagnostics, hbodies⟩ :=
    (declare_relocate (g := g) p source).runs hd
      (⟨rfl, rfl, rfl, rfl⟩ : Restated _ Eq (BodiesElsewhere g) {} {})
  have hnames : structNames (p.relocate g source) = structNames p := structNames_relocate rfl
  have hgoes : GoesOn g (fun _ => True) Eq file (structNames p) (structNames (p.relocate g source))
      declared declared' := by
    refine ⟨fun selfType => ?_, fun _ _ _ _ => trivial, ?_, ?_, hdiagnostics⟩
    · rw [hnames, contextOf_congr hregistry.symm htargets]
      exact .refl _
    · rw [hbodies, List.map_map, List.map_map]
      exact List.map_congr_left fun b _ => b.lowered_relocate
    · rw [hbodies, List.map_map]
      rfl
  obtain ⟨tables, htables, hsame, hcheck⟩ := check_restated h hd hd' hgoes
  rw [hcheck, htables.eq, ← hregistry, ← hsame]
  rfl

end ClosureLint.Typing
