import ClosureLint.Proofs.Checking.Elsewhere
import ClosureLint.Proofs.Coupling
import ClosureLint.Proofs.Lexing
import ClosureLint.Lint.Run

/-!
# Findings in a program that stands at two places

The detectors look at a text in one place only: where they cut out what is called. Of a program that
stands at two places they find out the same, and where they cut out texts, these are to be compared.

* `LexAlike` — texts that fall into the same tokens.
* `SameVerdict` — diagnostics that say the same about corresponding spans.
* `Corresponds` — what is asked of two places and of the spans there.
* `lintProgram_relocate` — a program at two places that correspond is given the same verdict at both.
-/

namespace ClosureLint

open ClosureLint.Core
open ClosureLint.Typing

/-- Two texts fall into the same tokens, up to their ends or up to the same character. -/
structure LexAlike (s t : String) : Prop where
  tokens : faces (lex s).tokens = faces (lex t).tokens
  stuck : (lex s).stuck.map Prod.fst = (lex t).stuck.map Prod.fst

theorem LexAlike.refl (s : String) : LexAlike s s := ⟨rfl, rfl⟩

/-- Suggestions that say the same about spans related by `R`. -/
structure SameSuggestion (R : Span → Span → Prop) (s s' : Suggestion) : Prop where
  message : s.message = s'.message
  replacement : LexAlike s.replacement s'.replacement
  span : R s.span s'.span
  applicability : s.applicability = s'.applicability

/-- Diagnostics that say the same about spans related by `R`. -/
structure SameVerdict (R : Span → Span → Prop) (d d' : Diagnostic) : Prop where
  message : d.message = d'.message
  code : d.code = d'.code
  phase : d.phase = d'.phase
  severity : d.severity = d'.severity
  span : R d.span d'.span
  notes : d.notes = d'.notes
  suggestions : List.Forall₂ (SameSuggestion R) d.suggestions d'.suggestions

/-- The places to which `g` and `g'` carry a program correspond: spans related by `R` are ordered alike
and cut out texts that fall into the same tokens. -/
structure Corresponds (R : Span → Span → Prop) (g g' : Loc → Loc) (source source' : Option String) :
    Prop where
  span : ∀ s : Span, R (s.relocate g) (s.relocate g')
  le : ∀ {s s' t t'}, R s s' → R t t' → s.le t = s'.le t'
  text : ∀ {s s'}, R s s' → Option.Rel LexAlike (s.textIn source) (s'.textIn source')

variable {R : Span → Span → Prop} {g g' : Loc → Loc} {q q' : Query} {config : Config}

theorem SameVerdict.hasErrors {ds ds' : List Diagnostic} (h : List.Forall₂ (SameVerdict R) ds ds') :
    ClosureLint.hasErrors ds = ClosureLint.hasErrors ds' := by
  induction h with
  | nil => rfl
  | cons hd _ ih =>
    unfold ClosureLint.hasErrors at ih ⊢
    -- errors are told from warnings by their severity
    rw [List.any_cons, List.any_cons, ih, Diagnostic.isError, Diagnostic.isError, hd.severity]

/-- A diagnostic at two places. -/
theorem SameVerdict.relocate (hR : ∀ s : Span, R (s.relocate g) (s.relocate g')) (d : Diagnostic) :
    SameVerdict R (d.relocate g) (d.relocate g') where
  message := rfl
  code := rfl
  phase := rfl
  severity := rfl
  span := hR d.span
  notes := rfl
  suggestions := forall₂_maps fun s _ => ⟨rfl, .refl _, hR s.span, rfl⟩

namespace Eta

variable {params : List Param} {call callee receiver : Expr} {method : String} {args : List Expr}

/-! ### One closure -/

theorem forwards_relocate :
    forwards (params.map (Param.relocate g)) (args.map (Expr.relocate g)) = forwards params args := by
  -- one parameter and one argument: neither names nor patterns have a place
  have hone (p : Param) (e : Expr) :
      forwardsOne (p.relocate g) (e.relocate g) = forwardsOne p e := by
    obtain ⟨n, pattern, declared⟩ := p
    cases pattern with
    | binding =>
      cases e with
      | path m segments =>
        -- only a path of one segment is a parameter
        rcases segments with - | ⟨_, - | ⟨_, _⟩⟩ <;> rfl
      | int | str | borrow | deref | field | call | methodCall | closure => rfl
    | tuple | ref | wildcard => rfl
  unfold forwards
  rw [List.zip_map, List.all_map]
  exact congrArg (List.all _) (funext fun pair => hone pair.1 pair.2)

section

variable (h : q.tables = q'.tables)
include h

theorem typeOf_relocate (e : Expr) : q.typeOf (e.relocate g) = q'.typeOf e := by
  rw [Query.typeOf, Query.typeOf, Expr.id_relocate, h]

theorem isAdjusted_relocate (e : Expr) : q.isAdjusted (e.relocate g) = q'.isAdjusted e := by
  rw [Query.isAdjusted, Query.isAdjusted, Expr.id_relocate, h]

theorem any_isAdjusted_relocate (es : List Expr) :
    (es.map (Expr.relocate g)).any q.isAdjusted = es.any q'.isAdjusted := by
  rw [List.any_map]
  exact congrArg (List.any es) (funext fun e => isAdjusted_relocate h e)

theorem method?_relocate (e : Expr) : q.method? (e.relocate g) = q'.method? e := by
  rw [Query.method?, Query.method?, Expr.id_relocate, h]

theorem methodOwner?_relocate (d : Decl) :
    methodOwner? q d (call.relocate g) (receiver.relocate g) = methodOwner? q' d call receiver := by
  have hsignature : q.signature? (call.relocate g) = q'.signature? call := by
    rw [Query.signature?, Query.signature?, method?_relocate h]
  rw [methodOwner?, methodOwner?, hsignature, typeOf_relocate h]

/-- What is called in another place is redundant there, with the text that it has there. -/
theorem checkCall_relocate :
    checkCall q (params.map (Param.relocate g)) (call.relocate g) (callee.relocate g)
        (args.map (Expr.relocate g))
      = (checkCall q' params call callee args).map fun _ => ⟨q.text? (callee.relocate g)⟩ := by
  unfold checkCall
  rw [List.length_map, List.length_map, isAdjusted_relocate h, any_isAdjusted_relocate h,
    typeOf_relocate h, forwards_relocate]
  -- each guard reads the tables, which go by identities
  split
  · rfl
  split
  · rfl
  split
  · rfl
  split <;> rfl

/-- The finding for a method call depends on no text. -/
theorem checkMethodCall_relocate :
    checkMethodCall q (params.map (Param.relocate g)) (call.relocate g) (receiver.relocate g) method
        (args.map (Expr.relocate g))
      = checkMethodCall q' params call receiver method args := by
  unfold checkMethodCall
  simp only [← List.map_cons, List.length_map, isAdjusted_relocate h, any_isAdjusted_relocate h,
    method?_relocate h, methodOwner?_relocate h, forwards_relocate]

end

/-- Findings with replacements that fall into the same tokens. -/
def SameFinding (f f' : Finding) : Prop := Option.Rel LexAlike f.replacement f'.replacement

theorem SameFinding.refl (f : Finding) : SameFinding f f := by
  unfold SameFinding
  cases f.replacement with
  | none => exact .none
  | some text => exact .some (.refl text)

/-- **A closure that stands at two places** is found redundant at both or at neither. -/
theorem checkClosure_relocate (h : Corresponds R g g' q.source q'.source) (ht : q.tables = q'.tables)
    (x : Expr) : Agrees (Option.Rel SameFinding) (checkClosure q (x.relocate g))
      (checkClosure q' (x.relocate g')) := by
  cases x with
  | closure n params ret body =>
    cases body with
    | call m callee args =>
      -- the text of the callee is all that is found out at the two places in two ways
      refine .pure ?_
      rw [Expr.relocateAll_eq_map, Expr.relocateAll_eq_map, checkCall_relocate ht,
        checkCall_relocate rfl]
      cases checkCall q' params (.call m callee args) callee args with
      | none => exact .none
      | some _ =>
        refine .some ?_
        unfold SameFinding Query.text?
        rw [Expr.span_relocate, Expr.span_relocate]
        exact h.text (h.span callee.span)
    | methodCall m receiver method args =>
      change Agrees _ (checkMethodCall _ _ (Expr.relocate g (.methodCall m receiver method args)) _ _ _)
        (checkMethodCall _ _ (Expr.relocate g' (.methodCall m receiver method args)) _ _ _)
      rw [Expr.relocateAll_eq_map, Expr.relocateAll_eq_map, checkMethodCall_relocate ht,
        checkMethodCall_relocate rfl]
      -- a method call is reported with a text of its own making, which is the same at both places
      refine .self (fun found => ?_) _
      cases found with
      | none => exact .none
      | some f => exact .some (.refl f)
    | path | int | str | borrow | deref | field | closure => exact .pure .none
  | path | int | str | borrow | deref | field | call | methodCall => exact .pure .none

/-! ### All closures -/

theorem candidates_relocate (e : Expr) :
    candidates (e.relocate g) = (candidates e).map (Expr.relocate g) := by
  cases e with
  | call => rw [Expr.relocate, candidates, candidates, Expr.relocateAll_eq_map]
  | methodCall =>
    rw [Expr.relocate, candidates, candidates, Expr.relocateAll_eq_map, List.map_cons]
  | path | int | str | borrow | deref | field | closure => rfl

theorem Finding.diagnostic_relocate (hR : ∀ s : Span, R (s.relocate g) (s.relocate g'))
    {f f' : Finding} (h : SameFinding f f') (l : Lint) (level : Level) (span : Span) :
    SameVerdict R (f.diagnostic l level (span.relocate g))
      (f'.diagnostic l level (span.relocate g')) where
  message := rfl
  code := rfl
  phase := rfl
  severity := rfl
  span := hR span
  notes := rfl
  -- the suggestion is there on both sides or on neither, and replaces what corresponds
  suggestions := by
    obtain ⟨replacement⟩ := f
    obtain ⟨replacement'⟩ := f'
    cases h with
    | none => exact .nil
    | some h => exact .cons ⟨rfl, h, hR span, rfl⟩ .nil

theorem checkPlace_relocate (h : Corresponds R g g' q.source q'.source) (ht : q.tables = q'.tables)
    (e : Expr) : Agrees (List.Forall₂ (SameVerdict R)) (checkPlace config q (e.relocate g))
      (checkPlace config q' (e.relocate g')) := by
  unfold checkPlace
  rw [candidates_relocate, candidates_relocate, Expr.span_relocate, Expr.span_relocate]
  -- whether an expression comes from a macro is kept with its extent
  change Agrees _ (if !config.isEnabled redundantClosure || e.span.fromMacro then _ else _)
    (if !config.isEnabled redundantClosure || e.span.fromMacro then _ else _)
  split
  · exact .pure .nil
  -- one closure after the other; those that are not found are dropped on both sides
  · refine .bind (V := List.Forall₂ (Option.Rel (SameVerdict R))) ?_ fun _ _ hfound =>
      .pure (List.rel_filterMap (fun _ _ hone => hone) hfound)
    refine .mapM (U := fun x x' => ∃ y, x = Expr.relocate g y ∧ x' = Expr.relocate g' y) ?_ ?_
    · rintro _ _ ⟨x, rfl, rfl⟩
      refine (checkClosure_relocate h ht x).bind fun found found' hfound => .pure ?_
      rw [Expr.span_relocate, Expr.span_relocate]
      cases hfound with
      | none => exact .none
      | some hf => exact .some (Finding.diagnostic_relocate h.span hf _ _ _)
    · exact forall₂_maps fun x _ => ⟨x, rfl, rfl⟩

end Eta

/-- **The findings at all places** of functions that stand at two places. -/
theorem findingsIn_relocate (q q' : Query) (h : Corresponds R g g' q.source q'.source)
    (ht : q.tables = q'.tables) (configs : List Config) (fs : List Function) :
    Agrees (List.Forall₂ (SameVerdict R)) (findingsIn configs q (fs.map (Function.relocate g)))
      (findingsIn configs q' (fs.map (Function.relocate g'))) := by
  -- the walk comes to the same expressions, each in its other place
  have hwalk (g : Loc → Loc) : (fs.map (Function.relocate g)).flatMap Function.walk
      = (fs.flatMap Function.walk).map (Expr.relocate g) := by
    rw [List.flatMap_map, List.map_flatMap]
    exact List.flatMap_congr fun f _ => f.walk_relocate
  unfold findingsIn
  dsimp only
  rw [hwalk g, hwalk g']
  refine .bind (V := List.Forall₂ (List.Forall₂ (List.Forall₂ (SameVerdict R)))) ?_
    fun _ _ hfound => .pure (List.rel_flatten (List.rel_flatten hfound))
  refine .mapM (U := fun x x' => ∃ y, x = Expr.relocate g y ∧ x' = Expr.relocate g' y) ?_ ?_
  · rintro _ _ ⟨e, rfl, rfl⟩
    refine .mapM (U := Eq) ?_ (List.forall₂_eq_eq_eq ▸ rfl)
    rintro c _ rfl
    exact Eta.checkPlace_relocate h ht e
  · exact forall₂_maps fun x _ => ⟨x, rfl, rfl⟩

/-- Lists that correspond are sorted alike by orders that correspond. -/
theorem forall₂_mergeSort {α β : Type} {S : α → β → Prop} {le : α → α → Bool} {le' : β → β → Bool}
    (hle : ∀ {a a' b b'}, S a a' → S b b' → le a b = le' a' b') {l : List α} {l' : List β}
    (h : List.Forall₂ S l l') : List.Forall₂ S (l.mergeSort le) (l'.mergeSort le') := by
  obtain ⟨hlength, hzip⟩ := List.forall₂_iff_zip.mp h
  have hpairs : ∀ p ∈ l.zip l', S p.1 p.2 := fun p hp => hzip hp
  -- the pairs are sorted, by their first entries as well as by their second ones
  let leFst (p r : α × β) : Bool := le p.1 r.1
  have hfst : ((l.zip l').mergeSort leFst).map Prod.fst = l.mergeSort le :=
    (List.map_mergeSort (s := le) (f := Prod.fst) fun _ _ _ _ => rfl).trans
      (congrArg (List.mergeSort · le) (List.map_fst_zip (Nat.le_of_eq hlength)))
  have hsnd : ((l.zip l').mergeSort leFst).map Prod.snd = l'.mergeSort le' :=
    (List.map_mergeSort fun p hp r hr => hle (hpairs p hp) (hpairs r hr)).trans
      (congrArg (List.mergeSort · le') (List.map_snd_zip (Nat.le_of_eq hlength.symm)))
  rw [← hfst, ← hsnd]
  exact forall₂_maps fun p hp => hpairs p (List.mem_mergeSort.mp hp)

theorem lintChecked_relocate {checked : Checked} {source source' : String}
    (h : Corresponds R g g' (checked.relocate g source).source (checked.relocate g' source').source) :
    Agrees (List.Forall₂ (SameVerdict R)) (lintChecked config (checked.relocate g source))
      (lintChecked config (checked.relocate g' source')) := by
  have hfound := findingsIn_relocate (checked.relocate g source).query
    (checked.relocate g' source').query h rfl [config] checked.functions
  exact hfound.bind fun _ _ hds =>
    .pure (forall₂_mergeSort (fun hd he => h.le hd.span he.span) hds)

/-- **A program that stands at two places** is given the same verdict at both, if what is asked of the
places holds. -/
theorem lintProgram_relocate (config : Config) {file : Option String} {p : Syntax.Program}
    {checked : Checked} {source source' : String} (hcheck : check file p = .ok checked)
    (h : Corresponds R g g' (checked.relocate g source).source (checked.relocate g' source').source) :
    Agrees (List.Forall₂ (SameVerdict R)) (lintProgram config file (p.relocate g source))
      (lintProgram config file (p.relocate g' source')) := by
  -- what the checker reports corresponds, so it has errors at both places or at neither
  have hchecked : List.Forall₂ (SameVerdict R) (checked.relocate g source).diagnostics
      (checked.relocate g' source').diagnostics :=
    forall₂_maps fun d _ => .relocate h.span d
  unfold lintProgram
  rw [check_relocate hcheck, check_relocate hcheck]
  change Agrees _ (if hasErrors _ then _ else _) (if hasErrors _ then _ else _)
  -- both programs are linted, or neither is
  rw [SameVerdict.hasErrors hchecked]
  split
  · exact .pure hchecked
  · refine .bind (V := List.Forall₂ (SameVerdict R)) ?_ fun _ _ hfound =>
      .pure (List.rel_append hchecked hfound)
    exact (lintChecked_relocate h).mapError _ _

end ClosureLint
