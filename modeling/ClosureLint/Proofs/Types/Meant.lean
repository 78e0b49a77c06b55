import ClosureLint.Proofs.Grammar.Nodes
import ClosureLint.Proofs.Types.Legible

/-!
# What written types mean, reported or not

A written type that cannot be resolved means something too: the unknown type stands for each part that
is unknown. Such types come up where nothing is reported any more, as what `Self` means in an impl is
the written target of that impl, whatever is wrong with it.

* `Meant` — the types that written types mean.
* `TypeExpr.Written.child` — the parts of a written type are written types.
* `TypeExpr.Written.meant` — what a written type means is of that kind.
-/

namespace ClosureLint

open ClosureLint.Syntax

variable {paths : List Path} {s : TypeScope}

/-- The kinds of the built-in types are their own. -/
theorem Ty.primitive?_kind_ne {name : String} {t : Ty} {k : Kind} (h : Ty.primitive? name = some t)
    (hk : k ∉ [Kind.bool, .char, .str, .int, .uint, .float]) : t.kind ≠ k :=
  fun he => hk (he ▸ (Ty.primitive?_eq_some h).2)

/-- The types that written types mean where the structs `paths` are declared. -/
inductive Meant (paths : List Path) : Ty → Prop where
  | primitive {name : String} {t : Ty} : Ty.primitive? name = some t → Meant paths t
  | selfParam : Meant paths .selfParam
  | unknown : Meant paths .unknown
  | ref {inner : Ty} {isMut : Bool} : Meant paths inner → Meant paths (.ref inner isMut)
  | array {elem : Ty} {n : Nat} : Meant paths elem → FitsDigits maxDigits n →
    Meant paths (.array elem (some n))
  | slice {elem : Ty} : Meant paths elem → Meant paths (.slice elem)
  | nominal {p : Path} {args : List Ty} : p ∈ paths → (args = [] → Plain p) →
    (∀ a ∈ args, Meant paths a) → Meant paths (.nominal p.text args)
  | function {params : List Ty} {ret : Ty} {isUnsafe : Bool} :
    (∀ p ∈ params, Meant paths p) → Meant paths ret → Meant paths (.function params ret isUnsafe)
  | tuple {elems : List Ty} : (∀ e ∈ elems, Meant paths e) → Meant paths (.tuple elems)

theorem Meant.unit : Meant paths .unit :=
  show Meant paths (.tuple []) from .tuple fun _ he => absurd he List.not_mem_nil

/-! ### The parts of a written type -/

namespace Syntax

/-- The path in a written type is written with some of its tokens. -/
theorem IsType.path {ts : List Token} {e : TypeExpr} {late : List LateFault} (h : IsType ts e late)
    {l : Loc} {p : Path} {args : List TypeExpr} (he : e = .named l p args) :
    ∃ us, (∀ t ∈ us, t ∈ ts) ∧ IsPath us p := by
  match h with
  | .paren _ h _ =>
    obtain ⟨us, hus, hp⟩ := h.path he
    exact ⟨us, fun t ht => List.mem_cons_of_mem _ (List.mem_append_left _ (hus t ht)), hp⟩
  | .named hp =>
    obtain ⟨-, rfl, -⟩ := TypeExpr.named.inj he
    exact ⟨_, fun t ht => ht, hp⟩
  | .generic hp _ _ =>
    obtain ⟨-, rfl, -⟩ := TypeExpr.named.inj he
    exact ⟨_, fun t ht => List.mem_append_left _ ht, hp⟩
  | .ref .. | .array .. | .slice .. | .unit .. | .tuple .. | .unsafeFnPtr .. | .fnPtr .. => cases he

/-- The length of a written array is what one of its tokens spells. -/
theorem IsType.length {ts : List Token} {e : TypeExpr} {late : List LateFault} (h : IsType ts e late)
    (hl : late = []) {l : Loc} {elem : TypeExpr} {n : Int} (he : e = .array l elem n) :
    ∃ t ∈ ts, t.kind = .int ∧ intValue t = n ∧ intLate t = [] := by
  match h with
  | .paren _ h _ =>
    obtain ⟨t, ht, hn⟩ := h.length hl he
    exact ⟨t, List.mem_cons_of_mem _ (List.mem_append_left _ ht), hn⟩
  | @IsType.array _ _ t _ _ _ _ _ _ _ hk _ =>
    obtain ⟨-, -, hn⟩ := TypeExpr.array.inj he
    refine ⟨t, ?_, hk, hn, (List.append_eq_nil_iff.mp hl).2⟩
    exact List.mem_cons_of_mem _ (List.mem_append_right _ (List.mem_cons_of_mem _ List.mem_cons_self))
  | .ref .. | .slice .. | .unit .. | .tuple .. | .unsafeFnPtr .. | .fnPtr .. | .named .. |
    .generic .. => cases he

namespace TypeExpr.Written

/-- **The parts of a written type** are written types. -/
theorem child {e e' : TypeExpr} (he : e.Written) (hchild : TreeNode.type e' ∈ (TreeNode.type e).children) :
    e'.Written := by
  obtain ⟨source, before, ts, behind, q, hlexes, htype⟩ := he
  obtain ⟨core, ⟨front, back, hts⟩, hcovers⟩ := htype.covered rfl
  obtain ⟨run, ⟨front', back', hcore⟩, hformed⟩ := hcovers.children.formed hchild
  refine ⟨source, before ++ (front ++ front'), run, back' ++ (back ++ behind), q, ?_, hformed⟩
  rw [← hts, ← hcore] at hlexes
  simpa only [List.append_assoc] using hlexes

theorem children {e : TypeExpr} {es : List TypeExpr} (he : e.Written)
    (hchildren : ∀ e' ∈ es, TreeNode.type e' ∈ (TreeNode.type e).children) : ∀ e' ∈ es, e'.Written :=
  fun e' he' => he.child (hchildren e' he')

theorem path {l : Loc} {p : Path} {args : List TypeExpr} (he : Written (.named l p args)) :
    p.Written := by
  obtain ⟨source, before, ts, behind, q, hlexes, htype⟩ := he
  obtain ⟨us, hus, hp⟩ := htype.path rfl
  exact hp.written fun t ht =>
    hlexes.isName t (List.mem_append_right _ (List.mem_append_left _ (hus t ht)))

theorem length {l : Loc} {elem : TypeExpr} {n : Int} (he : Written (.array l elem n)) :
    ∃ k : Nat, n = k ∧ FitsDigits maxDigits k := by
  obtain ⟨source, before, ts, behind, q, hlexes, htype⟩ := he
  obtain ⟨t, ht, hk, rfl, hlate⟩ := htype.length rfl rfl
  exact intValue_fits
    (hlexes.isDecimal t (List.mem_append_right _ (List.mem_append_left _ ht)) hk) hlate

end TypeExpr.Written

end Syntax

/-! ### Resolving -/

/-- What is known of the structs and of `Self`. -/
structure MeantScope (paths : List Path) (s : TypeScope) : Prop where
  written : ∀ p ∈ paths, p.Written
  names : s.names = namesOf paths
  selfType : ∀ t, s.selfType = some t → Meant paths t

/-- What a path means, with arguments or without. -/
theorem MeantScope.named (hs : MeantScope paths s) {l : Loc} {p : Path} {args : List TypeExpr}
    (hp : p.Written) (hargs : ∀ a ∈ (resolveTypes s args).1, Meant paths a) :
    Meant paths (resolveType s (.named l p args)).1 := by
  rw [resolveType]
  split
  · next hbuiltIn =>
    -- built-in types and `Self` come before structs
    rcases builtIn_eq_type hbuiltIn with hself | ⟨name, hname⟩
    · exact hs.selfType _ hself
    · exact .primitive hname
  · exact .unknown
  · next hbuiltIn =>
    split
    · exact .unknown
    · next full hfound =>
      rw [hs.names] at hfound
      obtain ⟨hmem, -⟩ := StructNames.find?_ofList hfound
      obtain ⟨declared, hdeclared, rfl⟩ := List.mem_map.mp hmem
      refine .nominal hdeclared (fun hnil => ?_) hargs
      -- no types result from the arguments only where there are none
      cases args with
      | nil => exact plain_of_find? hs.written hp hfound hdeclared (plain_of_builtIn hbuiltIn)
      | cons e es =>
        rw [resolveTypes_cons] at hnil
        cases hnil

mutual

/-- What a written type means, by the form of the type. -/
theorem MeantScope.type (hs : MeantScope paths s) : (e : TypeExpr) → e.Written →
    Meant paths (resolveType s e).1
  | .named l p args, he =>
    hs.named he.path (hs.types args (he.children fun _ ha => List.mem_map_of_mem ha))
  | .ref _ _ inner, he => .ref (hs.type inner (he.child List.mem_cons_self))
  | .array _ elem n, he => by
    obtain ⟨k, rfl, hfits⟩ := he.length
    exact .array (hs.type elem (he.child List.mem_cons_self)) hfits
  | .slice _ elem, he => .slice (hs.type elem (he.child List.mem_cons_self))
  | .tuple _ elems, he => .tuple (hs.types elems (he.children fun _ ha => List.mem_map_of_mem ha))
  | .fnPtr _ _ params none, he =>
    .function (hs.types params (he.children fun _ ha =>
      List.mem_append_left _ (List.mem_map_of_mem ha))) .unit
  | .fnPtr _ _ params (some ret), he =>
    .function (hs.types params (he.children fun _ ha =>
        List.mem_append_left _ (List.mem_map_of_mem ha)))
      (hs.type ret (he.child (List.mem_append_right _ List.mem_cons_self)))

theorem MeantScope.types (hs : MeantScope paths s) : (es : List TypeExpr) → (∀ e ∈ es, e.Written) →
    ∀ t ∈ (resolveTypes s es).1, Meant paths t
  | [], _ => fun _ ht => absurd ht List.not_mem_nil
  | e :: es, hes => by
    obtain ⟨he, hes⟩ := List.forall_mem_cons.mp hes
    rw [resolveTypes_cons]
    exact List.forall_mem_cons.mpr ⟨hs.type e he, hs.types es hes⟩

end

end ClosureLint
