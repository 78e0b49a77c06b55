import Mathlib.Data.List.Perm.Basic
import ClosureLint.Proofs.Checking.Programs
import ClosureLint.Proofs.Checking.Registering
import ClosureLint.Proofs.ImplKeys
import ClosureLint.Proofs.Registry.Wider

/-!
# Structs and traits are looked up alike

A use names a struct or a trait by its path, or by the last segment of the path where that is the only
one to end so. Structs are looked up in an index by last segments, and traits by going through all that
are registered. Both answer the same for the same declared paths, in whatever order these are declared
and however often.

* `Denotes` — which declared path a use names.
* `Denotes.findTrait?` — what is denoted is found among the texts of the paths.
* `StructNames.Indexed.find?` — the index answers like the list of its paths.
* `traits_of_check` — the traits that are looked through are the declared ones, each once.
* `names_found` — so both look-ups give what is denoted.
-/

namespace ClosureLint

open ClosureLint.Syntax (Path Program TraitDef)
open ClosureLint.Typing (Declared Stays check declare)

/-- What a use names among the declared paths: the one that it spells, or else the only one that ends in
its only segment, or else nothing. -/
inductive Denotes (paths : List Path) (use : Path) : Option Path → Prop
  | whole {p : Path} : p ∈ paths → p.text = use.text → Denotes paths use (some p)
  | last {p : Path} : (∀ q ∈ paths, q.text ≠ use.text) → p ∈ paths → use = [p.last] →
    (∀ q ∈ paths, q.last = p.last → q = p) → Denotes paths use (some p)
  | nothing : (∀ q ∈ paths, q.text ≠ use.text) →
    (∀ p ∈ paths, use = [p.last] → ∃ q ∈ paths, q.last = p.last ∧ q ≠ p) → Denotes paths use none

variable {paths : List Path} {use : Path} {o o' : Option Path} {r : Registry}

theorem exists_denotes (paths : List Path) (use : Path) : ∃ o, Denotes paths use o := by
  by_cases hwhole : ∃ p ∈ paths, p.text = use.text
  · obtain ⟨p, hp, htext⟩ := hwhole
    exact ⟨some p, .whole hp htext⟩
  · have hother : ∀ q ∈ paths, q.text ≠ use.text := fun q hq htext => hwhole ⟨q, hq, htext⟩
    by_cases hlast : ∃ p ∈ paths, use = [p.last] ∧ ∀ q ∈ paths, q.last = p.last → q = p
    · obtain ⟨p, hp, huse, honly⟩ := hlast
      exact ⟨some p, .last hother hp huse honly⟩
    · refine ⟨none, .nothing hother fun p hp huse => ?_⟩
      by_contra hno
      exact hlast ⟨p, hp, huse, fun q hq heq => by_contra fun hne => hno ⟨q, hq, heq, hne⟩⟩

/-- **A use names one path at most.** -/
theorem Denotes.unique (hpaths : ∀ p ∈ paths, p.Written) (h : Denotes paths use o)
    (h' : Denotes paths use o') : o = o' := by
  cases h with
  -- a whole path is spelled by one path only, and goes before all others
  | whole hp htext =>
    cases h' with
    | whole hp' htext' =>
      rw [Path.text_inj (hpaths _ hp) (hpaths _ hp') (htext.trans htext'.symm)]
    | last hother _ _ _ => exact absurd htext (hother _ hp)
    | nothing hother _ => exact absurd htext (hother _ hp)
  | last hother hp huse honly =>
    cases h' with
    | whole hp' htext' => exact absurd htext' (hother _ hp')
    | last _ hp' huse' _ =>
      have hlast := List.singleton_inj.mp (huse'.symm.trans huse)
      -- no other path ends in this segment
      rw [honly _ hp' hlast]
    | nothing _ hnone =>
      obtain ⟨q, hq, hlast, hne⟩ := hnone _ hp huse
      exact absurd (honly q hq hlast) hne
  -- nothing is denoted only if two paths end in the segment, or none does
  | nothing hother hnone =>
    cases h' with
    | whole hp' htext' => exact absurd htext' (hother _ hp')
    | last _ hp' huse' honly' =>
      obtain ⟨q, hq, hlast, hne⟩ := hnone _ hp' huse'
      exact absurd (honly' q hq hlast) hne
    | nothing _ _ => rfl

/-- What a use names is declared. -/
theorem Denotes.mem {p : Path} (h : Denotes paths use (some p)) : p ∈ paths := by
  cases h with
  | whole hp _ => exact hp
  | last _ hp _ _ => exact hp

/-! ### Looking through a list -/

/-- One entry of a list without repetition remains if it alone has the property. -/
theorem filter_eq_singleton_iff {α : Type} {l : List α} {P : α → Bool} {a : α} (hl : l.Nodup) :
    l.filter P = [a] ↔ ∀ b, b ∈ l ∧ P b = true ↔ b = a := by
  have hperm := List.perm_ext_iff_of_nodup (hl.filter P) (List.nodup_singleton a)
  rw [← List.perm_singleton, hperm]
  refine forall_congr' fun b => ?_
  rw [List.mem_filter, List.mem_singleton]

/-- The names are the texts of the paths, each once. -/
structure IsTexts (paths : List Path) (names : List String) : Prop where
  nodup : names.Nodup
  mem : ∀ x, x ∈ names ↔ ∃ p ∈ paths, p.text = x

theorem IsTexts.congr {paths' : List Path} {names : List String} (h : IsTexts paths names)
    (hsame : ∀ p, p ∈ paths ↔ p ∈ paths') : IsTexts paths' names :=
  ⟨h.nodup, fun x => (h.mem x).trans (exists_congr fun p => and_congr_left' (hsame p))⟩

/-- Only one text has some last segment if only one path ends in it. -/
theorem IsTexts.filter_eq_singleton {names : List String} (h : IsTexts paths names)
    (hpaths : ∀ p ∈ paths, p.Written) {p : Path} (hp : p ∈ paths) {s : String} :
    names.filter (fun path => lastSegment path = s) = [p.text] ↔
      ∀ q ∈ paths, q.last = s ↔ q = p := by
  have hlast {q : Path} (hq : q ∈ paths) : lastSegment q.text = q.last :=
    lastSegment_text (hpaths q hq).segmented
  -- paths that are made of names can be told by their texts
  have htext {q : Path} (hq : q ∈ paths) : q.text = p.text ↔ q = p :=
    ⟨Path.text_inj (hpaths q hq) (hpaths p hp), congrArg _⟩
  rw [filter_eq_singleton_iff h.nodup]
  constructor
  · intro honly q hq
    have hq' := honly q.text
    rwa [decide_eq_true_iff, hlast hq, htext hq, and_iff_right ((h.mem _).mpr ⟨q, hq, rfl⟩)] at hq'
  · intro honly x
    rw [h.mem, decide_eq_true_iff]
    constructor
    · rintro ⟨⟨q, hq, rfl⟩, hs⟩
      rwa [hlast hq, honly q hq, ← htext hq] at hs
    · rintro rfl
      rw [hlast hp, honly p hp]
      exact ⟨⟨p, hp, rfl⟩, rfl⟩

/-- **What is denoted is found** by looking through the texts of the declared paths. -/
theorem Denotes.findTrait? (h : Denotes paths use o) (hpaths : ∀ p ∈ paths, p.Written)
    (htraits : IsTexts paths r.traits) : r.findTrait? use = o.map Path.text := by
  -- a whole path is found first
  have hfull : r.hasTrait use.text = true ↔ ∃ p ∈ paths, p.text = use.text :=
    List.contains_iff_mem.trans (htraits.mem _)
  unfold Registry.findTrait?
  change (if r.hasTrait use.text = true then some use.text else _) = _
  cases h with
  | whole hp htext => rw [if_pos (hfull.mpr ⟨_, hp, htext⟩), Option.map_some, htext]
  | last hother hp huse hlast =>
    subst huse
    rw [if_neg fun h => (hfull.mp h).elim fun q hq => hother q hq.1 hq.2]
    dsimp only
    rw [(htraits.filter_eq_singleton hpaths hp).mpr fun q hq => ⟨hlast q hq, fun heq => heq ▸ rfl⟩]
    rfl
  | nothing hother hnone =>
    rw [if_neg fun h => (hfull.mp h).elim fun q hq => hother q hq.1 hq.2]
    -- with one segment the last segments are looked through; otherwise nothing is found
    split
    · next segment =>
      split
      · next path hpath =>
        -- the text that is left would be of the only path that ends so
        have hmem : path ∈ r.traits := List.mem_of_mem_filter (hpath ▸ List.mem_singleton_self path)
        obtain ⟨p, hp, rfl⟩ := (htraits.mem path).mp hmem
        have honly := (htraits.filter_eq_singleton hpaths hp).mp hpath
        obtain rfl : p.last = segment := (honly p hp).mpr rfl
        obtain ⟨q, hq, hlast, hne⟩ := hnone p hp rfl
        exact absurd ((honly q hq).mp hlast) hne
      · rfl
    · rfl

/-! ### The index -/

/-- The index has every path once, under its last segment. -/
structure StructNames.Indexed (n : StructNames) : Prop where
  nodup : n.paths.Nodup
  endingIn : ∀ s, n.endingIn s = n.paths.filter fun path => lastSegment path = s

namespace StructNames

variable {n : StructNames}

theorem Indexed.insert (h : n.Indexed) (path : String) : (n.insert path).Indexed := by
  unfold StructNames.insert
  split
  · exact h
  · next hnew =>
    refine ⟨List.concat_eq_append ▸ h.nodup.concat hnew, fun s => ?_⟩
    dsimp only
    rw [endingIn_cons, List.filter_append]
    -- the new path is added under its last segment, and under no other
    by_cases hs : s = lastSegment path
    · subst hs
      rw [if_pos rfl, h.endingIn, List.filter_cons_of_pos (by simp), List.filter_nil]
    · rw [if_neg hs, List.filter_cons_of_neg (by simpa using Ne.symm hs), List.filter_nil,
        List.append_nil]
      exact h.endingIn s

theorem ofList_indexed (l : List String) : (ofList l).Indexed := by
  have hfold : ∀ (l : List String) {n : StructNames}, n.Indexed →
      (l.foldl StructNames.insert n).Indexed := by
    intro l
    induction l with
    | nil => exact fun h => h
    | cons path l ih => exact fun h => ih (h.insert path)
  exact hfold l ⟨.nil, fun _ => rfl⟩

/-- **The index answers** like the list of its paths. -/
theorem Indexed.find? (h : n.Indexed) (segments : List String) :
    n.find? segments = ({ traits := n.paths } : Registry).findTrait? segments := by
  have hmem (x : String) : ({ traits := n.paths } : Registry).hasTrait x = true ↔ x ∈ n.paths :=
    List.contains_iff_mem
  unfold StructNames.find? Registry.findTrait?
  dsimp only
  by_cases hfull : "::".intercalate segments ∈ n.paths
  · rw [if_pos hfull, if_pos ((hmem _).mpr hfull)]
  · rw [if_neg hfull, if_neg (mt (hmem _).mp hfull)]
    -- only a single segment is looked up among last segments
    match segments with
    | [segment] =>
      have hfound := h.endingIn segment
      dsimp only
      generalize n.endingIn segment = found at hfound ⊢
      subst hfound
      rfl
    | [] | _ :: _ :: _ => rfl

end StructNames

theorem isTexts_ofList (paths : List Path) :
    IsTexts paths (StructNames.ofList (paths.map Path.text)).paths where
  nodup := (StructNames.ofList_indexed _).nodup
  mem x := by rw [(StructNames.ofList_holds _).paths, List.mem_map]

/-! ### Registered traits -/

/-- The paths of the traits of a program. -/
def Syntax.Program.traitPaths (p : Program) : List Path := p.traits.map (·.path)

/-- The program that declares a struct and a trait of each path, and nothing else. -/
def Syntax.Program.declaring (paths : List Path) : Program where
  structs := paths.map fun path => ⟨{}, path, none⟩
  traits := paths.map fun path => ⟨{}, path, []⟩

theorem structPaths_declaring (paths : List Path) : (Program.declaring paths).structPaths = paths :=
  (List.map_map ..).trans (List.map_id _)

theorem traitPaths_declaring (paths : List Path) : (Program.declaring paths).traitPaths = paths :=
  (List.map_map ..).trans (List.map_id _)

namespace Typing

variable {p : Program} {I : List String → Prop} {scope : TypeScope} {file : Option String}

/-- What every new trait keeps, registering keeps. -/
theorem stays_traits (h : ∀ ts t, t ∉ ts → I ts → I (ts ++ [t])) :
    Stays p fun r => I r.traits where
  free _ _ _ hstep hr := by
    unfold Registry.registerFree at hstep
    split at hstep
    · nomatch hstep
    · obtain ⟨-, rfl⟩ := Prod.mk.inj (pure_eq_ok.mp hstep)
      exact hr
  inherent _ _ _ _ _ _ hstep hr := by
    obtain ⟨key, -, hstep⟩ := bind_eq_ok.mp hstep
    split at hstep
    · obtain ⟨_, -, hstep⟩ := bind_eq_ok.mp hstep
      nomatch hstep
    · obtain ⟨-, rfl⟩ := Prod.mk.inj (pure_eq_ok.mp hstep)
      exact hr
  trait _ _ hstep hr := by
    unfold Registry.registerTrait at hstep
    split at hstep
    · nomatch hstep
    -- this is the one registration that adds a trait
    · next hnew =>
      obtain rfl := pure_eq_ok.mp hstep
      exact h _ _ (fun hmem => hnew (List.contains_iff_mem.mpr hmem)) hr
  traitMethod _ _ _ _ _ hstep hr := by
    unfold Registry.registerTraitMethod at hstep
    dsimp only at hstep
    split at hstep
    · nomatch hstep
    · split at hstep
      · nomatch hstep
      · obtain ⟨-, rfl⟩ := Prod.mk.inj (pure_eq_ok.mp hstep)
        exact hr
  traitImpl hstep hr := by
    unfold Registry.registerTraitImpl at hstep
    dsimp only at hstep
    split at hstep
    · nomatch hstep
    · obtain ⟨key, -, hstep⟩ := bind_eq_ok.mp hstep
      split at hstep
      · obtain ⟨_, -, hstep⟩ := bind_eq_ok.mp hstep
        nomatch hstep
      · obtain rfl := pure_eq_ok.mp hstep
        exact hr

/-- A trait that is registered stays so. -/
theorem stays_mem_traits (x : String) : Stays p fun r => x ∈ r.traits :=
  stays_traits fun _ _ _ => List.mem_append_left _

/-- No trait is registered twice. -/
theorem stays_traits_nodup : Stays p fun r => r.traits.Nodup :=
  stays_traits fun _ _ hnew hts => List.concat_eq_append ▸ hts.concat hnew

/-- Behind an attempt to register a trait there is one of its path, be it the one that stood in the way. -/
theorem mem_traits_of_register {path : String} {l : Loc} {answer : Option Unit} {s s' : Declared}
    (h : Gives (register file l fun r => quietly (r.registerTrait path)) s answer s') :
    path ∈ s'.registry.traits := by
  replace h := gives_get_bind.mp h
  split at h
  · next hstep =>
    replace h := gives_modify_bind.mp h
    obtain ⟨-, rfl⟩ := gives_pure.mp h
    -- registered, so it is the last of the traits
    have hregistered := quietly_eq_ok.mp hstep
    unfold Registry.registerTrait at hregistered
    split at hregistered
    · nomatch hregistered
    · obtain rfl := pure_eq_ok.mp hregistered
      exact List.mem_append_right _ List.mem_cons_self
  · next hstep =>
    obtain ⟨_, _, hreport, h⟩ := gives_bind.mp h
    obtain ⟨-, rfl⟩ := gives_pure.mp h
    obtain rfl := gives_modify.mp hreport
    -- refused, and that happens only if the trait is there
    by_contra hnew
    have hfree : ¬ s.registry.hasTrait path = true := fun hmem => hnew (List.contains_iff_mem.mp hmem)
    have hregistered : s.registry.registerTrait path
        = .ok { s.registry with traits := s.registry.traits ++ [path] } := if_neg hfree
    dsimp only at hstep
    rw [hregistered] at hstep
    nomatch hstep
  · nomatch h

/-- **Declaring traits registers them.** -/
theorem declareTraits_registers {ds : List TraitDef} (hds : ∀ d ∈ ds, d ∈ p.traits)
    {s s' : Declared} (h : Gives (ds.forM (declareTrait scope)) s () s') :
    ∀ d ∈ ds, d.path.text ∈ s'.registry.traits := by
  induction ds generalizing s with
  | nil => exact List.forall_mem_nil _
  | cons d ds ih =>
    obtain ⟨hd, hrest⟩ := List.forall_mem_cons.mp hds
    obtain ⟨⟨⟩, s₁, hfirst, h⟩ := gives_bind.mp h
    refine List.forall_mem_cons.mpr ⟨?_, ih hrest h⟩
    -- neither its own items nor the traits behind it take the trait away
    obtain ⟨answer, s₂, hregister, hitems⟩ := gives_bind.mp hfirst
    have hmem := mem_traits_of_register hregister
    have hstays := stays_mem_traits (p := p) d.path.text
    have hkept : d.path.text ∈ s₁.registry.traits := by
      cases answer with
      | none =>
        obtain ⟨-, rfl⟩ := gives_pure.mp hitems
        exact hmem
      | some _ =>
        exact ((Keeps.forM fun f hf => declareTraitMethod_registry hstays hd hf).keeps hitems hmem).2
    exact ((Keeps.forM fun d hd => declareTrait_registry hstays (hrest d hd)).keeps h hkept).2

/-- **The registered traits** are those of the program, each once. -/
theorem traits_of_check {checked : Checked} (h : check file p = .ok checked) :
    IsTexts p.traitPaths checked.registry.traits := by
  obtain ⟨declared, final, hdeclare, -, he⟩ := check_eq_ok h
  rw [he]
  refine ⟨registry_of_declare stays_traits_nodup .nil hdeclare, fun x => ⟨fun hx => ?_, ?_⟩⟩
  · obtain ⟨d, hd, htext⟩ := (traits_of_declare hdeclare).declared x hx
    exact ⟨d.path, List.mem_map_of_mem hd, htext⟩
  · rintro ⟨path, hpath, rfl⟩
    obtain ⟨d, hd, rfl⟩ := List.mem_map.mp hpath
    -- the traits are registered behind the structs, and stay to the end
    obtain ⟨⟨⟩, s₁, -, hrest⟩ := gives_bind.mp hdeclare
    obtain ⟨⟨⟩, s₂, -, hrest⟩ := gives_bind.mp hrest
    obtain ⟨⟨⟩, s₃, htraits, hrest⟩ := gives_bind.mp hrest
    have hmem := declareTraits_registers (fun _ hd => hd) htraits d hd
    have hstays := stays_mem_traits (p := p) d.path.text
    exact (((Keeps.forM fun d hd => declareImpl_registry hstays hd).bind fun _ _ =>
      Keeps.forM fun f hf => declareFunction_registry hstays hf).keeps hrest hmem).2

/-- Any paths can be declared, for structs and for traits at once. -/
theorem check_declaring (paths : List Path) (file : Option String) :
    ∃ checked, check file (.declaring paths) = .ok checked := by
  cases hcheck : check file (.declaring paths) with
  | ok checked => exact ⟨checked, rfl⟩
  | error e =>
    -- no function is declared, so no receiver can be misplaced
    obtain ⟨f, hf, -⟩ | ⟨f, hf, -⟩ := check_fails hcheck
    · cases hf
    · rcases List.mem_append.mp hf with hf | hf
      · obtain ⟨d, hd, hf⟩ := List.mem_flatMap.mp hf
        obtain ⟨path, -, rfl⟩ := List.mem_map.mp hd
        cases hf
      · cases hf

end Typing

/-- **Structs and traits are looked up alike.** For all declared paths that are made of names and every
use there is one answer: the path that the use spells, or else the only one that ends in its only
segment, or else none; and the text of the answer is that of no other declared path. It is found among
the structs of every program that declares structs of these paths, in any order and however often, and
among the traits of every checked program that declares traits of them; and there is a program that
declares both. -/
theorem names_found (hpaths : ∀ p ∈ paths, p.Written) (use : Path) :
    ∃ o, Denotes paths use o ∧ (∀ o', Denotes paths use o' → o' = o) ∧
      (∀ q ∈ paths, o.map Path.text = some q.text → o = some q) ∧
      (∀ p : Program, (∀ x, x ∈ p.structPaths ↔ x ∈ paths) →
        (Typing.structNames p).find? use = o.map Path.text) ∧
      (∀ file p checked, (∀ x, x ∈ p.traitPaths ↔ x ∈ paths) → check file p = .ok checked →
        checked.registry.findTrait? use = o.map Path.text) ∧
      ∀ file, ∃ p checked, p.structPaths = paths ∧ p.traitPaths = paths ∧
        check file p = .ok checked := by
  obtain ⟨o, ho⟩ := exists_denotes paths use
  refine ⟨o, ho, fun o' ho' => ho'.unique hpaths ho, ?_, ?_, ?_, fun file => ?_⟩
  · intro q hq htext
    obtain ⟨p, rfl, hp⟩ := Option.map_eq_some_iff.mp htext
    rw [Path.text_inj (hpaths p ho.mem) (hpaths q hq) hp]
  · intro p hp
    -- the index answers like the list of its paths, which is searched as the traits are
    rw [structNames_eq, namesOf, (StructNames.ofList_indexed _).find?]
    exact ho.findTrait? hpaths ((isTexts_ofList _).congr hp)
  · intro file p checked hp hcheck
    exact ho.findTrait? hpaths ((Typing.traits_of_check hcheck).congr hp)
  · obtain ⟨checked, hcheck⟩ := Typing.check_declaring paths file
    exact ⟨_, checked, structPaths_declaring paths, traitPaths_declaring paths, hcheck⟩

/-- Paths that end alike, declared for structs and, the other way round, for traits. -/
def clashingNames : String :=
  "struct b::P; struct Q; struct a::P; struct m::Q; struct n::R;\n"
    ++ "trait n::R \x7b\x7d trait m::Q \x7b\x7d trait a::P \x7b\x7d trait Q \x7b\x7d trait b::P \x7b\x7d\n"

/-- **A whole path goes before a last segment**, and a last segment of two paths names neither. -/
theorem clashingNames_found : ∃ p checked, Syntax.parse clashingNames = .ok p ∧
    check none p = .ok checked ∧ (∀ q ∈ p.structPaths, q.Written) ∧
    (∀ q, q ∈ p.traitPaths ↔ q ∈ p.structPaths) ∧
    checked.registry.findTrait? ["Q"] = some "Q" ∧ checked.registry.findTrait? ["P"] = none ∧
    checked.registry.findTrait? ["R"] = some "n::R" := by
  -- what the structs say is computed; of the traits it follows by the theorem
  have htest : ((Syntax.parse clashingNames).toOption.any fun p =>
      (check none p).toOption.isSome && p.traitPaths == p.structPaths.reverse &&
        (Typing.structNames p).find? ["Q"] == some "Q" &&
        (Typing.structNames p).find? ["P"] == none &&
        (Typing.structNames p).find? ["R"] == some "n::R") = true := by decide +kernel
  obtain ⟨p, hparse, htest⟩ := (Option.any_eq_true _ _).mp htest
  simp only [Bool.and_eq_true, beq_iff_eq] at htest
  obtain ⟨⟨⟨⟨hchecked, hreverse⟩, hq⟩, hp⟩, hr⟩ := htest
  obtain ⟨checked, hchecked⟩ := Option.isSome_iff_exists.mp hchecked
  have hparse := toOption_eq_some.mp hparse
  have hcheck := toOption_eq_some.mp hchecked
  have hwritten := structPaths_written hparse
  have hsame : ∀ q, q ∈ p.traitPaths ↔ q ∈ p.structPaths := fun q =>
    hreverse ▸ List.mem_reverse
  -- what is found among the structs is found among the traits
  have hfound (use : Path) :
      checked.registry.findTrait? use = (Typing.structNames p).find? use := by
    obtain ⟨o, -, -, -, hstructs, htraits, -⟩ := names_found hwritten use
    rw [hstructs p fun _ => Iff.rfl, htraits none p checked hsame hcheck]
  exact ⟨p, checked, hparse, hcheck, hwritten, hsame, (hfound _).trans hq, (hfound _).trans hp,
    (hfound _).trans hr⟩

end ClosureLint
