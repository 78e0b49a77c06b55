import ClosureLint.Proofs.Registry.Order
import ClosureLint.Proofs.Registry.Resolve
import ClosureLint.Proofs.Types.Distinct
import ClosureLint.Syntax.Parse
import ClosureLint.Typing.Program

/-!
# Types that are filed under one key

Impls are filed under the path of a struct, and under the text of every other type. Texts of types
differ, and paths of structs do; but a struct may be declared under the spelling of a built-in type, or
as `Self`. With arguments such a struct can be used, and then the impls of the one are found for the
other.

* `Ty.FiledWith` — types that share a key: equal ones, those of one struct, and a struct that is
  declared under the spelling of a built-in type or of `Self`, with that type.
* `Meant.implKey_eq_iff` — no others do.
* `Program.Means` — the types that the written types of a program mean without a diagnostic.
* `implKeys_separate` — which of them share a key, when only those of one struct do, and for which
  types registered items and implementations are found.
-/

namespace ClosureLint

open ClosureLint.Syntax

variable {paths : List Path} {t u : Ty}

/-! ### Keys -/

namespace Ty

/-- Both are the same struct, whatever its arguments. -/
def SameStruct (t u : Ty) : Prop := t.kind = .nominal ∧ u.kind = .nominal ∧ t.name = u.name

/-- The type is a built-in one, or `Self`. -/
def Spelled (t : Ty) : Prop := t = .selfParam ∨ primitive? t.name = some t

/-- The struct `t` is declared under the spelling of `u`, which is a built-in type or `Self`. -/
def Shadows (t u : Ty) : Prop := t.kind = .nominal ∧ t.name = u.name ∧ u.Spelled

/-- The types are filed under one key. -/
def FiledWith (t u : Ty) : Prop := t = u ∨ t.SameStruct u ∨ t.Shadows u ∨ u.Shadows t

theorem implKey_nominal (h : t.kind = .nominal) : t.implKey = .ok t.name := if_pos h

theorem implKey_of_ne (h : t.kind ≠ .nominal) : t.implKey = t.text := if_neg h

namespace Spelled

theorem kind (h : t.Spelled) : t.kind ≠ .nominal := by
  rcases h with rfl | h
  · nofun
  · exact primitive?_kind_ne h (by decide)

theorem text (h : t.Spelled) : t.text = .ok t.name := by
  rcases h with rfl | h
  · rfl
  · exact text_primitive h

theorem isName (h : t.Spelled) : IsName t.name := by
  rcases h with rfl | h
  · exact isName_of_checked (by decide) (by decide) (by decide)
  · exact (isName_of_primitive h).1

theorem meant (h : t.Spelled) : Meant paths t := by
  rcases h with rfl | h
  · exact .selfParam
  · exact .primitive h

/-- No path that is looked up among the structs spells it. -/
theorem not_plain (h : t.Spelled) : ¬ Plain [t.name] := by
  intro hplain
  obtain ⟨hself, hnone⟩ := hplain _ rfl
  rcases h with rfl | h
  · exact hself rfl
  · exact Option.some_ne_none t (h.symm.trans hnone)

end Spelled

theorem Shadows.implKey (h : t.Shadows u) : t.implKey = u.implKey := by
  obtain ⟨hkind, hname, hspelled⟩ := h
  rw [implKey_nominal hkind, implKey_of_ne hspelled.kind, hspelled.text, hname]

theorem FiledWith.implKey (h : t.FiledWith u) : t.implKey = u.implKey := by
  rcases h with rfl | ⟨ht, hu, hname⟩ | h | h
  · rfl
  · rw [implKey_nominal ht, implKey_nominal hu, hname]
  · exact h.implKey
  · exact h.implKey.symm

end Ty

/-- The struct of a type is declared. -/
theorem Meant.struct (h : Meant paths t) (hkind : t.kind = .nominal) :
    ∃ p ∈ paths, t.name = p.text := by
  cases h with
  | primitive hp => exact absurd hkind (Ty.primitive?_kind_ne hp (by decide))
  | nominal hp _ _ => exact ⟨_, hp, rfl⟩
  | _ => cases hkind

/-- A path that is not plain spells a built-in type, or `Self`. -/
theorem exists_spelled {p : Path} (h : ¬ Plain p) : ∃ u : Ty, u.Spelled ∧ p = [u.name] := by
  by_contra hno
  refine h fun name hp => ⟨?_, ?_⟩
  · rintro rfl
    exact hno ⟨.selfParam, .inl rfl, hp⟩
  · refine Option.eq_none_iff_forall_ne_some.mpr fun u hu => hno ⟨u, ?_⟩
    have hname : u.name = name := congrArg Ty.name (Ty.primitive?_eq_some hu).1
    rw [Ty.Spelled, hname]
    exact ⟨.inr hu, hp⟩

/-- A struct shares its key with no other type, unless it shadows that. -/
theorem Meant.shadows_of_implKey (hpaths : ∀ p ∈ paths, p.Written) (ht : Meant paths t)
    (hu : Meant paths u) (hkind : t.kind = .nominal) (hother : u.kind ≠ .nominal)
    (h : t.implKey = u.implKey) : t.Shadows u := by
  -- the key of a struct is its path, and that of another type is its text
  rw [Ty.implKey_nominal hkind, Ty.implKey_of_ne hother] at h
  obtain ⟨p, hp, hname⟩ := ht.struct hkind
  by_cases hplain : Plain p
  · -- otherwise the struct without arguments would have the text of `u`
    have hsame : Ty.nominal p.text = u :=
      Meant.text_inj hpaths
        (.nominal hp (fun _ => hplain) fun _ ha => absurd ha List.not_mem_nil) hu (hname ▸ h)
    exact absurd (hsame ▸ rfl) hother
  · obtain ⟨w, hw, rfl⟩ := exists_spelled hplain
    rw [Path.text_singleton] at hname
    have htext : w.text = u.text := hw.text.trans ((congrArg Except.ok hname.symm).trans h)
    obtain rfl : w = u := Meant.text_inj hpaths hw.meant hu htext
    exact ⟨hkind, hname, hw⟩

/-- **Two types are filed under the same key** exactly if they are equal, or one struct, or one of
them is a struct under the spelling of the other. -/
theorem Meant.implKey_eq_iff (hpaths : ∀ p ∈ paths, p.Written) (ht : Meant paths t)
    (hu : Meant paths u) : t.implKey = u.implKey ↔ t.FiledWith u := by
  refine ⟨fun h => ?_, Ty.FiledWith.implKey⟩
  by_cases hkind : t.kind = .nominal
  · by_cases hkind' : u.kind = .nominal
    · rw [Ty.implKey_nominal hkind, Ty.implKey_nominal hkind'] at h
      exact .inr (.inl ⟨hkind, hkind', Except.ok.inj h⟩)
    · exact .inr (.inr (.inl (ht.shadows_of_implKey hpaths hu hkind hkind' h)))
  · by_cases hkind' : u.kind = .nominal
    · exact .inr (.inr (.inr (hu.shadows_of_implKey hpaths ht hkind' hkind h.symm)))
    · rw [Ty.implKey_of_ne hkind, Ty.implKey_of_ne hkind'] at h
      exact .inl (Meant.text_inj hpaths ht hu h)

/-- Where no struct is declared under such a spelling, none shadows another type. -/
theorem Meant.not_shadows (hpaths : ∀ p ∈ paths, p.Written) (hplain : ∀ p ∈ paths, Plain p)
    (ht : Meant paths t) : ¬ t.Shadows u := by
  rintro ⟨hkind, hname, hspelled⟩
  obtain ⟨p, hp, htext⟩ := ht.struct hkind
  obtain rfl : p = [u.name] := by
    refine Path.text_inj (hpaths p hp)
      ⟨List.cons_ne_nil _ _, List.forall_mem_singleton.mpr hspelled.isName⟩ ?_
    rw [Path.text_singleton, ← htext, hname]
  exact hspelled.not_plain (hplain _ hp)

/-- Every such type has a key. -/
theorem Meant.exists_implKey (hpaths : ∀ p ∈ paths, p.Written) (ht : Meant paths t) :
    ∃ key, t.implKey = .ok key := by
  by_cases hkind : t.kind = .nominal
  · exact ⟨_, Ty.implKey_nominal hkind⟩
  · obtain ⟨k, hk⟩ := exists_spareName paths
    obtain ⟨text, htext, -⟩ := ht.text_spared hpaths hk
    exact ⟨text, (Ty.implKey_of_ne hkind).trans htext⟩

/-! ### The types of a program -/

/-- What `Self` may stand for: nothing, the parameter of a trait, or what the written target of an impl
means, reported or not. -/
inductive SelfStands (names : StructNames) : Option Ty → Prop
  | absent : SelfStands names none
  | parameter : SelfStands names (some .selfParam)
  | target {file : Option String} {e : TypeExpr} : TypeExpr.Written e →
    SelfStands names (some (resolveType ⟨names, file, none⟩ e).1)

/-- A written type means `t` among the structs of the program, and that is not reported. -/
def Syntax.Program.Means (p : Program) (t : Ty) : Prop :=
  ∃ file self e, SelfStands (Typing.structNames p) self ∧ TypeExpr.Written e ∧
    resolveType ⟨Typing.structNames p, file, self⟩ e = (t, [])

/-- The paths of the structs of a program. -/
def Syntax.Program.structPaths (p : Program) : List Path := p.structs.map (·.path)

theorem structNames_eq (p : Program) : Typing.structNames p = namesOf p.structPaths := by
  rw [Typing.structNames, namesOf, Program.structPaths, List.map_map]
  rfl

theorem structPaths_written {source : String} {p : Program} (h : parse source = .ok p) :
    ∀ path ∈ p.structPaths, path.Written :=
  List.forall_mem_map.mpr fun _ hd => struct_names h hd

theorem SelfStands.scope {self : Option Ty} (h : SelfStands (namesOf paths) self)
    (hpaths : ∀ p ∈ paths, p.Written) (file : Option String) :
    MeantScope paths ⟨namesOf paths, file, self⟩ := by
  refine ⟨hpaths, rfl, ?_⟩
  rintro t rfl
  cases h with
  | parameter => exact .selfParam
  | @target file' e he =>
    have hscope : MeantScope paths ⟨namesOf paths, file', none⟩ :=
      ⟨hpaths, rfl, fun _ hnone => by cases hnone⟩
    exact hscope.type e he

section

variable {source : String} {p : Program}

theorem Syntax.Program.Means.meant (h : parse source = .ok p) (ht : p.Means t) :
    Meant p.structPaths t := by
  obtain ⟨file, self, e, hself, he, hmeans⟩ := ht
  rw [structNames_eq] at hself hmeans
  have hmeant := (hself.scope (structPaths_written h) file).type e he
  rwa [hmeans] at hmeant

/-- A legible type is meant by its own text. -/
theorem Legible.means (h : parse source = .ok p) {self : Option Ty}
    (hself : SelfMeaning p.structPaths self) (hstands : SelfStands (Typing.structNames p) self)
    (ht : Legible p.structPaths self t) : p.Means t := by
  have hscope := hself.scope (structPaths_written h) none
  obtain ⟨text, -, hspells⟩ := Legible.spelled hscope ht
  obtain ⟨e, he, hmeans⟩ := hspells.typeIn?
  exact ⟨none, self, e, hstands, written_of_typeIn? he, structNames_eq p ▸ hmeans⟩

/-- A struct that is declared under the spelling of another type shadows it where it has arguments. -/
theorem exists_shadowed (h : parse source = .ok p) {d : StructDef} (hd : d ∈ p.structs)
    (hplain : ¬ Plain d.path) :
    ∃ t u, p.Means t ∧ p.Means u ∧ t.Shadows u ∧ ¬ (t = u ∨ t.SameStruct u) := by
  obtain ⟨u, hu, hpath⟩ := exists_spelled hplain
  have hname : d.path.text = u.name := by rw [hpath, Path.text_singleton]
  -- with an argument the struct is found, whatever its name
  have hstruct : Legible p.structPaths none (.nominal d.path.text [.unit]) :=
    .nominal (List.mem_map_of_mem hd) (fun hnil => absurd hnil (List.cons_ne_nil _ _))
      (List.forall_mem_singleton.mpr .unit)
  refine ⟨_, u, hstruct.means h .absent .absent, ?_, ⟨rfl, hname, hu⟩, ?_⟩
  -- only in a trait does `Self` mean itself
  · rcases hu with rfl | hu
    · exact Legible.means h .parameter .parameter (.selfParam rfl)
    · exact Legible.means h .absent .absent (.primitive hu)
  · rintro (rfl | ⟨-, hkind, -⟩)
    · exact hu.kind rfl
    · exact hu.kind hkind

end

/-! ### What is found under a key -/

/-- The type that an impl is registered for. -/
def Registration.target? : Registration → Option Ty
  | inherent target _ _ _ => some target
  | traitImpl _ target => some target
  | free .. | trait _ | traitMethod .. => none

namespace Registry

variable {cs : List Registration} {name path : String} {d : Decl}

/-- **An item that is found for a type** was registered for one with the same key. -/
theorem getInherent?_run (h : (run {} cs).getInherent? u name = .ok (some d)) :
    ∃ c ∈ cs, ∃ target, c.target? = some target ∧ d.implTarget? = some target ∧
      target.implKey = u.implKey := by
  obtain ⟨key, hkey, hfound⟩ := getInherent?_eq_ok h
  obtain ⟨hd, target, ho⟩ := getInherentByKey?_mem hfound
  obtain ⟨c, hc, hdeclared⟩ := exists_declared hd
  obtain ⟨rfl, hkey'⟩ := Registration.declared?_inherent hdeclared ho
  refine ⟨_, hc, target, rfl, ?_, hkey'.trans hkey.symm⟩
  rw [Decl.implTarget?, ho]

/-- **A trait that is listed for a type** was registered as implemented for one with the same key. -/
theorem traitsOf_run {traits : List String} (h : (run {} cs).traitsOf u = .ok traits)
    (hpath : path ∈ traits) :
    ∃ target, Registration.traitImpl path target ∈ cs ∧ target.implKey = u.implKey := by
  obtain ⟨key, hkey, h⟩ := bind_eq_ok.mp h
  obtain rfl := pure_eq_ok.mp h
  obtain ⟨i, hi, rfl⟩ := List.mem_map.mp hpath
  obtain ⟨hi, hik⟩ := List.mem_filter.mp hi
  obtain ⟨c, hc, himplemented⟩ := exists_implemented hi
  obtain ⟨target, rfl, hkey'⟩ := Registration.implemented?_eq_some.mp himplemented
  refine ⟨target, hc, hkey'.trans ?_⟩
  rw [of_decide_eq_true hik, hkey]

end Registry

/-! ### Programs -/

/-- **Which types share a key.** Every type that a program means has a key, and two of them have the
same one exactly if they are equal, one struct, or a struct that is declared under the spelling of a
built-in type or of `Self` and that type. So only those of one struct share their keys if and only if no
struct is declared under such a spelling. Whatever is registered for such types, in whatever order, an
item that is found for a type was registered for one that shares its key so, and a trait that is listed
for it was registered as implemented for one. -/
theorem implKeys_separate {source : String} {p : Program} (h : parse source = .ok p) :
    (∀ t, p.Means t → ∃ key, t.implKey = .ok key) ∧
    (∀ t u, p.Means t → p.Means u → (t.implKey = u.implKey ↔ t.FiledWith u)) ∧
    ((∀ t u, p.Means t → p.Means u → (t.implKey = u.implKey ↔ t = u ∨ t.SameStruct u)) ↔
      ∀ d ∈ p.structs, Plain d.path) ∧
    ∀ cs : List Registration, (∀ c ∈ cs, ∀ t, c.target? = some t → p.Means t) → ∀ u, p.Means u →
      (∀ name d, (Registry.run {} cs).getInherent? u name = .ok (some d) →
        ∃ t, d.implTarget? = some t ∧ t.FiledWith u) ∧
      ∀ traits, (Registry.run {} cs).traitsOf u = .ok traits → ∀ path ∈ traits,
        ∃ t, Registration.traitImpl path t ∈ cs ∧ t.FiledWith u := by
  have hpaths := structPaths_written h
  have hkeys : ∀ t u, p.Means t → p.Means u → (t.implKey = u.implKey ↔ t.FiledWith u) :=
    fun t u ht hu => Meant.implKey_eq_iff hpaths (ht.meant h) (hu.meant h)
  refine ⟨fun t ht => (ht.meant h).exists_implKey hpaths, hkeys, ⟨fun hall d hd => ?_, ?_⟩,
    fun cs hcs u hu => ⟨fun name d hd => ?_, fun traits htraits path hpath => ?_⟩⟩
  -- a struct under such a spelling shares its key with the type of that name
  · by_contra hplain
    obtain ⟨t, u, ht, hu, hshadows, hother⟩ := exists_shadowed h hd hplain
    exact hother ((hall t u ht hu).mp hshadows.implKey)
  · intro hplain t u ht hu
    have hplain : ∀ path ∈ p.structPaths, Plain path := List.forall_mem_map.mpr hplain
    rw [hkeys t u ht hu]
    have hno := (ht.meant h).not_shadows (u := u) hpaths hplain
    have hno' := (hu.meant h).not_shadows (u := t) hpaths hplain
    exact ⟨fun hfiled => hfiled.imp_right fun h => h.resolve_right fun h => h.elim hno hno',
      fun hsame => hsame.imp_right .inl⟩
  -- what is found under a key was registered for a type with that key
  · obtain ⟨c, hc, t, htarget, himpl, hkey⟩ := Registry.getInherent?_run hd
    exact ⟨t, himpl, (hkeys t u (hcs c hc t htarget) hu).mp hkey⟩
  · obtain ⟨t, hc, hkey⟩ := Registry.traitsOf_run htraits hpath
    exact ⟨t, hc, (hkeys t u (hcs _ hc t rfl) hu).mp hkey⟩

/-- A struct that is declared under the spelling of a built-in type, an impl for that type, and a call
on the struct. -/
def shadowedInteger : String :=
  "struct i32;\nimpl i32 \x7b fn m(&self) -> u8; \x7d\nfn main(x: &i32<u8>) \x7b\n  x.m();\n\x7d\n"

/-- The type `u8`. -/
def octet : Ty := ⟨.uint, "u8", [], false, none, false⟩

/-- The impl, as it is registered. -/
def integerImpl : List Registration :=
  [.inherent (.int "i32") "m" (.function [.ref (.int "i32")] octet false) (some .byRef)]

/-- **The struct and the built-in type share their key**, so that the method of the one is found for
the other. -/
theorem shadowedInteger_found : ∃ p t u d, parse shadowedInteger = .ok p ∧ p.Means t ∧ p.Means u ∧
    t = .int "i32" ∧ u = .nominal "i32" [octet] ∧ t.implKey = u.implKey ∧
    ¬ (t = u ∨ t.SameStruct u) ∧ ¬ (∀ d ∈ p.structs, Plain d.path) ∧
    (Registry.run {} integerImpl).getInherent? u "m" = .ok (some d) ∧ d.implTarget? = some t ∧
    t.FiledWith u := by
  have htest : ((parse shadowedInteger).toOption.any fun p =>
      ((typeIn? "i32").any fun e =>
        (resolveType ⟨Typing.structNames p, none, none⟩ e).1 == .int "i32" &&
          (resolveType ⟨Typing.structNames p, none, none⟩ e).2.isEmpty) &&
      ((typeIn? "i32<u8>").any fun e =>
        (resolveType ⟨Typing.structNames p, none, none⟩ e).1 == .nominal "i32" [octet] &&
          (resolveType ⟨Typing.structNames p, none, none⟩ e).2.isEmpty)) = true := by decide +kernel
  obtain ⟨p, hp, htest⟩ := (Option.any_eq_true _ _).mp htest
  obtain ⟨hinteger, hstruct⟩ := Bool.and_eq_true_iff.mp htest
  -- a type that its text means where nothing is `Self`
  have hmeans {text : String} {t : Ty} (h : ((typeIn? text).any fun e =>
      (resolveType ⟨Typing.structNames p, none, none⟩ e).1 == t &&
        (resolveType ⟨Typing.structNames p, none, none⟩ e).2.isEmpty) = true) : p.Means t := by
    obtain ⟨e, he, h⟩ := (Option.any_eq_true _ _).mp h
    obtain ⟨ht, hds⟩ := Bool.and_eq_true_iff.mp h
    exact ⟨none, none, e, .absent, written_of_typeIn? he,
      Prod.ext (eq_of_beq ht) (List.isEmpty_iff.mp hds)⟩
  have ht := hmeans hinteger
  have hu := hmeans hstruct
  obtain ⟨-, -, hplain, hfound⟩ := implKeys_separate (toOption_eq_some.mp hp)
  have hother : ¬ (Ty.int "i32" = .nominal "i32" [octet] ∨
      (Ty.int "i32").SameStruct (.nominal "i32" [octet])) := by
    rintro (he | ⟨hkind, -⟩)
    · exact absurd he (by decide)
    · cases hkind
  have hshared : (Ty.int "i32").implKey = (Ty.nominal "i32" [octet]).implKey := by decide
  have htargets : ∀ c ∈ integerImpl, ∀ t, c.target? = some t → p.Means t :=
    List.forall_mem_singleton.mpr fun _ htarget => Option.some.inj htarget ▸ ht
  have hitem : (Registry.run {} integerImpl).getInherent? (.nominal "i32" [octet]) "m"
      = .ok (some ⟨1, "m", "i32::m", .inherent (.int "i32") "i32",
        .function [.ref (.int "i32")] octet false, some .byRef⟩) := by decide +kernel
  obtain ⟨t, htarget, hfiled⟩ := (hfound integerImpl htargets _ hu).1 _ _ hitem
  obtain rfl := Option.some.inj htarget
  exact ⟨p, _, _, _, toOption_eq_some.mp hp, ht, hu, rfl, rfl, hshared, hother,
    fun hall => hother ((hplain.mpr hall _ _ ht hu).mp hshared), hitem, rfl, hfiled⟩

end ClosureLint
