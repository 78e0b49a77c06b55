import Mathlib.Data.List.Forall2
import ClosureLint.Proofs.Checking.Declarations
import ClosureLint.Proofs.Types.WellFormed

/-!
# Instances of a trait's items

A use of a trait's item replaces `Self` in the item's type. The replacement reaches every `Self`, at any
depth, and nothing else. What a method call asks of its receiver is told in a second way, by the mode in
which the method takes it; for every method that a program declares in a trait, both ways give the same
type.

* `Ty.Within`, `Ty.HoldsSelf`, `Ty.Tidy` — what stands in a type.
* `Ty.InstanceAt` — two types differ at the `Self`s of the first alone, where the second has a given type.
* `Ty.substSelf_selfParam`, `Ty.substSelf_substSelf` — replacing `Self` by itself, and twice.
* `expectedReceiver_instance` — the receiver that a trait's method asks for.
* `selfs_replaced` — all of this, for the methods of a checked program.
-/

namespace ClosureLint

open ClosureLint.Typing (check checkedSource? checkedSource?_eq_some)

namespace Ty

variable {t u s a b : Ty}

/-! ### What stands in a type -/

/-- The type `u` is `t`, or stands somewhere in it. -/
inductive Within (u : Ty) : Ty → Prop
  | whole : Within u u
  | part {t v : Ty} : v ∈ t.params → Within u v → Within u t

/-- The type parameter that stands for the implementing type. -/
def IsSelf (t : Ty) : Prop := t.kind = .param ∧ t.name = "Self"

instance (t : Ty) : Decidable t.IsSelf := inferInstanceAs (Decidable (_ ∧ _))

/-- There is a `Self` in the type. -/
def HoldsSelf (t : Ty) : Prop := ∃ u : Ty, u.Within t ∧ u.IsSelf

/-- Mutability, lengths and unsafety are given only where they mean something: for references, arrays and
functions. A description is well formed in full if it has its parts and is tidy, as those of written types
are. -/
def Tidy (t : Ty) : Prop := ∀ u : Ty, u.Within t → (u.isMut = true → u.kind = .ref) ∧
  (u.length.isSome = true → u.kind = .array) ∧ (u.isUnsafe = true → u.kind = .function)

/-- The second type is the first with `s` for each `Self`: elsewhere both have the same kind, name,
mutability, length and unsafety, and as many parts. -/
inductive InstanceAt (s : Ty) : Ty → Ty → Prop
  | self {t : Ty} : t.IsSelf → InstanceAt s t s
  | other {t u : Ty} : ¬ t.IsSelf → u.kind = t.kind → u.name = t.name → u.isMut = t.isMut →
    u.length = t.length → u.isUnsafe = t.isUnsafe →
    List.Forall₂ (InstanceAt s) t.params u.params → InstanceAt s t u

/-- What a type's own mutability, length and unsafety may be. -/
theorem tidy_iff : t.Tidy ↔ ((t.isMut = true → t.kind = .ref) ∧
    (t.length.isSome = true → t.kind = .array) ∧ (t.isUnsafe = true → t.kind = .function)) ∧
      ∀ u ∈ t.params, u.Tidy := by
  constructor
  · exact fun h => ⟨h t .whole, fun u hu v hv => h v (.part hu hv)⟩
  · rintro ⟨hwhole, hparts⟩ v hv
    cases hv with
    | whole => exact hwhole
    | part hu hv => exact hparts _ hu v hv

/-- Types that can be written are tidy. -/
theorem Regular.tidy {names : String → Prop} (h : t.Regular names) : t.Tidy := by
  induction h with
  | primitive hp =>
    rw [(primitive?_eq_some hp).1]
    exact tidy_iff.mpr ⟨⟨nofun, nofun, nofun⟩, List.forall_mem_nil _⟩
  | unknown | selfParam => exact tidy_iff.mpr ⟨⟨nofun, nofun, nofun⟩, List.forall_mem_nil _⟩
  | ref _ ih => exact tidy_iff.mpr ⟨⟨fun _ => rfl, nofun, nofun⟩, List.forall_mem_singleton.mpr ih⟩
  | array _ ih => exact tidy_iff.mpr ⟨⟨nofun, fun _ => rfl, nofun⟩, List.forall_mem_singleton.mpr ih⟩
  | slice _ ih => exact tidy_iff.mpr ⟨⟨nofun, nofun, nofun⟩, List.forall_mem_singleton.mpr ih⟩
  | nominal _ _ ih | tuple _ ih => exact tidy_iff.mpr ⟨⟨nofun, nofun, nofun⟩, ih⟩
  | function _ _ ihs ih =>
    exact tidy_iff.mpr ⟨⟨nofun, nofun, fun _ => rfl⟩,
      List.forall_mem_append.mpr ⟨ihs, List.forall_mem_singleton.mpr ih⟩⟩

theorem holdsSelf_iff : t.HoldsSelf ↔ t.IsSelf ∨ ∃ u ∈ t.params, u.HoldsSelf := by
  constructor
  · rintro ⟨u, hu, hself⟩
    cases hu with
    | whole => exact .inl hself
    | part hv hu => exact .inr ⟨_, hv, u, hu, hself⟩
  · rintro (hself | ⟨v, hv, u, hu, hself⟩)
    · exact ⟨t, .whole, hself⟩
    · exact ⟨u, .part hv hu, hself⟩

/-- A well-formed and tidy `Self` is the plain one. -/
theorem IsSelf.eq_selfParam (h : t.IsSelf) (hwf : t.WellFormed) (htidy : t.Tidy) :
    t = selfParam := by
  obtain ⟨k, name, ps, isMut, length, isUnsafe⟩ := t
  obtain ⟨rfl, rfl⟩ : k = .param ∧ name = "Self" := h
  obtain ⟨⟨hmut, hlength, hunsafe⟩, -⟩ := tidy_iff.mp htidy
  obtain rfl : ps = [] := List.length_eq_zero_iff.mp (eq_of_beq (wellFormed_iff.mp hwf).1)
  obtain rfl : isMut = false := Bool.eq_false_iff.mpr fun h => nomatch hmut h
  obtain rfl : isUnsafe = false := Bool.eq_false_iff.mpr fun h => nomatch hunsafe h
  obtain rfl : length = none :=
    Option.not_isSome_iff_eq_none.mp fun h => nomatch hlength h
  rfl

/-! ### Replacing -/

theorem substSelf_of_isSelf (h : t.IsSelf) (s : Ty) : t.substSelf s = s := by
  obtain ⟨k, name, ps, isMut, length, isUnsafe⟩ := t
  exact if_pos h

theorem substSelf_of_not_isSelf (h : ¬ t.IsSelf) (s : Ty) :
    t.substSelf s = { t with params := t.params.map fun u => u.substSelf s } := by
  obtain ⟨k, name, ps, isMut, length, isUnsafe⟩ := t
  have hother : ¬ (k = .param ∧ name = "Self") := h
  rw [substSelf, if_neg hother, substSelfAll_eq_map]

/-- **Replacing `Self` by itself** changes nothing. -/
theorem substSelf_selfParam : (t : Ty) → t.WellFormed → t.Tidy → t.substSelf selfParam = t := by
  refine of_parts fun t ih hwf htidy => ?_
  by_cases hself : t.IsSelf
  · rw [substSelf_of_isSelf hself, hself.eq_selfParam hwf htidy]
  · have hparts : t.params.map (fun u => u.substSelf selfParam) = t.params :=
      (List.map_congr_left fun u hu => ih u hu ((wellFormed_iff.mp hwf).2 u hu)
        ((tidy_iff.mp htidy).2 u hu)).trans (List.map_id _)
    rw [substSelf_of_not_isSelf hself, hparts]
    cases t
    rfl

/-- **Replacing twice** is replacing once, by the type in which it was replaced. -/
theorem substSelf_substSelf (a b : Ty) :
    (t : Ty) → (t.substSelf a).substSelf b = t.substSelf (a.substSelf b) := by
  refine of_parts fun t ih => ?_
  by_cases hself : t.IsSelf
  · rw [substSelf_of_isSelf hself, substSelf_of_isSelf hself]
  · have hother : ¬ ({ t with params := t.params.map fun u => u.substSelf a } : Ty).IsSelf := hself
    rw [substSelf_of_not_isSelf hself, substSelf_of_not_isSelf hother,
      substSelf_of_not_isSelf hself, List.map_map]
    exact congrArg (fun ps => ({ t with params := ps } : Ty)) (List.map_congr_left ih)

/-- **No `Self` is left** by a type that has none. -/
theorem not_holdsSelf_substSelf (ha : ¬ a.HoldsSelf) : (t : Ty) → ¬ (t.substSelf a).HoldsSelf := by
  refine of_parts fun t ih => ?_
  by_cases hself : t.IsSelf
  · rwa [substSelf_of_isSelf hself]
  · rw [substSelf_of_not_isSelf hself, holdsSelf_iff]
    rintro (hself' | ⟨v, hv, hholds⟩)
    · exact hself hself'
    · obtain ⟨u, hu, rfl⟩ := List.mem_map.mp hv
      exact ih u hu hholds

/-- Lists that go together entry by entry, where one entry determines the other. -/
theorem forall₂_iff_eq_map {α β : Type} {R : α → β → Prop} {f : α → β} {as : List α}
    (h : ∀ a ∈ as, ∀ {b}, R a b ↔ b = f a) {bs : List β} : List.Forall₂ R as bs ↔ bs = as.map f := by
  induction as generalizing bs with
  | nil => rw [List.forall₂_nil_left_iff, List.map_nil]
  | cons a as ih =>
    -- the first entry determines its partner, and so do the others
    obtain ⟨ha, has⟩ := List.forall_mem_cons.mp h
    rw [List.forall₂_cons_left_iff, List.map_cons]
    constructor
    · rintro ⟨b, bs', hb, hbs, rfl⟩
      rw [ha.mp hb, (ih has).mp hbs]
    · rintro rfl
      exact ⟨_, _, ha.mpr rfl, (ih has).mpr rfl, rfl⟩

/-- **Nothing but `Self` is replaced**, and each `Self` is. -/
theorem instanceAt_iff : (t : Ty) → ∀ {u : Ty}, InstanceAt s t u ↔ u = t.substSelf s := by
  -- by induction on the parts of the type
  refine of_parts fun t ih u => ?_
  by_cases hself : t.IsSelf
  · rw [substSelf_of_isSelf hself]
    constructor
    · rintro (_ | ⟨hother⟩)
      · rfl
      · exact absurd hself hother
    · rintro rfl
      exact .self hself
  · rw [substSelf_of_not_isSelf hself]
    have hparts (ps : List Ty) : List.Forall₂ (InstanceAt s) t.params ps ↔
        ps = t.params.map fun v => v.substSelf s := forall₂_iff_eq_map ih
    constructor
    · rintro (hself' | ⟨-, hkind, hname, hmut, hlength, hunsafe, hps⟩)
      · exact absurd hself' hself
      · obtain ⟨k, name, ps, isMut, length, isUnsafe⟩ := u
        dsimp only at *
        rw [(hparts ps).mp hps, hkind, hname, hmut, hlength, hunsafe]
    · rintro rfl
      exact .other hself rfl rfl rfl rfl rfl ((hparts _).mpr rfl)

/-- An instance of a function type is one of the same parameters and result. -/
theorem substSelf_function (params : List Ty) (ret : Ty) (isUnsafe : Bool) (s : Ty) :
    (function params ret isUnsafe).substSelf s
      = function (params.map fun u => u.substSelf s) (ret.substSelf s) isUnsafe := by
  have hother : ¬ (function params ret isUnsafe).IsSelf := fun h => Kind.noConfusion h.1
  have hparts : (params ++ [ret]).map (fun u => u.substSelf s)
      = (params.map fun u => u.substSelf s) ++ [ret.substSelf s] := List.map_append
  rw [substSelf_of_not_isSelf hother, function, hparts]
  rfl

end Ty

/-! ### Receivers -/

/-- **The receiver that a trait's method asks for** is the first parameter of the method's instance,
however the method takes it. -/
theorem expectedReceiver_instance {names : String → Prop} {d : Decl} (hd : d.WellMade names)
    {path : String} (ho : d.origin = .traitItem path) (hm : d.isMethod = true) (step : Ty) :
    ∃ needed rest, expectedReceiver d step = .ok needed ∧
      (d.type.substSelf step).fnParams = .ok (needed :: rest) := by
  obtain ⟨mode, hmode⟩ := Option.isSome_iff_exists.mp hm
  obtain ⟨self, params, ret, isUnsafe, htype, owner, howner, hself⟩ := hd.receiver mode hmode
  -- in a trait the owner is `Self`, which the mode wraps and the instance replaces
  rw [ho] at howner
  obtain rfl : .selfParam = owner := Option.some.inj howner
  refine ⟨self.substSelf step, params.map fun u => u.substSelf step, ?_, ?_⟩
  · rw [expectedReceiver, hmode]
    cases mode with
    | byValue | byRef | byRefMut =>
      rw [hself _ rfl]
      rfl
    -- a written receiver type is the first parameter as it stands
    | typed =>
      have hdeclared : d.selfType? = .ok (some self) := by
        rw [Decl.selfType?, hmode, htype, Ty.fnParams_function]
        rfl
      dsimp only
      rw [hdeclared]
      rfl
  · rw [htype, Ty.substSelf_function, Ty.fnParams_function]
    rfl

/-- The callables of a checked program are well made. -/
theorem wellMade_of_check {file : Option String} {p : Syntax.Program} {checked : Typing.Checked}
    (h : check file p = .ok checked) :
    ∀ d ∈ checked.registry.decls, d.WellMade (Typing.IsStruct p) := by
  obtain ⟨declared, final, hdeclare, -, he⟩ := Typing.check_eq_ok h
  rw [he]
  exact (Typing.wellMade_of_declare hdeclare).decls

/-- **What replacing `Self` does.** By itself it changes nothing in a well-formed and tidy type, and twice
is once by the type in which it was replaced; a type without `Self` leaves none; and a type is the result
exactly if it is the given one with the new type for each `Self` and nothing else changed. And for every
method that a checked program declares in a trait, the receiver that a call asks for on some type is the
first parameter of the method's instance at that type, against which the arguments are checked, so a
receiver is adjusted exactly if its type is another one. -/
theorem selfs_replaced :
    (∀ t : Ty, t.WellFormed → t.Tidy → t.substSelf .selfParam = t) ∧
    (∀ t a b : Ty, (t.substSelf a).substSelf b = t.substSelf (a.substSelf b)) ∧
    (∀ t a : Ty, ¬ a.HoldsSelf → ¬ (t.substSelf a).HoldsSelf) ∧
    (∀ t a u : Ty, Ty.InstanceAt a t u ↔ u = t.substSelf a) ∧
    ∀ file p checked, check file p = .ok checked → ∀ d ∈ checked.registry.decls,
      d.traitPath?.isSome = true → d.isMethod = true → ∀ step, ∃ needed rest,
        expectedReceiver d step = .ok needed ∧
        (d.type.substSelf step).fnParams = .ok (needed :: rest) ∧
        ∀ receiver, Registry.resolution d step receiver = .ok ⟨d, step, needed != receiver⟩ := by
  refine ⟨Ty.substSelf_selfParam, fun t a b => Ty.substSelf_substSelf a b t,
    fun t a ha => Ty.not_holdsSelf_substSelf ha t, fun t _ _ => Ty.instanceAt_iff t, ?_⟩
  intro file p checked h d hd htrait hm step
  obtain ⟨path, hpath⟩ := Option.isSome_iff_exists.mp htrait
  obtain ⟨needed, rest, hneeded, hparams⟩ :=
    expectedReceiver_instance (wellMade_of_check h d hd) (Decl.traitPath?_eq_some.mp hpath) hm step
  refine ⟨needed, rest, hneeded, hparams, fun receiver => ?_⟩
  rw [Registry.resolution, hneeded]
  rfl

/-- A trait with a method for each way to take a receiver. -/
def receivingTrait : String :=
  "trait T \x7b\n  fn a(self) -> Self;\n  fn b(&self, other: &[Self]);\n  fn c(&mut self);\n"
    ++ "  fn d(self: &mut [(Self, &str); 2], f: fn(Self) -> Self);\n\x7d\n"

/-- The receiver of its last method, for `Self` or another type. -/
def writtenReceiver (self : Ty) : Ty := .ref (.array (.tuple [self, .ref .str]) (some 2)) true

/-- That method, as it is registered. -/
def writtenMethod : Decl :=
  ⟨4, "d", "T::d", .traitItem "T", .function [writtenReceiver .selfParam,
    .function [.selfParam] .selfParam false] .unit false, some .typed⟩

/-- **Every `Self` of a written receiver is replaced**, for a call and for its arguments alike. -/
theorem writtenReceiver_replaced : ∃ p checked, Syntax.parse receivingTrait = .ok p ∧
    check none p = .ok checked ∧ writtenMethod ∈ checked.registry.decls ∧
    writtenMethod.type.WellFormed ∧ writtenMethod.type.Tidy ∧
    writtenMethod.type.substSelf .selfParam = writtenMethod.type ∧ ¬ Ty.HoldsSelf .str ∧
    ¬ (writtenMethod.type.substSelf .str).HoldsSelf ∧
    expectedReceiver writtenMethod .str = .ok (writtenReceiver .str) ∧
    ∃ rest, (writtenMethod.type.substSelf .str).fnParams = .ok (writtenReceiver .str :: rest) := by
  have htest : ((checkedSource? none receivingTrait).any fun c =>
      c.registry.decls.contains writtenMethod) = true := by decide +kernel
  obtain ⟨checked, hsource, hmem⟩ := (Option.any_eq_true _ _).mp htest
  obtain ⟨p, hparse, hcheck⟩ := checkedSource?_eq_some.mp hsource
  have hmem := List.contains_iff_mem.mp hmem
  have hwf : writtenMethod.type.WellFormed := by decide
  -- the method comes from a checked program, so its type is built as types are written
  have htidy : writtenMethod.type.Tidy := (wellMade_of_check hcheck _ hmem).type.tidy
  have hstr : ¬ Ty.HoldsSelf .str := by
    rw [Ty.holdsSelf_iff]
    rintro (⟨hkind, -⟩ | ⟨u, hu, -⟩)
    · cases hkind
    · cases hu
  obtain ⟨hself, -, hnone, -, hinstances⟩ := selfs_replaced
  obtain ⟨needed, rest, hneeded, hparams, -⟩ := hinstances none p checked hcheck _ hmem rfl rfl .str
  have hreceiver : expectedReceiver writtenMethod .str = .ok (writtenReceiver .str) := rfl
  obtain rfl : writtenReceiver .str = needed := Except.ok.inj (hreceiver.symm.trans hneeded)
  exact ⟨p, checked, hparse, hcheck, hmem, hwf, htidy, hself _ hwf htidy, hstr, hnone _ _ hstr,
    hreceiver, rest, hparams⟩

end ClosureLint
