import ClosureLint.Proofs.Types.Shape
import ClosureLint.Proofs.Types.WellFormed

/-!
# What the matchers compare

Whether a method can be named by a path is decided by two matchers, which both ask less than that two
types are equal. One compares the number of leading references. The other goes down through references,
arrays and slices as long as both types have the same, and compares what it finds there.

* `Ty.layers`, `Ty.innermost` — the references, arrays and slices of a type, and the type in them.
* `Ty.sameBorrowDepth_eq`, `Ty.sameShape_eq` — the answers to well-formed types.
* `Ty.displayName_of_sameShape` — structs of one shape have one name.
* `Ty.coarse` — a type without what is not compared; `Ty.sameBorrowDepth_coarse` and
  `Ty.sameShape_coarse` say that it is not.
* `matchers_compare` — all of this, and that the answers are symmetric and transitive.
-/

namespace ClosureLint

namespace Ty

variable {a b t u : Ty}

/-! ### Layers -/

mutual

/-- The references, arrays and slices around a type, the outermost first. -/
def layers : Ty → List Kind
  | ⟨k, _, ps, _, _, _⟩ => if k.isContainer then k :: layersFirst ps else []

/-- Those of the first of several types. -/
def layersFirst : List Ty → List Kind
  | [] => []
  | t :: _ => layers t

end

mutual

/-- The type below all references, arrays and slices. -/
def innermost : Ty → Ty
  | ⟨k, name, ps, isMut, length, isUnsafe⟩ =>
    if k.isContainer then innermostFirst ps else ⟨k, name, ps, isMut, length, isUnsafe⟩

/-- That of the first of several types. -/
def innermostFirst : List Ty → Ty
  | [] => unknown
  | t :: _ => innermost t

end

/-- Both are a `bool`, a `char`, an integer of the same signedness, a `str` or the same struct. -/
def Resembles (t u : Ty) : Prop :=
  t.kind = u.kind ∧ (t.kind.isPlain = true ∨ t.kind = .nominal ∧ t.name = u.name)

instance (t u : Ty) : Decidable (t.Resembles u) := inferInstanceAs (Decidable (_ ∧ _))

/-- Types resemble each other, -/
theorem Resembles.symm (h : t.Resembles u) : u.Resembles t := by
  obtain ⟨hkind, hplain | ⟨hnominal, hname⟩⟩ := h
  · exact ⟨hkind.symm, .inl (hkind ▸ hplain)⟩
  · exact ⟨hkind.symm, .inr ⟨hkind ▸ hnominal, hname.symm⟩⟩

/-- and what resembles the same type does so too. -/
theorem Resembles.trans {v : Ty} (h : t.Resembles u) (h' : u.Resembles v) : t.Resembles v := by
  obtain ⟨hkind, hplain | ⟨hnominal, hname⟩⟩ := h
  · exact ⟨hkind.trans h'.1, .inl hplain⟩
  · obtain ⟨hkind', hplain' | ⟨-, hname'⟩⟩ := h'
    · rw [← hkind, hnominal] at hplain'
      nomatch hplain'
    · exact ⟨hkind.trans hkind', .inr ⟨hnominal, hname.trans hname'⟩⟩

/-- What resembles itself. -/
theorem resembles_self :
    t.Resembles t ↔ t.kind ∈ [Kind.bool, .char, .int, .uint, .str, .nominal] := by
  have hkinds : ∀ k : Kind, k.isPlain = true ∨ k = .nominal ↔
      k ∈ [Kind.bool, .char, .int, .uint, .str, .nominal] := by
    intro k
    cases k <;> decide
  rw [← hkinds]
  exact ⟨fun h => h.2.imp_right And.left, fun h => ⟨rfl, h.imp_right fun hk => ⟨hk, rfl⟩⟩⟩

/-- A reference, an array or a slice is a layer around the layers of what is in it. -/
theorem layers_of_isContainer (hk : t.kind.isContainer = true) (hu : t.params = [u]) :
    t.layers = t.kind :: u.layers := by
  obtain ⟨k, name, ps, isMut, length, isUnsafe⟩ := t
  obtain rfl : ps = [u] := hu
  exact if_pos hk

/-- Any other type has no layers. -/
theorem layers_of_not_isContainer (hk : ¬ t.kind.isContainer = true) : t.layers = [] := by
  obtain ⟨k, name, ps, isMut, length, isUnsafe⟩ := t
  exact if_neg hk

/-- What is innermost is in the layer. -/
theorem innermost_of_isContainer (hk : t.kind.isContainer = true) (hu : t.params = [u]) :
    t.innermost = u.innermost := by
  obtain ⟨k, name, ps, isMut, length, isUnsafe⟩ := t
  obtain rfl : ps = [u] := hu
  exact if_pos hk

/-- Without a layer, the type is innermost itself. -/
theorem innermost_of_not_isContainer (hk : ¬ t.kind.isContainer = true) : t.innermost = t := by
  obtain ⟨k, name, ps, isMut, length, isUnsafe⟩ := t
  exact if_neg hk

/-- What has layers is not compared by its kind alone. -/
theorem not_isPlain {k : Kind} (hk : k.isContainer = true) : ¬ k.isPlain = true := by
  cases k <;> first | exact Bool.false_ne_true | exact absurd hk Bool.false_ne_true

/-! ### The answers -/

/-- What the first matcher does at a pair of types: it goes on below two references. -/
theorem sameBorrowDepth_def : sameBorrowDepth a b =
    if a.kind = .ref ∧ b.kind = .ref then sameBorrowDepthFirst a.params b.params
    else .ok (!(a.kind == .ref) && !(b.kind == .ref)) := by
  cases a
  rfl

/-- What the second matcher does at a pair of types. -/
theorem sameShape_def : sameShape a b =
    if a.kind ≠ b.kind then .ok false
    else if a.kind.isPlain then .ok true
    else if a.kind.isContainer then sameShapeFirst a.params b.params
    else if a.kind = .nominal then .ok (a.name == b.name)
    else .ok false := by
  cases a
  rfl

/-- **The first matcher** compares how many references lead the types. -/
theorem sameBorrowDepth_eq : (a : Ty) → ∀ {b : Ty}, a.WellFormed → b.WellFormed →
    sameBorrowDepth a b = .ok (decide (a.borrowDepth = b.borrowDepth)) := by
  -- by induction on the first type; the references of the second are gone down along with it
  refine of_parts fun a ih b ha hb => ?_
  rw [sameBorrowDepth_def]
  by_cases hka : a.kind = .ref <;> by_cases hkb : b.kind = .ref
  · obtain ⟨p, hp, hwp⟩ := ha.part (hka ▸ rfl)
    obtain ⟨q, hq, hwq⟩ := hb.part (hkb ▸ rfl)
    rw [if_pos ⟨hka, hkb⟩, hp, hq, borrowDepth_of_ref hka hp, borrowDepth_of_ref hkb hq,
      decide_eq_decide.mpr Nat.add_right_cancel_iff]
    exact ih p (hp ▸ List.mem_singleton_self p) hwp hwq
  -- only the first is a reference, so it has one more at least
  · obtain ⟨p, hp, -⟩ := ha.part (hka ▸ rfl)
    rw [if_neg fun h => hkb h.2, borrowDepth_of_ref hka hp, borrowDepth_of_ne_ref hkb, hka]
    rfl
  · obtain ⟨q, hq, -⟩ := hb.part (hkb ▸ rfl)
    rw [if_neg fun h => hka h.1, borrowDepth_of_ne_ref hka, borrowDepth_of_ref hkb hq, hkb,
      beq_false_of_ne hka]
    rfl
  · rw [if_neg fun h => hka h.1, borrowDepth_of_ne_ref hka, borrowDepth_of_ne_ref hkb,
      beq_false_of_ne hka, beq_false_of_ne hkb]
    rfl

/-- Both have the same layers, and resemble each other below them. -/
def ShapedLike (a b : Ty) : Prop := a.layers = b.layers ∧ a.innermost.Resembles b.innermost

instance (a b : Ty) : Decidable (a.ShapedLike b) := inferInstanceAs (Decidable (_ ∧ _))

/-- Around types in layers, the shape is a layer and the shape below it. -/
theorem shapedLike_parts {p q : Ty} (hka : a.kind.isContainer = true) (hp : a.params = [p])
    (hkb : b.kind.isContainer = true) (hq : b.params = [q]) :
    a.ShapedLike b ↔ a.kind = b.kind ∧ p.ShapedLike q := by
  rw [ShapedLike, layers_of_isContainer hka hp, layers_of_isContainer hkb hq,
    innermost_of_isContainer hka hp, innermost_of_isContainer hkb hq, List.cons.injEq, and_assoc,
    ShapedLike]

/-- Without layers, the shape is what the types are compared by. -/
theorem shapedLike_bare (hka : ¬ a.kind.isContainer = true) (hkb : ¬ b.kind.isContainer = true) :
    a.ShapedLike b ↔ a.Resembles b := by
  rw [ShapedLike, layers_of_not_isContainer hka, layers_of_not_isContainer hkb,
    innermost_of_not_isContainer hka, innermost_of_not_isContainer hkb]
  exact and_iff_right rfl

/-- The shape is compared both ways alike, -/
theorem ShapedLike.symm (h : a.ShapedLike b) : b.ShapedLike a := ⟨h.1.symm, h.2.symm⟩

/-- and what has the shape of the same type has one shape. -/
theorem ShapedLike.trans {c : Ty} (h : a.ShapedLike b) (h' : b.ShapedLike c) : a.ShapedLike c :=
  ⟨h.1.trans h'.1, h.2.trans h'.2⟩

/-- A container is not shaped like a type that is none. -/
theorem not_shapedLike (ha : a.WellFormed) (hka : a.kind.isContainer = true)
    (hkb : ¬ b.kind.isContainer = true) : ¬ a.ShapedLike b := by
  rintro ⟨hlayers, -⟩
  obtain ⟨p, hp, -⟩ := ha.part hka
  rw [layers_of_isContainer hka hp, layers_of_not_isContainer hkb] at hlayers
  nomatch hlayers

/-- Types of one shape are of one kind. -/
theorem ShapedLike.kind (h : a.ShapedLike b) (ha : a.WellFormed) (hb : b.WellFormed) :
    a.kind = b.kind := by
  -- a type with layers never has the shape of one without
  by_cases hka : a.kind.isContainer = true <;> by_cases hkb : b.kind.isContainer = true
  · obtain ⟨p, hp, -⟩ := ha.part hka
    obtain ⟨q, hq, -⟩ := hb.part hkb
    exact ((shapedLike_parts hka hp hkb hq).mp h).1
  · exact absurd h (not_shapedLike ha hka hkb)
  · exact absurd h.symm (not_shapedLike hb hkb hka)
  · exact ((shapedLike_bare hka hkb).mp h).1

/-- **The second matcher** compares the layers and what stands below them. -/
theorem sameShape_eq : (a : Ty) → ∀ {b : Ty}, a.WellFormed → b.WellFormed →
    sameShape a b = .ok (decide (a.ShapedLike b)) := by
  refine of_parts fun a ih b ha hb => ?_
  rw [sameShape_def]
  -- types of different kinds are told apart at once; below equal layers the comparison goes on
  by_cases hkind : a.kind = b.kind
  · rw [if_neg (not_not_intro hkind)]
    by_cases hk : a.kind.isContainer = true
    · obtain ⟨p, hp, hwp⟩ := ha.part hk
      obtain ⟨q, hq, hwq⟩ := hb.part (hkind ▸ hk)
      have hiff : a.ShapedLike b ↔ p.ShapedLike q :=
        (shapedLike_parts hk hp (hkind ▸ hk) hq).trans (and_iff_right hkind)
      rw [if_neg (not_isPlain hk), if_pos hk, hp, hq, decide_eq_decide.mpr hiff]
      exact ih p (hp ▸ List.mem_singleton_self p) hwp hwq
    · have hiff : a.ShapedLike b ↔ a.kind.isPlain = true ∨ a.kind = .nominal ∧ a.name = b.name :=
        (shapedLike_bare hk (hkind ▸ hk)).trans (and_iff_right hkind)
      rw [if_neg hk, decide_eq_decide.mpr hiff]
      -- without layers: by the kind alone, by the name of a struct, or not at all
      by_cases hplain : a.kind.isPlain = true
      · rw [if_pos hplain, decide_eq_true (.inl hplain)]
      · rw [if_neg hplain]
        by_cases hnominal : a.kind = .nominal
        · have hname : a.kind.isPlain = true ∨ a.kind = .nominal ∧ a.name = b.name ↔
              a.name = b.name := (or_iff_right hplain).trans (and_iff_right hnominal)
          rw [if_pos hnominal, decide_eq_decide.mpr hname]
          rfl
        · rw [if_neg hnominal, decide_eq_false]
          exact fun h => h.elim hplain fun h => hnominal h.1
  · rw [if_pos hkind, decide_eq_false fun h => hkind (h.kind ha hb)]

/-! ### Names -/

/-- What the leading references of two types of one shape lead to has one shape. -/
theorem stripRefs_of_sameShape : (a : Ty) → ∀ {b u : Ty}, sameShape a b = .ok true →
    a.stripRefs = .ok u → ∃ v, b.stripRefs = .ok v ∧ sameShape u v = .ok true := by
  refine of_parts fun a ih b u h hu => ?_
  have hkind := (kind_of_sameShape h).1
  by_cases hk : a.kind = .ref
  -- two references: both are taken off, and what is below has one shape
  · obtain ⟨k, name, ps, isMut, length, isUnsafe⟩ := a
    obtain ⟨k', name', qs, isMut', length', isUnsafe'⟩ := b
    obtain rfl : k = .ref := hk
    obtain rfl : .ref = k' := hkind
    cases ps with
    | nil => nomatch hu
    | cons p ps =>
      cases qs with
      | nil => nomatch h
      | cons q qs =>
        obtain ⟨v, hv, huv⟩ := ih p List.mem_cons_self (b := q) h hu
        exact ⟨v, hv, huv⟩
  · obtain rfl := Except.ok.inj ((stripRefs_of_ne_ref hk).symm.trans hu)
    exact ⟨b, stripRefs_of_ne_ref (hkind ▸ hk), h⟩

/-- **Structs of one shape have one name**, whatever references lead to them. -/
theorem displayName_of_sameShape (h : sameShape a b = .ok true) (hu : a.stripRefs = .ok u)
    (hk : u.kind = .nominal) : a.displayName = .ok u.name ∧ b.displayName = .ok u.name := by
  obtain ⟨v, hv, hshape⟩ := stripRefs_of_sameShape a h hu
  obtain ⟨hkind, hname⟩ := kind_of_sameShape hshape
  -- the name that is shown for a struct is its own
  have hkey {t : Ty} (ht : t.kind = .nominal) : t.implKey = .ok t.name := if_pos ht
  constructor
  · rw [displayName, hu]
    exact hkey hk
  · rw [displayName, hv, hname hk]
    exact hkey (hkind ▸ hk)

/-! ### What is not compared -/

mutual

/-- The type without the mutability of references, the length of arrays, the width of integers and
the arguments of structs, at every depth. -/
def coarse : Ty → Ty
  | ⟨k, name, ps, _, _, isUnsafe⟩ =>
    ⟨k, if k = .int ∨ k = .uint then "" else name, if k = .nominal then [] else coarseAll ps,
      false, none, isUnsafe⟩

/-- The same for several types. -/
def coarseAll : List Ty → List Ty
  | [] => []
  | t :: ts => coarse t :: coarseAll ts

end

/-- What is kept is the kind of a type, -/
theorem kind_coarse (t : Ty) : t.coarse.kind = t.kind := by
  cases t
  rfl

/-- the name of a struct, -/
theorem name_coarse (h : t.kind = .nominal) : t.coarse.name = t.name := by
  obtain ⟨k, name, ps, isMut, length, isUnsafe⟩ := t
  obtain rfl : k = .nominal := h
  rfl

/-- and what is below a layer. -/
theorem params_coarse (h : t.kind.isContainer = true) : t.coarse.params = coarseAll t.params := by
  obtain ⟨k, name, ps, isMut, length, isUnsafe⟩ := t
  refine if_neg fun hk : k = .nominal => ?_
  subst hk
  nomatch h

/-- **The first matcher** does not see it. -/
theorem sameBorrowDepth_coarse : (a : Ty) → ∀ b : Ty,
    sameBorrowDepth a.coarse b.coarse = sameBorrowDepth a b := by
  refine of_parts fun a ih b => ?_
  rw [sameBorrowDepth_def, sameBorrowDepth_def, kind_coarse, kind_coarse]
  split
  · next hk =>
    rw [params_coarse (hk.1 ▸ rfl), params_coarse (hk.2 ▸ rfl)]
    -- malformed references are compared as well, so the parts are looked at one by one
    cases hps : a.params with
    | nil => rfl
    | cons p ps =>
      cases b.params with
      | nil => rfl
      | cons q qs => exact ih p (hps ▸ List.mem_cons_self) q
  · rfl

/-- **The second matcher** does not see it. -/
theorem sameShape_coarse : (a : Ty) → ∀ b : Ty, sameShape a.coarse b.coarse = sameShape a b := by
  refine of_parts fun a ih b => ?_
  rw [sameShape_def, sameShape_def, kind_coarse, kind_coarse]
  by_cases hkind : a.kind = b.kind
  · rw [if_neg (not_not_intro hkind), if_neg (not_not_intro hkind)]
    -- below a layer the comparison goes on; otherwise it sees the kind and the name of a struct
    by_cases hk : a.kind.isContainer = true
    · rw [if_pos hk, if_pos hk, params_coarse hk, params_coarse (hkind ▸ hk)]
      cases hps : a.params with
      | nil => rfl
      | cons p ps =>
        cases b.params with
        | nil => rfl
        | cons q qs =>
          exact congrArg (ite _ (Except.ok true)) (ih p (hps ▸ List.mem_cons_self) q)
    · rw [if_neg hk, if_neg hk]
      by_cases hnominal : a.kind = .nominal
      · rw [name_coarse hnominal, name_coarse (hkind ▸ hnominal)]
      · rw [if_neg hnominal, if_neg hnominal]
  · rw [if_pos hkind, if_pos hkind]

end Ty

variable {a b c : Ty}

/-- **What the matchers compare.** To well-formed types the first matcher says whether equally many
references lead them, so it is an equivalence; the second says whether they have the same layers of
references, arrays and slices around what resembles, so it is symmetric and transitive, and a type has
its own shape exactly if there is a `bool`, a `char`, an integer, a `str` or a struct in its layers.
Types of one shape have equally many leading references, and one name if those lead to a struct. Neither
answer depends on mutability, lengths, widths or the arguments of structs, anywhere in either type. -/
theorem matchers_compare (ha : a.WellFormed) (hb : b.WellFormed) (hc : c.WellFormed) :
    a.sameBorrowDepth b = .ok (decide (a.borrowDepth = b.borrowDepth)) ∧
    (Equivalence fun t u : {t : Ty // t.WellFormed} => t.1.sameBorrowDepth u.1 = .ok true) ∧
    a.sameShape b = .ok (decide (a.ShapedLike b)) ∧
    a.sameShape b = b.sameShape a ∧
    (a.sameShape b = .ok true → b.sameShape c = .ok true → a.sameShape c = .ok true) ∧
    (a.sameShape a = .ok true ↔
      a.innermost.kind ∈ [Kind.bool, .char, .int, .uint, .str, .nominal]) ∧
    (a.sameShape b = .ok true → a.sameBorrowDepth b = .ok true ∧
      ∀ u, a.stripRefs = .ok u → u.kind = .nominal → a.displayName = .ok u.name ∧
        b.displayName = .ok u.name) ∧
    ∀ a' b' : Ty, a'.coarse = a.coarse → b'.coarse = b.coarse →
      a'.sameBorrowDepth b' = a.sameBorrowDepth b ∧ a'.sameShape b' = a.sameShape b := by
  have hdepth {t u : Ty} (ht : t.WellFormed) (hu : u.WellFormed) :
      t.sameBorrowDepth u = .ok true ↔ t.borrowDepth = u.borrowDepth := by
    rw [Ty.sameBorrowDepth_eq t ht hu, Except.ok.injEq, decide_eq_true_iff]
  have hshape {t u : Ty} (ht : t.WellFormed) (hu : u.WellFormed) :
      t.sameShape u = .ok true ↔ t.ShapedLike u := by
    rw [Ty.sameShape_eq t ht hu, Except.ok.injEq, decide_eq_true_iff]
  -- the two exact answers give everything that is said of one pair, and of an equivalence
  refine ⟨Ty.sameBorrowDepth_eq a ha hb, ⟨?_, ?_, ?_⟩, Ty.sameShape_eq a ha hb, ?_, ?_, ?_, ?_, ?_⟩
  · exact fun t => (hdepth t.2 t.2).mpr rfl
  · exact fun {t u} h => (hdepth u.2 t.2).mpr ((hdepth t.2 u.2).mp h).symm
  · exact fun {t u v} h h' => (hdepth t.2 v.2).mpr
      (((hdepth t.2 u.2).mp h).trans ((hdepth u.2 v.2).mp h'))
  · rw [Ty.sameShape_eq a ha hb, Ty.sameShape_eq b hb ha,
      decide_eq_decide.mpr ⟨Ty.ShapedLike.symm, Ty.ShapedLike.symm⟩]
  · rw [hshape ha hb, hshape hb hc, hshape ha hc]
    exact Ty.ShapedLike.trans
  -- a type has its own layers, so its shape is a matter of what is innermost
  · rw [hshape ha ha, ← Ty.resembles_self]
    exact and_iff_right rfl
  · intro h
    exact ⟨(hdepth ha hb).mpr (Ty.borrowDepth_of_sameShape a h),
      fun u hu hk => Ty.displayName_of_sameShape h hu hk⟩
  -- both sides are what the matchers say of the coarse types
  · intro a' b' ha' hb'
    rw [← Ty.sameBorrowDepth_coarse a', ← Ty.sameShape_coarse a', ha', hb',
      Ty.sameBorrowDepth_coarse, Ty.sameShape_coarse]
    exact ⟨rfl, rfl⟩

/-- A reference to a list of the struct `m::List` of what is given. -/
def listRef (isMut : Bool) (elem : Ty) : Ty := .ref (.nominal "m::List" [elem]) isMut

/-- **References to lists match** and have one name, whatever is in the lists. -/
theorem listRefs_match :
    (listRef true (.int "i8")).WellFormed ∧ (listRef false .str).WellFormed ∧
    (listRef true (.int "i8")).sameShape (listRef false .str) = .ok true ∧
    (listRef true (.int "i8")).sameBorrowDepth (listRef false .str) = .ok true ∧
    (listRef false .str).displayName = .ok "m::List" ∧
    (listRef false (.int "i64")).sameShape (listRef true .str) = .ok true := by
  have hint : (listRef true (.int "i8")).WellFormed := by decide
  have hstr : (listRef false .str).WellFormed := by decide
  obtain ⟨-, -, hshape, -, -, -, hmatch, hcoarse⟩ := matchers_compare hint hstr hint
  have hsame : (listRef true (.int "i8")).sameShape (listRef false .str) = .ok true := by
    rw [hshape]
    rfl
  -- one shape gives the number of references and the name
  obtain ⟨hdepth, hnames⟩ := hmatch hsame
  obtain ⟨-, hother⟩ := hcoarse (listRef false (.int "i64")) (listRef true .str) rfl rfl
  exact ⟨hint, hstr, hsame, hdepth, (hnames _ rfl rfl).2, hother.trans hsame⟩

/-- Floats do not match. -/
example : (Ty.ref ⟨.float, "f64", [], false, none, false⟩).sameShape
    (Ty.ref ⟨.float, "f64", [], false, none, false⟩) = .ok false := rfl

end ClosureLint
