import ClosureLint.Proofs.Types.Regular
import ClosureLint.Ty.Match

/-!
# Types that can be written have all their parts

An operation on a type fails where the description lacks a part. Types that are built the way types
are written lack none, so no operation on them fails, and the parts are such types again.

* `Regular.firstPart`, `Regular.fnParams`, `Regular.fnRet` — the parts.
* `Regular.text`, `Regular.implKey`, `Regular.displayName` — the names.
* `Regular.derefChain` — the chain of what a type dereferences to.
* `Regular.sameBorrowDepth`, `Regular.sameShape` — the matchers.
-/

namespace ClosureLint.Ty

variable {names : String → Prop} {t u : Ty}

theorem fnParams_function (params : List Ty) (ret : Ty) (isUnsafe : Bool) :
    (function params ret isUnsafe).fnParams = .ok params :=
  (if_pos rfl).trans (congrArg Except.ok (List.dropLast_concat ..))

/-- A function stays one when `Self` is replaced. -/
theorem kind_substSelf_function (h : t.kind = .function) : (t.substSelf u).kind = .function := by
  obtain ⟨k, name, ps, isMut, length, isUnsafe⟩ := t
  obtain rfl : k = .function := h
  rw [substSelf, if_neg fun h => Kind.noConfusion h.1]

/-- A type that is no reference has no references in front. -/
theorem stripRefs_of_ne_ref (h : t.kind ≠ .ref) : t.stripRefs = .ok t := by
  obtain ⟨k, name, ps, isMut, length, isUnsafe⟩ := t
  cases k with
  | ref => exact absurd rfl h
  | _ => rfl

namespace Regular

/-! ### Parts -/

/-- A type with something in it has one part. -/
theorem firstPart (h : Regular names t) (hk : t.kind.isContainer = true) :
    Succeeds (Regular names) (firstPart t.params) := by
  cases h with
  | primitive hp =>
    have hkinds := (primitive?_eq_some hp).2
    -- none of the kinds that built-in types have holds anything
    have hplain : ∀ k ∈ [Kind.bool, .char, .str, .int, .uint, .float], k.isContainer = false := by
      decide
    rw [hplain _ hkinds] at hk
    exact absurd hk Bool.false_ne_true
  | ref h | array h | slice h => exact ⟨_, rfl, h⟩
  | _ => exact absurd hk Bool.false_ne_true

/-- A function has at least its result. -/
theorem params_ne_nil (h : Regular names t) (hk : t.kind = .function) : t.params ≠ [] := by
  cases h with
  | primitive hp =>
    have hkinds := (primitive?_eq_some hp).2
    rw [hk] at hkinds
    exact absurd hkinds (by decide)
  | function _ _ => exact List.concat_ne_nil _ _
  | _ => nomatch hk

theorem fnParams (h : Regular names t) (hk : t.kind = .function) :
    Succeeds (fun ps => ∀ p ∈ ps, Regular names p) t.fnParams := by
  refine ⟨t.params.dropLast, if_pos hk, fun p hp => ?_⟩
  exact h.params p (List.dropLast_subset _ hp)

theorem fnRet (h : Regular names t) (hk : t.kind = .function) :
    Succeeds (Regular names) t.fnRet := by
  have hlast := List.getLast?_eq_some_getLast (h.params_ne_nil hk)
  refine ⟨t.params.getLast (h.params_ne_nil hk), ?_, h.params _ (List.getLast_mem _)⟩
  rw [Ty.fnRet, if_pos hk, lastPart, hlast]

/-- The type below all leading references. -/
theorem stripRefs (h : Regular names t) : Succeeds (Regular names) t.stripRefs := by
  induction h with
  | @primitive name t hp =>
    -- built-in types are no references
    have hkinds := (primitive?_eq_some hp).2
    have hplain : t.kind ≠ .ref := fun hk => absurd (hk ▸ hkinds) (by decide)
    exact ⟨t, stripRefs_of_ne_ref hplain, .primitive hp⟩
  | unknown => exact ⟨_, rfl, .unknown⟩
  | selfParam => exact ⟨_, rfl, .selfParam⟩
  | ref _ ih => exact ih
  | array h _ => exact ⟨_, rfl, .array h⟩
  | slice h _ => exact ⟨_, rfl, .slice h⟩
  | nominal hn h _ => exact ⟨_, rfl, .nominal hn h⟩
  | function hs h _ _ => exact ⟨_, rfl, .function hs h⟩
  | tuple h _ => exact ⟨_, rfl, .tuple h⟩

/-! ### Texts -/

/-- Several types have as many texts. -/
theorem textAll_succeeds {ts : List Ty} (h : ∀ t ∈ ts, Succeeds (fun _ => True) t.text) :
    Succeeds (fun texts => texts.length = ts.length) (textAll ts) := by
  induction ts with
  | nil => exact .pure rfl
  | cons t ts ih =>
    obtain ⟨ht, hts⟩ := List.forall_mem_cons.mp h
    exact ht.bind fun _ _ => (ih hts).bind fun texts hlength => .pure (congrArg (· + 1) hlength)

/-- **Every type that can be written has a text.** -/
theorem text (h : Regular names t) : Succeeds (fun _ => True) t.text := by
  induction h with
  | @primitive name t hp =>
    obtain ⟨ht, hkinds⟩ := primitive?_eq_some hp
    rw [ht]
    simp only [List.mem_cons, List.not_mem_nil, or_false] at hkinds
    -- the text of a built-in type is its name
    rcases hkinds with hk | hk | hk | hk | hk | hk <;> rw [hk] <;> exact .pure trivial
  | unknown | selfParam => exact .pure trivial
  | ref _ ih | array _ ih | slice _ ih => exact ih.bind fun _ _ => .pure trivial
  | nominal _ _ ih => exact (textAll_succeeds ih).bind fun _ _ => .pure trivial
  | @function params ret isUnsafe _ _ ihs ih =>
    have hall : ∀ p ∈ params ++ [ret], Succeeds (fun _ => True) p.text :=
      List.forall_mem_append.mpr ⟨ihs, List.forall_mem_singleton.mpr ih⟩
    refine (textAll_succeeds hall).bind fun texts hlength => ?_
    -- the last of the texts is that of the result
    have hne : texts ≠ [] := by
      rintro rfl
      simp at hlength
    rw [List.getLast?_concat, List.getLast?_eq_some_getLast hne]
    exact .pure trivial
  | tuple _ ih =>
    refine (textAll_succeeds ih).bind fun texts _ => ?_
    split <;> exact .pure trivial

theorem implKey (h : Regular names t) : Succeeds (fun _ => True) t.implKey := by
  unfold Ty.implKey
  split
  · exact .pure trivial
  · exact h.text

theorem displayName (h : Regular names t) : Succeeds (fun _ => True) t.displayName :=
  h.stripRefs.bind fun _ hu => hu.implKey

/-! ### Dereferencing -/

variable {targets : DerefTable}

theorem deref? (h : Regular names t) (ht : TargetsRegular names targets) :
    Succeeds (fun o => ∀ u, o = some u → Regular names u) (t.deref? targets) := by
  have hsucceeds : Succeeds (fun _ => True) (t.deref? targets) := by
    unfold Ty.deref?
    split
    · next hk => exact (h.firstPart (by rw [hk]; rfl)).bind fun _ _ => .pure trivial
    · exact .pure trivial
    · exact .pure trivial
  exact hsucceeds.and fun o ho u hu => h.of_deref? ht (hu ▸ ho)

theorem derefFrom (ht : TargetsRegular names targets) {fuel : Nat} {seen : List Ty} {cur : Ty}
    (hcur : Regular names cur) : Succeeds (fun _ => True) (derefFrom targets fuel seen cur) := by
  -- on the steps that are left
  induction fuel generalizing seen cur with
  | zero => exact .pure trivial
  | succ fuel ih =>
    refine (hcur.deref? ht).bind fun next hnext => ?_
    cases next with
    | none => exact .pure trivial
    | some u =>
      dsimp only
      split
      · exact .pure trivial
      · exact ih (hnext u rfl)

theorem derefChain (h : Regular names t) (ht : TargetsRegular names targets) :
    Succeeds (fun chain => ∀ u ∈ chain, Regular names u) (t.derefChain targets) :=
  (derefFrom ht h).and fun _ hc => h.of_derefChain ht hc

/-! ### Matchers -/

/-- A type that is no reference is compared by its kind alone. -/
theorem sameBorrowDepth_of_ne_ref (hk : t.kind ≠ .ref) :
    Succeeds (fun _ => True) (t.sameBorrowDepth u) := by
  obtain ⟨k, name, ps, isMut, length, isUnsafe⟩ := t
  rw [Ty.sameBorrowDepth, if_neg fun h => hk h.1]
  exact .pure trivial

theorem sameBorrowDepth (h : Regular names t) (hu : Regular names u) :
    Succeeds (fun _ => True) (t.sameBorrowDepth u) := by
  induction h generalizing u with
  | @ref inner isMut _ ih =>
    rw [Ty.ref, Ty.sameBorrowDepth]
    split
    · next hk =>
      obtain ⟨inner', isMut', rfl, hinner⟩ := hu.eq_ref hk.2
      exact ih hinner
    · exact .pure trivial
  | @primitive name t hp =>
    refine sameBorrowDepth_of_ne_ref fun hk => ?_
    have hkinds := (primitive?_eq_some hp).2
    rw [hk] at hkinds
    exact absurd hkinds (by decide)
  | _ => exact sameBorrowDepth_of_ne_ref nofun

/-- A type with nothing in it is compared without a look at the parts. -/
theorem sameShape_of_not_container (hk : t.kind.isContainer = false) :
    Succeeds (fun _ => True) (t.sameShape u) := by
  obtain ⟨k, name, ps, isMut, length, isUnsafe⟩ := t
  rw [Ty.sameShape]
  split
  · exact .pure trivial
  · split
    · exact .pure trivial
    · rw [if_neg (Bool.eq_false_iff.mp hk)]
      split <;> exact .pure trivial

/-- Two types with something in them are compared by that. -/
theorem sameShape_container {k : Kind} (hk : k.isContainer = true) {inner : Ty} {isMut : Bool}
    {length : Option Int} (hu : Regular names u)
    (ih : ∀ {u : Ty}, Regular names u → Succeeds (fun _ => True) (inner.sameShape u)) :
    Succeeds (fun _ => True) (Ty.sameShape ⟨k, "", [inner], isMut, length, false⟩ u) := by
  rw [Ty.sameShape, if_pos hk]
  split
  · exact .pure trivial
  · next hkind =>
    split
    · exact .pure trivial
    · obtain ⟨part, hpart, hregular⟩ :=
        hu.firstPart (Decidable.not_not.mp hkind ▸ hk)
      -- the part that is compared is the first one
      obtain ⟨parts, hparts⟩ : ∃ parts, u.params = part :: parts := by
        cases hps : u.params with
        | nil =>
          rw [hps] at hpart
          nomatch hpart
        | cons p ps =>
          rw [hps] at hpart
          exact ⟨ps, by rw [Except.ok.inj hpart]⟩
      rw [hparts]
      exact ih hregular

theorem sameShape (h : Regular names t) (hu : Regular names u) :
    Succeeds (fun _ => True) (t.sameShape u) := by
  induction h generalizing u with
  | ref _ ih | array _ ih | slice _ ih => exact sameShape_container rfl hu ih
  | @primitive name t hp =>
    have hkinds := (primitive?_eq_some hp).2
    have hplain : ∀ k ∈ [Kind.bool, .char, .str, .int, .uint, .float], k.isContainer = false := by
      decide
    exact sameShape_of_not_container (hplain _ hkinds)
  | _ => exact sameShape_of_not_container rfl

end Regular

end ClosureLint.Ty
