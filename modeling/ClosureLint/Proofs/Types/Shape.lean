import ClosureLint.Proofs.Types.Regular
import ClosureLint.Ty.Match

/-!
# References in front of a type

The references that lead a type are what the matchers compare, what the name shows under which
implementations are filed, and what a deref chain goes through first.

* `Ty.borrowDepth` — how many references lead a type.
* `borrowDepth_of_sameBorrowDepth`, `borrowDepth_of_sameShape` — both matchers compare that.
* `implKey_ref`, `implKey_of_ne_ref` — the name under which implementations for a type are filed
  tells whether it is a reference.
* `derefChain_cons` — a deref chain begins with the type itself.
* `derefChain_single` — it ends there, unless the type is a reference or a struct.
* `derefChain_ref` — behind a reference comes the chain of what it refers to.
-/

namespace ClosureLint

namespace Ty

mutual

/-- The number of references that lead a type. -/
def borrowDepth : Ty → Nat
  | ⟨k, _, ps, _, _, _⟩ => if k = .ref then borrowDepthFirst ps + 1 else 0

/-- The same for the first of several types. -/
def borrowDepthFirst : List Ty → Nat
  | [] => 0
  | t :: _ => borrowDepth t

end

/-- A reference has one more than what it refers to, -/
theorem borrowDepth_ref (t : Ty) (isMut : Bool) : (ref t isMut).borrowDepth = t.borrowDepth + 1 :=
  rfl

/-- in whatever form it is given, -/
theorem borrowDepth_of_ref {t u : Ty} (hk : t.kind = .ref) (hu : t.params = [u]) :
    t.borrowDepth = u.borrowDepth + 1 := by
  obtain ⟨k, name, ps, isMut, length, isUnsafe⟩ := t
  obtain rfl : ps = [u] := hu
  exact if_pos hk

/-- and any other type has none. -/
theorem borrowDepth_of_ne_ref {t : Ty} (h : t.kind ≠ .ref) : t.borrowDepth = 0 := by
  obtain ⟨k, n, ps, m, l, u⟩ := t
  exact if_neg h

mutual

/-- Types that match in depth have equally many leading references. -/
theorem borrowDepth_of_sameBorrowDepth : (a : Ty) → {b : Ty} → sameBorrowDepth a b = .ok true →
    a.borrowDepth = b.borrowDepth
  | ⟨k, _, ps, _, _, _⟩, ⟨k', _, ps', _, _, _⟩, h => by
    rw [sameBorrowDepth] at h
    rw [borrowDepth, borrowDepth]
    split at h
    · next hk => rw [if_pos hk.1, if_pos hk.2, borrowDepthFirst_of_sameBorrowDepth ps h]
    · next hk =>
      have hne := pure_eq_ok.mp h
      simp only [Bool.and_eq_true, Bool.not_eq_true', beq_eq_false_iff_ne, ne_eq] at hne
      rw [if_neg hne.1, if_neg hne.2]

/-- So it is with the types that references refer to. -/
theorem borrowDepthFirst_of_sameBorrowDepth : (as : List Ty) → {bs : List Ty} →
    sameBorrowDepthFirst as bs = .ok true → borrowDepthFirst as = borrowDepthFirst bs
  | [], _, h => nomatch h
  | _ :: _, [], h => nomatch h
  | a :: _, _ :: _, h => borrowDepth_of_sameBorrowDepth a h

end

/-- Types of the same shape have the same kind, and structs of the same shape the same path. -/
theorem kind_of_sameShape {a b : Ty} (h : sameShape a b = .ok true) :
    a.kind = b.kind ∧ (a.kind = .nominal → a.name = b.name) := by
  obtain ⟨k, n, ps, m, l, u⟩ := a
  rw [sameShape] at h
  split at h
  · nomatch h
  · next hk =>
    refine ⟨Decidable.not_not.mp hk, fun hn => ?_⟩
    obtain rfl : k = .nominal := hn
    exact eq_of_beq (pure_eq_ok.mp h)

mutual

/-- Types of the same shape have equally many leading references. -/
theorem borrowDepth_of_sameShape : (a : Ty) → {b : Ty} → sameShape a b = .ok true →
    a.borrowDepth = b.borrowDepth
  | ⟨k, n, ps, m, l, u⟩, ⟨k', n', ps', m', l', u'⟩, h => by
    have hk : k = k' := (kind_of_sameShape h).1
    subst hk
    rw [borrowDepth, borrowDepth]
    -- only below a reference does the shape say anything of further references
    split
    · next hk =>
      subst hk
      exact congrArg (· + 1) (borrowDepthFirst_of_sameShape ps h)
    · rfl

/-- So it is here. -/
theorem borrowDepthFirst_of_sameShape : (as : List Ty) → {bs : List Ty} →
    sameShapeFirst as bs = .ok true → borrowDepthFirst as = borrowDepthFirst bs
  | [], _, h => nomatch h
  | _ :: _, [], h => nomatch h
  | a :: _, _ :: _, h => borrowDepth_of_sameShape a h

end

mutual

/-- Replacing `Self` by what is no reference keeps the leading references. -/
theorem borrowDepth_substSelf {s : Ty} (hs : s.kind ≠ .ref) : (t : Ty) →
    (t.substSelf s).borrowDepth = t.borrowDepth
  | ⟨k, n, ps, m, l, u⟩ => by
    rw [substSelf]
    split
    · next hk => rw [borrowDepth_of_ne_ref hs, borrowDepth_of_ne_ref (by rw [hk.1]; nofun)]
    · rw [borrowDepth, borrowDepth, borrowDepthFirst_substSelf hs ps]

/-- The same for the types that references refer to. -/
theorem borrowDepthFirst_substSelf {s : Ty} (hs : s.kind ≠ .ref) : (ts : List Ty) →
    borrowDepthFirst (substSelfAll ts s) = borrowDepthFirst ts
  | [] => rfl
  | t :: _ => borrowDepth_substSelf hs t

end

/-! ### Names of implementations -/

/-- Implementations for a reference are filed under a name that begins with `&`. -/
theorem implKey_ref {t : Ty} {isMut : Bool} {key : String} (h : (ref t isMut).implKey = .ok key) :
    key.toList.head? = some '&' := by
  rw [implKey, if_neg nofun] at h
  unfold ref at h
  rw [text] at h
  obtain ⟨inner, -, h⟩ := bind_eq_ok.mp h
  rw [← pure_eq_ok.mp h, String.toList_append]
  cases isMut <;> rfl

/-- Implementations for a built-in type are filed under its name. -/
theorem implKey_primitive {name : String} {t : Ty} (h : primitive? name = some t) :
    t.implKey = .ok name := by
  obtain ⟨ht, hk⟩ := primitive?_eq_some h
  rw [ht]
  simp only [List.mem_cons, List.not_mem_nil, or_false] at hk
  rcases hk with hk | hk | hk | hk | hk | hk <;> rw [hk] <;> rfl

/-- No name of a built-in type begins as a reference does. -/
theorem primitive?_head {name : String} {t : Ty} (h : primitive? name = some t) :
    name.toList.head? ≠ some '&' := by
  -- the numeric types have their names from these lists
  have hlist : ∀ n ∈ signedNames ++ unsignedNames ++ floatNames, n.toList.head? ≠ some '&' := by
    decide
  unfold primitive? at h
  split at h
  · next hn => rw [hn]; decide
  · split at h
    · next hn => rw [hn]; decide
    · split at h
      · next hn => rw [hn]; decide
      · split at h
        · next hn => exact hlist _ (by simp [hn])
        · split at h
          · next hn => exact hlist _ (by simp [hn])
          · split at h
            · next hn => exact hlist _ (by simp [hn])
            · nomatch h

/-- Those for other types are not, unless a struct is named so. -/
theorem implKey_of_ne_ref {names : String → Prop}
    (hnames : ∀ n, names n → n.toList.head? ≠ some '&') {t : Ty} {key : String}
    (ht : t.Regular names) (hk : t.kind ≠ .ref) (h : t.implKey = .ok key) :
    key.toList.head? ≠ some '&' := by
  cases ht with
  | primitive hp =>
    rw [implKey_primitive hp] at h
    rw [← Except.ok.inj h]
    exact primitive?_head hp
  | unknown | selfParam =>
    rw [← pure_eq_ok.mp h]
    decide
  | ref _ => exact absurd rfl hk
  -- all other texts begin with a mark of their own
  | array _ | slice _ =>
    obtain ⟨inner, -, h⟩ := bind_eq_ok.mp h
    rw [← pure_eq_ok.mp h]
    simp only [String.toList_append]
    exact nofun
  | nominal hn _ =>
    rw [← pure_eq_ok.mp h]
    exact hnames _ hn
  | function _ _ =>
    obtain ⟨texts, -, h⟩ := bind_eq_ok.mp h
    split at h
    · rw [← pure_eq_ok.mp h]
      simp only [String.toList_append]
      split <;> exact nofun
    · nomatch h
  | tuple _ =>
    obtain ⟨texts, -, h⟩ := bind_eq_ok.mp h
    split at h
    all_goals
      rw [← pure_eq_ok.mp h]
      simp only [String.toList_append]
      exact nofun

/-! ### How deref chains begin -/

variable {targets : DerefTable} {t : Ty}

/-- A deref chain only grows: what has been seen stays in front. -/
theorem derefFrom_prefix {fuel : Nat} {seen chain : List Ty} {cur : Ty}
    (h : derefFrom targets fuel seen cur = .ok chain) : seen <+: chain := by
  induction fuel generalizing seen cur with
  | zero =>
    rw [derefFrom] at h
    exact pure_eq_ok.mp h ▸ List.prefix_refl _
  | succ fuel ih =>
    rw [derefFrom] at h
    obtain ⟨next, -, h⟩ := bind_eq_ok.mp h
    cases next with
    | none => exact pure_eq_ok.mp h ▸ List.prefix_refl _
    | some u =>
      dsimp only at h
      split at h
      · exact pure_eq_ok.mp h ▸ List.prefix_refl _
      · exact (List.prefix_append seen [u]).trans (ih h)

theorem derefChain_cons {steps : List Ty} (h : t.derefChain targets = .ok steps) :
    ∃ tail, steps = t :: tail := by
  obtain ⟨tail, rfl⟩ := derefFrom_prefix h
  exact ⟨tail, rfl⟩

theorem deref?_eq_none (hr : t.kind ≠ .ref) (hn : t.kind ≠ .nominal) :
    t.deref? targets = .ok none := by
  unfold deref?
  split
  · next hk => exact absurd hk hr
  · next hk => exact absurd hk hn
  · rfl

/-- Types that are no references and no structs deref to nothing. -/
theorem derefFrom_stuck {fuel : Nat} {seen chain : List Ty} (hr : t.kind ≠ .ref)
    (hn : t.kind ≠ .nominal) (h : derefFrom targets fuel seen t = .ok chain) : chain = seen := by
  cases fuel with
  | zero =>
    rw [derefFrom] at h
    exact (pure_eq_ok.mp h).symm
  | succ fuel =>
    rw [derefFrom, deref?_eq_none hr hn] at h
    exact (pure_eq_ok.mp h).symm

theorem derefChain_single {steps : List Ty} (hr : t.kind ≠ .ref) (hn : t.kind ≠ .nominal)
    (h : t.derefChain targets = .ok steps) : steps = [t] := derefFrom_stuck hr hn h

theorem ne_ref (t : Ty) (isMut : Bool) : t ≠ ref t isMut := by
  intro h
  have hsize := congrArg sizeOf h
  simp only [ref, mk.sizeOf_spec, List.cons.sizeOf_spec, List.nil.sizeOf_spec] at hsize
  omega

theorem derefChain_ref {isMut : Bool} {steps : List Ty}
    (h : (ref t isMut).derefChain targets = .ok steps) :
    ∃ tail, steps = ref t isMut :: t :: tail ∧
      (t.kind ≠ .ref → t.kind ≠ .nominal → tail = []) := by
  rw [derefChain, maxDerefs, derefFrom, show (ref t isMut).deref? targets = .ok (some t) from rfl]
    at h
  obtain ⟨_, hnext, h⟩ := bind_eq_ok.mp h
  obtain rfl := Except.ok.inj hnext
  have hne : t ∉ [ref t isMut] := fun hm => ne_ref t isMut (List.mem_singleton.mp hm)
  dsimp only at h
  rw [if_neg hne] at h
  obtain ⟨tail, htail⟩ := derefFrom_prefix h
  refine ⟨tail, htail.symm, fun hr hn => ?_⟩
  exact List.append_right_eq_self.mp (htail.trans (derefFrom_stuck hr hn h))

end Ty

end ClosureLint
