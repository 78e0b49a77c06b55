/-!
# Successful steps

A computation that may fail, read back from its success.

* `bind_eq_ok`, `bind_eq_error`, `pure_eq_ok` — a sequence succeeds when its steps do.
* `mapM_eq_ok` — so does going through a list.
* `Gives` — a step that keeps a state succeeds, with its answer and the state it leaves.
* `gives_bind`, `gives_pure`, … — what each way to build a step gives.
* `gives_lift_bind`, `gives_bind_pure`, … — what a sequence gives whose first or last step is simple.
* `Succeeds` — a computation that never fails.
* `Keeps` — a step keeps an invariant of the state, its answer has a property, and so has the error
  it may end with. Where no error has the property, the step never fails.
-/

namespace ClosureLint

variable {ε σ α β : Type}

/-- A sequence succeeds when both its steps do. -/
theorem bind_eq_ok {x : Except ε α} {f : α → Except ε β} {b : β} :
    x >>= f = .ok b ↔ ∃ a, x = .ok a ∧ f a = .ok b := by
  cases x with
  | error e => exact ⟨nofun, fun ⟨_, h, _⟩ => nomatch h⟩
  | ok a => exact ⟨fun h => ⟨a, rfl, h⟩, fun ⟨_, h, hf⟩ => by cases h; exact hf⟩

/-- A sequence fails with the error of the first step that does. -/
theorem bind_eq_error {x : Except ε α} {f : α → Except ε β} {e : ε} :
    x >>= f = .error e ↔ x = .error e ∨ ∃ a, x = .ok a ∧ f a = .error e := by
  cases x with
  | error e' =>
    refine ⟨fun h => .inl (congrArg _ (Except.error.inj h)), fun h => ?_⟩
    rcases h with h | ⟨a, h, -⟩
    · exact congrArg _ (Except.error.inj h)
    · nomatch h
  | ok a =>
    refine ⟨fun h => .inr ⟨a, rfl, h⟩, fun h => ?_⟩
    rcases h with h | ⟨b, h, hf⟩
    · nomatch h
    · cases h
      exact hf

/-- An answer is a success. -/
theorem pure_eq_ok {a b : α} : (pure a : Except ε α) = .ok b ↔ a = b :=
  ⟨fun h => by injection h, fun h => by rw [h]; rfl⟩

/-- Errors that are replaced are no successes. -/
theorem mapError_eq_ok {δ : Type} {f : ε → δ} {x : Except ε α} {a : α} :
    x.mapError f = .ok a ↔ x = .ok a := by
  cases x with
  | error e => exact ⟨nofun, nofun⟩
  | ok b => exact ⟨fun h => by injection h with h; rw [h], fun h => by injection h with h; rw [h]; rfl⟩

/-- A success is what is left when the error is forgotten. -/
theorem toOption_eq_some {x : Except ε α} {a : α} : x.toOption = some a ↔ x = .ok a := by
  cases x with
  | error e => exact ⟨nofun, nofun⟩
  | ok b => exact ⟨fun h => congrArg _ (Option.some.inj h), fun h => by injection h with h; rw [h]; rfl⟩

/-- Where every step succeeds, so does going through a list. -/
theorem mapM_eq_ok {f : α → Except ε β} {g : α → β} (h : ∀ a, f a = .ok (g a)) (l : List α) :
    l.mapM f = .ok (l.map g) := by
  induction l with
  | nil => rfl
  | cons a l ih =>
    rw [List.mapM_cons, h a, ih]
    rfl

/-- Going through a list only depends on what is done with its elements. -/
theorem mapM_congr {m : Type → Type} [Monad m] [LawfulMonad m] {f g : α → m β} {l : List α}
    (h : ∀ a ∈ l, f a = g a) : l.mapM f = l.mapM g := by
  induction l with
  | nil => rfl
  | cons a l ih =>
    rw [List.mapM_cons, List.mapM_cons, h a List.mem_cons_self,
      ih fun b hb => h b (List.mem_cons_of_mem a hb)]

/-! ### Steps that keep a state -/

/-- The step `m` succeeds from `s`: it answers `a` and leaves `s'`. -/
def Gives (m : StateT σ (Except ε) α) (s : σ) (a : α) (s' : σ) : Prop := m s = .ok (a, s')

variable {s s' s'' : σ} {a : α} {b : β}

/-- A step has one answer and leaves one state. -/
theorem Gives.unique {m : StateT σ (Except ε) α} {a' : α} (h : Gives m s a s')
    (h' : Gives m s a' s'') : a' = a ∧ s'' = s' :=
  Prod.mk.inj (Except.ok.inj (h'.symm.trans h))

/-- A sequence gives what its second step gives from where the first one ends. -/
theorem gives_bind {m : StateT σ (Except ε) α} {f : α → StateT σ (Except ε) β} :
    Gives (m >>= f) s b s'' ↔ ∃ a s', Gives m s a s' ∧ Gives (f a) s' b s'' := by
  unfold Gives
  change (m s >>= fun p => f p.1 p.2) = _ ↔ _
  rw [bind_eq_ok]
  exact ⟨fun ⟨p, h, hf⟩ => ⟨p.1, p.2, h, hf⟩, fun ⟨a, s', h, hf⟩ => ⟨(a, s'), h, hf⟩⟩

/-- An answer keeps the state. -/
theorem gives_pure {a' : α} :
    Gives (pure a : StateT σ (Except ε) α) s a' s' ↔ a = a' ∧ s = s' := by
  unfold Gives
  change (pure (a, s) : Except ε _) = _ ↔ _
  rw [pure_eq_ok, Prod.mk.injEq]

/-- A change of the state gives the changed one. -/
theorem gives_modify {f : σ → σ} {u : Unit} :
    Gives (modify f : StateT σ (Except ε) Unit) s u s' ↔ f s = s' := by
  unfold Gives
  change (pure ((), f s) : Except ε _) = _ ↔ _
  rw [pure_eq_ok, Prod.mk.injEq]
  exact ⟨fun h => h.2, fun h => ⟨rfl, h⟩⟩

/-- A look at the state gives it. -/
theorem gives_get {r : σ} :
    Gives (get : StateT σ (Except ε) σ) s r s' ↔ s = r ∧ s = s' := by
  unfold Gives
  change (pure (s, s) : Except ε _) = _ ↔ _
  rw [pure_eq_ok, Prod.mk.injEq]

/-- A step without a state keeps it. -/
theorem gives_lift {x : Except ε α} :
    Gives (liftM x : StateT σ (Except ε) α) s a s' ↔ x = .ok a ∧ s = s' := by
  unfold Gives
  change (x >>= fun a => pure (a, s)) = _ ↔ _
  rw [bind_eq_ok]
  constructor
  · rintro ⟨b, hx, h⟩
    obtain ⟨rfl, rfl⟩ := Prod.mk.inj (pure_eq_ok.mp h)
    exact ⟨hx, rfl⟩
  · rintro ⟨hx, rfl⟩
    exact ⟨a, hx, rfl⟩

/-- What comes behind a step without a state goes on from the same one. -/
theorem gives_lift_bind {x : Except ε α} {f : α → StateT σ (Except ε) β} :
    Gives (liftM x >>= f) s b s' ↔ ∃ a, x = .ok a ∧ Gives (f a) s b s' := by
  rw [gives_bind]
  constructor
  · rintro ⟨a, _, hlift, h⟩
    obtain ⟨hx, rfl⟩ := gives_lift.mp hlift
    exact ⟨a, hx, h⟩
  · rintro ⟨a, hx, h⟩
    exact ⟨a, s, gives_lift.mpr ⟨hx, rfl⟩, h⟩

/-- What comes behind a look at the state is given it. -/
theorem gives_get_bind {f : σ → StateT σ (Except ε) β} :
    Gives (get >>= f) s b s' ↔ Gives (f s) s b s' := by
  rw [gives_bind]
  constructor
  · rintro ⟨_, _, hget, h⟩
    obtain ⟨rfl, rfl⟩ := gives_get.mp hget
    exact h
  · exact fun h => ⟨s, s, gives_get.mpr ⟨rfl, rfl⟩, h⟩

/-- What comes behind a change goes on from the changed state. -/
theorem gives_modify_bind {g : σ → σ} {f : Unit → StateT σ (Except ε) β} :
    Gives (modify g >>= f) s b s' ↔ Gives (f ()) (g s) b s' := by
  rw [gives_bind]
  constructor
  · rintro ⟨_, _, hset, h⟩
    obtain rfl := gives_modify.mp hset
    exact h
  · exact fun h => ⟨(), g s, gives_modify.mpr rfl, h⟩

/-- A sequence that ends with an answer ends where its first step does. -/
theorem gives_bind_pure {m : StateT σ (Except ε) α} {f : α → β} :
    Gives (m >>= fun a => pure (f a)) s b s' ↔ ∃ a, Gives m s a s' ∧ f a = b := by
  rw [gives_bind]
  constructor
  · rintro ⟨a, _, h, hpure⟩
    obtain ⟨rfl, rfl⟩ := gives_pure.mp hpure
    exact ⟨a, h, rfl⟩
  · rintro ⟨a, h, rfl⟩
    exact ⟨a, s', h, gives_pure.mpr ⟨rfl, rfl⟩⟩

/-- A list is gone through one by one. -/
theorem gives_mapM_cons {f : α → StateT σ (Except ε) β} {l : List α} {bs : List β} :
    Gives ((a :: l).mapM f) s bs s'' ↔
      ∃ b bs' s', bs = b :: bs' ∧ Gives (f a) s b s' ∧ Gives (l.mapM f) s' bs' s'' := by
  rw [List.mapM_cons, gives_bind]
  constructor
  · rintro ⟨b, s₁, h₁, h⟩
    obtain ⟨bs', h₂, rfl⟩ := gives_bind_pure.mp h
    exact ⟨b, bs', s₁, rfl, h₁, h₂⟩
  · rintro ⟨b, bs', s₁, rfl, h₁, h₂⟩
    exact ⟨b, s₁, h₁, gives_bind_pure.mpr ⟨bs', h₂, rfl⟩⟩

/-- There is one answer for each element. -/
theorem length_of_gives_mapM {f : α → StateT σ (Except ε) β} {l : List α} {bs : List β}
    (h : Gives (l.mapM f) s bs s') : bs.length = l.length := by
  induction l generalizing s bs with
  | nil =>
    rw [List.mapM_nil] at h
    rw [← (gives_pure.mp h).1]
    rfl
  | cons a l ih =>
    obtain ⟨b, bs', s₁, rfl, -, h⟩ := gives_mapM_cons.mp h
    rw [List.length_cons, List.length_cons, ih h]

/-- A failure gives nothing. -/
theorem not_gives_throw {e : ε} :
    ¬ Gives (throw e : StateT σ (Except ε) α) s a s' := nofun

/-- An answer does not fail. -/
theorem not_fails_pure {e : ε} : (pure a : StateT σ (Except ε) α) s ≠ .error e := nofun

/-- A sequence fails when its first step does, or the second in the state that the first leaves. -/
theorem fails_bind {m : StateT σ (Except ε) α} {f : α → StateT σ (Except ε) β} {e : ε} :
    (m >>= f) s = .error e ↔ m s = .error e ∨ ∃ a s', Gives m s a s' ∧ f a s' = .error e := by
  unfold Gives
  change (m s >>= fun p => f p.1 p.2) = _ ↔ _
  rw [bind_eq_error]
  refine or_congr_right ⟨?_, ?_⟩
  · exact fun ⟨p, h, hf⟩ => ⟨p.1, p.2, h, hf⟩
  · exact fun ⟨a, s', h, hf⟩ => ⟨(a, s'), h, hf⟩

/-! ### Steps that cannot fail -/

/-- The computation `x` succeeds, and its answer has the property `P`. -/
def Succeeds (P : α → Prop) (x : Except ε α) : Prop := ∃ a, x = .ok a ∧ P a

namespace Succeeds

variable {P : α → Prop} {Q : β → Prop} {x : Except ε α}

/-- An answer with the property succeeds with it. -/
theorem pure {a : α} (h : P a) : Succeeds P (pure a : Except ε α) := ⟨a, rfl, h⟩

/-- A sequence never fails if its steps do not. -/
theorem bind {f : α → Except ε β} (hx : Succeeds P x) (hf : ∀ a, P a → Succeeds Q (f a)) :
    Succeeds Q (x >>= f) := by
  obtain ⟨a, rfl, ha⟩ := hx
  exact hf a ha

/-- What succeeds with a property succeeds with a weaker one. -/
theorem mono {P' : α → Prop} (h : Succeeds P x) (hP : ∀ a, P a → P' a) : Succeeds P' x := by
  obtain ⟨a, hx, ha⟩ := h
  exact ⟨a, hx, hP a ha⟩

/-- What is known of every answer holds of the one there is. -/
theorem and {P' : α → Prop} (h : Succeeds P x) (hP : ∀ a, x = .ok a → P' a) : Succeeds P' x := by
  obtain ⟨a, hx, -⟩ := h
  exact ⟨a, hx, hP a hx⟩

/-- Going through a list never fails if no step of it does. -/
theorem mapM {f : α → Except ε β} {l : List α} (h : ∀ a ∈ l, Succeeds Q (f a)) :
    Succeeds (fun bs => ∀ b ∈ bs, Q b) (l.mapM f) := by
  induction l with
  | nil => rw [List.mapM_nil]; exact pure nofun
  | cons a l ih =>
    rw [List.mapM_cons]
    exact (h a List.mem_cons_self).bind fun b hb =>
      (ih fun b hb => h b (List.mem_cons_of_mem a hb)).bind fun bs hbs =>
        pure (List.forall_mem_cons.mpr ⟨hb, hbs⟩)

end Succeeds

/-! ### Invariants -/

/-- From a state with the invariant `I`, every success of `m` leads to one, and the answer has the
property `P`; a failure of `m` has the property `E`. -/
structure Keeps (E : ε → Prop) (I : σ → Prop) (P : α → Prop) (m : StateT σ (Except ε) α) :
    Prop where
  keeps : ∀ {s a s'}, Gives m s a s' → I s → P a ∧ I s'
  fails : ∀ {s e}, m s = .error e → I s → E e

namespace Keeps

variable {E : ε → Prop} {I : σ → Prop} {P : α → Prop} {Q : β → Prop}

/-- An answer with the property keeps every invariant. -/
theorem pure {a : α} (h : P a) : Keeps E I P (pure a : StateT σ (Except ε) α) where
  keeps hg hs := by
    obtain ⟨rfl, rfl⟩ := gives_pure.mp hg
    exact ⟨h, hs⟩
  fails h _ := absurd h not_fails_pure

/-- Steps that keep an invariant, one after the other, keep it. -/
theorem bind {m : StateT σ (Except ε) α} {f : α → StateT σ (Except ε) β} (hm : Keeps E I P m)
    (hf : ∀ a, P a → Keeps E I Q (f a)) : Keeps E I Q (m >>= f) where
  keeps hg hs := by
    obtain ⟨a, s', h, h'⟩ := gives_bind.mp hg
    obtain ⟨ha, hs'⟩ := hm.keeps h hs
    exact (hf a ha).keeps h' hs'
  fails he hs := by
    rcases fails_bind.mp he with he | ⟨a, s', h, he⟩
    · exact hm.fails he hs
    · obtain ⟨ha, hs'⟩ := hm.keeps h hs
      exact (hf a ha).fails he hs'

/-- A step without a state that never fails keeps every invariant. -/
theorem lift {x : Except ε α} (h : Succeeds P x) :
    Keeps E I P (liftM x : StateT σ (Except ε) α) where
  keeps hg hs := by
    obtain ⟨a, ha, hP⟩ := h
    obtain ⟨hx, rfl⟩ := gives_lift.mp hg
    obtain rfl := Except.ok.inj (ha.symm.trans hx)
    exact ⟨hP, hs⟩
  fails he _ := by
    obtain ⟨a, rfl, -⟩ := h
    nomatch he

/-- A failure leaves no state behind. -/
theorem throw {e : ε} (h : E e) : Keeps E I P (throw e : StateT σ (Except ε) α) where
  keeps hg := absurd hg not_gives_throw
  fails he _ := by
    obtain rfl : e = _ := Except.error.inj he
    exact h

/-- A look at the state answers with one that has the invariant. -/
theorem get : Keeps E I I (get : StateT σ (Except ε) σ) where
  keeps hg hs := by
    obtain ⟨rfl, rfl⟩ := gives_get.mp hg
    exact ⟨hs, hs⟩
  fails he _ := nomatch he

/-- A change keeps an invariant if it carries every such state to another. -/
theorem modify {f : σ → σ} (hf : ∀ s, I s → I (f s)) :
    Keeps E I (fun _ => True) (modify f : StateT σ (Except ε) Unit) where
  keeps hg hs := by
    rw [← gives_modify.mp hg]
    exact ⟨trivial, hf _ hs⟩
  fails he _ := nomatch he

/-- Steps for each element keep an invariant together. -/
theorem forM {f : α → StateT σ (Except ε) Unit} {l : List α}
    (h : ∀ a ∈ l, Keeps E I (fun _ => True) (f a)) : Keeps E I (fun _ => True) (l.forM f) := by
  induction l with
  | nil => exact pure trivial
  | cons a l ih =>
    exact (h a List.mem_cons_self).bind fun _ _ => ih fun b hb => h b (List.mem_cons_of_mem a hb)

/-- So do steps that answer for each element, and all answers have the property. -/
theorem mapM {f : α → StateT σ (Except ε) β} {l : List α} (h : ∀ a ∈ l, Keeps E I Q (f a)) :
    Keeps E I (fun bs => ∀ b ∈ bs, Q b) (l.mapM f) := by
  induction l with
  | nil => rw [List.mapM_nil]; exact pure nofun
  | cons a l ih =>
    rw [List.mapM_cons]
    exact (h a List.mem_cons_self).bind fun b hb =>
      (ih fun b hb => h b (List.mem_cons_of_mem a hb)).bind fun bs hbs =>
        pure (List.forall_mem_cons.mpr ⟨hb, hbs⟩)

/-- A step that cannot fail in any way succeeds. -/
theorem gives {m : StateT σ (Except ε) α} (h : Keeps (fun _ => False) I P m) (hs : I s) :
    ∃ a s', Gives m s a s' := by
  cases hm : m s with
  | error e => exact (h.fails hm hs).elim
  | ok p => exact ⟨p.1, p.2, hm⟩

end Keeps

end ClosureLint
