import ClosureLint.Proofs.Grammar.Derivations

/-!
# Readers that stop at the first hopeless token

What a reader takes, apart from the values it makes of it. Such a reader *foresees* a language when
what it has taken is always the front of a phrase: of a whole phrase if it succeeds, and of one that
can still be completed if it fails. What it did so far depends on the tokens it took and on the one
that comes next, and on no token behind that.

* `leaves` — the tokens a reader leaves over, or its failure.
* `Phrases` — a language that is not empty, so that each of its phrases can be put behind what is
  there already.
* `Foresees` — the property, for one list of tokens.
* `Foresees.bind`, `Foresees.ite`, `Foresees.mono` — how readers are put together.
* `ForeseesUpTo`, `Foresees.of_shorter` — the induction for readers that call themselves.
* `Foresees.closed`, `Foresees.repeated` — lists up to a closing token.
-/

namespace ClosureLint.Syntax

/-! ### What a reader leaves over -/

/-- The tokens that are left over, or the failure. -/
def leaves {n : Nat} {α : Type} (r : Attempt (Read n α)) : Attempt (List Token) := Read.rest <$> r

section

variable {n : Nat} {α β : Type}

/-- What is left over by two steps is left over by the second. -/
theorem leaves_bind (x : Attempt β) (f : β → Attempt (Read n α)) :
    leaves (x >>= f) = x >>= fun a => leaves (f a) := map_bind ..

/-- A reader that is done leaves over what it says. -/
theorem leaves_pure (r : Read n α) : leaves (pure r) = pure r.rest := rfl

/-- A choice between two readers is one between what they leave over. -/
theorem leaves_ite (p : Prop) [Decidable p] (x y : Attempt (Read n α)) :
    leaves (if p then x else y) = if p then leaves x else leaves y := apply_ite ..

/-- Only what a step leaves over counts for a step that goes on from there. -/
theorem bind_leaves (x : Attempt (Read n α)) (f : List Token → Attempt (List Token)) :
    (leaves x >>= f) = x >>= fun r => f r.rest := bind_map_left ..

/-- So the last step may be left out. -/
theorem bind_pure_rest (x : Attempt (Read n α)) : (x >>= fun r => pure r.rest) = leaves x := by
  rw [leaves, map_eq_pure_bind]

/-- What is left over is shorter than what was there. -/
theorem leaves_shorter {x : Attempt (Read n α)} {rest : List Token} (h : leaves x = .ok rest) :
    rest.length < n := by
  cases x with
  | error e => cases h
  | ok r =>
    cases h
    exact r.shorter

end

/-! ### Languages -/

/-- Some token of kind `k`. -/
def sample (k : TokenKind) : Token := ⟨k, "", {}, {}⟩

/-- A sample is of the kind it is made for. -/
theorem sample_kind (k : TokenKind) : (sample k).kind = k := rfl

/-- A language that is not empty. -/
structure Phrases where
  has : List Token → Prop
  inhabited : ∃ us, has us

namespace Phrases

/-- The runs of tokens that a relation gives a tree. -/
def of {α : Type} (R : List Token → α → Prop) (h : ∃ us a, R us a) : Phrases :=
  ⟨fun us => ∃ a, R us a, h⟩

/-- No token. -/
def nothing : Phrases := ⟨fun us => us = [], [], rfl⟩

/-- One token of kind `k`. -/
def one (k : TokenKind) : Phrases :=
  ⟨fun us => ∃ t : Token, t.kind = k ∧ us = [t], _, sample k, sample_kind k, rfl⟩

/-- At most one token, of kind `k`. -/
def optional (k : TokenKind) : Phrases := .of (IsOptional k) ⟨[], false, .absent⟩

/-- A phrase of `L` with one of `M` behind it. -/
def andThen (L M : Phrases) : Phrases where
  has us := ∃ vs ws, us = vs ++ ws ∧ L.has vs ∧ M.has ws
  inhabited :=
    have ⟨vs, hv⟩ := L.inhabited
    have ⟨ws, hw⟩ := M.inhabited
    ⟨vs ++ ws, vs, ws, rfl, hv, hw⟩

/-- A phrase of `L` or one of `M`. -/
def orElse (L M : Phrases) : Phrases :=
  ⟨fun us => L.has us ∨ M.has us, L.inhabited.imp fun _ => .inl⟩

end Phrases

/-! ### Foresight -/

/-- On `ts`, the reader `take` takes a phrase of `L`, or it fails in front of the first token that
no longer fits. Either way, it would do the same if behind the next token other tokens stood. -/
structure Foresees (L : Phrases) (take : List Token → Attempt (List Token)) (ts : List Token) :
    Prop where
  ok {rest : List Token} : take ts = .ok rest → ∃ us, ts = us ++ rest ∧ L.has us ∧
    ∀ rest', rest'.head? = rest.head? → take (us ++ rest') = .ok rest'
  error {rest : List Token} : take ts = .error rest → ∃ us, ts = us ++ rest ∧
    (∃ more, L.has (us ++ more)) ∧
    ∀ rest', rest'.head? = rest.head? → take (us ++ rest') = .error rest'

section

variable {L M : Phrases} {take take' : List Token → Attempt (List Token)} {ts rest us : List Token}
  {k : TokenKind}

/-- What comes next is the same in front of the same token. -/
theorem head?_append_congr (us : List Token) {rest rest' : List Token}
    (h : rest'.head? = rest.head?) : (us ++ rest').head? = (us ++ rest).head? := by
  rw [List.head?_append, List.head?_append, h]

/-- Whether a token of some kind comes next depends on the next token alone. -/
theorem nextIs_congr {k : TokenKind} {ts ts' : List Token} (h : ts'.head? = ts.head?) :
    nextIs k ts' = nextIs k ts := by
  cases ts' with
  | nil => cases ts with
    | nil => rfl
    | cons t ts => cases h
  | cons t' ts' => cases ts with
    | nil => cases h
    | cons t ts =>
      cases h
      rfl

namespace Foresees

/-- A reader may be taken for another one that does the same on what starts with the same token. -/
theorem of_head (h : ∀ ts', ts'.head? = ts.head? → take ts' = take' ts')
    (ht : Foresees L take' ts) : Foresees L take ts where
  ok hok := by
    rw [h ts rfl] at hok
    obtain ⟨us, rfl, hus, hagain⟩ := ht.ok hok
    refine ⟨us, rfl, hus, fun rest' hr => ?_⟩
    rw [h _ (head?_append_congr us hr)]
    exact hagain rest' hr
  error herror := by
    rw [h ts rfl] at herror
    obtain ⟨us, rfl, hus, hagain⟩ := ht.error herror
    refine ⟨us, rfl, hus, fun rest' hr => ?_⟩
    rw [h _ (head?_append_congr us hr)]
    exact hagain rest' hr

/-- A reader may be taken for another one that does the same. -/
theorem of_eq (h : ∀ ts, take ts = take' ts) (ht : Foresees L take' ts) : Foresees L take ts :=
  of_head (fun ts' _ => h ts') ht

/-- A reader may be taken for what it does behind the token that comes next. -/
theorem of_cons {t : Token} (h : ∀ ts, take (t :: ts) = take' (t :: ts))
    (ht : Foresees L take' (t :: ts)) : Foresees L take (t :: ts) := by
  refine of_head (fun ts' hhead => ?_) ht
  obtain ⟨ts', rfl⟩ : ∃ us, ts' = t :: us := List.head?_eq_some_iff.mp hhead
  exact h ts'

/-- A reader that is foreseen for a language is so for a wider one. -/
theorem mono (ht : Foresees L take ts) (h : ∀ us, L.has us → M.has us) : Foresees M take ts where
  ok hok :=
    have ⟨us, hts, hus, hagain⟩ := ht.ok hok
    ⟨us, hts, h us hus, hagain⟩
  error herror :=
    have ⟨us, hts, ⟨more, hus⟩, hagain⟩ := ht.error herror
    ⟨us, hts, ⟨more, h _ hus⟩, hagain⟩

/-- A reader that needs a token fails at the end of the text. -/
theorem fails_at_end (h : take [] = throw []) : Foresees L take [] where
  ok hok := nomatch h.symm.trans hok
  error herror := by
    cases h.symm.trans herror
    refine ⟨[], rfl, L.inhabited, fun rest' hr => ?_⟩
    rw [List.head?_eq_none_iff.mp hr]
    exact h

/-- Nothing is taken, and that cannot fail. -/
theorem nothing (ts : List Token) : Foresees .nothing pure ts where
  ok hok := by
    cases hok
    exact ⟨[], rfl, rfl, fun _ _ => rfl⟩
  error := nofun

/-- One token is taken, or the reader fails at it. -/
theorem expect (k : TokenKind) (ts : List Token) :
    Foresees (.one k) (fun ts => leaves (expect k ts)) ts := by
  cases ts with
  | nil => exact fails_at_end rfl
  | cons t ts =>
    by_cases hk : t.kind = k
    -- the answer depends on the first token alone
    · have hall : ∀ rest, leaves (Syntax.expect k (t :: rest)) = .ok rest := by
        intro rest
        rw [expect_cons hk]
        rfl
      constructor
      · intro rest hok
        cases (hall ts).symm.trans hok
        exact ⟨[t], rfl, ⟨t, hk, rfl⟩, fun rest' _ => hall rest'⟩
      · intro rest herror
        cases (hall ts).symm.trans herror
    · have hall : ∀ rest, leaves (Syntax.expect k (t :: rest)) = .error (t :: rest) := by
        intro rest
        rw [Syntax.expect, if_neg hk]
        rfl
      constructor
      · intro rest hok
        cases (hall ts).symm.trans hok
      · intro rest herror
        cases (hall ts).symm.trans herror
        refine ⟨[], rfl, (Phrases.one k).inhabited, fun rest' hr => ?_⟩
        obtain ⟨us, rfl⟩ : ∃ us, rest' = t :: us := List.head?_eq_some_iff.mp hr
        exact hall us

/-- A word is taken if it comes next. -/
theorem optional (k : TokenKind) (ts : List Token) :
    Foresees (.optional k) (fun ts => pure (dropIf k ts).2) ts where
  ok hok := by
    cases hok
    -- whether the word is there is seen at the next token, so it is the same for all that begins with
    -- it
    by_cases hk : ∃ t us, ts = t :: us ∧ t.kind = k
    · obtain ⟨t, us, rfl, hk⟩ := hk
      have hall : ∀ rest, (dropIf k (t :: rest)).2 = rest := fun rest => by rw [dropIf, if_pos hk]
      rw [hall]
      refine ⟨[t], rfl, ⟨true, .present hk⟩, fun rest' _ => ?_⟩
      exact congrArg pure (hall rest')
    · have hall : ∀ rest, rest.head? = ts.head? → (dropIf k rest).2 = rest := by
        intro rest hr
        cases rest with
        | nil => rfl
        | cons t rest =>
          obtain ⟨us, rfl⟩ : ∃ us, ts = t :: us := List.head?_eq_some_iff.mp hr.symm
          rw [dropIf, if_neg fun ht => hk ⟨t, us, rfl, ht⟩]
      rw [hall ts rfl]
      exact ⟨[], rfl, ⟨false, .absent⟩, fun rest' hr => congrArg pure (hall rest' hr)⟩
  error := nofun

/-- One reader after the other. What the second one does is only of interest on the tokens that the
first one leaves over. -/
theorem bind (ht : Foresees L take ts)
    (ht' : ∀ rest, take ts = .ok rest → Foresees M take' rest) :
    Foresees (L.andThen M) (fun ts => take ts >>= take') ts where
  ok {rest} hok := by
    obtain ⟨mid, hmid, hrest⟩ := bind_eq_ok.mp hok
    obtain ⟨us, rfl, hus, hagain⟩ := ht.ok hmid
    obtain ⟨vs, rfl, hvs, hagain'⟩ := (ht' mid hmid).ok hrest
    refine ⟨us ++ vs, by rw [List.append_assoc], ⟨us, vs, rfl, hus, hvs⟩, fun rest' hr => ?_⟩
    rw [List.append_assoc, hagain _ (head?_append_congr vs hr)]
    exact hagain' rest' hr
  error {rest} herror := by
    cases hmid : take ts with
    | error stop =>
      -- the first one failed: its part is completed, and the second one gets a part of its own
      rw [hmid] at herror
      cases herror
      obtain ⟨us, rfl, ⟨more, hus⟩, hagain⟩ := ht.error hmid
      obtain ⟨vs, hvs⟩ := M.inhabited
      refine ⟨us, rfl, ⟨more ++ vs, us ++ more, vs, by rw [List.append_assoc], hus, hvs⟩, ?_⟩
      intro rest' hr
      rw [hagain rest' hr]
      rfl
    | ok mid =>
      rw [hmid] at herror
      -- the second one failed: what the first took stands in front of what can be completed
      obtain ⟨us, rfl, hus, hagain⟩ := ht.ok hmid
      obtain ⟨vs, rfl, ⟨more, hvs⟩, hagain'⟩ := (ht' mid hmid).error herror
      refine ⟨us ++ vs, by rw [List.append_assoc], ⟨more, us, vs ++ more, ?_, hus, hvs⟩, ?_⟩
      · rw [List.append_assoc]
      · intro rest' hr
        rw [List.append_assoc, hagain _ (head?_append_congr vs hr)]
        exact hagain' rest' hr

/-- The token that comes next decides which reader goes on. -/
theorem ite (ht : nextIs k ts = true → Foresees L take ts)
    (ht' : nextIs k ts = false → Foresees M take' ts) :
    Foresees (L.orElse M) (fun ts => if nextIs k ts then take ts else take' ts) ts := by
  cases hk : nextIs k ts with
  | true =>
    refine of_head (fun ts' hhead => ?_) ((ht hk).mono fun _ => .inl)
    rw [nextIs_congr hhead, hk, if_pos rfl]
  | false =>
    refine of_head (fun ts' hhead => ?_) ((ht' hk).mono fun _ => .inr)
    rw [nextIs_congr hhead, hk, if_neg Bool.false_ne_true]

/-- A reader leaves over no more than there was. -/
theorem length_le (ht : Foresees L take ts) (hok : take ts = .ok rest) :
    rest.length ≤ ts.length := by
  obtain ⟨us, rfl, -, -⟩ := ht.ok hok
  rw [List.length_append]
  exact Nat.le_add_left _ _

end Foresees

/-- Foreseen on every list that is no longer than `ts`. This is what is known of a reader where it
calls itself. -/
def ForeseesUpTo (L : Phrases) (take : List Token → Attempt (List Token)) (ts : List Token) :
    Prop := ∀ us, us.length ≤ ts.length → Foresees L take us

namespace ForeseesUpTo

/-- What holds of all lists up to some length holds of the longest, -/
theorem self (h : ForeseesUpTo L take ts) : Foresees L take ts := h ts (Nat.le_refl _)

/-- and of all that are no longer. -/
theorem shorter (h : ForeseesUpTo L take ts) (hle : us.length ≤ ts.length) :
    ForeseesUpTo L take us := fun vs hvs => h vs (Nat.le_trans hvs hle)

/-- It stays so behind what another reader took, -/
theorem behind (h : ForeseesUpTo L take ts) (ht : Foresees M take' ts)
    (hok : take' ts = .ok rest) : ForeseesUpTo L take rest := h.shorter (ht.length_le hok)

/-- and it is so behind what was taken of a list with one more token. -/
theorem first {α : Type} {t : Token} {x : Attempt (Read (t :: ts).length α)}
    (h : ForeseesUpTo L take ts) (hx : leaves x = .ok rest) : ForeseesUpTo L take rest :=
  h.shorter (Nat.le_of_lt_succ (leaves_shorter hx))

end ForeseesUpTo

/-- The induction for a reader that calls itself: it needs a token, and behind one it is foreseen if
it is on all shorter lists. -/
theorem Foresees.of_shorter (hnil : take [] = throw [])
    (hcons : ∀ t ts, ForeseesUpTo L take ts → Foresees L take (t :: ts)) (ts : List Token) :
    Foresees L take ts := by
  induction hm : ts.length using Nat.strongRecOn generalizing ts with
  | _ m ih =>
    subst hm
    cases ts with
    | nil => exact fails_at_end hnil
    | cons t ts => exact hcons t ts fun us hus => ih _ (Nat.lt_succ_of_le hus) us rfl

/-! ### Lists up to a closing token -/

section

variable {α : Type} {R : List Token → α → Prop} {hR : ∃ us a, R us a}
  {item : List Token → Attempt (List Token)}

/-- Lists of what `R` has, with commas between them and a token of kind `k` that closes them. -/
def Phrases.closed (k : TokenKind) (R : List Token → α → Prop) : Phrases :=
  .of (Closed k R) ⟨_, [], .nil (sample_kind k)⟩

/-- A list with commas is foreseen as its elements are. Its reader may keep a count. -/
theorem Foresees.closed (list : Nat → List Token → Attempt (List Token))
    (hlist : ∀ i ts, list i ts = if nextIs k ts then leaves (Syntax.expect k ts) else do
      let ts ← item ts
      if nextIs .comma ts then do
        let ts ← leaves (Syntax.expect .comma ts)
        list (i + 1) ts
      else leaves (Syntax.expect k ts))
    (hitem : ForeseesUpTo (.of R hR) item ts) (i : Nat) : Foresees (.closed k R) (list i) ts := by
  -- on the number of tokens: each round takes a comma at least
  induction hm : ts.length using Nat.strongRecOn generalizing i ts with
  | _ m ih =>
    subst hm
    have hfirst := hitem.self
    let behind : Phrases := .orElse (.andThen (.one .comma) (.closed k R)) (.one k)
    refine (of_eq (hlist i) <| .ite (fun _ => .expect k ts) fun _ =>
      .bind (M := behind) hfirst ?_).mono ?_
    · -- what stands behind an element: a comma and more elements, or the closing token
      intro rest hrest
      refine .ite (fun _ => .bind (.expect .comma rest) ?_) fun _ => .expect k rest
      intro rest' hrest'
      have hlt : rest'.length < ts.length :=
        Nat.lt_of_lt_of_le (leaves_shorter hrest') (hfirst.length_le hrest)
      exact ih _ hlt (hitem.shorter (Nat.le_of_lt hlt)) (i + 1) rfl
    · rintro _ (⟨cl, hk, rfl⟩ | ⟨vs, _, rfl, ⟨a, ha⟩, h⟩)
      · exact ⟨[], .nil hk⟩
      · obtain ⟨_, ws, rfl, ⟨comma, hc, rfl⟩, as, has⟩ | ⟨cl, hk, rfl⟩ := h
        · exact ⟨a :: as, .cons ha hc has⟩
        · exact ⟨[a], .last ha hk⟩

/-- Any number of what `R` has, one behind the other, with a token of kind `k` that closes them. -/
def Phrases.repeated (k : TokenKind) (R : List Token → α → Prop) : Phrases :=
  .of (fun us as => ∃ vs cl, us = vs ++ [cl] ∧ cl.kind = k ∧ Repeated R vs as)
    ⟨_, [], [], _, rfl, sample_kind k, .nil⟩

/-- A list without commas is foreseen as its elements are, each of which takes a token. -/
theorem Foresees.repeated (list : List Token → Attempt (List Token))
    (hlist : ∀ ts, list ts = if nextIs k ts then leaves (Syntax.expect k ts) else do
      let ts ← item ts
      list ts)
    (hitem : ∀ ts, Foresees (.of R hR) item ts)
    (hshorter : ∀ {ts rest}, item ts = .ok rest → rest.length < ts.length) (ts : List Token) :
    Foresees (.repeated k R) list ts := by
  -- on the number of tokens: each element takes one at least
  induction hm : ts.length using Nat.strongRecOn generalizing ts with
  | _ m ih =>
    subst hm
    refine (of_eq hlist <| .ite (fun _ => .expect k ts) fun _ =>
      .bind (M := .repeated k R) (hitem ts) ?_).mono ?_
    · intro rest hrest
      exact ih _ (hshorter hrest) rest rfl
    · rintro _ (⟨cl, hk, rfl⟩ | ⟨vs, _, rfl, ⟨a, ha⟩, as, ws, cl, rfl, hk, has⟩)
      · exact ⟨[], [], cl, rfl, hk, .nil⟩
      · exact ⟨a :: as, vs ++ ws, cl, by rw [List.append_assoc], hk, .cons ha has⟩

end

end

end ClosureLint.Syntax
