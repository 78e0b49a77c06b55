import ClosureLint.Proofs.Grammar.Basic
import ClosureLint.Proofs.Outcome

/-!
# Types and patterns are read as the grammar says

* `Spelled` — certain tokens stand at the front of a list, and what is left behind them.
* `Took` — a reader took such tokens, and they have the right form.
* `readType_sound`, `readPattern_sound`, `readClosureParams_sound` — every successful reader did
  so. The proofs follow the readers' own recursion, one reader at a time.
-/

namespace ClosureLint.Syntax

variable {α β : Type} {n : Nat} {ts us vs rest rest' : List Token} {stop stop' before : Pos}

/-- The tokens `used`, of which there are some, stand in front of `rest` and stop at `stop`. -/
structure Spelled (ts used : List Token) (stop : Pos) (rest : List Token) : Prop where
  ne_nil : used ≠ []
  split : ts = used ++ rest
  stops : stop = stopOf used

/-- The tokens `used` stand in front of `rest`. Where there are none, the position is `before`. -/
structure SpelledOpt (before : Pos) (ts used : List Token) (stop : Pos) (rest : List Token) :
    Prop where
  split : ts = used ++ rest
  stops : stop = if used = [] then before else stopOf used

/-- The read `r` took tokens off the front of `ts` that are of the form `P`. -/
def Took (P : List Token → α → List LateFault → Prop) (ts : List Token) (r : Read n α) : Prop :=
  ∃ used, Spelled ts used r.stop r.rest ∧ P used r.value r.late

/-- The same for a reader that may have taken no tokens, where the last one stopped at `before`. -/
def TookOpt (P : List Token → α → List LateFault → Prop) (before : Pos) (ts : List Token)
    (r : Read n α) : Prop :=
  ∃ used, SpelledOpt before ts used r.stop r.rest ∧ P used r.value r.late

/-! ### How readers are put together -/

namespace Spelled

/-- The tokens that were taken, written in another way. -/
theorem cast (h : Spelled ts us stop rest) (he : us = vs) : Spelled ts vs stop rest := he ▸ h

/-- One token is taken. -/
theorem token (t : Token) (ts : List Token) : Spelled (t :: ts) [t] t.stop ts :=
  ⟨List.cons_ne_nil _ _, rfl, rfl⟩

/-- Tokens are taken, and then more. -/
theorem seq (h : Spelled ts us stop rest) (h' : Spelled rest vs stop' rest') :
    Spelled ts (us ++ vs) stop' rest' where
  ne_nil := List.append_ne_nil_of_left_ne_nil h.ne_nil _
  split := by rw [List.append_assoc, ← h'.split, ← h.split]
  stops := h'.stops.trans (stopOf_append us h'.ne_nil).symm

/-- A token is taken, and then more. -/
theorem behind (t : Token) (h : Spelled ts us stop rest) :
    Spelled (t :: ts) (t :: us) stop rest where
  ne_nil := List.cons_ne_nil _ _
  split := congrArg (t :: ·) h.split
  stops := h.stops.trans (stopOf_cons t h.ne_nil).symm

/-- Tokens are taken, and then perhaps more. If there are none, the end stays where it was. -/
theorem seqOpt (h : Spelled ts us stop rest) (h' : SpelledOpt stop rest vs stop' rest') :
    Spelled ts (us ++ vs) stop' rest' where
  ne_nil := List.append_ne_nil_of_left_ne_nil h.ne_nil _
  split := by rw [List.append_assoc, ← h'.split, ← h.split]
  stops := by
    rw [h'.stops]
    split
    · next hv => rw [hv, List.append_nil, h.stops]
    · next hv => exact (stopOf_append us hv).symm

/-- A construct covers the tokens that were taken for it. -/
theorem extent {t : Token} (h : Spelled (t :: ts) us stop rest) :
    Loc.between t.start stop = extentOf us := by
  obtain ⟨u, us, rfl⟩ := List.exists_cons_of_ne_nil h.ne_nil
  rw [extentOf, startOf_cons, h.stops, (List.cons.inj h.split).1]

/-- So is the extent that goes from the first token to the end of the last. -/
theorem extent' (h : Spelled ts us stop rest) :
    Loc.between (startOf ts) stop = extentOf us := by
  rw [extentOf, h.stops, h.split, startOf_append _ h.ne_nil]

end Spelled

namespace SpelledOpt

/-- Nothing is taken. -/
theorem nothing (before : Pos) (ts : List Token) : SpelledOpt before ts [] before ts :=
  ⟨rfl, rfl⟩

/-- What is taken is there, though it could have been left out. -/
theorem of_spelled (before : Pos) (h : Spelled ts us stop rest) :
    SpelledOpt before ts us stop rest :=
  ⟨h.split, by rw [h.stops, if_neg h.ne_nil]⟩

end SpelledOpt

/-! ### One token -/

/-- A token is taken if it is of the kind that is expected. -/
theorem expect_sound {k : TokenKind} {r : Read ts.length Token} (h : expect k ts = .ok r) :
    Spelled ts [r.value] r.stop r.rest ∧ r.value.kind = k ∧ r.late = [] := by
  cases ts with
  | nil => cases h
  | cons t ts =>
    rw [expect] at h
    split at h
    · next hk =>
      obtain rfl := pure_eq_ok.mp h
      exact ⟨.token t ts, hk, rfl⟩
    · cases h

/-- A word is dropped if it is there. -/
theorem dropIf_sound (k : TokenKind) (ts : List Token) :
    ∃ ms, IsOptional k ms (dropIf k ts).1 ∧ ts = ms ++ (dropIf k ts).2 := by
  cases ts with
  | nil => exact ⟨[], .absent, rfl⟩
  | cons t ts =>
    rw [dropIf]
    split
    · next hk => exact ⟨[t], .present hk, rfl⟩
    · exact ⟨[], .absent, rfl⟩

/-- A reader behind an optional token of kind `k` took that token too. -/
theorem Spelled.behindOpt {k : TokenKind} (h : Spelled (dropIf k ts).2 us stop rest) :
    ∃ ms, IsOptional k ms (dropIf k ts).1 ∧ Spelled ts (ms ++ us) stop rest := by
  obtain ⟨ms, hm, hts⟩ := dropIf_sound k ts
  refine ⟨ms, hm, List.append_ne_nil_of_right_ne_nil _ h.ne_nil, ?_, ?_⟩
  · rw [List.append_assoc, ← h.split, ← hts]
  · rw [h.stops, stopOf_append ms h.ne_nil]

/-! ### Paths and literals -/

/-- A path takes names with `::` in between. -/
theorem readPath_sound {ts : List Token} {r : Read ts.length Path} (h : readPath ts = .ok r) :
    Took (fun us p late => IsPath us p ∧ late = []) ts r := by
  rw [readPath] at h
  simp only [bind_eq_ok] at h
  obtain ⟨first, hf, h⟩ := h
  obtain ⟨hs, hk, hl⟩ := expect_sound hf
  split at h
  · simp only [bind_eq_ok, pure_eq_ok] at h
    obtain ⟨colons, hc, others, ho, rfl⟩ := h
    obtain ⟨hcs, hck, hcl⟩ := expect_sound hc
    -- the recursion goes on with fewer tokens
    have := first.shorter
    have := colons.shorter
    obtain ⟨used, hus, hpath, hlate⟩ := readPath_sound ho
    refine ⟨_, (hs.seq hcs).seq hus, .cons hk hck hpath, ?_⟩
    simp only [Read.seq, hl, hcl, hlate, List.append_nil]
  · obtain rfl := pure_eq_ok.mp h
    exact ⟨_, hs, .single hk, hl⟩
termination_by ts.length

/-- A number takes its token, and the fault of its value is the only one. -/
theorem readInt_sound {r : Read ts.length Int} (h : readInt ts = .ok r) :
    ∃ t, Spelled ts [t] r.stop r.rest ∧ t.kind = .int ∧ r.value = intValue t ∧
      r.late = intLate t := by
  obtain ⟨t, ht, h⟩ := bind_eq_ok.mp h
  obtain ⟨hs, hk, -⟩ := expect_sound ht
  obtain rfl := pure_eq_ok.mp h
  exact ⟨t.value, hs, hk, rfl, rfl⟩

/-- So does a string. What is wrong with its escapes is found late. -/
theorem readString_sound {r : Read ts.length (List Nat)} (h : readString ts = .ok r) :
    ∃ t, Spelled ts [t] r.stop r.rest ∧ t.kind = .string ∧ r.value = stringValue t ∧
      r.late = stringLate t := by
  obtain ⟨t, ht, h⟩ := bind_eq_ok.mp h
  obtain ⟨hs, hk, hl⟩ := expect_sound ht
  refine ⟨t.value, ?_⟩
  -- the value is what the escapes give, or there is a late fault in its place
  split at h
  · next points hp =>
    obtain rfl := pure_eq_ok.mp h
    exact ⟨hs, hk, by rw [stringValue, hp]; rfl, by rw [stringLate, hp]; exact hl⟩
  · next e he =>
    obtain rfl := pure_eq_ok.mp h
    exact ⟨hs, hk, by rw [stringValue, he]; rfl, by rw [stringLate, he]; rfl⟩

/-! ### Types

There is one lemma for each kind of token that a type can begin with. They take what holds of the readers
that follow as hypotheses, so that the recursion stands in `readType_sound` alone. -/

section Forms

variable {t : Token} {r : Read (t :: ts).length TypeExpr}

/-- Behind `&` there may be `mut`, and then a type. -/
private theorem readType_ref_sound (hk : t.kind = .ampersand)
    (hinner : ∀ {r}, readType (dropIf .mutWord ts).2 = .ok r → Took IsType (dropIf .mutWord ts).2 r)
    (h : readType (t :: ts) = .ok r) : Took IsType (t :: ts) r := by
  rw [readType] at h
  simp only [hk, bind_eq_ok, pure_eq_ok] at h
  obtain ⟨inner, hi, rfl⟩ := h
  obtain ⟨used, hu, htype⟩ := hinner hi
  obtain ⟨ms, hm, hu⟩ := hu.behindOpt
  have hs := hu.behind t
  refine ⟨_, hs, ?_⟩
  simp only [Read.behind, Read.behindOpt, hs.extent]
  exact .ref hk hm htype

/-- Behind `[` there is a type, and what follows tells an array from a slice. -/
private theorem readType_bracket_sound (hk : t.kind = .leftBracket)
    (helem : ∀ {r}, readType ts = .ok r → Took IsType ts r)
    (h : readType (t :: ts) = .ok r) : Took IsType (t :: ts) r := by
  rw [readType] at h
  simp only [hk, bind_eq_ok] at h
  obtain ⟨elem, he, h⟩ := h
  obtain ⟨used, hu, htype⟩ := helem he
  split at h
  · -- a semicolon and a length: an array
    simp only [bind_eq_ok, pure_eq_ok] at h
    obtain ⟨semicolon, h₁, length, h₂, close, h₃, rfl⟩ := h
    obtain ⟨hs₁, hk₁, hl₁⟩ := expect_sound h₁
    obtain ⟨n, hs₂, hk₂, hv₂, hl₂⟩ := readInt_sound h₂
    obtain ⟨hs₃, hk₃, hl₃⟩ := expect_sound h₃
    have hs := (hu.seq (hs₁.seq (hs₂.seq hs₃))).behind t
    refine ⟨_, hs, ?_⟩
    simp only [Read.behind, Read.seq, hs.extent, hl₁, hl₂, hl₃, hv₂, List.append_nil]
    exact .array hk htype hk₁ hk₂ hk₃
  · -- the closing bracket at once: a slice
    simp only [bind_eq_ok, pure_eq_ok] at h
    obtain ⟨close, h₁, rfl⟩ := h
    obtain ⟨hs₁, hk₁, hl₁⟩ := expect_sound h₁
    have hs := (hu.seq hs₁).behind t
    refine ⟨_, hs, ?_⟩
    simp only [Read.behind, Read.seq, hs.extent, hl₁, List.append_nil]
    exact .slice hk htype hk₁

/-- Parentheses around nothing are the unit type. -/
private theorem readType_unit_sound (hk : t.kind = .leftParen) (hnext : nextIs .rightParen ts = true)
    (h : readType (t :: ts) = .ok r) : Took IsType (t :: ts) r := by
  rw [readType] at h
  simp only [hk, hnext, if_true, bind_eq_ok, pure_eq_ok] at h
  obtain ⟨close, h₁, rfl⟩ := h
  obtain ⟨hs₁, hk₁, hl₁⟩ := expect_sound h₁
  have hs := hs₁.behind t
  refine ⟨_, hs, ?_⟩
  simp only [Read.behind, hs.extent, hl₁]
  exact .unit hk hk₁

/-- Behind `(` and a type, a comma tells a tuple from a type in parentheses. -/
private theorem readType_paren_sound (hk : t.kind = .leftParen)
    (hnext : nextIs .rightParen ts = false)
    (hfirst : ∀ {r}, readType ts = .ok r → Took IsType ts r)
    (hothers : ∀ {us : List Token} {r}, us.length < ts.length →
      readTypesClosing us = .ok r → Took IsTypesClosing us r)
    (h : readType (t :: ts) = .ok r) : Took IsType (t :: ts) r := by
  rw [readType] at h
  simp only [hk, hnext, Bool.false_eq_true, if_false, bind_eq_ok] at h
  obtain ⟨first, hf, h⟩ := h
  obtain ⟨used, hu, htype⟩ := hfirst hf
  split at h
  · simp only [bind_eq_ok, pure_eq_ok] at h
    -- a comma: the other members follow, up to the parenthesis
    obtain ⟨comma, h₁, others, ho, rfl⟩ := h
    obtain ⟨hs₁, hk₁, hl₁⟩ := expect_sound h₁
    obtain ⟨used', hu', htypes⟩ := hothers (Nat.lt_trans comma.shorter first.shorter) ho
    have hs := (hu.seq (hs₁.seq hu')).behind t
    refine ⟨_, hs, ?_⟩
    simp only [Read.behind, Read.seq, hs.extent, hl₁, List.append_nil]
    exact .tuple hk htype hk₁ htypes
  · -- the parentheses leave no node, but they are among the tokens that were taken
    simp only [bind_eq_ok, pure_eq_ok] at h
    obtain ⟨close, h₁, rfl⟩ := h
    obtain ⟨hs₁, hk₁, hl₁⟩ := expect_sound h₁
    refine ⟨_, (hu.seq hs₁).behind t, ?_⟩
    simp only [Read.behind, Read.seq, hl₁, List.append_nil]
    exact .paren hk htype hk₁

/-- Behind `unsafe` there is `fn`, and then a signature. -/
private theorem readType_unsafe_sound (hk : t.kind = .unsafeWord)
    (hsignature : ∀ {us : List Token} {r}, us.length < ts.length → readSignature us = .ok r →
      Took (fun us v late => IsSignature us v.1 v.2 late) us r)
    (h : readType (t :: ts) = .ok r) : Took IsType (t :: ts) r := by
  rw [readType] at h
  simp only [hk, bind_eq_ok, pure_eq_ok] at h
  obtain ⟨word, h₁, signature, h₂, rfl⟩ := h
  obtain ⟨hs₁, hk₁, hl₁⟩ := expect_sound h₁
  obtain ⟨used, hu, hsignature⟩ := hsignature word.shorter h₂
  have hs := (hs₁.seq hu).behind t
  refine ⟨_, hs, ?_⟩
  simp only [Read.behind, Read.seq, hs.extent, hl₁, List.nil_append]
  exact .unsafeFnPtr hk hk₁ hsignature

/-- Behind `fn` there is a signature. -/
private theorem readType_fn_sound (hk : t.kind = .fnWord)
    (hsignature : ∀ {r}, readSignature ts = .ok r →
      Took (fun us v late => IsSignature us v.1 v.2 late) ts r)
    (h : readType (t :: ts) = .ok r) : Took IsType (t :: ts) r := by
  rw [readType] at h
  simp only [hk, bind_eq_ok, pure_eq_ok] at h
  obtain ⟨signature, h₂, rfl⟩ := h
  obtain ⟨used, hu, hsignature⟩ := hsignature h₂
  have hs := hu.behind t
  refine ⟨_, hs, ?_⟩
  simp only [Read.behind, hs.extent]
  exact .fnPtr hk hsignature

/-- The kinds of the tokens that begin the types which are no paths. -/
def markedTypes : List TokenKind := [.ampersand, .leftBracket, .leftParen, .unsafeWord, .fnWord]

/-- All other types are paths, perhaps with arguments. -/
private theorem readType_path_sound (hk : t.kind ∉ markedTypes)
    (hargs : ∀ {us : List Token} {r}, us.length < ts.length →
      readTypeArgs us = .ok r → Took IsTypeArgs us r)
    (h : readType (t :: ts) = .ok r) : Took IsType (t :: ts) r := by
  simp only [markedTypes, List.mem_cons, List.not_mem_nil, or_false, not_or] at hk
  obtain ⟨h₁, h₂, h₃, h₄, h₅⟩ := hk
  rw [readType] at h
  · simp only [bind_eq_ok] at h
    obtain ⟨path, hp, h⟩ := h
    obtain ⟨used, hu, hpath, hlate⟩ := readPath_sound hp
    have hshorter : path.rest.length < ts.length + 1 := path.shorter
    split at h
    · simp only [bind_eq_ok, pure_eq_ok] at h
      -- arguments behind `<`
      obtain ⟨less, h₁, args, h₂, rfl⟩ := h
      obtain ⟨hs₁, hk₁, hl₁⟩ := expect_sound h₁
      have := less.shorter
      obtain ⟨used', hu', hargs⟩ := hargs (by omega) h₂
      have hs := hu.seq (hs₁.seq hu')
      refine ⟨_, hs, ?_⟩
      simp only [Read.seq, hs.extent, hlate, hl₁, List.nil_append]
      exact .generic hpath hk₁ hargs
    · obtain rfl := pure_eq_ok.mp h
      refine ⟨_, hu, ?_⟩
      simp only [Read.giving, hu.extent, hlate]
      exact .named hpath

end Forms

mutual

/-- **Types are read as the grammar says.** -/
theorem readType_sound : (ts : List Token) → {r : Read ts.length TypeExpr} →
    readType ts = .ok r → Took IsType ts r
  | [], _, h => by
    rw [readType] at h
    nomatch h
  | t :: ts, r, h => by
    by_cases href : t.kind = .ampersand
    · -- a dropped word only makes it shorter
      have := length_dropIf_le .mutWord ts
      exact readType_ref_sound href (fun hr => readType_sound _ hr) h
    by_cases hbracket : t.kind = .leftBracket
    · exact readType_bracket_sound hbracket (fun hr => readType_sound _ hr) h
    by_cases hparen : t.kind = .leftParen
    · cases hnext : nextIs .rightParen ts with
      | true => exact readType_unit_sound hparen hnext h
      | false =>
        exact readType_paren_sound hparen hnext (fun hr => readType_sound _ hr)
          (fun hlt hr => readTypesClosing_sound _ hr) h
    by_cases hunsafe : t.kind = .unsafeWord
    · exact readType_unsafe_sound hunsafe (fun hlt hr => readSignature_sound _ hr) h
    by_cases hfn : t.kind = .fnWord
    · exact readType_fn_sound hfn (fun hr => readSignature_sound _ hr) h
    have hpath : t.kind ∉ markedTypes := by
      simp only [markedTypes, List.mem_cons, List.not_mem_nil, or_false, not_or]
      exact ⟨href, hbracket, hparen, hunsafe, hfn⟩
    exact readType_path_sound hpath (fun hlt hr => readTypeArgs_sound _ hr) h
termination_by ts => 2 * ts.length

/-- A signature is a list of types, perhaps with a result behind an arrow. -/
theorem readSignature_sound (ts : List Token)
    {r : Read ts.length (List TypeExpr × Option TypeExpr)} (h : readSignature ts = .ok r) :
    Took (fun us v late => IsSignature us v.1 v.2 late) ts r := by
  rw [readSignature] at h
  simp only [bind_eq_ok] at h
  obtain ⟨op, h₁, params, h₂, h⟩ := h
  obtain ⟨hs₁, hk₁, hl₁⟩ := expect_sound h₁
  have := op.shorter
  obtain ⟨used, hu, hparams⟩ := readTypesClosing_sound _ h₂
  have := params.shorter
  split at h
  · simp only [bind_eq_ok, pure_eq_ok] at h
    -- an arrow, and the result behind it
    obtain ⟨arrow, h₃, ret, h₄, rfl⟩ := h
    obtain ⟨hs₃, hk₃, hl₃⟩ := expect_sound h₃
    have := arrow.shorter
    obtain ⟨used', hu', hret⟩ := readType_sound _ h₄
    refine ⟨_, hs₁.seq (hu.seq (hs₃.seq hu')), ?_⟩
    simp only [Read.seq, hl₁, hl₃, List.nil_append, List.append_nil]
    exact .ret hk₁ hparams hk₃ hret
  · obtain rfl := pure_eq_ok.mp h
    refine ⟨_, hs₁.seq hu, ?_⟩
    simp only [Read.seq, hl₁, List.nil_append]
    exact .unit hk₁ hparams
termination_by 2 * ts.length

/-- A list of types that may be empty and may end with a comma. -/
theorem readTypesClosing_sound (ts : List Token) {r : Read ts.length (List TypeExpr)}
    (h : readTypesClosing ts = .ok r) : Took IsTypesClosing ts r := by
  rw [readTypesClosing] at h
  split at h
  · simp only [bind_eq_ok, pure_eq_ok] at h
    obtain ⟨close, h₁, rfl⟩ := h
    obtain ⟨hs₁, hk₁, hl₁⟩ := expect_sound h₁
    refine ⟨_, hs₁, ?_⟩
    simp only [Read.giving, hl₁]
    exact .nil hk₁
  · simp only [bind_eq_ok] at h
    -- a type, and then a comma with more of the list, or the end
    obtain ⟨first, hf, h⟩ := h
    obtain ⟨used, hu, htype⟩ := readType_sound _ hf
    have := first.shorter
    split at h
    · simp only [bind_eq_ok, pure_eq_ok] at h
      obtain ⟨comma, h₁, others, ho, rfl⟩ := h
      obtain ⟨hs₁, hk₁, hl₁⟩ := expect_sound h₁
      have := comma.shorter
      obtain ⟨used', hu', htypes⟩ := readTypesClosing_sound _ ho
      refine ⟨_, hu.seq (hs₁.seq hu'), ?_⟩
      simp only [Read.seq, hl₁, List.append_nil]
      exact .cons htype hk₁ htypes
    · simp only [bind_eq_ok, pure_eq_ok] at h
      obtain ⟨close, h₁, rfl⟩ := h
      obtain ⟨hs₁, hk₁, hl₁⟩ := expect_sound h₁
      refine ⟨_, hu.seq hs₁, ?_⟩
      simp only [Read.seq, hl₁, List.append_nil]
      exact .last htype hk₁
termination_by 2 * ts.length + 1

/-- A list of types with one at least. -/
theorem readTypeArgs_sound (ts : List Token) {r : Read ts.length (List TypeExpr)}
    (h : readTypeArgs ts = .ok r) : Took IsTypeArgs ts r := by
  rw [readTypeArgs] at h
  simp only [bind_eq_ok] at h
  obtain ⟨first, hf, h⟩ := h
  obtain ⟨used, hu, htype⟩ := readType_sound _ hf
  have := first.shorter
  split at h
  · simp only [bind_eq_ok, pure_eq_ok] at h
    obtain ⟨comma, h₁, others, ho, rfl⟩ := h
    obtain ⟨hs₁, hk₁, hl₁⟩ := expect_sound h₁
    have := comma.shorter
    obtain ⟨used', hu', htypes⟩ := readTypeArgs_sound _ ho
    refine ⟨_, hu.seq (hs₁.seq hu'), ?_⟩
    simp only [Read.seq, hl₁, List.append_nil]
    exact .cons htype hk₁ htypes
  · simp only [bind_eq_ok, pure_eq_ok] at h
    obtain ⟨close, h₁, rfl⟩ := h
    obtain ⟨hs₁, hk₁, hl₁⟩ := expect_sound h₁
    refine ⟨_, hu.seq hs₁, ?_⟩
    simp only [Read.seq, hl₁, List.append_nil]
    exact .last htype hk₁
termination_by 2 * ts.length + 1

end

/-- The result of a function or a closure, if it is written. -/
theorem readRet_sound {r : Read (ts.length + 1) (Option TypeExpr)}
    (h : readRet before ts = .ok r) : TookOpt (IsOptionalType .arrow) before ts r := by
  rw [readRet] at h
  split at h
  · simp only [bind_eq_ok, pure_eq_ok] at h
    obtain ⟨arrow, h₁, type, h₂, rfl⟩ := h
    obtain ⟨hs₁, hk₁, hl₁⟩ := expect_sound h₁
    obtain ⟨used, hu, htype⟩ := readType_sound _ h₂
    refine ⟨_, .of_spelled before (hs₁.seq hu), ?_⟩
    simp only [Read.loosen, Read.seq, hl₁, List.nil_append]
    exact .present hk₁ htype
  · obtain rfl := pure_eq_ok.mp h
    exact ⟨[], .nothing before ts, .absent⟩

/-! ### Patterns and closure parameters -/

mutual

/-- **Patterns are read as the grammar says.** Nothing in a pattern can be wrong late. -/
theorem readPattern_sound : (ts : List Token) → {r : Read ts.length Pattern} →
    readPattern ts = .ok r → Took (fun us p late => IsPattern us p ∧ late = []) ts r
  | [], _, h => by
    rw [readPattern] at h
    nomatch h
  | t :: ts, r, h => by
    rw [readPattern] at h
    split at h
    · next hk =>
      -- behind `mut` there is a name
      simp only [bind_eq_ok, pure_eq_ok] at h
      obtain ⟨name, h₁, rfl⟩ := h
      obtain ⟨hs₁, hk₁, hl₁⟩ := expect_sound h₁
      have hs := hs₁.behind t
      refine ⟨_, hs, ?_⟩
      simp only [Read.behind, hs.extent, hl₁]
      exact ⟨.mutBinding hk hk₁, trivial⟩
    · next hk =>
      obtain rfl := pure_eq_ok.mp h
      exact ⟨_, .token t ts, .wildcard hk, rfl⟩
    · next hk =>
      simp only [bind_eq_ok, pure_eq_ok] at h
      -- behind `&` there is a pattern
      obtain ⟨inner, h₁, rfl⟩ := h
      obtain ⟨used, hu, hpattern, hl₁⟩ := readPattern_sound _ h₁
      have hs := hu.behind t
      refine ⟨_, hs, ?_⟩
      simp only [Read.behind, hs.extent, hl₁]
      exact ⟨.ref hk hpattern, trivial⟩
    · next hk =>
      simp only [bind_eq_ok] at h
      obtain ⟨first, hf, h⟩ := h
      obtain ⟨used, hu, hpattern, hl⟩ := readPattern_sound _ hf
      have := first.shorter
      -- as with types, a comma tells a tuple from a pattern in parentheses
      split at h
      · simp only [bind_eq_ok, pure_eq_ok] at h
        obtain ⟨comma, h₁, others, ho, rfl⟩ := h
        obtain ⟨hs₁, hk₁, hl₁⟩ := expect_sound h₁
        have := comma.shorter
        obtain ⟨used', hu', hpatterns, hl'⟩ := readPatternsClosing_sound _ ho
        have hs := (hu.seq (hs₁.seq hu')).behind t
        refine ⟨_, hs, ?_⟩
        simp only [Read.behind, Read.seq, hs.extent, hl, hl₁, hl', List.append_nil]
        exact ⟨.tuple hk hpattern hk₁ hpatterns, trivial⟩
      · simp only [bind_eq_ok, pure_eq_ok] at h
        obtain ⟨close, h₁, rfl⟩ := h
        obtain ⟨hs₁, hk₁, hl₁⟩ := expect_sound h₁
        refine ⟨_, (hu.seq hs₁).behind t, ?_⟩
        simp only [Read.behind, Read.seq, hl, hl₁, List.append_nil]
        exact ⟨.paren hk hpattern hk₁, trivial⟩
    · simp only [bind_eq_ok, pure_eq_ok] at h
      obtain ⟨name, h₁, rfl⟩ := h
      obtain ⟨hs₁, hk₁, hl₁⟩ := expect_sound h₁
      refine ⟨_, hs₁, ?_, hl₁⟩
      -- the token that decides what to read is the name itself
      have ht : t = name.value := (List.cons.inj hs₁.split).1
      simp only [Read.giving, ht]
      exact .binding hk₁
termination_by ts => 2 * ts.length

/-- A list of patterns that may be empty and may end with a comma. -/
theorem readPatternsClosing_sound (ts : List Token) {r : Read ts.length (List Pattern)}
    (h : readPatternsClosing ts = .ok r) :
    Took (fun us ps late => IsPatternsClosing us ps ∧ late = []) ts r := by
  rw [readPatternsClosing] at h
  split at h
  · simp only [bind_eq_ok, pure_eq_ok] at h
    obtain ⟨close, h₁, rfl⟩ := h
    obtain ⟨hs₁, hk₁, hl₁⟩ := expect_sound h₁
    exact ⟨_, hs₁, .nil hk₁, hl₁⟩
  · simp only [bind_eq_ok] at h
    obtain ⟨first, hf, h⟩ := h
    obtain ⟨used, hu, hpattern, hl⟩ := readPattern_sound _ hf
    have := first.shorter
    split at h
    · simp only [bind_eq_ok, pure_eq_ok] at h
      obtain ⟨comma, h₁, others, ho, rfl⟩ := h
      obtain ⟨hs₁, hk₁, hl₁⟩ := expect_sound h₁
      have := comma.shorter
      obtain ⟨used', hu', hpatterns, hl'⟩ := readPatternsClosing_sound _ ho
      refine ⟨_, hu.seq (hs₁.seq hu'), .cons hpattern hk₁ hpatterns, ?_⟩
      simp only [Read.seq, hl, hl₁, hl', List.append_nil]
    · simp only [bind_eq_ok, pure_eq_ok] at h
      obtain ⟨close, h₁, rfl⟩ := h
      obtain ⟨hs₁, hk₁, hl₁⟩ := expect_sound h₁
      refine ⟨_, hu.seq hs₁, .last hpattern hk₁, ?_⟩
      simp only [Read.seq, hl, hl₁, List.append_nil]
termination_by 2 * ts.length + 1

end

/-- A parameter of a closure is a pattern, perhaps with its type. -/
theorem readClosureParam_sound {r : Read ts.length ClosureParam}
    (h : readClosureParam ts = .ok r) : Took IsClosureParam ts r := by
  obtain ⟨pattern, hp, h⟩ := bind_eq_ok.mp h
  obtain ⟨used, hu, hpattern, hl⟩ := readPattern_sound _ hp
  split at h
  · simp only [bind_eq_ok, pure_eq_ok] at h
    obtain ⟨colon, h₁, type, h₂, rfl⟩ := h
    obtain ⟨hs₁, hk₁, hl₁⟩ := expect_sound h₁
    obtain ⟨used', hu', htype⟩ := readType_sound _ h₂
    have hs := hu.seq (hs₁.seq hu')
    refine ⟨_, hs, ?_⟩
    simp only [Read.seq, hs.extent', hl, hl₁, List.nil_append]
    exact .mk hpattern (.present hk₁ htype)
  · obtain rfl := pure_eq_ok.mp h
    have hs := hu.cast (List.append_nil used).symm
    refine ⟨_, hs, ?_⟩
    simp only [Read.giving, hs.extent', hl]
    exact .mk hpattern .absent

/-- The parameters of a closure, up to the bar that closes them. -/
theorem readClosureParams_sound (ts : List Token) {r : Read ts.length (List ClosureParam)}
    (h : readClosureParams ts = .ok r) : Took IsClosureParams ts r := by
  rw [readClosureParams] at h
  split at h
  · simp only [bind_eq_ok, pure_eq_ok] at h
    obtain ⟨close, h₁, rfl⟩ := h
    obtain ⟨hs₁, hk₁, hl₁⟩ := expect_sound h₁
    refine ⟨_, hs₁, ?_⟩
    simp only [Read.giving, hl₁]
    exact .nil hk₁
  · simp only [bind_eq_ok] at h
    obtain ⟨first, hf, h⟩ := h
    obtain ⟨used, hu, hparam⟩ := readClosureParam_sound hf
    have := first.shorter
    split at h
    · simp only [bind_eq_ok, pure_eq_ok] at h
      obtain ⟨comma, h₁, others, ho, rfl⟩ := h
      obtain ⟨hs₁, hk₁, hl₁⟩ := expect_sound h₁
      have := comma.shorter
      obtain ⟨used', hu', hparams⟩ := readClosureParams_sound _ ho
      refine ⟨_, hu.seq (hs₁.seq hu'), ?_⟩
      simp only [Read.seq, hl₁, List.append_nil]
      exact .cons hparam hk₁ hparams
    · simp only [bind_eq_ok, pure_eq_ok] at h
      obtain ⟨close, h₁, rfl⟩ := h
      obtain ⟨hs₁, hk₁, hl₁⟩ := expect_sound h₁
      refine ⟨_, hu.seq hs₁, ?_⟩
      simp only [Read.seq, hl₁, List.append_nil]
      exact .last hparam hk₁
termination_by ts.length

end ClosureLint.Syntax
