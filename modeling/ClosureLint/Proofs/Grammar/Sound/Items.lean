import ClosureLint.Proofs.Grammar.Sound.Exprs
import ClosureLint.Syntax.Parse

/-!
# Items are read as the grammar says

* `readFunction_sound`, `readItem_sound` — functions and other items.
* `readItems_sound` — all items of a text.
* `parse_sound` — a program consists of the items that the tokens of its text form.
-/

namespace ClosureLint.Syntax

theorem readSelf_sound {start : Pos} {form : ReceiverForm} {ts : List Token}
    {r : Read ts.length Receiver} (h : readSelf start form ts = .ok r) :
    ∃ word, Spelled ts [word] r.stop r.rest ∧ word.kind = .selfWord ∧
      r.value = ⟨.between start r.stop, form⟩ ∧ r.late = [] := by
  obtain ⟨word, h₁, h⟩ := bind_eq_ok.mp h
  obtain ⟨hs₁, hk₁, hl₁⟩ := expect_sound h₁
  obtain rfl := pure_eq_ok.mp h
  exact ⟨_, hs₁, hk₁, rfl, hl₁⟩

theorem readParam_sound : (ts : List Token) → {r : Read ts.length WrittenParam} →
    readParam ts = .ok r → Took IsParam ts r
  | [], _, h => by
    rw [readParam] at h
    cases h
  | t :: ts, r, h => by
    rw [readParam] at h
    split at h
    · next hk =>
      simp only [bind_eq_ok, pure_eq_ok] at h
      obtain ⟨receiver, hr, rfl⟩ := h
      obtain ⟨word, hu, hw, hv, hl⟩ := readSelf_sound hr
      have hs := hu.behind t
      refine ⟨_, hs, ?_⟩
      simp only [Read.behind, hv, hs.extent, hl]
      exact .value (.present hk) hw
    · next hk =>
      simp only [bind_eq_ok, pure_eq_ok] at h
      obtain ⟨receiver, hr, rfl⟩ := h
      obtain ⟨word, hu, hw, hv, hl⟩ := readSelf_sound hr
      -- `&self` or `&mut self`
      obtain ⟨ms, hm, hu⟩ := hu.behindOpt
      have hs := hu.behind t
      refine ⟨_, hs, ?_⟩
      simp only [Read.behind, Read.behindOpt, hv, hs.extent, hl]
      exact .ref hk hm hw
    · next hk =>
      split at h
      · simp only [bind_eq_ok, pure_eq_ok] at h
        obtain ⟨colon, h₁, type, h₂, rfl⟩ := h
        obtain ⟨hs₁, hk₁, hl₁⟩ := expect_sound h₁
        -- `self` with a written type, then `self` alone
        obtain ⟨used, hu, htype⟩ := readType_sound _ h₂
        have hs := (hs₁.seq hu).behind t
        refine ⟨_, hs, ?_⟩
        simp only [Read.behind, Read.seq, hs.extent, hl₁, List.nil_append]
        exact .typed hk hk₁ htype
      · obtain rfl := pure_eq_ok.mp h
        exact ⟨_, .token t ts, .value .absent hk⟩
    · simp only [bind_eq_ok, pure_eq_ok] at h
      obtain ⟨name, h₁, colon, h₂, type, h₃, rfl⟩ := h
      obtain ⟨hs₁, hk₁, hl₁⟩ := expect_sound h₁
      obtain ⟨hs₂, hk₂, hl₂⟩ := expect_sound h₂
      obtain ⟨used, hu, htype⟩ := readType_sound _ h₃
      -- the name is kept as the text of the token that was looked at
      have ht : t.text = name.value.text := congrArg Token.text (List.cons.inj hs₁.split).1
      have hs := hs₁.seq (hs₂.seq hu)
      refine ⟨_, hs, ?_⟩
      simp only [Read.seq, hs.extent, hl₁, hl₂, List.nil_append, ht]
      exact .named hk₁ hk₂ htype

theorem readParams_sound {inMethod : Bool} {index : Nat} (ts : List Token)
    {r : Read ts.length (List WrittenParam)} (h : readParams inMethod index ts = .ok r) :
    Took (IsParams inMethod index) ts r := by
  rw [readParams] at h
  split at h
  · simp only [bind_eq_ok, pure_eq_ok] at h
    obtain ⟨close, h₁, rfl⟩ := h
    obtain ⟨hs₁, hk₁, hl₁⟩ := expect_sound h₁
    refine ⟨_, hs₁, ?_⟩
    simp only [Read.giving, hl₁]
    exact .nil hk₁
  · simp only [bind_eq_ok] at h
    obtain ⟨param, hp, h⟩ := h
    obtain ⟨used, hu, hparam⟩ := readParam_sound _ hp
    have := param.shorter
    split at h
    · simp only [bind_eq_ok, pure_eq_ok] at h
      obtain ⟨comma, h₁, others, ho, rfl⟩ := h
      obtain ⟨hs₁, hk₁, hl₁⟩ := expect_sound h₁
      have := comma.shorter
      obtain ⟨used', hu', hparams⟩ := readParams_sound _ ho
      refine ⟨_, hu.seq (hs₁.seq hu'), ?_⟩
      simp only [Read.seq, Read.withLate, hl₁, List.append_nil]
      -- whether a receiver may stand here depends on what was read
      generalize param.value = p at hparam ⊢
      cases p <;> exact .cons hparam hk₁ hparams
    · simp only [bind_eq_ok, pure_eq_ok] at h
      obtain ⟨close, h₁, rfl⟩ := h
      obtain ⟨hs₁, hk₁, hl₁⟩ := expect_sound h₁
      refine ⟨_, hu.seq hs₁, ?_⟩
      simp only [Read.seq, Read.withLate, hl₁, List.append_nil]
      generalize param.value = p at hparam ⊢
      cases p <;> exact .last hparam hk₁
termination_by ts.length

theorem readFunction_sound {inMethod : Bool} {ts : List Token} {r : Read ts.length FunctionDef}
    (h : readFunction inMethod ts = .ok r) : Took (IsFunction inMethod) ts r := by
  simp only [readFunction, bind_eq_ok] at h
  obtain ⟨fn, h₁, path, hp, op, h₂, params, hps, ret, hr, h⟩ := h
  obtain ⟨hs₁, hk₁, hl₁⟩ := expect_sound h₁
  obtain ⟨ns, hns, hpath, hl⟩ := readPath_sound hp
  obtain ⟨hs₂, hk₂, hl₂⟩ := expect_sound h₂
  obtain ⟨ps, hpsu, hparams⟩ := readParams_sound _ hps
  obtain ⟨rs, hrs, hret⟩ := readRet_sound hr
  -- the head is the same with a body and without
  have hhead := (hs₁.seq (hns.seq (hs₂.seq hpsu))).seqOpt hrs
  split at h
  · simp only [bind_eq_ok, pure_eq_ok] at h
    obtain ⟨close, h₃, rfl⟩ := h
    obtain ⟨hs₃, hk₃, hl₃⟩ := expect_sound h₃
    obtain ⟨us, hus, hwhole⟩ := (hhead.seq hs₃).behindOpt
    have hs : Spelled ts (us ++ fn.value :: (ns ++ op.value :: (ps ++ (rs ++ [close.value]))))
        close.stop close.rest := hwhole.cast (by simp)
    refine ⟨_, hs, ?_⟩
    simp only [Read.behindOpt, Read.seq, Read.seqOpt, hs.extent', hl₁, hl, hl₂, hl₃,
      List.nil_append, List.append_assoc]
    exact .mk hus hk₁ hpath hk₂ hparams hret (.none hk₃)
  · simp only [bind_eq_ok, pure_eq_ok] at h
    obtain ⟨brace, h₃, body, hb, rfl⟩ := h
    obtain ⟨hs₃, hk₃, hl₃⟩ := expect_sound h₃
    obtain ⟨bs, hbs, hbody⟩ := readStmts_sound _ hb
    obtain ⟨us, hus, hwhole⟩ := (hhead.seq (hs₃.seq hbs)).behindOpt
    have hs : Spelled ts (us ++ fn.value :: (ns ++ op.value :: (ps ++ (rs ++ brace.value :: bs))))
        body.stop body.rest := hwhole.cast (by simp)
    refine ⟨_, hs, ?_⟩
    simp only [Read.behindOpt, Read.seq, Read.seqOpt, hs.extent', hl₁, hl, hl₂, hl₃,
      List.nil_append, List.append_nil, List.append_assoc]
    exact .mk hus hk₁ hpath hk₂ hparams hret (.body hk₃ hbody)

theorem readMethods_sound (ts : List Token) {r : Read ts.length (List FunctionDef)}
    (h : readMethods ts = .ok r) : Took IsMethods ts r := by
  rw [readMethods] at h
  split at h
  · simp only [bind_eq_ok, pure_eq_ok] at h
    obtain ⟨close, h₁, rfl⟩ := h
    obtain ⟨hs₁, hk₁, hl₁⟩ := expect_sound h₁
    refine ⟨_, hs₁, ?_⟩
    simp only [Read.giving, hl₁]
    exact .nil hk₁
  · simp only [bind_eq_ok, pure_eq_ok] at h
    obtain ⟨first, hf, others, ho, rfl⟩ := h
    obtain ⟨used, hu, hfunction⟩ := readFunction_sound hf
    have := first.shorter
    obtain ⟨used', hu', hmethods⟩ := readMethods_sound _ ho
    exact ⟨_, hu.seq hu', .cons hfunction hmethods⟩
termination_by ts.length

/-- Methods in braces. -/
theorem readMethodBlock_sound {ts : List Token} {r : Read ts.length (List FunctionDef)}
    (h : readMethodBlock ts = .ok r) :
    ∃ op ms, Spelled ts (op :: ms) r.stop r.rest ∧ op.kind = .leftBrace ∧
      IsMethods ms r.value r.late := by
  simp only [readMethodBlock, bind_eq_ok, pure_eq_ok] at h
  obtain ⟨op, h₁, methods, hm, rfl⟩ := h
  obtain ⟨hs₁, hk₁, hl₁⟩ := expect_sound h₁
  obtain ⟨ms, hms, hmethods⟩ := readMethods_sound _ hm
  refine ⟨op.value, ms, hs₁.seq hms, hk₁, ?_⟩
  simp only [Read.seq, hl₁, List.nil_append]
  exact hmethods

/-- A type that is a bare path was written as one. -/
theorem barePath?_sound {ts us : List Token} {type : TypeExpr} {path : Path}
    {late : List LateFault} (h : IsType us type late) (hp : barePath? (us ++ ts) type = some path) :
    IsPath us path ∧ late = [] := by
  unfold barePath? at hp
  split at hp
  · split at hp
    · next hn =>
      obtain rfl := Option.some.inj hp
      cases h with
      | named hpath => exact ⟨hpath, rfl⟩
      -- a bare path has no arguments
      | generic _ _ hargs => cases hargs
      | paren hop _ _ =>
        -- and it is not in parentheses
        rw [List.cons_append, nextIs, hop] at hn
        nomatch hn
    · nomatch hp
  · nomatch hp

theorem readItem_sound : (ts : List Token) → {r : Read ts.length Item} →
    readItem ts = .ok r → Took IsItem ts r
  | [], _, h => by
    rw [readItem] at h
    cases h
  | t :: ts, r, h => by
    rw [readItem] at h
    split at h
    · next hk =>
      simp only [readStruct, bind_eq_ok, pure_eq_ok] at h
      obtain ⟨_, ⟨path, hp, target, ht, close, h₁, rfl⟩, rfl⟩ := h
      obtain ⟨ns, hns, hpath, hl⟩ := readPath_sound hp
      obtain ⟨rs, hrs, htarget⟩ := readRet_sound ht
      obtain ⟨hs₁, hk₁, hl₁⟩ := expect_sound h₁
      have hs := (((hns.seqOpt hrs).seq hs₁).behind t).cast
        (congrArg (t :: ·) (List.append_assoc ns rs _))
      refine ⟨_, hs, ?_⟩
      simp only [Read.behind, Read.seq, Read.seqOpt, hs.extent, hl, hl₁, List.nil_append,
        List.append_nil]
      exact .structDef hk hpath htarget hk₁
    · next hk =>
      simp only [readTrait, bind_eq_ok, pure_eq_ok] at h
      obtain ⟨_, ⟨path, hp, methods, hm, rfl⟩, rfl⟩ := h
      obtain ⟨ns, hns, hpath, hl⟩ := readPath_sound hp
      obtain ⟨op, ms, hms, hk₁, hmethods⟩ := readMethodBlock_sound hm
      have hs := (hns.seq hms).behind t
      refine ⟨_, hs, ?_⟩
      simp only [Read.behind, Read.seq, hs.extent, hl, List.nil_append]
      exact .traitDef hk hpath hk₁ hmethods
    · next hk =>
      simp only [readImpl, bind_eq_ok, pure_eq_ok] at h
      obtain ⟨_, ⟨head, hh, h⟩, rfl⟩ := h
      obtain ⟨ns, hns, htype⟩ := readType_sound _ hh
      split at h
      · next path hbare hfor =>
        simp only [bind_eq_ok, pure_eq_ok] at h
        obtain ⟨word, h₁, target, ht, methods, hm, rfl⟩ := h
        -- the head was a trait's path, read as a type first
        obtain ⟨hpath, hl⟩ := barePath?_sound htype (by rw [← hns.split]; exact hbare)
        obtain ⟨hs₁, hk₁, hl₁⟩ := expect_sound h₁
        obtain ⟨us, hus, htarget⟩ := readType_sound _ ht
        obtain ⟨op, ms, hms, hk₂, hmethods⟩ := readMethodBlock_sound hm
        have hs := (hns.seq (hs₁.seq (hus.seq hms))).behind t
        refine ⟨_, hs, ?_⟩
        simp only [Read.behind, Read.seq, Read.withLate, hs.extent]
        exact .traitImpl hk hpath hk₁ htarget hk₂ hmethods
      · simp only [bind_eq_ok, pure_eq_ok] at h
        obtain ⟨methods, hm, rfl⟩ := h
        obtain ⟨op, ms, hms, hk₂, hmethods⟩ := readMethodBlock_sound hm
        have hs := (hns.seq hms).behind t
        refine ⟨_, hs, ?_⟩
        simp only [Read.behind, Read.seq, Read.withLate, hs.extent]
        exact .inherentImpl hk htype hk₂ hmethods
    · simp only [bind_eq_ok, pure_eq_ok] at h
      obtain ⟨function, hf, rfl⟩ := h
      obtain ⟨used, hu, hfunction⟩ := readFunction_sound hf
      exact ⟨used, hu, .function hfunction⟩

theorem readItems_sound (ts : List Token) {items : List Item} {late : List LateFault}
    (h : readItems ts = .ok (items, late)) : IsItems ts items late := by
  rw [readItems.eq_def] at h
  split at h
  · obtain ⟨rfl, rfl⟩ := Prod.mk.inj (pure_eq_ok.mp h)
    exact .nil
  · next t ts =>
    obtain ⟨first, hf, h⟩ := bind_eq_ok.mp h
    obtain ⟨⟨others, late'⟩, ho, h⟩ := bind_eq_ok.mp h
    obtain ⟨rfl, rfl⟩ := Prod.mk.inj (pure_eq_ok.mp h)
    obtain ⟨used, hu, hitem⟩ := readItem_sound _ hf
    have := first.shorter
    have hitems := IsItems.cons hitem (readItems_sound _ ho)
    rwa [← hu.split] at hitems
termination_by ts.length

/-- **A program** consists of the items that the tokens of its text form. -/
theorem parse_sound {source : String} {p : Program} (h : parse source = .ok p) :
    (lex source).stuck = none ∧ ∃ items, IsItems (lex source).tokens items [] ∧
      p = .ofItems source items := by
  unfold parse ofLexed at h
  split at h
  · nomatch h
  · nomatch h
  · next items late hitems hstuck =>
    split at h
    · nomatch h
    · exact ⟨hstuck, items, readItems_sound _ hitems, (pure_eq_ok.mp h).symm⟩

end ClosureLint.Syntax
