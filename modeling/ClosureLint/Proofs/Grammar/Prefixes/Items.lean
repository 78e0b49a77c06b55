import ClosureLint.Proofs.Grammar.Prefixes.Exprs

/-!
# Items, up to the first hopeless token

* `takeItems` — what is taken of a whole text.
* `foresees_takeItems` — it stops in front of the first token behind which nothing could follow.
-/

namespace ClosureLint.Syntax

variable {t : Token} {ts : List Token}

/-! ### What the readers of functions take -/

/-- Of a receiver, the word `self` is taken last. -/
theorem leaves_readSelf (start : Pos) (form : ReceiverForm) (ts : List Token) :
    leaves (readSelf start form ts) = leaves (expect .selfWord ts) := by
  rw [readSelf]
  simp only [leaves_bind, leaves_pure, bind_pure_rest, Read.giving]

/-- Behind `mut` stands `self`. -/
theorem leaves_readParam_mut (ts : List Token) (hk : t.kind = .mutWord) :
    leaves (readParam (t :: ts)) = (do
      let ts ← leaves (expect .mutWord (t :: ts))
      leaves (expect .selfWord ts)) := by
  rw [readParam]
  simp only [hk, leaves_bind, leaves_pure, bind_leaves, bind_pure_rest, leaves_readSelf,
    Read.behind]
  rw [expect_cons hk]
  rfl

/-- Behind `&` stand perhaps `mut`, and `self`. -/
theorem leaves_readParam_ref (ts : List Token) (hk : t.kind = .ampersand) :
    leaves (readParam (t :: ts)) = (do
      let ts ← leaves (expect .ampersand (t :: ts))
      let ts ← pure (dropIf .mutWord ts).2
      leaves (expect .selfWord ts)) := by
  rw [readParam]
  simp only [hk, leaves_bind, leaves_pure, bind_leaves, bind_pure_rest, pure_bind, leaves_readSelf,
    Read.behind, Read.behindOpt]
  rw [expect_cons hk]
  rfl

/-- Behind `self` stands perhaps a type. -/
theorem leaves_readParam_self (ts : List Token) (hk : t.kind = .selfWord) :
    leaves (readParam (t :: ts)) = (do
      let ts ← leaves (expect .selfWord (t :: ts))
      takeTypeBehind .colon ts) := by
  rw [readParam]
  unfold takeTypeBehind
  simp only [hk, leaves_bind, leaves_ite, leaves_pure, bind_leaves, bind_pure_rest, Read.behind,
    Read.seq]
  rw [expect_cons hk]
  rfl

/-- Whatever else begins a parameter has to be a name, with its type. -/
theorem leaves_readParam_named (ts : List Token)
    (hk : t.kind ∉ [.mutWord, .ampersand, .selfWord]) :
    leaves (readParam (t :: ts)) = (do
      let ts ← leaves (expect .name (t :: ts))
      let ts ← leaves (expect .colon ts)
      leaves (readType ts)) := by
  simp only [List.mem_cons, List.not_mem_nil, or_false, not_or] at hk
  obtain ⟨h₁, h₂, h₃⟩ := hk
  rw [readParam]
  split
  case h_4 => simp only [leaves_bind, leaves_pure, bind_leaves, bind_pure_rest, Read.seq]
  all_goals contradiction

/-- Parameters are taken up to a parenthesis. -/
theorem leaves_readParams (inMethod : Bool) (index : Nat) (ts : List Token) :
    leaves (readParams inMethod index ts) =
      if nextIs .rightParen ts then leaves (expect .rightParen ts) else (do
        let ts ← leaves (readParam ts)
        if nextIs .comma ts then do
          let ts ← leaves (expect .comma ts)
          leaves (readParams inMethod (index + 1) ts)
        else leaves (expect .rightParen ts)) := by
  rw [readParams]
  simp only [leaves_bind, leaves_ite, leaves_pure, bind_leaves, bind_pure_rest, Read.seq,
    Read.giving, Read.withLate]

/-- A function takes its head, and a semicolon or a body. -/
theorem leaves_readFunction (inMethod : Bool) (ts : List Token) :
    leaves (readFunction inMethod ts) = (do
      let ts ← pure (dropIf .unsafeWord ts).2
      let ts ← leaves (expect .fnWord ts)
      let ts ← leaves (readPath ts)
      let ts ← leaves (expect .leftParen ts)
      let ts ← leaves (readParams inMethod 0 ts)
      let ts ← takeTypeBehind .arrow ts
      if nextIs .semicolon ts then leaves (expect .semicolon ts) else do
        let ts ← leaves (expect .leftBrace ts)
        leaves (readStmts ts)) := by
  rw [readFunction, pure_bind]
  simp only [leaves_bind, leaves_ite, leaves_pure, bind_leaves, bind_pure_rest, Read.seq,
    Read.seqOpt, Read.behindOpt]
  refine bind_congr fun word => bind_congr fun path => bind_congr fun op => ?_
  refine bind_congr fun params => ?_
  rw [← leaves_readRet params.stop, bind_leaves]

/-- Methods are taken up to a brace. -/
theorem leaves_readMethods (ts : List Token) : leaves (readMethods ts) =
    if nextIs .rightBrace ts then leaves (expect .rightBrace ts) else (do
      let ts ← leaves (readFunction true ts)
      leaves (readMethods ts)) := by
  rw [readMethods]
  simp only [leaves_bind, leaves_ite, leaves_pure, bind_leaves, bind_pure_rest, Read.seq,
    Read.giving]

/-- They stand in braces. -/
theorem leaves_readMethodBlock (ts : List Token) : leaves (readMethodBlock ts) = (do
    let ts ← leaves (expect .leftBrace ts)
    leaves (readMethods ts)) := by
  rw [readMethodBlock]
  simp only [leaves_bind, leaves_pure, bind_leaves, bind_pure_rest, Read.seq]

/-! ### What the readers of items take -/

/-- A struct takes its path, perhaps a target, and a semicolon. -/
theorem leaves_readStruct (start : Pos) (ts : List Token) : leaves (readStruct start ts) = (do
    let ts ← leaves (readPath ts)
    let ts ← takeTypeBehind .arrow ts
    leaves (expect .semicolon ts)) := by
  rw [readStruct]
  simp only [leaves_bind, leaves_pure, bind_leaves, bind_pure_rest, Read.seq, Read.seqOpt]
  refine bind_congr fun path => ?_
  rw [← leaves_readRet path.stop, bind_leaves]

/-- A trait takes its path and its methods. -/
theorem leaves_readTrait (start : Pos) (ts : List Token) : leaves (readTrait start ts) = (do
    let ts ← leaves (readPath ts)
    leaves (readMethodBlock ts)) := by
  rw [readTrait]
  simp only [leaves_bind, leaves_pure, bind_leaves, bind_pure_rest, Read.seq]

/-- What starts with no name is no path, and so no trait. -/
theorem leaves_readImpl_type (start : Pos) (ts : List Token) (hn : nextIs .name ts = false) :
    leaves (readImpl start ts) = (do
      let ts ← leaves (readType ts)
      leaves (readMethodBlock ts)) := by
  have hbare : ∀ type, barePath? ts type = none := by
    intro type
    unfold barePath?
    split
    · rw [hn, if_neg Bool.false_ne_true]
    · rfl
  rw [readImpl]
  simp only [hbare, leaves_bind, leaves_pure, bind_leaves, bind_pure_rest, Read.withLate, Read.seq]

/-- Type arguments that are read are at least one. -/
theorem exists_arg_of_readTypeArgs {ts : List Token} {args : Read ts.length (List TypeExpr)}
    (h : readTypeArgs ts = .ok args) : ∃ arg others, args.value = arg :: others := by
  obtain ⟨us, -, hus⟩ := readTypeArgs_sound _ h
  generalize args.value = types, args.late = late at hus
  cases hus <;> exact ⟨_, _, rfl⟩

/-- What comes behind a step only counts where the step succeeds. -/
theorem bind_congr_ok {ε α β : Type} {x : Except ε α} {f g : α → Except ε β}
    (h : ∀ a, x = .ok a → f a = g a) : (x >>= f) = x >>= g := by
  cases x with
  | error e => rfl
  | ok a => exact h a rfl

/-- Behind a name, the token after the path tells a trait from a type. -/
theorem leaves_readImpl_name (start : Pos) (ts : List Token) (hk : t.kind = .name) :
    leaves (readImpl start (t :: ts)) = (do
      let ts ← leaves (readPath (t :: ts))
      if nextIs .less ts then do
        let ts ← leaves (expect .less ts)
        let ts ← leaves (readTypeArgs ts)
        leaves (readMethodBlock ts)
      else if nextIs .forWord ts then do
        let ts ← leaves (expect .forWord ts)
        let ts ← leaves (readType ts)
        leaves (readMethodBlock ts)
      else leaves (readMethodBlock ts)) := by
  have hnext : nextIs .name (t :: ts) = true := beq_iff_eq.mpr hk
  rw [readImpl, readType]
  simp only [hk, bind_assoc, leaves_bind, bind_leaves]
  refine bind_congr fun path => ?_
  by_cases hless : nextIs .less path.rest
  · rw [if_pos hless, if_pos hless]
    simp only [bind_assoc]
    refine bind_congr fun less => bind_congr_ok fun args hargs => ?_
    -- a type with generic arguments is no bare path
    obtain ⟨arg, others, hvalue⟩ := exists_arg_of_readTypeArgs hargs
    simp only [pure_bind, hvalue, barePath?, leaves_bind, leaves_pure, bind_pure_rest,
      Read.withLate, Read.seq]
  · rw [if_neg hless, if_neg hless, pure_bind]
    simp only [Read.giving, barePath?, hnext, if_true]
    cases hfor : nextIs .forWord path.rest with
    | true =>
      simp only [leaves_bind, leaves_pure, bind_pure_rest, Read.withLate, Read.seq, if_true]
    | false =>
      simp only [leaves_bind, leaves_pure, bind_pure_rest, Read.withLate, Read.seq,
        Bool.false_eq_true, if_false]

/-- Behind `struct` stands a struct. -/
theorem leaves_readItem_struct (ts : List Token) (hk : t.kind = .structWord) :
    leaves (readItem (t :: ts)) = (do
      let ts ← leaves (expect .structWord (t :: ts))
      leaves (readStruct {} ts)) := by
  rw [readItem, expect_cons hk, bind_leaves, ok_bind, leaves_readStruct,
    ← leaves_readStruct t.start]
  simp only [hk, leaves_bind, leaves_pure, Read.behind, bind_pure_rest, Read.token]

/-- Behind `trait` stands a trait. -/
theorem leaves_readItem_trait (ts : List Token) (hk : t.kind = .traitWord) :
    leaves (readItem (t :: ts)) = (do
      let ts ← leaves (expect .traitWord (t :: ts))
      leaves (readTrait {} ts)) := by
  rw [readItem, expect_cons hk, bind_leaves, ok_bind, leaves_readTrait,
    ← leaves_readTrait t.start]
  simp only [hk, leaves_bind, leaves_pure, Read.behind, bind_pure_rest, Read.token]

/-- Behind `impl` stands an impl. -/
theorem leaves_readItem_impl (ts : List Token) (hk : t.kind = .implWord) :
    leaves (readItem (t :: ts)) = (do
      let ts ← leaves (expect .implWord (t :: ts))
      leaves (readImpl t.start ts)) := by
  rw [readItem, expect_cons hk, bind_leaves, ok_bind]
  simp only [hk, leaves_bind, leaves_pure, Read.behind, bind_pure_rest, Read.token]

/-- Any other item is a function. -/
theorem leaves_readItem_function (ts : List Token)
    (hk : t.kind ∉ [.structWord, .traitWord, .implWord]) :
    leaves (readItem (t :: ts)) = leaves (readFunction false (t :: ts)) := by
  simp only [List.mem_cons, List.not_mem_nil, or_false, not_or] at hk
  obtain ⟨h₁, h₂, h₃⟩ := hk
  rw [readItem]
  split
  case h_4 => simp only [leaves_bind, leaves_pure, bind_pure_rest, Read.giving]
  all_goals contradiction

/-! ### Functions -/

namespace Phrases

/-- There is a parameter. -/
theorem exists_param : ∃ us param, DerivesParam us param :=
  ⟨_, _, .value .absent (sample_kind _)⟩

/-- There is a function. -/
theorem exists_function : ∃ us f, DerivesFunction false us f :=
  ⟨_, _, .mk .absent (sample_kind _) (.single (sample_kind _)) (sample_kind _) .empty
    (sample_kind _) .absent (.none (sample_kind _))⟩

/-- Parameters as written. -/
def param : Phrases := .of DerivesParam exists_param

/-- Functions. -/
def function : Phrases := .of (DerivesFunction false) exists_function

/-- Methods in braces. -/
def methodBlock : Phrases :=
  .andThen (.one .leftBrace) (.repeated .rightBrace (DerivesFunction false))

end Phrases

/-- A reader of parameters stops at the first token that no parameter goes on with. -/
theorem foresees_readParam (ts : List Token) :
    Foresees .param (fun ts => leaves (readParam ts)) ts := by
  cases ts with
  | nil => exact .fails_at_end rfl
  | cons t ts =>
    -- the first token decides whether it is a receiver, and of which form
    by_cases hmut : t.kind = .mutWord
    · refine (Foresees.of_cons (fun ts => leaves_readParam_mut ts hmut) <|
        .bind (.expect .mutWord (t :: ts)) fun us _ => .expect .selfWord us).mono ?_
      rintro _ ⟨_, _, rfl, ⟨word, hw, rfl⟩, ⟨self, hs, rfl⟩⟩
      exact ⟨_, .value (.present hw) hs⟩
    by_cases hamp : t.kind = .ampersand
    · refine (Foresees.of_cons (fun ts => leaves_readParam_ref ts hamp) <|
        .bind (.expect .ampersand (t :: ts)) fun us _ => .bind (.optional .mutWord us)
          fun us _ => .expect .selfWord us).mono ?_
      rintro _ ⟨_, _, rfl, ⟨amp, hk, rfl⟩, ms, _, rfl, ⟨isMut, hm⟩, ⟨self, hs, rfl⟩⟩
      exact ⟨_, .ref hk hm hs⟩
    by_cases hself : t.kind = .selfWord
    · refine (Foresees.of_cons (fun ts => leaves_readParam_self ts hself) <|
        .bind (.expect .selfWord (t :: ts)) fun us _ =>
          .typeBehind fun us _ => foresees_readType us).mono ?_
      rintro _ ⟨_, _, rfl, ⟨self, hs, rfl⟩, declared, hdeclared⟩
      cases hdeclared with
      | absent => exact ⟨_, .value .absent hs⟩
      | present hc htype => exact ⟨_, .typed hs hc htype⟩
    have hk : t.kind ∉ [.mutWord, .ampersand, .selfWord] := by simp [hmut, hamp, hself]
    refine (Foresees.of_cons (fun ts => leaves_readParam_named ts hk) <|
      .bind (.expect .name (t :: ts)) fun us _ => .bind (.expect .colon us)
        fun us _ => foresees_readType us).mono ?_
    rintro _ ⟨_, _, rfl, ⟨name, hn, rfl⟩, _, us, rfl, ⟨colon, hc, rfl⟩, type, htype⟩
    exact ⟨_, .named hn hc htype⟩

/-- So does a reader of parameters up to a parenthesis. -/
theorem foresees_readParams (inMethod : Bool) (ts : List Token) :
    Foresees (.closed .rightParen DerivesParam) (fun ts => leaves (readParams inMethod 0 ts)) ts :=
  .closed (fun index ts => leaves (readParams inMethod index ts)) (leaves_readParams inMethod)
    (fun us _ => foresees_readParam us) 0

/-- **A reader of functions** stops at the first token that no function goes on with. -/
theorem foresees_readFunction (inMethod : Bool) (ts : List Token) :
    Foresees .function (fun ts => leaves (readFunction inMethod ts)) ts := by
  refine (Foresees.of_eq (leaves_readFunction inMethod) <| .bind (.optional .unsafeWord ts)
    fun us _ => .bind (.expect .fnWord us) fun us _ => .bind (foresees_readPath us) fun us _ =>
      .bind (.expect .leftParen us) fun us _ => .bind (foresees_readParams inMethod us) fun us _ =>
        .bind (.typeBehind fun us _ => foresees_readType us) fun us _ =>
          .ite (fun _ => .expect .semicolon us) fun _ => .bind (.expect .leftBrace us)
            fun us _ => foresees_readStmts us).mono ?_
  -- the parts are taken in this order, and together they derive the function
  rintro _ ⟨us, _, rfl, ⟨isUnsafe, hu⟩, _, _, rfl, ⟨fn, hf, rfl⟩, ns, _, rfl, ⟨path, hpath⟩,
    _, _, rfl, ⟨op, ho, rfl⟩, _, _, rfl, ⟨params, ps, cl, rfl, hc, hps⟩,
    rs, bs, rfl, ⟨ret, hr⟩, hbody⟩
  -- what stands behind the head is a semicolon, or statements in braces
  obtain ⟨body, hbody⟩ : ∃ body, DerivesTail false bs body := by
    rcases hbody with ⟨semicolon, hs, rfl⟩ | hblock
    · exact ⟨none, .none hs⟩
    · obtain ⟨_, _, rfl, ⟨brace, hb, rfl⟩, stmts, ss, cl, rfl, hc, hss⟩ := hblock
      exact ⟨some stmts, .block hb hss hc⟩
  have hfunction := DerivesFunction.mk hu hf hpath ho hps hc hr hbody
  rw [List.append_assoc]
  exact ⟨_, hfunction⟩

/-- So does a reader of methods in braces. -/
theorem foresees_readMethodBlock (ts : List Token) :
    Foresees .methodBlock (fun ts => leaves (readMethodBlock ts)) ts :=
  .of_eq leaves_readMethodBlock <| .bind (.expect .leftBrace ts) fun us _ =>
    .repeated _ leaves_readMethods (foresees_readFunction true) leaves_shorter us

/-! ### Items -/

namespace Phrases

/-- There is an item. -/
theorem exists_item : ∃ us item, DerivesItem false us item :=
  exists_function.imp fun _ h => h.elim fun _ h => ⟨_, .function h⟩

/-- Items. -/
def item : Phrases := .of (DerivesItem false) exists_item

/-- Texts. -/
def items : Phrases := .of (DerivesItems false) ⟨[], [], .nil⟩

end Phrases

/-- Impls are foreseen behind their first word. -/
theorem foresees_readImpl (start : Pos) (ts : List Token) :
    Foresees (.orElse (.andThen .type .methodBlock)
        (.andThen .path (.andThen (.one .forWord) (.andThen .type .methodBlock))))
      (fun ts => leaves (readImpl start ts)) ts := by
  cases hn : nextIs .name ts with
  | false =>
    have htype : Foresees (.andThen .type .methodBlock) (fun ts => do
        let ts ← leaves (readType ts)
        leaves (readMethodBlock ts)) ts :=
      .bind (foresees_readType ts) fun us _ => foresees_readMethodBlock us
    refine .of_head (fun ts' hts' => leaves_readImpl_type start ts' ?_) (htype.mono fun _ => .inl)
    rw [nextIs_congr hts', hn]
  | true =>
    obtain ⟨t, ts, rfl, hk⟩ : ∃ t us, ts = t :: us ∧ t.kind = .name := by
      cases ts with
      | nil => nomatch hn
      | cons t ts => exact ⟨t, ts, rfl, beq_iff_eq.mp hn⟩
    refine (Foresees.of_cons (fun ts => leaves_readImpl_name start ts hk) <|
      .bind (foresees_readPath (t :: ts)) fun us _ => .ite
        (fun _ => .bind (.expect .less us) fun us _ =>
          .bind (foresees_typeArgs fun us _ => foresees_readType us)
            fun us _ => foresees_readMethodBlock us)
        fun _ => .ite (fun _ => .bind (.expect .forWord us) fun us _ =>
          .bind (foresees_readType us) fun us _ => foresees_readMethodBlock us)
        fun _ => foresees_readMethodBlock us).mono ?_
    -- a type with arguments, a trait for a type, or a type that is a path alone
    rintro _ ⟨ns, _, rfl, ⟨path, hpath⟩, h | h | h⟩
    · obtain ⟨_, _, rfl, ⟨less, hl, rfl⟩, _, ms, rfl, ⟨args, vs, cl, rfl, hc, hargs⟩, hms⟩ := h
      have htype := DerivesType.generic hpath hl hargs hc
      exact .inl ⟨_, ms, by simp, ⟨_, htype⟩, hms⟩
    · exact .inr ⟨ns, _, rfl, ⟨path, hpath⟩, h⟩
    · exact .inl ⟨ns, _, rfl, ⟨_, .named hpath⟩, h⟩

/-- **A reader of items** stops at the first token that no item goes on with. -/
theorem foresees_readItem (ts : List Token) :
    Foresees .item (fun ts => leaves (readItem ts)) ts := by
  cases ts with
  | nil => exact .fails_at_end rfl
  | cons t ts =>
    -- the first word decides what kind of item it is
    by_cases hstruct : t.kind = .structWord
    · refine (Foresees.of_cons (fun ts => leaves_readItem_struct ts hstruct) <|
        .bind (.expect .structWord (t :: ts)) fun us _ => .of_eq (leaves_readStruct {}) <|
          .bind (foresees_readPath us) fun us _ =>
            .bind (.typeBehind fun us _ => foresees_readType us)
              fun us _ => .expect .semicolon us).mono ?_
      rintro _ ⟨_, _, rfl, ⟨word, hw, rfl⟩, ns, _, rfl, ⟨path, hp⟩, rs, _, rfl, ⟨target, hr⟩,
        ⟨semicolon, hs, rfl⟩⟩
      exact ⟨_, .structDef hw hp hr hs⟩
    by_cases htrait : t.kind = .traitWord
    · refine (Foresees.of_cons (fun ts => leaves_readItem_trait ts htrait) <|
        .bind (.expect .traitWord (t :: ts)) fun us _ => .of_eq (leaves_readTrait {}) <|
          .bind (foresees_readPath us) fun us _ => foresees_readMethodBlock us).mono ?_
      rintro _ ⟨_, _, rfl, ⟨word, hw, rfl⟩, ns, _, rfl, ⟨path, hp⟩, _, _, rfl, ⟨op, ho, rfl⟩,
        fs, ms, cl, rfl, hc, hms⟩
      exact ⟨_, .traitDef hw hp ho hms hc⟩
    by_cases himpl : t.kind = .implWord
    · refine (Foresees.of_cons (fun ts => leaves_readItem_impl ts himpl) <|
        .bind (.expect .implWord (t :: ts)) fun us _ => foresees_readImpl t.start us).mono ?_
      rintro _ ⟨_, _, rfl, ⟨word, hw, rfl⟩, h | h⟩
      · obtain ⟨us, _, rfl, ⟨target, ht⟩, _, _, rfl, ⟨op, ho, rfl⟩, fs, ms, cl, rfl, hc, hms⟩ := h
        exact ⟨_, .inherentImpl hw ht ho hms hc⟩
      · obtain ⟨ns, _, rfl, ⟨path, hp⟩, _, _, rfl, ⟨forWord, hf, rfl⟩, us, _, rfl, ⟨target, ht⟩,
          _, _, rfl, ⟨op, ho, rfl⟩, fs, ms, cl, rfl, hc, hms⟩ := h
        exact ⟨_, .traitImpl hw hp hf ht ho hms hc⟩
    have hk : t.kind ∉ [.structWord, .traitWord, .implWord] := by simp [hstruct, htrait, himpl]
    refine (Foresees.of_cons (fun ts => leaves_readItem_function ts hk) <|
      foresees_readFunction false (t :: ts)).mono ?_
    exact fun us ⟨f, hf⟩ => ⟨_, .function hf⟩

/-- What is taken of a whole text: all of it, or what stands in front of the failure. -/
def takeItems (ts : List Token) : Attempt (List Token) := (fun _ => []) <$> readItems ts

/-- Of no tokens, nothing is taken. -/
theorem takeItems_nil : takeItems [] = .ok [] := by
  rw [takeItems, readItems]
  rfl

/-- Of others an item is taken, and then more items. -/
theorem takeItems_cons (t : Token) (ts : List Token) : takeItems (t :: ts) = (do
    let ts ← leaves (readItem (t :: ts))
    takeItems ts) := by
  rw [takeItems, readItems, bind_leaves, map_bind]
  refine bind_congr fun first => ?_
  rw [takeItems, map_bind]
  rfl

/-- **A reader of a whole text** stops at the first token that no program goes on with. -/
theorem foresees_takeItems (ts : List Token) : Foresees .items takeItems ts := by
  -- by induction on the number of tokens, since every item takes some
  induction hm : ts.length using Nat.strongRecOn generalizing ts with
  | _ m ih =>
    subst hm
    cases ts with
    | nil =>
      refine .of_head (fun ts' hts' => ?_) ((Foresees.nothing []).mono ?_)
      · rw [List.head?_eq_none_iff.mp hts', takeItems_nil]
        rfl
      · rintro _ rfl
        exact ⟨[], .nil⟩
    | cons t ts =>
      refine (Foresees.of_cons (takeItems_cons t) <| .bind (M := .items)
        (foresees_readItem (t :: ts)) fun us hus => ih _ (leaves_shorter hus) us rfl).mono ?_
      rintro _ ⟨us, vs, rfl, ⟨item, hitem⟩, items, hitems⟩
      exact ⟨item :: items, .cons hitem hitems⟩

end ClosureLint.Syntax
