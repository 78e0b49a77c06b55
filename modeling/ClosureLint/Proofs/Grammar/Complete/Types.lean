import ClosureLint.Proofs.Grammar.Basic
import ClosureLint.Proofs.Outcome

/-!
# What follows the grammar is read

* `Reads` — a reader succeeds with a given tree, and leaves given tokens.
* `TypeEnds` — a type can end in front of certain tokens.
* `readType_complete`, `readPattern_complete`, `readClosureParams_complete` — what the grammar
  allows is read so.
-/

namespace ClosureLint.Syntax

variable {α : Type} {ts us rest : List Token}

/-- The reader `read` takes from `ts` all but `rest`, up to `stop`, and gives `value`. -/
def Reads (read : (ts : List Token) → Attempt (Read ts.length α)) (ts : List Token) (value : α)
    (late : List LateFault) (stop : Pos) (rest : List Token) : Prop :=
  ∃ r, read ts = .ok r ∧ r.value = value ∧ r.late = late ∧ r.stop = stop ∧ r.rest = rest

/-- The same for a reader that may take no token. -/
def ReadsOpt (read : (ts : List Token) → Attempt (Read (ts.length + 1) α)) (ts : List Token)
    (value : α) (late : List LateFault) (stop : Pos) (rest : List Token) : Prop :=
  ∃ r, read ts = .ok r ∧ r.value = value ∧ r.late = late ∧ r.stop = stop ∧ r.rest = rest

/-- A reader that succeeds so answers with the tree, its faults and what is left. -/
theorem Reads.eq_ok {read : (ts : List Token) → Attempt (Read ts.length α)} {value : α}
    {late : List LateFault} {stop : Pos} (h : Reads read ts value late stop rest) :
    ∃ h, read ts = .ok ⟨value, late, stop, rest, h⟩ := by
  obtain ⟨r, h, rfl, rfl, rfl, rfl⟩ := h
  exact ⟨r.shorter, h⟩

/-- So does a reader that need not take a token. -/
theorem ReadsOpt.eq_ok {read : (ts : List Token) → Attempt (Read (ts.length + 1) α)} {value : α}
    {late : List LateFault} {stop : Pos} (h : ReadsOpt read ts value late stop rest) :
    ∃ h, read ts = .ok ⟨value, late, stop, rest, h⟩ := by
  obtain ⟨r, h, rfl, rfl, rfl, rfl⟩ := h
  exact ⟨r.shorter, h⟩

/-- What comes behind a success goes on with its value. -/
theorem ok_bind {ε α β : Type} (a : α) (f : α → Except ε β) : (Except.ok a >>= f) = f a := rfl

/-! ### One token -/

/-- A token of the expected kind is taken. -/
theorem expect_cons {k : TokenKind} {t : Token} (h : t.kind = k) (ts : List Token) :
    expect k (t :: ts) = .ok (.token t ts t) := by
  rw [expect, if_pos h]
  rfl

/-- A reader of one token reads a token of its kind. -/
theorem expect_complete {k : TokenKind} {t : Token} (h : t.kind = k) (rest : List Token) :
    Reads (expect k) (t :: rest) t [] t.stop rest :=
  ⟨_, expect_cons h rest, rfl, rfl, rfl, rfl⟩

/-- The next token is of a kind if the first one is. -/
theorem nextIs_cons {k : TokenKind} {t : Token} (ts : List Token) :
    nextIs k (t :: ts) = (t.kind == k) := rfl

/-- None of the kinds `ks` comes next. -/
def NotNext (ks : List TokenKind) (ts : List Token) : Prop := ∀ t ∈ ts.head?, t.kind ∉ ks

/-- A kind that does not come next is not next. -/
theorem NotNext.nextIs {ks : List TokenKind} {ts : List Token} (h : NotNext ks ts)
    {k : TokenKind} (hk : k ∈ ks) : nextIs k ts = false := by
  cases ts with
  | nil => rfl
  | cons t ts => exact beq_eq_false_iff_ne.mpr fun he => h t rfl (he ▸ hk)

/-- Where none of some kinds comes next, none of fewer does. -/
theorem NotNext.mono {ks ks' : List TokenKind} {ts : List Token} (h : NotNext ks ts)
    (hks : ∀ k ∈ ks', k ∈ ks) : NotNext ks' ts := fun t ht hk => h t ht (hks _ hk)

/-- A token of another kind comes next. -/
theorem notNext_cons {ks : List TokenKind} {t : Token} (h : t.kind ∉ ks) (ts : List Token) :
    NotNext ks (t :: ts) := fun _ ht => Option.some.inj ht ▸ h

/-- The first token has one of the kinds `ks`. -/
def StartsIn (ks : List TokenKind) (ts : List Token) : Prop := ∃ t us, ts = t :: us ∧ t.kind ∈ ks

namespace StartsIn

variable {ks : List TokenKind}

/-- The first token is one to begin with. -/
theorem cons {k : TokenKind} {t : Token} (h : t.kind = k) (hk : k ∈ ks) (ts : List Token) :
    StartsIn ks (t :: ts) := ⟨t, ts, rfl, h ▸ hk⟩

/-- What stands behind does not change how it begins. -/
theorem append (h : StartsIn ks ts) (us : List Token) : StartsIn ks (ts ++ us) := by
  obtain ⟨t, ts, rfl, hk⟩ := h
  exact ⟨t, ts ++ us, rfl, hk⟩

/-- With more kinds to begin with, it still begins so. -/
theorem mono {ks' : List TokenKind} (h : StartsIn ks ts) (hks : ∀ k ∈ ks, k ∈ ks') :
    StartsIn ks' ts := by
  obtain ⟨t, ts, rfl, hk⟩ := h
  exact ⟨t, ts, rfl, hks _ hk⟩

/-- There is a first token. -/
theorem ne_nil (h : StartsIn ks ts) : ts ≠ [] := by
  obtain ⟨t, ts, rfl, -⟩ := h
  exact List.cons_ne_nil t ts

/-- No other kind comes next. -/
theorem notNext {ks' : List TokenKind} (h : StartsIn ks ts) (hks : ∀ k ∈ ks', k ∉ ks)
    (rest : List Token) : NotNext ks' (ts ++ rest) := by
  obtain ⟨t, ts, rfl, hk⟩ := h
  exact notNext_cons (fun hm => hks _ hm hk) _

/-- No other kind comes next. -/
theorem nextIs {k : TokenKind} (h : StartsIn ks ts) (hk : k ∉ ks) (rest : List Token) :
    nextIs k (ts ++ rest) = false :=
  (h.notNext (List.forall_mem_singleton.mpr hk) rest).nextIs (List.mem_singleton_self k)

end StartsIn

/-- An optional word is dropped if it is there; otherwise something else comes next. -/
theorem IsOptional.dropIf {k : TokenKind} {ms : List Token} {b : Bool} (h : IsOptional k ms b)
    {ts : List Token} (hts : NotNext [k] ts) : dropIf k (ms ++ ts) = (b, ts) := by
  cases h with
  | present hk => simp [Syntax.dropIf, hk]
  | absent =>
    cases ts with
    | nil => rfl
    | cons t ts =>
      have hne : t.kind ≠ k := fun he => hts t rfl (List.mem_singleton.mpr he)
      simp [Syntax.dropIf, hne]

/-! ### Paths and literals -/

/-- A path begins with a name. -/
theorem IsPath.starts {p : Path} (h : IsPath us p) : StartsIn [.name] us := by
  cases h with
  | single hk | cons hk _ _ => exact .cons hk (by decide) _

/-- **A path is read**, unless it goes on. -/
theorem readPath_complete {p : Path} (h : IsPath us p) (hrest : NotNext [.doubleColon] rest) :
    Reads readPath (us ++ rest) p [] (stopOf us) rest := by
  induction h with
  -- with colons behind it, the name would be the first of a longer path
  | @single t hk =>
    rw [List.singleton_append]
    unfold Reads
    rw [readPath, expect_cons hk, ok_bind]
    simp only [Read.token, hrest.nextIs List.mem_cons_self]
    exact ⟨_, rfl, rfl, rfl, rfl, rfl⟩
  | @cons t colons ts p hk hc hp ih =>
    obtain ⟨_, he⟩ := ih.eq_ok
    rw [List.cons_append, List.cons_append, stopOf_cons_cons, stopOf_cons _ hp.starts.ne_nil]
    unfold Reads
    rw [readPath, expect_cons hk, ok_bind]
    simp only [Read.token, nextIs_cons, hc, beq_self_eq_true, if_true, expect_cons hc, ok_bind, he]
    exact ⟨_, rfl, rfl, rfl, rfl, rfl⟩

/-- A number is read, with its fault if it has too many digits. -/
theorem readInt_complete {t : Token} (h : t.kind = .int) (rest : List Token) :
    Reads readInt (t :: rest) (intValue t) (intLate t) t.stop rest := by
  unfold Reads
  rw [readInt, expect_cons h]
  exact ⟨_, rfl, rfl, rfl, rfl, rfl⟩

/-- A string is read, with its fault if it has no value. -/
theorem readString_complete {t : Token} (h : t.kind = .string) (rest : List Token) :
    Reads readString (t :: rest) (stringValue t) (stringLate t) t.stop rest := by
  unfold Reads
  rw [readString, expect_cons h, ok_bind, stringValue, stringLate]
  simp only [Read.token]
  cases Text.unescape (stringContent t.text) <;> exact ⟨_, rfl, rfl, rfl, rfl, rfl⟩

/-! ### Types -/

/-- Behind a type none of the tokens comes that could carry it on. -/
def TypeEnds (ts : List Token) : Prop := NotNext [.doubleColon, .less, .arrow] ts

/-- A type ends in front of a token that could not carry it on. -/
theorem typeEnds_cons {k : TokenKind} {t : Token} (h : t.kind = k)
    (hk : k ∉ [TokenKind.doubleColon, .less, .arrow]) (ts : List Token) : TypeEnds (t :: ts) :=
  notNext_cons (h ▸ hk) ts

/-- The kinds that begin a type. -/
def typeStarts : List TokenKind :=
  [.ampersand, .leftBracket, .leftParen, .unsafeWord, .fnWord, .name]

/-- A type begins with one of the tokens for that. -/
theorem IsType.starts {ts : List Token} {type : TypeExpr} {late : List LateFault}
    (h : IsType ts type late) : StartsIn typeStarts ts := by
  cases h with
  | ref hk _ _ | array hk _ _ _ _ | slice hk _ _ | unit hk _ | tuple hk _ _ _ | paren hk _ _
  | unsafeFnPtr hk _ _ | fnPtr hk _ => exact .cons hk (by decide) _
  | named hp => exact hp.starts.mono (by decide)
  | generic hp _ _ => exact (hp.starts.mono (by decide)).append _

/-- The types up to a parenthesis take the parenthesis at least. -/
theorem IsTypesClosing.ne_nil {ts : List Token} {types : List TypeExpr} {late : List LateFault}
    (h : IsTypesClosing ts types late) : ts ≠ [] := by
  cases h <;> simp

/-- Type arguments take `>` at least. -/
theorem IsTypeArgs.ne_nil {ts : List Token} {types : List TypeExpr} {late : List LateFault}
    (h : IsTypeArgs ts types late) : ts ≠ [] := by
  cases h <;> simp

/-- A signature takes its parentheses at least. -/
theorem IsSignature.ne_nil {ts : List Token} {params : List TypeExpr} {ret : Option TypeExpr}
    {late : List LateFault} (h : IsSignature ts params ret late) : ts ≠ [] := by
  cases h <;> simp

/-! There is one lemma for each form of a type. They take what is read of the parts as hypotheses, so that
the recursion stands in `readType_complete` alone. -/

section Forms

variable {ts us vs rest : List Token} {type : TypeExpr} {late late' : List LateFault}

/-- A reference. No type begins with `mut`, so the word is dropped only if it is there. -/
private theorem readType_ref {amp : Token} {ms : List Token} {isMut : Bool} (hk : amp.kind = .ampersand)
    (hm : IsOptional .mutWord ms isMut) (hstarts : StartsIn typeStarts ts)
    (ht : Reads readType (ts ++ rest) type late (stopOf ts) rest) :
    Reads readType (amp :: (ms ++ ts) ++ rest) (.ref (extentOf (amp :: (ms ++ ts))) isMut type) late
      (stopOf (amp :: (ms ++ ts))) rest := by
  have hdrop := hm.dropIf (hstarts.notNext (by decide) rest)
  have hread : Reads readType (dropIf .mutWord (ms ++ (ts ++ rest))).2 type late (stopOf ts) rest := by
    rw [hdrop]
    exact ht
  obtain ⟨_, he⟩ := hread.eq_ok
  simp only [List.cons_append, List.append_assoc]
  unfold Reads
  rw [readType]
  simp only [hk, he, ok_bind]
  refine ⟨_, rfl, ?_, rfl, ?_, rfl⟩
  all_goals simp [extentOf, hdrop, Read.behind, Read.behindOpt, stopOf_cons, stopOf_append,
    hstarts.ne_nil]

/-- An array: the semicolon behind the type tells it from a slice. -/
private theorem readType_array {op semicolon n cl : Token} (hk : op.kind = .leftBracket)
    (hs : semicolon.kind = .semicolon) (hn : n.kind = .int) (hc : cl.kind = .rightBracket)
    (ht : Reads readType (ts ++ semicolon :: n :: cl :: rest) type late (stopOf ts)
      (semicolon :: n :: cl :: rest)) :
    Reads readType (op :: (ts ++ [semicolon, n, cl]) ++ rest)
      (.array (extentOf (op :: (ts ++ [semicolon, n, cl]))) type (intValue n)) (late ++ intLate n)
      (stopOf (op :: (ts ++ [semicolon, n, cl]))) rest := by
  obtain ⟨_, he⟩ := ht.eq_ok
  obtain ⟨_, hi⟩ := (readInt_complete hn (cl :: rest)).eq_ok
  simp only [List.cons_append, List.append_assoc, List.nil_append]
  unfold Reads
  rw [readType]
  simp only [hk, he, ok_bind, nextIs_cons, hs, beq_self_eq_true, if_true, expect_cons hs, hi,
    Read.token, expect_cons hc]
  refine ⟨_, rfl, ?_, ?_, ?_, rfl⟩
  all_goals simp [extentOf, Read.behind, Read.seq, stopOf_cons]

/-- A slice. -/
private theorem readType_slice {op cl : Token} (hk : op.kind = .leftBracket)
    (hc : cl.kind = .rightBracket)
    (ht : Reads readType (ts ++ cl :: rest) type late (stopOf ts) (cl :: rest)) :
    Reads readType (op :: (ts ++ [cl]) ++ rest) (.slice (extentOf (op :: (ts ++ [cl]))) type) late
      (stopOf (op :: (ts ++ [cl]))) rest := by
  obtain ⟨_, he⟩ := ht.eq_ok
  simp only [List.cons_append, List.append_assoc, List.nil_append]
  unfold Reads
  rw [readType]
  simp only [hk, he, ok_bind, nextIs_cons, hc, expect_cons hc, Read.token]
  refine ⟨_, rfl, ?_, ?_, ?_, rfl⟩
  all_goals simp [extentOf, Read.behind, Read.seq, stopOf_cons]

/-- The unit type: nothing stands between the parentheses. -/
private theorem readType_unit {op cl : Token} (hk : op.kind = .leftParen) (hc : cl.kind = .rightParen) :
    Reads readType ([op, cl] ++ rest) (.tuple (extentOf [op, cl]) []) [] (stopOf [op, cl]) rest := by
  simp only [List.cons_append, List.nil_append]
  unfold Reads
  rw [readType]
  simp only [hk, nextIs_cons, hc, beq_self_eq_true, if_true, expect_cons hc, ok_bind, Read.token]
  refine ⟨_, rfl, ?_, rfl, ?_, rfl⟩
  all_goals simp [extentOf, Read.behind]

/-- A tuple: the comma behind the first type tells it from a type in parentheses. -/
private theorem readType_tuple {op comma : Token} {types : List TypeExpr} (hk : op.kind = .leftParen)
    (hc : comma.kind = .comma) (hstarts : StartsIn typeStarts ts) (hus : us ≠ [])
    (ht : Reads readType (ts ++ comma :: (us ++ rest)) type late (stopOf ts) (comma :: (us ++ rest)))
    (hts : Reads readTypesClosing (us ++ rest) types late' (stopOf us) rest) :
    Reads readType (op :: (ts ++ comma :: us) ++ rest)
      (.tuple (extentOf (op :: (ts ++ comma :: us))) (type :: types)) (late ++ late')
      (stopOf (op :: (ts ++ comma :: us))) rest := by
  obtain ⟨_, he⟩ := ht.eq_ok
  obtain ⟨_, hes⟩ := hts.eq_ok
  simp only [List.cons_append, List.append_assoc]
  unfold Reads
  rw [readType]
  simp only [hk, hstarts.nextIs (k := .rightParen) (by decide), he, ok_bind, nextIs_cons, hc,
    beq_self_eq_true, if_true, expect_cons hc, Read.token, hes]
  refine ⟨_, rfl, ?_, ?_, ?_, rfl⟩
  all_goals simp [extentOf, Read.behind, Read.seq, stopOf_cons, hus]

/-- A type in parentheses is that type, which keeps its own extent. -/
private theorem readType_paren {op cl : Token} (hk : op.kind = .leftParen) (hc : cl.kind = .rightParen)
    (hstarts : StartsIn typeStarts ts)
    (ht : Reads readType (ts ++ cl :: rest) type late (stopOf ts) (cl :: rest)) :
    Reads readType (op :: (ts ++ [cl]) ++ rest) type late (stopOf (op :: (ts ++ [cl]))) rest := by
  obtain ⟨_, he⟩ := ht.eq_ok
  simp only [List.cons_append, List.append_assoc, List.nil_append]
  unfold Reads
  rw [readType]
  simp only [hk, hstarts.nextIs (k := .rightParen) (by decide), he, ok_bind, nextIs_cons, hc,
    expect_cons hc, Read.token]
  refine ⟨_, rfl, rfl, ?_, ?_, rfl⟩
  all_goals simp [Read.behind, Read.seq, stopOf_cons]

/-- A function type. -/
private theorem readType_fnPtr {fn : Token} {params : List TypeExpr} {ret : Option TypeExpr}
    (hf : fn.kind = .fnWord) (hts : ts ≠ [])
    (hs : Reads readSignature (ts ++ rest) (params, ret) late (stopOf ts) rest) :
    Reads readType (fn :: ts ++ rest) (.fnPtr (extentOf (fn :: ts)) false params ret) late
      (stopOf (fn :: ts)) rest := by
  obtain ⟨_, he⟩ := hs.eq_ok
  simp only [List.cons_append]
  unfold Reads
  rw [readType]
  simp only [hf, ok_bind, he]
  refine ⟨_, rfl, ?_, rfl, ?_, rfl⟩
  all_goals simp [extentOf, Read.behind, stopOf_cons, hts]

/-- The type of an unsafe function. -/
private theorem readType_unsafeFnPtr {word fn : Token} {params : List TypeExpr} {ret : Option TypeExpr}
    (hw : word.kind = .unsafeWord) (hf : fn.kind = .fnWord) (hts : ts ≠ [])
    (hs : Reads readSignature (ts ++ rest) (params, ret) late (stopOf ts) rest) :
    Reads readType (word :: fn :: ts ++ rest) (.fnPtr (extentOf (word :: fn :: ts)) true params ret)
      late (stopOf (word :: fn :: ts)) rest := by
  obtain ⟨_, he⟩ := hs.eq_ok
  simp only [List.cons_append]
  unfold Reads
  rw [readType]
  simp only [hw, expect_cons hf, ok_bind, Read.token, he]
  refine ⟨_, rfl, ?_, rfl, ?_, rfl⟩
  all_goals simp [extentOf, Read.behind, Read.seq, stopOf_cons, hts]

/-- A path alone is a type. -/
private theorem readType_named {us : List Token} {p : Path} (hp : IsPath us p)
    {rest : List Token} (hrest : TypeEnds rest) :
    Reads readType (us ++ rest) (.named (extentOf us) p []) [] (stopOf us) rest := by
  have hpath : Reads readPath (us ++ rest) p [] (stopOf us) rest :=
    readPath_complete hp (hrest.mono (by decide))
  -- the reader looks at the first token, which is a name
  obtain ⟨t, ts, rfl, hmem⟩ := hp.starts
  have hk : t.kind = .name := List.mem_singleton.mp hmem
  rw [List.cons_append] at hpath ⊢
  obtain ⟨_, he⟩ := hpath.eq_ok
  unfold Reads
  rw [readType]
  simp only [hk, he, ok_bind, hrest.nextIs (k := .less) (by decide)]
  exact ⟨_, rfl, rfl, rfl, rfl, rfl⟩

/-- A path with arguments is one. -/
private theorem readType_generic {less : Token} {us vs : List Token} {p : Path}
    {args : List TypeExpr} {late : List LateFault} {rest : List Token} (hp : IsPath us p)
    (hl : less.kind = .less) (ha : Reads readTypeArgs (vs ++ rest) args late (stopOf vs) rest)
    (hvs : vs ≠ []) :
    Reads readType (us ++ less :: vs ++ rest) (.named (extentOf (us ++ less :: vs)) p args) late
      (stopOf (us ++ less :: vs)) rest := by
  -- the path ends in front of `<`
  have hnext : NotNext [.doubleColon] (less :: (vs ++ rest)) :=
    notNext_cons (by rw [hl]; decide) _
  have hpath := readPath_complete hp hnext
  obtain ⟨t, ts, rfl, hmem⟩ := hp.starts
  have hk : t.kind = .name := List.mem_singleton.mp hmem
  rw [List.cons_append] at hpath
  obtain ⟨_, he⟩ := hpath.eq_ok
  obtain ⟨_, hes⟩ := ha.eq_ok
  simp only [List.cons_append, List.append_assoc]
  unfold Reads
  rw [readType]
  simp only [hk, he, ok_bind, nextIs_cons, hl, beq_self_eq_true, if_true, expect_cons hl,
    Read.token, hes]
  refine ⟨_, rfl, ?_, ?_, ?_, rfl⟩
  all_goals simp [extentOf, Read.seq, stopOf_cons, hvs]

end Forms

mutual

/-- **What the grammar calls a type is read**, unless a token comes next that could carry it on. -/
theorem readType_complete {us : List Token} {type : TypeExpr} {late : List LateFault}
    (h : IsType us type late) (rest : List Token) (hrest : TypeEnds rest) :
    Reads readType (us ++ rest) type late (stopOf us) rest := by
  match h with
  | @IsType.ref _ _ _ _ _ _ hk hm ht =>
    exact readType_ref hk hm ht.starts (readType_complete ht rest hrest)
  -- inside brackets and parentheses the type ends at the next mark
  | @IsType.array _ _ _ _ _ _ _ hk ht hs hn hc =>
    exact readType_array hk hs hn hc (readType_complete ht _ (typeEnds_cons hs (by decide) _))
  | @IsType.slice _ _ _ _ _ hk ht hc =>
    exact readType_slice hk hc (readType_complete ht _ (typeEnds_cons hc (by decide) _))
  | @IsType.unit _ _ hk hc => exact readType_unit hk hc
  | @IsType.tuple _ _ _ _ _ _ _ _ hk ht hc hts =>
    exact readType_tuple hk hc ht.starts hts.ne_nil
      (readType_complete ht _ (typeEnds_cons hc (by decide) _)) (readTypesClosing_complete hts rest)
  | @IsType.paren _ _ _ _ _ hk ht hc =>
    exact readType_paren hk hc ht.starts (readType_complete ht _ (typeEnds_cons hc (by decide) _))
  | @IsType.unsafeFnPtr _ _ _ _ _ _ hw hf hs =>
    exact readType_unsafeFnPtr hw hf hs.ne_nil (readSignature_complete hs rest hrest)
  | @IsType.fnPtr _ _ _ _ _ hf hs =>
    exact readType_fnPtr hf hs.ne_nil (readSignature_complete hs rest hrest)
  | @IsType.named _ _ hp => exact readType_named hp hrest
  | @IsType.generic _ _ _ _ _ _ hp hl ha =>
    exact readType_generic hp hl (readTypeArgs_complete ha rest) ha.ne_nil

/-- A signature is read, unless its result could go on. -/
theorem readSignature_complete {us : List Token} {params : List TypeExpr} {ret : Option TypeExpr}
    {late : List LateFault} (h : IsSignature us params ret late) (rest : List Token)
    (hrest : TypeEnds rest) :
    Reads readSignature (us ++ rest) (params, ret) late (stopOf us) rest := by
  match h with
  -- without a result, an arrow must not come next
  | @IsSignature.unit op ts params _ hk hts =>
    obtain ⟨_, hes⟩ := (readTypesClosing_complete hts rest).eq_ok
    rw [List.cons_append]
    unfold Reads
    rw [readSignature]
    simp only [expect_cons hk, ok_bind, Read.token, hes, hrest.nextIs (k := .arrow) (by decide)]
    refine ⟨_, rfl, rfl, rfl, ?_, rfl⟩
    simp [Read.seq, stopOf_cons, hts.ne_nil]
  | @IsSignature.ret op arrow ts us params ret _ _ hk hts ha ht =>
    obtain ⟨_, hes⟩ := (readTypesClosing_complete hts (arrow :: (us ++ rest))).eq_ok
    obtain ⟨_, he⟩ := (readType_complete ht rest hrest).eq_ok
    simp only [List.cons_append, List.append_assoc]
    unfold Reads
    rw [readSignature]
    simp only [expect_cons hk, ok_bind, Read.token, hes, nextIs_cons, ha, beq_self_eq_true,
      if_true, expect_cons ha, he]
    refine ⟨_, rfl, rfl, ?_, ?_, rfl⟩
    all_goals simp [Read.seq, stopOf_cons, stopOf_append, ht.starts.ne_nil]

/-- The types up to a parenthesis are read. -/
theorem readTypesClosing_complete {us : List Token} {types : List TypeExpr}
    {late : List LateFault} (h : IsTypesClosing us types late) (rest : List Token) :
    Reads readTypesClosing (us ++ rest) types late (stopOf us) rest := by
  match h with
  | @IsTypesClosing.nil cl hc =>
    unfold Reads
    rw [List.singleton_append, readTypesClosing]
    simp only [nextIs_cons, hc, beq_self_eq_true, if_true, expect_cons hc, ok_bind]
    exact ⟨_, rfl, rfl, rfl, rfl, rfl⟩
  -- a type begins with no parenthesis that closes, so the reader goes on to read one
  | @IsTypesClosing.last cl ts t _ ht hc =>
    have hends : TypeEnds (cl :: rest) := typeEnds_cons hc (by decide) _
    obtain ⟨_, he⟩ := (readType_complete ht _ hends).eq_ok
    rw [List.append_assoc, List.singleton_append]
    unfold Reads
    rw [readTypesClosing]
    simp only [ht.starts.nextIs (k := .rightParen) (by decide), he, ok_bind, nextIs_cons, hc,
      expect_cons hc, Read.token]
    refine ⟨_, rfl, rfl, ?_, ?_, rfl⟩
    all_goals simp [Read.seq]
  | @IsTypesClosing.cons comma ts us t others late late' ht hc hts =>
    have hends : TypeEnds (comma :: (us ++ rest)) := typeEnds_cons hc (by decide) _
    obtain ⟨_, he⟩ := (readType_complete ht _ hends).eq_ok
    obtain ⟨_, hes⟩ := (readTypesClosing_complete hts rest).eq_ok
    rw [List.append_assoc, List.cons_append]
    unfold Reads
    rw [readTypesClosing]
    simp only [ht.starts.nextIs (k := .rightParen) (by decide), he, ok_bind, nextIs_cons, hc,
      beq_self_eq_true, if_true, expect_cons hc, Read.token, hes]
    refine ⟨_, rfl, rfl, ?_, ?_, rfl⟩
    all_goals simp [Read.seq, stopOf_cons, hts.ne_nil]

/-- Type arguments are read. -/
theorem readTypeArgs_complete {us : List Token} {types : List TypeExpr} {late : List LateFault}
    (h : IsTypeArgs us types late) (rest : List Token) :
    Reads readTypeArgs (us ++ rest) types late (stopOf us) rest := by
  -- the mark behind a type decides whether there is another, and ends the type in either case
  match h with
  | @IsTypeArgs.last cl ts t _ ht hc =>
    have hends : TypeEnds (cl :: rest) := typeEnds_cons hc (by decide) _
    obtain ⟨_, he⟩ := (readType_complete ht _ hends).eq_ok
    rw [List.append_assoc, List.singleton_append]
    unfold Reads
    rw [readTypeArgs]
    simp only [he, ok_bind, nextIs_cons, hc, expect_cons hc, Read.token]
    refine ⟨_, rfl, rfl, ?_, ?_, rfl⟩
    all_goals simp [Read.seq]
  | @IsTypeArgs.cons comma ts us t others late late' ht hc hts =>
    have hends : TypeEnds (comma :: (us ++ rest)) := typeEnds_cons hc (by decide) _
    obtain ⟨_, he⟩ := (readType_complete ht _ hends).eq_ok
    obtain ⟨_, hes⟩ := (readTypeArgs_complete hts rest).eq_ok
    rw [List.append_assoc, List.cons_append]
    unfold Reads
    rw [readTypeArgs]
    simp only [he, ok_bind, nextIs_cons, hc, beq_self_eq_true, if_true, expect_cons hc,
      Read.token, hes]
    refine ⟨_, rfl, rfl, ?_, ?_, rfl⟩
    all_goals simp [Read.seq, stopOf_cons, hts.ne_nil]

end

/-! ### Optional types -/

/-- A result is read, or that there is none. -/
theorem readRet_complete {us : List Token} {t : Option TypeExpr} {late : List LateFault}
    (h : IsOptionalType .arrow us t late) (before : Pos) (rest : List Token)
    (hrest : TypeEnds rest) :
    ReadsOpt (readRet before) (us ++ rest) t late (if us = [] then before else stopOf us) rest := by
  cases h with
  | absent =>
    unfold ReadsOpt
    simp only [List.nil_append, readRet, hrest.nextIs (k := .arrow) (by decide)]
    exact ⟨_, rfl, rfl, rfl, rfl, rfl⟩
  | @present mark ts t _ hk ht =>
    obtain ⟨_, he⟩ := (readType_complete ht rest hrest).eq_ok
    unfold ReadsOpt
    simp only [List.cons_append, readRet, nextIs_cons, hk, beq_self_eq_true, if_true,
      expect_cons hk, ok_bind, Read.token, he]
    refine ⟨_, rfl, rfl, rfl, ?_, rfl⟩
    simp [Read.seq, Read.loosen, stopOf_cons, ht.starts.ne_nil]

/-! ### Patterns and closure parameters -/

/-- The kinds that begin a pattern. -/
def patternStarts : List TokenKind := [.mutWord, .name, .underscore, .ampersand, .leftParen]

/-- A pattern begins with one of the tokens for that. -/
theorem IsPattern.starts {ts : List Token} {p : Pattern} (h : IsPattern ts p) :
    StartsIn patternStarts ts := by
  cases h with
  | mutBinding hk _ | binding hk | wildcard hk | ref hk _ | tuple hk _ _ _ | paren hk _ _ =>
    exact .cons hk (by decide) _

/-- The patterns up to a parenthesis take the parenthesis at least. -/
theorem IsPatternsClosing.ne_nil {ts : List Token} {ps : List Pattern}
    (h : IsPatternsClosing ts ps) : ts ≠ [] := by
  cases h <;> simp

mutual

/-- **What the grammar calls a pattern is read**, whatever comes next. -/
theorem readPattern_complete {us : List Token} {p : Pattern} (h : IsPattern us p)
    (rest : List Token) : Reads readPattern (us ++ rest) p [] (stopOf us) rest := by
  -- the first token decides which form it is, and the forms with parts read these by induction
  match h with
  | @IsPattern.mutBinding word name hw hn =>
    unfold Reads
    simp only [List.cons_append, List.nil_append]
    rw [readPattern]
    simp only [hw, expect_cons hn, ok_bind]
    exact ⟨_, rfl, rfl, rfl, rfl, rfl⟩
  | @IsPattern.binding name hn =>
    unfold Reads
    simp only [List.cons_append, List.nil_append]
    rw [readPattern]
    simp only [hn, expect_cons hn, ok_bind]
    exact ⟨_, rfl, rfl, rfl, rfl, rfl⟩
  | @IsPattern.wildcard t hk =>
    unfold Reads
    simp only [List.cons_append, List.nil_append]
    rw [readPattern]
    simp only [hk]
    exact ⟨_, rfl, rfl, rfl, rfl, rfl⟩
  | @IsPattern.ref amp ts inner hk hp =>
    obtain ⟨_, he⟩ := (readPattern_complete hp rest).eq_ok
    simp only [List.cons_append]
    unfold Reads
    rw [readPattern]
    simp only [hk, he, ok_bind]
    refine ⟨_, rfl, ?_, rfl, ?_, rfl⟩
    all_goals simp [extentOf, Read.behind, stopOf_cons, hp.starts.ne_nil]
  -- the comma behind the first part tells a tuple from a pattern in parentheses
  | @IsPattern.tuple op comma ts us first others hk hp hc hps =>
    obtain ⟨_, he⟩ := (readPattern_complete hp (comma :: (us ++ rest))).eq_ok
    obtain ⟨_, hes⟩ := (readPatternsClosing_complete hps rest).eq_ok
    simp only [List.cons_append, List.append_assoc]
    unfold Reads
    rw [readPattern]
    simp only [hk, he, ok_bind, nextIs_cons, hc, beq_self_eq_true, if_true, expect_cons hc,
      Read.token, hes]
    refine ⟨_, rfl, ?_, rfl, ?_, rfl⟩
    all_goals simp [extentOf, Read.behind, Read.seq, stopOf_cons, hps.ne_nil]
  | @IsPattern.paren op cl ts p hk hp hc =>
    obtain ⟨_, he⟩ := (readPattern_complete hp (cl :: rest)).eq_ok
    simp only [List.cons_append, List.append_assoc, List.nil_append]
    unfold Reads
    rw [readPattern]
    simp only [hk, he, ok_bind, nextIs_cons, hc, expect_cons hc, Read.token]
    refine ⟨_, rfl, rfl, rfl, ?_, rfl⟩
    simp [Read.behind, Read.seq, stopOf_cons]

/-- The patterns up to a parenthesis are read. -/
theorem readPatternsClosing_complete {us : List Token} {ps : List Pattern}
    (h : IsPatternsClosing us ps) (rest : List Token) :
    Reads readPatternsClosing (us ++ rest) ps [] (stopOf us) rest := by
  match h with
  | @IsPatternsClosing.nil cl hc =>
    unfold Reads
    rw [List.singleton_append, readPatternsClosing]
    simp only [nextIs_cons, hc, beq_self_eq_true, if_true, expect_cons hc, ok_bind]
    exact ⟨_, rfl, rfl, rfl, rfl, rfl⟩
  -- a pattern begins with no parenthesis that closes, so the reader goes on to read one
  | @IsPatternsClosing.last cl ts p hp hc =>
    obtain ⟨_, he⟩ := (readPattern_complete hp (cl :: rest)).eq_ok
    rw [List.append_assoc, List.singleton_append]
    unfold Reads
    rw [readPatternsClosing]
    simp only [hp.starts.nextIs (k := .rightParen) (by decide), he, ok_bind, nextIs_cons, hc,
      expect_cons hc, Read.token]
    refine ⟨_, rfl, rfl, rfl, ?_, rfl⟩
    simp [Read.seq]
  | @IsPatternsClosing.cons comma ts us p others hp hc hps =>
    obtain ⟨_, he⟩ := (readPattern_complete hp (comma :: (us ++ rest))).eq_ok
    obtain ⟨_, hes⟩ := (readPatternsClosing_complete hps rest).eq_ok
    rw [List.append_assoc, List.cons_append]
    unfold Reads
    rw [readPatternsClosing]
    simp only [hp.starts.nextIs (k := .rightParen) (by decide), he, ok_bind, nextIs_cons, hc,
      beq_self_eq_true, if_true, expect_cons hc, Read.token, hes]
    refine ⟨_, rfl, rfl, rfl, ?_, rfl⟩
    simp [Read.seq, stopOf_cons, hps.ne_nil]

end

/-- A parameter of a closure begins like a pattern. -/
theorem IsClosureParam.starts {ts : List Token} {p : ClosureParam} {late : List LateFault}
    (h : IsClosureParam ts p late) : StartsIn patternStarts ts := by
  obtain ⟨hp, -⟩ := h
  exact hp.starts.append _

/-- A parameter of a closure is read, unless a colon or its type goes on. -/
theorem readClosureParam_complete {us : List Token} {p : ClosureParam} {late : List LateFault}
    (h : IsClosureParam us p late) (rest : List Token) (hrest : TypeEnds rest)
    (hcolon : nextIs .colon rest = false) :
    Reads readClosureParam (us ++ rest) p late (stopOf us) rest := by
  obtain @⟨ts, us, p, declared, _, hp, hd⟩ := h
  -- the extent begins with the pattern
  have hstart : startOf (ts ++ us ++ rest) = startOf (ts ++ us) :=
    startOf_append rest (List.append_ne_nil_of_left_ne_nil hp.starts.ne_nil us)
  cases hd with
  | absent =>
    obtain ⟨_, he⟩ := (readPattern_complete hp rest).eq_ok
    rw [List.append_nil] at hstart ⊢
    unfold Reads
    simp only [readClosureParam, he, ok_bind, hcolon]
    refine ⟨_, rfl, ?_, rfl, rfl, rfl⟩
    simp [Read.giving, extentOf, hstart]
  | @present mark us t _ hk ht =>
    obtain ⟨_, he⟩ := (readPattern_complete hp (mark :: (us ++ rest))).eq_ok
    obtain ⟨_, ht'⟩ := (readType_complete ht rest hrest).eq_ok
    simp only [List.append_assoc, List.cons_append] at hstart ⊢
    unfold Reads
    simp only [readClosureParam, he, ok_bind, nextIs_cons, hk, beq_self_eq_true, if_true,
      expect_cons hk, Read.token, ht']
    refine ⟨_, rfl, ?_, ?_, ?_, rfl⟩
    all_goals simp [Read.seq, extentOf, hstart, stopOf_cons, ht.starts.ne_nil]

/-- The parameters of a closure take the closing bar at least. -/
theorem IsClosureParams.ne_nil {ts : List Token} {ps : List ClosureParam}
    {late : List LateFault} (h : IsClosureParams ts ps late) : ts ≠ [] := by
  cases h <;> simp

/-- **The parameters of a closure** are read. -/
theorem readClosureParams_complete {us : List Token} {ps : List ClosureParam}
    {late : List LateFault} (h : IsClosureParams us ps late) (rest : List Token) :
    Reads readClosureParams (us ++ rest) ps late (stopOf us) rest := by
  induction h with
  | @nil cl hc =>
    unfold Reads
    rw [List.singleton_append, readClosureParams]
    simp only [nextIs_cons, hc, beq_self_eq_true, if_true, expect_cons hc, ok_bind]
    exact ⟨_, rfl, rfl, rfl, rfl, rfl⟩
  | @last cl ts p _ hp hc =>
    -- the closing bar ends the type of the last parameter, and is no colon
    have hends : TypeEnds (cl :: rest) := typeEnds_cons hc (by decide) _
    have hcolon : nextIs .colon (cl :: rest) = false := by rw [nextIs_cons, hc]; rfl
    obtain ⟨_, he⟩ := (readClosureParam_complete hp _ hends hcolon).eq_ok
    rw [List.append_assoc, List.singleton_append]
    unfold Reads
    rw [readClosureParams]
    simp only [hp.starts.nextIs (k := .bar) (by decide), he, ok_bind, nextIs_cons, hc, expect_cons hc,
      Read.token]
    refine ⟨_, rfl, rfl, ?_, ?_, rfl⟩
    all_goals simp [Read.seq]
  | @cons comma ts us p others _ _ hp hc hps ih =>
    -- and so does the comma behind any other
    have hends : TypeEnds (comma :: (us ++ rest)) := typeEnds_cons hc (by decide) _
    have hcolon : nextIs .colon (comma :: (us ++ rest)) = false := by rw [nextIs_cons, hc]; rfl
    obtain ⟨_, he⟩ := (readClosureParam_complete hp _ hends hcolon).eq_ok
    obtain ⟨_, hes⟩ := ih.eq_ok
    rw [List.append_assoc, List.cons_append]
    unfold Reads
    rw [readClosureParams]
    simp only [hp.starts.nextIs (k := .bar) (by decide), he, ok_bind, nextIs_cons, hc,
      beq_self_eq_true, if_true, expect_cons hc, Read.token, hes]
    refine ⟨_, rfl, rfl, ?_, ?_, rfl⟩
    all_goals simp [Read.seq, stopOf_cons, hps.ne_nil]

end ClosureLint.Syntax
