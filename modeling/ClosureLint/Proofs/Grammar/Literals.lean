import ClosureLint.Proofs.Grammar.Complete.Items
import ClosureLint.Proofs.Grammar.Names

/-!
# Literals without a value

A text that follows the grammar may still be no program: a receiver stands where none may, or a
literal denotes no value. Only the first kind is reported. A literal with a wrong escape, or a number
with too many digits, ends the reading of the whole text with a fault when it comes first.

* `literalFaults` — what is wrong with a literal, told from its token alone.
* `IsType.literals`, `IsExpr.literals`, `IsItems.literals` — a construct has the faults of its
  literals, and those of its receivers.
* `parseFile_answers` — every text gives a program or one parser error, unless the first thing that is
  wrong with it is a literal.
-/

namespace ClosureLint.Syntax

/-! ### The faults of literals -/

/-- What is wrong with the literal that a token is. -/
def literalFaults (t : Token) : List LateFault :=
  match t.kind with
  | .int => intLate t
  | .string => stringLate t
  | _ => []

/-- Whether a fault is that of a literal; the others are those of receivers. -/
def LateFault.isLiteral : LateFault → Bool
  | .badEscape _ | .longNumber _ => true
  | .receiverOutsideMethod _ | .receiverNotFirst _ => false

variable {ts us : List Token}

/-- What is wrong with the literals among the tokens. -/
def literalsLate (ts : List Token) : List LateFault := ts.flatMap literalFaults

/-- No tokens have no faults. -/
@[simp] theorem literalsLate_nil : literalsLate [] = [] := rfl

/-- The faults of literals come in the order of the tokens. -/
theorem literalsLate_append (ts us : List Token) :
    literalsLate (ts ++ us) = literalsLate ts ++ literalsLate us := List.flatMap_append

/-- A token that is no literal has no faults. -/
theorem literalsLate_cons {t : Token} (hint : t.kind ≠ .int) (hstring : t.kind ≠ .string)
    (ts : List Token) : literalsLate (t :: ts) = literalsLate ts := by
  have hone : literalFaults t = [] := by
    unfold literalFaults
    split
    · exact absurd ‹_› hint
    · exact absurd ‹_› hstring
    · rfl
  rw [literalsLate, List.flatMap_cons, hone]
  rfl

/-- Whether tokens of kind `k` are marks, keywords or names, which have no faults of their own. -/
def isMark (k : TokenKind) : Bool := k != .int && k != .string

/-- So a mark or keyword of kind `k` has none. -/
theorem literalsLate_mark {t : Token} {k : TokenKind} (hk : t.kind = k) (hmark : isMark k = true)
    (ts : List Token) : literalsLate (t :: ts) = literalsLate ts := by
  have hboth : k ≠ .int ∧ k ≠ .string := by simpa [isMark] using hmark
  exact literalsLate_cons (hk ▸ hboth.1) (hk ▸ hboth.2) ts

/-- The fault of a number is told from its digits. -/
theorem literalFaults_int {t : Token} (hk : t.kind = .int) : literalFaults t = intLate t := by
  unfold literalFaults
  rw [hk]

/-- The fault of a string is told from its escapes. -/
theorem literalFaults_string {t : Token} (hk : t.kind = .string) :
    literalFaults t = stringLate t := by
  unfold literalFaults
  rw [hk]

/-- What is wrong with a literal is a fault of a literal. -/
theorem isLiteral_of_literalFaults {t : Token} {f : LateFault} (h : f ∈ literalFaults t) :
    f.isLiteral = true := by
  unfold literalFaults at h
  split at h
  · unfold intLate at h
    split at h
    · rw [List.mem_singleton.mp h]
      rfl
    · exact absurd h List.not_mem_nil
  · unfold stringLate at h
    split at h
    · exact absurd h List.not_mem_nil
    · rw [List.mem_singleton.mp h]
      rfl
  · exact absurd h List.not_mem_nil

/-! ### Types -/

/-- A word that may be missing is no literal. -/
theorem IsOptional.literals {k : TokenKind} {b : Bool} (h : IsOptional k ts b)
    (hmark : isMark k = true) : literalsLate ts = [] := by
  cases h with
  | absent => rfl
  | present hk => exact literalsLate_mark hk hmark []

/-- There is no literal in a path. -/
theorem IsPath.literals {p : Path} (h : IsPath ts p) : literalsLate ts = [] := by
  induction h with
  | single hk => exact literalsLate_mark hk rfl []
  | cons hk hc _ ih => rw [literalsLate_mark hk rfl, literalsLate_mark hc rfl, ih]

mutual

/-- A type has the faults of its literals: those of lengths of arrays. -/
theorem IsType.literals {ts : List Token} {t : TypeExpr} {late : List LateFault}
    (h : IsType ts t late) : literalsLate ts = late := by
  match h with
  | .ref hk hm ht =>
    rw [literalsLate_mark hk rfl, literalsLate_append, hm.literals rfl, ht.literals]
    rfl
  -- only a length is a literal, all else is marks and parts
  | .array hk ht hs hn hc =>
    rw [literalsLate_mark hk rfl, literalsLate_append, ht.literals, literalsLate_mark hs rfl,
      literalsLate, List.flatMap_cons, literalFaults_int hn, ← literalsLate, literalsLate_mark hc rfl]
    simp
  | .slice hk ht hc =>
    rw [literalsLate_mark hk rfl, literalsLate_append, ht.literals, literalsLate_mark hc rfl]
    simp
  | .unit hk hc => rw [literalsLate_mark hk rfl, literalsLate_mark hc rfl]; rfl
  | .tuple hk ht hc hts =>
    rw [literalsLate_mark hk rfl, literalsLate_append, ht.literals, literalsLate_mark hc rfl,
      hts.literals]
  | .paren hk ht hc =>
    rw [literalsLate_mark hk rfl, literalsLate_append, ht.literals, literalsLate_mark hc rfl]
    simp
  | .unsafeFnPtr hw hfn hs => rw [literalsLate_mark hw rfl, literalsLate_mark hfn rfl, hs.literals]
  | .fnPtr hfn hs => rw [literalsLate_mark hfn rfl, hs.literals]
  | .named hp => exact hp.literals
  | .generic hp hk ha =>
    rw [literalsLate_append, hp.literals, literalsLate_mark hk rfl, ha.literals]
    rfl

/-- So has a signature. -/
theorem IsSignature.literals {ts : List Token} {params : List TypeExpr} {ret : Option TypeExpr}
    {late : List LateFault} (h : IsSignature ts params ret late) : literalsLate ts = late := by
  match h with
  | .unit hk hts => rw [literalsLate_mark hk rfl, hts.literals]
  | .ret hk hts ha ht =>
    rw [literalsLate_mark hk rfl, literalsLate_append, hts.literals, literalsLate_mark ha rfl,
      ht.literals]

/-- So have the types up to a parenthesis. -/
theorem IsTypesClosing.literals {ts : List Token} {types : List TypeExpr} {late : List LateFault}
    (h : IsTypesClosing ts types late) : literalsLate ts = late := by
  match h with
  | .nil hc => exact literalsLate_mark hc rfl []
  | .last ht hc => rw [literalsLate_append, ht.literals, literalsLate_mark hc rfl]; simp
  | .cons ht hc hts =>
    rw [literalsLate_append, ht.literals, literalsLate_mark hc rfl, hts.literals]

/-- So have type arguments. -/
theorem IsTypeArgs.literals {ts : List Token} {types : List TypeExpr} {late : List LateFault}
    (h : IsTypeArgs ts types late) : literalsLate ts = late := by
  match h with
  | .last ht hc => rw [literalsLate_append, ht.literals, literalsLate_mark hc rfl]; simp
  | .cons ht hc hts =>
    rw [literalsLate_append, ht.literals, literalsLate_mark hc rfl, hts.literals]

end

/-- So has a type behind a mark, if there is one. -/
theorem IsOptionalType.literals {k : TokenKind} {t : Option TypeExpr} {late : List LateFault}
    (h : IsOptionalType k ts t late) (hmark : isMark k = true) :
    literalsLate ts = late := by
  cases h with
  | absent => rfl
  | present hk ht => rw [literalsLate_mark hk hmark, ht.literals]

/-! ### Expressions -/

mutual

/-- There is no literal in a pattern. -/
theorem IsPattern.literals {ts : List Token} {p : Pattern} (h : IsPattern ts p) :
    literalsLate ts = [] := by
  match h with
  | .mutBinding hw hn => rw [literalsLate_mark hw rfl, literalsLate_mark hn rfl]; rfl
  | .binding hn => exact literalsLate_mark hn rfl []
  | .wildcard hk => exact literalsLate_mark hk rfl []
  | .ref hk hp => rw [literalsLate_mark hk rfl, hp.literals]
  | .tuple hk hp hc hps =>
    rw [literalsLate_mark hk rfl, literalsLate_append, hp.literals, literalsLate_mark hc rfl,
      hps.literals]
    rfl
  | .paren hk hp hc =>
    rw [literalsLate_mark hk rfl, literalsLate_append, hp.literals, literalsLate_mark hc rfl]
    rfl

/-- Nor is there any in the patterns up to a parenthesis. -/
theorem IsPatternsClosing.literals {ts : List Token} {ps : List Pattern}
    (h : IsPatternsClosing ts ps) : literalsLate ts = [] := by
  match h with
  | .nil hc => exact literalsLate_mark hc rfl []
  | .last hp hc => rw [literalsLate_append, hp.literals, literalsLate_mark hc rfl]; rfl
  | .cons hp hc hps =>
    rw [literalsLate_append, hp.literals, literalsLate_mark hc rfl, hps.literals]
    rfl

end

/-- A parameter of a closure has the faults of its type. -/
theorem IsClosureParam.literals {p : ClosureParam} {late : List LateFault}
    (h : IsClosureParam ts p late) : literalsLate ts = late := by
  obtain ⟨hp, hd⟩ := h
  rw [literalsLate_append, hp.literals, hd.literals rfl]
  rfl

/-- So have the parameters of a closure. -/
theorem IsClosureParams.literals {ps : List ClosureParam} {late : List LateFault}
    (h : IsClosureParams ts ps late) : literalsLate ts = late := by
  induction h with
  | nil hc => exact literalsLate_mark hc rfl []
  | last hp hc => rw [literalsLate_append, hp.literals, literalsLate_mark hc rfl]; simp
  | cons hp hc _ ih => rw [literalsLate_append, hp.literals, literalsLate_mark hc rfl, ih]

mutual

/-- **The faults of an expression** are those of its literals, in their order. -/
theorem IsExpr.literals {ts : List Token} {e : Expr} {late : List LateFault}
    (h : IsExpr ts e late) : literalsLate ts = late := by
  match h with
  | .closure hk hp hr hb =>
    rw [literalsLate_mark hk rfl, literalsLate_append, hp.literals, literalsLate_append,
      hr.literals rfl, hb.literals]
  | .unary hu => exact hu.literals

/-- An expression below prefix operators has the faults of its literals. -/
theorem IsUnary.literals {ts : List Token} {e : Expr} {late : List LateFault}
    (h : IsUnary ts e late) : literalsLate ts = late := by
  match h with
  | .borrow hk hm hu =>
    rw [literalsLate_mark hk rfl, literalsLate_append, hm.literals rfl, hu.literals]
    rfl
  | .deref hk hu => rw [literalsLate_mark hk rfl, hu.literals]
  | .chain hp => exact hp.literals

/-- So has a chain. -/
theorem IsPostfix.literals {bare : Bool} {ts : List Token} {e : Expr} {late : List LateFault}
    (h : IsPostfix bare ts e late) : literalsLate ts = late := by
  match h with
  | .atom ha => exact ha.literals
  | .call hp hk ha => rw [literalsLate_append, hp.literals, literalsLate_mark hk rfl, ha.literals]
  | .methodCall hp hd hn hk ha =>
    rw [literalsLate_append, hp.literals, literalsLate_mark hd rfl, literalsLate_mark hn rfl,
      literalsLate_mark hk rfl, ha.literals]
  | .field hp hd hn =>
    rw [literalsLate_append, hp.literals, literalsLate_mark hd rfl, literalsLate_mark hn rfl]
    simp

/-- So has an atom, which may be a literal itself. -/
theorem IsAtom.literals {ts : List Token} {e : Expr} {late : List LateFault}
    (h : IsAtom ts e late) : literalsLate ts = late := by
  match h with
  | .path hp => exact hp.literals
  | .selfWord hk => exact literalsLate_mark hk rfl []
  -- literals are the tokens that the faults are read from
  | .int hk => rw [literalsLate, List.flatMap_singleton, literalFaults_int hk]
  | .string hk => rw [literalsLate, List.flatMap_singleton, literalFaults_string hk]
  | .macroCall hn hb ho he hc =>
    rw [literalsLate_mark hn rfl, literalsLate_mark hb rfl, literalsLate_mark ho rfl,
      literalsLate_append, he.literals, literalsLate_mark hc rfl]
    simp
  | .paren ho he hc =>
    rw [literalsLate_mark ho rfl, literalsLate_append, he.literals, literalsLate_mark hc rfl]
    simp

/-- So have arguments. -/
theorem IsArgs.literals {ts : List Token} {es : List Expr} {late : List LateFault}
    (h : IsArgs ts es late) : literalsLate ts = late := by
  match h with
  | .nil hc => exact literalsLate_mark hc rfl []
  | .last he hc => rw [literalsLate_append, he.literals, literalsLate_mark hc rfl]; simp
  | .cons he hc hes => rw [literalsLate_append, he.literals, literalsLate_mark hc rfl, hes.literals]

end

/-! ### Statements -/

/-- A statement has the faults of its literals. -/
theorem IsStmt.literals {s : Stmt} {late : List LateFault} (h : IsStmt ts s late) :
    literalsLate ts = late := by
  cases h with
  | letStmt hw hm hn hd he hv hs =>
    rw [literalsLate_mark hw rfl, literalsLate_append, hm.literals rfl,
      literalsLate_mark hn rfl, literalsLate_append, hd.literals rfl,
      literalsLate_mark he rfl, literalsLate_append, hv.literals, literalsLate_mark hs rfl]
    simp
  | exprStmt he hs => rw [literalsLate_append, he.literals, literalsLate_mark hs rfl]; simp

/-- So have statements. -/
theorem IsStmts.literals {ss : List Stmt} {late : List LateFault} (h : IsStmts ts ss late) :
    literalsLate ts = late := by
  induction h with
  | nil hc => exact literalsLate_mark hc rfl []
  | cons hs _ ih => rw [literalsLate_append, hs.literals, ih]

/-! ### Items -/

/-- The faults of literals among some faults. -/
def ofLiterals (late : List LateFault) : List LateFault := late.filter LateFault.isLiteral

/-- Faults of literals are picked in order. -/
theorem ofLiterals_append (late late' : List LateFault) :
    ofLiterals (late ++ late') = ofLiterals late ++ ofLiterals late' := List.filter_append ..

/-- A construct without receivers has no other faults. -/
theorem ofLiterals_literalsLate (ts : List Token) :
    ofLiterals (literalsLate ts) = literalsLate ts := by
  refine List.filter_eq_self.mpr fun f hf => ?_
  obtain ⟨t, -, hf⟩ := List.mem_flatMap.mp hf
  exact isLiteral_of_literalFaults hf

/-- A receiver in a wrong place is no fault of a literal. -/
theorem ofLiterals_paramLate (inMethod : Bool) (index : Nat) (p : WrittenParam) :
    ofLiterals (paramLate inMethod index p) = [] := by
  cases p with
  | named p => rfl
  | receiver r =>
    show ofLiterals (receiverFault? inMethod index r.loc).toList = []
    unfold receiverFault?
    split
    · rfl
    · split <;> rfl

/-- A parameter has the faults of its type. -/
theorem IsParam.literals {p : WrittenParam} {late : List LateFault} (h : IsParam ts p late) :
    literalsLate ts = late := by
  cases h with
  | value hm hw =>
    rw [literalsLate_append, hm.literals rfl, literalsLate_mark hw rfl]
    rfl
  | ref hk hm hw =>
    rw [literalsLate_mark hk rfl, literalsLate_append, hm.literals rfl,
      literalsLate_mark hw rfl]
    rfl
  | typed hw hc ht => rw [literalsLate_mark hw rfl, literalsLate_mark hc rfl, ht.literals]
  | named hn hc ht => rw [literalsLate_mark hn rfl, literalsLate_mark hc rfl, ht.literals]

/-- Parameters have the faults of their types, and others for receivers. -/
theorem IsParams.literals {inMethod : Bool} {index : Nat} {ps : List WrittenParam}
    {late : List LateFault} (h : IsParams inMethod index ts ps late) :
    literalsLate ts = ofLiterals late := by
  induction h with
  | nil hc => exact literalsLate_mark hc rfl []
  -- a fault of a receiver is put before those of its type, and is none of a literal
  | last hp hc =>
    rw [literalsLate_append, literalsLate_mark hc rfl, ofLiterals_append, ofLiterals_paramLate,
      ← hp.literals, ofLiterals_literalsLate]
    simp
  | cons hp hc _ ih =>
    rw [literalsLate_append, literalsLate_mark hc rfl, ih, ofLiterals_append, ofLiterals_append,
      ofLiterals_paramLate, ← hp.literals, ofLiterals_literalsLate]
    rfl

/-- What stands behind the head of a function has the faults of its literals. -/
theorem IsTail.literals {body : Option (List Stmt)} {late : List LateFault}
    (h : IsTail ts body late) : literalsLate ts = late := by
  cases h with
  | none hs => exact literalsLate_mark hs rfl []
  | body hk hs => rw [literalsLate_mark hk rfl, hs.literals]

/-- A function has the faults of its literals, and others for receivers. -/
theorem IsFunction.literals {inMethod : Bool} {f : FunctionDef} {late : List LateFault}
    (h : IsFunction inMethod ts f late) : literalsLate ts = ofLiterals late := by
  obtain ⟨hu, hfn, hn, ho, hp, hr, hb⟩ := h
  rw [literalsLate_append, hu.literals rfl, literalsLate_mark hfn rfl,
    literalsLate_append, hn.literals, literalsLate_mark ho rfl, literalsLate_append, hp.literals,
    literalsLate_append, ofLiterals_append, ofLiterals_append,
    ← hr.literals rfl, ← hb.literals, ofLiterals_literalsLate,
    ofLiterals_literalsLate]
  rfl

/-- So have methods. -/
theorem IsMethods.literals {ms : List FunctionDef} {late : List LateFault}
    (h : IsMethods ts ms late) : literalsLate ts = ofLiterals late := by
  induction h with
  | nil hc => exact literalsLate_mark hc rfl []
  | cons hf _ ih => rw [literalsLate_append, hf.literals, ih, ofLiterals_append]

/-- The target of an impl stands in front of the methods, and its faults come behind theirs. -/
theorem IsItem.literals {i : Item} {late : List LateFault} (h : IsItem ts i late) :
    (ofLiterals late).Perm (literalsLate ts) := by
  cases h with
  | structDef hk hn hr hs =>
    rw [literalsLate_mark hk rfl, literalsLate_append, hn.literals, literalsLate_append,
      literalsLate_mark hs rfl, ← hr.literals rfl, ofLiterals_literalsLate]
    simp
  | traitDef hk hn ho hm =>
    rw [literalsLate_mark hk rfl, literalsLate_append, hn.literals, literalsLate_mark ho rfl,
      hm.literals]
    rfl
  -- here the two orders differ, so the faults are only permuted
  | inherentImpl hk ht ho hm =>
    rw [literalsLate_mark hk rfl, literalsLate_append, literalsLate_mark ho rfl, hm.literals,
      ofLiterals_append, ← ht.literals, ofLiterals_literalsLate]
    exact List.perm_append_comm
  | traitImpl hk hn hw ht ho hm =>
    rw [literalsLate_mark hk rfl, literalsLate_append, hn.literals, literalsLate_mark hw rfl,
      literalsLate_append, literalsLate_mark ho rfl, hm.literals, ofLiterals_append, ← ht.literals,
      ofLiterals_literalsLate]
    exact List.perm_append_comm
  | function hf => rw [hf.literals]

/-- **The faults of literals in a text** are those of its tokens. -/
theorem IsItems.literals {items : List Item} {late : List LateFault} (h : IsItems ts items late) :
    (ofLiterals late).Perm (literalsLate ts) := by
  induction h with
  | nil => rfl
  | cons hi _ ih =>
    rw [literalsLate_append, ofLiterals_append]
    exact hi.literals.append ih

/-! ### What a text is answered with -/

/-- The text follows the grammar, and `fault` is the first thing that is wrong with it all the same. -/
def FirstFault (source : String) (fault : LateFault) : Prop :=
  ∃ ts q items late, Lexes {} source.toList ts q [] ∧ IsItems ts items (fault :: late)

variable {file : Option String} {source : String} {fault : LateFault}

/-- A text is refused for a fault exactly if this is the first thing wrong with it. -/
theorem parse_eq_late_iff : parse source = .error (.late fault) ↔ FirstFault source fault := by
  constructor
  · intro h
    unfold parse ofLexed at h
    split at h
    · -- a text that cannot be read to its end is not faulted for its literals
      have hother := Except.error.inj h
      unfold ParseError.ofHopeless at hother
      split at hother <;> cases hother
    · cases h
    · next items late hitems hstuck =>
      split at h
      · obtain rfl := ParseError.late.inj (Except.error.inj h)
        obtain ⟨q, hlexes⟩ := lexes_of_lex hstuck
        exact ⟨_, q, items, _, hlexes, readItems_sound _ hitems⟩
      · cases h
  -- what the grammar allows is read, with all its faults, and the first one is reported
  · rintro ⟨ts, q, items, late, hlexes, hitems⟩
    rw [parse, lex_iff.mpr ⟨q, hlexes⟩, ofLexed, readItems_complete hitems]
    rfl

/-- **A text ends the reading** exactly if the first thing wrong with it is a literal. -/
theorem parseFile_eq_error_iff :
    parseFile file source = .error fault ↔ FirstFault source fault ∧ fault.isLiteral = true := by
  rw [← parse_eq_late_iff, parseFile]
  constructor
  · intro h
    split at h
    · cases h
    · next e he =>
      cases e with
      | late f =>
        cases f with
        | badEscape | longNumber =>
          -- these faults are raised while literals are read, and nothing catches them
          obtain rfl := Except.error.inj h
          exact ⟨he, rfl⟩
        | receiverOutsideMethod | receiverNotFirst => cases h
      | unexpectedToken | unexpectedEnd | unexpectedChar => cases h
  · rintro ⟨h, hliteral⟩
    rw [h]
    cases fault with
    | badEscape | longNumber => rfl
    | receiverOutsideMethod | receiverNotFirst => exact absurd hliteral Bool.false_ne_true

/-- What stands for a program that is not there is an error of the parser. -/
theorem report_eq_ok {e : ParseError} {d : Diagnostic} (h : e.report file = .ok d) :
    d.phase = some "parser" ∧ d.severity = "error" := by
  -- every report has this form, if there is one
  have hone (message : String) (span : Span)
      (h : (pure (.error "parser" message span) : Except LateFault Diagnostic) = .ok d) :
      d.phase = some "parser" ∧ d.severity = "error" := by
    rw [← pure_eq_ok.mp h]
    exact ⟨rfl, rfl⟩
  cases e with
  | late fault =>
    cases fault with
    | receiverOutsideMethod | receiverNotFirst => exact hone _ _ h
    | badEscape | longNumber => cases h
  | unexpectedToken | unexpectedEnd | unexpectedChar => exact hone _ _ h

/-- An answer is the program that the text is read as, or else an error of the parser. -/
theorem parseFile_eq_ok {answer : Except Diagnostic Program}
    (h : parseFile file source = .ok answer) :
    (∃ p, parse source = .ok p ∧ answer = .ok p) ∨
      ∃ d, answer = .error d ∧ d.phase = some "parser" ∧ d.severity = "error" := by
  unfold parseFile at h
  split at h
  · next p hp => exact .inl ⟨p, hp, (pure_eq_ok.mp h).symm⟩
  · obtain ⟨d, hd, h⟩ := bind_eq_ok.mp h
    exact .inr ⟨d, (pure_eq_ok.mp h).symm, report_eq_ok hd⟩

/-- **Every text is answered** with a program, or with one error of the parser in its place, unless
the first thing that is wrong with it is a literal: then the reading ends with the fault of one of its
tokens. -/
theorem parseFile_answers (file : Option String) (source : String) :
    ((∃ p, parseFile file source = .ok (.ok p) ∧ p.source = source) ∨
        (∃ d, parseFile file source = .ok (.error d) ∧ d.phase = some "parser" ∧
          d.severity = "error") ↔
      ∀ fault, FirstFault source fault → fault.isLiteral = false) ∧
    (∀ fault, parseFile file source = .error fault ↔
      FirstFault source fault ∧ fault.isLiteral = true) ∧
    ∀ fault, FirstFault source fault → fault.isLiteral = true →
      fault ∈ literalsLate (lex source).tokens := by
  refine ⟨⟨?_, fun h => ?_⟩, fun fault => parseFile_eq_error_iff, ?_⟩
  · intro h fault hfirst
    refine Bool.eq_false_iff.mpr fun hliteral => ?_
    -- a fault of a literal that comes first would end the reading
    have herror : parseFile file source = .error fault := parseFile_eq_error_iff.mpr ⟨hfirst, hliteral⟩
    rcases h with ⟨p, hp, -⟩ | ⟨d, hd, -⟩
    · cases herror.symm.trans hp
    · cases herror.symm.trans hd
  -- where no literal comes first, the text is answered in one way or the other
  · cases hanswer : parseFile file source with
    | error fault =>
      obtain ⟨hfirst, hliteral⟩ := parseFile_eq_error_iff.mp hanswer
      exact absurd ((h fault hfirst).symm.trans hliteral) Bool.false_ne_true
    | ok answer =>
      rcases parseFile_eq_ok hanswer with ⟨p, hp, rfl⟩ | ⟨d, rfl, hd⟩
      · obtain ⟨-, items, -, rfl⟩ := parse_sound hp
        exact .inl ⟨_, rfl, rfl⟩
      · exact .inr ⟨d, rfl, hd⟩
  · rintro fault ⟨ts, q, items, late, hlexes, hitems⟩ hliteral
    have hmem : fault ∈ ofLiterals (fault :: late) :=
      List.mem_filter.mpr ⟨List.mem_cons_self, hliteral⟩
    rw [lex_iff.mpr ⟨q, hlexes⟩]
    exact hitems.literals.subset hmem

/-- A function with a string whose escape lacks its digits. -/
def truncatedEscape : String := "fn f() \x7b \"\\x\"; \x7d"

/-- **A wrong escape is not reported**: there is neither a program nor a diagnostic. -/
theorem truncatedEscape_unanswered : ∃ fault, parseFile none truncatedEscape = .error fault ∧
    ¬ ((∃ p, parseFile none truncatedEscape = .ok (.ok p) ∧ p.source = truncatedEscape) ∨
      ∃ d, parseFile none truncatedEscape = .ok (.error d) ∧ d.phase = some "parser" ∧
        d.severity = "error") := by
  have hnone : (parseFile none truncatedEscape).toOption.isNone = true := by decide +kernel
  obtain ⟨hanswers, hends, -⟩ := parseFile_answers none truncatedEscape
  cases hparse : parseFile none truncatedEscape with
  | ok answer =>
    rw [hparse] at hnone
    exact absurd hnone Bool.false_ne_true
  | error fault =>
    obtain ⟨hfirst, hliteral⟩ := (hends fault).mp hparse
    refine ⟨fault, rfl, fun h => ?_⟩
    exact absurd ((hanswers.mp (hparse ▸ h) fault hfirst).symm.trans hliteral) Bool.false_ne_true

end ClosureLint.Syntax
