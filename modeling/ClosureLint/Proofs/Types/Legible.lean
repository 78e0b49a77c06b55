import ClosureLint.Proofs.Grammar.Sound.Types
import ClosureLint.Proofs.Types.Names
import ClosureLint.Proofs.Types.Regular

/-!
# Types that written types mean

A type that was resolved without a diagnostic is more than regular: its structs are declared under
paths that can be written, its arrays have lengths that can be written, nothing in it is unknown, and
`Self` stays a parameter only where that is what it means.

* `Written` — a written type, as it stands in some text.
* `SelfMeaning` — what `Self` may mean.
* `Legible` — the types that result.
* `IsType.legible` — what is resolved without a diagnostic is of that kind.
-/

namespace ClosureLint

open ClosureLint.Syntax

variable {paths : List Path} {self : Option Ty} {s : TypeScope} {t : Ty}

/-- A written type: tokens of some text form it, and its literals have values. -/
def Syntax.TypeExpr.Written (e : TypeExpr) : Prop :=
  ∃ (source : String) (before ts behind : List Token) (q : Pos),
    Lexes {} source.toList (before ++ (ts ++ behind)) q [] ∧ IsType ts e []

/-- The struct names of declared paths. -/
def namesOf (paths : List Path) : StructNames := .ofList (paths.map Path.text)

/-- What `Self` may mean: nothing, the parameter of a trait, or a type that was resolved where it
means nothing. -/
inductive SelfMeaning (paths : List Path) : Option Ty → Prop
  | absent : SelfMeaning paths none
  | parameter : SelfMeaning paths (some .selfParam)
  | type {file : Option String} {e : TypeExpr} {t : Ty} : TypeExpr.Written e →
    resolveType ⟨namesOf paths, file, none⟩ e = (t, []) → SelfMeaning paths (some t)

/-- The path is neither `Self` nor a built-in type. -/
def Plain (p : Path) : Prop := ∀ name, p = [name] → name ≠ "Self" ∧ Ty.primitive? name = none

/-- The number can be written with `k` digits. -/
def FitsDigits (k n : Nat) : Prop := n < Nat.pow 10 k

theorem FitsDigits.mono {k m n : Nat} (h : FitsDigits k n) (hk : k ≤ m) : FitsDigits m n :=
  Nat.lt_of_lt_of_le h (Nat.pow_le_pow_right (by decide) hk)

/-- The types that mean something where the structs `paths` are declared, and `Self` means `self`. -/
inductive Legible (paths : List Path) (self : Option Ty) : Ty → Prop where
  | primitive {name : String} {t : Ty} : Ty.primitive? name = some t → Legible paths self t
  | selfParam : self = some .selfParam → Legible paths self .selfParam
  | ref {inner : Ty} {isMut : Bool} : Legible paths self inner → Legible paths self (.ref inner isMut)
  | array {elem : Ty} {n : Nat} : Legible paths self elem → FitsDigits maxDigits n →
    Legible paths self (.array elem (some n))
  | slice {elem : Ty} : Legible paths self elem → Legible paths self (.slice elem)
  | nominal {p : Path} {args : List Ty} : p ∈ paths → (args = [] → Plain p) →
    (∀ a ∈ args, Legible paths self a) → Legible paths self (.nominal p.text args)
  | function {params : List Ty} {ret : Ty} {isUnsafe : Bool} :
    (∀ p ∈ params, Legible paths self p) → Legible paths self ret →
    Legible paths self (.function params ret isUnsafe)
  | tuple {elems : List Ty} : (∀ e ∈ elems, Legible paths self e) → Legible paths self (.tuple elems)

theorem Legible.unit : Legible paths self .unit :=
  show Legible paths self (.tuple []) from .tuple fun _ he => absurd he List.not_mem_nil

/-- What means something without a `Self` does so with one. -/
theorem Legible.anySelf (h : Legible paths none t) : Legible paths self t := by
  induction h with
  | primitive hp => exact .primitive hp
  | selfParam h => cases h
  | ref _ ih => exact .ref ih
  | array _ hn ih => exact .array ih hn
  | slice _ ih => exact .slice ih
  | nominal hp hplain _ ih => exact .nominal hp hplain ih
  | function _ _ ihs ih => exact .function ihs ih
  | tuple _ ih => exact .tuple ih

/-! ### Lengths of arrays -/

/-- Digits denote a number with no more digits. -/
theorem numberOf_fits {ds : List Nat} (h : ∀ d ∈ ds, d < 10) :
    FitsDigits ds.length (Text.numberOf 10 ds) := by
  -- `n` is what the digits in front denote
  have hfold : ∀ (ds : List Nat) (n : Nat), (∀ d ∈ ds, d < 10) →
      ds.foldl (fun n d => n * 10 + d) n < (n + 1) * Nat.pow 10 ds.length := by
    intro ds
    induction ds with
    | nil => intro n _; exact Nat.lt_of_lt_of_eq (Nat.lt_succ_self n) (Nat.mul_one _).symm
    | cons d ds ih =>
      intro n h
      obtain ⟨hd, hds⟩ := List.forall_mem_cons.mp h
      have hrest := ih (n * 10 + d) hds
      calc ds.foldl (fun n d => n * 10 + d) (n * 10 + d)
          < (n * 10 + d + 1) * Nat.pow 10 ds.length := hrest
        _ ≤ ((n + 1) * 10) * Nat.pow 10 ds.length := Nat.mul_le_mul_right _ (by omega)
        _ = (n + 1) * (Nat.pow 10 ds.length * 10) := by rw [Nat.mul_assoc, Nat.mul_comm 10]
  have hall := hfold ds 0 h
  rwa [Nat.zero_add, Nat.one_mul] at hall

/-- The tokens of a text spell their numbers with digits. -/
theorem Lexes.isDecimal {p q : Pos} {cs rest : List Char} {ts : List Token}
    (h : Lexes p cs ts q rest) :
    ∀ t ∈ ts, t.kind = .int → ∀ c ∈ t.text.toList, isDecimal c = true := by
  induction h with
  | done => exact fun t ht => absurd ht List.not_mem_nil
  | gap _ _ ih => exact ih
  | @token _ _ text _ _ _ _ hm _ ih =>
    refine List.forall_mem_cons.mpr ⟨fun hk => ?_, ih⟩
    obtain rfl : _ = TokenKind.int := hk
    rw [String.toList_ofList]
    generalize hkind : some TokenKind.int = kind at hm
    -- by the rules of the lexer, of which one gives numbers
    cases hm with
    | gap | comment | string | arrow | doubleColon => cases hkind
    | int hc hcs => exact List.forall_mem_cons.mpr ⟨hc, hcs⟩
    | word =>
      have hapart : ∀ k ∈ TokenKind.name :: TokenKind.keywords.map Prod.snd, k ≠ .int := by decide
      exact absurd (Option.some.inj hkind).symm (hapart _ (ofWord_kinds _))
    | @mark c _ _ hk =>
      obtain rfl := Option.some.inj hkind
      have hall : ∀ c ∈ marks, TokenKind.ofMark? c ≠ some .int := forall_mem_of_all (by decide)
      exact absurd hk (hall c (ofMark?_mem hk))

theorem digit_lt {c : Char} (h : isDecimal c = true) : c.toNat - '0'.toNat < 10 := by
  have hle (a b : Char) : a ≤ b ↔ a.toNat ≤ b.toNat := by
    rw [Char.le_def, UInt32.le_iff_toNat_le]
    rfl
  simp only [isDecimal, Bool.and_eq_true, decide_eq_true_eq, hle, Char.reduceToNat] at h ⊢
  omega

/-- A number whose digits are not too many is one that can be written. -/
theorem intValue_fits {t : Token} (h : ∀ c ∈ t.text.toList, isDecimal c = true)
    (hlate : intLate t = []) :
    ∃ n : Nat, intValue t = n ∧ FitsDigits maxDigits n := by
  refine ⟨_, rfl, ?_⟩
  have hlength : t.text.toList.length ≤ maxDigits := by
    refine Nat.le_of_not_lt fun hlong => ?_
    rw [intLate, if_pos hlong] at hlate
    exact absurd hlate (List.cons_ne_nil _ _)
  refine (numberOf_fits fun d hd => ?_).mono (by rwa [List.length_map])
  obtain ⟨c, hc, rfl⟩ := List.mem_map.mp hd
  exact digit_lt (h c hc)

/-! ### Names -/

/-- A name without arguments that is looked up among the structs is neither `Self` nor built in. -/
theorem plain_of_builtIn {p : Path} (h : s.builtIn p false = .none) : Plain p := by
  rintro name rfl
  unfold TypeScope.builtIn at h
  dsimp only at h
  split at h
  · split at h <;> cases h
  · next hself =>
    split at h
    · cases h
    · next hnone => exact ⟨hself, hnone⟩

theorem builtIn_of_plain {p : Path} (h : Plain p) : s.builtIn p false = .none := by
  unfold TypeScope.builtIn
  split
  · next name _ =>
    obtain ⟨hself, hnone⟩ := h name rfl
    rw [if_neg hself, hnone]
  · rfl

/-- **A struct that a use without arguments finds** is no built-in type either. -/
theorem plain_of_find? (hpaths : ∀ p ∈ paths, p.Written) {written p : Path} (hw : written.Written)
    (hfound : (namesOf paths).find? written = some p.text) (hp : p ∈ paths) (h : Plain written) :
    Plain p := by
  rintro name rfl
  have hname : IsName name := (hpaths _ hp).2 name List.mem_cons_self
  rw [Path.text_singleton] at hfound
  obtain ⟨-, htext | hlast⟩ := StructNames.find?_ofList hfound
  · -- found by its full path
    refine h name (Path.text_inj hw (hpaths _ hp) ?_)
    rw [htext, Path.text_singleton]
  · -- found by its last segment
    refine h name ?_
    rw [hlast, lastSegment_of_isName hname]

/-! ### Resolving -/

/-- What is known of the structs, of `Self`, and of the tokens. -/
structure LegibleScope (paths : List Path) (s : TypeScope) : Prop where
  written : ∀ p ∈ paths, p.Written
  names : s.names = namesOf paths
  selfType : ∀ t, s.selfType = some t → Legible paths s.selfType t

/-- Names are names, and numbers are spelled with digits. -/
structure LexedTokens (ts : List Token) : Prop where
  names : ∀ t ∈ ts, t.kind = .name → IsName t.text
  numbers : ∀ t ∈ ts, t.kind = .int → ∀ c ∈ t.text.toList, isDecimal c = true

theorem LexedTokens.mono {ts us : List Token} (h : LexedTokens ts) (hsub : ∀ t ∈ us, t ∈ ts) :
    LexedTokens us :=
  ⟨fun t ht => h.names t (hsub t ht), fun t ht => h.numbers t (hsub t ht)⟩

theorem resolveTypes_cons (e : TypeExpr) (es : List TypeExpr) :
    resolveTypes s (e :: es) = ((resolveType s e).1 :: (resolveTypes s es).1,
      (resolveType s e).2 ++ (resolveTypes s es).2) := by
  rw [resolveTypes]

/-- **A path with arguments or without** that is resolved silently. -/
theorem LegibleScope.named (hs : LegibleScope paths s) {l : Loc} {p : Path} {args : List TypeExpr}
    (hp : p.Written)
    (hargs : (resolveTypes s args).2 = [] → ∀ a ∈ (resolveTypes s args).1, Legible paths s.selfType a)
    (h : (resolveType s (.named l p args)).2 = []) :
    Legible paths s.selfType (resolveType s (.named l p args)).1 := by
  rw [resolveType] at h ⊢
  -- built-in types come first, then the declared structs
  cases hbuiltIn : s.builtIn p (!args.isEmpty) with
  | type t =>
    rcases builtIn_eq_type hbuiltIn with hself | ⟨name, hname⟩
    · exact hs.selfType t hself
    · exact .primitive hname
  | selfMissing =>
    rw [hbuiltIn] at h
    cases h
  | none =>
    rw [hbuiltIn] at h
    dsimp only at h ⊢
    cases hfound : s.names.find? p with
    | none =>
      rw [hfound] at h
      cases h
    | some full =>
      rw [hfound] at h
      rw [hs.names] at hfound
      obtain ⟨hmem, -⟩ := StructNames.find?_ofList hfound
      obtain ⟨declared, hdeclared, rfl⟩ := List.mem_map.mp hmem
      refine .nominal hdeclared (fun hnil => ?_) (hargs h)
      -- no types result from the arguments only where there are none
      have hempty : args = [] := by
        cases args with
        | nil => rfl
        | cons e es =>
          rw [resolveTypes_cons] at hnil
          cases hnil
      subst hempty
      exact plain_of_find? hs.written hp hfound hdeclared (plain_of_builtIn hbuiltIn)

namespace Syntax

mutual

/-- **What a written type means** is legible, unless resolving it was reported. -/
theorem IsType.legible (hs : LegibleScope paths s) {ts : List Token} {e : TypeExpr}
    {late : List LateFault} (h : IsType ts e late) (hl : late = []) (hts : LexedTokens ts)
    (hsilent : (resolveType s e).2 = []) : Legible paths s.selfType (resolveType s e).1 := by
  -- by the form of the type, along with its parts
  match h with
  | .ref _ _ ht =>
    rw [resolveType] at hsilent ⊢
    exact .ref (ht.legible hs hl (hts.mono fun t ht =>
      List.mem_cons_of_mem _ (List.mem_append_right _ ht)) hsilent)
  | @IsType.array op semicolon n cl ts _ _ _ ht _ hn _ =>
    obtain ⟨hl, hint⟩ := List.append_eq_nil_iff.mp hl
    rw [resolveType] at hsilent ⊢
    have helem := ht.legible hs hl (hts.mono fun t ht =>
      List.mem_cons_of_mem _ (List.mem_append_left _ ht)) hsilent
    -- the length is what one of the tokens spells
    have hmem : n ∈ op :: (ts ++ [semicolon, n, cl]) :=
      List.mem_cons_of_mem _ (List.mem_append_right _ (List.mem_cons_of_mem _ List.mem_cons_self))
    obtain ⟨k, hk, hlt⟩ := intValue_fits (hts.numbers n hmem hn) hint
    rw [hk]
    exact .array helem hlt
  | .slice _ ht _ =>
    rw [resolveType] at hsilent ⊢
    exact .slice (ht.legible hs hl (hts.mono fun t ht =>
      List.mem_cons_of_mem _ (List.mem_append_left _ ht)) hsilent)
  | .unit _ _ => exact .unit
  | .tuple _ ht _ hts' =>
    obtain ⟨hl, hl'⟩ := List.append_eq_nil_iff.mp hl
    rw [resolveType, resolveTypes_cons] at hsilent ⊢
    obtain ⟨hfirst, hothers⟩ := List.append_eq_nil_iff.mp hsilent
    refine .tuple (List.forall_mem_cons.mpr ⟨?_, ?_⟩)
    · exact ht.legible hs hl (hts.mono fun t ht =>
        List.mem_cons_of_mem _ (List.mem_append_left _ ht)) hfirst
    · exact hts'.legible hs hl' (hts.mono fun t ht =>
        List.mem_cons_of_mem _ (List.mem_append_right _ (List.mem_cons_of_mem _ ht))) hothers
  | .paren _ ht _ =>
    exact ht.legible hs hl (hts.mono fun t ht =>
      List.mem_cons_of_mem _ (List.mem_append_left _ ht)) hsilent
  | .unsafeFnPtr _ _ hsig =>
    exact hsig.legible hs hl (hts.mono fun t ht =>
      List.mem_cons_of_mem _ (List.mem_cons_of_mem _ ht)) hsilent
  | .fnPtr _ hsig =>
    exact hsig.legible hs hl (hts.mono fun t ht => List.mem_cons_of_mem _ ht) hsilent
  | .named hp =>
    refine hs.named (hp.written hts.names) (fun _ => ?_) hsilent
    exact fun a ha => absurd ha List.not_mem_nil
  | .generic hp _ ha =>
    refine hs.named (hp.written fun t ht => hts.names t (List.mem_append_left _ ht)) ?_ hsilent
    exact ha.legible hs hl (hts.mono fun t ht =>
      List.mem_append_right _ (List.mem_cons_of_mem _ ht))

theorem IsSignature.legible (hs : LegibleScope paths s) {ts : List Token} {params : List TypeExpr}
    {ret : Option TypeExpr} {late : List LateFault} (h : IsSignature ts params ret late)
    (hl : late = []) (hts : LexedTokens ts) {l : Loc} {isUnsafe : Bool}
    (hsilent : (resolveType s (.fnPtr l isUnsafe params ret)).2 = []) :
    Legible paths s.selfType (resolveType s (.fnPtr l isUnsafe params ret)).1 := by
  rw [resolveType] at hsilent ⊢
  match h with
  | .unit _ hps =>
    exact .function (hps.legible hs hl (hts.mono fun t ht => List.mem_cons_of_mem _ ht) hsilent) .unit
  | .ret _ hps _ hr =>
    obtain ⟨hl, hl'⟩ := List.append_eq_nil_iff.mp hl
    obtain ⟨hparams, hret⟩ := List.append_eq_nil_iff.mp hsilent
    refine .function ?_ ?_
    · exact hps.legible hs hl (hts.mono fun t ht =>
        List.mem_cons_of_mem _ (List.mem_append_left _ ht)) hparams
    · exact hr.legible hs hl' (hts.mono fun t ht =>
        List.mem_cons_of_mem _ (List.mem_append_right _ (List.mem_cons_of_mem _ ht))) hret

theorem IsTypesClosing.legible (hs : LegibleScope paths s) {ts : List Token}
    {types : List TypeExpr} {late : List LateFault} (h : IsTypesClosing ts types late)
    (hl : late = []) (hts : LexedTokens ts) (hsilent : (resolveTypes s types).2 = []) :
    ∀ t ∈ (resolveTypes s types).1, Legible paths s.selfType t := by
  match h with
  | .nil _ => exact fun a ha => absurd ha List.not_mem_nil
  | .last ht _ =>
    rw [resolveTypes_cons] at hsilent ⊢
    refine List.forall_mem_singleton.mpr ?_
    exact ht.legible hs hl (hts.mono fun t ht => List.mem_append_left _ ht)
      (List.append_eq_nil_iff.mp hsilent).1
  | .cons ht _ hts' =>
    obtain ⟨hl, hl'⟩ := List.append_eq_nil_iff.mp hl
    rw [resolveTypes_cons] at hsilent ⊢
    obtain ⟨hfirst, hothers⟩ := List.append_eq_nil_iff.mp hsilent
    refine List.forall_mem_cons.mpr ⟨?_, ?_⟩
    · exact ht.legible hs hl (hts.mono fun t ht => List.mem_append_left _ ht) hfirst
    · exact hts'.legible hs hl' (hts.mono fun t ht =>
        List.mem_append_right _ (List.mem_cons_of_mem _ ht)) hothers

theorem IsTypeArgs.legible (hs : LegibleScope paths s) {ts : List Token} {types : List TypeExpr}
    {late : List LateFault} (h : IsTypeArgs ts types late) (hl : late = []) (hts : LexedTokens ts)
    (hsilent : (resolveTypes s types).2 = []) :
    ∀ t ∈ (resolveTypes s types).1, Legible paths s.selfType t := by
  match h with
  | .last ht _ =>
    rw [resolveTypes_cons] at hsilent ⊢
    refine List.forall_mem_singleton.mpr ?_
    exact ht.legible hs hl (hts.mono fun t ht => List.mem_append_left _ ht)
      (List.append_eq_nil_iff.mp hsilent).1
  | .cons ht _ hts' =>
    obtain ⟨hl, hl'⟩ := List.append_eq_nil_iff.mp hl
    rw [resolveTypes_cons] at hsilent ⊢
    obtain ⟨hfirst, hothers⟩ := List.append_eq_nil_iff.mp hsilent
    refine List.forall_mem_cons.mpr ⟨?_, ?_⟩
    · exact ht.legible hs hl (hts.mono fun t ht => List.mem_append_left _ ht) hfirst
    · exact hts'.legible hs hl' (hts.mono fun t ht =>
        List.mem_append_right _ (List.mem_cons_of_mem _ ht)) hothers

end

/-- **A written type that is resolved silently** is legible. -/
theorem TypeExpr.Written.legible {e : TypeExpr} (he : TypeExpr.Written e)
    (hs : LegibleScope paths s) (h : resolveType s e = (t, [])) : Legible paths s.selfType t := by
  obtain ⟨source, before, ts, behind, q, hlexes, htype⟩ := he
  have htokens : LexedTokens ts :=
    LexedTokens.mono ⟨hlexes.isName, hlexes.isDecimal⟩ fun t ht =>
      List.mem_append_right _ (List.mem_append_left _ ht)
  have hlegible := htype.legible hs rfl htokens (by rw [h])
  rwa [h] at hlegible

end Syntax

/-- What `Self` may mean is legible too. -/
theorem SelfMeaning.scope (hself : SelfMeaning paths self) (hpaths : ∀ p ∈ paths, p.Written)
    (file : Option String) : LegibleScope paths ⟨namesOf paths, file, self⟩ := by
  refine ⟨hpaths, rfl, ?_⟩
  rintro t rfl
  cases hself with
  | parameter => exact .selfParam rfl
  | @type file' e _ he h =>
    have hscope : LegibleScope paths ⟨namesOf paths, file', none⟩ :=
      ⟨hpaths, rfl, fun _ hnone => by cases hnone⟩
    exact (he.legible hscope h).anySelf

end ClosureLint
