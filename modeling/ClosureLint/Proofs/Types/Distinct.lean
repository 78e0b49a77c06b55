import ClosureLint.Proofs.Types.Meant
import ClosureLint.Proofs.Types.RoundTrip
import Mathlib.Data.Set.Finite.Lattice

/-!
# Types with the same text

The text of a type with unknown parts cannot be read back, as no written type means the unknown one.
But if the unknown parts are taken for a struct under a name that is not in use, then it can, and that
name stands in the text just where the unknown type did. So no two types that written types mean have
the same text.

* `Ty.exchange` — one type in place of another, at every depth.
* `spareName`, `spareText` — a name that is not in use, and a text with it for the unknown type.
* `Meant.text_spared` — the text of a type decides that of the type with the struct in it.
* `Meant.text_inj` — no two of these types have the same text.
-/

namespace ClosureLint

open ClosureLint.Syntax
open ClosureLint.Ty (commaSeparated)

variable {paths : List Path} {s : TypeScope} {t u a b : Ty} {text : String}

/-! ### One type in place of another -/

namespace Ty

mutual

/-- The type with `b` in place of `a`, at every depth. -/
def exchange : (t a b : Ty) → Ty
  | ⟨k, name, ps, isMut, length, isUnsafe⟩, a, b =>
    if ⟨k, name, ps, isMut, length, isUnsafe⟩ = a then b
    else ⟨k, name, exchangeAll ps a b, isMut, length, isUnsafe⟩

/-- Several types with `b` in place of `a`. -/
def exchangeAll : (ts : List Ty) → (a b : Ty) → List Ty
  | [], _, _ => []
  | t :: ts, a, b => exchange t a b :: exchangeAll ts a b

end

/-- The exchange in several types is made in each of them. -/
theorem exchangeAll_eq_map (ts : List Ty) (a b : Ty) :
    exchangeAll ts a b = ts.map fun t => t.exchange a b := by
  induction ts with
  | nil => rfl
  | cons t ts ih => rw [exchangeAll, ih, List.map_cons]

/-- The type itself is exchanged. -/
theorem exchange_self (a b : Ty) : a.exchange a b = b := by
  obtain ⟨k, name, ps, isMut, length, isUnsafe⟩ := a
  rw [exchange, if_pos rfl]

/-- In any other type the exchange is made in its parts. -/
theorem exchange_of_ne (h : t ≠ a) :
    t.exchange a b = { t with params := t.params.map fun p => p.exchange a b } := by
  obtain ⟨k, name, ps, isMut, length, isUnsafe⟩ := t
  rw [exchange, if_neg h, exchangeAll_eq_map]

/-- Types of different kinds are different. -/
theorem ne_of_kind (h : t.kind ≠ a.kind) : t ≠ a := fun he => h (congrArg kind he)

/-- A type is found again if what is put in does not stand in it. -/
theorem exchange_back (hb : ∀ ps, { t with params := ps } ≠ b)
    (ih : ∀ p ∈ t.params, (p.exchange a b).exchange b a = p) : (t.exchange a b).exchange b a = t := by
  by_cases ha : t = a
  · rw [ha, exchange_self, exchange_self]
  · rw [exchange_of_ne ha, exchange_of_ne (hb _)]
    obtain ⟨k, name, ps, isMut, length, isUnsafe⟩ := t
    have hps : (ps.map fun p => p.exchange a b).map (fun p => p.exchange b a) = ps := by
      rw [List.map_map]
      exact (List.map_congr_left ih).trans (List.map_id _)
    exact congrArg (fun ps => Ty.mk k name ps isMut length isUnsafe) hps

end Ty

/-! ### A name that is not in use -/

/-- Names as long as one likes. -/
def spareName (k : Nat) : String :=
  String.ofList (['u', 'n', 'k', 'n', 'o', 'w', 'n'] ++ List.replicate k 'x')

/-- The spare names have different lengths. -/
theorem spareName_length (k : Nat) : (spareName k).toList.length = 7 + k := by
  rw [spareName, String.toList_ofList, List.length_append, List.length_replicate]
  rfl

/-- A short name is none of them. -/
theorem spareName_ne {k : Nat} {name : String} (h : name.toList.length < 7) : spareName k ≠ name := by
  intro he
  have hlength := spareName_length k
  rw [he] at hlength
  omega

/-- Every one of them can be written as a name. -/
theorem isName_spareName (k : Nat) : IsName (spareName k) := by
  refine ⟨'u', ['n', 'k', 'n', 'o', 'w', 'n'] ++ List.replicate k 'x', rfl, by decide,
    fun d hd => ?_, ?_⟩
  · have hparts : ∀ d ∈ ['n', 'k', 'n', 'o', 'w', 'n'], isWordPart d = true :=
      forall_mem_of_all (by decide)
    rcases List.mem_append.mp hd with hd | hd
    · exact hparts d hd
    · rw [List.eq_of_mem_replicate hd]
      decide
  · -- it is longer than any keyword
    have hkeywords : ∀ w ∈ TokenKind.keywords, w.1.toList.length < 7 := by decide
    have hnone : TokenKind.keywords.lookup (spareName k) = none := by
      rw [List.lookup_eq_none_iff]
      exact fun w hw => bne_iff_ne.mpr (spareName_ne (hkeywords w hw))
    rw [TokenKind.ofWord, hnone]
    rfl

/-- None of them means a built-in type. -/
theorem plain_spareName (k : Nat) : Plain [spareName k] := by
  intro name hname
  obtain rfl := (List.cons.inj hname).1
  refine ⟨spareName_ne (by decide), ?_⟩
  have hbuiltIn : ∀ name ∈ builtInNames, name.toList.length < 7 := by decide
  cases h : Ty.primitive? (spareName k) with
  | none => rfl
  | some t => exact absurd rfl (spareName_ne (hbuiltIn _ (mem_builtInNames h)))

/-- One of them is in use nowhere. -/
theorem exists_spareName (paths : List Path) : ∃ k, [spareName k] ∉ paths := by
  have hinj : Function.Injective fun k => [spareName k] := by
    intro j k h
    have hlength := congrArg (fun s : String => s.toList.length) (List.cons.inj h).1
    simp only [spareName_length] at hlength
    omega
  -- there are infinitely many of these names, and only finitely many paths
  by_contra hall
  have hfinite : (Set.range fun k => [spareName k]).Finite :=
    paths.finite_toSet.subset (Set.range_subset_iff.mpr fun k => not_not.mp fun h => hall ⟨k, h⟩)
  exact Set.infinite_range_of_injective hinj hfinite

/-! ### The name in a text -/

/-- What a character of a text becomes: the braces around the unknown type make its name one that is
not in use. -/
def spareChar (k : Nat) (c : Char) : List Char :=
  if c = '{' then [] else if c = '}' then List.replicate k 'x' else [c]

/-- The text with the spare name for the unknown type. -/
def spareText (k : Nat) (text : String) : String :=
  String.ofList (text.toList.flatMap (spareChar k))

/-- No brace stands in the text. -/
def Unbraced (text : String) : Prop := ∀ c ∈ text.toList, c ≠ '{' ∧ c ≠ '}'

instance (text : String) : Decidable (Unbraced text) := List.decidableBAll _ _

section Texts

variable {k : Nat}

/-- A text without braces stays as it is. -/
theorem spareText_of_unbraced (text : String) (h : Unbraced text) : spareText k text = text := by
  have hchars : ∀ cs : List Char, (∀ c ∈ cs, c ≠ '{' ∧ c ≠ '}') → cs.flatMap (spareChar k) = cs := by
    intro cs hcs
    induction cs with
    | nil => rfl
    | cons c cs ih =>
      obtain ⟨⟨hopen, hclose⟩, hcs⟩ := List.forall_mem_cons.mp hcs
      rw [List.flatMap_cons, ih hcs, spareChar, if_neg hopen, if_neg hclose]
      rfl
  rw [spareText, hchars _ h, String.ofList_toList]

/-- The text of the unknown type becomes the spare name. -/
theorem spareText_unknown : spareText k "\x7bunknown\x7d" = spareName k := by
  have hchars : "\x7bunknown\x7d".toList = ['{', 'u', 'n', 'k', 'n', 'o', 'w', 'n', '}'] := by
    decide
  rw [spareText, hchars, spareName]
  simp [spareChar]

/-- Texts change one behind the other. -/
theorem spareText_append (text other : String) :
    spareText k (text ++ other) = spareText k text ++ spareText k other := by
  rw [spareText, String.toList_append, List.flatMap_append, String.ofList_append]
  rfl

/-- What has no braces stays as it is, in front of a text and behind it. -/
theorem spareText_around {pre post : String} (hpre : Unbraced pre) (text : String)
    (hpost : Unbraced post) : spareText k (pre ++ text ++ post) = pre ++ spareText k text ++ post := by
  rw [spareText_append, spareText_append, spareText_of_unbraced _ hpre, spareText_of_unbraced _ hpost]

/-- So do texts with commas between them. -/
theorem spareText_commaSeparated (texts : List String) :
    spareText k (commaSeparated texts) = commaSeparated (texts.map (spareText k)) := by
  induction texts with
  | nil => rfl
  | cons text texts ih =>
    by_cases hnil : texts = []
    · rw [hnil, List.map_singleton, commaSeparated_singleton, commaSeparated_singleton]
    · have hne : texts.map (spareText k) ≠ [] := fun h => hnil (List.map_eq_nil_iff.mp h)
      -- in front of other texts stands a comma, which is no brace
      have hcons (text : String) {texts : List String} (h : texts ≠ []) :
          commaSeparated (text :: texts) = text ++ ", " ++ commaSeparated texts := by
        rw [← String.toList_inj, toList_commaSeparated_cons text h]
        simp
      rw [List.map_cons, hcons text hnil, hcons _ hne, spareText_append, spareText_append, ih,
        spareText_of_unbraced ", " (by decide)]

/-- There is no brace in a name. -/
theorem unbraced_of_isName {name : String} (h : IsName name) : Unbraced name := by
  obtain ⟨c, cs, rfl, hc, hcs, -⟩ := h
  rw [Unbraced, String.toList_ofList]
  have hpart (d : Char) (hd : isWordPart d = true) : d ≠ '{' ∧ d ≠ '}' := by
    refine ⟨?_, ?_⟩ <;> rintro rfl <;> exact absurd hd (by decide)
  refine List.forall_mem_cons.mpr ⟨hpart c ?_, fun d hd => hpart d (hcs d hd)⟩
  rw [isWordPart, hc, Bool.true_or]

/-- Nor is there one in a path. -/
theorem unbraced_of_path {p : Path} (h : ∀ s ∈ p, IsName s) : Unbraced p.text := by
  induction p with
  | nil => exact fun c hc => absurd hc List.not_mem_nil
  | cons name p ih =>
    obtain ⟨hname, hp⟩ := List.forall_mem_cons.mp h
    cases p with
    | nil => exact (Path.text_singleton name).symm ▸ unbraced_of_isName hname
    | cons other p =>
      rw [Unbraced, Path.toList_text_cons name (List.cons_ne_nil other p)]
      refine List.forall_mem_append.mpr ⟨unbraced_of_isName hname, ?_⟩
      exact List.forall_mem_cons.mpr ⟨by decide, List.forall_mem_cons.mpr ⟨by decide, ih hp⟩⟩

/-- Nor in a number. -/
theorem unbraced_repr (n : Nat) : Unbraced n.repr := by
  intro c hc
  rw [Nat.repr_eq_ofList_toDigits, String.toList_ofList] at hc
  have hdigit : isDecimal c = true :=
    isDecimal_of_isDigit (Nat.isDigit_of_mem_toDigits (by decide) (by decide) hc)
  refine ⟨?_, ?_⟩ <;> rintro rfl <;> exact absurd hdigit (by decide)

end Texts

/-! ### The unknown type as a struct -/

section Spare

variable {k : Nat}

/-- A struct that is declared nowhere. -/
def spareStruct (k : Nat) : Ty := .nominal (spareName k)

/-- The type with that struct for each unknown type in it. -/
def spared (k : Nat) (t : Ty) : Ty := t.exchange .unknown (spareStruct k)

/-- **No type is lost**, as long as the name is not in use. -/
theorem Meant.unspared (hpaths : ∀ p ∈ paths, p.Written) (hk : [spareName k] ∉ paths)
    (h : Meant paths t) : (spared k t).exchange (spareStruct k) .unknown = t := by
  have hback {t : Ty} (hkind : t.kind ≠ .nominal)
      (ih : ∀ p ∈ t.params, (spared k p).exchange (spareStruct k) .unknown = p) :
      (spared k t).exchange (spareStruct k) .unknown = t :=
    Ty.exchange_back (fun ps => Ty.ne_of_kind hkind) ih
  -- by induction on the type: only a struct could be the spare one, and its path would be in use
  induction h with
  | @primitive name t hp =>
    refine hback (Ty.primitive?_kind_ne hp (by decide)) ?_
    rw [(Ty.primitive?_eq_some hp).1]
    exact fun _ hq => absurd hq List.not_mem_nil
  | selfParam => exact hback nofun fun _ hq => absurd hq List.not_mem_nil
  | unknown => exact hback nofun fun _ hq => absurd hq List.not_mem_nil
  | ref _ ih => exact hback nofun (List.forall_mem_singleton.mpr ih)
  | array _ _ ih => exact hback nofun (List.forall_mem_singleton.mpr ih)
  | slice _ ih => exact hback nofun (List.forall_mem_singleton.mpr ih)
  | @nominal p args hp _ _ ih =>
    refine Ty.exchange_back (fun ps he => hk ?_) ih
    have hname : p.text = Path.text [spareName k] :=
      (congrArg Ty.name he).trans (Path.text_singleton _).symm
    have hspare : Path.Written [spareName k] :=
      ⟨List.cons_ne_nil _ _, List.forall_mem_singleton.mpr (isName_spareName k)⟩
    exact Path.text_inj (hpaths p hp) hspare hname ▸ hp
  | function _ _ ihs ih =>
    exact hback nofun (List.forall_mem_append.mpr ⟨ihs, List.forall_mem_singleton.mpr ih⟩)
  | tuple _ ih => exact hback nofun ih

/-- The unknown type becomes the struct. -/
theorem spared_unknown : spared k .unknown = spareStruct k := Ty.exchange_self _ _

/-- Any other type keeps its form. -/
theorem spared_of_kind (h : t.kind ≠ .unknown) :
    spared k t = { t with params := t.params.map (spared k) } :=
  Ty.exchange_of_ne (Ty.ne_of_kind h)

/-- A primitive type stays. -/
theorem spared_primitive {name : String} (h : Ty.primitive? name = some t) : spared k t = t := by
  rw [spared_of_kind (Ty.primitive?_kind_ne h (by decide)), (Ty.primitive?_eq_some h).1]
  rfl

/-- A reference to a type becomes one to what the type becomes. -/
theorem spared_ref (t : Ty) (isMut : Bool) : spared k (.ref t isMut) = .ref (spared k t) isMut :=
  spared_of_kind nofun

/-- An array of a type becomes one of what the type becomes. -/
theorem spared_array (t : Ty) (length : Option Int) :
    spared k (.array t length) = .array (spared k t) length := spared_of_kind nofun

/-- So does a slice. -/
theorem spared_slice (t : Ty) : spared k (.slice t) = .slice (spared k t) := spared_of_kind nofun

/-- A struct keeps its path. -/
theorem spared_nominal (path : String) (args : List Ty) :
    spared k (.nominal path args) = .nominal path (args.map (spared k)) := spared_of_kind nofun

/-- A tuple keeps its length. -/
theorem spared_tuple (elems : List Ty) : spared k (.tuple elems) = .tuple (elems.map (spared k)) :=
  spared_of_kind nofun

/-- A function type keeps what it is, and its parts change. -/
theorem spared_function (params : List Ty) (ret : Ty) (isUnsafe : Bool) :
    spared k (.function params ret isUnsafe)
      = .function (params.map (spared k)) (spared k ret) isUnsafe := by
  refine (spared_of_kind (t := .function params ret isUnsafe) nofun).trans ?_
  show Ty.mk .function "fn" ((params ++ [ret]).map (spared k)) false none isUnsafe = _
  rw [List.map_append, List.map_singleton]
  rfl

/-- **The struct is declared like any other**, next to the structs that there are. -/
theorem Meant.legible_spared (h : Meant paths t) :
    Legible ([spareName k] :: paths) (some .selfParam) (spared k t) := by
  have hall {ts : List Ty}
      (h : ∀ t ∈ ts, Legible ([spareName k] :: paths) (some .selfParam) (spared k t)) :
      ∀ t ∈ ts.map (spared k), Legible ([spareName k] :: paths) (some .selfParam) t :=
    List.forall_mem_map.mpr h
  -- by induction on the type: the struct is declared under its name, and the rest is legible as before
  induction h with
  | primitive hp => exact (spared_primitive hp).symm ▸ .primitive hp
  | selfParam => exact .selfParam rfl
  | unknown =>
    rw [spared_unknown, spareStruct, ← Path.text_singleton (spareName k)]
    exact .nominal List.mem_cons_self (fun _ => plain_spareName k)
      fun _ ha => absurd ha List.not_mem_nil
  | ref _ ih => exact spared_ref _ _ ▸ .ref ih
  | array _ hn ih => exact spared_array _ _ ▸ .array ih hn
  | slice _ ih => exact spared_slice _ ▸ .slice ih
  | nominal hp hplain _ ih =>
    exact spared_nominal _ _ ▸ .nominal (List.mem_cons_of_mem _ hp)
      (fun hnil => hplain (List.map_eq_nil_iff.mp hnil)) (hall ih)
  | function _ _ ihs ih => exact spared_function _ _ _ ▸ .function (hall ihs) ih
  | tuple _ ih => exact spared_tuple _ ▸ .tuple (hall ih)

/-- The type has a text, and the name stands in it where the unknown type stood. -/
def HasSparedText (k : Nat) (t : Ty) : Prop :=
  ∃ text, t.text = .ok text ∧ (spared k t).text = .ok (spareText k text)

/-- Types have their texts, and the changed types have the changed texts. -/
theorem textAll_spared {types : List Ty} (h : ∀ t ∈ types, HasSparedText k t) :
    ∃ texts, Ty.textAll types = .ok texts ∧
      Ty.textAll (types.map (spared k)) = .ok (texts.map (spareText k)) := by
  induction types with
  | nil => exact ⟨[], rfl, rfl⟩
  | cons t types ih =>
    obtain ⟨⟨text, htext, hspared⟩, hothers⟩ := List.forall_mem_cons.mp h
    obtain ⟨texts, htexts, hspareds⟩ := ih hothers
    refine ⟨text :: texts, ?_, ?_⟩
    · rw [Ty.textAll, htext, htexts]
      rfl
    · rw [List.map_cons, Ty.textAll, hspared, hspareds]
      rfl

/-- The result is left out on both sides or on neither. -/
theorem spareText_retText {ret : Ty} (hunit : spared k ret = .unit ↔ ret = .unit) :
    spareText k (retText ret text) = retText (spared k ret) (spareText k text) := by
  rw [retText, retText]
  by_cases h : ret = .unit
  · rw [if_pos h, if_pos (hunit.mpr h)]
    rfl
  · rw [if_neg h, if_neg (fun he => h (hunit.mp he)), spareText_append,
      spareText_of_unbraced " -> " (by decide)]

/-- The unit is no unknown type and has no such part, so only the unit becomes the unit. -/
theorem Meant.spared_eq_unit (hpaths : ∀ p ∈ paths, p.Written) (hk : [spareName k] ∉ paths)
    (h : Meant paths t) : spared k t = .unit ↔ t = .unit := by
  have hsame : spared k .unit = .unit := spared_tuple []
  refine ⟨fun hunit => ?_, fun hunit => hunit ▸ hsame⟩
  calc t = (spared k t).exchange (spareStruct k) .unknown := (h.unspared hpaths hk).symm
    _ = (spared k .unit).exchange (spareStruct k) .unknown := by rw [hunit, hsame]
    _ = .unit := Meant.unit.unspared hpaths hk

namespace HasSparedText

/-- A type without unknown parts keeps its text, which has no braces. -/
theorem of_same (htext : t.text = .ok text) (hsame : spared k t = t) (hbraces : Unbraced text) :
    HasSparedText k t :=
  ⟨text, htext, by rw [hsame, spareText_of_unbraced _ hbraces, htext]⟩

/-- The unknown type is written in braces, and the struct under the spare name. -/
theorem unknown : HasSparedText k .unknown := by
  refine ⟨_, rfl, ?_⟩
  rw [spared_unknown, spareText_unknown]
  rfl

/-- In front of a reference stands no brace. -/
theorem ref (h : HasSparedText k t) (isMut : Bool) : HasSparedText k (.ref t isMut) := by
  obtain ⟨text, htext, hspared⟩ := h
  have hhead : Unbraced (if isMut then "&mut " else "&") := by cases isMut <;> decide
  refine ⟨_, text_ref htext, ?_⟩
  rw [spared_ref, text_ref hspared, spareText_append, spareText_of_unbraced _ hhead]

/-- Nor does one stand around the element of an array. -/
theorem array (h : HasSparedText k t) (n : Nat) : HasSparedText k (.array t (some n)) := by
  obtain ⟨text, htext, hspared⟩ := h
  refine ⟨_, text_array htext n, ?_⟩
  -- the element with its bracket and semicolon, then the length, then the other bracket
  rw [spared_array, text_array hspared, spareText_append, spareText_append,
    spareText_around (by decide) text (by decide), spareText_of_unbraced _ (unbraced_repr n),
    spareText_of_unbraced "]" (by decide)]

/-- Nor around that of a slice. -/
theorem slice (h : HasSparedText k t) : HasSparedText k (.slice t) := by
  obtain ⟨text, htext, hspared⟩ := h
  refine ⟨_, text_slice htext, ?_⟩
  rw [spared_slice, text_slice hspared, spareText_around (by decide) text (by decide)]

/-- The path of a struct has no braces, and its arguments stand between angle brackets. -/
theorem nominal {path : String} {args : List Ty} (hpath : Unbraced path)
    (h : ∀ t ∈ args, HasSparedText k t) : HasSparedText k (.nominal path args) := by
  obtain ⟨texts, htexts, hspared⟩ := textAll_spared h
  have hangle : Unbraced "<" := by decide
  have hhead : Unbraced (path ++ "<") := by
    rw [Unbraced, String.toList_append]
    exact List.forall_mem_append.mpr ⟨hpath, hangle⟩
  refine ⟨_, text_nominal htexts, ?_⟩
  rw [spared_nominal, text_nominal hspared, List.isEmpty_map]
  split
  · rw [spareText_of_unbraced _ hpath]
  · rw [spareText_around hhead _ (by decide), spareText_commaSeparated]

/-- The parts of a function type stand behind its head, and the result only if it is not the unit. -/
theorem function {params : List Ty} {ret : Ty} (isUnsafe : Bool)
    (hps : ∀ t ∈ params, HasSparedText k t) (hret : HasSparedText k ret)
    (hunit : spared k ret = .unit ↔ ret = .unit) : HasSparedText k (.function params ret isUnsafe) := by
  obtain ⟨texts, htexts, hspareds⟩ := textAll_spared hps
  obtain ⟨text, htext, hspared⟩ := hret
  have hhead : Unbraced (if isUnsafe then "unsafe fn(" else "fn(") := by cases isUnsafe <;> decide
  refine ⟨_, text_function htexts htext, ?_⟩
  rw [spared_function, text_function hspareds hspared, spareText_append,
    spareText_around hhead _ (by decide), spareText_commaSeparated, spareText_retText hunit]

/-- The elements of a tuple stand in parentheses, and one alone has a comma behind it. -/
theorem tuple {elems : List Ty} (h : ∀ t ∈ elems, HasSparedText k t) :
    HasSparedText k (.tuple elems) := by
  obtain ⟨texts, htexts, hspared⟩ := textAll_spared h
  refine ⟨_, text_tuple htexts, ?_⟩
  rw [spared_tuple, text_tuple hspared, List.length_map]
  split
  · rw [spareText_around (by decide) _ (by decide), spareText_commaSeparated]
  · rw [spareText_around (by decide) _ (by decide), spareText_commaSeparated]

end HasSparedText

/-- **The text of a type** decides that of the type with the struct for the unknown type. -/
theorem Meant.text_spared (hpaths : ∀ p ∈ paths, p.Written) (hk : [spareName k] ∉ paths)
    (h : Meant paths t) : HasSparedText k t := by
  -- by induction on what the type is made of: only the unknown type brings braces into a text
  induction h with
  | primitive hp =>
    exact .of_same (text_primitive hp) (spared_primitive hp)
      (unbraced_of_isName (isName_of_primitive hp).1)
  | selfParam => exact .of_same (rfl : Ty.selfParam.text = .ok "Self") rfl (by decide)
  | unknown => exact .unknown
  | ref _ ih => exact ih.ref _
  | array _ _ ih => exact ih.array _
  | slice _ ih => exact ih.slice
  | @nominal p args hp _ _ ih => exact .nominal (unbraced_of_path (hpaths p hp).2) ih
  -- whether the result is written depends on whether it is the unit, which does not change
  | function _ hret ihs ih => exact .function _ ihs ih (hret.spared_eq_unit hpaths hk)
  | tuple _ ih => exact .tuple ih

end Spare

/-! ### Texts -/

/-- No two legible types have the same text. -/
theorem Legible.text_inj (hs : LegibleScope paths s) (ht : Legible paths s.selfType t)
    (hu : Legible paths s.selfType u) (h : t.text = u.text) : t = u := by
  obtain ⟨text, htext, hspelled⟩ := ht.spelled hs
  obtain ⟨text', htext', hspelled'⟩ := hu.spelled hs
  -- both have this text
  obtain rfl := Except.ok.inj (htext.symm.trans (h.trans htext'))
  -- what the text holds means both
  obtain ⟨e, he, hmeans⟩ := hspelled.typeIn?
  obtain ⟨e', he', hmeans'⟩ := hspelled'.typeIn?
  obtain rfl := Option.some.inj (he.symm.trans he')
  exact congrArg Prod.fst (hmeans.symm.trans hmeans')

/-- **No two types that written types mean have the same text**, unknown parts or not. -/
theorem Meant.text_inj (hpaths : ∀ p ∈ paths, p.Written) (ht : Meant paths t) (hu : Meant paths u)
    (h : t.text = u.text) : t = u := by
  obtain ⟨k, hk⟩ := exists_spareName paths
  have hwritten : ∀ p ∈ [spareName k] :: paths, Path.Written p :=
    List.forall_mem_cons.mpr
      ⟨⟨List.cons_ne_nil _ _, List.forall_mem_singleton.mpr (isName_spareName k)⟩, hpaths⟩
  obtain ⟨text, htext, hspared⟩ := ht.text_spared hpaths hk
  obtain ⟨text', htext', hspared'⟩ := hu.text_spared hpaths hk
  obtain rfl := Except.ok.inj (htext.symm.trans (h.trans htext'))
  -- with the struct in it, the text can be read back, and it is the same for both
  have hsame : spared k t = spared k u :=
    Legible.text_inj (SelfMeaning.parameter.scope hwritten none) ht.legible_spared hu.legible_spared
      (hspared.trans hspared'.symm)
  rw [← ht.unspared hpaths hk, hsame, hu.unspared hpaths hk]

end ClosureLint
