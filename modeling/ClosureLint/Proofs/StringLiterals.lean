import ClosureLint.Proofs.Lexing
import ClosureLint.Syntax.Reading.Basic

/-!
# What a string literal denotes

Any text can be written as a literal: a backslash goes before each backslash and each double quote,
and all other characters, line feeds among them, stand for themselves. The literal is one token, and
its value is read off the octets of the text's UTF-8 form, one code point for each. So the text
comes back as it was written exactly if all of it is ASCII.

* `literalOf` — the literal of a text.
* `lexFrom_literal` — it is one token, wherever it stands and whatever follows it.
* `octets_written` — the octets of a text with its escapes are the octets of the text, with the
  same escapes.
* `unescapeFrom_written` — octets that were escaped are read back.
* `literal_denotes_octets` — the token and the value of the literal of any text.
-/

namespace ClosureLint.Text

/-! ### Writing a literal -/

/-- A character as it stands in a literal. -/
def written (c : Char) : List Char := if c = '\\' ∨ c = '"' then ['\\', c] else [c]

theorem written_special {c : Char} (h : c = '\\' ∨ c = '"') : written c = ['\\', c] := if_pos h

theorem written_plain {c : Char} (h : ¬(c = '\\' ∨ c = '"')) : written c = [c] := if_neg h

/-- The characters of the literal of a text. -/
def literalChars (cs : List Char) : List Char := '"' :: (cs.flatMap written ++ ['"'])

/-- The literal of a text. -/
def literalOf (s : String) : String := String.ofList (literalChars s.toList)

theorem toList_literalOf (s : String) : (literalOf s).toList = literalChars s.toList :=
  String.toList_ofList

/-! ### One token -/

/-- **The literal ends at its own last quote**, whatever follows it. -/
theorem stringBody?_written (cs rest : List Char) :
    stringBody? (cs.flatMap written ++ '"' :: rest) = some (cs.flatMap written ++ ['"']) := by
  induction cs with
  | nil => rfl
  | cons c cs ih =>
    rw [List.flatMap_cons]
    by_cases h : c = '\\' ∨ c = '"'
    · -- the backslash protects a backslash or a quote, never a line feed
      have hfeed : c ≠ '\n' := by rcases h with rfl | rfl <;> decide
      rw [written_special h]
      simp only [List.cons_append, List.nil_append]
      rw [stringBody?, if_neg hfeed, ih]
      rfl
    · -- any other character is passed over, so the literal goes on
      obtain ⟨hslash, hquote⟩ := not_or.mp h
      rw [written_plain h]
      simp only [List.cons_append, List.nil_append]
      rw [stringBody?.eq_4 _ _ (fun h => absurd h hslash) (fun _ _ h => absurd h hslash),
        if_neg hquote, ih]
      rfl

theorem munches_literal (cs rest : List Char) : Munches (literalChars cs) rest (some .string) := by
  refine .string fun rest' => ?_
  rw [List.append_assoc]
  exact stringBody?_written cs rest'

/-- **The literal of a text is one token**, wherever it stands and whatever follows it. -/
theorem lexFrom_literal (s : String) (p : Pos) (rest : List Char) :
    let q := p.advanceAll (literalOf s).toList
    lexFrom p ((literalOf s).toList ++ rest)
      = ⟨⟨.string, literalOf s, p, q⟩ :: (lexFrom q rest).tokens, (lexFrom q rest).stuck⟩ := by
  intro q
  have htoken := lexFrom_token p (munches_literal s.toList rest)
  rw [← toList_literalOf, String.ofList_toList] at htoken
  exact htoken

/-- What stands between the quotes of the literal of a text. -/
theorem stringContent_literalOf (s : String) :
    Syntax.stringContent (literalOf s) = s.toList.flatMap written := by
  rw [Syntax.stringContent, toList_literalOf, literalChars, List.drop_one, List.tail_cons,
    List.dropLast_concat]

/-! ### Octets -/

/-- The octets of one character come before those of the characters behind it. -/
theorem octets_cons (c : Char) (cs : List Char) : octets (c :: cs) = octets [c] ++ octets cs := by
  simp only [octets, List.flatMap_cons, List.flatMap_nil, List.append_nil]

/-- A character of ASCII is its own octet. -/
theorem octets_ascii {c : Char} (h : c.toNat < 0x80) : octets [c] = [c] := by
  have hone : String.utf8EncodeChar c = [UInt8.ofNat c.toNat] := by
    have hle : c.val.toNat ≤ 0x7f := Nat.le_of_lt_succ h
    unfold String.utf8EncodeChar
    exact if_pos hle
  have hsmall : c.toNat < UInt8.size := Nat.lt_of_lt_of_le h (by decide)
  rw [octets, List.flatMap_cons, hone, List.flatMap_nil, List.append_nil, List.map_singleton,
    UInt8.toNat_ofNat_of_lt' hsmall, Char.ofNat_toNat]

/-- An octet shows that it is outside ASCII by its highest bit. -/
theorem le_toNat_marked {bits mark : Nat} (hmark : 0x80 ≤ mark) (h : bits + mark < 0x100) :
    0x80 ≤ (UInt8.ofNat (bits + mark)).toNat := by
  rw [UInt8.toNat_ofNat_of_lt' h]
  omega

/-- The octets of a character outside ASCII are outside ASCII. -/
theorem le_toNat_of_mem_utf8 {c : Char} (h : 0x80 ≤ c.toNat) :
    ∀ b ∈ String.utf8EncodeChar c, 0x80 ≤ b.toNat := by
  have hbeyond : ¬ c.val.toNat ≤ 0x7f := Nat.not_le.mpr h
  unfold String.utf8EncodeChar
  rw [if_neg hbeyond]
  intro b hb
  -- what an octet holds besides its mark is a remainder, too small to disturb the mark
  split at hb
  · simp only [List.mem_cons, List.not_mem_nil, or_false] at hb
    rcases hb with rfl | rfl <;> exact le_toNat_marked (by decide) (by omega)
  · split at hb
    · simp only [List.mem_cons, List.not_mem_nil, or_false] at hb
      rcases hb with rfl | rfl | rfl <;> exact le_toNat_marked (by decide) (by omega)
    · simp only [List.mem_cons, List.not_mem_nil, or_false] at hb
      rcases hb with rfl | rfl | rfl | rfl <;> exact le_toNat_marked (by decide) (by omega)

/-- The character that stands for an octet has its number. -/
theorem toNat_octet (b : UInt8) : (Char.ofNat b.toNat).toNat = b.toNat := by
  have hvalid : b.toNat.isValidChar := .inl (Nat.lt_trans b.toNat_lt (by decide))
  rw [Char.ofNat, dif_pos hvalid]
  rfl

/-- The numbers of the octets of a text. -/
theorem octets_toNat (cs : List Char) :
    (octets cs).map Char.toNat = (cs.flatMap String.utf8EncodeChar).map UInt8.toNat := by
  have hoctet : (Char.toNat ∘ fun b : UInt8 => Char.ofNat b.toNat) = UInt8.toNat :=
    funext toNat_octet
  rw [octets, List.map_flatMap, List.map_flatMap]
  simp only [List.map_map, hoctet]

/-! ### Escapes -/

theorem octets_append (cs ds : List Char) : octets (cs ++ ds) = octets cs ++ octets ds :=
  List.flatMap_append

/-- A character and its octets are escaped alike. -/
theorem octets_written_char (c : Char) : octets (written c) = (octets [c]).flatMap written := by
  by_cases hascii : c.toNat < 0x80
  · rw [octets_ascii hascii, List.flatMap_singleton]
    by_cases h : c = '\\' ∨ c = '"'
    · rw [written_special h, octets_cons, octets_ascii (by decide), octets_ascii hascii]
      rfl
    · rw [written_plain h, octets_ascii hascii]
  · have hbeyond : 0x80 ≤ c.toNat := Nat.not_lt.mp hascii
    have hplain {d : Char} (hd : 0x80 ≤ d.toNat) : written d = [d] := by
      refine written_plain ?_
      rintro (rfl | rfl) <;> exact absurd hd (by decide)
    -- none of the octets is a backslash or a quote
    have hoctets : ∀ d ∈ octets [c], written d = [d] := by
      intro d hd
      rw [octets, List.flatMap_singleton] at hd
      obtain ⟨b, hb, rfl⟩ := List.mem_map.mp hd
      exact hplain (by rw [toNat_octet]; exact le_toNat_of_mem_utf8 hbeyond b hb)
    rw [hplain hbeyond, List.flatMap_def, List.map_congr_left hoctets, ← List.flatMap_def,
      List.flatMap_singleton']

/-- **Escaping a text** escapes its octets. -/
theorem octets_written (cs : List Char) :
    octets (cs.flatMap written) = (octets cs).flatMap written := by
  induction cs with
  | nil => rfl
  | cons c cs ih =>
    rw [List.flatMap_cons, octets_append, octets_written_char, ih, octets_cons c cs,
      List.flatMap_append]

/-- **Octets that were escaped are read back**, wherever they start. -/
theorem unescapeFrom_written (start : Nat) (os : List Char) :
    unescapeFrom start (os.flatMap written) = .ok (os.map Char.toNat) := by
  -- `start` is where an error would be placed, and there is none
  induction os generalizing start with
  | nil =>
    rw [List.flatMap_nil, unescapeFrom]
    rfl
  | cons c os ih =>
    rw [List.flatMap_cons]
    by_cases h : c = '\\' ∨ c = '"'
    · have hread : readEscape (c :: os.flatMap written) = .ok ([c.toNat], 1) := by
        rcases h with rfl | rfl <;> rfl
      rw [written_special h, List.cons_append, List.cons_append, List.nil_append, unescapeFrom,
        if_pos rfl, hread]
      simp only [List.drop_one, List.tail_cons, ih]
      rfl
    · rw [written_plain h, List.cons_append, List.nil_append, unescapeFrom,
        if_neg (not_or.mp h).1, ih]
      rfl

/-! ### The value of a literal -/

/-- The value of the literal of a text. -/
theorem unescape_literalOf (s : String) :
    unescape (Syntax.stringContent (literalOf s))
      = .ok ((s.toList.flatMap String.utf8EncodeChar).map UInt8.toNat) := by
  rw [unescape, stringContent_literalOf, octets_written, unescapeFrom_written, octets_toNat]

theorem length_le_utf8 (cs : List Char) :
    cs.length ≤ (cs.flatMap String.utf8EncodeChar).length := by
  induction cs with
  | nil => exact Nat.le_refl 0
  | cons c cs ih =>
    have hc := c.utf8Size_pos
    rw [List.flatMap_cons, List.length_append, String.length_utf8EncodeChar, List.length_cons]
    omega

/-- A text with no more octets than characters is ASCII. -/
theorem ascii_of_length_utf8 {cs : List Char}
    (h : (cs.flatMap String.utf8EncodeChar).length = cs.length) : ∀ c ∈ cs, c.toNat < 0x80 := by
  induction cs with
  | nil => exact nofun
  | cons c cs ih =>
    -- no character has less than one octet, so none may have more
    have hc := c.utf8Size_pos
    have hcs := length_le_utf8 cs
    rw [List.flatMap_cons, List.length_append, String.length_utf8EncodeChar, List.length_cons] at h
    refine List.forall_mem_cons.mpr ⟨?_, ih (by omega)⟩
    have hone : c.val ≤ 127 := Char.utf8Size_eq_one_iff.mp (by omega)
    exact Nat.lt_succ_of_le (UInt32.le_iff_toNat_le.mp hone)

/-- **The octets of a text are its code points** exactly if all of it is ASCII. -/
theorem utf8_toNat_eq_iff (cs : List Char) :
    (cs.flatMap String.utf8EncodeChar).map UInt8.toNat = cs.map Char.toNat ↔
      ∀ c ∈ cs, c.toNat < 0x80 := by
  constructor
  · -- a character outside ASCII has several octets, and no character has none to make up for it
    intro h
    have hlength := congrArg List.length h
    rw [List.length_map, List.length_map] at hlength
    exact ascii_of_length_utf8 hlength
  · -- a text of ASCII is the text that its octets stand for
    intro h
    have hself : octets cs = cs := by
      induction cs with
      | nil => rfl
      | cons c cs ih =>
        obtain ⟨hc, hcs⟩ := List.forall_mem_cons.mp h
        rw [octets_cons c cs, octets_ascii hc, ih hcs]
        rfl
    rw [← octets_toNat, hself]

/-- **What a string literal denotes.** The literal of any text is one token, and its value is the
octets of the text's UTF-8 form, as code points. It is the text that was written exactly if all of
it is ASCII. -/
theorem literal_denotes_octets (s : String) :
    lex (literalOf s)
      = ⟨[⟨.string, literalOf s, {}, ({} : Pos).advanceAll (literalOf s).toList⟩], none⟩ ∧
    unescape (Syntax.stringContent (literalOf s))
      = .ok ((s.toList.flatMap String.utf8EncodeChar).map UInt8.toNat) ∧
    (unescape (Syntax.stringContent (literalOf s)) = .ok (s.toList.map Char.toNat) ↔
      ∀ c ∈ s.toList, c.toNat < 0x80) := by
  refine ⟨?token, unescape_literalOf s, ?whole⟩
  case token =>
    have hend (q : Pos) : lexFrom q [] = ⟨[], none⟩ := by rw [lexFrom]
    have hlex := lexFrom_literal s {} []
    simp only [List.append_nil, hend] at hlex
    exact hlex
  case whole =>
    rw [unescape_literalOf, Except.ok.injEq]
    exact utf8_toNat_eq_iff s.toList

/-- An accented letter comes back as two characters, an escaped one as itself. -/
example : (unescape (Syntax.stringContent (literalOf "é\\"))).toOption = some [0xc3, 0xa9, 0x5c] ∧
    (unescape (Syntax.stringContent "\"\\xe9\"")).toOption = some [0xe9] := by
  decide +kernel

end ClosureLint.Text
