import OpenUrl.Proofs.Json.Reads
import OpenUrl.Proofs.Text.Digits

/-!
# Texts are read as what they stand for

A character of a string stands for itself or behind a backslash. A string is read as the characters
that it stands for, to the letter, and a text is written as one of its strings.
-/
namespace OpenUrl.Json

open OpenUrl.Text (Digits)

/-! ## Spellings -/

/-- What stands behind a backslash for a character. Beyond 16 bits that is a pair of surrogates. -/
inductive Escape : Char → List Char → Prop
  | short {e c : Char} : (e, c) ∈ [('"', '"'), ('\\', '\\'), ('/', '/'), ('b', '\x08'),
      ('f', '\x0c'), ('n', '\n'), ('r', '\r'), ('t', '\t')] → Escape c [e]
  | code {c : Char} {cs : List Char} : cs.length = 4 → Digits 16 cs c.toNat → Escape c ('u' :: cs)
  | pair {c : Char} {lead trail : Nat} {cs ds : List Char} : cs.length = 4 → Digits 16 cs lead →
      ds.length = 4 → Digits 16 ds trail → 0xD800 ≤ lead ∧ lead ≤ 0xDBFF →
        0xDC00 ≤ trail ∧ trail ≤ 0xDFFF →
          c.toNat = (lead - 0xD800) * 0x400 + (trail - 0xDC00) + 0x10000 →
            Escape c ('u' :: (cs ++ '\\' :: 'u' :: ds))

/-- What stands for a character inside a string. -/
inductive Piece : Char → List Char → Prop
  | plain {c : Char} : c ≠ '"' → c ≠ '\\' → 0x20 ≤ c.toNat → Piece c [c]
  | escaped {c : Char} {cs : List Char} : Escape c cs → Piece c ('\\' :: cs)

/-- What stands for a text inside a string. -/
inductive Inside : List Char → List Char → Prop
  | nil : Inside [] []
  | cons {c : Char} {ds cs text : List Char} : Piece c ds → Inside cs text →
      Inside (c :: cs) (ds ++ text)

/-- What stands for a text. -/
inductive SpellsText (cs : List Char) : List Char → Prop
  | mk {text : List Char} : Inside cs text → SpellsText cs ('"' :: (text ++ ['"']))

/-! ## Strings -/

variable {c : Char} {cs text : List Char}

theorem hexQuad?_of_digits {w x y z : Char} {n : Nat} (h : Digits 16 [w, x, y, z] n) :
    hexQuad? w x y z = some n := by
  obtain ⟨ds, hds, rfl⟩ := h
  cases hds with
  | cons hw hds =>
    cases hds with
    | cons hx hds =>
      cases hds with
      | cons hy hds =>
        cases hds with
        | cons hz hds =>
          cases hds
          simp only [hexQuad?, hexDigit?_of_isDigit hw, hexDigit?_of_isDigit hx,
            hexDigit?_of_isDigit hy, hexDigit?_of_isDigit hz, Option.bind_eq_bind,
            Option.bind_some, Text.ofDigits_reverse, List.foldl_cons, List.foldl_nil]
          congr 1
          omega

theorem reads_unit {n : Nat} (hlength : cs.length = 4) (h : Digits 16 cs n)
    (after : List Char → Prop) : Reads after unit cs n := by
  match cs, hlength with
  | [w, x, y, z], _ =>
    intro rest _ o
    exact ⟨o + 4, by simp only [unit, List.cons_append, List.nil_append, hexQuad?_of_digits h]⟩

theorem reads_demand (c : Char) (after : List Char → Prop) : Reads after (demand c) [c] () := by
  intro rest _ o
  exact ⟨o + c.utf8Size, by simp [demand]⟩

/-- No character is a surrogate. -/
theorem toNat_cases (c : Char) : c.toNat < 0xD800 ∨ 0xDFFF < c.toNat := by
  have hvalid : c.toNat.isValidChar := c.valid
  rcases hvalid with hlow | ⟨hhigh, -⟩
  · exact .inl hlow
  · exact .inr hhigh

theorem reads_codePoint (hlength : cs.length = 4) (h : Digits 16 cs c.toNat)
    (after : List Char → Prop) : Reads after codePoint cs c := by
  have hchar := toNat_cases c
  refine (reads_unit hlength h after).result ?_
  rw [if_neg (by omega), if_pos (by omega), Char.ofNat_toNat]

theorem reads_escaped (h : Escape c cs) (after : List Char → Prop) : Reads after escaped cs c := by
  cases h with
  | short he =>
    simp only [List.mem_cons, Prod.mk.injEq, List.not_mem_nil, or_false] at he
    rcases he with ⟨rfl, rfl⟩ | ⟨rfl, rfl⟩ | ⟨rfl, rfl⟩ | ⟨rfl, rfl⟩ | ⟨rfl, rfl⟩ | ⟨rfl, rfl⟩ |
      ⟨rfl, rfl⟩ | ⟨rfl, rfl⟩ <;> exact fun rest _ o => ⟨_, rfl⟩
  | code hlength hdigits =>
    exact fun rest hrest o => reads_codePoint hlength hdigits after rest hrest (o + 1)
  | @pair _ lead trail cs ds hcs hlead hds htrail hhigh hlow hvalue =>
    have hcombine : combine lead trail = c := by
      rw [combine, ← hvalue, Char.ofNat_toNat]
    have hend : Reads after (unit >>= fun m => if 0xDC00 ≤ m ∧ m ≤ 0xDFFF then
        pure (combine lead m) else Reader.here .loneSurrogate) ds c :=
      (reads_unit hds htrail after).result (by rw [if_pos hlow, hcombine])
    have hpair : Reads after codePoint (cs ++ '\\' :: 'u' :: ds) c := by
      refine (reads_unit hcs hlead fun _ => True).bind ?_ fun _ _ => trivial
      rw [if_neg (by omega), if_neg (by omega)]
      exact (reads_demand '\\' fun _ => True).bind
        ((reads_demand 'u' fun _ => True).bind hend fun _ _ => trivial) fun _ _ => trivial
    exact fun rest hrest o => hpair rest hrest (o + 1)

theorem Piece.length_pos (h : Piece c cs) : 0 < cs.length := by
  cases h <;> simp

theorem reads_inside (h : Inside cs text) {fuel : Nat} (hfuel : text.length < fuel)
    (after : List Char → Prop) : Reads after (inside fuel) (text ++ ['"']) cs := by
  obtain ⟨fuel, rfl⟩ := Nat.exists_eq_add_one_of_ne_zero (Nat.ne_zero_of_lt hfuel)
  induction h generalizing fuel with
  | nil => exact fun rest _ o => ⟨o + 1, rfl⟩
  | @cons c ds cs text hpiece _ ih =>
    have hpos := hpiece.length_pos
    rw [List.length_append] at hfuel
    obtain ⟨fuel, rfl⟩ := Nat.exists_eq_add_one_of_ne_zero (n := fuel) (by omega)
    have htail : Reads after (inside (fuel + 1) >>= fun bs => pure (c :: bs)) (text ++ ['"'])
        (c :: cs) := (ih fuel (by omega)).map _
    rw [List.append_assoc]
    cases hpiece with
    | plain hquote hslash hlow =>
      intro rest hrest o
      obtain ⟨o', h⟩ := htail rest hrest (o + c.utf8Size)
      refine ⟨o', ?_⟩
      have hcontrol : ¬ c.toNat < 0x20 := by omega
      simp only [List.cons_append, List.nil_append, inside, if_neg hquote, if_neg hslash,
        if_neg hcontrol]
      exact h
    | escaped hescape =>
      have hboth : Reads after (escaped >>= fun b => inside (fuel + 1) >>= fun bs => pure (b :: bs))
          _ (c :: cs) := (reads_escaped hescape fun _ => True).bind htail fun _ _ => trivial
      exact fun rest hrest o => hboth rest hrest (o + 1)

theorem reads_textBody_of_inside (h : Inside cs text) (after : List Char → Prop) :
    Reads after textBody (text ++ ['"']) (String.ofList cs) := by
  intro rest hrest o
  have hfuel : text.length < ((text ++ ['"']) ++ rest).length + 1 := by
    rw [List.length_append, List.length_append]
    omega
  exact (reads_inside h hfuel after).map String.ofList rest hrest o

theorem reads_readText_of_spells (h : SpellsText cs text) (after : List Char → Prop) :
    Reads after readText text (String.ofList cs) := by
  obtain ⟨hinside⟩ := h
  exact .look (by decide) (.advance (reads_textBody_of_inside hinside after))

/-! ## Texts as they are written -/

theorem piece_escapeChar (c : Char) : Piece c (escapeChar c) := by
  unfold escapeChar
  split
  case h_8 hquote hslash _ _ _ _ _ =>
    split_ifs with hcontrol
    · have hdigits : Digits 16 ('0' :: '0' :: hexPair c.toNat) c.toNat := by
        refine ⟨[0, 0, c.toNat / 16, c.toNat % 16], .cons (by decide) (.cons (by decide)
          (.cons ⟨by omega, .inl rfl⟩ (.cons ⟨by omega, .inl rfl⟩ .nil))), ?_⟩
        simp only [Text.ofDigits_reverse, List.foldl_cons, List.foldl_nil]
        omega
      exact .escaped (.code rfl hdigits)
    · exact .plain hquote hslash (Nat.le_of_not_lt hcontrol)
  all_goals exact .escaped (.short (by simp))

theorem inside_escape (cs : List Char) : Inside cs (escape cs) := by
  induction cs with
  | nil => exact .nil
  | cons c cs ih => exact .cons (piece_escapeChar c) ih

theorem spellsText_renderText (s : String) : SpellsText s.toList (renderText s) :=
  .mk (inside_escape s.toList)

theorem inside_self (h : ∀ c ∈ cs, c ≠ '"' ∧ c ≠ '\\' ∧ 0x20 ≤ c.toNat) : Inside cs cs := by
  induction cs with
  | nil => exact .nil
  | cons c cs ih =>
    obtain ⟨⟨hquote, hslash, hlow⟩, hcs⟩ := List.forall_mem_cons.mp h
    exact .cons (.plain hquote hslash hlow) (ih hcs)

theorem reads_textBody (s : String) (after : List Char → Prop) :
    Reads after textBody (escape s.toList ++ ['"']) s := by
  have hread := reads_textBody_of_inside (inside_escape s.toList) after
  rwa [String.ofList_toList] at hread

theorem reads_readText (s : String) (after : List Char → Prop) :
    Reads after readText (renderText s) s := by
  have hread := reads_readText_of_spells (spellsText_renderText s) after
  rwa [String.ofList_toList] at hread

end OpenUrl.Json
