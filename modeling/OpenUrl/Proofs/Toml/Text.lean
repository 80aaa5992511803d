import OpenUrl.Proofs.Text.Digits
import OpenUrl.Proofs.Toml.Takes

/-!
# Strings of TOML

A string is written on one line or over several, with escapes between double quotes and without
them between single ones. However it is written, it is read as the text that it stands for.
-/
namespace OpenUrl.Toml

open OpenUrl.Text (IsDigit Digits)

/-! ## Spellings -/

/-- A character that stands for itself in strings and comments: no control, except for the tab. -/
def Visible (c : Char) : Prop := c = '\t' ∨ 0x20 ≤ c.toNat ∧ c.toNat ≠ 0x7F

instance (c : Char) : Decidable (Visible c) := inferInstanceAs (Decidable (_ ∨ _))

/-- What stands behind a backslash for a character. -/
inductive Escape : Char → List Char → Prop
  | short {e c : Char} : (e, c) ∈ [('b', '\x08'), ('t', '\t'), ('n', '\n'), ('f', '\x0c'),
      ('r', '\r'), ('e', '\x1b'), ('"', '"'), ('\\', '\\')] → Escape c [e]
  | code {mark c : Char} {count : Nat} {cs : List Char} :
      (mark, count) ∈ [('x', 2), ('u', 4), ('U', 8)] → cs.length = count →
        Digits 16 cs c.toNat → Escape c (mark :: cs)

/-- What stands for a character inside a string. Only double quotes go with escapes. -/
inductive Piece (quote : Char) : Char → List Char → Prop
  | plain {c : Char} : Visible c → c ≠ quote → (quote = '"' → c ≠ '\\') → Piece quote c [c]
  | escaped {c : Char} {cs : List Char} : quote = '"' → Escape c cs → Piece quote c ('\\' :: cs)

/-- What stands for a text inside a string of one line. -/
inductive Inside (quote : Char) : List Char → List Char → Prop
  | nil : Inside quote [] []
  | cons {c : Char} {ds cs text : List Char} : Piece quote c ds → Inside quote cs text →
      Inside quote (c :: cs) (ds ++ text)

inductive LineEnd : List Char → Prop
  | lineFeed : LineEnd ['\n']
  | both : LineEnd ['\r', '\n']

/-- What a line end starts with. -/
def isBreak (c : Char) : Bool := c == '\n' || c == '\r'

def Spaces (cs : List Char) : Prop := ∀ c ∈ cs, isSpace c = true

/-- Blanks and line ends. -/
inductive Blanks : List Char → Prop
  | last {sp : List Char} : Spaces sp → Blanks sp
  | line {sp e bs : List Char} : Spaces sp → LineEnd e → Blanks bs → Blanks (sp ++ (e ++ bs))

/-- What stands for a text inside a string of several lines, without the quotes at its end. A line
end with a backslash in front of it counts as little as the blanks behind it. -/
inductive InLines (quote : Char) : List Char → List Char → Prop
  | nil : InLines quote [] []
  | cons {c : Char} {ds cs text : List Char} : Piece quote c ds → InLines quote cs text →
      InLines quote (c :: cs) (ds ++ text)
  | lineFeed {cs text : List Char} : InLines quote cs text →
      InLines quote ('\n' :: cs) ('\n' :: text)
  | quotes {n : Nat} {c : Char} {cs text : List Char} : n = 1 ∨ n = 2 → c ≠ quote →
      InLines quote cs (c :: text) →
        InLines quote (List.replicate n quote ++ cs) (List.replicate n quote ++ c :: text)
  | continued {sp e bs cs text : List Char} : quote = '"' → Spaces sp → LineEnd e → Blanks bs →
      Stops (fun c => isSpace c || isBreak c) text → InLines quote cs text →
        InLines quote cs ('\\' :: (sp ++ (e ++ (bs ++ text))))

/-- A line end right behind the quotes of a string of several lines, or none. -/
inductive FirstBreak (text : List Char) : List Char → Prop
  | none : Stops isBreak text → FirstBreak text []
  | some {e : List Char} : LineEnd e → FirstBreak text e

/-- A text as a string of one line or of several. Up to two quotes stand before the last three. -/
inductive SpellsText : List Char → List Char → Prop
  | line {quote : Char} {cs text : List Char} : quote = '"' ∨ quote = '\'' → Inside quote cs text →
      SpellsText cs (quote :: (text ++ [quote]))
  | lines {quote : Char} {n : Nat} {cs e text : List Char} : quote = '"' ∨ quote = '\'' → n ≤ 2 →
      FirstBreak text e → InLines quote cs text →
        SpellsText (cs ++ List.replicate n quote)
          ([quote, quote, quote] ++ (e ++ (text ++ List.replicate (n + 3) quote)))

/-! ## Escapes -/

variable {after : List Char → Prop} {quote c : Char} {cs ds text : List Char}

theorem isForbidden_of_visible (h : Visible c) : isForbidden c = false := by
  rcases h with rfl | ⟨hlow, hdelete⟩
  · decide
  · have hnot : ¬ c.toNat < 0x20 := by omega
    simp [isForbidden, hnot, hdelete]

theorem charOf?_toNat (c : Char) : charOf? c.toNat = some c := by
  have hvalid : c.toNat.isValidChar := c.valid
  have hchar : Char.ofNatAux c.toNat hvalid = c := (dif_pos hvalid).symm.trans (Char.ofNat_toNat c)
  rw [charOf?, dif_pos hvalid, hchar]

theorem takes_hexDigits {ds : List Nat} (h : List.Forall₂ (IsDigit 16) ds cs)
    (after : List Char → Prop) (n : Nat) :
    Takes after (hexDigits cs.length n) cs (· = ds.foldl (fun n d => 16 * n + d) n) := by
  induction h generalizing n with
  | nil => exact .pure rfl
  | @cons d c ds cs hd _ ih =>
    refine .peek ?_
    simp only [Option.bind_some, digitOf?_of_isDigit (Nat.le_refl 16) hd]
    exact .advance (ih (16 * n + d))

theorem takes_codePoint (h : Digits 16 cs c.toNat) (after : List Char → Prop) :
    Takes after (codePoint cs.length) cs (· = c) := by
  obtain ⟨ds, hds, hvalue⟩ := h
  have hread := takes_hexDigits hds after 0
  rw [← Text.ofDigits_reverse, hvalue] at hread
  refine hread.last ?_ fun _ hrest => hrest
  simp only [charOf?_toNat]
  exact .pure rfl

theorem takes_escape (h : Escape c cs) (after : List Char → Prop) :
    Takes after escape cs (· = c) := by
  cases h with
  | short he =>
    simp only [List.mem_cons, Prod.mk.injEq, List.not_mem_nil, or_false] at he
    rcases he with ⟨rfl, rfl⟩ | ⟨rfl, rfl⟩ | ⟨rfl, rfl⟩ | ⟨rfl, rfl⟩ | ⟨rfl, rfl⟩ | ⟨rfl, rfl⟩ |
      ⟨rfl, rfl⟩ | ⟨rfl, rfl⟩ <;> exact .peek (.advance (.pure rfl))
  | code hmark hlength hdigits =>
    subst hlength
    simp only [List.mem_cons, Prod.mk.injEq, List.not_mem_nil, or_false] at hmark
    have hread := takes_codePoint hdigits after
    rcases hmark with ⟨rfl, hlength⟩ | ⟨rfl, hlength⟩ | ⟨rfl, hlength⟩ <;>
      exact .peek (.advance (hlength ▸ hread))

/-! ## Strings of one line -/

theorem Piece.length_pos (h : Piece quote c ds) : 0 < ds.length := by
  cases h <;> simp

/-- The inside of a string of one line is read, with its closing quote. -/
theorem takes_lineText (h : Inside quote cs text) {fuel : Nat} (hfuel : text.length < fuel) :
    Takes after (lineText quote (quote == '"') fuel) (text ++ [quote]) (· = cs) := by
  obtain ⟨fuel, rfl⟩ := Nat.exists_eq_add_one_of_ne_zero (Nat.ne_zero_of_lt hfuel)
  induction h generalizing fuel with
  | nil =>
    refine .peek (.advance ?_)
    simp only [if_true]
    exact .pure rfl
  | @cons c ds cs text hpiece _ ih =>
    have hpos := hpiece.length_pos
    rw [List.length_append] at hfuel
    obtain ⟨fuel, rfl⟩ := Nat.exists_eq_add_one_of_ne_zero (n := fuel) (by omega)
    have htail : Takes after (lineText quote (quote == '"') (fuel + 1) >>= fun cs => pure (c :: cs))
        (text ++ [quote]) (· = c :: cs) :=
      (ih fuel (by omega)).map fun _ h => h ▸ rfl
    rw [List.append_assoc]
    cases hpiece with
    | plain hvisible hquote hslash =>
      refine .peek (.advance ?_)
      have hplain : ((quote == '"') && decide (c = '\\')) = false := by
        by_cases hdouble : quote = '"'
        · simp [hslash hdouble]
        · simp [hdouble]
      simp only [if_neg hquote, hplain, isForbidden_of_visible hvisible, Bool.false_eq_true,
        if_false]
      exact htail
    | escaped hquote hescape =>
      subst hquote
      have hread := takes_escape hescape fun _ => True
      exact .peek (.advance (hread.andThen htail fun _ _ => trivial))

theorem takes_quotedLine (h : Inside quote cs text) :
    Takes after (quotedLine quote) (quote :: (text ++ [quote])) (· = String.ofList cs) := by
  refine .advance (.room fun n hn => ?_)
  rw [List.length_append] at hn
  exact (takes_lineText h (Nat.lt_of_le_of_lt (Nat.le_add_right _ _) hn)).map fun _ h => h ▸ rfl

/-! ## Strings of several lines -/

theorem takes_newline {e : List Char} (h : LineEnd e) (after : List Char → Prop) :
    Takes after newline e (· = true) := by
  cases h with
  | lineFeed =>
    have hfirst : Takes (fun _ => True) (Scan.attempt ['\n']) ['\n'] (· = true) := .attempt _
    have hdone : Takes after (if true = true then pure true else Scan.attempt ['\r', '\n']) []
        (· = true) := .pure rfl
    exact hfirst.andThen hdone fun _ _ => trivial
  | both =>
    have hsecond : Takes after (if false = true then pure true else Scan.attempt ['\r', '\n'])
        ['\r', '\n'] (· = true) := .attempt _
    exact Takes.attempt_not.andThen hsecond fun rest _ =>
      isPrefixOf_of_stops (stops_cons (by decide) _)

theorem takes_no_newline : Takes (Stops isBreak) newline [] (· = false) := by
  have hsecond : Takes (Stops isBreak)
      (if false = true then pure true else Scan.attempt ['\r', '\n']) [] (· = false) :=
    Takes.attempt_not.before fun rest hrest =>
      isPrefixOf_of_stops (hrest.imp fun c hc => by simp_all [isBreak])
  exact Takes.attempt_not.andThen hsecond fun rest hrest =>
    isPrefixOf_of_stops (hrest.imp fun c hc => by simp_all [isBreak])

theorem takes_blankLines {bs : List Char} (h : Blanks bs) {fuel : Nat} (hfuel : bs.length < fuel) :
    Takes (Stops fun c => isSpace c || isBreak c) (blankLines fuel) bs fun _ => True := by
  obtain ⟨fuel, rfl⟩ := Nat.exists_eq_add_one_of_ne_zero (Nat.ne_zero_of_lt hfuel)
  induction h generalizing fuel with
  | @last sp hsp =>
    have hend : Takes (Stops fun c => isSpace c || isBreak c)
        (newline >>= fun more => if more = true then blankLines fuel else pure ()) []
        fun _ => True :=
      takes_no_newline.andThen (.pure trivial) fun rest hrest =>
        hrest.imp fun c hc => by simp_all
    rw [← List.append_nil sp]
    exact (Takes.takeWhile hsp).andThen hend fun rest hrest => hrest.imp fun c hc => by simp_all
  | @line sp e bs hsp he hbs ih =>
    simp only [List.length_append] at hfuel
    have hpos : 0 < e.length := by cases he <;> simp
    obtain ⟨fuel, rfl⟩ := Nat.exists_eq_add_one_of_ne_zero (n := fuel) (by omega)
    have hend : Takes (Stops fun c => isSpace c || isBreak c)
        (newline >>= fun more => if more = true then blankLines (fuel + 1) else pure ()) (e ++ bs)
        fun _ => True :=
      (takes_newline he fun _ => True).andThen (ih fuel (by omega)) fun _ _ => trivial
    refine (Takes.takeWhile hsp).andThen hend fun rest _ => ?_
    cases he <;> exact stops_cons (by decide) _

theorem takes_runOf (quote : Char) (n : Nat) :
    Takes (Stops (· == quote)) (runOf quote) (List.replicate n quote) (· = n) :=
  (Takes.takeWhile (p := (· == quote)) (by simp)).map fun _ h => by simp [h]

theorem Escape.exists_cons (h : Escape c cs) :
    ∃ d ds, cs = d :: ds ∧ isSpace d = false ∧ isBreak d = false := by
  cases h with
  | short he =>
    simp only [List.mem_cons, Prod.mk.injEq, List.not_mem_nil, or_false] at he
    rcases he with ⟨rfl, rfl⟩ | ⟨rfl, rfl⟩ | ⟨rfl, rfl⟩ | ⟨rfl, rfl⟩ | ⟨rfl, rfl⟩ | ⟨rfl, rfl⟩ |
      ⟨rfl, rfl⟩ | ⟨rfl, rfl⟩ <;> exact ⟨_, _, rfl, by decide, by decide⟩
  | code hmark =>
    simp only [List.mem_cons, Prod.mk.injEq, List.not_mem_nil, or_false] at hmark
    rcases hmark with ⟨rfl, -⟩ | ⟨rfl, -⟩ | ⟨rfl, -⟩ <;> exact ⟨_, _, rfl, by decide, by decide⟩

/-- A character that stands for itself is read in front of the others. -/
theorem takes_linesText_cons {fuel : Nat} (hne : c ≠ quote) (hslash : quote = '"' → c ≠ '\\')
    (hreturn : c ≠ '\r') (hplain : (isForbidden c && c != '\n') = false)
    (htail : Takes after (linesText quote (quote == '"') fuel) text (· = cs)) :
    Takes after (linesText quote (quote == '"') (fuel + 1)) (c :: text) (· = c :: cs) := by
  have hescape : ((quote == '"') && decide (c = '\\')) = false := by
    by_cases hdouble : quote = '"'
    · simp [hslash hdouble]
    · simp [hdouble]
  refine .peek ?_
  simp only [if_neg hne, hescape, Bool.false_eq_true, if_false]
  refine Takes.attempt_not.andThen ?_ fun rest _ =>
    isPrefixOf_of_stops (stops_cons (by simpa using hreturn) _)
  simp only [hplain, Bool.false_eq_true, if_false]
  exact .advance (htail.map fun _ h => h ▸ rfl)

/-- The inside of a string of several lines is read, with its quotes at the end. -/
theorem takes_linesText (h : InLines quote cs text) {n : Nat} (hn : n ≤ 2) {fuel : Nat}
    (hquote : quote = '"' ∨ quote = '\'') (hfuel : text.length < fuel) :
    Takes (Stops (· == quote)) (linesText quote (quote == '"') fuel)
      (text ++ List.replicate (n + 3) quote) (· = cs ++ List.replicate n quote) := by
  obtain ⟨fuel, rfl⟩ := Nat.exists_eq_add_one_of_ne_zero (Nat.ne_zero_of_lt hfuel)
  induction h generalizing fuel with
  | nil =>
    refine .peek ?_
    simp only [if_true]
    refine (takes_runOf quote (n + 3)).last ?_ fun _ hrest => hrest
    rw [if_neg (by omega), if_pos (by omega)]
    exact .pure rfl
  | @cons c ds cs text hpiece _ ih =>
    have hpos := hpiece.length_pos
    rw [List.length_append] at hfuel
    obtain ⟨fuel, rfl⟩ := Nat.exists_eq_add_one_of_ne_zero (n := fuel) (by omega)
    have htail := ih fuel (by omega)
    rw [List.append_assoc]
    cases hpiece with
    | plain hvisible hne hslash =>
      have hreturn : c ≠ '\r' := by
        rintro rfl
        exact absurd hvisible (by decide)
      exact takes_linesText_cons hne hslash hreturn (by simp [isForbidden_of_visible hvisible])
        htail
    | escaped hdouble hescape =>
      subst hdouble
      obtain ⟨d, ds, rfl, hspace, hbreak⟩ := hescape.exists_cons
      refine .peek (.advance ?_)
      -- neither blanks nor a line end stand between the backslash and the escape
      refine (Takes.takeWhile (List.forall_mem_nil _)).andThen ?_ fun _ _ => stops_cons hspace _
      refine takes_no_newline.andThen ?_ fun _ _ => stops_cons hbreak _
      exact (takes_escape hescape fun _ => True).andThen (htail.map fun _ h => h ▸ rfl)
        fun _ _ => trivial
  | @lineFeed cs text _ ih =>
    rw [List.length_cons] at hfuel
    obtain ⟨fuel, rfl⟩ := Nat.exists_eq_add_one_of_ne_zero (n := fuel) (by omega)
    have hne : '\n' ≠ quote := by rcases hquote with rfl | rfl <;> decide
    exact takes_linesText_cons hne (fun _ => by decide) (by decide) (by decide)
      (ih fuel (by omega))
  | @quotes m c cs text hm hc _ ih =>
    rw [List.length_append, List.length_replicate] at hfuel
    obtain ⟨fuel, rfl⟩ := Nat.exists_eq_add_one_of_ne_zero (n := fuel) (by omega)
    obtain ⟨m, rfl⟩ := Nat.exists_eq_add_one_of_ne_zero (n := m) (by omega)
    rw [List.append_assoc]
    refine .peek ?_
    simp only [if_true]
    refine (takes_runOf quote (m + 1)).andThen ?_ fun _ _ => stops_cons (by simpa using hc) _
    rw [if_pos (by omega)]
    exact (ih fuel (by omega)).map fun _ h => by rw [h, List.append_assoc]
  | @continued sp e bs cs text hdouble hsp he hbs hstop _ ih =>
    subst hdouble
    simp only [List.length_cons, List.length_append] at hfuel
    obtain ⟨fuel, rfl⟩ := Nat.exists_eq_add_one_of_ne_zero (n := fuel) (by omega)
    have htext : '\\' :: (sp ++ (e ++ (bs ++ text))) ++ List.replicate (n + 3) '"' =
        '\\' :: (sp ++ (e ++ (bs ++ (text ++ List.replicate (n + 3) '"')))) := by simp
    rw [htext]
    refine .peek (.advance ?_)
    refine (Takes.takeWhile hsp).andThen ?_ fun _ _ => by
      cases he <;> exact stops_cons (by decide) _
    refine (takes_newline he fun _ => True).andThen ?_ fun _ _ => trivial
    refine (takes_blankLines hbs (by omega)).bind (fun _ _ => ih fuel (by omega)) fun rest _ => ?_
    rw [List.append_assoc]
    exact hstop.append (stops_cons (by decide) _)

/-! ## Strings of any kind -/

theorem Inside.stops (h : Inside quote cs text) (hquote : quote = '"' ∨ quote = '\'') :
    Stops (· == quote) text := by
  cases h with
  | nil => exact stops_nil _
  | cons hpiece _ =>
    cases hpiece with
    | plain _ hne _ => exact stops_cons (by simpa using hne) _
    | escaped => exact stops_cons (by rcases hquote with rfl | rfl <;> decide) _

/-- A string of one line does not start with three quotes. -/
theorem Inside.isPrefixOf_eq_false (h : Inside quote cs text)
    (hquote : quote = '"' ∨ quote = '\'') {rest : List Char} (hrest : Stops (· == quote) rest) :
    [quote, quote, quote].isPrefixOf (quote :: (text ++ [quote]) ++ rest) = false := by
  have hinside := h.stops hquote
  have hsecond : [quote, quote].isPrefixOf (text ++ quote :: rest) = false := by
    cases text with
    | nil =>
      have hthird : [quote].isPrefixOf rest = false := isPrefixOf_of_stops hrest
      simpa [List.isPrefixOf] using hthird
    | cons d ds =>
      have hd : (d == quote) = false := hinside d rfl
      exact isPrefixOf_of_stops (stops_cons (p := (· == quote)) hd _)
  simpa [List.isPrefixOf] using hsecond

theorem takes_firstBreak {e : List Char} (h : FirstBreak text e) :
    ∃ b, Takes (fun rest => ∃ more, rest = text ++ more ∧ Stops isBreak more) newline e
      (· = b) := by
  cases h with
  | none hstop =>
    refine ⟨false, takes_no_newline.before ?_⟩
    rintro _ ⟨more, rfl, hmore⟩
    exact hstop.append hmore
  | some he => exact ⟨true, takes_newline he _⟩

/-- A string is read as the text that it stands for. -/
theorem takes_quoted (h : SpellsText cs text) :
    ∃ quote more, text = quote :: more ∧ (quote = '"' ∨ quote = '\'') ∧
      Takes (Stops (· == quote)) (quoted quote) text (· = String.ofList cs) := by
  cases h with
  | @line quote _ text hquote hinside =>
    exact ⟨quote, _, rfl, hquote, Takes.attempt_not.andThen (takes_quotedLine hinside)
      fun rest hrest => hinside.isPrefixOf_eq_false hquote hrest⟩
  | @lines quote n cs e text hquote hn hbreak hlines =>
    refine ⟨quote, _, rfl, hquote, ?_⟩
    have hnot : isBreak quote = false := by rcases hquote with rfl | rfl <;> decide
    obtain ⟨b, hfirst⟩ := takes_firstBreak hbreak
    have hopen : Takes (fun _ => True) (Scan.attempt [quote, quote, quote]) [quote, quote, quote]
        (· = true) := .attempt _
    refine hopen.andThen ?_ fun _ _ => trivial
    refine hfirst.andThen (.room fun fuel hfuel => ?_) fun rest _ =>
      ⟨_, List.append_assoc _ _ _, stops_cons hnot _⟩
    rw [List.length_append] at hfuel
    exact (takes_linesText hlines hn hquote (by omega)).map fun _ h => h ▸ rfl

/-! ## Every text has a spelling -/

theorem isDigit_digitChar {base d : Nat} (h : d < base) : IsDigit base d (Nat.digitChar d) :=
  ⟨h, .inl rfl⟩

theorem exists_piece (c : Char) : ∃ ds, Piece '"' c ds := by
  by_cases hslash : c = '\\'
  · exact ⟨_, .escaped rfl (.short (e := '\\') (by simp [hslash]))⟩
  · by_cases hquote : c = '"'
    · exact ⟨_, .escaped rfl (.short (e := '"') (by simp [hquote]))⟩
    · by_cases hvisible : Visible c
      · exact ⟨_, .plain hvisible hquote fun _ => hslash⟩
      · have hlow : c.toNat < 256 := by
          by_contra hhigh
          exact hvisible (.inr ⟨by omega, by omega⟩)
        have hdigits : Digits 16 [Nat.digitChar (c.toNat / 16), Nat.digitChar (c.toNat % 16)]
            c.toNat := by
          refine ⟨[c.toNat / 16, c.toNat % 16], .cons (isDigit_digitChar (by omega))
            (.cons (isDigit_digitChar (by omega)) .nil), ?_⟩
          simp only [List.reverse_cons, List.reverse_nil, List.nil_append, List.singleton_append,
            Nat.ofDigits_cons, Nat.ofDigits_nil]
          omega
        have hescape : Escape c ('x' :: [Nat.digitChar (c.toNat / 16),
            Nat.digitChar (c.toNat % 16)]) := .code (by simp) rfl hdigits
        exact ⟨_, .escaped rfl hescape⟩

theorem exists_inside (cs : List Char) : ∃ text, Inside '"' cs text := by
  induction cs with
  | nil => exact ⟨_, .nil⟩
  | cons c cs ih =>
    obtain ⟨ds, hpiece⟩ := exists_piece c
    obtain ⟨text, htext⟩ := ih
    exact ⟨_, .cons hpiece htext⟩

end OpenUrl.Toml
