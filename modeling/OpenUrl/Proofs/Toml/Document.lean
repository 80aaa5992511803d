import Mathlib.Data.List.Forall2
import OpenUrl.Proofs.Toml.Scalar
import OpenUrl.Proofs.Toml.Text
import OpenUrl.Toml.Typed

/-!
# Documents of TOML that hold the fields of a record

A document holds one entry for each field, on a line of its own, among blank lines and comments.
Reading it gives these entries in the order of the lines.
-/
namespace OpenUrl

/-- What a value of a kind is in a document; a text that is absent is nothing. -/
def Kind.toToml? : (k : Kind) → k.Value → Option Toml.Scalar
  | natural, n => some (.integer n.toNat)
  | integer, n => some (.integer n.toInt)
  | text, s => some (.text s)
  | flag, b => some (.flag b)
  | optionalText, s => s.map .text

namespace Toml

variable {σ : Type} {s : σ} {f : Field σ} {fs gs : List (Field σ)}
  {after next : List Char → Prop} {text more cs : List Char}

/-! ## Spellings -/

/-- What stands for a name: itself, or a string of one line. -/
inductive SpellsKey : List Char → List Char → Prop
  | bare {cs : List Char} : cs ≠ [] → (∀ c ∈ cs, isBare c = true) → SpellsKey cs cs
  | quoted {quote : Char} {cs text : List Char} : quote = '"' ∨ quote = '\'' →
      Inside quote cs text → SpellsKey cs (quote :: (text ++ [quote]))

/-- What stands for a scalar. -/
inductive SpellsScalar : Scalar → List Char → Prop
  | text {s : String} {text : List Char} : SpellsText s.toList text → SpellsScalar (.text s) text
  | integer {n : Int} {text : List Char} : SpellsInteger n text → SpellsScalar (.integer n) text
  | flag (b : Bool) : SpellsScalar (.flag b) (toString b).toList

/-- The entry of a field of `s`. -/
inductive Entry (s : σ) (f : Field σ) : List Char → Prop
  | mk {x : Scalar} {key a b text : List Char} : SpellsKey f.name.toList key → Spaces a →
      Spaces b → f.kind.toToml? (f.get s) = some x → SpellsScalar x text →
        Entry s f (key ++ (a ++ '=' :: (b ++ text)))

inductive Comment : List Char → Prop
  | none : Comment []
  | some {cs : List Char} : (∀ c ∈ cs, Visible c) → Comment ('#' :: cs)

/-- A line: blank, or with the entry of a field. -/
inductive Line (s : σ) : List (Field σ) → List Char → Prop
  | blank {sp cm : List Char} : Spaces sp → Comment cm → Line s [] (sp ++ cm)
  | entry {f : Field σ} {indent text sp cm : List Char} : Spaces indent → Entry s f text →
      Spaces sp → Comment cm → Line s [f] (indent ++ (text ++ (sp ++ cm)))

/-- Lines that hold exactly the given fields of `s`, in this order. -/
inductive Lines (s : σ) : List (Field σ) → List Char → Prop
  | last {fs : List (Field σ)} {line : List Char} : Line s fs line → Lines s fs line
  | cons {fs gs : List (Field σ)} {line e text : List Char} : Line s fs line → LineEnd e →
      Lines s gs text → Lines s (fs ++ gs) (line ++ (e ++ text))

/-- A document that holds exactly the given fields of `s`, in this order. -/
inductive Writes (s : σ) (fs : List (Field σ)) : List Char → Prop
  | plain {text : List Char} : Lines s fs text → Writes s fs text
  | marked {text : List Char} : Lines s fs text → Writes s fs ('\uFEFF' :: text)

/-! ## Keys -/

/-- What ends a key. -/
def endsKey (c : Char) : Bool := !isBare c && c != '"' && c != '\''

theorem takes_simpleKey (h : SpellsKey cs text) :
    Takes (Stops (!endsKey ·)) simpleKey text (·.name = String.ofList cs) := by
  refine .offset fun start => ?_
  have hend (name : String) (hname : name = String.ofList cs) :
      Takes (Stops (!endsKey ·)) (Scan.offset >>= fun stop => pure (⟨name, ⟨start, stop⟩⟩ : Key)) []
        (·.name = String.ofList cs) :=
    .offset fun _ => .pure hname
  cases h with
  | bare hne hbare =>
    obtain ⟨c, cs, rfl⟩ := List.exists_cons_of_ne_nil hne
    have hc : isBare c = true := hbare c List.mem_cons_self
    refine .peek ?_
    dsimp only
    split
    · rename_i heq
      obtain rfl := Option.some.inj heq
      exact absurd hc (by decide)
    · rename_i heq
      obtain rfl := Option.some.inj heq
      exact absurd hc (by decide)
    · exact (Takes.takeWhile hbare).last (hend _ rfl) fun _ hrest =>
        hrest.imp fun c hc => by simp_all [endsKey]
  | @quoted quote cs text hquote hinside =>
    have hread : Takes (Stops (!endsKey ·)) (quotedLine quote >>= fun name =>
        Scan.offset >>= fun stop => pure (⟨name, ⟨start, stop⟩⟩ : Key))
        (quote :: (text ++ [quote])) (·.name = String.ofList cs) :=
      (takes_quotedLine hinside).last (hend _ rfl) fun _ _ => trivial
    refine .peek ?_
    rcases hquote with rfl | rfl
    · exact Takes.attempt_not.andThen hread fun rest hrest =>
        hinside.isPrefixOf_eq_false (.inl rfl) (hrest.imp fun c hc => by simp_all [endsKey])
    · exact Takes.attempt_not.andThen hread fun rest hrest =>
        hinside.isPrefixOf_eq_false (.inr rfl) (hrest.imp fun c hc => by simp_all [endsKey])

/-- The equals sign comes next. -/
def Equals (rest : List Char) : Prop := rest.head? = some '='

theorem Equals.stops {rest : List Char} (h : Equals rest) {p : Char → Bool} (hp : p '=' = false) :
    Stops p rest := by
  cases rest with
  | nil => cases h
  | cons c cs =>
    obtain rfl := Option.some.inj h
    exact stops_cons hp cs

theorem takes_spaces {sp : List Char} (h : Spaces sp) :
    Takes (Stops isSpace) spaces sp (· = ()) :=
  (Takes.takeWhile h).map fun _ _ => rfl

/-- A key without dots has one part. -/
theorem takes_keyParts {sp : List Char} (hsp : Spaces sp) (k : Key) (fuel : Nat) :
    Takes Equals (keyParts (fuel + 1) k) sp (· = ([], k)) := by
  refine (takes_spaces hsp).last ?_ fun _ hrest => hrest.stops (by decide)
  exact Takes.attempt_not.andThen (.pure rfl) fun rest hrest =>
    isPrefixOf_of_stops (hrest.stops (by decide))

theorem takes_key {sp : List Char} (h : SpellsKey cs text) (hsp : Spaces sp) :
    Takes Equals key (text ++ sp) fun k => k.1 = [] ∧ k.2.name = String.ofList cs := by
  refine (takes_simpleKey h).bind (fun k hk => .room fun n hn => ?_) fun rest hrest => ?_
  · obtain ⟨fuel, rfl⟩ := Nat.exists_eq_add_one_of_ne_zero (Nat.ne_zero_of_lt hn)
    exact (takes_keyParts hsp k fuel).last (.pure ⟨rfl, hk⟩) fun _ hrest => hrest
  · have hspace : Stops (!endsKey ·) sp := fun c hc => by
      have hc' := hsp c (List.mem_of_mem_head? hc)
      simp only [isSpace, Bool.or_eq_true, beq_iff_eq] at hc'
      rcases hc' with rfl | rfl <;> decide
    exact hspace.append (hrest.stops (by decide))

/-! ## Values -/

variable {x : Scalar}

/-- A scalar that is no integer, or one that a type holds. -/
def Scalar.Held : Scalar → Prop
  | .integer n => -2 ^ 127 ≤ n ∧ n < 2 ^ 128
  | _ => True

theorem held_of_toToml? {k : Kind} {v : k.Value} (h : k.toToml? v = some x) : x.Held := by
  cases k with
  | natural =>
    change UInt64 at v
    obtain rfl := Option.some.inj h
    have hlt : v.toNat < 2 ^ 64 := v.toNat_lt
    exact ⟨by omega, by omega⟩
  | integer =>
    change Int32 at v
    obtain rfl := Option.some.inj h
    have hlow : -2 ^ 31 ≤ v.toInt := v.le_toInt
    have hhigh : v.toInt < 2 ^ 31 := v.toInt_lt
    exact ⟨by omega, by omega⟩
  | text | flag =>
    obtain rfl := Option.some.inj h
    trivial
  | optionalText =>
    obtain ⟨s, -, rfl⟩ := Option.map_eq_some_iff.mp h
    trivial

theorem takes_bareValue {c : Char} (hc : c ∉ ['"', '\'', '[', '\x7b'])
    (hread : Takes (Stops (!endsScalar ·)) bareScalar (c :: cs) (· = x)) (fuel depth : Nat) :
    Takes (Stops (!endsScalar ·)) (value (fuel + 1) depth) (c :: cs)
      fun v => ∃ span, v = .scalar x span := by
  have hnone {d : Char} (hd : d ∈ ['"', '\'', '[', '\x7b']) : some c ≠ some d := by
    rintro heq
    exact hc (Option.some.inj heq ▸ hd)
  rw [value]
  refine .offset fun start => .peek ?_
  split
  · exact absurd ‹_› (hnone (by simp))
  · exact absurd ‹_› (hnone (by simp))
  · exact absurd ‹_› (hnone (by simp))
  · exact absurd ‹_› (hnone (by simp))
  · exact hread.last (.offset fun _ => .pure ⟨_, rfl⟩) fun _ hrest => hrest

/-- A scalar is read as it was written. -/
theorem takes_value (h : SpellsScalar x text) (hx : x.Held) (fuel depth : Nat) :
    Takes (Stops (!endsScalar ·)) (value (fuel + 1) depth) text
      fun v => ∃ span, v = .scalar x span := by
  cases h with
  | @text s _ h =>
    obtain ⟨quote, more, rfl, hquote, hread⟩ := takes_quoted h
    rw [String.ofList_toList] at hread
    have hvalue (start : Nat) : Takes (Stops (!endsScalar ·)) (quoted quote >>= fun s =>
        Scan.offset >>= fun stop => pure (Value.scalar (.text s) ⟨start, stop⟩)) (quote :: more)
        fun v => ∃ span, v = .scalar (.text s) span :=
      hread.last (.offset fun _ => .pure ⟨_, rfl⟩) fun _ hrest => hrest.imp fun c hc => by
        rw [Bool.not_eq_false'] at hc
        rw [beq_eq_false_iff_ne]
        rintro rfl
        rcases hquote with rfl | rfl <;> exact absurd hc (by decide)
    rw [value]
    refine .offset fun start => .peek ?_
    rcases hquote with rfl | rfl
    · exact hvalue start
    · exact hvalue start
  | integer h =>
    have hread := takes_integer h hx.1 hx.2
    obtain ⟨c, cs, rfl, hc, -⟩ := h.exists_cons
    refine takes_bareValue (fun hmem => ?_) hread fuel depth
    simp only [List.mem_cons, List.not_mem_nil, or_false] at hmem
    rcases hmem with rfl | rfl | rfl | rfl <;> exact absurd hc (by decide)
  | flag b =>
    have hread := takes_flag b
    cases b
    · exact takes_bareValue (by decide) hread fuel depth
    · exact takes_bareValue (by decide) hread fuel depth

/-! ## Lines -/

variable {sp cm e : List Char}

/-- Nothing but a line end comes next. -/
abbrev EndsLine (rest : List Char) : Prop := Stops (!isBreak ·) rest

theorem LineEnd.endsLine (h : LineEnd e) (rest : List Char) : EndsLine (e ++ rest) := by
  cases h <;> exact stops_cons (by decide) _

theorem takes_comment (h : Comment cm) : Takes EndsLine comment cm (· = ()) := by
  cases h with
  | none =>
    refine .look fun c? rest hrest o => ?_
    have hhash : c? ≠ some '#' := by
      rintro rfl
      exact absurd (hrest.1 '#' hrest.2) (by decide)
    rw [if_neg hhash]
    exact ⟨(), o, rfl, rfl⟩
  | @some cs hcs =>
    have hvisible : ∀ c ∈ '#' :: cs, Visible c := List.forall_mem_cons.mpr ⟨by decide, hcs⟩
    have hline : ∀ c ∈ '#' :: cs, (c != '\n' && c != '\r') = true := by
      intro c hc
      have hbreak : c ≠ '\n' ∧ c ≠ '\r' := by
        constructor <;> rintro rfl <;> exact absurd (hvisible _ hc) (by decide)
      simpa using hbreak
    have hfine : ('#' :: cs).any isForbidden = false := by
      rw [List.any_eq_false]
      intro c hc
      simp [isForbidden_of_visible (hvisible c hc)]
    refine .peek ?_
    rw [if_pos rfl]
    refine (Takes.takeWhile hline).last ?_ fun _ hrest => hrest.imp fun c hc => by
      simp_all [isBreak]
    simp only [hfine, Bool.false_eq_true, if_false]
    exact .pure trivial

theorem Comment.stops_isSpace (h : Comment cm) {rest : List Char} (hrest : EndsLine rest) :
    Stops isSpace (cm ++ rest) := by
  cases h with
  | none =>
    refine hrest.imp fun c hc => ?_
    simp only [isBreak, Bool.not_eq_false', Bool.or_eq_true, beq_iff_eq] at hc
    rcases hc with rfl | rfl <;> decide
  | some => exact stops_cons (by decide) _

theorem takes_lineEnd (hsp : Spaces sp) (hcm : Comment cm) (he : LineEnd e)
    (after : List Char → Prop) : Takes after lineEnd (sp ++ (cm ++ e)) (· = true) := by
  refine (takes_spaces hsp).andThen ?_ fun rest _ => by
    rw [List.append_assoc]
    exact hcm.stops_isSpace (he.endsLine rest)
  refine (takes_comment hcm).andThen ?_ fun rest _ => he.endsLine rest
  exact (takes_newline he after).last (.pure rfl) fun _ hrest => hrest

/-- Behind the last line stands nothing. -/
theorem takes_lineEnd_last (hsp : Spaces sp) (hcm : Comment cm) :
    Takes (· = []) lineEnd (sp ++ cm) (· = false) := by
  have hnil {p : Char → Bool} (rest : List Char) (hrest : rest = []) : Stops p rest := by
    rw [hrest]
    exact stops_nil p
  refine (takes_spaces hsp).andThen ?_ fun rest hrest => hcm.stops_isSpace (hnil rest hrest)
  refine (takes_comment hcm).last ?_ hnil
  refine takes_no_newline.andThen (.look fun c? => ?_) hnil
  cases c? with
  | none => exact .pure rfl
  | some c =>
    rintro _ ⟨rfl, hnext⟩
    cases hnext

/-- What is done behind the entry of a line. -/
def goOn (fuel : Nat) (d : Draft) : Scan Draft := do
  if ← lineEnd then lines fuel d else pure d

variable {fuel : Nat} {d : Draft} {Q : Draft → Prop}

/-- A line without an entry leaves the draft as it is. -/
theorem takes_lines_blank (hsp : Spaces sp) (hrest : Takes after (goOn fuel d) text Q)
    (hstop : ∀ rest, after rest → Stops (fun c => !(isBreak c || c == '#')) (text ++ rest)) :
    Takes after (lines (fuel + 1) d) (sp ++ text) Q := by
  refine (takes_spaces hsp).andThen (.look fun c? => ?_) fun rest hafter => ?_
  · rintro rest ⟨hafter, hnext⟩ o
    have hc : ∀ c, c? = some c → c = '\n' ∨ c = '\r' ∨ c = '#' := by
      intro c hc
      have hstop' := hstop rest hafter c (hnext.trans hc)
      simp only [isBreak, Bool.not_eq_false', Bool.or_eq_true, beq_iff_eq] at hstop'
      exact or_assoc.mp hstop'
    cases c? with
    | none => exact hrest rest hafter o
    | some c => rcases hc c rfl with rfl | rfl | rfl <;> exact hrest rest hafter o
  · refine (hstop rest hafter).imp fun c hc => ?_
    simp only [isBreak, Bool.not_eq_false', Bool.or_eq_true, beq_iff_eq] at hc
    rcases hc with (rfl | rfl) | rfl <;> decide

/-- The value of an entry that writes a field of `s`. -/
def Stores (s : σ) (f : Field σ) (v : Value) : Prop :=
  ∃ x span, f.kind.toToml? (f.get s) = some x ∧ v = .scalar x span

theorem SpellsKey.exists_cons (h : SpellsKey cs text) :
    ∃ c more, text = c :: more ∧ endsKey c = false := by
  cases h with
  | bare hne hbare =>
    obtain ⟨c, cs, rfl⟩ := List.exists_cons_of_ne_nil hne
    exact ⟨c, cs, rfl, by simp [endsKey, hbare c List.mem_cons_self]⟩
  | quoted hquote _ =>
    exact ⟨_, _, rfl, by rcases hquote with rfl | rfl <;> decide⟩

theorem isSpace_of_isDigit {c : Char} (h : c.isDigit = true) : isSpace c = false := by
  rw [isSpace, Bool.or_eq_false_iff, beq_eq_false_iff_ne, beq_eq_false_iff_ne]
  constructor <;> rintro rfl <;> exact absurd h (by decide)

theorem SpellsScalar.stops_isSpace (h : SpellsScalar x text) (more : List Char) :
    Stops isSpace (text ++ more) := by
  cases h with
  | text h =>
    obtain ⟨quote, _, rfl, hquote, -⟩ := takes_quoted h
    exact stops_cons (by rcases hquote with rfl | rfl <;> decide) _
  | integer h =>
    obtain ⟨c, _, rfl, hc, -⟩ := h.exists_cons
    refine stops_cons ?_ _
    rcases hc with rfl | rfl | hdigit
    · decide
    · decide
    · exact isSpace_of_isDigit hdigit
  | flag b => cases b <;> exact stops_cons (by decide) _

/-- A line with an entry adds it to the draft. -/
theorem takes_lines_entry {entry : List Char} (hsp : Spaces sp) (h : Entry s f entry)
    (hrest : ∀ k v, k.name = f.name → Stores s f v →
      ∃ d', d.set [] k v = some d' ∧ Takes after (goOn fuel d') text Q)
    (hstop : ∀ rest, after rest → Stops (!endsScalar ·) (text ++ rest)) :
    Takes after (lines (fuel + 1) d) (sp ++ (entry ++ text)) Q := by
  obtain ⟨hkey, ha, hb, hx, hscalar⟩ := h
  rename_i x key a b written
  obtain ⟨c, more, hcons, hc⟩ := hkey.exists_cons
  have hhead {y : Char} (hy : endsKey y = true) : c ≠ y := by
    rintro rfl
    exact absurd hy (by simp [hc])
  refine (takes_spaces hsp).andThen (.peek_head (by rw [hcons]; rfl) ?_) fun rest _ => ?_
  · dsimp only
    have htext : key ++ (a ++ '=' :: (b ++ written)) ++ text =
        key ++ a ++ ('=' :: (b ++ (written ++ text))) := by simp
    split
    · cases ‹some c = none›
    · exact absurd (Option.some.inj ‹_›) (hhead (by decide))
    · exact absurd (Option.some.inj ‹_›) (hhead (by decide))
    · exact absurd (Option.some.inj ‹_›) (hhead (by decide))
    · exact absurd (Option.some.inj ‹_›) (hhead (by decide))
    · rw [htext]
      refine (takes_key hkey ha).bind (fun k hk => ?_) fun _ _ => rfl
      obtain ⟨path, k⟩ := k
      obtain ⟨rfl, hname⟩ := hk
      have hequals : Takes (fun _ => True) (Scan.expect '=') ['='] fun _ => True := .expect '='
      refine hequals.bind (fun _ _ => ?_) fun _ _ => trivial
      refine (takes_spaces hb).andThen ?_ fun rest _ => ?_
      · refine .room fun n hn => ?_
        obtain ⟨n, rfl⟩ := Nat.exists_eq_add_one_of_ne_zero (Nat.ne_zero_of_lt hn)
        refine (takes_value hscalar (held_of_toToml? hx) n 0).bind (fun v hv => ?_) hstop
        obtain ⟨span, hv⟩ := hv
        obtain ⟨d', hset, hgo⟩ := hrest k v (by simpa using hname) ⟨_, span, hx, hv⟩
        simp only [hset]
        exact hgo
      · rw [List.append_assoc]
        exact hscalar.stops_isSpace _
  · rw [hcons]
    refine stops_cons ?_ _
    simp only [isSpace, Bool.or_eq_false_iff, beq_eq_false_iff_ne]
    exact ⟨hhead (by decide), hhead (by decide)⟩

/-! ## Documents -/

/-- The lines so far have given exactly these fields of `s`, all of them to the root. -/
structure Holds (s : σ) (fs : List (Field σ)) (d : Draft) : Prop where
  header : d.header = none
  origin : d.current.origin = .header
  entries : List.Forall₂ (fun f e => e.1.name = f.name ∧ Stores s f e.2) fs d.current.entries

theorem holds_start (s : σ) : Holds s [] Draft.start := ⟨rfl, rfl, .nil⟩

theorem Holds.find?_eq_none (h : Holds s fs d) {k : Key} (hk : ∀ f ∈ fs, f.name ≠ k.name) :
    d.current.find? k.name = none := by
  have hentries := h.entries
  have hother : ∀ e ∈ d.current.entries, ¬ (e.1.name == k.name) = true := by
    clear h
    generalize d.current.entries = es at hentries
    induction hentries with
    | nil => simp
    | cons he _ ih =>
      obtain ⟨hf, htail⟩ := List.forall_mem_cons.mp hk
      exact List.forall_mem_cons.mpr ⟨by simpa [he.1] using hf, ih htail⟩
  rw [Table.find?, List.find?_eq_none.mpr hother, Option.map_none]

/-- An entry for another field is added behind the others. -/
theorem Holds.set (h : Holds s fs d) (hf : ∀ g ∈ fs, g.name ≠ f.name) {k : Key} {v : Value}
    (hk : k.name = f.name) (hv : Stores s f v) :
    ∃ d', d.set [] k v = some d' ∧ Holds s (fs ++ [f]) d' := by
  have hnew : d.current.find? k.name = none := h.find?_eq_none (hk ▸ hf)
  refine ⟨{ d with current := d.current.add k v }, ?_, h.header, h.origin, ?_⟩
  · have horigin := h.origin
    simp [Draft.set, Table.set, Table.update, horigin, hnew]
  · exact List.rel_append h.entries (.cons ⟨hk, hv⟩ .nil)

/-- A line is read with what is done behind it. -/
theorem takes_line {line : List Char} (h : Line s gs line) (hd : Holds s fs d)
    (hnodup : ((fs ++ gs).map Field.name).Nodup)
    (hend : ∀ rest, after rest → EndsLine (text ++ rest))
    (hgo : ∀ d', Holds s (fs ++ gs) d' → ∀ sp cm, Spaces sp → Comment cm →
      Takes after (goOn fuel d') (sp ++ (cm ++ text)) Q) :
    Takes after (lines (fuel + 1) d) (line ++ text) Q := by
  have hcomment {cm : List Char} (hcm : Comment cm) (rest : List Char) (hrest : after rest) :
      Stops (fun c => !(isBreak c || c == '#')) (cm ++ text ++ rest) := by
    rw [List.append_assoc]
    cases hcm with
    | none => exact (hend rest hrest).imp fun c hc => by simp_all
    | some => exact stops_cons (by decide) _
  cases h with
  | @blank sp cm hsp hcm =>
    rw [List.append_nil] at hgo
    rw [List.append_assoc]
    exact takes_lines_blank hsp (hgo d hd [] cm (List.forall_mem_nil _) hcm) (hcomment hcm)
  | @entry f indent entry sp cm hindent hentry hsp hcm =>
    have hnew : ∀ g ∈ fs, g.name ≠ f.name := by
      rw [List.map_append, List.nodup_append] at hnodup
      exact fun g hg => hnodup.2.2 _ (List.mem_map_of_mem hg) _ (by simp)
    have htext : indent ++ (entry ++ (sp ++ cm)) ++ text =
        indent ++ (entry ++ (sp ++ (cm ++ text))) := by simp
    rw [htext]
    refine takes_lines_entry hindent hentry (fun k v hk hv => ?_) fun rest hrest => ?_
    · obtain ⟨d', hset, hd'⟩ := hd.set hnew hk hv
      exact ⟨d', hset, hgo d' hd' sp cm hsp hcm⟩
    · have hspaces : Stops (!endsScalar ·) sp := fun c hc => by
        simp [endsScalar, hsp c (List.mem_of_mem_head? hc)]
      rw [List.append_assoc]
      refine hspaces.append ((hcomment hcm rest hrest).imp fun c hc => ?_)
      simp only [isBreak, Bool.not_eq_false', Bool.or_eq_true, beq_iff_eq] at hc
      rcases hc with (rfl | rfl) | rfl <;> decide

/-- The lines of a document are read, and their entries come behind those before. -/
theorem takes_lines (h : Lines s gs text) (hd : Holds s fs d)
    (hnodup : ((fs ++ gs).map Field.name).Nodup) (hfuel : text.length < fuel) :
    Takes (· = []) (lines fuel d) text (Holds s (fs ++ gs)) := by
  obtain ⟨fuel, rfl⟩ := Nat.exists_eq_add_one_of_ne_zero (Nat.ne_zero_of_lt hfuel)
  induction h generalizing fs d fuel with
  | @last gs line hline =>
    rw [← List.append_nil line]
    refine takes_line hline hd hnodup ?_ fun d' hd' sp cm hsp hcm => ?_
    · rintro _ rfl
      exact stops_nil _
    · rw [List.append_nil]
      exact (takes_lineEnd_last hsp hcm).last (.pure hd') fun _ hrest => hrest
  | @cons gs gs' line e text hline he _ ih =>
    rw [← List.append_assoc fs] at hnodup ⊢
    have hlength : 0 < e.length := by cases he <;> simp
    simp only [List.length_append] at hfuel
    obtain ⟨fuel, rfl⟩ := Nat.exists_eq_add_one_of_ne_zero (n := fuel) (by omega)
    have hfirst : ((fs ++ gs).map Field.name).Nodup := by
      rw [List.map_append] at hnodup
      exact (List.nodup_append.mp hnodup).1
    refine takes_line hline hd hfirst (fun rest _ => ?_) fun d' hd' sp cm hsp hcm => ?_
    · rw [List.append_assoc]
      exact he.endsLine _
    · have htext : sp ++ (cm ++ (e ++ text)) = sp ++ (cm ++ e) ++ text := by simp
      rw [htext]
      exact (takes_lineEnd hsp hcm he fun _ => True).andThen
        (ih hd' hnodup fuel (by omega)) fun _ _ => trivial

/-- No line starts with a byte order mark. -/
theorem Line.stops {line : List Char} (h : Line s gs line) : Stops (· == '\uFEFF') line := by
  have hspaces {sp : List Char} (hsp : Spaces sp) : Stops (· == '\uFEFF') sp := fun c hc => by
    rw [beq_eq_false_iff_ne]
    rintro rfl
    exact absurd (hsp _ (List.mem_of_mem_head? hc)) (by decide)
  cases h with
  | blank hsp hcm =>
    refine (hspaces hsp).append ?_
    cases hcm with
    | none => exact stops_nil _
    | some => exact stops_cons (by decide) _
  | entry hindent hentry _ _ =>
    refine (hspaces hindent).append ?_
    obtain ⟨hkey, -, -, -, -⟩ := hentry
    obtain ⟨c, _, rfl, hc⟩ := hkey.exists_cons
    refine stops_cons ?_ _
    rw [beq_eq_false_iff_ne]
    rintro rfl
    exact absurd hc (by decide)

theorem Lines.stops (h : Lines s gs text) : Stops (· == '\uFEFF') text := by
  cases h with
  | last hline => exact hline.stops
  | cons hline he _ =>
    refine hline.stops.append ?_
    cases he <;> exact stops_cons (by decide) _

/-- A document is read as the entries of the fields that it writes. -/
theorem read_eq (h : Writes s fs text) (hnodup : (fs.map Field.name).Nodup) :
    ∃ es, read (String.ofList text) = some es ∧
      List.Forall₂ (fun f e => e.1.name = f.name ∧ Stores s f e.2) fs es := by
  have hread : Takes (· = []) (mark >>= fun _ => room >>= fun n => lines n Draft.start) text
      (Holds s fs) := by
    cases h with
    | plain h =>
      have hmark : Takes (Stops (· == '\uFEFF')) mark [] (· = ()) :=
        Takes.attempt_not.andThen (.pure rfl) fun rest hrest => isPrefixOf_of_stops hrest
      refine hmark.andThen (.room fun n hn => ?_) fun rest hrest => ?_
      · exact takes_lines h (holds_start s) hnodup hn
      · rw [hrest, List.append_nil]
        exact h.stops
    | @marked text h =>
      have hmark : Takes (fun _ => True) mark ['\uFEFF'] (· = ()) :=
        (Takes.attempt ['\uFEFF']).map fun _ _ => rfl
      exact hmark.andThen (.room fun n hn => takes_lines h (holds_start s) hnodup hn)
        fun _ _ => trivial
  obtain ⟨d, o, hd, hholds⟩ := hread [] rfl 0
  refine ⟨d.current.entries, ?_, hholds.entries⟩
  rw [List.append_nil] at hd
  have hstart : Text.Cursor.start (String.ofList text) = ⟨text, 0⟩ := by
    simp [Text.Cursor.start]
  have hfinish : d.finish = some d.current := by
    simp [Draft.finish, hholds.header]
  have hdone : read (String.ofList text) = (do
      let r ← (mark >>= fun _ => room >>= fun n => lines n Draft.start : Scan Draft) ⟨text, 0⟩
      let t ← r.1.finish
      some t.entries) := by
    rw [read, hstart]
  rw [hdone, hd]
  simp [hfinish]

/-! ## Fields of values that a document can hold -/

theorem exists_spellsScalar {k : Kind} {v : k.Value} (h : k.toToml? v = some x) :
    ∃ text, SpellsScalar x text := by
  cases x with
  | text s =>
    obtain ⟨text, hinside⟩ := exists_inside s.toList
    exact ⟨_, .text (.line (.inl rfl) hinside)⟩
  | integer n =>
    obtain ⟨text, hinteger⟩ := exists_spellsInteger n
    exact ⟨text, .integer hinteger⟩
  | flag b => exact ⟨_, .flag b⟩
  | real | moment | unbounded => cases k <;> simp [Kind.toToml?] at h

theorem exists_entry (h : (f.kind.toToml? (f.get s)).isSome = true) :
    ∃ text, Entry s f text := by
  obtain ⟨x, hx⟩ := Option.isSome_iff_exists.mp h
  obtain ⟨key, hkey⟩ := exists_inside f.name.toList
  obtain ⟨text, htext⟩ := exists_spellsScalar hx
  exact ⟨_, .mk (.quoted (.inl rfl) hkey) (List.forall_mem_nil _) (List.forall_mem_nil _) hx htext⟩

/-- All but absent texts can be written. -/
theorem exists_writes (h : ∀ f ∈ fs, (f.kind.toToml? (f.get s)).isSome = true) :
    ∃ text, Writes s fs text := by
  have hnone : Spaces [] := List.forall_mem_nil _
  have hlines : ∃ text, Lines s fs text := by
    induction fs with
    | nil => exact ⟨_, .last (.blank hnone .none)⟩
    | cons f fs ih =>
      obtain ⟨hf, hfs⟩ := List.forall_mem_cons.mp h
      obtain ⟨text, hentry⟩ := exists_entry hf
      obtain ⟨more, hmore⟩ := ih hfs
      exact ⟨_, .cons (.entry hnone hentry hnone .none) .lineFeed hmore⟩
  obtain ⟨text, h⟩ := hlines
  exact ⟨text, .plain h⟩

end Toml

end OpenUrl
