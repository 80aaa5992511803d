import OpenUrl.Proofs.Json.Value

/-!
# Objects that hold the fields of a record

A text of JSON may be written in many ways: blanks stand between its parts, and a character of a
string stands for itself or behind a backslash. What is written for a record is one of the texts
that hold its fields.
-/
namespace OpenUrl.Json

open OpenUrl.Text (Cursor byteLength)

variable {σ α β : Type} {s : σ} {fs : List (Field σ)} {after : List Char → Prop}
  {text : List Char}

/-! ## Spellings -/

/-- What stands for a value without brackets. -/
inductive SpellsValue : Value → List Char → Prop
  | null : SpellsValue .null "null".toList
  | flag (b : Bool) : SpellsValue (.boolean b) (toString b).toList
  | whole (n : Int) : SpellsValue (.number (.whole n)) (toString n).toList
  | text {s : String} {text : List Char} : SpellsText s.toList text → SpellsValue (.text s) text

def Blanks (cs : List Char) : Prop := ∀ c ∈ cs, isBlank c = true

/-- The inside of an object that holds exactly the given fields of `s`, in this order. -/
inductive Members (s : σ) : Bool → List (Field σ) → List Char → Prop
  | none {first : Bool} {sp : List Char} : Blanks sp → Members s first [] sp
  | some {first : Bool} {f : Field σ} {fs : List (Field σ)} {sp a key b d text more : List Char} :
      Blanks sp → Blanks a → SpellsText f.name.toList key → Blanks b → Blanks d →
        SpellsValue (f.kind.toJson (f.get s)) text → Members s false fs more →
          Members s first (f :: fs)
            (sp ++ (lead first ++ (a ++ (key ++ (b ++ ':' :: (d ++ (text ++ more)))))))

/-- An object that holds exactly the given fields of `s`, in this order. -/
inductive Writes (s : σ) (fs : List (Field σ)) : List Char → Prop
  | mk {a b text : List Char} : Blanks a → Members s true fs text → Blanks b →
      Writes s fs (a ++ '\x7b' :: (text ++ '\x7d' :: b))

theorem spellsValue_render (k : Kind) (v : k.Value) :
    SpellsValue (k.toJson v) (render (k.toJson v)) := by
  cases k with
  | natural | integer => exact .whole _
  | text => exact .text (spellsText_renderText v)
  | flag => exact .flag v
  | optionalText =>
    cases v with
    | none => exact .null
    | some s => exact .text (spellsText_renderText s)

theorem members_renderMembers (s : σ) (first : Bool) (fs : List (Field σ)) :
    Members s first fs
      (renderMembers first (fs.map fun f => (f.name, f.kind.toJson (f.get s)))) := by
  have hnone : Blanks [] := List.forall_mem_nil _
  induction fs generalizing first with
  | nil => exact .none hnone
  | cons f fs ih =>
    have hmembers : Members s first (f :: fs) _ := .some hnone hnone
      (spellsText_renderText f.name) hnone hnone (spellsValue_render f.kind (f.get s)) (ih false)
    simpa [renderMembers] using hmembers

/-- Fields of any values can be written. -/
theorem exists_writes (s : σ) (fs : List (Field σ)) : ∃ text, Writes s fs text := by
  have hnone : Blanks [] := List.forall_mem_nil _
  exact ⟨_, .mk hnone (members_renderMembers s true fs) hnone⟩

theorem writes_toJson (r : Record σ) (s : σ) : Writes s r.fields (render (r.toJson s)) := by
  have hnone : Blanks [] := List.forall_mem_nil _
  have hwrites := Writes.mk hnone (members_renderMembers s true r.fields) hnone
  rwa [List.nil_append, ← Record.jsonFields, ← renderFields_eq] at hwrites

theorem Members.length_le {first : Bool} (h : Members s first fs text) :
    fs.length ≤ text.length := by
  induction h with
  | none => exact Nat.zero_le _
  | some =>
    simp only [List.length_append, List.length_cons]
    omega

theorem ends_append {blank rest : List Char} (hblank : Blanks blank) (hrest : Ends rest) :
    Ends (blank ++ rest) := by
  cases blank with
  | nil => exact hrest
  | cons c cs => exact ends_cons (ends_of_blank hblank c rfl) _

/-- What stands behind a value in an object. -/
theorem Members.ends (h : Members s false fs text) {rest : List Char} (hrest : ClosesObject rest) :
    Ends (text ++ rest) := by
  cases h with
  | none hsp =>
    obtain ⟨cs, rfl⟩ := hrest.exists_cons
    exact ends_append hsp (ends_cons (by decide) cs)
  | some hsp =>
    rw [List.append_assoc]
    exact ends_append hsp (ends_cons (by decide) _)

/-! ## Blanks in front -/

/-- A reader that passes over the blanks in front before anything else. -/
def PassesBlanks (r : Reader α) : Prop := ∀ c, r c = r (c.skip isBlank)

theorem skip_append {blank rest : List Char} (h : Blanks blank) (o : Nat) :
    Cursor.skip isBlank ⟨blank ++ rest, o⟩ = Cursor.skip isBlank ⟨rest, o + byteLength blank⟩ := by
  simp only [Cursor.skip, Cursor.ahead, List.dropWhile_append_of_pos h,
    List.takeWhile_append_of_pos h, Text.byteLength_append, Nat.add_assoc]

theorem skip_skip (c : Cursor) : (c.skip isBlank).skip isBlank = c.skip isBlank := by
  have hstop : ∀ a ∈ (c.skip isBlank).rest.head?, isBlank a = false := by
    intro a ha
    have hnot := List.head?_dropWhile_not isBlank c.rest
    rw [Cursor.rest_skip, Option.mem_def] at ha
    rw [ha] at hnot
    simpa using hnot
  generalize c.skip isBlank = next at hstop
  obtain ⟨rest, o⟩ := next
  cases rest with
  | nil => rfl
  | cons a cs => exact Cursor.skip_of_not (hstop a rfl) cs o

theorem passesBlanks_blanks (f : Unit → Reader α) : PassesBlanks (Reader.blanks >>= f) := by
  intro c
  change f () (c.skip isBlank) = f () ((c.skip isBlank).skip isBlank)
  rw [skip_skip]

theorem PassesBlanks.bind {r : Reader α} (h : PassesBlanks r) (f : α → Reader β) :
    PassesBlanks (r >>= f) := by
  intro c
  change Reader.bind r f c = Reader.bind r f _
  rw [Reader.bind, Reader.bind, h c]

/-- Blanks in front do not matter to such a reader. -/
theorem Reads.behind {r : Reader α} {a : α} (h : Reads after r text a) (hr : PassesBlanks r)
    {blank : List Char} (hblank : Blanks blank) : Reads after r (blank ++ text) a := by
  intro rest hrest o
  obtain ⟨o', h'⟩ := h rest hrest (o + byteLength blank)
  refine ⟨o', ?_⟩
  rw [hr, List.append_assoc, skip_append hblank, ← hr, h']

theorem passesBlanks_readKind (k : Kind) : PassesBlanks (readKind k) := by
  cases k with
  | natural | integer => exact (passesBlanks_blanks _).bind _
  | text | flag | optionalText => exact passesBlanks_blanks _

theorem passesBlanks_nextName (first : Bool) : PassesBlanks (nextName first) :=
  passesBlanks_blanks _

theorem passesBlanks_colon : PassesBlanks colon := passesBlanks_blanks _

theorem passesBlanks_readRecord (r : Record σ) : PassesBlanks (readRecord r) :=
  passesBlanks_blanks _

end OpenUrl.Json
