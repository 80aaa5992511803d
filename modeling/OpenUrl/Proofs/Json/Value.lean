import OpenUrl.Json.Content
import OpenUrl.Proofs.Json.Numeral
import OpenUrl.Proofs.Json.Text

/-!
# Values are read as they were written

A value without real numbers, whose whole numbers fit 64 bits and whose brackets are not nested
too deeply, is read back. In what is written a value, a name or a bracket is followed by nothing
that could belong to it.
-/
namespace OpenUrl.Json

/-- What stands before an item or a field: a comma, unless it is the first. -/
def lead : Bool → List Char
  | true => []
  | false => [',']

/-- Fields without the closing brace. -/
def renderMembers : Bool → List (String × Value) → List Char
  | _, [] => []
  | first, (k, v) :: fs =>
    lead first ++ renderText k ++ ':' :: (render v ++ renderMembers false fs)

/-- Items without the closing bracket. -/
def renderElements : Bool → List Value → List Char
  | _, [] => []
  | first, v :: vs => lead first ++ render v ++ renderElements false vs

theorem renderFields_eq (fs : List (String × Value)) :
    renderFields fs = renderMembers true fs ++ ['\x7d'] := by
  have hmore (f : String × Value) (fs : List (String × Value)) : renderFields (f :: fs) =
      renderText f.1 ++ ':' :: (render f.2 ++ (renderMembers false fs ++ ['\x7d'])) := by
    induction fs generalizing f with
    | nil => rfl
    | cons g fs ih =>
      rw [renderFields, ih g]
      · simp [renderMembers, lead]
      · simp
  cases fs with
  | nil => rfl
  | cons f fs => simp [hmore, renderMembers, lead]

theorem renderItems_eq (vs : List Value) :
    renderItems vs = renderElements true vs ++ [']'] := by
  have hmore (v : Value) (vs : List Value) : renderItems (v :: vs) =
      render v ++ (renderElements false vs ++ [']']) := by
    induction vs generalizing v with
    | nil => rfl
    | cons w vs ih =>
      rw [renderItems, ih w]
      · simp [renderElements, lead]
      · simp
  cases vs with
  | nil => rfl
  | cons v vs => simp [hmore, renderElements, lead]

/-- The closing brace comes next. -/
def ClosesObject (rest : List Char) : Prop := rest.head? = some '\x7d'

/-- The closing bracket comes next. -/
def ClosesList (rest : List Char) : Prop := rest.head? = some ']'

theorem ClosesObject.exists_cons {rest : List Char} (h : ClosesObject rest) :
    ∃ cs, rest = '\x7d' :: cs := by
  cases rest with
  | nil => simp [ClosesObject] at h
  | cons c cs => exact ⟨cs, by rw [Option.some.inj h]⟩

theorem ClosesList.exists_cons {rest : List Char} (h : ClosesList rest) :
    ∃ cs, rest = ']' :: cs := by
  cases rest with
  | nil => simp [ClosesList] at h
  | cons c cs => exact ⟨cs, by rw [Option.some.inj h]⟩

/-- What stands behind a value in an object. -/
theorem ends_renderMembers (fs : List (String × Value)) {rest : List Char}
    (h : ClosesObject rest) : Ends (renderMembers false fs ++ rest) := by
  cases fs with
  | nil =>
    obtain ⟨cs, rfl⟩ := h.exists_cons
    exact ends_cons (by decide) cs
  | cons f fs => exact ends_cons (by decide) _

/-- What stands behind a value in a list. -/
theorem ends_renderElements (vs : List Value) {rest : List Char} (h : ClosesList rest) :
    Ends (renderElements false vs ++ rest) := by
  cases vs with
  | nil =>
    obtain ⟨cs, rfl⟩ := h.exists_cons
    exact ends_cons (by decide) cs
  | cons v vs => exact ends_cons (by decide) _

theorem reads_nextName (first : Bool) (k : String) (after : List Char → Prop) :
    Reads after (nextName first) (lead first ++ renderText k) (some k) := by
  have hname : Reads after nextName.name (renderText k) (some k) :=
    .advance ((reads_textBody k after).map some)
  cases first with
  | true => exact .look (by decide) hname
  | false => exact .look (by decide) (.advance (.look (by decide) hname))

/-- No name follows before the closing brace, which is left where it is. -/
theorem reads_nextName_none (first : Bool) : Reads ClosesObject (nextName first) [] none := by
  intro rest hrest o
  obtain ⟨cs, rfl⟩ := hrest.exists_cons
  exact ⟨o, look_eq (by decide) cs o⟩

theorem reads_nextItem_false (first : Bool) : Reads ClosesList (nextItem first) [] false := by
  intro rest hrest o
  obtain ⟨cs, rfl⟩ := hrest.exists_cons
  exact ⟨o, look_eq (by decide) cs o⟩

/-- A field is read back with those behind it: its name, a colon, and its value. -/
theorem reads_field {α β : Type} (first : Bool) {k : String} {v : Value}
    {fs : List (String × Value)} {f : Option String → Reader β} {r : Reader α} {g : α → Reader β}
    {a : α} {b : β} (hf : f (some k) = colon >>= fun _ => r >>= g)
    (hvalue : Reads Ends r (render v) a)
    (htail : Reads ClosesObject (g a) (renderMembers false fs) b) :
    Reads ClosesObject (nextName first >>= f) (renderMembers first ((k, v) :: fs)) b := by
  have hcolon : Reads ClosesObject (f (some k))
      ([':'] ++ (render v ++ renderMembers false fs)) b := by
    rw [hf]
    exact (reads_colon fun _ => True).bind (hvalue.bind htail fun _ => ends_renderMembers fs)
      fun _ _ => trivial
  exact (reads_nextName first k fun _ => True).bind hcolon fun _ _ => trivial

/-- Values that are read back: their numbers are whole and fit 64 bits, and no more than `d`
brackets are open at once. -/
inductive Value.Plain : Nat → Value → Prop
  | null {d : Nat} : Plain d .null
  | boolean {d : Nat} (b : Bool) : Plain d (.boolean b)
  | whole {d : Nat} {n : Int} : -2 ^ 63 ≤ n → n < 2 ^ 64 → Plain d (.number (.whole n))
  | text {d : Nat} (s : String) : Plain d (.text s)
  | array {d : Nat} {items : List Value} : (∀ v ∈ items, Plain d v) → Plain (d + 1) (.array items)
  | object {d : Nat} {fields : List (String × Value)} : (∀ f ∈ fields, Plain d f.2) →
      Plain (d + 1) (.object fields)

/-- What such a value can start with. -/
def Starts (c : Char) : Prop := isBlank c = false ∧ c ≠ ']'

instance (c : Char) : Decidable (Starts c) := inferInstanceAs (Decidable (_ ∧ _))

theorem starts_of_number {c : Char} (h : c = '-' ∨ isDigit c = true) : Starts c := by
  rcases h with rfl | hdigit
  · decide
  · refine ⟨?_, ?_⟩
    · rw [← Bool.not_eq_true]
      intro hblank
      simp only [isBlank, Bool.or_eq_true, beq_iff_eq] at hblank
      rcases hblank with ((rfl | rfl) | rfl) | rfl <;> exact absurd hdigit (by decide)
    · rintro rfl
      exact absurd hdigit (by decide)

theorem Value.Plain.exists_render {d : Nat} {v : Value} (h : v.Plain d) :
    ∃ c cs, render v = c :: cs ∧ Starts c := by
  cases h with
  | null => exact ⟨_, _, rfl, by decide, by decide⟩
  | boolean b => cases b <;> exact ⟨_, _, rfl, by decide, by decide⟩
  | @whole _ n =>
    obtain ⟨c, cs, htext, hc⟩ := exists_toString n
    exact ⟨c, cs, htext, starts_of_number hc⟩
  | text s | array | object => exact ⟨_, _, rfl, by decide, by decide⟩

/-- Another item follows where the list is not closed; it is left where it is. -/
theorem nextItem_eq (first : Bool) {c : Char} (hc : Starts c) (cs : List Char) (o : Nat) :
    ∃ o', nextItem first ⟨lead first ++ c :: cs, o⟩ = .done true ⟨c :: cs, o'⟩ := by
  have hclose : c ≠ ']' := hc.2
  cases first with
  | true =>
    refine ⟨o, (look_eq hc.1 cs o).trans ?_⟩
    simp
    rfl
  | false =>
    refine ⟨o + 1, (look_eq (by decide) (c :: cs) o).trans ?_⟩
    simp only [Bool.false_eq_true, if_false]
    refine (advance_eq _ (c :: cs) o).trans ((look_eq hc.1 cs (o + 1)).trans ?_)
    simp
    rfl

theorem reads_readNumber {fuel depth : Nat} {n : Int} (hlow : -2 ^ 63 ≤ n) (hhigh : n < 2 ^ 64) :
    Reads Ends (readValue (fuel + 1) depth) (toString n).toList (.number (.whole n)) := by
  obtain ⟨c, cs, htext, hc⟩ := exists_toString n
  have hread := (reads_numeral hlow hhigh).map Value.number
  rw [htext] at hread ⊢
  unfold readValue
  refine .look (starts_of_number hc).1 ?_
  split
  case h_8 =>
    rename_i heq
    obtain rfl := Option.some.inj heq
    rw [if_pos (by simpa using hc)]
    exact hread
  case h_1 => simp_all
  all_goals
    rename_i heq
    obtain rfl := Option.some.inj heq
    exact absurd hc (by decide)

/-- The items of a list are read back, if each of them is. -/
theorem reads_readArray {depth : Nat} {vs : List Value}
    (hstart : ∀ v ∈ vs, ∃ c cs, render v = c :: cs ∧ Starts c)
    (hread : ∀ v ∈ vs, ∀ fuel, 2 * (render v).length ≤ fuel + 1 →
      Reads Ends (readValue (fuel + 1) depth) (render v) v)
    (first : Bool) {fuel : Nat} (hfuel : 2 * (renderElements first vs).length < fuel) :
    Reads ClosesList (readArray fuel depth first) (renderElements first vs) vs := by
  obtain ⟨fuel, rfl⟩ := Nat.exists_eq_add_one_of_ne_zero (Nat.ne_zero_of_lt hfuel)
  induction vs generalizing fuel first with
  | nil => exact (reads_nextItem_false first).bind (.pure []) fun _ h => h
  | cons v vs ih =>
    obtain ⟨c, cs, hv, hc⟩ := hstart v List.mem_cons_self
    simp only [renderElements, List.length_append] at hfuel
    have hpos : 0 < (render v).length := by simp [hv]
    obtain ⟨fuel, rfl⟩ := Nat.exists_eq_add_one_of_ne_zero (n := fuel) (by omega)
    have htail := ih (fun w hw => hstart w (List.mem_cons_of_mem v hw))
      (fun w hw => hread w (List.mem_cons_of_mem v hw)) false fuel (by omega)
    have hboth := (hread v List.mem_cons_self fuel (by omega)).bind
      (f := fun v => readArray (fuel + 1) depth false >>= fun vs => pure (v :: vs))
      (htail.map (v :: ·)) fun _ => ends_renderElements vs
    intro rest hrest o
    obtain ⟨o₁, h₁⟩ := nextItem_eq first hc (cs ++ (renderElements false vs ++ rest)) o
    obtain ⟨o₂, h₂⟩ := hboth rest hrest o₁
    have htext : renderElements first (v :: vs) ++ rest =
        lead first ++ c :: (cs ++ (renderElements false vs ++ rest)) := by
      simp [renderElements, hv]
    rw [htext]
    refine ⟨o₂, ?_⟩
    change Reader.bind (nextItem first) _ _ = _
    rw [Reader.bind, h₁]
    rw [hv] at h₂
    simpa using h₂

/-- The fields of an object are read back, if their values are. -/
theorem reads_readMembers {depth : Nat} {fs : List (String × Value)}
    (hread : ∀ f ∈ fs, ∀ fuel, 2 * (render f.2).length ≤ fuel + 1 →
      Reads Ends (readValue (fuel + 1) depth) (render f.2) f.2)
    (first : Bool) {fuel : Nat} (hfuel : 2 * (renderMembers first fs).length < fuel) :
    Reads ClosesObject (readMembers fuel depth first) (renderMembers first fs) fs := by
  obtain ⟨fuel, rfl⟩ := Nat.exists_eq_add_one_of_ne_zero (Nat.ne_zero_of_lt hfuel)
  induction fs generalizing fuel first with
  | nil => exact (reads_nextName_none first).bind (.pure []) fun _ h => h
  | cons f fs ih =>
    obtain ⟨k, v⟩ := f
    simp only [renderMembers, List.length_append, List.length_cons] at hfuel
    obtain ⟨fuel, rfl⟩ := Nat.exists_eq_add_one_of_ne_zero (n := fuel) (by omega)
    have htail := ih (fun w hw => hread w (List.mem_cons_of_mem _ hw)) false fuel (by omega)
    exact reads_field first rfl (hread (k, v) List.mem_cons_self fuel (by simp only; omega))
      (htail.map ((k, v) :: ·))

/-- A plain value is read back. -/
theorem reads_readValue {d : Nat} {v : Value} (h : v.Plain d) {fuel depth : Nat}
    (hfuel : 2 * (render v).length ≤ fuel + 1) (hdepth : depth + d < depthLimit) :
    Reads Ends (readValue (fuel + 1) depth) (render v) v := by
  induction h generalizing fuel depth with
  | null => exact .look (by decide) ((Reads.word _).map fun _ => Value.null)
  | boolean b =>
    cases b with
    | true => exact .look (by decide) ((Reads.word _).map fun _ => Value.boolean true)
    | false => exact .look (by decide) ((Reads.word _).map fun _ => Value.boolean false)
  | whole hlow hhigh => exact reads_readNumber hlow hhigh
  | text s => exact .look (by decide) (.advance ((reads_textBody s Ends).map Value.text))
  | @array d items hitems ih =>
    rw [render, renderItems_eq] at hfuel ⊢
    simp only [List.length_cons, List.length_append] at hfuel
    have hlist : Reads ClosesList (readArray fuel (depth + 1) true) (renderElements true items)
        items :=
      reads_readArray (fun v hv => (hitems v hv).exists_render)
        (fun v hv fuel hfuel => ih v hv hfuel (by omega)) true (by omega)
    have hbody : Reads Ends (Reader.enclosed closeList (readArray fuel (depth + 1) true) >>=
        fun items => pure (Value.array items)) (renderElements true items ++ [']'])
        (.array items) :=
      (hlist.enclosed (fun rest o => ⟨_, closeList_eq rest o⟩) fun _ => rfl).map Value.array
    have hlimit : depth + 1 ≠ depthLimit := by omega
    refine .look (by decide) ?_
    simpa [hlimit] using hbody.advance
  | @object d fields hfields ih =>
    rw [render, renderFields_eq] at hfuel ⊢
    simp only [List.length_cons, List.length_append] at hfuel
    have hmembers : Reads ClosesObject (readMembers fuel (depth + 1) true)
        (renderMembers true fields) fields :=
      reads_readMembers (fun f hf fuel hfuel => ih f hf hfuel (by omega)) true (by omega)
    have hbody : Reads Ends (Reader.enclosed closeObject (readMembers fuel (depth + 1) true) >>=
        fun fields => pure (Value.object fields)) (renderMembers true fields ++ ['\x7d'])
        (.object fields) :=
      (hmembers.enclosed (fun rest o => ⟨_, closeObject_eq rest o⟩) fun _ => rfl).map Value.object
    have hlimit : depth + 1 ≠ depthLimit := by omega
    refine .look (by decide) ?_
    simpa [hlimit] using hbody.advance

/-- A plain value is what a text of it says. -/
theorem reads_readContent {d depth : Nat} {v : Value} (h : v.Plain d)
    (hdepth : depth + d < depthLimit) : Reads Ends (readContent depth) (render v) v := by
  intro rest hrest o
  refine reads_readValue h ?_ hdepth rest hrest o
  simp only [List.length_append]
  omega

end OpenUrl.Json
