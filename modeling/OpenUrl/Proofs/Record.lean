import Mathlib.Data.List.Forall2
import OpenUrl.Json.Typed
import OpenUrl.Toml.Typed

/-!
# One text read into two records

A record takes the fields of a text over one by one, and nothing but the names and kinds of its
fields decides which. So two records of the same fields whose values correspond still correspond
after both have read the same text, in TOML as in JSON.
-/
namespace OpenUrl

variable {σ τ : Type} {φ : σ → τ}

/-- A field of `τ` of the same name and kind, written to where `φ` carries it. -/
inductive Field.Maps (φ : σ → τ) : Field σ → Field τ → Prop
  | mk (name : String) (kind : Kind) {get : σ → kind.Value} {put : kind.Value → σ → σ}
      {get' : τ → kind.Value} {put' : kind.Value → τ → τ}
      (h : ∀ v s, φ (put v s) = put' v (φ s)) :
      Maps φ ⟨name, kind, get, put⟩ ⟨name, kind, get', put'⟩

/-- A record type of the same fields whose blank record and fields correspond by `φ`. -/
structure Record.Maps (φ : σ → τ) (r : Record σ) (q : Record τ) : Prop where
  name : q.name = r.name
  blank : φ r.blank = q.blank
  fields : List.Forall₂ (Field.Maps φ) r.fields q.fields
  complete : q.complete = r.complete
  closed : q.closed = r.closed

namespace Record.Maps

variable {r : Record σ} {q : Record τ}

theorem names (h : r.Maps φ q) : q.names = r.names := by
  have hfields := h.fields
  unfold Record.names
  generalize r.fields = fs at hfields
  generalize q.fields = gs at hfields
  induction hfields with
  | nil => rfl
  | cons hf _ ih =>
    cases hf
    rw [List.map_cons, List.map_cons, ih]

theorem absent? (h : r.Maps φ q) (given : List String) : q.absent? given = r.absent? given := by
  rw [Record.absent?, Record.absent?, h.complete, h.names]

/-- Under a name both have a field, or neither has. -/
theorem field? (h : r.Maps φ q) (name : String) :
    Option.Rel (Field.Maps φ) (r.field? name) (q.field? name) := by
  have hfields := h.fields
  unfold Record.field?
  generalize r.fields = fs at hfields
  generalize q.fields = gs at hfields
  induction hfields with
  | nil => exact .none
  | @cons f g fs gs hf _ ih =>
    have hname : g.name = f.name := by cases hf; rfl
    by_cases heq : f.name = name
    · rw [List.find?_cons_of_pos (by simpa using heq),
        List.find?_cons_of_pos (by simpa [hname] using heq)]
      exact .some hf
    · rw [List.find?_cons_of_neg (by simpa using heq),
        List.find?_cons_of_neg (by simpa [hname] using heq)]
      exact ih

end Record.Maps

/-! ## TOML -/

namespace Toml

variable {r : Record σ} {q : Record τ}

theorem readEntries_map (h : r.Maps φ q) (es : List (Key × Value)) (s : σ) :
    readEntries q es (φ s) = (readEntries r es s).map φ := by
  induction es generalizing s with
  | nil => rfl
  | cons e es ih =>
    obtain ⟨k, v⟩ := e
    have hfield := h.field? k.name
    rw [readEntries, readEntries]
    generalize r.field? k.name = f? at hfield
    generalize q.field? k.name = g? at hfield
    cases hfield with
    | none =>
      rw [h.closed, h.names]
      cases r.closed with
      | true => rfl
      | false =>
        cases v.isBounded with
        | true => exact ih s
        | false => rfl
    | some hf =>
      obtain ⟨name, kind, hput⟩ := hf
      cases hread : readKind kind v with
      | error f => simp only [hread, Except.map]
      | ok x =>
        simp only [hread, ← hput]
        exact ih _

theorem readRecord_map (h : r.Maps φ q) (es : List (Key × Value)) :
    readRecord q es = (readRecord r es).map φ := by
  unfold readRecord
  rw [← h.blank, readEntries_map h, h.absent?]
  cases readEntries r (sorted es) r.blank with
  | error f => rfl
  | ok s => cases r.absent? (es.map fun e => e.1.name) <;> rfl

end Toml

theorem Record.Maps.ofToml {r : Record σ} {q : Record τ} (h : r.Maps φ q) (text : String) :
    q.ofToml text = (r.ofToml text).map φ := by
  unfold Record.ofToml Toml.readAll
  cases Toml.read text with
  | none => rfl
  | some es =>
    simp only [Toml.readRecord_map h]
    cases Toml.readRecord r es <;> rfl

/-! ## JSON -/

namespace Json

variable {α β γ δ : Type}

/-- The same reading with another value at its end. -/
def Reading.map (f : α → β) : Reading α → Reading β
  | .done a next => .done (f a) next
  | .fault e => .fault e
  | .misfit m next => .misfit m next

/-- Everywhere `r'` reads as `r` does, and ends with what `f` makes of the value. -/
def Follows (f : α → β) (r : Reader α) (r' : Reader β) : Prop := ∀ c, r' c = (r c).map f

namespace Follows

variable {f : α → β} {r : Reader α} {r' : Reader β}

protected theorem pure (a : α) : Follows f (pure a) (pure (f a)) := fun _ => rfl

theorem unfit (m : Misfit) : Follows f (Reader.unfit m) (Reader.unfit m) := fun _ => rfl

theorem here (cause : Cause) : Follows f (Reader.here cause) (Reader.here cause) := fun _ => rfl

theorem ahead (cause : Cause) : Follows f (Reader.ahead cause) (Reader.ahead cause) := fun _ => rfl

protected theorem bind {g : γ → δ} {k : α → Reader γ} {k' : β → Reader δ} (h : Follows f r r')
    (hk : ∀ a, Follows g (k a) (k' (f a))) : Follows g (r >>= k) (r' >>= k') := by
  intro c
  change Reader.bind r' k' c = (Reader.bind r k c).map g
  rw [Reader.bind, Reader.bind, h c]
  cases r c with
  | done a next => exact hk a next
  | fault e => rfl
  | misfit m next => rfl

/-- Both go on behind the same reader. -/
theorem andThen {x : Reader γ} {k : γ → Reader α} {k' : γ → Reader β}
    (hk : ∀ a, Follows f (k a) (k' a)) : Follows f (x >>= k) (x >>= k') := by
  have hx : Follows id x x := fun c => by cases x c <;> rfl
  exact hx.bind hk

theorem enclosed (h : Follows f r r') (close : Text.Cursor → Text.Cursor × Option Fault) :
    Follows f (Reader.enclosed close r) (Reader.enclosed close r') := by
  intro c
  rw [Reader.enclosed, Reader.enclosed, h c]
  cases r c with
  | done a next =>
    cases hclose : close next with
    | mk next' fault? => cases fault? <;> simp only [Reading.map, hclose]
  | fault e => rfl
  | misfit m next => rfl

theorem readAll (h : Follows f r r') (text : String) :
    readAll r' text = (readAll r text).map f := by
  unfold Json.readAll
  rw [h]
  cases r (Text.Cursor.start text) with
  | done a next =>
    cases hrest : (next.skip isBlank).rest <;> simp only [Reading.map, hrest, Except.map]
  | fault e => rfl
  | misfit m next => rfl

end Follows

/-- A value of another type than the wanted one is refused, whatever was to be read. -/
theorem follows_unfitValue (f : α → β) (wanted : String) :
    Follows f (unfitValue wanted) (unfitValue wanted) := by
  refine .andThen fun next => ?_
  split
  · exact .andThen fun _ => .here _
  · exact .andThen fun _ => .here _
  · exact .andThen fun _ => .here _
  · exact .andThen fun _ => .andThen fun _ => .here _
  · exact .here _
  · exact .here _
  · split
    · exact .andThen fun _ => .here _
    · exact .ahead _
  · exact .ahead _

variable {r : Record σ} {q : Record τ}

theorem follows_readFields (h : r.Maps φ q) (fuel : Nat) (first : Bool) (given : List String)
    (s : σ) : Follows (fun p => (φ p.1, p.2)) (readFields r fuel first given s)
      (readFields q fuel first given (φ s)) := by
  induction fuel generalizing first given s with
  | zero => exact .here _
  | succ fuel ih =>
    refine .andThen fun name? => ?_
    cases name? with
    | none => exact .pure (s, given)
    | some name =>
      have hfield := h.field? name
      dsimp only
      generalize r.field? name = f? at hfield
      generalize q.field? name = g? at hfield
      cases hfield with
      | none =>
        rw [h.closed, h.names]
        cases r.closed with
        | true => exact .unfit _
        | false => exact .andThen fun _ => .andThen fun _ => ih false given s
      | some hf =>
        obtain ⟨_, kind, hput⟩ := hf
        cases given.contains name with
        | true => exact .unfit _
        | false =>
          refine .andThen fun _ => .andThen fun v => ?_
          dsimp only
          rw [← hput]
          exact ih false (name :: given) _

theorem follows_readObject (h : r.Maps φ q) : Follows φ (readObject r) (readObject q) := by
  intro c
  refine Follows.bind (f := fun p => (φ p.1, p.2)) ?_ (fun p => ?_) c
  · rw [← h.blank]
    exact follows_readFields h _ true [] r.blank
  · dsimp only
    rw [h.absent?]
    cases r.absent? p.2 with
    | none => exact .pure _
    | some name => exact .unfit _

theorem follows_readItems (h : r.Maps φ q) {fs : List (Field σ)} {gs : List (Field τ)}
    (hfs : List.Forall₂ (Field.Maps φ) fs gs) (index : Nat) (s : σ) :
    Follows φ (readItems r fs index s) (readItems q gs index (φ s)) := by
  induction hfs generalizing index s with
  | nil => exact .pure s
  | cons hf _ ih =>
    obtain ⟨_, kind, hput⟩ := hf
    refine .andThen fun more => ?_
    cases more with
    | true =>
      refine .andThen fun v => ?_
      dsimp only
      rw [← hput]
      exact ih (index + 1) _
    | false =>
      have hlength : q.fields.length = r.fields.length := h.fields.length_eq.symm
      dsimp only
      rw [h.complete, h.name, hlength]
      cases r.complete with
      | true => exact .unfit _
      | false => exact .pure s

theorem follows_readRecord (h : r.Maps φ q) : Follows φ (readRecord r) (readRecord q) := by
  refine .andThen fun _ => .andThen fun next => ?_
  split
  · exact .ahead _
  · refine .andThen fun _ => .enclosed ?_ _
    rw [← h.blank]
    exact follows_readItems h h.fields 0 r.blank
  · exact .andThen fun _ => (follows_readObject h).enclosed _
  · rw [h.name]
    exact follows_unfitValue φ _

end Json

theorem Record.Maps.ofJson {r : Record σ} {q : Record τ} (h : r.Maps φ q) (text : String) :
    q.ofJson text = (r.ofJson text).map φ :=
  (Json.follows_readRecord h).readAll text

end OpenUrl
