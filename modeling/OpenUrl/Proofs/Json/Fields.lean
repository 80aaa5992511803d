import OpenUrl.Proofs.Json.Record

/-!
# The fields of a parsed object

An object of which no more is known is taken apart by the names of its fields. A name counts only
if it stands there once. The fields of a record give the record, also among other fields.
-/
namespace OpenUrl

namespace Json.Value

/-- The value under a name that an object has exactly once. -/
def field? (name : String) : Value → Option Value
  | .object fields =>
    match fields.filter fun f => f.1 == name with
    | [f] => some f.2
    | _ => none
  | _ => none

theorem field?_of_mem {fields : List (String × Value)} (h : (fields.map Prod.fst).Nodup)
    {f : String × Value} (hf : f ∈ fields) : (object fields).field? f.1 = some f.2 := by
  have hfilter : fields.filter (fun g => g.1 == f.1) = [f] := by
    induction fields with
    | nil => cases hf
    | cons g fields ih =>
      rw [List.map_cons, List.nodup_cons] at h
      rcases List.mem_cons.mp hf with rfl | htail
      · have hnone : fields.filter (fun g => g.1 == f.1) = [] :=
          List.filter_eq_nil_iff.mpr fun g hg heq =>
            h.1 (eq_of_beq heq ▸ List.mem_map_of_mem hg)
        rw [List.filter_cons_of_pos (by simp), hnone]
      · have hne : g.1 ≠ f.1 := fun heq => h.1 (heq ▸ List.mem_map_of_mem htail)
        rw [List.filter_cons_of_neg (by simpa using hne), ih h.2 htail]
  simp only [field?, hfilter]

end Json.Value

namespace Kind

/-- What a value of JSON is as a value of a kind. -/
def ofJson? : (k : Kind) → Json.Value → Option k.Value
  | natural, .number (.whole n) =>
    if 0 ≤ n ∧ n < UInt64.size then some (UInt64.ofNat n.toNat) else none
  | integer, .number (.whole n) =>
    if Int32.minValue.toInt ≤ n ∧ n ≤ Int32.maxValue.toInt then some (Int32.ofInt n) else none
  | text, .text s => some s
  | flag, .boolean b => some b
  | optionalText, .null => some none
  | optionalText, .text s => some (some s)
  | _, _ => none

theorem ofJson?_toJson (k : Kind) (v : k.Value) : k.ofJson? (k.toJson v) = some v := by
  cases k with
  | natural =>
    change UInt64 at v
    have hlt : v.toNat < UInt64.size := v.toNat_lt_size
    have hfits : 0 ≤ (v.toNat : Int) ∧ (v.toNat : Int) < UInt64.size := by omega
    simp only [toJson, ofJson?, if_pos hfits, Int.toNat_natCast, UInt64.ofNat_toNat]
  | integer =>
    change Int32 at v
    have hfits := And.intro v.minValue_le_toInt v.toInt_le
    simp only [toJson, ofJson?, if_pos hfits, Int32.ofInt_toInt]
  | text | flag => rfl
  | optionalText => cases v <;> rfl

theorem plain_toJson (k : Kind) (v : k.Value) (d : Nat) : (k.toJson v).Plain d := by
  cases k with
  | natural =>
    change UInt64 at v
    have hlt : v.toNat < 2 ^ 64 := v.toNat_lt
    exact .whole (by omega) (by omega)
  | integer =>
    change Int32 at v
    have hlow : -2 ^ 31 ≤ v.toInt := v.le_toInt
    have hhigh : v.toInt < 2 ^ 31 := v.toInt_lt
    exact .whole (by omega) (by omega)
  | text => exact .text v
  | flag => exact .boolean v
  | optionalText =>
    cases v with
    | none => exact .null
    | some s => exact .text s

end Kind

namespace Record

variable {σ : Type} {r : Record σ}

/-- The record whose fields are among those of a parsed object. -/
def ofFields? (r : Record σ) (v : Json.Value) : Option σ :=
  r.fields.foldlM (fun t f => ((v.field? f.name).bind f.kind.ofJson?).map fun x => f.put x t)
    r.blank

theorem map_fst_jsonFields (r : Record σ) (s : σ) : (r.jsonFields s).map Prod.fst = r.names := by
  rw [jsonFields, List.map_map]
  rfl

/-- Other fields do not matter as long as their names differ. -/
theorem Lawful.ofFields?_eq (h : r.Lawful) (s : σ) {fields : List (String × Json.Value)}
    (hnodup : (fields.map Prod.fst).Nodup) (hfields : ∀ f ∈ r.jsonFields s, f ∈ fields) :
    r.ofFields? (.object fields) = some s := by
  have hcopy (fs : List (Field σ)) (hfs : ∀ f ∈ fs, f ∈ r.fields) (t : σ) :
      fs.foldlM (fun t f => (((Json.Value.object fields).field? f.name).bind
        f.kind.ofJson?).map fun x => f.put x t) t = some (copy s fs t) := by
    induction fs generalizing t with
    | nil => rfl
    | cons f fs ih =>
      obtain ⟨hf, htail⟩ := List.forall_mem_cons.mp hfs
      have hmem := hfields _ (List.mem_map_of_mem hf)
      rw [List.foldlM_cons, Json.Value.field?_of_mem hnodup hmem, Option.bind_some,
        Kind.ofJson?_toJson]
      exact ih htail _
  rw [ofFields?, hcopy r.fields fun _ hf => hf, h.copy_blank]

theorem plain_jsonFields (r : Record σ) (s : σ) (d : Nat) :
    ∀ f ∈ r.jsonFields s, f.2.Plain d := by
  intro f hf
  obtain ⟨g, -, rfl⟩ := List.mem_map.mp hf
  exact g.kind.plain_toJson (g.get s) d

theorem plain_toJson (r : Record σ) (s : σ) : (r.toJson s).Plain 1 :=
  .object (r.plain_jsonFields s 0)

end Record

end OpenUrl
