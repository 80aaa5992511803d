import OpenUrl.Proofs.Copy
import OpenUrl.Proofs.Json.Spelling

/-!
# Records from objects that hold their fields

Reading takes over the fields of an object one by one into a blank record, however the object is
written. So a record comes back from what is written for it.
-/
namespace OpenUrl

open Record (copy)

namespace Json

variable {σ : Type} {r : Record σ} {s : σ} {f : Field σ} {fs : List (Field σ)} {cs text : List Char}

theorem reads_readWhole (wanted : String) (low high : Int) {n : Int} (hlow : low ≤ n)
    (hhigh : n ≤ high) (hmin : -2 ^ 63 ≤ n) (hmax : n < 2 ^ 64) :
    Reads Ends (readWhole wanted low high) (toString n).toList n := by
  obtain ⟨c, cs, htext, hc⟩ := exists_toString n
  have hread := reads_numeral hmin hmax
  rw [htext] at hread ⊢
  refine .look (starts_of_number hc).1 ?_
  have hnumber : (c = '-' || isDigit c) = true := by simpa using hc
  simp only [hnumber, if_true]
  exact hread.result (if_pos ⟨hlow, hhigh⟩)

/-- A value of any kind is read as what it stands for. -/
theorem reads_readKind {k : Kind} {v : k.Value} (h : SpellsValue (k.toJson v) text) :
    Reads Ends (readKind k) text v := by
  cases k with
  | natural =>
    cases h
    change UInt64 at v
    have hsize : (UInt64.size : Int) = 2 ^ 64 := rfl
    have hlt : v.toNat < UInt64.size := v.toNat_lt_size
    have hread := (reads_readWhole "u64" 0 (UInt64.size - 1) (n := v.toNat) (by omega) (by omega)
      (by omega) (by omega)).map fun n => UInt64.ofNat n.toNat
    rwa [Int.toNat_natCast, UInt64.ofNat_toNat] at hread
  | integer =>
    cases h
    change Int32 at v
    have hlow := v.minValue_le_toInt
    have hhigh := v.toInt_le
    have hmin : Int32.minValue.toInt = -2 ^ 31 := rfl
    have hmax : Int32.maxValue.toInt = 2 ^ 31 - 1 := rfl
    have hread := (reads_readWhole "i32" Int32.minValue.toInt Int32.maxValue.toInt hlow hhigh
      (by omega) (by omega)).map Int32.ofInt
    rwa [Int32.ofInt_toInt] at hread
  | text =>
    cases h with
    | text h =>
      have htext := reads_readText_of_spells h Ends
      rwa [String.ofList_toList] at htext
  | flag =>
    cases h
    cases v with
    | true => exact .look (by decide) ((Reads.word _).map fun _ => true)
    | false => exact .look (by decide) ((Reads.word _).map fun _ => false)
  | optionalText =>
    cases v with
    | none =>
      cases h
      exact .look (by decide) ((Reads.word _).map fun _ => none)
    | some s =>
      cases h with
      | text h =>
        obtain ⟨hinside⟩ := h
        have htext : Reads Ends (readText >>= fun s => pure (some s)) _ (some _) :=
          (reads_readText_of_spells (.mk hinside) Ends).map some
        rw [String.ofList_toList] at htext
        exact .look (by decide) htext

theorem reads_name {first : Bool} {sp a key : List Char} (hsp : Blanks sp) (ha : Blanks a)
    (hkey : SpellsText cs key) (after : List Char → Prop) :
    Reads after (nextName first) (sp ++ (lead first ++ (a ++ key))) (some (String.ofList cs)) := by
  refine .behind ?_ (passesBlanks_nextName first) hsp
  obtain ⟨hinside⟩ := hkey
  have hname : Reads after nextName.name ('"' :: (_ ++ ['"'])) (some (String.ofList cs)) :=
    .advance ((reads_textBody_of_inside hinside after).map some)
  cases first with
  | true => exact .behind (.look (by decide) hname) (passesBlanks_nextName true) ha
  | false =>
    refine .look (by decide) (.advance ?_)
    exact .behind (.look (by decide) hname) (passesBlanks_blanks _) ha

/-- The fields that an object still holds are taken over. -/
theorem reads_members {first : Bool} (h : Members s first fs text)
    (hfield : ∀ f ∈ fs, r.field? f.name = some f) (hnodup : (fs.map Field.name).Nodup)
    (given : List String) (hgiven : ∀ f ∈ fs, f.name ∉ given) {fuel : Nat}
    (hfuel : fs.length < fuel) (t : σ) :
    Reads ClosesObject (readFields r fuel first given t) text
      (copy s fs t, (fs.map Field.name).reverse ++ given) := by
  obtain ⟨fuel, rfl⟩ := Nat.exists_eq_add_one_of_ne_zero (Nat.ne_zero_of_lt hfuel)
  induction h generalizing given fuel t with
  | @none first sp hsp =>
    have hnone : Reads ClosesObject (readFields r (fuel + 1) first given t) [] (t, given) :=
      (reads_nextName_none first).bind (.pure (t, given)) fun _ h => h
    rw [← List.append_nil sp]
    exact hnone.behind ((passesBlanks_nextName first).bind _) hsp
  | @some first f fs sp a key b d text more hsp ha hkey hb hd hvalue hmore ih =>
    rw [List.map_cons, List.nodup_cons] at hnodup
    rw [List.length_cons] at hfuel
    obtain ⟨fuel, rfl⟩ := Nat.exists_eq_add_one_of_ne_zero (n := fuel) (by omega)
    obtain ⟨hf, hfs⟩ := List.forall_mem_cons.mp hfield
    obtain ⟨hfirst, hothers⟩ := List.forall_mem_cons.mp hgiven
    have hgiven' : ∀ g ∈ fs, g.name ∉ f.name :: given := fun g hg hmem =>
      (List.mem_cons.mp hmem).elim
        (fun heq => hnodup.1 (heq ▸ List.mem_map_of_mem hg)) (hothers g hg)
    have htail := ih hfs hnodup.2 (f.name :: given) hgiven' (f.put (f.get s) t) fuel (by omega)
    have hnames : ((f :: fs).map Field.name).reverse ++ given =
        (fs.map Field.name).reverse ++ f.name :: given := by simp
    have hentry : Reads ClosesObject (colon >>= fun _ => readKind f.kind >>= fun v =>
        readFields r (fuel + 1) false (f.name :: given) (f.put v t))
        (b ++ [':'] ++ (d ++ text ++ more)) (copy s (f :: fs) t,
          ((f :: fs).map Field.name).reverse ++ given) := by
      have hcolon := (reads_colon fun _ => True).behind passesBlanks_colon hb
      have hread := (reads_readKind hvalue).behind (passesBlanks_readKind f.kind) hd
      rw [hnames]
      exact hcolon.bind (hread.bind htail fun _ => hmore.ends) fun _ _ => trivial
    have htext : sp ++ (lead first ++ (a ++ (key ++ (b ++ ':' :: (d ++ (text ++ more)))))) =
        sp ++ (lead first ++ (a ++ key)) ++ (b ++ [':'] ++ (d ++ text ++ more)) := by simp
    rw [htext]
    refine (reads_name hsp ha hkey fun _ => True).bind ?_ fun _ _ => trivial
    have hnew : given.contains f.name = false := by simpa using hfirst
    simp only [String.ofList_toList, hf, hnew, Bool.false_eq_true, if_false]
    exact hentry

theorem reads_readRecord (hr : r.names.Nodup) (hfs : fs ⊆ r.fields)
    (hnodup : (fs.map Field.name).Nodup) (habsent : r.absent? (fs.map Field.name) = none)
    {members : List Char} (h : Members s true fs members) :
    Reads Ends (readRecord r) ('\x7b' :: (members ++ ['\x7d'])) (copy s fs r.blank) := by
  have hgiven : r.absent? ((fs.map Field.name).reverse ++ []) = none := by
    rw [← habsent]
    simp [Record.absent?]
  have hobject : Reads ClosesObject (readObject r) members (copy s fs r.blank) := by
    intro rest hrest o
    have hfuel : fs.length < (members ++ rest).length + 1 := by
      have hle := h.length_le
      rw [List.length_append]
      omega
    have hfields := reads_members h (fun f hf => Record.field?_of_mem hr (hfs hf)) hnodup []
      (by simp) hfuel r.blank
    unfold readObject
    refine hfields.result ?_ rest hrest o
    simp only [hgiven]
  exact .look (by decide) (.advance (hobject.enclosed (fun rest o => ⟨_, closeObject_eq rest o⟩)
    fun _ => rfl))

end Json

/-- An object that writes fields of `s` gives the record that took over these fields. -/
theorem Record.ofJson_eq {σ : Type} {r : Record σ} {s : σ} {fs : List (Field σ)} {text : String}
    (hr : r.names.Nodup) (hfs : fs ⊆ r.fields) (hnodup : (fs.map Field.name).Nodup)
    (habsent : r.absent? (fs.map Field.name) = none) (h : Json.Writes s fs text.toList) :
    r.ofJson text = .ok (copy s fs r.blank) := by
  generalize htext : text.toList = cs at h
  obtain ⟨ha, hmembers, hb⟩ := h
  have hread := (Json.reads_readRecord hr hfs hnodup habsent hmembers).behind
    (Json.passesBlanks_readRecord r) ha
  have hall := Json.readAll_eq hread _ hb
  rw [ofJson, ← hall, ← String.ofList_toList (s := text), htext]
  simp

/-- Nothing is absent where all names are given. -/
theorem Record.absent?_names {σ : Type} (r : Record σ) : r.absent? r.names = none := by
  unfold absent?
  split
  · rw [List.find?_eq_none]
    intro n hn
    simp [hn]
  · rfl

theorem Record.Lawful.ofJson_toJson {σ : Type} {r : Record σ} (h : r.Lawful) (s : σ) :
    r.ofJson (r.toJson s).compact = .ok s := by
  have hwrites : Json.Writes s r.fields (r.toJson s).compact.toList := by
    rw [Json.Value.compact, String.toList_ofList]
    exact Json.writes_toJson r s
  have hread := ofJson_eq h.nodup (List.Subset.refl _) h.nodup r.absent?_names hwrites
  rwa [h.copy_blank] at hread

end OpenUrl
