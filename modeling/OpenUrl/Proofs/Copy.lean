import Mathlib.Data.List.Forall2
import OpenUrl.Criteria
import OpenUrl.Event
import OpenUrl.Record
import OpenUrl.Settings

/-!
# Fields taken over

A record takes over fields of another one by one. If the names differ and nothing of a record lies
outside its fields, a blank record that takes over all of them becomes the other. Where each field
is stored by itself, taking over some of them gives these and leaves the others, in whatever order
it is done.
-/
namespace OpenUrl

namespace Record

variable {σ : Type} {r : Record σ} {f : Field σ} {fs gs : List (Field σ)}

/-- `t` after it took over the fields `fs` of `s`. -/
def copy (s : σ) (fs : List (Field σ)) (t : σ) : σ := fs.foldl (fun t f => f.put (f.get s) t) t

/-- Names tell the fields apart, and the fields are all there is to a record. -/
structure Lawful (r : Record σ) : Prop where
  nodup : r.names.Nodup
  copy_blank : ∀ s, copy s r.fields r.blank = s

/-- A field is found by its name. -/
theorem field?_of_mem (h : r.names.Nodup) (hf : f ∈ r.fields) : r.field? f.name = some f := by
  have hnodup : (r.fields.map Field.name).Nodup := h
  unfold field?
  generalize r.fields = fs at hf hnodup
  induction fs with
  | nil => cases hf
  | cons g fs ih =>
    rw [List.map_cons, List.nodup_cons] at hnodup
    rcases List.mem_cons.mp hf with rfl | htail
    · exact List.find?_cons_of_pos (by simp)
    · have hne : g.name ≠ f.name := fun heq =>
        hnodup.1 (heq ▸ List.mem_map_of_mem (f := Field.name) htail)
      rw [List.find?_cons_of_neg (by simpa using hne)]
      exact ih htail hnodup.2

theorem eq_of_name (h : r.names.Nodup) {g : Field σ} (hf : f ∈ r.fields) (hg : g ∈ r.fields)
    (hname : f.name = g.name) : f = g := by
  have hboth := (field?_of_mem h hf).symm.trans (hname ▸ field?_of_mem h hg)
  exact Option.some.inj hboth

/-- Names tell the fields apart, and every field is stored by itself. -/
structure Separate (r : Record σ) : Prop where
  nodup : r.names.Nodup
  get_put : ∀ f ∈ r.fields, ∀ v s, f.get (f.put v s) = v
  get_put_of_ne : ∀ f ∈ r.fields, ∀ g ∈ r.fields, f.name ≠ g.name →
    ∀ v s, f.get (g.put v s) = f.get s
  put_comm : ∀ f ∈ r.fields, ∀ g ∈ r.fields, f.name ≠ g.name →
    ∀ v w s, f.put v (g.put w s) = g.put w (f.put v s)

/-- The fields that are taken over are those of `s`; the others stay. -/
theorem Separate.get_copy (h : r.Separate) (hfs : fs ⊆ r.fields) (hf : f ∈ r.fields) (s t : σ) :
    f.get (copy s fs t) = if f.name ∈ fs.map Field.name then f.get s else f.get t := by
  induction fs generalizing t with
  | nil => simp [copy]
  | cons g fs ih =>
    obtain ⟨hg, htail⟩ := List.cons_subset.mp hfs
    have hrest := ih htail (g.put (g.get s) t)
    change f.get (copy s fs (g.put (g.get s) t)) = _
    by_cases hname : f.name = g.name
    · obtain rfl := eq_of_name h.nodup hf hg hname
      rw [h.get_put f hf] at hrest
      simpa using hrest
    · rw [h.get_put_of_ne f hf g hg hname] at hrest
      simpa [hname] using hrest

/-- The order in which fields are taken over does not matter. -/
theorem Separate.copy_eq_of_perm (h : r.Separate) (hfs : fs ⊆ r.fields) (hperm : gs.Perm fs)
    (s t : σ) : copy s gs t = copy s fs t := by
  refine hperm.foldl_eq' (fun f hf g hg u => ?_) t
  have hf' := hfs (hperm.subset hf)
  have hg' := hfs (hperm.subset hg)
  by_cases hname : g.name = f.name
  · rw [eq_of_name h.nodup hg' hf' hname]
  · exact h.put_comm g hg' f hf' hname _ _ u

end Record

theorem Settings.lawful_record : Settings.record.Lawful := ⟨by decide, fun _ => rfl⟩

theorem Application.lawful_record : Application.record.Lawful := ⟨by decide, fun _ => rfl⟩

theorem Event.lawful_record : Event.record.Lawful := ⟨by decide, fun _ => rfl⟩

theorem Criteria.lawful_record : Criteria.record.Lawful := ⟨by decide, fun _ => rfl⟩

theorem Settings.separate_record : Settings.record.Separate where
  nodup := lawful_record.nodup
  get_put := by simp [Settings.record]
  get_put_of_ne := by simp [Settings.record]
  put_comm := by simp [Settings.record]

end OpenUrl
