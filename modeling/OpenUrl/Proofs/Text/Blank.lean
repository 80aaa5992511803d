import Mathlib.Data.List.TakeWhile
import OpenUrl.Text.Blank

/-!
# Texts between blanks

Trimming finds what a text says between the blanks around it. Whatever stands there without a
blank at either end is what is found.
-/
namespace OpenUrl.Text

variable {s : String} {body : List Char}

/-- The text is `body` with blanks, if any, around it. -/
def Padded (s : String) (body : List Char) : Prop :=
  ∃ front back, s.toList = front ++ body ++ back ∧ (∀ c ∈ front, isBlank c = true) ∧
    ∀ c ∈ back, isBlank c = true

theorem trimStart_append {front : List Char} (hfront : ∀ c ∈ front, isBlank c = true)
    (rest : List Char) : trimStart (front ++ rest) = trimStart rest :=
  List.dropWhile_append_of_pos hfront

theorem trimStart_eq_self {cs : List Char} (h : ∀ c ∈ cs.head?, isBlank c = false) :
    trimStart cs = cs := by
  cases cs with
  | nil => rfl
  | cons c cs => exact trimStart_cons_of_not_blank (h c rfl) cs

/-- From behind, trimming the end is trimming the start. -/
theorem trimEnd_eq (cs : List Char) : trimEnd cs = (trimStart cs.reverse).reverse := rfl

theorem exists_trimStart (cs : List Char) :
    ∃ front, cs = front ++ trimStart cs ∧ ∀ c ∈ front, isBlank c = true :=
  ⟨cs.takeWhile isBlank, List.takeWhile_append_dropWhile.symm, fun _ => List.mem_takeWhile_imp⟩

/-- What trimming leaves stands in the text between blanks. -/
theorem padded_trim (s : String) : Padded s (trim s).toList := by
  obtain ⟨front, hstart, hfront⟩ := exists_trimStart s.toList
  obtain ⟨back, hend, hback⟩ := exists_trimStart (trimStart s.toList).reverse
  refine ⟨front, back.reverse, ?_, hfront, fun c hc => hback c (List.mem_reverse.mp hc)⟩
  have hrest : trimStart s.toList = trimEnd (trimStart s.toList) ++ back.reverse := by
    rw [trimEnd_eq, ← List.reverse_append, ← hend, List.reverse_reverse]
  rw [trim, String.toList_ofList, List.append_assoc, ← hrest]
  exact hstart

/-- What stands between the blanks, with none at its own ends, is what trimming leaves. -/
theorem Padded.trim_eq (h : Padded s body) (hfirst : ∀ c ∈ body.head?, isBlank c = false)
    (hlast : ∀ c ∈ body.getLast?, isBlank c = false) : (trim s).toList = body := by
  obtain ⟨front, back, hs, hfront, hback⟩ := h
  have hback' : ∀ c ∈ back.reverse, isBlank c = true := fun c hc => hback c (List.mem_reverse.mp hc)
  have hbody : trimStart body.reverse = body.reverse :=
    trimStart_eq_self fun c hc => hlast c (List.head?_reverse ▸ hc)
  have hend : trimEnd (body ++ back) = body := by
    rw [trimEnd_eq, List.reverse_append, trimStart_append hback', hbody, List.reverse_reverse]
  rw [trim, String.toList_ofList, hs, List.append_assoc, trimStart_append hfront]
  cases body with
  | nil =>
    have hnone : trimStart back = [] := by
      rw [← List.append_nil back, trimStart_append hback, trimStart_nil]
    rw [List.nil_append, hnone, trimEnd_nil]
  | cons c cs =>
    rw [List.cons_append, trimStart_cons_of_not_blank (hfirst c rfl), ← List.cons_append, hend]

theorem Padded.trim_eq_of_forall (h : Padded s body) (hbody : ∀ c ∈ body, isBlank c = false) :
    (trim s).toList = body :=
  h.trim_eq (fun c hc => hbody c (List.mem_of_mem_head? hc))
    fun c hc => hbody c (List.mem_of_getLast? hc)

/-- ASCII lower case leaves blanks as they are. -/
theorem toLower_of_isBlank {c : Char} (h : isBlank c = true) : c.toLower = c := by
  have hnot : ¬ (c.val ≥ 'A'.val ∧ c.val ≤ 'Z'.val) := by
    rintro ⟨hlow, hhigh⟩
    have hlow' : 65 ≤ c.toNat := hlow
    have hhigh' : c.toNat ≤ 90 := hhigh
    simp only [isBlank, Bool.or_eq_true, Bool.and_eq_true, decide_eq_true_eq, beq_iff_eq] at h
    omega
  exact dif_neg hnot

theorem allBlank_eq_false {s : String} :
    allBlank s = false ↔ ∃ c ∈ s.toList, isBlank c = false := by
  simp [allBlank]

end OpenUrl.Text
