import Mathlib.Tactic.Common
import OpenUrl.Surroundings.FileTree

/-!
# Where a path leads

A path leads from place to place by its parts, through at most forty links. The walk finds where
it leads whenever it leads anywhere: its fuel is never spent before the parts are.
-/
namespace OpenUrl.Surroundings.FileTree

variable {t : FileTree} {fuel links : Nat} {p q : Place} {isFolder : Bool} {part path : String}
  {parts : List String}

/-- The part names an entry of the folder. -/
structure Names (part : String) : Prop where
  ne_empty : part ≠ ""
  ne_here : part ≠ "."
  ne_above : part ≠ ".."

/-- From a place, which can be entered if `isFolder`, the parts lead to another through at most so
many links. -/
inductive Leads (t : FileTree) : Nat → Place → Bool → List String → Place → Prop
  | arrived {links : Nat} {p : Place} {isFolder : Bool} : Leads t links p isFolder [] p
  | stay {links : Nat} {p q : Place} {part : String} {parts : List String} :
      part = "" ∨ part = "." → Leads t links p true parts q →
      Leads t links p true (part :: parts) q
  | up {links : Nat} {p q : Place} {parts : List String} :
      Leads t links p.dropLast true parts q → Leads t links p true (".." :: parts) q
  | folder {links : Nat} {p q : Place} {part : String} {parts : List String} :
      Names part → t.find? (p ++ [part]) = some .folder →
      Leads t links (p ++ [part]) true parts q → Leads t links p true (part :: parts) q
  | file {links : Nat} {p q : Place} {part : String} {parts : List String} {content : ByteArray} :
      Names part → t.find? (p ++ [part]) = some (.file content) →
      Leads t links (p ++ [part]) false parts q → Leads t links p true (part :: parts) q
  | link {links : Nat} {p q : Place} {part target : String} {parts : List String} :
      Names part → t.find? (p ++ [part]) = some (.link target) →
      Leads t links (origin p target).1 true ((origin p target).2 ++ parts) q →
      Leads t (links + 1) p true (part :: parts) q

/-! ## One part of a walk -/

theorem walk_stay (h : part = "" ∨ part = ".") :
    walk t (fuel + 1) links p true (part :: parts) = walk t fuel links p true parts := by
  rw [walk]
  simp [h]

theorem walk_up :
    walk t (fuel + 1) links p true (".." :: parts) = walk t fuel links p.dropLast true parts := by
  rw [walk]
  simp

theorem walk_entry (h : Names part) :
    walk t (fuel + 1) links p true (part :: parts) =
      match t.find? (p ++ [part]) with
      | none => .error .notFound
      | some .folder => walk t fuel links (p ++ [part]) true parts
      | some (.file _) => walk t fuel links (p ++ [part]) false parts
      | some (.link target) =>
        match links with
        | 0 => .error .tooManyLinks
        | links + 1 =>
          walk t fuel links (origin p target).1 true ((origin p target).2 ++ parts) := by
  rw [walk]
  cases hfind : t.find? (p ++ [part]) with
  | none => simp [h.ne_empty, h.ne_here, h.ne_above, hfind]
  | some n => cases n <;> cases links <;> simp [h.ne_empty, h.ne_here, h.ne_above, hfind]

/-! ## The whole walk -/

theorem leads_of_walk (h : walk t fuel links p isFolder parts = .ok q) :
    Leads t links p isFolder parts q := by
  induction fuel generalizing links p isFolder parts with
  | zero => cases h
  | succ fuel ih =>
    cases parts with
    | nil =>
      obtain rfl : p = q := Except.ok.inj h
      exact .arrived
    | cons part parts =>
      cases isFolder with
      | false => cases h
      | true =>
        by_cases hstay : part = "" ∨ part = "."
        · rw [walk_stay hstay] at h
          exact .stay hstay (ih h)
        · by_cases hup : part = ".."
          · subst hup
            rw [walk_up] at h
            exact .up (ih h)
          · have hnames : Names part := ⟨(not_or.mp hstay).1, (not_or.mp hstay).2, hup⟩
            rw [walk_entry hnames] at h
            cases hfind : t.find? (p ++ [part]) with
            | none => simp [hfind] at h
            | some n =>
              simp only [hfind] at h
              cases n with
              | folder => exact .folder hnames hfind (ih h)
              | file content => exact .file hnames hfind (ih h)
              | link target =>
                cases links with
                | zero => cases h
                | succ links => exact .link hnames hfind (ih h)

/-- The greater of a number and the number of parts of a link. -/
def longer (n : Nat) (m : Place × Node) : Nat :=
  match m.2 with
  | .link target => max n (Path.parts target).length
  | _ => n

theorem le_longer (n : Nat) (m : Place × Node) : n ≤ longer n m := by
  unfold longer
  split
  · exact Nat.le_max_left _ _
  · exact Nat.le_refl n

theorem le_foldl_longer (nodes : List (Place × Node)) (n : Nat) : n ≤ nodes.foldl longer n := by
  induction nodes generalizing n with
  | nil => exact Nat.le_refl n
  | cons m nodes ih => exact Nat.le_trans (le_longer n m) (ih _)

theorem length_parts_le_foldl_longer {nodes : List (Place × Node)} {target : String}
    (h : (q, Node.link target) ∈ nodes) (n : Nat) :
    (Path.parts target).length ≤ nodes.foldl longer n := by
  induction nodes generalizing n with
  | nil => cases h
  | cons m nodes ih =>
    rcases List.mem_cons.mp h with rfl | hmem
    · have hhere : (Path.parts target).length ≤ longer n (q, .link target) := Nat.le_max_right _ _
      exact Nat.le_trans hhere (le_foldl_longer nodes _)
    · exact ih hmem _

/-- The parts of the longest link. -/
def longestLink (t : FileTree) : Nat := t.nodes.foldl longer 0

theorem patience_eq (t : FileTree) (path : String) : t.patience path =
    (Path.parts path).length + (linkLimit + 1) * (t.longestLink + 1) + 1 := rfl

theorem length_parts_le_longestLink {target : String} (h : t.find? q = some (.link target)) :
    (Path.parts target).length ≤ t.longestLink := by
  obtain ⟨⟨q', n⟩, hfind, rfl⟩ := Option.map_eq_some_iff.mp h
  exact length_parts_le_foldl_longer (List.mem_of_find?_eq_some hfind) 0

theorem length_origin_le (p : Place) (path : String) :
    (origin p path).2.length ≤ (Path.parts path).length := by
  unfold origin
  by_cases h : Path.isAbsolute path
  · simp [h]
  · simp [h]

/-- Fuel for the parts and for those of as many links as may be followed is enough. -/
theorem Leads.walk_eq (h : Leads t links p isFolder parts q)
    (hfuel : parts.length + links * t.longestLink < fuel) :
    walk t fuel links p isFolder parts = .ok q := by
  -- A part is paid for by itself. A link brings parts of its own, which are paid for by the one
  -- link fewer that may be followed behind it.
  induction h generalizing fuel with
  | arrived =>
    obtain ⟨fuel, rfl⟩ := Nat.exists_eq_add_one_of_ne_zero (by omega : fuel ≠ 0)
    rfl
  | stay hstay _ ih =>
    obtain ⟨fuel, rfl⟩ := Nat.exists_eq_add_one_of_ne_zero (by omega : fuel ≠ 0)
    rw [List.length_cons] at hfuel
    rw [walk_stay hstay]
    exact ih (by omega)
  | up _ ih =>
    obtain ⟨fuel, rfl⟩ := Nat.exists_eq_add_one_of_ne_zero (by omega : fuel ≠ 0)
    rw [List.length_cons] at hfuel
    rw [walk_up]
    exact ih (by omega)
  | folder hnames hfind _ ih =>
    obtain ⟨fuel, rfl⟩ := Nat.exists_eq_add_one_of_ne_zero (by omega : fuel ≠ 0)
    rw [List.length_cons] at hfuel
    rw [walk_entry hnames, hfind]
    exact ih (by omega)
  | file hnames hfind _ ih =>
    obtain ⟨fuel, rfl⟩ := Nat.exists_eq_add_one_of_ne_zero (by omega : fuel ≠ 0)
    rw [List.length_cons] at hfuel
    rw [walk_entry hnames, hfind]
    exact ih (by omega)
  | @link links p q part target parts hnames hfind _ ih =>
    obtain ⟨fuel, rfl⟩ := Nat.exists_eq_add_one_of_ne_zero (by omega : fuel ≠ 0)
    have hfront : (origin p target).2.length ≤ t.longestLink :=
      Nat.le_trans (length_origin_le p target) (length_parts_le_longestLink hfind)
    rw [List.length_cons, Nat.add_one_mul] at hfuel
    rw [walk_entry hnames, hfind]
    exact ih (by rw [List.length_append]; omega)

/-! ## Paths -/

/-- The path leads to the place. Nothing is found under an empty path or one with a null. -/
def LeadsTo (t : FileTree) (path : String) (q : Place) : Prop :=
  path ≠ "" ∧ '\x00' ∉ path.toList ∧
    Leads t linkLimit (origin t.here path).1 true (origin t.here path).2 q

theorem resolve_eq_ok : t.resolve path = .ok q ↔ t.LeadsTo path q := by
  unfold resolve LeadsTo
  by_cases hbad : (path.isEmpty || path.toList.contains '\x00') = true
  · rw [if_pos hbad]
    have hnot : path = "" ∨ '\x00' ∈ path.toList := by simpa using hbad
    constructor
    · intro h
      cases h
    · rintro ⟨hempty, hnull, -⟩
      exact absurd hnot (not_or.mpr ⟨hempty, hnull⟩)
  · rw [if_neg hbad]
    obtain ⟨hempty, hnull⟩ : path ≠ "" ∧ '\x00' ∉ path.toList := by simpa using hbad
    constructor
    · exact fun h => ⟨hempty, hnull, leads_of_walk h⟩
    · rintro ⟨-, -, hleads⟩
      have hparts := length_origin_le t.here path
      refine hleads.walk_eq ?_
      rw [patience_eq, Nat.mul_add, Nat.add_one_mul]
      omega

/-- Something stands under the path. -/
def Stands (t : FileTree) (path : String) : Prop := ∃ q, t.LeadsTo path q

/-- What stands under the path is a file. -/
def HoldsFile (t : FileTree) (path : String) : Prop :=
  ∃ q content, t.LeadsTo path q ∧ t.find? q = some (.file content)

theorem HoldsFile.stands (h : t.HoldsFile path) : t.Stands path := by
  obtain ⟨q, _, hleads, -⟩ := h
  exact ⟨q, hleads⟩

theorem present_iff : t.present path = true ↔ t.Stands path := by
  simp only [Stands, ← resolve_eq_ok, present]
  cases t.resolve path with
  | error f => simp [Except.isOk, Except.toBool]
  | ok p => simp [Except.isOk, Except.toBool]

theorem isFile_iff : t.isFile path = true ↔ t.HoldsFile path := by
  simp only [HoldsFile, ← resolve_eq_ok, isFile, node?]
  cases t.resolve path with
  | error f => simp [Except.map]
  | ok p =>
    simp only [Except.map]
    cases hfind : t.find? p with
    | none => simp [hfind]
    | some n => cases n <;> simp [hfind]

/-- A folder has no text. -/
theorem readText_of_not_holdsFile (h : t.Stands path) (hno : ¬ t.HoldsFile path) :
    t.readText path = .error .isFolder := by
  obtain ⟨q, hleads⟩ := h
  have hresolve := resolve_eq_ok.mpr hleads
  have hbytes : t.readBytes path = .error .isFolder := by
    unfold readBytes node?
    rw [hresolve]
    simp only [Except.map]
    cases hfind : t.find? q with
    | none => simp
    | some n =>
      cases n with
      | file content => exact absurd ⟨q, content, hleads, hfind⟩ hno
      | folder => simp
      | link target => simp
  rw [readText, hbytes]

end OpenUrl.Surroundings.FileTree
