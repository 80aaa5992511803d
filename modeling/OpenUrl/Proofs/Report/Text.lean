import OpenUrl.Proofs.Sink
import OpenUrl.Report

/-!
# The lines of descriptions and reports

As text, a description has a line for each part of an application and a report has one for each
thing that it tells; a line feed ends every line, the last one too. A line in turn is made of
pieces, which may well be written one by one. In either format, what the writers write is what their
pieces say in a row.
-/
namespace OpenUrl

/-- Lines, each with a line feed behind it. -/
def unlines (ls : List String) : String := String.join (ls.map (· ++ "\n"))

@[simp] theorem unlines_nil : unlines [] = "" := rfl

@[simp] theorem unlines_cons (l : String) (ls : List String) :
    unlines (l :: ls) = l ++ "\n" ++ unlines ls := by
  rw [unlines, List.map_cons, String.join_cons, unlines]

@[simp] theorem unlines_append (ls ks : List String) :
    unlines (ls ++ ks) = unlines ls ++ unlines ks := by
  rw [unlines, List.map_append, String.join_append, unlines, unlines]

namespace Writer

variable {w v : Writer} {l t : String} {ls ks : List String}

theorem writes_unlines_line (l : String) : (line l).Writes (unlines [l]) := by
  rw [unlines_cons, unlines_nil, String.append_empty]
  exact writes_line l

theorem Writes.andThen_lines (hw : w.Writes (unlines ls)) (hv : v.Writes (unlines ks)) :
    (w.andThen v).Writes (unlines (ls ++ ks)) := by
  rw [unlines_append]
  exact hw.andThen hv

theorem Writes.line_andThen (hv : v.Writes (unlines ls)) :
    ((line l).andThen v).Writes (unlines (l :: ls)) :=
  (writes_unlines_line l).andThen_lines hv

/-- A text that is a line of its own, the line feed written after it. -/
theorem writes_text_line (t : String) : ((text t).andThen (line "")).Writes (t ++ "\n") :=
  (writes_text t).andThen (writes_line "")

end Writer

namespace Application

/-- The pieces for each part of an application. -/
def linePieces (a : Application) : List String :=
  ["  name:       ", a.localizedName, "\n",
    "  bundle id:  ", a.bundleIdentifier, "\n",
    "  bundle:     ", a.bundleUrl, "\n",
    "  executable: ", a.executableUrl, "\n"]

/-- The application behind a process in the pieces of which its lines are made. -/
def pieces (a : Application) (pid : Int32) (json : Bool) : List String :=
  if json then [(a.withPid pid).compact, "\n"]
  else if a.isEmpty then ["pid ", toString pid, ": no running application\n"]
  else ["pid ", toString pid, ":\n"] ++ a.linePieces

theorem isEmpty_iff {a : Application} : a.isEmpty = true ↔ a = none := by
  obtain ⟨name, bundle, url, executable⟩ := a
  simp [isEmpty, none, and_assoc]

/-- A line for each part. -/
def lines (a : Application) : List String :=
  ["  name:       " ++ a.localizedName, "  bundle id:  " ++ a.bundleIdentifier,
    "  bundle:     " ++ a.bundleUrl, "  executable: " ++ a.executableUrl]

/-- The lines for the application behind a process. -/
def linesWithPid (a : Application) (pid : Int32) : List String :=
  if a = none then ["pid " ++ toString pid ++ ": no running application"]
  else ("pid " ++ toString pid ++ ":") :: a.lines

theorem writes_writeLines (a : Application) : a.writeLines.Writes (unlines a.lines) :=
  .line_andThen <| .line_andThen <| .line_andThen <| Writer.writes_unlines_line _

theorem writes_json (a : Application) (pid : Int32) :
    (a.write pid true).Writes ((a.withPid pid).compact ++ "\n") :=
  Writer.writes_text_line _

theorem writes_text (a : Application) (pid : Int32) :
    (a.write pid false).Writes (unlines (a.linesWithPid pid)) := by
  unfold write linesWithPid
  by_cases h : a = none
  · rw [if_neg (by decide), if_pos h, if_pos (isEmpty_iff.mpr h)]
    exact Writer.writes_unlines_line _
  · rw [if_neg (by decide), if_neg h, if_neg (isEmpty_iff.not.mpr h)]
    exact .line_andThen a.writes_writeLines

/-- The pieces of a description are its lines, or its object on a line of its own. -/
theorem join_pieces (a : Application) (pid : Int32) (json : Bool) :
    String.join (a.pieces pid json) =
      if json then (a.withPid pid).compact ++ "\n" else unlines (a.linesWithPid pid) := by
  cases json with
  | true => simp [pieces]
  | false =>
    by_cases h : a = none
    · simp [pieces, linesWithPid, h, String.append_assoc]
    · have hempty : a.isEmpty = false := Bool.eq_false_iff.mpr (isEmpty_iff.not.mpr h)
      simp [pieces, linesWithPid, hempty, h, lines, linePieces, String.append_assoc]

theorem writes (a : Application) (pid : Int32) (json : Bool) :
    (a.write pid json).Writes (String.join (a.pieces pid json)) := by
  rw [join_pieces]
  cases json with
  | true => exact a.writes_json pid
  | false => exact a.writes_text pid

end Application

namespace Report

def verdictPieces : Option Bool → List String
  | none => []
  | some true => ["criteria: matched\n"]
  | some false => ["criteria: not matched\n"]

/-- The report in the pieces of which its lines are made. -/
def pieces (r : Report) (json : Bool) : List String :=
  if json then [r.toJson.compact, "\n"]
  else
    ["url: ", r.url, "\n", "sender pid: ", toString r.senderPid, "\n"] ++
      (if r.sender.isEmpty then ["  (sender not found)\n"] else r.sender.linePieces) ++
      verdictPieces r.matched

/-- A report written without end. -/
def text (r : Report) (json : Bool) : String := String.join (r.pieces json)

/-- The lines for the sender of an event. -/
def senderLines (sender : Application) : List String :=
  if sender = Application.none then ["  (sender not found)"] else sender.lines

/-- The line for the verdict, if there is one. -/
def verdictLines : Option Bool → List String
  | none => []
  | some true => ["criteria: matched"]
  | some false => ["criteria: not matched"]

/-- A line for each thing that a report tells. -/
def lines (r : Report) : List String :=
  ("url: " ++ r.url) :: ("sender pid: " ++ toString r.senderPid) ::
    (senderLines r.sender ++ verdictLines r.matched)

theorem writes_writeVerdict (v : Option Bool) :
    (writeVerdict v).Writes (unlines (verdictLines v)) := by
  match v with
  | none => exact Writer.writes_nothing
  | some true | some false => exact Writer.writes_unlines_line _

theorem writes_json (r : Report) : (r.write true).Writes (r.toJson.compact ++ "\n") :=
  Writer.writes_text_line _

theorem writes_text (r : Report) : (r.write false).Writes (unlines r.lines) := by
  have hsender : (if r.sender.isEmpty then Writer.line "  (sender not found)"
      else r.sender.writeLines).Writes (unlines (senderLines r.sender)) := by
    unfold senderLines
    by_cases h : r.sender = Application.none
    · rw [if_pos h, if_pos (Application.isEmpty_iff.mpr h)]
      exact Writer.writes_unlines_line _
    · rw [if_neg h, if_neg (Application.isEmpty_iff.not.mpr h)]
      exact r.sender.writes_writeLines
  exact .line_andThen <| .line_andThen <| hsender.andThen_lines (writes_writeVerdict r.matched)

/-- The pieces of a report are its lines, or its object on a line of its own. -/
theorem text_eq (r : Report) (json : Bool) :
    r.text json = if json then r.toJson.compact ++ "\n" else unlines r.lines := by
  have hverdict : String.join (verdictPieces r.matched) = unlines (verdictLines r.matched) := by
    match r.matched with
    | none => rfl
    | some true | some false => rfl
  cases json with
  | true => simp [text, pieces]
  | false =>
    by_cases h : r.sender = Application.none
    · simp [text, pieces, lines, senderLines, h, hverdict, String.append_assoc]
    · have hempty : r.sender.isEmpty = false :=
        Bool.eq_false_iff.mpr (Application.isEmpty_iff.not.mpr h)
      simp [text, pieces, lines, senderLines, hempty, h, Application.lines,
        Application.linePieces, hverdict, String.append_assoc]

theorem writes (r : Report) (json : Bool) : (r.write json).Writes (r.text json) := by
  rw [text_eq]
  cases json with
  | true => exact r.writes_json
  | false => exact r.writes_text

end Report

end OpenUrl
