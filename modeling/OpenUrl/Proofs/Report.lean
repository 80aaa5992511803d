import OpenUrl.Proofs.Json.Failure
import OpenUrl.Proofs.Json.Fields
import OpenUrl.Proofs.Json.Line
import OpenUrl.Proofs.Report.Text

/-!
# What is written in JSON is got back

Every record and every failure is read back from its written form. What the probe prints in JSON
is one object on a line of its own, and its fields, found by name in what a parser makes of the
line, are those of the report. So in either format the output shows the report and nothing else
(`Shown`).
-/
namespace OpenUrl

open OpenUrl.Json (Value readAll readContent)

variable {α : Type}

/-- A written form on one line, from which every value is read back. -/
structure Lossless (toJson : α → Value) (ofJson : String → Except String α) : Prop where
  back : ∀ a, ofJson (toJson a).compact = .ok a
  oneLine : ∀ a, OneLine (toJson a).compact

theorem Json.Value.Plain.oneLine {d : Nat} {v : Value} (h : v.Plain d) : OneLine v.compact :=
  h.noControls.oneLine

theorem Record.Lawful.lossless {σ : Type} {r : Record σ} (h : r.Lawful) :
    Lossless r.toJson r.ofJson :=
  ⟨h.ofJson_toJson, fun s => (r.plain_toJson s).oneLine⟩

theorem Failure.lossless : Lossless Failure.toJson Failure.ofJson :=
  ⟨ofJson_toJson, fun f => f.plain_toJson.oneLine⟩

theorem textBytes_line (line : String) : textBytes (line ++ "\n") = textBytes line ++ [0x0A] := by
  have hfeed : textBytes "\n" = [0x0A] := by
    rw [textBytes_eq]
    decide
  rw [textBytes_append, hfeed]

/-- The writer appends an object on a line of its own, and parsing gives its fields. -/
structure Prints (write : Writer) (line : String) (fields : List (String × Value)) : Prop where
  written : ∀ before, write ⟨none, before⟩ =
    (true, ⟨none, before ++ textBytes line ++ [0x0A]⟩)
  oneLine : OneLine line
  object : readAll (readContent 0) line = .ok (.object fields)
  output : readAll (readContent 0) (line ++ "\n") = .ok (.object fields)

theorem Json.Value.Plain.prints {d : Nat} {fields : List (String × Value)} {write : Writer}
    (h : (Value.object fields).Plain d) (hd : d < Json.depthLimit)
    (hwrite : write.Writes ((Value.object fields).compact ++ "\n")) :
    Prints write (Value.object fields).compact fields := by
  have hread : Json.Reads Json.Ends (readContent 0) (Json.render (.object fields))
      (.object fields) :=
    Json.reads_readContent h (by omega)
  refine ⟨fun before => ?_, h.oneLine, ?_, ?_⟩
  · rw [hwrite, textBytes_line]
    simp [Sink.Fits, Sink.after]
  · have hall := Json.readAll_eq hread [] (by simp)
    rwa [List.append_nil] at hall
  · have hall := Json.readAll_eq hread ['\n'] (by simp [Json.isBlank])
    rwa [String.ofList_append] at hall

/-- What stands in the output for `a`. In JSON it is an object on a line of its own, from whose
fields `a` is got back; else it is the given lines. -/
inductive Shown (ofFields? : Value → Option α) (a : α) (lines : List String) :
    Bool → List UInt8 → Prop
  | json {line : String} {fields : List (String × Value)} : OneLine line →
      readAll (readContent 0) line = .ok (.object fields) → ofFields? (.object fields) = some a →
        Shown ofFields? a lines true (textBytes line ++ [0x0A])
  | text : Shown ofFields? a lines false (textBytes (unlines lines))

namespace Report

/-- The verdict that a value of JSON stands for. -/
def verdict? : Value → Option (Option Bool)
  | .null => some none
  | .boolean b => some (some b)
  | _ => none

/-- The report that the fields of a parsed object give. -/
def ofFields? (v : Value) : Option Report := do
  let url ← (v.field? "url").bind Kind.text.ofJson?
  let senderPid ← (v.field? "sender_pid").bind Kind.integer.ofJson?
  let sender ← (v.field? "sender").bind Application.record.ofFields?
  let matched ← (v.field? "matched").bind verdict?
  some ⟨url, senderPid, sender, matched⟩

/-- The fields as they are written. -/
def fields (r : Report) : List (String × Value) :=
  [("url", Kind.text.toJson r.url), ("sender_pid", Kind.integer.toJson r.senderPid),
    ("sender", Application.record.toJson r.sender), ("matched", verdictJson r.matched)]

theorem plain_toJson (r : Report) : (Value.object r.fields).Plain 2 := by
  refine .object ?_
  simp only [fields, List.forall_mem_cons, List.not_mem_nil, false_imp_iff, implies_true, and_true]
  refine ⟨Kind.plain_toJson .text _ 1, Kind.plain_toJson .integer _ 1,
    Application.record.plain_toJson r.sender, ?_⟩
  cases r.matched with
  | none => exact .null
  | some b => exact .boolean b

theorem ofFields?_eq (r : Report) : ofFields? (.object r.fields) = some r := by
  have hnodup : (r.fields.map Prod.fst).Nodup := by
    change ["url", "sender_pid", "sender", "matched"].Nodup
    decide
  have hfield {f : String × Value} (hf : f ∈ r.fields) :
      (Value.object r.fields).field? f.1 = some f.2 := Value.field?_of_mem hnodup hf
  have hurl := hfield (f := ("url", Kind.text.toJson r.url)) (by simp [fields])
  have hpid := hfield (f := ("sender_pid", Kind.integer.toJson r.senderPid)) (by simp [fields])
  have hsender := hfield (f := ("sender", Application.record.toJson r.sender)) (by simp [fields])
  have hmatched := hfield (f := ("matched", verdictJson r.matched)) (by simp [fields])
  have happlication : Application.record.ofFields? (Application.record.toJson r.sender) =
      some r.sender :=
    Application.lawful_record.ofFields?_eq r.sender
      (Application.record.map_fst_jsonFields r.sender ▸ Application.lawful_record.nodup)
      fun _ hf => hf
  have hverdict : verdict? (verdictJson r.matched) = some r.matched := by
    cases r.matched <;> rfl
  simp only [ofFields?, hurl, hpid, hsender, hmatched, Option.bind_some, Kind.ofJson?_toJson,
    happlication, hverdict, Option.bind_eq_bind]

theorem prints (r : Report) : Prints (r.write true) r.toJson.compact r.fields :=
  r.plain_toJson.prints (by decide) r.writes_json

theorem shown (r : Report) (json : Bool) :
    Shown ofFields? r r.lines json (textBytes (r.text json)) := by
  rw [text_eq]
  cases json with
  | true =>
    rw [if_pos rfl, textBytes_line]
    exact .json r.prints.oneLine r.prints.object r.ofFields?_eq
  | false => exact .text

end Report

namespace Application

/-- The process and the application that the fields of a parsed object give. -/
def ofFields? (v : Value) : Option (Int32 × Application) := do
  let pid ← (v.field? "pid").bind Kind.integer.ofJson?
  let a ← record.ofFields? v
  some (pid, a)

/-- The fields as they are written with the process. -/
def fields (a : Application) (pid : Int32) : List (String × Value) :=
  ("pid", Kind.integer.toJson pid) :: record.jsonFields a

theorem plain_withPid (a : Application) (pid : Int32) : (Value.object (a.fields pid)).Plain 1 :=
  .object (List.forall_mem_cons.mpr
    ⟨Kind.plain_toJson .integer pid 0, record.plain_jsonFields a 0⟩)

theorem ofFields?_eq (a : Application) (pid : Int32) :
    ofFields? (.object (a.fields pid)) = some (pid, a) := by
  have hnodup : ((a.fields pid).map Prod.fst).Nodup := by
    change ["pid", "localized_name", "bundle_identifier", "bundle_url", "executable_url"].Nodup
    decide
  have hpid := Value.field?_of_mem hnodup (f := ("pid", Kind.integer.toJson pid))
    List.mem_cons_self
  have happlication := lawful_record.ofFields?_eq a hnodup fun _ hf => List.mem_cons_of_mem _ hf
  simp only [ofFields?, hpid, Option.bind_some, Kind.ofJson?_toJson, happlication,
    Option.bind_eq_bind]

theorem prints (a : Application) (pid : Int32) :
    Prints (a.write pid true) (a.withPid pid).compact (a.fields pid) :=
  (a.plain_withPid pid).prints (by decide) (a.writes_json pid)

theorem shown (a : Application) (pid : Int32) (json : Bool) :
    Shown ofFields? (pid, a) (a.linesWithPid pid) json
      (textBytes (String.join (a.pieces pid json))) := by
  rw [join_pieces]
  cases json with
  | true =>
    rw [if_pos rfl, textBytes_line]
    exact .json (a.prints pid).oneLine (a.prints pid).object (a.ofFields?_eq pid)
  | false => exact .text

end Application

/-- Every written form takes one line and is read back. What is printed of a process or of an event
is one object with a line feed behind it, from which all that went into it is got back. -/
theorem json_lossless :
    Lossless Settings.record.toJson Settings.record.ofJson ∧
    Lossless Application.record.toJson Application.record.ofJson ∧
    Lossless Event.record.toJson Event.record.ofJson ∧
    Lossless Criteria.record.toJson Criteria.record.ofJson ∧
    Lossless Failure.toJson Failure.ofJson ∧
    (∀ (pid : Int32) (a : Application), ∃ line fields,
      Prints (a.write pid true) line fields ∧
      Application.ofFields? (.object fields) = some (pid, a)) ∧
    ∀ r : Report, ∃ line fields,
      Prints (r.write true) line fields ∧ Report.ofFields? (.object fields) = some r := by
  refine ⟨Settings.lawful_record.lossless, Application.lawful_record.lossless,
    Event.lawful_record.lossless, Criteria.lawful_record.lossless, Failure.lossless,
    fun pid a => ?_, fun r => ?_⟩
  · exact ⟨_, _, a.prints pid, a.ofFields?_eq pid⟩
  · exact ⟨_, _, r.prints, r.ofFields?_eq⟩

end OpenUrl
