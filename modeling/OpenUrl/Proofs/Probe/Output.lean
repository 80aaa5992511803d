import OpenUrl.Listening
import OpenUrl.Probe.Run
import OpenUrl.Proofs.Criteria.Verdict
import OpenUrl.Proofs.Report

/-!
# What a run writes

A run writes the description of the process that was asked for, listens, and writes the report of
the event. Wherever the sink is full, what it holds is the beginning of that, and what would have
come later is not done. In JSON, description and report are got back from what is written; as text
they are a row of lines.
-/
namespace OpenUrl

/-- What a report tells of an event: its URL and the process that sent it, the sender as it was
found, and a verdict just if there are criteria, which is good just if the sender has all that they
want. -/
structure Report.Tells (r : Report) (e : Event) (found : Application) (c : Criteria) : Prop where
  url : r.url = e.url
  senderPid : r.senderPid = e.senderPid
  sender : r.sender = found
  silent : r.matched = none ↔ ∀ p, c.get p = none
  matched : ∀ b, r.matched = some b → (b = true ↔ ∀ p w, c.get p = some w → p.part found = w)

theorem Report.tells_ofEvent (e : Event) (found : Application) (c : Criteria) :
    (Report.ofEvent e found c).Tells e found c where
  url := rfl
  senderPid := rfl
  sender := rfl
  silent := by
    rw [← Criteria.isEmpty_iff]
    simp [ofEvent, verdict]
  matched b h := by
    rw [← Criteria.holds_iff]
    cases hempty : c.isEmpty <;> simp_all [ofEvent, verdict]

namespace Probe

open OpenUrl.Log (Notice)

variable {σ : Type} {p : Platform σ} {c : Context} {a : Arguments} {system : σ} {out : Sink}

/-- What is written of the process that the arguments ask for; nothing without one. -/
def info (p : Platform σ) (a : Arguments) (system : σ) : List UInt8 :=
  match a.pid with
  | none => []
  | some pid => textBytes (String.join ((p.lookup system pid).1.pieces pid a.json))

/-- What is logged of the look at that process. -/
def infoNotices (p : Platform σ) (a : Arguments) (system : σ) : List Notice :=
  match a.pid with
  | none => []
  | some pid => (p.lookup system pid).2

theorem textBytes_join_ne_nil {ps : List String} {piece : String} (hmem : piece ∈ ps)
    (hpiece : textBytes piece ≠ []) : textBytes (String.join ps) ≠ [] := by
  induction ps with
  | nil => cases hmem
  | cons q ps ih =>
    rw [textBytes_join_cons]
    rcases List.mem_cons.mp hmem with rfl | hrest
    · exact List.append_ne_nil_of_left_ne_nil hpiece _
    · exact List.append_ne_nil_of_right_ne_nil _ (ih hrest)

/-- Something is written of every process, whether it has an application or not. -/
theorem pieces_ne_nil (app : Application) (pid : Int32) (json : Bool) :
    textBytes (String.join (app.pieces pid json)) ≠ [] := by
  have hfeed : textBytes "\n" ≠ [] := by
    rw [textBytes_eq]
    decide
  have hpid : textBytes "pid " ≠ [] := by
    rw [textBytes_eq]
    decide
  unfold Application.pieces
  cases json with
  | true => exact textBytes_join_ne_nil (by simp) hfeed
  | false =>
    cases app.isEmpty with
    | true => exact textBytes_join_ne_nil (by simp) hpid
    | false => exact textBytes_join_ne_nil (by simp) hpid

theorem info_eq_nil : info p a system = [] ↔ a.pid = none := by
  unfold info
  cases a.pid with
  | none => simp
  | some pid => simp [pieces_ne_nil]

/-- What is written of the process shows what was found of it. -/
theorem shown_info {pid : Int32} (h : a.pid = some pid) :
    Shown Application.ofFields? (pid, (p.lookup system pid).1)
      ((p.lookup system pid).1.linesWithPid pid) a.json (info p a system) := by
  unfold info
  rw [h]
  exact (p.lookup system pid).1.shown pid a.json

theorem describe_eq : describe p a system out =
    (decide (out.Fits (info p a system)), out.after (info p a system),
      infoNotices p a system) := by
  unfold describe info infoNotices
  cases a.pid with
  | none => simp
  | some pid => simp only [Application.writes _ pid a.json out]

/-- The report of an event that was heard. -/
def reportOf (p : Platform σ) (c : Context) (system : σ) (e : Event) : Report :=
  Report.ofEvent e (p.lookup system e.senderPid).1 c.criteria

/-- What is written of an event that was heard. -/
def told (p : Platform σ) (c : Context) (a : Arguments) (system : σ) (e : Event) : List UInt8 :=
  textBytes ((reportOf p c system e).text a.json)

/-- What is logged of the look at the sender and of the criteria. -/
def toldNotices (p : Platform σ) (c : Context) (system : σ) (e : Event) : List Notice :=
  (p.lookup system e.senderPid).2 ++
    Report.verdictNotices c.criteria (p.lookup system e.senderPid).1

theorem report_eq (e : Event) : report p c a system out e =
    ⟨if out.Fits (told p c a system e) then .ok (reportOf p c system e) else .error .output,
      out.after (told p c a system e), system, toldNotices p c system e⟩ := by
  simp only [report, Report.writes _ a.json out, decide_eq_true_eq]
  rfl

/-! ## The ways of a run -/

variable {system' : σ} {heard : List Notice}

/-- Nothing is listened to if the first part does not fit. -/
theorem run_of_not_fits (h : ¬ out.Fits (info p a system)) : run p c a system out =
    ⟨.error .output, out.after (info p a system), system, infoNotices p a system⟩ := by
  unfold run
  rw [describe_eq, decide_eq_false h]

theorem run_of_deaf (h : out.Fits (info p a system)) {d : Deafness}
    (hlisten : p.listen c.settings system = (.error d, system', heard)) : run p c a system out =
    ⟨.error (.hearing d), out.after (info p a system), system',
      infoNotices p a system ++ heard⟩ := by
  unfold run
  rw [describe_eq, decide_eq_true h, hlisten]

theorem run_of_event (h : out.Fits (info p a system)) {e : Event}
    (hlisten : p.listen c.settings system = (.ok e, system', heard)) : run p c a system out =
    ⟨if out.Fits (info p a system ++ told p c a system' e) then .ok (reportOf p c system' e)
        else .error .output,
      out.after (info p a system ++ told p c a system' e), system',
      infoNotices p a system ++ heard ++ toldNotices p c system' e⟩ := by
  have hfits : (out.after (info p a system)).Fits (told p c a system' e) ↔
      out.Fits (info p a system ++ told p c a system' e) := by
    rw [Sink.fits_append, and_iff_right h]
  unfold run
  rw [describe_eq, decide_eq_true h, hlisten]
  simp only [report_eq, hfits, Sink.after_append]

/-- Of the arguments a run uses the process and the format only. -/
theorem run_congr {b : Arguments} (hpid : b.pid = a.pid) (hjson : b.json = a.json) :
    run p c b system out = run p c a system out := by
  unfold run describe report
  rw [hpid, hjson]

/-- A run first writes of the process that was asked for, if one was. If that does not fit, the
run fails there, and what listening would do does not matter and is not done. If it fits and
nothing is heard, that is all that is written. If an event is heard, the text of its report follows,
and the report is returned just if all was written. The other arguments do not matter.

What is written of the process shows it and the application that was found behind it. What is
written of the event shows its report, which tells of it, of the sender that was found and of what
the criteria say. Both do so in the format that was asked for. -/
theorem run_output (p : Platform σ) (c : Context) (a : Arguments) (system : σ) (out : Sink) :
    (info p a system = [] ↔ a.pid = none) ∧
    (∀ pid, a.pid = some pid →
      Shown Application.ofFields? (pid, (p.lookup system pid).1)
        ((p.lookup system pid).1.linesWithPid pid) a.json (info p a system)) ∧
    (¬ out.Fits (info p a system) → ∀ listen,
      run { p with listen := listen } c a system out =
        ⟨.error .output, out.after (info p a system), system, infoNotices p a system⟩) ∧
    (out.Fits (info p a system) → ∀ system' heard,
      (∀ d, p.listen c.settings system = (.error d, system', heard) →
        (run p c a system out).outcome = .error (.hearing d) ∧
        (run p c a system out).out.bytes = out.bytes ++ info p a system ∧
        (run p c a system out).system = system') ∧
      ∀ e, p.listen c.settings system = (.ok e, system', heard) →
        (run p c a system out).out = out.after (info p a system ++ told p c a system' e) ∧
        (∀ r, (run p c a system out).outcome = .ok r ↔
          r = reportOf p c system' e ∧ out.Fits (info p a system ++ told p c a system' e)) ∧
        (¬ out.Fits (info p a system ++ told p c a system' e) →
          (run p c a system out).outcome = .error .output) ∧
        (run p c a system out).system = system') ∧
    (∀ system' e,
      (reportOf p c system' e).Tells e (p.lookup system' e.senderPid).1 c.criteria ∧
      Shown Report.ofFields? (reportOf p c system' e) (reportOf p c system' e).lines a.json
        (told p c a system' e)) ∧
    ∀ b : Arguments, b.pid = a.pid → b.json = a.json →
      run p c b system out = run p c a system out := by
  refine ⟨info_eq_nil, fun pid => shown_info, fun h listen => ?_,
    fun h system' heard => ⟨fun d hlisten => ?_, fun e hlisten => ?_⟩,
    fun system' e => ⟨Report.tells_ofEvent e _ c.criteria, (reportOf p c system' e).shown a.json⟩,
    fun b => run_congr⟩
  · exact run_of_not_fits (p := { p with listen := listen }) h
  · rw [run_of_deaf h hlisten]
    exact ⟨rfl, Sink.bytes_after_of_fits h, rfl⟩
  · rw [run_of_event h hlisten]
    refine ⟨rfl, fun r => ?_, fun hno => if_neg hno, rfl⟩
    dsimp only
    by_cases hall : out.Fits (info p a system ++ told p c a system' e)
    · rw [if_pos hall, Except.ok.injEq, and_iff_left hall, eq_comm]
    · rw [if_neg hall]
      constructor
      · intro hr
        cases hr
      · exact fun hr => absurd hr.2 hall

/-- An application opens a URL while it is listened to. -/
def clicked : Desktop.State :=
  { Desktop.State.fresh .idles with
    script := [.deliver ⟨Desktop.openUrlCode, Desktop.openUrlCode,
      [(Desktop.directObject, .text "x:y")], [(Desktop.senderPidKey, .number 7)]⟩]
    apps := [(7, ⟨some "A", some "b", none, none⟩)] }

/-- The application is asked for, which takes 69 bytes, and the report takes 103 more. In JSON both
are got back from the two lines of the output. -/
theorem run_output_of_click :
    let c : Context := ⟨.default, { Criteria.none with displayName := some "A" }⟩
    let a : Arguments := { Arguments.none with pid := some 7, timeout := some 1 }
    let b : Arguments := { a with json := true }
    let sender : Application := ⟨"A", "b", "", ""⟩
    let r : Report := ⟨"x:y", 7, sender, some true⟩
    let parts : String := "\"localized_name\":\"A\",\"bundle_identifier\":\"b\"," ++
      "\"bundle_url\":\"\",\"executable_url\":\"\"\x7d"
    (run Listening.platform c a clicked (.ofCapacity 68)).system = clicked ∧
    (run Listening.platform c a clicked (.ofCapacity 171)).outcome = .error .output ∧
    (run Listening.platform c a clicked (.ofCapacity 172)).outcome = .ok r ∧
    (run Listening.platform c b clicked .endless).outcome = .ok r ∧
    ∃ first second, (run Listening.platform c b clicked .endless).out.bytes = first ++ second ∧
      Shown Application.ofFields? (7, sender) (sender.linesWithPid 7) true first ∧
      first = textBytes ("\x7b\"pid\":7," ++ parts ++ "\n") ∧
      Shown Report.ofFields? r r.lines true second ∧
      second = textBytes ("\x7b\"url\":\"x:y\",\"sender_pid\":7,\"sender\":\x7b" ++ parts ++
        ",\"matched\":true\x7d\n") := by
  intro c a b sender r parts
  let heard := Listening.platform.listen c.settings clicked
  have hheard : heard.1 = .ok ⟨"x:y", 7⟩ := by decide +kernel
  have hlisten : Listening.platform.listen c.settings clicked =
      (.ok ⟨"x:y", 7⟩, heard.2.1, heard.2.2) := by rw [← hheard]
  have hreport : reportOf Listening.platform c heard.2.1 ⟨"x:y", 7⟩ = r := by decide +kernel
  have htold (d : Arguments) : told Listening.platform c d heard.2.1 ⟨"x:y", 7⟩ =
      textBytes (r.text d.json) := by rw [told, hreport]
  have houtput (capacity : Nat) :=
    run_output Listening.platform c a clicked (.ofCapacity capacity)
  have hevent {capacity : Nat}
      (h : (Sink.ofCapacity capacity).Fits (info Listening.platform a clicked)) :=
    ((houtput capacity).2.2.2.1 h _ _).2 _ hlisten
  refine ⟨?_, ?_, ?_, ?_⟩
  · have hinfo : ¬ (Sink.ofCapacity 68).Fits (info Listening.platform a clicked) := by
      decide +kernel
    exact congrArg Run.system ((houtput 68).2.2.1 hinfo Listening.platform.listen)
  · refine (hevent (by decide +kernel)).2.2.1 ?_
    rw [htold]
    decide +kernel
  · refine ((hevent (by decide +kernel)).2.1 _).mpr ⟨hreport.symm, ?_⟩
    rw [htold]
    decide +kernel
  · have hroom (bytes : List UInt8) : Sink.endless.Fits bytes := fun n hn => nomatch hn
    obtain ⟨-, hdescribed, -, hrun, hreported, -⟩ :=
      run_output Listening.platform c b clicked .endless
    obtain ⟨hout, hok, -⟩ := (hrun (hroom _) _ _).2 _ hlisten
    have hshown := (hreported heard.2.1 ⟨"x:y", 7⟩).2
    rw [hreport, htold] at hshown
    refine ⟨(hok r).mpr ⟨hreport.symm, hroom _⟩, info Listening.platform b clicked,
      textBytes (r.text true), ?_, hdescribed 7 rfl, congrArg textBytes ?_, hshown,
      congrArg textBytes ?_⟩
    · rw [hout, htold, Sink.bytes_after_of_fits (hroom _)]
      exact List.nil_append _
    · decide +kernel
    · decide +kernel

end Probe

end OpenUrl
