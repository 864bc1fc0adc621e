import KeyGadget.Proofs.Adequacy
import KeyGadget.Proofs.Directory
import KeyGadget.Proofs.Release

/-!
# A file in place of the device

A file that is opened as a device is written over from its start, eight bytes for every report.
Nothing else of it changes, so what it holds at any time tells what has been sent. It is compared
with a recorder, which appends the reports to its log: the two answer alike, and the log says what
is in the file.

## Main result

`file_holds_reports`: a session on a file gets the replies that it gets on a recorder with room for
everything, and leaves the file with the reports of the recorder in order, and behind them what was
there before.
-/
namespace KeyGadget

namespace Disk

variable {disk : Disk} {place : Place} {content : ByteArray}

private theorem step_file {here : Place} {name : String}
    (stepped : disk.step here name = .ok (.present place (.file content))) :
    disk.at? place = some (.file content) ∧
      ∀ other, (disk.put place (.file other)).step here name =
        .ok (.present place (.file other)) := by
  rw [step] at stepped
  -- Neither a step that stays nor one that goes up leads to a file.
  split at stepped
  next => cases stepped
  next moves =>
    split at stepped
    next => cases stepped
    next descends =>
      split at stepped
      next => cases stepped
      next brief =>
        dsimp only at stepped
        split at stepped
        next node found =>
          cases stepped
          refine ⟨found, fun other => ?_⟩
          rw [step, if_neg moves, if_neg descends, if_neg brief]
          simp [at?_put_self]
        next => cases stepped

/-- The way to a file stays open when the file gets other content. -/
private theorem follow_file {here : Place} {names : List String}
    (followed : disk.follow (.present here .directory) names =
      .ok (.present place (.file content))) :
    disk.at? place = some (.file content) ∧
      ∀ other, (disk.put place (.file other)).follow (.present here .directory) names =
        .ok (.present place (.file other)) := by
  induction names generalizing here with
  | nil => cases followed
  | cons name rest ih =>
    rw [follow] at followed
    cases stepped : disk.step here name with
    | error error =>
      rw [stepped] at followed
      cases followed
    | ok next =>
      rw [stepped] at followed
      dsimp only at followed
      rcases next with ⟨there, _ | _ | _⟩ | there
      case present.directory =>
        -- A directory on the way is not where the file lies.
        obtain ⟨lies, later⟩ := ih followed
        refine ⟨lies, fun other => ?_⟩
        have kept : disk.at? there = some .directory →
            (disk.put place (.file other)).at? there = some .directory := by
          intro directory
          rw [at?_put_of_ne disk _ _, directory]
          rintro rfl
          rw [directory] at lies
          cases lies
        rw [follow, step_kept stepped kept]
        exact later other
      case present.file =>
        cases rest with
        | cons next later => cases followed
        | nil =>
          cases followed
          obtain ⟨lies, later⟩ := step_file stepped
          refine ⟨lies, fun other => ?_⟩
          rw [follow, later other]
          rfl
      all_goals cases rest <;> cases followed

/-- A path that leads to a file still leads to it when it has got other content. -/
theorem find_file {path : String} (found : disk.find path = .ok (.present place (.file content))) :
    disk.at? place = some (.file content) ∧
      ∀ other, (disk.put place (.file other)).find path = .ok (.present place (.file other)) := by
  rw [find] at found
  split at found
  next => cases found
  next there node undirected located =>
    split at found
    next => cases found
    next unslashed =>
      cases found
      obtain ⟨proper, reached⟩ := (locate_eq_ok_iff disk path _).mp located
      obtain ⟨lies, later⟩ := follow_file reached
      refine ⟨lies, fun other => ?_⟩
      have relocated : (disk.put place (.file other)).locate path =
          .ok (.present place (.file other)) :=
        (locate_eq_ok_iff _ path _).mpr ⟨proper, later other⟩
      rw [find, relocated]
      simp [unslashed]
  next _ apart => exact absurd found (apart place (.file content))

theorem extract_toList (content : ByteArray) (offset : Nat) :
    (content.extract offset content.size).data.toList = content.data.toList.drop offset := by
  rw [ByteArray.data_extract, Array.toList_extract, List.extract_eq_take_drop]
  apply List.take_of_length_le
  simp

theorem overwrite_toList (content : ByteArray) (offset : Nat) (bytes : ByteArray) :
    (overwrite content offset bytes).data.toList =
      content.data.toList.take offset ++ bytes.data.toList ++
        content.data.toList.drop (offset + bytes.size) := by
  simp only [overwrite, ByteArray.data_append, Array.toList_append, extract_toList]
  simp

end Disk

/-- A file with some content, after reports have been written over it from its start. -/
def Report.onto (reports : List Report) (content : ByteArray) : ByteArray :=
  (reports.flatMap fun report => report.bytes.toList).toByteArray ++
    content.extract (8 * reports.length) content.size

namespace Report

theorem length_flatMap_bytes (reports : List Report) :
    (reports.flatMap fun report => report.bytes.toList).length = 8 * reports.length := by
  induction reports with
  | nil => rfl
  | cons report rest ih =>
    rw [List.flatMap_cons, List.length_append, ih, Vector.length_toList, List.length_cons]
    omega

theorem onto_toList (reports : List Report) (content : ByteArray) :
    (onto reports content).data.toList =
      (reports.flatMap fun report => report.bytes.toList) ++
        content.data.toList.drop (8 * reports.length) := by
  rw [onto, ByteArray.data_append, Array.toList_append, Disk.extract_toList, List.data_toByteArray]

@[simp] theorem onto_nil (content : ByteArray) : onto [] content = content := by
  apply ByteArray.ext
  simp [onto]

/-- The next report goes behind the others, over eight bytes of what was there. -/
theorem overwrite_onto (reports : List Report) (report : Report) (content : ByteArray) :
    Disk.overwrite (onto reports content) (8 * reports.length) report.bytes.toList.toByteArray =
      onto (reports ++ [report]) content := by
  have size : report.bytes.toList.toByteArray.size = 8 := by simp
  have front := length_flatMap_bytes reports
  apply ByteArray.ext
  rw [← Array.toList_inj, Disk.overwrite_toList, onto_toList, onto_toList, size,
    List.take_append_of_le_length (by omega), List.take_of_length_le (by omega),
    List.drop_append, List.drop_of_length_le (by omega), List.nil_append, List.drop_drop, front]
  simp [Nat.mul_add]

end Report

namespace Host

/-- Serves requests one after the other, starting with a default delay, and gives the replies. -/
def serve {m : Type → Type} [Monad m] (host : Host m) (timing : Timing) :
    Nat → List Request → m (List Reply)
  | _, [] => return []
  | _, .renew :: rest => host.serve timing 0 rest
  | delay, .operation operation :: rest => do
    let (reply, delay) ← host.operate timing delay operation
    let replies ← host.serve timing delay rest
    return reply :: replies

/-- A session gets the same replies from hosts that answer alike. -/
theorem Matches.serve {σ τ : Type} {host : Host (StateM σ)} {other : Host (StateM τ)}
    {related : σ → τ → Prop} (alike : host.Matches other related) {start : σ} {start' : τ}
    (belong : related start start') (timing : Timing) (delay : Nat) (requests : List Request) :
    let done := (host.serve timing delay requests).run start
    let done' := (other.serve timing delay requests).run start'
    done.1 = done'.1 ∧ related done.2 done'.2 := by
  induction requests generalizing delay start start' with
  | nil => exact ⟨rfl, belong⟩
  | cons request rest ih =>
    cases request with
    | renew => exact ih belong 0
    | operation operation =>
      obtain ⟨same, reached⟩ := alike.operate belong timing delay operation
      simp only [Host.serve, StateT.run_bind]
      rcases operated : (host.operate timing delay operation).run start with ⟨⟨reply, next⟩, after⟩
      rcases operated' : (other.operate timing delay operation).run start' with
        ⟨⟨reply', next'⟩, after'⟩
      rw [operated, operated'] at same reached
      cases same
      obtain ⟨replies, last⟩ := ih reached next
      exact ⟨congrArg (reply :: ·) replies, last⟩

end Host

namespace Bench

/-- The report that was recorded, if it is one. -/
def Event.report? : Event → Option Report
  | .report sent => some sent
  | .sleep _ => none

/-- The reports that were recorded, in order. -/
def reports (bench : Bench) : List Report :=
  bench.events.filterMap Event.report?

theorem reports_recorded (bench : Bench) (report : Report) :
    reports { bench with log := .report report :: bench.log } = bench.reports ++ [report] := by
  simp [reports, events, Event.report?]

theorem reports_slept (bench : Bench) (ms : Nat) : (bench.sleep ms).reports = bench.reports := by
  rw [Bench.sleep]
  split <;> simp [reports, events, Event.report?]

/-- The bench that has sent the same to a file. A file keeps no log of the reports. -/
def onFile (recorded : Bench) (disk : Disk) (place : Place) : Bench :=
  { recorded with
    disk := disk
    device := .file ⟨place, 8 * recorded.reports.length⟩
    log := recorded.log.filter fun event => !event.isReport }

/-- A bench with a file for a device, and one with a recorder that tells what the file holds. -/
inductive Keeps (path : String) (place : Place) (content : ByteArray) : Bench → Bench → Prop
  | intro (recorded : Bench) (disk : Disk) (recorder : recorded.device = .recorder none)
    (found : disk.find path = .ok (.present place (.file (Report.onto recorded.reports content)))) :
    Keeps path place content (recorded.onFile disk place) recorded

variable {path : String} {place : Place} {content : ByteArray} {filed recorded : Bench}

/-- The file takes a report as the recorder does, behind the reports that it has. -/
private theorem deliver_onFile (recorded : Bench) (disk : Disk) (report : Report)
    (lies : disk.at? place = some (.file (Report.onto recorded.reports content))) :
    (recorded.onFile disk place).deliver report =
      .ok (onFile { recorded with log := .report report :: recorded.log }
        (disk.put place (.file (Report.onto (recorded.reports ++ [report]) content))) place) := by
  have size : report.bytes.toList.toByteArray.size = 8 := by simp
  simp only [deliver, onFile, Disk.writeReport, Disk.writeTo, lies, Report.overwrite_onto, size,
    reports_recorded, List.length_append, List.length_singleton, Nat.mul_add]
  rfl

private theorem write_delivered (bench delivered : Bench) (report : Report)
    (allowed : ¬ bench.faults.failing.contains (bench.attempts + 1) = true)
    (taken : { bench with attempts := bench.attempts + 1 }.deliver report = .ok delivered) :
    bench.write report = (.ok (),
      if bench.faults.endAfter = some (bench.attempts + 1) then { delivered with flag := false }
      else delivered) := by
  rw [Bench.write, if_neg allowed, taken]

private theorem Keeps.write (keeps : Keeps path place content filed recorded) (report : Report) :
    (filed.write report).1 = (recorded.write report).1 ∧
      Keeps path place content (filed.write report).2 (recorded.write report).2 := by
  cases keeps with
  | intro _ disk recorder found =>
    obtain ⟨lies, later⟩ := Disk.find_file found
    let counted : Bench := { recorded with attempts := recorded.attempts + 1 }
    -- Both benches count the write, and plan the same faults.
    by_cases refused : recorded.faults.failing.contains (recorded.attempts + 1) = true
    · have filed : (recorded.onFile disk place).write report =
          (.error recorded.faults.error, counted.onFile disk place) := if_pos refused
      have kept : recorded.write report = (.error recorded.faults.error, counted) := if_pos refused
      rw [filed, kept]
      exact ⟨rfl, .intro counted disk recorder found⟩
    · let logged : Bench := { counted with log := .report report :: counted.log }
      let after := disk.put place (.file (Report.onto (recorded.reports ++ [report]) content))
      have taken : counted.deliver report = .ok logged := by
        simp only [deliver, counted, logged, recorder]
      have delivered : (counted.onFile disk place).deliver report =
          .ok (logged.onFile after place) := deliver_onFile counted disk report lies
      have found' : after.find path =
          .ok (.present place (.file (Report.onto logged.reports content))) := by
        rw [reports_recorded]
        exact later _
      have filed : (recorded.onFile disk place).write report = (.ok (),
          if recorded.faults.endAfter = some (recorded.attempts + 1) then
            onFile { logged with flag := false } after place
          else logged.onFile after place) :=
        write_delivered (recorded.onFile disk place) _ report refused delivered
      have kept := write_delivered recorded logged report refused taken
      rw [filed, kept]
      refine ⟨rfl, ?_⟩
      dsimp only
      split
      · exact .intro { logged with flag := false } after recorder found'
      · exact .intro logged after recorder found'

private theorem Keeps.sleep (keeps : Keeps path place content filed recorded) (ms : Nat) :
    Keeps path place content (filed.sleep ms) (recorded.sleep ms) := by
  cases keeps with
  | intro _ disk recorder found =>
    have reports := recorded.reports_slept ms
    have slept : (recorded.onFile disk place).sleep ms = (recorded.sleep ms).onFile disk place := by
      rw [onFile, onFile, reports, Bench.sleep, Bench.sleep]
      dsimp only
      split <;> rfl
    have device : (recorded.sleep ms).device = .recorder none := by
      rw [Bench.sleep]
      split <;> exact recorder
    rw [slept]
    exact .intro (recorded.sleep ms) disk device (by rwa [reports])

private theorem Keeps.events (keeps : Keeps path place content filed recorded) :
    filed.events = recorded.events.filter fun event => !event.isReport := by
  cases keeps with
  | intro _ disk recorder found => simp [Bench.events, onFile, List.filter_reverse]

private theorem Keeps.read (keeps : Keeps path place content filed recorded) :
    filed.disk.read path = .ok (Report.onto recorded.reports content) := by
  cases keeps with
  | intro _ disk recorder found => simp only [Disk.read, onFile, found]

/-- A bench with a file answers as a bench with a recorder. -/
private theorem keeps_matches (path : String) (place : Place) (content : ByteArray) :
    host.Matches host (Keeps path place content) := by
  constructor
  · intro filed recorded report keeps
    exact keeps.write report
  · intro filed recorded ms keeps
    exact keeps.sleep ms
  · intro filed recorded keeps
    refine ⟨?_, keeps⟩
    cases keeps with
    | intro _ disk recorder found => rfl

end Bench

/-- **A file in place of the device** keeps the reports: a session on a file gets the replies that
it gets on a recorder with room for everything, and waits as it does there. The file then holds the
reports of the recorder, eight bytes each and in order, and behind them what was there before. -/
theorem file_holds_reports (bench : Bench) (path : String) (place : Place) (content : ByteArray)
    (found : bench.disk.find path = .ok (.present place (.file content))) (timing : Timing)
    (delay : Nat) (requests : List Request) :
    ∃ handle, bench.disk.openDevice path = .ok handle ∧
      let filed := (Bench.host.serve timing delay requests).run
        { bench with device := .file handle, log := [] }
      let recorded := (Bench.host.serve timing delay requests).run
        { bench with device := .recorder none, log := [] }
      let sent := recorded.2.reports
      filed.1 = recorded.1 ∧
      filed.2.events = recorded.2.events.filter (fun event => !event.isReport) ∧
      filed.2.disk.read path =
        .ok ((sent.flatMap fun report => report.bytes.toList).toByteArray ++
          content.extract (8 * sent.length) content.size) := by
  have opened : bench.disk.openDevice path = .ok ⟨place, 0⟩ := by
    rw [Disk.openDevice, Disk.open?, found]
  refine ⟨⟨place, 0⟩, opened, ?_⟩
  intro filed recorded sent
  let start : Bench := { bench with device := .recorder none, log := [] }
  have belong : Bench.Keeps path place content (start.onFile bench.disk place) start :=
    .intro start bench.disk rfl (by simpa [start, Bench.reports, Bench.events] using found)
  obtain ⟨replies, keeps⟩ :=
    (Bench.keeps_matches path place content).serve belong timing delay requests
  exact ⟨replies, keeps.events, keeps.read⟩

/-- The third write is planned to fail, so the file gets two reports, over its first sixteen
bytes. -/
theorem file_holds_reports_twice :
    let content := "0123456789abcdefghij".toUTF8
    let bench : Bench :=
      { disk := Disk.fresh.put ["work", "hidg"] (.file content), device := .recorder none
        faults := ⟨[3], .unavailable "hidg", none⟩, recordsSleeps := true, watched := false
        flag := true, attempts := 0, log := [] }
    let requests : List Request := [.operation (.tap "a"), .renew, .operation (.run "ENTER\nb")]
    bench.disk.find "hidg" = .ok (.present ["work", "hidg"] (.file content)) ∧
    ∃ handle, bench.disk.openDevice "hidg" = .ok handle ∧
      let filed := (Bench.host.serve .standard 0 requests).run
        { bench with device := .file handle, log := [] }
      let recorded := (Bench.host.serve .standard 0 requests).run
        { bench with device := .recorder none, log := [] }
      let sent := recorded.2.reports
      (filed.1 = recorded.1 ∧
        filed.2.events = recorded.2.events.filter (fun event => !event.isReport) ∧
        filed.2.disk.read "hidg" =
          .ok ((sent.flatMap fun report => report.bytes.toList).toByteArray ++
            content.extract (8 * sent.length) content.size)) ∧
      sent = [.press ⟨.none, some .keyA⟩, .release] := by
  intro content bench requests
  have found : bench.disk.find "hidg" = .ok (.present ["work", "hidg"] (.file content)) := by
    rw [Disk.find, Disk.locate, String.contains_char_eq]
    rfl
  obtain ⟨handle, opened, kept⟩ :=
    file_holds_reports bench "hidg" ["work", "hidg"] content found .standard 0 requests
  exact ⟨found, handle, opened, kept, by decide +kernel⟩

end KeyGadget
