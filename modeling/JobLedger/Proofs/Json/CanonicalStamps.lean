import JobLedger.Proofs.Job.Creation
import JobLedger.Proofs.Json.Places
import JobLedger.Proofs.Json.RoundTrip
import JobLedger.Proofs.Stamps.Ordered
import JobLedger.Proofs.Subject.Coherence
import JobLedger.Proofs.Subject.PointInTime

/-!
# One text for the same stamps

The stamps of a report may be listed in any order, with any repetitions, and in
any text of their names and times.  They are read as the last times of their
statuses, and what is written of them lists each status once, in the order of
the statuses.  So the text that is written depends on the last times alone, and
writing what was read from it gives the same text again.
-/

namespace JobLedger

open Json

namespace Stamps

/-! ## Listed stamps -/

/-- The entry tells when a status was entered. -/
structure Tells (entry : Entry) (stamp : Status × Int64) : Prop where
  named : entry.Named
  key_eq : entry.key = stamp.1.name
  time : decode (readInteger .signed64) (String.ofList entry.value) = .ok stamp.2.toInt

/-- A text of an object that lists these stamps in this order. -/
def IsListed (list : List (Status × Int64)) (text : List Char) : Prop :=
  ∃ entries, IsObject entries (String.ofList text) ∧ List.Forall₂ Tells entries list

/-- An entry is inserted. -/
theorem Tells.takes {entry : Entry} {stamp : Status × Int64} (tells : Tells entry stamp)
    (stamps : Stamps) : Takes readMember entry stamps (stamps.insert stamp.1 stamp.2) := by
  rcases tells.named.exists_body with ⟨body, between, starts, betweenAll, named⟩
  rcases (readInteger_steady .signed64).of_decode tells.time with
    ⟨c, tail, front, _, blanks, all, read⟩
  have found : Status.cases.find entry.key.toList = .ok stamp.1 := by
    rw [tells.key_eq]
    exact Status.cases_faithful.find_name stamp.1
  refine ⟨body, blanks, starts, all, ?_⟩
  intro more ends
  simp only [readMember, named, bind, Except.bind, found, readColon_blanks betweenAll,
    read _ more (skipBlanks_more front) ends, Int64.ofInt_toInt]
  rfl

/-- Entries are inserted one after another. -/
theorem walks_of_tells {entries : List Entry} {list : List (Status × Int64)}
    (told : List.Forall₂ Tells entries list) (stamps : Stamps) :
    Walks readMember stamps entries
      (list.foldl (fun stamps entry => stamps.insert entry.1 entry.2) stamps) := by
  induction told generalizing stamps with
  | nil => exact .nil stamps
  | cons tells _ ih => exact .cons (tells.takes stamps) (ih _)

/-- Listed stamps are read as what they come to one after another. -/
theorem decode_of_isListed {list : List (Status × Int64)} {text : List Char}
    (listed : IsListed list text) : decode read (String.ofList text) = .ok (ofList list) := by
  rcases listed with ⟨entries, ⟨before, inside, after, front, middle, back, text_eq⟩, told⟩
  have closed := (walks_of_tells told empty).readObject_closed middle after
  rw [text_eq]
  apply decode_of_read back
  rw [intercalate_append, read, skipBlanks_append_cons front (by decide)]
  exact closed

/-- The names and times of stamps in this order, without blanks. -/
def spelled (list : List (Status × Int64)) : List Char :=
  '{' :: ([','].intercalate (list.map fun stamp =>
    '"' :: (stamp.1.name.toList ++ '"' :: ':' :: writeInt stamp.2.toInt)) ++ ['}'])

/-- No character of a name of a status is escaped. -/
theorem writeText_name (status : Status) :
    writeText status.name.toList = '"' :: (status.name.toList ++ ['"']) := by
  cases status <;> decide

theorem writeObject_eq_spelled (list : List (Status × Int64)) :
    writeObject (list.map fun stamp => (stamp.1.name, writeInt stamp.2.toInt)) = spelled list := by
  simp [writeObject, spelled, writeMembers_eq, writeText_name, Function.comp_def]

theorem write_eq_spelled (stamps : Stamps) : stamps.write = spelled stamps.toList :=
  writeObject_eq_spelled stamps.toList

/-- The entry that is written of a stamp tells it. -/
theorem tells_written (stamp : Status × Int64) :
    Tells ⟨stamp.1.name, writeText stamp.1.name.toList, writeInt stamp.2.toInt⟩ stamp where
  named := decode_ofList (readName_spells stamp.1.name)
  key_eq := rfl
  time := by
    have within : IntegerRange.signed64.contains stamp.2.toInt = true :=
      (IntegerRange.contains_iff _ _).mpr ⟨stamp.2.minValue_le_toInt, stamp.2.toInt_le⟩
    exact decode_ofList (readInteger_writeInt IntegerRange.signed64_isExact within)

/-- The entries that are written of stamps. -/
def writtenEntries (list : List (Status × Int64)) : List Entry :=
  list.map fun stamp => ⟨stamp.1.name, writeText stamp.1.name.toList, writeInt stamp.2.toInt⟩

theorem tells_writtenEntries (list : List (Status × Int64)) :
    List.Forall₂ Tells (writtenEntries list) list := by
  rw [writtenEntries, List.forall₂_map_left_iff, List.forall₂_same]
  exact fun stamp _ => tells_written stamp

theorem isObject_spelled (list : List (Status × Int64)) :
    IsObject (writtenEntries list) (String.ofList (spelled list)) := by
  rw [← writeObject_eq_spelled]
  have object := isObject_writeObject
    (list.map fun stamp => (stamp.1.name, writeInt stamp.2.toInt))
  rwa [List.map_map] at object

/-- Stamps in any order have a text that lists them. -/
theorem isListed_spelled (list : List (Status × Int64)) : IsListed list (spelled list) :=
  ⟨writtenEntries list, isObject_spelled list, tells_writtenEntries list⟩

end Stamps

/-! ## Reports with listed stamps -/

namespace Report

/-- If the stamps are bound to certain texts, it does not matter which ones the
report has. -/
theorem parts_bound_stamps (report : Report) (stamps : Stamps) (Tells : List Char → Prop) :
    { report with stamps : Report }.parts.map (Part.bound "status_timestamps" Tells) =
      report.parts.map (Part.bound "status_timestamps" Tells) := by
  simp [parts, Part.bound, Part.of]

/-- A report is decoded with what its listed stamps come to. -/
theorem decodesListed (report : Report) (list : List (Status × Int64)) :
    DecodesParts ofJson (report.parts.map (.bound "status_timestamps" (Stamps.IsListed list)))
      { report with stamps := .ofList list } := by
  rw [← report.parts_bound_stamps (.ofList list)]
  apply { report with stamps := .ofList list : Report }.decodesParts.bound
  have decoded := fun text => @Stamps.decode_of_isListed list text
  simpa [parts, Part.of, Part.Admits] using decoded

/-- The text of a report up to its stamps. -/
def opening (report : Report) : List Char :=
  '{' :: writeMembers
    [ ("job_id", writeName report.jobId.text),
      ("job_name", writeName report.jobName),
      ("job_type", writeName report.jobKind.name),
      ("status", writeName report.status.name),
      ("terminal", (if report.terminal then "true" else "false").toList),
      ("attempts", writeNat report.attempts.toNat) ] ++
    ',' :: (writeText "status_timestamps".toList ++ [':'])

theorem toJson_eq (report : Report) :
    report.toJson =
      String.ofList (report.opening ++ (Stamps.spelled report.stamps.toList ++ ['}'])) := by
  rw [← Stamps.write_eq_spelled]
  simp [toJson, write, opening, writeObject, writeMembers]

/-- What is written of two reports that differ in their stamps alone is the same
only if the stamps are. -/
theorem toJson_stamps_injective (report : Report) {first second : Stamps}
    (same : { report with stamps := first : Report }.toJson =
      { report with stamps := second : Report }.toJson) : first = second := by
  have decoded (stamps : Stamps) :=
    decode_ofList { report with stamps := stamps : Report }.read_spells
  have equal := (decoded first).symm.trans ((congrArg ofJson same).trans (decoded second))
  exact congrArg Report.stamps (Except.ok.inj equal)

end Report

/-- The report on a job that is reached lists the initial status and the statuses
that were stamped on the way, in order. -/
theorem Subject.statuses_of_report {κ : Type} [Clock κ] {owner reached : Job}
    (made : (job owner).Made) {acts : List (Act κ)} {clock : κ}
    (led : ((job owner).run acts clock).state = job reached) :
    reached.report.stamps.toList.map Prod.fst = Status.all.filter fun status =>
      status = .initial ∨ status ∈ ((job owner).run acts clock).stamped := by
  rcases made.tracker?_eq with ⟨now, own⟩
  rcases shown_run own acts clock with ⟨tracker, there, stamps, _⟩
  rw [led] at there
  cases there
  rw [Stamps.map_fst_toList]
  apply List.filter_congr
  intro status _
  rw [Bool.eq_iff_iff, decide_eq_true_eq, ← Tracker.has_started now]
  exact stamps status

/-- **Stamps are canonical in texts.**  Whatever stamps are listed in a report,
in any order and with any repetitions, the report is decoded with the last stamp
of each status and no other, and what is written of it lists these stamps in the
order of the statuses and is otherwise the same for all stamps.  So reports that
differ in their lists alone are written alike exactly if the last stamps are the
same, and to decode a text and to write what was decoded changes nothing the
second time.

What is written of the report on a job, wherever a run has led it, lists the
initial status and the statuses that were stamped, in order. -/
theorem stamps_are_canonical :
    (∀ (report : Report) (list : List (Status × Int64)),
      let decoded : Report := { report with stamps := .ofList list }
      Stamps.IsListed list (Stamps.spelled list) ∧
      DecodesParts Report.ofJson
        (report.parts.map (.bound "status_timestamps" (Stamps.IsListed list))) decoded ∧
      Stamps.LastOf list decoded.stamps ∧
      (∃ opening, ∀ stamps : Stamps, { report with stamps : Report }.toJson =
        String.ofList (opening ++ (Stamps.spelled stamps.toList ++ ['}']))) ∧
      ∀ others, decoded.toJson = { report with stamps := .ofList others : Report }.toJson ↔
        ∀ status time, Stamps.IsLast list status time ↔ Stamps.IsLast others status time) ∧
    (∀ text once, (Report.ofJson text).map Report.toJson = .ok once →
      (Report.ofJson once).map Report.toJson = .ok once) ∧
    ∀ owner : Job, (Subject.job owner).Made →
      ∀ {κ : Type} [Clock κ] (acts : List (Subject.Act κ)) (clock : κ),
        let run := (Subject.job owner).run acts clock
        ∃ reached opening, run.state = .job reached ∧
          reached.report.toJson =
            String.ofList (opening ++ (Stamps.spelled reached.report.stamps.toList ++ ['}'])) ∧
          reached.report.stamps.toList.map Prod.fst =
            Status.all.filter fun status => status = .initial ∨ status ∈ run.stamped := by
  refine ⟨fun report list => ⟨?_, ?_, ?_, ?_, ?_⟩, ?_, ?_⟩
  · exact Stamps.isListed_spelled list
  · exact report.decodesListed list
  · exact Stamps.lastOf_ofList list
  · exact ⟨report.opening, fun stamps => { report with stamps : Report }.toJson_eq⟩
  · intro others
    rw [← Stamps.ofList_eq_ofList_iff]
    constructor
    · exact report.toJson_stamps_injective
    · intro same
      rw [same]
  · intro text once encoded
    rcases map_eq_ok_iff.mp encoded with ⟨report, _, rfl⟩
    have decoded : Report.ofJson report.toJson = .ok report := decode_ofList report.read_spells
    rw [decoded]
    rfl
  · intro owner made κ _ acts clock run
    rcases Subject.run_job owner acts clock with ⟨reached, led, _⟩
    exact ⟨reached, reached.report.opening, led, reached.report.toJson_eq,
      Subject.statuses_of_report made led⟩

/-- A report lists a status twice, once with an escape in its name, and before one
that it stands behind.  A job fails before it is deployed. -/
theorem stamps_are_canonical_of_reordered :
    let text := "\x7b\"status_timestamps\":" ++
      " \x7b \"F\\u0041ILING\":7, \"RUNNING\" : -5,\"FAILING\":9\x7d" ++
      ",\"job_id\":\"j\",\"job_name\":\"n\",\"job_type\":\"BATCH\",\"status\":\"FAILING\"" ++
      ",\"terminal\":false,\"attempts\":0\x7d"
    let report : Report :=
      { jobId := ⟨"j"⟩, jobName := "n", jobKind := .batch, status := .failing, terminal := false
        attempts := 0, stamps := .empty }
    let list : List (Status × Int64) := [(.failing, 7), (.running, -5), (.failing, 9)]
    let decoded : Report := { report with stamps := .ofList list }
    let owner : Job := .begun ⟨"word-count", .batch⟩ ⟨"job-1"⟩ 100
    let acts : List (Subject.Act ManualClock) := [.drive (.fail "lost"), .drive .run]
    Report.ofJson text = .ok decoded ∧
      decoded.stamps.toList = [(.running, -5), (.failing, 9)] ∧
      (Report.ofJson decoded.toJson).map Report.toJson = .ok decoded.toJson ∧
      ∃ reached, ((Subject.job owner).run acts (.starting 100)).state = .job reached ∧
        reached.report.stamps.toList.map Prod.fst = [.initializing, .running, .failing] := by
  intro text report list decoded owner acts
  have made : (Subject.job owner).Made :=
    @Subject.Made.job ManualClock _ ⟨"word-count", .batch⟩ ⟨"job-1"⟩ (.starting 100) owner rfl
  have canonical := stamps_are_canonical
  rcases canonical.1 report list with ⟨_, decodes, last, _, _⟩
  rcases canonical.2.2 owner made acts (.starting 100) with ⟨reached, _, led, _, statuses⟩
  have listed : Stamps.IsListed list
      " \x7b \"F\\u0041ILING\":7, \"RUNNING\" : -5,\"FAILING\":9\x7d".toList := by
    refine ⟨[⟨"FAILING", "\"F\\u0041ILING\"".toList, "7".toList⟩,
      ⟨"RUNNING", " \"RUNNING\" ".toList, " -5".toList⟩,
      ⟨"FAILING", "\"FAILING\"".toList, "9".toList⟩],
      ⟨[' '], [' '], [], by decide, by decide, by decide, by decide⟩, ?_⟩
    exact .cons ⟨rfl, rfl, rfl⟩ (.cons ⟨rfl, rfl, rfl⟩ (.cons ⟨rfl, rfl, rfl⟩ .nil))
  have read : Report.ofJson text = .ok decoded := by
    have object : IsObject
        [⟨"status_timestamps", "\"status_timestamps\"".toList,
            " \x7b \"F\\u0041ILING\":7, \"RUNNING\" : -5,\"FAILING\":9\x7d".toList⟩,
          ⟨"job_id", "\"job_id\"".toList, "\"j\"".toList⟩,
          ⟨"job_name", "\"job_name\"".toList, "\"n\"".toList⟩,
          ⟨"job_type", "\"job_type\"".toList, "\"BATCH\"".toList⟩,
          ⟨"status", "\"status\"".toList, "\"FAILING\"".toList⟩,
          ⟨"terminal", "\"terminal\"".toList, "false".toList⟩,
          ⟨"attempts", "\"attempts\"".toList, "0".toList⟩]
        text :=
      ⟨[], [], [], by decide, by decide, by decide, by decide +kernel⟩
    apply decodes.object object
    · intro entry member
      simp only [List.mem_cons, List.not_mem_nil, or_false] at member
      rcases member with rfl | rfl | rfl | rfl | rfl | rfl | rfl
      all_goals
        refine ⟨rfl, ?_, ?_⟩
        · simp [Report.parts, Part.bound, Part.of]
          first | exact listed | rfl
        · intro foreign
          simp [Report.parts, Part.bound, Part.of] at foreign
    · simp [Report.parts, Part.bound, Part.of]
  refine ⟨read, ?_, ?_, reached, led, ?_⟩
  · rw [last.inserted]
    rfl
  · apply canonical.2.1
    rw [read]
    rfl
  · rw [statuses]
    rfl

end JobLedger
