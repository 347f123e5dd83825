import JobLedger.Proofs.Json.Entries
import JobLedger.Settings.Json

/-!
# Attempts, reports and settings among other members

Each record says what its parts are and which draft the keys met so far leave.
What is left to the record itself is what it makes of a draft in which fields
are missing: attempts and reports refuse it, at the first missing field in
order, and settings take the missing fields from the usual ones.
-/

namespace JobLedger

open Json

namespace Json

variable {δ α β : Type}

/-! ## Missing keys -/

/-- A value, unless one of the names is not among the keys. -/
def demand (names keys : List String) (value : α) : Except Failure α :=
  match names.find? fun name => name ∉ keys with
  | none => .ok value
  | some name => .error (.mismatch (.missingField name))

@[simp]
theorem demand_nil (keys : List String) (value : α) : demand [] keys value = .ok value := rfl

theorem demand_cons (name : String) (names keys : List String) (value : α) :
    demand (name :: names) keys value =
      if name ∈ keys then demand names keys value
      else .error (.mismatch (.missingField name)) := by
  by_cases there : name ∈ keys <;> simp [demand, there]

/-- A field that must be there, at the head of those that must be. -/
theorem require_bind (name : String) (keys : List String) (value : β)
    (next : β → Except Failure α) :
    (require name (if name ∈ keys then some value else none) >>= next) =
      if name ∈ keys then next value else .error (.mismatch (.missingField name)) := by
  by_cases there : name ∈ keys <;> simp [there, require, bind, Except.bind]

theorem demand_of_all {names keys : List String} (all : ∀ name ∈ names, name ∈ keys) (value : α) :
    demand names keys value = .ok value := by
  induction names with
  | nil => rfl
  | cons name names ih =>
      rw [demand_cons, if_pos (all name List.mem_cons_self)]
      exact ih fun other member => all other (List.mem_cons_of_mem _ member)

theorem demand_of_missing {earlier later keys : List String} {missing : String}
    (there : ∀ name ∈ earlier, name ∈ keys) (absent : missing ∉ keys) (value : α) :
    demand (earlier ++ missing :: later) keys value =
      .error (.mismatch (.missingField missing)) := by
  induction earlier with
  | nil => rw [List.nil_append, demand_cons, if_neg absent]
  | cons name earlier ih =>
      rw [List.cons_append, demand_cons, if_pos (there name List.mem_cons_self)]
      exact ih fun other member => there other (List.mem_cons_of_mem _ member)

/-! ## What decoding depends on -/

/-- A value is decoded from every text that tells its parts: from an object that
has each of them once, in any order and among other entries, and from the array
of them in order.  A part that is told again is refused, at the first key that
is met a second time, whatever its value is and whatever the entries after it
are. -/
structure DecodesParts (ofJson : String → Except Failure α) (parts : List Part) (value : α) :
    Prop where
  object : ∀ {entries text}, IsObject entries text → (∀ entry ∈ entries, entry.Fits parts) →
    (∀ part ∈ parts, (entries.map Entry.key).count part.key = 1) → ofJson text = .ok value
  array : ∀ {elements text}, IsArray elements text →
    List.Forall₂ (fun part element => part.Tells element) parts elements → ofJson text = .ok value
  repeated : ∀ {before again later text}, IsObject (before ++ again :: later) text →
    (∀ entry ∈ before, entry.Fits parts) → Once parts (before.map Entry.key) → again.Named →
    again.key ∈ parts.map Part.key → again.key ∈ before.map Entry.key →
    ofJson text = .error (.mismatch (.duplicateField again.key))

/-- An object that misses parts is refused at the first of them in order. -/
def RefusesMissing (ofJson : String → Except Failure α) (parts : List Part) : Prop :=
  ∀ {entries text}, IsObject entries text → (∀ entry ∈ entries, entry.Fits parts) →
    Once parts (entries.map Entry.key) →
    ∀ {earlier missing later}, parts = earlier ++ missing :: later →
      (∀ part ∈ earlier, part.key ∈ entries.map Entry.key) →
      missing.key ∉ entries.map Entry.key →
      ofJson text = .error (.mismatch (.missingField missing.key))

variable {shape : Shape δ α} {parts : List Part} {held : List String → δ} {value : α}

theorem Shape.Holds.decodesParts (holds : shape.Holds parts held)
    (complete : ∀ keys, (∀ part ∈ parts, part.key ∈ keys) → shape.finish (held keys) = .ok value) :
    DecodesParts (decode shape.read) parts value where
  object := by
    intro entries text object fits counted
    have once : Once parts (entries.map Entry.key) := fun part member =>
      Nat.le_of_eq (counted part member)
    rw [holds.decode_object object fits once]
    apply complete
    intro part member
    apply List.count_pos_iff.mp
    rw [counted part member]
    exact Nat.one_pos
  array := by
    intro elements text array told
    rw [holds.decode_array array told]
    exact complete _ fun part member => List.mem_map_of_mem member
  repeated := by
    intro before again later text object fits once named known met
    have isPart : ∃ part ∈ parts, part.key = again.key := by simpa using known
    exact holds.decode_repeated object fits once named isPart met

theorem Shape.Holds.refusesMissing (holds : shape.Holds parts held)
    (finish_eq : ∀ keys, shape.finish (held keys) = demand (parts.map Part.key) keys value) :
    RefusesMissing (decode shape.read) parts := by
  intro entries text object fits once earlier missing later order there absent
  rw [holds.decode_object object fits once, finish_eq, order, List.map_append, List.map_cons]
  apply demand_of_missing _ absent
  simpa using there

end Json

/-! ## Attempts -/

namespace Attempt

/-- What a text has to tell of an attempt. -/
def parts (attempt : Attempt) : List Part :=
  [ .of "attempt_id" readAttemptId attempt.id,
    .of "vertex_ref" readVertexRef attempt.vertex,
    .of "attempt_number" readNumber attempt.number,
    .of "state" (readCase AttemptState.cases) attempt.state ]

/-- What is known of an attempt after some keys. -/
def held (attempt : Attempt) (keys : List String) : Draft where
  id := if "attempt_id" ∈ keys then some attempt.id else none
  vertex := if "vertex_ref" ∈ keys then some attempt.vertex else none
  number := if "attempt_number" ∈ keys then some attempt.number else none
  state := if "state" ∈ keys then some attempt.state else none

theorem holds (attempt : Attempt) : shape.Holds attempt.parts attempt.held where
  start := rfl
  fields :=
    .cons (.of readAttemptId_steady (fun _ => rfl) fun keys => by simp [held]) <|
    .cons (.of readVertexRef_steady (fun _ => rfl) fun keys => by simp [held]) <|
    .cons (.of readNumber_steady (fun _ => rfl) fun keys => by simp [held]) <|
    .cons (.of (readCase_steady _) (fun _ => rfl) fun keys => by simp [held]) <|
    .nil
  other key keys foreign := by
    simp only [parts, List.forall_mem_cons, Part.of] at foreign
    simp [held, foreign]

theorem finish_held (attempt : Attempt) (keys : List String) :
    finish (attempt.held keys) = demand (attempt.parts.map Part.key) keys attempt := by
  simp only [finish, held, require_bind, parts, Part.of, List.map_cons, List.map_nil, demand_cons,
    demand_nil]
  rfl

theorem decodesParts (attempt : Attempt) : DecodesParts ofJson attempt.parts attempt := by
  apply attempt.holds.decodesParts
  intro keys all
  exact (attempt.finish_held keys).trans (demand_of_all (by simpa using all) attempt)

end Attempt

/-! ## Reports -/

namespace Report

/-- What a text has to tell of a report. -/
def parts (report : Report) : List Part :=
  [ .of "job_id" readJobId report.jobId,
    .of "job_name" readName report.jobName,
    .of "job_type" (readCase JobKind.cases) report.jobKind,
    .of "status" (readCase Status.cases) report.status,
    .of "terminal" readBoolean report.terminal,
    .of "attempts" readAttempts report.attempts,
    .of "status_timestamps" Stamps.read report.stamps ]

/-- What is known of a report after some keys. -/
def held (report : Report) (keys : List String) : Draft where
  jobId := if "job_id" ∈ keys then some report.jobId else none
  jobName := if "job_name" ∈ keys then some report.jobName else none
  jobKind := if "job_type" ∈ keys then some report.jobKind else none
  status := if "status" ∈ keys then some report.status else none
  terminal := if "terminal" ∈ keys then some report.terminal else none
  attempts := if "attempts" ∈ keys then some report.attempts else none
  stamps := if "status_timestamps" ∈ keys then some report.stamps else none

theorem holds (report : Report) : shape.Holds report.parts report.held where
  start := rfl
  fields :=
    .cons (.of readJobId_steady (fun _ => rfl) fun keys => by simp [held]) <|
    .cons (.of readName_steady (fun _ => rfl) fun keys => by simp [held]) <|
    .cons (.of (readCase_steady _) (fun _ => rfl) fun keys => by simp [held]) <|
    .cons (.of (readCase_steady _) (fun _ => rfl) fun keys => by simp [held]) <|
    .cons (.of readBoolean_steady (fun _ => rfl) fun keys => by simp [held]) <|
    .cons (.of readAttempts_steady (fun _ => rfl) fun keys => by simp [held]) <|
    .cons (.of Stamps.read_steady (fun _ => rfl) fun keys => by simp [held]) <|
    .nil
  other key keys foreign := by
    simp only [parts, List.forall_mem_cons, Part.of] at foreign
    simp [held, foreign]

theorem finish_held (report : Report) (keys : List String) :
    finish (report.held keys) = demand (report.parts.map Part.key) keys report := by
  simp only [finish, held, require_bind, parts, Part.of, List.map_cons, List.map_nil, demand_cons,
    demand_nil]
  rfl

theorem decodesParts (report : Report) : DecodesParts ofJson report.parts report := by
  apply report.holds.decodesParts
  intro keys all
  exact (report.finish_held keys).trans (demand_of_all (by simpa using all) report)

end Report

/-! ## Settings -/

namespace Settings

/-- What a text may tell of settings. -/
def parts (settings : Settings) : List Part :=
  [ .of "job_name" readName settings.jobName,
    .of "job_type" (readCase JobKind.cases) settings.jobKind ]

/-- What is known of settings after some keys. -/
def held (settings : Settings) (keys : List String) : Draft where
  jobName := if "job_name" ∈ keys then some settings.jobName else none
  jobKind := if "job_type" ∈ keys then some settings.jobKind else none

theorem holds (settings : Settings) : shape.Holds settings.parts settings.held where
  start := rfl
  fields :=
    .cons (.of readName_steady (fun _ => rfl) fun keys => by simp [held]) <|
    .cons (.of (readCase_steady _) (fun _ => rfl) fun keys => by simp [held]) <|
    .nil
  other key keys foreign := by
    simp only [parts, List.forall_mem_cons, Part.of] at foreign
    simp [held, foreign]

/-- What is missing is as usual. -/
theorem finish_held (settings : Settings) (keys : List String) :
    finish (settings.held keys) = .ok
      { jobName := if "job_name" ∈ keys then settings.jobName else usual.jobName
        jobKind := if "job_type" ∈ keys then settings.jobKind else usual.jobKind } := by
  by_cases named : "job_name" ∈ keys <;> by_cases kind : "job_type" ∈ keys <;>
    simp [finish, held, named, kind]

theorem finish_held_of_all (settings : Settings) (keys : List String)
    (all : ∀ part ∈ settings.parts, part.key ∈ keys) :
    finish (settings.held keys) = .ok settings := by
  simp only [parts, List.forall_mem_cons, Part.of] at all
  rw [finish_held, if_pos all.1, if_pos all.2.1]

end Settings

/-- **Decoding depends on the known members alone.**  Every attempt, every
report and all settings are decoded from any object that tells each of their
fields once, in whatever order, with whatever blanks, and among any number of
other members whose values are whatever the grammar of JSON derives; and they
are decoded from the array of their fields in order.  A field that is told again
is refused, at the first key that is met a second time.  Attempts and reports
are refused at the first field in order that is missing; settings take what is
missing, and nothing else, from the usual ones. -/
theorem decoding_depends_on_known_members :
    (∀ attempt : Attempt, DecodesParts Attempt.ofJson attempt.parts attempt ∧
      RefusesMissing Attempt.ofJson attempt.parts) ∧
    (∀ report : Report, DecodesParts Report.ofJson report.parts report ∧
      RefusesMissing Report.ofJson report.parts) ∧
    (∀ settings : Settings, DecodesParts Settings.ofJson settings.parts settings ∧
      ∀ entries text, IsObject entries text → (∀ entry ∈ entries, entry.Fits settings.parts) →
        Once settings.parts (entries.map Entry.key) →
        Settings.ofJson text = .ok
          { jobName :=
              if "job_name" ∈ entries.map Entry.key then settings.jobName
              else Settings.usual.jobName
            jobKind :=
              if "job_type" ∈ entries.map Entry.key then settings.jobKind
              else Settings.usual.jobKind }) := by
  refine ⟨fun attempt => ⟨?_, ?_⟩, fun report => ⟨?_, ?_⟩, fun settings => ⟨?_, ?_⟩⟩
  · exact attempt.decodesParts
  · exact attempt.holds.refusesMissing attempt.finish_held
  · exact report.decodesParts
  · exact report.holds.refusesMissing report.finish_held
  · exact settings.holds.decodesParts settings.finish_held_of_all
  · intro entries text object fits once
    exact (settings.holds.decode_object object fits once).trans (settings.finish_held _)

/-- The grammar derives a number too large to be read, and half of a pair. -/
theorem derives_unreadable :
    Derives .padded " [-1e999, \x7b\"\":\"\\ud800\"\x7d] ".toList := by
  have large : Derives .value "-1e999".toList :=
    .number <| @IsNumber.number ['-'] ['1'] [] "e999".toList (.inr rfl)
      ⟨by simp, by simp, by simp⟩ .absent
      (@IsExponent.present 'e' [] "999".toList (.inl rfl) (.inl rfl) ⟨by simp, by simp⟩)
  have half : Derives .value "\"\\ud800\"".toList :=
    .string (.quoted (@IsBody.code "d800".toList [] rfl (by simp) .nil))
  have nested : Derives .value "\x7b\"\":\"\\ud800\"\x7d".toList :=
    .object <| @Derives.lastMember [] ['"', '"'] [] _ (by decide) (.quoted .nil) (by decide)
      (@Derives.padded [] _ [] (by decide) half (by decide))
  exact @Derives.padded [' '] _ [' '] (by decide)
    (.array (.element (@Derives.padded [] _ [] (by decide) large (by decide))
      (.lastElement (@Derives.padded [' '] _ [] (by decide) nested (by decide))))) (by decide)

/-- A member with a number too large to be read and with half of a pair is
passed over, in settings and in an attempt whose fields are out of order.  The
name of the settings is as usual; an attempt is refused without its vertex, and
at its second state, whatever is there. -/
theorem records_told_among_others :
    let attempt : Attempt := { id := ⟨"a-1"⟩, vertex := ⟨"map"⟩, number := 3, state := .running }
    Settings.ofJson
        "\x7b \"note\": [-1e999, \x7b\"\":\"\\ud800\"\x7d] ,\"job_type\":\"BATCH\"\x7d\n" =
      .ok { jobName := "job", jobKind := .batch } ∧
    Attempt.ofJson
        ("\x7b\"state\":\"RUNNING\", \"note\": [-1e999, \x7b\"\":\"\\ud800\"\x7d] ," ++
          "\"attempt_number\":3,\"vertex_ref\":\"map\",\"attempt_id\":\"a-1\"\x7d") =
      .ok attempt ∧
    Attempt.ofJson "\x7b\"state\":\"RUNNING\",\"attempt_id\":\"a-1\"\x7d" =
      .error (.mismatch (.missingField "vertex_ref")) ∧
    Attempt.ofJson "\x7b\"state\":\"RUNNING\",\"state\":null,\"attempt_id\":7\x7d" =
      .error (.mismatch (.duplicateField "state")) := by
  intro attempt
  refine ⟨?_, ?_⟩
  · let settings : Settings := { jobName := "any", jobKind := .batch }
    have distinct : (settings.parts.map Part.key).Nodup := by simp [Settings.parts, Part.of]
    have kind : Entry.Fits settings.parts
        ⟨"job_type", "\"job_type\"".toList, "\"BATCH\"".toList⟩ :=
      Entry.fits_of_tells distinct (.tail _ (.head _)) rfl rfl rfl
    have note : Entry.Fits settings.parts
        ⟨"note", " \"note\"".toList, " [-1e999, \x7b\"\":\"\\ud800\"\x7d] ".toList⟩ :=
      Entry.fits_of_foreign rfl (by simp [Settings.parts, Part.of]) derives_unreadable
    apply (decoding_depends_on_known_members.2.2 settings).2 _ _ _
      (List.forall_mem_cons.mpr ⟨note, List.forall_mem_singleton.mpr kind⟩)
    · simp [Once, Settings.parts, Part.of]
    · exact ⟨[], [], ['\n'], by decide, by decide, by decide, by decide⟩
  have distinct : (attempt.parts.map Part.key).Nodup := by simp [Attempt.parts, Part.of]
  have state : Entry.Fits attempt.parts ⟨"state", "\"state\"".toList, "\"RUNNING\"".toList⟩ :=
    Entry.fits_of_tells distinct (.tail _ (.tail _ (.tail _ (.head _)))) rfl rfl rfl
  have note : Entry.Fits attempt.parts
      ⟨"note", " \"note\"".toList, " [-1e999, \x7b\"\":\"\\ud800\"\x7d] ".toList⟩ :=
    Entry.fits_of_foreign rfl (by simp [Attempt.parts, Part.of]) derives_unreadable
  have number : Entry.Fits attempt.parts
      ⟨"attempt_number", "\"attempt_number\"".toList, "3".toList⟩ :=
    Entry.fits_of_tells distinct (.tail _ (.tail _ (.head _))) rfl rfl rfl
  have vertex : Entry.Fits attempt.parts
      ⟨"vertex_ref", "\"vertex_ref\"".toList, "\"map\"".toList⟩ :=
    Entry.fits_of_tells distinct (.tail _ (.head _)) rfl rfl rfl
  have id : Entry.Fits attempt.parts
      ⟨"attempt_id", "\"attempt_id\"".toList, "\"a-1\"".toList⟩ :=
    Entry.fits_of_tells distinct (.head _) rfl rfl rfl
  obtain ⟨decodes, refuses⟩ := decoding_depends_on_known_members.1 attempt
  refine ⟨?_, ?_, ?_⟩
  · have fits := List.forall_mem_cons.mpr ⟨number, List.forall_mem_cons.mpr ⟨vertex,
      List.forall_mem_singleton.mpr id⟩⟩
    apply decodes.object (isObject_of_tight (by decide))
      (List.forall_mem_cons.mpr ⟨state, List.forall_mem_cons.mpr ⟨note, fits⟩⟩)
    simp [Attempt.parts, Part.of]
  · have fits := List.forall_mem_cons.mpr ⟨state, List.forall_mem_singleton.mpr id⟩
    have order : attempt.parts = [_] ++ _ :: _ := rfl
    apply refuses (isObject_of_tight (by decide)) fits _ order
    · simp [Part.of]
    · simp [Part.of]
    · simp [Once, Attempt.parts, Part.of]
  · have again : Entry.Named ⟨"state", "\"state\"".toList, "null".toList⟩ := rfl
    apply @DecodesParts.repeated _ _ _ _ decodes _ _
      [⟨"attempt_id", "\"attempt_id\"".toList, "7".toList⟩] _ (isObject_of_tight (by decide))
      (List.forall_mem_singleton.mpr state) _ again
    · simp [Attempt.parts, Part.of]
    · simp
    · simp [Once, Attempt.parts, Part.of]

end JobLedger
