import JobLedger.Proofs.Json.CanonicalStamps
import JobLedger.Proofs.Json.Integers

/-!
# Exact integers in records

Integers stand at three places of the records: the number of an attempt, the
count of attempts of a report, and the times of its stamps.  At each of them an
integer is read exactly or refused, by its value alone, whatever the rest of the
record is.
-/

namespace JobLedger

open Json Number

namespace Json

variable {α β δ : Type}

/-- What a record comes to in which an integer stands that has to be in range: a
record with exactly this integer, or a failure.  An integer that is not in range
does not fit, unless it is so large that its digits make no real: then it breaks
the grammar, as does every integer that is too large for a real. -/
structure IntegerLiteral.Decides (integer : IntegerLiteral) (range : IntegerRange)
    (result : Except Failure α) (IsExact : α → Prop) : Prop where
  accepted : integer.InRange range → ∃ record, result = .ok record ∧ IsExact record
  refused : ¬ integer.InRange range →
    (integer.size < Binary64.leastTooLarge ∧ ∃ mismatch, result = .error (.mismatch mismatch)) ∨
      (Binary64.leastTooLarge ≤ integer.size ∧ result = .error .malformed)
  too_large : Binary64.ofRatio integer.size 1 = none → result = .error .malformed

/-- A record in which the integer stands decides as its reader does. -/
theorem IntegerLiteral.IsText.decides {integer : IntegerLiteral} {value : List Char}
    (written : integer.IsText value) {range : IntegerRange} (exact : range.IsExact)
    {result : Except Failure α} {IsExact : α → Prop}
    (accept : integer.InRange range → Settles (readInteger range) value (.ok integer.value) →
      ∃ record, result = .ok record ∧ IsExact record)
    (refuse : ∀ failure, Settles (readInteger range) value (.error failure) →
      result = .error failure) :
    integer.Decides range result IsExact where
  accepted within := by
    have settles := written.settles range
    rw [integer.verdict_of_inRange exact within] at settles
    exact accept within settles
  refused outside := by
    have settles := written.settles range
    rcases integer.verdict_of_not_inRange outside with
      ⟨small, mismatch, refused⟩ | ⟨large, refused⟩
    · rw [refused] at settles
      exact .inl ⟨small, mismatch, refuse _ settles⟩
    · rw [refused] at settles
      exact .inr ⟨large, refuse _ settles⟩
  too_large overflows := by
    have large := Binary64.leastTooLarge_le_of_ofRatio overflows
    have settles := written.settles range
    have outside : ¬ integer.InRange range := fun within =>
      Nat.not_lt_of_le large (integer.size_lt_of_kept (integer.kept_of_inRange exact within))
    rcases integer.verdict_of_not_inRange outside with ⟨small, _⟩ | ⟨_, refused⟩
    · exact absurd small (Nat.not_lt_of_le large)
    · rw [refused] at settles
      exact refuse _ settles

theorem Settles.field {reader : Reader β} {value : List Char} {failure : Failure}
    (settles : Settles reader value (.error failure)) {key : String} {get : δ → Option β}
    {set : δ → β → δ} (draft : δ) :
    Settles ((RecordField.of key get set reader).read draft) value (.error failure) :=
  settles.map (set draft)

theorem Members.bound {parts : List Part} {members : List (String × List Char)}
    (told : Members parts members) {key : String} {Tells : List Char → Prop}
    (tells : ∀ member ∈ members, member.1 = key → Tells member.2) :
    Members (parts.map (.bound key Tells)) members := by
  rw [Members, List.forall₂_map_left_iff]
  induction told with
  | nil => exact .nil
  | @cons part member parts members first _ ih =>
      rcases List.forall_mem_cons.mp tells with ⟨tellsFirst, tellsOthers⟩
      refine .cons ⟨first.1.trans (Part.key_bound _ _ _).symm, ?_⟩ (ih tellsOthers)
      by_cases same : part.key = key
      · rw [Part.bound_of_eq same]
        exact tellsFirst (first.1.trans same)
      · rw [Part.bound_of_ne same]
        exact first.2

end Json

/-! ## Attempts -/

namespace Attempt

/-- A text of an attempt with this text of its number. -/
def TellsNumber (attempt : Attempt) (value : List Char) (text : String) : Prop :=
  TellsParts (attempt.parts.map (.bound "attempt_number" (· = value))) text

theorem parts_bound_number (attempt : Attempt) (number : UInt32) (Tells : List Char → Prop) :
    { attempt with number : Attempt }.parts.map (Part.bound "attempt_number" Tells) =
      attempt.parts.map (Part.bound "attempt_number" Tells) := by
  simp [parts, Part.bound, Part.of]

theorem ofJson_of_decoded_number {attempt : Attempt} {value : List Char} {text : String}
    (tells : attempt.TellsNumber value text) {number : UInt32}
    (decoded : decode readNumber (String.ofList value) = .ok number) :
    ofJson text = .ok { attempt with number } := by
  rw [TellsNumber, ← attempt.parts_bound_number number] at tells
  apply { attempt with number : Attempt }.decodesParts.of_tells_bound tells
  simpa [parts, Part.of] using decoded

theorem ofJson_of_refused_number {attempt : Attempt} {value : List Char} {text : String}
    (tells : attempt.TellsNumber value text) {failure : Failure}
    (settles : Settles (readInteger .unsigned32) value (.error failure)) :
    ofJson text = .error failure := by
  have refused : Settles readNumber value (.error failure) :=
    settles.map fun value => UInt32.ofNat value.toNat
  apply attempt.holds.decode_bound_refused _ rfl (fun draft => refused.field draft) tells
  simp [parts, Part.of]

/-- The text that is written of an attempt tells its number. -/
theorem tellsNumber_toJson (attempt : Attempt) :
    attempt.TellsNumber (writeNat attempt.number.toNat) attempt.toJson := by
  have told : Members attempt.parts
      [ ("attempt_id", writeName attempt.id.text),
        ("vertex_ref", writeName attempt.vertex.text),
        ("attempt_number", writeNat attempt.number.toNat),
        ("state", writeName attempt.state.name) ] :=
    .cons ⟨rfl, decode_ofList ((readName_spells attempt.id.text).map AttemptId.mk)⟩ <|
    .cons ⟨rfl, decode_ofList ((readName_spells attempt.vertex.text).map VertexRef.mk)⟩ <|
    .cons ⟨rfl, decode_ofList (readNumber_spells attempt.number)⟩ <|
    .cons ⟨rfl, decode_ofList (AttemptState.cases_faithful.readCase_spells attempt.state)⟩ <|
    .nil
  apply (told.bound _).tellsParts
  · rw [map_key_bound]
    simp [parts, Part.of]
  · simp

/-- An attempt is decided by the integer of its number. -/
theorem decides_number {integer : IntegerLiteral} {value : List Char}
    (written : integer.IsText value) {attempt : Attempt} {text : String}
    (tells : attempt.TellsNumber value text) :
    integer.Decides .unsigned32 (ofJson text) fun record => ∃ number : UInt32,
      record = { attempt with number } ∧ (number.toNat : Int) = integer.value ∧
        record.TellsNumber integer.text record.toJson := by
  apply written.decides IntegerRange.unsigned32_isExact
  · intro within settles
    rcases IntegerLiteral.natural_of_inRange rfl within with ⟨n, value_eq, greatest, digits⟩
    have fits : n < UInt32.size := by
      simp only [IntegerRange.unsigned32] at greatest
      omega
    have same : (UInt32.ofNat n).toNat = n := UInt32.toNat_ofNat_of_lt' fits
    have decoded := (settles.map fun value => UInt32.ofNat value.toNat).decode
    rw [value_eq] at decoded
    have back := { attempt with number := .ofNat n : Attempt }.tellsNumber_toJson
    simp only [same, digits] at back
    exact ⟨_, ofJson_of_decoded_number tells decoded, _, rfl,
      (congrArg Int.ofNat same).trans value_eq.symm, back⟩
  · exact fun failure settles => ofJson_of_refused_number tells settles

end Attempt

/-! ## Counts of attempts -/

namespace Report

/-- A text of a report with this text of its count of attempts. -/
def TellsAttempts (report : Report) (value : List Char) (text : String) : Prop :=
  TellsParts (report.parts.map (.bound "attempts" (· = value))) text

theorem parts_bound_attempts (report : Report) (attempts : UInt64) (Tells : List Char → Prop) :
    { report with attempts : Report }.parts.map (Part.bound "attempts" Tells) =
      report.parts.map (Part.bound "attempts" Tells) := by
  simp [parts, Part.bound, Part.of]

theorem ofJson_of_decoded_attempts {report : Report} {value : List Char} {text : String}
    (tells : report.TellsAttempts value text) {attempts : UInt64}
    (decoded : decode readAttempts (String.ofList value) = .ok attempts) :
    ofJson text = .ok { report with attempts } := by
  rw [TellsAttempts, ← report.parts_bound_attempts attempts] at tells
  apply { report with attempts : Report }.decodesParts.of_tells_bound tells
  simpa [parts, Part.of] using decoded

theorem ofJson_of_refused_attempts {report : Report} {value : List Char} {text : String}
    (tells : report.TellsAttempts value text) {failure : Failure}
    (settles : Settles (readInteger .unsigned64) value (.error failure)) :
    ofJson text = .error failure := by
  have refused : Settles readAttempts value (.error failure) :=
    settles.map fun value => UInt64.ofNat value.toNat
  apply report.holds.decode_bound_refused _ rfl (fun draft => refused.field draft) tells
  simp [parts, Part.of]

/-- The members that are written of a report tell its parts. -/
theorem told (report : Report) : Members report.parts
    [ ("job_id", writeName report.jobId.text),
      ("job_name", writeName report.jobName),
      ("job_type", writeName report.jobKind.name),
      ("status", writeName report.status.name),
      ("terminal", (if report.terminal then "true" else "false").toList),
      ("attempts", writeNat report.attempts.toNat),
      ("status_timestamps", report.stamps.write) ] :=
  .cons ⟨rfl, decode_ofList ((readName_spells report.jobId.text).map JobId.mk)⟩ <|
  .cons ⟨rfl, decode_ofList (readName_spells report.jobName)⟩ <|
  .cons ⟨rfl, decode_ofList (JobKind.cases_faithful.readCase_spells report.jobKind)⟩ <|
  .cons ⟨rfl, decode_ofList (Status.cases_faithful.readCase_spells report.status)⟩ <|
  .cons ⟨rfl, decode_ofList (readBoolean_spells report.terminal)⟩ <|
  .cons ⟨rfl, decode_ofList (readAttempts_spells report.attempts)⟩ <|
  .cons ⟨rfl, decode_ofList report.stamps.read_spells⟩ <|
  .nil

theorem nodup_keys (report : Report) : (report.parts.map Part.key).Nodup := by
  simp [parts, Part.of]

/-- The text that is written of a report tells its count of attempts. -/
theorem tellsAttempts_toJson (report : Report) :
    report.TellsAttempts (writeNat report.attempts.toNat) report.toJson := by
  apply (report.told.bound _).tellsParts
  · rw [map_key_bound]
    exact report.nodup_keys
  · simp

/-- A report is decided by the integer of its count of attempts. -/
theorem decides_attempts {integer : IntegerLiteral} {value : List Char}
    (written : integer.IsText value) {report : Report} {text : String}
    (tells : report.TellsAttempts value text) :
    integer.Decides .unsigned64 (ofJson text) fun record => ∃ attempts : UInt64,
      record = { report with attempts } ∧ (attempts.toNat : Int) = integer.value ∧
        record.TellsAttempts integer.text record.toJson := by
  apply written.decides IntegerRange.unsigned64_isExact
  · intro within settles
    rcases IntegerLiteral.natural_of_inRange rfl within with ⟨n, value_eq, greatest, digits⟩
    have fits : n < UInt64.size := by
      simp only [IntegerRange.unsigned64] at greatest
      omega
    have same : (UInt64.ofNat n).toNat = n := UInt64.toNat_ofNat_of_lt' fits
    have decoded := (settles.map fun value => UInt64.ofNat value.toNat).decode
    rw [value_eq] at decoded
    have back := { report with attempts := .ofNat n : Report }.tellsAttempts_toJson
    simp only [same, digits] at back
    exact ⟨_, ofJson_of_decoded_attempts tells decoded, _, rfl,
      (congrArg Int.ofNat same).trans value_eq.symm, back⟩
  · exact fun failure settles => ofJson_of_refused_attempts tells settles

end Report

/-! ## Times of stamps -/

/-- A text of stamps in this order, of which one has this text of its time. -/
def Stamps.TellsTime (earlier : List (Status × Int64)) (status : Status)
    (later : List (Status × Int64)) (value text : List Char) : Prop :=
  ∃ before entry after, IsObject (before ++ entry :: after) (String.ofList text) ∧
    List.Forall₂ Tells before earlier ∧ List.Forall₂ Tells after later ∧
    entry.Named ∧ entry.key = status.name ∧ entry.value = value

namespace Stamps

variable {earlier later : List (Status × Int64)} {status : Status} {value text : List Char}

theorem TellsTime.isListed (tells : TellsTime earlier status later value text) {time : Int64}
    (decoded : decode (readInteger .signed64) (String.ofList value) = .ok time.toInt) :
    IsListed (earlier ++ (status, time) :: later) text := by
  rcases tells with ⟨before, entry, after, object, front, back, named, key_eq, rfl⟩
  exact ⟨_, object, List.rel_append front (.cons ⟨named, key_eq, decoded⟩ back)⟩

/-- Stamps are refused at the one whose time is. -/
theorem TellsTime.settles (tells : TellsTime earlier status later value text) {failure : Failure}
    (settles : Settles (readInteger .signed64) value (.error failure)) :
    Settles read text (.error failure) := by
  rcases tells with ⟨before, entry, after, ⟨blanks, inside, behind, front, middle, back, text_eq⟩,
    told, _, named, key_eq, rfl⟩
  have found : Status.cases.find entry.key.toList = .ok status := by
    rw [key_eq]
    exact Status.cases_faithful.find_name status
  have walks := walks_of_tells told empty
  have refuses : Refuses readMember entry (earlier.foldl
      (fun stamps entry => stamps.insert entry.1 entry.2) empty) failure := by
    rcases named.exists_body with ⟨body, between, starts, betweenAll, name⟩
    rcases settles with ⟨c, tail, solid, _, _, _, refused⟩
    refine ⟨body, starts, ?_⟩
    intro more ends
    simp only [readMember, name, bind, Except.bind, found, readColon_blanks betweenAll,
      refused _ more (skipBlanks_more solid) ends]
    rfl
  rw [String.ofList_inj, intercalate_append] at text_eq
  subst text_eq
  refine ⟨'{', _, skipBlanks_append_cons front (by decide) _, by decide, [],
    List.forall_mem_nil _, ?_⟩
  intro text more same _
  have refused := walks.readObject_refused refuses middle after (behind ++ more)
  rw [read, same, List.append_assoc, trail_more]
  exact refused

/-- What is written of stamps tells the time of each of them. -/
theorem tellsTime_spelled (earlier : List (Status × Int64)) (status : Status) (time : Int64)
    (later : List (Status × Int64)) :
    TellsTime earlier status later (writeInt time.toInt)
      (spelled (earlier ++ (status, time) :: later)) := by
  have object := isObject_spelled (earlier ++ (status, time) :: later)
  rw [writtenEntries, List.map_append, List.map_cons] at object
  exact ⟨_, _, _, object, tells_writtenEntries earlier, tells_writtenEntries later,
    (tells_written (status, time)).named, rfl, rfl⟩

/-- A stamp whose status is not stamped later is listed among the stamps that the
list comes to. -/
theorem mem_toList_ofList (earlier : List (Status × Int64)) (time : Int64)
    (last : status ∉ later.map Prod.fst) :
    (status, time) ∈ (ofList (earlier ++ (status, time) :: later)).toList := by
  rw [mem_toList_iff, get?_ofList_eq_some_iff]
  refine ⟨earlier, later, rfl, ?_⟩
  rintro entry among rfl
  exact last (List.mem_map_of_mem among)

end Stamps

namespace Report

/-- A text of a report whose stamps are told in this order, one of them with this
text of its time. -/
def TellsStamp (report : Report) (earlier : List (Status × Int64)) (status : Status)
    (later : List (Status × Int64)) (value : List Char) (text : String) : Prop :=
  ∃ stamps, Stamps.TellsTime earlier status later value stamps ∧
    TellsParts (report.parts.map (.bound "status_timestamps" (· = stamps))) text

variable {report : Report} {earlier later : List (Status × Int64)} {status : Status}
  {value : List Char} {text : String}

theorem ofJson_of_decoded_time (tells : report.TellsStamp earlier status later value text)
    {time : Int64}
    (decoded : decode (readInteger .signed64) (String.ofList value) = .ok time.toInt) :
    ofJson text =
      .ok { report with stamps := .ofList (earlier ++ (status, time) :: later) } := by
  rcases tells with ⟨stamps, tellsTime, tells⟩
  have read := Stamps.decode_of_isListed (tellsTime.isListed decoded)
  rw [← report.parts_bound_stamps (.ofList (earlier ++ (status, time) :: later))] at tells
  apply DecodesParts.of_tells_bound (Report.decodesParts _) tells
  simpa [parts, Part.of] using read

theorem ofJson_of_refused_time (tells : report.TellsStamp earlier status later value text)
    {failure : Failure} (settles : Settles (readInteger .signed64) value (.error failure)) :
    ofJson text = .error failure := by
  rcases tells with ⟨stamps, tellsTime, tells⟩
  have refused := tellsTime.settles settles
  apply report.holds.decode_bound_refused _ rfl (fun draft => refused.field draft) tells
  simp [parts, Part.of]

/-- The text that is written of a report tells the time of each stamp. -/
theorem tellsStamp_toJson (report : Report) {time : Int64}
    (among : report.stamps.toList = earlier ++ (status, time) :: later) :
    report.TellsStamp earlier status later (writeInt time.toInt) report.toJson := by
  refine ⟨Stamps.spelled report.stamps.toList, ?_, ?_⟩
  · rw [among]
    exact Stamps.tellsTime_spelled earlier status time later
  · apply (report.told.bound _).tellsParts
    · rw [map_key_bound]
      exact report.nodup_keys
    · simp [Stamps.write_eq_spelled]

/-- A report is decided by the integer of the time of a stamp. -/
theorem decides_time {integer : IntegerLiteral} (written : integer.IsText value)
    (tells : report.TellsStamp earlier status later value text) :
    integer.Decides .signed64 (ofJson text) fun record => ∃ time : Int64,
      record = { report with stamps := .ofList (earlier ++ (status, time) :: later) } ∧
        time.toInt = integer.value ∧
        (status ∉ later.map Prod.fst → ∃ before after,
          record.stamps.toList = before ++ (status, time) :: after ∧
            record.TellsStamp before status after integer.text record.toJson) := by
  apply written.decides IntegerRange.signed64_isExact
  · intro within settles
    have same : (Int64.ofInt integer.value).toInt = integer.value :=
      Int64.toInt_ofInt_of_le within.1.1 (Int.lt_of_le_of_lt within.1.2 (by decide))
    have decoded := settles.decode
    rw [← same] at decoded
    refine ⟨_, ofJson_of_decoded_time tells decoded, _, rfl, same, ?_⟩
    intro last
    let list := earlier ++ (status, Int64.ofInt integer.value) :: later
    have among := Stamps.mem_toList_ofList earlier (Int64.ofInt integer.value) last
    rcases List.append_of_mem among with ⟨before, after, listed⟩
    have back := { report with stamps := .ofList list : Report }.tellsStamp_toJson listed
    rw [same, ← integer.text_eq_writeInt within.2] at back
    exact ⟨before, after, listed, back⟩
  · exact fun failure settles => ofJson_of_refused_time tells settles

end Report

/-! ## The theorem -/

/-- **Integers are decoded exactly or not at all.**  An integer, with any number
of digits, is accepted as the number of an attempt, as the count of attempts of a
report and as the time of a stamp just if it lies within 32, 64 and 64 bits and
is no zero with a minus sign.  It is then the integer that the record has, and
the digits that are written of it.  Otherwise the record is refused, as one that
does not fit, or, from a certain number of more than three hundred digits on, as
one that breaks the grammar.  No number with a fraction or an exponent is
accepted.  All that holds in every text of a record whose other parts are told,
whatever else stands there. -/
theorem integers_are_decoded_exactly :
    (∀ (integer : IntegerLiteral) (value : List Char), integer.IsText value →
      (∀ (attempt : Attempt) (text : String), attempt.TellsNumber value text →
        integer.Decides .unsigned32 (Attempt.ofJson text) fun record => ∃ number : UInt32,
          record = { attempt with number } ∧ (number.toNat : Int) = integer.value ∧
            record.TellsNumber integer.text record.toJson) ∧
      (∀ (report : Report) (text : String), report.TellsAttempts value text →
        integer.Decides .unsigned64 (Report.ofJson text) fun record => ∃ attempts : UInt64,
          record = { report with attempts } ∧ (attempts.toNat : Int) = integer.value ∧
            record.TellsAttempts integer.text record.toJson) ∧
      ∀ (report : Report) (earlier : List (Status × Int64)) (status : Status)
        (later : List (Status × Int64)) (text : String),
        report.TellsStamp earlier status later value text →
          integer.Decides .signed64 (Report.ofJson text) fun record => ∃ time : Int64,
            record = { report with stamps := .ofList (earlier ++ (status, time) :: later) } ∧
              time.toInt = integer.value ∧
              (status ∉ later.map Prod.fst → ∃ before after,
                record.stamps.toList = before ++ (status, time) :: after ∧
                  record.TellsStamp before status after integer.text record.toJson)) ∧
    ∀ value, IsFractional value →
      (∀ (attempt : Attempt) (text : String), attempt.TellsNumber value text →
        ∃ failure, Attempt.ofJson text = .error failure) ∧
      (∀ (report : Report) (text : String), report.TellsAttempts value text →
        ∃ failure, Report.ofJson text = .error failure) ∧
      ∀ (report : Report) (earlier : List (Status × Int64)) (status : Status)
        (later : List (Status × Int64)) (text : String),
        report.TellsStamp earlier status later value text →
          ∃ failure, Report.ofJson text = .error failure := by
  constructor
  · intro integer value written
    refine ⟨?_, ?_, ?_⟩
    · exact fun attempt text tells => Attempt.decides_number written tells
    · exact fun report text tells => Report.decides_attempts written tells
    · exact fun report earlier status later text tells => Report.decides_time written tells
  · intro value fractional
    refine ⟨?_, ?_, ?_⟩
    · intro attempt text tells
      rcases fractional.settles .unsigned32 with ⟨failure, settles⟩
      exact ⟨failure, Attempt.ofJson_of_refused_number tells settles⟩
    · intro report text tells
      rcases fractional.settles .unsigned64 with ⟨failure, settles⟩
      exact ⟨failure, Report.ofJson_of_refused_attempts tells settles⟩
    · intro report earlier status later text tells
      rcases fractional.settles .signed64 with ⟨failure, settles⟩
      exact ⟨failure, Report.ofJson_of_refused_time tells settles⟩

/-- A text of an attempt as an array. -/
theorem Attempt.tellsNumber_array {attempt : Attempt} {id vertex value state : List Char}
    (isId : decode readAttemptId (String.ofList id) = .ok attempt.id)
    (isVertex : decode readVertexRef (String.ofList vertex) = .ok attempt.vertex)
    (isState : decode (readCase AttemptState.cases) (String.ofList state) = .ok attempt.state)
    {text : String} (array : IsArray [id, vertex, value, state] text) :
    attempt.TellsNumber value text := by
  apply TellsParts.array array
  simp [parts, Part.bound, Part.of, isId, isVertex, isState]

/-- The greatest number of an attempt is accepted and the next one refused, and so
are a zero with a minus sign and a number with a fraction. -/
theorem integers_are_decoded_at_the_limits :
    let attempt : Attempt := { id := ⟨"A1"⟩, vertex := ⟨"V1"⟩, number := 0, state := .created }
    Attempt.ofJson "[\"A1\",\"V1\", 4294967295,\"CREATED\"]" =
        .ok { attempt with number := 4294967295 } ∧
      (∃ mismatch, Attempt.ofJson "[\"A1\",\"V1\",4294967296,\"CREATED\"]" =
        .error (.mismatch mismatch)) ∧
      (∃ mismatch, Attempt.ofJson "[\"A1\",\"V1\",-0,\"CREATED\"]" =
        .error (.mismatch mismatch)) ∧
      ∃ failure, Attempt.ofJson "[\"A1\",\"V1\",1.0,\"CREATED\"]" = .error failure := by
  intro attempt
  have tells {value : List Char} {text : String} (array : IsArray
      ["\"A1\"".toList, "\"V1\"".toList, value, "\"CREATED\"".toList] text) :
      attempt.TellsNumber value text := Attempt.tellsNumber_array rfl rfl rfl array
  let greatest : IntegerLiteral := ⟨false, writeNat 4294967295, isWhole_writeNat _⟩
  let next : IntegerLiteral := ⟨false, writeNat 4294967296, isWhole_writeNat _⟩
  let zero : IntegerLiteral := ⟨true, writeNat 0, isWhole_writeNat _⟩
  have decided (integer : IntegerLiteral) {value text} (written : integer.IsText value) (array) :=
    (integers_are_decoded_exactly.1 integer value written).1 attempt text (tells array)
  have small : UInt64.size < Binary64.leastTooLarge := by decide +kernel
  refine ⟨?_, ?_, ?_, ?_⟩
  · have written : greatest.IsText " 4294967295".toList := ⟨[' '], [], by decide, by decide, rfl⟩
    rcases (decided greatest written ⟨[], [], [], by decide, by decide, by decide, rfl⟩).accepted
      (by decide) with ⟨_, decoded, number, rfl, number_eq, _⟩
    have number_is : number = 4294967295 := UInt32.toNat_inj.mp (Int.ofNat.inj number_eq)
    rw [← number_is]
    exact decoded
  · have written : next.IsText "4294967296".toList := ⟨[], [], by decide, by decide, rfl⟩
    rcases (decided next written ⟨[], [], [], by decide, by decide, by decide, rfl⟩).refused
      (by decide) with ⟨_, refused⟩ | ⟨large, _⟩
    · exact refused
    · exact absurd (Nat.lt_of_lt_of_le small large) (by decide)
  · have written : zero.IsText "-0".toList := ⟨[], [], by decide, by decide, rfl⟩
    rcases (decided zero written ⟨[], [], [], by decide, by decide, by decide, rfl⟩).refused
      (by decide) with ⟨_, refused⟩ | ⟨large, _⟩
    · exact refused
    · exact absurd (Nat.lt_of_lt_of_le small large) (by decide)
  · have fractional : IsFractional "1.0".toList :=
      @IsFractional.number [] ['1'] ['.', '0'] [] [] (by decide) false
        (isWhole_writeNat 1) (.present ⟨by decide, by simp⟩) .absent (by decide)
        (by decide)
    exact (integers_are_decoded_exactly.2 _ fractional).1 attempt _
      (tells ⟨[], [], [], by decide, by decide, by decide, rfl⟩)

/-- The greatest double precision number is the value of a literal that is refused
as one that breaks the grammar. -/
theorem greatest_double_is_malformed :
    let greatest : Nat := (1 <<< 1024) - (1 <<< 971)
    (∃ double, Binary64.ofRatio greatest 1 = some double ∧
      double.units = greatest * Binary64.oneUnits) ∧
    Attempt.ofJson (String.ofList ("[\"A1\",\"V1\",".toList ++
      (writeNat greatest ++ ",\"CREATED\"]".toList))) = .error .malformed := by
  intro greatest
  have exact_double : Binary64.ofRatio greatest 1 = some ⟨greatest * Binary64.oneUnits⟩ := by
    decide +kernel
  refine ⟨⟨_, exact_double, rfl⟩, ?_⟩
  let attempt : Attempt := { id := ⟨"A1"⟩, vertex := ⟨"V1"⟩, number := 0, state := .created }
  let integer : IntegerLiteral := ⟨false, writeNat greatest, isWhole_writeNat greatest⟩
  have size_eq : integer.size = greatest := Nat.ofDigitChars_ten_toDigits
  have written : integer.IsText (writeNat greatest) := ⟨[], [], nofun, nofun, by simp; rfl⟩
  have array : IsArray
      ["\"A1\"".toList, "\"V1\"".toList, writeNat greatest, "\"CREATED\"".toList]
      (String.ofList ("[\"A1\",\"V1\",".toList ++
        (writeNat greatest ++ ",\"CREATED\"]".toList))) :=
    ⟨[], [], [], nofun, nofun, nofun, by simp [List.intercalate]⟩
  have tells : attempt.TellsNumber (writeNat greatest) _ :=
    Attempt.tellsNumber_array rfl rfl rfl array
  have large : Binary64.leastTooLarge ≤ integer.size := by
    rw [size_eq]
    decide +kernel
  have outside : ¬ integer.InRange .unsigned32 := by
    rintro ⟨⟨_, bounded⟩, _⟩
    have value_eq : integer.value = integer.size := rfl
    have small : UInt32.size < Binary64.leastTooLarge := by decide +kernel
    change integer.value ≤ (4294967295 : Nat) at bounded
    rw [value_eq, Int.ofNat_le] at bounded
    exact absurd (Nat.lt_of_lt_of_le small large) (Nat.not_lt_of_le (Nat.le_succ_of_le bounded))
  rcases (Attempt.decides_number written tells).refused outside with ⟨small, _⟩ | ⟨_, refused⟩
  · exact absurd small (Nat.not_lt_of_le large)
  · exact refused

end JobLedger
