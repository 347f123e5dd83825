import JobLedger.Attempt.Json
import JobLedger.Proofs.Json.Members
import JobLedger.Report.Json
import JobLedger.Settings.Json

/-!
# What is written is read back

Reports, attempts and settings are written as objects of their fields.  Each
field is written as a text that spells it, so each object spells its record,
and decoding the text of a record gives the record itself.
-/

namespace JobLedger

open Json

theorem Status.cases_faithful : Status.cases.Faithful :=
  ⟨Status.mem_all, fun _ _ => Status.name_injective⟩

theorem AttemptState.cases_faithful : AttemptState.cases.Faithful :=
  ⟨AttemptState.mem_all, fun _ _ => AttemptState.name_injective⟩

theorem JobKind.cases_faithful : JobKind.cases.Faithful :=
  ⟨JobKind.mem_all, fun _ _ => JobKind.name_injective⟩

/-! ## Stamps -/

namespace Stamps

/-- A written stamp is inserted. -/
theorem readMember_spells (stamps : Stamps) (status : Status) (time : Int64) :
    SpellsMember readMember status.name (writeInt time.toInt) stamps
      (stamps.insert status time) := by
  intro rest ends
  have found : Status.cases.find status.name.toList = .ok status :=
    Status.cases_faithful.find_name status
  have within : IntegerRange.signed64.contains time.toInt = true :=
    (IntegerRange.contains_iff _ _).mpr ⟨time.minValue_le_toInt, time.toInt_le⟩
  have spells := readInteger_writeInt IntegerRange.signed64_isExact within rest ends
  simp only [readMember, readText_flatMap_escape, bind, Except.bind, found]
  simp only [readColon, skipBlanks_cons (show isBlank ':' = false by decide), spells,
    Int64.ofInt_toInt]
  rfl

/-- Written stamps are inserted one after another. -/
theorem fills_foldl (entries : List (Status × Int64)) (stamps : Stamps) :
    Fills readMember stamps
      (entries.map fun entry => (entry.1.name, writeInt entry.2.toInt))
      (entries.foldl (fun stamps entry => stamps.insert entry.1 entry.2) stamps) := by
  induction entries generalizing stamps with
  | nil => exact .nil stamps
  | cons entry rest ih => exact .cons (stamps.readMember_spells entry.1 entry.2) (ih _)

theorem read_spells (stamps : Stamps) : Spells read stamps.write stamps := by
  intro rest _
  have fills := fills_foldl stamps.toList empty
  have whole := fills.readObject rest
  rw [← ofList, ofList_toList] at whole
  have written : stamps.write ++ rest = '{' :: (writeMembers (stamps.toList.map fun entry =>
      (entry.1.name, writeInt entry.2.toInt)) ++ '}' :: rest) := by
    simp [write, writeObject]
  rw [written, read, skipBlanks_cons (by decide)]
  exact whole

end Stamps

/-! ## Records -/

theorem Report.readAttempts_spells (attempts : UInt64) :
    Spells readAttempts (writeNat attempts.toNat) attempts := by
  have within : IntegerRange.unsigned64.contains attempts.toNat = true := by
    have bound : attempts.toNat < UInt64.size := attempts.toNat_lt
    simp only [IntegerRange.contains_iff, IntegerRange.unsigned64]
    omega
  have spells := (readInteger_writeInt IntegerRange.unsigned64_isExact within).map
    fun value => UInt64.ofNat value.toNat
  rwa [Int.toNat_natCast, UInt64.ofNat_toNat] at spells

/-- What is written of a report spells it. -/
theorem Report.read_spells (report : Report) : Spells shape.read report.write report := by
  apply Shape.read_spells
  · exact
      .cons (Shape.spellsMember rfl rfl ((readName_spells report.jobId.text).map JobId.mk)) <|
      .cons (Shape.spellsMember rfl rfl (readName_spells report.jobName)) <|
      .cons (Shape.spellsMember rfl rfl (JobKind.cases_faithful.readCase_spells report.jobKind)) <|
      .cons (Shape.spellsMember rfl rfl (Status.cases_faithful.readCase_spells report.status)) <|
      .cons (Shape.spellsMember rfl rfl (readBoolean_spells report.terminal)) <|
      .cons (Shape.spellsMember rfl rfl (readAttempts_spells report.attempts)) <|
      .cons (Shape.spellsMember rfl rfl report.stamps.read_spells) <|
      .nil _
  · rfl

theorem Attempt.readNumber_spells (number : UInt32) :
    Spells readNumber (writeNat number.toNat) number := by
  have within : IntegerRange.unsigned32.contains number.toNat = true := by
    have bound : number.toNat < UInt32.size := number.toNat_lt
    simp only [IntegerRange.contains_iff, IntegerRange.unsigned32]
    omega
  have spells := (readInteger_writeInt IntegerRange.unsigned32_isExact within).map
    fun value => UInt32.ofNat value.toNat
  rwa [Int.toNat_natCast, UInt32.ofNat_toNat] at spells

/-- What is written of an attempt spells it. -/
theorem Attempt.read_spells (attempt : Attempt) : Spells shape.read attempt.write attempt := by
  apply Shape.read_spells
  · exact
      .cons (Shape.spellsMember rfl rfl ((readName_spells attempt.id.text).map AttemptId.mk)) <|
      .cons (Shape.spellsMember rfl rfl ((readName_spells attempt.vertex.text).map VertexRef.mk)) <|
      .cons (Shape.spellsMember rfl rfl (readNumber_spells attempt.number)) <|
      .cons (Shape.spellsMember rfl rfl
        (AttemptState.cases_faithful.readCase_spells attempt.state)) <|
      .nil _
  · rfl

/-- What is written of settings spells them. -/
theorem Settings.read_spells (settings : Settings) : Spells shape.read settings.write settings := by
  apply Shape.read_spells
  · exact
      .cons (Shape.spellsMember rfl rfl (readName_spells settings.jobName)) <|
      .cons (Shape.spellsMember rfl rfl
        (JobKind.cases_faithful.readCase_spells settings.jobKind)) <|
      .nil _
  · rfl

/-- **What is written is read back.**  Every report, every attempt and all
settings have a text, whatever characters their names are made of and however
large their numbers are.  Decoding that text gives them back, and writing what
was decoded gives the same text again. -/
theorem json_round_trip :
    (∀ report : Report, Report.ofJson report.toJson = .ok report ∧
      (Report.ofJson report.toJson).map Report.toJson = .ok report.toJson) ∧
    (∀ attempt : Attempt, Attempt.ofJson attempt.toJson = .ok attempt ∧
      (Attempt.ofJson attempt.toJson).map Attempt.toJson = .ok attempt.toJson) ∧
    (∀ settings : Settings, Settings.ofJson settings.toJson = .ok settings ∧
      (Settings.ofJson settings.toJson).map Settings.toJson = .ok settings.toJson) := by
  refine ⟨fun report => ?_, fun attempt => ?_, fun settings => ?_⟩
  · have decoded : Report.ofJson report.toJson = .ok report := decode_ofList report.read_spells
    rw [decoded]
    exact ⟨rfl, rfl⟩
  · have decoded : Attempt.ofJson attempt.toJson = .ok attempt := decode_ofList attempt.read_spells
    rw [decoded]
    exact ⟨rfl, rfl⟩
  · have decoded : Settings.ofJson settings.toJson = .ok settings :=
      decode_ofList settings.read_spells
    rw [decoded]
    exact ⟨rfl, rfl⟩

end JobLedger
