import JobLedger.Ids
import Mathlib.Data.List.Nodup

/-!
# Numbered identifiers

A source numbers what it hands out from 1 on, and the text of an identifier
tells its kind and its number.  As long as the counter does not wrap around, no
two identifiers of one source have the same text.
-/

namespace JobLedger

namespace IdSource

/-- What an identifier is for. -/
inductive Kind where
  | job
  | attempt
  deriving DecidableEq

namespace Kind

/-- The text of a numbered identifier, from before its number. -/
def stem : Kind → String
  | job => "job-"
  | attempt => "attempt-"

/-- The text of a numbered identifier. -/
def text (kind : Kind) (number : Nat) : String :=
  kind.stem ++ number.repr

theorem repr_injective : Function.Injective Nat.repr := by
  intro first second same
  have digits : Nat.toDigits 10 first = Nat.toDigits 10 second := by
    rw [← Nat.toList_repr, ← Nat.toList_repr, same]
  simpa using congrArg (fun digits => Nat.ofDigitChars 10 digits 0) digits

/-- The text tells kind and number. -/
theorem text_eq_text_iff {kind other : Kind} {number second : Nat} :
    kind.text number = other.text second ↔ kind = other ∧ number = second := by
  constructor
  · intro same
    have chars : kind.stem.toList ++ number.repr.toList =
        other.stem.toList ++ second.repr.toList := by
      rw [← String.toList_append, ← String.toList_append]
      exact congrArg String.toList same
    -- The stems of the two kinds differ in their first letter.
    obtain rfl : kind = other := by
      cases kind <;> cases other <;> first | rfl | simp [stem] at chars
    exact ⟨rfl, repr_injective (String.toList_injective (List.append_cancel_left chars))⟩
  · rintro ⟨rfl, rfl⟩
    rfl

end Kind

/-- The texts of identifiers of some kinds that are numbered from `first` on. -/
def numbered (first : Nat) (kinds : List Kind) : List String :=
  (kinds.zipIdx first).map fun (kind, number) => kind.text number

theorem numbered_append (first : Nat) (kinds rest : List Kind) :
    numbered first (kinds ++ rest) =
      numbered first kinds ++ numbered (first + kinds.length) rest := by
  simp [numbered, List.zipIdx_append]

@[simp]
theorem getElem?_numbered (first : Nat) (kinds : List Kind) (place : Nat) :
    (numbered first kinds)[place]? = kinds[place]?.map fun kind => kind.text (first + place) := by
  simp [numbered, Option.map_map, Function.comp_def]

@[simp]
theorem length_numbered (first : Nat) (kinds : List Kind) :
    (numbered first kinds).length = kinds.length := by
  simp [numbered]

/-- No text is among them twice. -/
theorem nodup_numbered (first : Nat) (kinds : List Kind) : (numbered first kinds).Nodup := by
  have numbers : ((kinds.zipIdx first).map Prod.snd).Nodup := by
    rw [List.zipIdx_map_snd]
    exact List.nodup_range'
  apply numbers.of_map.map
  rintro ⟨kind, number⟩ ⟨other, second⟩ same
  obtain ⟨rfl, rfl⟩ := Kind.text_eq_text_iff.mp same
  rfl

/-! ## The counter -/

/-- The source of which `count` identifiers have been taken. -/
def after (count : Nat) : IdSource := ⟨.ofNat count⟩

theorem after_zero : after 0 = fresh := rfl

theorem draw_after (count : Nat) :
    (after count).draw = (.ofNat (count + 1), after (count + 1)) := by
  simp [draw, after, UInt64.ofNat_add]

/-- The next identifier of a job has the next number. -/
theorem nextJobId_after {count : Nat} (fits : count + 1 < UInt64.size) :
    (after count).nextJobId = (⟨Kind.job.text (count + 1)⟩, after (count + 1)) := by
  simp only [nextJobId, draw_after, UInt64.toNat_ofNat_of_lt' fits]
  rfl

/-- So has the next identifier of an attempt. -/
theorem nextAttemptId_after {count : Nat} (fits : count + 1 < UInt64.size) :
    (after count).nextAttemptId = (⟨Kind.attempt.text (count + 1)⟩, after (count + 1)) := by
  simp only [nextAttemptId, draw_after, UInt64.toNat_ofNat_of_lt' fits]
  rfl

end IdSource

end JobLedger
