import JobLedger.Fault
import JobLedger.Text.WhiteSpace

/-!
# Reading the name of a status

People write names of statuses with blanks around them and in letters of any
case.  `Status.parse` accepts exactly that: the name itself up to the case of
ASCII letters, with any white space before and after it.
-/

namespace JobLedger.Status

/-- A text without the white space around it, its ASCII letters in upper case. -/
def normalize (text : String) : List Char :=
  (Text.trim text.toList).map Char.toUpper

/-- The status that a text names; otherwise the text as it was given. -/
def parse (text : String) : Except Violation Status :=
  match all.find? fun status => status.name.toList = normalize text with
  | some status => .ok status
  | none => .error (.unknownStatus text)

theorem parse_eq_ok_iff (text : String) (status : Status) :
    parse text = .ok status ↔ normalize text = status.name.toList := by
  unfold parse
  constructor
  · intro parsed
    split at parsed
    · next found search =>
      cases parsed
      have same := List.find?_some search
      exact (of_decide_eq_true same).symm
    · cases parsed
  · intro named
    split
    · next found search =>
      have same : found.name.toList = normalize text := by simpa using List.find?_some search
      rw [named, String.toList_inj] at same
      rw [name_injective same]
    · next search =>
      have absent := List.find?_eq_none.mp search status (mem_all status)
      simp [named] at absent

end JobLedger.Status
