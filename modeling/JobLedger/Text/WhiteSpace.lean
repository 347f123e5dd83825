/-!
# White space around a text

`isWhiteSpace` is the Unicode property `White_Space`, all 25 code points of it.
It is wider than core's `Char.isWhitespace`, which knows four of them.
`trim` cuts white space off both ends of a text and leaves what is inside.
-/

namespace JobLedger.Text

/-- The Unicode property `White_Space`. -/
def isWhiteSpace (c : Char) : Bool :=
  let code := c.toNat
  (9 ≤ code && code ≤ 13) || code == 0x20 || code == 0x85 || code == 0xA0 ||
    code == 0x1680 || (0x2000 ≤ code && code ≤ 0x200A) || code == 0x2028 ||
    code == 0x2029 || code == 0x202F || code == 0x205F || code == 0x3000

/-- A text without the white space at its two ends. -/
def trim (text : List Char) : List Char :=
  ((text.dropWhile isWhiteSpace).reverse.dropWhile isWhiteSpace).reverse

/-- A text is blank when it holds nothing but white space. -/
def isBlank (text : String) : Bool :=
  (trim text.toList).isEmpty

/-! ## What trimming leaves -/

theorem dropWhile_eq_nil_iff_forall (text : List Char) :
    text.dropWhile isWhiteSpace = [] ↔ ∀ c ∈ text, isWhiteSpace c = true := by
  induction text with
  | nil => simp
  | cons c rest ih =>
    by_cases space : isWhiteSpace c = true <;> simp [space, ih]

/-- Nothing is left exactly when all was white space. -/
theorem trim_eq_nil_iff (text : List Char) :
    trim text = [] ↔ ∀ c ∈ text, isWhiteSpace c = true := by
  constructor
  · intro empty
    have blankReverse : ∀ c ∈ (text.dropWhile isWhiteSpace).reverse, isWhiteSpace c = true := by
      rw [← dropWhile_eq_nil_iff_forall]
      simpa [trim] using empty
    have blankRest : ∀ c ∈ text.dropWhile isWhiteSpace, isWhiteSpace c = true := by
      simpa using blankReverse
    rw [← dropWhile_eq_nil_iff_forall]
    have split := List.takeWhile_append_dropWhile (p := isWhiteSpace) (l := text)
    cases rest : text.dropWhile isWhiteSpace with
    | nil => rfl
    | cons c tail =>
      have notSpace := List.head_dropWhile_not (p := isWhiteSpace) (l := text) (by simp [rest])
      have space := blankRest c (by simp [rest])
      simp [rest, space] at notSpace
  · intro blank
    have empty := (dropWhile_eq_nil_iff_forall text).mpr blank
    simp [trim, empty]

theorem isBlank_iff (text : String) :
    isBlank text = true ↔ ∀ c ∈ text.toList, isWhiteSpace c = true := by
  rw [isBlank, List.isEmpty_iff, trim_eq_nil_iff]

end JobLedger.Text
