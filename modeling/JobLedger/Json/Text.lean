import JobLedger.Json.Failure

/-!
# Strings in JSON

`writeText` puts a text between quotes and escapes what has to be escaped.
`readText` is the inverse and a little more: it also understands the escapes
that are never written, among them the pairs of `\u` escapes for characters
beyond four digits.
-/

namespace JobLedger.Json

/-! ## Writing -/

/-- A digit of a number below 16, in lower case. -/
def hexDigit (n : Nat) : Char :=
  Nat.digitChar n

/-- A character inside a string. -/
def escape (c : Char) : List Char :=
  if c = '"' then ['\\', '"']
  else if c = '\\' then ['\\', '\\']
  else if c = '\x08' then ['\\', 'b']
  else if c = '\t' then ['\\', 't']
  else if c = '\n' then ['\\', 'n']
  else if c = '\x0c' then ['\\', 'f']
  else if c = '\r' then ['\\', 'r']
  else if c.toNat < 0x20 then
    ['\\', 'u', '0', '0', hexDigit (c.toNat / 16), hexDigit (c.toNat % 16)]
  else [c]

/-- A text as a string of JSON. -/
def writeText (text : List Char) : List Char :=
  '"' :: text.flatMap escape ++ ['"']

/-! ## Reading -/

/-- The value of a hexadecimal digit of either case. -/
def hexValue (c : Char) : Option Nat :=
  if c.isDigit then some (c.toNat - '0'.toNat)
  else if 'a' ≤ c && c ≤ 'f' then some (c.toNat - 'a'.toNat + 10)
  else if 'A' ≤ c && c ≤ 'F' then some (c.toNat - 'A'.toNat + 10)
  else none

/-- The character that a letter after a backslash stands for. -/
def shortEscape (c : Char) : Option Char :=
  if c = '"' then some '"'
  else if c = '\\' then some '\\'
  else if c = '/' then some '/'
  else if c = 'b' then some '\x08'
  else if c = 'f' then some '\x0c'
  else if c = 'n' then some '\n'
  else if c = 'r' then some '\r'
  else if c = 't' then some '\t'
  else none

/-- The first half of a pair. -/
def isHighHalf (code : Nat) : Bool :=
  0xD800 ≤ code && code ≤ 0xDBFF

/-- The second half of a pair. -/
def isLowHalf (code : Nat) : Bool :=
  0xDC00 ≤ code && code ≤ 0xDFFF

/-- The character that two halves stand for. -/
def joinHalves (high low : Nat) : Char :=
  Char.ofNat (0x10000 + (high - 0xD800) * 0x400 + (low - 0xDC00))

/-- The number of bytes of a text in UTF-8. -/
def byteLength : List Char → Nat
  | [] => 0
  | c :: rest => c.utf8Size + byteLength rest

/-- The failure at a character that is no hexadecimal digit where `left` of
them are due: a text with fewer bytes than that is cut short. -/
def badHex (left : Nat) (text : List Char) : Failure :=
  if byteLength text < left then .cutShort else .malformed

/-- Where in a string the next character stands. -/
inductive TextState where
  | plain
  /-- After a backslash. -/
  | escape
  /-- In a `\u` escape with `left` digits due and `code` read so far, perhaps
  after the first half of a pair. -/
  | hex (high : Option Nat) (left code : Nat)
  /-- After the first half of a pair: a backslash is due. -/
  | pairBackslash (high : Nat)
  /-- After the first half of a pair and a backslash: `u` is due. -/
  | pairLetter (high : Nat)

/-- What the last digit of a `\u` escape makes of it. -/
inductive Unit16 where
  | char (c : Char)
  | half (high : Nat)
  | lone

/-- Sorts out the code of a `\u` escape, perhaps after the first half of a
pair. -/
def unit16 (high : Option Nat) (code : Nat) : Unit16 :=
  match high with
  | some first => if isLowHalf code then .char (joinHalves first code) else .lone
  | none =>
    if isLowHalf code then .lone
    else if isHighHalf code then .half code
    else .char (Char.ofNat code)

/-- Reads the rest of a string: its characters, and the text after the closing
quote. -/
def readText : TextState → List Char → Except Failure (List Char × List Char)
  | _, [] => .error .cutShort
  | .plain, c :: rest =>
    if c = '"' then .ok ([], rest)
    else if c = '\\' then readText .escape rest
    else if c.toNat < 0x20 then .error .malformed
    else do
      let (text, after) ← readText .plain rest
      return (c :: text, after)
  | .escape, c :: rest =>
    if c = 'u' then readText (.hex none 4 0) rest
    else
      match shortEscape c with
      | none => .error .malformed
      | some d => do
        let (text, after) ← readText .plain rest
        return (d :: text, after)
  | .hex high left code, c :: rest =>
    match hexValue c with
    | none => .error (badHex left (c :: rest))
    | some digit =>
      if 1 < left then readText (.hex high (left - 1) (16 * code + digit)) rest
      else
        match unit16 high (16 * code + digit) with
        | .lone => .error .malformed
        | .half first => readText (.pairBackslash first) rest
        | .char d => do
          let (text, after) ← readText .plain rest
          return (d :: text, after)
  | .pairBackslash high, c :: rest =>
    if c = '\\' then readText (.pairLetter high) rest else .error .malformed
  | .pairLetter high, c :: rest =>
    if c = 'u' then readText (.hex (some high) 4 0) rest else .error .malformed

/-! ## Reading what was written -/

theorem hexValue_hexDigit : ∀ n : Fin 16, hexValue (hexDigit n) = some n.val := by
  decide

/-- Seven characters have a letter of their own. -/
theorem escape_of_mem {c : Char} (special : c ∈ ['"', '\\', '\x08', '\t', '\n', '\x0c', '\r']) :
    ∃ d, escape c = ['\\', d] ∧ d ≠ 'u' ∧ shortEscape d = some c := by
  simp only [List.mem_cons, List.not_mem_nil, or_false] at special
  rcases special with rfl | rfl | rfl | rfl | rfl | rfl | rfl
  · exact ⟨'"', rfl, by decide, rfl⟩
  · exact ⟨'\\', rfl, by decide, rfl⟩
  · exact ⟨'b', rfl, by decide, rfl⟩
  · exact ⟨'t', rfl, by decide, rfl⟩
  · exact ⟨'n', rfl, by decide, rfl⟩
  · exact ⟨'f', rfl, by decide, rfl⟩
  · exact ⟨'r', rfl, by decide, rfl⟩

/-- The three ways in which a character is written. -/
theorem escape_cases (c : Char) :
    (∃ d, escape c = ['\\', d] ∧ d ≠ 'u' ∧ shortEscape d = some c) ∨
    (c.toNat < 0x20 ∧ escape c =
      ['\\', 'u', '0', '0', hexDigit (c.toNat / 16), hexDigit (c.toNat % 16)]) ∨
    (escape c = [c] ∧ c ≠ '"' ∧ c ≠ '\\' ∧ 0x20 ≤ c.toNat) := by
  by_cases special : c ∈ ['"', '\\', '\x08', '\t', '\n', '\x0c', '\r']
  · exact .inl (escape_of_mem special)
  · simp only [List.mem_cons, List.not_mem_nil, or_false, not_or] at special
    obtain ⟨quote, backslash, backspace, tab, newline, page, carriage⟩ := special
    right
    unfold escape
    rw [if_neg quote, if_neg backslash, if_neg backspace, if_neg tab, if_neg newline,
      if_neg page, if_neg carriage]
    split
    · next control => exact .inl ⟨control, rfl⟩
    · next visible => exact .inr ⟨rfl, quote, backslash, Nat.le_of_not_lt visible⟩

theorem unit16_of_lt {code : Nat} (small : code < 0xD800) :
    unit16 none code = .char (Char.ofNat code) := by
  have notLow : isLowHalf code = false := by simp [isLowHalf]; omega
  have notHigh : isHighHalf code = false := by simp [isHighHalf]; omega
  simp [unit16, notLow, notHigh]

/-- A written character is read as that character. -/
theorem readText_escape (c : Char) (rest : List Char) :
    readText .plain (escape c ++ rest) =
      (readText .plain rest).map fun (text, after) => (c :: text, after) := by
  rcases escape_cases c with ⟨d, written, letter, meaning⟩ | ⟨control, written⟩ |
    ⟨written, quote, backslash, visible⟩
  · simp [written, readText, letter, meaning]
    rfl
  · have high := hexValue_hexDigit ⟨c.toNat / 16, by omega⟩
    have low := hexValue_hexDigit ⟨c.toNat % 16, by omega⟩
    have zero : hexValue '0' = some 0 := by decide
    have code : 16 * (c.toNat / 16) + c.toNat % 16 = c.toNat := Nat.div_add_mod ..
    have small := unit16_of_lt (show c.toNat < 0xD800 by omega)
    simp [written, readText, high, low, zero, code, small]
    rfl
  · have large : ¬ c.toNat < 0x20 := by omega
    simp [written, readText, quote, backslash, large]
    rfl

/-- A written text is read back, whatever follows it. -/
theorem readText_flatMap_escape (text rest : List Char) :
    readText .plain (text.flatMap escape ++ '"' :: rest) = .ok (text, rest) := by
  induction text with
  | nil => simp [readText]
  | cons c text ih => simp [readText_escape, ih, Except.map]

end JobLedger.Json
