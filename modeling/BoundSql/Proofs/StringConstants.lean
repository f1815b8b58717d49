import Mathlib.Data.List.Basic
import BoundSql.Text.Quote

/-! # Reading string constants

A string constant is read from left to right.  In a plain constant only the quote
mark is special: two of them stand for one, and a single one ends the constant.  In
an escape constant a backslash starts an escape as well, which may give a character
or a single byte, so what is read is a row of bytes, and these must be a text in the
end.  Constants on consecutive lines are read one at a time.  Whatever text is quoted,
the constant ends where the quoting ends and reads as that text. -/
set_option autoImplicit false
namespace BoundSql.Text

def digit? (base : Nat) (c : Char) : Option Nat :=
  let n := if c.isDigit then c.toNat - 48 else if c.isLower then c.toNat - 87 else c.toNat - 55
  if c.isAlphanum ∧ n < base then some n else none

def leadingDigits (base most : Nat) (s : List Char) : List Nat :=
  ((s.take most).takeWhile fun c => (digit? base c).isSome).filterMap (digit? base)

def positional (base : Nat) (digits : List Nat) : Nat :=
  digits.foldl (fun n d => n * base + d) 0

def singleByte (base : Nat) (digits : List Nat) : List UInt8 :=
  [UInt8.ofNat (positional base digits)]

/-- A code point written with an exact number of hexadecimal digits, behind one letter. -/
def codePoint? (count : Nat) (s : List Char) : Option (List UInt8 × Nat) :=
  let digits := leadingDigits 16 count s
  let n := positional 16 digits
  if digits.length = count ∧ n.isValidChar then
    some (String.utf8EncodeChar (Char.ofNat n), count + 1)
  else none

/-- The bytes that the characters behind a backslash stand for, and how many characters
that takes.  A character that starts no escape stands for itself. -/
def escape? (s : List Char) : Option (List UInt8 × Nat) :=
  let octal := leadingDigits 8 3 s
  if octal.isEmpty then
    match s with
    | [] => none
    | 'b' :: _ => some ([8], 1)
    | 't' :: _ => some ([9], 1)
    | 'n' :: _ => some ([10], 1)
    | 'f' :: _ => some ([12], 1)
    | 'r' :: _ => some ([13], 1)
    | 'u' :: rest => codePoint? 4 rest
    | 'U' :: rest => codePoint? 8 rest
    | 'x' :: rest =>
      let hex := leadingDigits 16 2 rest
      if hex.isEmpty then some ([120], 1) else some (singleByte 16 hex, hex.length + 1)
    | c :: _ => some (String.utf8EncodeChar c, 1)
  else some (singleByte 8 octal, octal.length)

def prepend (bytes : List UInt8) (read : List UInt8 × List Char) : List UInt8 × List Char :=
  (bytes ++ read.1, read.2)

/-- Reads a constant behind its opening mark: its bytes and what follows it. -/
def readBody (escapes : Bool) (s : List Char) : Option (List UInt8 × List Char) :=
  match s with
  | [] => none
  | '\'' :: '\'' :: rest => (readBody escapes rest).map (prepend (String.utf8EncodeChar '\''))
  | '\'' :: rest => some ([], rest)
  | c :: rest =>
    if c = '\\' ∧ escapes = true then
      match escape? rest with
      | none => none
      | some (bytes, taken) => (readBody escapes (rest.drop taken)).map (prepend bytes)
    else (readBody escapes rest).map (prepend (String.utf8EncodeChar c))
termination_by s.length
decreasing_by all_goals (simp only [List.length_cons, List.length_drop]; omega)

/-- Escapes of every kind are read, and a backslash in a plain constant is none. -/
example :
    readBody true "\\x41\\102\\u00e9\\n\\q\\'''' + 1".toList =
        some ([0x41, 0x42, 0xc3, 0xa9, 10, 113, 39, 39], " + 1".toList) ∧
      readBody false "\\x''\\' + 1".toList = some ([92, 120, 39, 92], " + 1".toList) := by
  decide +kernel

def asText (read : List UInt8 × List Char) : Option (String × List Char) :=
  (String.fromUTF8? read.1.toByteArray).map fun text => (text, read.2)

/-- Reads one string constant: the text it stands for and what follows it. -/
def readConstant (s : List Char) : Option (String × List Char) :=
  match s with
  | '\'' :: rest => (readBody false rest).bind asText
  | 'E' :: '\'' :: rest | 'e' :: '\'' :: rest => (readBody true rest).bind asText
  | _ => none

def quotedChar (escapes : Bool) (c : Char) : List Char :=
  if c = '\'' then ['\'', '\''] else if c = '\\' ∧ escapes = true then ['\\', '\\'] else [c]

/-- Doubling the marks and then the backslashes is writing character by character. -/
theorem doubled_doubled (s : List Char) :
    doubled '\\' (doubled '\'' s) = s.flatMap (quotedChar true) := by
  induction s with
  | nil => rfl
  | cons c rest ih =>
    rw [List.flatMap_cons, ← ih, doubled_cons]
    by_cases mark : c = '\''
    · subst mark
      rfl
    · simp [mark, quotedChar, doubled_cons]

theorem doubled_mark (s : List Char) : doubled '\'' s = s.flatMap (quotedChar false) :=
  List.flatMap_congr fun c _ => by simp [quotedChar]

theorem readBody_close (escapes : Bool) {rest : List Char} (apart : rest.head? ≠ some '\'') :
    readBody escapes ('\'' :: rest) = some ([], rest) := by
  cases rest with
  | nil => simp [readBody]
  | cons c behind =>
    have other : c ≠ '\'' := by simpa using apart
    rw [readBody]
    simpa using other

theorem escape?_backslash (rest : List Char) :
    escape? ('\\' :: rest) = some (String.utf8EncodeChar '\\', 1) := by
  have noDigits : leadingDigits 8 3 ('\\' :: rest) = [] := by simp [leadingDigits, digit?]
  unfold escape?
  simp only [noDigits]
  rfl

/-- A character is read back from what is written for it. -/
theorem readBody_quotedChar (escapes : Bool) (c : Char) (behind : List Char) :
    readBody escapes (quotedChar escapes c ++ behind) =
      (readBody escapes behind).map (prepend (String.utf8EncodeChar c)) := by
  by_cases mark : c = '\''
  · subst mark
    simp [quotedChar, readBody]
  · by_cases backslash : c = '\\' ∧ escapes = true
    · obtain ⟨rfl, rfl⟩ := backslash
      have written : quotedChar true '\\' = ['\\', '\\'] := rfl
      rw [written, List.cons_append, readBody]
      · simp [escape?_backslash]
      all_goals simp
    · have written : quotedChar escapes c = [c] := by simp [quotedChar, mark, backslash]
      rw [written, List.singleton_append, readBody]
      · simp [backslash]
      all_goals simp [mark]

theorem readBody_written (escapes : Bool) (s : List Char) {rest : List Char}
    (apart : rest.head? ≠ some '\'') :
    readBody escapes (s.flatMap (quotedChar escapes) ++ '\'' :: rest) =
      some (s.flatMap String.utf8EncodeChar, rest) := by
  induction s with
  | nil => exact readBody_close escapes apart
  | cons c later ih =>
    rw [List.flatMap_cons, List.append_assoc, readBody_quotedChar, ih]
    rfl

theorem asText_bytes (s : String) (rest : List Char) :
    asText (s.toList.flatMap String.utf8EncodeChar, rest) = some (s, rest) := by
  have bytes : (s.toList.flatMap String.utf8EncodeChar).toByteArray = s.toByteArray :=
    String.utf8Encode_toList
  rw [asText, bytes, String.fromUTF8?, dif_pos s.isValidUTF8]
  rfl

theorem readConstant_quoted (s : String) {rest : List Char} (apart : rest.head? ≠ some '\'') :
    readConstant (quoted s.toList ++ rest) = some (s, rest) := by
  have body (escapes : Bool) := readBody_written escapes s.toList apart
  rw [quoted]
  by_cases backslash : '\\' ∈ s.toList
  · rw [if_pos backslash, doubled_doubled]
    simp only [List.cons_append, List.append_assoc, List.nil_append, readConstant, body,
      Option.bind_some, asText_bytes]
  · rw [if_neg backslash, doubled_mark]
    simp only [List.cons_append, List.append_assoc, List.nil_append, readConstant, body,
      Option.bind_some, asText_bytes]

/-- Whatever is quoted, the constant that is read is the whole of its quoting and stands
for the text, unless a quote mark follows; so the quoting tells texts apart. -/
theorem quote_reads_back (s : String) :
    (∀ rest : List Char, rest.head? ≠ some '\'' →
      readConstant ((quote s).toList ++ rest) = some (s, rest)) ∧
    ∀ t : String, quote t = quote s → t = s := by
  have reads (t : String) (rest : List Char) (apart : rest.head? ≠ some '\'') :
      readConstant ((quote t).toList ++ rest) = some (t, rest) := by
    rw [toList_quote]
    exact readConstant_quoted t apart
  refine ⟨reads s, ?_⟩
  intro t equal
  have alone := reads t [] (by simp)
  rw [equal, reads s [] (by simp)] at alone
  simpa using alone.symm

theorem quote_reads_back_folder :
    " and 'x' = name".toList.head? ≠ some '\'' ∧
      readConstant "E'it''s in C:\\\\new\\\\''' and 'x' = name".toList =
        some ("it's in C:\\new\\'", " and 'x' = name".toList) := by
  have apart : " and 'x' = name".toList.head? ≠ some '\'' := by decide
  have written : "E'it''s in C:\\\\new\\\\''' and 'x' = name".toList =
      (quote "it's in C:\\new\\'").toList ++ " and 'x' = name".toList := by
    decide +kernel
  refine ⟨apart, ?_⟩
  rw [written]
  exact (quote_reads_back "it's in C:\\new\\'").1 " and 'x' = name".toList apart

end BoundSql.Text
