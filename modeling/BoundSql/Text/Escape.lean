import BoundSql.Text.Combining
import BoundSql.Text.Unprintable

/-! # Escapes inside double quotes

Two spellings of a text between double quotes: the one of a JSON document, and
the one that shows a value for inspection.  Both escape the quote mark, the
backslash and control characters.  A JSON document writes every other character
as it is; inspection does so only with those that can be seen on their own. -/
set_option autoImplicit false
namespace BoundSql.Text

def commonEscape? (c : Char) : Option (List Char) :=
  if c = '"' then some ['\\', '"']
  else if c = '\\' then some ['\\', '\\']
  else if c = '\n' then some ['\\', 'n']
  else if c = '\r' then some ['\\', 'r']
  else if c = '\t' then some ['\\', 't']
  else none

/-- Control characters below the blank have two short forms, or four digits. -/
def jsonEscape (c : Char) : List Char :=
  match commonEscape? c with
  | some escape => escape
  | none =>
    if c.toNat = 8 then ['\\', 'b']
    else if c.toNat = 12 then ['\\', 'f']
    else if c.toNat < 32 then
      ['\\', 'u', '0', '0'] ++ Nat.toDigits 16 (c.toNat / 16) ++ Nat.toDigits 16 (c.toNat % 16)
    else [c]

/-- The null character has a zero; any other that nothing can be seen of, or that
is drawn together with the one before it, has its number in braces. -/
def inspectedEscape (c : Char) : List Char :=
  match commonEscape? c with
  | some escape => escape
  | none =>
    if c.toNat = 0 then ['\\', '0']
    else if isCombining c || isUnprintable c then
      ['\\', 'u', '\x7b'] ++ Nat.toDigits 16 c.toNat ++ ['\x7d']
    else [c]

def between (escape : Char → List Char) (s : String) : String :=
  String.ofList ('"' :: (s.toList.flatMap escape ++ ['"']))

def jsonString (s : String) : String := between jsonEscape s

def inspectedString (s : String) : String := between inspectedEscape s

end BoundSql.Text
