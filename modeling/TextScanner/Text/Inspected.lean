import TextScanner.Unicode.Property

/-!
# Inspected text

Inspection shows a value with its constructors on one line.  A text stands
between double quotes; quotes, backslashes and the common blanks have short
escapes, and other characters that would not show by themselves are written as
their code point in braces.  Single quotes stand for themselves.
-/

namespace TextScanner

/-- The small hexadecimal digits of a number. -/
def smallHex (number : Nat) : List Char :=
  Nat.toDigits 16 number

/-- A character of an inspected text. -/
def inspectChar (char : Char) : List Char :=
  match char with
  | '"' => ['\\', '"']
  | '\\' => ['\\', '\\']
  | '\n' => ['\\', 'n']
  | '\r' => ['\\', 'r']
  | '\t' => ['\\', 't']
  | '\x00' => ['\\', '0']
  | _ =>
      if Unicode.isPrintable char && !Unicode.isExtending char then [char]
      else ['\\', 'u', '\x7b'] ++ smallHex char.toNat ++ ['\x7d']

/-- A text between double quotes, as inspection shows it. -/
def inspectText (text : String) : String :=
  String.ofList ('"' :: (text.toList.flatMap inspectChar ++ ['"']))

/-- A sequence in brackets. -/
def inspectList (items : List String) : String :=
  "[" ++ ", ".intercalate items ++ "]"

/-- Entries in braces. -/
def inspectBraces (entries : List String) : String :=
  "\x7b" ++ ", ".intercalate entries ++ "\x7d"

/-- A record: its name, and its fields by name. -/
def inspectRecord (name : String) (fields : List (String × String)) : String :=
  name ++ " \x7b " ++ ", ".intercalate (fields.map fun field => field.1 ++ ": " ++ field.2) ++
    " \x7d"

/-- A value that may be absent. -/
def inspectOption (item : Option String) : String :=
  match item with
  | some text => "Some(" ++ text ++ ")"
  | none => "None"

/-- A truth value. -/
def inspectBool (flag : Bool) : String :=
  if flag then "true" else "false"

end TextScanner
