import TextScanner.Stored.Form
import TextScanner.Stored.Reader
import TextScanner.Stored.Writer

/-!
# A library of stored forms

The writers and readers of this folder, put together as one library (`compact`) that
does what is documented.
-/

namespace TextScanner.Stored

open Json (writeArray writeMember writeObject)

section Parts

variable {α : Type}

/-- A thing that may be missing is null where it is. -/
def optionalForm (content : Form α) : Form (Option α) where
  write
    | none => "null".toList
    | some stored => content.write stored
  read? depth
    | .null => some none
    | document => (content.read? depth document).map some

def sequenceForm (item : Form α) : Form (List α) where
  write items := writeArray (items.map item.write)
  read?
    | depth + 1, .array documents => documents.mapM (item.read? depth)
    | _, _ => none

/-- The name of a member and what it stores. -/
def readMember? (entry : Form α) (depth : Nat) (member : Option String × Json) :
    Option (String × α) := do
  let name ← member.1
  let stored ← entry.read? depth member.2
  return (name, stored)

def tableForm (entry : Form α) : Form (Table α) where
  write table := writeObject (table.toList.map fun stored =>
    writeMember (writeText stored.1) (entry.write stored.2))
  read?
    | depth + 1, .object members => (members.mapM (readMember? entry depth)).map Table.ofList
    | _, _ => none

/-- Arrays and objects take a level. -/
def onLevel (read? : Json → Option α) : (depth : Nat) → Json → Option α
  | 0, .array _ | 0, .object _ => none
  | _, document => read? document

end Parts

def compact : Library where
  limit := depthLimit
  readText? form text := (Json.read? text).bind (form.read? depthLimit)
  flag := ⟨fun flag => (if flag then "true" else "false").toList, fun _ => boolean?⟩
  word := ⟨Json.writeNat, fun _ => word?⟩
  number := ⟨writeNumber, fun _ => float?⟩
  text := ⟨writeText, fun _ => text?⟩
  optional := optionalForm
  sequence := sequenceForm
  table := tableForm
  value := ⟨writeValue, value?⟩
  kind := ⟨writeKind, onLevel kind?⟩
  cursor := ⟨writeCursor, onLevel cursor?⟩
  options := ⟨writeOptions, onLevel options?⟩

end TextScanner.Stored
