import CollectionSchema.Settings.Plain
import CollectionSchema.Text.Quotation

/-!
Settings from environment variables.

A variable counts when its name begins with the marker, in any letter case. What follows is the name
of the setting in lowercase; two underscores in a row separate the parts of a nested name, and a
nested name makes its first part a group, which is of no use as a setting. A variable with an empty
part in its name is passed over. A value is taken without the blanks around it and is a truth value,
a quoted text with escapes, a list, a group, a decimal, an integer, or else a text.
-/

namespace CollectionSchema

namespace Settings.Environment

/-- What the names of the variables begin with. -/
def marker : String :=
  "TRELLIS_SCHEMA_"

/-- What follows some characters at the beginning of a text, ignoring the case of ASCII letters. -/
def afterMarker? : List Char → List Char → Option (List Char)
  | [], cs => some cs
  | _ :: _, [] => none
  | m :: marker, c :: cs =>
    if m.toLower = c.toLower then afterMarker? marker cs else none

/-- The text with a point for every two underscores. -/
def dotted : List Char → List Char
  | [] => []
  | '_' :: '_' :: rest => '.' :: dotted rest
  | c :: rest => c :: dotted rest

/-- The parts between the points of a text. -/
def parts (cs : List Char) : List (List Char) :=
  cs.foldr
    (fun c parts =>
      match parts with
      | [] => [[]]
      | part :: rest => if c = '.' then [] :: part :: rest else (c :: part) :: rest)
    [[]]

/-- The parts of the name of the setting that a variable gives, if it gives one. -/
def nameParts? (name : String) : Option (List String) := do
  let rest ← afterMarker? marker.toList (Text.trim name.toList)
  let names := (parts (Text.trim (dotted rest))).map fun part =>
    String.ofList (part.map Char.toLower)
  if names.any String.isEmpty then none else some names

/-- The escapes between double quotes. -/
def escapes : Text.Escapes where
  letters := [
    ('"', '"'), ('\\', '\\'), ('b', '\x08'), ('f', '\x0c'), ('n', '\n'), ('r', '\r'), ('t', '\t')]
  codes := [('u', 4), ('U', 8)]

/-- Whether a value looks like a list, a group or a truth value. -/
def isCompound (cs : List Char) : Bool :=
  match cs with
  | '[' :: _ => cs.getLast? == some ']'
  | '{' :: _ => cs.getLast? == some '}'
  | _ => cs == "true".toList || cs == "false".toList

/-- The setting that the value of a variable gives. A quoted text takes up all of the value, apart
from ASCII blanks around it; a value with quotes that is no such text has them as a part of it. A
value with a point that is no decimal is a text, and so are both of no use where an integer is
wanted. -/
def value (text : String) : Setting :=
  match Text.trimAll Text.isAsciiBlank text.toList with
  | '"' :: rest =>
    match Text.Quotation.ofDouble? escapes rest with
    | some (.closed inner []) => .text (String.ofList inner)
    | _ => .text text
  | cs =>
    if isCompound cs then .other
    else
      let cs := Text.trim cs
      match Plain.signed? (Plain.natural? 10) cs with
      | some n => .integer n
      | none => .text (String.ofList cs)

/-- The setting of a variable, under the first part of its name. -/
def setting? (name text : String) : Option (String × Setting) := do
  match ← nameParts? name with
  | [part] => return (part, value text)
  | part :: _ => return (part, .other)
  | [] => none

end Settings.Environment

namespace Settings

/-- The settings of some variables, in the order of their names. -/
def ofEnvironment (environment : List (String × String)) : Settings :=
  let sorted := environment.mergeSort fun a b => decide (a.1 ≤ b.1)
  overlay [] (sorted.filterMap fun (name, value) => Environment.setting? name value)

end Settings

/-- The defaults that a settings file, if there is one, and the environment give. The environment
has the last word. -/
def SynthesisConfig.load (file : Option Settings) (environment : Settings) :
    Option SynthesisConfig :=
  ((file.getD []).overlay environment).toConfig?

end CollectionSchema
