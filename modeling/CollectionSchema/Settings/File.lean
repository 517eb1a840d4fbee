import CollectionSchema.Settings.Line
import CollectionSchema.Settings.Plain

/-!
The settings file: a flat mapping of names to single values.

All names stand at one column. A value follows its name's colon, or begins on a later line that is
indented deeper. A plain value goes on over the lines indented deeper than the names, a quoted one
up to its closing quote. Lines of a value are joined with a space, or with a line feed for each
blank line between them. Blank lines and comments say nothing. A line of three hyphens may come
before the mapping and a line of three points after it. Lists, groups and values with marks of
their own are no settings, and a file that holds them is refused.

`Reader.step?` takes in one line, and `Settings.ofFile?` folds it over the lines of a file.
-/

namespace CollectionSchema

namespace Settings.File

/-! ### Values over several lines -/

/-- A value that the next line may go on with: its text so far, whether the next line follows
without a gap, and the number of blank lines since. -/
structure Spread where
  text : List Char
  joined : Bool
  blankLines : Nat
deriving DecidableEq, Repr

/-- The value with one more blank line. -/
def Spread.addBlank (s : Spread) : Spread :=
  { s with blankLines := s.blankLines + 1 }

/-- The text that the next line goes on with. -/
def Spread.resume (s : Spread) : List Char :=
  if 0 < s.blankLines then s.text ++ List.replicate s.blankLines '\n'
  else if s.joined then s.text
  else s.text ++ [' ']

/-- The quotes around a value. -/
inductive Quotes where
  | single
  | double
deriving DecidableEq, Repr

/-- What follows an opening quote, or goes on with a quoted text. -/
def Quotes.read? (quotes : Quotes) (cs : List Char) : Option Text.Quotation :=
  match quotes with
  | .single => some (Text.Quotation.ofSingle cs)
  | .double => Text.Quotation.ofDouble? Line.escapes cs

/-! ### Reading -/

/-- What the end of a line is in the middle of. The column is that of the names. -/
inductive Stage where
  /-- Nothing but blank lines and comments so far. -/
  | before
  /-- Behind the line that opens the mapping. -/
  | opened
  /-- Behind a whole setting. -/
  | settled (column : Nat)
  /-- Behind a name without a value so far. -/
  | named (column : Nat) (name : String)
  /-- In a plain value. -/
  | plain (column : Nat) (name : String) (value : Spread)
  /-- In a quoted value. -/
  | quoted (column : Nat) (name : String) (quotes : Quotes) (value : Spread)
  /-- Behind the line that ends the mapping. -/
  | ended
deriving DecidableEq, Repr

/-- The settings so far, last first, and what comes next. -/
structure Reader where
  settings : List (String × Setting)
  stage : Stage
deriving Repr

namespace Reader

/-- The reader before the first line. -/
def start : Reader :=
  ⟨[], .before⟩

/-- The reader at another stage. -/
def goto (r : Reader) (stage : Stage) : Reader :=
  ⟨r.settings, stage⟩

/-- The reader behind a whole setting. -/
def settle (r : Reader) (column : Nat) (name : String) (value : Setting) : Reader :=
  ⟨(name, value) :: r.settings, .settled column⟩

/-- Takes in a part of a plain value behind what came before it. A comment ends the value. -/
def takePlain (r : Reader) (column : Nat) (name : String) (text : List Char)
    (part : List Char × Bool) : Reader :=
  let text := text ++ part.1
  if part.2 then r.settle column name (Plain.toSetting text)
  else r.goto (.plain column name ⟨text, false, 0⟩)

/-- Takes in a part of a quoted value behind what came before it. Nothing but a comment may follow
the closing quote. -/
def takeQuoted? (r : Reader) (column : Nat) (name : String) (quotes : Quotes) (text : List Char) :
    Text.Quotation → Option Reader
  | .closed part rest =>
    if Line.isSpent rest then some (r.settle column name (.text (String.ofList (text ++ part))))
    else none
  | .unclosed part joined => some (r.goto (.quoted column name quotes ⟨text ++ part, joined, 0⟩))

/-- Takes in the beginning of a value. -/
def takeValue? (r : Reader) (column : Nat) (name : String) : List Char → Option Reader
  | '"' :: rest => (Quotes.double.read? rest).bind (r.takeQuoted? column name .double [])
  | '\'' :: rest => (Quotes.single.read? rest).bind (r.takeQuoted? column name .single [])
  | cs => if Line.startsPlain cs then (Line.plain? cs).map (r.takePlain column name []) else none

/-- Takes in a name and what follows it on its line. -/
def takeName? (r : Reader) (column : Nat) (cs : List Char) : Option Reader := do
  let (name, rest) ← Line.name? cs
  if Line.isSpent rest then some (r.goto (.named column name))
  else r.takeValue? column name (rest.dropWhile Text.isGap)

/-- Takes in the end of the mapping, behind which at most a comment may stand. -/
def takeEnd? (r : Reader) (cs : List Char) : Option Reader := do
  let rest ← Line.afterEnd? cs
  if Line.isSpent rest then some (r.goto .ended) else none

/-- Takes in the opening of the mapping, behind which at most a comment may stand. -/
def takeOpening? (r : Reader) (cs : List Char) : Option Reader := do
  let rest ← Line.afterOpening? cs
  if Line.isSpent rest then some (r.goto .opened) else none

/-- Takes in what follows a whole setting: the next name, or the end of the mapping. -/
def takeNext? (r : Reader) (column indent : Nat) (cs : List Char) : Option Reader :=
  if indent = 0 ∧ Line.isMarker cs then r.takeEnd? cs
  else if indent = column then r.takeName? column cs
  else none

/-- Takes in the indent and the text of a line, if it says something. -/
def takeContent? (r : Reader) (line : List Char) (take : Nat → List Char → Option Reader) :
    Option Reader :=
  match Line.content? line with
  | none => none
  | some none => some r
  | some (some (indent, cs)) => take indent cs

/-- Takes in the line behind a part of a plain value. The value ends at a comment and at a line that
is not indented deeper than the names, and no tab may stand that far left. -/
def resumePlain? (r : Reader) (column : Nat) (name : String) (value : Spread) (line : List Char) :
    Option Reader :=
  let gap := line.takeWhile Text.isGap
  let whole := r.settle column name (Plain.toSetting value.text)
  if (gap.take (column + 1)).contains '\t' then none
  else
    match line.dropWhile Text.isGap with
    | [] => some (r.goto (.plain column name value.addBlank))
    | '#' :: _ => some whole
    | cs =>
      if gap.length ≤ column then whole.takeContent? line (whole.takeNext? column)
      else (Line.plain? cs).map (r.takePlain column name value.resume)

/-- Takes in the line behind a part of a quoted value. -/
def resumeQuoted? (r : Reader) (column : Nat) (name : String) (quotes : Quotes) (value : Spread)
    (line : List Char) : Option Reader :=
  if Line.isMarker line then none
  else
    match line.dropWhile Text.isGap with
    | [] => some (r.goto (.quoted column name quotes value.addBlank))
    | cs => (quotes.read? cs).bind (r.takeQuoted? column name quotes value.resume)

/-- Takes in a line; `none` if it has no place here. -/
def step? (r : Reader) (line : List Char) : Option Reader :=
  match r.stage with
  | .before =>
    r.takeContent? line fun indent cs =>
      if indent = 0 ∧ Line.isMarker cs then r.takeOpening? cs else r.takeName? indent cs
  | .opened =>
    r.takeContent? line fun indent cs =>
      if indent = 0 ∧ Line.isMarker cs then r.takeEnd? cs else r.takeName? indent cs
  | .settled column => r.takeContent? line (r.takeNext? column)
  | .named column name =>
    r.takeContent? line fun indent cs =>
      if column < indent then r.takeValue? column name cs
      else (r.settle column name .other).takeNext? column indent cs
  | .plain column name value => r.resumePlain? column name value line
  | .quoted column name quotes value => r.resumeQuoted? column name quotes value line
  | .ended => r.takeContent? line fun indent cs => if indent = 0 then r.takeEnd? cs else none

/-- The settings when the file ends here. -/
def finish? (r : Reader) : Option (List (String × Setting)) :=
  match r.stage with
  | .named _ name => some ((name, .other) :: r.settings).reverse
  | .plain _ name value => some ((name, Plain.toSetting value.text) :: r.settings).reverse
  | .quoted _ _ _ _ => none
  | _ => some r.settings.reverse

end Reader

end Settings.File

namespace Settings

/-- The settings of a file; `none` if it is not a flat mapping. -/
def ofFile? (content : String) : Option Settings := do
  let cs := content.toList
  if cs.all Line.isAllowed then
    let reader ← (Line.split cs).foldlM File.Reader.step? File.Reader.start
    let settings ← reader.finish?
    return overlay [] settings
  else none

end Settings

end CollectionSchema
