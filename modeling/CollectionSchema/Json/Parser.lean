import CollectionSchema.Json.Token

/-!
JSON values from their tokens.

The parser goes through the tokens once, with a stack of the arrays and objects that are open.
A key that comes twice keeps its first place and its last value. More than `Parser.maxDepth` open
arrays and objects are refused.
-/

namespace CollectionSchema

/-- An array or object that is open, with what it holds so far. Items are held last first. -/
inductive Parser.Frame where
  | array (items : List Json)
  | object (members : Members)
  | member (members : Members) (key : String)

/-- What may come next. -/
inductive Parser.Expectation where
  /-- A value. -/
  | value
  /-- A value, or the end of an array that was just opened. -/
  | valueOrClose
  /-- A key. -/
  | key
  /-- A key, or the end of an object that was just opened. -/
  | keyOrClose
  /-- The colon after a key. -/
  | colon
  /-- A comma or the end of what is open. -/
  | separator
  /-- Nothing: the value is complete. -/
  | nothing (value : Json)

/-- A parser's state: what is open, innermost first, and what may come next. -/
structure Parser where
  stack : List Parser.Frame
  expected : Parser.Expectation

namespace Parser

/-- The greatest number of arrays and objects that may be open at once. -/
def maxDepth : Nat := 127

/-- The parser before the first token. -/
def start : Parser :=
  ⟨[], .value⟩

/-- Opens an array or an object. -/
def enter (stack : List Frame) (frame : Frame) (expected : Expectation) : Option Parser :=
  if stack.length < maxDepth then some ⟨frame :: stack, expected⟩ else none

/-- Puts a complete value where it belongs. -/
def place (stack : List Frame) (value : Json) : Option Parser :=
  match stack with
  | [] => some ⟨[], .nothing value⟩
  | .array items :: rest => some ⟨.array (value :: items) :: rest, .separator⟩
  | .member members key :: rest => some ⟨.object (Table.set members key value) :: rest, .separator⟩
  | .object _ :: _ => none

/-- Ends the innermost array or object. -/
def close (stack : List Frame) (token : Token) : Option Parser :=
  match stack, token with
  | .array items :: rest, .closeArray => place rest (.array items.reverse)
  | .object members :: rest, .closeObject => place rest (.object members)
  | _, _ => none

/-- The start of a value. -/
def value (stack : List Frame) : Token → Option Parser
  | .scalar j => place stack j
  | .text s => place stack (.string s)
  | .openArray => enter stack (.array []) .valueOrClose
  | .openObject => enter stack (.object []) .keyOrClose
  | _ => none

/-- A key. -/
def key (stack : List Frame) : Token → Option Parser
  | .text s =>
    match stack with
    | .object members :: rest => some ⟨.member members s :: rest, .colon⟩
    | _ => none
  | _ => none

/-- What follows a complete value inside an array or an object. -/
def separator (stack : List Frame) (token : Token) : Option Parser :=
  match stack, token with
  | .array _ :: _, .comma => some ⟨stack, .value⟩
  | .object _ :: _, .comma => some ⟨stack, .key⟩
  | _, _ => close stack token

/-- One token. -/
def step (p : Parser) (token : Token) : Option Parser :=
  match p.expected with
  | .value => value p.stack token
  | .valueOrClose => if token == .closeArray then close p.stack token else value p.stack token
  | .key => key p.stack token
  | .keyOrClose => if token == .closeObject then close p.stack token else key p.stack token
  | .colon => if token == .colon then some ⟨p.stack, .value⟩ else none
  | .separator => separator p.stack token
  | .nothing _ => none

/-- The value when the tokens end here. -/
def finish (p : Parser) : Option Json :=
  match p.expected with
  | .nothing j => some j
  | _ => none

end Parser

namespace Json

/-- The value of a list of tokens. -/
def ofTokens? (tokens : List Token) : Option Json :=
  (tokens.foldlM Parser.step Parser.start).bind Parser.finish

/-- The value of a text. -/
def parse? (s : String) : Option Json :=
  (Token.scan s).bind ofTokens?

end Json

end CollectionSchema
