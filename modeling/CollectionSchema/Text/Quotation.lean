import CollectionSchema.Text.Blank
import CollectionSchema.Text.Escape

/-!
Texts between quotes, as they are read from a line.

Between single quotes two quotes in a row are one quote and nothing else is special. Between double
quotes a backslash begins an escape. A quotation may be left open at the end of a line; the spaces
and tabs before the end are no part of it then, and a backslash right at the end says that the next
line is to follow without a gap.
-/

namespace CollectionSchema.Text

/-- A quoted text as far as a line goes. -/
inductive Quotation where
  /-- The text, and what follows the quote that ends it. -/
  | closed (text rest : List Char)
  /-- The text so far, and whether the next line follows without a gap. -/
  | unclosed (text : List Char) (joined : Bool)
deriving DecidableEq, Repr

namespace Quotation

/-- A quotation with one more character at its beginning. -/
def cons (c : Char) : Quotation → Quotation
  | closed text rest => closed (c :: text) rest
  | unclosed text joined => unclosed (c :: text) joined

/-- Whether a character and the rest of its line are the gap at the end of it. -/
def isEndGap (c : Char) (rest : List Char) : Bool :=
  isGap c && rest.all isGap

/-- What follows a single quote. -/
def ofSingle : List Char → Quotation
  | [] => unclosed [] false
  | '\'' :: '\'' :: rest => (ofSingle rest).cons '\''
  | '\'' :: rest => closed [] rest
  | c :: rest => if isEndGap c rest then unclosed [] false else (ofSingle rest).cons c

/-- What follows a double quote; `none` if it holds an escape that the format has not. -/
def ofDouble? (escapes : Escapes) : List Char → Option Quotation
  | [] => some (unclosed [] false)
  | '"' :: rest => some (closed [] rest)
  | ['\\'] => some (unclosed [] true)
  | '\\' :: rest =>
    match h : escapes.read? rest with
    | none => none
    | some (c, left) =>
      have : left.length < rest.length := Escapes.length_of_read? h
      (ofDouble? escapes left).map (cons c)
  | c :: rest =>
    if isEndGap c rest then some (unclosed [] false) else (ofDouble? escapes rest).map (cons c)
termination_by cs => cs.length

end Quotation

end CollectionSchema.Text
