/-!
# Comma separated values

A table in text: rows of fields that are separated by commas. A row ends with a line end of any
kind, or with the text, and empty lines are no rows. A field that begins with a quote goes on to
the next single quote, commas and line ends included, and two quotes in a row stand for one; what
follows the closing quote before the next comma is taken as it is. Elsewhere a quote is a
character like any other. A byte order mark at the beginning is no part of the text.
-/

namespace TransitDwell

namespace Csv

/-- Where in a table reading stands. -/
inductive Mode where
  /-- Before a row. -/
  | rowStart
  /-- Before a field of a row that has begun. -/
  | fieldStart
  /-- In a field, outside quotes. -/
  | bare
  /-- In a field, within quotes. -/
  | quoted
  /-- Behind a quote within quotes. -/
  | quoteSeen

/-- What has been read: rows, fields of the present row and characters of the present field, each
with the last one first. -/
structure Progress where
  /-- The rows. -/
  rows : List (List String)
  /-- The fields of the present row. -/
  fields : List String
  /-- The characters of the present field. -/
  chars : List Char

namespace Progress

/-- Adds a character to the present field. -/
def add (p : Progress) (c : Char) : Progress := { p with chars := c :: p.chars }

/-- Ends the present field. -/
def endField (p : Progress) : Progress :=
  { p with fields := String.ofList p.chars.reverse :: p.fields, chars := [] }

/-- Ends the present field and the present row. -/
def endRow (p : Progress) : Progress :=
  let p := p.endField
  { p with rows := p.fields.reverse :: p.rows, fields := [] }

end Progress

/-- Whether a character ends a row outside quotes. -/
def isLineEnd (c : Char) : Bool := c = '\n' || c = '\r'

/-- What a character does at the beginning of a field or in it, outside quotes. -/
def outside (p : Progress) (c : Char) : Mode × Progress :=
  if c = ',' then (.fieldStart, p.endField)
  else if isLineEnd c then (.rowStart, p.endRow)
  else (.bare, p.add c)

/-- What a character does. -/
def step (mode : Mode) (p : Progress) (c : Char) : Mode × Progress :=
  match mode with
  | .rowStart =>
    if isLineEnd c then (.rowStart, p) else if c = '"' then (.quoted, p) else outside p c
  | .fieldStart => if c = '"' then (.quoted, p) else outside p c
  | .bare => outside p c
  | .quoted => if c = '"' then (.quoteSeen, p) else (.quoted, p.add c)
  | .quoteSeen => if c = '"' then (.quoted, p.add c) else outside p c

/-- What the end of the text does: it ends a row that has begun. -/
def finish : Mode → Progress → Progress
  | .rowStart, p => p
  | _, p => p.endRow

/-- The rows of a table. -/
def rows (text : String) : List (List String) :=
  let cs := match text.toList with
    | '\ufeff' :: cs => cs
    | cs => cs
  let (mode, p) := cs.foldl (fun (mode, p) c => step mode p c) (.rowStart, ⟨[], [], []⟩)
  (finish mode p).rows.reverse

/-- A row with the names of its columns. -/
abbrev NamedRow := List (String × String)

/-- The rows below the header that have as many fields as it, with the names in the header. -/
def namedRows (text : String) : List NamedRow :=
  match rows text with
  | [] => []
  | header :: body => (body.filter fun row => row.length = header.length).map header.zip

end Csv

end TransitDwell
