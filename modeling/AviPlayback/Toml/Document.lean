import AviPlayback.Toml.Moment
import AviPlayback.Toml.Number
import AviPlayback.Toml.Table
import AviPlayback.Toml.Text

/-!
TOML documents. A document is a run of lines: assignments belong to the table whose header came
last. `Entries.ofText?` reads a whole document.
-/
set_option autoImplicit false

namespace AviPlayback.Toml

def scalar : Scan Value :=
  .orElse (do return .text (String.ofList (← string)))
    (.orElse (do Scan.exactly "true".toList; return .boolean true)
    (.orElse (do Scan.exactly "false".toList; return .boolean false)
    (.orElse (do moment; return .moment) number)))

/-- An array, over as many lines as it likes. -/
def array (item : Scan Value) : Scan Value := do
  Scan.exactly ['[']
  gap
  let items ← Scan.separated (do let v ← item; gap; return v) (do Scan.exactly [',']; gap)
  if !items.isEmpty then
    let _ ← Scan.optional (.exactly [','])
  gap
  Scan.exactly [']']
  return .array false items

def assignment (value : Scan Value) : Scan Assignment := do
  let parts ← key
  Scan.exactly ['=']
  blanks
  let v ← value
  match parts.reverse with
  | last :: path => return ⟨path.reverse, last, v⟩
  | [] => Scan.refuse

def bracedTable (value : Scan Value) : Scan Value := do
  Scan.exactly ['\x7b']
  blanks
  let assignments ← Scan.separated (do let a ← assignment value; blanks; return a)
    (.exactly [','])
  Scan.exactly ['\x7d']
  match Entries.assignAll [] assignments with
  | some entries => return .table .braces entries
  | none => Scan.refuse

/-- A value with up to `depth` levels of arrays and tables. -/
def value : Nat → Scan Value
  | 0 => scalar
  | depth + 1 =>
    .orElse scalar (.orElse (array (value depth)) (bracedTable (value depth)))

/-- One line of a document. -/
inductive Line
  | empty
  | assigned (assignment : Assignment)
  | table (path : List String)
  | element (path : List String)

def line : Scan Line := do
  Scan.require !(← get).isEmpty
  blanks
  let line ← content
  lineEnd
  return line
where
  /-- What a line says. -/
  content : Scan Line := do
    match ← Scan.peek? with
    | none | some '#' | some '\n' | some '\r' => return .empty
    | some '[' => .orElse element table
    | some _ => return .assigned (← assignment (value (maxDepth - 1)))
  /-- The header of a table in an array. -/
  element : Scan Line := do
    Scan.exactly ['[', '[']
    let path ← key
    Scan.exactly [']', ']']
    return .element path
  /-- The header of a table. -/
  table : Scan Line := do
    Scan.exactly ['[']
    let path ← key
    Scan.exactly [']']
    return .table path

/-- A header with the assignments up to the next. -/
structure Section where
  header : Line
  assignments : List Assignment

def sections : List Line → List Assignment × List Section
  | [] => ([], [])
  | .empty :: lines => sections lines
  | .assigned a :: lines =>
    let (assignments, rest) := sections lines
    (a :: assignments, rest)
  | header :: lines =>
    let (assignments, rest) := sections lines
    ([], ⟨header, assignments⟩ :: rest)

def Entries.addSection (entries : Entries) (s : Section) : Option Entries :=
  match s.header with
  | .table path => path.getLast?.bind fun key =>
    entries.openTable path.dropLast key s.assignments
  | .element path => path.getLast?.bind fun key =>
    entries.openElement path.dropLast key s.assignments
  | _ => entries.assignAll s.assignments

def Entries.ofLines? (lines : List Line) : Option Entries := do
  let (assignments, sections) := sections lines
  sections.foldlM addSection (← assignAll [] assignments)

/-- The entries of a document. A byte order mark may come first. -/
def Entries.ofText? (text : String) : Option Entries := do
  let body := match text.toList with
    | '\ufeff' :: rest => rest
    | all => all
  let lines ← Scan.whole? (.many line) body
  ofLines? lines

end AviPlayback.Toml
