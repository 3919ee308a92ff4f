import AviPlayback.Toml.Value

/-!
Building tables. No key may be given twice: a table is opened by one header or by dotted keys, a
table between braces is complete, and only an array opened by headers grows. Names on the way to a
key or a header make the tables that are missing, and lead into the last table of a growing array.
-/
set_option autoImplicit false

namespace AviPlayback.Toml

/-- One assignment: the parts of its key before the last, the last part, and the value. -/
structure Assignment where
  path : List String
  key : String
  value : Value

namespace Entries

/-- The table that a growing array ends with, and the tables before it. -/
def lastTable? (items : List Value) : Option (List Value × Origin × Entries) :=
  match items.reverse with
  | .table origin entries :: before => some (before.reverse, origin, entries)
  | _ => none

/-- Adds a value under the parts of a dotted key. The last table on the way has to be one that
dotted keys made; `fits` tells it of the table at hand. -/
def assign (key : String) (value : Value) : List String → Bool → Entries → Option Entries
  | [], fits, entries =>
    if fits && (entries.get? key).isNone then some (entries.put key value) else none
  | name :: path, _, entries =>
    match entries.get? name with
    | none => (assign key value path true []).map fun inner => entries.put name (.table .dots inner)
    | some (.table .dots inner) =>
      (assign key value path true inner).map fun inner => entries.put name (.table .dots inner)
    | some (.table .way inner) =>
      (assign key value path false inner).map fun inner => entries.put name (.table .way inner)
    | some (.array true items) => do
      let (before, origin, inner) ← lastTable? items
      let inner ← assign key value path false inner
      return entries.put name (.array true (before ++ [.table origin inner]))
    | some _ => none

def assignAll (entries : Entries) (assignments : List Assignment) : Option Entries :=
  assignments.foldlM (fun entries a => assign a.key a.value a.path true entries) entries

/-- Changes the table that a path of names leads to. -/
def within (change : Entries → Option Entries) : List String → Entries → Option Entries
  | [], entries => change entries
  | name :: path, entries =>
    match entries.get? name with
    | none => (within change path []).map fun inner => entries.put name (.table .way inner)
    | some (.table .braces _) => none
    | some (.table origin inner) =>
      (within change path inner).map fun inner => entries.put name (.table origin inner)
    | some (.array true items) => do
      let (before, origin, inner) ← lastTable? items
      let inner ← within change path inner
      return entries.put name (.array true (before ++ [.table origin inner]))
    | some _ => none

/-- Opens a table by its header and fills it. A table that only other headers have passed through
can still be opened. -/
def openTable (path : List String) (key : String) (assignments : List Assignment)
    (entries : Entries) : Option Entries :=
  within (fun parent => do
    let old ← match parent.get? key with
      | none => some []
      | some (.table .way inner) => some inner
      | some _ => none
    return parent.put key (.table .header (← assignAll old assignments))) path entries

/-- Adds a table to a growing array by its header and fills it. -/
def openElement (path : List String) (key : String) (assignments : List Assignment)
    (entries : Entries) : Option Entries :=
  within (fun parent => do
    let old ← match parent.get? key with
      | none => some []
      | some (.array true items) => some items
      | some _ => none
    let inner ← assignAll [] assignments
    return parent.put key (.array true (old ++ [.table .header inner]))) path entries

end Entries

end AviPlayback.Toml
