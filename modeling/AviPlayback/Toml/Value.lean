/-!
The values of TOML. A table remembers how it was opened, since that decides what may be added to it.
-/
set_option autoImplicit false

namespace AviPlayback.Toml

/-- How a table was opened. -/
inductive Origin
  /-- Between braces, which complete it. -/
  | braces
  /-- By its own header. -/
  | header
  /-- On the way to a table named by a header. -/
  | way
  /-- On the way to the last part of a dotted key. -/
  | dots
  deriving DecidableEq, Repr

/-- A value of TOML. The text of a date or time is not kept. -/
inductive Value
  | text (value : String)
  | integer (value : Int)
  | float (value : Float)
  | boolean (value : Bool)
  | moment
  /-- An array; one whose tables were opened by headers can grow. -/
  | array (grows : Bool) (items : List Value)
  | table (origin : Origin) (entries : List (String × Value))

abbrev Entries : Type := List (String × Value)

namespace Entries

def get? (entries : Entries) (key : String) : Option Value := List.lookup key entries

/-- Puts a value in the place of a key's old one, or behind the others. -/
def put (entries : Entries) (key : String) (value : Value) : Entries :=
  if (entries.get? key).isSome then
    entries.map fun (k, v) => (k, if k = key then value else v)
  else entries ++ [(key, value)]

@[simp] theorem get?_nil (key : String) : get? [] key = none := rfl

theorem get?_cons (k : String) (v : Value) (entries : Entries) (key : String) :
    get? ((k, v) :: entries) key = if key = k then some v else get? entries key := by
  by_cases h : key = k
  · simp [get?, h]
  · simp [get?, List.lookup_cons, h, beq_eq_false_iff_ne.2 h]

theorem get?_append (a b : Entries) (key : String) :
    get? (a ++ b) key = (get? a key).or (get? b key) := by
  induction a with
  | nil => simp
  | cons e a ih =>
    obtain ⟨k, v⟩ := e
    simp only [List.cons_append, get?_cons, ih]
    split <;> simp

theorem get?_map_replace (entries : Entries) (key : String) (value : Value) :
    get? (entries.map fun (k, v) => (k, if k = key then value else v)) key =
      (entries.get? key).map fun _ => value := by
  induction entries with
  | nil => rfl
  | cons e entries ih =>
    obtain ⟨k, v⟩ := e
    simp only [List.map_cons, get?_cons, ih]
    by_cases h : key = k
    · simp [h]
    · simp [h]

@[simp] theorem get?_put (entries : Entries) (key : String) (value : Value) :
    (entries.put key value).get? key = some value := by
  unfold put
  split
  · next h =>
    rw [get?_map_replace]
    obtain ⟨v, hv⟩ := Option.isSome_iff_exists.1 h
    simp [hv]
  · next h => simp_all [get?_append, get?_cons]

end Entries

end AviPlayback.Toml
