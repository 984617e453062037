import ContentCoding.Fault
import ContentCoding.Text.Quoted

/-!
# Registries

A registry maps coding names to factories. Names are case-sensitive and any
text is a name, the empty one included. The entries are kept in increasing
order of their names, so the listing needs no sorting and two registries with
the same content are equal.

Registries are plain values: editing one leaves every other as it was.
-/

namespace ContentCoding

universe u

/-- A finite map from coding names, listed in increasing order of the names. -/
structure Registry (F : Type u) : Type u where
  /-- The names with what they stand for. -/
  entries : List (String × F)

namespace Registry

variable {F : Type u}

/-- The registry without entries. -/
def empty : Registry F := ⟨[]⟩

/-- What a name stands for. -/
def get? (registry : Registry F) (name : String) : Option F :=
  (registry.entries.find? fun entry => entry.1 == name).map Prod.snd

/-- Whether a name is registered. -/
def contains (registry : Registry F) (name : String) : Bool :=
  registry.entries.any fun entry => entry.1 == name

/-- Look up a name for the layer at an index. An unknown name is an error
attributed to that layer. -/
def lookup (registry : Registry F) (index : Nat) (name : String) : Except PipelineError F :=
  match registry.get? name with
  | some factory => .ok factory
  | none => .error (.unsupported index name)

/-- Put an entry in its place, and give what its name stood for. -/
def insertEntry (name : String) (factory : F) :
    List (String × F) → Option F × List (String × F)
  | [] => (none, [(name, factory)])
  | entry :: rest =>
    if entry.1 = name then (some entry.2, (name, factory) :: rest)
    else if name < entry.1 then (none, (name, factory) :: entry :: rest)
    else
      let (previous, rest) := insertEntry name factory rest
      (previous, entry :: rest)

/-- Enter a name or replace what it stands for. The result holds the previous factory. -/
def register (registry : Registry F) (name : String) (factory : F) : Option F × Registry F :=
  let (previous, entries) := insertEntry name factory registry.entries
  (previous, ⟨entries⟩)

/-- Enter a name or replace what it stands for. -/
def insert (registry : Registry F) (name : String) (factory : F) : Registry F :=
  (registry.register name factory).2

/-- Take a name out. The result holds the factory it stood for. -/
def remove (registry : Registry F) (name : String) : Option F × Registry F :=
  (registry.get? name, ⟨registry.entries.filter fun entry => entry.1 != name⟩)

/-- The registry with the given entries, later ones replacing earlier ones. -/
def ofList (entries : List (String × F)) : Registry F :=
  entries.foldl (fun registry entry => registry.insert entry.1 entry.2) empty

/-- The registered names in increasing order. -/
def names (registry : Registry F) : List String := registry.entries.map Prod.fst

/-- The number of entries. -/
def size (registry : Registry F) : Nat := registry.entries.length

/-- Whether there is no entry. -/
def isEmpty (registry : Registry F) : Bool := registry.entries.isEmpty

/-- A one-line description that lists the names, quoted. -/
def describe (title : String) (registry : Registry F) : String :=
  title ++ " \x7b names: [" ++ ", ".intercalate (registry.names.map Text.Quoted.quote) ++ "] \x7d"

end Registry

end ContentCoding
