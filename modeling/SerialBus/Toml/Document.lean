import SerialBus.Toml.Value

/-! The statements of a TOML document, and the table that they build one after the other. -/

namespace SerialBus.Toml

/-- The entries with another value for the key, which `f` makes of the one it had. -/
def update (f : Option Toml → Option Toml) (key : String) : Entries → Option Entries
  | [] => do return [(key, ← f none)]
  | (k, v) :: rest =>
    if k = key then do return (k, ← f (some v)) :: rest
    else do return (k, v) :: (← update f key rest)

/--
Changes the entries of one table, or of a new one where there is none. A dotted key does not enter
a table with a header, and nothing enters a table between braces or a value that is no table.
-/
def enter (dotted : Bool) (change : Origin → Entries → Option Entries) :
    Option Toml → Option Toml
  | none =>
    let origin := if dotted then Origin.dotted else .parent
    (change origin []).map (.table origin)
  | some (.table origin entries) =>
    if origin = .inline ∨ (dotted ∧ origin = .header) then none
    else (change origin entries).map (.table origin)
  | some (.tables earlier last) => (change .header last).map (.tables earlier)
  | some _ => none

/-- Changes the entries of the table that a path leads to. -/
def descend (dotted : Bool) (change : Origin → Entries → Option Entries) :
    List String → Origin → Entries → Option Entries
  | [], origin, entries => change origin entries
  | key :: path, _, entries => update (enter dotted (descend dotted change path)) key entries

/-- Gives a new key its value; it may add to a table on its path only if dotted keys made that. -/
def assign (key : Key) (value : Toml) (entries : Entries) : Option Entries :=
  let add (origin : Origin) : Entries → Option Entries :=
    if key.path = [] ∨ origin = .dotted then
      update (fun old => if old.isNone then some value else none) key.name
    else fun _ => none
  descend true add key.path .header entries

def assignAll (pairs : List (Key × Toml)) (entries : Entries) : Option Entries :=
  pairs.foldlM (fun entries (key, value) => assign key value entries) entries

/-- The table between braces. -/
def inlineTable (pairs : List (Key × Toml)) : Option Toml :=
  (assignAll pairs []).map (.table .inline)

/-- What a header opens: the table of its name, or one more among the tables of its name. -/
inductive Opening
  | table
  | element
  deriving DecidableEq, Repr, Inhabited

inductive Statement
  | entry (key : Key) (value : Toml)
  | header (opening : Opening) (key : Key)
  deriving Inhabited

/-- A header with the entries below it. -/
structure Section where
  opening : Opening
  key : Key
  entries : List (Key × Toml)
  deriving Inhabited

/-- The entries in front of the first header, and the sections that follow. -/
def sections : List Statement → List (Key × Toml) × List Section
  | [] => ([], [])
  | .entry key value :: rest =>
    let (entries, later) := sections rest
    ((key, value) :: entries, later)
  | .header opening key :: rest =>
    let (entries, later) := sections rest
    ([], { opening, key, entries } :: later)

/-- The value of a header's name with the section in it; a table can be opened only once. -/
def Section.put (s : Section) : Option Toml → Option Toml
  | none =>
    match s.opening with
    | .table => (assignAll s.entries []).map (.table .header)
    | .element => (assignAll s.entries []).map (.tables [])
  | some (.table .parent entries) =>
    match s.opening with
    | .table => (assignAll s.entries entries).map (.table .header)
    | .element => none
  | some (.tables earlier last) =>
    match s.opening with
    | .table => none
    | .element => (assignAll s.entries []).map (.tables (earlier ++ [last]))
  | some _ => none

def Section.addTo (document : Entries) (s : Section) : Option Entries :=
  descend false (fun _ => update s.put s.key.name) s.key.path .header document

/-- The document that the statements build; none if one of them defines again what is defined. -/
def ofStatements (statements : List Statement) : Option Entries := do
  let (entries, later) := sections statements
  later.foldlM Section.addTo (← assignAll entries [])

end SerialBus.Toml
