import ApiBlueprint.Toml.Value

/-!
Growing the tables of a TOML document. A table that has a header or braces of its own takes no
entries from elsewhere, and no key is given twice.
-/

namespace ApiBlueprint.TomlEntries

def find? (entries : TomlEntries) (name : Text) : Option Toml :=
  (List.find? (fun entry => entry.1.name = name) entries).map Prod.snd

def has (entries : TomlEntries) (name : Text) : Bool := entries.any fun entry => entry.1.name = name

def replace (entries : TomlEntries) (name : Text) (value : Toml) : TomlEntries :=
  entries.map fun entry => if entry.1.name = name then (entry.1, value) else entry

def erase (entries : TomlEntries) (name : Text) : TomlEntries :=
  entries.filter fun entry => entry.1.name ≠ name

/-- Whether a key with dots, or a header, that makes tables of one form may enter a table of another. -/
def admits (made held : TableForm) : Bool :=
  match made, held with
  | _, .braces => false
  | .dotted, .header => false
  | _, _ => true

/-- Changes the table that a path of keys leads to and gives what `change` gives besides. Tables
that the path lacks are made, with the form `made`; of tables with one header the last is meant. -/
def descend {Result : Type} (made : TableForm)
    (change : TableForm → TomlEntries → Option (Result × TomlEntries)) :
    TableForm → List TomlKey → TomlEntries → Option (Result × TomlEntries)
  | form, [], entries => change form entries
  | _, key :: path, entries =>
    match find? entries key.name with
    | none => do
      let (result, inner) ← descend made change made path []
      return (result, entries ++ [(key, .table none made inner)])
    | some (.table extent form inner) =>
      if admits made form then do
        let (result, inner) ← descend made change form path inner
        return (result, replace entries key.name (.table extent form inner))
      else none
    | some (.tables members) =>
      match members.getLast? with
      | some (.table extent form inner) => do
        let (result, inner) ← descend made change form path inner
        let last := Toml.table extent form inner
        return (result, replace entries key.name (.tables (members.dropLast ++ [last])))
      | _ => none
    | some _ => none

def insert (form : TableForm) (path : List TomlKey) (key : TomlKey) (value : Toml)
    (entries : TomlEntries) : Option TomlEntries :=
  let add (form : TableForm) (entries : TomlEntries) : Option (Unit × TomlEntries) :=
    if (form == .dotted) == path.isEmpty || has entries key.name then none
    else some (⟨⟩, entries ++ [(key, value)])
  (descend .dotted add form path entries).map Prod.snd

/-- Takes out the table that a header opens, which so far may only be implied by other headers. -/
def openTable (path : List TomlKey) (key : TomlKey) (entries : TomlEntries) :
    Option (TomlEntries × TomlEntries) :=
  let takeOut (_ : TableForm) (entries : TomlEntries) : Option (TomlEntries × TomlEntries) :=
    match find? entries key.name with
    | none => some ([], entries)
    | some (.table _ .implied inner) => some (inner, erase entries key.name)
    | some _ => none
  descend .implied takeOut .header path entries

def closeTable (path : List TomlKey) (key : TomlKey) (table : Toml) (entries : TomlEntries) :
    Option TomlEntries :=
  let put (_ : TableForm) (entries : TomlEntries) : Option (Unit × TomlEntries) :=
    if has entries key.name then none else some (⟨⟩, entries ++ [(key, table)])
  (descend .implied put .header path entries).map Prod.snd

def openTables (path : List TomlKey) (key : TomlKey) (entries : TomlEntries) :
    Option TomlEntries :=
  let start (_ : TableForm) (entries : TomlEntries) : Option (Unit × TomlEntries) :=
    match find? entries key.name with
    | none => some (⟨⟩, entries ++ [(key, .tables [])])
    | some (.tables _) => some (⟨⟩, entries)
    | some _ => none
  (descend .implied start .header path entries).map Prod.snd

def closeTables (path : List TomlKey) (key : TomlKey) (table : Toml) (entries : TomlEntries) :
    Option TomlEntries :=
  let push (_ : TableForm) (entries : TomlEntries) : Option (Unit × TomlEntries) :=
    match find? entries key.name with
    | some (.tables members) => some (⟨⟩, replace entries key.name (.tables (members ++ [table])))
    | _ => none
  (descend .implied push .header path entries).map Prod.snd

end ApiBlueprint.TomlEntries
