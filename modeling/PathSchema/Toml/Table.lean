import PathSchema.Document

/-!
# Tables of TOML text

A table is defined once, by a header or by dotted keys.  A header may pass through
tables that are only implied by others, and through the last table of a list; dotted
keys may pass through tables that were defined by dotted keys, and end in one.
-/

namespace PathSchema

namespace Toml

/-- How a table came about. -/
inductive TableKind where
  | defined
  /-- The header of another table passes through it. -/
  | implied
  | dotted
  deriving DecidableEq

/-- What stands under a key. -/
inductive Item where
  | value (document : Document)
  | table (kind : TableKind) (entries : List (String × Item))
  | tables (elements : List Item)

/-- What stands under the keys of a table. -/
abbrev Entries := List (String × Item)

namespace Entries

/-- Puts an item under a key, in place of the one that stands there. -/
def put (entries : Entries) (key : String) (item : Item) : Entries :=
  entries.filter (·.1 != key) ++ [(key, item)]

/-- Takes the item under a key away. -/
def remove (entries : Entries) (key : String) : Entries :=
  entries.filter (·.1 != key)

/-- Changes the table at the end of a path, and makes the tables on the way to it that
do not exist yet. -/
def change (dotted : Bool) (act : TableKind → Entries → Option Entries) :
    List String → TableKind → Entries → Option Entries
  | [], kind, entries => act kind entries
  | key :: path, _, entries =>
    match List.lookup key entries with
    | none =>
      let kind := if dotted then TableKind.dotted else .implied
      (change dotted act path kind []).map fun child => entries.put key (.table kind child)
    | some (.value _) => none
    | some (.tables elements) =>
      match elements.getLast? with
      | some (.table kind child) =>
        (change dotted act path kind child).map fun child =>
          entries.put key (.tables (elements.dropLast ++ [.table kind child]))
      | _ => none
    | some (.table kind child) =>
      if dotted && kind == .defined then none
      else
        (change dotted act path kind child).map fun child => entries.put key (.table kind child)

/-- Puts a value under a dotted key of a table that is defined. -/
def insertValue (entries : Entries) (path : List String) (value : Document) : Option Entries :=
  match path.getLast? with
  | none => none
  | some key =>
    let front := path.dropLast
    change true (fun kind entries =>
      if (kind == .dotted) == front.isEmpty then none
      else if (List.lookup key entries).isSome then none
      else some (entries.put key (.value value))) front .defined entries

end Entries

mutual

def Item.toDocument : Item → Document
  | .value document => document
  | .table _ entries => .mapping (entryDocuments entries)
  | .tables elements => .list (itemDocuments elements)

def itemDocuments : List Item → List Document
  | [] => []
  | item :: rest => item.toDocument :: itemDocuments rest

def entryDocuments : List (String × Item) → List (Document × Document)
  | [] => []
  | (key, item) :: rest => (.ofText key, item.toDocument) :: entryDocuments rest

end

/-- The tables read so far, and the table that is being read with its place. -/
structure Tables where
  root : Entries := []
  path : List String := []
  inList : Bool := false
  current : Entries := []

namespace Tables

/-- Puts the table that was read in its place. -/
def close (tables : Tables) : Option Entries :=
  match tables.path.getLast? with
  | none => some tables.current
  | some key =>
    let table := Item.table .defined tables.current
    Entries.change false (fun _ entries =>
      match tables.inList, List.lookup key entries with
      | false, none => some (entries.put key table)
      | false, some _ => none
      | true, none => some (entries.put key (.tables [table]))
      | true, some (.tables elements) => some (entries.put key (.tables (elements ++ [table])))
      | true, some _ => none) tables.path.dropLast .defined tables.root

/-- Begins the table of a header.  A table that was only implied keeps its entries. -/
def begin (tables : Tables) (path : List String) : Option Tables :=
  tables.close.bind fun root =>
    match path.getLast? with
    | none => none
    | some key =>
      let found := fun (entries : Entries) =>
        match List.lookup key entries with
        | none => some []
        | some (.table .implied child) => some child
        | some _ => none
      (Entries.change false (fun _ entries => (found entries).map fun _ => entries.remove key)
        path.dropLast .defined root).bind fun rest =>
          (parentOf path.dropLast root).bind found |>.map fun current =>
            { root := rest, path, current }
where
  /-- The entries of the table at the end of a path. -/
  parentOf : List String → Entries → Option Entries
    | [], entries => some entries
    | key :: path, entries =>
      match List.lookup key entries with
      | none => some []
      | some (.table _ child) => parentOf path child
      | some (.tables elements) =>
        match elements.getLast? with
        | some (.table _ child) => parentOf path child
        | _ => none
      | some (.value _) => none

def openInList (tables : Tables) (path : List String) : Option Tables :=
  tables.close.bind fun root =>
    match path.getLast? with
    | none => none
    | some key =>
      (Entries.change false (fun _ entries =>
        match List.lookup key entries with
        | none | some (.tables _) => some entries
        | some _ => none) path.dropLast .defined root).map fun root =>
          { root, path, inList := true }

/-- Puts a value under a key of the table that is being read. -/
def insert (tables : Tables) (path : List String) (value : Document) : Option Tables :=
  (tables.current.insertValue path value).map fun current => { tables with current }

end Tables

end Toml

end PathSchema
