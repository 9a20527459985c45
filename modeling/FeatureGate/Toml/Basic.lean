import FeatureGate.Toml.Moment

/-!
# TOML documents

A TOML document is a tree of tables. The same table may be built up in several
places, but only in compatible ways, so a table remembers how it came about
(`Form`): from a header, on the way to the table of another header, by dotted
keys, or written inline. A header opens a table once; dotted keys extend tables
made by dotted keys; what is written inline is closed.

A list of tables grows by one when the section of a header for it ends; until then
the section is a table of its own (`Section`). Whether there may be such a list is
found out then.

Numbers with a fraction keep their written form; nobody here computes with them.
-/

namespace FeatureGate.Toml

/-- **How a table came about.** -/
inductive Form where
  /-- On the way to the table of a header. -/
  | implied
  /-- From a header of its own. -/
  | header
  /-- By dotted keys. -/
  | dotted
  /-- Inline, as a value. -/
  | inline
deriving DecidableEq, Repr

/-- **What a key stands for.** -/
inductive Item where
  /-- A string. -/
  | text (value : String)
  /-- A whole number. -/
  | integer (value : Int)
  /-- A number with a fraction or an exponent, as it is written. -/
  | float (written : String)
  /-- A number, well-formed but too large or without digits. -/
  | unreadable
  /-- A truth value. -/
  | boolean (value : Bool)
  /-- A date, a time or both. -/
  | moment (moment : Moment)
  /-- A list, written inline. -/
  | array (items : List Item)
  /-- A table. -/
  | table (form : Form) (entries : List (String × Item))
  /-- A list of tables, one for each of its headers. -/
  | tables (items : List (List (String × Item)))
deriving Repr

/-! ## Whether all numbers can be read -/

mutual

/-- **Whether all numbers of an item can be read.** -/
def Item.isReadable : Item → Bool
  | .unreadable => false
  | .array items => areItemsReadable items
  | .table _ entries => areEntriesReadable entries
  | .tables items => areTablesReadable items
  | _ => true

/-- Whether all numbers of some items can be read. -/
def areItemsReadable : List Item → Bool
  | [] => true
  | item :: items => item.isReadable && areItemsReadable items

/-- Whether all numbers of some entries can be read. -/
def areEntriesReadable : List (String × Item) → Bool
  | [] => true
  | (_, item) :: entries => item.isReadable && areEntriesReadable entries

/-- Whether all numbers of some tables can be read. -/
def areTablesReadable : List (List (String × Item)) → Bool
  | [] => true
  | entries :: tables => areEntriesReadable entries && areTablesReadable tables

end

/-! ## Entries -/

/-- The entries of a table, in the order in which the keys first occur. -/
abbrev Entries := List (String × Item)

namespace Entries

/-- What a key stands for. -/
def get? (entries : Entries) (key : String) : Option Item :=
  (entries.find? (·.1 == key)).map (·.2)

/-- Let a key stand for an item. -/
def put : Entries → String → Item → Entries
  | [], key, item => [(key, item)]
  | (other, old) :: rest, key, item =>
    if other = key then (key, item) :: rest else (other, old) :: put rest key item

/-- **Change the table at the end of a path.** Tables missing on the way are
made, in the form given. The way leads through the last table of a list of
tables. It does not lead into what was written inline, nor, for dotted keys,
into a table with a header of its own. -/
def changeAt (made : Form) (change : Form → Entries → Option Entries) :
    List String → Form → Entries → Option Entries
  | [], form, entries => change form entries
  | key :: rest, _, entries => do
    match entries.get? key with
    | none =>
      let inner ← changeAt made change rest made []
      return entries.put key (.table made inner)
    | some (.table form inner) =>
      guard (form ≠ .inline && !(made = .dotted && form = .header))
      let inner ← changeAt made change rest form inner
      return entries.put key (.table form inner)
    | some (.tables items) =>
      let last ← items.getLast?
      let last ← changeAt made change rest .header last
      return entries.put key (.tables (items.dropLast ++ [last]))
    | some _ => none

/-- **Assign to a key**, dotted or not. Dotted keys end in a table made by
dotted keys, a plain key in any other; no key is assigned to twice. -/
def assign (path : List String) (key : String) (item : Item) :
    Form → Entries → Option Entries :=
  changeAt .dotted (fun form entries => do
    guard ((form = .dotted) == !path.isEmpty)
    guard (entries.get? key).isNone
    return entries.put key item) path

end Entries

/-! ## Drafts -/

/-- **The section of a document** that lines belong to. -/
inductive Section where
  /-- A table, by its path. -/
  | table (path : List String)
  /-- The next table of the list of tables at a path and a key, and its entries. -/
  | element (path : List String) (key : String) (entries : Entries)

/-- **A document being built.** -/
structure Draft where
  /-- The entries at the root. -/
  entries : Entries
  /-- The open section. -/
  current : Section

namespace Draft

/-- Nothing built yet; the root is open. -/
def empty : Draft := ⟨[], .table []⟩

/-- **End the open section**: the entries at the root. A table that is to be in a
list of tables is put there. -/
def close (draft : Draft) : Option Entries :=
  match draft.current with
  | .table _ => some draft.entries
  | .element path key table => Entries.changeAt .implied (fun _ entries => do
    match entries.get? key with
    | none => return entries.put key (.tables [table])
    | some (.tables items) => return entries.put key (.tables (items ++ [table]))
    | some _ => none) path .header draft.entries

/-- Open the table of a header, with the entries at the root. Only a table that
others implied may be there already. -/
def openTable (entries : Entries) (path : List String) (key : String) :
    Option Draft := do
  let entries ← Entries.changeAt .implied (fun _ entries => do
    match entries.get? key with
    | none => return entries.put key (.table .header [])
    | some (.table .implied inner) => return entries.put key (.table .header inner)
    | some _ => none) path .header entries
  return ⟨entries, .table (path ++ [key])⟩

/-- Open a new table for a list of tables, with the entries at the root. -/
def openElement (entries : Entries) (path : List String) (key : String) : Draft :=
  ⟨entries, .element path key []⟩

/-- Assign to a key of the open section. -/
def assign (draft : Draft) (path : List String) (key : String) (item : Item) :
    Option Draft := do
  match draft.current with
  | .table place =>
    let entries ← Entries.changeAt .implied (Entries.assign path key item) place
      .header draft.entries
    return { draft with entries }
  | .element place last table =>
    let table ← Entries.assign path key item .header table
    return { draft with current := .element place last table }

end Draft

/-- The key under which a moment holds its text where a table is asked for. -/
def momentKey : String := "$__toml_private_datetime"

/-- **The entries of an item where a table is asked for.** A moment then counts
as a table with one entry, its text. -/
def Item.entries? : Item → Option Entries
  | .table _ entries => some entries
  | .moment written => some [(momentKey, .text written.text)]
  | _ => none

end FeatureGate.Toml
