import DevServer.Toml.Basic

/-!
# Tables under construction

A table of a document comes from a header, from the path in front of a header's last name, or from a
dotted key. A header may complete a table that was only on the path of another one, and a dotted key
may extend one that dotted keys made; every other second definition is refused. A name that heads an
array of tables stands for the last of them.
-/

namespace DevServer.Toml

/-- What brought a table about. -/
inductive Origin where
  | header
  | path
  | dotted
  deriving DecidableEq, Repr

/-- What a name stands for while a document is read. -/
inductive Item where
  | value (v : Toml)
  | table (origin : Origin) (items : List (String × Item))
  | tables (elements : List (List (String × Item)))
  deriving Inhabited

abbrev Items := List (String × Item)

namespace Items

/-- Gives a name another item. -/
def set (items : Items) (name : String) (item : Item) : Items :=
  if items.any (·.1 == name) then
    items.map fun (n, i) => if n == name then (n, item) else (n, i)
  else items ++ [(name, item)]

/--
Changes the table that a path leads to. `dotted` says whether the path is that of a dotted key;
`change` is told whether dotted keys made the table.
-/
def descend (dotted : Bool) (change : Bool → Items → Option Items) :
    (path : List String) → (byDots : Bool) → Items → Option Items
  | [], byDots, items => change byDots items
  | name :: path, _, items =>
    match items.lookup name with
    | none => do
      let sub ← descend dotted change path dotted []
      return items.set name (.table (if dotted then .dotted else .path) sub)
    | some (.table origin sub) =>
      if dotted && origin == .header then none
      else do
        let sub ← descend dotted change path (origin == .dotted) sub
        return items.set name (.table origin sub)
    | some (.tables elements) => do
      let last ← descend dotted change path false (← elements.getLast?)
      return items.set name (.tables (elements.dropLast ++ [last]))
    | some (.value _) => none

/-- The path and the last name of a key. -/
def splitKey (key : List String) : List String × String := (key.dropLast, key.getLast?.getD "")

/-- Adds a value under a key, for the items of the table that the key belongs to. -/
def addValue (items : Items) (key : List String) (v : Toml) : Option Items :=
  let (path, name) := splitKey key
  items.descend true (fun byDots sub =>
    if byDots == path.isEmpty || sub.any (·.1 == name) then none
    else some (sub.set name (.value v))) path false

/-- Adds a value under a key of the table that the header `table` opened. -/
def addValueAt (items : Items) (table key : List String) (v : Toml) : Option Items :=
  items.descend false (fun _ sub => addValue sub key v) table false

/-- Opens the table of a header. -/
def openTable (items : Items) (key : List String) : Option Items :=
  let (path, name) := splitKey key
  items.descend false (fun _ sub =>
    match sub.lookup name with
    | none => some (sub.set name (.table .header []))
    | some (.table .path inner) => some (sub.set name (.table .header inner))
    | some _ => none) path false

/-- Opens a further table of an array of tables. -/
def openElement (items : Items) (key : List String) : Option Items :=
  let (path, name) := splitKey key
  items.descend false (fun _ sub =>
    match sub.lookup name with
    | none => some (sub.set name (.tables [[]]))
    | some (.tables elements) => some (sub.set name (.tables (elements ++ [[]])))
    | some _ => none) path false

end Items

mutual

/-- The value that an item comes to. -/
def Item.toToml : Item → Toml
  | .value v => v
  | .table _ items => .table (fieldsOfItems items)
  | .tables elements => .array (tablesOfItems elements)

def fieldsOfItems : List (String × Item) → List (String × Toml)
  | [] => []
  | (name, item) :: items => (name, item.toToml) :: fieldsOfItems items

def tablesOfItems : List (List (String × Item)) → List Toml
  | [] => []
  | items :: rest => .table (fieldsOfItems items) :: tablesOfItems rest

end

/-- The table that pairs of keys and values make up, if no two of them collide. -/
def fieldsOfPairs? (pairs : List (List String × Toml)) : Option (List (String × Toml)) :=
  (pairs.foldlM (fun (items : Items) (key, v) => items.addValue key v) []).map fieldsOfItems

end DevServer.Toml
