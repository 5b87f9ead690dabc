namespace TextBoundary

namespace Toml

/-- A table with a header of its own, one that a longer header goes through, one made by a dotted key,
or one that stands as a value. -/
inductive Origin
  | header
  | implied
  | dotted
  | inline
  deriving DecidableEq, Repr

inductive Fault
  | malformed
  | deepKey
  deriving DecidableEq, Repr

end Toml

inductive Toml
  | string (value : String)
  | integer (value : Int)
  | float
  | unrepresentable
  | boolean (value : Bool)
  | moment
  | array (items : List Toml)
  | tables (newest : List (List (String × Toml)))
  | table (origin : Toml.Origin) (fields : List (String × Toml))
  deriving Inhabited, Repr

namespace Toml

abbrev Fields := List (String × Toml)

def Fields.find? (fields : Fields) (key : String) : Option Toml :=
  (List.find? (·.1 == key) fields).map Prod.snd

def Fields.set (fields : Fields) (key : String) (value : Toml) : Fields :=
  fields.map fun field => if field.1 = key then (key, value) else field

/-- Adds a value under a dotted key. The tables in between are made, or have been left open by keys and
headers, or are the last ones with their header in double brackets; the innermost one has to be made by
dotted keys. -/
def put (value : Toml) : List String → Fields → Except Fault Fields
  | [], _ => .error .malformed
  | [key], fields =>
    if (fields.find? key).isSome then .error .malformed else .ok (fields ++ [(key, value)])
  | key :: keys, fields =>
    match fields.find? key with
    | none => do return fields ++ [(key, table .dotted (← put value keys []))]
    | some (table .dotted inner) => do
      return fields.set key (table .dotted (← put value keys inner))
    | some (table .implied inner) =>
      if keys.length = 1 then .error .malformed
      else do return fields.set key (table .implied (← put value keys inner))
    | some (tables (last :: earlier)) =>
      if keys.length = 1 then .error .malformed
      else do return fields.set key (tables ((← put value keys last) :: earlier))
    | some _ => .error .malformed

def change (f : Fields → Except Fault Fields) : List String → Fields → Except Fault Fields
  | [], fields => f fields
  | key :: keys, fields =>
    match fields.find? key with
    | none => do return fields ++ [(key, table .implied (← change f keys []))]
    | some (table .inline _) => .error .malformed
    | some (table origin inner) => do
      return fields.set key (table origin (← change f keys inner))
    | some (tables (last :: earlier)) => do
      return fields.set key (tables ((← change f keys last) :: earlier))
    | some _ => .error .malformed

def openTable (fill : Fields → Except Fault Fields) (key : String) (fields : Fields) :
    Except Fault Fields :=
  match fields.find? key with
  | none => do return fields ++ [(key, table .header (← fill []))]
  | some (table .implied inner) => do return fields.set key (table .header (← fill inner))
  | some _ => .error .malformed

def addItem (item : Fields) (key : String) (fields : Fields) : Except Fault Fields :=
  match fields.find? key with
  | none => .ok (fields ++ [(key, tables [item])])
  | some (tables items) => .ok (fields.set key (tables (item :: items)))
  | some _ => .error .malformed

def isRepresentable : Toml → Bool
  | unrepresentable => false
  | array items => allItems items
  | tables newest => allTables newest
  | table _ fields => allFields fields
  | _ => true
where
  allItems : List Toml → Bool
    | [] => true
    | item :: items => item.isRepresentable && allItems items
  allFields : List (String × Toml) → Bool
    | [] => true
    | (_, value) :: fields => value.isRepresentable && allFields fields
  allTables : List (List (String × Toml)) → Bool
    | [] => true
    | fields :: newest => allFields fields && allTables newest

end Toml
end TextBoundary
