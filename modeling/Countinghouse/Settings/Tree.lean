import Countinghouse.Settings.Path
import Countinghouse.Settings.Scalar

/-! # Trees of settings

What the sources of the settings say together.  A source changes the tree at one
path after another: a scalar takes the place of whatever was there, the keys of a
section are added to those that are there. -/

set_option autoImplicit false

namespace Countinghouse

inductive Setting where
  /-- Nothing has been said about this place of a list. -/
  | missing
  | scalar (value : Scalar)
  | list (items : List Setting)
  | table (keys : List (String × Setting))

namespace Setting

def keys : Setting → List (String × Setting)
  | table keys => keys
  | _ => []

def items : Setting → List Setting
  | list items => items
  | _ => []

/-- Changes the setting of a key.  A key that is not there is missing before the
change. -/
def changeKey (name : String) (change : Setting → Setting) :
    List (String × Setting) → List (String × Setting)
  | [] => [(name, change missing)]
  | (key, s) :: rest =>
      if key = name then (key, change s) :: rest else (key, s) :: changeKey name change rest

/-- Changes the setting at a place.  The list grows until it has the place: at its
end, or at its front if the place is counted from the end. -/
def changePlace (index : Int) (change : Setting → Setting) (items : List Setting) :
    List Setting :=
  match index with
  | .ofNat n => (items ++ List.replicate (n + 1 - items.length) missing).modify n change
  | .negSucc n =>
      (List.replicate (n + 1 - items.length) missing ++ items).modify
        (items.length - (n + 1)) change

/-- Changes the setting that some steps lead to.  Where a step asks for a table or a
list and there is none, an empty one takes the place of what is there. -/
def changeAt (change : Setting → Setting) : List Step → Setting → Setting
  | [], s => change s
  | .key name :: steps, s => table (changeKey name (changeAt change steps) s.keys)
  | .place index :: steps, s => list (changePlace index (changeAt change steps) s.items)

def put (path : Path) (change : Setting → Setting) : Setting → Setting :=
  changeAt change (.key path.root :: path.steps)

def putScalar (path : Path) (value : Scalar) : Setting → Setting :=
  put path fun _ => scalar value

/-- Adds the keys of a section, whose names are taken as they are. -/
def putSection (path : Path) (keys : List (String × Scalar)) : Setting → Setting :=
  put path fun s =>
    keys.foldl (fun t (name, value) => table (changeKey name (fun _ => scalar value) t.keys))
      (table s.keys)

/-! ## Reading -/

def key? (name : String) (s : Setting) : Option Setting :=
  (s.keys.find? fun (key, _) => key = name).map fun (_, value) => value

/-- The field of a section: by its name in a table, by its place in a list. -/
def field? (place : Nat) (name : String) (s : Setting) : Option Setting :=
  match s with
  | list items => items[place]?
  | s => s.key? name

def isSection : Setting → Bool
  | list _ => true
  | table _ => true
  | _ => false

/-- The field of a section, or `absent` where the section has none; none where the
field cannot be read. -/
def read? {α : Type} (s : Setting) (place : Nat) (name : String) (read : Setting → Option α)
    (absent : Option α) : Option α :=
  match s.field? place name with
  | some value => read value
  | none => absent

def asScalar? {α : Type} (read : Scalar → Option α) : Setting → Option α
  | scalar value => read value
  | _ => none

def asName? : Setting → Option String
  | scalar (.text name) => some name
  | table [(name, _)] => some name
  | _ => none

end Setting

end Countinghouse
