import Countinghouse.Settings.Reader

/-! # Where settings come from

Settings are gathered from files and from the variables of the environment.  A
file names sections and the keys in them; a variable named `KONTOR__SECTION__KEY`,
in either case, gives a key of a section.  The file `default` comes first, then the
file of the mode the service runs in, then the environment; later sources win, key
by key. -/

set_option autoImplicit false

namespace Countinghouse

abbrev Sections := List (String × List (String × Scalar))

/-- Files by their names, which leave the ending `.toml` out. -/
abbrev Files := List (String × Sections)

namespace Files

def file? (files : Files) (name : String) : Option Sections :=
  (files.find? fun (other, _) => other = name).map fun (_, sections) => sections

/-- A whole number of a file has to fit 64 bits with a sign. -/
def isReadable (sections : Sections) : Bool :=
  sections.all fun (_, keys) => keys.all fun (_, value) =>
    match value with
    | .int n => -2 ^ 63 ≤ n ∧ n < 2 ^ 63
    | _ => true

/-- The parts of an address below the directory of the files.  Steps up out of the
directory and back into it lead nowhere. -/
def inside : List String → List String
  | ".." :: "config" :: parts => inside parts
  | parts => parts

def stem? (ending name : String) : Option String :=
  if name.endsWith ending then some (String.ofList (name.toList.take (name.length - ending.length)))
  else none

/-- The sections of the file at an address, none where no file is there.  The ending
may be written out, unless the address is that of a directory. -/
def sectionsAt (files : Files) (address : String) : Sections :=
  match (inside ((address.splitOn "/").filter fun part => part ≠ "" ∧ part ≠ ".")).reverse with
  | [] => []
  | ".." :: _ => []
  | last :: above =>
      let at? := fun name => files.file? ("/".intercalate (name :: above).reverse)
      let written := if address.endsWith "/" || address.endsWith "/." then none
        else stem? ".toml" last
      match written with
      | some stem =>
          match at? stem with
          | some sections => if stem = "" then [] else sections
          | none => (at? last).getD []
      | none => (at? last).getD []

end Files

def Path.ofVariable? (name : String) : Option Path :=
  match (Text.smalls name).splitOn "__" with
  | "kontor" :: part :: parts => some (Path.ofText (".".intercalate (part :: parts)))
  | _ => none

namespace Setting

def addFile (s : Setting) (sections : Sections) : Setting :=
  sections.foldl (fun s (name, keys) => s.putSection (Path.ofText name) keys) s

def addVariables (s : Setting) (environment : List (String × String)) : Setting :=
  environment.foldl
    (fun s (name, value) =>
      match Path.ofVariable? name with
      | some path => s.putScalar path (.text value)
      | none => s)
    s

end Setting

namespace Settings

def mode (environment : List (String × String)) : String :=
  match environment.find? (·.1 == "RUN_MODE") with
  | some (_, name) => name
  | none => "development"

def load? (files : Files) (environment : List (String × String)) : Option Settings :=
  let read := [files.sectionsAt "default", files.sectionsAt (mode environment)]
  if read.all Files.isReadable then
    ofTree? ((read.foldl Setting.addFile (.table [])).addVariables environment)
  else none

end Settings

end Countinghouse
