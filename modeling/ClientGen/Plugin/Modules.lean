import ClientGen.Fault

/-!
Modules from which plugins are imported by name. No module has modules inside it.
-/

namespace ClientGen

/-- What happens when a module is imported: its members appear, each with its identity, or the import
fails. -/
abbrev ImportOutcome := Except Fault (List (String × Nat))

/-- The modules that can be imported. -/
abbrev Modules := List (String × ImportOutcome)

namespace Modules

/-- The complaint about a module that cannot be found. -/
def missing (text : String) : Fault := .raised .noModule text

/-- Imports the module at the front of a dotted name; nothing is found inside it. -/
def importFirst (modules : Modules) (name : List Char) (inner : List (List Char)) : ImportOutcome :=
  let here := String.ofList name
  match modules.find? fun entry => entry.1 = here with
  | none => .error (missing ("No module named " ++ Text.quoted here))
  | some (_, .error fault) => .error fault
  | some (_, .ok members) =>
    match inner with
    | [] => .ok members
    | next :: _ =>
      .error (missing ("No module named " ++ Text.quoted (String.ofList (name ++ '.' :: next)) ++
        "; " ++ Text.quoted here ++ " is not a package"))

/-- Imports a module by its name, which must not be empty or relative. -/
def importModule (modules : Modules) (name : String) : ImportOutcome :=
  match name.toList with
  | [] => .error (.raised .badValue "Empty module name")
  | '.' :: _ =>
    .error (.raised .wrongType
      ("the 'package' argument is required to perform a relative import for " ++ Text.quoted name))
  | cs =>
    match Text.fields (· = '.') cs with
    | [] => .error (missing "")
    | first :: inner => importFirst modules first inner

end Modules

end ClientGen
