import ClientGen.Plugin.Basic

/-!
The registry of plugins: the objects that exist, by identity, and the authenticity marks. A mark is
given once, by registration, and is kept apart from the object, so that neither copies nor entries
in an object count. When an object ceases to exist its mark goes, and its identity may be used again.
-/

namespace ClientGen

/-- Objects and marks by identity. -/
structure Registry where
  objects : List (Nat × Candidate) := []
  marks : List (Nat × Bool) := []

namespace Registry

/-- The object with an identity. -/
def object? (r : Registry) (id : Nat) : Option Candidate :=
  (r.objects.find? fun entry => entry.1 = id).map (·.2)

/-- The plugin with an identity. -/
def plugin? (r : Registry) (id : Nat) : Option Plugin :=
  match r.object? id with
  | some (.plugin p) => some p
  | _ => none

/-- The first identity from `id` on that is not in use. -/
def freeFrom (r : Registry) : Nat → Nat → Nat
  | 0, id => id
  | fuel + 1, id => if (r.object? id).isSome then freeFrom r fuel (id + 1) else id

/-- A new object under an identity that is not in use. -/
def create (r : Registry) (c : Candidate) : Nat × Registry :=
  let id := r.freeFrom r.objects.length 0
  (id, { r with objects := r.objects ++ [(id, c)] })

/-- Replaces an object by an edited one. -/
def edit (r : Registry) (id : Nat) (c : Candidate) : Registry :=
  { r with objects := r.objects.map fun entry => if entry.1 = id then (id, c) else entry }

/-- An object ceases to exist. -/
def release (r : Registry) (id : Nat) : Registry :=
  ⟨r.objects.filter fun entry => entry.1 ≠ id, r.marks.filter fun entry => entry.1 ≠ id⟩

/-- The mark of an identity. -/
def mark? (r : Registry) (id : Nat) : Option Bool :=
  (r.marks.find? fun entry => entry.1 = id).map (·.2)

/-- Marks an identity, unless it is marked already. -/
def stamp (r : Registry) (id : Nat) (genuine : Bool) : Registry :=
  if (r.mark? id).isSome then r else { r with marks := (id, genuine) :: r.marks }

/-- Whether an object is a plugin that was registered under a valid name. -/
def isGenuine (r : Registry) (id : Nat) : Bool :=
  (r.plugin? id).isSome && (r.mark? id).getD false

/-- The plugin with an identity if it is genuine. -/
def genuine? (r : Registry) (id : Nat) : Option Plugin :=
  if r.isGenuine id then r.plugin? id else none

theorem genuine?_eq_some {r : Registry} {id : Nat} {p : Plugin} :
    r.genuine? id = some p ↔ r.isGenuine id = true ∧ r.plugin? id = some p :=
  Option.ite_none_right_eq_some

/-- The warning about a plugin without a valid name. -/
def namelessWarning : LogRecord :=
  ⟨.warning, "specgen.plugins.base",
    "define_plugin: 'name' property is required; plugin will be ignored"⟩

/-- The complaint about an object that is no plugin. -/
def notPlugin (c : Candidate) : Fault :=
  .raised .wrongType ("define_plugin() expects a CodegenPlugin, got " ++ c.kindName)

/-- Registers an object: marks it as genuine if its name is valid, and else as not genuine, with a
warning. -/
def define (r : Registry) (id : Nat) : Except Fault (Registry × List LogRecord) :=
  match r.object? id with
  | some (.plugin p) =>
    .ok (r.stamp id p.hasName, if p.hasName then [] else [namelessWarning])
  | some other => .error (notPlugin other)
  | none => .error (notPlugin (.value .null))

/-- The complaint about an attempt to set or delete the mark by hand. -/
def markProtected : Fault := .raised .noMember "plugins can only be marked by define_plugin()"

/-- The place of the mark among the attributes of an object. -/
def markName : String := "_genuine"

private def withoutMark (kind : String) : Fault :=
  .raised .noMember ("'" ++ kind ++ "' object has no attribute '" ++ markName ++ "'")

/-- An object with an entry in the place of the mark. -/
def withEntry : Candidate → Except Fault Candidate
  | .plugin p => .ok (.plugin { p with markEntry := true })
  | .lookalike attributes =>
    .ok (.lookalike (if attributes.any (·.1 = markName) then attributes
      else attributes ++ [(markName, "True")]))
  | .value _ => .error .wrongType

/-- Sets the mark of an object as an attribute. -/
def assignMark : Candidate → Except Fault Candidate
  | .plugin p =>
    if p.descriptor = .shadowing then withEntry (.plugin p) else .error markProtected
  | .lookalike attributes => withEntry (.lookalike attributes)
  | .value v => .error (withoutMark v.kindName)

/-- Deletes the mark of an object as an attribute. -/
def deleteMark : Candidate → Except Fault Candidate
  | .plugin p =>
    if p.descriptor = .shadowing then
      if p.markEntry then .ok (.plugin { p with markEntry := false })
      else .error (.raised .noMember markName)
    else .error markProtected
  | .lookalike attributes =>
    if attributes.any (·.1 = markName) then
      .ok (.lookalike (attributes.filter (·.1 ≠ markName)))
    else .error (.raised .noMember markName)
  | .value v => .error (withoutMark v.kindName)

/-- Reads the mark of an object as an attribute. -/
def readMark : Candidate → Except Fault Value
  | .plugin p =>
    if p.descriptor = .shadowing then .ok (.bool true) else .error (withoutMark p.descriptor.name)
  | .lookalike attributes =>
    if attributes.any (·.1 = markName) then .ok (.bool true)
    else .error (.raised .noMember
      ("'types.SimpleNamespace' object has no attribute '" ++ markName ++ "'"))
  | .value v => .error (withoutMark v.kindName)

/-- Names an object. -/
def rename (name : Value) : Candidate → Except Fault Candidate
  | .plugin p => .ok (.plugin { p with name })
  | .lookalike attributes =>
    if attributes.any (·.1 = "name") then
      .ok (.lookalike (attributes.map fun a => if a.1 = "name" then ("name", name.written) else a))
    else .ok (.lookalike (attributes ++ [("name", name.written)]))
  | .value _ => .error .noMember

/-- The names of the attributes that an object itself holds. -/
def attributeNames : Candidate → Except Fault (List String)
  | .plugin p => .ok (p.fieldNames ++ if p.markEntry then [markName] else [])
  | .lookalike attributes => .ok (attributes.map (·.1))
  | .value _ => .error .wrongType

/-- The names of the fields of a descriptor. -/
def fieldNames : Candidate → Except Fault (List String)
  | .plugin p => .ok p.fieldNames
  | _ => .error .wrongType

/-- How an object is copied. -/
inductive CopyMode where
  | shallow
  | deep
  /-- A new descriptor is built from the fields of the old one. -/
  | rebuilt
  deriving DecidableEq, Repr

/-- A copy of an object. Entries beside the fields are copied too, except by rebuilding. -/
def copy (mode : CopyMode) : Candidate → Except Fault Candidate
  | .plugin p => .ok (.plugin (if mode = .rebuilt then { p with markEntry := false } else p))
  | other => if mode = .rebuilt then .error .wrongType else .ok other

end Registry

end ClientGen
