import ClientGen.Proofs.Reference.InStore
import ClientGen.Proofs.Schema.LiveCopies
import ClientGen.Proofs.Schema.LiveForm

/-!
Which schemas are visited. The rules visit a schema by going through what it says: through the schema that it refers
to, through copies of it for its types, or to the schemas in it (`Form.route`). Every mapping that they visit has its
turn twice, before the schemas that are visited in it and after them; what they only go through has no turn (`Lists`).
The listing of the turns is one and the same however it is made (`Lists.unique`).
-/

namespace ClientGen.SchemaType

open Placed

/-- A moment of a conversion at which a schema is announced. -/
inductive Turn where
  | enter (schema : Placed)
  | leave (schema : Placed) (type : Expr)

/-- Where the rules go. -/
inductive Route where
  /-- To a schema, which is visited. -/
  | visit (name : Option String) (schema : Placed)
  /-- Through the entries of a schema, without visiting it. -/
  | through (name : Option String) (entries : List (Atom × Placed))
  /-- To several schemas in order. -/
  | each (schemas : List Placed)
  /-- Through copies of a schema, one for each of several types. -/
  | copies (entries : List (Atom × Placed)) (types : List Placed)

/-- Where the rules go for the form of a schema with some types: to the schemas that stand in its place, in order. -/
def Form.route (entries : List (Atom × Placed)) (types : List Placed) : Form → Route
  | union _ => .each ((itemsAt entries (alternativesKey (treesUnder entries))).getD [])
  | conjunction _ => .each ((itemsAt entries "allOf").getD [])
  | copies _ => .copies entries types
  | array _ => .each (Entries.field? entries "items").toList
  | record _ _ => .each (((innerAt entries "properties").getD []).map (·.2))
  | mapping (some _) => .each (Entries.field? entries "additionalProperties").toList
  | _ => .each []

/-- The turns on a route, in order, where every schema can be converted. -/
inductive Lists (document : Placed) : Route → List Turn → Prop
  /-- What is no mapping is not announced. -/
  | other {name : Option String} {p : Placed} (noMap : p.layer.isMap = false) : Lists document (.visit name p) []
  /-- A mapping is announced before the schemas in it, and after them with its type. -/
  | map {name : Option String} {id : Nat} {entries : List (Atom × Placed)} {type : Expr} {turns : List Turn}
    (typed : ofSchema document.tree name (.map (treesUnder entries)) = .ok type)
    (inside : Lists document (.through name entries) turns) :
    Lists document (.visit name (.map id entries))
      (.enter (.map id entries) :: (turns ++ [.leave (.map id entries) type]))
  /-- A component is referred to by its name. -/
  | component {name : Option String} {entries : List (Atom × Placed)} {ref component : String}
    (refers : Entries.field? entries "$ref" = some (.atom (.text ref)))
    (named : Reference.componentName? ref = some component) : Lists document (.through name entries) []
  /-- Any other reference is followed. -/
  | followed {name : Option String} {entries inner : List (Atom × Placed)} {ref : String} {next : Placed} {id : Nat}
    {turns : List Turn} (refers : Entries.field? entries "$ref" = some (.atom (.text ref)))
    (unnamed : Reference.componentName? ref = none)
    (resolves : (Reference.resolve ref document : Except Fault Placed) = .ok next)
    (leads : Reference.Leads document next (.map id inner)) (rest : Lists document (.through name inner) turns) :
    Lists document (.through name entries) turns
  /-- The null type has no parts. -/
  | nullOnly {name : Option String} {entries : List (Atom × Placed)}
    (noReference : Entries.field? entries "$ref" = none) (typed : typingIn entries = .nullOnly) :
    Lists document (.through name entries) []
  | formed {name : Option String} {entries : List (Atom × Placed)} {nullable : Bool} {types : List Placed} {form : Form}
    {turns : List Turn} (noReference : Entries.field? entries "$ref" = none)
    (typed : typingIn entries = .types nullable types)
    (isForm : formOf name (treesUnder entries) (trees types) = .ok form)
    (parts : Lists document (form.route entries types) turns) : Lists document (.through name entries) turns
  | none : Lists document (.each []) []
  /-- A schema inside another has no name of its own. -/
  | next {p : Placed} {ps : List Placed} {turns more : List Turn} (first : Lists document (.visit none p) turns)
    (rest : Lists document (.each ps) more) : Lists document (.each (p :: ps)) (turns ++ more)
  | noCopy {entries : List (Atom × Placed)} : Lists document (.copies entries []) []
  | copy {entries : List (Atom × Placed)} {type : Placed} {types : List Placed} {turns more : List Turn}
    (first : Lists document (.through none (copyOf entries type)) turns)
    (rest : Lists document (.copies entries types) more) :
    Lists document (.copies entries (type :: types)) (turns ++ more)

/-- There is one listing of the turns on a route. -/
theorem Lists.unique {document : Placed} {route : Route} {turns others : List Turn} (first : Lists document route turns)
    (second : Lists document route others) : turns = others := by
  induction first generalizing others with
  | other noMap =>
    cases second with
    | other => rfl
    | map => cases noMap
  | map typed _ ih =>
    cases second with
    | other noMap => cases noMap
    | map typedToo insideToo =>
      rw [ih insideToo, Except.ok.inj (typed.symm.trans typedToo)]
  | component refers named =>
    cases second with
    | component => rfl
    | followed refersToo unnamed =>
      rw [refers] at refersToo
      cases refersToo
      rw [named] at unnamed
      cases unnamed
    | nullOnly noReference => cases refers.symm.trans noReference
    | formed noReference => cases refers.symm.trans noReference
  | followed refers unnamed resolves leads _ ih =>
    cases second with
    | component refersToo named =>
      rw [refers] at refersToo
      cases refersToo
      rw [named] at unnamed
      cases unnamed
    | followed refersToo _ resolvesToo leadsToo rest =>
      rw [refers] at refersToo
      cases refersToo
      rw [resolves] at resolvesToo
      cases resolvesToo
      cases leads.unique leadsToo
      exact ih rest
    | nullOnly noReference => cases refers.symm.trans noReference
    | formed noReference => cases refers.symm.trans noReference
  | nullOnly noReference typed =>
    cases second with
    | component refers => cases refers.symm.trans noReference
    | followed refers => cases refers.symm.trans noReference
    | nullOnly => rfl
    | formed _ typedToo => cases typed.symm.trans typedToo
  | formed noReference typed isForm _ ih =>
    cases second with
    | component refers => cases refers.symm.trans noReference
    | followed refers => cases refers.symm.trans noReference
    | nullOnly _ typedToo => cases typed.symm.trans typedToo
    | formed _ typedToo isFormToo partsToo =>
      cases typed.symm.trans typedToo
      cases isForm.symm.trans isFormToo
      exact ih partsToo
  | none =>
    cases second
    rfl
  | next _ _ ihFirst ihRest =>
    cases second with
    | next firstToo restToo => rw [ihFirst firstToo, ihRest restToo]
  | noCopy =>
    cases second
    rfl
  | copy _ _ ihFirst ihRest =>
    cases second with
    | copy firstToo restToo => rw [ihFirst firstToo, ihRest restToo]

end ClientGen.SchemaType
