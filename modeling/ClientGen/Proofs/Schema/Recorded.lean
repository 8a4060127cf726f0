import ClientGen.Proofs.Plugin.Recording
import ClientGen.Proofs.Schema.Budget
import ClientGen.Proofs.Schema.Tracking
import ClientGen.Proofs.Schema.Visits

/-!
What a plugin that only records sees of a conversion. The conversion comes to the type that the schema has without
plugins, and the events tell of the turns of the schemas that are visited, one of each, in the order of their listing
(`convert_recorded`).
-/

namespace ClientGen.SchemaType

open Placed

/-- In a world of a run an event was recorded: the run had added events before, and adds this one and others. -/
def Meanwhile (start world later : World) (event : Event) : Prop :=
  (∃ earlier, Adds start world earlier) ∧ ∃ rest, Adds world later (event :: rest)

/-- An event tells of a turn of a run: it was recorded when the schema was announced, as it stood there, and at the
second turn when the type was shown, which stays where it was shown. -/
inductive Told (record : World → Call → Event) (document : Node) (start later : World) : Turn → Event → Prop
  | enter {schema : Placed} {world : World} (holds : world.store.Holds [schema])
    (meanwhile : Meanwhile start world later (record world ⟨.beforeSchema schema.node, document⟩)) :
    Told record document start later (.enter schema) (record world ⟨.beforeSchema schema.node, document⟩)
  | leave {schema : Placed} {type : Expr} {world : World} {id : Nat} (holds : world.store.Holds [schema])
    (shown : world.types[id]? = some type) (stays : later.types[id]? = some type)
    (meanwhile : Meanwhile start world later (record world ⟨.afterSchema schema.node id, document⟩)) :
    Told record document start later (.leave schema type) (record world ⟨.afterSchema schema.node id, document⟩)

variable {record : World → Call → Event} {crew : Crew} {α β : Type}

section

variable {document : Node} {first start world later last : World} {turn : Turn} {event : Event} {events : List Event}

theorem Meanwhile.within (meanwhile : Meanwhile start world later event) {before after : List Event}
    (since : Adds first start before) (onward : Adds later last after) : Meanwhile first world last event := by
  obtain ⟨⟨earlier, came⟩, rest, goes⟩ := meanwhile
  exact ⟨⟨_, since.trans came⟩, _, goes.trans onward⟩

/-- What an event tells of a run it tells of a longer one. -/
theorem Told.within (told : Told record document start later turn event) {before after : List Event}
    (since : Adds first start before) (onward : Adds later last after) : Told record document first last turn event := by
  cases told with
  | enter holds meanwhile => exact .enter holds (meanwhile.within since onward)
  | leave holds shown stays meanwhile =>
    exact .leave holds shown (onward.types _ _ stays) (meanwhile.within since onward)

end

/-- Events tell of turns that are listed, in order. -/
def Tells (record : World → Call → Event) (document : Node) (world later : World) (lists : List Turn → Prop) : Prop :=
  ∃ turns events, lists turns ∧ Adds world later events ∧ List.Forall₂ (Told record document world later) turns events

/-- Where a run with plugins succeeds, it comes to what a run without comes to, and its events tell of turns that are
listed. -/
def Recounts (record : World → Call → Event) (crew : Crew) (world : World) (plain : Except Fault α) (live : Live α)
    (lists : List Turn → Prop) : Prop :=
  ∀ a later, (live crew).on world = (.ok a, later) →
    plain = .ok a ∧ Tells record crew.document world later lists

section

variable {world : World} {plain : Except Fault α} {live : Live α} {lists more : List Turn → Prop}

theorem recounts_of_eq (same : (live crew).on world = (plain, world)) (noTurn : lists []) :
    Recounts record crew world plain live lists := by
  intro a later done
  rw [same, Prod.mk.injEq] at done
  obtain ⟨isOk, rfl⟩ := done
  exact ⟨isOk, [], [], noTurn, .refl world, .nil⟩

/-- Steps that follow each other. -/
theorem Recounts.bind {next : α → Except Fault β} {liveNext : α → Live β} {both : List Turn → Prop}
    (first : Recounts record crew world plain live lists)
    (rest : ∀ a later events, Adds world later events → Recounts record crew later (next a) (liveNext a) more)
    (append : ∀ front back, lists front → more back → both (front ++ back)) :
    Recounts record crew world (plain >>= next) (live >>= liveNext) both := by
  intro b last done
  obtain ⟨a, later, firstDone, restDone⟩ := Live.of_bind_ok done
  obtain ⟨isOk, front, events, listed, adds, told⟩ := first a later firstDone
  obtain ⟨isOkToo, back, eventsToo, listedToo, addsToo, toldToo⟩ := rest a later events adds b last restDone
  refine ⟨by rw [isOk, except_bind_ok, isOkToo], front ++ back, events ++ eventsToo, append front back listed listedToo,
    adds.trans addsToo, ?_⟩
  exact List.rel_append (told.imp fun _ _ told => told.within (.refl world) addsToo)
    (toldToo.imp fun _ _ told => told.within adds (.refl last))

theorem Recounts.map (f : α → β) (recounts : Recounts record crew world plain live lists) :
    Recounts record crew world (f <$> plain) (f <$> live) lists := by
  intro b later done
  rw [map_eq_pure_bind] at done
  obtain ⟨a, between, isDone, isPure⟩ := Live.of_bind_ok done
  cases isPure
  obtain ⟨isOk, tells⟩ := recounts a later isDone
  exact ⟨by rw [isOk, except_map_ok], tells⟩

/-- A step whose outcome stands before those of further steps. -/
theorem Recounts.cons (f : α → β) {others : Except Fault (List β)} {liveOthers : Live (List β)} {both : List Turn → Prop}
    (first : Recounts record crew world plain live lists)
    (rest : ∀ later events, Adds world later events → Recounts record crew later others liveOthers more)
    (append : ∀ front back, lists front → more back → both (front ++ back)) :
    Recounts record crew world (plain >>= fun a => (f a :: ·) <$> others) (live >>= fun a => (f a :: ·) <$> liveOthers)
      both :=
  first.bind (fun _ later events adds => (rest later events adds).map _) append

theorem Recounts.congr {live' : Live α} {plain' : Except Fault α} (recounts : Recounts record crew world plain live lists)
    (lively : (live' crew).on world = (live crew).on world) (plainly : plain' = plain) :
    Recounts record crew world plain' live' lists := by
  intro a later done
  rw [lively] at done
  rw [plainly]
  exact recounts a later done

end

section

variable {document : Placed} {world : World} {id : Nat} {entries : List (Atom × Placed)} {depth : Nat}

/-- Wherever a schema stands, its conversion with some steps is recounted. -/
def VisitRecounted (record : World → Call → Event) (crew : Crew) (document : Placed) (depth : Nat) : Prop :=
  ∀ (world : World) (name : Option String) (p : Placed), world.store.Holds [document] → world.store.Holds [p] →
    Recounts record crew world (convert document.tree depth name p.tree) (convert document.node depth name p.node)
      (Lists document (.visit name p))

/-- Wherever a mapping stands, the conversion of what it says is recounted. -/
def ThroughRecounted (record : World → Call → Event) (crew : Crew) (document : Placed) (depth : Nat) : Prop :=
  ∀ (world : World) (name : Option String) (id : Nat) (entries : List (Atom × Placed)),
    world.store.Holds [document] → world.store.Holds [.map id entries] →
    Recounts record crew world (unannounced document.tree depth name (.map (treesUnder entries)))
      (unannounced document.node depth name (.cell id)) (Lists document (.through name entries))

/-- The items of a list are visited in order. -/
theorem recounts_items (visits : ∀ fewer < depth, VisitRecounted record crew document fewer)
    {items : List Placed} (inside : world.store.Holds [document]) (holds : world.store.Holds [.list id items])
    (index : Nat) :
    Recounts record crew world (convertItems document.tree depth (.list (trees items)) index)
      (convertItems document.node depth (.cell id) index) (Lists document (.each (items.drop index))) := by
  induction depth generalizing world index with
  | zero => exact fun _ _ done => nomatch done
  | succ depth ih =>
    have here := (Store.holds_list.mp holds).1
    cases isRest : items.drop index with
    | nil =>
      refine recounts_of_eq ?_ .none
      rw [on_convertItems _ here, convertItems_list, trees_eq, ← List.map_drop, ← List.map_drop, isRest]
      rfl
    | cons p rest =>
      have isLater : items.drop (index + 1) = rest := by rw [← List.tail_drop, isRest, List.tail_cons]
      have held : world.store.Holds [p] :=
        Store.holds_of_mem (Store.holds_list.mp holds).2 (List.mem_of_mem_drop (isRest ▸ List.mem_cons_self))
      have first := visits depth (Nat.lt_succ_self depth) world none p inside held
      -- the list is looked at anew for the other items: it still stands in the store
      have others : ∀ later events, Adds world later events →
          Recounts record crew later (convertItems document.tree depth (.list (trees items)) (index + 1))
            (convertItems document.node depth (.cell id) (index + 1)) (Lists document (.each rest)) := by
        intro later events adds
        rw [← isLater]
        exact ih (fun fewer less => visits fewer (Nat.lt_succ_of_lt less)) (adds.holds inside) (adds.holds holds)
          (index + 1)
      refine (first.cons (fun type => type) others fun _ _ => .next).congr ?_ ?_
      · rw [on_convertItems _ here, ← List.map_drop, isRest]
        rfl
      · rw [convertItems_list, trees_eq, ← List.map_drop, isRest]
        simp only [List.map_cons, map_eq_pure_bind, except_pure]

/-- The properties of a record are visited in order. -/
theorem recounts_properties (visits : ∀ fewer < depth, VisitRecounted record crew document fewer)
    {properties : List (Atom × Placed)} (inside : world.store.Holds [document])
    (holds : world.store.Holds (properties.map (·.2))) (required : List Value) :
    Recounts record crew world (convertProperties document.tree depth required (treesUnder properties))
      (convertProperties document.node depth required (Entries.mapValues node properties))
      (Lists document (.each (properties.map (·.2)))) := by
  induction depth generalizing world properties with
  | zero => exact fun _ _ done => nomatch done
  | succ depth ih =>
    cases properties with
    | nil => exact recounts_of_eq rfl .none
    | cons property rest =>
      obtain ⟨key, p⟩ := property
      rw [List.map_cons, Store.holds_cons] at holds
      have first := visits depth (Nat.lt_succ_self depth) world none p inside holds.1
      have others : ∀ later events, Adds world later events →
          Recounts record crew later (convertProperties document.tree depth required (treesUnder rest))
            (convertProperties document.node depth required (Entries.mapValues node rest))
            (Lists document (.each (rest.map (·.2)))) := fun later events adds =>
        ih (fun fewer less => visits fewer (Nat.lt_succ_of_lt less)) (adds.holds inside) (adds.holds holds.2)
      refine (first.cons (recordEntry required key) others fun _ _ => .next).congr ?_ ?_
      · rw [Entries.mapValues_cons, on_convertProperties]
      · simp only [treesUnder, convertProperties, map_eq_pure_bind, recordEntry]

theorem adds_copy (world : World) (entries : List (Atom × Placed)) (type : Placed) :
    Adds world (withCopy world entries type) [] where
  cells c l here := by
    have old : c < world.store.cells.size := (Array.getElem?_eq_some_iff.mp here).1
    rw [withCopy, Store.add, Array.getElem?_push, if_neg (by omega), here]
  types _ _ := id
  journal := (List.append_nil _).symm

/-- Copies of a schema are new cells, which hold what the schema holds. -/
theorem on_copies_of_holds (holds : world.store.Holds [.map id entries]) {types : List Placed}
    (each : ∀ type ∈ types, world.store.Holds [type]) :
    ∃ copies later, ((SchemaType.copies (.cell id) (types.map node) : Live (List Node)) crew).on world =
        (.ok (copies.map .cell), later) ∧ Adds world later [] ∧
      List.Forall₂ (fun copy type => later.store.Holds [.map copy (copyOf entries type)]) copies types := by
  induction types generalizing world with
  | nil => exact ⟨[], world, rfl, .refl world, .nil⟩
  | cons type rest ih =>
    have made := adds_copy world entries type
    obtain ⟨copies, later, done, adds, copied⟩ := ih (made.holds holds) fun other member =>
      made.holds (each other (List.mem_cons_of_mem _ member))
    have held : (withCopy world entries type).store.Holds [.map world.store.cells.size (copyOf entries type)] := by
      refine Store.holds_map.mpr ⟨Array.getElem?_push_size, made.holds ?_⟩
      exact Store.holds_put (Store.holds_put (Store.holds_map.mp holds).2 (each type List.mem_cons_self))
        fun l inside => absurd inside List.not_mem_nil
    refine ⟨world.store.cells.size :: copies, later, ?_, made.trans adds, .cons (adds.holds held) copied⟩
    rw [List.map_cons, SchemaType.copies, Live.on_bind_ok (on_retyped holds _), Live.on_bind_ok done]
    rfl

/-- What copies of a schema say is gone through in order. -/
theorem recounts_copies (throughs : ∀ fewer < depth, ThroughRecounted record crew document fewer)
    {copies : List Nat} {types : List Placed} (inside : world.store.Holds [document])
    (copied : List.Forall₂ (fun copy type => world.store.Holds [.map copy (copyOf entries type)]) copies types) :
    Recounts record crew world
      (convertCopies document.tree depth ((trees types).map (retypedTo (treesUnder entries))))
      (convertCopies document.node depth (copies.map .cell)) (Lists document (.copies entries types)) := by
  induction depth generalizing world copies types with
  | zero => exact fun _ _ done => nomatch done
  | succ depth ih =>
    cases copied with
    | nil => exact recounts_of_eq rfl .noCopy
    | @cons copy type copies types held rest =>
      have first := throughs depth (Nat.lt_succ_self depth) world none copy _ inside held
      have others : ∀ later events, Adds world later events →
          Recounts record crew later
            (convertCopies document.tree depth ((trees types).map (retypedTo (treesUnder entries))))
            (convertCopies document.node depth (copies.map .cell)) (Lists document (.copies entries types)) :=
        fun later events adds =>
          ih (fun fewer less => throughs fewer (Nat.lt_succ_of_lt less)) (adds.holds inside)
            (rest.imp fun _ _ => adds.holds)
      refine (first.cons (fun type => type) others fun _ _ => .copy).congr ?_ ?_
      · rw [List.map_cons, convertCopies]
        simp only [map_eq_pure_bind]
      · rw [trees, List.map_cons, convertCopies, treesUnder_copyOf, retypedTo]
        simp only [map_eq_pure_bind]

/-- A combination in a store is one of the schemas that stand under its key. -/
private theorem recounts_members (visits : ∀ fewer < depth, VisitRecounted record crew document fewer)
    (inside : world.store.Holds [document]) (holds : world.store.Holds [.map id entries]) {key : String}
    {members : List Value} (stated : membersAt (treesUnder entries) key = some members) :
    Recounts record crew world (convertItems document.tree depth (.list members) 0)
      (convertItems document.node depth (nodeAt entries key) 0)
      (Lists document (.each ((itemsAt entries key).getD []))) := by
  obtain ⟨at_, items, found, rfl⟩ := list_of_membersAt stated
  rw [nodeAt_of_field found, itemsAt, found]
  exact recounts_items visits inside (holds.field found) 0

private theorem recounts_part (visit : VisitRecounted record crew document depth)
    (inside : world.store.Holds [document]) (holds : world.store.Holds [.map id entries]) {key : String} {p : Placed}
    (found : Entries.field? entries key = some p) :
    Recounts record crew world (convert document.tree depth none p.tree)
      (convert document.node depth none (nodeAt entries key))
      (Lists document (.each (Entries.field? entries key).toList)) := by
  have first := visit world none p inside (holds.field found)
  rw [nodeAt_of_field found, found]
  intro type later done
  obtain ⟨isOk, turns, events, listed, tells⟩ := first type later done
  exact ⟨isOk, turns, events, List.append_nil turns ▸ .next listed .none, tells⟩

/-- An object in a store is a record of the properties that stand in it, or else a mapping. -/
private theorem recounts_object (visits : ∀ fewer ≤ depth, VisitRecounted record crew document fewer)
    (inside : world.store.Holds [document]) (holds : world.store.Holds [.map id entries]) (name : Option String)
    (types : List Placed) {form : Form} (formed : objectForm name (treesUnder entries) = .ok form) :
    Recounts record crew world (form.build document.tree depth name)
      (form.buildLive document.node id entries (types.map node) depth name)
      (Lists document (form.route entries types)) := by
  rw [objectForm_treesUnder] at formed
  cases declared : name.bind fun _ => innerAt entries "properties" with
  | some inner =>
    obtain ⟨own, rfl, stands⟩ := Option.bind_eq_some_iff.mp declared
    rw [declared] at formed
    obtain ⟨required, -, isForm⟩ := bind_eq_ok.mp formed
    cases isForm
    obtain ⟨at_, found⟩ := map_of_innerAt stands
    have recounts := recounts_properties (fun fewer less => visits fewer (Nat.le_of_lt less)) inside
      (Store.holds_map.mp (holds.field found)).2 required
    simp only [Form.build, Form.buildLive, Form.route, stands, Option.getD_some]
    exact recounts.map _
  | none =>
    rw [declared] at formed
    cases formed
    cases stands : innerAt entries "additionalProperties" with
    | none => exact recounts_of_eq rfl .none
    | some inner =>
      obtain ⟨at_, found⟩ := map_of_innerAt stands
      exact (recounts_part (visits depth (Nat.le_refl depth)) inside holds found).map _

/-- What a schema is by its kind. -/
private theorem recounts_kind (visits : ∀ fewer ≤ depth, VisitRecounted record crew document fewer)
    (inside : world.store.Holds [document]) (holds : world.store.Holds [.map id entries]) (name : Option String)
    (types : List Placed) {kind : Kind} {form : Form} (formed : kindForm name (treesUnder entries) kind = .ok form) :
    Recounts record crew world (form.build document.tree depth name)
      (form.buildLive document.node id entries (types.map node) depth name)
      (Lists document (form.route entries types)) := by
  unfold kindForm at formed
  split at formed
  · rw [field?_treesUnder] at formed
    cases formed
    cases items : Entries.field? entries "items" with
    | none => exact recounts_of_eq rfl (by rw [Form.route, items]; exact .none)
    | some p => exact (recounts_part (visits depth (Nat.le_refl depth)) inside holds items).map _
  · exact recounts_object visits inside holds name types formed
  · cases formed
    exact recounts_of_eq rfl .none
  · cases formed
    exact recounts_of_eq rfl .none

/-- The type of a form is recounted by the turns on the route of the form. -/
theorem recounts_build (visits : ∀ fewer ≤ depth, VisitRecounted record crew document fewer)
    (throughs : ∀ fewer < depth, ThroughRecounted record crew document fewer)
    (inside : world.store.Holds [document]) (holds : world.store.Holds [.map id entries]) (name : Option String)
    {types : List Placed} (each : ∀ type ∈ types, world.store.Holds [type]) {form : Form}
    (formed : formOf name (treesUnder entries) (trees types) = .ok form) :
    Recounts record crew world (form.build document.tree depth name)
      (form.buildLive document.node id entries (types.map node) depth name)
      (Lists document (form.route entries types)) := by
  have visitsBelow : ∀ fewer < depth, VisitRecounted record crew document fewer :=
    fun fewer less => visits fewer (Nat.le_of_lt less)
  rcases formOf_cases name (treesUnder entries) (trees types) with
    ⟨values, isLiterals⟩ | ⟨listed, const, combined, isCombined⟩ | isOpen
  · cases isLiterals.symm.trans formed
    exact recounts_of_eq rfl .none
  · cases (formOf_of_combination listed const isCombined).symm.trans formed
    rw [combinationOf_eq] at isCombined
    split at isCombined
    · rename_i members alternatives
      cases isCombined
      exact (recounts_members visitsBelow inside holds alternatives).map _
    · obtain ⟨members, conjuncts, rfl⟩ := Option.map_eq_some_iff.mp isCombined
      exact (recounts_members visitsBelow inside holds conjuncts).map _
  · rw [formOf_of_open isOpen] at formed
    split at formed
    · cases formed
      obtain ⟨copies, made, done, adds, copied⟩ := @on_copies_of_holds crew world id entries holds types each
      have recounts := (recounts_copies throughs (adds.holds inside) copied).map unionType
      intro type later converted
      simp only [Form.buildLive] at converted
      rw [Live.on_bind_ok done, ← map_eq_pure_bind] at converted
      obtain ⟨isOk, turns, events, tells, more, told⟩ := recounts type later converted
      exact ⟨isOk, turns, events, tells, adds.trans more, told.imp fun _ _ told => told.within adds (.refl later)⟩
    · obtain ⟨kind, -, formed⟩ := bind_eq_ok.mp formed
      exact recounts_kind visits inside holds name types formed

private theorem text_of_component? {p : Placed} {component : Option String} (asked : component? p.layer = .ok component) :
    ∃ ref, p = .atom (.text ref) ∧ Reference.componentName? ref = component := by
  cases p with
  | atom a =>
    cases a with
    | text ref => exact ⟨ref, rfl, Except.ok.inj asked⟩
    | _ => cases asked
  | _ => cases asked

/-- With null left out of account, a schema is recounted by the turns on the route of its form. -/
private theorem recounts_shaped (visits : ∀ fewer < depth, VisitRecounted record crew document fewer)
    (throughs : ∀ fewer < depth, ThroughRecounted record crew document fewer)
    (inside : world.store.Holds [document]) (holds : world.store.Holds [.map id entries]) (name : Option String)
    {nullable : Bool} {types : List Placed} (noReference : Entries.field? entries "$ref" = none)
    (typed : typingIn entries = .types nullable types) :
    Recounts record crew world (shaped document.tree depth name (.map (treesUnder entries)) (trees types))
      (shaped document.node depth name (.cell id) (types.map node)) (Lists document (.through name entries)) := by
  cases depth with
  | zero => exact fun _ _ done => nomatch done
  | succ depth =>
    have each := holds_typed holds typed
    cases formed : formOf name (treesUnder entries) (trees types) with
    | error fault =>
      intro type later done
      rw [on_shaped holds _ _ _ each, formed] at done
      cases done
    | ok form =>
      have recounts := recounts_build (fun fewer less => visits fewer (Nat.lt_succ_of_le less))
        (fun fewer less => throughs fewer (Nat.lt_succ_of_lt less)) inside holds name each formed
      intro type later done
      rw [on_shaped holds _ _ _ each, formed] at done
      obtain ⟨isOk, turns, events, listed, tells⟩ := recounts type later done
      refine ⟨?_, turns, events, .formed noReference typed formed listed, tells⟩
      rw [shaped_map, formed, except_bind_ok, isOk]

/-- What is no mapping cannot be gone through. -/
private theorem not_through_of_not_map {p : Placed} (holds : world.store.Holds [p]) (noMap : p.layer.isMap = false)
    (name : Option String) (type : Expr) (later : World) :
    ((unannounced document.node depth name p.node : Live Expr) crew).on world ≠ (.ok type, later) := by
  intro done
  cases depth with
  | zero => cases done
  | succ depth =>
    have complained : ∀ items : List Node, ∀ found last,
        ((do throw (← reference?.complaint items) : Live (Option Node)) crew).on world ≠ (.ok found, last) := by
      intro items found last failed
      obtain ⟨_, _, -, failed⟩ := Live.of_bind_ok failed
      cases failed
    rw [unannounced] at done
    obtain ⟨found, between, asked, -⟩ := Live.of_bind_ok done
    rw [reference?, Live.on_bind_ok (Live.on_shape _), Store.shape_of_holds holds] at asked
    cases p with
    | map id entries => cases noMap
    | list id items => exact complained _ _ _ asked
    | tuple id items => exact complained _ _ _ asked
    | set id members => cases asked
    | atom a => cases a <;> cases asked

/-- What a schema says is recounted if what the schemas in it say is. -/
private theorem through_recounted (visits : ∀ fewer < depth, VisitRecounted record crew document fewer)
    (throughs : ∀ fewer < depth, ThroughRecounted record crew document fewer) :
    ThroughRecounted record crew document depth := by
  intro world name id entries inside holds
  cases depth with
  | zero => exact fun _ _ done => nomatch done
  | succ depth =>
    intro type last done
    rw [on_unannounced holds] at done
    rw [unannounced_map, field?_treesUnder]
    cases refers : Entries.field? entries "$ref" with
    | some target =>
      rw [refers] at done
      obtain ⟨component, later, asked, done⟩ := Live.of_bind_ok done
      rw [Live.on_lift, Prod.mk.injEq] at asked
      obtain ⟨isComponent, rfl⟩ := asked
      obtain ⟨ref, rfl, named⟩ := text_of_component? isComponent
      have asked : component? (tree (.atom (.text ref))).shape = .ok component := isComponent
      simp only [Option.map_some, asked, except_bind_ok]
      cases component with
      | some component =>
        cases done
        exact ⟨rfl, [], [], .component refers named, .refl world, .nil⟩
      | none =>
        obtain ⟨target, between, followed, done⟩ := Live.of_bind_ok done
        obtain ⟨rfl, q, rfl, held, leads⟩ := Reference.leads_of_deref inside holds followed
        have stands : (Reference.deref (.map (treesUnder entries)) document.tree : Except Fault Value) = .ok q.tree :=
          leads.deref_tree
        rw [stands, except_bind_ok]
        cases leads with
        | here noReference => cases refers.symm.trans noReference
        | on refersToo resolves rest =>
          cases refers.symm.trans refersToo
          cases q with
          | map at_ inner =>
            obtain ⟨isOk, turns, events, listed, tells⟩ :=
              throughs depth (Nat.lt_succ_self depth) between name at_ inner inside held type last done
            exact ⟨isOk, turns, events, .followed refers named resolves rest listed, tells⟩
          | _ => exact absurd done (not_through_of_not_map held rfl name type last)
    | none =>
      rw [refers] at done
      rw [typesOf_treesUnder]
      cases typed : typingIn entries with
      | nullOnly =>
        rw [typed] at done
        cases done
        exact ⟨rfl, [], [], .nullOnly refers typed, .refl world, .nil⟩
      | types nullable types =>
        rw [typed] at done
        have recounts := recounts_shaped (fun fewer less => visits fewer (Nat.lt_succ_of_lt less))
          (fun fewer less => throughs fewer (Nat.lt_succ_of_lt less)) inside holds name refers typed
        obtain ⟨shape, later, converted, done⟩ := Live.of_bind_ok done
        obtain ⟨isOk, turns, events, listed, adds, told⟩ := recounts shape later converted
        rw [Live.on_bind_ok (on_enumeratesNull (adds.holds holds)), Live.on_pure] at done
        cases done
        refine ⟨?_, turns, events, listed, adds, told⟩
        simp only [Option.map_none, Typing.map, ← trees_eq, isOk, except_map_ok]

/-- A visit is recounted by the turns of the schema and those between them. -/
private theorem visit_recounted (listens : Listens record crew)
    (throughs : ∀ fewer < depth, ThroughRecounted record crew document fewer) :
    VisitRecounted record crew document depth := by
  intro world name p inside holds
  cases depth with
  | zero => exact fun _ _ done => nomatch done
  | succ depth =>
    intro type last done
    rw [convert, Live.on_bind_ok (Live.on_shape _), Store.shape_of_holds holds, Shape.isMap_mapParts] at done
    cases isMap : p.layer.isMap with
    | false =>
      rw [isMap] at done
      cases done
      have noMap : p.tree.shape.isMap = false := by rw [shape_tree, Shape.isMap_mapParts, isMap]
      exact ⟨convert_of_not_map name document.tree depth noMap, [], [], .other isMap, .refl world, .nil⟩
    | true =>
      obtain ⟨id, entries, rfl⟩ : ∃ id entries, p = .map id entries := by
        cases p with
        | map id entries => exact ⟨id, entries, rfl⟩
        | atom a => cases a <;> cases isMap
        | _ => cases isMap
      rw [isMap, if_pos rfl] at done
      obtain ⟨noted, entered, quiet, isEntered, enters⟩ := listens.enter world (.cell id)
      rw [node, Live.on_bind_ok isEntered] at done
      obtain ⟨built, between, converted, done⟩ := Live.of_bind_ok done
      have came := quiet.trans enters
      obtain ⟨isOk, turns, events, listed, adds, told⟩ := throughs depth (Nat.lt_succ_self depth) entered name id entries
        (came.holds inside) (came.holds holds) built between converted
      obtain ⟨shownIn, left, place, quietToo, shown, isLeft, leaves⟩ := listens.leave between (.cell id) built
      rw [isLeft] at done
      cases done
      have plain : (convert document.tree (depth + 1) name (.map (treesUnder entries)) : Except Fault Expr) = .ok type := by
        rw [convert_map, isOk]
      have leaving := quietToo.trans leaves
      have holdsThere := quietToo.holds (adds.holds (came.holds holds))
      have ended := came.trans (adds.trans leaving)
      have entering : Told record crew.document world last (.enter (.map id entries)) _ :=
        .enter (quiet.holds holds) ⟨⟨_, quiet⟩, _, enters.trans (adds.trans leaving)⟩
      have ending : Told record crew.document world last (.leave (.map id entries) type) _ :=
        .leave holdsThere shown (leaves.types _ _ shown) ⟨⟨_, came.trans (adds.trans quietToo)⟩, [], leaves⟩
      refine ⟨plain, _, _, .map (converts_iff.mp ⟨depth + 1, plain⟩) listed, ended, .cons entering ?_⟩
      exact List.rel_append (told.imp fun _ _ told => told.within came leaving) (.cons ending .nil)

/-- Every conversion is recounted, whatever steps it is given. -/
private theorem recounted (listens : Listens record crew) (document : Placed) (depth : Nat) :
    VisitRecounted record crew document depth ∧ ThroughRecounted record crew document depth := by
  -- a visit goes through a schema with fewer steps, and going through a schema visits others with fewer steps
  induction depth using Nat.strongRecOn with
  | ind depth ih =>
    exact ⟨visit_recounted listens fun fewer less => (ih fewer less).2,
      through_recounted (fun fewer less => (ih fewer less).1) fun fewer less => (ih fewer less).2⟩

end

/-- What a genuine plugin that only records sees of a conversion that succeeds is the listing of the schemas that are
visited: each mapping once before the schemas that are visited in it and once after them, with the type that it has. -/
theorem convert_recorded {record : World → Call → Event} {crew : Crew} {member : Nat} {plugin : Plugin}
    {before after : Callback} (alone : crew.members = [member]) (genuine : crew.registry.genuine? member = some plugin)
    (fillsBefore : plugin.callback? .beforeSchema = some before) (fillsAfter : plugin.callback? .afterSchema = some after)
    (recordsBefore : Records record before) (recordsAfter : Records record after) {world later : World}
    {document schema : Placed} (isDocument : crew.document = document.node) (inside : world.store.Holds [document])
    (holds : world.store.Holds [schema]) {depth : Nat} {name : Option String} {type : Expr}
    (done : ((convert crew.document depth name schema.node : Live Expr) crew).on world = (.ok type, later)) :
    ofSchema document.tree name schema.tree = .ok type ∧
      ∃ turns events, (∀ others, Lists document (.visit name schema) others ↔ others = turns) ∧
        later.journal = world.journal ++ events ∧
        List.Forall₂ (Told record crew.document world later) turns events := by
  have listens := listens_of_records alone genuine fillsBefore fillsAfter recordsBefore recordsAfter
  rw [isDocument] at done
  obtain ⟨isOk, turns, events, listed, adds, told⟩ :=
    (recounted listens document depth).1 world name schema inside holds type later done
  refine ⟨converts_iff.mp ⟨depth, isOk⟩, turns, events, fun others => ⟨fun listedToo => listedToo.unique listed, ?_⟩,
    adds.journal, told⟩
  rintro rfl
  exact listed

/-! A plugin that notes every schema it is shown, with an array of limits that may also be a mapping of texts. The
limits are referred to, and stand elsewhere in the document. -/

private def notice (world : World) (call : Call) : Event :=
  { source := .text "notes"
    slot := some call.occasion.checkpoint.slot
    shown := match call.occasion with
      | .beforeSchema schema => some (world.store.read schema)
      | .afterSchema schema _ => some (world.store.read schema)
      | _ => none }

private def noting : Plugin :=
  { name := .text "notes", callbacks := [(.beforeSchema, recording notice), (.afterSchema, recording notice)] }

private def number : Placed := .map 0 [(.text "type", .atom (.text "integer"))]

private def limits : Placed := .map 2 [(.text "limit", .map 1 [(.text "allOf", .list 3 [number])])]

private def limit : Placed := .map 4 [(.text "$ref", .atom (.text "#/limit"))]

private def label : Placed := .map 5 [(.text "type", .atom (.text "string"))]

private def limitedEntries : List (Atom × Placed) :=
  [(.text "type", .list 7 [.atom (.text "array"), .atom (.text "object")]), (.text "items", limit),
    (.text "additionalProperties", label)]

private def limited : Placed := .map 6 limitedEntries

private def limitsWorld : World :=
  { store := ⟨#[.map [(.text "type", .atom (.text "integer"))], .map [(.text "allOf", .cell 3)],
      .map [(.text "limit", .cell 1)], .list [.cell 0], .map [(.text "$ref", .atom (.text "#/limit"))],
      .map [(.text "type", .atom (.text "string"))],
      .map [(.text "type", .cell 7), (.text "items", .cell 4), (.text "additionalProperties", .cell 5)],
      .list [.atom (.text "array"), .atom (.text "object")]]⟩ }

private def notingCrew : Crew := ⟨⟨[(0, .plugin noting)], [(0, true)]⟩, [0], limits.node⟩

private def limitedType : Expr :=
  .index "Union" [.index "list" [.name "int"], .mappingTo (.name "str")]

/-- The turns of the schemas that are visited: the limits are only referred to, and the array and the mapping are made
of copies. -/
private def limitedTurns : List Turn :=
  [.enter limited, .enter limit, .enter number, .leave number (.name "int"), .leave limit (.name "int"), .enter label,
    .leave label (.name "str"), .leave limited limitedType]

private theorem lists_limited : Lists limits (.visit none limited) limitedTurns := by
  have counted : Lists limits (.visit none number) (.enter number :: ([] ++ [.leave number (.name "int")])) :=
    .map rfl (.formed rfl rfl rfl .none)
  have there : Lists limits (.through none [(.text "allOf", .list 3 [number])])
      ([.enter number, .leave number (.name "int")] ++ []) := .formed rfl rfl rfl (.next counted .none)
  have referred : Lists limits (.visit none limit)
      (.enter limit :: ([.enter number, .leave number (.name "int")] ++ [.leave limit (.name "int")])) :=
    .map rfl (.followed rfl rfl rfl (.here rfl) there)
  have text : Lists limits (.visit none label) (.enter label :: ([] ++ [.leave label (.name "str")])) :=
    .map rfl (.formed rfl rfl rfl .none)
  have array : Lists limits (.through none (copyOf limitedEntries (.atom (.text "array")))) (_ ++ []) :=
    .formed rfl rfl rfl (.next referred .none)
  have mapping : Lists limits (.through none (copyOf limitedEntries (.atom (.text "object")))) (_ ++ []) :=
    .formed rfl rfl rfl (.next text .none)
  have copied : Lists limits (Form.route limitedEntries [.atom (.text "array"), .atom (.text "object")]
      (.copies ([.text "array", .text "object"].map (retypedTo (treesUnder limitedEntries))))) _ :=
    .copy array (.copy mapping .noCopy)
  exact .map rfl (.formed rfl rfl rfl copied)

/-- The plugin that notes every schema, with limits. -/
theorem convert_recorded_limits :
    notingCrew.members = [0] ∧ notingCrew.registry.genuine? 0 = some noting ∧ notingCrew.document = limits.node ∧
      limitsWorld.store.Holds [limits] ∧ limitsWorld.store.Holds [limited] ∧
      ∃ later events, ((convert notingCrew.document liveDepth none limited.node : Live Expr) notingCrew).on limitsWorld =
          (.ok limitedType, later) ∧
        later.journal = events ∧ List.Forall₂ (Told notice notingCrew.document limitsWorld later) limitedTurns events := by
  have genuine : notingCrew.registry.genuine? 0 = some noting := rfl
  have inside : limitsWorld.store.Holds [limits] := by
    intro l member
    simp only [limits, number, layersOf, layers, layersUnder, List.append_nil, List.mem_cons, List.not_mem_nil,
      or_false] at member
    rcases member with rfl | rfl | rfl | rfl <;> rfl
  have holds : limitsWorld.store.Holds [limited] := by
    intro l member
    simp only [limited, limitedEntries, limit, label, layersOf, layers, layersUnder, List.append_nil, List.nil_append,
      List.cons_append, List.mem_cons, List.not_mem_nil, or_false] at member
    rcases member with rfl | rfl | rfl | rfl <;> rfl
  obtain ⟨type, later, done⟩ : ∃ type later,
      ((convert notingCrew.document liveDepth none limited.node : Live Expr) notingCrew).on limitsWorld =
        (.ok type, later) := Run.succeeds_of_isSome (by decide +kernel)
  obtain ⟨isType, turns, events, listed, journal, told⟩ := convert_recorded rfl genuine rfl rfl
    (records_recording notice) (records_recording notice) rfl inside holds done
  obtain rfl : limitedType = type := Except.ok.inj isType
  obtain rfl := (listed limitedTurns).mp lists_limited
  exact ⟨rfl, genuine, rfl, inside, holds, later, events, done, journal, told⟩

end ClientGen.SchemaType
