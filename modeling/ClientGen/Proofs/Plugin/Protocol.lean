import ClientGen.Proofs.Plugin.Trace
import Mathlib.Computability.Language
import Mathlib.Order.CompletePartialOrder

/-!
The order of a run. The checkpoints that a run enters make up a word of a language, or a beginning of one where
the run fails: conversions of schemas are nested in each other, operations follow each other, and what surrounds
them comes once. At each checkpoint every plugin that fills the slot is called once, in the order of the list,
before the next one is entered (`follows_protocol`).
-/

namespace ClientGen

open Computability

namespace Protocol

/-- The checkpoints of conversions that follow each other, with the conversions inside each. -/
inductive Conversions : List Checkpoint → Prop
  | none : Conversions []
  | more {inside rest : List Checkpoint} (within : Conversions inside) (behind : Conversions rest) :
    Conversions (.beforeSchema :: inside ++ .afterSchema :: rest)

/-- Any number of conversions of schemas. -/
def conversions : Language Checkpoint := {word | Conversions word}

/-- One operation that becomes a function. -/
def operation : Language Checkpoint := {[.beforeOperation]} * conversions * {[.afterOperation]}

/-- A whole run that makes a number of functions. -/
def wholeRun (functions : Nat) : Language Checkpoint :=
  {[.started, .modifyDefaults, .modifyServers]} * conversions * operation ^ functions *
    {[.moduleBuilt, .beforeWrite, .afterWrite]}

end Protocol

/-- The occasion of a checkpoint that is entered. -/
def Sight.occasion? : Sight → Option (Occasion Node)
  | entered occasion => some occasion
  | called _ _ => none

/-- The calls of those members of a list that are genuine plugins and fill the slot. -/
def Crew.calls (crew : Crew) (call : Call) (members : List Nat) : List Sight :=
  (members.filter fun id => (crew.registry.responder? call.occasion.checkpoint id).isSome).map (.called · call)

/-- What is seen of one checkpoint: it is entered, and everyone is called who fills the slot. -/
def Crew.event (crew : Crew) (occasion : Occasion Node) : List Sight :=
  .entered occasion :: crew.calls ⟨occasion, crew.document⟩ crew.members

/-! ### Words -/

namespace Protocol

theorem Conversions.append {word other : List Checkpoint} (first : Conversions word) (second : Conversions other) :
    Conversions (word ++ other) := by
  induction first with
  | none => exact second
  | more within _ _ ih =>
    rw [List.append_assoc, List.cons_append]
    exact .more within ih

theorem conversions_mul : conversions * conversions ≤ conversions := by
  rintro _ ⟨word, first, other, second, rfl⟩
  exact Conversions.append first second

theorem nil_mem_conversions : [] ∈ conversions := Conversions.none

theorem one_le_conversions : 1 ≤ conversions := by
  rintro _ rfl
  exact nil_mem_conversions

theorem conversion_le : {[.beforeSchema]} * (conversions * {[.afterSchema]}) ≤ conversions := by
  rintro _ ⟨_, rfl, _, ⟨inside, within, _, rfl, rfl⟩, rfl⟩
  exact Conversions.more within .none

theorem count_conversions {word : List Checkpoint} (member : word ∈ conversions) :
    word.count .afterOperation = 0 := by
  induction member with
  | none => rfl
  | more _ _ inside rest => simp [inside, rest]

theorem count_operations {n : Nat} {word : List Checkpoint} (member : word ∈ operation ^ n) :
    word.count .afterOperation = n := by
  induction n generalizing word with
  | zero =>
    rw [pow_zero, Language.mem_one] at member
    simp [member]
  | succ n ih =>
    rw [pow_succ, Language.mem_mul] at member
    obtain ⟨first, before, _, ⟨_, ⟨_, rfl, inside, within, rfl⟩, _, rfl, rfl⟩, rfl⟩ := member
    simp [ih before, count_conversions within]

/-- A whole run makes as many functions as operations are left. -/
theorem count_wholeRun {n : Nat} {word : List Checkpoint} (member : word ∈ wholeRun n) :
    word.count .afterOperation = n := by
  obtain ⟨_, ⟨_, ⟨_, rfl, schemas, converted, rfl⟩, operations, made, rfl⟩, _, rfl, rfl⟩ := member
  simp [count_conversions converted, count_operations made]

/-- A language that has a word. -/
class Spoken (language : Language Checkpoint) : Prop where
  spoken : ∃ word, word ∈ language

instance (word : List Checkpoint) : Spoken {word} := ⟨word, rfl⟩

instance : Spoken 1 := ⟨[], rfl⟩

instance : Spoken conversions := ⟨[], nil_mem_conversions⟩

instance (language : Language Checkpoint) : Spoken language∗ := ⟨[], Language.nil_mem_kstar language⟩

instance (language others : Language Checkpoint) [first : Spoken language] [second : Spoken others] :
    Spoken (language * others) := by
  obtain ⟨word, member⟩ := first
  obtain ⟨other, member'⟩ := second
  exact ⟨_, Language.append_mem_mul member member'⟩

end Protocol

namespace Traced

open Protocol

variable {α β : Type}

/-! ### Steps and languages -/

/-- What is seen in one go follows a language: checkpoints are entered one after the other, the last one possibly
without everyone being called, and they are a beginning of a word of the language; where the step succeeds
they are all complete, and the word is one for the result. -/
def Follows (crew : Crew) (language : Language Checkpoint) (words : α → Language Checkpoint)
    (outcome : Except Fault α) (sights : List Sight) : Prop :=
  match outcome with
  | .ok a => ∃ occasions : List (Occasion Node), sights = occasions.flatMap crew.event ∧
      occasions.map (·.checkpoint) ∈ words a
  | .error _ => ∃ occasions : List (Occasion Node), sights <+: occasions.flatMap crew.event ∧
      ∃ word ∈ language, occasions.map (·.checkpoint) <+: word

/-- A step follows a language whatever the world is, with words that depend on the result. -/
def Adheres (step : Traced α) (language : Language Checkpoint) (words : α → Language Checkpoint) : Prop :=
  ∀ crew world, Follows crew language words (step.on crew world).1.1 ((step.on crew world).1.2.map (·.sight))

variable {language others : Language Checkpoint}
variable {words : α → Language Checkpoint} {otherWords : β → Language Checkpoint}

theorem adheres_pure (a : α) (nil : [] ∈ words a) : Adheres (pure a) language words := fun _ _ => ⟨[], rfl, nil⟩

theorem Adheres.mono {step : Traced α} (adheres : Adheres step language words) {larger : Language Checkpoint}
    {more : α → Language Checkpoint} (within : language ≤ larger) (each : ∀ a, words a ≤ more a) :
    Adheres step larger more := by
  intro crew world
  have follows := adheres crew world
  revert follows
  cases (step.on crew world).1.1 with
  | ok a => exact fun ⟨occasions, seen, member⟩ => ⟨occasions, seen, each a member⟩
  | error fault => exact fun ⟨occasions, seen, word, member, cut⟩ => ⟨occasions, seen, word, within member, cut⟩

/-- Steps one after the other follow the languages one after the other, if the second one has a word at all. -/
theorem Adheres.bind [possible : Spoken others] {step : Traced α} {next : α → Traced β}
    (first : Adheres step language words) {later : α → β → Language Checkpoint}
    (rest : ∀ a, Adheres (next a) others (later a)) {whole : Language Checkpoint}
    (started : language * others ≤ whole) (continued : ∀ a, words a * others ≤ whole)
    (ended : ∀ a b, words a * later a b ≤ otherWords b) : Adheres (step >>= next) whole otherWords := by
  intro crew world
  have begins := first crew world
  rw [on_bind]
  revert begins
  rcases step.on crew world with ⟨⟨fault | a, marks⟩, between⟩
  · rintro ⟨occasions, seen, word, member, cut⟩
    obtain ⟨more, member'⟩ := possible.spoken
    exact ⟨occasions, seen, word ++ more, started (Language.append_mem_mul member member'),
      cut.trans (List.prefix_append word more)⟩
  · rintro ⟨occasions, seen, member⟩
    replace seen : marks.map (·.sight) = occasions.flatMap crew.event := seen
    have goesOn := rest a crew between
    revert goesOn
    dsimp only
    rw [List.map_append, seen]
    cases ((next a).on crew between).1.1 with
    | ok b =>
      rintro ⟨more, seen', member'⟩
      refine ⟨occasions ++ more, by rw [seen', List.flatMap_append], ?_⟩
      rw [List.map_append]
      exact ended a b (Language.append_mem_mul member member')
    | error fault =>
      rintro ⟨more, seen', word, member', cut⟩
      refine ⟨occasions ++ more, ?_, occasions.map (·.checkpoint) ++ word,
        continued a (Language.append_mem_mul member member'), ?_⟩
      · rw [List.flatMap_append]
        exact (List.prefix_append_right_inj _).mpr seen'
      · rw [List.map_append]
        exact (List.prefix_append_right_inj _).mpr cut

/-- Behind a step whose words do not depend on its result. -/
theorem Adheres.then [Spoken others] {step : Traced α} {next : α → Traced β}
    (first : Adheres step language fun _ => language) (rest : ∀ a, Adheres (next a) others otherWords) :
    Adheres (step >>= next) (language * others) fun b => language * otherWords b :=
  first.bind rest le_rfl (fun _ => le_rfl) fun _ _ => le_rfl

/-- A step of which nothing is seen. -/
def Silent (step : Traced α) : Prop := Adheres step 1 fun _ => 1

theorem Silent.then [Spoken others] {step : Traced α} {next : α → Traced β} (first : Silent step)
    (rest : ∀ a, Adheres (next a) others otherWords) : Adheres (step >>= next) others otherWords :=
  (Adheres.then first rest).mono (one_mul others).le fun b => (one_mul (otherWords b)).le

/-! ### What is seen of a checkpoint -/

theorem sights_respond (id : Nat) (call : Call) (crew : Crew) (world : World) :
    ((respond id call).on crew world).1.2.map (·.sight) = crew.calls call [id] := by
  rw [respond, on_bind, on_read, Crew.calls]
  dsimp only
  cases found : crew.registry.responder? call.occasion.checkpoint id with
  | none => simp [found]
  | some responder =>
    simp only [on_bind, on_ofRun, on_mark, Plugin.reportCall, Run.on_note]
    simp [found]

theorem sights_respondAll (members : List Nat) (call : Call) (crew : Crew) (world : World) :
    let result := (respondAll members call).on crew world
    result.1.2.map (·.sight) <+: crew.calls call members ∧
      (result.1.1 = .ok () → result.1.2.map (·.sight) = crew.calls call members) := by
  induction members generalizing world with
  | nil => exact ⟨List.nil_prefix, fun _ => rfl⟩
  | cons id rest ih =>
    have split : crew.calls call (id :: rest) = crew.calls call [id] ++ crew.calls call rest := by
      rw [Crew.calls, Crew.calls, Crew.calls, ← List.map_append, ← List.filter_append, List.singleton_append]
    have first := sights_respond id call crew world
    rw [respondAll, on_bind, split]
    revert first
    rcases (respond id call).on crew world with ⟨⟨fault | _, marks⟩, later⟩
    · intro first
      exact ⟨first ▸ List.prefix_append _ _, nofun⟩
    · intro first
      obtain ⟨cut, complete⟩ := ih later
      replace first : marks.map (·.sight) = crew.calls call [id] := first
      dsimp only
      rw [List.map_append, first]
      exact ⟨(List.prefix_append_right_inj _).mpr cut, fun done => by rw [complete done]⟩

theorem adheres_announce (occasion : Occasion Node) :
    Adheres (announce occasion) {[occasion.checkpoint]} fun _ => {[occasion.checkpoint]} := by
  intro crew world
  obtain ⟨cut, complete⟩ := sights_respondAll crew.members ⟨occasion, crew.document⟩ crew world
  rw [on_announce]
  revert cut complete
  rcases (respondAll crew.members ⟨occasion, crew.document⟩).on crew world with ⟨⟨fault | _, marks⟩, later⟩
  · intro cut _
    refine ⟨[occasion], ?_, _, rfl, List.prefix_rfl⟩
    rw [List.flatMap_singleton]
    exact List.cons_prefix_cons.mpr ⟨rfl, cut⟩
  · intro _ complete
    refine ⟨[occasion], ?_, rfl⟩
    rw [List.flatMap_singleton]
    exact congrArg _ (complete rfl)

/-! ### Steps that follow a language -/

theorem silent_ofRun (step : Run α) : Silent (ofRun step) := by
  intro crew world
  rw [on_ofRun]
  cases (step.on world).1 with
  | ok a => exact ⟨[], rfl, rfl⟩
  | error fault => exact ⟨[], List.nil_prefix, [], rfl, List.nil_prefix⟩

theorem silent_read : Silent read := fun _ _ => ⟨[], rfl, rfl⟩

/-- Following a language that has its repetitions is an agreement of a way of running with itself. -/
theorem drafting_adheres {language : Language Checkpoint} (nil : 1 ≤ language)
    (closed : language * language ≤ language) :
    Drafting Node Traced Traced fun step _ => Adheres step language fun _ => language := by
  have quiet {α : Type} {step : Traced α} (silent : Silent step) : Adheres step language fun _ => language :=
    silent.mono nil fun _ => nil
  have spoken : Spoken language := ⟨[], nil rfl⟩
  have put {α β : Type} {step : Traced α} {next : α → Traced β} (first : Adheres step language fun _ => language)
      (rest : ∀ a, Adheres (next a) language fun _ => language) :
      Adheres (step >>= next) language fun _ => language :=
    first.bind rest closed (fun _ => closed) fun _ _ => closed
  have settled {α : Type} (a : α) : Silent (pure a) := silent_ofRun (pure a)
  constructor
  · constructor
    · exact fun a => quiet (settled a)
    · exact fun fault => quiet (silent_ofRun (throw fault))
    · exact put
    · intro α β step _ f first
      rw [map_eq_bind]
      exact put first fun a => quiet (settled (f a))
    · exact fun record => quiet (silent_ofRun _)
    · exact fun node => quiet (silent_ofRun _)
    · exact fun node => quiet (silent_ofRun _)
    · exact fun node => quiet (silent_ofRun _)
  · exact fun _ => quiet (silent_ofRun _)

/-- Nothing is seen of what only reads and works on the module. -/
theorem silent : Drafting Node Traced Traced fun step _ => Silent step :=
  drafting_adheres le_rfl (one_mul 1).le

/-- Of what converts schemas conversions are seen. -/
theorem converting : Drafting Node Traced Traced fun step _ => Adheres step conversions fun _ => conversions :=
  drafting_adheres one_le_conversions conversions_mul

/-- Around a conversion stand the two checkpoints of its schema. -/
theorem adheres_announced (schema : Node) {step : Traced Expr}
    (inside : Adheres step conversions fun _ => conversions) :
    Adheres (do enter schema; leave schema (← step)) conversions fun _ => conversions := by
  have left (type : Expr) :
      Adheres (leave schema type) {[.afterSchema]} fun _ => {[.afterSchema]} := by
    refine (silent_ofRun (Live.layOut type)).then fun id => ?_
    have behind := Adheres.then (adheres_announce (.afterSchema schema id))
      fun _ => silent_ofRun (Live.takeBack id)
    exact behind.mono (mul_one _).le fun _ => (mul_one _).le
  have whole := Adheres.then (adheres_announce (.beforeSchema schema)) fun _ => Adheres.then inside left
  exact whole.mono conversion_le fun _ => conversion_le

theorem announcing : Announcing Node Traced Traced fun step _ => Adheres step conversions fun _ => conversions where
  toAgreement := converting.toAgreement
  of_retyped _ _ := (silent_ofRun _).mono one_le_conversions fun _ => one_le_conversions
  of_announced schema _ _ inside := adheres_announced schema inside

theorem adheres_typeOf (name : Option String) (schema : Node) :
    Adheres (services.typeOf name schema) conversions fun _ => conversions :=
  silent_read.then fun crew => announcing.of_convert crew.document SchemaType.liveDepth name schema

/-! ### Runs -/

/-- The operations that were made into functions on the way from one record of functions to a later one. -/
def visited (made later : Generation.Made) : Language Checkpoint :=
  {word | ∃ n, later.names.length = made.names.length + n ∧ word ∈ Protocol.operation ^ n}

theorem nil_mem_visited (made : Generation.Made) : [] ∈ visited made made := ⟨0, rfl, rfl⟩

theorem visited_mul (made between later : Generation.Made) :
    visited made between * visited between later ≤ visited made later := by
  rintro _ ⟨word, ⟨n, first, member⟩, other, ⟨k, second, member'⟩, rfl⟩
  refine ⟨n + k, by omega, ?_⟩
  rw [pow_add]
  exact Language.append_mem_mul member member'

theorem visited_le (made later : Generation.Made) : visited made later ≤ operation∗ := by
  rintro word ⟨n, -, member⟩
  exact (pow_le_kstar : operation ^ n ≤ operation∗) member

theorem visited_mul_le (made later : Generation.Made) : visited made later * operation∗ ≤ operation∗ :=
  (mul_le_mul_left (visited_le made later) _).trans (kstar_mul_kstar operation).le

theorem adheres_functionOf (document : Node) (method path : String) (operation : Node) (item : Option Node)
    (taken : Option (List String)) :
    Adheres (Generation.functionOf services document method path operation item taken)
      ({[.beforeOperation]} * conversions) fun _ => {[.beforeOperation]} * conversions := by
  refine Adheres.then (adheres_announce (.beforeOperation operation)) fun _ => ?_
  refine converting.of_function _ (fun _ => pure .anything) (fun schema => ?_) document method path operation item taken
  cases schema with
  | none => exact converting.of_pure _
  | some schema => exact adheres_typeOf none schema

theorem adheres_addFunction (document : Node) (method path : String) (operation item : Node)
    (made : Generation.Made) :
    Adheres (Generation.addFunction services document method path operation item made) Protocol.operation
      (visited made) := by
  let oneMore (later : Generation.Made) : Language Checkpoint :=
    {word | word = [] ∧ later.names.length = made.names.length + 1}
  have whole : Adheres (Generation.addFunction services document method path operation item made)
      ({[.beforeOperation]} * conversions * ({[.afterOperation]} * 1))
      fun later => {[.beforeOperation]} * conversions * ({[.afterOperation]} * oneMore later) := by
    refine (adheres_functionOf document method path operation (some item) (some made.taken)).then fun function => ?_
    refine (silent.of_place (.define function)).then fun id => ?_
    refine (adheres_announce (.afterOperation operation id)).then fun _ => ?_
    refine (silent.of_statementAt id).then fun statement => ?_
    exact (silent.of_note _).then fun _ => adheres_pure _ ⟨rfl, List.length_append⟩
  refine whole.mono ?_ fun later => ?_
  · rw [mul_one]
    exact le_rfl
  · rintro _ ⟨word, inside, _, ⟨_, rfl, _, ⟨rfl, oneMore⟩, rfl⟩, rfl⟩
    refine ⟨1, oneMore, ?_⟩
    rw [pow_one]
    exact Language.append_mem_mul inside rfl

theorem adheres_visitMethods (document : Node) (path : Atom) (item : Node) (methods : List String)
    (made : Generation.Made) :
    Adheres (Generation.visitMethods services document path item methods made) operation∗ (visited made) := by
  induction methods generalizing made with
  | nil => exact adheres_pure made (nil_mem_visited made)
  | cons method rest ih =>
    refine (silent.of_fieldOf item method).then fun stated => ?_
    refine (silent.of_mapping? stated).then fun chosen => ?_
    cases chosen with
    | none => exact ih made
    | some chosen =>
      refine (silent.of_selected chosen).then fun selects => ?_
      split
      · refine (silent.of_lift _).then fun shownPath => ?_
        exact (adheres_addFunction document method shownPath chosen item made).bind ih mul_kstar_le_kstar
          (visited_mul_le made) (visited_mul made)
      · exact ih made

theorem adheres_visitPaths (document : Node) (paths : List (Atom × Node)) (made : Generation.Made) :
    Adheres (Generation.visitPaths services document paths made) operation∗ (visited made) := by
  induction paths generalizing made with
  | nil => exact adheres_pure made (nil_mem_visited made)
  | cons entry rest ih =>
    refine (silent.of_deref entry.2 document).then fun node => ?_
    refine (silent.of_mapping? (some node)).then fun item => ?_
    cases item with
    | none => exact ih made
    | some item =>
      exact (adheres_visitMethods document entry.1 item Generation.methods made).bind ih
        (kstar_mul_kstar operation).le (visited_mul_le made) (visited_mul made)

/-- The checkpoints up to the end of the head, with what follows. -/
private abbrev opening (rest : Language Checkpoint) : Language Checkpoint :=
  {[.started]} * ({[.modifyDefaults]} * ({[.modifyServers]} * rest))

/-- The checkpoints from the end of the module on, with what is known in the end. -/
private abbrev closing (ending : Language Checkpoint) : Language Checkpoint :=
  {[.moduleBuilt]} * ({[.beforeWrite]} * ({[.afterWrite]} * ending))

private theorem threeLetters (a b c : Checkpoint) :
    ({[a]} * ({[b]} * {[c]}) : Language Checkpoint) = {[a, b, c]} := by
  ext word
  constructor
  · rintro ⟨_, rfl, _, ⟨_, rfl, _, rfl, rfl⟩, rfl⟩
    rfl
  · rintro rfl
    exact ⟨_, rfl, _, ⟨_, rfl, _, rfl, rfl⟩, rfl⟩

private theorem wholeRun_eq (n : Nat) : opening (conversions * (operation ^ n * closing 1)) = wholeRun n := by
  rw [wholeRun, ← threeLetters, ← threeLetters, opening, closing]
  simp only [mul_one, mul_assoc]

/-- Where the record of functions ends up in the outcome, the outcome counts the operations. -/
private theorem visited_closing (made : Generation.Made) (outcome : Generation.Outcome) :
    visited {} made * closing {word | word = [] ∧ outcome.functions = made.names} ≤
      operation ^ outcome.functions.length * closing 1 := by
  rintro _ ⟨word, ⟨n, length, member⟩, _, ⟨_, rfl, _, ⟨_, rfl, _, ⟨_, rfl, _, ⟨rfl, functions⟩, rfl⟩, rfl⟩, rfl⟩, rfl⟩
  have count : outcome.functions.length = n := by simp [functions, length]
  rw [count]
  exact Language.append_mem_mul member ⟨_, rfl, _, ⟨_, rfl, _, ⟨_, rfl, _, rfl, rfl⟩, rfl⟩, rfl⟩

/-- A run follows the language of whole runs, in words for the number of its functions. -/
theorem adheres_generation (document : Node) :
    Adheres (generation document) (opening (conversions * (operation∗ * closing 1)))
      fun outcome => opening (conversions * (operation ^ outcome.functions.length * closing 1)) := by
  refine (adheres_announce .started).then fun _ => ?_
  refine (silent.of_setting "base_url").then fun baseUrl => ?_
  refine (silent.of_build document baseUrl).then fun head => ?_
  refine (silent_ofRun _).then fun base => ?_
  refine (silent_ofRun _).then fun _ => ?_
  refine (adheres_announce (.defaults _)).then fun _ => ?_
  refine (adheres_announce (.servers _)).then fun _ => ?_
  refine (silent.of_componentSchemas document).then fun schemas => ?_
  refine (converting.of_addTypes services services adheres_typeOf schemas).then fun types => ?_
  refine (silent.of_pathItems document).then fun paths => ?_
  refine (adheres_visitPaths document paths {}).bind (fun made => ?_) le_rfl
    (fun made => mul_le_mul_left (visited_le {} made) _) visited_closing
  refine (adheres_announce .moduleBuilt).then fun _ => ?_
  refine (silent.of_render document).then fun contents => ?_
  refine (silent.of_setting "output").then fun output => ?_
  refine (adheres_announce (.beforeWrite (Generation.fileOf output) contents)).then fun _ => ?_
  refine (silent_ofRun (Generation.write (Generation.fileOf output) contents)).then fun _ => ?_
  exact (adheres_announce (.afterWrite (Generation.fileOf output) contents)).then fun _ => adheres_pure _ ⟨rfl, rfl⟩

/-- Every way through a run belongs to a whole run. -/
private theorem wholeRun_of_way {word : List Checkpoint}
    (member : word ∈ opening (conversions * (operation∗ * closing 1))) : ∃ n, word ∈ wholeRun n := by
  rw [Language.kstar_eq_iSup_pow, Language.iSup_mul, Language.mul_iSup] at member
  simp only [opening, Language.mul_iSup, Language.mem_iSup] at member
  obtain ⟨n, member⟩ := member
  exact ⟨n, wholeRun_eq n ▸ member⟩

/-! ### What is seen of a run -/

private theorem occasions_calls (crew : Crew) (call : Call) (members : List Nat) :
    (crew.calls call members).filterMap Sight.occasion? = [] := by
  simp [Crew.calls, Sight.occasion?]

private theorem occasions_event (crew : Crew) (occasion : Occasion Node) :
    (crew.event occasion).filterMap Sight.occasion? = [occasion] :=
  congrArg (occasion :: ·) (occasions_calls crew _ _)

theorem occasions_events (crew : Crew) (occasions : List (Occasion Node)) :
    (occasions.flatMap crew.event).filterMap Sight.occasion? = occasions := by
  induction occasions with
  | nil => rfl
  | cons occasion rest ih => rw [List.flatMap_cons, List.filterMap_append, occasions_event, ih, List.singleton_append]

/-- What is seen is cut behind a checkpoint, or between the calls of one. -/
theorem prefix_events {crew : Crew} {sights : List Sight} {occasions : List (Occasion Node)}
    (cut : sights <+: occasions.flatMap crew.event) :
    sights.filterMap Sight.occasion? <+: occasions ∧
      sights <+: (sights.filterMap Sight.occasion?).flatMap crew.event := by
  induction occasions generalizing sights with
  | nil =>
    rw [List.prefix_nil.mp cut]
    exact ⟨List.nil_prefix, List.nil_prefix⟩
  | cons occasion rest ih =>
    rw [List.flatMap_cons] at cut
    rcases List.prefix_or_prefix_of_prefix cut (List.prefix_append _ _) with inside | ⟨more, rfl⟩
    · rcases List.prefix_cons_iff.mp inside with rfl | ⟨calls, rfl, within⟩
      · exact ⟨List.nil_prefix, List.nil_prefix⟩
      · have none : calls.filterMap Sight.occasion? = [] := by
          have called := within.filterMap Sight.occasion?
          rwa [occasions_calls, List.prefix_nil] at called
        have one : (Sight.entered occasion :: calls).filterMap Sight.occasion? = [occasion] :=
          congrArg (occasion :: ·) none
        rw [one, List.flatMap_singleton]
        exact ⟨List.cons_prefix_cons.mpr ⟨rfl, List.nil_prefix⟩, inside⟩
    · obtain ⟨shorter, seen⟩ := ih ((List.prefix_append_right_inj _).mp cut)
      rw [List.filterMap_append, occasions_event, List.singleton_append, List.flatMap_cons]
      exact ⟨List.cons_prefix_cons.mpr ⟨rfl, shorter⟩, (List.prefix_append_right_inj _).mpr seen⟩

/-- The checkpoints that a run enters are a beginning of a word for a whole run, and a whole word, with as many
operations as there are functions, where the run succeeds. What is seen of the run are these checkpoints one
after the other, and at each of them the calls of all members that are genuine plugins and fill the slot, in
the order of the list; only a run that fails breaks off in between. -/
theorem follows_protocol (crew : Crew) (world : World) :
    let result := (generation crew.document).on crew world
    let sights := result.1.2.map (·.sight)
    let entered := sights.filterMap Sight.occasion?
    let word := entered.map (·.checkpoint)
    (Generation.withPlugins crew.registry crew.members crew.document).on world = (result.1.1, result.2) ∧
      (∃ n, ∃ whole ∈ wholeRun n, word <+: whole) ∧ sights <+: entered.flatMap crew.event ∧
      ∀ outcome, result.1.1 = .ok outcome → word ∈ wholeRun outcome.functions.length ∧
        word.count .afterOperation = outcome.functions.length ∧ sights = entered.flatMap crew.event := by
  intro result sights entered word
  refine ⟨on_withPlugins crew world, ?_⟩
  have follows : Follows crew _ _ result.1.1 sights := adheres_generation crew.document crew world
  revert follows
  cases result.1.1 with
  | ok outcome =>
    rintro ⟨occasions, seen, member⟩
    have all : occasions = entered := by rw [← occasions_events crew occasions, ← seen]
    rw [all] at seen member
    replace member : word ∈ wholeRun outcome.functions.length := wholeRun_eq _ ▸ member
    refine ⟨⟨_, word, member, List.prefix_rfl⟩, seen ▸ List.prefix_rfl, ?_⟩
    rintro _ ⟨⟩
    exact ⟨member, count_wholeRun member, seen⟩
  | error fault =>
    rintro ⟨occasions, seen, way, member, begins⟩
    obtain ⟨cut, within⟩ := prefix_events seen
    obtain ⟨n, whole⟩ := wholeRun_of_way member
    exact ⟨⟨n, way, whole, (cut.map _).trans begins⟩, within, nofun⟩

end Traced

end ClientGen
