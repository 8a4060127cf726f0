import ClientGen.Generation

/-!
What two ways of running have in common. The rules are written once for every way in which documents are read
and steps follow each other. A relation between the steps of two ways that holds of what the rules are made of
(`Agreement`) therefore holds of every rule: here of those that only read.
-/

namespace ClientGen

/-- A relation between steps of two kinds that is kept when steps are put together, and that holds of whatever
both kinds have from the start. -/
structure Agreement (ν : Type) (m n : Type → Type)
    [Monad m] [MonadExceptOf Fault m] [Reading ν m] [Logging m]
    [Monad n] [MonadExceptOf Fault n] [Reading ν n] [Logging n]
    (related : ∀ {α : Type}, m α → n α → Prop) : Prop where
  of_pure {α : Type} (a : α) : related (pure a : m α) (pure a)
  of_throw {α : Type} (fault : Fault) : related (throw fault : m α) (throw fault)
  of_bind {α β : Type} {step : m α} {other : n α} {next : α → m β} {otherNext : α → n β}
    (first : related step other) (rest : ∀ a, related (next a) (otherNext a)) :
    related (step >>= next) (other >>= otherNext)
  of_map {α β : Type} {step : m α} {other : n α} (f : α → β) (first : related step other) :
    related (f <$> step) (f <$> other)
  of_note (record : LogRecord) : related (note record) (note record)
  of_shape (node : ν) : related (shape node) (shape node)
  of_whole (node : ν) : related (whole node) (whole node)
  of_extent (node : ν) : related (extent node) (extent node)

namespace Agreement

variable {ν : Type} {m n : Type → Type}
  [Monad m] [MonadExceptOf Fault m] [Reading ν m] [Logging m]
  [Monad n] [MonadExceptOf Fault n] [Reading ν n] [Logging n]
  {related : ∀ {α : Type}, m α → n α → Prop} (agree : Agreement ν m n related)

include agree

theorem of_lift {α : Type} (result : Except Fault α) : related (lift result : m α) (lift result) := by
  cases result with
  | ok a => exact agree.of_pure a
  | error fault => exact agree.of_throw fault

theorem of_shapeOrNull (node : Option ν) : related (shapeOrNull node) (shapeOrNull node) := by
  cases node with
  | none => exact agree.of_pure _
  | some node => exact agree.of_shape node

theorem of_isTrue (node : Option ν) : related (isTrue node) (isTrue node) :=
  agree.of_bind (agree.of_shapeOrNull node) fun _ => agree.of_pure _

theorem of_ifTrue (node : Option ν) : related (ifTrue node) (ifTrue node) :=
  agree.of_bind (agree.of_isTrue node) fun isTrue => by cases isTrue <;> exact agree.of_pure _

theorem of_wholeOf (node : Option ν) : related (wholeOf node) (wholeOf node) := by
  cases node with
  | none => exact agree.of_pure _
  | some node => exact agree.of_map some (agree.of_whole node)

theorem of_shownOf (node : Option ν) : related (shownOf node) (shownOf node) :=
  agree.of_bind (agree.of_wholeOf node) fun _ => agree.of_lift _

theorem of_fieldOf (node : ν) (name : String) : related (fieldOf node name) (fieldOf node name) :=
  agree.of_bind (agree.of_shape node) fun _ => agree.of_bind (agree.of_lift _) fun _ => agree.of_pure _

section

open Reference

theorem of_step (ref : String) (segment : List Char) (node : ν) :
    related (step ref segment node) (step ref segment node) := by
  refine agree.of_bind (agree.of_shape node) fun layer => ?_
  cases layer with
  | map entries =>
    simp only
    split
    · exact agree.of_pure _
    · exact agree.of_throw _
  | list items =>
    simp only
    split
    · exact agree.of_pure _
    · exact agree.of_throw _
  | _ => exact agree.of_throw _

theorem of_walk (ref : String) (segments : List (List Char)) (node : ν) :
    related (walk ref segments node) (walk ref segments node) := by
  induction segments generalizing node with
  | nil => exact agree.of_pure node
  | cons segment rest ih => exact agree.of_bind (agree.of_step ref segment node) ih

theorem of_resolve (ref : String) (document : ν) : related (resolve ref document) (resolve ref document) := by
  unfold resolve
  split
  · exact agree.of_walk ref _ document
  · exact agree.of_throw _

theorem of_chase (document : ν) (fuel : Nat) (seen : List String) (node : ν) :
    related (chase document fuel seen node) (chase document fuel seen node) := by
  induction fuel generalizing seen node with
  | zero => exact agree.of_throw _
  | succ fuel ih =>
    refine agree.of_bind (agree.of_shape node) fun layer => ?_
    split
    · exact agree.of_pure node
    · refine agree.of_bind (agree.of_shape _) fun target => agree.of_bind (agree.of_lift _) fun ref => ?_
      have next : ∀ _ : PUnit, related (do chase document fuel (ref :: seen) (← resolve ref document))
          (do chase document fuel (ref :: seen) (← resolve ref document)) :=
        fun _ => agree.of_bind (agree.of_resolve ref document) fun found => ih _ found
      simp only
      split
      · exact agree.of_bind (agree.of_throw _) next
      · exact next ⟨⟩

theorem of_deref (node document : ν) : related (deref node document) (deref node document) :=
  agree.of_bind (agree.of_extent document) fun _ => agree.of_bind (agree.of_extent node) fun _ =>
    agree.of_chase document _ [] node

theorem of_derefOf (node : Option ν) (document : ν) :
    related (derefOf node document) (derefOf node document) := by
  cases node with
  | none => exact agree.of_pure none
  | some node => exact agree.of_map some (agree.of_deref node document)

end

section

open Servers

theorem of_pieceText (table : Option ν) (piece : Piece) :
    related (pieceText table piece) (pieceText table piece) := by
  rcases piece with c | name
  · exact agree.of_pure [c]
  · cases table with
    | none => exact agree.of_pure _
    | some table =>
      refine agree.of_bind (agree.of_fieldOf table _) fun stated =>
        agree.of_bind (agree.of_ifTrue stated) fun declared => ?_
      cases declared with
      | none => exact agree.of_pure _
      | some declared =>
        refine agree.of_bind (agree.of_fieldOf declared "default") fun value => ?_
        cases value with
        | none => exact agree.of_pure _
        | some value =>
          exact agree.of_bind (agree.of_whole value) fun _ =>
            agree.of_bind (agree.of_lift _) fun _ => agree.of_pure _

theorem of_pieceTexts (table : Option ν) (pieces : List Piece) :
    related (pieceTexts table pieces) (pieceTexts table pieces) := by
  induction pieces with
  | nil => exact agree.of_pure []
  | cons piece rest ih =>
    exact agree.of_bind (agree.of_pieceText table piece) fun _ => agree.of_bind ih fun _ =>
      agree.of_pure _

theorem of_url (server : ν) : related (url server) (url server) := by
  refine agree.of_bind (agree.of_fieldOf server "variables") fun stated =>
    agree.of_bind (agree.of_ifTrue stated) fun table =>
      agree.of_bind (agree.of_fieldOf server "url") fun template => ?_
  have filled : ∀ template : String,
      related (do return String.ofList (← pieceTexts table (pieces none template.toList)))
        (do return String.ofList (← pieceTexts table (pieces none template.toList))) :=
    fun template => agree.of_bind (agree.of_pieceTexts table _) fun _ => agree.of_pure _
  cases template with
  | none => exact agree.of_bind (agree.of_pure "") filled
  | some node => exact agree.of_bind (agree.of_whole node) fun _ => agree.of_bind (agree.of_lift _) filled

theorem of_wantedKey (server : ν) (index : Nat) : related (wantedKey server index) (wantedKey server index) := by
  refine agree.of_bind (agree.of_fieldOf server "description") fun stated =>
    agree.of_bind (agree.of_ifTrue stated) fun description => ?_
  cases description with
  | none => exact agree.of_pure _
  | some description => exact agree.of_bind (agree.of_shape description) fun _ => agree.of_lift _

theorem of_collect (entries : List (String × String)) (index : Nat) (servers : List ν) :
    related (collect entries index servers) (collect entries index servers) := by
  induction servers generalizing entries index with
  | nil => exact agree.of_pure entries
  | cons server rest ih =>
    refine agree.of_bind (agree.of_shape server) fun layer => ?_
    split
    · exact agree.of_bind (agree.of_wantedKey server index) fun _ => agree.of_bind (agree.of_url server) fun _ =>
      ih _ _
    · exact ih _ _

theorem of_entries (document : ν) : related (entries document) (entries document) := by
  refine agree.of_bind (agree.of_fieldOf document "servers") fun stated =>
    agree.of_bind (agree.of_ifTrue stated) fun servers => ?_
  cases servers with
  | none => exact agree.of_pure []
  | some servers =>
    exact agree.of_bind (agree.of_shape servers) fun _ => agree.of_bind (agree.of_lift _) fun _ =>
      agree.of_collect _ _ _

end

theorem of_build (document : ν) (baseUrl : Value) :
    related (Head.build document baseUrl) (Head.build document baseUrl) :=
  agree.of_bind (agree.of_entries document) fun _ => agree.of_bind (agree.of_lift _) fun _ => agree.of_pure _

end Agreement

end ClientGen
