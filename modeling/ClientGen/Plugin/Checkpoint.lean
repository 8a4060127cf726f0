import ClientGen.Value.Basic

/-!
The checkpoints of a run: the moments at which plugins are called.
-/

namespace ClientGen

/-- The checkpoints in the order in which a run reaches them. -/
inductive Checkpoint where
  | started
  | modifyDefaults
  | modifyServers
  | beforeOperation
  | afterOperation
  | beforeSchema
  | afterSchema
  | moduleBuilt
  | beforeWrite
  | afterWrite
  deriving DecidableEq, Inhabited, Repr

namespace Checkpoint

def all : List Checkpoint :=
  [started, modifyDefaults, modifyServers, beforeOperation, afterOperation, beforeSchema,
   afterSchema, moduleBuilt, beforeWrite, afterWrite]

/-- The name of the slot that a plugin fills to be called at a checkpoint. -/
def slot : Checkpoint → String
  | started => "initialize"
  | modifyDefaults => "modify_defaults"
  | modifyServers => "modify_servers"
  | beforeOperation => "before_convert_endpoint"
  | afterOperation => "after_convert_endpoint"
  | beforeSchema => "before_convert_schema"
  | afterSchema => "after_convert_schema"
  | moduleBuilt => "after_ast_generate"
  | beforeWrite => "before_write_to_file"
  | afterWrite => "after_write_to_file"

/-- The place of a checkpoint in the run, from one on; the two around the write share a place. -/
def position : Checkpoint → Nat
  | started => 1
  | modifyDefaults => 2
  | modifyServers => 3
  | beforeOperation => 4
  | afterOperation => 5
  | beforeSchema => 6
  | afterSchema => 7
  | moduleBuilt => 8
  | beforeWrite => 9
  | afterWrite => 9

/-- The checkpoint of a slot. -/
def ofSlot? (slot : String) : Option Checkpoint := all.find? fun c => c.slot = slot

/-- What a callback for a checkpoint is called with, in order. -/
def arguments : Checkpoint → List String
  | started => ["options", "document"]
  | modifyDefaults => ["defaults", "tree", "document"]
  | modifyServers => ["servers", "tree", "document"]
  | beforeOperation => ["operation", "tree", "document"]
  | afterOperation => ["operation", "function", "tree", "document"]
  | beforeSchema => ["schema", "tree", "document"]
  | afterSchema => ["schema", "type_node", "tree", "document"]
  | moduleBuilt => ["tree", "document"]
  | beforeWrite => ["file_name", "contents", "document"]
  | afterWrite => ["file_name", "contents", "document"]

end Checkpoint

/-- What a checkpoint is about. Statements and types are given by their identity, so that they can be
edited in place. -/
inductive Occasion (ν : Type) where
  | started
  | defaults (statement : Nat)
  | servers (statement : Nat)
  | beforeOperation (operation : ν)
  | afterOperation (operation : ν) (function : Nat)
  | beforeSchema (schema : ν)
  | afterSchema (schema : ν) (type : Nat)
  | moduleBuilt
  | beforeWrite (file : Value) (contents : String)
  | afterWrite (file : Value) (contents : String)
  deriving Repr

/-- The checkpoint that an occasion belongs to. -/
def Occasion.checkpoint {ν : Type} : Occasion ν → Checkpoint
  | started => .started
  | defaults _ => .modifyDefaults
  | servers _ => .modifyServers
  | beforeOperation _ => .beforeOperation
  | afterOperation _ _ => .afterOperation
  | beforeSchema _ => .beforeSchema
  | afterSchema _ _ => .afterSchema
  | moduleBuilt => .moduleBuilt
  | beforeWrite _ _ => .beforeWrite
  | afterWrite _ _ => .afterWrite

end ClientGen
