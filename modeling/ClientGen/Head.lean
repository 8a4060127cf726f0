import ClientGen.Servers
import ClientGen.Syntax.Literal

/-!
The head of a generated module: imports, the settings `defaults` and `servers`, and the helper that
makes a request.
-/

namespace ClientGen.Head

/-- The text of the helper that every generated function calls. -/
def requestLines : List String :=
  ["def _request(method: str, path: str, *, path_params: Optional[dict[str, " ++
     "Any]]=None, query: Optional[dict[str, Any]]=None, headers: Optional[dict[str, " ++
     "Any]]=None, json: Any=None, data: Any=None, files: Any=None, content: Any=None) " ++
     "-> Any:",
   "    for key, value in (path_params or \x7b\x7d).items():",
   "        path = path.replace('\x7b' + key + '\x7d', quote(str(value), safe=''))",
   "    params = \x7bk: v for k, v in (query or \x7b\x7d).items() if v is not None\x7d",
   "    merged_headers = dict(defaults.get('headers', \x7b\x7d))",
   "    merged_headers.update(\x7bk: str(v) for k, v in (headers or " ++
     "\x7b\x7d).items() if v is not None\x7d)",
   "    with httpx.Client(base_url=defaults['base_url'], " ++
     "timeout=defaults.get('timeout', 30.0)) as client:",
   "        response = client.request(method, path, params=params, " ++
     "headers=merged_headers, json=json, data=data, files=files, content=content)",
   "    response.raise_for_status()",
   "    if not response.content:",
   "        return None",
   "    if 'json' in response.headers.get('content-type', ''):",
   "        return response.json()",
   "    return response.text"]

/-- The name of the helper that makes a request. -/
def requestName : String := "_request"

/-- What a module begins with; the two settings are given. -/
def statements (defaults servers : Expr) : List Statement :=
  [.importNames "__future__" ["annotations"],
   .importNames "typing" ["Any", "Literal", "Optional", "Required", "TypedDict", "Union"],
   .importNames "urllib.parse" ["quote"],
   .importModule "httpx",
   .assign "defaults" defaults,
   .assign "servers" servers,
   .helper requestName requestLines]

/-- The place of the `defaults` statement. -/
def defaultsPlace : Nat := 4

/-- The place of the `servers` statement. -/
def serversPlace : Nat := 5

/-- The value of `defaults` for a base address. -/
def defaultsValue (baseUrl : Value) : Value :=
  Value.ofFields [("base_url", baseUrl), ("headers", .map []),
    ("timeout", .float (Binary64.ofInt 30))]

/-- The value of `servers`. -/
def serversValue (entries : List (String × String)) : Value :=
  Value.ofFields (entries.map fun entry => (entry.1, .text entry.2))

/-- The base address: the given one, or the first server's, or none. -/
def chooseBase (given : Value) (entries : List (String × String)) : Value :=
  match given with
  | .null => .text ((entries.head?.map (·.2)).getD "")
  | v => v

/-- The first assignment to a name. -/
def findAssignment (statements : List Statement) (target : String) : Option Statement :=
  statements.find? fun
    | .assign name _ => name = target
    | _ => false

/-- The head of the module for a document. -/
def build {ν : Type} {m : Type → Type} [Monad m] [MonadExceptOf Fault m] [Reading ν m]
    (document : ν) (baseUrl : Value) : m (List Statement) := do
  let entries ← Servers.entries document
  let base := chooseBase baseUrl entries
  return statements (← lift (Expr.ofValue (defaultsValue base))) (Expr.literal (serversValue entries))

end ClientGen.Head
