import Bundler.Bundle

/-!
# The loader at work

What a bundle does when it runs. The loader is a function of a small language, which says both how it is
written and what it does. Factories are programs that ask for modules, fill their exports, and throw or
catch. A machine takes one step after the other, with a frame for each call that is not finished.
-/

namespace Bundler.Loading

/-! ## Values and objects -/

inductive Value where
  | undefined
  | bool (b : Bool)
  | text (s : String)
  | object (address : Nat)
  | factory (id : String)
  | loader
  /-- What an object has under a name that it was not given. -/
  | inherited (name : String)
  | error (message : String)
  | typeError
deriving DecidableEq, Repr

/-- The objects, each with its own fields. -/
structure Heap where
  own : Nat → String → Option Value
  size : Nat

namespace Heap

def put (h : Heap) (target : Value) (key : String) (v : Value) : Heap :=
  match target with
  | .object a => { h with own := fun b k => if b = a ∧ k = key then some v else h.own b k }
  | _ => h

/-- A heap with a new object, whose address is the size before. -/
def alloc (h : Heap) (fields : List (String × Value)) : Heap where
  own b k := if b = h.size then fields.lookup k else h.own b k
  size := h.size + 1

/-- What is found under a key: what the object was given, or else what it inherits. -/
def read (names : List String) (h : Heap) (v : Value) (key : String) : Value :=
  let given := match v with
    | .object a => h.own a key
    | _ => none
  given.getD (if key ∈ names then .inherited key else .undefined)

end Heap

/-! ## The language -/

inductive Expr where
  | undefined
  | name (x : String)
  | quoted (s : String)
  | member (e : Expr) (field : String)
  | item (e key : Expr)
  /-- An assignment, in brackets. -/
  | store (e key value : Expr)
  | empty
  | pair (key : String) (value : Expr) (key' : String) (value' : Expr)
  | differs (a b : Expr)
  /-- Whether an object was not given a key. -/
  | lacks (e key : Expr)
  | joined (a b : Expr)

inductive Exit where
  | giveBack (e : Expr)
  | raise (message : Expr)

inductive Stmt where
  | declare (x : String) (e : Expr)
  | guard (condition : Expr) (exit : Exit)
  | call (f this : Expr) (args : List Expr)
  | leave (exit : Exit)

def Expr.write : Expr → String
  | undefined => "undefined"
  | name x => x
  | quoted s => Literal.quote s
  | member e field => e.write ++ "." ++ field
  | item e key => e.write ++ "[" ++ key.write ++ "]"
  | store e key value => "(" ++ e.write ++ "[" ++ key.write ++ "] = " ++ value.write ++ ")"
  | empty => "\x7b\x7d"
  | pair key value key' value' =>
    "\x7b " ++ key ++ ": " ++ value.write ++ ", " ++ key' ++ ": " ++ value'.write ++ " \x7d"
  | differs a b => a.write ++ " !== " ++ b.write
  | lacks e key => "!Object.prototype.hasOwnProperty.call(" ++ e.write ++ ", " ++ key.write ++ ")"
  | joined a b => a.write ++ " + " ++ b.write

def Exit.write : Exit → String
  | giveBack e => "return " ++ e.write ++ ";"
  | raise message => "throw new Error(" ++ message.write ++ ");"

def Stmt.write : Stmt → List String
  | declare x e => ["    var " ++ x ++ " = " ++ e.write ++ ";"]
  | guard condition exit => ["    if (" ++ condition.write ++ ") \x7b", "      " ++ exit.write, "    \x7d"]
  | call f this args => ["    " ++ f.write ++ ".call(" ++ ", ".intercalate ((this :: args).map Expr.write) ++ ");"]
  | leave exit => ["    " ++ exit.write]

def writeFunction (name parameter : String) (body : List Stmt) : String :=
  Bundle.lines (["  function " ++ name ++ "(" ++ parameter ++ ") \x7b"] ++ body.flatMap Stmt.write ++ ["  \x7d"])

abbrev Scope := List (String × Value)

/-- What evaluation gives, or what it throws, and what it leaves in the objects. -/
abbrev Eval := ExceptT Value (StateM Heap)

def Value.key : Value → Eval String
  | text s => return s
  | _ => throw typeError

def Value.read (names : List String) (v : Value) (key : String) : Eval Value := do
  if v = undefined then throw typeError
  return (← get).read names v key

def Expr.eval (names : List String) (scope : Scope) : Expr → Eval Value
  | undefined => return .undefined
  | name x => match scope.lookup x with
    | some v => return v
    | none => throw .typeError
  | quoted s => return .text s
  | member e field => do (← e.eval names scope).read names field
  | item e key => do
    let v ← e.eval names scope
    v.read names (← (← key.eval names scope).key)
  | store e key value => do
    let target ← e.eval names scope
    let key ← (← key.eval names scope).key
    let v ← value.eval names scope
    modify (·.put target key v)
    return v
  | empty => do
    let h ← get
    set (h.alloc [])
    return .object h.size
  | pair key value key' value' => do
    let v ← value.eval names scope
    let v' ← value'.eval names scope
    let h ← get
    set (h.alloc [(key, v), (key', v')])
    return .object h.size
  | differs a b => do return .bool ((← a.eval names scope) != (← b.eval names scope))
  | lacks e key => do
    let v ← e.eval names scope
    let key ← (← key.eval names scope).key
    match v with
    | .object a => return .bool ((← get).own a key).isNone
    | .undefined => throw .typeError
    | _ => return .bool true
  | joined a b => do
    -- The loader joins texts only.
    let a ← (← a.eval names scope).key
    let b ← (← b.eval names scope).key
    return .text (a ++ b)

def Exit.eval (names : List String) (scope : Scope) : Exit → Eval Value
  | giveBack e => e.eval names scope
  | raise message => do throw (.error (← (← message.eval names scope).key))

/-- Where statements come to: the end of the function, or a call. -/
inductive Outcome where
  | done (r : Except Value Value)
  | calls (f : Value) (args : List Value) (scope : Scope) (rest : List Stmt)

def exec (names : List String) : List Stmt → Scope → Heap → Outcome × Heap
  | [], _, h => (.done (.ok .undefined), h)
  | .declare x e :: rest, scope, h =>
    match e.eval names scope h with
    | (.ok v, h) => exec names rest ((x, v) :: scope) h
    | (.error v, h) => (.done (.error v), h)
  | .guard condition exit :: rest, scope, h =>
    match condition.eval names scope h with
    | (.ok (.bool true), h) => let (r, h) := exit.eval names scope h; (.done r, h)
    | (.ok _, h) => exec names rest scope h
    | (.error v, h) => (.done (.error v), h)
  | .call f this args :: rest, scope, h =>
    match ((f :: this :: args).mapM (·.eval names scope) : Eval _) h with
    | (.ok (f :: _ :: args), h) => (.calls f args scope rest, h)
    | (.ok _, h) => (.done (.error .typeError), h)
    | (.error v, h) => (.done (.error v), h)
  | .leave exit :: _, scope, h => let (r, h) := exit.eval names scope h; (.done r, h)

/-! ## The loader -/

def giveExports : Stmt := .leave (.giveBack (.member (.name "module") "exports"))

def body : List Stmt :=
  let id := Expr.name "moduleId"
  let modules := Expr.name "__rpack_modules__"
  let cache := Expr.name "__rpack_module_cache__"
  let module := Expr.name "module"
  [.declare "cachedModule" (.item cache id),
    .guard (.differs (.name "cachedModule") .undefined) (.giveBack (.member (.name "cachedModule") "exports")),
    .guard (.lacks modules id) (.raise (.joined (.joined (.quoted "Cannot find module '") id) (.quoted "'"))),
    .declare "module" (.store cache id (.pair "id" id "exports" .empty)),
    .call (.item modules id) (.member module "exports") [module, .member module "exports", .name requireName],
    giveExports]

theorem writeFunction_body : writeFunction requireName "moduleId" body = Bundle.loader := by
  decide +kernel

/-- What the loader sees when it is called. -/
def scopeFor (id : String) : Scope :=
  [("moduleId", .text id), ("__rpack_modules__", .object 0), ("__rpack_module_cache__", .object 1),
    (requireName, .loader)]

/-! ## Factories -/

/-- What a factory does. It ends on every way through it, and it is free to look at all that there is. -/
inductive Program where
  | finish
  | throw (v : Value)
  | require (id : String) (next : Except Value Value → Program)
  /-- A field of its exports is set. -/
  | write (key : String) (v : Value) (rest : Program)
  /-- Its exports are replaced. -/
  | replace (v : Value) (rest : Program)
  | create (fields : List (String × Value)) (next : Value → Program)
  | look (next : Heap → Program)

/-- A chunk, what its factories do, and the names under which an object has something without having been
given it. -/
structure Setting where
  chunk : Chunk
  factories : String → Program
  names : List String

/-! ## The machine -/

inductive Control where
  /-- A factory runs, with its module and its exports. -/
  | runs (module exports : Value) (program : Program)
  /-- A call is over. -/
  | answers (r : Except Value Value)

inductive Frame where
  /-- A factory that asked for a module. -/
  | asks (module exports : Value) (next : Except Value Value → Program)
  /-- The loader, which called a factory. -/
  | loads (scope : Scope) (rest : List Stmt)

def Frame.isLoads : Frame → Bool
  | loads _ _ => true
  | asks _ _ _ => false

structure Machine where
  heap : Heap
  /-- The factories that were started, in their order. -/
  started : List String := []
  control : Control
  frames : List Frame := []

namespace Machine

/-- What the cache was given for an id. -/
def cached? (m : Machine) (id : String) : Option Value := m.heap.own 1 id

/-- How many factories are at work, each of them called from the one before. -/
def depth (m : Machine) : Nat := m.frames.countP Frame.isLoads

end Machine

namespace Setting

variable (s : Setting)

/-- The ids that the table of factories has. The name `__proto__` in an object's text gives it no field. -/
def registered : List String := s.chunk.ids.filter (· ≠ "__proto__")

/-- What stands around the call for the entry: nothing catches what it throws. -/
def conclude : Except Value Value → Program
  | .ok _ => .finish
  | .error v => .throw v

/-- The table and the empty cache, and the call for the entry. -/
def start : Machine where
  heap := { own := fun a k => if a = 0 ∧ k ∈ s.registered then some (.factory k) else none, size := 2 }
  control := .runs .undefined .undefined (.require s.chunk.entry.id conclude)

/-- The machine after statements of the loader came to something. -/
def enter (m : Machine) (frames : List Frame) : Outcome × Heap → Machine
  | (.done r, h) => { m with heap := h, control := .answers r, frames := frames }
  | (.calls (.factory id) [module, exports, _] scope rest, h) =>
    { heap := h, started := m.started ++ [id], control := .runs module exports (s.factories id),
      frames := .loads scope rest :: frames }
  | (.calls _ _ _ _, h) => { m with heap := h, control := .answers (.error .typeError), frames := frames }

def step (m : Machine) : Option Machine :=
  match m.control with
  | .runs module exports program =>
    match program with
    | .finish => some { m with control := .answers (.ok .undefined) }
    | .throw v => some { m with control := .answers (.error v) }
    | .require id next =>
      some (s.enter m (.asks module exports next :: m.frames) (exec s.names body (scopeFor id) m.heap))
    | .write key v rest => some { m with heap := m.heap.put exports key v, control := .runs module exports rest }
    | .replace v rest => some { m with heap := m.heap.put module "exports" v, control := .runs module exports rest }
    | .create fields next =>
      some { m with heap := m.heap.alloc fields, control := .runs module exports (next (.object m.heap.size)) }
    | .look next => some { m with control := .runs module exports (next m.heap) }
  | .answers r =>
    match m.frames, r with
    | [], _ => none
    | .asks module exports next :: frames, r =>
      some { m with control := .runs module exports (next r), frames := frames }
    | .loads scope rest :: frames, .ok _ => some (s.enter m frames (exec s.names rest scope m.heap))
    | .loads _ _ :: frames, .error v => some { m with control := .answers (.error v), frames := frames }

/-- The machine after so many steps, or where it stopped before. -/
def after : Nat → Machine → Machine
  | 0, m => m
  | n + 1, m => match s.step m with
    | none => m
    | some m' => after n m'

end Setting

/-! ## What the loader does -/

section Language

variable {names : List String} {scope : Scope} {rest : List Stmt} {h h' : Heap}

theorem exec_declare {x : String} {e : Expr} {v : Value} (he : e.eval names scope h = (.ok v, h')) :
    exec names (.declare x e :: rest) scope h = exec names rest ((x, v) :: scope) h' := by
  rw [exec, he]

theorem exec_guard_false {c : Expr} {exit : Exit} (hc : c.eval names scope h = (.ok (.bool false), h')) :
    exec names (.guard c exit :: rest) scope h = exec names rest scope h' := by
  rw [exec, hc]

theorem exec_guard_true {c : Expr} {exit : Exit} (hc : c.eval names scope h = (.ok (.bool true), h')) :
    exec names (.guard c exit :: rest) scope h =
      (.done (exit.eval names scope h').1, (exit.eval names scope h').2) := by
  rw [exec, hc]
  rfl

theorem exec_call {f this : Expr} {args : List Expr} {g v : Value} {vs : List Value}
    (hargs : ((f :: this :: args).mapM (·.eval names scope) : Eval _) h = (.ok (g :: v :: vs), h')) :
    exec names (.call f this args :: rest) scope h = (.calls g vs scope rest, h') := by
  rw [exec, hargs]

end Language

variable {names : List String} {h : Heap} {id : String}

def notFound (id : String) : Value := .error ("Cannot find module '" ++ id ++ "'")

/-- The heap with a record for a module in the cache, and with its exports, which have no fields. -/
def Heap.enlist (h : Heap) (id : String) : Heap :=
  ((h.alloc []).alloc [("id", .text id), ("exports", .object h.size)]).put (.object 1) id (.object (h.size + 1))

/-- The scope of a loader that calls a factory. -/
def loadScope (record : Nat) (id : String) : Scope :=
  ("module", .object record) :: ("cachedModule", .undefined) :: scopeFor id

theorem exec_body_of_found {found : Value} (hfound : h.read names (.object 1) id = found) (hne : found ≠ .undefined) :
    exec names body (scopeFor id) h = (.done (.ok (h.read names found "exports")), h) := by
  have hguard : (Expr.differs (.name "cachedModule") .undefined).eval names (("cachedModule", found) :: scopeFor id) h =
      (.ok (.bool true), h) := by
    have htrue : (found != .undefined) = true := by simpa using hne
    rw [← htrue]
    rfl
  have hexit : (Exit.giveBack (.member (.name "cachedModule") "exports")).eval names
      (("cachedModule", found) :: scopeFor id) h = (.ok (h.read names found "exports"), h) := by
    cases found with
    | undefined => exact absurd rfl hne
    | _ => rfl
  calc exec names body (scopeFor id) h
    _ = exec names (body.drop 1) (("cachedModule", found) :: scopeFor id) h := exec_declare (hfound ▸ rfl)
    _ = (.done (.ok (h.read names found "exports")), h) := by
      rw [body, List.drop_one, List.tail_cons, exec_guard_true hguard, hexit]

theorem exec_body_of_undefined (hfound : h.read names (.object 1) id = .undefined) :
    exec names body (scopeFor id) h = exec names (body.drop 2) (("cachedModule", .undefined) :: scopeFor id) h := by
  calc exec names body (scopeFor id) h
    _ = exec names (body.drop 1) (("cachedModule", .undefined) :: scopeFor id) h := exec_declare (hfound ▸ rfl)
    _ = exec names (body.drop 2) (("cachedModule", .undefined) :: scopeFor id) h := exec_guard_false rfl

theorem exec_body_of_missing (hfound : h.read names (.object 1) id = .undefined) (hmissing : h.own 0 id = none) :
    exec names body (scopeFor id) h = (.done (.error (notFound id)), h) := by
  have hlacks : (Expr.lacks (.name "__rpack_modules__") (.name "moduleId")).eval names
      (("cachedModule", .undefined) :: scopeFor id) h = (.ok (.bool true), h) := by
    rw [← Option.isNone_none, ← hmissing]
    rfl
  rw [exec_body_of_undefined hfound]
  exact exec_guard_true hlacks

/-- A module is in the cache before its factory is called. -/
theorem exec_body_of_new (hfound : h.read names (.object 1) id = .undefined) (hsize : 2 ≤ h.size)
    (hregistered : h.own 0 id = some (.factory id)) :
    exec names body (scopeFor id) h = (.calls (.factory id) [.object (h.size + 1), .object h.size, .loader]
      (loadScope (h.size + 1) id) [giveExports], h.enlist id) := by
  have hlacks : (Expr.lacks (.name "__rpack_modules__") (.name "moduleId")).eval names
      (("cachedModule", .undefined) :: scopeFor id) h = (.ok (.bool false), h) := by
    rw [← Option.isNone_some, ← hregistered]
    rfl
  have hfactory : (h.enlist id).read names (.object 0) id = .factory id := by
    have hzero : 0 ≠ h.size := by omega
    simp [Heap.read, Heap.enlist, Heap.put, Heap.alloc, hzero, hregistered]
  have hexports : (h.enlist id).read names (.object (h.size + 1)) "exports" = .object h.size := by
    have hone : h.size ≠ 0 := by omega
    simp [Heap.read, Heap.enlist, Heap.put, Heap.alloc, hone]
    rfl
  rw [exec_body_of_undefined hfound]
  calc exec names (body.drop 2) (("cachedModule", .undefined) :: scopeFor id) h
    _ = exec names (body.drop 3) (("cachedModule", .undefined) :: scopeFor id) h := exec_guard_false hlacks
    _ = exec names (body.drop 4) (loadScope (h.size + 1) id) (h.enlist id) := exec_declare rfl
    _ = (.calls ((h.enlist id).read names (.object 0) id)
        [.object (h.size + 1), (h.enlist id).read names (.object (h.size + 1)) "exports", .loader]
        (loadScope (h.size + 1) id) [giveExports], h.enlist id) := exec_call rfl
    _ = _ := by rw [hfactory, hexports]

theorem exec_giveExports (record : Nat) : exec names [giveExports] (loadScope record id) h =
    (.done (.ok (h.read names (.object record) "exports")), h) := rfl

end Bundler.Loading
