import Bundler.Error
import Bundler.Script.Program
import Bundler.Script.Dialect

/-!
# Calls of `require`

A script asks for another module by calling the plain name `require`. The module is known before
the script runs only if the first argument is a string, or a template without substitutions.
-/

namespace Bundler

open Script

/-- The bytes between two offsets. -/
structure Span where
  start : Nat
  stop : Nat
deriving DecidableEq, Repr

def Script.Tree.span (tree : Tree) : Span := ⟨tree.start, tree.stop⟩

/-- A call whose module is known. -/
structure Require where
  specifier : String
  callee : Span
  argument : Span
deriving DecidableEq, Repr

/-- A call of `require`, with its module or with where its first argument stands, if it has one. -/
inductive RequireCall where
  | known (call : Require)
  | dynamic (argument : Option Span)
deriving DecidableEq, Repr

/-- The text of a string or of a template without substitutions. -/
def literal? (tree : Tree) : Option String :=
  match tree.shape with
  | .text value => some value
  | .template value => some value
  | _ => none

/-- The call that a node makes, if it calls the plain name `require`. -/
def requireCall? : Tree → Option RequireCall
  | .node (.call generics) _ _ (.node (.name "require") start stop _ :: others) =>
    some <|
      match others[generics]? with
      | none => .dynamic none
      | some argument =>
        match literal? argument with
        | some specifier => .known ⟨specifier, ⟨start, stop⟩, argument.span⟩
        | none => .dynamic (some argument.span)
  | _ => none

mutual

/-- The calls in a tree: an outer call before those inside it, and these in the order in which they
stand. -/
def Script.Tree.requires : Tree → List RequireCall
  | .node shape start stop children =>
    (requireCall? (.node shape start stop children)).toList ++ Tree.requiresIn children

def Script.Tree.requiresIn : List Tree → List RequireCall
  | [] => []
  | tree :: rest => tree.requires ++ Tree.requiresIn rest

end

/-- What a script asks for. -/
structure Scan where
  requires : List Require
  hashbang : Option Span
deriving DecidableEq, Repr

/-- The calls before the first one whose module is not known, and that one. -/
def splitKnown : List RequireCall → List Require × Option (Option Span)
  | [] => ([], none)
  | .known call :: rest =>
    let (calls, dynamic) := splitKnown rest
    (call :: calls, dynamic)
  | .dynamic argument :: _ => ([], some argument)

/-- The text of a first argument as it stands in the source. -/
def argumentText (source : String) : Option Span → String
  | none => ""
  | some span => String.ofList ((Text.slice? span.start span.stop source.toList).getD [])

/-- What a script that was read from a source asks for. It fails on the first call whose module is not
known. -/
def Script.Program.scan (program : Program) (path : Path) (source : String) : Except Error Scan :=
  match splitKnown (Tree.requiresIn program.body) with
  | (requires, none) =>
    .ok { requires := requires, hashbang := program.hashbang.map fun (start, stop) => ⟨start, stop⟩ }
  | (_, some argument) => .error (.dynamicRequire path (argumentText source argument))

/-- What the script at a path asks for. It fails on a script that cannot be read. -/
def scan (path : Path) (source : String) : Except Error Scan :=
  match Program.read (Dialect.ofPath path) source with
  | none => .error (.parse path "Unexpected token")
  | some program => program.scan path source

end Bundler
