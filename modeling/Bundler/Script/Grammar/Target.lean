import Bundler.Script.Parse

/-!
# Targets of assignments

What was read as an expression is a target if it is a name, a member, or a list or fields of
targets. The shorthand fields with a default in it are then in place.
-/

namespace Bundler.Script.Grammar
open Parse

/-- A shorthand field with a default has found its pattern. -/
def settle (start : Nat) : Parse Unit :=
  change fun s => { s with defaults := s.defaults.filter (· != start) }

mutual

/-- The expression is a name or a member. -/
def simpleTarget : Tree → Parse Unit
  | .node shape _ _ children =>
    match shape with
    | .name _ => pure ()
    | .member => pure ()
    | .parens => parensTarget children
    | .cast => castTarget children
    | .assertion => assertionTarget children
    | _ => fail

/-- What stands in parentheses is a name or a member. -/
def parensTarget : List Tree → Parse Unit
  | [tree] =>
    match tree.shape with
    | .array _ => fail
    | .object _ => fail
    | _ => simpleTarget tree
  | _ => fail

/-- What has a type after it is a name or a member. -/
def castTarget : List Tree → Parse Unit
  | [] => fail
  | tree :: _ => simpleTarget tree

/-- What has a type before it is a name or a member. -/
def assertionTarget : List Tree → Parse Unit
  | [_, tree] => simpleTarget tree
  | _ => fail

end

mutual

/-- The expression is a target. -/
def target : Tree → Parse Unit
  | .node shape start stop children =>
    match shape with
    | .array spreadComma => do
      flawIf spreadComma
      arrayTarget children
    | .object spreadComma => do
      flawIf spreadComma
      objectTarget children
    | _ => simpleTarget (.node shape start stop children)

/-- The expression is a target, with or without a default. -/
def targetItem : Tree → Parse Unit
  | .node shape start stop children =>
    match shape with
    | .assign plain => require plain
    | .array spreadComma => do
      flawIf spreadComma
      arrayTarget children
    | .object spreadComma => do
      flawIf spreadComma
      objectTarget children
    | _ => simpleTarget (.node shape start stop children)

/-- The items of a list are targets, and a spread is the last one. -/
def arrayTarget : List Tree → Parse Unit
  | [] => pure ()
  | .node shape start stop children :: others =>
    match shape with
    | .hole => arrayTarget others
    | .spread => do
      require others.isEmpty
      spreadTarget children
    | _ => do
      targetItem (.node shape start stop children)
      arrayTarget others

/-- What is spread is a target. -/
def spreadTarget : List Tree → Parse Unit
  | [] => fail
  | tree :: _ => target tree

/-- The values of fields are targets, and a spread is the last one. -/
def objectTarget : List Tree → Parse Unit
  | [] => pure ()
  | .node shape start _ children :: others =>
    match shape with
    | .spread => do
      require others.isEmpty
      spreadTarget children
    | .shorthand => do
      settle start
      objectTarget others
    | .field => do
      fieldTarget children
      objectTarget others
    | _ => fail

/-- The value of a field is a target. -/
def fieldTarget : List Tree → Parse Unit
  | [] => fail
  | [_] => fail
  | _ :: tree :: _ => targetItem tree

end

end Bundler.Script.Grammar
