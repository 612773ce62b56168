/-!
# Syntax trees

A tree keeps what the bundler looks at: names, literals and calls with their places, and of all
else just enough to tell what may be assigned to.
-/

namespace Bundler.Script

/-- What a node of a syntax tree stands for. -/
inductive Shape where
  | name (text : String)
  /-- A name that something is bound to. -/
  | bound (name : String)
  /-- A part of a pattern that something is bound to. -/
  | pattern
  | text (value : String)
  /-- A template without substitutions. -/
  | template (value : String)
  /-- A call: first what is called, then so many type arguments, then the arguments. -/
  | call (generics : Nat)
  | parens
  /-- A list in brackets, and whether a comma follows a spread at its end. -/
  | array (spreadComma : Bool)
  /-- Fields in braces, and whether a comma follows a spread at their end. -/
  | object (spreadComma : Bool)
  | hole
  | spread
  /-- A field with a key and a value. -/
  | field
  /-- A field that is a name alone, with a default value if there is one. -/
  | shorthand
  | member
  /-- A member or call that an optional link leads to. -/
  | chain
  /-- An assignment, and whether its sign is `=`. -/
  | assign (plain : Bool)
  /-- An operation of `&&` or `||`. -/
  | logical
  /-- An operation of `??`. -/
  | nullish
  /-- A unary operation, which is no left operand of `**`. -/
  | unary
  /-- An expression with a type after it. -/
  | cast
  /-- An expression with a type before it. -/
  | assertion
  /-- An expression with type arguments. -/
  | applied
  /-- A call of `import`. -/
  | importCall
  | other
deriving DecidableEq, Repr, Inhabited

/-- A node with the bytes it covers and the nodes in it, in the order in which they stand. -/
inductive Tree where
  | node (shape : Shape) (start stop : Nat) (children : List Tree)
deriving Inhabited

namespace Tree

def shape : Tree → Shape
  | node shape _ _ _ => shape

def start : Tree → Nat
  | node _ start _ _ => start

def stop : Tree → Nat
  | node _ _ stop _ => stop

def children : Tree → List Tree
  | node _ _ _ children => children

end Tree

/-- What a script is read as. -/
structure Dialect where
  /-- Types may stand in it. -/
  types : Bool := false
  /-- Elements may stand in it. -/
  elements : Bool := false
  /-- It only declares. -/
  declares : Bool := false
deriving DecidableEq, Repr, Inhabited

end Bundler.Script
