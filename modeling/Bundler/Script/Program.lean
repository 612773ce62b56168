import Bundler.Script.Grammar.Module

/-!
# Scripts

A script is a row of statements. Everything that can be read inside of itself is read one level
further in, and no script has more levels than its length allows.
-/

namespace Bundler.Script
open Parse Grammar

/-- A class with decorators in front, exported or not. -/
def decorated (self : Rec) : Parse Tree := do
  let start ← place
  let marks ← decorators self
  match ← token with
  | .word "class" _ => classTail self start marks
  | .word "export" _ => exportStatement self marks
  | _ =>
    require (← types)
    typeStatement self marks

/-- A statement. -/
def statement (self : Rec) (single : Bool) : Parse Tree := do
  let start ← place
  let next ← peek
  match ← token with
  | .mark .braceL => blockNode self
  | .mark .semicolon => leaf .other
  | .mark .at => decorated self
  | .word w plain =>
    match w with
    | "if" => ifStatement self
    | "do" => doStatement self
    | "while" => whileStatement self
    | "with" => whileStatement self
    | "for" => forStatement self
    | "break" => jumpStatement
    | "continue" => jumpStatement
    | "return" => returnStatement self
    | "throw" => throwStatement self
    | "switch" => switchStatement self
    | "try" => tryStatement self
    | "debugger" => do
      keyword
      finish
      node .other start []
    | "class" => do
      flawIf single
      classTail self start []
    | "function" => functionStatement self single true
    | "var" => do
      keyword
      variableStatement self start .var single
    | "const" =>
      if (← types) && next.token == .word "enum" true then enumStatement self
      else
        keyword
        variableStatement self start .const single
    | "import" =>
      if next.token == .mark .dot || next.token == .mark .parenL then labelled self
      else importStatement self
    | "export" => exportStatement self []
    | _ =>
      if w == "let" && plain then letStatement self single
      else if ← atUsing then
        keyword
        variableStatement self start .using single
      else if ← atAwaitUsing then
        keyword
        keyword
        variableStatement self start .using single
      else if ← atAsyncFunction then functionStatement self single true
      else if (← types) && (← atTypeStatement) then typeStatement self []
      else labelled self
  | _ => labelled self

/-- Reads one goal, with everything inside it read by `self`. -/
def level (self : Rec) : Goal → Parse Tree
  | .statement single => statement self single
  | .expression => expression self
  | .assignment arrowType => assignment self arrowType
  | .leftHand => leftHand self
  | .operand => operand self
  | .operation n => operation self n
  | .pattern => Grammar.pattern self
  | .type => type self
  | .element inText => tagged self inText

/-- Reads a goal at most so many levels deep. -/
def parse : Nat → Rec
  | 0, _ => fail
  | n + 1, goal => level (parse n) goal

/-- The statements of a script. -/
def statements (self : Rec) : Parse (List Tree) :=
  many do
    match ← token with
    | .stop => return none
    | _ => return some (← self (.statement false))

/-- A script with its first line apart if that names a program to run it. -/
structure Program where
  hashbang : Option (Nat × Nat)
  body : List Tree

/-- The bytes of a first line that names a program. -/
def hashbang? : List Char → Option Nat
  | '#' :: '!' :: rest => some (2 + Text.size (rest.takeWhile fun c => !isLineEnd c))
  | _ => none

/-- The script after its first line, if that names a program. -/
def afterHashbang : List Char → List Char
  | '#' :: '!' :: rest => rest.dropWhile fun c => !isLineEnd c
  | script => script

/-- More levels than a script of that length has. -/
def maxLevels (length : Nat) : Nat := 16 * length + 256

/-- Reads a script. There is none if it has a flaw. -/
def Program.read (dialect : Dialect) (text : String) : Option Program :=
  let script := text.toList
  let hashbang := hashbang? script
  let first := Lexeme.read (hashbang.getD 0) (afterHashbang script)
  let length := script.length
  let context : Context := { dialect := dialect, bound := length + 2, ambient := dialect.declares }
  match statements (parse (maxLevels length)) context { lexeme := first } with
  | .ok (body, s) =>
    if s.flawed || !s.defaults.isEmpty then none
    else some { hashbang := hashbang.map (0, ·), body := body }
  | .error _ => none

end Bundler.Script
