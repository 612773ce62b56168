/-!
# Tokens

The words that a script is cut into.
-/

namespace Bundler.Script

/-- A word made of signs. -/
inductive Mark where
  | braceL | braceR | parenL | parenR | brackL | brackR
  | dot | dots | semicolon | comma | colon | question | questionDot | at | arrow
  | less | lessEq | shiftL | shiftLAssign
  | greater | greaterEq | shiftR | shiftRR
  | equal | unequal | identical | distinct
  | plus | minus | star | slash | percent | power | plusPlus | minusMinus
  | and | or | xor | bang | tilde | andAnd | orOr | nullish
  | assign | slashAssign
  /-- Any assignment sign but `=`, `/=` and `<<=`. -/
  | compound
deriving DecidableEq, Repr, Inhabited

/-- The signs, a longer one before its beginnings. A `>` is always read alone: only an expression
knows how many of them make one sign. -/
def Mark.table : List (List Char × Mark) :=
  [ ("...", .dots), ("===", .identical), ("!==", .distinct), ("**=", .compound),
    ("<<=", .shiftLAssign), ("&&=", .compound), ("||=", .compound), ("??=", .compound),
    ("=>", .arrow), ("==", .equal), ("!=", .unequal), ("<=", .lessEq), ("<<", .shiftL),
    ("++", .plusPlus), ("--", .minusMinus), ("**", .power), ("&&", .andAnd), ("||", .orOr),
    ("??", .nullish), ("?.", .questionDot), ("+=", .compound), ("-=", .compound),
    ("*=", .compound), ("/=", .slashAssign), ("%=", .compound), ("&=", .compound),
    ("|=", .compound), ("^=", .compound), ("\x7b", .braceL), ("\x7d", .braceR), ("(", .parenL),
    (")", .parenR), ("[", .brackL), ("]", .brackR), (".", .dot), (";", .semicolon),
    (",", .comma), (":", .colon), ("?", .question), ("@", .at), ("<", .less), (">", .greater),
    ("+", .plus), ("-", .minus), ("*", .star), ("/", .slash), ("%", .percent), ("&", .and),
    ("|", .or), ("^", .xor), ("!", .bang), ("~", .tilde), ("=", .assign) ].map
      fun (sign, mark) => (sign.toList, mark)

/-- The signs that start with `>`, a longer one before its beginnings. -/
def Mark.greaterTable : List (List Char × Mark) :=
  [ (">>>=", .compound), (">>=", .compound), (">>>", .shiftRR), (">=", .greaterEq),
    (">>", .shiftR), (">", .greater) ].map fun (sign, mark) => (sign.toList, mark)

inductive Token where
  /-- The end of the script. -/
  | stop
  /-- A name or keyword, and whether it is written without escapes. -/
  | word (text : String) (plain : Bool)
  /-- A name after a `#`. -/
  | hidden (name : String)
  | mark (mark : Mark)
  | number
  | text (value : String)
  /-- A piece of a template, without a value if an escape in it has none, and whether the template
  ends with it. -/
  | template (value : Option String) (closed : Bool)
  | regex
  /-- Text between the tags of an element. -/
  | passage
  /-- Signs that make no token. -/
  | bad
deriving DecidableEq, Repr, Inhabited

/-- A token where it stands. -/
structure Lexeme where
  token : Token
  start : Nat
  stop : Nat
  /-- It is the first one on its line. -/
  fresh : Bool
  /-- The script from the token on. -/
  here : List Char
  /-- The script after the token. -/
  rest : List Char
deriving Inhabited

end Bundler.Script
