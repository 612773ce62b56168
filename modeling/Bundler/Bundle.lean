import Bundler.Chunk
import Bundler.Extract

/-!
# Bundles

The script of a chunk: a factory for each module under its id, a loader that runs a factory the
first time its module is asked for, and a call that asks for the entry.
-/

namespace Bundler.Bundle

def lines (texts : List String) : String := String.join (texts.map (· ++ "\n"))

/-- A text that ends its last line. -/
def endLine (text : String) : String :=
  if text.toList.getLast? = some '\n' then text else text ++ "\n"

def header (name : String) : String := s!"// rpack bundle: {name}\n"

/-- The factory of a module, under its id. -/
def factory (m : Module) : String :=
  "    " ++ Literal.quote m.id ++ ": (function (module, exports, " ++ requireName ++ ") \x7b\n" ++
    endLine m.emitted ++
    "    \x7d),\n"

/-- The loader. A module is in the cache before its factory runs, so that a circle of calls finds
what there is of it so far. -/
def loader : String := lines [
  "  function " ++ requireName ++ "(moduleId) \x7b",
  "    var cachedModule = __rpack_module_cache__[moduleId];",
  "    if (cachedModule !== undefined) \x7b",
  "      return cachedModule.exports;",
  "    \x7d",
  "    if (!Object.prototype.hasOwnProperty.call(__rpack_modules__, moduleId)) \x7b",
  "      throw new Error(\"Cannot find module '\" + moduleId + \"'\");",
  "    \x7d",
  "    var module = (__rpack_module_cache__[moduleId] = \x7b id: moduleId, exports: \x7b\x7d \x7d);",
  "    __rpack_modules__[moduleId].call(module.exports, module, module.exports, " ++
    requireName ++ ");",
  "    return module.exports;",
  "  \x7d"]

/-- The call for the entry. -/
def start (id : String) : String := lines [
  "  (() => \x7b",
  "    " ++ requireName ++ "(" ++ Literal.quote id ++ ");",
  "  \x7d)();"]

/-- What stands before the factories. -/
def opening : String :=
  "(() => \x7b\n" ++
    "  var __rpack_modules__ = \x7b\n"

/-- What stands after the factories. -/
def closing (entryId : String) : String :=
  "  \x7d;\n\n" ++
    "  var __rpack_module_cache__ = \x7b\x7d;\n\n" ++
    loader ++ "\n" ++ start entryId ++
    "\x7d)();\n"

/-- All of a script but its first line. -/
def program (entryId : String) (modules : List Module) : String :=
  opening ++ String.join (modules.map factory) ++ closing entryId

/-- The script of a chunk. -/
def script (chunk : Chunk) : String := header chunk.name ++ program chunk.entry.id chunk.modules

end Bundler.Bundle
