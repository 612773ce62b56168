import Bundler.Proofs.Graph.Recursion
import Bundler.Proofs.Literal
import Bundler.Proofs.Script.Reading
import Mathlib.Data.List.TakeWhile

/-!
# Modules that are data

A JSON file becomes a script that hands its text over as one string. Whatever the text says, the script is
read as one statement that asks for nothing, and the string in it is the text without the blanks around it.
-/

namespace Bundler

/-! ## The blanks around a text -/

namespace Text

/-- A text is a value with blanks around it, and no blank is left at an end of the value. -/
structure Trimmed (text value : List Char) : Prop where
  around : ∃ before after, text = before ++ value ++ after ∧ ∀ c ∈ before ++ after, isBlank c
  first : ∀ c ∈ value.head?, isBlank c = false
  last : ∀ c ∈ value.getLast?, isBlank c = false

theorem isBlank_head?_dropWhile (text : List Char) : ∀ c ∈ (text.dropWhile isBlank).head?, isBlank c = false := by
  intro c hc
  have h := List.head?_dropWhile_not isBlank text
  rw [Option.mem_def.1 hc] at h
  exact h

theorem trimmed_trim (text : List Char) : Trimmed text (trim text) := by
  let rest := text.dropWhile isBlank
  have hrest : rest = trim text ++ (rest.reverse.takeWhile isBlank).reverse := by
    rw [trim, ← List.reverse_append, List.takeWhile_append_dropWhile, List.reverse_reverse]
  refine ⟨⟨text.takeWhile isBlank, (rest.reverse.takeWhile isBlank).reverse, ?_, ?_⟩, ?_, ?_⟩
  · rw [List.append_assoc, ← hrest, List.takeWhile_append_dropWhile]
  · intro c hc
    rcases List.mem_append.1 hc with hc | hc
    · exact List.mem_takeWhile_imp hc
    · exact List.mem_takeWhile_imp (List.mem_reverse.1 hc)
  · intro c hc
    apply isBlank_head?_dropWhile text c
    change c ∈ rest.head?
    rw [hrest, List.head?_append_of_ne_nil]
    · exact hc
    · rintro h
      simp [h] at hc
  · intro c hc
    rw [trim, List.getLast?_reverse] at hc
    exact isBlank_head?_dropWhile _ c hc

end Text

/-! ## The script of a text -/

/-- The script that hands a text over. -/
def jsonScript (text : String) : String := "module.exports = JSON.parse(" ++ Literal.quote text ++ ");\n"

theorem jsonScript_eq (text : String) :
    jsonScript text = "module.exports = JSON.parse(" ++ Literal.quote text ++ ");\n" := rfl

namespace Script

theorem skipGap_quote (text rest : String) :
    Lexer.skipGap false 0 .blank (Literal.quote text ++ rest).toList =
      some (false, 0, (Literal.quote text ++ rest).toList) := by
  rw [Literal.toList_quote_append]
  rfl

theorem begins_jsonScript (text : String) :
    Begins (jsonScript text).toList
      [.word "module" true, .mark .dot, .word "exports" true, .mark .assign, .word "JSON" true, .mark .dot,
        .word "parse" true, .mark .parenL, .text text, .mark .parenR, .mark .semicolon, .stop] := by
  have hchars : (jsonScript text).toList =
      'm' :: 'o' :: 'd' :: 'u' :: 'l' :: 'e' :: '.' :: 'e' :: 'x' :: 'p' :: 'o' :: 'r' :: 't' :: 's' :: ' ' :: '=' ::
        ' ' :: 'J' :: 'S' :: 'O' :: 'N' :: '.' :: 'p' :: 'a' :: 'r' :: 's' :: 'e' :: '(' ::
          (Literal.quote text ++ ");\n").toList := by
    simp [jsonScript_eq]
  have hend : Begins ");\n".toList [.mark .parenR, .mark .semicolon, .stop] :=
    .cons rfl rfl (.cons rfl rfl (.cons rfl rfl (.nil _)))
  have hliteral : Begins (Literal.quote text ++ ");\n").toList
      [.text text, .mark .parenR, .mark .semicolon, .stop] :=
    .cons (skipGap_quote text _) (Literal.token?_quote text _) hend
  rw [hchars]
  -- What follows the parenthesis is not looked at, so the tokens before it are read by evaluation.
  generalize (Literal.quote text ++ ");\n").toList = tail at hliteral
  exact .cons rfl rfl (.cons rfl rfl (.cons rfl rfl (.cons rfl rfl (.cons rfl rfl (.cons rfl rfl (.cons rfl rfl
    (.cons rfl rfl hliteral)))))))

theorem read_jsonScript (text : String) :
    ∃ tree, Program.read {} (jsonScript text) = some ⟨none, [tree]⟩ ∧ tree.requires = [] := by
  have hbegins := begins_jsonScript text
  have hfirst : hashbang? (jsonScript text).toList = none ∧
      afterHashbang (jsonScript text).toList = (jsonScript text).toList := by
    simp [jsonScript_eq, hashbang?, afterHashbang]
  generalize jsonScript text = script at hbegins hfirst
  -- Five levels are enough, and a script has 256 and more, whatever its length.
  obtain ⟨tree, s, hs, hnone, hflawed, hdefaults⟩ := run_assigned_call
    (c := { dialect := {}, bound := script.toList.length + 2, ambient := false })
    (s := { lexeme := .read 0 script.toList }) (16 * script.toList.length + 251) (by simp) rfl (by decide) (by decide)
    (by decide) (by decide) (hbegins _ 0 rfl)
  refine ⟨tree, ?_, hnone⟩
  simp [Program.read, hfirst.1, hfirst.2, maxLevels, hs, hflawed, hdefaults]

end Script

theorem scan_jsonScript {path : Path} (hpath : Script.Dialect.ofPath path = {}) (text : String) :
    scan path (jsonScript text) = .ok ⟨[], none⟩ := by
  obtain ⟨tree, hread, hnone⟩ := Script.read_jsonScript text
  simp [scan, hpath, hread, Script.Program.scan, Script.Tree.requiresIn, hnone, splitKnown]

theorem Patch.splice?_nil (source : String) : splice? source [] = some source := by
  have hcut := Text.cut?_size [] source.toList
  rw [List.nil_append, Text.size_nil] at hcut
  simp [splice?, sort, spliceFrom, Text.drop?, hcut]

theorem extract_jsonScript (files : Files) (r : Resolver) (root : Path) {path : Path}
    (hpath : Script.Dialect.ofPath path = {}) (text : String) :
    extract files r root path (jsonScript text) = .ok ⟨jsonScript text, []⟩ := by
  simp [extract, scan_jsonScript hpath, Scan.extraction, Scan.patches, Patch.splice?_nil, bind, Except.bind, pure,
    Except.pure]

/-! ## The module of a file -/

namespace Project

variable {p : Project} {files : Files} {path : Path} {ending text : String}

theorem dialect_of_json (hending : path.extension? = some ending)
    (hjson : ending.toList.map Char.toLower = ['j', 's', 'o', 'n']) : Script.Dialect.ofPath path = {} := by
  unfold Script.Dialect.ofPath
  rw [hending]
  split
  all_goals first
    | rfl
    | next h =>
      cases h
      exact absurd hjson (by decide)

theorem isJson_of_json (hending : path.extension? = some ending)
    (hjson : ending.toList.map Char.toLower = ['j', 's', 'o', 'n']) : isJson path := by
  simp [isJson, hending, hjson]

/-- The module of a file that asks for nothing and stays as it is. -/
def leaf (p : Project) (path : Path) (entry source : String) : Module where
  id := Path.idFrom p.root path
  path := path
  transformed := source
  emitted := source
  dependencies := []
  owners := [entry]

theorem wrapJson_eq (path : Path) (text : String) : wrapJson path text =
    match Json.parse (String.ofList (Text.trim text.toList)) with
    | .ok _ => .ok (jsonScript (String.ofList (Text.trim text.toList)))
    | .error problem => .error (.parse path ("invalid JSON: " ++ problem)) := by
  delta wrapJson
  cases hparse : Json.parse (String.ofList (Text.trim text.toList)) with
  | ok data => simp only [hparse, jsonScript_eq]
  | error problem => simp only [hparse]

theorem analyse_json {value : String} (hending : path.extension? = some ending)
    (hjson : ending.toList.map Char.toLower = ['j', 's', 'o', 'n']) (hload : p.load files path = .ok text)
    (hvalue : value = String.ofList (Text.trim text.toList)) :
    p.analyse files path =
      match Json.parse value with
      | .ok _ => .ok ⟨jsonScript value, jsonScript value, []⟩
      | .error problem => .error (.parse path ("invalid JSON: " ++ problem)) := by
  subst hvalue
  rw [analyse, hload]
  simp only [bind, Except.bind]
  rw [examine_eq, if_pos (isJson_of_json hending hjson), wrapJson_eq]
  cases Json.parse (String.ofList (Text.trim text.toList)) with
  | ok data =>
    simp only [bind, Except.bind, pure, Except.pure,
      extract_jsonScript files p.resolver p.root (dialect_of_json hending hjson)]
  | error problem => rfl

theorem moduleOf_jsonScript (p : Project) (path : Path) (entry value : String) :
    p.moduleOf path entry ⟨jsonScript value, jsonScript value, []⟩ = p.leaf path entry (jsonScript value) := rfl

end Project

namespace Graph

variable {p : Project} {files : Files} {entry : String} {g : Graph} {path : Path}

theorem build_of_leaf {q : Path} {source : String} (hq : q.normal = path) (hnew : g.find? path = none)
    (h : (visit p files entry g path).result = .ok (g.add (p.leaf path entry source), [])) :
    (build p files g entry q).result = .ok (p.leaf path entry source) := by
  have hfound : (g.add (p.leaf path entry source)).find? path = some (p.leaf path entry source) := by
    simp [find?_add, hnew, Project.leaf, Path.same]
  rw [build_result, hq, walk_of_visit h]
  simp only [hfound, bind, Except.bind]

theorem build_of_visit_error {q : Path} {e : Error} (hq : q.normal = path)
    (h : (visit p files entry g path).result = .error e) : (build p files g entry q).result = .error e := by
  rw [build_result, hq, walk_cons, h]
  rfl

/-- A JSON file becomes a module, which asks for nothing, exactly where its text is JSON between blanks. -/
theorem json_is_leaf (p : Project) (files : Files) (g : Graph) (entry : String) {path : Path}
    {ending text value source : String} (hending : path.extension? = some ending)
    (hjson : ending.toList.map Char.toLower = ['j', 's', 'o', 'n']) (hload : p.load files path = .ok text)
    (hnew : g.find? path = none) (hvalue : value = String.ofList (Text.trim text.toList))
    (hsource : source = "module.exports = JSON.parse(" ++ Literal.quote value ++ ");\n") :
    Text.Trimmed text.toList value.toList ∧
    (∀ rest : String, Script.Lexer.token? (Literal.quote value ++ rest).toList =
      some ⟨.text value, (Literal.quote value).utf8ByteSize, rest.toList⟩) ∧
    (∀ g' next, (visit p files entry g path).result = .ok (g', next) ↔
      (∃ data, Json.parse value = .ok data) ∧ g' = g.add (p.leaf path entry source) ∧ next = []) ∧
    (∀ e, (visit p files entry g path).result = .error e ↔
      ∃ problem, Json.parse value = .error problem ∧ e = .parse path ("invalid JSON: " ++ problem)) ∧
    ∀ q, q.normal = path →
      (∀ m, (build p files g entry q).result = .ok m ↔
        (∃ data, Json.parse value = .ok data) ∧ m = p.leaf path entry source) ∧
      ∀ e, (build p files g entry q).result = .error e ↔
        ∃ problem, Json.parse value = .error problem ∧ e = .parse path ("invalid JSON: " ++ problem) := by
  have htrimmed : Text.Trimmed text.toList value.toList := by
    rw [hvalue, String.toList_ofList]
    exact Text.trimmed_trim text.toList
  have hfound := Project.analyse_json hending hjson hload hvalue
  have hvisit : (visit p files entry g path).result = _ := visit_result
  rw [hnew, hfound] at hvisit
  subst hsource
  rw [← jsonScript_eq]
  refine ⟨htrimmed, Literal.token?_quote value, ?_⟩
  cases hparse : Json.parse value with
  | ok data =>
    simp only [hparse, Except.map, Project.moduleOf_jsonScript, List.map_nil] at hvisit
    have hbuild (q : Path) (hq : q.normal = path) := build_of_leaf hq hnew hvisit
    refine ⟨?_, ?_, fun q hq => ⟨?_, ?_⟩⟩
    · simp [hvisit, eq_comm]
    · simp [hvisit]
    · simp [hbuild q hq, eq_comm]
    · simp [hbuild q hq]
  | error problem =>
    simp only [hparse, Except.map] at hvisit
    have hbuild (q : Path) (hq : q.normal = path) := build_of_visit_error hq hvisit
    refine ⟨?_, ?_, fun q hq => ⟨?_, ?_⟩⟩
    · simp [hvisit]
    · simp [hvisit, eq_comm]
    · simp [hbuild q hq]
    · simp [hbuild q hq, eq_comm]

/-! ## A file that talks of modules -/

/-- A JSON text with blanks around it that JSON does not know. -/
def settingsText : String := "\u00a0\x7b\"#!\":\"require('./a');\\\"\u2028\\u2028\"\x7d\u2029\n"

def settings : Files where
  tree := .folder [("app", .folder [("data.JSON", .file settingsText.toUTF8)])]

def settingsValue : String := "\x7b\"#!\":\"require('./a');\\\"\u2028\\u2028\"\x7d"

def settingsScript : String :=
  "module.exports = JSON.parse(\"\x7b\\\"#!\\\":\\\"require('./a');\\\\\\\"\\u2028\\\\u2028\\\"\x7d\");\n"

def settingsModule : Module where
  id := "./data.JSON"
  path := ⟨"/app/data.JSON"⟩
  transformed := settingsScript
  emitted := settingsScript
  owners := ["main"]

theorem json_is_leaf_settings :
    let p : Project := { root := ⟨"/app"⟩ }
    Path.extension? settingsModule.path = some "JSON" ∧ p.load settings settingsModule.path = .ok settingsText ∧
    Text.Trimmed settingsText.toList settingsValue.toList ∧ (∃ data, Json.parse settingsValue = .ok data) ∧
    (build p settings {} "main" ⟨"/app//data.JSON"⟩).result = .ok settingsModule := by
  intro p
  have hending : Path.extension? settingsModule.path = some "JSON" := by decide +kernel
  have hload : p.load settings settingsModule.path = .ok settingsText := by decide +kernel
  have hvalue : settingsValue = String.ofList (Text.trim settingsText.toList) := by decide +kernel
  have hdata : ∃ data, Json.parse settingsValue = .ok data := by
    have hok : (Json.parse settingsValue).isOk := by decide +kernel
    cases hparse : Json.parse settingsValue with
    | ok data => exact ⟨data, rfl⟩
    | error problem => simp [hparse, Except.isOk, Except.toBool] at hok
  have hleaf : settingsModule = p.leaf settingsModule.path "main"
      ("module.exports = JSON.parse(" ++ Literal.quote settingsValue ++ ");\n") := by decide +kernel
  obtain ⟨htrimmed, -, -, -, hbuild⟩ := json_is_leaf p settings {} "main" hending (by decide) hload rfl hvalue rfl
  have hmodule := ((hbuild ⟨"/app//data.JSON"⟩ (by decide +kernel)).1 settingsModule).2 ⟨hdata, hleaf⟩
  exact ⟨hending, hload, htrimmed, hdata, hmodule⟩

end Graph
end Bundler
