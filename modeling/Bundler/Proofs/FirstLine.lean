import Bundler.Bundle
import Bundler.Proofs.Bytes
import Bundler.Script.Lexer
import Mathlib.Data.List.TakeWhile

/-!
# The first line of a script

A script starts with a comment that names its entry, and the comment ends with the line. A name that
ends no line is all in the comment, so that the script after its first line does not depend on it. Of
a name that ends a line, what follows is read as part of the script.
-/

namespace Bundler.Bundle
open Script Lexer

/-! ## Lines -/

/-- What follows the first line of a text. -/
def afterLine (text : List Char) : List Char := (text.dropWhile fun c => !isLineEnd c).tail

variable {a b : List Char}

theorem afterLine_append_of_ends (h : a.any isLineEnd) (b : List Char) : afterLine (a ++ b) = afterLine a ++ b := by
  have hne : a.dropWhile (fun c => !isLineEnd c) ≠ [] := by
    simpa [List.dropWhile_eq_nil_iff] using h
  rw [afterLine, List.dropWhile_append, if_neg (by simpa using hne), List.tail_append_of_ne_nil hne, afterLine]

theorem afterLine_append_of_not_ends (h : a.any isLineEnd = false) (b : List Char) :
    afterLine (a ++ b) = afterLine b := by
  have hnil : a.dropWhile (fun c => !isLineEnd c) = [] := by
    simpa [List.dropWhile_eq_nil_iff] using h
  rw [afterLine, List.dropWhile_append, hnil]
  rfl

theorem afterLine_cons_of_ends {c : Char} (h : isLineEnd c) (b : List Char) : afterLine (c :: b) = b := by
  simp [afterLine, h]

theorem exists_skipGap_lineComment {text : List Char} (h : text.any isLineEnd) (fresh : Bool) (size : Nat) :
    ∃ line, text = line ++ afterLine text ∧
      skipGap fresh size .lineComment text = skipGap true (size + Text.size line) .blank (afterLine text) := by
  induction text generalizing size with
  | nil => simp at h
  | cons c text ih =>
    rw [skipGap]
    by_cases hc : isLineEnd c
    · rw [if_pos hc, afterLine_cons_of_ends hc]
      exact ⟨[c], rfl, rfl⟩
    · obtain ⟨line, htext, hgap⟩ := ih (by simpa [hc] using h) (size + c.utf8Size)
      have hafter : afterLine (c :: text) = afterLine text :=
        afterLine_append_of_not_ends (a := [c]) (by simpa using hc) text
      rw [if_neg hc, hafter]
      refine ⟨c :: line, by rw [List.cons_append, ← htext], ?_⟩
      rw [hgap, Text.size_cons, Nat.add_assoc]

/-! ## Scripts -/

theorem toList_header_append (name program : String) : (header name ++ program).toList =
    "// rpack bundle: ".toList ++ (name.toList ++ ("\n" ++ program).toList) := by
  have h : header name = "// rpack bundle: " ++ name ++ "\n" := rfl
  rw [h, String.toList_append, String.toList_append, String.toList_append, String.toList_append, List.append_assoc,
    List.append_assoc]

/-- What stands behind the first line of a script because of the name of its entry. -/
def spilled (name : String) : List Char := if name.toList.any isLineEnd then afterLine name.toList ++ ['\n'] else []

theorem spilled_eq_nil_iff {name : String} : spilled name = [] ↔ name.toList.any isLineEnd = false := by
  unfold spilled
  split <;> simp_all

theorem afterLine_script (chunk : Chunk) : afterLine (script chunk).toList =
    spilled chunk.name ++ (program chunk.entry.id chunk.modules).toList := by
  rw [script, toList_header_append, afterLine_append_of_not_ends (by decide), String.toList_append]
  unfold spilled
  split
  · next h =>
    rw [afterLine_append_of_ends h, List.append_assoc]
    rfl
  · next h =>
    rw [afterLine_append_of_not_ends (by simpa using h)]
    exact afterLine_cons_of_ends (by decide) _

theorem exists_program (entryId : String) (modules : List Module) :
    ∃ rest, (program entryId modules).toList = "(() => \x7b\n".toList ++ rest := by
  rw [program, opening, String.append_assoc, String.append_assoc, String.toList_append]
  exact ⟨_, rfl⟩

/-- The first line of a script is passed as a comment, and what follows it is read. -/
theorem exists_skipGap_script (chunk : Chunk) :
    ∃ line, (script chunk).toList = line ++ afterLine (script chunk).toList ∧
      skipGap false 0 .blank (script chunk).toList =
        skipGap true (Text.size line) .blank (afterLine (script chunk).toList) := by
  obtain ⟨text, htext, hends⟩ : ∃ text, (script chunk).toList = '/' :: '/' :: text ∧ text.any isLineEnd := by
    have hslashes : "// rpack bundle: ".toList = '/' :: '/' :: " rpack bundle: ".toList := by decide
    rw [script, toList_header_append, hslashes, List.cons_append, List.cons_append]
    refine ⟨_, rfl, ?_⟩
    rw [List.any_append, List.any_append, String.toList_append, List.any_append]
    simp [isLineEnd]
  have hafter : afterLine ('/' :: '/' :: text) = afterLine text :=
    afterLine_append_of_not_ends (a := ['/', '/']) (by decide) text
  obtain ⟨line, hline, hgap⟩ := exists_skipGap_lineComment hends false 2
  rw [htext, hafter]
  refine ⟨'/' :: '/' :: line, by rw [List.cons_append, List.cons_append, ← hline], ?_⟩
  rw [skipGap, hgap, Text.size_cons, Text.size_cons, ← Nat.add_assoc]
  rfl

/-- All that a name changes behind the first line of a script is what it spills: nothing, if it ends no line. -/
theorem name_confined_iff (a b : Chunk) (hentry : a.entry = b.entry) (hmodules : a.modules = b.modules) :
    (afterLine (script a).toList = afterLine (script b).toList ↔ spilled a.name = spilled b.name) ∧
    ∀ chunk,
      (∃ line, (script chunk).toList = line ++ afterLine (script chunk).toList ∧
        skipGap false 0 .blank (script chunk).toList =
          skipGap true (Text.size line) .blank (afterLine (script chunk).toList)) ∧
      afterLine (script chunk).toList = spilled chunk.name ++ (program chunk.entry.id chunk.modules).toList ∧
      (spilled chunk.name = [] ↔ ∀ c ∈ chunk.name.toList, isLineEnd c = false) := by
  refine ⟨?_, fun chunk => ⟨exists_skipGap_script chunk, afterLine_script chunk, ?_⟩⟩
  · rw [afterLine_script, afterLine_script, hentry, hmodules, List.append_cancel_right_eq]
  · rw [spilled_eq_nil_iff, List.any_eq_false]
    simp

/-! ## An example: a name that holds a statement -/

/-- A chunk of one empty module. -/
def greeting (name : String) : Chunk :=
  let m : Module := { id := "./a.js", path := ⟨"/app/a.js"⟩, transformed := "", emitted := "" }
  { name := name, entry := m, modules := [m] }

theorem name_confined_iff_admin :
    (greeting "*/ admin()").entry = (greeting "main").entry ∧
    (greeting "*/ admin()").modules = (greeting "main").modules ∧
    (∀ c ∈ "*/ admin()".toList, isLineEnd c = false) ∧
    afterLine (script (greeting "*/ admin()")).toList = afterLine (script (greeting "main")).toList := by
  obtain ⟨hsame, hchunk⟩ := name_confined_iff (greeting "*/ admin()") (greeting "main") rfl rfl
  have hadmin : spilled "*/ admin()" = [] := by decide
  have hmain : spilled "main" = [] := by decide
  exact ⟨rfl, rfl, (hchunk (greeting "*/ admin()")).2.2.1 hadmin, hsame.2 (hadmin.trans hmain.symm)⟩

theorem name_read_as_script : ∃ a b : Chunk, a.entry = b.entry ∧ a.modules = b.modules ∧
    afterLine (script a).toList ≠ afterLine (script b).toList ∧
    (Lexeme.read 0 (script a).toList).token = .mark .parenL ∧
    (Lexeme.read 0 (script b).toList).token = .word "alert" true := by
  refine ⟨greeting "main", greeting "main\nalert(1);//", rfl, rfl, ?_, ?_, ?_⟩
  · rw [afterLine_script, afterLine_script]
    have hspilled : spilled "main" ≠ spilled "main\nalert(1);//" := by decide
    exact fun h => hspilled (List.append_cancel_right h)
  · obtain ⟨line, -, hgap⟩ := exists_skipGap_script (greeting "main")
    obtain ⟨rest, hrest⟩ := exists_program (greeting "main").entry.id (greeting "main").modules
    rw [Lexeme.read, hgap, afterLine_script, hrest]
    rfl
  · obtain ⟨line, -, hgap⟩ := exists_skipGap_script (greeting "main\nalert(1);//")
    rw [Lexeme.read, hgap, afterLine_script]
    rfl

end Bundler.Bundle
