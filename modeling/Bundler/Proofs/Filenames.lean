import Bundler.Proofs.Compilation.Result
import Mathlib.Data.List.Infix

/-!
# The files that scripts go to

A template with a placeholder gives different names different files, whatever the names look like,
and one without a placeholder gives all names one file. So scripts collide exactly where there are
two of them and the template has no placeholder.
-/

namespace Bundler.Output

/-! ## Templates -/

/-- What a template has where the name goes. -/
def placeholder : List Char := ['[', 'n', 'a', 'm', 'e', ']']

/-- How often a name is put into a template. -/
def slots : List Char → Nat
  | '[' :: 'n' :: 'a' :: 'm' :: 'e' :: ']' :: rest => slots rest + 1
  | _ :: rest => slots rest
  | [] => 0

variable {template a b : List Char}

theorem slots_pos_iff : 0 < slots template ↔ placeholder <:+: template := by
  fun_induction slots template with
  | case1 rest => exact ⟨fun _ => (List.prefix_append placeholder rest).isInfix, fun _ => Nat.succ_pos _⟩
  | case2 c rest hother ih =>
    rw [ih, List.infix_cons_iff]
    refine ⟨.inr, fun h => h.resolve_left ?_⟩
    rintro ⟨after, hafter⟩
    obtain ⟨hc, hrest⟩ := List.cons.inj hafter
    exact hother after hc.symm hrest.symm
  | case3 => simp [placeholder]

theorem length_fill (name template : List Char) :
    (fill name template).length + slots template * placeholder.length =
      template.length + slots template * name.length := by
  fun_induction fill name template with
  | case1 rest ih =>
    simp only [slots, List.length_append, List.length_cons, Nat.succ_mul, placeholder, List.length_nil] at ih ⊢
    omega
  | case2 c rest hother ih =>
    rw [slots.eq_2 c rest hother, List.length_cons, List.length_cons]
    omega
  | case3 => simp [slots]

theorem fill_of_slots_eq_zero (name : List Char) (h : slots template = 0) : fill name template = template := by
  fun_induction fill name template with
  | case1 rest ih => simp [slots] at h
  | case2 c rest hother ih => rw [ih (slots.eq_2 c rest hother ▸ h)]
  | case3 => rfl

theorem eq_of_fill_eq (hlength : a.length = b.length) (hslots : 0 < slots template)
    (h : fill a template = fill b template) : a = b := by
  fun_induction fill a template with
  | case1 rest ih =>
    -- Both texts start with their names, which end at one place.
    exact (List.append_inj h hlength).1
  | case2 c rest hother ih =>
    rw [fill.eq_2 b c rest hother] at h
    exact ih (slots.eq_2 c rest hother ▸ hslots) (List.cons.inj h).2
  | case3 => simp [slots] at hslots

theorem fill_injective (h : placeholder <:+: template) : Function.Injective (fill · template) := by
  intro a b hfill
  have hslots := slots_pos_iff.2 h
  -- The names are of one length, since each slot adds as much to the one text as to the other.
  have hlength : slots template * a.length = slots template * b.length := by
    have ha := length_fill a template
    have hb := length_fill b template
    have hsame : (fill a template).length = (fill b template).length := congrArg List.length hfill
    omega
  exact eq_of_fill_eq (Nat.eq_of_mul_eq_mul_left hslots hlength) hslots hfill

theorem filenameFor_injective {output : Output} (h : placeholder <:+: output.filename.toList) :
    Function.Injective output.filenameFor := by
  intro a b hfile
  exact String.toList_inj.1 (fill_injective h (String.ofList_inj.1 hfile))

theorem filenameFor_of_not_infix {output : Output} (h : ¬ placeholder <:+: output.filename.toList) (name : String) :
    output.filenameFor name = output.filename := by
  have hslots : slots output.filename.toList = 0 := Nat.eq_zero_of_not_pos (mt slots_pos_iff.1 h)
  rw [filenameFor, fill_of_slots_eq_zero _ hslots, String.ofList_toList]

end Bundler.Output

namespace Bundler.Compilation
open Output

/-! ## Collisions -/

/-- What is reported where a script would go to a file that is taken. -/
def collision (file : String) : Error :=
  .config (s!"Multiple chunks emit assets to the same filename '{file}'; " ++ "add [name] to output.filename")

theorem render_of_same_file {output : Output} {first second : Chunk} (rest : List Chunk)
    (h : output.filenameFor second.name = output.filenameFor first.name) :
    (render output (first :: second :: rest)).result = .error (collision (output.filenameFor second.name)) := by
  have htaken : (([] ++ [asset output first]).lookup (output.filenameFor second.name)).isSome := by
    rw [lookup_isSome_iff_mem, h]
    simp [asset]
  rw [render, renderAfter_cons, if_neg (by simp), renderAfter_cons, if_pos htaken]
  rfl

/-- Scripts of different names collide exactly where there are two of them and the template has no placeholder. -/
theorem collides_iff (output : Output) (chunks : List Chunk) (hnames : (chunks.map (·.name)).Nodup) :
    ((∃ file, (render output chunks).result = .error (collision file)) ↔
      2 ≤ chunks.length ∧ ¬ placeholder <:+: output.filename.toList) ∧
    (2 ≤ chunks.length ∧ ¬ placeholder <:+: output.filename.toList →
      (render output chunks).result = .error (collision output.filename)) ∧
    (¬ (2 ≤ chunks.length ∧ ¬ placeholder <:+: output.filename.toList) →
      (render output chunks).result = .ok (chunks.map (asset output))) ∧
    (placeholder <:+: output.filename.toList → Function.Injective output.filenameFor) := by
  have hcollides : 2 ≤ chunks.length ∧ ¬ placeholder <:+: output.filename.toList →
      (render output chunks).result = .error (collision output.filename) := by
    rintro ⟨htwo, hplain⟩
    obtain ⟨first, second, rest, rfl⟩ : ∃ first second rest, chunks = first :: second :: rest := by
      match chunks, htwo with
      | first :: second :: rest, _ => exact ⟨first, second, rest, rfl⟩
    have hfile := filenameFor_of_not_infix hplain
    rw [render_of_same_file rest (by rw [hfile, hfile]), hfile]
  have hwritten : ¬ (2 ≤ chunks.length ∧ ¬ placeholder <:+: output.filename.toList) →
      (render output chunks).result = .ok (chunks.map (asset output)) := by
    intro h
    apply renderAfter_of_nodup
    rw [List.map_nil, List.nil_append]
    by_cases hinfix : placeholder <:+: output.filename.toList
    · have hfiles := hnames.map (filenameFor_injective hinfix)
      rwa [List.map_map] at hfiles
    · match chunks, h with
      | [], _ => exact List.nodup_nil
      | [chunk], _ => exact List.nodup_singleton _
      | _ :: _ :: _, h => exact absurd ⟨by simp, hinfix⟩ h
  refine ⟨⟨fun ⟨file, herror⟩ => ?_, fun h => ⟨_, hcollides h⟩⟩, hcollides, hwritten, filenameFor_injective⟩
  by_contra h
  rw [hwritten h] at herror
  cases herror

/-- Chunks of nothing but a name. -/
def bareChunks (names : List String) : List Chunk := names.map fun name => { (default : Chunk) with name := name }

theorem collides_iff_brackets :
    let chunks := bareChunks ["", "[name]", "]", "[name"]
    (chunks.map (·.name)).Nodup ∧
    (render { filename := "[[name]][name].js" } chunks).result =
      .ok (chunks.map (asset { filename := "[[name]][name].js" })) ∧
    Function.Injective (filenameFor { filename := "[[name]][name].js" }) ∧
    (render { filename := "[na[me]].js" } chunks).result = .error (collision "[na[me]].js") := by
  intro chunks
  have hnames : (chunks.map (·.name)).Nodup := by decide
  obtain ⟨-, -, hwritten, hinjective⟩ := collides_iff { filename := "[[name]][name].js" } chunks hnames
  obtain ⟨-, hcollides, -, -⟩ := collides_iff { filename := "[na[me]].js" } chunks hnames
  have hinfix : placeholder <:+: "[[name]][name].js".toList := by decide
  exact ⟨hnames, hwritten fun h => h.2 hinfix, hinjective hinfix, hcollides ⟨by decide, by decide⟩⟩

end Bundler.Compilation
