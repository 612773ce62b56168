import Bundler.Resolver
import Bundler.Proofs.Files
import Mathlib.Data.Option.Basic

/-!
# What a specifier is resolved to

Where no ending holds a slash, a specifier is resolved to a file whose path is in normal form, so
that one file is found under one path.
-/

namespace Bundler.Resolver

/-- No ending holds a slash. -/
def Plain (r : Resolver) : Prop := ∀ ending ∈ r.extensions, '/' ∉ ending.toList

/-- A file under its one path, found from `p`. -/
structure Hit (files : Files) (p q : Path) : Prop where
  normal : q.Normal
  isFile : files.isFile q
  isAbsolute : p.isAbsolute → q.isAbsolute

variable {r : Resolver} {files : Files} {p q : Path}

theorem normal_append {p : Path} {ending : String} (hp : p.Normal) (hending : '/' ∉ ending.toList)
    (h : files.isFile ⟨p.text ++ ending⟩) : Path.Normal ⟨p.text ++ ending⟩ := by
  obtain ⟨abs, body, hbody, rfl⟩ := hp
  rcases List.eq_nil_or_concat' body with rfl | ⟨before, last, rfl⟩
  · have he : (⟨(Path.ofBody abs []).text ++ ending⟩ : Path) = .ofBody abs [ending.toList] := by
      cases abs <;> simp [Path.ofBody]
    obtain ⟨front, last, hlast, hname⟩ := Files.getLast_body_of_isFile h
    have hsingle : (⟨(Path.ofBody abs []).text ++ ending⟩ : Path).body = [ending.toList] := by
      rw [he, Path.body, Path.text_ofBody, List.intercalate_singleton, ← List.splitOn_eq_singleton hending,
        ← Path.pieces_eq_splitOn]
      cases abs with
      | true => rfl
      | false =>
        split
        · next heq =>
          rw [if_neg (by simp), List.nil_append] at heq
          exact absurd (by simp [heq]) hending
        · rfl
    rw [hsingle] at hlast
    obtain ⟨-, rfl⟩ : front = [] ∧ last = ending.toList := by
      cases front with
      | nil => simpa using hlast.symm
      | cons => simp at hlast
    exact ⟨abs, _, Path.clean_of_isName (by simpa using hname), he⟩
  · have he : (⟨(Path.ofBody abs (before ++ [last])).text ++ ending⟩ : Path) =
        .ofBody abs (before ++ [last ++ ending.toList]) := by
      rw [Path.mk.injEq, ← String.toList_inj, String.toList_append, Path.text_ofBody, Path.text_ofBody]
      by_cases hb : before = []
      · simp [hb]
      · simp [Path.intercalate_concat hb]
    rw [he]
    by_cases hempty : ending.toList = []
    · exact ⟨abs, _, by simpa [hempty] using hbody, rfl⟩
    · have hname := (hbody.isStep last (by simp)).append hending hempty
      exact ⟨abs, _, hbody.of_append.append (by simpa using hname), rfl⟩

/-! ## Probing -/

theorem hit_of_probe (hr : r.Plain) (hp : p.Normal) (h : r.probe files p = some q) : Hit files p q := by
  have hfile : files.isFile q := List.find?_some h
  have hmem : q ∈ r.spellings p := List.mem_of_find?_eq_some h
  rw [spellings, List.mem_cons, List.mem_map] at hmem
  rcases hmem with rfl | ⟨ending, hending, rfl⟩
  · exact ⟨hp, hfile, id⟩
  · exact ⟨normal_append hp (hr ending hending) hfile, hfile, fun ha => Path.isAbsolute_append ha ending⟩

theorem hit_of_probe_index (hr : r.Plain) (hp : p.Normal) (h : r.probe files (p.child "index") = some q) :
    Hit files p q := by
  have hit := hit_of_probe hr (hp.child Path.isName_index) h
  exact { hit with isAbsolute := fun ha => hit.isAbsolute (Path.isAbsolute_child ha _) }

theorem hit_of_place (hr : r.Plain) (hp : p.Normal) (h : r.place files p = some q) : Hit files p q := by
  unfold place at h
  rcases (Option.orElse_eq_some _ _ _).1 h with h | ⟨-, h⟩
  · exact hit_of_probe hr hp h
  · split at h
    · exact hit_of_probe_index hr hp h
    · cases h

theorem hit_of_package (hr : r.Plain) (hp : p.Normal) (h : r.package files p = some q) : Hit files p q := by
  unfold package at h
  rcases (Option.orElse_eq_some _ _ _).1 h with h | ⟨-, h⟩
  · obtain ⟨main, -, h⟩ := Option.bind_eq_some_iff.1 h
    have hit := hit_of_place hr (Path.normal_normal _) h
    exact { hit with isAbsolute := fun ha => hit.isAbsolute (by simpa using Path.isAbsolute_child ha _) }
  · exact hit_of_probe_index hr hp h

theorem hit_of_inModules (hr : r.Plain) {specifier : String} (h : r.inModules files specifier p = some q) :
    Hit files p q := by
  unfold inModules at h
  have habs : p.isAbsolute → ((p.child "node_modules").child specifier).normal.isAbsolute := fun ha => by
    rw [Path.isAbsolute_normal]
    exact Path.isAbsolute_child (Path.isAbsolute_child ha _) _
  simp only at h
  split at h
  · rcases (Option.orElse_eq_some _ _ _).1 h with h | ⟨-, h⟩
    · have hit := hit_of_probe hr (Path.normal_normal _) h
      exact { hit with isAbsolute := hit.isAbsolute ∘ habs }
    · split at h
      · have hit := hit_of_package hr (Path.normal_normal _) h
        exact { hit with isAbsolute := hit.isAbsolute ∘ habs }
      · cases h
  · cases h

/-! ## Resolving -/

theorem hit_of_resolve? (hr : r.Plain) {specifier : String} (h : r.resolve? files p specifier = some q) :
    Hit files p q := by
  unfold resolve? at h
  split at h
  · obtain ⟨folder, hfolder, h⟩ := List.exists_of_findSome?_eq_some h
    have hit := hit_of_inModules hr h
    exact { hit with
      isAbsolute := fun ha => hit.isAbsolute (Path.isAbsolute_ancestorsWithin ha folder hfolder) }
  · have hit := hit_of_place hr (Path.normal_normal _) h
    exact { hit with isAbsolute := fun ha => hit.isAbsolute (by simpa using Path.isAbsolute_child ha _) }

theorem hit_of_resolve (hr : r.Plain) {specifier : String} (h : r.resolve files p specifier = .ok q) :
    Hit files p q := by
  unfold resolve at h
  split at h
  · next found => exact hit_of_resolve? hr (by simpa using found.trans (congrArg some (Except.ok.inj h)))
  · cases h

end Bundler.Resolver
