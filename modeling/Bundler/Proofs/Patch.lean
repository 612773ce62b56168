import Bundler.Patch
import Mathlib.Data.List.Infix

/-!
# What patches put into a text
-/

namespace Bundler.Patch

theorem insert_perm (patch : Patch) (patches : List Patch) : (insert patch patches).Perm (patch :: patches) := by
  induction patches with
  | nil => exact .refl _
  | cons other rest ih =>
    rw [insert]
    split
    · exact .refl _
    · exact (ih.cons other).trans (.swap patch other rest)

theorem sort_perm (patches : List Patch) : (sort patches).Perm patches := by
  induction patches with
  | nil => exact .refl _
  | cons patch rest ih => exact (insert_perm patch (sort rest)).trans (ih.cons patch)

end Bundler.Patch
