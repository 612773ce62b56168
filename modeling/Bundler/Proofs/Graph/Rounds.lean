import Bundler.Proofs.Graph.Identity
import Bundler.Proofs.Graph.Recursion
import Mathlib.Data.List.Perm.Subperm

/-!
# The rounds of a walk

A walk takes one file from its list in each round and puts those there that the file leads to. It ends,
also where files lead back to themselves. Only a file whose module gets the owner puts others on the
list, and it does so once. So there is one round for the start, and one for each file that was put there
for a module that got the owner.
-/

namespace Bundler

namespace Graph

/-! ## Rounds -/

/-- A file that is taken from the list, and the files that are put there for it. -/
structure Round where
  path : Path
  pushed : List Path

/-- The rounds from a graph and a list of files up to the end, with the graph and the result there: each takes the
first file from the list, and one that cannot be built is the last. -/
inductive Rounds (p : Project) (files : Files) (entry : String) :
    Graph → List Path → List Round → Graph → Except Error Unit → Prop
  | ended (g : Graph) : Rounds p files entry g [] [] g (.ok ())
  | failed {g : Graph} {path : Path} {e : Error} (rest : List Path)
      (hvisit : (visit p files entry g path).result = .error e) :
      Rounds p files entry g (path :: rest) [⟨path, []⟩] g (.error e)
  | more {g g' k : Graph} {path : Path} {rest next : List Path} {rounds : List Round} {result : Except Error Unit}
      (hvisit : (visit p files entry g path).result = .ok (g', next))
      (h : Rounds p files entry g' (next ++ rest) rounds k result) :
      Rounds p files entry g (path :: rest) (⟨path, next⟩ :: rounds) k result

variable {p : Project} {files : Files} {entry : String} {g g' k : Graph} {path q : Path} {pending : List Path}
  {rounds : List Round} {result : Except Error Unit}

theorem exists_rounds (p : Project) (files : Files) (entry : String) (g : Graph) (pending : List Path) :
    ∃ rounds, Rounds p files entry g pending rounds (walk p files entry g pending).graph
        (walk p files entry g pending).result ∧
      rounds.map (·.path) = visits (walk p files entry g pending).events := by
  induction g, pending using walk.induct p files entry with
  | case1 g =>
    rw [walk_nil]
    exact ⟨[], .ended g, rfl⟩
  | case2 g path rest _ e hvisit =>
    rw [walk_cons, hvisit]
    refine ⟨_, .failed rest hvisit, ?_⟩
    rw [visits_cons_visited, visits_visit]
    rfl
  | case3 g path rest _ g' next hvisit ih =>
    obtain ⟨rounds, hrounds, hvisits⟩ := ih
    rw [walk_cons, hvisit]
    refine ⟨_, .more hvisit hrounds, ?_⟩
    simp only [List.map_cons, List.cons_append, visits_cons_visited, visits_append, visits_visit, List.nil_append,
      hvisits]

theorem Rounds.length_le (h : Rounds p files entry g pending rounds k result) :
    rounds.length ≤ pending.length + (rounds.flatMap (·.pushed)).length := by
  induction h with
  | ended => simp
  | failed => simp
  | more _ _ ih =>
    simp only [List.length_cons, List.flatMap_cons, List.length_append] at *
    omega

/-! ## Owners -/

theorem find?_of_same {a b : Path} (h : a.same b) (g : Graph) : g.find? a = g.find? b := by
  have hcomponents : a.components = b.components := by simpa [Path.same] using h
  simp only [find?, Path.same, hcomponents]

/-- The module of a file has an owner. -/
def OwnedAt (entry : String) (g : Graph) (q : Path) : Prop := ∃ m ∈ g.find? q, m.ownedBy entry

instance : Decidable (OwnedAt entry g q) := inferInstanceAs (Decidable (∃ m ∈ g.find? q, m.ownedBy entry))

theorem ownedAt_iff_of_same {a b : Path} (h : a.same b) : OwnedAt entry g a ↔ OwnedAt entry g b := by
  rw [OwnedAt, OwnedAt, find?_of_same h]

theorem exists_find?_of_visit {next : List Path} (hvisit : (visit p files entry g path).result = .ok (g', next))
    {m : Module} (hm : g.find? q = some m) :
    ∃ m', g'.find? q = some m' ∧ m'.dependencies = m.dependencies ∧ (m.ownedBy entry → m'.ownedBy entry) := by
  rcases visit_ok hvisit with ⟨_, -, -, rfl, -⟩ | ⟨_, -, -, rfl, -⟩ | ⟨a, -, -, rfl, -⟩
  · exact ⟨m, hm, rfl, id⟩
  · rw [find?_addOwner, hm]
    refine ⟨_, rfl, ?_⟩
    simp only
    split
    · exact ⟨rfl, fun hown => by simp_all [Module.ownedBy, Module.addOwner]⟩
    · exact ⟨rfl, id⟩
  · rw [find?_add, hm]
    exact ⟨m, rfl, rfl, id⟩

theorem OwnedAt.visit {next : List Path} (h : OwnedAt entry g q)
    (hvisit : (visit p files entry g path).result = .ok (g', next)) : OwnedAt entry g' q := by
  obtain ⟨m, hm, hown⟩ := h
  obtain ⟨m', hm', -, hkeeps⟩ := exists_find?_of_visit hvisit hm
  exact ⟨m', hm', hkeeps hown⟩

theorem OwnedAt.lasts (h : OwnedAt entry g q) (hrounds : Rounds p files entry g pending rounds k result) :
    OwnedAt entry k q := by
  induction hrounds with
  | ended => exact h
  | failed => exact h
  | more hvisit _ ih => exact ih (h.visit hvisit)

theorem ownedAt_of_visit {next : List Path} (hvisit : (visit p files entry g path).result = .ok (g', next)) :
    OwnedAt entry g' path := by
  rcases visit_ok hvisit with ⟨m, hm, hown, rfl, -⟩ | ⟨m, hm, -, rfl, -⟩ | ⟨a, hm, -, rfl, -⟩
  · exact ⟨m, hm, hown⟩
  · refine ⟨m.addOwner entry, ?_, by simp [Module.ownedBy, Module.addOwner]⟩
    rw [find?_addOwner, hm, Option.map_some, if_pos (path_same_of_find? hm)]
    rfl
  · refine ⟨p.moduleOf path entry a, ?_, by simp [Module.ownedBy, Project.moduleOf]⟩
    rw [find?_add, hm, Project.moduleOf_path, if_pos (Path.same_self path)]
    rfl

theorem next_eq_nil_of_ownedAt {next : List Path} (h : OwnedAt entry g path)
    (hvisit : (visit p files entry g path).result = .ok (g', next)) : next = [] := by
  obtain ⟨n, hn, hown⟩ := h
  rcases visit_ok hvisit with ⟨m, -, -, -, rfl⟩ | ⟨m, hm, hnot, -, -⟩ | ⟨a, hm, -, -, -⟩
  · rfl
  · simp_all
  · simp_all

/-- A round that puts something on the list gives the owner to a module that lacked it. -/
theorem Rounds.gains (h : Rounds p files entry g pending rounds k result) {r : Round} (hr : r ∈ rounds)
    (hpushed : r.pushed ≠ []) : ¬ OwnedAt entry g r.path ∧ OwnedAt entry k r.path := by
  induction h with
  | ended => simp at hr
  | failed =>
    rw [List.mem_singleton.1 hr] at hpushed
    exact absurd rfl hpushed
  | more hvisit hrounds ih =>
    rcases List.mem_cons.1 hr with rfl | hr
    · exact ⟨fun hown => hpushed (next_eq_nil_of_ownedAt hown hvisit), (ownedAt_of_visit hvisit).lasts hrounds⟩
    · obtain ⟨hnot, hown⟩ := ih hr
      exact ⟨fun hbefore => hnot (hbefore.visit hvisit), hown⟩

/-! ## What is put on the list for a module -/

/-- The files that are put on the list for the module of a file. -/
def pushedFor (rounds : List Round) (q : Path) : List Path := (rounds.filter (·.path.same q)).flatMap (·.pushed)

theorem pushedFor_cons (r : Round) (rounds : List Round) (q : Path) :
    pushedFor (r :: rounds) q = (if r.path.same q then r.pushed else []) ++ pushedFor rounds q := by
  unfold pushedFor
  cases h : r.path.same q <;> simp [h]

theorem Rounds.pushedFor_of_ownedAt (h : Rounds p files entry g pending rounds k result) (hown : OwnedAt entry g q) :
    pushedFor rounds q = [] := by
  induction h with
  | ended => rfl
  | failed =>
    rw [pushedFor_cons, ite_self]
    rfl
  | more hvisit _ ih =>
    rw [pushedFor_cons, ih (hown.visit hvisit), List.append_nil]
    split
    · next hsame => exact next_eq_nil_of_ownedAt ((ownedAt_iff_of_same hsame).2 hown) hvisit
    · rfl

theorem Rounds.length_pushedFor_le (h : Rounds p files entry g pending rounds k result) {m : Module}
    (hm : g.find? q = some m) : (pushedFor rounds q).length ≤ m.dependencies.length := by
  induction h generalizing m with
  | ended => exact Nat.zero_le _
  | failed =>
    rw [pushedFor_cons, ite_self]
    exact Nat.zero_le _
  | @more g g' k path rest next rounds result hvisit hrounds ih =>
    obtain ⟨m', hm', hdeps, -⟩ := exists_find?_of_visit hvisit hm
    rw [pushedFor_cons]
    split
    · next hsame =>
      -- The module has the owner from this round on, so no later round puts anything there for it.
      have hlater := hrounds.pushedFor_of_ownedAt ((ownedAt_iff_of_same hsame).1 (ownedAt_of_visit hvisit))
      rw [hlater, List.append_nil]
      rcases visit_ok hvisit with ⟨_, -, -, -, rfl⟩ | ⟨n, hn, -, -, rfl⟩ | ⟨_, hnone, -, -, -⟩
      · exact Nat.zero_le _
      · rw [find?_of_same hsame, hm] at hn
        cases hn
        exact List.length_filterMap_le _ _
      · rw [find?_of_same hsame, hm] at hnone
        cases hnone
    · rw [List.nil_append, ← hdeps]
      exact ih hm'

theorem Rounds.eq_of_mem_keys (h : Rounds p files entry g pending rounds k result) (hq : (g.find? q).isSome)
    {a : Path} (honly : ∀ b ∈ g.keys, b.same q → b = a) : ∀ b ∈ k.keys, b.same q → b = a := by
  induction h with
  | ended => exact honly
  | failed => exact honly
  | more hvisit _ ih =>
    refine ih (isSome_find?_of_visit hvisit (.inl hq)) ?_
    rcases visit_ok hvisit with ⟨_, -, -, rfl, -⟩ | ⟨_, -, -, rfl, -⟩ | ⟨_, hnone, -, rfl, -⟩
    · exact honly
    · rwa [keys_addOwner]
    · rw [keys_add, Project.moduleOf_path]
      intro b hb hsame
      rcases List.mem_append.1 hb with hb | hb
      · exact honly b hb hsame
      · rw [List.mem_singleton.1 hb] at hsame
        rw [← find?_of_same hsame, hnone] at hq
        cases hq

theorem Rounds.pushedFor_of_new (h : Rounds p files entry g pending rounds k result) (hq : g.find? q = none)
    (hmem : q ∈ k.keys) : ∃ a, p.analyse files q = .ok a ∧ pushedFor rounds q = a.dependencies.map (·.path) := by
  have hnot : ∀ g : Graph, g.find? q = none → q ∉ g.keys := by
    intro g hq hmem
    obtain ⟨m, hm, hpath⟩ := mem_keys.1 hmem
    exact find?_eq_none_iff.1 hq m hm (hpath ▸ Path.same_self _)
  induction h with
  | ended => exact absurd hmem (hnot _ hq)
  | failed => exact absurd hmem (hnot _ hq)
  | @more g g' k path rest next rounds result hvisit hrounds ih =>
    rw [pushedFor_cons]
    by_cases hsame : path.same q
    · have hlater := hrounds.pushedFor_of_ownedAt ((ownedAt_iff_of_same hsame).1 (ownedAt_of_visit hvisit))
      rw [if_pos hsame, hlater, List.append_nil]
      rw [← find?_of_same hsame] at hq
      rcases visit_ok hvisit with ⟨m, hm, -⟩ | ⟨m, hm, -⟩ | ⟨a, -, ha, rfl, rfl⟩
      · simp [hq] at hm
      · simp [hq] at hm
      · -- The file was added under this path, and no other spelling of it was added later.
        have hpath : q = path := by
          refine hrounds.eq_of_mem_keys (q := path) (by simp [find?_add, Path.same_self]) ?_ q hmem
            (Path.same_symm hsame)
          intro b hb hbsame
          rw [keys_add, Project.moduleOf_path] at hb
          rcases List.mem_append.1 hb with hb | hb
          · obtain ⟨m, hm, rfl⟩ := mem_keys.1 hb
            exact absurd hbsame (find?_eq_none_iff.1 hq m hm)
          · exact List.mem_singleton.1 hb
        exact ⟨a, hpath ▸ ha, rfl⟩
    · rw [if_neg hsame, List.nil_append]
      refine ih ?_ hmem
      rcases visit_ok hvisit with ⟨_, -, -, rfl, -⟩ | ⟨_, -, -, rfl, -⟩ | ⟨_, -, -, rfl, -⟩
      · exact hq
      · rw [find?_addOwner, hq]
        rfl
      · rw [find?_add, hq, Project.moduleOf_path, if_neg hsame]
        rfl

/-! ## Modules that get the owner -/

/-- The modules that have an owner and lacked it before, or were not there. -/
def gained (entry : String) (before after : Graph) : List Module :=
  after.modules.filter fun m => m.ownedBy entry ∧ ¬ OwnedAt entry before m.path

theorem mem_gained {m : Module} :
    m ∈ gained entry g k ↔ m ∈ k.modules ∧ m.ownedBy entry ∧ ¬ OwnedAt entry g m.path := by
  simp [gained]

theorem Rounds.exists_gained (h : Rounds p files entry g pending rounds k result) {r : Round} (hr : r ∈ rounds)
    (hpushed : r.pushed ≠ []) : ∃ m ∈ gained entry g k, r.path.same m.path := by
  obtain ⟨hnot, m, hm, hown⟩ := h.gains hr hpushed
  have hsame : m.path.same r.path := path_same_of_find? hm
  refine ⟨m, mem_gained.2 ⟨List.mem_of_find?_eq_some hm, hown, ?_⟩, Path.same_symm hsame⟩
  rwa [ownedAt_iff_of_same hsame]

theorem length_le_flatMap {α β : Type} {f : α → List β} {a : α} {l : List α} (h : a ∈ l) :
    (f a).length ≤ (l.flatMap f).length := by
  obtain ⟨before, after, rfl⟩ := List.append_of_mem h
  simp only [List.flatMap_append, List.flatMap_cons, List.length_append]
  omega

theorem length_flatMap_append {α β : Type} (f f' : α → List β) (l : List α) :
    (l.flatMap fun a => f a ++ f' a).length = (l.flatMap f).length + (l.flatMap f').length := by
  induction l with
  | nil => rfl
  | cons a l ih =>
    simp only [List.flatMap_cons, List.length_append, ih]
    omega

theorem length_pushed_le {ms : List Module}
    (h : ∀ r ∈ rounds, r.pushed ≠ [] → ∃ m ∈ ms, r.path.same m.path) :
    (rounds.flatMap (·.pushed)).length ≤ (ms.flatMap fun m => pushedFor rounds m.path).length := by
  induction rounds with
  | nil => exact Nat.zero_le _
  | cons r rounds ih =>
    rw [List.forall_mem_cons] at h
    simp only [pushedFor_cons, length_flatMap_append, List.flatMap_cons, List.length_append]
    refine Nat.add_le_add ?_ (ih h.2)
    by_cases hpushed : r.pushed = []
    · simp [hpushed]
    · obtain ⟨m, hm, hsame⟩ := h.1 hpushed
      have hle := length_le_flatMap (f := fun m : Module => if r.path.same m.path then r.pushed else []) hm
      rwa [if_pos hsame] at hle

end Graph

/-! ## Files -/

mutual

/-- The places of the files of a tree. -/
def Node.places : Node → List (List String)
  | .file _ => [[]]
  | .folder children => Node.placesIn children

def Node.placesIn : List (String × Node) → List (List String)
  | [] => []
  | (name, node) :: rest => node.places.map (name :: ·) ++ Node.placesIn rest

end

theorem Node.mem_placesIn {children : List (String × Node)} {name : String} {node : Node} {names : List String}
    (hnode : children.lookup name = some node) (hnames : names ∈ node.places) :
    name :: names ∈ Node.placesIn children := by
  induction children with
  | nil => simp at hnode
  | cons child rest ih =>
    obtain ⟨other, old⟩ := child
    rw [placesIn, List.mem_append]
    rw [List.lookup_cons] at hnode
    split at hnode
    · next hname =>
      cases hnode
      rw [beq_iff_eq.1 hname]
      exact .inl (List.mem_map_of_mem hnames)
    · exact .inr (ih hnode)

theorem Node.mem_places {node : Node} {place : List String} {bytes : ByteArray}
    (h : node.find? place = some (.file bytes)) : place ∈ node.places := by
  induction place generalizing node with
  | nil =>
    cases h
    simp [places]
  | cons name names ih =>
    cases node with
    | file bytes => cases h
    | folder children =>
      rw [Node.find?, Option.bind_eq_bind, Option.bind_eq_some_iff] at h
      obtain ⟨child, hchild, h⟩ := h
      rw [places]
      exact mem_placesIn hchild (ih h)

namespace Graph

variable {p : Project} {files : Files} {entry : String} {path : Path}

theorem place_mem_places {q : Path} (hq : q.Canonical) (h : files.isFile q) : q.place ∈ files.tree.places := by
  obtain ⟨place, bytes, hlocate, hfile⟩ := Files.isFile_iff.1 h
  rw [← Files.locate_eq_place hq.isAbsolute hlocate]
  exact Node.mem_places hfile

theorem keys_prefix_build (p : Project) (files : Files) (g : Graph) (entry : String) (path : Path) :
    g.keys <+: (build p files g entry path).graph.keys := by
  have hkeys : ∀ h : Graph, h.keys = h.bare.map (·.path) := fun h => by simp [keys, bare, Module.bare]
  rw [hkeys, hkeys]
  exact (bare_prefix_walk entry g [path.normal]).map _

theorem length_modules_build_le (hr : p.resolver.Plain) (hroot : p.root.isAbsolute) (hpath : path.isAbsolute)
    {turns : List Turn} (hturns : ∀ turn ∈ turns, ∀ q ∈ turn.request.paths, q.isAbsolute) :
    (build p files (after p turns) entry path).graph.modules.length ≤
      (after p turns).modules.length + files.tree.places.length := by
  have hafter : after p (turns ++ [⟨files, .one entry path⟩]) = (build p files (after p turns) entry path).graph :=
    after_concat p turns _
  have hall : ∀ turn ∈ turns ++ [⟨files, .one entry path⟩], ∀ q ∈ turn.request.paths, q.isAbsolute := by
    intro turn hturn q hq
    rcases List.mem_append.1 hturn with hturn | hturn
    · exact hturns turn hturn q hq
    · rw [List.mem_singleton.1 hturn] at hq
      rwa [List.mem_singleton.1 hq]
  obtain ⟨new, hnew⟩ := keys_prefix_build p files (after p turns) entry path
  have hnodup := (consistent_after p (turns ++ [⟨files, .one entry path⟩])).nodup_keys
  rw [hafter, ← hnew] at hnodup
  have hfile : ∀ q ∈ new, q.Canonical ∧ q.place ∈ files.tree.places := by
    intro q hq
    obtain ⟨m, hm, rfl⟩ := mem_keys.1 (hnew ▸ List.mem_append_right _ hq)
    have hcanonical := canonical_after hr hroot hall (hafter ▸ hm)
    rcases (looks_walk (List.mem_singleton_self entry) (after p turns) [path.normal]).origin hm with
      ⟨n, hn, hbare⟩ | ⟨-, a, ha, -⟩
    · have hold : m.path ∈ (after p turns).keys := mem_keys.2 ⟨n, hn, (Module.path_eq_of_bare hbare).symm⟩
      exact absurd rfl ((List.nodup_append.1 hnodup).2.2 _ hold _ hq)
    · exact ⟨hcanonical, place_mem_places hcanonical (Project.analyse_ok ha).1⟩
  -- Canonical paths that differ have places that differ.
  have hplaces : (new.map (·.place)).Nodup := by
    refine (List.nodup_append.1 hnodup).2.1.map_on fun a ha b hb hab => ?_
    have hnormal := (Path.place_eq_iff (hfile a ha).1.isAbsolute (hfile b hb).1.isAbsolute).1 hab
    rwa [(hfile a ha).1.normal.normal_eq, (hfile b hb).1.normal.normal_eq] at hnormal
  have hle : (new.map (·.place)).length ≤ files.tree.places.length :=
    (hplaces.subperm (List.forall_mem_map.2 fun q hq => (hfile q hq).2)).length_le
  have hlength := congrArg List.length hnew
  simp only [keys, List.length_append, List.length_map] at hlength hle
  omega

/-! ## Builds -/

theorem map_build_result (p : Project) (files : Files) (g : Graph) (entry : String) (path : Path) :
    (build p files g entry path).result.map (fun _ => ()) = (walk p files entry g [path.normal]).result := by
  rw [build_result]
  cases hend : (walk p files entry g [path.normal]).result with
  | error e => rfl
  | ok _ =>
    obtain ⟨m, hm⟩ := Option.isSome_iff_exists.1 (isSome_find?_walk hend (List.mem_singleton_self path.normal))
    simp only [hm]
    rfl

/-- The loop of a build ends, whatever the graph: it looks at no more files than were put on its list. -/
theorem build_ends (p : Project) (files : Files) (entry : String) (path : Path) :
    (∀ g : Graph, ∃ rounds,
      Rounds p files entry g [path.normal] rounds (build p files g entry path).graph
        ((build p files g entry path).result.map fun _ => ()) ∧
      rounds.map (·.path) = visits (build p files g entry path).events ∧
      rounds.length ≤ 1 + ((gained entry g (build p files g entry path).graph).flatMap fun m =>
        pushedFor rounds m.path).length ∧
      ∀ m ∈ gained entry g (build p files g entry path).graph,
        (g.find? m.path = none → ∃ a, p.analyse files m.path = .ok a ∧
          pushedFor rounds m.path = a.dependencies.map (·.path)) ∧
        ∀ n, g.find? m.path = some n → (pushedFor rounds m.path).length ≤ n.dependencies.length) ∧
    ∀ turns, p.resolver.Plain → p.root.isAbsolute → path.isAbsolute →
      (∀ turn ∈ turns, ∀ q ∈ turn.request.paths, q.isAbsolute) →
      (build p files (after p turns) entry path).graph.modules.length ≤
        (after p turns).modules.length + files.tree.places.length := by
  refine ⟨fun g => ?_, fun turns hr hroot hpath hturns => length_modules_build_le hr hroot hpath hturns⟩
  obtain ⟨rounds, hrounds, hvisits⟩ := exists_rounds p files entry g [path.normal]
  rw [map_build_result]
  refine ⟨rounds, hrounds, hvisits, ?_, fun m hm => ⟨fun hnone => ?_, fun n hn => hrounds.length_pushedFor_le hn⟩⟩
  · have hpushed := length_pushed_le fun r hr => hrounds.exists_gained hr
    exact Nat.le_trans hrounds.length_le (Nat.add_le_add_left hpushed 1)
  · exact hrounds.pushedFor_of_new hnone (mem_keys.2 ⟨m, (mem_gained.1 hm).1, rfl⟩)

open Compilation

/-! ## An example: a file that asks for itself -/

/-- A file that asks for itself, twice. -/
def selfish : Files where
  tree := .folder [("app", .folder [("self.js", .file "require('./self');require('./self.js')".toUTF8)])]

def selfModule : Module where
  id := "./self.js"
  path := ⟨"/app/self.js"⟩
  transformed := "require('./self');require('./self.js')"
  emitted := "__rpack_require__(\"./self.js\");__rpack_require__(\"./self.js\")"
  dependencies := ["./self.js"]
  owners := ["main"]

theorem walk_selfish :
    visits (walk ringProject selfish "main" {} [selfModule.path]).events =
      [selfModule.path, selfModule.path, selfModule.path] := by
  have hfirst : (visit ringProject selfish "main" {} selfModule.path).result =
      .ok (⟨[selfModule], [(selfModule.id, selfModule.path)]⟩, [selfModule.path, selfModule.path]) := by
    decide +kernel
  have hagain : (visit ringProject selfish "main" ⟨[selfModule], [(selfModule.id, selfModule.path)]⟩
      selfModule.path).result = .ok (⟨[selfModule], [(selfModule.id, selfModule.path)]⟩, []) := by
    decide +kernel
  rw [walk_cons, hfirst]
  simp only [List.cons_append, List.nil_append, List.append_nil, visits_cons_visited, visits_append, visits_visit]
  rw [walk_cons, hagain]
  simp only [List.cons_append, List.nil_append, visits_cons_visited, visits_append, visits_visit]
  rw [walk_of_visit hagain, visits_cons_visited, visits_visit]

theorem build_ends_selfish :
    let built := build ringProject selfish {} "main" ⟨"/app//self.js"⟩
    ringProject.resolver.Plain ∧ ringProject.root.isAbsolute ∧ Path.isAbsolute ⟨"/app//self.js"⟩ ∧
    (∃ rounds, Rounds ringProject selfish "main" {} [selfModule.path] rounds built.graph
        (built.result.map fun _ => ()) ∧ rounds.length = 3 ∧
      3 ≤ 1 + ((gained "main" {} built.graph).flatMap fun m => pushedFor rounds m.path).length) ∧
    built.graph.modules.length ≤ 1 := by
  intro built
  have hnormal : Path.normal ⟨"/app//self.js"⟩ = selfModule.path := by decide +kernel
  obtain ⟨hrounds, hfiles⟩ := build_ends ringProject selfish "main" ⟨"/app//self.js"⟩
  obtain ⟨rounds, hruns, hvisits, hle, -⟩ := hrounds {}
  have hlength : rounds.length = 3 := by
    have hevents : visits built.events = [selfModule.path, selfModule.path, selfModule.path] := by
      rw [← walk_selfish, ← hnormal]
      rfl
    rw [← List.length_map (·.path), hvisits, hevents]
    rfl
  refine ⟨ring_plain, by decide, by decide, ⟨rounds, hnormal ▸ hruns, hlength, hlength ▸ hle⟩, ?_⟩
  exact hfiles [] ring_plain (by decide) (by decide) (by simp)

end Graph
end Bundler
