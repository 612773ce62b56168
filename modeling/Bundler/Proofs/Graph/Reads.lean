import Bundler.Proofs.Graph.Settled

/-!
# What a build reads

A look reads a file exactly where it has no module yet. So builds that end well read the files of the
modules they add, each of them once and in that order, and a build of what is there reads none.
-/

namespace Bundler.Graph

/-! ## Looks and walks -/

/-- The files that are read. -/
def opens (events : List Event) : List Path :=
  events.filterMap fun
    | .opened path => some path
    | _ => none

theorem opens_append (a b : List Event) : opens (a ++ b) = opens a ++ opens b := List.filterMap_append

theorem opens_cons_visited (path : Path) (events : List Event) : opens (.visited path :: events) = opens events :=
  List.filterMap_cons_none rfl

theorem opens_cons_opened (path : Path) (events : List Event) :
    opens (.opened path :: events) = path :: opens events := List.filterMap_cons_some rfl

variable {p : Project} {files : Files} {entry : String} {g g' : Graph} {path : Path}

theorem opens_visit : opens (visit p files entry g path).events = if (g.find? path).isSome then [] else [path] := by
  rcases visit_events p files entry g path with ⟨m, hm, hevents⟩ | ⟨hm, more, hevents, hmore⟩
  · rw [hm]
    apply List.filterMap_eq_nil_iff.2
    intro event he
    rw [hevents event he]
  · have hnone : opens more = [] := by
      apply List.filterMap_eq_nil_iff.2
      intro event he
      rcases hmore event he with ⟨count, rfl⟩ | ⟨id, count, rfl⟩ <;> rfl
    rw [hm, hevents, opens_cons_opened, hnone]
    rfl

theorem keys_of_visit {next : List Path} (h : (visit p files entry g path).result = .ok (g', next)) :
    g'.keys = g.keys ++ opens (visit p files entry g path).events := by
  rw [opens_visit]
  rcases visit_ok h with ⟨m, hm, -, rfl, -⟩ | ⟨m, hm, -, rfl, -⟩ | ⟨a, hm, -, rfl, -⟩
  · simp [hm]
  · simp [hm, keys_addOwner]
  · simp [hm, keys_add]

theorem keys_of_walk {pending : List Path} (h : (walk p files entry g pending).result = .ok ()) :
    (walk p files entry g pending).graph.keys = g.keys ++ opens (walk p files entry g pending).events := by
  induction g, pending using walk.induct p files entry with
  | case1 g => simp [walk_nil, opens]
  | case2 g path rest _ e hvisit =>
    rw [(walk_error rest hvisit).2] at h
    cases h
  | case3 g path rest _ g' next hvisit ih =>
    rw [(walk_ok rest hvisit).2] at h
    rw [walk_cons, hvisit]
    simp only [List.cons_append, opens_cons_visited, opens_append]
    rw [ih h, keys_of_visit hvisit, List.append_assoc]

/-! ## Builds -/

theorem keys_of_build {m : Module} (h : (build p files g entry path).result = .ok m) :
    (build p files g entry path).graph.keys = g.keys ++ opens (build p files g entry path).events :=
  keys_of_walk (build_ok h)

theorem keys_of_buildEntries {entries : List (String × Path)} {ids : List (String × String)}
    (h : (buildEntries p files g entries).result = .ok ids) :
    (buildEntries p files g entries).graph.keys = g.keys ++ opens (buildEntries p files g entries).events := by
  induction entries generalizing g ids with
  | nil => simp [buildEntries, opens]
  | cons first rest ih =>
    obtain ⟨name, path⟩ := first
    obtain ⟨m, ids', hm, hrest, hgraph⟩ := buildEntries_cons_ok h
    have hevents : (buildEntries p files g ((name, path) :: rest)).events =
        (build p files g name path).events ++
          (buildEntries p files (build p files g name path).graph rest).events := by
      rw [buildEntries, hm]
    rw [hgraph, hevents, opens_append, ih hrest, keys_of_build hm, List.append_assoc]

/-! ## Histories -/

/-- What happens while a request is worked on. -/
def Turn.events (p : Project) (g : Graph) (turn : Turn) : List Event :=
  match turn.request with
  | .one entry path => (build p turn.files g entry path).events
  | .all entries => (buildEntries p turn.files g entries).events

/-- What happens in the course of requests that come one after the other. -/
def story (p : Project) (g : Graph) : List Turn → List Event
  | [] => []
  | turn :: later => turn.events p g ++ story p (turn.graph p g) later

theorem story_append (g : Graph) (earlier later : List Turn) :
    story p g (earlier ++ later) = story p g earlier ++ story p (earlier.foldl (Turn.graph p) g) later := by
  induction earlier generalizing g with
  | nil => rfl
  | cons turn earlier ih => rw [List.cons_append, story, story, ih, List.append_assoc, List.foldl_cons]

theorem Turn.EndsWell.keys_eq {turn : Turn} (h : turn.EndsWell p g) :
    (turn.graph p g).keys = g.keys ++ opens (turn.events p g) := by
  unfold EndsWell at h
  unfold graph events
  cases hrequest : turn.request with
  | one entry path =>
    rw [hrequest] at h
    obtain ⟨m, hm⟩ := h
    exact keys_of_build hm
  | all entries =>
    rw [hrequest] at h
    obtain ⟨ids, hids⟩ := h
    exact keys_of_buildEntries hids

theorem keys_after {turns : List Turn} (h : AllMet p turns) : (after p turns).keys = opens (story p {} turns) := by
  induction turns using List.reverseRecOn with
  | nil => rfl
  | append_singleton turns turn ih =>
    obtain ⟨hearlier, hlast⟩ := allMet_concat.1 h
    rw [after_concat, hlast.keys_eq, ih hearlier, story_append, opens_append]
    simp only [story, List.append_nil]
    rfl

/-- Where every request was met, the files that were read are those of the modules, each once. -/
theorem reads_each_file_once (p : Project) :
    (∀ turns, AllMet p turns → opens (story p {} turns) = (after p turns).keys ∧
      (opens (story p {} turns)).Pairwise fun a b => ¬ a.same b) ∧
    ∀ files g entry path m, g.find? path.normal = some m → m.ownedBy entry →
      build p files g entry path = ⟨g, [.visited path.normal], .ok m⟩ ∧
      opens (build p files g entry path).events = [] := by
  constructor
  · intro turns hmet
    rw [← keys_after hmet]
    exact ⟨rfl, (consistent_after p turns).unique⟩
  · intro files g entry path m hm hown
    rw [build_of_owned hm hown p files]
    exact ⟨rfl, rfl⟩

open Compilation

/-- The ring, and then one of its files for a third entry, when the files are broken. -/
def ringAgain : List Turn := ringTurns ++ [⟨broken, .one "third" ⟨"/app/main.js"⟩⟩]

theorem reads_each_file_once_ring :
    AllMet ringProject ringAgain ∧
    opens (story ringProject {} ringAgain) = (after ringProject ringAgain).keys ∧
    (opens (story ringProject {} ringAgain)).Pairwise (fun a b => ¬ a.same b) ∧
    ⟨"/app/main.js"⟩ ∈ opens (story ringProject {} ringAgain) ∧
    build ringProject { tree := .folder [] } torn "main" ⟨"/app//main.js"⟩ =
      ⟨torn, [.visited ⟨"/app/main.js"⟩], .ok tornMain⟩ := by
  obtain ⟨honce, hnone⟩ := reads_each_file_once ringProject
  obtain ⟨main, hmain, hpath⟩ := ring_main_mem
  obtain ⟨m, hm, hkeys⟩ := exists_build_of_mem (tidy_after ring_plain ringTurns) hmain broken "third"
  rw [hpath] at hm hkeys
  have hmet : AllMet ringProject ringAgain := allMet_concat.2 ⟨ring_met, m, hm⟩
  obtain ⟨hopens, hpairs⟩ := honce ringAgain hmet
  have hafter : (after ringProject ringAgain).keys = (after ringProject ringTurns).keys := by
    rw [ringAgain, after_concat]
    exact hkeys
  have hnormal : Path.normal ⟨"/app//main.js"⟩ = ⟨"/app/main.js"⟩ := by decide +kernel
  refine ⟨hmet, hopens, hpairs, ?_, ?_⟩
  · rw [hopens, hafter, ← hpath]
    exact mem_keys.2 ⟨main, hmain, rfl⟩
  · rw [← hnormal]
    exact (hnone _ torn "main" _ tornMain (by decide +kernel) (by decide)).1

end Bundler.Graph
