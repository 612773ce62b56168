import Bundler.Proofs.Graph.Reach

/-!
# The owners of modules

The walk of an entry makes it the last owner of all that its file leads to, and leaves the owners of
the others as they are. Known modules are followed through their ids, so this needs files whose ids
differ.
-/

namespace Bundler.Graph

/-- The owners of the module at a path, none where there is no module. -/
def ownersOf (g : Graph) (q : Path) : List String := (g.find? q).elim [] (·.owners)

/-- No two files of a set have one id. -/
def Separate (p : Project) (S : Path → Prop) : Prop :=
  ∀ a b, S a → S b → Path.idFrom p.root a = Path.idFrom p.root b → a = b

variable {p : Project} {files : Files} {S : Path → Prop} {g g' before : Graph} {entry : String} {path q : Path}

theorem Domain.leads (hS : Domain p files S) {a b : Path} (ha : S a) (h : p.Leads files a b) : S b := by
  induction h with
  | refl => exact ha
  | tail _ hbc ih => exact hS.asks _ _ ih hbc

/-! ## Owners in a changed graph -/

theorem ownersOf_of_mem (hS : Domain p files S) (hg : Sound p files S g) {m : Module} (hm : m ∈ g.modules) :
    g.ownersOf m.path = m.owners := by
  have hpath : S m.path := hg.within _ (mem_keys.2 ⟨m, hm, rfl⟩)
  rw [ownersOf, (hg.find?_eq_some hS hpath).2 ⟨hm, rfl⟩]
  rfl

theorem ownersOf_of_not_mem (hS : Domain p files S) (hg : Sound p files S g) (hq : S q) (h : q ∉ g.keys) :
    g.ownersOf q = [] := by
  rw [ownersOf, (hg.find?_eq_none hS hq).2 h]
  rfl

theorem ownersOf_add (hS : Domain p files S) (hg : Sound p files S g) {m : Module} (hm : S m.path)
    (hnew : m.path ∉ g.keys) (hq : S q) :
    (g.add m).ownersOf q = if q = m.path then m.owners else g.ownersOf q := by
  rw [ownersOf, find?_add]
  simp only [(hS.normal _ hm).same_iff (hS.normal _ hq)]
  by_cases h : m.path = q
  · rw [if_pos h, if_pos h.symm, ← h, (hg.find?_eq_none hS hm).2 hnew]
    rfl
  · rw [if_neg h, if_neg (Ne.symm h), Option.or_none, ownersOf]

theorem ownersOf_addOwner (hS : Domain p files S) (hg : Sound p files S g) (hpath : path ∈ g.keys) (hq : S q) :
    (g.addOwner path entry).ownersOf q = if q = path then g.ownersOf q ++ [entry] else g.ownersOf q := by
  rw [ownersOf, find?_addOwner, ownersOf]
  cases hfound : g.find? q with
  | none =>
    have hne : q ≠ path := by
      rintro rfl
      exact (hg.find?_eq_none hS hq).1 hfound hpath
    rw [if_neg hne]
    rfl
  | some m =>
    obtain ⟨-, rfl⟩ := (hg.find?_eq_some hS hq).1 hfound
    simp only [Option.map_some, (hS.normal _ hq).same_iff (hS.normal _ (hg.within path hpath))]
    split
    · rfl
    · rfl

/-! ## One look -/

/-- What a look at a file for an entry does to the owners, and what is looked at next. -/
structure Look (p : Project) (files : Files) (S : Path → Prop) (entry : String) (path : Path) (g g' : Graph)
    (next : List Path) : Prop where
  sound : Sound p files S g'
  keys : ∀ q, q ∈ g'.keys ↔ q ∈ g.keys ∨ q = path
  others : ∀ q, S q → q ≠ path → g'.ownersOf q = g.ownersOf q
  owners : g'.ownersOf path = if entry ∈ g.ownersOf path then g.ownersOf path else g.ownersOf path ++ [entry]
  asks : ∀ q ∈ next, p.Asks files path q
  follows : entry ∉ g.ownersOf path → (path ∈ g.keys → ∀ b, p.Asks files path b → b ∈ g.keys) →
    ∀ b, p.Asks files path b → b ∈ next

theorem Sound.mem_next_iff (hS : Domain p files S) (hsep : Separate p S) (hg : Sound p files S g) {m : Module}
    (hm : m ∈ g.modules) : q ∈ m.dependencies.filterMap g.pathOf? ↔ p.Asks files m.path q ∧ q ∈ g.keys := by
  have hmS : S m.path := hg.within _ (mem_keys.2 ⟨m, hm, rfl⟩)
  rw [List.mem_filterMap]
  constructor
  · rintro ⟨id, hid, hq⟩
    obtain ⟨hkey, hqid⟩ := hg.path_mem id q hq
    obtain ⟨b, hb, hbid⟩ := (hg.built m hm).mem_dependencies_iff.1 hid
    have hqb : q = b := hsep q b (hg.within q hkey) (hS.asks _ _ hmS hb) (hqid.trans hbid.symm)
    exact ⟨hqb ▸ hb, hkey⟩
  · rintro ⟨hask, hkey⟩
    refine ⟨Path.idFrom p.root q, (hg.built m hm).mem_dependencies_iff.2 ⟨q, hask, rfl⟩, ?_⟩
    obtain ⟨b, hb⟩ := Option.isSome_iff_exists.1 (hg.path_some q hkey)
    obtain ⟨hbkey, hbid⟩ := hg.path_mem _ b hb
    rw [hb, hsep b q (hg.within b hbkey) (hg.within q hkey) hbid]

theorem look_of_visit (hS : Domain p files S) (hsep : Separate p S) (hg : Sound p files S g) (hpath : S path)
    {next : List Path} (h : (visit p files entry g path).result = .ok (g', next)) :
    Look p files S entry path g g' next := by
  rcases visit_ok h with ⟨m, hm, hown, rfl, rfl⟩ | ⟨m, hm, hown, rfl, rfl⟩ | ⟨a, hnone, ha, rfl, rfl⟩
  · obtain ⟨hmem, rfl⟩ := (hg.find?_eq_some hS hpath).1 hm
    have howner : entry ∈ g'.ownersOf m.path := by
      rw [ownersOf_of_mem hS hg hmem]
      simpa [Module.ownedBy] using hown
    have hkey : m.path ∈ g'.keys := mem_keys.2 ⟨m, hmem, rfl⟩
    exact ⟨hg, fun q => ⟨.inl, by rintro (hq | rfl) <;> assumption⟩, fun _ _ _ => rfl, (if_pos howner).symm,
      by simp, fun hnot => absurd howner hnot⟩
  · obtain ⟨hmem, rfl⟩ := (hg.find?_eq_some hS hpath).1 hm
    have hkey : m.path ∈ g.keys := mem_keys.2 ⟨m, hmem, rfl⟩
    have hnot : entry ∉ g.ownersOf m.path := by
      rw [ownersOf_of_mem hS hg hmem]
      simpa [Module.ownedBy] using hown
    refine ⟨hg.addOwner _ _, fun q => ?_, fun q hq hne => ?_, ?_, fun q hq => ?_, fun _ hin b hb => ?_⟩
    · rw [keys_addOwner]
      exact ⟨.inl, by rintro (hq | rfl) <;> assumption⟩
    · rw [ownersOf_addOwner hS hg hkey hq, if_neg hne]
    · rw [ownersOf_addOwner hS hg hkey hpath, if_pos rfl, if_neg hnot]
    · exact ((hg.mem_next_iff hS hsep hmem).1 hq).1
    · exact (hg.mem_next_iff hS hsep hmem).2 ⟨hb, hin hkey b hb⟩
  · have hnew : path ∉ g.keys := (hg.find?_eq_none hS hpath).1 hnone
    have hnobody : g.ownersOf path = [] := ownersOf_of_not_mem hS hg hpath hnew
    have howners : ∀ q, S q → (g.add (p.moduleOf path entry a)).ownersOf q =
        if q = path then [entry] else g.ownersOf q := fun q hq => by
      rw [ownersOf_add hS hg (by rwa [Project.moduleOf_path]) (by rwa [Project.moduleOf_path]) hq,
        Project.moduleOf_path]
      simp only [Project.moduleOf]
    refine ⟨hg.add hpath hnew ha entry, fun q => ?_, fun q hq hne => ?_, ?_, fun q hq => ?_, fun _ _ b hb => ?_⟩
    · rw [keys_add, Project.moduleOf_path]
      simp
    · rw [howners q hq, if_neg hne]
    · rw [howners path hpath, if_pos rfl, hnobody]
      simp
    · obtain ⟨d, hd, rfl⟩ := List.mem_map.1 hq
      exact ⟨a, ha, d, hd, rfl⟩
    · obtain ⟨found, hfound, d, hd, rfl⟩ := hb
      rw [ha] at hfound
      cases hfound
      exact List.mem_map.2 ⟨d, hd, rfl⟩

/-! ## A walk -/

/-- The walk of an entry through a graph, as far as it has come: it marks what its start leads to, and what a
marked file asks for is marked or is looked at later. -/
structure Marking (p : Project) (files : Files) (S : Path → Prop) (entry : String) (start : Path) (before : Graph)
    (g : Graph) (pending : List Path) : Prop where
  sound : Sound p files S g
  keeps : ∀ q ∈ before.keys, q ∈ g.keys
  leads : ∀ q ∈ pending, p.Leads files start q
  owners : ∀ q, S q → g.ownersOf q = before.ownersOf q ∨
    g.ownersOf q = before.ownersOf q ++ [entry] ∧ p.Leads files start q
  fresh : ∀ q ∈ g.keys, q ∈ before.keys ∨ entry ∈ g.ownersOf q
  follows : ∀ a b, S a → entry ∈ g.ownersOf a → p.Asks files a b → entry ∈ g.ownersOf b ∨ b ∈ pending
  start : entry ∈ g.ownersOf start ∨ start ∈ pending

/-- A graph that a walk can start from: it holds all that its files ask for, and the entry owns none of them. -/
structure Ready (p : Project) (files : Files) (S : Path → Prop) (entry : String) (before : Graph) : Prop where
  sound : Sound p files S before
  covered : Covered p files before []
  new : ∀ q, S q → entry ∉ before.ownersOf q

theorem Marking.owners_eq {start : Path} (hS : Domain p files S) (hb : Ready p files S entry before)
    (hstart : S start) (hm : Marking p files S entry start before g []) (hq : S q) :
    (p.Leads files start q → g.ownersOf q = before.ownersOf q ++ [entry]) ∧
      (¬ p.Leads files start q → g.ownersOf q = before.ownersOf q) := by
  have hmarks : ∀ q, p.Leads files start q → entry ∈ g.ownersOf q := by
    intro q hlead
    induction hlead with
    | refl => simpa using hm.start
    | tail hab hbc ih => simpa using hm.follows _ _ (hS.leads hstart hab) ih hbc
  constructor
  · intro hlead
    rcases hm.owners q hq with hold | ⟨hnew, -⟩
    · exact absurd (hold ▸ hmarks q hlead) (hb.new q hq)
    · exact hnew
  · intro hnot
    exact (hm.owners q hq).resolve_right fun h => hnot h.2

section
variable {start : Path} (hS : Domain p files S) (hsep : Separate p S) (hb : Ready p files S entry before)
  (hstart : S start)
include hS hsep hb hstart

theorem Marking.visit {rest next : List Path} (hm : Marking p files S entry start before g (path :: rest))
    (h : (visit p files entry g path).result = .ok (g', next)) :
    Marking p files S entry start before g' (next ++ rest) := by
  have hlead : p.Leads files start path := hm.leads path (by simp)
  have hpath : S path := hS.leads hstart hlead
  have look := look_of_visit hS hsep hm.sound hpath h
  have hown : entry ∈ g'.ownersOf path := by
    rw [look.owners]
    split
    · assumption
    · simp
  have hmono : ∀ q, S q → entry ∈ g.ownersOf q → entry ∈ g'.ownersOf q := by
    intro q hq he
    by_cases hqp : q = path
    · rwa [hqp]
    · rwa [look.others q hq hqp]
  -- What waited is marked by this look or still waits.
  have hwait : ∀ q, S q → entry ∈ g.ownersOf q ∨ q ∈ path :: rest → entry ∈ g'.ownersOf q ∨ q ∈ next ++ rest := by
    intro q hq hwas
    rcases hwas with he | hmem
    · exact .inl (hmono q hq he)
    · rcases List.mem_cons.1 hmem with rfl | hmem
      · exact .inl hown
      · exact .inr (by simp [hmem])
  refine ⟨look.sound, fun q hq => (look.keys q).2 (.inl (hm.keeps q hq)), ?_, ?_, ?_, ?_, hwait start hstart hm.start⟩
  · intro q hq
    rcases List.mem_append.1 hq with hq | hq
    · exact hlead.tail (look.asks q hq)
    · exact hm.leads q (by simp [hq])
  · intro q hq
    by_cases hqp : q = path
    · subst hqp
      rw [look.owners]
      split
      · exact hm.owners q hq
      · next hnot =>
        rcases hm.owners q hq with hold | ⟨hnew, -⟩
        · exact .inr ⟨by rw [hold], hlead⟩
        · exact absurd (by simp [hnew]) hnot
    · rw [look.others q hq hqp]
      exact hm.owners q hq
  · intro q hq
    rcases (look.keys q).1 hq with hq | rfl
    · exact (hm.fresh q hq).imp id (hmono q (hm.sound.within q hq))
    · exact .inr hown
  · intro a b ha he hab
    have hbS : S b := hS.asks a b ha hab
    by_cases hap : a = path
    · subst hap
      by_cases hwas : entry ∈ g.ownersOf a
      · exact hwait b hbS (hm.follows a b ha hwas hab)
      · refine .inr (List.mem_append_left _ (look.follows hwas (fun hkey c hc => ?_) b hab))
        have hold : a ∈ before.keys := (hm.fresh a hkey).resolve_right hwas
        exact hm.keeps c (by simpa using hb.covered a hold c hc)
    · rw [look.others a ha hap] at he
      exact hwait b hbS (hm.follows a b ha he hab)

theorem walk_owners (hw : (walk p files entry before [start]).result = .ok ()) (hq : S q) :
    (p.Leads files start q → (walk p files entry before [start]).graph.ownersOf q = before.ownersOf q ++ [entry]) ∧
      (¬ p.Leads files start q → (walk p files entry before [start]).graph.ownersOf q = before.ownersOf q) := by
  have hfirst : Marking p files S entry start before before [start] := by
    refine ⟨hb.sound, fun _ => id, ?_, fun _ _ => .inl rfl, fun _ => .inl, ?_, .inr (by simp)⟩
    · intro q hq
      rw [List.mem_singleton.1 hq]
      exact .refl
    · exact fun a b ha he _ => absurd he (hb.new a ha)
  rcases walk_keeps (Marking p files S entry start before)
    (fun _ _ _ _ _ hm h => hm.visit hS hsep hb hstart h) hfirst with ⟨-, hend⟩ | ⟨_, _, e, herr, -⟩
  · exact hend.owners_eq hS hb hstart hq
  · rw [hw] at herr
    cases herr

end

/-! ## Builds -/

theorem build_ok {m : Module} (h : (build p files g entry path).result = .ok m) :
    (walk p files entry g [path.normal]).result = .ok () := by
  rw [build_result] at h
  obtain ⟨done, hw, -⟩ := bind_eq_ok.1 h
  exact hw

theorem buildEntries_cons_ok {name : String} {rest : List (String × Path)} {ids : List (String × String)}
    (h : (buildEntries p files g ((name, path) :: rest)).result = .ok ids) :
    ∃ m ids', (build p files g name path).result = .ok m ∧
      (buildEntries p files (build p files g name path).graph rest).result = .ok ids' ∧
      (buildEntries p files g ((name, path) :: rest)).graph =
        (buildEntries p files (build p files g name path).graph rest).graph := by
  rw [buildEntries] at h
  cases hm : (build p files g name path).result with
  | error e => simp [hm] at h
  | ok m =>
    simp only [hm] at h
    cases hrest : (buildEntries p files (build p files g name path).graph rest).result with
    | error e => simp [hrest, Functor.map, Except.map] at h
    | ok ids' =>
      refine ⟨m, ids', rfl, rfl, ?_⟩
      rw [buildEntries]
      simp only [hm]

theorem buildEntries_owners (hS : Domain p files S) (hsep : Separate p S) (hg : Sound p files S g)
    (hc : Covered p files g []) {entries : List (String × Path)} (hentries : ∀ e ∈ entries, S e.2.normal)
    (hnames : (entries.map (·.1)).Nodup) (hnew : ∀ e ∈ entries, ∀ q, S q → e.1 ∉ g.ownersOf q)
    {ids : List (String × String)} (h : (buildEntries p files g entries).result = .ok ids) (hq : S q)
    {leads : String × Path → Bool} (hleads : ∀ e ∈ entries, leads e ↔ p.Leads files e.2.normal q) :
    (buildEntries p files g entries).graph.ownersOf q = g.ownersOf q ++ (entries.filter leads).map (·.1) := by
  induction entries generalizing g ids with
  | nil => simp [buildEntries]
  | cons first rest ih =>
    obtain ⟨name, path⟩ := first
    obtain ⟨m, ids', hm, hrest, hgraph⟩ := buildEntries_cons_ok h
    rw [List.forall_mem_cons] at hentries hleads hnew
    rw [List.map_cons, List.nodup_cons] at hnames
    have howners : ∀ q, S q → _ := fun q hq =>
      walk_owners hS hsep ⟨hg, hc, hnew.1⟩ hentries.1 (build_ok hm) hq
    rw [← build_graph] at howners
    have hfin : Finished p files S g (build p files g name path).graph := by
      rcases build_spec hS hg hc name hentries.1 with ⟨_, -, -, -, hfin⟩ | ⟨e, _, herr, -⟩
      · exact hfin
      · rw [hm] at herr
        cases herr
    have hnew' : ∀ e ∈ rest, ∀ q, S q → e.1 ∉ (build p files g name path).graph.ownersOf q := by
      intro e he q hq hmem
      have hne : e.1 ≠ name := fun hen => hnames.1 (hen ▸ List.mem_map.2 ⟨e, he, rfl⟩)
      by_cases hlead : p.Leads files path.normal q
      · rw [(howners q hq).1 hlead] at hmem
        simp [hne, hnew.2 e he q hq] at hmem
      · rw [(howners q hq).2 hlead] at hmem
        exact hnew.2 e he q hq hmem
    rw [hgraph, ih hfin.sound hfin.covered hentries.2 hnames.2 hnew' hrest hleads.2]
    by_cases hlead : p.Leads files path.normal q
    · rw [(howners q hq).1 hlead, List.filter_cons_of_pos (hleads.1.2 hlead)]
      simp
    · rw [(howners q hq).2 hlead, List.filter_cons_of_neg (mt hleads.1.1 hlead)]

end Bundler.Graph
