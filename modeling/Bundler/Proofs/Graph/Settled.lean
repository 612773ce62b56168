import Bundler.Proofs.Compilation.Owners
import Bundler.Proofs.Graph.History

/-!
# What builds leave behind

A module is settled where all that it asks for is in the graph, for each of its owners. A build that
ends well settles what it adds, but a build that fails leaves modules behind that are not settled. They
are not looked at again for their owners, so a later build may end well with parts missing.
-/

namespace Bundler.Graph

/-- What a module asks for is in the graph, for each owner of the module. -/
def Settles (g : Graph) (m : Module) : Prop :=
  ∀ o ∈ m.owners, ∀ id ∈ m.dependencies, ∃ k ∈ g.modules, k.id = id ∧ o ∈ k.owners

/-- Every module is settled. -/
def Settled (g : Graph) : Prop := ∀ m ∈ g.modules, g.Settles m

/-- All that an id leads to is in the table, and the entry owns it. -/
def CompleteFor (g : Graph) (entry id : String) : Prop :=
  ∀ x, g.table.Leads id x → ∃ k, g.table.find? x = some k ∧ entry ∈ k.owners

variable {p : Project} {files : Files} {g g' : Graph} {entry : String} {path start : Path} {left : Path → Prop}
  {rest next : List Path}

/-! ## What settled modules lead to -/

theorem find?_table_of_leads (hg : Consistent p g) {m : Module} (hm : m ∈ g.modules)
    (hsettled : ∀ k ∈ g.modules, g.table.Leads m.id k.id → g.Settles k) {x : String} (h : g.table.Leads m.id x) :
    (g.table.find? x).isSome := by
  cases h with
  | refl => exact find?_table_isSome hm
  | tail hlead hask =>
    obtain ⟨k, hk, hdep⟩ := hask
    obtain ⟨hmem, rfl⟩ := g.keyed_table.find?_eq_some.1 hk
    have hmem := mem_of_mem_table hmem
    obtain ⟨o, ho⟩ := List.exists_mem_of_ne_nil _ (hg.owned k hmem).1
    obtain ⟨n, hn, rfl, -⟩ := hsettled k hmem hlead o ho x hdep
    exact find?_table_isSome hn

theorem completeFor_of_leads (hids : g.Distinct) {m : Module} (hm : m ∈ g.modules) (hown : entry ∈ m.owners)
    (hsettled : ∀ k ∈ g.modules, g.table.Leads m.id k.id → g.Settles k) : g.CompleteFor entry m.id := by
  intro x hlead
  induction hlead with
  | refl => exact ⟨m, hids.find?_table.2 ⟨hm, rfl⟩, hown⟩
  | tail hlead hask ih =>
    obtain ⟨k, hk, hdep⟩ := hask
    obtain ⟨n, hn, hown⟩ := ih
    obtain rfl : k = n := Option.some.inj (hk.symm.trans hn)
    obtain ⟨hmem, rfl⟩ := hids.find?_table.1 hk
    obtain ⟨d, hd, hid, hown⟩ := hsettled k hmem hlead entry hown _ hdep
    exact ⟨d, hids.find?_table.2 ⟨hd, hid⟩, hown⟩

/-! ## Normal paths only -/

/-- The tables agree, and all paths in them and all that are still to be looked at are normal. -/
structure Tidy (p : Project) (g : Graph) (pending : List Path) : Prop where
  consistent : Consistent p g
  keys : ∀ q ∈ g.keys, q.Normal
  pending : ∀ q ∈ pending, q.Normal

theorem Tidy.find?_eq_some {pending : List Path} (ht : Tidy p g pending) {q : Path} (hq : q.Normal) {m : Module} :
    g.find? q = some m ↔ m ∈ g.modules ∧ m.path = q := by
  rw [ht.consistent.find?_eq_some]
  refine and_congr_right fun hm => ?_
  exact (ht.keys _ (mem_keys.2 ⟨m, hm, rfl⟩)).same_iff hq

theorem tidy_iff_among {pending : List Path} : Tidy p g pending ↔ Among p Path.Normal g pending :=
  ⟨fun ht => ⟨ht.consistent, ht.keys, ht.pending⟩, fun ha => ⟨ha.consistent, ha.keys, ha.pending⟩⟩

theorem normal_of_asks (hr : p.resolver.Plain) (files : Files) (a b : Path) (_ : a.Normal) (h : p.Asks files a b) :
    b.Normal := (h.hit hr).normal

theorem Tidy.visit (hr : p.resolver.Plain) (ht : Tidy p g (path :: rest))
    (h : (visit p files entry g path).result = .ok (g', next)) : Tidy p g' (next ++ rest) :=
  tidy_iff_among.2 ((tidy_iff_among.1 ht).visit (normal_of_asks hr) h)

theorem Tidy.build (hr : p.resolver.Plain) (ht : Tidy p g []) (files : Files) (entry : String) (path : Path) :
    Tidy p (build p files g entry path).graph [] :=
  tidy_iff_among.2 ((tidy_iff_among.1 ht).build (normal_of_asks hr) files entry (Path.normal_normal path))

theorem tidy_after (hr : p.resolver.Plain) (turns : List Turn) : Tidy p (after p turns) [] :=
  tidy_iff_among.2 (among_after (normal_of_asks hr) fun _ _ q _ => Path.normal_normal q)

/-! ## Builds that end well -/

/-- A build on its way. What a module asks for is there for each owner of the module, or the owner is the
entry and a file with that id is looked at later; modules that were left behind are not spoken of. -/
structure Waiting (p : Project) (entry : String) (start : Path) (left : Path → Prop) (g : Graph)
    (pending : List Path) : Prop where
  tidy : Tidy p g pending
  asks : ∀ m ∈ g.modules, ¬ left m.path → ∀ o ∈ m.owners, ∀ id ∈ m.dependencies,
    (∃ k ∈ g.modules, k.id = id ∧ o ∈ k.owners) ∨ o = entry ∧ ∃ q ∈ pending, Path.idFrom p.root q = id
  start : (∃ m ∈ g.modules, m.path = start ∧ entry ∈ m.owners) ∨ start ∈ pending

theorem exists_owned_of_visit (ht : Tidy p g (path :: rest))
    (h : (visit p files entry g path).result = .ok (g', next)) :
    ∃ m ∈ g'.modules, m.path = path ∧ entry ∈ m.owners := by
  have hpath : path.Normal := ht.pending path (by simp)
  rcases visit_ok h with ⟨m, hm, hown, rfl, -⟩ | ⟨m, hm, -, rfl, -⟩ | ⟨a, -, -, rfl, -⟩
  · obtain ⟨hmem, hmp⟩ := (ht.find?_eq_some hpath).1 hm
    exact ⟨m, hmem, hmp, by simpa [Module.ownedBy] using hown⟩
  · obtain ⟨hmem, rfl⟩ := (ht.find?_eq_some hpath).1 hm
    refine ⟨m.addOwner entry, List.mem_map.2 ⟨m, hmem, if_pos (Path.same_self _)⟩, rfl, ?_⟩
    simp [Module.addOwner]
  · exact ⟨p.moduleOf path entry a, by simp [Graph.add], Project.moduleOf_path .., by simp [Project.moduleOf]⟩

/-- A module that is not left behind was waited for by another owner, so the paths of what it asks for are known. -/
theorem Waiting.exists_path (hw : Waiting p entry start left g (path :: rest)) {m : Module} (hm : m ∈ g.modules)
    (hleft : ¬ left m.path) (hown : ¬ m.ownedBy entry) {id : String} (hid : id ∈ m.dependencies) :
    ∃ q ∈ m.dependencies.filterMap g.pathOf?, Path.idFrom p.root q = id := by
  have hc := hw.tidy.consistent
  obtain ⟨other, hother⟩ := List.exists_mem_of_ne_nil _ (hc.owned m hm).1
  have hne : other ≠ entry := by
    rintro rfl
    exact hown (by simpa [Module.ownedBy] using hother)
  obtain ⟨k, hk, hkid, -⟩ := (hw.asks m hm hleft other hother id hid).resolve_right fun hright => hne hright.1
  obtain ⟨q, hq⟩ := Option.isSome_iff_exists.1 (hkid ▸ hc.known k hk)
  obtain ⟨n, hn, rfl, hnid⟩ := hc.path id q hq
  exact ⟨n.path, List.mem_filterMap.2 ⟨id, hid, hq⟩, by rw [← hc.id_eq n hn, hnid]⟩

theorem Waiting.asks_next (hw : Waiting p entry start left g (path :: rest))
    (h : (visit p files entry g path).result = .ok (g', next)) {m' : Module} (hm' : m' ∈ g'.modules)
    (hleft : ¬ left m'.path) {o id : String} (ho : o ∈ m'.owners) (hid : id ∈ m'.dependencies) :
    (∃ m ∈ g.modules, ¬ left m.path ∧ o ∈ m.owners ∧ id ∈ m.dependencies) ∨
      o = entry ∧ ∃ q ∈ next, Path.idFrom p.root q = id := by
  rcases visit_ok h with ⟨m, -, -, rfl, -⟩ | ⟨m, hm, hown, rfl, rfl⟩ | ⟨a, -, ha, rfl, rfl⟩
  · exact .inl ⟨m', hm', hleft, ho, hid⟩
  · obtain ⟨k, hk, rfl⟩ := List.mem_map.1 hm'
    by_cases hsame : k.path.same path
    · rw [if_pos hsame] at hleft ho hid
      rcases List.mem_append.1 ho with ho | ho
      · exact .inl ⟨k, hk, hleft, ho, hid⟩
      · obtain rfl : k = m := Option.some.inj ((hw.tidy.consistent.find?_eq_some.2 ⟨hk, hsame⟩).symm.trans hm)
        exact .inr ⟨List.mem_singleton.1 ho, hw.exists_path hk hleft hown hid⟩
    · rw [if_neg hsame] at hleft ho hid
      exact .inl ⟨k, hk, hleft, ho, hid⟩
  · rcases List.mem_append.1 hm' with hm' | hm'
    · exact .inl ⟨m', hm', hleft, ho, hid⟩
    · rw [List.mem_singleton.1 hm'] at ho hid
      simp only [Project.moduleOf, List.mem_singleton, List.mem_eraseDups, List.mem_map] at ho hid
      obtain ⟨d, hd, rfl⟩ := hid
      exact .inr ⟨ho, d.path, List.mem_map.2 ⟨d, hd, rfl⟩, (Project.dependency_of_analyse ha hd).2.symm⟩

theorem Extends.exists_owned {names : List String} (h : Extends names g g') {m : Module} (hm : m ∈ g.modules)
    {o : String} (ho : o ∈ m.owners) : ∃ m' ∈ g'.modules, m'.path = m.path ∧ m'.id = m.id ∧ o ∈ m'.owners := by
  obtain ⟨m', hm', hbare, more, hmore, -⟩ := h.exists_bare hm
  refine ⟨m', hm', Module.path_eq_of_bare hbare, by simpa [Module.bare] using congrArg Module.id hbare, ?_⟩
  rw [hmore]
  exact List.mem_append_left _ ho

theorem Waiting.visit (hr : p.resolver.Plain) (hw : Waiting p entry start left g (path :: rest))
    (h : (visit p files entry g path).result = .ok (g', next)) : Waiting p entry start left g' (next ++ rest) := by
  have ht := hw.tidy.visit hr h
  obtain ⟨here, hhere, hpath, hown⟩ := exists_owned_of_visit hw.tidy h
  have hid : here.id = Path.idFrom p.root path := by rw [ht.consistent.id_eq here hhere, hpath]
  have hgrow : Extends [entry] g g' := .visit (by simp) h
  refine ⟨ht, fun m' hm' hleft o ho id hdep => ?_, ?_⟩
  · rcases hw.asks_next h hm' hleft ho hdep with ⟨m, hm, hleft, ho, hdep⟩ | ⟨rfl, q, hq, hqid⟩
    · rcases hw.asks m hm hleft o ho id hdep with ⟨k, hk, rfl, hko⟩ | ⟨rfl, q, hq, rfl⟩
      · obtain ⟨k', hk', -, hkid, hko⟩ := hgrow.exists_owned hk hko
        exact .inl ⟨k', hk', hkid, hko⟩
      · -- What was waited for at this path is there now.
        rcases List.mem_cons.1 hq with rfl | hq
        · exact .inl ⟨here, hhere, hid, hown⟩
        · exact .inr ⟨rfl, q, List.mem_append_right _ hq, rfl⟩
    · exact .inr ⟨rfl, q, List.mem_append_left _ hq, hqid⟩
  · rcases hw.start with ⟨m, hm, rfl, ho⟩ | hstart
    · obtain ⟨m', hm', hmpath, -, ho⟩ := hgrow.exists_owned hm ho
      exact .inl ⟨m', hm', hmpath, ho⟩
    · rcases List.mem_cons.1 hstart with rfl | hstart
      · exact .inl ⟨here, hhere, hpath, hown⟩
      · exact .inr (List.mem_append_right _ hstart)

theorem waiting_build (left : Path → Prop) (hr : p.resolver.Plain) (ht : Tidy p g [])
    (hleft : ∀ m ∈ g.modules, ¬ left m.path → g.Settles m) {m : Module}
    (h : (build p files g entry path).result = .ok m) :
    Waiting p entry path.normal left (build p files g entry path).graph [] ∧
      m ∈ (build p files g entry path).graph.modules ∧ entry ∈ m.owners := by
  have hstart : Waiting p entry path.normal left g [path.normal] :=
    ⟨⟨ht.consistent, ht.keys, by simpa using Path.normal_normal path⟩,
      fun m hm hnot o ho id hid => .inl (hleft m hm hnot o ho id hid), .inr (by simp)⟩
  rcases walk_keeps (Waiting p entry path.normal left) (fun _ _ _ _ _ hw hvisit => hw.visit hr hvisit) hstart with
    ⟨-, hend⟩ | ⟨_, _, e, herr, -⟩
  · have hfound := find?_of_build_ok h
    rw [build_graph] at hfound ⊢
    obtain ⟨hmem, hpath⟩ := (hend.tidy.find?_eq_some (Path.normal_normal path)).1 hfound
    refine ⟨hend, hmem, ?_⟩
    obtain ⟨n, hn, hnpath, hown⟩ := hend.start.resolve_right (by simp)
    rwa [hend.tidy.consistent.eq_of_same hmem hn (by rw [hpath, hnpath]; exact Path.same_self _)]
  · rw [build_ok h] at herr
    cases herr

theorem Waiting.settles (hw : Waiting p entry start left g []) {m : Module} (hm : m ∈ g.modules)
    (hleft : ¬ left m.path) : g.Settles m := fun o ho id hid => by
  simpa using hw.asks m hm hleft o ho id hid

theorem Settled.build (hr : p.resolver.Plain) (ht : Tidy p g []) (hs : g.Settled) {m : Module}
    (h : (build p files g entry path).result = .ok m) : (build p files g entry path).graph.Settled := by
  obtain ⟨hw, -⟩ := waiting_build (fun _ => False) hr ht (fun k hk _ => hs k hk) h
  exact fun k hk => hw.settles hk id

theorem Settled.buildEntries (hr : p.resolver.Plain) (ht : Tidy p g []) (hs : g.Settled)
    {entries : List (String × Path)} {ids : List (String × String)}
    (h : (buildEntries p files g entries).result = .ok ids) : (buildEntries p files g entries).graph.Settled := by
  induction entries generalizing g ids with
  | nil => exact hs
  | cons first rest ih =>
    obtain ⟨name, path⟩ := first
    obtain ⟨m, ids', hm, hrest, hgraph⟩ := buildEntries_cons_ok h
    rw [hgraph]
    exact ih (ht.build hr files name path) (hs.build hr ht hm) hrest

/-- Every request of a history was met. -/
def AllMet (p : Project) (turns : List Turn) : Prop :=
  ∀ earlier turn later, turns = earlier ++ turn :: later → turn.EndsWell p (after p earlier)

theorem allMet_concat {turns : List Turn} {turn : Turn} :
    AllMet p (turns ++ [turn]) ↔ AllMet p turns ∧ turn.EndsWell p (after p turns) := by
  constructor
  · intro h
    exact ⟨fun earlier here later heq => h earlier here (later ++ [turn]) (by simp [heq]), h turns turn [] rfl⟩
  · rintro ⟨hturns, hturn⟩ earlier here later heq
    rcases List.eq_nil_or_concat' later with rfl | ⟨later, last, rfl⟩
    · obtain ⟨rfl, hlast⟩ := List.append_inj' heq rfl
      exact List.singleton_inj.1 hlast ▸ hturn
    · rw [← List.cons_append, ← List.append_assoc] at heq
      exact hturns earlier here later (List.append_inj' heq rfl).1

theorem settled_after (hr : p.resolver.Plain) {turns : List Turn} (h : AllMet p turns) : (after p turns).Settled := by
  induction turns using List.reverseRecOn with
  | nil => simp [Settled, after]
  | append_singleton turns turn ih =>
    obtain ⟨hturns, hmet⟩ := allMet_concat.1 h
    have hs : (after p turns).Settled := ih hturns
    have ht := tidy_after hr turns
    unfold Turn.EndsWell at hmet
    rw [after_concat, Turn.graph]
    cases hrequest : turn.request with
    | one entry path =>
      rw [hrequest] at hmet
      obtain ⟨m, hm⟩ := hmet
      exact hs.build hr ht hm
    | all entries =>
      rw [hrequest] at hmet
      obtain ⟨ids, hids⟩ := hmet
      exact hs.buildEntries hr ht hids

/-! ## Builds of what is there -/

theorem build_of_owned {m : Module} (hm : g.find? path.normal = some m) (hown : m.ownedBy entry) (p : Project)
    (files : Files) : build p files g entry path = ⟨g, [.visited path.normal], .ok m⟩ := by
  have hvisit : visit p files entry g path.normal = ⟨[], .ok (g, [])⟩ := by
    unfold visit
    simp [hm, hown]
  have hwalk := walk_of_visit (congrArg Visit.result hvisit)
  rw [hvisit] at hwalk
  simp only [build, hwalk, hm]
  rfl

theorem exists_incomplete (ht : Tidy p g []) {m : Module} (hm : m ∈ g.modules) (hs : ¬ g.Settles m) :
    ∃ o ∈ m.owners, ∀ files, (build p files g o m.path).result = .ok m ∧ (build p files g o m.path).graph = g ∧
      (g.Distinct → ¬ g.CompleteFor o m.id) := by
  simp only [Settles, not_forall] at hs
  obtain ⟨o, ho, id, hid, hmissing⟩ := hs
  have hnormal : m.path.Normal := ht.keys _ (mem_keys.2 ⟨m, hm, rfl⟩)
  have hfound : g.find? m.path.normal = some m := by
    rw [hnormal.normal_eq]
    exact (ht.find?_eq_some hnormal).2 ⟨hm, rfl⟩
  refine ⟨o, ho, fun files => ?_⟩
  rw [build_of_owned hfound (by simpa [Module.ownedBy] using ho) p files]
  refine ⟨rfl, rfl, fun hids hcomplete => ?_⟩
  obtain ⟨k, hk, hown⟩ := hcomplete id (.single ⟨m, hids.find?_table.2 ⟨hm, rfl⟩, hid⟩)
  obtain ⟨hkmem, hkid⟩ := hids.find?_table.1 hk
  exact hmissing ⟨k, hkmem, hkid, hown⟩

/-- The modules are those of certain paths, and only these paths are still to be looked at. -/
structure Within (p : Project) (keys : List Path) (g : Graph) (pending : List Path) : Prop where
  consistent : Consistent p g
  keys_eq : g.keys = keys
  pending_mem : ∀ q ∈ pending, q ∈ keys

theorem Within.exists_find? {keys : List Path} (hw : Within p keys g rest) (hpath : path ∈ keys) :
    ∃ m, g.find? path = some m := by
  obtain ⟨m, hm, rfl⟩ := mem_keys.1 (hw.keys_eq ▸ hpath)
  exact ⟨m, hw.consistent.find?_eq_some.2 ⟨hm, Path.same_self _⟩⟩

theorem Within.visit {keys : List Path} (hw : Within p keys g (path :: rest))
    (h : (visit p files entry g path).result = .ok (g', next)) : Within p keys g' (next ++ rest) := by
  obtain ⟨hpath, hrest⟩ := List.forall_mem_cons.1 hw.pending_mem
  have hc := hw.consistent.visit h
  rcases visit_ok h with ⟨_, -, -, rfl, rfl⟩ | ⟨_, -, -, rfl, rfl⟩ | ⟨_, hnone, -⟩
  · exact ⟨hc, hw.keys_eq, hrest⟩
  · refine ⟨hc, by rw [keys_addOwner, hw.keys_eq], fun q hq => ?_⟩
    rcases List.mem_append.1 hq with hq | hq
    · exact hw.keys_eq ▸ hw.consistent.mem_keys_of_known hq
    · exact hrest q hq
  · obtain ⟨m, hm⟩ := hw.exists_find? hpath
    rw [hm] at hnone
    cases hnone

theorem exists_build_of_mem (ht : Tidy p g []) {m : Module} (hm : m ∈ g.modules) (files : Files) (entry : String) :
    ∃ m', (build p files g entry m.path).result = .ok m' ∧ (build p files g entry m.path).graph.keys = g.keys := by
  have hkey : m.path ∈ g.keys := mem_keys.2 ⟨m, hm, rfl⟩
  have hstart : Within p g.keys g [m.path] := ⟨ht.consistent, rfl, by simpa using hkey⟩
  rw [build_result, build_graph, (ht.keys _ hkey).normal_eq]
  rcases walk_keeps (Within p g.keys) (fun _ _ _ _ _ hw hvisit => hw.visit hvisit) hstart with
    ⟨hresult, hend⟩ | ⟨path, rest, e, -, hstop, hvisit⟩
  · obtain ⟨m', hm'⟩ := hend.exists_find? hkey
    exact ⟨m', by rw [hresult, hm']; rfl, hend.keys_eq⟩
  · obtain ⟨n, hn⟩ := hstop.exists_find? (hstop.pending_mem path (by simp))
    rw [(visit_error hvisit).1] at hn
    cases hn

/-- A build that ends well is complete if no module that it leads to was left unsettled by one that failed. -/
theorem build_complete (p : Project) (hr : p.resolver.Plain) (turns : List Turn) :
    let g := after p turns
    (AllMet p turns → g.Settled) ∧
    (∀ files entry path m, (build p files g entry path).result = .ok m →
      let g' := (build p files g entry path).graph
      (∀ k ∈ g.modules, g'.table.Leads m.id k.id → g.Settles k) →
      (∀ x, g'.table.Leads m.id x → (g'.table.find? x).isSome) ∧ (g'.Distinct → g'.CompleteFor entry m.id)) ∧
    (∀ m ∈ g.modules, ∀ files entry, ∃ m', (build p files g entry m.path).result = .ok m' ∧
      (build p files g entry m.path).graph.keys = g.keys) ∧
    ∀ m ∈ g.modules, ¬ g.Settles m → ∃ o ∈ m.owners, ∀ files, (build p files g o m.path).result = .ok m ∧
      (build p files g o m.path).graph = g ∧ (g.Distinct → ¬ g.CompleteFor o m.id) := by
  have ht := tidy_after hr turns
  refine ⟨settled_after hr, fun files entry path m hm hsettled => ?_,
    fun m hm files entry => exists_build_of_mem ht hm files entry, fun m hm hs => exists_incomplete ht hm hs⟩
  obtain ⟨hw, hmem, hown⟩ := waiting_build
    (fun q => ∃ k ∈ (after p turns).modules, k.path = q ∧ ¬ (after p turns).Settles k) hr ht
    (fun k hk hnot => by_contra fun hs => hnot ⟨k, hk, rfl, hs⟩) hm
  have hreached : ∀ k ∈ (build p files (after p turns) entry path).graph.modules,
      (build p files (after p turns) entry path).graph.table.Leads m.id k.id →
      (build p files (after p turns) entry path).graph.Settles k := by
    intro k hk hlead
    refine hw.settles hk ?_
    rintro ⟨old, hold, hpath, hs⟩
    have hid : old.id = k.id := by
      rw [ht.consistent.id_eq old hold, hw.tidy.consistent.id_eq k hk, hpath]
    exact hs (hsettled old hold (hid ▸ hlead))
  exact ⟨fun x => find?_table_of_leads hw.tidy.consistent hmem hreached,
    fun hids => completeFor_of_leads hids hmem hown hreached⟩

/-! ## An example: a file that is mended too late -/

/-- A file that asks for one that is no script. -/
def broken : Files where
  tree := .folder [("app", .folder [("main.js", .file "require('./lib')".toUTF8), ("lib.js", .file "(".toUTF8)])]

/-- The same files with nothing wrong. -/
def mended : Files where
  tree := .folder [("app", .folder [("main.js", .file "require('./lib')".toUTF8), ("lib.js", .file "".toUTF8)])]

open Compilation

/-- The ring, asked for by both of its entries. -/
def ringTurns : List Turn := [⟨ring, .all (ringOptions.entries ⟨"/app"⟩)⟩]

theorem ring_met : AllMet ringProject ringTurns := by
  intro earlier turn later heq
  obtain ⟨rfl, rfl⟩ : earlier = [] ∧ turn = ⟨ring, .all (ringOptions.entries ⟨"/app"⟩)⟩ := by
    cases earlier with
    | nil => exact ⟨rfl, (List.cons.inj heq).1.symm⟩
    | cons first earlier => simp [ringTurns] at heq
  refine (buildEntries_ok_iff ring_plain).2 fun q hq => ?_
  obtain ⟨a, ha, -⟩ := Project.exists_analyse_of_closed ring_closed (ring_reached hq)
  exact ⟨a, ha⟩

theorem ring_main_mem : ∃ m ∈ (after ringProject ringTurns).modules, m.path = ⟨"/app/main.js"⟩ := by
  have hentry : ("main", (⟨"/app/main.js"⟩ : Path)) ∈ ringOptions.entries ⟨"/app"⟩ := by decide +kernel
  have hnormal : Path.normal ⟨"/app/main.js"⟩ = ⟨"/app/main.js"⟩ := by decide +kernel
  have hplain : ringProject.resolver.Plain := ring_plain
  rcases buildEntries_fresh hplain ring (ringOptions.entries ⟨"/app"⟩) with
    ⟨-, -, -, hkeys⟩ | ⟨e, q, -, hq, herr⟩
  · exact mem_keys.1 ((hkeys _).2 ⟨_, hentry, hnormal ▸ .refl⟩)
  · obtain ⟨a, ha, -⟩ := Project.exists_analyse_of_closed ring_closed (ring_reached hq)
    rw [ha] at herr
    cases herr

theorem Consistent.distinct_of_keys (hg : Consistent p g) (hg' : Consistent p g') (hkeys : g'.keys = g.keys)
    (hids : g.Distinct) : g'.Distinct := by
  rw [Distinct, hg'.map_id, hkeys, ← hg.map_id]
  exact hids

theorem build_complete_ring :
    let g' := (build ringProject broken (after ringProject ringTurns) "third" ⟨"/app/main.js"⟩).graph
    ringProject.resolver.Plain ∧ AllMet ringProject ringTurns ∧ g'.Distinct ∧
    ∃ m, (build ringProject broken (after ringProject ringTurns) "third" ⟨"/app/main.js"⟩).result = .ok m ∧
      g'.CompleteFor "third" m.id := by
  obtain ⟨hsettled, hcomplete, hknown, -⟩ := build_complete ringProject ring_plain ringTurns
  obtain ⟨main, hmain, hpath⟩ := ring_main_mem
  obtain ⟨m, hm, hkeys⟩ := hknown main hmain broken "third"
  rw [hpath] at hm hkeys
  have hids : (build ringProject broken (after ringProject ringTurns) "third" ⟨"/app/main.js"⟩).graph.Distinct :=
    (consistent_after ringProject ringTurns).distinct_of_keys
      ((tidy_after ring_plain ringTurns).build ring_plain broken "third" _).consistent hkeys ring_distinct
  have hreached := hcomplete broken "third" _ m hm fun k hk _ => hsettled ring_met k hk
  exact ⟨ring_plain, ring_met, hids, m, hm, hreached.2 hids⟩

deriving instance DecidableEq for Graph

/-- The one module that a build of the broken files comes to. -/
def tornMain : Module where
  id := "./main.js"
  path := ⟨"/app/main.js"⟩
  transformed := "require('./lib')"
  emitted := "__rpack_require__(\"./lib.js\")"
  dependencies := ["./lib.js"]
  owners := ["main"]

/-- What a build of the broken files leaves behind. -/
def torn : Graph := ⟨[tornMain], [("./main.js", ⟨"/app/main.js"⟩)]⟩

theorem build_broken :
    (build ringProject broken {} "main" ⟨"/app/main.js"⟩).result =
      .error (.parse ⟨"/app/lib.js"⟩ "Unexpected token") ∧
    (build ringProject broken {} "main" ⟨"/app/main.js"⟩).graph = torn := by
  have hnormal : Path.normal ⟨"/app/main.js"⟩ = ⟨"/app/main.js"⟩ := by decide +kernel
  have hmain : (visit ringProject broken "main" {} ⟨"/app/main.js"⟩).result = .ok (torn, [⟨"/app/lib.js"⟩]) := by
    decide +kernel
  have hlib : (visit ringProject broken "main" torn ⟨"/app/lib.js"⟩).result =
      .error (.parse ⟨"/app/lib.js"⟩ "Unexpected token") := by decide +kernel
  obtain ⟨hgraph, hresult⟩ := walk_ok [] hmain
  obtain ⟨hgraph', hresult'⟩ := walk_error [] hlib
  rw [build_result, build_graph, hnormal, hgraph, hresult]
  exact ⟨by rw [List.append_nil, hresult']; rfl, hgraph'⟩

theorem build_mended :
    build ringProject mended torn "main" ⟨"/app/main.js"⟩ =
      ⟨torn, [.visited (Path.normal ⟨"/app/main.js"⟩)], .ok tornMain⟩ :=
  build_of_owned (by decide +kernel) (by decide) ringProject mended

/-- A build of mended files can end well without the file that was mended, if one of the broken files came first. -/
theorem mended_too_late :
    let g := after ringProject [⟨broken, .one "main" ⟨"/app/main.js"⟩⟩]
    let g' := (build ringProject mended g "main" ⟨"/app/main.js"⟩).graph
    (∃ e, (build ringProject broken {} "main" ⟨"/app/main.js"⟩).result = .error e) ∧
    (∃ a, ringProject.analyse mended ⟨"/app/lib.js"⟩ = .ok a) ∧ g'.Distinct ∧
    ∃ m, (build ringProject mended g "main" ⟨"/app/main.js"⟩).result = .ok m ∧ "./lib.js" ∈ m.dependencies ∧
      g'.table.find? "./lib.js" = none ∧ ¬ g'.CompleteFor "main" m.id := by
  have hg : after ringProject [⟨broken, .one "main" ⟨"/app/main.js"⟩⟩] = torn := build_broken.2
  rw [hg]
  simp only [build_mended]
  have hlib : ringProject.closed mended [⟨"/app/lib.js"⟩] := by decide +kernel
  obtain ⟨a, ha, -⟩ := Project.exists_analyse_of_closed hlib (List.mem_singleton.2 rfl)
  have hmissing : torn.table.find? "./lib.js" = none := by decide +kernel
  refine ⟨⟨_, build_broken.1⟩, ⟨a, ha⟩, by decide, tornMain, rfl, by decide, hmissing, fun hcomplete => ?_⟩
  have hask : torn.table.Asks tornMain.id "./lib.js" := ⟨tornMain, by decide +kernel, by decide⟩
  obtain ⟨k, hk, -⟩ := hcomplete "./lib.js" (.single hask)
  rw [hmissing] at hk
  cases hk

end Bundler.Graph
