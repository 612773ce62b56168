import Bundler.Proofs.Compilation.Linking
import Bundler.Proofs.FirstLine
import Bundler.Proofs.Run
import Bundler.Proofs.Writing

/-!
# What a run leaves in files

A script is in its file after a run that ends well, unless a later one goes to the same place under
another spelling. A run that fails has written the scripts before the one that failed, and no more.
-/

namespace Bundler

variable {σ ε : Type}

/-! ## Places that hold files -/

namespace Sink

/-- A place for scripts that holds files, each under the names that lead to it. Making a folder changes no
file. Writing changes the file at the place of the path alone, and if it succeeds the text is there. -/
structure Holds (sink : Sink σ) (bytes? : σ → List String → Option ByteArray) : Prop where
  makeFolder : ∀ s p q, bytes? (sink.makeFolder s p).1 q = bytes? s q
  other : ∀ s p text q, p.isAbsolute → q ≠ p.place → bytes? (sink.write s p text).1 q = bytes? s q
  write : ∀ s p text, p.isAbsolute → (sink.write s p text).2 = .ok () →
    bytes? (sink.write s p text).1 p.place = some text.toUTF8

theorem holds_files : Files.sink.Holds Files.bytes? where
  makeFolder s p q := (Files.makesFolders_make s p).bytes_eq q
  other s p text q hp hq := by
    cases hresult : Files.sink.write s p text with
    | mk s' result =>
      cases result with
      | ok u => rw [(Files.bytes?_write hp hresult).2 q, if_neg hq]
      | error e => exact Files.bytes?_write_error hresult q
  write s p text hp hok := by
    rw [(Files.bytes?_write hp (Prod.ext rfl hok)).2, if_pos rfl]

/-- The text that goes to a place of a folder last. -/
def lastAt? (folder : Path) (place : List String) : List (String × String) → Option String
  | [] => none
  | a :: rest => (lastAt? folder place rest).or (if (folder.join ⟨a.1⟩).place = place then some a.2 else none)

variable {sink : Sink σ} {bytes? : σ → List String → Option ByteArray} {folder : Path}

theorem Holds.bytes_after (hsink : sink.Holds bytes?) (hfolder : folder.isAbsolute) {s : σ}
    {assets : List (String × String)} (h : sink.Succeeds s (assets.map fun a => .file (folder.join ⟨a.1⟩) a.2))
    (q : List String) :
    bytes? (sink.after s (assets.map fun a => .file (folder.join ⟨a.1⟩) a.2)) q =
      ((lastAt? folder q assets).map String.toUTF8).or (bytes? s q) := by
  induction assets generalizing s with
  | nil => rfl
  | cons a rest ih =>
    obtain ⟨hfirst, hrest⟩ := succeeds_cons.1 h
    have hpath := Path.isAbsolute_join hfolder ⟨a.1⟩
    rw [List.map_cons, after, List.foldl_cons, ← after, ih hrest, lastAt?]
    cases lastAt? folder q rest with
    | some text => rfl
    | none =>
      by_cases hq : q = (folder.join ⟨a.1⟩).place
      · subst hq
        simpa [perform] using hsink.write s _ a.2 hpath hfirst
      · have hne : ¬ (folder.join ⟨a.1⟩).place = q := fun heq => hq heq.symm
        simpa [perform, hne] using hsink.other s _ a.2 q hpath hq

theorem lastAt?_eq_none {place : List String} {assets : List (String × String)} :
    lastAt? folder place assets = none ↔ ∀ a ∈ assets, (folder.join ⟨a.1⟩).place ≠ place := by
  induction assets with
  | nil => simp [lastAt?]
  | cons a rest ih =>
    rw [lastAt?, Option.or_eq_none_iff, ih, List.forall_mem_cons, and_comm]
    simp

theorem lastAt?_eq_some {place : List String} {assets : List (String × String)} {text : String}
    (h : lastAt? folder place assets = some text) : ∃ before a later, assets = before ++ a :: later ∧
      (folder.join ⟨a.1⟩).place = place ∧ a.2 = text ∧ ∀ b ∈ later, (folder.join ⟨b.1⟩).place ≠ place := by
  induction assets with
  | nil => cases h
  | cons a rest ih =>
    rw [lastAt?] at h
    cases hrest : lastAt? folder place rest with
    | some later =>
      obtain rfl : later = text := by simpa [hrest] using h
      obtain ⟨before, b, after, rfl, hb⟩ := ih hrest
      exact ⟨a :: before, b, after, rfl, hb⟩
    | none =>
      by_cases ha : (folder.join ⟨a.1⟩).place = place
      · obtain rfl : a.2 = text := by simpa [hrest, ha] using h
        exact ⟨[], a, rest, rfl, ha, rfl, lastAt?_eq_none.1 hrest⟩
      · simp [hrest, ha] at h

theorem deeds_eq_append {s : σ} {assets : List (String × String)} {before rest : List Deed} {deed : Deed}
    (h : sink.deeds s folder assets = before ++ deed :: rest) :
    before = [] ∧ deed = .folder folder ∨ ∃ made written failed later,
      (made = [] ∨ made = [.folder folder]) ∧ assets = written ++ failed :: later ∧
      before = made ++ (written.map fun a => .file (folder.join ⟨a.1⟩) a.2) ∧
      deed = .file (folder.join ⟨failed.1⟩) failed.2 := by
  have hsplit : ∀ {before}, (assets.map fun a => Deed.file (folder.join ⟨a.1⟩) a.2) = before ++ deed :: rest →
      ∃ written failed later, assets = written ++ failed :: later ∧
        before = (written.map fun a => .file (folder.join ⟨a.1⟩) a.2) ∧
        deed = .file (folder.join ⟨failed.1⟩) failed.2 := by
    intro before h
    obtain ⟨written, after, rfl, rfl, hafter⟩ := List.map_eq_append_iff.1 h
    obtain ⟨failed, later, rfl, rfl, -⟩ := List.map_eq_cons_iff.1 hafter
    exact ⟨written, failed, later, rfl, rfl, rfl⟩
  unfold deeds at h
  by_cases hhas : sink.has s folder
  · rw [if_pos hhas, List.nil_append] at h
    obtain ⟨written, failed, later, hassets, hbefore, hdeed⟩ := hsplit h
    exact .inr ⟨[], written, failed, later, .inl rfl, hassets, hbefore, hdeed⟩
  · rw [if_neg hhas, List.singleton_append] at h
    cases before with
    | nil => exact .inl ⟨rfl, (List.cons.inj h).1.symm⟩
    | cons first before =>
      obtain ⟨rfl, hrest⟩ := List.cons.inj h
      obtain ⟨written, failed, later, hassets, rfl, hdeed⟩ := hsplit hrest
      exact .inr ⟨[.folder folder], written, failed, later, .inr rfl, hassets, rfl, hdeed⟩

theorem exists_made (sink : Sink σ) (s : σ) (folder : Path) (assets : List (String × String)) :
    ∃ made, (made = [] ∨ made = [.folder folder]) ∧
      sink.deeds s folder assets = made ++ assets.map fun a => .file (folder.join ⟨a.1⟩) a.2 := by
  refine ⟨_, ?_, rfl⟩
  split
  · exact .inl rfl
  · exact .inr rfl

theorem succeeds_nil {s : σ} : sink.Succeeds s [] := by
  intro before deed rest heq
  simp at heq

theorem succeeds_append {s : σ} {a b : List Deed} :
    sink.Succeeds s (a ++ b) ↔ sink.Succeeds s a ∧ sink.Succeeds (sink.after s a) b := by
  induction a generalizing s with
  | nil => simp [Succeeds, after]
  | cons deed a ih =>
    rw [List.cons_append, succeeds_cons, succeeds_cons, ih, and_assoc]
    rfl

theorem after_append (s : σ) (a b : List Deed) : sink.after s (a ++ b) = sink.after (sink.after s a) b :=
  List.foldl_append

theorem Holds.bytes_after_made (hsink : sink.Holds bytes?) (hfolder : folder.isAbsolute) {s : σ} {made : List Deed}
    (hmade : made = [] ∨ made = [.folder folder]) {assets : List (String × String)}
    (h : sink.Succeeds s (made ++ assets.map fun a => .file (folder.join ⟨a.1⟩) a.2)) (q : List String) :
    bytes? (sink.after s (made ++ assets.map fun a => .file (folder.join ⟨a.1⟩) a.2)) q =
      ((lastAt? folder q assets).map String.toUTF8).or (bytes? s q) := by
  have hsame : bytes? (sink.after s made) q = bytes? s q := by
    rcases hmade with rfl | rfl
    · rfl
    · exact hsink.makeFolder s folder q
  rw [after_append, hsink.bytes_after hfolder (succeeds_append.1 h).2, hsame]

end Sink

namespace Files

theorem grows_after (fs : Files) (folder : Path) (assets : List (String × String)) :
    Grows fs (sink.after fs (assets.map fun a => .file (folder.join ⟨a.1⟩) a.2)) := by
  induction assets generalizing fs with
  | nil => exact .refl fs
  | cons a rest ih => exact (grows_write fs _ a.2).trans (ih _)

theorem locate_after {fs : Files} {folder : Path} (hfolder : folder.isAbsolute) {assets : List (String × String)}
    (h : sink.Succeeds fs (assets.map fun a => .file (folder.join ⟨a.1⟩) a.2)) {a : String × String} (ha : a ∈ assets) :
    (sink.after fs (assets.map fun a => .file (folder.join ⟨a.1⟩) a.2)).locate (folder.join ⟨a.1⟩) =
      .ok (folder.join ⟨a.1⟩).place := by
  induction assets generalizing fs with
  | nil => simp at ha
  | cons first rest ih =>
    obtain ⟨hfirst, hrest⟩ := Sink.succeeds_cons.1 h
    rcases List.mem_cons.1 ha with rfl | ha
    · have hwrite := bytes?_write (Path.isAbsolute_join hfolder ⟨a.1⟩) (Prod.ext rfl hfirst)
      exact (grows_after _ folder rest).locate hwrite.1
    · exact ih hrest ha

end Files

/-! ## Runs -/

def RunEvent.written? : RunEvent ε → Option (Path × String)
  | wrote path text => some (path, text)
  | _ => none

/-- The writes that a run tries, in their order. -/
def RunEvent.writes (events : List (RunEvent ε)) : List (Path × String) := events.filterMap written?

theorem RunEvent.writes_filter_seen (events : List (RunEvent ε)) : writes (events.filter seen) = writes events := by
  unfold writes
  rw [List.filterMap_filter]
  refine List.filterMap_congr fun event _ => ?_
  cases event <;> rfl

theorem RunEvent.writes_append (a b : List (RunEvent ε)) : writes (a ++ b) = writes a ++ writes b :=
  List.filterMap_append

theorem RunEvent.writes_files (folder : Path) (assets : List (String × String)) :
    writes ((assets.map fun a => Deed.file (folder.join ⟨a.1⟩) a.2).map (Deed.event : Deed → RunEvent ε)) =
      assets.map fun a => (folder.join ⟨a.1⟩, a.2) := by
  unfold writes
  rw [List.map_map, List.filterMap_map, ← List.filterMap_eq_map]
  rfl

theorem Compiler.writes_words (c : Compiler ε) (current : Path) (point : Point) (compilation : Option Compilation) :
    RunEvent.writes (c.words current point compilation) = [] := by
  rw [RunEvent.writes, Compiler.words, List.filterMap_map, List.filterMap_eq_nil_iff]
  intro word _
  rfl

theorem Compilation.config_of_compile {options : Options} {loaders : Registry} {files : Files} {current : Path}
    {output : Output} {c : Compilation} {e : Error}
    (h : (compile { options with output := output } loaders files current).result = .ok c)
    (herr : (compile options loaders files current).result = .error e) : ∃ message, e = .config message := by
  obtain ⟨p, hparts⟩ := compile_ok h
  have hproject : options.project loaders current = .ok p := hparts.project
  have hbuilt : (Graph.buildEntries p files {} (options.entries current)).result = .ok c.entries := hparts.built
  have hchunks : (c.entries.mapM fun e => Chunk.assemble
      (Graph.buildEntries p files {} (options.entries current)).graph.table e.1 e.2) = .ok c.chunks :=
    mapM_eq_ok_iff.2 (hparts.modules ▸ hparts.chunks)
  have hnonempty : options.entries current ≠ [] := hparts.nonempty
  rw [compile_result, if_neg (by simpa using hnonempty), hproject] at herr
  rcases bind_eq_error.1 herr with herr | ⟨p', hp', herr⟩
  · cases herr
  obtain rfl := Except.ok.inj hp'
  rw [hbuilt] at herr
  rcases bind_eq_error.1 herr with herr | ⟨ids, hids, herr⟩
  · cases herr
  obtain rfl := Except.ok.inj hids
  rw [hchunks] at herr
  rcases bind_eq_error.1 herr with herr | ⟨chunks, -, herr⟩
  · cases herr
  rcases bind_eq_error.1 herr with herr | ⟨assets, -, herr⟩
  · exact renderAfter_error herr
  · cases herr

theorem Options.isAbsolute_outputFolder (options : Options) {current : Path} (h : current.isAbsolute) :
    (options.outputFolder current).isAbsolute := by
  rw [outputFolder, Path.isAbsolute_normal]
  exact Path.isAbsolute_join (options.isAbsolute_root h) _

namespace Compiler

variable {sink : Sink σ} {c : Compiler ε} {files : Files} {current : Path} {s : σ}

theorem run_ok {compilation : Compilation} (h : (c.run files current sink s).1.result = .ok compilation) :
    (Compilation.compile c.options c.loaders files current).result = .ok compilation ∧
    sink.Succeeds s (sink.deeds s (c.options.outputFolder current) compilation.assets) ∧
    (c.run files current sink s).2 =
      sink.after s (sink.deeds s (c.options.outputFolder current) compilation.assets) := by
  cases hcompile : (Compilation.compile c.options c.loaders files current).result with
  | error e => cases h.symm.trans (does_run_of_error hcompile s).result_eq
  | ok compilation' =>
    rcases sink.succeeds_or s (sink.deeds s (c.options.outputFolder current) compilation'.assets) with
      hdeeds | ⟨before, deed, rest, e, hdeeds, hbefore, hdeed⟩
    · have hrun := does_run hcompile hdeeds.carries
      obtain rfl := Except.ok.inj (h.symm.trans hrun.result_eq)
      exact ⟨rfl, hdeeds, hrun.state_eq⟩
    · have hrun := does_run_of_deed_error hcompile (hdeeds ▸ hbefore.carries_error hdeed rest)
      cases h.symm.trans hrun.result_eq

theorem run_error {e : Error} (h : (c.run files current sink s).1.result = .error e) :
    ((Compilation.compile c.options c.loaders files current).result = .error e ∧
      (c.run files current sink s).2 = s ∧
      (c.run files current sink s).1.events.filter RunEvent.seen = c.words current .run none) ∨
    ∃ compilation before deed rest,
      (Compilation.compile c.options c.loaders files current).result = .ok compilation ∧
      sink.deeds s (c.options.outputFolder current) compilation.assets = before ++ deed :: rest ∧
      sink.Succeeds s before ∧
      sink.perform (sink.after s before) deed = ((c.run files current sink s).2, .error e) ∧
      (c.run files current sink s).1.events.filter RunEvent.seen =
        c.words current .run none ++ c.words current .emit (some compilation) ++
          (before ++ [deed]).map Deed.event := by
  cases hcompile : (Compilation.compile c.options c.loaders files current).result with
  | error e' =>
    have hrun : (c.run files current sink).Does s _ _ _ := does_run_of_error hcompile s
    obtain rfl := Except.error.inj (h.symm.trans hrun.result_eq)
    exact .inl ⟨rfl, hrun.state_eq, hrun.shown_eq⟩
  | ok compilation =>
    rcases sink.succeeds_or s (sink.deeds s (c.options.outputFolder current) compilation.assets) with
      hdeeds | ⟨before, deed, rest, e', hdeeds, hbefore, hdeed⟩
    · cases h.symm.trans (does_run hcompile hdeeds.carries).result_eq
    · have hrun := does_run_of_deed_error hcompile (hdeeds ▸ hbefore.carries_error hdeed rest)
      obtain rfl := Except.error.inj (h.symm.trans hrun.result_eq)
      refine .inr ⟨compilation, before, deed, rest, rfl, hdeeds, hbefore, Prod.ext ?_ hdeed, hrun.shown_eq⟩
      simp [hrun.state_eq, Sink.after]

/-- A run that fails at a script has written the scripts before it, and no other. -/
theorem written_of_error {bytes? : σ → List String → Option ByteArray} (hsink : sink.Holds bytes?)
    (hcurrent : current.isAbsolute) {e : Error} (h : (c.run files current sink s).1.result = .error e) :
    let run := c.run files current sink s
    let folder := c.options.outputFolder current
    ((Compilation.compile c.options c.loaders files current).result = .error e ∧ run.2 = s ∧
      RunEvent.writes run.1.events = []) ∨
    ∃ compilation, (Compilation.compile c.options c.loaders files current).result = .ok compilation ∧
      ((sink.makeFolder s folder = (run.2, .error e) ∧ RunEvent.writes run.1.events = [] ∧
          ∀ q, bytes? run.2 q = bytes? s q) ∨
        ∃ written failed rest, compilation.assets = written ++ failed :: rest ∧
          RunEvent.writes run.1.events = (written ++ [failed]).map (fun a => (folder.join ⟨a.1⟩, a.2)) ∧
          (∃ s₁, sink.write s₁ (folder.join ⟨failed.1⟩) failed.2 = (run.2, .error e)) ∧
          ∀ q, q ≠ (folder.join ⟨failed.1⟩).place →
            bytes? run.2 q = ((Sink.lastAt? folder q written).map String.toUTF8).or (bytes? s q)) := by
  intro run folder
  have hfolder : folder.isAbsolute := c.options.isAbsolute_outputFolder hcurrent
  rcases run_error h with ⟨hcompile, hstate, hshown⟩ | ⟨compilation, before, deed, rest, hcompile, hdeeds, hbefore,
    hdeed, hshown⟩
  · refine .inl ⟨hcompile, hstate, ?_⟩
    rw [← RunEvent.writes_filter_seen, hshown, writes_words]
  · refine .inr ⟨compilation, hcompile, ?_⟩
    have hwrites : RunEvent.writes run.1.events =
        RunEvent.writes ((before ++ [deed]).map (Deed.event : Deed → RunEvent ε)) := by
      rw [← RunEvent.writes_filter_seen, hshown, RunEvent.writes_append, RunEvent.writes_append, writes_words,
        writes_words, List.nil_append, List.nil_append]
    rcases Sink.deeds_eq_append hdeeds with ⟨rfl, rfl⟩ | ⟨made, written, failed, later, hmade, hassets, rfl, rfl⟩
    · have hmake : sink.makeFolder s folder = (run.2, .error e) := hdeed
      refine .inl ⟨hmake, hwrites, fun q => ?_⟩
      rw [← hsink.makeFolder s folder q, hmake]
    · refine .inr ⟨written, failed, later, hassets, ?_, ⟨_, hdeed⟩, fun q hq => ?_⟩
      · have hmadeWrites : RunEvent.writes (made.map (Deed.event : Deed → RunEvent ε)) = [] := by
          rcases hmade with rfl | rfl <;> rfl
        rw [hwrites, List.append_assoc, List.map_append, RunEvent.writes_append, hmadeWrites, List.nil_append,
          ← RunEvent.writes_files]
        simp only [List.map_append]
        rfl
      · calc bytes? run.2 q
          _ = bytes? (sink.write _ (folder.join ⟨failed.1⟩) failed.2).1 q :=
            congrArg (bytes? · q) (congrArg Prod.fst hdeed).symm
          _ = bytes? (sink.after s _) q := hsink.other _ _ _ q (Path.isAbsolute_join hfolder _) hq
          _ = _ := hsink.bytes_after_made hfolder hmade hbefore q

theorem read_after_run (hcurrent : current.isAbsolute) {disk : Files} {compilation : Compilation}
    (h : (c.run files current Files.sink disk).1.result = .ok compilation) {a : String × String}
    (ha : a ∈ compilation.assets) :
    ∃ text, Sink.lastAt? (c.options.outputFolder current)
        ((c.options.outputFolder current).join ⟨a.1⟩).place compilation.assets = some text ∧
      (c.run files current Files.sink disk).2.read ((c.options.outputFolder current).join ⟨a.1⟩) = .ok text := by
  have hfolder := c.options.isAbsolute_outputFolder hcurrent
  obtain ⟨-, hdeeds, hstate⟩ := run_ok h
  obtain ⟨made, hmade, heq⟩ := Files.sink.exists_made disk (c.options.outputFolder current) compilation.assets
  rw [heq] at hdeeds hstate
  cases hlast : Sink.lastAt? (c.options.outputFolder current)
      ((c.options.outputFolder current).join ⟨a.1⟩).place compilation.assets with
  | none => exact absurd rfl (Sink.lastAt?_eq_none.1 hlast a ha)
  | some text =>
    have hlocate := Files.locate_after hfolder (Sink.succeeds_append.1 hdeeds).2 ha
    rw [← Sink.after_append, ← hstate] at hlocate
    refine ⟨text, rfl, Files.read_of_locate hlocate ?_⟩
    rw [hstate, Sink.holds_files.bytes_after_made hfolder hmade hdeeds, hlast]
    rfl

/-- After a run that ends well, all scripts can be read back exactly if no two that differ go to one place. -/
theorem reads_back_iff (c : Compiler ε) (files : Files) {current : Path} (hcurrent : current.isAbsolute) :
    let run := c.run files current Files.sink files
    let path (a : String × String) := (c.options.outputFolder current).join ⟨a.1⟩
    (∀ compilation, run.1.result = .ok compilation →
      (compilation.assets.map (·.1)).Nodup ∧
      (∀ a ∈ compilation.assets, ∃ before last later, compilation.assets = before ++ last :: later ∧
        (path last).normal = (path a).normal ∧ (∀ b ∈ later, (path b).normal ≠ (path a).normal) ∧
        run.2.read (path a) = .ok last.2) ∧
      ((∀ a ∈ compilation.assets, run.2.read (path a) = .ok a.2) ↔
        ∀ a ∈ compilation.assets, ∀ b ∈ compilation.assets, (path a).normal = (path b).normal → a.2 = b.2)) ∧
    (¬ (c.options.entry.pairs.map fun e => c.options.output.filenameFor e.1).Nodup →
      run.2 = files ∧ ∃ e, run.1.result = .error e ∧
        ∀ output compilation,
          (Compilation.compile { c.options with output := output } c.loaders files current).result = .ok compilation →
          ∃ message, e = .config message) := by
  intro run path
  have habs : ∀ a, (path a).isAbsolute := fun a =>
    Path.isAbsolute_join (c.options.isAbsolute_outputFolder hcurrent) _
  have hplace : ∀ a b, (path a).place = (path b).place ↔ (path a).normal = (path b).normal := fun a b =>
    Path.place_eq_iff (habs a) (habs b)
  refine ⟨fun compilation h => ⟨?_, fun a ha => ?_, fun hread a ha b hb hab => ?_, fun hsame a ha => ?_⟩,
    fun hnames => ?_⟩
  · obtain ⟨p, hparts⟩ := Compilation.compile_ok (run_ok h).1
    exact hparts.files
  · obtain ⟨text, hlast, hread⟩ := read_after_run hcurrent h ha
    obtain ⟨before, last, later, heq, hto, rfl, hlater⟩ := Sink.lastAt?_eq_some hlast
    refine ⟨before, last, later, heq, (hplace last a).1 hto, fun b hb hab => ?_, hread⟩
    exact hlater b hb ((hplace b a).2 hab)
  · obtain ⟨text, hlast, htext⟩ := read_after_run hcurrent h ha
    obtain ⟨text', hlast', htext'⟩ := read_after_run hcurrent h hb
    have htexts : text = text' := by
      rw [(hplace a b).2 hab, hlast'] at hlast
      exact (Option.some.inj hlast).symm
    have ha' := Except.ok.inj ((hread a ha).symm.trans htext)
    have hb' := Except.ok.inj ((hread b hb).symm.trans htext')
    rw [ha', hb', htexts]
  · obtain ⟨text, hlast, hread⟩ := read_after_run hcurrent h ha
    obtain ⟨before, last, later, heq, hto, rfl, -⟩ := Sink.lastAt?_eq_some hlast
    have hmem : last ∈ compilation.assets := by simp [heq]
    rw [hsame a ha last hmem ((hplace a last).1 hto.symm)]
    exact hread
  · cases hcompile : (Compilation.compile c.options c.loaders files current).result with
    | ok compilation =>
      obtain ⟨p, hparts⟩ := Compilation.compile_ok hcompile
      exact absurd (Compilation.map_fst_assets hcompile ▸ hparts.files) hnames
    | error e =>
      have hrun : (c.run files current Files.sink).Does files _ _ _ := does_run_of_error hcompile files
      exact ⟨hrun.state_eq, e, hrun.result_eq, fun output compilation h => Compilation.config_of_compile h hcompile⟩

/-! ## An example: one file under several names -/

/-- A project of one file. -/
def lone : Files where
  tree := .folder [("app", .folder [("main.js", .file "".toUTF8)])]

/-- A build of that file for each of some names. -/
def loneBuild (names : List String) : Compiler Empty where
  options := { entry := .named (names.map fun name => (name, "main.js")) }

theorem lone_compiles {names : List String} (hne : names ≠ [])
    (hnames : (names.map (loneBuild names).options.output.filenameFor).Nodup) :
    ∃ compilation, (Compilation.compile (loneBuild names).options (loneBuild names).loaders lone ⟨"/app"⟩).result =
      .ok compilation := by
  have hroot : (loneBuild names).options.root ⟨"/app"⟩ = ⟨"/app"⟩ := by
    have h : Path.normal ⟨"/app"⟩ = ⟨"/app"⟩ := by decide +kernel
    exact h
  have hproject : (loneBuild names).options.project (loneBuild names).loaders ⟨"/app"⟩ = .ok { root := ⟨"/app"⟩ } := by
    rw [Options.project, hroot]
    rfl
  have hentries : (loneBuild names).options.entries ⟨"/app"⟩ = names.map fun name => (name, ⟨"/app/main.js"⟩) := by
    have h : (Path.child ⟨"/app"⟩ "main.js").normal = ⟨"/app/main.js"⟩ := by decide +kernel
    rw [Options.entries, hroot]
    simp [loneBuild, Entry.files, h]
  have hclosed : Project.closed { root := ⟨"/app"⟩ } lone [⟨"/app/main.js"⟩] := by decide +kernel
  have hnormal : Path.normal ⟨"/app/main.js"⟩ = ⟨"/app/main.js"⟩ := by decide +kernel
  refine Compilation.exists_compile hproject (by unfold Resolver.Plain; decide) ?_ (fun q hq => ?_) ?_
  · simpa [hentries] using hne
  · obtain ⟨found, hfound, -⟩ := Project.exists_analyse_of_closed hclosed
      (Project.mem_of_reached hclosed (by simp [hentries, hnormal]) hq)
    exact ⟨found, hfound⟩
  · simpa [hentries, Function.comp_def] using hnames

theorem lone_assets {first second : String} (hne : Output.filenameFor {} first ≠ Output.filenameFor {} second) :
    ∃ k k' compilation, k.name = first ∧ k'.name = second ∧
      (Compilation.compile (loneBuild [first, second]).options (loneBuild [first, second]).loaders lone
        ⟨"/app"⟩).result = .ok compilation ∧
      compilation.assets =
        [(Output.filenameFor {} first, Bundle.script k), (Output.filenameFor {} second, Bundle.script k')] := by
  have hfiles : ([first, second].map (loneBuild [first, second]).options.output.filenameFor).Nodup := by
    simpa [loneBuild] using hne
  obtain ⟨compilation, hcompile⟩ := lone_compiles (by simp) hfiles
  obtain ⟨p, hparts⟩ := Compilation.compile_ok hcompile
  have hnames : compilation.chunks.map (·.name) = [first, second] := by
    rw [Compilation.map_name_chunks (hparts.modules ▸ Graph.keyed_table _) hparts.chunks,
      Graph.map_fst_buildEntries hparts.built, Options.entries_eq]
    rfl
  obtain ⟨k, rest, hchunks, rfl, hrest⟩ := List.map_eq_cons_iff.1 hnames
  obtain ⟨k', none, rfl, rfl, hnone⟩ := List.map_eq_cons_iff.1 hrest
  obtain rfl := List.map_eq_nil_iff.1 hnone
  exact ⟨k, k', compilation, rfl, rfl, hcompile, by rw [hparts.assets, hchunks]; rfl⟩

theorem lone_folder (names : List String) : (loneBuild names).options.outputFolder ⟨"/app"⟩ = ⟨"/app/dist"⟩ := by
  have h : Path.normal (.join (Path.normal ⟨"/app"⟩) ⟨"dist"⟩) = ⟨"/app/dist"⟩ := by decide +kernel
  exact h

theorem lone_deeds (assets : List (String × String)) : Files.sink.deeds lone ⟨"/app/dist"⟩ assets =
    .folder ⟨"/app/dist"⟩ :: assets.map fun a => .file (Path.join ⟨"/app/dist"⟩ ⟨a.1⟩) a.2 := by
  have hhas : Files.sink.has lone ⟨"/app/dist"⟩ = false := by decide +kernel
  simp [Sink.deeds, hhas]

theorem lone_run {first second : String} (hne : Output.filenameFor {} first ≠ Output.filenameFor {} second)
    (hwrite : ∀ text text', Files.sink.Succeeds lone [.folder ⟨"/app/dist"⟩,
      .file (Path.join ⟨"/app/dist"⟩ ⟨Output.filenameFor {} first⟩) text,
      .file (Path.join ⟨"/app/dist"⟩ ⟨Output.filenameFor {} second⟩) text']) :
    ∃ k k' compilation, k.name = first ∧ k'.name = second ∧
      ((loneBuild [first, second]).run lone ⟨"/app"⟩ Files.sink lone).1.result = .ok compilation ∧
      compilation.assets =
        [(Output.filenameFor {} first, Bundle.script k), (Output.filenameFor {} second, Bundle.script k')] := by
  obtain ⟨k, k', compilation, hk, hk', hcompile, hassets⟩ := lone_assets hne
  have hdeeds : Files.sink.Succeeds lone
      (Files.sink.deeds lone ((loneBuild [first, second]).options.outputFolder ⟨"/app"⟩) compilation.assets) := by
    rw [lone_folder, lone_deeds, hassets]
    exact hwrite _ _
  exact ⟨k, k', compilation, hk, hk', (does_run hcompile hdeeds.carries).result_eq, hassets⟩

theorem head?_name_of_script_eq {k k' : Chunk} (h : Bundle.script k = Bundle.script k') (hk : k.name.toList ≠ [])
    (hk' : k'.name.toList ≠ []) : k.name.toList.head? = k'.name.toList.head? := by
  have hlist := congrArg String.toList h
  rw [Bundle.script, Bundle.script, Bundle.toList_header_append, Bundle.toList_header_append] at hlist
  rw [← List.head?_append_of_ne_nil _ hk, List.append_cancel_left hlist, List.head?_append_of_ne_nil _ hk']

theorem reads_back_two : ∃ compilation,
    ((loneBuild ["a", "b"]).run lone ⟨"/app"⟩ Files.sink lone).1.result = .ok compilation ∧
    compilation.assets.map (·.1) = ["a.js", "b.js"] ∧
    ∀ a ∈ compilation.assets, ((loneBuild ["a", "b"]).run lone ⟨"/app"⟩ Files.sink lone).2.read
      (((loneBuild ["a", "b"]).options.outputFolder ⟨"/app"⟩).join ⟨a.1⟩) = .ok a.2 := by
  have ha : Output.filenameFor {} "a" = "a.js" := by decide +kernel
  have hb : Output.filenameFor {} "b" = "b.js" := by decide +kernel
  have hne : Output.filenameFor {} "a" ≠ Output.filenameFor {} "b" := by decide +kernel
  obtain ⟨k, k', compilation, -, -, hrun, hassets⟩ := lone_run hne fun t u =>
    Sink.succeeds_cons.2 ⟨rfl, Sink.succeeds_cons.2 ⟨rfl, Sink.succeeds_cons.2 ⟨rfl, Sink.succeeds_nil⟩⟩⟩
  rw [ha, hb] at hassets
  refine ⟨compilation, hrun, by rw [hassets]; rfl, ?_⟩
  refine ((reads_back_iff (loneBuild ["a", "b"]) lone rfl).1 compilation hrun).2.2.2 ?_
  have hnormal : (Path.join ⟨"/app/dist"⟩ ⟨"a.js"⟩).normal ≠ (Path.join ⟨"/app/dist"⟩ ⟨"b.js"⟩).normal := by
    decide +kernel
  intro x hx y hy hxy
  rw [lone_folder] at hxy
  simp only [hassets, List.mem_cons, List.not_mem_nil, or_false] at hx hy
  rcases hx with rfl | rfl <;> rcases hy with rfl | rfl
  · rfl
  · exact absurd hxy hnormal
  · exact absurd hxy hnormal.symm
  · rfl

/-- Two names that differ can lead to one file, and then the second script replaces the first. -/
theorem overwritten : ∃ compilation a,
    ((loneBuild ["a", "./a"]).run lone ⟨"/app"⟩ Files.sink lone).1.result = .ok compilation ∧
    a ∈ compilation.assets ∧
    ((loneBuild ["a", "./a"]).run lone ⟨"/app"⟩ Files.sink lone).2.read
      (((loneBuild ["a", "./a"]).options.outputFolder ⟨"/app"⟩).join ⟨a.1⟩) ≠ .ok a.2 := by
  have ha : Output.filenameFor {} "a" = "a.js" := by decide +kernel
  have hb : Output.filenameFor {} "./a" = "./a.js" := by decide +kernel
  have hne : Output.filenameFor {} "a" ≠ Output.filenameFor {} "./a" := by decide +kernel
  obtain ⟨k, k', compilation, hk, hk', hrun, hassets⟩ := lone_run hne fun t u =>
    Sink.succeeds_cons.2 ⟨rfl, Sink.succeeds_cons.2 ⟨rfl, Sink.succeeds_cons.2 ⟨rfl, Sink.succeeds_nil⟩⟩⟩
  rw [ha, hb] at hassets
  have hmem : ("a.js", Bundle.script k) ∈ compilation.assets := by simp [hassets]
  refine ⟨compilation, _, hrun, hmem, fun hread => ?_⟩
  obtain ⟨text, hlast, htext⟩ := read_after_run rfl hrun hmem
  have hlater : Sink.lastAt? ⟨"/app/dist"⟩ (Path.join ⟨"/app/dist"⟩ ⟨"a.js"⟩).place
      [("a.js", Bundle.script k), ("./a.js", Bundle.script k')] = some (Bundle.script k') := by
    have hplace : (Path.join ⟨"/app/dist"⟩ ⟨"./a.js"⟩).place = (Path.join ⟨"/app/dist"⟩ ⟨"a.js"⟩).place := by
      decide +kernel
    simp [Sink.lastAt?, hplace]
  rw [lone_folder, hassets, hlater] at hlast
  have heq : Bundle.script k = Bundle.script k' :=
    (Except.ok.inj (hread.symm.trans htext)).trans (Option.some.inj hlast).symm
  have hhead := head?_name_of_script_eq heq (by simp [hk]) (by simp [hk'])
  simp [hk, hk'] at hhead

/-- A script whose path leads through another's file cannot be written, and the other stays. -/
theorem half_run : ∃ k k' e,
    ((loneBuild ["a", "a.js/b"]).run lone ⟨"/app"⟩ Files.sink lone).1.result = .error e ∧
    RunEvent.writes ((loneBuild ["a", "a.js/b"]).run lone ⟨"/app"⟩ Files.sink lone).1.events =
      [(⟨"/app/dist/a.js"⟩, Bundle.script k), (⟨"/app/dist/a.js/b.js"⟩, Bundle.script k')] ∧
    Files.bytes? ((loneBuild ["a", "a.js/b"]).run lone ⟨"/app"⟩ Files.sink lone).2 ["app", "dist", "a.js"] =
      some (Bundle.script k).toUTF8 := by
  have ha : Output.filenameFor {} "a" = "a.js" := by decide +kernel
  have hb : Output.filenameFor {} "a.js/b" = "a.js/b.js" := by decide +kernel
  have hne : Output.filenameFor {} "a" ≠ Output.filenameFor {} "a.js/b" := by decide +kernel
  obtain ⟨k, k', compilation, -, -, hcompile, hassets⟩ := lone_assets hne
  rw [ha, hb] at hassets
  have hpath : Path.join ⟨"/app/dist"⟩ ⟨"a.js"⟩ = ⟨"/app/dist/a.js"⟩ := by decide +kernel
  have hpath' : Path.join ⟨"/app/dist"⟩ ⟨"a.js/b.js"⟩ = ⟨"/app/dist/a.js/b.js"⟩ := by decide +kernel
  have hbefore : Files.sink.Succeeds lone [.folder ⟨"/app/dist"⟩, .file ⟨"/app/dist/a.js"⟩ (Bundle.script k)] :=
    Sink.succeeds_cons.2 ⟨rfl, Sink.succeeds_cons.2 ⟨rfl, Sink.succeeds_nil⟩⟩
  have hfail : (Files.sink.perform (Files.sink.after lone
      [.folder ⟨"/app/dist"⟩, .file ⟨"/app/dist/a.js"⟩ (Bundle.script k)])
      (.file ⟨"/app/dist/a.js/b.js"⟩ (Bundle.script k'))).2 = .error (.io ⟨"/app/dist/a.js"⟩ .exists) := rfl
  have hcarries := hbefore.carries_error hfail []
  have hrun : ((loneBuild ["a", "a.js/b"]).run lone ⟨"/app"⟩ Files.sink).Does lone _ _ _ :=
    does_run_of_deed_error hcompile (by
      rw [lone_folder, lone_deeds, hassets, List.map_cons, List.map_singleton, hpath, hpath']
      exact hcarries)
  refine ⟨k, k', _, hrun.result_eq, ?_, ?_⟩
  · rw [← RunEvent.writes_filter_seen, hrun.shown_eq, RunEvent.writes_append, RunEvent.writes_append, writes_words,
      writes_words]
    rfl
  · rw [hrun.state_eq]
    rfl

theorem written_before_failure : ∃ k k' e,
    ((loneBuild ["a", "a.js/b"]).run lone ⟨"/app"⟩ Files.sink lone).1.result = .error e ∧
    RunEvent.writes ((loneBuild ["a", "a.js/b"]).run lone ⟨"/app"⟩ Files.sink lone).1.events =
      [(⟨"/app/dist/a.js"⟩, Bundle.script k), (⟨"/app/dist/a.js/b.js"⟩, Bundle.script k')] ∧
    ∀ q, q ≠ ["app", "dist", "a.js", "b.js"] →
      Files.bytes? ((loneBuild ["a", "a.js/b"]).run lone ⟨"/app"⟩ Files.sink lone).2 q =
        if ["app", "dist", "a.js"] = q then some (Bundle.script k).toUTF8 else Files.bytes? lone q := by
  obtain ⟨k, k', e, hresult, hwrites, -⟩ := half_run
  refine ⟨k, k', e, hresult, hwrites, fun q hq => ?_⟩
  rcases written_of_error Sink.holds_files rfl hresult with ⟨-, -, hnone⟩ | ⟨_, -, ⟨-, hnone, -⟩ | ⟨written, failed,
    rest, -, hpairs, -, hbytes⟩⟩
  · cases hwrites.symm.trans hnone
  · cases hwrites.symm.trans hnone
  · rw [hwrites, List.map_append] at hpairs
    obtain ⟨hwritten, hfailed⟩ := List.append_inj' (show [_] ++ [_] = _ from hpairs) rfl
    obtain ⟨first, none, rfl, hfirst, hnone⟩ := List.map_eq_cons_iff.1 hwritten.symm
    obtain rfl := List.map_eq_nil_iff.1 hnone
    have hplace : (Path.mk "/app/dist/a.js").place = ["app", "dist", "a.js"] := by decide +kernel
    have hplace' : (Path.mk "/app/dist/a.js/b.js").place = ["app", "dist", "a.js", "b.js"] := by decide +kernel
    obtain ⟨hpath, htext⟩ := Prod.mk.inj hfirst
    obtain ⟨hpath', -⟩ := Prod.mk.inj (List.singleton_inj.1 hfailed)
    rw [hbytes q (by rw [← hpath', hplace']; exact hq), Sink.lastAt?, Sink.lastAt?, hpath, htext, hplace]
    split <;> rfl

/-- A run that fails can leave a script in a file. -/
theorem half_written : ∃ e q,
    ((loneBuild ["a", "a.js/b"]).run lone ⟨"/app"⟩ Files.sink lone).1.result = .error e ∧
    Files.bytes? ((loneBuild ["a", "a.js/b"]).run lone ⟨"/app"⟩ Files.sink lone).2 q ≠ Files.bytes? lone q := by
  obtain ⟨k, -, e, hresult, -, hbytes⟩ := half_run
  have hbefore : Files.bytes? lone ["app", "dist", "a.js"] = none := rfl
  exact ⟨e, ["app", "dist", "a.js"], hresult, by simp [hbytes, hbefore]⟩

end Compiler
end Bundler
