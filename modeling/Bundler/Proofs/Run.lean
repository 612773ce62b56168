import Bundler.Proofs.Compilation.Result
import Bundler.Proofs.Graph.Owners
import Bundler.Run

/-!
# The course of a run

The listeners of a point are heard in the order in which they came. A run that compiles makes its
folder and writes its scripts up to the first of these deeds that fails, between the listeners that
hear of the scripts and those that hear of the files. A run that does not compile is heard of at its
first point alone.
-/

namespace Bundler

variable {σ ε α β : Type}

/-! ## Who listens -/

/-- Who comes to listen to a run: a plugin with its listeners, or one listener at a point. -/
inductive Registration (ε : Type) where
  | plugin (added : Plugin ε)
  | tap (point : Point) (listener : Listener ε)

/-- The listeners at a point that come with a registration. -/
def Registration.listeners (point : Point) : Registration ε → List (Listener ε)
  | plugin added => (added.listeners.filter (·.1 = point)).map fun l => ⟨added.name, l.2⟩
  | tap place listener => if place = point then [listener] else []

namespace Compiler

def register (c : Compiler ε) : Registration ε → Compiler ε
  | .plugin added => c.withPlugin added
  | .tap point listener => { c with hooks := c.hooks.tap point listener }

/-- A compiler with those who came to listen, one after the other. -/
def listenedBy (options : Options) (loaders : Registry) (regs : List (Registration ε)) : Compiler ε :=
  regs.foldl register { options := options, loaders := loaders }

end Compiler

theorem Hooks.get_tap (hooks : Hooks ε) (place point : Point) (listener : Listener ε) :
    (hooks.tap place listener).get point = hooks.get point ++ if place = point then [listener] else [] := by
  cases place <;> cases point <;> simp [tap, get]

theorem Hooks.get_foldl_tap (name : String) (listeners : List (Point × (Scene → List ε))) (hooks : Hooks ε)
    (point : Point) : (listeners.foldl (fun hooks l => hooks.tap l.1 ⟨name, l.2⟩) hooks).get point =
      hooks.get point ++ (listeners.filter (·.1 = point)).map fun l => ⟨name, l.2⟩ := by
  induction listeners generalizing hooks with
  | nil => simp
  | cons l listeners ih =>
    rw [List.foldl_cons, ih, get_tap, List.append_assoc]
    by_cases hl : l.1 = point <;> simp [hl]

namespace Compiler

theorem get_register (c : Compiler ε) (reg : Registration ε) (point : Point) :
    (c.register reg).hooks.get point = c.hooks.get point ++ reg.listeners point := by
  cases reg with
  | plugin added => exact Hooks.get_foldl_tap added.name added.listeners c.hooks point
  | tap place listener => exact c.hooks.get_tap place point listener

theorem get_foldl_register (regs : List (Registration ε)) (c : Compiler ε) (point : Point) :
    (regs.foldl register c).hooks.get point = c.hooks.get point ++ regs.flatMap (·.listeners point) := by
  induction regs generalizing c with
  | nil => simp
  | cons reg regs ih => rw [List.foldl_cons, ih, get_register, List.flatMap_cons, List.append_assoc]

theorem setup_foldl_register (regs : List (Registration ε)) (c : Compiler ε) :
    (regs.foldl register c).options = c.options ∧ (regs.foldl register c).loaders = c.loaders := by
  induction regs generalizing c with
  | nil => exact ⟨rfl, rfl⟩
  | cons reg regs ih => cases reg <;> exact ih _

theorem setup_listenedBy (options : Options) (loaders : Registry) (regs : List (Registration ε)) :
    (listenedBy options loaders regs).options = options ∧ (listenedBy options loaders regs).loaders = loaders :=
  setup_foldl_register regs _

theorem get_listenedBy (options : Options) (loaders : Registry) (regs : List (Registration ε)) (point : Point) :
    (listenedBy options loaders regs).hooks.get point = regs.flatMap (·.listeners point) := by
  rw [listenedBy, get_foldl_register]
  cases point <;> rfl

end Compiler

/-! ## Deeds -/

/-- What a run does to the place for its scripts. -/
inductive Deed where
  | folder (path : Path)
  | file (path : Path) (text : String)

def Deed.event : Deed → RunEvent ε
  | folder path => .made path
  | file path text => .wrote path text

namespace Sink

variable (sink : Sink σ)

def perform (s : σ) : Deed → σ × Except Error Unit
  | .folder path => sink.makeFolder s path
  | .file path text => sink.write s path text

/-- How things are after deeds, whatever came of them. -/
def after (s : σ) (deeds : List Deed) : σ := deeds.foldl (fun s deed => (sink.perform s deed).1) s

/-- No deed fails. -/
def Succeeds (s : σ) (deeds : List Deed) : Prop :=
  ∀ before deed rest, deeds = before ++ deed :: rest → (sink.perform (sink.after s before) deed).2 = .ok ()

/-- What is to be done for scripts: the folder is made unless it is there, and each script is written
into its file in the folder. -/
def deeds (s : σ) (folder : Path) (assets : List (String × String)) : List Deed :=
  (if sink.has s folder then [] else [.folder folder]) ++ assets.map fun a => .file (folder.join ⟨a.1⟩) a.2

/-- Deeds are done one after the other, up to the first that fails. -/
inductive Carries (sink : Sink σ) : σ → List Deed → List Deed → Except Error Unit → σ → Prop
  | none (s : σ) : Carries sink s [] [] (.ok ()) s
  | fail {s s' : σ} {deed : Deed} {e : Error} (rest : List Deed) (h : sink.perform s deed = (s', .error e)) :
      Carries sink s (deed :: rest) [deed] (.error e) s'
  | next {s s' s'' : σ} {deed : Deed} {rest performed : List Deed} {result : Except Error Unit}
      (h : sink.perform s deed = (s', .ok ())) (hrest : Carries sink s' rest performed result s'') :
      Carries sink s (deed :: rest) (deed :: performed) result s''

variable {sink} {s : σ}

theorem succeeds_cons {deed : Deed} {rest : List Deed} :
    sink.Succeeds s (deed :: rest) ↔
      (sink.perform s deed).2 = .ok () ∧ sink.Succeeds (sink.perform s deed).1 rest := by
  constructor
  · refine fun h => ⟨h [] deed rest rfl, fun before d after heq => ?_⟩
    exact h (deed :: before) d after (by rw [heq]; rfl)
  · rintro ⟨hfirst, hrest⟩ before d after heq
    cases before with
    | nil =>
      obtain ⟨rfl, -⟩ := List.cons.inj heq
      exact hfirst
    | cons first before =>
      obtain ⟨rfl, htail⟩ := List.cons.inj heq
      exact hrest before d after htail

theorem Succeeds.carries {deeds : List Deed} (h : sink.Succeeds s deeds) :
    sink.Carries s deeds deeds (.ok ()) (sink.after s deeds) := by
  induction deeds generalizing s with
  | nil => exact .none s
  | cons deed rest ih =>
    obtain ⟨hfirst, hrest⟩ := succeeds_cons.1 h
    exact .next (Prod.ext rfl hfirst) (ih hrest)

theorem Succeeds.carries_error {before : List Deed} (h : sink.Succeeds s before) {deed : Deed} {e : Error}
    (hfail : (sink.perform (sink.after s before) deed).2 = .error e) (rest : List Deed) :
    sink.Carries s (before ++ deed :: rest) (before ++ [deed]) (.error e) (sink.after s (before ++ [deed])) := by
  induction before generalizing s with
  | nil => exact .fail rest (Prod.ext rfl hfail)
  | cons first before ih =>
    obtain ⟨hfirst, hrest⟩ := succeeds_cons.1 h
    exact .next (Prod.ext rfl hfirst) (ih hrest hfail)

theorem succeeds_or (sink : Sink σ) (s : σ) (deeds : List Deed) :
    sink.Succeeds s deeds ∨ ∃ before deed rest e, deeds = before ++ deed :: rest ∧ sink.Succeeds s before ∧
      (sink.perform (sink.after s before) deed).2 = .error e := by
  induction deeds generalizing s with
  | nil => exact .inl fun before deed rest heq => by simp at heq
  | cons first rest ih =>
    cases hfirst : (sink.perform s first).2 with
    | error e => exact .inr ⟨[], first, rest, e, rfl, fun before deed rest heq => by simp at heq, hfirst⟩
    | ok u =>
      rcases ih (sink.perform s first).1 with h | ⟨before, deed, rest, e, rfl, hbefore, hfail⟩
      · exact .inl (succeeds_cons.2 ⟨hfirst, h⟩)
      · exact .inr ⟨first :: before, deed, rest, e, rfl, succeeds_cons.2 ⟨hfirst, hbefore⟩, hfail⟩

end Sink

/-! ## What is seen of an action -/

/-- What others see of a run: what listeners say, and what is done to the place for the scripts. -/
def RunEvent.seen : RunEvent ε → Bool
  | heard _ | made _ | wrote _ _ => true
  | step _ | began _ _ | looked _ | emitted _ _ | ended _ _ _ => false

/-- What is seen of an action, what comes of it, and how it leaves things. -/
structure Action.Does (p : Action σ (RunEvent ε) α) (s : σ) (shown : List (RunEvent ε)) (result : Except Error α)
    (s' : σ) : Prop where
  shown_eq : (p s).1.events.filter RunEvent.seen = shown
  result_eq : (p s).1.result = result
  state_eq : (p s).2 = s'

namespace Action

variable {p : Action σ (RunEvent ε) α} {f : α → Action σ (RunEvent ε) β} {s s' s'' : σ}
  {shown shown' : List (RunEvent ε)} {a : α} {e : Error} {result : Except Error β}

theorem Does.bind (hp : p.Does s shown (.ok a) s') (hf : (f a).Does s' shown' result s'') :
    (p >>= f).Does s (shown ++ shown') result s'' := by
  obtain ⟨rfl, hok, rfl⟩ := hp
  obtain ⟨rfl, rfl, rfl⟩ := hf
  have heq : (p >>= f) s =
      (⟨(p s).1.events ++ (f a (p s).2).1.events, (f a (p s).2).1.result⟩, (f a (p s).2).2) := by
    show p.andThen f s = _
    simp only [andThen, hok]
  exact ⟨by rw [heq, List.filter_append], by rw [heq], by rw [heq]⟩

theorem Does.bind_error (hp : p.Does s shown (.error e) s') : (p >>= f).Does s shown (.error e) s' := by
  obtain ⟨rfl, herr, rfl⟩ := hp
  have heq : (p >>= f) s = (⟨(p s).1.events, .error e⟩, (p s).2) := by
    show p.andThen f s = _
    simp only [andThen, herr]
  exact ⟨by rw [heq], by rw [heq], by rw [heq]⟩

theorem does_pure (a : α) (s : σ) : (pure a : Action σ (RunEvent ε) α).Does s [] (.ok a) s := ⟨rfl, rfl, rfl⟩

theorem does_tell (events : List (RunEvent ε)) (s : σ) :
    (tell events : Action σ (RunEvent ε) Unit).Does s (events.filter RunEvent.seen) (.ok ()) s := ⟨rfl, rfl, rfl⟩

theorem Does.after_tell {g : Unit → Action σ (RunEvent ε) β} (hg : (g ()).Does s shown result s')
    {events : List (RunEvent ε)} (hevents : events.filter RunEvent.seen = []) :
    (tell events >>= g).Does s shown result s' := by
  have htell := does_tell events s
  rw [hevents] at htell
  exact htell.bind hg

theorem does_steps (t : Trace Event α) (s : σ) :
    (ofTrace (t.map .step) : Action σ (RunEvent ε) α).Does s [] t.result s := by
  refine ⟨?_, rfl, rfl⟩
  show (t.events.map RunEvent.step).filter RunEvent.seen = []
  rw [List.filter_eq_nil_iff]
  intro event hevent
  obtain ⟨e, -, rfl⟩ := List.mem_map.1 hevent
  simp [RunEvent.seen]

theorem does_change {event : RunEvent ε} (hevent : event.seen) {g : σ → σ × Except Error α} {result : Except Error α}
    (h : g s = (s', result)) : (change event g).Does s [event] result s' := by
  have heq : change event g s = (⟨[event], result⟩, s') := by
    simp only [change, h]
  exact ⟨by simp [heq, hevent], by rw [heq], by rw [heq]⟩

end Action

namespace Compiler

variable {sink : Sink σ} {s s' : σ}

theorem does_timed {p : Action σ (RunEvent ε) α} {shown : List (RunEvent ε)} {result : Except Error α}
    (h : p.Does s shown result s') (work : String) : (timed work p).Does s shown result s' := by
  obtain ⟨rfl, rfl, rfl⟩ := h
  exact ⟨by simp [Compiler.timed, RunEvent.seen], rfl, rfl⟩

theorem does_writeAll {folder : Path} {assets : List (String × String)} {performed : List Deed}
    {result : Except Error Unit}
    (h : sink.Carries s (assets.map fun a => .file (folder.join ⟨a.1⟩) a.2) performed result s') :
    (writeAll sink folder assets : Action σ (RunEvent ε) Unit).Does s (performed.map Deed.event) result s' := by
  induction assets generalizing s performed with
  | nil =>
    cases h
    exact Action.does_pure () _
  | cons a assets ih =>
    obtain ⟨file, script⟩ := a
    cases h with
    | fail _ hdeed => exact (Action.does_change rfl hdeed).bind_error
    | next hdeed hrest => exact (Action.does_change rfl hdeed).bind ((ih hrest).after_tell rfl)

theorem does_prepare_of_has {folder : Path} (h : sink.has s folder) :
    (prepare sink folder : Action σ (RunEvent ε) Unit).Does s [] (.ok ()) s := by
  have heq : (prepare sink folder : Action σ (RunEvent ε) Unit) s = (⟨[.looked folder], .ok ()⟩, s) := by
    simp [prepare, h, Action.andThen, Action.tell, Action.ofTrace, Trace.tell, Action.ret, Trace.ret]
  exact ⟨by simp [heq, RunEvent.seen], by rw [heq], by rw [heq]⟩

theorem does_prepare_of_not_has {folder : Path} (h : ¬ sink.has s folder) {result : Except Error Unit}
    (hmake : sink.makeFolder s folder = (s', result)) :
    (prepare sink folder : Action σ (RunEvent ε) Unit).Does s [.made folder] result s' := by
  have heq : (prepare sink folder : Action σ (RunEvent ε) Unit) s =
      (⟨[.looked folder, .made folder], result⟩, s') := by
    simp [prepare, h, Action.andThen, Action.tell, Action.ofTrace, Trace.tell, Action.change, hmake]
  exact ⟨by simp [heq, RunEvent.seen], by rw [heq], by rw [heq]⟩

/-- The folder and the scripts are dealt with as one row of deeds. -/
theorem does_deeds {folder : Path} {assets : List (String × String)} {performed : List Deed}
    {result : Except Error Unit} (h : sink.Carries s (sink.deeds s folder assets) performed result s') :
    (∃ e, result = .error e ∧
      (prepare sink folder : Action σ (RunEvent ε) Unit).Does s (performed.map Deed.event) (.error e) s') ∨
    ∃ shown later s₁, performed.map Deed.event = shown ++ later ∧
      (prepare sink folder : Action σ (RunEvent ε) Unit).Does s shown (.ok ()) s₁ ∧
      (writeAll sink folder assets : Action σ (RunEvent ε) Unit).Does s₁ later result s' := by
  unfold Sink.deeds at h
  by_cases hhas : sink.has s folder
  · rw [if_pos hhas] at h
    exact .inr ⟨[], _, s, rfl, does_prepare_of_has hhas, does_writeAll h⟩
  · rw [if_neg hhas] at h
    cases h with
    | fail _ hmake => exact .inl ⟨_, rfl, does_prepare_of_not_has hhas hmake⟩
    | next hmake hrest =>
      exact .inr ⟨[.made folder], _, _, rfl, does_prepare_of_not_has hhas hmake, does_writeAll hrest⟩

/-! ## Runs -/

/-- What the listeners of a point say. -/
def words (c : Compiler ε) (current : Path) (point : Point) (compilation : Option Compilation) : List (RunEvent ε) :=
  ((c.hooks.get point).call ⟨c.options, c.options.root current, compilation⟩).map .heard

theorem does_call (c : Compiler ε) (current : Path) (point : Point) (compilation : Option Compilation) (s : σ) :
    (c.call current point compilation).Does s (c.words current point compilation) (.ok ()) s := by
  refine ⟨List.filter_eq_self.2 fun event hevent => ?_, rfl, rfl⟩
  obtain ⟨word, -, rfl⟩ := List.mem_map.1 hevent
  rfl

section Run

variable {c : Compiler ε} {files : Files} {current : Path} {compilation : Compilation} {e : Error}

theorem does_compile {result : Except Error Compilation}
    (h : (Compilation.compile c.options c.loaders files current).result = result) (s : σ) :
    (Action.ofTrace ((Compilation.compile c.options c.loaders files current).map .step) :
      Action σ (RunEvent ε) Compilation).Does s [] result s :=
  h ▸ Action.does_steps _ s

theorem does_run_of_error (h : (Compilation.compile c.options c.loaders files current).result = .error e) (s : σ) :
    (c.run files current sink).Does s (c.words current .run none) (.error e) s := by
  refine does_timed (Action.Does.after_tell ?_ rfl) "Build"
  rw [← List.append_nil (c.words current .run none)]
  exact (does_call c current .run none s).bind (does_compile h s).bind_error

theorem does_run_of_deeds
    (h : (Compilation.compile c.options c.loaders files current).result = .ok compilation) {shown : List (RunEvent ε)}
    {result : Except Error Compilation} (hrest : Action.Does (do
        prepare sink (c.options.outputFolder current)
        writeAll sink (c.options.outputFolder current) compilation.assets
        c.call current .done (some compilation)
        .tell [.ended compilation.modules.length compilation.chunks.length (c.options.outputFolder current)]
        return compilation) s shown result s') :
    (c.run files current sink).Does s
      (c.words current .run none ++ c.words current .emit (some compilation) ++ shown) result s' := by
  refine does_timed (Action.Does.after_tell ?_ rfl) "Build"
  rw [List.append_assoc, ← List.nil_append (c.words current .emit (some compilation) ++ shown)]
  exact (does_call c current .run none s).bind
    ((does_compile h s).bind ((does_call c current .emit (some compilation) s).bind hrest))

theorem does_run (h : (Compilation.compile c.options c.loaders files current).result = .ok compilation)
    {performed : List Deed} (hdeeds : sink.Carries s
      (sink.deeds s (c.options.outputFolder current) compilation.assets) performed (.ok ()) s') :
    (c.run files current sink).Does s (c.words current .run none ++ c.words current .emit (some compilation) ++
      (performed.map Deed.event ++ c.words current .done (some compilation))) (.ok compilation) s' := by
  refine does_run_of_deeds h ?_
  rcases does_deeds hdeeds with ⟨e, herr, -⟩ | ⟨shown, later, s₁, hshown, hfolder, hfiles⟩
  · cases herr
  · rw [hshown, List.append_assoc, ← List.append_nil (c.words current .done (some compilation))]
    exact hfolder.bind (hfiles.bind ((does_call c current .done (some compilation) s').bind
      ((Action.does_pure compilation s').after_tell rfl)))

theorem does_run_of_deed_error
    (h : (Compilation.compile c.options c.loaders files current).result = .ok compilation)
    {performed : List Deed} (hdeeds : sink.Carries s
      (sink.deeds s (c.options.outputFolder current) compilation.assets) performed (.error e) s') :
    (c.run files current sink).Does s (c.words current .run none ++ c.words current .emit (some compilation) ++
      performed.map Deed.event) (.error e) s' := by
  refine does_run_of_deeds h ?_
  rcases does_deeds hdeeds with ⟨_, herr, hfolder⟩ | ⟨shown, later, s₁, hshown, hfolder, hfiles⟩
  · cases herr
    exact hfolder.bind_error
  · rw [hshown]
    exact hfolder.bind hfiles.bind_error

end Run

/-- What those who came to listen say at a point, one after the other. -/
def said (regs : List (Registration ε)) (point : Point) (scene : Scene) : List (RunEvent ε) :=
  (regs.flatMap (·.listeners point)).flatMap fun l => (l.respond scene).map .heard

theorem words_listenedBy (options : Options) (loaders : Registry) (regs : List (Registration ε)) (current : Path)
    (point : Point) (compilation : Option Compilation) :
    (listenedBy options loaders regs).words current point compilation =
      said regs point ⟨options, options.root current, compilation⟩ := by
  rw [words, (setup_listenedBy options loaders regs).1, get_listenedBy, Hook.call, List.map_flatMap, said]

section Listened

variable {options : Options} {loaders : Registry} {regs : List (Registration ε)} {files : Files} {current : Path}
  {c : Compilation} {e : Error}

theorem listened_of_error (h : (Compilation.compile options loaders files current).result = .error e) (s : σ) :
    ((listenedBy options loaders regs).run files current sink).Does s
      (said regs .run ⟨options, options.root current, none⟩) (.error e) s := by
  obtain ⟨hoptions, hloaders⟩ := setup_listenedBy options loaders regs
  rw [← words_listenedBy options loaders]
  exact does_run_of_error (by rw [hoptions, hloaders]; exact h) s

theorem listened_of_succeeds (h : (Compilation.compile options loaders files current).result = .ok c)
    (hdeeds : sink.Succeeds s (sink.deeds s (options.outputFolder current) c.assets)) :
    ((listenedBy options loaders regs).run files current sink).Does s
      (said regs .run ⟨options, options.root current, none⟩ ++
        said regs .emit ⟨options, options.root current, some c⟩ ++
        ((sink.deeds s (options.outputFolder current) c.assets).map Deed.event ++
          said regs .done ⟨options, options.root current, some c⟩))
      (.ok c) (sink.after s (sink.deeds s (options.outputFolder current) c.assets)) := by
  obtain ⟨hoptions, hloaders⟩ := setup_listenedBy options loaders regs
  simp only [← words_listenedBy options loaders]
  exact does_run (by rw [hoptions, hloaders]; exact h) (by rw [hoptions]; exact hdeeds.carries)

theorem listened_of_fails (h : (Compilation.compile options loaders files current).result = .ok c)
    {before rest : List Deed} {deed : Deed}
    (hdeeds : sink.deeds s (options.outputFolder current) c.assets = before ++ deed :: rest)
    (hbefore : sink.Succeeds s before) (hdeed : (sink.perform (sink.after s before) deed).2 = .error e) :
    ((listenedBy options loaders regs).run files current sink).Does s
      (said regs .run ⟨options, options.root current, none⟩ ++
        said regs .emit ⟨options, options.root current, some c⟩ ++ (before ++ [deed]).map Deed.event)
      (.error e) (sink.after s (before ++ [deed])) := by
  obtain ⟨hoptions, hloaders⟩ := setup_listenedBy options loaders regs
  have hcarries := hbefore.carries_error hdeed rest
  rw [← hdeeds] at hcarries
  simp only [← words_listenedBy options loaders]
  exact does_run_of_deed_error (by rw [hoptions, hloaders]; exact h) (by rw [hoptions]; exact hcarries)

end Listened

end Compiler

/-! ## Scripts in the order of the entries -/

theorem Graph.map_fst_buildEntries {p : Project} {files : Files} {g : Graph} {entries : List (String × Path)}
    {ids : List (String × String)} (h : (buildEntries p files g entries).result = .ok ids) :
    ids.map (·.1) = entries.map (·.1) := by
  induction entries generalizing g ids with
  | nil =>
    cases h
    rfl
  | cons first rest ih =>
    obtain ⟨name, path⟩ := first
    rw [buildEntries] at h
    cases hfirst : (build p files g name path).result with
    | error e => simp [hfirst] at h
    | ok m =>
      cases hrest : (buildEntries p files (build p files g name path).graph rest).result with
      | error e => simp [hfirst, hrest, Functor.map, Except.map] at h
      | ok later =>
        obtain rfl : (name, m.id) :: later = ids := by simpa [hfirst, hrest, Functor.map, Except.map] using h
        simp [ih hrest]

theorem Compilation.map_fst_assets {options : Options} {loaders : Registry} {files : Files} {current : Path}
    {c : Compilation} (h : (compile options loaders files current).result = .ok c) :
    c.assets.map (·.1) = options.entry.pairs.map fun e => options.output.filenameFor e.1 := by
  obtain ⟨p, hparts⟩ := compile_ok h
  have hnames : c.chunks.map (·.name) = options.entry.pairs.map (·.1) := by
    rw [map_name_chunks (hparts.modules ▸ Graph.keyed_table _) hparts.chunks, Graph.map_fst_buildEntries hparts.built,
      Options.entries_eq, List.map_map]
    rfl
  calc c.assets.map (·.1) = (c.chunks.map (·.name)).map options.output.filenameFor := by
        rw [hparts.assets, List.map_map, List.map_map]
        rfl
    _ = options.entry.pairs.map fun e => options.output.filenameFor e.1 := by
        rw [hnames, List.map_map]
        rfl

namespace Compiler

/-- A run hears its listeners and does its deeds in one fixed order, up to the first deed that fails. -/
theorem run_course (options : Options) (loaders : Registry) (regs : List (Registration ε)) (files : Files)
    (current : Path) (sink : Sink σ) (s : σ) :
    let run := (listenedBy options loaders regs).run files current sink s
    let shown := run.1.events.filter RunEvent.seen
    let compiled := (Compilation.compile options loaders files current).result
    let heard (point : Point) (c : Option Compilation) := said regs point ⟨options, options.root current, c⟩
    let deeds (c : Compilation) := sink.deeds s (options.outputFolder current) c.assets
    (∀ c, run.1.result = .ok c ↔ compiled = .ok c ∧ sink.Succeeds s (deeds c)) ∧
    (∀ e, compiled = .error e → run.1.result = .error e ∧ shown = heard .run none ∧ run.2 = s) ∧
    ∀ c, compiled = .ok c →
      (c.assets.map (·.1) = options.entry.pairs.map fun e => options.output.filenameFor e.1) ∧
      (∀ asset ∈ c.assets, c.asset? asset.1 = some asset.2) ∧
      shown <+: heard .run none ++ heard .emit (some c) ++ ((deeds c).map Deed.event ++ heard .done (some c)) ∧
      (sink.Succeeds s (deeds c) → run.2 = sink.after s (deeds c) ∧
        shown = heard .run none ++ heard .emit (some c) ++ ((deeds c).map Deed.event ++ heard .done (some c))) ∧
      ∀ before deed rest e, deeds c = before ++ deed :: rest → sink.Succeeds s before →
        (sink.perform (sink.after s before) deed).2 = .error e →
        run.1.result = .error e ∧ run.2 = sink.after s (before ++ [deed]) ∧
        shown = heard .run none ++ heard .emit (some c) ++ (before ++ [deed]).map Deed.event := by
  intro run shown compiled heard deeds
  refine ⟨fun c => ⟨fun hresult => ?_, fun ⟨hcompiled, hsucceeds⟩ => (listened_of_succeeds hcompiled hsucceeds).result_eq⟩,
    fun e hcompiled => ?_, fun c hcompiled => ⟨Compilation.map_fst_assets hcompiled, fun asset hasset => ?_, ?_,
    fun hsucceeds => ?_, fun before deed rest e hdeeds hbefore hdeed => ?_⟩⟩
  · cases hcompiled : compiled with
    | error e => cases hresult.symm.trans (listened_of_error hcompiled s).result_eq
    | ok c' =>
      rcases sink.succeeds_or s (deeds c') with hsucceeds | ⟨before, deed, rest, e, hdeeds, hbefore, hdeed⟩
      · obtain rfl : c = c' := Except.ok.inj (hresult.symm.trans (listened_of_succeeds hcompiled hsucceeds).result_eq)
        exact ⟨rfl, hsucceeds⟩
      · cases hresult.symm.trans (listened_of_fails hcompiled hdeeds hbefore hdeed).result_eq
  · obtain ⟨hshown, hresult, hstate⟩ := listened_of_error hcompiled s
    exact ⟨hresult, hshown, hstate⟩
  · obtain ⟨p, hparts⟩ := Compilation.compile_ok hcompiled
    exact lookup_of_mem hparts.files hasset
  · rcases sink.succeeds_or s (deeds c) with hsucceeds | ⟨before, deed, rest, e, hdeeds, hbefore, hdeed⟩
    · exact (listened_of_succeeds hcompiled hsucceeds).shown_eq ▸ List.prefix_refl _
    · have hshown : shown = heard .run none ++ heard .emit (some c) ++ (before ++ [deed]).map Deed.event :=
        (listened_of_fails hcompiled hdeeds hbefore hdeed).shown_eq
      rw [hshown, hdeeds]
      exact ⟨rest.map Deed.event ++ heard .done (some c), by simp⟩
  · obtain ⟨hshown, -, hstate⟩ := listened_of_succeeds hcompiled hsucceeds
    exact ⟨hstate, hshown⟩
  · obtain ⟨hshown, hresult, hstate⟩ := listened_of_fails hcompiled hdeeds hbefore hdeed
    exact ⟨hresult, hstate, hshown⟩

end Compiler
end Bundler
