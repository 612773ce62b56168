import Bundler.Loader
import Bundler.Proofs.Trace

/-!
# Rules in a row

The rules of two lists, one list after the other, do what the first rules do and then what the second ones do.
The first rule that is at fault is reported, and so is the first loader that fails: nothing runs after it.
-/

namespace Bundler

/-! ## Rules at fault -/

theorem Registry.find?_eq_none_iff {registry : Registry} {name : String} :
    registry.find? name = none ↔ name ∉ registry.names := by
  simp [find?, names, List.find?_eq_none]

/-- What is wrong with a rule: its test, or else the first of its loaders that nobody registered. -/
inductive Rule.Fault (registry : Registry) (rule : Rule) : Error → Prop
  | test (problem : String) (unread : Regex.parse rule.test = .error problem) :
      Fault registry rule (.config ("Invalid rule test '" ++ rule.test ++ "': " ++ problem))
  | loader (test : Regex) (before : List String) (name : String) (after : List String)
      (read : Regex.parse rule.test = .ok test) (split : rule.loaders = before ++ name :: after)
      (found : ∀ other ∈ before, other ∈ registry.names) (missing : name ∉ registry.names) :
      Fault registry rule (.config ("Unknown loader '" ++ name ++ "' (registered: " ++
        ", ".intercalate registry.names ++ ")"))

theorem Rule.Fault.exists_config {registry : Registry} {rule : Rule} {e : Error} (h : rule.Fault registry e) :
    ∃ message, e = .config message := by
  cases h <;> exact ⟨_, rfl⟩

/-- The test of a rule matches a path. -/
def Rule.covers (rule : Rule) (path : Path) : Bool :=
  match Regex.parse rule.test with
  | .ok test => test.isMatch path.unix
  | .error _ => false

namespace Pipeline

variable {registry : Registry}

theorem findLoader_of_not_mem {name : String} (h : name ∉ registry.names) :
    findLoader registry name = .error (.config ("Unknown loader '" ++ name ++ "' (registered: " ++
      ", ".intercalate registry.names ++ ")")) := by
  rw [findLoader, Registry.find?_eq_none_iff.2 h]
  rfl

theorem findLoader_eq_ok_iff {name : String} {loader : Loader} :
    findLoader registry name = .ok loader ↔ registry.find? name = some loader := by
  unfold findLoader
  cases registry.find? name <;> simp

theorem exists_findLoader_iff {name : String} :
    (∃ loader, findLoader registry name = .ok loader) ↔ name ∈ registry.names := by
  constructor
  · rintro ⟨loader, h⟩
    by_contra hname
    rw [findLoader_of_not_mem hname] at h
    cases h
  · intro hname
    cases h : registry.find? name with
    | none => exact absurd hname (Registry.find?_eq_none_iff.1 h)
    | some loader => exact ⟨loader, findLoader_eq_ok_iff.2 h⟩

theorem passOf_of_ok {rule : Rule} {test : Regex} (h : Regex.parse rule.test = .ok test) :
    passOf registry rule = rule.loaders.mapM (findLoader registry) >>= fun loaders => pure ⟨test, loaders⟩ := by
  unfold passOf
  rw [h]

theorem passOf_of_error {rule : Rule} {problem : String} (h : Regex.parse rule.test = .error problem) :
    passOf registry rule = .error (.config ("Invalid rule test '" ++ rule.test ++ "': " ++ problem)) := by
  unfold passOf
  rw [h]
  rfl

theorem passOf_eq_error_iff {rule : Rule} {e : Error} :
    passOf registry rule = .error e ↔ rule.Fault registry e := by
  constructor
  · intro h
    cases hparse : Regex.parse rule.test with
    | error problem =>
      rw [passOf_of_error hparse] at h
      cases h
      exact .test problem hparse
    | ok test =>
      rw [passOf_of_ok hparse, bind_eq_error, mapM_eq_error_iff] at h
      obtain ⟨before, name, after, hsplit, hbefore, hname⟩ | ⟨loaders, -, h⟩ := h
      · have hmissing : name ∉ registry.names := by
          rw [← exists_findLoader_iff, hname]
          rintro ⟨loader, h⟩
          cases h
        rw [findLoader_of_not_mem hmissing] at hname
        cases hname
        exact .loader test before name after hparse hsplit
          (fun other hother => exists_findLoader_iff.1 (hbefore other hother)) hmissing
      · cases h
  · rintro (⟨problem, hparse⟩ | ⟨test, before, name, after, hparse, hsplit, hbefore, hname⟩)
    · exact passOf_of_error hparse
    · rw [passOf_of_ok hparse, bind_eq_error, mapM_eq_error_iff]
      exact .inl ⟨before, name, after, hsplit, fun other hother => exists_findLoader_iff.2 (hbefore other hother),
        findLoader_of_not_mem hname⟩

theorem exists_passOf_iff {rule : Rule} :
    (∃ pass, passOf registry rule = .ok pass) ↔ ∀ e, ¬ rule.Fault registry e := by
  simp only [← passOf_eq_error_iff]
  cases passOf registry rule <;> simp

/-! ## Lists of rules -/

theorem ofRules_eq_ok_iff {rules : List Rule} {c : Pipeline} :
    ofRules registry rules = .ok c ↔ rules.Forall₂ (fun rule pass => passOf registry rule = .ok pass) c.passes := by
  rw [← mapM_eq_ok_iff, ofRules]
  cases rules.mapM (passOf registry) with
  | error e => simp [Functor.map, Except.map]
  | ok passes =>
    cases c
    simp [Functor.map, Except.map]

theorem ofRules_eq_error_iff {rules : List Rule} {e : Error} :
    ofRules registry rules = .error e ↔ ∃ before rule after, rules = before ++ rule :: after ∧
      (∀ good ∈ before, ∀ other, ¬ good.Fault registry other) ∧ rule.Fault registry e := by
  simp only [← exists_passOf_iff]
  simp only [← passOf_eq_error_iff]
  rw [← mapM_eq_error_iff, ofRules]
  cases rules.mapM (passOf registry) <;> simp [Functor.map, Except.map]

theorem exists_ofRules_iff {rules : List Rule} :
    (∃ c, ofRules registry rules = .ok c) ↔ ∀ rule ∈ rules, ∀ e, ¬ rule.Fault registry e := by
  cases h : ofRules registry rules with
  | ok c =>
    refine iff_of_true ⟨c, rfl⟩ fun rule hrule => exists_passOf_iff.1 ?_
    obtain ⟨pass, -, hpass⟩ := exists_left_of_forall₂ (ofRules_eq_ok_iff.1 h).flip hrule
    exact ⟨pass, hpass⟩
  | error e =>
    obtain ⟨before, rule, after, rfl, -, hfault⟩ := ofRules_eq_error_iff.1 h
    refine iff_of_false (fun ⟨c, hc⟩ => by cases hc) fun hnone => ?_
    exact hnone rule (by simp) e hfault

theorem filterMap_find? {names : List String} {loaders : List Loader}
    (h : names.mapM (findLoader registry) = .ok loaders) : loaders = names.filterMap registry.find? := by
  rw [mapM_eq_ok_iff] at h
  induction h with
  | nil => rfl
  | cons hname _ ih => rw [List.filterMap_cons, findLoader_eq_ok_iff.1 hname, ← ih]

theorem passOf_ok {rule : Rule} {pass : Pass} (h : passOf registry rule = .ok pass) :
    Regex.parse rule.test = .ok pass.test ∧ pass.loaders = rule.loaders.filterMap registry.find? := by
  cases hparse : Regex.parse rule.test with
  | error problem =>
    rw [passOf_of_error hparse] at h
    cases h
  | ok test =>
    rw [passOf_of_ok hparse] at h
    obtain ⟨loaders, hloaders, h⟩ := bind_eq_ok.1 h
    cases h
    exact ⟨rfl, filterMap_find? hloaders⟩

theorem loadersFor_of_ofRules {rules : List Rule} {c : Pipeline} (h : ofRules registry rules = .ok c) (path : Path) :
    c.loadersFor path = (rules.filter (·.covers path)).flatMap fun rule => rule.loaders.filterMap registry.find? := by
  obtain ⟨passes⟩ := c
  have hpasses : rules.Forall₂ (fun rule pass => passOf registry rule = .ok pass) passes := ofRules_eq_ok_iff.1 h
  unfold loadersFor
  simp only
  clear h
  induction hpasses with
  | nil => rfl
  | @cons rule pass rules passes hpass _ ih =>
    obtain ⟨hparse, hloaders⟩ := passOf_ok hpass
    have hcovers : rule.covers path = pass.test.isMatch path.unix := by rw [Rule.covers, hparse]
    cases hmatch : pass.test.isMatch path.unix <;> simp [hcovers, hmatch, ih, hloaders]

/-! ## Loaders in a row -/

/-- Loaders take a text to another one, each from where the one before it leaves it. -/
inductive Threads (path : Path) : List Loader → String → String → Prop
  | done (text : String) : Threads path [] text text
  | next {loader : Loader} {rest : List Loader} {text made last : String}
      (works : loader.transform text path = .ok made) (more : Threads path rest made last) :
      Threads path (loader :: rest) text last

/-- A loader at work, with a note of it. -/
def attempt (path : Path) (text : String) (loader : Loader) : Trace Loader String := do
  .tell [loader]
  .ofExcept (loader.load path text)

/-- What becomes of the text of a file, with a note of each loader that runs. -/
def trace (pipeline : Pipeline) (path : Path) (source : String) : Trace Loader String :=
  (pipeline.loadersFor path).foldlM (attempt path) source

theorem result_trace (pipeline : Pipeline) (path : Path) (source : String) :
    (pipeline.trace path source).result = pipeline.apply path source := by
  rw [trace, Trace.result_foldlM]
  rfl

theorem attempt_of_ok {path : Path} {text made : String} {loader : Loader}
    (h : loader.transform text path = .ok made) : attempt path text loader = ⟨[loader], .ok made⟩ := by
  simp [attempt, Loader.load, h, bind, Trace.andThen, Trace.tell, Trace.ofExcept]

theorem attempt_of_error {path : Path} {text : String} {causes : List String} {loader : Loader}
    (h : loader.transform text path = .error causes) :
    attempt path text loader = ⟨[loader], .error (.transform loader.name path causes)⟩ := by
  simp [attempt, Loader.load, h, bind, Trace.andThen, Trace.tell, Trace.ofExcept]

theorem attempts_of_threads {path : Path} {loaders : List Loader} {source text : String}
    (h : Threads path loaders source text) :
    loaders.foldlM (attempt path) source = ⟨loaders, .ok text⟩ := by
  induction h with
  | done text => rfl
  | next works _ ih =>
    rw [List.foldlM_cons, attempt_of_ok works, Trace.ok_bind, ih]
    rfl

/-- A loader fails behind others that work; these and it are the ones that run. -/
inductive Fails (path : Path) : List Loader → String → List Loader → Error → Prop
  | intro {before after : List Loader} {loader : Loader} {source text : String} {causes : List String}
      (works : Threads path before source text) (fails : loader.transform text path = .error causes) :
      Fails path (before ++ loader :: after) source (before ++ [loader]) (.transform loader.name path causes)

theorem Fails.exists_transform {path : Path} {loaders ran : List Loader} {source : String} {e : Error}
    (h : Fails path loaders source ran e) : ∃ name causes, e = .transform name path causes := by
  obtain ⟨works, fails⟩ := h
  exact ⟨_, _, rfl⟩

theorem attempts_of_fails {path : Path} {loaders ran : List Loader} {source : String} {e : Error}
    (h : Fails path loaders source ran e) : loaders.foldlM (attempt path) source = ⟨ran, .error e⟩ := by
  obtain ⟨works, fails⟩ := h
  rw [List.foldlM_append, attempts_of_threads works, Trace.ok_bind, List.foldlM_cons, attempt_of_error fails,
    Trace.error_bind]

theorem threads_or_fails (path : Path) (loaders : List Loader) (source : String) :
    (∃ text, Threads path loaders source text) ∨ ∃ ran e, Fails path loaders source ran e := by
  -- For every source: each loader hands another text on to the rest.
  induction loaders generalizing source with
  | nil => exact .inl ⟨source, .done source⟩
  | cons loader rest ih =>
    cases h : loader.transform source path with
    | error causes => exact .inr ⟨_, _, @Fails.intro path [] rest loader source source causes (.done source) h⟩
    | ok made =>
      obtain ⟨text, hrest⟩ | ⟨ran, e, hrest⟩ := ih made
      · exact .inl ⟨text, .next h hrest⟩
      · obtain ⟨works, fails⟩ := hrest
        exact .inr ⟨_, _, .intro (.next h works) fails⟩

theorem apply_eq_ok_iff {c : Pipeline} {path : Path} {source text : String} :
    c.apply path source = .ok text ↔ Threads path (c.loadersFor path) source text := by
  rw [← result_trace, trace]
  constructor
  · intro h
    obtain ⟨made, works⟩ | ⟨ran, e, fails⟩ := threads_or_fails path (c.loadersFor path) source
    · rw [attempts_of_threads works] at h
      cases h
      exact works
    · rw [attempts_of_fails fails] at h
      cases h
  · intro h
    rw [attempts_of_threads h]

theorem apply_eq_error_iff {c : Pipeline} {path : Path} {source : String} {e : Error} :
    c.apply path source = .error e ↔ Fails path (c.loadersFor path) source (c.trace path source).events e := by
  rw [← result_trace, trace]
  constructor
  · intro h
    obtain ⟨made, works⟩ | ⟨ran, e', fails⟩ := threads_or_fails path (c.loadersFor path) source
    · rw [attempts_of_threads works] at h
      cases h
    · rw [attempts_of_fails fails] at h ⊢
      cases h
      exact fails
  · intro h
    rw [attempts_of_fails h]

/-! ## One list of rules after another -/

/-- Rules in a row act as those of the first list and then those of the second, up to the first that fails. -/
theorem ofRules_append (registry : Registry) (r₁ r₂ : List Rule) :
    ((∃ c, ofRules registry (r₁ ++ r₂) = .ok c) ↔
      (∃ a, ofRules registry r₁ = .ok a) ∧ ∃ b, ofRules registry r₂ = .ok b) ∧
    (∀ e, ofRules registry (r₁ ++ r₂) = .error e ↔ ∃ before rule after, r₁ ++ r₂ = before ++ rule :: after ∧
      (∀ good ∈ before, ∀ other, ¬ good.Fault registry other) ∧ rule.Fault registry e) ∧
    ∀ a b c, ofRules registry r₁ = .ok a → ofRules registry r₂ = .ok b → ofRules registry (r₁ ++ r₂) = .ok c →
      ∀ path source,
        c.loadersFor path = a.loadersFor path ++ b.loadersFor path ∧
        c.apply path source = a.apply path source >>= b.apply path ∧
        c.trace path source = a.trace path source >>= b.trace path ∧
        (c.trace path source).result = c.apply path source ∧
        (∀ text, c.apply path source = .ok text ↔ Threads path (c.loadersFor path) source text) ∧
        (∀ e, c.apply path source = .error e ↔
          Fails path (c.loadersFor path) source (c.trace path source).events e) ∧
        ((∀ rule ∈ r₁ ++ r₂, rule.covers path = false) → c.apply path source = .ok source) := by
  refine ⟨?_, fun e => ofRules_eq_error_iff, fun a b c ha hb hc path source => ?_⟩
  · rw [exists_ofRules_iff, exists_ofRules_iff, exists_ofRules_iff, List.forall_mem_append]
  have hloaders : c.loadersFor path = a.loadersFor path ++ b.loadersFor path := by
    rw [loadersFor_of_ofRules ha, loadersFor_of_ofRules hb, loadersFor_of_ofRules hc, List.filter_append,
      List.flatMap_append]
  refine ⟨hloaders, ?_, ?_, result_trace c path source, fun text => apply_eq_ok_iff, fun e => apply_eq_error_iff, ?_⟩
  · rw [apply, hloaders, List.foldlM_append]
    rfl
  · rw [trace, hloaders, List.foldlM_append]
    rfl
  · intro hnone
    have hempty : c.loadersFor path = [] := by
      rw [loadersFor_of_ofRules hc, List.filter_eq_nil_iff.2 (by simpa using hnone), List.flatMap_nil]
    rw [apply_eq_ok_iff, hempty]
    exact .done source

/-- Two loaders that add a letter, and one that fails. -/
def letters : Registry :=
  ⟨[⟨"append-a", fun text _ => .ok (text ++ "a")⟩, ⟨"append-b", fun text _ => .ok (text ++ "b")⟩,
    ⟨"fail", fun _ _ => .error ["loader exploded"]⟩]⟩

/-- A rule for scripts that adds two letters. -/
def adding : List Rule := [{ test := "js", uses := ["append-b", "append-a"] }]

/-- A rule for sources that fails; its list of loaders does not count. -/
def failing : List Rule := [{ test := "src", loader := some "fail", uses := ["append-a"] }]

theorem ofRules_append_letters : ∃ a b c : Pipeline,
    ofRules letters adding = .ok a ∧ ofRules letters failing = .ok b ∧ ofRules letters (adding ++ failing) = .ok c ∧
    a.apply ⟨"/p/src/a.js"⟩ "x" = .ok "xba" ∧
    c.apply ⟨"/p/src/a.js"⟩ "x" = a.apply ⟨"/p/src/a.js"⟩ "x" >>= b.apply ⟨"/p/src/a.js"⟩ ∧
    Fails ⟨"/p/src/a.js"⟩ (c.loadersFor ⟨"/p/src/a.js"⟩) "x" (c.trace ⟨"/p/src/a.js"⟩ "x").events
      (.transform "fail" ⟨"/p/src/a.js"⟩ ["loader exploded"]) := by
  refine ⟨_, _, _, rfl, rfl, rfl, rfl, ?_⟩
  obtain ⟨-, happly, -, -, -, hfails, -⟩ :=
    (ofRules_append letters adding failing).2.2 _ _ _ rfl rfl rfl ⟨"/p/src/a.js"⟩ "x"
  exact ⟨happly, (hfails _).1 rfl⟩

end Pipeline
end Bundler
