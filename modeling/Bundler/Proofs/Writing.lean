import Bundler.Proofs.Files
import Bundler.Proofs.Path.Place
import Bundler.Proofs.Table
import Bundler.Proofs.Trace
import Bundler.Run

/-!
# What writing does to files

Making folders changes no file, and writing changes the file at the place of its path alone. What was
there stays what it is, so that a path that leads somewhere still leads there afterwards.
-/

namespace Bundler

/-! ## Trees -/

namespace Node

/-- What a node is, without what is in its folders. -/
inductive Kind where
  | folder
  | file (bytes : ByteArray)

def Kind.bytes? : Kind → Option ByteArray
  | .folder => none
  | .file bytes => some bytes

def kind : Node → Kind
  | folder _ => .folder
  | file bytes => .file bytes

/-- What stands at the end of a list of names. -/
def look (node : Node) (place : List String) : Option Kind := (node.find? place).map kind

theorem look_folder_cons (children : List (String × Node)) (name : String) (names : List String) :
    (folder children).look (name :: names) = (children.lookup name).bind (·.look names) := by
  simp only [look, find?, bind]
  cases children.lookup name <;> rfl

theorem look_eq_folder {node : Node} {place : List String} :
    node.look place = some .folder ↔ ∃ children, node.find? place = some (.folder children) := by
  unfold look
  cases h : node.find? place with
  | none => simp
  | some found => cases found <;> simp [kind]

theorem look_concat {node : Node} {place : List String} {children : List (String × Node)}
    (h : node.find? place = some (.folder children)) (name : String) :
    node.look (place ++ [name]) = (children.lookup name).map kind := by
  rw [look, find?_append, h]
  simp only [Option.bind_some, find?, bind]
  cases children.lookup name <;> rfl

theorem setChild_eq_upsert (name : String) (node : Node) (children : List (String × Node)) :
    setChild name node children = upsert name node children := by
  induction children with
  | nil => rfl
  | cons row rest ih =>
    rw [setChild, upsert, ih]
    split
    · next hname => rw [hname]
    · rfl

theorem look_put {new node : Node} (hleaf : ∀ name names, new.look (name :: names) = none) {place : List String}
    {children : List (String × Node)} (hfolder : node.find? place = some (.folder children)) {name : String}
    (hfree : node.look (place ++ [name]) ≠ some .folder) (q : List String) :
    (put new (place ++ [name]) node).look q = if q = place ++ [name] then some new.kind else node.look q := by
  rw [look_concat hfolder] at hfree
  induction place generalizing node q with
  | nil =>
    obtain rfl : node = .folder children := by simpa [find?] using hfolder
    simp only [List.nil_append, put, setChild_eq_upsert]
    cases q with
    | nil => rfl
    | cons x xs =>
      rw [look_folder_cons, look_folder_cons, lookup_upsert]
      by_cases hx : x = name
      · subst hx
        cases xs with
        | nil => simp [look, find?]
        | cons y ys =>
          -- Nothing was below a file, and nothing is below what was put there.
          rw [if_pos rfl, if_neg (by simp), Option.bind_some, hleaf]
          cases hold : children.lookup x with
          | none => rfl
          | some old =>
            cases old with
            | folder below => simp [hold, kind] at hfree
            | file bytes => rfl
      · simp [hx]
  | cons first place ih =>
    cases node with
    | file bytes => simp [find?] at hfolder
    | folder above =>
      simp only [find?, bind, Option.bind_eq_some_iff] at hfolder
      obtain ⟨child, hchild, hfolder⟩ := hfolder
      simp only [List.cons_append, put, setChild_eq_upsert, hchild, Option.getD_some]
      cases q with
      | nil => rfl
      | cons x xs =>
        rw [look_folder_cons, look_folder_cons, lookup_upsert]
        by_cases hx : x = first
        · subst hx
          rw [if_pos rfl, hchild, Option.bind_some, Option.bind_some, ih hfolder]
          simp
        · simp [hx]

end Node

/-! ## Files that grow -/

namespace Files

def look (fs : Files) (place : List String) : Option Node.Kind := fs.tree.look place

/-- The bytes of the file at a place. -/
def bytes? (fs : Files) (place : List String) : Option ByteArray := (fs.look place).bind (·.bytes?)

theorem step_eq (fs : Files) (place : List String) (piece : String) :
    fs.step place piece = match fs.look place with
      | some .folder =>
        if piece.isEmpty || piece = "." then .ok place
        else if piece = ".." then .ok place.dropLast
        else if maxName < Text.size piece.toList then .error .nameTooLong
        else if (fs.look (place ++ [piece])).isSome then .ok (place ++ [piece])
        else .error .missing
      | some (.file _) => .error .notFolder
      | none => .error .missing := by
  unfold step look
  cases h : fs.tree.find? place with
  | none => simp [Node.look, h]
  | some node =>
    cases node with
    | file bytes => simp [Node.look, h, Node.kind]
    | folder children =>
      rw [Node.look_concat h, Option.isSome_map]
      simp [Node.look, h, Node.kind]

theorem steps_append (fs : Files) (place before rest : List String) :
    fs.steps place (before ++ rest) = fs.steps place before >>= fun mid => fs.steps mid rest := by
  induction before generalizing place with
  | nil => rfl
  | cons piece before ih =>
    simp only [List.cons_append, steps, bind_assoc, ih]

/-- Folders are still folders and files are still files. -/
structure Grows (fs fs' : Files) : Prop where
  current : fs'.current = fs.current
  folder : ∀ q, fs.look q = some .folder → fs'.look q = some .folder
  file : ∀ q bytes, fs.look q = some (.file bytes) → ∃ bytes', fs'.look q = some (.file bytes')

namespace Grows

variable {fs fs' fs'' : Files}

theorem refl (fs : Files) : Grows fs fs := ⟨rfl, fun _ h => h, fun _ bytes h => ⟨bytes, h⟩⟩

theorem trans (h : Grows fs fs') (h' : Grows fs' fs'') : Grows fs fs'' := by
  refine ⟨h'.current.trans h.current, fun q hq => h'.folder q (h.folder q hq), fun q bytes hq => ?_⟩
  obtain ⟨bytes', hq'⟩ := h.file q bytes hq
  exact h'.file q bytes' hq'

theorem isSome (h : Grows fs fs') {q : List String} (hq : (fs.look q).isSome) : (fs'.look q).isSome := by
  cases hlook : fs.look q with
  | none => simp [hlook] at hq
  | some kind =>
    cases kind with
    | folder => simp [h.folder q hlook]
    | file bytes =>
      obtain ⟨bytes', hq'⟩ := h.file q bytes hlook
      simp [hq']

theorem step (h : Grows fs fs') {place next : List String} {piece : String} (hstep : fs.step place piece = .ok next) :
    fs'.step place piece = .ok next := by
  rw [step_eq] at hstep ⊢
  split at hstep
  · next hplace =>
    rw [h.folder place hplace]
    split at hstep
    · next hidle => simpa [hidle] using hstep
    · next hidle =>
      split at hstep
      · next hup => simpa [hidle, hup] using hstep
      · next hup =>
        split at hstep
        · cases hstep
        · next hsize =>
          split at hstep
          · next hsome => simpa [hidle, hup, hsize, h.isSome hsome] using hstep
          · cases hstep
  · cases hstep
  · cases hstep

theorem steps (h : Grows fs fs') {place next pieces : List String} (hsteps : fs.steps place pieces = .ok next) :
    fs'.steps place pieces = .ok next := by
  induction pieces generalizing place with
  | nil => exact hsteps
  | cons piece pieces ih =>
    rw [Files.steps] at hsteps ⊢
    obtain ⟨mid, hmid, hrest⟩ := bind_eq_ok.1 hsteps
    exact bind_eq_ok.2 ⟨mid, h.step hmid, ih hrest⟩

theorem locate (h : Grows fs fs') {p : Path} {place : List String} (hp : fs.locate p = .ok place) :
    fs'.locate p = .ok place := by
  unfold Files.locate at hp ⊢
  obtain ⟨start, hopen, hsteps⟩ := bind_eq_ok.1 hp
  refine bind_eq_ok.2 ⟨start, ?_, h.steps hsteps⟩
  unfold open? at hopen ⊢
  rw [h.current]
  exact hopen

end Grows

/-! ## Places -/

theorem step_eq_follow {fs : Files} {place : List (List Char)} {piece : List Char} {next : List String}
    (h : fs.step (place.map String.ofList) (String.ofList piece) = .ok next) :
    next = (Path.follow place piece).map String.ofList := by
  have hempty : (String.ofList piece).isEmpty = (piece == []) := by
    rw [Bool.eq_iff_iff, String.isEmpty_iff, ← String.toList_inj]
    simp
  have hdot : (String.ofList piece = ".") ↔ piece = ['.'] := by
    rw [← String.toList_inj]
    simp
  have hup : (String.ofList piece = "..") ↔ piece = ['.', '.'] := by
    rw [← String.toList_inj]
    simp
  rw [step_eq] at h
  unfold Path.follow Path.idle
  split at h
  · simp only [hempty, hdot, hup] at h
    split at h
    · next hidle =>
      cases h
      rw [if_pos (by simpa using hidle)]
    · next hidle =>
      rw [if_neg (by simpa using hidle)]
      split at h
      · next hdots =>
        cases h
        rw [if_pos hdots, List.map_dropLast]
      · next hdots =>
        rw [if_neg hdots]
        split at h
        · cases h
        · split at h
          · cases h
            simp
          · cases h
  · cases h
  · cases h

theorem steps_eq_follow {fs : Files} {place body : List (List Char)} {next : List String}
    (h : fs.steps (place.map String.ofList) (body.map String.ofList) = .ok next) :
    next = (body.foldl Path.follow place).map String.ofList := by
  induction body generalizing place with
  | nil =>
    cases h
    rfl
  | cons piece body ih =>
    rw [List.map_cons, steps] at h
    obtain ⟨mid, hmid, hrest⟩ := bind_eq_ok.1 h
    rw [step_eq_follow hmid] at hrest
    exact ih hrest

theorem locate_eq_place {fs : Files} {p : Path} (hp : p.isAbsolute) {place : List String}
    (h : fs.locate p = .ok place) : place = p.place := by
  have hsteps := steps_of_locate h
  rw [if_pos hp] at hsteps
  exact @steps_eq_follow fs [] p.body place hsteps

theorem read_of_locate {fs : Files} {p : Path} {place : List String} (hp : fs.locate p = .ok place) {text : String}
    (h : fs.bytes? place = some text.toUTF8) : fs.read p = .ok text := by
  have hnode : fs.tree.find? place = some (.file text.toUTF8) := by
    unfold bytes? look Node.look at h
    cases hfind : fs.tree.find? place with
    | none => simp [hfind] at h
    | some node =>
      cases node with
      | folder children => simp [hfind, Node.kind, Node.Kind.bytes?] at h
      | file bytes =>
        obtain rfl : bytes = text.toUTF8 := by simpa [hfind, Node.kind, Node.Kind.bytes?] using h
        rfl
  have htext : String.fromUTF8? text.toByteArray = some text := dif_pos text.isValidUTF8
  simp [read, node, hp, hnode, htext, bind, Except.bind, pure, Except.pure]

/-! ## One folder, one file -/

/-- Something new stands at a place where no folder was, and nothing else has changed. -/
structure Puts (fs fs' : Files) (target : List String) (kind : Node.Kind) : Prop where
  current : fs'.current = fs.current
  free : fs.look target ≠ some .folder
  look_eq : ∀ q, fs'.look q = if q = target then some kind else fs.look q

theorem puts_put {fs : Files} {new : Node} (hleaf : ∀ name names, new.look (name :: names) = none)
    {place : List String} {children : List (String × Node)}
    (hfolder : fs.tree.find? place = some (.folder children)) {name : String}
    (hfree : fs.look (place ++ [name]) ≠ some .folder) :
    Puts fs { fs with tree := Node.put new (place ++ [name]) fs.tree } (place ++ [name]) new.kind :=
  ⟨rfl, hfree, Node.look_put hleaf hfolder hfree⟩

theorem makeOne_ok {fs fs' : Files} {p : Path} (h : fs.makeOne p = .ok fs') :
    ∃ target, fs.look target = none ∧ Puts fs fs' target .folder := by
  unfold makeOne at h
  obtain ⟨⟨start, pieces⟩, -, h⟩ := bind_eq_ok.1 h
  obtain ⟨place, -, h⟩ := bind_eq_ok.1 h
  split at h
  · next children hfolder =>
    split at h
    · cases h
    · next name hlast =>
      split at h
      · cases h
      · split at h
        · cases h
        · split at h
          · cases h
          · next hnew =>
            cases h
            have hnone : fs.look (place ++ [name]) = none := by
              rw [look, Node.look_concat hfolder, Option.not_isSome_iff_eq_none.1 hnew]
              rfl
            exact ⟨place ++ [name], hnone, puts_put (fun _ _ => rfl) hfolder (by simp [hnone])⟩
  · cases h
  · cases h

/-- Folders may have been made, and no file has changed. -/
structure MakesFolders (fs fs' : Files) : Prop where
  grows : Grows fs fs'
  bytes_eq : ∀ q, fs'.bytes? q = fs.bytes? q

theorem MakesFolders.refl (fs : Files) : MakesFolders fs fs := ⟨.refl fs, fun _ => rfl⟩

theorem MakesFolders.trans {fs fs' fs'' : Files} (h : MakesFolders fs fs') (h' : MakesFolders fs' fs'') :
    MakesFolders fs fs'' :=
  ⟨h.grows.trans h'.grows, fun q => (h'.bytes_eq q).trans (h.bytes_eq q)⟩

theorem makesFolders_makeOne {fs fs' : Files} {p : Path} (h : fs.makeOne p = .ok fs') : MakesFolders fs fs' := by
  obtain ⟨target, hnone, hputs⟩ := makeOne_ok h
  have hlook : ∀ q, (fs.look q).isSome → fs'.look q = fs.look q := by
    intro q hq
    rw [hputs.look_eq, if_neg fun heq => by simp [heq, hnone] at hq]
  refine ⟨⟨hputs.current, fun q hq => ?_, fun q bytes hq => ⟨bytes, ?_⟩⟩, fun q => ?_⟩
  · rw [hlook q (by simp [hq]), hq]
  · rw [hlook q (by simp [hq]), hq]
  · unfold bytes?
    rw [hputs.look_eq]
    by_cases hq : q = target
    · rw [if_pos hq, hq, hnone]
      rfl
    · rw [if_neg hq]

/-- Also where not all of them could be made, the folders that were are all that has changed. -/
theorem makesFolders_makeEach (fs : Files) (paths : List Path) : MakesFolders fs (fs.makeEach paths).1 := by
  induction paths generalizing fs with
  | nil => exact .refl fs
  | cons p rest ih =>
    rw [makeEach]
    split
    · exact .refl fs
    · split
      · next h => exact makesFolders_makeOne h
      · have hrest := ih fs
        split
        · next fs₁ fault heq =>
          rw [heq] at hrest
          exact hrest
        · next fs₁ heq =>
          rw [heq] at hrest
          split
          · next h => exact hrest.trans (makesFolders_makeOne h)
          · split <;> exact hrest
      · split <;> exact .refl fs

theorem makesFolders_make (fs : Files) (p : Path) : MakesFolders fs (sink.make fs p).1 := by
  have h := makesFolders_makeEach fs p.ancestors
  unfold sink.make makeFolder
  split
  · next fs' heq =>
    rw [heq] at h
    exact h
  · next fs' fault heq =>
    rw [heq] at h
    exact h

theorem Puts.grows_file {fs fs' : Files} {target : List String} {bytes : ByteArray}
    (h : Puts fs fs' target (.file bytes)) :
    Grows fs fs' ∧ ∀ q, fs'.bytes? q = if q = target then some bytes else fs.bytes? q := by
  refine ⟨⟨h.current, fun q hq => ?_, fun q old hq => ?_⟩, fun q => ?_⟩
  · have hne : q ≠ target := fun heq => h.free (heq ▸ hq)
    rw [h.look_eq, if_neg hne, hq]
  · rw [h.look_eq]
    split
    · exact ⟨bytes, rfl⟩
    · exact ⟨old, hq⟩
  · unfold bytes?
    rw [h.look_eq]
    by_cases hq : q = target
    · rw [if_pos hq, if_pos hq]
      rfl
    · rw [if_neg hq, if_neg hq]

theorem splitLast_of_ne {pieces : List String} {name : String} (h : (splitLast pieces).2 = some name)
    (hlast : pieces.getLast? ≠ some "") : pieces = (splitLast pieces).1 ++ [name] ∧ name ≠ "" := by
  rcases List.eq_nil_or_concat' pieces with rfl | ⟨front, last, rfl⟩
  · simp [splitLast] at h
  · have hne : last ≠ "" := by simpa using hlast
    have hfull : splitLast (front ++ [last]) = (front, some last) := by simp [splitLast, hne]
    rw [hfull] at h ⊢
    obtain rfl := Option.some.inj h
    exact ⟨rfl, hne⟩

theorem writeOne_inv {fs fs' : Files} {p : Path} {text : String} (h : fs.writeOne p text = .ok fs') :
    ∃ start before name place children, fs.open? p = .ok (start, before ++ [name]) ∧
      fs.steps start before = .ok place ∧ fs.tree.find? place = some (.folder children) ∧
      name ≠ "" ∧ name ≠ "." ∧ name ≠ ".." ∧ ¬ maxName < Text.size name.toList ∧
      (∀ below, children.lookup name ≠ some (.folder below)) ∧
      fs' = { fs with tree := Node.put (.file text.toUTF8) (place ++ [name]) fs.tree } := by
  unfold writeOne at h
  obtain ⟨⟨start, pieces⟩, hopen, h⟩ := bind_eq_ok.1 h
  obtain ⟨place, hplace, h⟩ := bind_eq_ok.1 h
  split at h
  · next children hfolder =>
    split at h
    · cases h
    · next name hlast =>
      split at h
      · cases h
      · next hdots =>
        split at h
        · cases h
        · next hend =>
          split at h
          · cases h
          · next hsize =>
            split at h
            · cases h
            · next hfree =>
              cases h
              obtain ⟨hpieces, hne⟩ := splitLast_of_ne hlast hend
              simp only [Bool.or_eq_true, decide_eq_true_eq, not_or] at hdots
              exact ⟨start, _, name, place, children, hpieces ▸ hopen, hplace, hfolder, hne, hdots.1, hdots.2, hsize,
                hfree, rfl⟩
  · cases h
  · cases h

theorem writeOne_ok {fs fs' : Files} {p : Path} {text : String} (h : fs.writeOne p text = .ok fs') :
    ∃ target, Puts fs fs' target (.file text.toUTF8) ∧ fs'.locate p = .ok target := by
  obtain ⟨start, before, name, place, children, hopen, hplace, hfolder, hne, hdot, hdots, hsize, hfree, rfl⟩ :=
    writeOne_inv h
  have hnot : fs.look (place ++ [name]) ≠ some .folder := by
    rw [look, Node.look_concat hfolder]
    cases hold : children.lookup name with
    | none => simp
    | some old =>
      cases old with
      | file bytes => simp [Node.kind]
      | folder below => exact absurd hold (hfree below)
  have hputs := puts_put (fun _ _ => rfl : ∀ name names, (Node.file text.toUTF8).look (name :: names) = none)
    hfolder hnot
  refine ⟨place ++ [name], hputs, ?_⟩
  have hgrows := hputs.grows_file.1
  have hstep : Files.step { fs with tree := Node.put (.file text.toUTF8) (place ++ [name]) fs.tree } place name =
      .ok (place ++ [name]) := by
    rw [step_eq, hgrows.folder place (Node.look_eq_folder.2 ⟨children, hfolder⟩), hputs.look_eq]
    simp [hne, hdot, hdots, hsize]
  unfold locate
  refine bind_eq_ok.2 ⟨(start, before ++ [name]), hopen, ?_⟩
  show Files.steps _ start (before ++ [name]) = _
  rw [steps_append]
  exact bind_eq_ok.2 ⟨place, hgrows.steps hplace, bind_eq_ok.2 ⟨_, hstep, rfl⟩⟩

/-- A write makes folders and, if it succeeds, puts the text where its path then leads. -/
theorem write_cases (fs : Files) (p : Path) (text : String) :
    ∃ fs₁, MakesFolders fs fs₁ ∧
      ((∃ fs' target, sink.write fs p text = (fs', .ok ()) ∧ Puts fs₁ fs' target (.file text.toUTF8) ∧
        fs'.locate p = .ok target) ∨ ∃ e, sink.write fs p text = (fs₁, .error e)) := by
  -- The write itself, once the folders above are there.
  have hput : ∀ fs₁, (∀ fs', fs₁.writeOne p text = .ok fs' → sink.write fs p text = (fs', .ok ())) →
      (∀ fault, fs₁.writeOne p text = .error fault → sink.write fs p text = (fs₁, .error (.io p fault))) →
      (∃ fs' target, sink.write fs p text = (fs', .ok ()) ∧ Puts fs₁ fs' target (.file text.toUTF8) ∧
        fs'.locate p = .ok target) ∨ ∃ e, sink.write fs p text = (fs₁, .error e) := by
    intro fs₁ hok herr
    cases hwrite : fs₁.writeOne p text with
    | error fault => exact .inr ⟨_, herr fault hwrite⟩
    | ok fs' =>
      obtain ⟨target, hputs, hlocate⟩ := writeOne_ok hwrite
      exact .inl ⟨fs', target, hok fs' hwrite, hputs, hlocate⟩
  cases hparent : p.parent? with
  | none =>
    refine ⟨fs, .refl fs, hput fs (fun fs' h => ?_) fun fault h => ?_⟩ <;> simp only [sink, hparent, h]
  | some parent =>
    have hmake := makesFolders_make fs parent
    cases hresult : sink.make fs parent with
    | mk fs₁ result =>
      rw [hresult] at hmake
      refine ⟨fs₁, hmake, ?_⟩
      cases result with
      | ok u => refine hput fs₁ (fun fs' h => ?_) fun fault h => ?_ <;> simp only [sink, hparent, hresult, h]
      | error e => exact .inr ⟨e, by simp only [sink, hparent, hresult]⟩

theorem grows_write (fs : Files) (p : Path) (text : String) : Grows fs (sink.write fs p text).1 := by
  obtain ⟨fs₁, hmakes, ⟨fs', target, heq, hputs, -⟩ | ⟨e, heq⟩⟩ := write_cases fs p text
  · rw [heq]
    exact hmakes.grows.trans hputs.grows_file.1
  · rw [heq]
    exact hmakes.grows

theorem bytes?_write {fs fs' : Files} {p : Path} (hp : p.isAbsolute) {text : String}
    (h : sink.write fs p text = (fs', .ok ())) :
    fs'.locate p = .ok p.place ∧ ∀ q, fs'.bytes? q = if q = p.place then some text.toUTF8 else fs.bytes? q := by
  obtain ⟨fs₁, hmakes, ⟨fs'', target, heq, hputs, hlocate⟩ | ⟨e, heq⟩⟩ := write_cases fs p text
  · obtain rfl : fs'' = fs' := congrArg Prod.fst (heq.symm.trans h)
    obtain rfl := locate_eq_place hp hlocate
    refine ⟨hlocate, fun q => ?_⟩
    rw [hputs.grows_file.2, hmakes.bytes_eq]
  · cases heq.symm.trans h

theorem bytes?_write_error {fs fs' : Files} {p : Path} {text : String} {e : Error}
    (h : sink.write fs p text = (fs', .error e)) (q : List String) : fs'.bytes? q = fs.bytes? q := by
  obtain ⟨fs₁, hmakes, ⟨fs'', target, heq, -⟩ | ⟨e', heq⟩⟩ := write_cases fs p text
  · cases heq.symm.trans h
  · obtain rfl : fs₁ = fs' := congrArg Prod.fst (heq.symm.trans h)
    exact hmakes.bytes_eq q

end Files
end Bundler
