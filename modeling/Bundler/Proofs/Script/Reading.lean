import Bundler.Requires

/-!
# Running the readers

What the readers of the grammar do on the words of a simple statement: one lemma for each reader, told
by the tokens that stand in front of it.
-/

namespace Bundler.Script

/-- The state behind the token. -/
def State.pass (s : State) : State := { s with lexeme := s.lexeme.next, last := s.lexeme.stop }

namespace State

@[simp] theorem pass_last (s : State) : s.pass.last = s.lexeme.stop := rfl

@[simp] theorem pass_flawed (s : State) : s.pass.flawed = s.flawed := rfl

@[simp] theorem pass_defaults (s : State) : s.pass.defaults = s.defaults := rfl

end State

namespace Parse

variable {α β : Type} {c : Context} {s s' s'' : State}

/-! ## Steps -/

@[simp] theorem run_bind (p : Parse α) (f : α → Parse β) (c : Context) (s : State) :
    (p >>= f) c s = match p c s with | .ok (a, s) => f a c s | .error e => .error e := rfl

@[simp] theorem run_pure (a : α) (c : Context) (s : State) : (pure a : Parse α) c s = .ok (a, s) := rfl

@[simp] theorem run_context (c : Context) (s : State) : context c s = .ok (c, s) := rfl

@[simp] theorem run_within (f : Context → Context) (p : Parse α) (c : Context) (s : State) :
    within f p c s = p (f c) s := rfl

@[simp] theorem run_token (c : Context) (s : State) : token c s = .ok (s.lexeme.token, s) := rfl

@[simp] theorem run_lexeme (c : Context) (s : State) : lexeme c s = .ok (s.lexeme, s) := rfl

@[simp] theorem run_place (c : Context) (s : State) : place c s = .ok (s.lexeme.start, s) := rfl

@[simp] theorem run_peek (c : Context) (s : State) : peek c s = .ok (s.lexeme.next, s) := rfl

@[simp] theorem run_types (c : Context) (s : State) : types c s = .ok (c.dialect.types, s) := rfl

@[simp] theorem run_atMark (m : Mark) (c : Context) (s : State) :
    atMark m c s = .ok (s.lexeme.token == .mark m, s) := rfl

@[simp] theorem run_atWord (w : String) (c : Context) (s : State) :
    atWord w c s = .ok (Token.isWord w s.lexeme.token, s) := rfl

@[simp] theorem run_flawIf_false (c : Context) (s : State) : flawIf false c s = .ok ((), s) := rfl

@[simp] theorem run_require_true (c : Context) (s : State) : require true c s = .ok ((), s) := rfl

@[simp] theorem run_node (shape : Shape) (start : Nat) (children : List Tree) (c : Context) (s : State) :
    node shape start children c s = .ok (.node shape start s.last children, s) := rfl

theorem run_advance (h : s.lexeme.token ≠ .bad) : advance c s = .ok ((), s.pass) := by
  unfold advance
  simp only [run_bind, run_token]
  rfl

theorem run_leaf (h : s.lexeme.token ≠ .bad) (shape : Shape) :
    leaf shape c s = .ok (.node shape s.lexeme.start s.lexeme.stop [], s.pass) := by
  simp [leaf, run_advance h]

theorem run_mark? {m : Mark} (h : s.lexeme.token = .mark m) : mark? m c s = .ok (true, s.pass) := by
  simp [mark?, h, run_advance]

theorem run_mark?_of_ne {m : Mark} (h : s.lexeme.token ≠ .mark m) : mark? m c s = .ok (false, s) := by
  simp [mark?, h]

theorem run_mark {m : Mark} (h : s.lexeme.token = .mark m) : mark m c s = .ok ((), s.pass) := by
  simp [mark, run_mark? h]

/-! ## Rows -/

theorem run_fold_stop {p : α → Parse (Option α)} {a : α} (hbound : 0 < c.bound) (h : p a c s = .ok (none, s')) :
    fold p a c s = .ok (a, s') := by
  obtain ⟨n, hn⟩ := Nat.exists_eq_add_of_lt hbound
  simp [fold, hn, foldUpTo, h]

theorem run_fold_once {p : α → Parse (Option α)} {a b : α} (hbound : 1 < c.bound)
    (h : p a c s = .ok (some b, s')) (hstop : p b c s' = .ok (none, s'')) : fold p a c s = .ok (b, s'') := by
  obtain ⟨n, hn⟩ := Nat.exists_eq_add_of_lt hbound
  rw [Nat.add_assoc, Nat.add_comm 1, Nat.add_assoc] at hn
  simp [fold, hn, foldUpTo, h, hstop]

theorem run_many_stop {p : Parse (Option α)} (hbound : 0 < c.bound) (h : p c s = .ok (none, s')) :
    many p c s = .ok ([], s') := by
  obtain ⟨n, hn⟩ := Nat.exists_eq_add_of_lt hbound
  simp [many, hn, upTo, h]

theorem run_many_once {p : Parse (Option α)} {a : α} (hbound : 1 < c.bound) (h : p c s = .ok (some a, s'))
    (hstop : p c s' = .ok (none, s'')) : many p c s = .ok ([a], s'') := by
  obtain ⟨n, hn⟩ := Nat.exists_eq_add_of_lt hbound
  rw [Nat.add_assoc, Nat.add_comm 1, Nat.add_assoc] at hn
  simp [many, hn, upTo, h, hstop]

theorem run_commas_once {close : Mark} {item : Parse Tree} {tree : Tree} (hbound : 1 < c.bound)
    (hfirst : s.lexeme.token ≠ .mark close) (h : item c s = .ok (tree, s')) (hclose : s'.lexeme.token = .mark close) :
    commas close item c s = .ok (([tree], false), s') := by
  unfold commas
  rw [run_bind, @run_many_once _ c s s' s' _ (tree, false) hbound]
  · rfl
  · simp [hfirst, h, hclose]
  · simp [hclose]

theorem exists_run_ahead (p : Parse Bool) (c : Context) (s : State) : ∃ b, ahead p c s = .ok (b, s) := by
  unfold ahead
  split
  · exact ⟨_, rfl⟩
  · exact ⟨_, rfl⟩

end Parse

namespace Grammar
open Parse

variable {self : Rec} {c : Context} {s s' : State}

/-! ## Operands -/

/-- The words that do not name anything where an operand stands, or not everywhere. -/
def special : List String := reserved ++ ["async", "await", "yield"]

theorem ne_of_not_special {w v : String} (h : w ∉ special) (hv : v ∈ special) : w ≠ v := by
  rintro rfl
  exact h hv

theorem beq_of_not_special {w v : String} (h : w ∉ special) (hv : v ∈ special) : (w == v) = false :=
  beq_false_of_ne (ne_of_not_special h hv)

/-- A token that is an operand by itself. -/
inductive Token.Simple : Token → Prop
  | text (v : String) : Simple (.text v)
  | name {w : String} (h : w ∉ special) : Simple (.word w true)

/-- A sign that ends an operand. -/
inductive Token.Closing : Token → Prop
  | assign : Closing (.mark .assign)
  | parenR : Closing (.mark .parenR)
  | semicolon : Closing (.mark .semicolon)

theorem Token.Simple.not_isWord {t : Token} (h : Token.Simple t) {v : String} (hv : v ∈ special) :
    Parse.Token.isWord v t = false := by
  cases h with
  | text => rfl
  | name hw => exact beq_false_of_ne (ne_of_not_special hw hv)

theorem Token.Simple.ne_mark {t : Token} (h : Token.Simple t) (m : Mark) : t ≠ .mark m := by
  cases h <;> simp

theorem run_primary_text {v : String} (h : s.lexeme.token = .text v) :
    primary self c s = .ok (.node (.text v) s.lexeme.start s.lexeme.stop [], s.pass) := by
  simp [primary, h, run_leaf]

theorem run_identifier {w : String} (h : s.lexeme.token = .word w true) (hw : w ∉ special) :
    identifier c s = .ok (.node (.name w) s.lexeme.start s.lexeme.stop [], s.pass) := by
  have hname : isReserved w = false := by
    simpa [isReserved] using fun hmem => hw (List.mem_append_left _ hmem)
  have hcheck : checkName w c s = .ok ((), s) := by
    simp (disch := decide) [checkName, beq_of_not_special hw]
  simp [identifier, named, h, hname, hcheck, run_leaf]

theorem run_atAsyncFunction {w : String} (h : s.lexeme.token = .word w true) (hw : w ∉ special) :
    atAsyncFunction c s = .ok (false, s) := by
  simp (disch := decide) [atAsyncFunction, h, Parse.Token.isWord, beq_of_not_special hw]

theorem run_primary_name {w : String} (h : s.lexeme.token = .word w true) (hw : w ∉ special) :
    primary self c s = .ok (.node (.name w) s.lexeme.start s.lexeme.stop [], s.pass) := by
  simp (disch := decide) [primary, h, run_atAsyncFunction h hw, run_identifier h hw, ne_of_not_special hw]

theorem run_base (h : Token.Simple s.lexeme.token) : base self c s = primary self c s := by
  unfold base
  simp only [run_bind, run_token]
  generalize s.lexeme.token = t at h
  cases h with
  | text v => rfl
  | name hw =>
    have hsuper := ne_of_not_special hw (by decide : "super" ∈ special)
    have himport := ne_of_not_special hw (by decide : "import" ∈ special)
    simp [hsuper, himport]

theorem run_newWords (hbound : 0 < c.bound) (h : Token.Simple s.lexeme.token) :
    newWords c s = .ok (⟨[], none⟩, s) := by
  apply run_fold_stop hbound
  simp [h.not_isWord (v := "new") (by decide)]

theorem run_memberStep_stop (start : Nat) (l : Linked)
    (h : s.lexeme.token = .mark .parenL ∨ Token.Closing s.lexeme.token) :
    memberStep self start l c s = .ok (none, s) := by
  unfold memberStep
  simp only [run_bind, run_context, run_token]
  generalize s.lexeme.token = t at h
  rcases h with rfl | h
  · rfl
  · cases h <;> rfl

theorem run_members_stop (hbound : 0 < c.bound) (start : Nat) (l : Linked)
    (h : s.lexeme.token = .mark .parenL ∨ Token.Closing s.lexeme.token) : members self start l c s = .ok (l, s) :=
  run_fold_stop hbound (run_memberStep_stop start l h)

theorem run_members_dot {w : String} (hbound : 1 < c.bound) (start : Nat) (tree : Tree)
    (hdot : s.lexeme.token = .mark .dot) (hname : s.pass.lexeme.token = .word w true)
    (hstop : s.pass.pass.lexeme.token = .mark .parenL ∨ Token.Closing s.pass.pass.lexeme.token) :
    members self start { tree := tree } c s = .ok (⟨.node .member start s.pass.lexeme.stop
      [tree, .node (.name w) s.pass.lexeme.start s.pass.lexeme.stop []], false⟩, s.pass.pass) := by
  refine run_fold_once hbound ?_ (run_memberStep_stop _ _ hstop)
  simp [memberStep, hdot, run_advance, memberName, anyWord, hname, run_leaf, Linked.shape]

theorem run_membered {tree : Tree} {l : Linked} (hbound : 0 < c.bound) (h : Token.Simple s.lexeme.token)
    (htree : primary self c s = .ok (tree, s.pass))
    (hmembers : members self s.lexeme.start { tree := tree } c s.pass = .ok (l, s')) :
    membered self c s = .ok (l, s') := by
  simp [membered, run_newWords hbound h, run_base h, htree, hmembers]

theorem run_callStep_stop (start : Nat) (l : Linked) (h : Token.Closing s.lexeme.token) :
    callStep self start l c s = .ok (none, s) := by
  have hlink : s.lexeme.token ≠ .mark .questionDot := by intro he; rw [he] at h; cases h
  have hopen : s.lexeme.token ≠ .mark .parenL := by intro he; rw [he] at h; cases h
  simp [callStep, hlink, hopen]

theorem run_arguments {tree : Tree} (hbound : 1 < c.bound) (hopen : s.lexeme.token = .mark .parenL)
    (hfirst : Token.Simple s.pass.lexeme.token)
    (htree : self (.assignment true) (Context.open c) s.pass = .ok (tree, s'))
    (hclose : s'.lexeme.token = .mark .parenR) : arguments self c s = .ok ([tree], s'.pass) := by
  have hargument : argument self (Context.open c) s.pass = .ok (tree, s') := by
    simp [argument, hfirst.ne_mark, htree]
  have hitems := run_commas_once (c := Context.open c) hbound (hfirst.ne_mark .parenR) hargument hclose
  simp [arguments, enclosed, run_mark hopen, hitems, run_mark hclose]

theorem run_callStep {l : Linked} {tree : Tree} (hbound : 1 < c.bound) (start : Nat)
    (happlied : l.split = (l.tree, [])) (hopen : s.lexeme.token = .mark .parenL)
    (hfirst : Token.Simple s.pass.lexeme.token)
    (htree : self (.assignment true) (Context.open c) s.pass = .ok (tree, s'))
    (hclose : s'.lexeme.token = .mark .parenR) (hstop : Token.Closing s'.pass.lexeme.token) :
    callStep self start l c s =
      .ok (some { l with tree := .node (.call 0) start s'.lexeme.stop [l.tree, tree] }, s'.pass) := by
  have hinputs := run_arguments hbound hopen hfirst htree hclose
  have hmembers (l : Linked) : members self start l c s'.pass = .ok (l, s'.pass) :=
    run_members_stop (Nat.lt_of_succ_lt hbound) start l (.inr hstop)
  simp [callStep, hopen, happlied, hinputs, hmembers]

/-! ## Operators -/

theorem run_updated {tree : Tree} (h : Token.Simple s.lexeme.token) (htree : leftHand self c s = .ok (tree, s'))
    (hstop : Token.Closing s'.lexeme.token) : updated self c s = .ok (tree, s') := by
  have helement : atElement c s = .ok (false, s) := by simp [atElement, h.ne_mark]
  unfold updated
  simp only [run_bind, run_place, run_token]
  generalize s.lexeme.token = t at h
  generalize hnext : s'.lexeme.token = next at hstop
  cases h <;> cases hstop <;> simp [helement, htree, hnext]

theorem run_operand {tree : Tree} (h : Token.Simple s.lexeme.token) (htree : leftHand self c s = .ok (tree, s'))
    (hstop : Token.Closing s'.lexeme.token) : operand self c s = .ok (tree, s') := by
  have hcast : atTypeCast c s = .ok (false, s) := by simp [atTypeCast, h.ne_mark]
  have hawait : atAwait c s = .ok (false, s) := by simp [atAwait, h.not_isWord (v := "await") (by decide)]
  have hupdated := run_updated h htree hstop
  unfold operand
  simp only [run_bind, run_place, run_token]
  generalize s.lexeme.token = t at h
  cases h with
  | text v => simp [hawait, hcast, hupdated]
  | name hw =>
    have hdelete := ne_of_not_special hw (by decide : "delete" ∈ special)
    have htypeof := ne_of_not_special hw (by decide : "typeof" ∈ special)
    have hvoid := ne_of_not_special hw (by decide : "void" ∈ special)
    simp [hdelete, htypeof, hvoid, hawait, hcast, hupdated]

theorem run_operationStep_stop (start level : Nat) (left : Tree) (h : Token.Closing s.lexeme.token) :
    operationStep self start level left c s = .ok (none, s) := by
  unfold operationStep
  generalize htoken : s.lexeme.token = t at h
  cases h <;> simp [htoken, binding?]

theorem run_operation {tree : Tree} (hbound : 0 < c.bound) (level : Nat) (h : Token.Simple s.lexeme.token)
    (htree : leftHand self c s = .ok (tree, s')) (hstop : Token.Closing s'.lexeme.token) :
    operation self level c s = .ok (tree, s') := by
  have hfirst : firstOperand self c s = .ok (tree, s') := by
    have hoperand := run_operand h htree hstop
    unfold firstOperand
    simp only [run_bind, run_token]
    generalize s.lexeme.token = t at h
    cases h <;> exact hoperand
  simp [operation, hfirst, run_fold_stop hbound (run_operationStep_stop _ _ _ hstop)]

/-! ## Assignments -/

theorem run_parenthesizedArrow? (h : Token.Simple s.lexeme.token) (arrowType : Bool) :
    parenthesizedArrow? self arrowType c s = .ok (none, s) := by
  have hverdict : verdict c s = .ok (.no, s) := by
    have hasync := h.not_isWord (v := "async") (by decide)
    generalize htoken : s.lexeme.token = t at h hasync
    cases h <;> simp [verdict, look, htoken, hasync]
  simp [parenthesizedArrow?, hverdict]

theorem run_asyncArrow? (h : Token.Simple s.lexeme.token) (arrowType : Bool) :
    asyncArrow? self arrowType c s = .ok (none, s) := by
  simp [asyncArrow?, h.not_isWord (v := "async") (by decide)]

theorem run_atYield (h : Token.Simple s.lexeme.token) : atYield c s = .ok (false, s) := by
  simp [atYield, h.not_isWord (v := "yield") (by decide)]

theorem run_assignment {tree : Tree} (hbound : 0 < c.bound) (arrowType : Bool)
    (h : Token.Simple s.lexeme.token) (htree : leftHand self c s = .ok (tree, s'))
    (hstop : s'.lexeme.token = .mark .parenR ∨ s'.lexeme.token = .mark .semicolon) :
    assignment self arrowType c s = .ok (tree, s') := by
  have hclosing : Token.Closing s'.lexeme.token := by
    rcases hstop with hstop | hstop
    · exact hstop ▸ .parenR
    · exact hstop ▸ .semicolon
  have hoperation := run_operation hbound 0 h htree hclosing
  rcases hstop with hstop | hstop <;>
    simp [assignment, run_atYield h, run_parenthesizedArrow? h, run_asyncArrow? h, hoperation, hstop, assignment?,
      choice, run_mark?_of_ne]

theorem run_assignment_assign {left right : Tree} {s'' : State} (hbound : 0 < c.bound) (arrowType : Bool)
    (h : Token.Simple s.lexeme.token) (hleft : leftHand self c s = .ok (left, s'))
    (hsign : s'.lexeme.token = .mark .assign) (htarget : target left c s' = .ok ((), s'))
    (hright : self (.assignment arrowType) c s'.pass = .ok (right, s'')) :
    assignment self arrowType c s = .ok (.node (.assign true) s.lexeme.start s''.last [left, right], s'') := by
  have hoperation := run_operation hbound 0 h hleft (hsign ▸ .assign)
  simp [assignment, run_atYield h, run_parenthesizedArrow? h, run_asyncArrow? h, hoperation, hsign, assignment?,
    htarget, run_advance, hright]

theorem run_expression {tree : Tree} (hbound : 0 < c.bound) (htree : self (.assignment true) c s = .ok (tree, s'))
    (hstop : s'.lexeme.token ≠ .mark .comma) : expression self c s = .ok (tree, s') := by
  have hothers : many (do
      if ← mark? .comma then return some (← self (.assignment true)) else return none) c s' = .ok ([], s') :=
    run_many_stop hbound (by simp [run_mark?_of_ne hstop])
  simp [expression, htree, hothers]

/-! ## Statements -/

theorem run_finish (h : s.lexeme.token = .mark .semicolon) : finish c s = .ok ((), s.pass) := by
  simp [finish, canEnd, h, run_mark? h]

theorem run_labelled {tree : Tree} (htree : self .expression c s = .ok (tree, s'))
    (hshape : ∀ w, tree.shape ≠ .name w) (hstop : s'.lexeme.token = .mark .semicolon) :
    labelled self c s = .ok (.node .other s.lexeme.start s'.lexeme.stop [tree], s'.pass) := by
  have hend : expressionStatement s.lexeme.start tree c s' =
      .ok (.node .other s.lexeme.start s'.lexeme.stop [tree], s'.pass) := by
    simp [expressionStatement, run_finish hstop]
  unfold labelled
  simp only [run_bind, run_place, htree]
  cases hname : tree.shape with
  | name w => exact absurd hname (hshape w)
  | _ => exact hend

theorem run_statement {w : String} (single : Bool) (htypes : c.dialect.types = false)
    (h : s.lexeme.token = .word w true) (hw : w ∉ special) (hlet : w ≠ "let") (husing : w ≠ "using") :
    statement self single c s = labelled self c s := by
  have hdeclares : atUsing c s = .ok (false, s) := by
    simp [atUsing, h, Parse.Token.isWord, husing]
  have hawait : atAwaitUsing c s = .ok (false, s) := by
    simp (disch := decide) [atAwaitUsing, h, Parse.Token.isWord, beq_of_not_special hw]
  obtain ⟨b, htype⟩ := exists_run_ahead startsDeclaration c s
  have htype : atTypeStatement c s = .ok (b, s) := htype
  unfold statement
  simp only [run_bind, run_place, run_peek, run_token, h]
  -- Every other word that starts a statement of its own is a special one.
  split
  all_goals first
    | exact absurd (by decide) hw
    | simp [hlet, hdeclares, hawait, run_atAsyncFunction h hw, htype, htypes]

theorem run_statements {tree : Tree} (hbound : 1 < c.bound) (hfirst : s.lexeme.token ≠ .stop)
    (htree : self (.statement false) c s = .ok (tree, s')) (hstop : s'.lexeme.token = .stop) :
    statements self c s = .ok ([tree], s') := by
  refine run_many_once hbound (?_ : _ = Except.ok (some tree, s')) ?_
  · simp [htree]
  · simp [hstop]

end Grammar

/-! ## Members and calls -/

open Parse Grammar

/-- These tokens stand in front. -/
def State.Shows (s : State) : List Token → Prop
  | [] => True
  | t :: ts => s.lexeme.token = t ∧ s.pass.Shows ts

variable {self : Rec} {c : Context} {s s' : State} {v w x : String}

theorem run_leftHand {l : Linked} (hbound : 0 < c.bound) (h : membered self c s = .ok (l, s'))
    (hstop : Token.Closing s'.lexeme.token) : leftHand self c s = .ok (l.tree, s') := by
  simp [leftHand, h, run_fold_stop hbound (run_callStep_stop _ _ hstop)]

theorem run_leftHand_text (hbound : 0 < c.bound) (h : s.lexeme.token = .text v)
    (hstop : Token.Closing s.pass.lexeme.token) :
    leftHand self c s = .ok (.node (.text v) s.lexeme.start s.lexeme.stop [], s.pass) :=
  run_leftHand hbound (run_membered hbound (h ▸ .text v) (run_primary_text h)
    (run_members_stop hbound _ _ (.inr hstop))) hstop

/-- The member that is read from a state on. -/
def State.member (s : State) (w x : String) : Tree :=
  .node .member s.lexeme.start s.pass.pass.lexeme.stop
    [.node (.name w) s.lexeme.start s.lexeme.stop [],
      .node (.name x) s.pass.pass.lexeme.start s.pass.pass.lexeme.stop []]

theorem run_membered_dot (hbound : 1 < c.bound) (hw : w ∉ special)
    (h : s.Shows [.word w true, .mark .dot, .word x true])
    (hstop : s.pass.pass.pass.lexeme.token = .mark .parenL ∨ Token.Closing s.pass.pass.pass.lexeme.token) :
    membered self c s = .ok ({ tree := s.member w x }, s.pass.pass.pass) := by
  obtain ⟨hname, hdot, hmember, -⟩ := h
  exact run_membered (Nat.lt_of_succ_lt hbound) (hname ▸ .name hw) (run_primary_name hname hw)
    (run_members_dot hbound _ _ hdot hmember hstop)

theorem run_leftHand_call {tree : Tree} (hbound : 1 < c.bound) (hw : w ∉ special)
    (h : s.Shows [.word w true, .mark .dot, .word x true, .mark .parenL])
    (hfirst : Token.Simple s.pass.pass.pass.pass.lexeme.token)
    (htree : self (.assignment true) (Context.open c) s.pass.pass.pass.pass = .ok (tree, s'))
    (hclose : s'.lexeme.token = .mark .parenR) (hstop : Token.Closing s'.pass.lexeme.token) :
    leftHand self c s =
      .ok (.node (.call 0) s.lexeme.start s'.lexeme.stop [s.member w x, tree], s'.pass) := by
  obtain ⟨hname, hdot, hmember, hopen, -⟩ := h
  have hmembered : membered self c s = .ok ({ tree := s.member w x }, s.pass.pass.pass) :=
    run_membered_dot hbound hw ⟨hname, hdot, hmember, trivial⟩ (.inl hopen)
  have hcall := run_callStep (l := { tree := s.member w x }) (s := s.pass.pass.pass) hbound s.lexeme.start rfl hopen
    hfirst htree hclose hstop
  simp [leftHand, hmembered, run_fold_once hbound hcall (run_callStep_stop _ _ hstop)]

theorem parse_assignment (n : Nat) (arrowType : Bool) :
    parse (n + 1) (.assignment arrowType) = assignment (parse n) arrowType := rfl

theorem parse_expression (n : Nat) : parse (n + 1) .expression = expression (parse n) := rfl

theorem parse_statement (n : Nat) (single : Bool) :
    parse (n + 1) (.statement single) = statement (parse n) single := rfl

theorem run_text (n : Nat) (hbound : 0 < c.bound) (h : s.Shows [.text v, .mark .parenR]) :
    parse (n + 1) (.assignment true) c s =
      .ok (.node (.text v) s.lexeme.start s.lexeme.stop [], s.pass) := by
  obtain ⟨htext, hclose, -⟩ := h
  rw [parse_assignment]
  exact run_assignment hbound true (htext ▸ .text v) (run_leftHand_text hbound htext (hclose ▸ .parenR))
    (.inl hclose)

theorem run_call (n : Nat) (hbound : 1 < c.bound) (hw : w ∉ special)
    (h : s.Shows [.word w true, .mark .dot, .word x true, .mark .parenL, .text v, .mark .parenR,
      .mark .semicolon]) :
    ∃ tree, parse (n + 2) (.assignment true) c s = .ok (tree, s.pass.pass.pass.pass.pass.pass) ∧
      tree.requires = [] := by
  obtain ⟨hname, hdot, hmember, hopen, htext, hclose, hend, -⟩ := h
  have hargument := run_text (c := Context.open c) (s := s.pass.pass.pass.pass) n (Nat.lt_of_succ_lt hbound)
    ⟨htext, hclose, trivial⟩
  have hcall := run_leftHand_call hbound hw ⟨hname, hdot, hmember, hopen, trivial⟩ (htext ▸ .text v) hargument
    hclose (hend ▸ .semicolon)
  rw [parse_assignment]
  exact ⟨_, run_assignment (Nat.lt_of_succ_lt hbound) true (hname ▸ .name hw) hcall (.inr hend), rfl⟩

/-- A member that is given the value of a call with a string is read, and asks for nothing, whatever the string says. -/
theorem run_assigned_call {y z : String} (n : Nat) (hbound : 1 < c.bound)
    (htypes : c.dialect.types = false) (hw : w ∉ special) (hlet : w ≠ "let") (husing : w ≠ "using")
    (hy : y ∉ special)
    (h : s.Shows [.word w true, .mark .dot, .word x true, .mark .assign, .word y true, .mark .dot,
      .word z true, .mark .parenL, .text v, .mark .parenR, .mark .semicolon, .stop]) :
    ∃ tree s', statements (parse (n + 5)) c s = .ok ([tree], s') ∧ tree.requires = [] ∧ s'.flawed = s.flawed ∧
      s'.defaults = s.defaults := by
  obtain ⟨hname, hdot, hmember, hassign, hcallee, hdot', hmember', hopen, htext, hclose, hend, hstop, -⟩ := h
  have hpositive := Nat.lt_of_succ_lt hbound
  -- From the inside out: each level of `parse` hands its part to the reader one level further in.
  obtain ⟨right, hright, hnone⟩ := run_call (c := c) (s := s.pass.pass.pass.pass) n hbound hy
    ⟨hcallee, hdot', hmember', hopen, htext, hclose, hend, trivial⟩
  have hleft : leftHand (parse (n + 2)) c s = .ok (s.member w x, s.pass.pass.pass) :=
    run_leftHand hpositive (run_membered_dot hbound hw ⟨hname, hdot, hmember, trivial⟩ (.inr (hassign ▸ .assign)))
      (hassign ▸ .assign)
  have htarget : target (s.member w x) c s.pass.pass.pass = .ok ((), s.pass.pass.pass) := by
    simp [State.member, target, simpleTarget]
  have hassigned := run_assignment_assign hpositive true (hname ▸ .name hw) hleft hassign htarget hright
  rw [← parse_assignment] at hassigned
  have hexpression := run_expression hpositive hassigned (fun hcomma => by simp [hend] at hcomma)
  rw [← parse_expression] at hexpression
  have hstatement := run_labelled hexpression (by simp [Tree.shape]) hend
  rw [← run_statement false htypes hname hw hlet husing, ← parse_statement] at hstatement
  refine ⟨_, _, run_statements hbound (by simp [hname]) hstatement hstop, ?_, by simp, by simp⟩
  simp [Tree.requires, Tree.requiresIn, requireCall?, State.member, hnone]

/-! ## The tokens of a script -/

/-- A script begins with these tokens. -/
def Begins (script : List Char) (tokens : List Token) : Prop :=
  ∀ (s : State) (offset : Nat), s.lexeme = .read offset script → s.Shows tokens

namespace Begins

variable {script here rest : List Char} {fresh : Bool} {gap size : Nat} {t : Token} {tokens : List Token}

theorem nil (script : List Char) : Begins script [] := fun _ _ _ => trivial

theorem cons (hgap : Lexer.skipGap false 0 .blank script = some (fresh, gap, here))
    (htoken : Lexer.token? here = some ⟨t, size, rest⟩) (hrest : Begins rest tokens) : Begins script (t :: tokens) := by
  intro s offset hs
  have hread : Lexeme.read offset script = ⟨t, offset + gap, offset + gap + size, fresh, here, rest⟩ := by
    simp [Lexeme.read, hgap, htoken, Lexeme.at', Lexeme.again]
  rw [hread] at hs
  refine ⟨by rw [hs], hrest s.pass (offset + gap + size) ?_⟩
  simp [State.pass, hs, Lexeme.next]

end Begins
end Bundler.Script
