import FilterLanguage.Proofs.Group.Shape

/-!
# Two ways through a group

A walk visits the statements of a group call by call, with a stack of what is
left of the groups that were entered.  The monadic map visits them by recursion
and hands on what each visit leaves behind.  Both visit the same statements in
the same order.

The visits of the map are those of a callback with a state that can fail.  To
tell which visits take place, the callback is made to log them; the log stands
beside the state and changes nothing else.
-/

namespace FilterLanguage

/-! ## Walks, call by call -/

namespace Walk

variable {α : Type}

/-- One call: the next statement, if there is one, and the walk behind it.  The
groups that have come to an end are dropped on the way. -/
def call : Walk α → Option α × Walk α
  | ⟨[]⟩ => (none, ⟨[]⟩)
  | ⟨.empty :: stack⟩ => call ⟨stack⟩
  | ⟨.statement s rest :: stack⟩ => (some s, ⟨rest :: stack⟩)
  | ⟨.connective _ rest :: stack⟩ => call ⟨rest :: stack⟩
  | ⟨.nested inner rest :: stack⟩ => call ⟨inner :: rest :: stack⟩
termination_by walk => walk.weight
decreasing_by
  all_goals simp only [weight, Group.weight, List.foldr_cons]; omega

/-- The walk after some calls, be there statements left or not. -/
def behind (walk : Walk α) : Nat → Walk α
  | 0 => walk
  | n + 1 => (walk.behind n).call.2

theorem call_eq_next? (walk : Walk α) :
    walk.call =
      match walk.next? with
      | none => (none, ⟨[]⟩)
      | some (s, after) => (some s, after) := by
  fun_induction next? walk with
  | case1 => rw [call]
  | case2 stack ih => rw [call, ih]
  | case3 s rest stack => rw [call]
  | case4 c rest stack ih => rw [call, ih]
  | case5 inner rest stack ih => rw [call, ih]

theorem next?_eq_call (walk : Walk α) :
    walk.next? = walk.call.1.map fun s => (s, walk.call.2) := by
  rw [call_eq_next?]
  cases walk.next? <;> rfl

/-- A call takes the first statement that is ahead. -/
theorem call_takes (walk : Walk α) :
    walk.call.1 = walk.ahead.head? ∧ walk.call.2.ahead = walk.ahead.tail := by
  rw [call_eq_next?, ahead_eq_next? walk]
  cases walk.next? <;> exact ⟨rfl, rfl⟩

theorem ahead_behind (walk : Walk α) (n : Nat) :
    (walk.behind n).ahead = walk.ahead.drop n := by
  induction n with
  | zero => rfl
  | succ n ih => rw [behind, (call_takes _).2, ih, List.tail_drop]

theorem next?_behind (walk : Walk α) (n : Nat) :
    (walk.behind n).next? =
      walk.ahead[n]?.map fun s => (s, walk.behind (n + 1)) := by
  have hanswer : (walk.behind n).call.1 = walk.ahead[n]? := by
    rw [(call_takes _).1, ahead_behind, List.head?_drop]
  rw [next?_eq_call, hanswer, behind]

end Walk

namespace Group

variable {α β : Type}

/-! ## Shapes -/

/-- The same connectives and the same nesting, with one statement for each
statement. -/
def SameShape (g : Group α) (h : Group β) : Prop :=
  Related (fun _ _ => True) g h

/-- A group is known by its shape and its statements. -/
theorem SameShape.eq_of_flat_eq {g : Group α} {h k : Group β}
    (hh : g.SameShape h) (hk : g.SameShape k) (hflat : h.flat = k.flat) :
    h = k := by
  unfold SameShape at hh hk
  induction hh generalizing k with
  | empty =>
    cases hk
    rfl
  | statement hstatement hrest ih =>
    cases hk with
    | statement hstatement' hrest' =>
      obtain ⟨rfl, htail⟩ := List.cons.inj hflat
      rw [ih hrest' htail]
  | connective hrest ih =>
    cases hk with
    | connective hrest' => rw [ih hrest' hflat]
  | nested hinner hrest ihInner ihRest =>
    cases hk with
    | nested hinner' hrest' =>
      have hlength := hinner.length_flat_eq.symm.trans hinner'.length_flat_eq
      obtain ⟨hleft, hright⟩ := List.append_inj hflat hlength
      rw [ihInner hinner' hleft, ihRest hrest' hright]

/-! ## Maps in any monad -/

/-- Mapping a group has the effects of mapping the list of its statements. -/
theorem flat_mapM {m : Type → Type} [Monad m] [LawfulMonad m] (f : α → m β)
    (g : Group α) : flat <$> g.mapM f = g.flat.mapM f := by
  induction g with
  | empty => simp [mapM, flat]
  | statement s rest ih =>
    rw [flat, List.mapM_cons, ← ih]
    simp [mapM, flat]
  | connective c rest ih =>
    rw [flat, ← ih]
    simp [mapM, flat]
  | nested inner rest ihInner ihRest =>
    rw [flat, List.mapM_append, ← ihInner, ← ihRest]
    simp [mapM, flat]

/-! ## Callbacks -/

/-- A callback may fail, and it may change a state, which stays changed when it
fails. -/
abbrev Callback (α β ε σ : Type) := α → ExceptT ε (StateM σ) β

section Callback

variable {γ ε σ : Type} {f : Callback α β ε σ} {ss calls : List α} {ts : List β}
  {a b : σ} {e : ε}

def runFrom (x : ExceptT ε (StateM σ) β) (a : σ) : Except ε β × σ := x.run.run a

theorem runFrom_bind (x : ExceptT ε (StateM σ) β)
    (k : β → ExceptT ε (StateM σ) γ) (a : σ) :
    runFrom (x >>= k) a =
      match runFrom x a with
      | (.ok t, b) => runFrom (k t) b
      | (.error e, b) => (.error e, b) := by
  simp only [runFrom, bind, ExceptT.bind, ExceptT.run, ExceptT.mk, StateT.bind,
    StateT.run, ExceptT.bindCont]
  rcases x a with ⟨answer | answer, b⟩ <;> rfl

theorem runFrom_bind_eq_ok_iff {x : ExceptT ε (StateM σ) β}
    {k : β → ExceptT ε (StateM σ) γ} {u : γ} :
    runFrom (x >>= k) a = (.ok u, b) ↔
      ∃ t between, runFrom x a = (.ok t, between) ∧
        runFrom (k t) between = (.ok u, b) := by
  rw [runFrom_bind]
  rcases runFrom x a with ⟨answer, between⟩
  cases answer with
  | ok t => simp [eq_comm, and_assoc]
  | error e => simp

theorem runFrom_map (k : β → γ) (x : ExceptT ε (StateM σ) β) (a : σ) :
    runFrom (k <$> x) a = ((runFrom x a).1.map k, (runFrom x a).2) := by
  simp only [runFrom, Functor.map, ExceptT.map, ExceptT.run, ExceptT.mk,
    StateT.bind, StateT.run, bind]
  rcases x a with ⟨answer | answer, b⟩ <;> rfl

theorem sameShape_of_mapM {g : Group α} {h : Group β}
    (hmap : runFrom (g.mapM f) a = (.ok h, b)) : g.SameShape h := by
  induction g generalizing h a b with
  | empty =>
    cases hmap
    exact .empty
  | statement s rest ih =>
    obtain ⟨t, between, -, htail⟩ := runFrom_bind_eq_ok_iff.mp hmap
    obtain ⟨rest', after, hrest, hpure⟩ := runFrom_bind_eq_ok_iff.mp htail
    cases hpure
    exact .statement trivial (ih hrest)
  | connective c rest ih =>
    obtain ⟨rest', after, hrest, hpure⟩ := runFrom_bind_eq_ok_iff.mp hmap
    cases hpure
    exact .connective (ih hrest)
  | nested inner rest ihInner ihRest =>
    obtain ⟨inner', between, hinner, htail⟩ := runFrom_bind_eq_ok_iff.mp hmap
    obtain ⟨rest', after, hrest, hpure⟩ := runFrom_bind_eq_ok_iff.mp htail
    cases hpure
    exact .nested (ihInner hinner) (ihRest hrest)

/-! ## Logged callbacks -/

/-- The callback that logs each of its calls. -/
def logged (f : Callback α β ε σ) : Callback α β ε (σ × List α) := fun s =>
  ExceptT.mk fun state =>
    let (answer, after) := runFrom (f s) state.1
    (answer, after, state.2 ++ [s])

theorem runFrom_logged (f : Callback α β ε σ) (s : α) (a : σ) (log : List α) :
    runFrom (logged f s) (a, log) =
      ((runFrom (f s) a).1, (runFrom (f s) a).2, log ++ [s]) := rfl

/-- The second computation does what the first does and keeps a log. -/
def IsLogOf (x : ExceptT ε (StateM σ) β)
    (y : ExceptT ε (StateM (σ × List α)) β) : Prop :=
  ∀ a log, runFrom x a = ((runFrom y (a, log)).1, (runFrom y (a, log)).2.1)

theorem IsLogOf.bind {x : ExceptT ε (StateM σ) β}
    {y : ExceptT ε (StateM (σ × List α)) β} {k : β → ExceptT ε (StateM σ) γ}
    {l : β → ExceptT ε (StateM (σ × List α)) γ} (hxy : IsLogOf x y)
    (hkl : ∀ t, IsLogOf (k t) (l t)) : IsLogOf (x >>= k) (y >>= l) := by
  intro a log
  rw [runFrom_bind, runFrom_bind, hxy a log]
  rcases runFrom y (a, log) with ⟨answer, after, log'⟩
  cases answer with
  | ok t => exact hkl t after log'
  | error e => rfl

theorem isLogOf_pure (t : β) :
    IsLogOf (α := α) (pure t : ExceptT ε (StateM σ) β) (pure t) :=
  fun _ _ => rfl

theorem isLogOf_mapM (f : Callback α β ε σ) (g : Group α) :
    IsLogOf (g.mapM f) (g.mapM (logged f)) := by
  induction g with
  | empty => exact isLogOf_pure _
  | statement s rest ih =>
    have hs : IsLogOf (f s) (logged f s) := fun _ _ => rfl
    exact hs.bind fun _ => ih.bind fun _ => isLogOf_pure _
  | connective c rest ih => exact ih.bind fun _ => isLogOf_pure _
  | nested inner rest ihInner ihRest =>
    exact ihInner.bind fun _ => ihRest.bind fun _ => isLogOf_pure _

/-! ## Visits -/

/-- The callback succeeds on all these statements, one after the other. -/
inductive Answers (f : Callback α β ε σ) : σ → List α → List β → σ → Prop
  | nil {a : σ} : Answers f a [] [] a
  | cons {s : α} {ss : List α} {t : β} {ts : List β} {a b c : σ}
      (hfirst : runFrom (f s) a = (.ok t, b)) (hrest : Answers f b ss ts c) :
      Answers f a (s :: ss) (t :: ts) c

/-- The callback succeeds on the statements in front of some statement and fails
on that one, which is the last to be visited. -/
def Breaks (f : Callback α β ε σ) (a : σ) (ss calls : List α) (e : ε) (b : σ) :
    Prop :=
  ∃ front s rest ts between, ss = front ++ s :: rest ∧
    Answers f a front ts between ∧ runFrom (f s) between = (.error e, b) ∧
    calls = front ++ [s]

/-- Statements that are all answered put their results in front of those of the
statements behind them, be these answered or not. -/
theorem Answers.mapM_append (hanswers : Answers f a ss ts b)
    (rest log : List α) :
    runFrom ((ss ++ rest).mapM (logged f)) (a, log) =
      runFrom ((ts ++ ·) <$> rest.mapM (logged f)) (b, log ++ ss) := by
  induction hanswers generalizing log with
  | nil => simp
  | @cons s ss t ts a b c hfirst hrest ih =>
    rw [List.cons_append, List.mapM_cons, runFrom_bind, runFrom_logged, hfirst]
    dsimp only
    rw [bind_pure_comp, runFrom_map, ih, ← runFrom_map]
    simp

theorem Answers.mapM (hanswers : Answers f a ss ts b) :
    runFrom (ss.mapM (logged f)) (a, []) = (.ok ts, b, ss) := by
  have hmap := hanswers.mapM_append [] []
  rw [List.append_nil, List.mapM_nil, map_pure, List.append_nil] at hmap
  exact hmap

theorem Breaks.mapM (hbreaks : Breaks f a ss calls e b) :
    runFrom (ss.mapM (logged f)) (a, []) = (.error e, b, calls) := by
  obtain ⟨front, s, rest, ts, between, rfl, hanswers, hfails, rfl⟩ := hbreaks
  rw [hanswers.mapM_append, runFrom_map, List.mapM_cons, runFrom_bind,
    runFrom_logged, hfails]
  rfl

theorem Breaks.cons {s : α} {t : β} {between : σ}
    (hfirst : runFrom (f s) a = (.ok t, between))
    (hbreaks : Breaks f between ss calls e b) :
    Breaks f a (s :: ss) (s :: calls) e b := by
  obtain ⟨front, last, rest, ts, middle, rfl, hanswers, hfails, rfl⟩ := hbreaks
  exact ⟨s :: front, last, rest, t :: ts, middle, rfl, .cons hfirst hanswers,
    hfails, rfl⟩

theorem answers_or_breaks (f : Callback α β ε σ) (a : σ) (ss : List α) :
    (∃ ts b, Answers f a ss ts b) ∨ ∃ calls e b, Breaks f a ss calls e b := by
  induction ss generalizing a with
  | nil => exact .inl ⟨[], a, .nil⟩
  | cons s ss ih =>
    cases hfirst : runFrom (f s) a with
    | mk answer between =>
      cases answer with
      | error e =>
        exact .inr ⟨[s], e, between, [], s, ss, [], a, rfl, .nil, hfirst, rfl⟩
      | ok t =>
        rcases ih between with ⟨ts, b, hanswers⟩ | ⟨calls, e, b, hbreaks⟩
        · exact .inl ⟨t :: ts, b, .cons hfirst hanswers⟩
        · exact .inr ⟨s :: calls, e, b, hbreaks.cons hfirst⟩

theorem mapM_logged_eq_ok_iff :
    runFrom (ss.mapM (logged f)) (a, []) = (.ok ts, b, calls) ↔
      Answers f a ss ts b ∧ calls = ss := by
  constructor
  · intro hmap
    rcases answers_or_breaks f a ss with ⟨ts', b', hanswers⟩ |
      ⟨calls', e, b', hbreaks⟩
    · rw [hanswers.mapM] at hmap
      simp only [Prod.mk.injEq, Except.ok.injEq] at hmap
      obtain ⟨rfl, rfl, rfl⟩ := hmap
      exact ⟨hanswers, rfl⟩
    · rw [hbreaks.mapM] at hmap
      cases hmap
  · rintro ⟨hanswers, rfl⟩
    exact hanswers.mapM

theorem mapM_logged_eq_error_iff :
    runFrom (ss.mapM (logged f)) (a, []) = (.error e, b, calls) ↔
      Breaks f a ss calls e b := by
  refine ⟨fun hmap => ?_, Breaks.mapM⟩
  rcases answers_or_breaks f a ss with ⟨ts, b', hanswers⟩ |
    ⟨calls', e', b', hbreaks⟩
  · rw [hanswers.mapM] at hmap
    cases hmap
  · rw [hbreaks.mapM] at hmap
    simp only [Prod.mk.injEq, Except.error.injEq] at hmap
    obtain ⟨rfl, rfl, rfl⟩ := hmap
    exact hbreaks

/-! ## Visits of a group -/

theorem runFrom_mapM_flat (f : Callback α β ε σ) (g : Group α) (a : σ) :
    runFrom (g.flat.mapM f) a =
      ((runFrom (g.mapM f) a).1.map flat, (runFrom (g.mapM f) a).2) := by
  rw [← flat_mapM, runFrom_map]

theorem mapM_error_iff_breaks {g : Group α} :
    runFrom (g.mapM (logged f)) (a, []) = (.error e, b, calls) ↔
      Breaks f a g.flat calls e b := by
  rw [← mapM_logged_eq_error_iff, runFrom_mapM_flat]
  rcases runFrom (g.mapM (logged f)) (a, []) with ⟨answer, after⟩
  cases answer with
  | ok h => simp [Except.map]
  | error e' => simp [Except.map]

/-- The calls tell the statements of the result, and the map keeps the shape. -/
theorem mapM_ok_iff_answers {g : Group α} {h : Group β} :
    runFrom (g.mapM (logged f)) (a, []) = (.ok h, b, calls) ↔
      g.SameShape h ∧ Answers f a g.flat h.flat b ∧ calls = g.flat := by
  rw [← mapM_logged_eq_ok_iff, runFrom_mapM_flat]
  constructor
  · intro hmap
    rw [hmap]
    exact ⟨sameShape_of_mapM hmap, rfl⟩
  · rintro ⟨hshape, hlist⟩
    cases hmap : runFrom (g.mapM (logged f)) (a, []) with
    | mk answer after =>
      rw [hmap] at hlist
      cases answer with
      | error e => cases hlist
      | ok k =>
        simp only [Except.map, Prod.mk.injEq, Except.ok.injEq] at hlist
        obtain ⟨hflat, rfl⟩ := hlist
        rw [hshape.eq_of_flat_eq (sameShape_of_mapM hmap) hflat.symm]

/-- The calls of a walk give the statements of a group in the order of the text,
and nothing from then on.  The map visits the same statements in the same order,
up to the first one that its callback fails on and no further.  When there is
none, the results stand in the places of the statements. -/
theorem traversals_agree (g : Group α) (f : Callback α β ε σ) (a : σ) :
    let walk := Walk.ofGroup g
    let trace := runFrom (g.mapM (logged f)) (a, [])
    g.statements = g.flat ∧
    (∀ n, (walk.behind n).next? =
      g.flat[n]?.map fun s => (s, walk.behind (n + 1))) ∧
    runFrom (g.mapM f) a = (trace.1, trace.2.1) ∧
    (∀ e b calls, trace = (.error e, b, calls) ↔ Breaks f a g.flat calls e b) ∧
    (∀ h b calls, trace = (.ok h, b, calls) ↔
      g.SameShape h ∧ Answers f a g.flat h.statements b ∧ calls = g.flat) ∧
    ∀ h : Group β, g.SameShape h → h.depth = g.depth ∧ h.length = g.length := by
  intro walk trace
  refine ⟨g.statements_eq_flat, ?_, isLogOf_mapM f g a [],
    fun _ _ _ => mapM_error_iff_breaks, ?_, ?_⟩
  · intro n
    rw [Walk.next?_behind, Walk.ahead_ofGroup]
  · intro h b calls
    rw [h.statements_eq_flat]
    exact mapM_ok_iff_answers
  · intro h hshape
    exact ⟨hshape.depth_eq.symm, hshape.length_eq.symm⟩

/-- Empty groups and connectives in a row are passed over; the third statement
fails, and the fourth is left to the walk. -/
theorem traversals_agree_failure :
    let f : Callback Nat Nat String Nat := fun s =>
      ExceptT.mk fun n => (if s = 3 then .error "three" else .ok (s * n), n + 1)
    let g : Group Nat :=
      .nested .empty (.connective .and (.connective .or
        (.nested (.statement 1 (.nested (.statement 2 (.nested .empty .empty))
          .empty)) (.statement 3 (.statement 4 (.connective .and .empty))))))
    let walk := Walk.ofGroup g
    runFrom (g.mapM (logged f)) (7, []) = (.error "three", 10, [1, 2, 3]) ∧
      Breaks f 7 g.flat [1, 2, 3] "three" 10 ∧
      runFrom (g.mapM f) 7 = (.error "three", 10) ∧
      (walk.behind 3).next? = some (4, walk.behind 4) ∧
      (walk.behind 4).next? = none ∧ (walk.behind 9).next? = none := by
  intro f g walk
  obtain ⟨-, hcalls, hplain, hbreaks, -, -⟩ := traversals_agree g f 7
  have htrace : runFrom (g.mapM (logged f)) (7, []) =
      (.error "three", 10, [1, 2, 3]) := rfl
  rw [htrace] at hplain
  exact ⟨htrace, (hbreaks "three" 10 [1, 2, 3]).mp htrace, hplain, hcalls 3,
    hcalls 4, hcalls 9⟩

end Callback

end Group

end FilterLanguage
