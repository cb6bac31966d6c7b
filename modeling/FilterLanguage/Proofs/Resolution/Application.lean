import FilterLanguage.Proofs.Group.Shape
import FilterLanguage.Resolution.Resolve

/-!
# Application as a fold

Applying a group goes through its statements in the order of the text and stops
at the first one that is not accepted.  To tell which transforms are run, every
transform of a registry is made to log its calls; the log is part of the
accumulator and changes nothing else.
-/

namespace FilterLanguage

/-- One run of a transform: the place of its overload, and the statement. -/
structure Call where
  overload : Nat
  statement : ResolvedStatement
deriving DecidableEq

/-- The overload with a transform that logs each of its calls. -/
def Overload.logged {σ : Type} (place : Nat) (o : Overload σ) :
    Overload (σ × List Call) where
  signature := o.signature
  transform := o.transform.map fun transform s state =>
    let (accepted, after) := transform s state.1
    (accepted, after, state.2 ++ [⟨place, s⟩])

namespace Registry

variable {σ : Type} {r : Registry σ} {s : ResolvedStatement}
  {ss : List ResolvedStatement} {a b : σ} {calls : List Call} {e : Error}

def logged (r : Registry σ) : Registry (σ × List Call) where
  types := r.types
  references := r.references
  tokens := r.tokens
  overloads := r.overloads.mapIdx Overload.logged
  accumulator := (r.accumulator, [])

/-- The overload stands where the statement was resolved to, under the
signature it was resolved to. -/
structure IsChosen (r : Registry σ) (s : ResolvedStatement) (o : Overload σ) :
    Prop where
  found : r.overloads[s.overload]? = some o
  signature : o.signature = s.signature

/-- The statement is accepted.  An overload without a transform accepts it and
changes nothing. -/
inductive Accepts (r : Registry σ) (s : ResolvedStatement) :
    σ → List Call → σ → Prop
  | silent {o : Overload σ} {a : σ} (hchosen : r.IsChosen s o)
      (hnone : o.transform = none) : Accepts r s a [] a
  | run {o : Overload σ} {transform : Transform σ} {a b : σ}
      (hchosen : r.IsChosen s o) (htransform : o.transform = some transform)
      (haccepts : transform s a = (true, b)) :
      Accepts r s a [⟨s.overload, s⟩] b

/-- The statement is not accepted: its overload is not registered, or the
transform rejects it. -/
inductive Refuses (r : Registry σ) (s : ResolvedStatement) :
    σ → List Call → Error → σ → Prop
  | missing {a : σ} (hmissing : ∀ o, ¬ r.IsChosen s o) :
      Refuses r s a []
        (.noMatchingOverload (.exactly s.signature.left s.signature.operator
          s.signature.right) r.signatures) a
  | run {o : Overload σ} {transform : Transform σ} {a b : σ}
      (hchosen : r.IsChosen s o) (htransform : o.transform = some transform)
      (hrejects : transform s a = (false, b)) :
      Refuses r s a [⟨s.overload, s⟩] (.transformRejected s.signature) b

/-- All the statements are accepted, one after the other. -/
inductive Runs (r : Registry σ) :
    List ResolvedStatement → σ → List Call → σ → Prop
  | nil {a : σ} : Runs r [] a [] a
  | cons {s : ResolvedStatement} {ss : List ResolvedStatement} {a b c : σ}
      {calls later : List Call} (hstep : r.Accepts s a calls b)
      (hrest : Runs r ss b later c) : Runs r (s :: ss) a (calls ++ later) c

/-- The statements in front of some statement are accepted, and that one is
not. -/
def Stops (r : Registry σ) (ss : List ResolvedStatement) (a : σ)
    (calls : List Call) (e : Error) (b : σ) : Prop :=
  ∃ before s after ran between last, ss = before ++ s :: after ∧
    r.Runs before a ran between ∧ r.Refuses s between last e b ∧
    calls = ran ++ last

/-! ## The chosen overload -/

theorem chosen?_eq_some_iff {o : Overload σ} :
    r.chosen? s = some o ↔ r.IsChosen s o := by
  have hfilter : r.chosen? s = some o ↔
      r.overloads[s.overload]? = some o ∧ o.signature = s.signature := by
    rw [chosen?, Option.filter_eq_some_iff, beq_iff_eq]
  rw [hfilter]
  constructor
  · rintro ⟨hfound, hsignature⟩
    exact ⟨hfound, hsignature⟩
  · intro hchosen
    exact ⟨hchosen.found, hchosen.signature⟩

theorem chosen?_eq_none (hmissing : ∀ o, ¬ r.IsChosen s o) :
    r.chosen? s = none := by
  cases hchosen : r.chosen? s with
  | none => rfl
  | some o => exact (hmissing o (chosen?_eq_some_iff.mp hchosen)).elim

theorem chosen?_logged (r : Registry σ) (s : ResolvedStatement) :
    r.logged.chosen? s = (r.chosen? s).map (Overload.logged s.overload) := by
  have hplace : r.logged.overloads[s.overload]? =
      (r.overloads[s.overload]?).map (Overload.logged s.overload) :=
    List.getElem?_mapIdx
  rw [chosen?, chosen?, hplace, Option.filter_map]
  rfl

theorem IsChosen.logged {o : Overload σ} (hchosen : r.IsChosen s o) :
    r.logged.chosen? s = some (o.logged s.overload) := by
  rw [chosen?_logged, chosen?_eq_some_iff.mpr hchosen, Option.map_some]

theorem signatures_logged (r : Registry σ) :
    r.logged.signatures = r.signatures := by
  apply List.ext_getElem?
  intro i
  simp only [signatures, logged, List.getElem?_map, List.getElem?_mapIdx,
    Option.map_map]
  rfl

/-! ## Single statements -/

theorem Accepts.logged (haccepts : r.Accepts s a calls b) (log : List Call) :
    r.logged.applyStatement s (a, log) = (.ok (), b, log ++ calls) := by
  cases haccepts with
  | silent hchosen hnone =>
    simp [applyStatement, hchosen.logged, Overload.apply, Overload.logged,
      hnone]
  | run hchosen htransform haccepts =>
    simp [applyStatement, hchosen.logged, Overload.apply, Overload.logged,
      htransform, haccepts]

theorem Refuses.logged (hrefuses : r.Refuses s a calls e b) (log : List Call) :
    r.logged.applyStatement s (a, log) = (.error e, b, log ++ calls) := by
  cases hrefuses with
  | missing hmissing =>
    simp [applyStatement, chosen?_logged, chosen?_eq_none hmissing,
      signatures_logged]
  | run hchosen htransform hrejects =>
    simp [applyStatement, hchosen.logged, Overload.apply, Overload.logged,
      htransform, hrejects]

theorem accepts_or_refuses (r : Registry σ) (s : ResolvedStatement) (a : σ) :
    (∃ calls b, r.Accepts s a calls b) ∨
      ∃ calls e b, r.Refuses s a calls e b := by
  by_cases hchosen : ∃ o, r.IsChosen s o
  · obtain ⟨o, hchosen⟩ := hchosen
    cases htransform : o.transform with
    | none => exact .inl ⟨_, _, .silent hchosen htransform⟩
    | some transform =>
      rcases hresult : transform s a with ⟨accepted, b⟩
      cases accepted with
      | true => exact .inl ⟨_, _, .run hchosen htransform hresult⟩
      | false => exact .inr ⟨_, _, _, .run hchosen htransform hresult⟩
  · have hmissing : ∀ o, ¬ r.IsChosen s o := not_exists.mp hchosen
    exact .inr ⟨_, _, _, .missing hmissing⟩

/-- Logging leaves the outcome and the accumulator as they are. -/
theorem applyStatement_logged (r : Registry σ) (s : ResolvedStatement) (a : σ)
    (log : List Call) :
    ((r.logged.applyStatement s (a, log)).1,
        (r.logged.applyStatement s (a, log)).2.1) = r.applyStatement s a := by
  unfold applyStatement
  rw [chosen?_logged, signatures_logged]
  cases hchosen : r.chosen? s with
  | none => rfl
  | some o =>
    cases htransform : o.transform with
    | none => simp [Overload.apply, Overload.logged, htransform]
    | some transform =>
      rcases hresult : transform s a with ⟨accepted, b⟩
      cases accepted <;>
        simp [Overload.apply, Overload.logged, htransform, hresult]

theorem Accepts.applyStatement (haccepts : r.Accepts s a calls b) :
    r.applyStatement s a = (.ok (), b) := by
  rw [← r.applyStatement_logged s a [], haccepts.logged []]

theorem Refuses.applyStatement (hrefuses : r.Refuses s a calls e b) :
    r.applyStatement s a = (.error e, b) := by
  rw [← r.applyStatement_logged s a [], hrefuses.logged []]

/-! ## Lists of statements -/

theorem Runs.logged (hruns : r.Runs ss a calls b)
    (rest : List ResolvedStatement) (log : List Call) :
    r.logged.applyAll (ss ++ rest) (a, log) =
      r.logged.applyAll rest (b, log ++ calls) := by
  induction hruns generalizing log with
  | nil => rw [List.nil_append, List.append_nil]
  | cons hstep hrest ih =>
    rw [List.cons_append, applyAll, hstep.logged log]
    dsimp only
    rw [ih, List.append_assoc]

theorem Stops.logged (hstops : r.Stops ss a calls e b) (log : List Call) :
    r.logged.applyAll ss (a, log) = (.error e, b, log ++ calls) := by
  obtain ⟨before, s, after, ran, between, last, rfl, hruns, hrefuses, rfl⟩ :=
    hstops
  rw [hruns.logged, applyAll, hrefuses.logged]
  dsimp only
  rw [List.append_assoc]

theorem runs_or_stops (r : Registry σ) (ss : List ResolvedStatement) (a : σ) :
    (∃ calls b, r.Runs ss a calls b) ∨ ∃ calls e b, r.Stops ss a calls e b := by
  induction ss generalizing a with
  | nil => exact .inl ⟨[], a, .nil⟩
  | cons s ss ih =>
    rcases r.accepts_or_refuses s a with ⟨calls, b, hstep⟩ |
      ⟨calls, e, b, hrefuses⟩
    · rcases ih b with ⟨later, c, hruns⟩ | ⟨later, e, c, hstops⟩
      · exact .inl ⟨calls ++ later, c, .cons hstep hruns⟩
      · obtain ⟨before, t, after, ran, between, last, rfl, hruns, hrefuses,
          rfl⟩ := hstops
        refine .inr ⟨calls ++ ran ++ last, e, c, s :: before, t, after,
          calls ++ ran, between, last, rfl, .cons hstep hruns, hrefuses, rfl⟩
    · exact .inr ⟨calls, e, b, [], s, ss, [], a, calls, rfl, .nil, hrefuses,
        rfl⟩

theorem applyAll_logged_eq_ok_iff :
    r.logged.applyAll ss (a, []) = (.ok (), b, calls) ↔
      r.Runs ss a calls b := by
  have hok : ∀ {calls b}, r.Runs ss a calls b →
      r.logged.applyAll ss (a, []) = (.ok (), b, calls) := by
    intro calls b hruns
    have happly := hruns.logged [] []
    rwa [List.append_nil] at happly
  refine ⟨fun happly => ?_, hok⟩
  rcases r.runs_or_stops ss a with ⟨calls', b', hruns⟩ |
    ⟨calls', e, b', hstops⟩
  · rw [hok hruns] at happly
    simp only [Prod.mk.injEq, true_and] at happly
    obtain ⟨rfl, rfl⟩ := happly
    exact hruns
  · have herror := hstops.logged []
    rw [happly] at herror
    cases herror

theorem applyAll_logged_eq_error_iff :
    r.logged.applyAll ss (a, []) = (.error e, b, calls) ↔
      r.Stops ss a calls e b := by
  refine ⟨fun happly => ?_, fun hstops => hstops.logged []⟩
  rcases r.runs_or_stops ss a with ⟨calls', b', hruns⟩ |
    ⟨calls', e', b', hstops⟩
  · rw [applyAll_logged_eq_ok_iff.mpr hruns] at happly
    cases happly
  · have herror := hstops.logged []
    rw [happly] at herror
    simp only [List.nil_append, Prod.mk.injEq, Except.error.injEq] at herror
    obtain ⟨rfl, rfl, rfl⟩ := herror
    exact hstops

theorem applyAll_logged (r : Registry σ) (ss : List ResolvedStatement) (a : σ)
    (log : List Call) :
    ((r.logged.applyAll ss (a, log)).1, (r.logged.applyAll ss (a, log)).2.1) =
      r.applyAll ss a := by
  induction ss generalizing a log with
  | nil => rfl
  | cons s ss ih =>
    have hstep := r.applyStatement_logged s a log
    rw [applyAll, applyAll, ← hstep]
    rcases r.logged.applyStatement s (a, log) with ⟨outcome, after, log'⟩
    cases outcome with
    | error e => rfl
    | ok _ => exact ih after log'

/-! ## Calls -/

/-- The call is of the overload that its statement was resolved to. -/
def Owns (r : Registry σ) (call : Call) : Prop :=
  call.overload = call.statement.overload ∧
    ∃ o, r.IsChosen call.statement o

theorem Accepts.owns (haccepts : r.Accepts s a calls b) :
    ∀ call ∈ calls, r.Owns call := by
  intro call hcall
  cases haccepts with
  | silent hchosen hnone => cases hcall
  | run hchosen htransform haccepts =>
    obtain rfl := List.mem_singleton.mp hcall
    exact ⟨rfl, _, hchosen⟩

theorem Refuses.owns (hrefuses : r.Refuses s a calls e b) :
    ∀ call ∈ calls, r.Owns call := by
  intro call hcall
  cases hrefuses with
  | missing hmissing => cases hcall
  | run hchosen htransform hrejects =>
    obtain rfl := List.mem_singleton.mp hcall
    exact ⟨rfl, _, hchosen⟩

theorem Runs.owns (hruns : r.Runs ss a calls b) :
    ∀ call ∈ calls, r.Owns call := by
  induction hruns with
  | nil => simp
  | cons hstep hrest ih => exact List.forall_mem_append.mpr ⟨hstep.owns, ih⟩

theorem Stops.owns (hstops : r.Stops ss a calls e b) :
    ∀ call ∈ calls, r.Owns call := by
  obtain ⟨before, s, after, ran, between, last, rfl, hruns, hrefuses, rfl⟩ :=
    hstops
  exact List.forall_mem_append.mpr ⟨hruns.owns, hrefuses.owns⟩

theorem owns_of_applyAll_logged (r : Registry σ)
    (ss : List ResolvedStatement) (a : σ) :
    ∀ call ∈ (r.logged.applyAll ss (a, [])).2.2, r.Owns call := by
  rcases r.runs_or_stops ss a with ⟨calls, b, hruns⟩ | ⟨calls, e, b, hstops⟩
  · rw [applyAll_logged_eq_ok_iff.mpr hruns]
    exact hruns.owns
  · rw [applyAll_logged_eq_error_iff.mpr hstops]
    exact hstops.owns

/-- Application runs the transforms of the statements in the order of the text,
up to the first statement that is not accepted, and no others. -/
theorem apply_isFold (r : Registry σ) (g : Group ResolvedStatement) (a : σ) :
    let trace := r.logged.apply g (a, [])
    r.apply g a = (trace.1, trace.2.1) ∧
    (∀ calls b, trace = (.ok (), b, calls) ↔ r.Runs g.flat a calls b) ∧
    (∀ calls e b, trace = (.error e, b, calls) ↔
      r.Stops g.flat a calls e b) ∧
    (∀ call ∈ trace.2.2, r.Owns call) := by
  intro trace
  have htrace : trace = r.logged.applyAll g.flat (a, []) := by
    rw [← Group.statements_eq_flat]
    rfl
  have hplain : r.apply g a = r.applyAll g.flat a := by
    rw [apply, Group.statements_eq_flat]
  rw [htrace, hplain]
  exact ⟨(r.applyAll_logged g.flat a []).symm,
    fun _ _ => applyAll_logged_eq_ok_iff,
    fun _ _ _ => applyAll_logged_eq_error_iff,
    r.owns_of_applyAll_logged g.flat a⟩

/-- The second statement was resolved to another overload than stands at its
place, and the third is not reached. -/
theorem apply_stops_at_foreign :
    let count : Transform Nat := fun _ n => (true, n + 1)
    let signature : Signature := ⟨.universal, "is", none⟩
    let other : Signature := ⟨.universal, "has", none⟩
    let r : Registry Nat :=
      ⟨[], [], TypeToken.wildcards,
        [⟨signature, some count⟩, ⟨signature, some count⟩], 0⟩
    let left : TypedOperand := ⟨.reference "x", ⟨.named "t", true, false⟩⟩
    let own : ResolvedStatement := ⟨left, "is", none, 0, signature⟩
    let foreign : ResolvedStatement := ⟨left, "has", none, 1, other⟩
    let g : Group ResolvedStatement :=
      .nested (.statement own .empty)
        (.connective .or (.statement foreign
          (.connective .and (.statement own .empty))))
    r.logged.apply g (7, []) =
        (.error (.noMatchingOverload (.exactly .universal "has" none)
          [signature, signature]), 8, [⟨0, own⟩]) ∧
      r.Owns ⟨0, own⟩ ∧
      r.apply g 7 = (.error (.noMatchingOverload
        (.exactly .universal "has" none) [signature, signature]), 8) := by
  intro count signature other r left own foreign g
  have htrace : r.logged.apply g (7, []) =
      (.error (.noMatchingOverload (.exactly .universal "has" none)
        [signature, signature]), 8, [⟨0, own⟩]) := by
    rw [apply, Group.statements_eq_flat]
    rfl
  obtain ⟨hplain, -, -, howns⟩ := apply_isFold r g 7
  rw [htrace] at hplain howns
  exact ⟨htrace, howns ⟨0, own⟩ (List.mem_singleton.mpr rfl), hplain⟩

end Registry

end FilterLanguage
