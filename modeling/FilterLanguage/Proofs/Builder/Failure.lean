import FilterLanguage.Proofs.Builder.Pipeline
import FilterLanguage.Proofs.Resolution.Growth

/-!
# Failures of a builder

A statement is refused because it cannot be written, because it does not
resolve, or because its transform rejects it, and the causes are looked at in
this order.  Only the transform can change the accumulator.  The first refusal
is the outcome of all the calls: those behind it do nothing.
-/

namespace FilterLanguage
namespace Builder

variable {σ : Type} {r : Registry σ} {s : Statement} {t : ResolvedStatement}
  {a b between : σ} {e : Error} {calls before : List (Connective × Statement)}
  {done : List (Connective × ResolvedStatement)}

/-- The statement can be written, it resolves, and it is accepted. -/
structure Admits (r : Registry σ) (s : Statement) (a : σ)
    (t : ResolvedStatement) (b : σ) : Prop where
  writable : s.IsWritable
  resolves : r.ResolvesTo s t
  accepts : ∃ log, r.Accepts t a log b

/-- The statement is refused, and leaves an accumulator. -/
inductive Refuses (r : Registry σ) (s : Statement) (a : σ) : Error → σ → Prop
  | inexpressible {e : Error} (hs : s.IsInexpressible e) : Refuses r s a e a
  | unresolved {e : Error} (hs : s.IsWritable) (hfails : r.FailsWith s e) :
      Refuses r s a e a
  | rejected {t : ResolvedStatement} {o : Overload σ} {transform : Transform σ}
      {b : σ} (hs : s.IsWritable) (hresolves : r.ResolvesTo s t)
      (hchosen : r.IsChosen t o) (htransform : o.transform = some transform)
      (hrejects : transform t a = (false, b)) :
      Refuses r s a (.transformRejected t.signature) b

/-- All the calls are admitted, one after the other. -/
inductive AdmitsAll (r : Registry σ) (a : σ) :
    List (Connective × Statement) → List (Connective × ResolvedStatement) →
      σ → Prop
  | nil : AdmitsAll r a [] [] a
  | append_singleton {calls : List (Connective × Statement)}
      {done : List (Connective × ResolvedStatement)} {s : Statement}
      {t : ResolvedStatement} {between b : σ} (c : Connective)
      (hcalls : AdmitsAll r a calls done between)
      (hstep : Admits r s between t b) :
      AdmitsAll r a (calls ++ [(c, s)]) (done ++ [(c, t)]) b

/-- The calls in front are admitted, and the statement is refused. -/
structure StopsAt (r : Registry σ) (a : σ)
    (before : List (Connective × Statement)) (s : Statement) (between : σ)
    (e : Error) (b : σ) : Prop where
  admitted : ∃ done, AdmitsAll r a before done between
  refused : Refuses r s between e b

/-! ## Single statements -/

/-- What a statement resolves to is always registered, so that only a transform
can refuse it. -/
theorem admits_or_refuses (r : Registry σ) (s : Statement) (a : σ) :
    (∃ t b, Admits r s a t b) ∨ ∃ e b, Refuses r s a e b := by
  rcases s.isWritable_or_isInexpressible with hs | ⟨e, hs⟩
  · rcases r.resolvesTo_or_failsWith s with ⟨t, hresolves⟩ | ⟨e, hfails⟩
    · rcases r.accepts_or_refuses t a with ⟨log, b, haccepts⟩ |
        ⟨log, e, b, hrefuses⟩
      · exact .inl ⟨t, b, hs, hresolves, log, haccepts⟩
      · cases hrefuses with
        | missing hmissing =>
          obtain ⟨o, hchosen⟩ := hresolves.isChosen
          exact (hmissing o hchosen).elim
        | run hchosen htransform hrejects =>
          exact .inr ⟨_, _,
            .rejected hs hresolves hchosen htransform hrejects⟩
    · exact .inr ⟨e, a, .unresolved hs hfails⟩
  · exact .inr ⟨e, a, .inexpressible hs⟩

theorem Admits.tryAdd (hadmits : Admits r s a t b) :
    tryAdd r s a = (.ok t, b) := by
  obtain ⟨log, haccepts⟩ := hadmits.accepts
  exact tryAdd_eq_ok_iff.mpr ⟨hadmits.writable,
    hadmits.resolves.resolveStatement, haccepts.applyStatement⟩

theorem Refuses.tryAdd (hrefuses : Refuses r s a e b) :
    tryAdd r s a = (.error e, b) := by
  cases hrefuses with
  | inexpressible hs =>
    have hcheck := hs.checkExpressible
    simp only [Builder.tryAdd, hcheck]
  | unresolved hs hfails =>
    have hcheck := Statement.checkExpressible_eq_ok_iff.mpr hs
    have hresolve := hfails.resolveStatement
    simp only [Builder.tryAdd, hcheck, hresolve]
  | rejected hs hresolves hchosen htransform hrejects =>
    have hcheck := Statement.checkExpressible_eq_ok_iff.mpr hs
    have hresolve := hresolves.resolveStatement
    have hrefused := Registry.Refuses.run hchosen htransform hrejects
    have happly := hrefused.applyStatement
    simp only [Builder.tryAdd, hcheck, hresolve, happly]

/-- Only a transform changes the accumulator of a statement that is refused. -/
theorem Refuses.accumulator_eq (hrefuses : Refuses r s a e b)
    (he : ∀ signature, e ≠ .transformRejected signature) : b = a := by
  cases hrefuses with
  | inexpressible hs => rfl
  | unresolved hs hfails => rfl
  | rejected hs hresolves hchosen htransform hrejects => exact (he _ rfl).elim

theorem Admits.push {group : Group ResolvedStatement}
    (hadmits : Admits r s a t b) (c : Connective) :
    push ⟨r, group, a, none⟩ c s = ⟨r, join group c t, b, none⟩ := by
  simp only [Builder.push, hadmits.tryAdd]

theorem Refuses.push {group : Group ResolvedStatement}
    (hrefuses : Refuses r s a e b) (c : Connective) :
    push ⟨r, group, a, none⟩ c s = ⟨r, group, b, some e⟩ := by
  simp only [Builder.push, hrefuses.tryAdd]

/-! ## All the calls -/

theorem pushAll_append (builder : Builder σ)
    (before later : List (Connective × Statement)) :
    builder.pushAll (before ++ later) = (builder.pushAll before).pushAll later :=
  List.foldl_append

/-- A builder that has failed stays as it is. -/
theorem pushAll_of_error {builder : Builder σ} (herror : builder.error = some e)
    (later : List (Connective × Statement)) :
    builder.pushAll later = builder := by
  induction later with
  | nil => rfl
  | cons call later ih =>
    have hpush : builder.push call.1 call.2 = builder := by
      simp only [push, herror]
    rw [pushAll, List.foldl_cons, hpush]
    exact ih

theorem AdmitsAll.pushAll (hcalls : AdmitsAll r a calls done b) :
    (ofRegistry r a).pushAll calls = ⟨r, Group.ofCalls done, b, none⟩ := by
  induction hcalls with
  | nil => rfl
  | append_singleton c hcalls hstep ih =>
    rw [pushAll_append_singleton, ih, hstep.push,
      Group.ofCalls_append_singleton]

/-- The admitted calls are resolved one by one, each behind its connective. -/
theorem AdmitsAll.map_statement (hcalls : AdmitsAll r a calls done b) :
    done.map (fun call => (call.1, call.2.statement)) = calls := by
  induction hcalls with
  | nil => rfl
  | append_singleton c hcalls hstep ih =>
    rw [List.map_append, ih, List.map_singleton, hstep.resolves.statement]

theorem StopsAt.exists_pushAll (hstops : StopsAt r a before s between e b)
    (c : Connective) :
    ∃ group, ∀ later, (ofRegistry r a).pushAll (before ++ (c, s) :: later) =
      ⟨r, group, b, some e⟩ := by
  obtain ⟨done, hbefore⟩ := hstops.admitted
  refine ⟨Group.ofCalls done, fun later => ?_⟩
  rw [← List.singleton_append, ← List.append_assoc, pushAll_append,
    pushAll_append_singleton, hbefore.pushAll, hstops.refused.push]
  exact pushAll_of_error rfl later

/-- Either no call fails, or there is a first one that does. -/
theorem admitsAll_or_stopsAt (r : Registry σ) (a : σ)
    (calls : List (Connective × Statement)) :
    (∃ done b, AdmitsAll r a calls done b) ∨
      ∃ before c s later between e b, calls = before ++ (c, s) :: later ∧
        StopsAt r a before s between e b := by
  induction calls using List.reverseRecOn with
  | nil => exact .inl ⟨[], a, .nil⟩
  | append_singleton calls call ih =>
    obtain ⟨c, s⟩ := call
    rcases ih with ⟨done, between, hcalls⟩ |
      ⟨before, c', s', later, between, e, b, rfl, hstops⟩
    · rcases admits_or_refuses r s between with ⟨t, b, hstep⟩ | ⟨e, b, hrefuses⟩
      · exact .inl ⟨_, b, .append_singleton c hcalls hstep⟩
      · exact .inr ⟨calls, c, s, [], between, e, b, rfl, ⟨done, hcalls⟩,
          hrefuses⟩
    · refine .inr ⟨before, c', s', later ++ [(c, s)], between, e, b, ?_,
        hstops⟩
      rw [List.append_assoc, List.cons_append]

/-- The outcome of the calls is the error of the first one that fails.  From
there on the accumulator stays what that call left, which is what it found
unless a transform rejected the statement.  If no call fails then all of them are
built, each statement behind the connective of its call. -/
theorem build_stops_at_first_failure (r : Registry σ) (a : σ) :
    (∀ before s between e b, StopsAt r a before s between e b →
      ((ofRegistry r a).pushAll before).accumulator = between ∧
      ((∀ signature, e ≠ .transformRejected signature) → b = between) ∧
      ∀ c later,
        let builder := (ofRegistry r a).pushAll (before ++ (c, s) :: later)
        builder.build = .error e ∧ builder.accumulator = b) ∧
    (∀ calls done b, AdmitsAll r a calls done b →
      ((ofRegistry r a).pushAll calls).build = .ok ⟨Group.ofCalls done, b⟩ ∧
      done.map (fun call => (call.1, call.2.statement)) = calls ∧
      (Group.ofCalls done).length = 2 * calls.length - 1) ∧
    (∀ calls, (∃ done b, AdmitsAll r a calls done b) ∨
      ∃ before c s later between e b, calls = before ++ (c, s) :: later ∧
        StopsAt r a before s between e b) := by
  refine ⟨?_, ?_, admitsAll_or_stopsAt r a⟩
  · intro before s between e b hstops
    obtain ⟨done, hbefore⟩ := hstops.admitted
    have haccumulator :
        ((ofRegistry r a).pushAll before).accumulator = between := by
      rw [hbefore.pushAll]
    refine ⟨haccumulator, hstops.refused.accumulator_eq, fun c later => ?_⟩
    obtain ⟨group, hpush⟩ := hstops.exists_pushAll c
    dsimp only
    rw [hpush later]
    exact ⟨rfl, rfl⟩
  · intro calls done b hcalls
    have hkept := hcalls.map_statement
    have hlength : done.length = calls.length := by
      simpa using congrArg List.length hkept
    refine ⟨?_, hkept, ?_⟩
    · rw [hcalls.pushAll]
      rfl
    · rw [Group.length_ofCalls, hlength]

/-- The second call is rejected by a transform that counts it; the third would
count as well, but is not reached. -/
theorem build_stops_at_second_call :
    let signature : Signature := ⟨.universal, "is", none⟩
    let count : Transform Nat := fun _ n => (decide (n < 1), n + 1)
    let r : Registry Nat :=
      ⟨["keyword"], [⟨"kind", "keyword", false⟩], TypeToken.wildcards,
        [⟨signature, some count⟩], 0⟩
    let s : Statement := ⟨.reference "kind", "is", none⟩
    let builder := (ofRegistry r 0).pushAll [(.and, s), (.or, s), (.and, s)]
    StopsAt r 0 [(.and, s)] s 1 (.transformRejected signature) 2 ∧
      builder.build = .error (.transformRejected signature) ∧
      builder.accumulator = 2 := by
  intro signature count r s builder
  have hs : s.IsWritable := by
    apply Statement.checkExpressible_eq_ok_iff.mp
    decide +kernel
  let t : ResolvedStatement :=
    ⟨⟨.reference "kind", ⟨.named "keyword", true, false⟩⟩, "is", none, 0,
      signature⟩
  have hresolves : r.ResolvesTo s t := Registry.resolveStatement_eq_ok_iff.mp rfl
  have hchosen : r.IsChosen t ⟨signature, some count⟩ := ⟨rfl, rfl⟩
  have hfirst : Admits r s 0 t 1 :=
    ⟨hs, hresolves, _, .run hchosen rfl rfl⟩
  have hbefore : AdmitsAll r 0 [(.and, s)] [(.and, t)] 1 :=
    .append_singleton .and .nil hfirst
  have hstops : StopsAt r 0 [(.and, s)] s 1 (.transformRejected signature) 2 :=
    ⟨⟨_, hbefore⟩, .rejected hs hresolves hchosen rfl rfl⟩
  have hbuild := (build_stops_at_first_failure r 0).1 _ _ _ _ _ hstops
  exact ⟨hstops, hbuild.2.2 .or [(.and, s)]⟩

end Builder
end FilterLanguage
