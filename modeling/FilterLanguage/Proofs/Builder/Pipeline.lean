import FilterLanguage.Proofs.Builder.Expressible
import FilterLanguage.Proofs.Resolution.FirstMatch

/-!
# Builders and the text pipeline

Pushing statements one at a time does the same as printing the whole group,
parsing the text, resolving the result and applying it.  Both sides are taken
apart at the last call: the builder by its step, the pipeline because resolving
and applying respect the joining of groups.
-/

namespace FilterLanguage

namespace Group

variable {α β : Type}

/-- Connectives, each with the statement behind it. -/
def joined : List (Connective × α) → Group α
  | [] => .empty
  | (c, s) :: calls => .connective c (.statement s (joined calls))

/-- The flat group of some calls, without the connective of the first one. -/
def ofCalls : List (Connective × α) → Group α
  | [] => .empty
  | (_, s) :: calls => .statement s (joined calls)

theorem alternates_joined (calls : List (Connective × α)) :
    (joined calls).Alternates .connective := by
  induction calls with
  | nil => trivial
  | cons call calls ih => exact ih

theorem isFilter_ofCalls (calls : List (Connective × α)) :
    (ofCalls calls).IsFilter := by
  cases calls with
  | nil => exact .inl rfl
  | cons call calls => exact .inr (alternates_joined calls)

theorem flat_joined (calls : List (Connective × α)) :
    (joined calls).flat = calls.map Prod.snd := by
  induction calls with
  | nil => rfl
  | cons call calls ih => simp [joined, flat, ih]

theorem flat_ofCalls (calls : List (Connective × α)) :
    (ofCalls calls).flat = calls.map Prod.snd := by
  cases calls with
  | nil => rfl
  | cons call calls => simp [ofCalls, flat, flat_joined]

theorem length_joined (calls : List (Connective × α)) :
    (joined calls).length = 2 * calls.length := by
  induction calls with
  | nil => rfl
  | cons call calls ih =>
    simp only [joined, length, List.length_cons, ih]
    omega

theorem length_ofCalls (calls : List (Connective × α)) :
    (ofCalls calls).length = 2 * calls.length - 1 := by
  cases calls with
  | nil => rfl
  | cons call calls =>
    simp only [ofCalls, length, List.length_cons, length_joined]
    omega

theorem isWellFormed_ofCalls_iff (calls : List (Connective × Statement)) :
    (ofCalls calls).IsWellFormed ↔ ∀ call ∈ calls, call.2.IsWritable := by
  constructor
  · intro hcalls call hcall
    apply hcalls.writable
    rw [flat_ofCalls]
    exact List.mem_map_of_mem hcall
  · intro hcalls
    refine ⟨isFilter_ofCalls calls, ?_⟩
    intro s hs
    rw [flat_ofCalls] at hs
    obtain ⟨call, hcall, rfl⟩ := List.mem_map.mp hs
    exact hcalls call hcall

theorem innerDepth_joined (calls : List (Connective × α)) :
    (joined calls).innerDepth = 0 := by
  induction calls with
  | nil => rfl
  | cons call calls ih => exact ih

theorem fitsWithin_ofCalls (calls : List (Connective × α))
    (limit : Option Nat) : (ofCalls calls).FitsWithin limit 0 := by
  have hdepth : (ofCalls calls).innerDepth = 0 := by
    cases calls with
    | nil => rfl
    | cons call calls => exact innerDepth_joined calls
  intro bound hbound
  rw [hdepth]
  exact Nat.zero_le bound

theorem joined_append_singleton (calls : List (Connective × α))
    (c : Connective) (s : α) :
    joined (calls ++ [(c, s)]) =
      (joined calls).append (.connective c (.statement s .empty)) := by
  induction calls with
  | nil => rfl
  | cons call calls ih => simp [joined, append, ih]

theorem ofCalls_append_singleton (calls : List (Connective × α))
    (c : Connective) (s : α) :
    ofCalls (calls ++ [(c, s)]) = Builder.join (ofCalls calls) c s := by
  cases calls with
  | nil => rfl
  | cons call calls =>
    simp [ofCalls, Builder.join, isEmpty, append, joined_append_singleton]

theorem flat_join (g : Group α) (c : Connective) (s : α) :
    (Builder.join g c s).flat = g.flat ++ [s] := by
  unfold Builder.join
  split
  next hempty =>
    cases g with
    | empty => rfl
    | _ => simp [isEmpty] at hempty
  next => simp [flat_append, flat]

theorem related_join_iff {R : α → β → Prop} {g : Group α} {c : Connective}
    {s : α} {k : Group β} :
    Related R (Builder.join g c s) k ↔
      ∃ h t, Related R g h ∧ R s t ∧ k = Builder.join h c t := by
  constructor
  · intro hrelated
    unfold Builder.join at hrelated
    split at hrelated
    next hempty =>
      cases g with
      | empty =>
        cases hrelated with
        | statement hst hrest =>
          cases hrest
          exact ⟨.empty, _, .empty, hst, rfl⟩
      | _ => simp [isEmpty] at hempty
    next hfull =>
      obtain ⟨h, last, hg, hlast, rfl⟩ := hrelated.exists_of_append
      cases hlast with
      | connective hrest =>
        cases hrest with
        | statement hst hrest =>
          cases hrest
          refine ⟨h, _, hg, hst, ?_⟩
          rw [hg.isEmpty_eq] at hfull
          rw [Builder.join, if_neg hfull]
  · rintro ⟨h, t, hg, hst, rfl⟩
    unfold Builder.join
    rw [hg.isEmpty_eq]
    split
    next => exact .statement hst .empty
    next => exact hg.append (.connective (.statement hst .empty))

end Group

namespace Registry

variable {σ : Type} {r : Registry σ}

theorem applyAll_append_singleton_iff {ts : List ResolvedStatement}
    {t : ResolvedStatement} {accumulator after : σ} :
    r.applyAll (ts ++ [t]) accumulator = (.ok (), after) ↔
      ∃ between, r.applyAll ts accumulator = (.ok (), between) ∧
        r.applyStatement t between = (.ok (), after) := by
  induction ts generalizing accumulator with
  | nil =>
    rcases hstep : r.applyStatement t accumulator with ⟨outcome, last⟩
    cases outcome <;> simp [applyAll, hstep]
  | cons u ts ih =>
    rcases hstep : r.applyStatement u accumulator with ⟨outcome, next⟩
    cases outcome with
    | error e => simp [applyAll, hstep]
    | ok _ => simp [applyAll, hstep, ih]

theorem apply_join_iff {g : Group ResolvedStatement} {c : Connective}
    {t : ResolvedStatement} {accumulator after : σ} :
    r.apply (Builder.join g c t) accumulator = (.ok (), after) ↔
      ∃ between, r.apply g accumulator = (.ok (), between) ∧
        r.applyStatement t between = (.ok (), after) := by
  rw [apply, apply, Group.statements_eq_flat, Group.statements_eq_flat,
    Group.flat_join]
  exact applyAll_append_singleton_iff

theorem resolve_join_iff {g : Group Statement} {c : Connective} {s : Statement}
    {resolved : Group ResolvedStatement} :
    r.resolve (Builder.join g c s) = .ok resolved ↔
      ∃ before t, r.resolve g = .ok before ∧ r.resolveStatement s = .ok t ∧
        resolved = Builder.join before c t := by
  simp only [resolve, Group.mapM_eq_ok_iff, Group.related_join_iff]

end Registry

/-! ## Calls one at a time and all at once -/

namespace Builder

variable {σ : Type} {r : Registry σ} {b : Builder σ} {built : Built σ}
  {accumulator : σ} {calls : List (Connective × Statement)} {c : Connective}
  {s : Statement}

/-- Pushes the statements of some calls in turn. -/
def pushAll (b : Builder σ) (calls : List (Connective × Statement)) :
    Builder σ :=
  calls.foldl (fun b call => b.push call.1 call.2) b

theorem pushAll_append_singleton (b : Builder σ)
    (calls : List (Connective × Statement)) (c : Connective) (s : Statement) :
    b.pushAll (calls ++ [(c, s)]) = (b.pushAll calls).push c s := by
  simp [pushAll]

theorem registry_push (b : Builder σ) (c : Connective) (s : Statement) :
    (b.push c s).registry = b.registry := by
  unfold push
  split
  next => rfl
  next => split <;> rfl

theorem registry_pushAll (b : Builder σ)
    (calls : List (Connective × Statement)) :
    (b.pushAll calls).registry = b.registry := by
  induction calls using List.reverseRecOn with
  | nil => rfl
  | append_singleton calls call ih =>
    rw [pushAll_append_singleton, registry_push, ih]

theorem tryAdd_eq_ok_iff {t : ResolvedStatement} {after : σ} :
    tryAdd r s accumulator = (.ok t, after) ↔
      s.IsWritable ∧ r.resolveStatement s = .ok t ∧
        r.applyStatement t accumulator = (.ok (), after) := by
  rw [← Statement.checkExpressible_eq_ok_iff]
  cases hcheck : s.checkExpressible with
  | error e => simp [tryAdd, hcheck]
  | ok _ =>
    cases hresolve : r.resolveStatement s with
    | error e => simp [tryAdd, hcheck, hresolve]
    | ok resolved =>
      rcases happly : r.applyStatement resolved accumulator with
        ⟨outcome, last⟩
      cases outcome with
      | error e =>
        simp only [tryAdd, hcheck, hresolve, happly, Prod.mk.injEq,
          reduceCtorEq, false_and, true_and, false_iff, not_and,
          Except.ok.injEq]
        rintro rfl
        simp [happly]
      | ok _ =>
        simp only [tryAdd, hcheck, hresolve, happly, Prod.mk.injEq, true_and,
          Except.ok.injEq]
        constructor
        · rintro ⟨rfl, rfl⟩
          exact ⟨rfl, happly⟩
        · rintro ⟨rfl, hafter⟩
          rw [happly, Prod.mk.injEq] at hafter
          exact ⟨rfl, hafter.2⟩

theorem build_push_iff :
    (b.push c s).build = .ok built ↔
      ∃ before t, b.build = .ok before ∧
        tryAdd b.registry s before.accumulator = (.ok t, built.accumulator) ∧
        built.group = join before.group c t := by
  rcases b with ⟨r, group, accumulator, error⟩
  cases error with
  | some e => simp [push, build]
  | none =>
    rcases hadd : tryAdd r s accumulator with ⟨outcome, after⟩
    cases outcome with
    | error e => simp [push, build, hadd]
    | ok t =>
      rcases built with ⟨builtGroup, builtAccumulator⟩
      simp only [push, build, hadd, Except.ok.injEq, Built.mk.injEq]
      constructor
      · rintro ⟨rfl, rfl⟩
        exact ⟨_, t, rfl, hadd, rfl⟩
      · rintro ⟨before, t', rfl, hadd', rfl⟩
        rw [hadd, Prod.mk.injEq, Except.ok.injEq] at hadd'
        obtain ⟨rfl, rfl⟩ := hadd'
        exact ⟨rfl, rfl⟩

/-- The statements can all be written, the whole group resolves to the built
one, and applying that leaves the built accumulator. -/
structure IsBatch (r : Registry σ) (accumulator : σ)
    (calls : List (Connective × Statement)) (built : Built σ) : Prop where
  writable : ∀ call ∈ calls, call.2.IsWritable
  resolves : r.resolve (Group.ofCalls calls) = .ok built.group
  applies : r.apply built.group accumulator = (.ok (), built.accumulator)

theorem isBatch_nil_iff :
    IsBatch r accumulator [] built ↔ built = ⟨.empty, accumulator⟩ := by
  rcases built with ⟨group, after⟩
  have happly : r.apply .empty accumulator = (.ok (), accumulator) := by
    rw [Registry.apply, Group.statements_eq_flat]
    rfl
  constructor
  · rintro ⟨-, hresolve, hafter⟩
    obtain rfl : Group.empty = group := Except.ok.inj hresolve
    dsimp only at hafter
    rw [happly, Prod.mk.injEq] at hafter
    rw [hafter.2]
  · intro hbuilt
    rw [Built.mk.injEq] at hbuilt
    obtain ⟨rfl, rfl⟩ := hbuilt
    exact ⟨by simp, rfl, happly⟩

theorem isBatch_append_singleton_iff :
    IsBatch r accumulator (calls ++ [(c, s)]) built ↔
      ∃ before t, IsBatch r accumulator calls before ∧
        tryAdd r s before.accumulator = (.ok t, built.accumulator) ∧
        built.group = join before.group c t := by
  constructor
  · rintro ⟨hwritable, hresolve, happly⟩
    rw [Group.ofCalls_append_singleton, Registry.resolve_join_iff] at hresolve
    obtain ⟨group, t, hgroup, ht, hjoin⟩ := hresolve
    rw [hjoin, Registry.apply_join_iff] at happly
    obtain ⟨between, hbetween, hlast⟩ := happly
    obtain ⟨hcalls, hs⟩ := List.forall_mem_append.mp hwritable
    have hadd : tryAdd r s between = (.ok t, built.accumulator) :=
      tryAdd_eq_ok_iff.mpr ⟨hs (c, s) (by simp), ht, hlast⟩
    exact ⟨⟨group, between⟩, t, ⟨hcalls, hgroup, hbetween⟩, hadd, hjoin⟩
  · rintro ⟨before, t, ⟨hcalls, hgroup, hbetween⟩, hadd, hjoin⟩
    obtain ⟨hs, ht, hlast⟩ := tryAdd_eq_ok_iff.mp hadd
    refine ⟨?_, ?_, ?_⟩
    · intro call hcall
      rcases List.mem_append.mp hcall with hcall | hcall
      · exact hcalls call hcall
      · obtain rfl := List.mem_singleton.mp hcall
        exact hs
    · rw [Group.ofCalls_append_singleton, Registry.resolve_join_iff]
      exact ⟨before.group, t, hgroup, ht, hjoin⟩
    · rw [hjoin, Registry.apply_join_iff]
      exact ⟨before.accumulator, hbetween, hlast⟩

theorem build_pushAll_iff :
    ((ofRegistry r accumulator).pushAll calls).build = .ok built ↔
      IsBatch r accumulator calls built := by
  induction calls using List.reverseRecOn generalizing built with
  | nil =>
    rw [isBatch_nil_iff]
    simp [pushAll, build, ofRegistry, eq_comm]
  | append_singleton calls call ih =>
    rw [pushAll_append_singleton, build_push_iff, registry_pushAll,
      isBatch_append_singleton_iff]
    simp only [ih]
    rfl

theorem parse_ofCalls_iff (calls : List (Connective × Statement)) :
    Group.parse ((Group.ofCalls calls).text Statement.text) =
        .ok (Group.ofCalls calls) ↔
      ∀ call ∈ calls, call.2.IsWritable := by
  rw [← Group.isWellFormed_ofCalls_iff]
  exact Group.parseWithin_text_iff (Group.fitsWithin_ofCalls calls _)

/-- A builder succeeds just when the text of all its statements parses to
them, identically or up to numeric equality, and the result resolves and is
applied; it then holds what resolving and applying give.  What was built is
resolved again from its text. -/
theorem build_iff_pipeline (r : Registry σ) (accumulator : σ)
    (calls : List (Connective × Statement)) :
    let g := Group.ofCalls calls
    let text := g.text Statement.text
    let outcome := ((ofRegistry r accumulator).pushAll calls).build
    (∀ built, outcome = .ok built ↔
      Group.parse text = .ok g ∧ r.resolve g = .ok built.group ∧
        r.apply built.group accumulator = (.ok (), built.accumulator)) ∧
    (Group.parse text = .ok g ↔
      ∃ h, Group.parse text = .ok h ∧ h.equalsBy Statement.equals g = true) ∧
    (∀ built, outcome = .ok built →
      ∃ h, Group.parse (built.group.text ResolvedStatement.text) = .ok h ∧
        r.resolve h = .ok built.group) := by
  intro g text outcome
  have hiff : ∀ built, outcome = .ok built ↔
      Group.parse text = .ok g ∧ r.resolve g = .ok built.group ∧
        r.apply built.group accumulator = (.ok (), built.accumulator) := by
    intro built
    rw [build_pushAll_iff, parse_ofCalls_iff]
    constructor
    · rintro ⟨hwritable, hresolve, happly⟩
      exact ⟨hwritable, hresolve, happly⟩
    · rintro ⟨hwritable, hresolve, happly⟩
      exact ⟨hwritable, hresolve, happly⟩
  refine ⟨hiff, ⟨?_, ?_⟩, ?_⟩
  · intro hparse
    have hwellFormed := Group.isWellFormed_of_parseWithin hparse
    exact ⟨g, hparse, hwellFormed.equalsBy_self⟩
  · rintro ⟨h, hparse, hequals⟩
    have hwellFormed := Group.isWellFormed_of_parse_equal hparse hequals
    exact hwellFormed.parseWithin_text (Group.fitsWithin_ofCalls calls _)
  · intro built hbuilt
    obtain ⟨hparse, hresolve, -⟩ := (hiff built).mp hbuilt
    refine ⟨g, ?_, hresolve⟩
    rw [Registry.text_of_resolve hresolve]
    exact hparse

theorem build_two_calls :
    let r : Registry Nat :=
      ⟨["keyword"], [⟨"kind", "keyword", false⟩], TypeToken.wildcards,
        [⟨⟨⟨.named "keyword", true, false⟩, "eq", some (.named "string")⟩,
            some fun _ count => (true, count + 1)⟩,
          ⟨⟨.universal, "unset", none⟩, none⟩], 0⟩
    let calls : List (Connective × Statement) :=
      [(.and, ⟨.reference "kind", "eq", some (.literal (.string "doc"))⟩),
        (.or, ⟨.reference "kind", "unset", none⟩)]
    Group.parse "kind eq \"doc\" OR kind unset" = .ok (Group.ofCalls calls) ∧
      ∃ built, ((ofRegistry r 0).pushAll calls).build = .ok built ∧
        built.accumulator = 1 := by
  intro r calls
  have htext : (Group.ofCalls calls).text Statement.text =
      "kind eq \"doc\" OR kind unset" := by
    decide +kernel
  have hparse : Group.parse "kind eq \"doc\" OR kind unset" =
      .ok (Group.ofCalls calls) := by
    decide +kernel
  obtain ⟨resolved, hresolve, happly⟩ : ∃ resolved,
      r.resolve (Group.ofCalls calls) = .ok resolved ∧
        r.apply resolved 0 = (.ok (), 1) := by
    refine ⟨_, rfl, ?_⟩
    rw [Registry.apply, Group.statements_eq_flat]
    rfl
  refine ⟨hparse, ⟨resolved, 1⟩, ?_, rfl⟩
  rw [← htext] at hparse
  exact ((build_iff_pipeline r 0 calls).1 ⟨resolved, 1⟩).mpr
    ⟨hparse, hresolve, happly⟩

end Builder

end FilterLanguage
