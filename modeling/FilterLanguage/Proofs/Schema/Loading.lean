import FilterLanguage.Proofs.Schema.Contents

/-!
# Loading configurations

The references of a configuration are added in order, and the first one that is
refused ends the loading.  Until then nothing was refused, so a reference is
compared with all the references in front of it and not with those of them that
happen to be in the registry.  A configuration is loaded as a whole or not at
all.
-/

namespace FilterLanguage

/-- Why a reference is refused behind others: its name is taken, or else its
type is not declared. -/
inductive Reference.IsRefused (given : List String) (present : List Reference)
    (reference : Reference) : Error → Prop
  | taken (hname : reference.name ∈ present.map Reference.name) :
      IsRefused given present reference (.alreadyExists reference.name)
  | undeclared (hname : reference.name ∉ present.map Reference.name)
      (htype : reference.type ∉ given) :
      IsRefused given present reference (.notFound .type reference.type)

namespace Registry

variable {σ : Type} {r r' : Registry σ} {given : List String} {a : σ}
  {present references : List Reference} {listed : List (Overload σ)}
  {reference : Reference} {e : Error}

theorem Holds.exists_add (hholds : r.Holds given a present listed)
    (hname : reference.name ∉ present.map Reference.name)
    (htype : reference.type ∈ given) : ∃ r', r.add reference = .ok r' := by
  have hnew : r.find? reference.name = none := by
    rw [find?_eq_none_iff, hholds.references]
    exact hname
  have hdeclared : reference.type ∈ r.types := by
    rw [hholds.types, List.mem_eraseDups]
    exact htype
  exact ⟨_, add_eq_ok hnew hdeclared⟩

theorem Holds.add_eq_error_iff (hholds : r.Holds given a present listed) :
    r.add reference = .error e ↔ reference.IsRefused given present e := by
  have houtcome := hholds.add_outcome reference
  have herror : r.add reference = .error e ↔
      (r.add reference).map (fun _ => ()) = .error e := by
    cases r.add reference <;> simp [Except.map]
  rw [herror, houtcome]
  by_cases hname : reference.name ∈ present.map Reference.name
  · rw [if_pos hname, Except.error.injEq]
    constructor
    · rintro rfl
      exact .taken hname
    · intro hrefused
      cases hrefused with
      | taken => rfl
      | undeclared hnew => exact (hnew hname).elim
  · rw [if_neg hname]
    by_cases htype : reference.type ∈ given
    · rw [if_neg (not_not.mpr htype)]
      simp only [reduceCtorEq, false_iff]
      intro hrefused
      cases hrefused with
      | taken htaken => exact hname htaken
      | undeclared _ hundeclared => exact hundeclared htype
    · rw [if_pos htype, Except.error.injEq]
      constructor
      · rintro rfl
        exact .undeclared hname htype
      · intro hrefused
        cases hrefused with
        | taken htaken => exact (hname htaken).elim
        | undeclared => rfl

theorem addAll_cons_of_ok (hadd : r.add reference = .ok r') :
    r.addAll (reference :: references) = r'.addAll references := by
  rw [addAll, hadd]

theorem addAll_cons_of_error (hadd : r.add reference = .error e) :
    r.addAll (reference :: references) = .error e := by
  rw [addAll, hadd]

/-- References with new names and declared types are all added. -/
theorem Holds.exists_addAll_iff (hholds : r.Holds given a present listed) :
    (∃ r', r.addAll references = .ok r') ↔
      ((present ++ references).map Reference.name).Nodup ∧
        ∀ reference ∈ references, reference.type ∈ given := by
  constructor
  · rintro ⟨r', hadd⟩
    have hholds' := hholds.addAll hadd
    exact ⟨hholds'.names, (List.forall_mem_append.mp hholds'.declared).2⟩
  · rintro ⟨hnames, hdeclared⟩
    induction references generalizing r present with
    | nil => exact ⟨r, rfl⟩
    | cons reference later ih =>
      obtain ⟨htype, hlater⟩ := List.forall_mem_cons.mp hdeclared
      have hnew : reference.name ∉ present.map Reference.name := by
        rw [List.map_append, List.map_cons, List.nodup_append] at hnames
        intro htaken
        exact hnames.2.2 _ htaken _ List.mem_cons_self rfl
      obtain ⟨extended, hadd⟩ := hholds.exists_add hnew htype
      rw [addAll_cons_of_ok hadd]
      apply ih (hholds.add hadd)
      · rwa [List.append_assoc, List.singleton_append]
      · exact hlater

/-- The first reference that is refused decides the error. -/
theorem Holds.addAll_eq_error_iff (hholds : r.Holds given a present listed) :
    r.addAll references = .error e ↔
      ∃ before reference after, references = before ++ reference :: after ∧
        (∃ r', r.addAll before = .ok r') ∧
          reference.IsRefused given (present ++ before) e := by
  induction references generalizing r present with
  | nil =>
    constructor
    · intro hadd
      cases hadd
    · rintro ⟨before, reference, after, hsplit, -⟩
      simp at hsplit
  | cons first later ih =>
    cases hadd : r.add first with
    | error e' =>
      rw [addAll_cons_of_error hadd, Except.error.injEq]
      constructor
      · rintro rfl
        refine ⟨[], first, later, rfl, ⟨r, rfl⟩, ?_⟩
        rw [List.append_nil]
        exact hholds.add_eq_error_iff.mp hadd
      · rintro ⟨before, reference, after, hsplit, ⟨r', hbefore⟩, hrefused⟩
        cases before with
        | nil =>
          obtain ⟨rfl, rfl⟩ := List.cons.inj hsplit
          rw [List.append_nil, ← hholds.add_eq_error_iff, hadd] at hrefused
          exact Except.error.inj hrefused
        | cons first' before =>
          obtain ⟨rfl, rfl⟩ := List.cons.inj hsplit
          rw [addAll_cons_of_error hadd] at hbefore
          cases hbefore
    | ok extended =>
      rw [addAll_cons_of_ok hadd, ih (hholds.add hadd)]
      constructor
      · rintro ⟨before, reference, after, rfl, hbefore, hrefused⟩
        refine ⟨first :: before, reference, after, rfl, ?_, ?_⟩
        · rwa [addAll_cons_of_ok hadd]
        · rwa [List.append_assoc, List.singleton_append] at hrefused
      · rintro ⟨before, reference, after, hsplit, hbefore, hrefused⟩
        cases before with
        | nil =>
          obtain ⟨rfl, rfl⟩ := List.cons.inj hsplit
          rw [List.append_nil, ← hholds.add_eq_error_iff, hadd] at hrefused
          cases hrefused
        | cons first' before =>
          obtain ⟨rfl, rfl⟩ := List.cons.inj hsplit
          refine ⟨before, reference, after, rfl, ?_, ?_⟩
          · rwa [addAll_cons_of_ok hadd] at hbefore
          · rwa [List.append_assoc, List.singleton_append]

end Registry

namespace Config

variable {c : Config} {k : ℕ} {e : Error}

/-- The reference at this place is refused behind those in front of it. -/
def RefusesAt (c : Config) (k : ℕ) (e : Error) : Prop :=
  ∃ reference, c.references[k]? = some reference ∧
    reference.IsRefused c.types (c.references.take k) e

/-- The place is the first one with a reference that is refused. -/
def RefusesFirstAt (c : Config) (k : ℕ) (e : Error) : Prop :=
  c.RefusesAt k e ∧ ∀ i < k, ∀ e', ¬ c.RefusesAt i e'

theorem toRegistry_eq_error_iff_addAll :
    c.toRegistry = .error e ↔
      (Registry.ofTypes c.types ()).addAll c.references = .error e := by
  rw [toRegistry]
  cases (Registry.ofTypes c.types ()).addAll c.references <;> simp

theorem exists_toRegistry_iff_addAll :
    (∃ r, c.toRegistry = .ok r) ↔
      ∃ r, (Registry.ofTypes c.types ()).addAll c.references = .ok r := by
  rw [toRegistry]
  cases (Registry.ofTypes c.types ()).addAll c.references <;> simp

theorem refusesAt_iff_split :
    c.RefusesAt k e ↔ ∃ before reference after,
      c.references = before ++ reference :: after ∧ before.length = k ∧
        reference.IsRefused c.types before e := by
  constructor
  · rintro ⟨reference, hplace, hrefused⟩
    obtain ⟨hk, rfl⟩ := List.getElem?_eq_some_iff.mp hplace
    refine ⟨c.references.take k, _, c.references.drop (k + 1), ?_, ?_, hrefused⟩
    · rw [← List.drop_eq_getElem_cons hk, List.take_append_drop]
    · rw [List.length_take, Nat.min_eq_left (Nat.le_of_lt hk)]
  · rintro ⟨before, reference, after, hsplit, rfl, hrefused⟩
    refine ⟨reference, ?_, ?_⟩
    · simp [hsplit]
    · simpa [hsplit] using hrefused

/-- Where all references can be added, none is refused behind those in front of
it. -/
theorem not_isRefused_of_declared {given : List String}
    {before after : List Reference} {reference : Reference}
    (hnames : ((before ++ reference :: after).map Reference.name).Nodup)
    (hdeclared : ∀ other ∈ before ++ reference :: after, other.type ∈ given) :
    ¬ reference.IsRefused given before e := by
  intro hrefused
  cases hrefused with
  | taken hname =>
    rw [List.map_append, List.map_cons, List.nodup_append] at hnames
    exact hnames.2.2 _ hname _ List.mem_cons_self rfl
  | undeclared _ htype => exact htype (hdeclared reference (by simp))

theorem toRegistry_eq_error_iff :
    c.toRegistry = .error e ↔ ∃ k, c.RefusesFirstAt k e := by
  have hstart := Registry.holds_ofTypes c.types ()
  rw [toRegistry_eq_error_iff_addAll, hstart.addAll_eq_error_iff]
  simp only [List.nil_append]
  constructor
  · rintro ⟨before, reference, after, hsplit, hbefore, hrefused⟩
    obtain ⟨hnames, hdeclared⟩ := hstart.exists_addAll_iff.mp hbefore
    refine ⟨before.length, ?_, ?_⟩
    · exact refusesAt_iff_split.mpr
        ⟨before, reference, after, hsplit, rfl, hrefused⟩
    · intro i hi e' hearlier
      obtain ⟨front, other, back, hfront, rfl, hrefused'⟩ :=
        refusesAt_iff_split.mp hearlier
      have hprefix : front ++ [other] <+: c.references :=
        ⟨back, by simp [hfront]⟩
      obtain ⟨between, rfl⟩ := List.prefix_of_prefix_length_le hprefix
        ⟨reference :: after, hsplit.symm⟩ (by simpa using Nat.succ_le_of_lt hi)
      rw [List.append_assoc, List.singleton_append] at hnames hdeclared
      exact not_isRefused_of_declared hnames hdeclared hrefused'
  · rintro ⟨k, hk, hfirst⟩
    obtain ⟨before, reference, after, hsplit, rfl, hrefused⟩ :=
      refusesAt_iff_split.mp hk
    refine ⟨before, reference, after, hsplit, ?_, hrefused⟩
    cases hadd : (Registry.ofTypes c.types ()).addAll before with
    | ok r => exact ⟨r, rfl⟩
    | error e' =>
      obtain ⟨front, other, back, rfl, -, hrefused'⟩ :=
        hstart.addAll_eq_error_iff.mp hadd
      have hearlier : c.RefusesAt front.length e' :=
        refusesAt_iff_split.mpr
          ⟨front, other, back ++ reference :: after, by simp [hsplit], rfl,
            hrefused'⟩
      exact (hfirst front.length (by simp) e' hearlier).elim

theorem exists_toRegistry_iff :
    (∃ r, c.toRegistry = .ok r) ↔
      (c.references.map Reference.name).Nodup ∧
        ∀ reference ∈ c.references, reference.type ∈ c.types := by
  have hstart := Registry.holds_ofTypes c.types ()
  rw [exists_toRegistry_iff_addAll, hstart.exists_addAll_iff, List.nil_append]

/-- Whether a reference is refused is told by the types and the references up to
it. -/
theorem refusesAt_congr {c c' : Config} {i : ℕ} (htypes : c'.types = c.types)
    (hfront : c'.references.take (k + 1) = c.references.take (k + 1))
    (hi : i < k + 1) : c'.RefusesAt i e ↔ c.RefusesAt i e := by
  have hplace : c'.references[i]? = c.references[i]? := by
    rw [← List.getElem?_take_of_lt hi, hfront, List.getElem?_take_of_lt hi]
  have htake : c'.references.take i = c.references.take i := by
    have hshorter := congrArg (List.take i) hfront
    rwa [List.take_take, List.take_take, Nat.min_eq_left (Nat.le_of_lt hi)]
      at hshorter
  rw [RefusesAt, RefusesAt, hplace, htake, htypes]

theorem RefusesFirstAt.congr {c c' : Config} (hfirst : c.RefusesFirstAt k e)
    (htypes : c'.types = c.types)
    (hfront : c'.references.take (k + 1) = c.references.take (k + 1)) :
    c'.RefusesFirstAt k e := by
  refine ⟨(refusesAt_congr htypes hfront (Nat.lt_succ_self k)).mpr hfirst.1, ?_⟩
  intro i hi e' hrefuses
  exact hfirst.2 i hi e'
    ((refusesAt_congr htypes hfront (Nat.lt_succ_of_lt hi)).mp hrefuses)

/-- A configuration makes a registry just when its references have distinct
names and declared types, and the registry holds what was configured.  The error
is that of the first reference that has the name of an earlier one or a type
that is not declared, and tells the name if both are so.  Neither the operators
nor the references behind it change the error. -/
theorem toRegistry_isExact (c : Config) :
    ((∃ r, c.toRegistry = .ok r) ↔
      (c.references.map Reference.name).Nodup ∧
        ∀ reference ∈ c.references, reference.type ∈ c.types) ∧
    (∀ r, c.toRegistry = .ok r → r.references = c.references ∧
      r.overloads = c.operators.map (fun signature => ⟨signature, none⟩) ∧
      r.types = c.types.eraseDups) ∧
    (∀ e, c.toRegistry = .error e ↔ ∃ k, c.RefusesFirstAt k e) ∧
    (∀ k e, c.RefusesFirstAt k e → ∀ c' : Config, c'.types = c.types →
      c'.references.take (k + 1) = c.references.take (k + 1) →
        c'.toRegistry = .error e) := by
  refine ⟨exists_toRegistry_iff, ?_, fun _ => toRegistry_eq_error_iff, ?_⟩
  · intro r hmade
    have hholds := holds_of_toRegistry hmade
    exact ⟨hholds.references, hholds.overloads, hholds.types⟩
  · intro k e hfirst c' htypes hfront
    exact toRegistry_eq_error_iff.mpr ⟨k, hfirst.congr htypes hfront⟩

/-- The third reference has a name that is taken and a type that is not
declared, and the fourth one would be refused too. -/
theorem toRegistry_isExact_both_causes :
    let c : Config :=
      ⟨["t", "u", "t"], [⟨"x", "t", false⟩, ⟨"y", "u", true⟩],
        [⟨.universal, "IS", none⟩]⟩
    let d : Config :=
      ⟨["t"], [⟨"x", "t", false⟩, ⟨"y", "t", false⟩, ⟨"x", "v", false⟩], []⟩
    let d' : Config :=
      ⟨["t"], d.references ++ [⟨"z", "w", false⟩], [⟨.universal, "IS", none⟩]⟩
    (∃ r, c.toRegistry = .ok r ∧ r.references = c.references ∧
      r.types = ["t", "u"]) ∧
      d.RefusesFirstAt 2 (.alreadyExists "x") ∧
      d.toRegistry = .error (.alreadyExists "x") ∧
      d'.toRegistry = .error (.alreadyExists "x") := by
  intro c d d'
  obtain ⟨hmakes, hheld, -, -⟩ := toRegistry_isExact c
  obtain ⟨-, -, hfails, hlater⟩ := toRegistry_isExact d
  obtain ⟨r, hmade⟩ := hmakes.mpr ⟨by decide, by decide⟩
  obtain ⟨hreferences, -, htypes⟩ := hheld r hmade
  have hfirst : d.RefusesFirstAt 2 (.alreadyExists "x") := by
    refine ⟨⟨⟨"x", "v", false⟩, rfl, .taken (by decide)⟩, ?_⟩
    rintro i hi e ⟨reference, hplace, hrefused⟩
    obtain rfl | rfl : i = 0 ∨ i = 1 := by omega
    all_goals
      obtain rfl := Option.some.inj hplace
      cases hrefused with
      | taken hname => exact absurd hname (by decide)
      | undeclared _ htype => exact absurd htype (by decide)
  exact ⟨⟨r, hmade, hreferences, htypes⟩, hfirst, (hfails _).mpr ⟨2, hfirst⟩,
    hlater 2 _ hfirst d' rfl rfl⟩

end Config

end FilterLanguage
