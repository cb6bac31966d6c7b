import FilterLanguage.Group.Walk
import FilterLanguage.Proofs.Group.Grammar

/-!
# Groups of one shape

Two groups are related when they have the same elements in the same places and
their statements, taken pairwise, are related.  Printing, equality and the
monadic map are described by such relations.  The map fails at the first
statement that fails, in the order of the text.
-/

namespace FilterLanguage

section Exhaustive

variable {ε α : Type} {x : Except ε α} {succeeds : α → Prop} {fails : ε → Prop}
  (hok : ∀ a, succeeds a → x = .ok a) (herror : ∀ e, fails e → x = .error e)
  (hcases : (∃ a, succeeds a) ∨ ∃ e, fails e)

include hok herror hcases

/-- Where one of two relations always tells the outcome, they tell no other. -/
theorem eq_ok_iff_of_exhaustive {a : α} : x = .ok a ↔ succeeds a := by
  refine ⟨fun hx => ?_, hok a⟩
  rcases hcases with ⟨a', ha⟩ | ⟨e, he⟩
  · rw [hok a' ha, Except.ok.injEq] at hx
    exact hx ▸ ha
  · rw [herror e he] at hx
    cases hx

theorem eq_error_iff_of_exhaustive {e : ε} : x = .error e ↔ fails e := by
  refine ⟨fun hx => ?_, herror e⟩
  rcases hcases with ⟨a, ha⟩ | ⟨e', he⟩
  · rw [hok a ha] at hx
    cases hx
  · rw [herror e' he, Except.error.injEq] at hx
    exact hx ▸ he

end Exhaustive

namespace Group

variable {α β : Type}

/-- The same shape, with statements related by `R`. -/
inductive Related (R : α → β → Prop) : Group α → Group β → Prop
  | empty : Related R .empty .empty
  | statement {s : α} {t : β} {rest : Group α} {rest' : Group β}
      (hstatement : R s t) (hrest : Related R rest rest') :
      Related R (.statement s rest) (.statement t rest')
  | connective {c : Connective} {rest : Group α} {rest' : Group β}
      (hrest : Related R rest rest') :
      Related R (.connective c rest) (.connective c rest')
  | nested {inner rest : Group α} {inner' rest' : Group β}
      (hinner : Related R inner inner') (hrest : Related R rest rest') :
      Related R (.nested inner rest) (.nested inner' rest')

namespace Related

variable {R S : α → β → Prop} {g : Group α} {h : Group β}

theorem mono (hrelated : Related R g h) (hRS : ∀ s t, R s t → S s t) :
    Related S g h := by
  induction hrelated with
  | empty => exact .empty
  | statement hstatement hrest ih => exact .statement (hRS _ _ hstatement) ih
  | connective hrest ih => exact .connective ih
  | nested hinner hrest ihInner ihRest => exact .nested ihInner ihRest

theorem symm (hrelated : Related R g h) : Related (fun t s => R s t) h g := by
  induction hrelated with
  | empty => exact .empty
  | statement hstatement hrest ih => exact .statement hstatement ih
  | connective hrest ih => exact .connective ih
  | nested hinner hrest ihInner ihRest => exact .nested ihInner ihRest

theorem exists_right (hrelated : Related R g h) {s : α} (hs : s ∈ g.flat) :
    ∃ t ∈ h.flat, R s t := by
  induction hrelated with
  | empty => cases hs
  | statement hstatement hrest ih =>
    rcases List.mem_cons.mp hs with rfl | hs
    · exact ⟨_, List.mem_cons_self, hstatement⟩
    · obtain ⟨t, ht, hst⟩ := ih hs
      exact ⟨t, List.mem_cons_of_mem _ ht, hst⟩
  | connective hrest ih => exact ih hs
  | nested hinner hrest ihInner ihRest =>
    rcases List.mem_append.mp hs with hs | hs
    · obtain ⟨t, ht, hst⟩ := ihInner hs
      exact ⟨t, List.mem_append_left _ ht, hst⟩
    · obtain ⟨t, ht, hst⟩ := ihRest hs
      exact ⟨t, List.mem_append_right _ ht, hst⟩

theorem and (hrelated : Related R g h) (hrelated' : Related S g h) :
    Related (fun s t => R s t ∧ S s t) g h := by
  induction hrelated with
  | empty => exact .empty
  | statement hstatement hrest ih =>
    cases hrelated' with
    | statement hstatement' hrest' =>
      exact .statement ⟨hstatement, hstatement'⟩ (ih hrest')
  | connective hrest ih =>
    cases hrelated' with
    | connective hrest' => exact .connective (ih hrest')
  | nested hinner hrest ihInner ihRest =>
    cases hrelated' with
    | nested hinner' hrest' => exact .nested (ihInner hinner') (ihRest hrest')

theorem join {γ : Type} {S : α → γ → Prop} {T : β → γ → Prop} {k : Group γ}
    (hrelated : Related R g h) (hrelated' : Related S g k)
    (hjoin : ∀ s t u, R s t → S s u → T t u) : Related T h k := by
  induction hrelated generalizing k with
  | empty =>
    cases hrelated'
    exact .empty
  | statement hstatement hrest ih =>
    cases hrelated' with
    | statement hstatement' hrest' =>
      exact .statement (hjoin _ _ _ hstatement hstatement') (ih hrest')
  | connective hrest ih =>
    cases hrelated' with
    | connective hrest' => exact .connective (ih hrest')
  | nested hinner hrest ihInner ihRest =>
    cases hrelated' with
    | nested hinner' hrest' => exact .nested (ihInner hinner') (ihRest hrest')

theorem alternates_iff (hrelated : Related R g h) (turn : Turn) :
    g.Alternates turn ↔ h.Alternates turn := by
  induction hrelated generalizing turn with
  | empty => cases turn <;> rfl
  | statement hstatement hrest ih =>
    cases turn with
    | item => exact ih .connective
    | connective => rfl
  | connective hrest ih =>
    cases turn with
    | item => rfl
    | connective => exact ih .item
  | nested hinner hrest ihInner ihRest =>
    cases turn with
    | item => exact and_congr (ihInner .item) (ihRest .connective)
    | connective => rfl

theorem isFilter_iff (hrelated : Related R g h) : g.IsFilter ↔ h.IsFilter := by
  have hempty : g = .empty ↔ h = .empty := by cases hrelated <;> simp
  exact or_congr hempty (hrelated.alternates_iff .item)

theorem isEmpty_eq (hrelated : Related R g h) : g.isEmpty = h.isEmpty := by
  cases hrelated <;> rfl

theorem length_eq (hrelated : Related R g h) : g.length = h.length := by
  induction hrelated with
  | empty => rfl
  | statement hstatement hrest ih => rw [length, length, ih]
  | connective hrest ih => rw [length, length, ih]
  | nested hinner hrest ihInner ihRest => rw [length, length, ihRest]

theorem depth_eq (hrelated : Related R g h) : g.depth = h.depth := by
  have hinnerDepth : g.innerDepth = h.innerDepth := by
    induction hrelated with
    | empty => rfl
    | statement hstatement hrest ih => exact ih
    | connective hrest ih => exact ih
    | nested hinner hrest ihInner ihRest =>
      rw [innerDepth, innerDepth, ihInner, ihRest, hinner.isEmpty_eq]
  rw [depth, depth, hrelated.isEmpty_eq, hinnerDepth]

theorem length_flat_eq (hrelated : Related R g h) :
    g.flat.length = h.flat.length := by
  induction hrelated with
  | empty => rfl
  | statement hstatement hrest ih => rw [flat, flat, List.length_cons, ih,
      List.length_cons]
  | connective hrest ih => exact ih
  | nested hinner hrest ihInner ihRest =>
    rw [flat, flat, List.length_append, ihInner, ihRest, List.length_append]

theorem text_eq (hrelated : Related R g h) {write : α → String}
    {write' : β → String} (hwrite : ∀ s t, R s t → write s = write' t) :
    g.text write = h.text write' := by
  have hpieces : g.pieces write = h.pieces write' := by
    induction hrelated with
    | empty => rfl
    | statement hstatement hrest ih =>
      rw [pieces, pieces, hwrite _ _ hstatement, ih]
    | connective hrest ih => rw [pieces, pieces, ih]
    | nested hinner hrest ihInner ihRest =>
      rw [pieces, pieces, ihInner, ihRest]
  rw [text, text, hpieces]

end Related

theorem related_self {R : α → α → Prop} {g : Group α}
    (hg : ∀ s ∈ g.flat, R s s) : Related R g g := by
  induction g with
  | empty => exact .empty
  | statement s rest ih =>
    obtain ⟨hs, hrest⟩ := List.forall_mem_cons.mp hg
    exact .statement hs (ih hrest)
  | connective c rest ih => exact .connective (ih hg)
  | nested inner rest ihInner ihRest =>
    obtain ⟨hinner, hrest⟩ := List.forall_mem_append.mp hg
    exact .nested (ihInner hinner) (ihRest hrest)

theorem equalsBy_iff_related {same : α → α → Bool} {g h : Group α} :
    g.equalsBy same h = true ↔ Related (fun s t => same s t = true) g h := by
  constructor
  · intro hequals
    induction g generalizing h with
    | empty =>
      cases h with
      | empty => exact .empty
      | _ => simp [equalsBy] at hequals
    | statement s rest ih =>
      cases h with
      | statement t rest' =>
        simp only [equalsBy, Bool.and_eq_true] at hequals
        exact .statement hequals.1 (ih hequals.2)
      | _ => simp [equalsBy] at hequals
    | connective c rest ih =>
      cases h with
      | connective d rest' =>
        simp only [equalsBy, Bool.and_eq_true, beq_iff_eq] at hequals
        obtain ⟨rfl, hrest⟩ := hequals
        exact .connective (ih hrest)
      | _ => simp [equalsBy] at hequals
    | nested inner rest ihInner ihRest =>
      cases h with
      | nested inner' rest' =>
        simp only [equalsBy, Bool.and_eq_true] at hequals
        exact .nested (ihInner hequals.1) (ihRest hequals.2)
      | _ => simp [equalsBy] at hequals
  · intro hrelated
    induction hrelated with
    | empty => rfl
    | statement hstatement hrest ih => simp [equalsBy, hstatement, ih]
    | connective hrest ih => simp [equalsBy, ih]
    | nested hinner hrest ihInner ihRest => simp [equalsBy, ihInner, ihRest]

/-! ## Joined groups -/

theorem flat_append (g h : Group α) : (g.append h).flat = g.flat ++ h.flat := by
  induction g with
  | empty => rfl
  | statement s rest ih => simp [append, flat, ih]
  | connective c rest ih => simp [append, flat, ih]
  | nested inner rest ihInner ihRest => simp [append, flat, ihRest]

theorem Related.append {R : α → β → Prop} {g h : Group α} {g' h' : Group β}
    (hg : Related R g g') (hh : Related R h h') :
    Related R (g.append h) (g'.append h') := by
  induction hg with
  | empty => exact hh
  | statement hstatement hrest ih => exact .statement hstatement ih
  | connective hrest ih => exact .connective ih
  | nested hinner hrest ihInner ihRest => exact .nested hinner ihRest

theorem Related.exists_of_append {R : α → β → Prop} {g h : Group α}
    {k : Group β} (hrelated : Related R (g.append h) k) :
    ∃ g' h', Related R g g' ∧ Related R h h' ∧ k = g'.append h' := by
  induction g generalizing k with
  | empty => exact ⟨.empty, k, .empty, hrelated, rfl⟩
  | statement s rest ih =>
    cases hrelated with
    | statement hstatement hrest =>
      obtain ⟨g', h', hg, hh, rfl⟩ := ih hrest
      exact ⟨_, h', .statement hstatement hg, hh, rfl⟩
  | connective c rest ih =>
    cases hrelated with
    | connective hrest =>
      obtain ⟨g', h', hg, hh, rfl⟩ := ih hrest
      exact ⟨_, h', .connective hg, hh, rfl⟩
  | nested inner rest ihInner ihRest =>
    cases hrelated with
    | nested hinner hrest =>
      obtain ⟨g', h', hg, hh, rfl⟩ := ihRest hrest
      exact ⟨_, h', .nested hinner hg, hh, rfl⟩

/-! ## Maps -/

/-- Changes every statement and keeps the shape. -/
def map (f : α → β) : Group α → Group β
  | .empty => .empty
  | .statement s rest => .statement (f s) (rest.map f)
  | .connective c rest => .connective c (rest.map f)
  | .nested inner rest => .nested (inner.map f) (rest.map f)

theorem related_map (f : α → β) (g : Group α) :
    Related (fun s t => t = f s) g (g.map f) := by
  induction g with
  | empty => exact .empty
  | statement s rest ih => exact .statement rfl ih
  | connective c rest ih => exact .connective ih
  | nested inner rest ihInner ihRest => exact .nested ihInner ihRest

theorem flat_map (f : α → β) (g : Group α) :
    (g.map f).flat = g.flat.map f := by
  induction g with
  | empty => rfl
  | statement s rest ih => simp [map, flat, ih]
  | connective c rest ih => simp [map, flat, ih]
  | nested inner rest ihInner ihRest => simp [map, flat, ihInner, ihRest]

theorem Related.map_eq {f : β → α} {g : Group α} {h : Group β}
    (hrelated : Related (fun s t => f t = s) g h) : h.map f = g := by
  induction hrelated with
  | empty => rfl
  | statement hstatement hrest ih => rw [map, hstatement, ih]
  | connective hrest ih => rw [map, ih]
  | nested hinner hrest ihInner ihRest => rw [map, ihInner, ihRest]

/-! ## Maps that can fail -/

section Failure

variable {ε : Type}

theorem bind_eq_ok_iff {x : Except ε α} {f : α → Except ε β} {b : β} :
    (x >>= f) = .ok b ↔ ∃ a, x = .ok a ∧ f a = .ok b := by
  cases x <;> simp [bind, Except.bind]

theorem bind_eq_error_iff {x : Except ε α} {f : α → Except ε β} {e : ε} :
    (x >>= f) = .error e ↔ x = .error e ∨ ∃ a, x = .ok a ∧ f a = .error e := by
  cases x <;> simp [bind, Except.bind]

theorem mapM_eq_ok_iff {f : α → Except ε β} {g : Group α} {h : Group β} :
    g.mapM f = .ok h ↔ Related (fun s t => f s = .ok t) g h := by
  constructor
  · intro hmap
    induction g generalizing h with
    | empty =>
      cases hmap
      exact .empty
    | statement s rest ih =>
      obtain ⟨t, hs, htail⟩ := bind_eq_ok_iff.mp hmap
      obtain ⟨rest', hrest, hpure⟩ := bind_eq_ok_iff.mp htail
      cases hpure
      exact .statement hs (ih hrest)
    | connective c rest ih =>
      obtain ⟨rest', hrest, hpure⟩ := bind_eq_ok_iff.mp hmap
      cases hpure
      exact .connective (ih hrest)
    | nested inner rest ihInner ihRest =>
      obtain ⟨inner', hinner, htail⟩ := bind_eq_ok_iff.mp hmap
      obtain ⟨rest', hrest, hpure⟩ := bind_eq_ok_iff.mp htail
      cases hpure
      exact .nested (ihInner hinner) (ihRest hrest)
  · intro hrelated
    induction hrelated with
    | empty => rfl
    | statement hstatement hrest ih =>
      exact bind_eq_ok_iff.mpr
        ⟨_, hstatement, bind_eq_ok_iff.mpr ⟨_, ih, rfl⟩⟩
    | connective hrest ih => exact bind_eq_ok_iff.mpr ⟨_, ih, rfl⟩
    | nested hinner hrest ihInner ihRest =>
      exact bind_eq_ok_iff.mpr
        ⟨_, ihInner, bind_eq_ok_iff.mpr ⟨_, ihRest, rfl⟩⟩

/-- The first member that `f` fails on gives this error. -/
def FailsFirst (f : α → Except ε β) (xs : List α) (e : ε) : Prop :=
  ∃ before x after, xs = before ++ x :: after ∧
    (∀ y ∈ before, ∃ z, f y = .ok z) ∧ f x = .error e

namespace FailsFirst

variable {f : α → Except ε β} {xs ys : List α} {e e' : ε}

theorem cons {x : α} {z : β} (hx : f x = .ok z) (hfails : FailsFirst f xs e) :
    FailsFirst f (x :: xs) e := by
  obtain ⟨before, y, after, rfl, hbefore, hy⟩ := hfails
  refine ⟨x :: before, y, after, rfl, ?_, hy⟩
  exact List.forall_mem_cons.mpr ⟨⟨z, hx⟩, hbefore⟩

theorem append_left (hfails : FailsFirst f xs e) (ys : List α) :
    FailsFirst f (xs ++ ys) e := by
  obtain ⟨before, y, after, rfl, hbefore, hy⟩ := hfails
  exact ⟨before, y, after ++ ys, by simp, hbefore, hy⟩

theorem append_right (hxs : ∀ x ∈ xs, ∃ z, f x = .ok z)
    (hfails : FailsFirst f ys e) : FailsFirst f (xs ++ ys) e := by
  obtain ⟨before, y, after, rfl, hbefore, hy⟩ := hfails
  refine ⟨xs ++ before, y, after, by simp, ?_, hy⟩
  intro x hx
  rcases List.mem_append.mp hx with hleft | hright
  · exact hxs x hleft
  · exact hbefore x hright

theorem not_forall_ok (hfails : FailsFirst f xs e) :
    ¬ ∀ x ∈ xs, ∃ z, f x = .ok z := by
  intro hok
  obtain ⟨before, x, after, rfl, hbefore, hx⟩ := hfails
  obtain ⟨z, hz⟩ := hok x (by simp)
  rw [hx] at hz
  cases hz

/-- A member that fails stands behind all those that are passed. -/
theorem eq_of_append {before gap after after' : List α} {x x' : α}
    (hx : f x = .error e) (hbefore : ∀ y ∈ before ++ gap, ∃ z, f y = .ok z)
    (hrest : x :: after = gap ++ x' :: after') : x = x' := by
  cases gap with
  | nil => exact (List.cons.inj hrest).1
  | cons y gap =>
    obtain ⟨rfl, -⟩ := List.cons.inj hrest
    obtain ⟨z, hz⟩ := hbefore x (by simp)
    rw [hx] at hz
    cases hz

theorem unique (hfails : FailsFirst f xs e) (hfails' : FailsFirst f xs e') :
    e = e' := by
  obtain ⟨before, x, after, rfl, hbefore, hx⟩ := hfails
  obtain ⟨before', x', after', heq, hbefore', hx'⟩ := hfails'
  have hsame : x = x' := by
    rcases List.append_eq_append_iff.mp heq with ⟨gap, rfl, hrest⟩ |
      ⟨gap, rfl, hrest⟩
    · exact eq_of_append hx hbefore' hrest
    · exact (eq_of_append hx' hbefore hrest).symm
  rw [← hsame, hx] at hx'
  exact Except.error.inj hx'

end FailsFirst

theorem forall_ok_of_mapM {f : α → Except ε β} {g : Group α} {h : Group β}
    (hmap : g.mapM f = .ok h) : ∀ s ∈ g.flat, ∃ t, f s = .ok t := by
  intro s hs
  obtain ⟨t, -, hst⟩ := (mapM_eq_ok_iff.mp hmap).exists_right hs
  exact ⟨t, hst⟩

theorem failsFirst_of_mapM {f : α → Except ε β} {g : Group α} {e : ε}
    (hmap : g.mapM f = .error e) : FailsFirst f g.flat e := by
  induction g with
  | empty => cases hmap
  | statement s rest ih =>
    rcases bind_eq_error_iff.mp hmap with hs | ⟨t, hs, htail⟩
    · exact ⟨[], s, rest.flat, rfl, by simp, hs⟩
    · rcases bind_eq_error_iff.mp htail with hrest | ⟨rest', hrest, hpure⟩
      · exact (ih hrest).cons hs
      · cases hpure
  | connective c rest ih =>
    rcases bind_eq_error_iff.mp hmap with hrest | ⟨rest', hrest, hpure⟩
    · exact ih hrest
    · cases hpure
  | nested inner rest ihInner ihRest =>
    rcases bind_eq_error_iff.mp hmap with hinner | ⟨inner', hinner, htail⟩
    · exact (ihInner hinner).append_left rest.flat
    · rcases bind_eq_error_iff.mp htail with hrest | ⟨rest', hrest, hpure⟩
      · exact (ihRest hrest).append_right (forall_ok_of_mapM hinner)
      · cases hpure

theorem exists_mapM_iff {f : α → Except ε β} {g : Group α} :
    (∃ h, g.mapM f = .ok h) ↔ ∀ s ∈ g.flat, ∃ t, f s = .ok t := by
  constructor
  · rintro ⟨h, hmap⟩
    exact forall_ok_of_mapM hmap
  · intro hok
    cases hmap : g.mapM f with
    | error e => exact ((failsFirst_of_mapM hmap).not_forall_ok hok).elim
    | ok h => exact ⟨h, rfl⟩

theorem mapM_eq_error_iff {f : α → Except ε β} {g : Group α} {e : ε} :
    g.mapM f = .error e ↔ FailsFirst f g.flat e := by
  constructor
  · exact failsFirst_of_mapM
  · intro hfails
    cases hmap : g.mapM f with
    | error e' => rw [(failsFirst_of_mapM hmap).unique hfails]
    | ok h => exact (hfails.not_forall_ok (forall_ok_of_mapM hmap)).elim

end Failure

end Group

/-! ## Walks -/

namespace Walk

variable {α : Type}

/-- The statements that are still to be visited. -/
def ahead (walk : Walk α) : List α := walk.pending.flatMap Group.flat

theorem ahead_ofGroup (g : Group α) : (ofGroup g).ahead = g.flat := by
  simp [ahead, ofGroup]

theorem ahead_eq_next? (walk : Walk α) :
    walk.ahead =
      match walk.next? with
      | none => []
      | some (s, after) => s :: after.ahead := by
  fun_induction next? walk with
  | case1 => rfl
  | case2 stack ih => simpa [ahead, Group.flat] using ih
  | case3 s rest stack => simp [ahead, Group.flat]
  | case4 c rest stack ih => simpa [ahead, Group.flat] using ih
  | case5 inner rest stack ih => simpa [ahead, Group.flat] using ih

theorem toList_eq_ahead (walk : Walk α) : walk.toList = walk.ahead := by
  fun_induction toList walk with
  | case1 walk hdone => rw [ahead_eq_next?, hdone]
  | case2 walk s after hstep ih => rw [ahead_eq_next?, hstep, ih]

end Walk

theorem Group.statements_eq_flat {α : Type} (g : Group α) :
    g.statements = g.flat := by
  rw [Group.statements, Walk.toList_eq_ahead, Walk.ahead_ofGroup]

end FilterLanguage
