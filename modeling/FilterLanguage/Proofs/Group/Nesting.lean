import FilterLanguage.Proofs.Token.Step
import Mathlib.Order.Bounds.Basic

/-!
# Nesting

How many groups are open behind some tokens, counted from the parentheses alone.
The tokens of a group close what they open and nothing else.  Where all nested
groups have elements, the depth of a group is the greatest number of groups that
are open at one time.
-/

namespace FilterLanguage

/-- Groups opened, less groups closed. -/
def nesting (tokens : List Token) : Int :=
  (tokens.count .groupBegin : Int) - tokens.count .groupEnd

@[simp] theorem nesting_nil : nesting [] = 0 := rfl

@[simp] theorem nesting_append (xs ys : List Token) :
    nesting (xs ++ ys) = nesting xs + nesting ys := by
  simp only [nesting, List.count_append]
  omega

@[simp] theorem nesting_groupBegin (tokens : List Token) :
    nesting (.groupBegin :: tokens) = 1 + nesting tokens := by
  simp only [nesting, List.count_cons_self, List.count_cons_of_ne, ne_eq,
    reduceCtorEq, not_false_eq_true]
  omega

@[simp] theorem nesting_groupEnd (tokens : List Token) :
    nesting (.groupEnd :: tokens) = nesting tokens - 1 := by
  simp only [nesting, List.count_cons_self, List.count_cons_of_ne, ne_eq,
    reduceCtorEq, not_false_eq_true]
  omega

theorem nesting_cons {token : Token} (htoken : token.isParenthesis = false)
    (tokens : List Token) : nesting (token :: tokens) = nesting tokens := by
  cases token with
  | groupBegin | groupEnd => cases htoken
  | literal | reference | connective =>
    simp only [nesting, List.count_cons_of_ne, ne_eq, reduceCtorEq,
      not_false_eq_true]

/-- The numbers of groups that are open at some time. -/
def levels (tokens : List Token) : Set Int :=
  { n | ∃ front, front <+: tokens ∧ nesting front = n }

theorem mem_levels_nil {n : Int} : n ∈ levels [] ↔ n = 0 := by
  constructor
  · rintro ⟨front, hfront, rfl⟩
    rw [List.prefix_nil.mp hfront, nesting_nil]
  · rintro rfl
    exact ⟨[], List.prefix_rfl, rfl⟩

theorem mem_levels_append {xs ys : List Token} {n : Int} :
    n ∈ levels (xs ++ ys) ↔ n ∈ levels xs ∨ n - nesting xs ∈ levels ys := by
  constructor
  · rintro ⟨front, ⟨more, hmore⟩, rfl⟩
    rcases List.append_eq_append_iff.mp hmore with ⟨between, rfl, -⟩ |
      ⟨between, rfl, rfl⟩
    · exact .inl ⟨front, List.prefix_append front between, rfl⟩
    · refine .inr ⟨between, List.prefix_append between more, ?_⟩
      rw [nesting_append]
      omega
  · rintro (⟨front, hfront, rfl⟩ | ⟨front, hfront, hn⟩)
    · exact ⟨front, hfront.trans (List.prefix_append xs ys), rfl⟩
    · refine ⟨xs ++ front, (List.prefix_append_right_inj xs).mpr hfront, ?_⟩
      rw [nesting_append]
      omega

theorem mem_levels_cons {token : Token} {tokens : List Token} {n : Int} :
    n ∈ levels (token :: tokens) ↔
      n = 0 ∨ n - nesting [token] ∈ levels tokens := by
  have hzero : 0 ∈ levels tokens := ⟨[], List.nil_prefix, rfl⟩
  have hsingle : n ∈ levels [token] ↔ n = 0 ∨ n = nesting [token] := by
    constructor
    · rintro ⟨front, hfront, rfl⟩
      rcases List.prefix_cons_iff.mp hfront with rfl | ⟨more, rfl, hmore⟩
      · exact .inl rfl
      · exact .inr (by rw [List.prefix_nil.mp hmore])
    · rintro (rfl | rfl)
      · exact ⟨[], List.nil_prefix, rfl⟩
      · exact ⟨[token], List.prefix_rfl, rfl⟩
  rw [← List.singleton_append, mem_levels_append, hsingle, or_assoc]
  refine or_congr Iff.rfl ⟨?_, .inr⟩
  rintro (rfl | hn)
  · rwa [Int.sub_self]
  · exact hn

/-- Every group that is opened is closed and no other, and at most `depth` of
them are open at one time. -/
structure Nests (tokens : List Token) (depth : Nat) : Prop where
  nonneg : ∀ n ∈ levels tokens, 0 ≤ n
  settled : nesting tokens = 0
  greatest : IsGreatest (levels tokens) depth

namespace Nests

variable {xs ys : List Token} {m n : Nat}

theorem nil : Nests [] 0 := by
  refine ⟨?_, rfl, mem_levels_nil.mpr rfl, ?_⟩
  · intro k hk
    exact (mem_levels_nil.mp hk).ge
  · intro k hk
    exact (mem_levels_nil.mp hk).le

theorem cons {token : Token} (htoken : token.isParenthesis = false)
    (hxs : Nests xs m) : Nests (token :: xs) m := by
  have hlevels : ∀ k, k ∈ levels (token :: xs) ↔ k = 0 ∨ k ∈ levels xs := by
    intro k
    rw [mem_levels_cons, nesting_cons htoken, nesting_nil, Int.sub_zero]
  refine ⟨?_, ?_, (hlevels m).mpr (.inr hxs.greatest.1), ?_⟩
  · intro k hk
    rcases (hlevels k).mp hk with rfl | hk
    · exact Int.le_refl 0
    · exact hxs.nonneg k hk
  · rw [nesting_cons htoken, hxs.settled]
  · intro k hk
    rcases (hlevels k).mp hk with rfl | hk
    · exact Int.natCast_nonneg m
    · exact hxs.greatest.2 hk

theorem append (hxs : Nests xs m) (hys : Nests ys n) :
    Nests (xs ++ ys) (max m n) := by
  have hlevels : ∀ k, k ∈ levels (xs ++ ys) ↔ k ∈ levels xs ∨ k ∈ levels ys := by
    intro k
    rw [mem_levels_append, hxs.settled, Int.sub_zero]
  refine ⟨?_, ?_, ?_, ?_⟩
  · intro k hk
    rcases (hlevels k).mp hk with hk | hk
    · exact hxs.nonneg k hk
    · exact hys.nonneg k hk
  · rw [nesting_append, hxs.settled, hys.settled, Int.add_zero]
  · rw [hlevels]
    rcases Nat.le_total m n with hle | hle
    · rw [Nat.max_eq_right hle]
      exact .inr hys.greatest.1
    · rw [Nat.max_eq_left hle]
      exact .inl hxs.greatest.1
  · intro k hk
    rcases (hlevels k).mp hk with hk | hk
    · have hle := hxs.greatest.2 hk
      omega
    · have hle := hys.greatest.2 hk
      omega

theorem nested (hxs : Nests xs m) :
    Nests (.groupBegin :: (xs ++ [.groupEnd])) (m + 1) := by
  have hlevels : ∀ k, k ∈ levels (.groupBegin :: (xs ++ [.groupEnd])) ↔
      k = 0 ∨ k - 1 ∈ levels xs := by
    intro k
    have hclose : k - 1 ∈ levels [.groupEnd] ↔ k = 1 ∨ k = 0 := by
      rw [mem_levels_cons, mem_levels_nil, nesting_groupEnd, nesting_nil]
      omega
    have hone : k = 1 → k - 1 ∈ levels xs := by
      rintro rfl
      exact ⟨[], List.nil_prefix, rfl⟩
    rw [mem_levels_cons, nesting_groupBegin, nesting_nil, Int.add_zero,
      mem_levels_append, hxs.settled, Int.sub_zero, hclose]
    tauto
  refine ⟨?_, ?_, (hlevels _).mpr (.inr ?_), ?_⟩
  · intro k hk
    rcases (hlevels k).mp hk with rfl | hk
    · exact Int.le_refl 0
    · have hnonneg := hxs.nonneg _ hk
      omega
  · simp [hxs.settled]
  · have hm := hxs.greatest.1
    simpa using hm
  · intro k hk
    rcases (hlevels k).mp hk with rfl | hk
    · exact Int.natCast_nonneg _
    · have hle := hxs.greatest.2 hk
      omega

end Nests

theorem Statement.nests_append {tokens : List Token} {m : Nat} (s : Statement)
    (htokens : Nests tokens m) : Nests (s.tokens ++ tokens) m := by
  have hoperand : ∀ x : Operand, x.token.isParenthesis = false := by
    intro x
    cases x <;> rfl
  rw [Statement.tokens_eq]
  refine .cons (hoperand s.left) (.cons rfl ?_)
  cases s.right with
  | none => exact htokens
  | some x => exact .cons (hoperand x) htokens

theorem Group.Alternates.nests {g : Group Statement} {turn : Turn}
    (hg : g.Alternates turn) : Nests g.tokens g.innerDepth := by
  induction g generalizing turn with
  | empty => exact .nil
  | statement s rest ih =>
    cases turn with
    | item => exact s.nests_append (ih hg)
    | connective => exact hg.elim
  | connective c rest ih =>
    cases turn with
    | item => exact hg.elim
    | connective => exact .cons rfl (ih hg)
  | nested inner rest ihInner ihRest =>
    cases turn with
    | connective => exact hg.elim
    | item =>
      have hnests := (ihInner hg.1).nested.append (ihRest hg.2)
      simpa [tokens, innerDepth, hg.1.isEmpty_eq_false] using hnests

end FilterLanguage
