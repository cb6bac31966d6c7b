import FilterLanguage.Proofs.Group.Nesting
import FilterLanguage.Proofs.Group.Parsing

/-!
# The limit on nesting

A limit stops the parser where one group too many is opened, and changes nothing
else.  What a run comes to within a limit it comes to within every greater one,
and without a limit.  A filter that is parsed at all is parsed within every limit
that its depth stays below.
-/

namespace FilterLanguage

variable {limit limit' : Option Nat} {stop depth : Nat} {turn : Turn}
  {ahead last : Ahead} {g : Group Statement} {e : Error}

/-- Where `limit` lets a group be opened, `limit'` does too. -/
def Permits (limit limit' : Option Nat) : Prop :=
  ∀ depth, Parser.reached limit depth = false →
    Parser.reached limit' depth = false

theorem permits_none (limit : Option Nat) : Permits limit none := by
  intro depth _
  rfl

theorem permits_some {n m : Nat} (hle : n ≤ m) : Permits (some n) (some m) := by
  intro depth hreached
  have hlt := Parser.lt_of_reached_eq_false hreached n rfl
  simp only [Parser.reached, decide_eq_false_iff_not]
  omega

theorem Parses.relax (hparses : Parses limit turn depth ahead g last)
    (hpermits : Permits limit limit') :
    Parses limit' turn depth ahead g last := by
  induction hparses with
  | nested hfirst hreached _ hclose _ ihInner ihFollow =>
    exact .nested hfirst (hpermits _ hreached) ihInner hclose ihFollow
  | statement hyields hends _ ih => exact .statement hyields hends ih
  | ended depth => exact .ended depth
  | close hfound => exact .close hfound
  | connective hfound _ ih => exact .connective hfound ih

theorem Fails.relax (hfails : Fails limit stop turn depth ahead e)
    (hpermits : Permits limit limit') (he : e ≠ .recursionLimitExceeded) :
    Fails limit' stop turn depth ahead e := by
  induction hfails with
  | tooDeep => exact (he rfl).elim
  | inside hfirst hreached _ ih =>
    exact .inside hfirst (hpermits _ hreached) (ih he)
  | unclosed hfirst hreached hinner =>
    exact .unclosed hfirst (hpermits _ hreached) (hinner.relax hpermits)
  | behindNested hfirst hreached hinner hclose _ ih =>
    exact .behindNested hfirst (hpermits _ hreached) (hinner.relax hpermits)
      hclose (ih he)
  | statement hopens hstatement => exact .statement hopens hstatement
  | behindStatement hyields hends _ ih =>
    exact .behindStatement hyields hends (ih he)
  | fault depth e => exact .fault depth e
  | noConnective hfound => exact .noConnective hfound
  | behindConnective hfound _ ih => exact .behindConnective hfound (ih he)

theorem Comes.relax {outcome : Except Error (Group Statement)}
    (hcomes : Comes limit stop ahead outcome) (hpermits : Permits limit limit')
    (houtcome : outcome ≠ .error .recursionLimitExceeded) :
    Comes limit' stop ahead outcome := by
  cases hcomes with
  | empty => exact .empty
  | filter hparses => exact .filter (hparses.relax hpermits)
  | unopened hfound => exact .unopened hfound
  | extra hparses => exact .extra (hparses.relax hpermits)
  | fails hends hfails =>
    refine .fails hends (hfails.relax hpermits ?_)
    rintro rfl
    exact houtcome rfl

theorem Comes.fitsWithin (hcomes : Comes limit stop ahead (.ok g)) :
    g.FitsWithin limit 0 := by
  cases hcomes with
  | empty =>
    intro bound hbound
    exact Nat.zero_le bound
  | filter hparses =>
    apply hparses.fitsWithin
    intro bound hbound
    exact Nat.zero_le bound

namespace Group

theorem parseWithin_relax {text : String} (hpermits : Permits limit limit')
    (hparse : parseWithin limit text ≠ .error .recursionLimitExceeded) :
    parseWithin limit' text = parseWithin limit text :=
  parseWithin_eq_iff.mpr ((parseWithin_comes limit text).relax hpermits hparse)

theorem IsFilter.depth_le_iff (hg : g.IsFilter) {n : Nat} :
    g.depth ≤ n + 1 ↔ g.FitsWithin (some n) 0 := by
  have hfits : g.FitsWithin (some n) 0 ↔ g.innerDepth ≤ n := by
    simp [FitsWithin]
  rw [hfits]
  rcases hg with rfl | hg
  · simp [depth, isEmpty, innerDepth]
  · simp [depth, hg.isEmpty_eq_false]

/-- The depth, told from the tokens: none without a token, and else one more
than the greatest number of groups that are open at one time. -/
def IsDepthOf (depth : Nat) (tokens : List Token) : Prop :=
  (tokens = [] → depth = 0) ∧
    (tokens ≠ [] → ∃ most, IsGreatest (levels tokens) most ∧
      (depth : Int) = 1 + most)

theorem IsFilter.isDepthOf (hg : g.IsFilter) : IsDepthOf g.depth g.tokens := by
  rcases hg with rfl | hg
  · exact ⟨fun _ => rfl, fun hne => (hne rfl).elim⟩
  · have hdepth : g.depth = g.innerDepth + 1 := by
      simp [depth, hg.isEmpty_eq_false]
    refine ⟨?_, fun _ => ⟨g.innerDepth, hg.nests.greatest, ?_⟩⟩
    · intro hnil
      cases g with
      | empty | connective => exact hg.elim
      | statement s rest => simp [tokens, Statement.tokens_eq] at hnil
      | nested inner rest => simp [tokens] at hnil
    · rw [hdepth]
      omega

/-- A limit changes nothing but the limit error. -/
theorem parseWithin_limit (text : String) :
    (∀ g, parseWithin none text = .ok g →
      (∃ tokens, (Cursor.ofText text).Scans tokens ∧
        IsDepthOf g.depth tokens) ∧
      ∀ n, parseWithin (some n) text =
        if g.depth ≤ n + 1 then .ok g else .error .recursionLimitExceeded) ∧
    (∀ e, parseWithin none text = .error e → ∀ n,
      parseWithin (some n) text = .error e ∨
        parseWithin (some n) text = .error .recursionLimitExceeded) ∧
    (∀ n m, n ≤ m →
      parseWithin (some n) text ≠ .error .recursionLimitExceeded →
        parseWithin (some m) text = parseWithin (some n) text ∧
          parseWithin none text = parseWithin (some n) text) := by
  refine ⟨?_, ?_, ?_⟩
  · intro g hparse
    have hg := isFilter_of_parseWithin hparse
    have hscans := scans_of_parseWithin hparse
    refine ⟨⟨g.tokens, hscans, hg.isDepthOf⟩, ?_⟩
    intro n
    split
    next hdepth =>
      exact parseWithin_of_scans hg (hg.depth_le_iff.mp hdepth) hscans
    next hdepth =>
      by_contra hother
      have hsame := parseWithin_relax (permits_none (some n)) hother
      have hcomes := parseWithin_comes (some n) text
      rw [← hsame, hparse] at hcomes
      have hfits : g.depth ≤ n + 1 := hg.depth_le_iff.mpr hcomes.fitsWithin
      exact hdepth hfits
  · intro e hparse n
    by_cases hexceeded :
        parseWithin (some n) text = .error .recursionLimitExceeded
    · exact .inr hexceeded
    · rw [parseWithin_relax (permits_none (some n)) hexceeded] at hparse
      exact .inl hparse
  · intro n m hle hparse
    exact ⟨parseWithin_relax (permits_some hle) hparse,
      parseWithin_relax (permits_none (some n)) hparse⟩

theorem parseWithin_limit_nested :
    let text := "(a is OR ((b is)))"
    let b : Group Statement := .statement ⟨.reference "b", "is", none⟩ .empty
    let g : Group Statement :=
      .nested (.statement ⟨.reference "a", "is", none⟩
        (.connective .or (.nested (.nested b .empty) .empty))) .empty
    let e := ParseError.unclosed 0 7
    parseWithin none text = .ok g ∧ g.depth = 4 ∧
      (∃ tokens, (Cursor.ofText text).Scans tokens ∧ IsDepthOf 4 tokens) ∧
      parseWithin (some 3) text = .ok g ∧
      parseWithin (some 2) text = .error .recursionLimitExceeded ∧
      parseWithin none "((a is)" = .error (.parse e) ∧
      (parseWithin (some 0) "((a is)" = .error (.parse e) ∨
        parseWithin (some 0) "((a is)" = .error .recursionLimitExceeded) ∧
      parseWithin (some 2) "((a is)" ≠ .error .recursionLimitExceeded ∧
      parseWithin (some 5) "((a is)" = parseWithin (some 2) "((a is)" := by
  intro text b g e
  have hparse : parseWithin none text = .ok g := by
    decide +kernel
  have hfails : parseWithin none "((a is)" = .error (.parse e) := by
    decide +kernel
  have hparsed :
      parseWithin (some 2) "((a is)" ≠ .error .recursionLimitExceeded := by
    decide +kernel
  obtain ⟨hdepth, hlimit⟩ := (parseWithin_limit text).1 g hparse
  have herror := parseWithin_limit "((a is)"
  exact ⟨hparse, rfl, hdepth, hlimit 3, hlimit 2, hfails,
    herror.2.1 _ hfails 0, hparsed, (herror.2.2 2 5 (by decide) hparsed).1⟩

end Group

end FilterLanguage
