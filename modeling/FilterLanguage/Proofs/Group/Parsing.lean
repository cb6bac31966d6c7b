import FilterLanguage.Proofs.Group.Run

/-!
# What the parser accepts

A run comes to a group just where the tokens of the group lie next, if it
alternates, nests within the limit and is followed by nothing with which it
could go on.
-/

namespace FilterLanguage

variable {limit : Option Nat} {depth : Nat} {turn : Turn} {ahead last : Ahead}
  {g : Group Statement}

namespace Parses

theorem alternates (hparses : Parses limit turn depth ahead g last) :
    g.Alternates turn := by
  induction hparses with
  | nested _ _ _ _ _ ihInner ihFollow => exact ⟨ihInner, ihFollow⟩
  | statement _ _ _ ih => exact ih
  | ended => trivial
  | close => trivial
  | connective _ _ ih => exact ih

theorem fitsWithin (hparses : Parses limit turn depth ahead g last)
    (hdepth : ∀ bound ∈ limit, depth ≤ bound) : g.FitsWithin limit depth := by
  induction hparses with
  | nested _ hreached hinner _ _ ihInner ihFollow =>
    have hfull := hinner.alternates.isEmpty_eq_false
    have hinnerDepth := Parser.lt_of_reached_eq_false hreached
    exact (Group.fitsWithin_nested_iff hfull).mpr
      ⟨hreached, ihInner hinnerDepth, ihFollow hdepth⟩
  | statement _ _ _ ih => exact ih hdepth
  | ended => exact hdepth
  | close => exact hdepth
  | connective _ _ ih => exact ih hdepth

theorem yields (hparses : Parses limit turn depth ahead g last) :
    ahead.Yields g.tokens last := by
  induction hparses with
  | nested hfirst _ _ hclose _ ihInner ihFollow =>
    exact ⟨hfirst,
      Ahead.yields_append_iff.mpr ⟨_, ihInner, hclose, ihFollow⟩⟩
  | statement hyields _ _ ih => exact Ahead.yields_append_iff.mpr ⟨_, hyields, ih⟩
  | ended => exact Ahead.yields_nil_iff.mpr rfl
  | close => exact Ahead.yields_nil_iff.mpr rfl
  | connective hfound _ ih => exact ⟨hfound, ih⟩

end Parses

theorem Ahead.EndsGroup.endsStatement_of_yields (hends : last.EndsGroup)
    (hg : g.Alternates .connective) (hyields : ahead.Yields g.tokens last) :
    ahead.EndsStatement := by
  cases g with
  | empty =>
    obtain rfl := Ahead.yields_nil_iff.mp hyields
    exact hends.endsStatement
  | statement s rest => exact hg.elim
  | connective c rest =>
    obtain ⟨found, behind, rfl, htoken, -⟩ := Ahead.yields_cons_iff.mp hyields
    simp [Ahead.EndsStatement, htoken, Token.endsStatement]
  | nested inner rest => exact hg.elim

theorem parses_of_yields (hg : g.Alternates turn)
    (hfits : g.FitsWithin limit depth) (hyields : ahead.Yields g.tokens last)
    (hends : last.EndsGroup) : Parses limit turn depth ahead g last := by
  induction g generalizing turn depth ahead last with
  | empty =>
    obtain rfl := Ahead.yields_nil_iff.mp hyields
    cases turn with
    | item => exact hg.elim
    | connective =>
      cases ahead with
      | ended => exact .ended depth
      | fault e => exact hends.elim
      | lexeme found rest => exact .close hends
  | statement s rest ih =>
    cases turn with
    | connective => exact hg.elim
    | item =>
      obtain ⟨behind, hs, hrest⟩ := Ahead.yields_append_iff.mp hyields
      have hstop := hends.endsStatement_of_yields hg hrest
      exact .statement hs (fun _ => hstop) (ih hg hfits hrest hends)
  | connective c rest ih =>
    cases turn with
    | item => exact hg.elim
    | connective =>
      obtain ⟨found, behind, rfl, htoken, hrest⟩ :=
        Ahead.yields_cons_iff.mp hyields
      exact .connective htoken (ih hg hfits hrest hends)
  | nested inner rest ihInner ihRest =>
    cases turn with
    | connective => exact hg.elim
    | item =>
      obtain ⟨hinner, hrest⟩ := hg
      obtain ⟨hreached, hinnerFits, hrestFits⟩ :=
        (Group.fitsWithin_nested_iff hinner.isEmpty_eq_false).mp hfits
      obtain ⟨first, filled, rfl, hfirst, htail⟩ :=
        Ahead.yields_cons_iff.mp hyields
      obtain ⟨between, hinnerYields, hclosed⟩ :=
        Ahead.yields_append_iff.mp htail
      obtain ⟨close, behind, rfl, hclose, hrestYields⟩ :=
        Ahead.yields_cons_iff.mp hclosed
      exact .nested hfirst hreached
        (ihInner hinner hinnerFits hinnerYields hclose) hclose
        (ihRest hrest hrestFits hrestYields hends)

/-! ## Whole filters -/

theorem Comes.yields {stop : Nat} (hcomes : Comes limit stop ahead (.ok g)) :
    g.IsFilter ∧ ahead.Yields g.tokens .ended := by
  cases hcomes with
  | empty => exact ⟨.inl rfl, Ahead.yields_nil_iff.mpr rfl⟩
  | filter hparses => exact ⟨.inr hparses.alternates, hparses.yields⟩

theorem comes_of_yields (stop : Nat) (hg : g.IsFilter)
    (hfits : g.FitsWithin limit 0) (hyields : ahead.Yields g.tokens .ended) :
    Comes limit stop ahead (.ok g) := by
  rcases hg with rfl | hg
  · obtain rfl := Ahead.yields_nil_iff.mp hyields
    exact .empty
  · exact .filter (parses_of_yields hg hfits hyields trivial)

namespace Group

theorem isFilter_of_parseWithin {text : String}
    (hparse : parseWithin limit text = .ok g) : g.IsFilter :=
  (parseWithin_eq_iff.mp hparse).yields.1

theorem scans_of_parseWithin {text : String}
    (hparse : parseWithin limit text = .ok g) :
    (Cursor.ofText text).Scans g.tokens :=
  Cursor.scans_iff_yields.mpr (parseWithin_eq_iff.mp hparse).yields.2

theorem parseWithin_of_scans {text : String} (hg : g.IsFilter)
    (hfits : g.FitsWithin limit 0)
    (hscans : (Cursor.ofText text).Scans g.tokens) :
    parseWithin limit text = .ok g :=
  parseWithin_eq_iff.mpr
    (comes_of_yields _ hg hfits (Cursor.scans_iff_yields.mp hscans))

/-- Without a limit a text parses to a group just when it scans to the tokens
of that group and the group is a filter; no other filter has these tokens. -/
theorem parseWithin_none_iff_scans :
    (∀ (text : String) (g : Group Statement),
      parseWithin none text = .ok g ↔
        (Cursor.ofText text).Scans g.tokens ∧ g.IsFilter) ∧
    (∀ g h : Group Statement, g.IsFilter → h.IsFilter →
      g.tokens = h.tokens → g = h) := by
  refine ⟨fun text g => ⟨fun hparse => ?_, fun hg => ?_⟩, ?_⟩
  · exact ⟨scans_of_parseWithin hparse, isFilter_of_parseWithin hparse⟩
  · exact parseWithin_of_scans hg.2 (g.fitsWithin_none 0) hg.1
  · intro g h hg hh heq
    exact hg.eq_of_tokens_eq hh heq

theorem parseWithin_none_nested :
    ∃ g : Group Statement, g.IsFilter ∧
      g.tokens = [.groupBegin, .reference "a", .reference "eq",
        .reference "b", .groupEnd, .connective .or, .reference "c",
        .reference "unset"] ∧
      (Cursor.ofText "(a eq b) OR c unset").Scans g.tokens ∧
      parseWithin none "(a eq b) OR c unset" = .ok g := by
  have hscans : (Cursor.ofText "(a eq b) OR c unset").Scans
      [.groupBegin, .reference "a", .reference "eq", .reference "b",
        .groupEnd, .connective .or, .reference "c", .reference "unset"] := by
    unfold Cursor.Scans
    decide +kernel
  refine ⟨.nested
    (.statement ⟨.reference "a", "eq", some (.reference "b")⟩ .empty)
    (.connective .or (.statement ⟨.reference "c", "unset", none⟩ .empty)),
    .inr ⟨trivial, trivial⟩, rfl, hscans, ?_⟩
  exact (parseWithin_none_iff_scans.1 _ _).mpr
    ⟨hscans, .inr ⟨trivial, trivial⟩⟩

end Group

end FilterLanguage
