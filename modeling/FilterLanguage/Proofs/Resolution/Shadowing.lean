import FilterLanguage.Proofs.Resolution.FirstMatch
import FilterLanguage.Proofs.Schema.Generality

/-!
# Shadowed overloads

An overload is shadowed by an earlier one of the same name and arity whose
tokens are at least as general.  Whatever types the later one fits, the earlier
one fits too, although matching is not transitive: the step from one token to
the other goes along generality.  The later overload is therefore never chosen.
-/

namespace FilterLanguage

/-- The second signature has the name and the arity of the first one, and tokens
that are at most as general. -/
structure Signature.Shadows (earlier later : Signature) : Prop where
  left : later.left.AtMostAsGeneral earlier.left
  operator : later.operator = earlier.operator
  right : Option.Rel TypeToken.AtMostAsGeneral later.right earlier.right

theorem TypeToken.Matches.symm {s t : TypeToken} (hmatches : s.Matches t) :
    t.Matches s := by
  rcases hmatches with hs | ht | ⟨hreference, harray, hbase⟩
  · exact .inr (.inl hs)
  · exact .inl ht
  · refine .inr (.inr ⟨hreference.symm, harray.symm, ?_⟩)
    rcases hbase with hsame | hs | ht
    · exact .inl hsame.symm
    · exact .inr (.inr hs)
    · exact .inr (.inl ht)

theorem TypeToken.Matches.trans_atMostAsGeneral {s t u : TypeToken}
    (hmatches : u.Matches s) (hgeneral : s.AtMostAsGeneral t) : u.Matches t :=
  (hgeneral.matches_of hmatches.symm).symm

theorem Signature.Shadows.fits {earlier later : Signature} {left : TypeToken}
    {operator : String} {right : Option TypeToken}
    (hshadows : earlier.Shadows later)
    (hfits : later.Fits left operator right) :
    earlier.Fits left operator right := by
  refine ⟨hfits.left.trans_atMostAsGeneral hshadows.left,
    hfits.operator.trans hshadows.operator, ?_⟩
  exact rel_trans hfits.right hshadows.right fun _ _ _ hmatches =>
    hmatches.trans_atMostAsGeneral

/-- The types of the operands fit, whichever overload was chosen. -/
def Signature.Takes (signature : Signature) (t : ResolvedStatement) : Prop :=
  signature.Fits t.left.type t.operator (t.right.map TypedOperand.type)

namespace Registry

variable {σ : Type} {r : Registry σ} {earlier later : Overload σ} {i j : Nat}
  {s : Statement} {t : ResolvedStatement}

theorem ResolvesTo.overload_le (hresolves : r.ResolvesTo s t)
    (hfound : r.overloads[i]? = some earlier)
    (htakes : earlier.signature.Takes t) : t.overload ≤ i := by
  obtain ⟨o, -, hfirst⟩ := hresolves.first
  rw [← hresolves.statement] at hfirst
  by_contra hlater
  exact hfirst.least i (Nat.lt_of_not_le hlater) earlier hfound htakes

theorem ResolvesTo.takes (hresolves : r.ResolvesTo s t)
    (hfound : r.overloads[t.overload]? = some later) :
    later.signature.Takes t := by
  obtain ⟨o, -, hfirst⟩ := hresolves.first
  obtain rfl : later = o := Option.some.inj (hfound.symm.trans hfirst.found)
  rw [← hresolves.statement] at hfirst
  exact hfirst.accepted

/-- No resolved statement has an overload that an earlier one shadows.  If its
types are such that the later overload takes them, it has the earlier overload
or one before that. -/
theorem resolve_passes_over_shadowed (hlt : i < j)
    (hearlier : r.overloads[i]? = some earlier)
    (hlater : r.overloads[j]? = some later)
    (hshadows : earlier.signature.Shadows later.signature)
    {g : Group Statement} {resolved : Group ResolvedStatement}
    (hresolve : r.resolve g = .ok resolved) :
    ∀ t ∈ resolved.flat, t.overload ≠ j ∧
      (later.signature.Takes t → t.overload ≤ i) := by
  intro t ht
  obtain ⟨s, -, hresolves⟩ :=
    (resolve_eq_ok_iff.mp hresolve).symm.exists_right ht
  have hbound : later.signature.Takes t → t.overload ≤ i := fun htakes =>
    hresolves.overload_le hearlier (hshadows.fits htakes)
  refine ⟨?_, hbound⟩
  rintro rfl
  exact Nat.not_le_of_lt hlt (hbound (hresolves.takes hlater))

/-- The array wildcard comes before the overload for arrays of keywords.  A type
that is declared as `any` is no wildcard, but is found by one. -/
theorem resolve_passes_over_shadowed_array :
    let earlier : Signature :=
      ⟨TypeToken.universal.asArray, "has", some .any⟩
    let later : Signature :=
      ⟨⟨.named "any", true, true⟩, "has", some (.named "string")⟩
    let r : Registry Unit :=
      ⟨["any"], [⟨"tags", "any", true⟩], TypeToken.wildcards,
        [⟨⟨.universal, "has", none⟩, none⟩, ⟨earlier, none⟩, ⟨later, none⟩], ()⟩
    let s : Statement := ⟨.reference "tags", "has", some (.literal (.string "x"))⟩
    earlier.Shadows later ∧ ∃ t : ResolvedStatement,
      r.resolve (.nested (.statement s .empty) .empty) =
        .ok (.nested (.statement t .empty) .empty) ∧
      later.Takes t ∧ t.overload ≠ 2 ∧ t.overload ≤ 1 := by
  intro earlier later r s
  have hshadows : earlier.Shadows later :=
    ⟨by decide, rfl, .some (by decide)⟩
  let t : ResolvedStatement :=
    ⟨⟨.reference "tags", ⟨.named "any", true, true⟩⟩, "has",
      some ⟨.literal (.string "x"), .named "string"⟩, 1, earlier⟩
  have hresolve : r.resolve (.nested (.statement s .empty) .empty) =
      .ok (.nested (.statement t .empty) .empty) := rfl
  have htakes : later.Takes t :=
    ⟨.inr (.inr ⟨rfl, rfl, .inl rfl⟩), rfl,
      .some (.inr (.inr ⟨rfl, rfl, .inl rfl⟩))⟩
  have hearlier : r.overloads[1]? = some ⟨earlier, none⟩ := rfl
  have hlater : r.overloads[2]? = some ⟨later, none⟩ := rfl
  obtain ⟨hne, hbound⟩ := resolve_passes_over_shadowed (by decide) hearlier
    hlater hshadows hresolve t List.mem_cons_self
  exact ⟨hshadows, t, hresolve, htakes, hne, hbound htakes⟩

end Registry

end FilterLanguage
