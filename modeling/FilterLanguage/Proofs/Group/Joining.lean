import FilterLanguage.Proofs.Group.Derivation
import FilterLanguage.Proofs.Group.Parsing
import FilterLanguage.Proofs.Token.Position
import FilterLanguage.Proofs.Token.Spelling

/-!
# Joined texts

A text that scans without an error is scanned in the same way wherever it
stands, as long as its last run is not lengthened by what follows.  So the
tokens of texts that are put together are the tokens of the texts put together,
and filters can be joined by a connective or put in parentheses without looking
into them.
-/

namespace FilterLanguage

namespace Cursor

variable {offset : Nat} {text after : List Char} {tokens tokens' : List Token}

/-- The text scans to these tokens, wherever it stands. -/
def ReadsAs (text : List Char) (tokens : List Token) : Prop :=
  ∀ offset, (Cursor.mk offset text).ahead.Yields tokens .ended

/-- A step does not look behind the lexeme that it finds, and not at its
offset. -/
theorem next_append {found : Lexeme} {cursor : Cursor}
    (hnext : next ⟨offset, text⟩ = .lexeme found cursor)
    (hends : found.token.isRun = true → EndsRun after) (offset' : Nat) :
    ∃ span stop, next ⟨offset', text ++ after⟩ =
      .lexeme ⟨found.token, span⟩ ⟨stop, cursor.rest ++ after⟩ := by
  have hfinds := next_finds ⟨offset, text⟩
  rw [hnext] at hfinds
  cases hfinds with
  | @lexeme offset gap token chars rest hwritten hendsRun =>
    rw [List.append_assoc, List.append_assoc]
    have happend := next_of_writtenBy hwritten
      (fun hrun => (hendsRun hrun).append (hends hrun)) offset' gap
    exact ⟨_, _, happend⟩

theorem readsAs_append
    (hyields : (Cursor.mk offset text).ahead.Yields tokens .ended)
    (hends : ∀ t ∈ tokens, t.isRun = true → EndsRun after)
    (hafter : ReadsAs after tokens') :
    ReadsAs (text ++ after) (tokens ++ tokens') := by
  induction tokens generalizing offset text with
  | nil =>
    intro offset'
    have hdone := next_of_ahead_ended (Ahead.yields_nil_iff.mp hyields)
    obtain ⟨gap, hgap⟩ := next_eq_done_iff.mp hdone
    obtain rfl : text = spaces gap := hgap
    rw [ahead_congr (next_spaces_append offset' gap after)]
    exact hafter (offset' + gap)
  | cons token tokens ih =>
    intro offset'
    obtain ⟨hhead, htail⟩ := List.forall_mem_cons.mp hends
    obtain ⟨found, behind, hahead, rfl, hbehind⟩ :=
      Ahead.yields_cons_iff.mp hyields
    obtain ⟨cursor, hnext, rfl⟩ := next_of_ahead_lexeme hahead
    obtain ⟨span, stop, hnext'⟩ := next_append hnext hhead offset'
    rw [ahead_of_lexeme hnext']
    exact ⟨rfl, ih hbehind htail stop⟩

theorem readsAs_nil : ReadsAs [] [] := fun offset =>
  Ahead.yields_nil_iff.mpr (ahead_of_done (next_nil offset))

/-- The offset does not matter. -/
theorem readsAs_of_scans {text : String} (hscans : (ofText text).Scans tokens) :
    ReadsAs text.toList tokens := by
  have hreads := readsAs_append (scans_iff_yields.mp hscans)
    (fun _ _ _ => EndsRun.nil) readsAs_nil
  rwa [List.append_nil, List.append_nil] at hreads

/-- Texts that do not run together scan to their tokens put together. -/
theorem Scans.append {text after : String}
    (hscans : (ofText text).Scans tokens)
    (hends : ∀ t ∈ tokens, t.isRun = true → EndsRun after.toList)
    (hafter : (ofText after).Scans tokens') :
    (ofText (text ++ after)).Scans (tokens ++ tokens') := by
  have hreads := readsAs_append (scans_iff_yields.mp hscans) hends
    (readsAs_of_scans hafter)
  rw [scans_iff_yields, ofText, String.toList_append]
  exact hreads 0

theorem endsRun_space_append (text : String) :
    EndsRun (" " ++ text).toList := by
  rw [String.toList_append]
  exact EndsRun.space text.toList

theorem Scans.space {text : String} (hscans : (ofText text).Scans tokens) :
    (ofText (" " ++ text)).Scans tokens := by
  have hblank : (ofText " ").Scans [] := Spells.scans (.space .nil)
  exact hblank.append (by simp) hscans

theorem scans_text {token : Token} (hwritable : token.IsWritable) :
    (ofText token.text).Scans [token] :=
  (Token.spells_text hwritable).scans

end Cursor

namespace Group

variable {text text' : String} {g g' : Group Statement}

theorem scans_joined (hscans : (Cursor.ofText text).Scans g.tokens)
    (hscans' : (Cursor.ofText text').Scans g'.tokens) (c : Connective) :
    (Cursor.ofText (text ++ " " ++ c.text ++ " " ++ text')).Scans
      (g.append (.connective c g')).tokens := by
  have hconnective : (Cursor.ofText c.text).Scans [.connective c] :=
    Cursor.scans_text (Token.isWritable_connective c)
  have hbehind := hconnective.append
    (fun _ _ _ => Cursor.endsRun_space_append text') hscans'.space
  have hall := hscans.append
    (fun _ _ _ => Cursor.endsRun_space_append _) hbehind.space
  rw [tokens_append]
  simpa only [String.append_assoc, tokens, List.cons_append, List.nil_append]
    using hall

theorem scans_nested (hscans : (Cursor.ofText text).Scans g.tokens) :
    (Cursor.ofText ("(" ++ text ++ ")")).Scans
      (nested g .empty).tokens := by
  have hopen : (Cursor.ofText "(").Scans [.groupBegin] :=
    Cursor.scans_text Token.isWritable_groupBegin
  have hclose : (Cursor.ofText ")").Scans [.groupEnd] :=
    Cursor.scans_text Token.isWritable_groupEnd
  have hends : EndsRun ")".toList := EndsRun.close []
  have hinner := hscans.append (fun _ _ _ => hends) hclose
  have hall := hopen.append (by simp [Token.isRun]) hinner
  simpa only [String.append_assoc, tokens, List.cons_append, List.nil_append]
    using hall

/-- Filters that are not empty are joined by a connective, or put in
parentheses, as texts and as groups alike. -/
theorem parseWithin_none_compositional {text text' : String}
    {g g' : Group Statement} (hparse : parseWithin none text = .ok g)
    (hparse' : parseWithin none text' = .ok g') (hne : g ≠ .empty)
    (hne' : g' ≠ .empty) :
    (∀ c : Connective,
      parseWithin none (text ++ " " ++ c.text ++ " " ++ text') =
        .ok (g.append (.connective c g'))) ∧
    parseWithin none ("(" ++ text ++ ")") = .ok (.nested g .empty) := by
  have hscans := scans_of_parseWithin hparse
  have hscans' := scans_of_parseWithin hparse'
  have hg := (isFilter_of_parseWithin hparse).resolve_left hne
  have hg' := (isFilter_of_parseWithin hparse').resolve_left hne'
  constructor
  · intro c
    have hfollow : (connective c g').Alternates .connective := hg'
    exact parseWithin_of_scans (.inr (hg.append hfollow))
      (fitsWithin_none _ 0) (scans_joined hscans hscans' c)
  · exact parseWithin_of_scans (.inr ⟨hg, trivial⟩) (fitsWithin_none _ 0)
      (scans_nested hscans)

/-- The first text ends with a unary statement and a space, the second one
starts with a string and a word that touch. -/
theorem parseWithin_none_compositional_unary :
    let g : Group Statement := .statement ⟨.reference "a", "unset", none⟩ .empty
    let g' : Group Statement :=
      .statement ⟨.literal (.string "x ("), "is", some (.reference "b")⟩ .empty
    parseWithin none "a unset " = .ok g ∧
      parseWithin none "'x ('is b" = .ok g' ∧ g ≠ .empty ∧ g' ≠ .empty ∧
      parseWithin none "a unset  OR 'x ('is b" =
        .ok (g.append (.connective .or g')) ∧
      parseWithin none "(a unset )" = .ok (.nested g .empty) := by
  intro g g'
  have hscans : (Cursor.ofText "a unset ").Scans g.tokens := by
    unfold Cursor.Scans
    decide +kernel
  have hscans' : (Cursor.ofText "'x ('is b").Scans g'.tokens := by
    unfold Cursor.Scans
    decide +kernel
  have hparse : parseWithin none "a unset " = .ok g :=
    parseWithin_of_scans (.inr trivial) (fitsWithin_none g 0) hscans
  have hparse' : parseWithin none "'x ('is b" = .ok g' :=
    parseWithin_of_scans (.inr trivial) (fitsWithin_none g' 0) hscans'
  have hne : g ≠ .empty := by decide
  have hne' : g' ≠ .empty := by decide
  obtain ⟨hjoined, hnested⟩ :=
    parseWithin_none_compositional hparse hparse' hne hne'
  exact ⟨hparse, hparse', hne, hne', hjoined .or, hnested⟩

end Group

end FilterLanguage
