import FilterLanguage.Proofs.Token.Step

/-!
# Spellings

A text spells a list of tokens when it is made of their texts with any spaces
between them, at least one where a run would otherwise go on.  Scanning a
spelling gives the tokens.  The text of a group spells the tokens of the group.
-/

namespace FilterLanguage

inductive Spells : List Token → List Char → Prop
  | nil : Spells [] []
  | space {tokens : List Token} {text : List Char}
      (hrest : Spells tokens text) : Spells tokens (' ' :: text)
  | token {token : Token} {tokens : List Token} {text : List Char}
      (hwritable : token.IsWritable) (hends : token.isRun = true → EndsRun text)
      (hrest : Spells tokens text) :
      Spells (token :: tokens) (token.text.toList ++ text)

theorem Cursor.ahead_congr {cursor other : Cursor}
    (hnext : cursor.next = other.next) : cursor.ahead = other.ahead := by
  cases hother : other.next with
  | done => rw [ahead_of_done hother, ahead_of_done (hnext.trans hother)]
  | lexeme found after =>
    rw [ahead_of_lexeme hother, ahead_of_lexeme (hnext.trans hother)]
  | error e after =>
    rw [ahead_of_error hother, ahead_of_error (hnext.trans hother)]

theorem Spells.yields {tokens : List Token} {text : List Char}
    (hspells : Spells tokens text) (offset : Nat) :
    (Cursor.mk offset text).ahead.Yields tokens .ended := by
  induction hspells generalizing offset with
  | nil =>
    exact Ahead.yields_nil_iff.mpr
      (Cursor.ahead_of_done (Cursor.next_nil offset))
  | space hrest ih =>
    rw [Cursor.ahead_congr (Cursor.next_space offset _)]
    exact ih (offset + 1)
  | token hwritable hends hrest ih =>
    rw [Cursor.ahead_of_lexeme (Cursor.next_text hwritable hends)]
    exact ⟨rfl, ih _⟩

theorem Spells.scans {tokens : List Token} {text : String}
    (hspells : Spells tokens text.toList) :
    (Cursor.ofText text).Scans tokens :=
  Cursor.scans_iff_yields.mpr (hspells.yields 0)

theorem EndsRun.close (text : List Char) : EndsRun (')' :: text) := by
  simp [EndsRun, isRunChar]

theorem EndsRun.append {text after : List Char} (htext : EndsRun text)
    (hafter : EndsRun after) : EndsRun (text ++ after) := by
  cases text with
  | nil => exact hafter
  | cons c rest => exact htext

theorem Spells.append {tokens tokens' : List Token} {text after : List Char}
    (hspells : Spells tokens text) (hafter : EndsRun after)
    (hspells' : Spells tokens' after) :
    Spells (tokens ++ tokens') (text ++ after) := by
  induction hspells with
  | nil => exact hspells'
  | space hrest ih => exact .space ih
  | token hwritable hends hrest ih =>
    rw [List.cons_append, List.append_assoc]
    exact .token hwritable (fun hrun => (hends hrun).append hafter) ih

/-! ## Texts of groups -/

theorem Token.spells_text {token : Token} (hwritable : token.IsWritable) :
    Spells [token] token.text.toList := by
  have hspells : Spells [token] (token.text.toList ++ []) :=
    .token hwritable (fun _ => EndsRun.nil) .nil
  simpa using hspells

theorem Operand.spells_text {x : Operand} (hx : x.IsWritable) :
    Spells [x.token] x.text.toList := by
  rw [← Operand.text_token]
  exact Token.spells_text (x.isWritable_token.mpr hx)

theorem Statement.spells_text {s : Statement} (hs : s.IsWritable) :
    Spells s.tokens s.text.toList := by
  have hword : (Token.reference s.operator).IsWritable := hs.operator
  have hoperator : Spells [.reference s.operator] s.operator.toList :=
    Token.spells_text hword
  have hfront : Spells (s.left.token :: [.reference s.operator])
      (s.left.text.toList ++ ' ' :: s.operator.toList) :=
    (Operand.spells_text hs.left).append (EndsRun.space _) (.space hoperator)
  rw [Statement.tokens_eq]
  cases hright : s.right with
  | none => simpa [Statement.text, hright] using hfront
  | some x =>
    have hx : Spells [x.token] x.text.toList :=
      Operand.spells_text (hs.right x hright)
    have hspells := hfront.append (EndsRun.space _) (.space hx)
    simpa [Statement.text, hright] using hspells

theorem Spells.intercalate {tokens tokens' : List Token} {piece : String}
    {pieces : List String} (hpiece : Spells tokens piece.toList)
    (hnil : pieces = [] → tokens' = [])
    (hpieces : Spells tokens' (" ".intercalate pieces).toList) :
    Spells (tokens ++ tokens') (" ".intercalate (piece :: pieces)).toList := by
  cases pieces with
  | nil =>
    rw [hnil rfl, List.append_nil, String.intercalate_singleton]
    exact hpiece
  | cons next pieces =>
    have hspells := hpiece.append (EndsRun.space _) (.space hpieces)
    simpa [String.intercalate_cons_cons] using hspells

namespace Group

theorem tokens_eq_nil_of_pieces {g : Group Statement}
    (hpieces : g.pieces Statement.text = []) : g.tokens = [] := by
  cases g with
  | empty => rfl
  | statement s rest => simp [pieces] at hpieces
  | connective c rest => simp [pieces] at hpieces
  | nested inner rest => simp [pieces] at hpieces

theorem spells_text {g : Group Statement}
    (hg : ∀ s ∈ g.flat, s.IsWritable) :
    Spells g.tokens (g.text Statement.text).toList := by
  induction g with
  | empty => exact .nil
  | statement s rest ih =>
    simp only [flat, List.forall_mem_cons] at hg
    exact (Statement.spells_text hg.1).intercalate tokens_eq_nil_of_pieces
      (ih hg.2)
  | connective c rest ih =>
    have hconnective : Spells [.connective c] c.text.toList :=
      Token.spells_text (Token.isWritable_connective c)
    exact hconnective.intercalate tokens_eq_nil_of_pieces (ih hg)
  | nested inner rest ihInner ihRest =>
    simp only [flat, List.mem_append, or_imp, forall_and] at hg
    have hclose : Spells [.groupEnd] [')'] :=
      Token.spells_text Token.isWritable_groupEnd
    have hopen : Spells [.groupBegin] ['('] :=
      Token.spells_text Token.isWritable_groupBegin
    have hfull : Spells (.groupBegin :: (inner.tokens ++ [.groupEnd]))
        ('(' :: ((inner.text Statement.text).toList ++ [')'])) :=
      .token Token.isWritable_groupBegin (by simp [Token.isRun])
        ((ihInner hg.1).append (EndsRun.close _) hclose)
    have hpiece : Spells (.groupBegin :: (inner.tokens ++ [.groupEnd]))
        ("(" ++ inner.text Statement.text ++ ")").toList := by
      simpa using hfull
    have hspells := hpiece.intercalate tokens_eq_nil_of_pieces (ihRest hg.2)
    simpa [tokens, text, pieces] using hspells

end Group

end FilterLanguage
