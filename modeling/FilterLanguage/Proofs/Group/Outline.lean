import FilterLanguage.Proofs.Group.OutlineEntries
import FilterLanguage.Proofs.Text.Blank

/-!
# Outlines tell groups apart

The text of an outline determines its lines.  A name holds no space, so it is
over where the next line is indented, even when it holds line feeds.  A string
literal holds anything but is over at its quote.

Only the end is trimmed, and a name that stands there can lose characters, since
white space other than the space character belongs to names.  So the outline
determines the group up to white space at the end of the last name.
-/

namespace FilterLanguage

variable {after after' : List Char}

/-- Behind a line there is nothing, or there are lines further in than the
margin. -/
def IsIndented (text : List Char) : Prop :=
  text = [] ∨ ∃ rest, text = ' ' :: rest ∧ trimEnd rest ≠ []

/-! ## Names -/

theorem run_append_cancel {run run' rest rest' : List Char}
    (hrun : ∀ c ∈ run, isRunChar c = true)
    (hrun' : ∀ c ∈ run', isRunChar c = true) (hrest : EndsRun rest)
    (hrest' : EndsRun rest') (heq : run ++ rest = run' ++ rest') :
    run = run' ∧ rest = rest' := by
  constructor
  · rw [← takeWhile_run hrun hrest, heq, takeWhile_run hrun' hrest']
  · rw [← dropWhile_run hrun hrest, heq, dropWhile_run hrun' hrest']

theorem trimEnd_last_line (word : List Char) :
    trimEnd (word ++ ['\n']) = trimEnd word :=
  trimEnd_append_of_eq_nil word rfl

theorem trimEnd_inner_line (word : List Char) {rest : List Char}
    (hrest : trimEnd rest ≠ []) :
    trimEnd (word ++ '\n' :: ' ' :: rest) =
      (word ++ ['\n']) ++ ' ' :: trimEnd rest := by
  have happend := trimEnd_append_of_ne_nil (word ++ ['\n', ' ']) hrest
  simpa using happend

theorem space_not_mem_trimEnd {word : List Char}
    (hword : ∀ c ∈ word, isRunChar c = true) : ' ' ∉ trimEnd word := by
  intro hmem
  have hrun := hword ' ' ((trimEnd_isPrefix word).subset hmem)
  cases hrun

/-- The word of a last line does not hold the indentation of another one. -/
theorem last_line_ne_inner_line {word rest : List Char}
    (hword : ∀ c ∈ word, isRunChar c = true) (word' : List Char)
    (hrest : trimEnd rest ≠ []) :
    trimEnd word ≠ trimEnd (word' ++ '\n' :: ' ' :: rest) := by
  intro heq
  have hspace : ' ' ∈ trimEnd word := by
    simp [heq, trimEnd_inner_line word' hrest]
  exact space_not_mem_trimEnd hword hspace

/-- The line feed behind a word counts to the run, so that the indentation ends
it. -/
theorem isRunChar_of_mem_line {word : List Char}
    (hword : ∀ c ∈ word, isRunChar c = true) :
    ∀ c ∈ word ++ ['\n'], isRunChar c = true := by
  simpa [or_imp, forall_and] using ⟨hword, rfl⟩

theorem word_cancel {word word' : List Char}
    (hword : ∀ c ∈ word, isRunChar c = true)
    (hword' : ∀ c ∈ word', isRunChar c = true) (hafter : IsIndented after)
    (hafter' : IsIndented after')
    (heq : trimEnd (word ++ '\n' :: after) =
      trimEnd (word' ++ '\n' :: after')) :
    trimEnd after = trimEnd after' ∧
      (word = word' ∨ after = [] ∧ trimEnd word = trimEnd word') := by
  rcases hafter with rfl | ⟨rest, rfl, hrest⟩
  · rw [trimEnd_last_line] at heq
    rcases hafter' with rfl | ⟨rest', rfl, hrest'⟩
    · rw [trimEnd_last_line] at heq
      exact ⟨rfl, .inr ⟨rfl, heq⟩⟩
    · exact (last_line_ne_inner_line hword word' hrest' heq).elim
  · rcases hafter' with rfl | ⟨rest', rfl, hrest'⟩
    · rw [trimEnd_last_line] at heq
      exact (last_line_ne_inner_line hword' word hrest heq.symm).elim
    · rw [trimEnd_inner_line _ hrest, trimEnd_inner_line _ hrest'] at heq
      obtain ⟨hlines, hspaces⟩ := run_append_cancel
        (isRunChar_of_mem_line hword) (isRunChar_of_mem_line hword')
        (EndsRun.space _) (EndsRun.space _) heq
      have hrests := (List.cons.inj hspaces).2
      exact ⟨(trimEnd_append_cancel [' ']).mpr hrests,
        .inl (List.append_cancel_right hlines)⟩

theorem IsBareWord.isRunChar {name : String} (hname : IsBareWord name) :
    ∀ c ∈ name.toList, isRunChar c = true :=
  fun c hc => isRunChar_iff.mpr (hname.run c hc)

theorem name_cancel {name name' : String} (hname : IsBareWord name)
    (hname' : IsBareWord name') (hafter : IsIndented after)
    (hafter' : IsIndented after')
    (heq : trimEnd (name.toList ++ '\n' :: after) =
      trimEnd (name'.toList ++ '\n' :: after')) :
    trimEnd after = trimEnd after' ∧
      (name = name' ∨
        after = [] ∧ trimmedName name = trimmedName name') := by
  rw [trimmedName, trimmedName, String.ofList_inj, ← String.toList_inj]
  exact word_cancel hname.isRunChar hname'.isRunChar hafter hafter' heq

/-! ## Literals -/

namespace Literal

variable {value value' : Literal}

theorem isRun_or_string (value : Literal) :
    (Token.literal value).isRun = true ∨ ∃ text, value = .string text := by
  cases value with
  | number x => exact .inl rfl
  | string text => exact .inr ⟨text, rfl⟩
  | boolean value => exact .inl rfl

theorem exists_readsRun (hvalue : value.IsWritable)
    (hrun : (Token.literal value).isRun = true) :
    ∃ first tail, value.text.toList = first :: tail ∧
      (Token.literal value).ReadsRun first tail := by
  have hwritable : (Token.literal value).IsWritable := hvalue
  exact Token.exists_readsRun hwritable hrun

/-- A literal that is a run holds no white space at all. -/
theorem isBlank_of_mem_text (hvalue : value.IsWritable)
    (hrun : (Token.literal value).isRun = true) :
    ∀ c ∈ value.text.toList, isBlank c = false := by
  cases value with
  | number x =>
    cases x with
    | finite negative rank =>
      obtain rfl : negative = false := hvalue
      obtain ⟨hpositional, _⟩ := Number.isWrittenAs_text rank
      intro c hc
      rcases hpositional.isDigit_or_point hc with hdigit | rfl
      · exact isBlank_of_isDigit hdigit
      · rfl
    | infinite negative => exact hvalue.elim
    | nan => exact hvalue.elim
  | string value => cases hrun
  | boolean value => cases value <;> exact forall_isBlank_of_any rfl

theorem run_cancel (hvalue : value.IsWritable) (hvalue' : value'.IsWritable)
    (hrun : (Token.literal value).isRun = true)
    (hrun' : (Token.literal value').isRun = true)
    (hafter : IsIndented after) (hafter' : IsIndented after')
    (heq : trimEnd (value.text.toList ++ '\n' :: after) =
      trimEnd (value'.text.toList ++ '\n' :: after')) :
    value = value' ∧ trimEnd after = trimEnd after' := by
  have hsolid := trimEnd_eq_self (isBlank_of_mem_text hvalue hrun)
  have hsolid' := trimEnd_eq_self (isBlank_of_mem_text hvalue' hrun')
  obtain ⟨first, tail, hchars, hreads⟩ := exists_readsRun hvalue hrun
  obtain ⟨first', tail', hchars', hreads'⟩ := exists_readsRun hvalue' hrun'
  rw [hchars] at hsolid heq
  rw [hchars'] at hsolid' heq
  obtain ⟨hrest, hwords⟩ :=
    word_cancel hreads.run hreads'.run hafter hafter' heq
  rw [hsolid, hsolid'] at hwords
  have hsame : first :: tail = first' :: tail' := hwords.elim id And.right
  obtain ⟨rfl, rfl⟩ := List.cons.inj hsame
  have htokens := Option.some.inj (hreads.reads.symm.trans hreads'.reads)
  exact ⟨Token.literal.inj htokens, hrest⟩

theorem trimEnd_string_append (text : String) (rest : List Char) :
    trimEnd ((Literal.string text).text.toList ++ rest) =
      '"' :: (Quoted.escape '"' text.toList ++ '"' :: trimEnd rest) := by
  have hclose : trimEnd ('"' :: rest) = '"' :: trimEnd rest :=
    trimEnd_cons rfl rest
  have hne : trimEnd ('"' :: rest) ≠ [] := by simp [hclose]
  rw [text_string, List.cons_append, List.append_assoc, List.singleton_append,
    trimEnd_cons rfl, trimEnd_append_of_ne_nil _ hne, hclose]

theorem string_cancel {text text' : String}
    (heq : trimEnd ((Literal.string text).text.toList ++ '\n' :: after) =
      trimEnd ((Literal.string text').text.toList ++ '\n' :: after')) :
    text = text' ∧ trimEnd after = trimEnd after' := by
  rw [trimEnd_string_append, trimEnd_string_append] at heq
  have hread := congrArg (Quoted.read '"') (List.cons.inj heq).2
  rw [Quoted.read_escape (by decide), Quoted.read_escape (by decide)] at hread
  injection hread with htext _ hrest
  exact ⟨String.toList_inj.mp htext, (trimEnd_append_cancel ['\n']).mp hrest⟩

theorem run_ne_string {text : String} {rest rest' : List Char}
    (hvalue : value.IsWritable) (hrun : (Token.literal value).isRun = true) :
    trimEnd (value.text.toList ++ rest) ≠
      trimEnd ((Literal.string text).text.toList ++ rest') := by
  obtain ⟨first, tail, hchars, hreads⟩ := exists_readsRun hvalue hrun
  have hfirst : isBlank first = false :=
    isBlank_of_mem_text hvalue hrun first (by simp [hchars])
  rw [hchars, trimEnd_string_append, List.cons_append, trimEnd_cons hfirst]
  intro heq
  exact hreads.doubleQuote (List.cons.inj heq).1

theorem text_cancel (hvalue : value.IsWritable) (hvalue' : value'.IsWritable)
    (hafter : IsIndented after) (hafter' : IsIndented after')
    (heq : trimEnd (value.text.toList ++ '\n' :: after) =
      trimEnd (value'.text.toList ++ '\n' :: after')) :
    value = value' ∧ trimEnd after = trimEnd after' := by
  rcases value.isRun_or_string with hrun | ⟨text, rfl⟩
  · rcases value'.isRun_or_string with hrun' | ⟨text', rfl⟩
    · exact run_cancel hvalue hvalue' hrun hrun' hafter hafter' heq
    · exact (run_ne_string hvalue hrun heq).elim
  · rcases value'.isRun_or_string with hrun' | ⟨text', rfl⟩
    · exact (run_ne_string hvalue' hrun' heq.symm).elim
    · obtain ⟨rfl, hrest⟩ := string_cancel heq
      exact ⟨rfl, hrest⟩

end Literal

/-! ## Labels -/

namespace OutlineLabel

/-- The first two characters, which tell a label. -/
def mark (label : OutlineLabel) : List Char := label.text.toList.take 2

theorem mark_injective {label label' : OutlineLabel}
    (hmark : label.mark = label'.mark) : label = label' := by
  rcases label with _ | _ | (_ | _) | _ | _ | _ <;>
    rcases label' with _ | _ | (_ | _) | _ | _ | _ <;>
    revert hmark <;> decide

theorem mark_length (label : OutlineLabel) : label.mark.length = 2 := by
  rcases label with _ | _ | (_ | _) | _ | _ | _ <;> rfl

theorem isBlank_of_mem_mark (label : OutlineLabel) :
    ∀ c ∈ label.mark, isBlank c = false := by
  rcases label with _ | _ | (_ | _) | _ | _ | _ <;>
    exact forall_isBlank_of_any rfl

theorem trimEnd_text_append (label : OutlineLabel) (rest : List Char) :
    trimEnd (label.text.toList ++ rest) =
      label.mark ++ trimEnd (label.text.toList.drop 2 ++ rest) := by
  rw [← trimEnd_append_of_forall label.isBlank_of_mem_mark,
    ← List.append_assoc, mark, List.take_append_drop]

theorem text_cancel {label label' : OutlineLabel} {rest rest' : List Char}
    (heq : trimEnd (label.text.toList ++ rest) =
      trimEnd (label'.text.toList ++ rest')) :
    label = label' ∧ trimEnd rest = trimEnd rest' := by
  have hmarks := heq
  rw [trimEnd_text_append, trimEnd_text_append] at hmarks
  have hlength : label.mark.length = label'.mark.length := by
    rw [mark_length, mark_length]
  obtain rfl := mark_injective (List.append_inj hmarks hlength).1
  exact ⟨rfl, (trimEnd_append_cancel _).mp heq⟩

end OutlineLabel

/-! ## Lines -/

/-- Only lines of the same kind have the same label. -/
theorem OutlineNode.body_cancel {node node' : OutlineNode}
    (hnode : node.IsWritable) (hnode' : node'.IsWritable)
    (hlabel : node.label = node'.label) (hafter : IsIndented after)
    (hafter' : IsIndented after')
    (heq : trimEnd (node.body.toList ++ '\n' :: after) =
      trimEnd (node'.body.toList ++ '\n' :: after')) :
    trimEnd after = trimEnd after' ∧
      (node = node' ∨ after = [] ∧ node.trimmed = node'.trimmed) := by
  have hplain : trimEnd ('\n' :: after) = trimEnd ('\n' :: after') →
      trimEnd after = trimEnd after' := (trimEnd_append_cancel ['\n']).mp
  rcases node with _ | _ | c | name | (value | name) <;>
    rcases node' with _ | _ | c' | name' | (value' | name') <;>
    cases hlabel
  case group.group => exact ⟨hplain heq, .inl rfl⟩
  case statement.statement => exact ⟨hplain heq, .inl rfl⟩
  case connective.connective.refl => exact ⟨hplain heq, .inl rfl⟩
  case operator.operator.refl =>
    obtain ⟨hrest, rfl | ⟨hlast, htrimmed⟩⟩ :=
      name_cancel hnode hnode' hafter hafter' heq
    · exact ⟨hrest, .inl rfl⟩
    · exact ⟨hrest, .inr ⟨hlast, congrArg operator htrimmed⟩⟩
  case operand.literal.operand.literal.refl =>
    obtain ⟨rfl, hrest⟩ :=
      Literal.text_cancel hnode hnode' hafter hafter' heq
    exact ⟨hrest, .inl rfl⟩
  case operand.reference.operand.reference.refl =>
    obtain ⟨hrest, rfl | ⟨hlast, htrimmed⟩⟩ :=
      name_cancel hnode hnode' hafter hafter' heq
    · exact ⟨hrest, .inl rfl⟩
    · have hoperand : (Operand.reference name).trimmed =
          (Operand.reference name').trimmed :=
        congrArg Operand.reference htrimmed
      exact ⟨hrest, .inr ⟨hlast, congrArg operand hoperand⟩⟩

namespace OutlineEntry

theorem chars_append (entry : OutlineEntry) (after : List Char) :
    entry.chars ++ after = spaces (2 * entry.depth) ++
      (entry.node.label.text.toList ++
        (entry.node.body.toList ++ '\n' :: after)) := by
  simp [chars, outlineLine_toList, OutlineNode.text]

/-- Trimming leaves the indentation and the first letter of the label. -/
theorem exists_trimEnd_chars_append (entry : OutlineEntry)
    (after : List Char) :
    ∃ first rest, first ≠ ' ' ∧
      trimEnd (entry.node.label.text.toList ++
        (entry.node.body.toList ++ '\n' :: after)) = first :: rest ∧
      trimEnd (entry.chars ++ after) =
        spaces (2 * entry.depth) ++ first :: rest := by
  have hmark := entry.node.label.mark_length
  have hsolid := entry.node.label.isBlank_of_mem_mark
  have htrimmed := entry.node.label.trimEnd_text_append
    (entry.node.body.toList ++ '\n' :: after)
  cases hfirst : entry.node.label.mark with
  | nil => simp [hfirst] at hmark
  | cons first rest =>
    rw [hfirst, List.cons_append] at htrimmed
    refine ⟨first, _, ?_, htrimmed, ?_⟩
    · rintro rfl
      cases hsolid ' ' (by simp [hfirst])
    · rw [chars_append, trimEnd_append_of_ne_nil _ (by simp [htrimmed]),
        htrimmed]

theorem chars_cancel {entry entry' : OutlineEntry} (hentry : entry.IsWritten)
    (hentry' : entry'.IsWritten) (hafter : IsIndented after)
    (hafter' : IsIndented after')
    (heq : trimEnd (entry.chars ++ after) =
      trimEnd (entry'.chars ++ after')) :
    trimEnd after = trimEnd after' ∧
      (entry = entry' ∨ after = [] ∧ entry.trimmed = entry'.trimmed) := by
  obtain ⟨first, rest, hfirst, hline, hchars⟩ :=
    entry.exists_trimEnd_chars_append after
  obtain ⟨first', rest', hfirst', hline', hchars'⟩ :=
    entry'.exists_trimEnd_chars_append after'
  rw [hchars, hchars'] at heq
  obtain ⟨hindent, hlines⟩ := spaces_append_cancel hfirst hfirst' heq
  rw [← hline, ← hline'] at hlines
  obtain ⟨hlabel, hbody⟩ := OutlineLabel.text_cancel hlines
  obtain ⟨hrest, hnode⟩ := OutlineNode.body_cancel hentry.node hentry'.node
    hlabel hafter hafter' hbody
  rcases entry with ⟨depth, node⟩
  rcases entry' with ⟨depth', node'⟩
  obtain rfl : depth = depth' := Nat.eq_of_mul_eq_mul_left (by omega) hindent
  rcases hnode with rfl | ⟨hlast, htrimmed⟩
  · exact ⟨hrest, .inl rfl⟩
  · exact ⟨hrest, .inr ⟨hlast, congrArg (mk depth) htrimmed⟩⟩

theorem trimEnd_chars_trimmed (entry : OutlineEntry) :
    trimEnd entry.trimmed.chars = trimEnd entry.chars := by
  have hlabel : ∀ node : OutlineNode, node.trimmed.label = node.label := by
    intro node
    rcases node with _ | _ | c | name | (value | name) <;> rfl
  have hname : ∀ name,
      trimEnd (trimmedName name).toList = trimEnd name.toList := by
    intro name
    rw [trimmedName, String.toList_ofList, trimEnd_trimEnd]
  have hbody : ∀ node : OutlineNode,
      trimEnd node.trimmed.body.toList = trimEnd node.body.toList := by
    intro node
    rcases node with _ | _ | c | name | (value | name)
    case operator => exact hname name
    case operand.reference => exact hname name
    all_goals rfl
  have hchars := entry.chars_append []
  have htrimmed := entry.trimmed.chars_append []
  rw [List.append_nil] at hchars htrimmed
  rw [hchars, htrimmed, trimmed, hlabel, trimEnd_append_cancel,
    trimEnd_append_cancel, trimEnd_last_line, trimEnd_last_line, hbody]

end OutlineEntry

/-! ## Texts of lines -/

theorem isIndented_layOutEntries {entries : List OutlineEntry}
    (hentries : ∀ entry ∈ entries, entry.IsWritten) :
    IsIndented (layOutEntries entries) := by
  cases entries with
  | nil => exact .inl rfl
  | cons entry entries =>
    have hdepth := (hentries entry (by simp)).depth
    obtain ⟨first, rest, -, htrimmed, -⟩ :=
      entry.exists_trimEnd_chars_append (layOutEntries entries)
    obtain ⟨margin, hmargin⟩ : ∃ margin, 2 * entry.depth = margin + 1 :=
      ⟨2 * entry.depth - 1, by omega⟩
    rw [layOutEntries_cons, OutlineEntry.chars_append, hmargin, spaces_succ,
      List.cons_append]
    refine .inr ⟨_, rfl, ?_⟩
    rw [trimEnd_append_of_ne_nil _ (by simp [htrimmed]), htrimmed]
    simp

theorem trimEnd_layOutEntries_eq_nil_iff {entries : List OutlineEntry} :
    trimEnd (layOutEntries entries) = [] ↔ entries = [] := by
  cases entries with
  | nil => simp
  | cons entry entries =>
    obtain ⟨first, rest, -, -, htrimmed⟩ :=
      entry.exists_trimEnd_chars_append (layOutEntries entries)
    rw [layOutEntries_cons, htrimmed]
    simp

/-- Both texts end with the same line, and only their last lines can differ. -/
theorem layOutEntries_cancel {entries entries' : List OutlineEntry}
    (hentries : ∀ entry ∈ entries, entry.IsWritten)
    (hentries' : ∀ entry ∈ entries', entry.IsWritten)
    (heq : trimEnd (layOutEntries entries) =
      trimEnd (layOutEntries entries')) :
    entries.modifyLast OutlineEntry.trimmed =
      entries'.modifyLast OutlineEntry.trimmed := by
  induction entries generalizing entries' with
  | nil =>
    obtain rfl := trimEnd_layOutEntries_eq_nil_iff.mp heq.symm
    rfl
  | cons entry rest ih =>
    cases entries' with
    | nil => cases trimEnd_layOutEntries_eq_nil_iff.mp heq
    | cons entry' rest' =>
      obtain ⟨hentry, hwritten⟩ := List.forall_mem_cons.mp hentries
      obtain ⟨hentry', hwritten'⟩ := List.forall_mem_cons.mp hentries'
      rw [layOutEntries_cons, layOutEntries_cons] at heq
      obtain ⟨hrest, hfirst⟩ := OutlineEntry.chars_cancel hentry hentry'
        (isIndented_layOutEntries hwritten)
        (isIndented_layOutEntries hwritten') heq
      by_cases hlast : rest = []
      · subst hlast
        obtain rfl := trimEnd_layOutEntries_eq_nil_iff.mp hrest.symm
        have htrimmed : entry.trimmed = entry'.trimmed :=
          hfirst.elim (congrArg OutlineEntry.trimmed) And.right
        exact congrArg (fun last => [last]) htrimmed
      · have hmore : rest' ≠ [] := by
          rintro rfl
          exact hlast (trimEnd_layOutEntries_eq_nil_iff.mp hrest)
        have hsame : entry = entry' := by
          refine hfirst.resolve_right fun hend => hlast ?_
          exact trimEnd_layOutEntries_eq_nil_iff.mp (by rw [hend.1]; rfl)
        rw [modifyLast_cons_of_ne_nil _ _ hlast,
          modifyLast_cons_of_ne_nil _ _ hmore, hsame,
          ih hwritten hwritten' hrest]

theorem trimEnd_layOutEntries_modifyLast (entries : List OutlineEntry) :
    trimEnd (layOutEntries (entries.modifyLast OutlineEntry.trimmed)) =
      trimEnd (layOutEntries entries) := by
  rcases entries.eq_nil_or_concat with rfl | ⟨front, last, rfl⟩
  · rfl
  · rw [List.concat_eq_append, List.modifyLast_concat, layOutEntries_append,
      layOutEntries_append, trimEnd_append_cancel]
    simpa using last.trimEnd_chars_trimmed

/-! ## Whole groups -/

namespace Group

theorem outline_inj {g h : Group Statement} :
    g.outline = h.outline ↔
      trimEnd (layOutEntries (g.entries 1)) =
        trimEnd (layOutEntries (h.entries 1)) := by
  rw [← String.toList_inj, outline_toList, outline_toList,
    trimEnd_append_cancel]

theorem outline_eq_iff_of_isWritable {g h : Group Statement}
    (hg : ∀ s ∈ g.flat, s.IsWritable) (hh : ∀ s ∈ h.flat, s.IsWritable) :
    g.outline = h.outline ↔ g.trimmed = h.trimmed := by
  rw [outline_inj]
  constructor
  · intro heq
    have hlines := layOutEntries_cancel
      (isWritten_of_mem_entries hg (Nat.succ_pos 0))
      (isWritten_of_mem_entries hh (Nat.succ_pos 0)) heq
    rw [← entries_trimmed, ← entries_trimmed] at hlines
    exact entries_injective hlines
  · intro heq
    rw [← trimEnd_layOutEntries_modifyLast (g.entries 1),
      ← trimEnd_layOutEntries_modifyLast (h.entries 1), ← entries_trimmed,
      ← entries_trimmed, heq]

/-- The outlines of parsed groups are the same just when the groups are equal up
to white space at the end of the last name.  All that stands in front of it, and
a literal at the end, can be told from the outline. -/
theorem outline_eq_iff {limit limit' : Option ℕ} {text text' : String}
    {g h : Group Statement} (hg : parseWithin limit text = .ok g)
    (hh : parseWithin limit' text' = .ok h) :
    g.outline = h.outline ↔ g.trimmed = h.trimmed :=
  outline_eq_iff_of_isWritable (isWellFormed_of_parseWithin hg).writable
    (isWellFormed_of_parseWithin hh).writable

/-- Only the tab in the last name is lost. -/
theorem outline_eq_iff_tabs :
    let group := fun name operator => Group.statement
      ⟨.reference name, "in", some (.literal (.string "\t"))⟩
      (.connective .and
        (.nested (.statement ⟨.reference "c", operator, none⟩ .empty) .empty))
    parseWithin none "a\t in '\t' AND (c x\t)" = .ok (group "a\t" "x\t") ∧
      parseWithin none "a\t in '\t' AND (c x)" = .ok (group "a\t" "x") ∧
      parseWithin none "a in '\t' AND (c x)" = .ok (group "a" "x") ∧
      (group "a\t" "x\t").outline = (group "a\t" "x").outline ∧
      (group "a\t" "x\t").outline ≠ (group "a" "x").outline := by
  intro group
  have hparse : parseWithin none "a\t in '\t' AND (c x\t)" =
      .ok (group "a\t" "x\t") := by decide +kernel
  have htrim : parseWithin none "a\t in '\t' AND (c x)" =
      .ok (group "a\t" "x") := by decide +kernel
  have hother : parseWithin none "a in '\t' AND (c x)" =
      .ok (group "a" "x") := by decide +kernel
  refine ⟨hparse, htrim, hother, ?_, ?_⟩
  · exact (outline_eq_iff hparse htrim).mpr (by decide +kernel)
  · intro heq
    have htrimmed := (outline_eq_iff hparse hother).mp heq
    revert htrimmed
    decide +kernel

/-- Two groups with the same outline: the operator of the first one ends in a
tab. -/
theorem outline_not_injective :
    ∃ g h : Group Statement,
      parseWithin none "a x\t" = .ok g ∧ parseWithin none "a x" = .ok h ∧
      g ≠ h ∧ g.outline = h.outline := by
  refine ⟨.statement ⟨.reference "a", "x\t", none⟩ .empty,
    .statement ⟨.reference "a", "x", none⟩ .empty, ?_, ?_, ?_, ?_⟩ <;>
    decide +kernel

end Group

end FilterLanguage
