import Mathlib
import TnsClient.Statement.Kind

set_option autoImplicit false

/-!
# What the kind of a statement depends on

What may stand in front of the first word of a statement is told here as a language of its own,
piece by piece: blanks, opening parentheses and closed comments. None of it says anything of the
kind, whatever marks there are inside of a comment. Nor does the case of letters: no mark has one,
so that a statement in small letters has the same decoration.

## Main definitions

* `TnsClient.Decoration.Piece` — a blank, a parenthesis or a closed comment.
* `TnsClient.Decoration.Spells` — any number of pieces, one behind the other.
* `TnsClient.SameButCase` — texts that are the same but for the case of letters.

## Main results

* `TnsClient.Decoration.Spells.undecorated_append` — decoration is taken off.
* `TnsClient.Decoration.exists_spells_append` — nothing else is.
* `TnsClient.undecorated_map_toLower` — a text in small letters has the same decoration.
* `TnsClient.StatementKind.ofSql_word` — the kind is that of the first word.
* `TnsClient.StatementKind.ofSql_decorated` — what the kind of a statement does not depend on.
-/

namespace TnsClient

variable {text other rest : List Char} {c mark : Char}

/-! ## What may stand in front -/

namespace Decoration

/-- A piece of decoration. A comment ends at the first mark that closes it. -/
inductive Piece : List Char → Prop
  /-- A blank. -/
  | blank {c : Char} (h : Text.isBlank c = true) : Piece [c]
  /-- An opening parenthesis. -/
  | parenthesis : Piece ['(']
  /-- A comment up to the end of the line. -/
  | line {text : List Char} (h : '\n' ∉ text) : Piece ('-' :: '-' :: text ++ ['\n'])
  /-- A comment up to its closing mark. -/
  | block {text : List Char} (h : ¬ ['*', '/'] <:+: text) :
    Piece ('/' :: '*' :: text ++ ['*', '/'])

/-- Any number of pieces of decoration, one behind the other. -/
inductive Spells : List Char → Prop
  | nil : Spells []
  | cons {piece rest : List Char} (hpiece : Piece piece) (hrest : Spells rest) :
    Spells (piece ++ rest)

/-- In a comment a character is passed over where no closing mark begins. -/
lemma strip_block_cons (h : ∀ behind, c = '*' → rest = '/' :: behind → False) :
    strip .block (c :: rest) = strip .block rest := by
  rw [strip]
  exact h

/-- Outside of comments it is passed over where none begins, if it is a blank or a parenthesis. -/
lemma strip_plain_cons (hline : ∀ behind, c = '-' → rest = '-' :: behind → False)
    (hblock : ∀ behind, c = '/' → rest = '*' :: behind → False) :
    strip .plain (c :: rest) =
      if Text.isBlank c || c == '(' then strip .plain rest else c :: rest := by
  rw [strip]
  · exact hline
  · exact hblock

/-- A comment up to the end of the line is left at the first line end. -/
lemma strip_line_append (h : '\n' ∉ text) (rest : List Char) :
    strip .line (text ++ '\n' :: rest) = strip .plain rest := by
  induction text with
  | nil => rfl
  | cons c text ih =>
    obtain ⟨hc, htext⟩ := not_or.1 (mt List.mem_cons.2 h)
    rw [List.cons_append, strip, if_neg (Ne.symm hc)]
    exact ih htext

/-- A block is left at the first mark that closes it, even if there is a star in front of the
mark. -/
lemma strip_block_append (h : ¬ ['*', '/'] <:+: text) (rest : List Char) :
    strip .block (text ++ '*' :: '/' :: rest) = strip .plain rest := by
  induction text with
  | nil => rfl
  | cons c text ih =>
    have htext : ¬ ['*', '/'] <:+: text := by
      intro hinside
      exact h (hinside.trans (List.suffix_cons c text).isInfix)
    rw [List.cons_append, strip_block_cons]
    · exact ih htext
    · -- no closing mark begins here: it would stand in the text
      rintro behind rfl hbehind
      rcases text with _ | ⟨next, text⟩
      · cases hbehind
      · obtain ⟨rfl, -⟩ := List.cons.inj hbehind
        exact h (List.prefix_append ['*', '/'] text).isInfix

/-- A blank or a parenthesis is passed over, whatever follows it. -/
lemma strip_of_passed (h : (Text.isBlank c || c == '(') = true) (rest : List Char) :
    strip .plain (c :: rest) = strip .plain rest := by
  rw [strip_plain_cons, if_pos h]
  · rintro behind rfl -
    exact absurd h (by decide)
  · rintro behind rfl -
    exact absurd h (by decide)

/-- **A piece of decoration** is taken off. -/
lemma Piece.strip_append {piece : List Char} (h : Piece piece) (rest : List Char) :
    strip .plain (piece ++ rest) = strip .plain rest := by
  cases h with
  | blank hblank => exact strip_of_passed (by rw [hblank, Bool.true_or]) rest
  | parenthesis => exact strip_of_passed (by decide) rest
  | line htext =>
    rw [List.append_assoc]
    exact strip_line_append htext rest
  | block htext =>
    rw [List.append_assoc]
    exact strip_block_append htext rest

/-- **Decoration** is taken off, whatever follows it. -/
lemma Spells.undecorated_append (h : Spells text) (rest : List Char) :
    undecorated (text ++ rest) = undecorated rest := by
  unfold undecorated
  induction h with
  | nil => rfl
  | cons hpiece _ ih =>
    rw [List.append_assoc, hpiece.strip_append]
    exact ih

/-! ## What is taken off -/

/-- The end of the decoration, from a place in it on: the comment at that place is closed, and
decoration follows. -/
def Ends : Decoration → List Char → Prop
  | .plain, text => Spells text
  | .line, text => ∃ inside behind, '\n' ∉ inside ∧ Spells behind ∧ text = inside ++ '\n' :: behind
  | .block, text => ∃ inside behind, ¬ ['*', '/'] <:+: inside ∧ Spells behind ∧
      text = inside ++ '*' :: '/' :: behind

/-- No closing mark comes about by one more character, if none begins with it. -/
lemma not_infix_cons {inside behind : List Char} (h : ¬ ['*', '/'] <:+: inside)
    (hopen : ∀ tail, c = '*' → inside ++ behind = '/' :: tail → False) :
    ¬ ['*', '/'] <:+: c :: inside := by
  intro hinside
  rcases List.infix_cons_iff.1 hinside with ⟨tail, htail⟩ | hlater
  · obtain ⟨rfl, hslash⟩ := List.cons.inj htail
    exact hopen (tail ++ behind) rfl (by rw [← hslash]; rfl)
  · exact h hlater

/-- What is taken off ends the decoration, if something is left.

**Proof sketch.** Induction along the text. A character in a comment goes into its text, in which no
closing mark comes about, for there the comment would have been left. -/
lemma strip_splits (state : Decoration) (text : List Char) (h : strip state text ≠ []) :
    ∃ front, Ends state front ∧ text = front ++ strip state text := by
  induction state, text using strip.induct with
  | case1 state => exact absurd (by cases state <;> rfl) h
  | case2 c rest ih =>
    rw [strip] at h ⊢
    obtain ⟨front, hends, hrest⟩ := ih h
    by_cases hc : c = '\n'
    · rw [if_pos hc] at hends
      refine ⟨c :: front, ⟨[], front, List.not_mem_nil, hends, by rw [hc]; rfl⟩, ?_⟩
      rw [List.cons_append, ← hrest]
    · rw [if_neg hc] at hends
      obtain ⟨inside, behind, hinside, hbehind, rfl⟩ := hends
      have hmem : '\n' ∉ c :: inside := List.not_mem_cons_of_ne_of_not_mem (Ne.symm hc) hinside
      refine ⟨c :: (inside ++ '\n' :: behind), ⟨c :: inside, behind, hmem, hbehind, rfl⟩, ?_⟩
      rw [List.cons_append, ← hrest]
  | case3 rest ih =>
    obtain ⟨front, hends, hrest⟩ := ih h
    refine ⟨'*' :: '/' :: front, ⟨[], front, by decide, hends, rfl⟩, ?_⟩
    exact congrArg ('*' :: '/' :: ·) hrest
  | case4 c rest hopen ih =>
    rw [strip_block_cons hopen] at h ⊢
    obtain ⟨front, ⟨inside, behind, hinside, hbehind, rfl⟩, hrest⟩ := ih h
    refine ⟨c :: (inside ++ '*' :: '/' :: behind), ⟨c :: inside, behind, ?_, hbehind, rfl⟩,
      congrArg (c :: ·) hrest⟩
    rw [List.append_assoc] at hrest
    apply not_infix_cons hinside
    intro tail hc hslash
    exact hopen tail hc (hrest.trans hslash)
  | case5 rest ih =>
    obtain ⟨front, ⟨inside, behind, hinside, hbehind, rfl⟩, hrest⟩ := ih h
    refine ⟨'-' :: '-' :: (inside ++ '\n' :: behind), ?_, congrArg ('-' :: '-' :: ·) hrest⟩
    have hpiece := Spells.cons (Piece.line hinside) hbehind
    rwa [List.append_assoc] at hpiece
  | case6 rest ih =>
    obtain ⟨front, ⟨inside, behind, hinside, hbehind, rfl⟩, hrest⟩ := ih h
    refine ⟨'/' :: '*' :: (inside ++ '*' :: '/' :: behind), ?_, congrArg ('/' :: '*' :: ·) hrest⟩
    have hpiece := Spells.cons (Piece.block hinside) hbehind
    rwa [List.append_assoc] at hpiece
  | case7 c rest hline hblock hpassed ih =>
    rw [strip_of_passed hpassed] at h ⊢
    obtain ⟨front, hends, hrest⟩ := ih h
    refine ⟨c :: front, ?_, congrArg (c :: ·) hrest⟩
    rcases Bool.or_eq_true_iff.1 hpassed with hblank | hparenthesis
    · exact Spells.cons (Piece.blank hblank) hends
    · rw [beq_iff_eq.1 hparenthesis]
      exact Spells.cons Piece.parenthesis hends
  | case8 c rest hline hblock hpassed =>
    rw [strip_plain_cons hline hblock, if_neg hpassed]
    exact ⟨[], Spells.nil, rfl⟩

/-- **Nothing but decoration is taken off.** A text of which something is left is decoration and what
is left. Nothing is left where a comment does not end. -/
theorem exists_spells_append (text : List Char) (h : undecorated text ≠ []) :
    ∃ front, Spells front ∧ text = front ++ undecorated text :=
  strip_splits .plain text h

end Decoration

/-! ## The case of letters -/

/-- Two texts are the same but for the case of their ASCII letters. -/
def SameButCase (text other : List Char) : Prop :=
  List.Forall₂ (fun c d => d = c ∨ d = c.toLower ∨ d = c.toUpper) text other

/-- Small letters tell no texts apart that are the same but for case. -/
lemma SameButCase.map_toLower (h : SameButCase text other) :
    text.map Char.toLower = other.map Char.toLower := by
  induction h with
  | nil => rfl
  | cons hsame _ ih =>
    rw [List.map_cons, List.map_cons, ih]
    rcases hsame with rfl | rfl | rfl
    · rfl
    · rw [Char.toLower_toLower_eq_toLower]
    · rw [Char.toLower_toUpper_eq_toLower]

/-- What is no letter is no capital. -/
lemma not_isUpper_of_isAlpha_eq_false (h : c.isAlpha = false) : ¬ c.isUpper = true := by
  rw [Char.isAlpha, Bool.or_eq_false_iff] at h
  rw [h.1]
  exact Bool.false_ne_true

/-- A mark is no letter, so that no letter in small form is the mark. -/
lemma toLower_eq_iff (hmark : mark.isAlpha = false) : c.toLower = mark ↔ c = mark := by
  constructor
  · rintro rfl
    rw [Char.isAlpha_toLower_eq_isAlpha] at hmark
    exact (Char.toLower_eq_of_not_isUpper (not_isUpper_of_isAlpha_eq_false hmark)).symm
  · rintro rfl
    exact Char.toLower_eq_of_not_isUpper (not_isUpper_of_isAlpha_eq_false hmark)

/-- A text in small letters begins with a mark only where the text itself does. -/
lemma exists_eq_cons_of_map_toLower (hmark : mark.isAlpha = false) {behind : List Char}
    (h : text.map Char.toLower = mark :: behind) : ∃ tail, text = mark :: tail := by
  obtain ⟨c, tail, rfl, hc, -⟩ := List.map_eq_cons_iff.1 h
  rw [toLower_eq_iff hmark] at hc
  exact ⟨tail, by rw [hc]⟩

/-- No letter is blank. -/
lemma isBlank_eq_false_of_isAlpha (h : c.isAlpha = true) : Text.isBlank c = false := by
  have hblanks : ∀ n ∈ Text.blanks, (Char.ofNat n).isAlpha = false := by decide
  by_contra hblank
  have hmem : c.toNat ∈ Text.blanks := by
    simpa only [Text.isBlank, Bool.not_eq_false, List.contains_iff_mem] using hblank
  have hc := hblanks c.toNat hmem
  rw [Char.ofNat_toNat, h] at hc
  exact Bool.noConfusion hc

/-- A small letter is as little blank as the capital. -/
lemma isBlank_toLower (c : Char) : Text.isBlank c.toLower = Text.isBlank c := by
  by_cases hupper : c.isUpper = true
  · have halpha : c.isAlpha = true := by rw [Char.isAlpha, hupper, Bool.true_or]
    rw [isBlank_eq_false_of_isAlpha halpha, isBlank_eq_false_of_isAlpha]
    rw [Char.isAlpha_toLower_eq_isAlpha, halpha]
  · rw [Char.toLower_eq_of_not_isUpper hupper]

/-- Nor is it passed over as decoration. -/
lemma passed_toLower (c : Char) :
    (Text.isBlank c.toLower || c.toLower == '(') = (Text.isBlank c || c == '(') := by
  have hparenthesis : (c.toLower == '(') = (c == '(') := by
    rw [Bool.eq_iff_iff, beq_iff_eq, beq_iff_eq]
    exact toLower_eq_iff (by decide)
  rw [isBlank_toLower, hparenthesis]

/-- No pair of marks that open or close a comment comes about by small letters. -/
lemma not_marks_map_toLower {first second : Char} (hfirst : first.isAlpha = false)
    (hsecond : second.isAlpha = false)
    (h : ∀ behind, c = first → rest = second :: behind → False) :
    ∀ behind, c.toLower = first → rest.map Char.toLower = second :: behind → False := by
  intro behind hc hrest
  obtain ⟨tail, htail⟩ := exists_eq_cons_of_map_toLower hsecond hrest
  exact h tail ((toLower_eq_iff hfirst).1 hc) htail

/-- A text in small letters has the same decoration, from any place in it on. -/
lemma strip_map_toLower (state : Decoration) (text : List Char) :
    strip state (text.map Char.toLower) = (strip state text).map Char.toLower := by
  induction state, text using strip.induct with
  | case1 state => simp [strip]
  | case2 c rest ih =>
    have hend : c.toLower = '\n' ↔ c = '\n' := toLower_eq_iff (by decide)
    rw [List.map_cons, strip, strip]
    simp only [hend]
    exact ih
  | case3 rest ih => exact ih
  | case4 c rest hopen ih =>
    rw [List.map_cons, Decoration.strip_block_cons, Decoration.strip_block_cons hopen]
    · exact ih
    · exact not_marks_map_toLower (by decide) (by decide) hopen
  | case5 rest ih => exact ih
  | case6 rest ih => exact ih
  | case7 c rest hline hblock hpassed ih =>
    rw [List.map_cons, Decoration.strip_plain_cons, Decoration.strip_plain_cons hline hblock,
      passed_toLower, if_pos hpassed, if_pos hpassed]
    · exact ih
    · exact not_marks_map_toLower (by decide) (by decide) hline
    · exact not_marks_map_toLower (by decide) (by decide) hblock
  | case8 c rest hline hblock hpassed =>
    rw [List.map_cons, Decoration.strip_plain_cons, Decoration.strip_plain_cons hline hblock,
      passed_toLower, if_neg hpassed, if_neg hpassed, List.map_cons]
    · exact not_marks_map_toLower (by decide) (by decide) hline
    · exact not_marks_map_toLower (by decide) (by decide) hblock

/-- **The case of letters** has no part in the decoration. -/
lemma undecorated_map_toLower (text : List Char) :
    undecorated (text.map Char.toLower) = (undecorated text).map Char.toLower :=
  strip_map_toLower .plain text

/-! ## The first word -/

/-- The first word is that of the text in small letters. -/
lemma leadingWord_map_toLower (text : List Char) :
    leadingWord (text.map Char.toLower) = leadingWord text := by
  have hletters : Char.isAlpha ∘ Char.toLower = Char.isAlpha := by
    funext c
    exact Char.isAlpha_toLower_eq_isAlpha c
  have hsmall : Char.toLower ∘ Char.toLower = Char.toLower := by
    funext c
    exact Char.toLower_toLower_eq_toLower c
  rw [leadingWord, undecorated_map_toLower, List.takeWhile_map, hletters, List.map_map, hsmall,
    leadingWord]

/-- Texts that are the same but for case have the same first word. -/
lemma SameButCase.leadingWord_eq (h : SameButCase text other) :
    leadingWord text = leadingWord other := by
  rw [← leadingWord_map_toLower text, h.map_toLower, leadingWord_map_toLower]

/-- Decoration is no part of the first word. -/
lemma Decoration.Spells.leadingWord_append (h : Decoration.Spells text) (rest : List Char) :
    leadingWord (text ++ rest) = leadingWord rest := by
  rw [leadingWord, h.undecorated_append, leadingWord]

/-- A letter stands in front of no decoration. -/
lemma undecorated_cons (h : c.isAlpha = true) (rest : List Char) :
    undecorated (c :: rest) = c :: rest := by
  have hmark : ∀ mark : Char, mark.isAlpha = false → c ≠ mark := by
    rintro mark hmark rfl
    exact absurd h (by rw [hmark]; exact Bool.false_ne_true)
  rw [undecorated, Decoration.strip_plain_cons, isBlank_eq_false_of_isAlpha h, if_neg]
  · rw [Bool.false_or, beq_iff_eq]
    exact hmark '(' (by decide)
  · intro behind hc
    exact absurd hc (hmark '-' (by decide))
  · intro behind hc
    exact absurd hc (hmark '/' (by decide))

/-- **The first word** of a text is the letters behind its decoration, up to what is no letter. -/
lemma leadingWord_of_word {decoration word : List Char} (hdecoration : Decoration.Spells decoration)
    (hword : ∀ c ∈ word, c.isAlpha = true) (hne : word ≠ [])
    (hrest : ∀ c ∈ rest.head?, c.isAlpha = false) :
    leadingWord (decoration ++ word ++ rest) = word.map Char.toLower := by
  obtain ⟨first, letters, rfl⟩ := List.exists_cons_of_ne_nil hne
  have hfirst : first.isAlpha = true := hword first List.mem_cons_self
  have hend : rest.takeWhile Char.isAlpha = [] := by
    rcases rest with _ | ⟨c, behind⟩
    · rfl
    · rw [List.takeWhile_cons_of_neg]
      rw [hrest c rfl]
      exact Bool.false_ne_true
  rw [List.append_assoc, hdecoration.leadingWord_append, leadingWord, List.cons_append,
    undecorated_cons hfirst, ← List.cons_append, List.takeWhile_append_of_pos hword, hend,
    List.append_nil]

namespace StatementKind

/-- The kind of a statement is that of its first word, whatever stands in front of it and behind it,
and in whatever letters it is written. -/
theorem ofSql_word {decoration word rest : List Char} (hdecoration : Decoration.Spells decoration)
    (hword : ∀ c ∈ word, c.isAlpha = true) (hne : word ≠ [])
    (hrest : ∀ c ∈ rest.head?, c.isAlpha = false) :
    ofSql (String.ofList (decoration ++ word ++ rest)) =
      ofWord (String.ofList (word.map Char.toLower)) := by
  rw [ofSql, String.toList_ofList, leadingWord_of_word hdecoration hword hne hrest]

/-- **Decoration and case do not matter.** Whatever blanks, opening parentheses and closed comments
stand in front of a statement, its kind is that of the statement without them; it is the same for
statements that are the same but for the case of their letters; and where the first word stands in
front, it is the kind of that word in small letters. -/
theorem ofSql_decorated :
    (∀ decoration sql : String, Decoration.Spells decoration.toList →
      ofSql (decoration ++ sql) = ofSql sql) ∧
    (∀ sql other : String, SameButCase sql.toList other.toList → ofSql sql = ofSql other) ∧
    ∀ word rest : String, (∀ c ∈ word.toList, c.isAlpha = true) → word.toList ≠ [] →
      (∀ c ∈ rest.toList.head?, c.isAlpha = false) →
      ofSql (word ++ rest) = ofWord (String.ofList (word.toList.map Char.toLower)) := by
  refine ⟨?_, ?_, ?_⟩
  · intro decoration sql h
    rw [ofSql, String.toList_append, h.leadingWord_append, ofSql]
  · intro sql other h
    rw [ofSql, h.leadingWord_eq, ofSql]
  · intro word rest hword hne hrest
    have hkind := ofSql_word Decoration.Spells.nil hword hne hrest
    rw [List.nil_append, ← String.toList_append, String.ofList_toList] at hkind
    exact hkind

/-- Marks of one comment inside of the other, a star in front of the closing mark, and a word in
letters of both kinds. -/
theorem ofSql_decorated_nested_marks :
    ofSql ("(--/* \n/*-- **/" ++ "MeRgE into") = ofSql "MeRgE into" ∧
      ofSql "MeRgE into" = ofSql "mErge INTO" ∧ ofSql ("MeRgE" ++ " into") = .dml := by
  refine ⟨ofSql_decorated.1 _ _ ?_, ofSql_decorated.2.1 _ _ ?_, ?_⟩
  · have hspelled : Decoration.Spells
        (['('] ++ (('-' :: '-' :: "/* ".toList ++ ['\n']) ++
          (('/' :: '*' :: "-- *".toList ++ ['*', '/']) ++ []))) :=
      .cons .parenthesis (.cons (.line (by decide)) (.cons (.block (by decide)) .nil))
    exact hspelled
  · unfold SameButCase
    decide
  · rw [ofSql_decorated.2.2 "MeRgE" " into" (by simp) (by simp) (by simp)]
    decide

end StatementKind

end TnsClient
