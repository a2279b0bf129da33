import Phrasebook.Locale.Code
import Phrasebook.Proofs.Text.Pieces

/-!
# The locale of a header

A header of accepted languages is cut into parts in one way only: semicolons join the parts, and
what follows a comma is no part. The locale that the header asks for is one of them, so asking again
with that locale gives it again, and nothing behind the first comma counts (`ofHeader_counts`).
-/

namespace Phrasebook.Locale

variable {header part : Text} {parts : List Text}

/-! ## Parts -/

/-- The parts of a header: joined by semicolons they are the header, or all of it before its first
comma. -/
structure CutsInto (header : Text) (parts : List Text) : Prop where
  ne_nil : parts ≠ []
  plain : ∀ part ∈ parts, ',' ∉ part ∧ ';' ∉ part
  joined : header = Text.join [';'] parts ∨ ∃ rest, header = Text.join [';'] parts ++ ',' :: rest

namespace CutsInto

theorem exists_parts (header : Text) :
    CutsInto header (Text.splitOn ';' (Text.before ',' header)) where
  ne_nil := Text.splitOn_ne_nil _ _
  plain part hpart := by
    constructor
    · intro hcomma
      exact Text.not_mem_before ',' header ((Text.infix_of_mem_splitOn hpart).subset hcomma)
    · exact Text.not_mem_of_mem_splitOn hpart
  joined := by
    rw [Text.join_splitOn]
    exact Text.exists_before ',' header

theorem comma_not_mem (h : CutsInto header parts) : ',' ∉ Text.join [';'] parts := by
  intro hmem
  obtain hseparator | ⟨part, hpart, hcomma⟩ := Text.mem_join hmem
  · exact absurd hseparator (by decide)
  · exact (h.plain part hpart).1 hcomma

/-- A header has one row of parts. -/
theorem eq_splitOn (h : CutsInto header parts) :
    parts = Text.splitOn ';' (Text.before ',' header) := by
  have hbefore : Text.before ',' header = Text.join [';'] parts := by
    obtain rfl | ⟨rest, rfl⟩ := h.joined
    · exact Text.before_of_not_mem h.comma_not_mem
    · exact Text.before_append h.comma_not_mem rest
  rw [hbefore, Text.splitOn_join h.ne_nil fun part hpart => (h.plain part hpart).2]

/-- What follows a comma is no part. -/
theorem append_comma (h : CutsInto header parts) (rest : Text) :
    CutsInto (header ++ ',' :: rest) parts := by
  refine ⟨h.ne_nil, h.plain, .inr ?_⟩
  obtain rfl | ⟨more, rfl⟩ := h.joined
  · exact ⟨rest, rfl⟩
  · exact ⟨more ++ ',' :: rest, List.append_assoc _ _ _⟩

theorem infix_of_mem (h : CutsInto header parts) (hpart : part ∈ parts) : part <:+: header := by
  have hjoined : part <:+: Text.join [';'] parts := Text.infix_join_of_mem hpart
  obtain rfl | ⟨rest, rfl⟩ := h.joined
  · exact hjoined
  · exact hjoined.trans (List.prefix_append _ _).isInfix

/-- A part is the only one of itself. -/
theorem self_of_mem (h : CutsInto header parts) (hpart : part ∈ parts) : CutsInto part [part] where
  ne_nil := List.cons_ne_nil _ _
  plain := List.forall_mem_singleton.2 (h.plain part hpart)
  joined := .inl rfl

end CutsInto

/-! ## The part that counts -/

/-- The part of a header that counts: the last one with a hyphen, or else the first one. -/
inductive Counts (parts : List Text) (part : Text) : Prop
  | hyphenated {before after : List Text} (hsplit : parts = before ++ part :: after)
      (hhyphen : '-' ∈ part) (hafter : ∀ other ∈ after, '-' ∉ other)
  | first (hnone : ∀ other ∈ parts, '-' ∉ other) (hfirst : parts.head? = some part)

theorem Counts.mem (h : Counts parts part) : part ∈ parts := by
  cases h with
  | hyphenated hsplit =>
      rw [hsplit]
      exact List.mem_append_right _ List.mem_cons_self
  | first _ hfirst => exact List.mem_of_head? hfirst

theorem Counts.eq_of_singleton {other : Text} (h : Counts [part] other) : other = part :=
  List.mem_singleton.1 h.mem

theorem lastHyphenated_cons (default tag : Text) (tags : List Text) :
    lastHyphenated default (tag :: tags) =
      lastHyphenated (if tag.contains '-' then tag else default) tags := rfl

/-- The search for a hyphen ends with the last text that has one, or with what it started from. -/
theorem lastHyphenated_cases (default : Text) (tags : List Text) :
    (∃ before after, tags = before ++ lastHyphenated default tags :: after ∧
      '-' ∈ lastHyphenated default tags ∧ ∀ other ∈ after, '-' ∉ other) ∨
    (∀ other ∈ tags, '-' ∉ other) ∧ lastHyphenated default tags = default := by
  induction tags generalizing default with
  | nil => exact .inr ⟨fun _ hother => absurd hother List.not_mem_nil, rfl⟩
  | cons tag rest ih =>
      rw [lastHyphenated_cons]
      obtain ⟨before, after, hsplit, hhyphen, hafter⟩ | ⟨hnone, hdefault⟩ :=
        ih (if tag.contains '-' then tag else default)
      · exact .inl ⟨tag :: before, after, congrArg (tag :: ·) hsplit, hhyphen, hafter⟩
      · rw [hdefault]
        by_cases htag : '-' ∈ tag
        · rw [if_pos (List.contains_iff_mem.2 htag)]
          exact .inl ⟨[], rest, rfl, htag, hnone⟩
        · rw [if_neg (mt List.contains_iff_mem.1 htag)]
          exact .inr ⟨List.forall_mem_cons.2 ⟨htag, hnone⟩, rfl⟩

theorem counts_ofHeader {header : Option Text} (h : CutsInto (header.getD []) parts) :
    Counts parts (ofHeader header) := by
  rw [ofHeader, ← h.eq_splitOn]
  obtain ⟨before, after, hsplit, hhyphen, hafter⟩ | ⟨hnone, hdefault⟩ :=
    lastHyphenated_cases (parts.headD []) parts
  · exact .hyphenated hsplit hhyphen hafter
  · refine .first hnone ?_
    rw [hdefault]
    obtain ⟨first, rest, rfl⟩ := List.exists_cons_of_ne_nil h.ne_nil
    rfl

/-- The locale that a header asks for is the part of it that counts, whether there is a header or
not: a piece of the header without commas and semicolons. Nothing behind a comma changes it, and a
header that is this locale asks for it. -/
theorem ofHeader_counts (header : Option Text) :
    (∃ parts, CutsInto (header.getD []) parts) ∧
    (∀ parts, CutsInto (header.getD []) parts → Counts parts (ofHeader header)) ∧
    (ofHeader header <:+: header.getD [] ∧ ',' ∉ ofHeader header ∧ ';' ∉ ofHeader header) ∧
    (∀ rest, ofHeader (some (header.getD [] ++ ',' :: rest)) = ofHeader header) ∧
    ofHeader (some (ofHeader header)) = ofHeader header := by
  have hcuts := CutsInto.exists_parts (header.getD [])
  have hmem := (counts_ofHeader hcuts).mem
  have hplain := hcuts.plain _ hmem
  refine ⟨⟨_, hcuts⟩, fun parts h => counts_ofHeader h, ⟨hcuts.infix_of_mem hmem, hplain⟩, ?_, ?_⟩
  · intro rest
    have hmore : CutsInto ((some (header.getD [] ++ ',' :: rest)).getD []) _ :=
      hcuts.append_comma rest
    rw [ofHeader, ofHeader, ← hmore.eq_splitOn]
  · have hself : CutsInto ((some (ofHeader header)).getD []) [ofHeader header] :=
      hcuts.self_of_mem hmem
    exact (counts_ofHeader hself).eq_of_singleton

/-- A header whose second part is the only one with a hyphen before the comma. -/
theorem ofHeader_counts_second :
    CutsInto "de;fr-CA;q=0.8,en-US".toList ["de".toList, "fr-CA".toList, "q=0.8".toList] ∧
      Counts ["de".toList, "fr-CA".toList, "q=0.8".toList] "fr-CA".toList := by
  have hcuts : CutsInto "de;fr-CA;q=0.8,en-US".toList
      ["de".toList, "fr-CA".toList, "q=0.8".toList] :=
    ⟨List.cons_ne_nil _ _, by decide, .inr ⟨"en-US".toList, rfl⟩⟩
  exact ⟨hcuts, (ofHeader_counts (some "de;fr-CA;q=0.8,en-US".toList)).2.1 _ hcuts⟩

end Phrasebook.Locale
