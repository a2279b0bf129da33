import Mathlib.Data.List.Basic
import Phrasebook.Log.Conversion

/-!
# Values that are refused alike

A name in a colour is no more a number or a single character than the plain name is, and neither is
a record as a whole. So the conversions of a layout refuse both with the same error, or they show a
text of each (`Alike.convert`), and so does a whole directive with its sizes (`Alike.fill`).
-/

namespace Phrasebook.Log

/-- Two values that are no numbers and no single characters, of one kind, both of which can be
written or neither. -/
inductive Alike : Value → Value → Prop
  | text {s t : Text} (hs : s.length ≠ 1) (ht : t.length ≠ 1) : Alike (.text s) (.text t)
  | mapping {a b : List (Text × Value)}
      (h : Value.hasText (.mapping a) = Value.hasText (.mapping b)) :
      Alike (.mapping a) (.mapping b)

section Directives

variable {shown plain : Value} {slot : Slot} {conversion : Char} {position : Nat}

/-- The text that a conversion to text shows of a value. -/
def textOf? (conversion : Char) (v : Value) : Option Text :=
  match conversion with
  | 's' => some v.plain
  | 'r' => some v.literal
  | 'a' => some (Text.inAscii v.literal)
  | _ => none

theorem character_text {s : Text} (h : s.length ≠ 1) :
    Slot.character (.text s) = .error .notCharacter := by
  match s with
  | [] => rfl
  | [c] => exact absurd rfl h
  | c :: d :: rest => rfl

theorem Alike.character (h : Alike plain shown) :
    Slot.character plain = .error .notCharacter ∧
      Slot.character shown = .error .notCharacter := by
  cases h with
  | text hs ht => exact ⟨character_text hs, character_text ht⟩
  | mapping h => exact ⟨rfl, rfl⟩

theorem Alike.hasText (h : Alike plain shown) : plain.hasText = shown.hasText := by
  cases h with
  | text hs ht => rfl
  | mapping h => exact h

/-- Texts of two values that are alike are written both, or neither of them is. -/
theorem Alike.written (h : Alike plain shown) (slot : Slot) (p t : Text) :
    (slot.written plain p = .ok (slot.cut p) ∧ slot.written shown t = .ok (slot.cut t)) ∨
      ∃ e, slot.written plain p = .error e ∧ slot.written shown t = .error e := by
  unfold Slot.written
  rw [h.hasText]
  split_ifs
  · exact .inl ⟨rfl, rfl⟩
  · exact .inr ⟨_, rfl, rfl⟩

/-- Of two values that are alike, a conversion shows a text of each, or it refuses both with the
same error. -/
theorem Alike.convert (h : Alike plain shown) (slot : Slot) (conversion : Char) (position : Nat) :
    (∃ p t, textOf? conversion plain = some p ∧ textOf? conversion shown = some t ∧
      slot.convert conversion position plain = .ok (slot.cut p) ∧
      slot.convert conversion position shown = .ok (slot.cut t)) ∨
    ∃ e, slot.convert conversion position plain = .error e ∧
      slot.convert conversion position shown = .error e := by
  have hcharacter := h.character
  have hwritten (p t : Text) := h.written slot p t
  unfold Slot.convert
  split
  -- The conversions to text, those to numbers, the one to a character, and none.
  iterate 3 exact (hwritten _ _).imp_left fun hok => ⟨_, _, rfl, rfl, hok⟩
  iterate 12 (cases h <;> exact .inr ⟨_, rfl, rfl⟩)
  · exact .inr ⟨_, hcharacter⟩
  · exact .inr ⟨_, rfl, rfl⟩

theorem Alike.use (h : Alike plain shown) (kind : SizeKind) (size : Size) :
    (size.use kind (some plain) = .ok (some plain) ∧
      size.use kind (some shown) = .ok (some shown)) ∨
    ∃ e, size.use kind (some plain) = .error e ∧ size.use kind (some shown) = .error e := by
  cases size with
  | unset => exact .inl ⟨rfl, rfl⟩
  | fixed n =>
      simp only [Size.use]
      split_ifs
      · exact .inr ⟨_, rfl, rfl⟩
      · exact .inl ⟨rfl, rfl⟩
  | fromValue => cases h <;> exact .inr ⟨_, rfl, rfl⟩

/-- Of two values that are alike, a directive lays out a text of each, or it refuses both with the
same error. -/
theorem Alike.fill (h : Alike plain shown) (d : Directive) :
    (∃ conversion p t, d.conversion = some conversion ∧ textOf? conversion plain = some p ∧
      textOf? conversion shown = some t ∧
      d.fill (some plain) = .ok (d.slot.layOut (d.slot.cut p)) ∧
      d.fill (some shown) = .ok (d.slot.layOut (d.slot.cut t))) ∨
    ∃ e, d.fill (some plain) = .error e ∧ d.fill (some shown) = .error e := by
  unfold Directive.fill
  obtain ⟨hp, ht⟩ | ⟨e, hp, ht⟩ := h.use .width d.width
  case inr => exact .inr ⟨e, by rw [hp]; rfl, by rw [ht]; rfl⟩
  rw [hp, ht]
  simp only [bind, Except.bind]
  obtain ⟨hp, ht⟩ | ⟨e, hp, ht⟩ := h.use .precision d.precision
  case inr => exact .inr ⟨e, by rw [hp], by rw [ht]⟩
  rw [hp, ht]
  simp only
  cases hconversion : d.conversion with
  | none => exact .inr ⟨_, rfl, rfl⟩
  | some conversion =>
      simp only
      obtain ⟨p, t, hptext, httext, hp, ht⟩ | ⟨e, hp, ht⟩ :=
        h.convert d.slot conversion d.position
      case inr => exact .inr ⟨e, by rw [hp], by rw [ht]⟩
      rw [hp, ht]
      simp only
      split_ifs
      · exact .inl ⟨conversion, p, t, rfl, hptext, httext, rfl, rfl⟩
      · exact .inr ⟨_, rfl, rfl⟩

end Directives

end Phrasebook.Log
