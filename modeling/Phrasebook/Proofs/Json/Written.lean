import Phrasebook.Json.Writer
import Phrasebook.Proofs.Dict
import Phrasebook.Proofs.Json.Acceptance
import Phrasebook.Proofs.Resources.Layers
import Phrasebook.Proofs.Text.Pieces

/-!
# Written texts read back

Whatever characters a string has, it is read back from its written form: an escape is read as the
character that was escaped, and a character that is not escaped stands for itself. A dictionary is
written as an object with its keys in order, which is read as an object with the same members if no
key comes twice. No written text has a carriage return in it, so turning line ends into line feeds
leaves it as it is.
-/

namespace Phrasebook.Text

/-- A text without carriage returns has line feeds at the ends of its lines. -/
theorem withLineFeeds_of_not_mem {s : Text} (h : '\r' ∉ s) : withLineFeeds s = s := by
  fun_induction withLineFeeds s with
  | case1 => rfl
  | case2 c =>
      rw [if_neg]
      rintro rfl
      exact h (List.mem_singleton_self _)
  | case3 rest => exact absurd List.mem_cons_self h
  | case4 d rest _ _ => exact absurd List.mem_cons_self h
  | case5 c d rest _ ih => rw [ih fun hmem => h (List.mem_cons_of_mem c hmem)]

end Phrasebook.Text

namespace Phrasebook.Json

open Resources (writtenAs)

variable {c : Char} {rest : Text} {start offset : Nat}

/-! ## Characters -/

/-- The ways in which a character is written. -/
inductive IsWritten (c : Char) : Text → Prop
  | escaped {e : Char} (he : e ≠ 'u') (h : unescape? e = some c) : IsWritten c ['\\', e]
  | hex (h : c.toNat < 32) : IsWritten c ('\\' :: 'u' :: Text.hex 4 c.toNat)
  | plain (hquote : c ≠ '"') (hbackslash : c ≠ '\\') (hcontrol : ¬ c.toNat < 32) :
      IsWritten c [c]

theorem isWritten_writtenChar (c : Char) : IsWritten c (writtenChar c) := by
  have hchar : ∀ {n}, c.toNat = n → Char.ofNat n = c := by
    rintro n rfl
    exact Char.ofNat_toNat c
  unfold writtenChar
  split
  · rename_i hc
    exact .escaped (by decide) (by rw [hc]; rfl)
  split
  · rename_i hc
    exact .escaped (by decide) (by rw [hc]; rfl)
  split
  · rename_i hc
    exact .escaped (by decide) (by rw [hc]; rfl)
  split
  · rename_i hc
    exact .escaped (by decide) (by rw [hc]; rfl)
  split
  · rename_i hc
    exact .escaped (by decide) (by rw [hc]; rfl)
  split
  · rename_i hc
    exact .escaped (by decide) (by rw [← hchar hc]; rfl)
  split
  · rename_i hc
    exact .escaped (by decide) (by rw [← hchar hc]; rfl)
  split
  · rename_i hcontrol
    exact .hex hcontrol
  · rename_i hquote hbackslash _ _ _ _ _ hcontrol
    exact .plain hquote hbackslash hcontrol

/-- A character with a one-letter escape is read from it. -/
theorem scanString_escaped [Platform] {e : Char} (he : e ≠ 'u') (h : unescape? e = some c)
    (start offset : Nat) (rest : Text) :
    scanString start offset ('\\' :: e :: rest) =
      (scanString start (offset + 2) rest).map (.cons c) := by
  rw [scanString.eq_def]
  simp [he, h]

theorem scanString_plain [Platform] (hquote : c ≠ '"') (hbackslash : c ≠ '\\')
    (hcontrol : ¬ c.toNat < 32) (start offset : Nat) (rest : Text) :
    scanString start offset (c :: rest) =
      (scanString start (offset + 1) rest).map (.cons c) := by
  rw [scanString.eq_def]
  simp [hquote, hbackslash, hcontrol]

/-- The value of a text of four hexadecimal digits. -/
def unit? : Text → Option Nat
  | [x₁, x₂, x₃, x₄] => hexDigits? x₁ x₂ x₃ x₄
  | _ => none

theorem unit?_hex {n : Nat} (h : n < 32) : unit? (Text.hex 4 n) = some n := by
  have hall : ∀ n < 32, unit? (Text.hex 4 n) = some n := by decide
  exact hall n h

/-- Four digits are written for a control character, and the character is read from them. -/
theorem scanString_hex [Platform] (hcontrol : c.toNat < 32) (hrest : rest ≠ [])
    (start offset : Nat) :
    scanString start offset ('\\' :: 'u' :: Text.hex 4 c.toNat ++ rest) =
      (scanString start (offset + 6) rest).map (.cons c) := by
  have hunit := unit?_hex hcontrol
  obtain ⟨x₁, x₂, x₃, x₄, hhex, hvalue⟩ : ∃ x₁ x₂ x₃ x₄,
      Text.hex 4 c.toNat = [x₁, x₂, x₃, x₄] ∧ hexDigits? x₁ x₂ x₃ x₄ = some c.toNat := by
    unfold unit? at hunit
    split at hunit
    · exact ⟨_, _, _, _, by assumption, hunit⟩
    · cases hunit
  obtain ⟨next, others, rfl⟩ := List.exists_cons_of_ne_nil hrest
  have hhigh : isHighSurrogate c.toNat = false := by
    simp [isHighSurrogate]
    omega
  have hlow : isLowSurrogate c.toNat = false := by
    simp [isLowSurrogate]
    omega
  have hchar : ofUnit c.toNat = c := by
    rw [ofUnit, hhigh, hlow]
    exact Char.ofNat_toNat c
  rw [hhex, scanString.eq_def]
  simp [hvalue, hhigh, hchar]

/-- A written character is read as the character it was, if something follows it. -/
theorem scanString_writtenChar [Platform] (c : Char) (hrest : rest ≠ []) (start offset : Nat) :
    ∃ next, scanString start offset (writtenChar c ++ rest) =
      (scanString start next rest).map (.cons c) := by
  have hwritten := isWritten_writtenChar c
  generalize writtenChar c = written at hwritten
  cases hwritten with
  | escaped he h => exact ⟨_, scanString_escaped he h start offset rest⟩
  | hex h => exact ⟨_, scanString_hex h hrest start offset⟩
  | plain hquote hbackslash hcontrol =>
      exact ⟨_, scanString_plain hquote hbackslash hcontrol start offset rest⟩

/-- A written string is read as the string it was, whatever follows it. -/
theorem scanString_written [Platform] (s rest : Text) (start offset : Nat) :
    ∃ next, scanString start offset (s.flatMap writtenChar ++ '"' :: rest) =
      .ok ⟨s, next, rest⟩ := by
  induction s generalizing offset with
  | nil =>
      refine ⟨offset + 1, ?_⟩
      rw [List.flatMap_nil, List.nil_append, scanString.eq_def]
      rfl
  | cons c s ih =>
      have hne : s.flatMap writtenChar ++ '"' :: rest ≠ [] := by simp
      obtain ⟨next, hchar⟩ := scanString_writtenChar c hne start offset
      obtain ⟨last, hlast⟩ := ih next
      refine ⟨last, ?_⟩
      rw [List.flatMap_cons, List.append_assoc, hchar, hlast]
      rfl

/-! ## Tokens -/

variable {ts : List Token}

/-- Tokens that a text is cut into at every offset. -/
def CutsInto [Platform] (text : Text) (ts : List Token) : Prop :=
  ∀ offset, (tokensFrom offset text).map Prod.snd = ts

theorem cutsInto_string [Platform] (s : Text) (h : CutsInto rest ts) :
    CutsInto (writtenString s ++ rest) (.string s :: ts) := by
  intro offset
  obtain ⟨next, hscan⟩ := scanString_written s rest offset (offset + 1)
  have htoken : scanToken offset '"' (s.flatMap writtenChar ++ '"' :: rest) =
      ⟨.string s, next, rest⟩ := by
    have hpunctuation : punctuation? '"' = none := rfl
    rw [scanToken, hpunctuation]
    simp only [if_true, hscan]
  have htext : writtenString s ++ rest = '"' :: (s.flatMap writtenChar ++ '"' :: rest) := by
    simp [writtenString]
  rw [htext]
  exact map_tokensFrom_cons rfl htoken (h next)

theorem cutsInto_punctuation [Platform] {token : Token} (hblank : isBlank c = false)
    (hpunctuation : punctuation? c = some token) (h : CutsInto rest ts) :
    CutsInto (c :: rest) (token :: ts) := by
  intro offset
  have htoken : scanToken offset c rest = ⟨token, offset + 1, rest⟩ := by
    rw [scanToken, hpunctuation]
  exact map_tokensFrom_cons hblank htoken (h _)

theorem cutsInto_blank [Platform] (h : CutsInto rest ts) : CutsInto (' ' :: rest) ts := by
  intro offset
  exact map_tokensFrom_blank rfl (h _)

theorem cutsInto_null [Platform] (h : CutsInto rest ts) :
    CutsInto ("null".toList ++ rest) (.scalar .null :: ts) := by
  intro offset
  have hpunctuation : punctuation? 'n' = none := rfl
  have hname : scanName? ('n' :: ("ull".toList ++ rest)) = some (.null, rest) := rfl
  have htoken : scanToken offset 'n' ("ull".toList ++ rest) = ⟨.scalar .null, offset +
      (("ull".toList ++ rest).length + 1 - rest.length), rest⟩ := by
    rw [scanToken, hpunctuation]
    simp only [hname]
    rfl
  exact map_tokensFrom_cons rfl htoken (h _)

theorem cutsInto_nil [Platform] : CutsInto [] [] := by
  intro offset
  rw [tokensFrom]
  rfl

/-! ## Members -/

/-- The token of a written value. -/
def valueToken : Option Text → Token
  | none => .scalar .null
  | some s => .string s

theorem cutsInto_value [Platform] (value : Option Text) (h : CutsInto rest ts) :
    CutsInto (writtenValue value ++ rest) (valueToken value :: ts) := by
  cases value with
  | none => exact cutsInto_null h
  | some s => exact cutsInto_string s h

theorem cutsInto_member [Platform] (key : Text) (value : Option Text) (h : CutsInto rest ts) :
    CutsInto (writtenMember key value ++ rest)
      (.string key :: .colon :: valueToken value :: ts) := by
  have hcolon := cutsInto_punctuation (c := ':') rfl rfl (cutsInto_blank (cutsInto_value value h))
  have hkey := cutsInto_string key hcolon
  rwa [writtenMember, List.append_assoc, List.append_assoc]

/-- The tokens of written members and of the end of their object. -/
def memberTokens : Dict Text (Option Text) → List Token
  | [] => [.endObject]
  | [(key, value)] => [.string key, .colon, valueToken value, .endObject]
  | (key, value) :: next :: rest =>
    .string key :: .colon :: valueToken value :: .comma :: memberTokens (next :: rest)

theorem cutsInto_members [Platform] (d : Dict Text (Option Text)) :
    CutsInto (Text.join [',', ' '] (d.map fun (key, value) => writtenMember key value) ++ ['\x7d'])
      (memberTokens d) := by
  have hend : CutsInto ['\x7d'] [.endObject] := cutsInto_punctuation rfl rfl cutsInto_nil
  induction d with
  | nil => exact hend
  | cons member rest ih =>
      obtain ⟨key, value⟩ := member
      cases rest with
      | nil => exact cutsInto_member key value hend
      | cons next rest =>
          have hcomma := cutsInto_punctuation (c := ',') rfl rfl (cutsInto_blank ih)
          have hmember := cutsInto_member key value hcomma
          rw [List.map_cons, List.map_cons, Text.join_cons_cons, List.append_assoc,
            List.append_assoc]
          exact hmember

theorem cutsInto_write [Platform] (d : Dict Text (Option Text)) :
    CutsInto (write d) (.beginObject :: memberTokens d) := by
  have hbegin := cutsInto_punctuation (c := '\x7b') rfl rfl (cutsInto_members d)
  rwa [write, List.append_assoc]

/-! ## Objects -/

theorem spells_value (value : Option Text) : Spells [valueToken value] (writtenAs value) := by
  cases value with
  | none => exact .scalar rfl
  | some s => exact .string s

/-- The members of the object that a dictionary is written as. -/
def members (d : Dict Text (Option Text)) : List (Text × Json) :=
  d.map fun (key, value) => (key, writtenAs value)

@[simp] theorem members_nil : members [] = [] := rfl

@[simp] theorem members_cons (key : Text) (value : Option Text) (d : Dict Text (Option Text)) :
    members ((key, value) :: d) = (key, writtenAs value) :: members d := rfl

@[simp] theorem keys_members (d : Dict Text (Option Text)) : Dict.keys (members d) = d.keys := by
  simp [members, Dict.keys]

/-- Members behind others, as they are written, with the end of their object. -/
theorem spellsObject_append {before : List Token} {done : List (Text × Json)}
    (h : SpellsMembers before done) {d : Dict Text (Option Text)} (hd : d ≠ []) :
    SpellsObject (.beginObject :: (before ++ memberTokens d)) (done ++ members d) := by
  induction d generalizing before done with
  | nil => exact absurd rfl hd
  | cons member rest ih =>
      obtain ⟨key, value⟩ := member
      cases rest with
      | nil =>
          have hobject : SpellsObject _ (done ++ [(key, writtenAs value)]) :=
            .members h (spells_value value)
          simpa [memberTokens] using hobject
      | cons next rest =>
          have hmore : SpellsMembers _ (done ++ [(key, writtenAs value)]) :=
            h.snoc (spells_value value)
          simpa [memberTokens] using ih hmore (List.cons_ne_nil next rest)

theorem spellsObject_memberTokens (d : Dict Text (Option Text)) :
    SpellsObject (.beginObject :: memberTokens d) (members d) := by
  cases d with
  | nil => exact .empty
  | cons member rest => exact spellsObject_append .nil (List.cons_ne_nil member rest)

theorem longInteger_not_mem_memberTokens (n : Nat) (d : Dict Text (Option Text)) :
    .longInteger n ∉ memberTokens d := by
  have hvalue : ∀ value, .longInteger n ≠ valueToken value := by
    intro value
    cases value with
    | none | some => simp [valueToken]
  fun_induction memberTokens d with
  | case1 => simp
  | case2 key value => simp [hvalue]
  | case3 key value next rest ih => simp [hvalue, ih]

/-- Members have no containers among their values. -/
theorem deepest_memberTokens (d : Dict Text (Option Text)) : deepest 1 (memberTokens d) = 1 := by
  fun_induction memberTokens d with
  | case1 => rfl
  | case2 key value =>
      cases value with
      | none | some => rfl
  | case3 key value next rest ih =>
      cases value with
      | none | some => simp [deepest, Token.depthAfter, valueToken, ih]

/-- What is written for a dictionary is read as an object with the same members in the same
order. -/
theorem read_write [Platform] {d : Dict Text (Option Text)} (h : d.keys.Nodup) :
    read (write d) = .ok (.object (members d)) := by
  have htokens : (tokens (write d)).map Prod.snd = .beginObject :: memberTokens d :=
    cutsInto_write d 0
  have hdigits : ∀ n, .longInteger n ∉ (tokens (write d)).map Prod.snd := by
    intro n
    rw [htokens]
    simp [longInteger_not_mem_memberTokens]
  have hdepth : deepest 0 ((tokens (write d)).map Prod.snd) ≤ Platform.maxDepth := by
    rw [htokens, deepest]
    change max 0 (deepest 1 (memberTokens d)) ≤ Platform.maxDepth
    rw [deepest_memberTokens]
    exact Platform.maxDepth_pos
  have hsame : Dict.ofPairs (members d) = members d := by
    apply Dict.ofPairs_of_nodup
    rwa [keys_members]
  rw [read_eq_ok_iff]
  refine ⟨⟨?_, ?_⟩, hdigits, hdepth⟩
  · have hbrace : some '\x7b' ≠ some byteOrderMark := by decide
    exact hbrace
  · rw [map_spelling hdigits, htokens, ← hsame]
    exact .object (spellsObject_memberTokens d)

/-! ## Line ends -/

theorem carriageReturn_not_mem_hex {n : Nat} (h : n < 32) : '\r' ∉ Text.hex 4 n := by
  have hall : ∀ n < 32, '\r' ∉ Text.hex 4 n := by decide
  exact hall n h

theorem carriageReturn_not_mem_writtenChar (c : Char) : '\r' ∉ writtenChar c := by
  have hwritten := isWritten_writtenChar c
  generalize writtenChar c = written at hwritten
  cases hwritten with
  | @escaped e he h =>
      have hne : '\r' ≠ e := by
        rintro rfl
        cases h
      simp [hne]
  | hex h => simp [carriageReturn_not_mem_hex h]
  | plain hquote hbackslash hcontrol =>
      have hne : '\r' ≠ c := by
        rintro rfl
        exact hcontrol (by decide)
      simp [hne]

theorem carriageReturn_not_mem_writtenString (s : Text) : '\r' ∉ writtenString s := by
  simp [writtenString, carriageReturn_not_mem_writtenChar]

theorem carriageReturn_not_mem_writtenMember (key : Text) (value : Option Text) :
    '\r' ∉ writtenMember key value := by
  cases value with
  | none => simp [writtenMember, writtenValue, carriageReturn_not_mem_writtenString]
  | some s => simp [writtenMember, writtenValue, carriageReturn_not_mem_writtenString]

/-- No written text has a carriage return. -/
theorem carriageReturn_not_mem_write (d : Dict Text (Option Text)) : '\r' ∉ write d := by
  have hmembers : '\r' ∉ Text.join [',', ' ']
      (d.map fun (key, value) => writtenMember key value) := by
    intro hmem
    rcases Text.mem_join hmem with hseparator | ⟨piece, hpiece, hmem⟩
    · simp at hseparator
    · obtain ⟨⟨key, value⟩, -, rfl⟩ := List.mem_map.1 hpiece
      exact carriageReturn_not_mem_writtenMember key value hmem
  simp [write, hmembers]

theorem withLineFeeds_write (d : Dict Text (Option Text)) :
    Text.withLineFeeds (write d) = write d :=
  Text.withLineFeeds_of_not_mem (carriageReturn_not_mem_write d)

end Phrasebook.Json
