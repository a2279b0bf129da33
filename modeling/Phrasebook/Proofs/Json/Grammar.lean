import Phrasebook.Json.Reader

/-!
# The grammar behind the reader

`Spells` says which tokens spell a value, without a stack and without states. In an object the
grammar keeps the members as they are written, repeated names included; only the value of the
object drops the repetitions.

Whatever the reader accepts is spelled by the tokens of the text. The proof follows the reader
token by token: `Reads` says what the tokens before a state must have been, `Opens` what those
before the open containers were, and every step that goes on keeps it.
-/

namespace Phrasebook.Json

/-- Whether a value has no parts and is no string. -/
def isScalar : Json → Bool
  | .null | .boolean _ | .number _ => true
  | .string _ | .array _ | .object _ => false

mutual

/-- Tokens that spell a value. -/
inductive Spells : List Token → Json → Prop
  | scalar {v : Json} (h : v.isScalar = true) : Spells [.scalar v] v
  | string (s : Text) : Spells [.string s] (.string s)
  | emptyArray : Spells [.beginArray, .endArray] (.array [])
  | array {before last : List Token} {items : List Json} {v : Json}
      (hitems : SpellsItems before items) (hlast : Spells last v) :
      Spells (.beginArray :: (before ++ last ++ [.endArray])) (.array (items ++ [v]))
  | object {tokens : List Token} {members : List (Text × Json)}
      (h : SpellsObject tokens members) : Spells tokens (.object (Dict.ofPairs members))

/-- Tokens that spell some items, each with a comma behind it. -/
inductive SpellsItems : List Token → List Json → Prop
  | nil : SpellsItems [] []
  | snoc {before last : List Token} {items : List Json} {v : Json}
      (hitems : SpellsItems before items) (hlast : Spells last v) :
      SpellsItems (before ++ last ++ [.comma]) (items ++ [v])

/-- Tokens that spell some members, each with a comma behind it. -/
inductive SpellsMembers : List Token → List (Text × Json) → Prop
  | nil : SpellsMembers [] []
  | snoc {before last : List Token} {members : List (Text × Json)} {name : Text} {v : Json}
      (hmembers : SpellsMembers before members) (hlast : Spells last v) :
      SpellsMembers (before ++ .string name :: .colon :: last ++ [.comma])
        (members ++ [(name, v)])

/-- Tokens that spell an object with members as they are written. -/
inductive SpellsObject : List Token → List (Text × Json) → Prop
  | empty : SpellsObject [.beginObject, .endObject] []
  | members {before last : List Token} {members : List (Text × Json)} {name : Text} {v : Json}
      (hmembers : SpellsMembers before members) (hlast : Spells last v) :
      SpellsObject (.beginObject :: (before ++ .string name :: .colon :: last ++ [.endObject]))
        (members ++ [(name, v)])

end

/-! ## What was read before a state -/

/-- Tokens that open containers and spell what was done in them. -/
inductive Opens : List Token → List Frame → Prop
  | nil : Opens [] []
  | array {ts us : List Token} {stack : List Frame} {items : List Json}
      (h : Opens ts stack) (hitems : SpellsItems us items) :
      Opens (ts ++ .beginArray :: us) (.array items.reverse :: stack)
  | object {ts us : List Token} {stack : List Frame} {members : List (Text × Json)}
      (h : Opens ts stack) (hmembers : SpellsMembers us members) (name : Text) :
      Opens (ts ++ .beginObject :: (us ++ [.string name, .colon]))
        (.object members.reverse name :: stack)

/-- Tokens that lead to a state. -/
inductive Reads : List Token → State → Prop
  | value {ts : List Token} {stack : List Frame} (h : Opens ts stack) : Reads ts (.value stack)
  | firstItem {ts : List Token} {stack : List Frame} (h : Opens ts stack) :
      Reads (ts ++ [.beginArray]) (.firstItem stack)
  | firstKey {ts : List Token} {stack : List Frame} (h : Opens ts stack) :
      Reads (ts ++ [.beginObject]) (.key true [] stack)
  | key {ts us : List Token} {stack : List Frame} {members : List (Text × Json)}
      (h : Opens ts stack) (hmembers : SpellsMembers us members) :
      Reads (ts ++ .beginObject :: us) (.key false members.reverse stack)
  | colon {ts us : List Token} {stack : List Frame} {members : List (Text × Json)}
      (h : Opens ts stack) (hmembers : SpellsMembers us members) (name : Text) :
      Reads (ts ++ .beginObject :: (us ++ [.string name])) (.colon members.reverse name stack)
  | after {ts us : List Token} {stack : List Frame} {v : Json}
      (h : Opens ts stack) (hvalue : Spells us v) : Reads (ts ++ us) (.after v stack)

/-- A token that stands for a value by itself stands for one without parts. -/
def Token.IsPlain (token : Token) : Prop :=
  ∀ v, token = .scalar v → v.isScalar = true

theorem reads_beginValue [Platform] {ts : List Token} {stack : List Frame} {offset : Nat}
    {token : Token}
    {state : State} (h : Opens ts stack) (hplain : token.IsPlain)
    (hnext : beginValue stack offset token = .next state) : Reads (ts ++ [token]) state := by
  cases token with
  | scalar v =>
      cases hnext
      exact .after h (.scalar (hplain v rfl))
  | string s =>
      cases hnext
      exact .after h (.string s)
  | beginArray =>
      rw [beginValue, openInside] at hnext
      split at hnext <;> cases hnext
      exact .firstItem h
  | beginObject =>
      rw [beginValue, openInside] at hnext
      split at hnext <;> cases hnext
      exact .firstKey h
  | badString | longInteger | endArray | endObject | colon | comma | unknown => cases hnext

theorem reads_afterValue {ts us : List Token} {stack : List Frame} {v : Json} {offset : Nat}
    {token : Token} {state : State} (h : Opens ts stack) (hvalue : Spells us v)
    (hnext : afterValue v offset stack token = .next state) :
    Reads (ts ++ us ++ [token]) state := by
  cases h with
  | nil => cases hnext
  | @array ts before stack items h hitems =>
      cases token with
      | comma =>
          cases hnext
          have hopens := Opens.array h (hitems.snoc hvalue)
          simpa using Reads.value hopens
      | endArray =>
          cases hnext
          have hspells := Spells.array hitems hvalue
          simpa using Reads.after h hspells
      | _ => cases hnext
  | @object ts before stack members h hmembers name =>
      cases token with
      | comma =>
          cases hnext
          have hmembers' : SpellsMembers _ (members ++ [(name, v)]) := hmembers.snoc hvalue
          simpa using Reads.key h hmembers'
      | endObject =>
          cases hnext
          have hobject : SpellsObject _ (members ++ [(name, v)]) := .members hmembers hvalue
          simpa using Reads.after h (.object hobject)
      | _ => cases hnext

/-- A step that goes on keeps what the tokens read so far must have been. -/
theorem reads_step [Platform] {ts : List Token} {state next : State} {offset : Nat} {token : Token}
    (h : Reads ts state) (hplain : token.IsPlain)
    (hnext : state.step offset token = .next next) : Reads (ts ++ [token]) next := by
  cases h with
  | value h => exact reads_beginValue h hplain hnext
  | @firstItem ts stack h =>
      by_cases hend : token = .endArray
      · subst hend
        cases hnext
        simpa using Reads.after h .emptyArray
      · have hbegin : beginValue (.array [] :: stack) offset token = .next next := by
          cases token <;> first | exact hnext | exact absurd rfl hend
        exact reads_beginValue (.array h .nil) hplain hbegin
  | firstKey h =>
      cases token with
      | string name =>
          cases hnext
          simpa using Reads.colon h .nil name
      | endObject =>
          cases hnext
          have hspells : Spells [.beginObject, .endObject] (.object []) := .object .empty
          simpa using Reads.after h hspells
      | _ => cases hnext
  | key h hmembers =>
      cases token with
      | string name =>
          cases hnext
          simpa using Reads.colon h hmembers name
      | _ => cases hnext
  | colon h hmembers name =>
      cases token with
      | colon =>
          cases hnext
          simpa using Reads.value (.object h hmembers name)
      | _ => cases hnext
  | after h hvalue => exact reads_afterValue h hvalue hnext

theorem spells_run [Platform] {text : Text} {tokens : List (Nat × Token)} {ts : List Token}
    {state : State}
    {v : Json} (h : Reads ts state) (hplain : ∀ t ∈ tokens, t.2.IsPlain)
    (hrun : state.run text tokens = .ok v) : Spells (ts ++ tokens.map Prod.snd) v := by
  induction tokens generalizing ts state with
  | nil =>
      rw [List.map_nil, List.append_nil]
      cases h with
      | @after ts us stack v' h hvalue =>
          cases h with
          | nil =>
              cases hrun
              exact hvalue
          | array | object => cases hrun
      | value | firstItem | firstKey | key | colon => cases hrun
  | cons token rest ih =>
      obtain ⟨offset, token⟩ := token
      obtain ⟨hfirst, hrest⟩ := List.forall_mem_cons.1 hplain
      rw [State.run] at hrun
      split at hrun
      · rename_i next hnext
        have hspells := ih (reads_step h hfirst hnext) hrest hrun
        simpa using hspells
      all_goals cases hrun

/-! ## Tokens of texts -/

theorem punctuation?_isPlain {c : Char} {token : Token} (h : punctuation? c = some token) :
    token.IsPlain := by
  rintro v rfl
  unfold punctuation? at h
  grind

theorem scanName?_isScalar {s rest : Text} {v : Json} (h : scanName? s = some (v, rest)) :
    v.isScalar = true := by
  unfold scanName? at h
  obtain ⟨⟨name, value⟩, hmem, hdrop⟩ := List.exists_of_findSome?_eq_some h
  obtain ⟨after, _, heq⟩ := Option.map_eq_some_iff.1 (by exact hdrop)
  cases heq
  simp only [names, List.mem_cons, Prod.mk.injEq, List.not_mem_nil, or_false] at hmem
  rcases hmem with h | h | h | h | h | h <;> rw [h.2] <;> rfl

theorem numberToken_isPlain (n : ScannedNumber) : (numberToken n).IsPlain := by
  intro v hv
  unfold numberToken at hv
  dsimp only at hv
  split at hv <;> cases hv
  rfl

theorem scanToken_isPlain [Platform] (offset : Nat) (c : Char) (rest : Text) :
    (scanToken offset c rest).token.IsPlain := by
  unfold scanToken
  split
  · rename_i token h
    exact punctuation?_isPlain h
  · split
    · split <;> intro v hv <;> cases hv
    · split
      · rename_i value after h
        intro v hv
        cases hv
        exact scanName?_isScalar h
      · split
        · exact numberToken_isPlain _
        · intro v hv
          cases hv

theorem tokensFrom_isPlain [Platform] (offset : Nat) (s : Text) :
    ∀ t ∈ tokensFrom offset s, t.2.IsPlain := by
  fun_induction tokensFrom offset s with
  | case1 => simp
  | case2 offset c rest hblank ih => exact ih
  | case3 offset c rest hblank lexeme ih =>
      intro t ht
      rcases List.mem_cons.1 ht with rfl | ht
      · exact scanToken_isPlain offset c rest
      · exact ih t ht

/-- What is read is spelled by the tokens of the text. -/
theorem spells_of_read [Platform] {text : Text} {v : Json} (h : read text = .ok v) :
    Spells ((tokens text).map Prod.snd) v := by
  unfold read at h
  split at h
  · cases h
  · exact spells_run (.value .nil) (tokensFrom_isPlain 0 text) h

/-- The members of an object that is read are those of the text, with every repeated name at its
first place and with its last value. -/
theorem spellsObject_of_read [Platform] {text : Text} {members : List (Text × Json)}
    (h : read text = .ok (.object members)) :
    ∃ raw, SpellsObject ((tokens text).map Prod.snd) raw ∧ members = Dict.ofPairs raw := by
  have hspells := spells_of_read h
  generalize (tokens text).map Prod.snd = ts at hspells
  cases hspells with
  | scalar h => cases h
  | @object _ raw hraw => exact ⟨raw, hraw, rfl⟩

end Phrasebook.Json
