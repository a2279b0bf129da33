import Phrasebook.Proofs.Json.Grammar

/-!
# Texts that the reader accepts

A text is JSON if its tokens spell a value, where integers may have any number of digits and
containers may be as deep inside others as they like. The reader accepts exactly those of them that
keep to its two limits, and it never calls one of the others malformed: on a text that is JSON it
either goes on to the end or stops at a limit.

One half is soundness of the grammar, the other is shown here. `LeadsTo` says that tokens take the
reader from one state to another unless it stops at a limit on the way; it is proved for every form
of the grammar, by induction on how a value is spelled.
-/

namespace Phrasebook.Json

variable [Platform]

/-! ## JSON and limits -/

/-- A token as the grammar has it, without a limit on digits. The digits of an integer beyond the
limit are not kept. -/
def Token.spelling : Token → Token
  | .longInteger _ => .scalar (.number [])
  | token => token

/-- A text is JSON for a value. -/
structure IsJson (text : Text) (v : Json) : Prop where
  unmarked : text.head? ≠ some byteOrderMark
  spells : Spells ((tokens text).map fun t => t.2.spelling) v

/-- How many containers are open behind a token, if some are open before it. -/
def Token.depthAfter (depth : Nat) : Token → Nat
  | .beginArray | .beginObject => depth + 1
  | .endArray | .endObject => depth - 1
  | _ => depth

/-- The most containers that are open at a time, if some are open before the tokens. -/
def deepest (depth : Nat) : List Token → Nat
  | [] => depth
  | token :: rest => max depth (deepest (token.depthAfter depth) rest)

/-- A text keeps to the limits of the reader. -/
structure WithinLimits (text : Text) : Prop where
  digits : ∀ n, .longInteger n ∉ (tokens text).map Prod.snd
  depth : deepest 0 ((tokens text).map Prod.snd) ≤ Platform.maxDepth

/-! ## Runs without their ends -/

/-- Go on from the next state, if there is one. -/
def Outcome.andThen (f : State → Outcome) : Outcome → Outcome
  | .next state => f state
  | outcome => outcome

/-- Take tokens for as long as they lead on. -/
def State.advance : State → List (Nat × Token) → Outcome
  | state, [] => .next state
  | state, (offset, token) :: rest => (state.step offset token).andThen (·.advance rest)

/-- The answer that an outcome comes to at the end of a text. -/
def Outcome.answer (text : Text) : Outcome → Except Error Json
  | .next state =>
    match state.finish with
    | .ok v => .ok v
    | .error missing => .error (.malformed missing (.of text text.length))
  | .fault wrong place => .error (.malformed wrong (.of text place))
  | .numeralTooLong digits => .error (.numeralTooLong digits)
  | .tooDeep container => .error (.tooDeep container)

variable {state next last : State} {offset : Nat} {token : Token}

theorem run_eq_answer (text : Text) (state : State) (tokens : List (Nat × Token)) :
    state.run text tokens = (state.advance tokens).answer text := by
  induction tokens generalizing state with
  | nil => rfl
  | cons token rest ih =>
      obtain ⟨offset, token⟩ := token
      rw [State.run, State.advance]
      cases state.step offset token with
      | next state => exact ih state
      | fault | numeralTooLong | tooDeep => rfl

theorem advance_append (state : State) (first second : List (Nat × Token)) :
    state.advance (first ++ second) = (state.advance first).andThen (·.advance second) := by
  induction first generalizing state with
  | nil => rfl
  | cons token rest ih =>
      obtain ⟨offset, token⟩ := token
      rw [List.cons_append, State.advance, State.advance]
      cases state.step offset token with
      | next state => exact ih state
      | fault | numeralTooLong | tooDeep => rfl

/-! ## Stops at a limit -/

/-- The number of open containers. -/
def State.depth : State → Nat
  | .value stack | .after _ stack => stack.length
  | .firstItem stack | .key _ _ stack | .colon _ _ stack => stack.length + 1

/-- What an outcome says about one token, with some containers open before it. -/
def Outcome.StepBounds (depth : Nat) (token : Token) : Outcome → Prop
  | .next next => (∀ n, token ≠ .longInteger n) ∧
      next.depth = token.depthAfter depth ∧ next.depth ≤ Platform.maxDepth
  | .numeralTooLong n => token = .longInteger n
  | .tooDeep _ => Platform.maxDepth < token.depthAfter depth
  | .fault .. => True

/-- What an outcome says about all tokens that were to be taken. -/
def Outcome.Bounds (depth : Nat) (tokens : List Token) : Outcome → Prop
  | .next _ => (∀ n, .longInteger n ∉ tokens) ∧ deepest depth tokens ≤ Platform.maxDepth
  | .numeralTooLong n => .longInteger n ∈ tokens
  | .tooDeep _ => Platform.maxDepth < deepest depth tokens
  | .fault .. => True

omit [Platform] in
theorem le_deepest (depth : Nat) (tokens : List Token) : depth ≤ deepest depth tokens := by
  cases tokens with
  | nil => exact Nat.le_refl _
  | cons token rest => exact Nat.le_max_left _ _

/-- A token that leads on bounds a run as far as what follows it does. -/
theorem Outcome.Bounds.cons {outcome : Outcome} {depth : Nat} {rest : List Token}
    (h : outcome.Bounds (token.depthAfter depth) rest) (hplain : ∀ n, token ≠ .longInteger n)
    (hdepth : depth ≤ Platform.maxDepth) : outcome.Bounds depth (token :: rest) := by
  cases outcome with
  | next =>
      refine ⟨?_, Nat.max_le.2 ⟨hdepth, h.2⟩⟩
      intro n
      exact List.not_mem_cons_of_ne_of_not_mem (hplain n).symm (h.1 n)
  | numeralTooLong => exact List.mem_cons_of_mem token h
  | tooDeep => exact Nat.lt_of_lt_of_le h (Nat.le_max_right _ _)
  | fault => trivial

/-- A container may be opened where the containers that are open leave room for it. -/
theorem stepBounds_openInside {stack : List Frame} (container : Container)
    (hopens : token.depthAfter stack.length = stack.length + 1)
    (hnext : next.depth = stack.length + 1) (hplain : ∀ n, token ≠ .longInteger n) :
    (openInside stack container next).StepBounds stack.length token := by
  rw [openInside]
  split
  · rename_i hroom
    refine ⟨hplain, ?_, ?_⟩
    · rw [hnext, hopens]
    · rw [hnext]
      exact hroom
  · rename_i hfull
    change Platform.maxDepth < token.depthAfter stack.length
    omega

theorem stepBounds_beginValue (stack : List Frame) (hdepth : stack.length ≤ Platform.maxDepth) :
    (beginValue stack offset token).StepBounds stack.length token := by
  cases token with
  | scalar | string => exact ⟨nofun, rfl, hdepth⟩
  | beginArray => exact stepBounds_openInside .array rfl rfl nofun
  | beginObject => exact stepBounds_openInside .object rfl rfl nofun
  | longInteger => exact rfl
  | badString | endArray | endObject | colon | comma | unknown => trivial

theorem stepBounds_afterValue {stack : List Frame} {v : Json}
    (hdepth : stack.length ≤ Platform.maxDepth) :
    (afterValue v offset stack token).StepBounds stack.length token := by
  cases stack with
  | nil => trivial
  | cons frame stack =>
      cases frame with
      | array done =>
          cases token with
          | comma => exact ⟨nofun, rfl, hdepth⟩
          | endArray => exact ⟨nofun, rfl, Nat.le_of_succ_le hdepth⟩
          | _ => trivial
      | object done key =>
          cases token with
          | comma => exact ⟨nofun, rfl, hdepth⟩
          | endObject => exact ⟨nofun, rfl, Nat.le_of_succ_le hdepth⟩
          | _ => trivial

theorem stepBounds_step (hdepth : state.depth ≤ Platform.maxDepth) :
    (state.step offset token).StepBounds state.depth token := by
  cases state with
  | value stack => exact stepBounds_beginValue stack hdepth
  | firstItem stack =>
      by_cases hend : token = .endArray
      · subst hend
        exact ⟨nofun, rfl, Nat.le_of_succ_le hdepth⟩
      · have hstep : (State.firstItem stack).step offset token =
            beginValue (.array [] :: stack) offset token := by
          cases token <;> first | rfl | exact absurd rfl hend
        rw [hstep]
        exact stepBounds_beginValue (.array [] :: stack) hdepth
  | key first done stack =>
      cases token with
      | string => exact ⟨nofun, rfl, hdepth⟩
      | endObject =>
          cases first with
          | true => exact ⟨nofun, rfl, Nat.le_of_succ_le hdepth⟩
          | false => trivial
      | _ => trivial
  | colon done name stack =>
      cases token with
      | colon => exact ⟨nofun, rfl, hdepth⟩
      | _ => trivial
  | after v stack => exact stepBounds_afterValue hdepth

/-- A run that goes on keeps to both limits, and one that stops at a limit exceeds it. -/
theorem bounds_advance {tokens : List (Nat × Token)} (hdepth : state.depth ≤ Platform.maxDepth) :
    (state.advance tokens).Bounds state.depth (tokens.map Prod.snd) := by
  induction tokens generalizing state with
  | nil => exact ⟨nofun, hdepth⟩
  | cons token rest ih =>
      obtain ⟨offset, token⟩ := token
      rw [State.advance, List.map_cons]
      have hstep : (state.step offset token).StepBounds state.depth token :=
        stepBounds_step hdepth
      cases hnext : state.step offset token with
      | fault => trivial
      | numeralTooLong n =>
          rw [hnext] at hstep
          exact hstep ▸ List.mem_cons_self
      | tooDeep container =>
          rw [hnext] at hstep
          refine Nat.lt_of_lt_of_le hstep (Nat.le_trans ?_ (Nat.le_max_right _ _))
          exact le_deepest _ _
      | next next =>
          rw [hnext] at hstep
          obtain ⟨hplain, hafter, hnextDepth⟩ := hstep
          have hrest := ih hnextDepth
          rw [hafter] at hrest
          exact hrest.cons hplain hdepth

/-! ## Tokens that lead from state to state -/

/-- An outcome is a stop at one of the limits. -/
def Outcome.IsLimit : Outcome → Prop
  | .numeralTooLong _ | .tooDeep _ => True
  | .next _ | .fault .. => False

omit [Platform] in
theorem Outcome.IsLimit.andThen {outcome : Outcome} (h : outcome.IsLimit) (f : State → Outcome) :
    (outcome.andThen f).IsLimit := by
  cases outcome with
  | next | fault => exact h.elim
  | numeralTooLong | tooDeep => exact h

/-- Tokens take the reader from one state to another, unless it stops at a limit on the way. -/
def State.LeadsTo (state : State) (ts : List Token) (next : State) : Prop :=
  ∀ tokens : List (Nat × Token), tokens.map (fun t => t.2.spelling) = ts →
    state.advance tokens = .next next ∨ (state.advance tokens).IsLimit

namespace State.LeadsTo

theorem refl (state : State) : state.LeadsTo [] state := by
  intro tokens htokens
  cases List.map_eq_nil_iff.1 htokens
  exact .inl rfl

theorem trans {ts us : List Token} (hfirst : state.LeadsTo ts next)
    (hsecond : next.LeadsTo us last) : state.LeadsTo (ts ++ us) last := by
  intro tokens htokens
  obtain ⟨first, second, rfl, hts, hus⟩ := List.map_eq_append_iff.1 htokens
  rw [advance_append]
  rcases hfirst first hts with hnext | hlimit
  · rw [hnext]
    exact hsecond second hus
  · exact .inr (hlimit.andThen _)

theorem single (h : ∀ offset read, read.spelling = token →
    state.step offset read = .next next ∨ (state.step offset read).IsLimit) :
    state.LeadsTo [token] next := by
  intro tokens htokens
  obtain ⟨⟨offset, read⟩, rfl, hread⟩ := List.map_eq_singleton_iff.1 htokens
  rw [State.advance]
  rcases h offset read hread with hnext | hlimit
  · rw [hnext]
    exact .inl rfl
  · exact .inr (hlimit.andThen _)

/-- Only integers are spelled in two ways. -/
theorem plain (hplain : ∀ v, token ≠ .scalar v)
    (h : ∀ offset, state.step offset token = .next next ∨ (state.step offset token).IsLimit) :
    state.LeadsTo [token] next := by
  apply single
  intro offset read hread
  have hsame : read = token := by
    cases read with
    | longInteger => exact absurd hread.symm (hplain _)
    | _ => exact hread
  rw [hsame]
  exact h offset

variable {stack : List Frame}

/-- Where a container is opened the reader goes on or stops at a limit. -/
theorem openInside_cases (stack : List Frame) (container : Container) (next : State) :
    openInside stack container next = .next next ∨ (openInside stack container next).IsLimit := by
  rw [openInside]
  split
  · exact .inl rfl
  · exact .inr trivial

theorem scalar (v : Json) : (State.value stack).LeadsTo [.scalar v] (.after v stack) := by
  apply single
  intro offset read hread
  cases read with
  | scalar =>
      cases hread
      exact .inl rfl
  | longInteger => exact .inr trivial
  | _ => cases hread

theorem beginArray (stack : List Frame) :
    (State.value stack).LeadsTo [.beginArray] (.firstItem stack) :=
  .plain nofun fun _ => openInside_cases stack .array _

theorem beginObject (stack : List Frame) :
    (State.value stack).LeadsTo [.beginObject] (.key true [] stack) :=
  .plain nofun fun _ => openInside_cases stack .object _

/-- A key, its colon and its value lead behind the value. -/
theorem member {ts : List Token} {v : Json}
    (h : ∀ stack, (State.value stack).LeadsTo ts (.after v stack))
    (members : List (Text × Json)) (name : Text) :
    (State.key members.isEmpty members.reverse stack).LeadsTo (.string name :: .colon :: ts)
      (.after v (.object members.reverse name :: stack)) := by
  have hname : (State.key members.isEmpty members.reverse stack).LeadsTo [.string name]
      (.colon members.reverse name stack) :=
    .plain nofun fun _ => .inl rfl
  have hcolon : (State.colon members.reverse name stack).LeadsTo [.colon]
      (.value (.object members.reverse name :: stack)) :=
    .plain nofun fun _ => .inl rfl
  exact hname.trans (hcolon.trans (h _))

/-- What begins no end of an array is read in the same way as a first item and as any other. -/
theorem firstItem {ts : List Token} (h : (State.value (.array [] :: stack)).LeadsTo ts next)
    (hfirst : ∃ first rest, ts = first :: rest ∧ first ≠ .endArray) :
    (State.firstItem stack).LeadsTo ts next := by
  intro tokens htokens
  obtain ⟨first, rest, rfl, hne⟩ := hfirst
  obtain ⟨⟨offset, read⟩, others, rfl, rfl, -⟩ := List.map_eq_cons_iff.1 htokens
  have hsame : (State.firstItem stack).step offset read =
      (State.value (.array [] :: stack)).step offset read := by
    cases read <;> first | rfl | exact absurd rfl hne
  have hadvance : (State.firstItem stack).advance ((offset, read) :: others) =
      (State.value (.array [] :: stack)).advance ((offset, read) :: others) := by
    rw [State.advance, State.advance, hsame]
  rw [hadvance]
  exact h _ htokens

end State.LeadsTo

/-- The state in which an array expects an item behind others. -/
def State.item (items : List Json) (stack : List Frame) : State :=
  match items with
  | [] => .firstItem stack
  | items => .value (.array items.reverse :: stack)

variable {stack : List Frame}

omit [Platform] in
theorem State.item_concat (items : List Json) (v : Json) :
    State.item (items ++ [v]) stack = .value (.array (v :: items.reverse) :: stack) := by
  cases items with
  | nil => rfl
  | cons => simp [State.item]

omit [Platform] in
theorem Spells.exists_first {ts : List Token} {v : Json} (h : Spells ts v) :
    ∃ first rest, ts = first :: rest ∧ first ≠ .endArray := by
  cases h with
  | scalar | string | emptyArray | array => exact ⟨_, _, rfl, nofun⟩
  | object h =>
      cases h with
      | empty | members => exact ⟨_, _, rfl, nofun⟩

theorem State.LeadsTo.item {ts : List Token} {v : Json} (hspells : Spells ts v)
    (h : ∀ stack, (State.value stack).LeadsTo ts (.after v stack)) (items : List Json) :
    (State.item items stack).LeadsTo ts (.after v (.array items.reverse :: stack)) := by
  cases items with
  | nil => exact (h _).firstItem hspells.exists_first
  | cons => exact h _

/-- What spells a value leads from where one is expected to behind it. -/
theorem Spells.leadsTo {ts : List Token} {v : Json} (h : Spells ts v) :
    ∀ stack, (State.value stack).LeadsTo ts (.after v stack) := by
  refine @Spells.rec
    (fun ts v _ => ∀ stack, (State.value stack).LeadsTo ts (.after v stack))
    (fun ts items _ => ∀ stack, (State.firstItem stack).LeadsTo ts (.item items stack))
    (fun ts members _ => ∀ stack, (State.key true [] stack).LeadsTo ts
      (.key members.isEmpty members.reverse stack))
    (fun ts members _ => ∀ stack, (State.value stack).LeadsTo ts
      (.after (.object (Dict.ofPairs members)) stack))
    ?scalar ?string ?emptyArray ?array ?object ?noItems ?items ?noMembers ?members
    ?emptyObject ?fullObject ts v h
  case scalar =>
    intro v _ stack
    exact .scalar v
  case string =>
    intro s stack
    exact .plain nofun fun _ => .inl rfl
  case emptyArray =>
    intro stack
    exact (State.LeadsTo.beginArray stack).trans (.plain nofun fun _ => .inl rfl)
  case array =>
    intro before last items v _ hlast hbefore hvalue stack
    have hend : (State.after v (.array items.reverse :: stack)).LeadsTo [.endArray]
        (.after (.array (items ++ [v])) stack) := by
      refine .plain nofun fun _ => .inl ?_
      simp [State.step, afterValue]
    have hitem := (hbefore stack).trans (.item hlast hvalue items)
    exact (State.LeadsTo.beginArray stack).trans (hitem.trans hend)
  case object =>
    intro ts members _ hobject
    exact hobject
  case noItems =>
    intro stack
    exact .refl _
  case items =>
    intro before last items v _ hlast hbefore hvalue stack
    have hcomma : (State.after v (.array items.reverse :: stack)).LeadsTo [.comma]
        (.item (items ++ [v]) stack) := by
      refine .plain nofun fun _ => .inl ?_
      rw [State.item_concat]
      rfl
    exact ((hbefore stack).trans (.item hlast hvalue items)).trans hcomma
  case noMembers =>
    intro stack
    exact .refl _
  case members =>
    intro before last members name v _ _ hbefore hvalue stack
    have hcomma : (State.after v (.object members.reverse name :: stack)).LeadsTo [.comma]
        (.key (members ++ [(name, v)]).isEmpty (members ++ [(name, v)]).reverse stack) := by
      refine .plain nofun fun _ => .inl ?_
      simp [State.step, afterValue]
    have hall := (hbefore stack).trans ((State.LeadsTo.member hvalue members name).trans hcomma)
    simpa using hall
  case emptyObject =>
    intro stack
    exact (State.LeadsTo.beginObject stack).trans (.plain nofun fun _ => .inl rfl)
  case fullObject =>
    intro before last members name v _ _ hbefore hvalue stack
    have hend : (State.after v (.object members.reverse name :: stack)).LeadsTo [.endObject]
        (.after (.object (Dict.ofPairs (members ++ [(name, v)]))) stack) := by
      refine .plain nofun fun _ => .inl ?_
      simp [State.step, afterValue]
    have hmembers := (hbefore stack).trans ((State.LeadsTo.member hvalue members name).trans hend)
    have hall := (State.LeadsTo.beginObject stack).trans hmembers
    simpa using hall

/-! ## Reading -/

/-- On a text that is JSON the reader gives its value or stops at a limit. -/
theorem read_of_isJson {text : Text} {v : Json} (h : IsJson text v) :
    read text = .ok v ∨ (∃ n, read text = .error (.numeralTooLong n)) ∨
      ∃ container, read text = .error (.tooDeep container) := by
  rw [read, if_neg h.unmarked, run_eq_answer]
  rcases h.spells.leadsTo [] (tokens text) rfl with hend | hlimit
  · rw [hend]
    exact .inl rfl
  · cases hstop : (State.value []).advance (tokens text) with
    | numeralTooLong n => exact .inr (.inl ⟨n, rfl⟩)
    | tooDeep container => exact .inr (.inr ⟨container, rfl⟩)
    | next | fault =>
        rw [hstop] at hlimit
        exact hlimit.elim

/-- A text that is called malformed is no JSON. -/
theorem not_isJson_of_malformed {text : Text} {fault : Fault} {position : Position}
    (h : read text = .error (.malformed fault position)) (v : Json) : ¬ IsJson text v := by
  intro hjson
  rcases read_of_isJson hjson with hok | ⟨n, hlong⟩ | ⟨container, hdeep⟩
  · rw [h] at hok
    cases hok
  · rw [h] at hlong
    cases hlong
  · rw [h] at hdeep
    cases hdeep

/-- What a result of reading says about the limits. -/
def ResultBounds (text : Text) : Except Error Json → Prop
  | .ok _ => WithinLimits text
  | .error (.numeralTooLong n) => .longInteger n ∈ (tokens text).map Prod.snd
  | .error (.tooDeep _) => Platform.maxDepth < deepest 0 ((tokens text).map Prod.snd)
  | .error (.malformed ..) => True

theorem resultBounds_answer {text : Text} {outcome : Outcome}
    (h : outcome.Bounds 0 ((tokens text).map Prod.snd)) :
    ResultBounds text (outcome.answer text) := by
  cases outcome with
  | next state =>
      rw [Outcome.answer]
      cases state.finish with
      | ok v => exact ⟨h.1, h.2⟩
      | error missing => trivial
  | fault => trivial
  | numeralTooLong | tooDeep => exact h

theorem resultBounds_read (text : Text) : ResultBounds text (read text) := by
  rw [read]
  split
  · trivial
  · rw [run_eq_answer]
    exact resultBounds_answer (bounds_advance (Nat.zero_le _))

/-- A text beyond the limits is never accepted. -/
theorem withinLimits_of_read {text : Text} {v : Json} (h : read text = .ok v) :
    WithinLimits text := by
  have hbounds := resultBounds_read text
  rw [h] at hbounds
  exact hbounds

/-- An integer that stops the reader is in the text. -/
theorem mem_tokens_of_read {text : Text} {n : Nat} (h : read text = .error (.numeralTooLong n)) :
    .longInteger n ∈ (tokens text).map Prod.snd := by
  have hbounds := resultBounds_read text
  rw [h] at hbounds
  exact hbounds

/-- Where depth stops the reader, too many containers are open at a time. -/
theorem deepest_of_read {text : Text} {container : Container}
    (h : read text = .error (.tooDeep container)) :
    Platform.maxDepth < deepest 0 ((tokens text).map Prod.snd) := by
  have hbounds := resultBounds_read text
  rw [h] at hbounds
  exact hbounds

omit [Platform] in
theorem map_spelling {tokens : List (Nat × Token)}
    (h : ∀ n, .longInteger n ∉ tokens.map Prod.snd) :
    tokens.map (fun t => t.2.spelling) = tokens.map Prod.snd := by
  apply List.map_congr_left
  rintro ⟨offset, token⟩ hmem
  cases token with
  | longInteger n => exact absurd (List.mem_map_of_mem hmem) (h n)
  | _ => rfl

theorem unmarked_of_read {text : Text} {v : Json} (h : read text = .ok v) :
    text.head? ≠ some byteOrderMark := by
  intro hmark
  rw [read, if_pos hmark] at h
  cases h

/-- The reader accepts exactly the texts that are JSON and keep to its limits. -/
theorem read_eq_ok_iff {text : Text} {v : Json} :
    read text = .ok v ↔ IsJson text v ∧ WithinLimits text := by
  constructor
  · intro h
    have hlimits := withinLimits_of_read h
    refine ⟨⟨unmarked_of_read h, ?_⟩, hlimits⟩
    rw [map_spelling hlimits.digits]
    exact spells_of_read h
  · rintro ⟨hjson, hlimits⟩
    rcases read_of_isJson hjson with hok | ⟨n, hlong⟩ | ⟨container, hdeep⟩
    · exact hok
    · exact absurd (mem_tokens_of_read hlong) (hlimits.digits n)
    · exact absurd (deepest_of_read hdeep) (Nat.not_lt.2 hlimits.depth)

/-! ## An integer beyond the limit -/

theorem map_tokensFrom_cons {offset next : Nat} {c : Char} {rest after : Text} {token : Token}
    {ts : List Token} (hblank : isBlank c = false)
    (h : scanToken offset c rest = ⟨token, next, after⟩)
    (hafter : (tokensFrom next after).map Prod.snd = ts) :
    (tokensFrom offset (c :: rest)).map Prod.snd = token :: ts := by
  rw [tokensFrom, hblank, h, ← hafter]
  rfl

theorem map_tokensFrom_blank {offset : Nat} {c : Char} {rest : Text} {ts : List Token}
    (hblank : isBlank c = true) (hrest : (tokensFrom (offset + 1) rest).map Prod.snd = ts) :
    (tokensFrom offset (c :: rest)).map Prod.snd = ts := by
  rw [tokensFrom, hblank, ← hrest]
  rfl

/-- Some ones and the end of an object. -/
def onesText (n : Nat) : Text :=
  List.replicate n '1' ++ ['\x7d']

omit [Platform] in
theorem scanNumber?_onesText (n : Nat) :
    scanNumber? (onesText (n + 1)) = some ⟨List.replicate (n + 1) '1', true, ['\x7d']⟩ := by
  have hdigit : ∀ c ∈ List.replicate (n + 1) '1', c.isDigit = true := by
    intro c hc
    rw [List.eq_of_mem_replicate hc]
    rfl
  have htake : (onesText (n + 1)).takeWhile Char.isDigit = List.replicate (n + 1) '1' := by
    rw [onesText, List.takeWhile_append_of_pos hdigit]
    simp [Char.isDigit]
  have hdrop : (onesText (n + 1)).dropWhile Char.isDigit = ['\x7d'] := by
    rw [onesText, List.dropWhile_append_of_pos hdigit]
    simp [Char.isDigit]
  have hwhole : scanWhole? (onesText (n + 1)) = some (List.replicate (n + 1) '1', ['\x7d']) := by
    rw [scanWhole?.eq_def]
    split
    · rename_i h
      simp [onesText, List.replicate_succ] at h
    · rw [htake, hdrop]
      rfl
  have hsign : scanSign (onesText (n + 1)) = ([], onesText (n + 1)) := rfl
  simp only [scanNumber?, hsign, hwhole]
  simp [scanFraction, scanExponent]

theorem tokensFrom_onesText {n : Nat} (offset : Nat) (h : Numeral.maxDigits < n) :
    (tokensFrom offset (onesText n)).map Prod.snd = [.longInteger n, .endObject] := by
  obtain ⟨m, rfl⟩ : ∃ m, n = m + 1 := ⟨n - 1, by omega⟩
  have htoken : numberToken ⟨List.replicate (m + 1) '1', true, ['\x7d']⟩ =
      .longInteger (m + 1) := by
    simp [numberToken, h]
  have hnumber : scanNumber? ('1' :: onesText m) = some _ := scanNumber?_onesText m
  have hname : scanName? ('1' :: onesText m) = none := rfl
  have hpunctuation : punctuation? '1' = none := rfl
  have hones : scanToken offset '1' (onesText m) =
      ⟨.longInteger (m + 1), offset + (m + 1), ['\x7d']⟩ := by
    rw [scanToken, hpunctuation]
    simp only [hname, hnumber, htoken, List.length_replicate]
    rfl
  have hbrace : ∀ place, scanToken place '\x7d' [] = ⟨.endObject, place + 1, []⟩ := fun _ => rfl
  refine map_tokensFrom_cons rfl hones (map_tokensFrom_cons rfl (hbrace _) ?_)
  simp [tokensFrom]

/-- An object with one integer, which has some number of digits. -/
def countText (n : Nat) : Text :=
  ['\x7b', '"', 'c', 'o', 'u', 'n', 't', '"', ':', ' '] ++ onesText n

theorem tokens_countText {n : Nat} (h : Numeral.maxDigits < n) :
    (tokens (countText n)).map Prod.snd =
      [.beginObject, .string "count".toList, .colon, .longInteger n, .endObject] := by
  have hbrace : ∀ rest, scanToken 0 '\x7b' rest = ⟨.beginObject, 1, rest⟩ := fun _ => rfl
  have hkey : ∀ rest, scanToken 1 '"' (['c', 'o', 'u', 'n', 't', '"', ':', ' '] ++ rest) =
      ⟨.string "count".toList, 8, ':' :: ' ' :: rest⟩ := by
    intro rest
    cbv
  have hcolon : ∀ rest, scanToken 8 ':' rest = ⟨.colon, 9, rest⟩ := fun _ => rfl
  refine map_tokensFrom_cons rfl (hbrace _) (map_tokensFrom_cons rfl (hkey _) ?_)
  refine map_tokensFrom_cons rfl (hcolon _) (map_tokensFrom_blank rfl ?_)
  exact tokensFrom_onesText 10 h

/-- The object is JSON however many digits its integer has. -/
theorem isJson_countText {n : Nat} (h : Numeral.maxDigits < n) :
    IsJson (countText n) (.object [("count".toList, .number [])]) := by
  refine ⟨nofun, ?_⟩
  have hmap : (tokens (countText n)).map (fun t => t.2.spelling) =
      ((tokens (countText n)).map Prod.snd).map Token.spelling := by
    rw [List.map_map]
    rfl
  rw [hmap, tokens_countText h]
  exact .object (.members .nil (.scalar rfl))

theorem read_countText {n : Nat} (h : Numeral.maxDigits < n) :
    read (countText n) = .error (.numeralTooLong n) := by
  rcases read_of_isJson (isJson_countText h) with hok | ⟨m, hlong⟩ | ⟨container, hdeep⟩
  · have hdigits := (withinLimits_of_read hok).digits n
    rw [tokens_countText h] at hdigits
    simp at hdigits
  · have hmem := mem_tokens_of_read hlong
    rw [tokens_countText h] at hmem
    simp at hmem
    rw [hlong, hmem]
  · have hdepth := deepest_of_read hdeep
    rw [tokens_countText h] at hdepth
    have hopen := Platform.maxDepth_pos
    simp [deepest, Token.depthAfter] at hdepth
    omega

end Phrasebook.Json
