import Phrasebook.Json.Token

/-!
# Reading JSON

The reader takes one token after the other and keeps the containers that are still open on
a stack, which can grow only so far. What it expects next decides whether a token is accepted
and which fault it is otherwise; the end of the text is a fault wherever a token is still
expected.
-/

namespace Phrasebook.Json

/-- An open container: the items or members before the value that is being read, the last
one first. -/
inductive Frame
  | array (done : List Json)
  | object (done : List (Text × Json)) (key : Text)

/-- What the reader expects next, inside its open containers. -/
inductive State
  /-- A value. -/
  | value (stack : List Frame)
  /-- The first item of an array, or its end. -/
  | firstItem (stack : List Frame)
  /-- A key, after the members `done`. An object without members may end here. -/
  | key (first : Bool) (done : List (Text × Json)) (stack : List Frame)
  /-- The colon after a key. -/
  | colon (done : List (Text × Json)) (key : Text) (stack : List Frame)
  /-- What follows a complete value. -/
  | after (value : Json) (stack : List Frame)

/-- What a token leads to: the next state, a fault at an offset, an integer that is too long
or a container that is too deep. -/
inductive Outcome
  | next (state : State)
  | fault (fault : Fault) (offset : Nat)
  | numeralTooLong (digits : Nat)
  | tooDeep (container : Container)

variable [Platform]

/-- Open a container inside others, unless that is too deep. -/
def openInside (stack : List Frame) (container : Container) (state : State) : Outcome :=
  if stack.length < Platform.maxDepth then .next state else .tooDeep container

/-- The token at `offset` begins a value. -/
def beginValue (stack : List Frame) (offset : Nat) : Token → Outcome
  | .scalar v => .next (.after v stack)
  | .string s => .next (.after (.string s) stack)
  | .beginArray => openInside stack .array (.firstItem stack)
  | .beginObject => openInside stack .object (.key true [] stack)
  | .badString fault place => .fault fault place
  | .longInteger digits => .numeralTooLong digits
  | _ => .fault .value offset

/-- The token at `offset` follows a complete value. -/
def afterValue (v : Json) (offset : Nat) : List Frame → Token → Outcome
  | [], _ => .fault .extraData offset
  | .array done :: stack, token =>
    match token with
    | .comma => .next (.value (.array (v :: done) :: stack))
    | .endArray => .next (.after (.array (v :: done).reverse) stack)
    | _ => .fault .comma offset
  | .object done key :: stack, token =>
    match token with
    | .comma => .next (.key false ((key, v) :: done) stack)
    | .endObject => .next (.after (.object (Dict.ofPairs ((key, v) :: done).reverse)) stack)
    | _ => .fault .comma offset

/-- Take one token. -/
def State.step (offset : Nat) (token : Token) : State → Outcome
  | .value stack => beginValue stack offset token
  | .firstItem stack =>
    match token with
    | .endArray => .next (.after (.array []) stack)
    | token => beginValue (.array [] :: stack) offset token
  | .key first done stack =>
    match token with
    | .string name => .next (.colon done name stack)
    | .badString fault place => .fault fault place
    | .endObject =>
      if first then .next (.after (.object []) stack) else .fault .propertyName offset
    | _ => .fault .propertyName offset
  | .colon done name stack =>
    match token with
    | .colon => .next (.value (.object done name :: stack))
    | _ => .fault .colon offset
  | .after v stack => afterValue v offset stack token

/-- The answer at the end of the text. -/
def State.finish : State → Except Fault Json
  | .value _ | .firstItem _ => .error .value
  | .key .. => .error .propertyName
  | .colon .. => .error .colon
  | .after v [] => .ok v
  | .after _ (_ :: _) => .error .comma

/-- Take all tokens of `text`, beginning in a state. -/
def State.run (text : Text) : State → List (Nat × Token) → Except Error Json
  | state, [] =>
    match state.finish with
    | .ok v => .ok v
    | .error fault => .error (.malformed fault (.of text text.length))
  | state, (offset, token) :: rest =>
    match state.step offset token with
    | .next state => state.run text rest
    | .fault fault offset => .error (.malformed fault (.of text offset))
    | .numeralTooLong digits => .error (.numeralTooLong digits)
    | .tooDeep container => .error (.tooDeep container)

/-- The mark that some programs put before a text. -/
def byteOrderMark : Char := Char.ofNat 0xFEFF

/-- Read a text that holds one JSON value. -/
def read (text : Text) : Except Error Json :=
  if text.head? = some byteOrderMark then .error (.malformed .byteOrderMark (.of text 0))
  else (State.value []).run text (tokens text)

end Phrasebook.Json
