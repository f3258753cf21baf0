import CallTargets.Json.Token

/-!
# Reading JSON

A text is read by a machine that takes one token after the other.  Its state says what is expected next and which arrays
and objects are still open, the innermost first.
-/

namespace CallTargets

namespace Json

/-- An array or object that is still open, with what it holds so far, last to first. -/
inductive Frame where
  | items (done : List Json)
  | fields (done : List (Text × Json)) (key : Text)

/-- What is expected next, and what is open. -/
inductive ReadState where
  /-- A value. -/
  | value (stack : List Frame)
  /-- A value, or the end of an array. -/
  | firstItem (stack : List Frame)
  /-- A key, or the end of an object. -/
  | firstKey (stack : List Frame)
  /-- A key. -/
  | key (done : List (Text × Json)) (stack : List Frame)
  /-- The colon after a key. -/
  | colon (done : List (Text × Json)) (key : Text) (stack : List Frame)
  /-- What follows a value. -/
  | after (v : Json) (stack : List Frame)

namespace ReadState

/-- Takes the token that starts a value. -/
def begin (t : Token) (stack : List Frame) : Option ReadState :=
  match t with
  | .null => some (.after .null stack)
  | .bool b => some (.after (.bool b) stack)
  | .num n => some (.after (.num n) stack)
  | .str s => some (.after (.str s) stack)
  | .openArr => some (.firstItem stack)
  | .openObj => some (.firstKey stack)
  | .closeArr | .closeObj | .comma | .colon => none

/-- Takes a token. -/
def step : ReadState → Token → Option ReadState
  | .value stack, t => begin t stack
  | .firstItem stack, .closeArr => some (.after (.arr []) stack)
  | .firstItem stack, t => begin t (.items [] :: stack)
  | .firstKey stack, .closeObj => some (.after (.obj []) stack)
  | .firstKey stack, .str k => some (.colon [] k stack)
  | .key done stack, .str k => some (.colon done k stack)
  | .colon done k stack, .colon => some (.value (.fields done k :: stack))
  | .after v (.items done :: stack), .comma => some (.value (.items (v :: done) :: stack))
  | .after v (.items done :: stack), .closeArr => some (.after (.arr (v :: done).reverse) stack)
  | .after v (.fields done k :: stack), .comma => some (.key ((k, v) :: done) stack)
  | .after v (.fields done k :: stack), .closeObj =>
    some (.after (.obj ((k, v) :: done).reverse) stack)
  | _, _ => none

/-- The value, if it is complete. -/
def result? : ReadState → Option Json
  | .after v [] => some v
  | _ => none

end ReadState

/-- The value of a sequence of tokens. -/
def ofTokens? (tokens : List Token) : Option Json :=
  (tokens.foldlM ReadState.step (.value [])).bind ReadState.result?

/-- The value of a text. -/
def parse? (text : String) : Option Json := (readTokens text.toList []).bind ofTokens?

end Json

end CallTargets
