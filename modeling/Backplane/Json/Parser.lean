import Backplane.Json.Token

/-!
# Reading JSON

A value is built from its tokens one at a time, with a stack of the arrays and
objects that are open. A text is a value if its tokens make up exactly one:
nothing may follow, and no comma may stand before a closing bracket or brace.
-/

namespace Backplane.Json

/-- An array or object that is open. -/
inductive Frame where
  /-- An array with its items so far, the last first. -/
  | array (done : List Json)
  /-- An object with its members so far, the last first, before a key. -/
  | object (done : List (Option String × Json))
  /-- An object with its members so far, the last first, and the key of the next
  one. -/
  | member (done : List (Option String × Json)) (key : Option String)

/-- What may come next. -/
inductive Next where
  /-- A value. -/
  | value
  /-- The first item of an array, or its end. -/
  | firstItem
  /-- A key. -/
  | key
  /-- The first key of an object, or its end. -/
  | firstKey
  /-- The colon after a key. -/
  | colon (key : Option String)
  /-- Whatever may follow a value. -/
  | after (value : Json)

/-- The open arrays and objects, the innermost first, and what may come next. -/
structure Builder where
  /-- The open arrays and objects, the innermost first. -/
  frames : List Frame := []
  /-- What may come next. -/
  next : Next := .value

namespace Builder

/-- Takes a token where a value may come. -/
def beginValue (frames : List Frame) : Token → Option Builder
  | .scalar value => some ⟨frames, .after value⟩
  | .openArray => some ⟨.array [] :: frames, .firstItem⟩
  | .openObject => some ⟨.object [] :: frames, .firstKey⟩
  | .closeArray | .closeObject | .colon | .comma => none

/-- Takes a token where a key may come. -/
def beginKey (frames : List Frame) : Token → Option Builder
  | .scalar (.text key) => some ⟨frames, .colon key⟩
  | _ => none

/-- Takes a token after a value. -/
def afterValue (value : Json) : List Frame → Token → Option Builder
  | .array done :: frames, .comma => some ⟨.array (value :: done) :: frames, .value⟩
  | .array done :: frames, .closeArray =>
    some ⟨frames, .after (.array (value :: done).reverse)⟩
  | .member done key :: frames, .comma =>
    some ⟨.object ((key, value) :: done) :: frames, .key⟩
  | .member done key :: frames, .closeObject =>
    some ⟨frames, .after (.object ((key, value) :: done).reverse)⟩
  | _, _ => none

/-- Takes one token. -/
def step (b : Builder) (token : Token) : Option Builder :=
  match b.next with
  | .value => beginValue b.frames token
  | .firstItem =>
    match b.frames, token with
    | .array _ :: frames, .closeArray => some ⟨frames, .after (.array [])⟩
    | frames, token => beginValue frames token
  | .key => beginKey b.frames token
  | .firstKey =>
    match b.frames, token with
    | .object _ :: frames, .closeObject => some ⟨frames, .after (.object [])⟩
    | frames, token => beginKey frames token
  | .colon key =>
    match b.frames, token with
    | .object done :: frames, .colon => some ⟨.member done key :: frames, .value⟩
    | _, _ => none
  | .after value => afterValue value b.frames token

/-- The value that was built, if nothing is open. -/
def finish (b : Builder) : Option Json :=
  match b.frames, b.next with
  | [], .after value => some value
  | _, _ => none

end Builder

/-- The value that tokens make up. -/
def ofTokens? (tokens : List Token) : Option Json := do
  let b ← tokens.foldlM Builder.step {}
  b.finish

/-- The value that a text writes. -/
def parse? (source : String) : Option Json := do
  let tokens ← Token.scan source.toList
  ofTokens? tokens

end Backplane.Json
