import RepairConsole.Json.Token
/-!
# JSON values

A value is built from its tokens with a stack of the containers that are open, so nesting
may go to any depth. Object members keep their order and repetitions, because it is for the
reader of a record to say what a repeated name means.
-/

namespace RepairConsole

/-- A JSON value. Strings and member names are `none` where they are no text. -/
inductive Json where
  | null
  | bool (value : Bool)
  | number (value : Decimal.Numeral)
  | text (value : Option String)
  | array (items : List Json)
  | object (members : List (Option String × Json))

namespace Json

/-- A container under way, its last item first. -/
inductive Frame where
  | array (items : List Json)
  | object (members : List (Option String × Json)) (name : Option String)

/-- What may come next. -/
inductive Expected where
  | value
  /-- The first item of an array, or its end. -/
  | item
  /-- The first name of an object, or its end. -/
  | member
  | name (members : List (Option String × Json))
  | colon (members : List (Option String × Json)) (name : Option String)
  /-- Something that goes on with the container around a finished value. -/
  | more (done : Json)

/-- A value read so far. -/
structure Builder where
  stack : List Frame
  expected : Expected

namespace Builder

def start : Builder := ⟨[], .value⟩

/-- A token where a value may start. -/
def openValue (stack : List Frame) : Token → Option Builder
  | .openArray => some ⟨stack, .item⟩
  | .openObject => some ⟨stack, .member⟩
  | .null => some ⟨stack, .more .null⟩
  | .bool value => some ⟨stack, .more (.bool value)⟩
  | .number value => some ⟨stack, .more (.number value)⟩
  | .text value => some ⟨stack, .more (.text value)⟩
  | _ => none

/-- One token; `none` where no value goes on like that. -/
def step (builder : Builder) (token : Token) : Option Builder :=
  match builder.expected with
  | .value => openValue builder.stack token
  | .item =>
    if token = .closeArray then some ⟨builder.stack, .more (.array [])⟩
    else openValue (.array [] :: builder.stack) token
  | .member =>
    match token with
    | .closeObject => some ⟨builder.stack, .more (.object [])⟩
    | .text name => some ⟨builder.stack, .colon [] name⟩
    | _ => none
  | .name members =>
    match token with
    | .text name => some ⟨builder.stack, .colon members name⟩
    | _ => none
  | .colon members name =>
    if token = .colon then some ⟨.object members name :: builder.stack, .value⟩ else none
  | .more done =>
    match builder.stack, token with
    | .array items :: stack, .comma => some ⟨.array (done :: items) :: stack, .value⟩
    | .array items :: stack, .closeArray => some ⟨stack, .more (.array (done :: items).reverse)⟩
    | .object members name :: stack, .comma => some ⟨stack, .name ((name, done) :: members)⟩
    | .object members name :: stack, .closeObject =>
      some ⟨stack, .more (.object ((name, done) :: members).reverse)⟩
    | _, _ => none

/-- The value, if all of it was read. -/
def finish (builder : Builder) : Option Json :=
  match builder.stack, builder.expected with
  | [], .more done => some done
  | _, _ => none

end Builder

/-- The value that the tokens write. -/
def ofTokens? (tokens : List Token) : Option Json :=
  (tokens.foldlM Builder.step Builder.start).bind Builder.finish

/-- The value that a text writes; `none` if the text is not JSON. -/
def parse? (s : String) : Option Json := (tokens s.toList).bind ofTokens?

/-- How many containers are open at once where most are, if `depth` are open now. -/
def depthFrom (depth deepest : Nat) : List Token → Nat
  | [] => deepest
  | .openArray :: rest | .openObject :: rest =>
    depthFrom (depth + 1) (max deepest (depth + 1)) rest
  | .closeArray :: rest | .closeObject :: rest => depthFrom (depth - 1) deepest rest
  | _ :: rest => depthFrom depth deepest rest

/-- How deep the containers of some tokens are nested. -/
def depth (tokens : List Token) : Nat := depthFrom 0 0 tokens

/-- Whether a token stands for a value that can be held: a string that is text, a number
that a double reaches. -/
def Token.isSound : Token → Bool
  | .text value => value.isSome
  | .number value => value.toFloat?.isSome
  | _ => true

/-- Like `parse?`, but for reading a value of no known shape: all of it must be sound, and
no more than 127 containers may be open at once. -/
def parseWhole? (s : String) : Option Json := do
  let tokens ← tokens s.toList
  if tokens.all Token.isSound ∧ depth tokens ≤ 127 then ofTokens? tokens else none

end Json
end RepairConsole
