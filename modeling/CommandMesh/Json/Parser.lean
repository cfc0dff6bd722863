import CommandMesh.Json.Lexer

/-!
# `CommandMesh.Json.Parser`: tokens to values

The parser is a machine that reads one token at a time. Its state says what may come next and which
arrays and objects are open around it, so nesting is a list and depth has no limit. `Json.parse?`
lexes a text and runs the machine over its tokens.

The machine is structurally recursive in the tokens and takes no bound. A run over two rows of
tokens is the run over the first and then over the second, which is what the proof that a printed
value is read back rests on: `Proofs.Json.Parsing` shows, by recursion on the value, that its tokens
lead from a state that expects a value to the state that has read it, whatever is open around it.

A trailing comma is refused, since a comma leads to a state in which a value or a name has to come
and the closing bracket is none. An empty array or object has a state of its own for that reason.
-/

set_option autoImplicit false

namespace CommandMesh.Json

/-- An open array or object, with what it holds so far, last part first. -/
inductive Frame where
  | array (reversed : List Json)
  /-- An object that waits for the value of `name`. -/
  | object (reversed : List (Option String × Json)) (name : Option String)

/-- What has been read, by what may come next. -/
inductive State where
  /-- A value. -/
  | value (around : List Frame)
  /-- The first item of an array, or its end. -/
  | arrayStart (around : List Frame)
  /-- The first name in an object, or its end. -/
  | objectStart (around : List Frame)
  /-- A name in an object that holds members already. -/
  | name (around : List Frame) (reversed : List (Option String × Json))
  /-- The colon after a name. -/
  | colon (around : List Frame) (reversed : List (Option String × Json)) (name : Option String)
  /-- A value is complete: its continuation, or the end if nothing is open. -/
  | complete (around : List Frame) (v : Json)

namespace State

/-- Reads the first token of a value. -/
def openValue (around : List Frame) : Token → Option State
  | .null => some (.complete around .null)
  | .bool b => some (.complete around (.bool b))
  | .number n => some (.complete around (.number n))
  | .text t => some (.complete around (.text t))
  | .leftBracket => some (.arrayStart around)
  | .leftBrace => some (.objectStart around)
  | _ => none

/-- Reads what follows a complete value. -/
def afterValue (around : List Frame) (v : Json) (t : Token) : Option State :=
  match around, t with
  | .array done :: outer, .comma => some (.value (.array (v :: done) :: outer))
  | .array done :: outer, .rightBracket => some (.complete outer (.array (v :: done).reverse))
  | .object done key :: outer, .comma => some (.name outer ((key, v) :: done))
  | .object done key :: outer, .rightBrace =>
    some (.complete outer (.object ((key, v) :: done).reverse))
  | _, _ => none

/-- Reads one token. -/
def step : State → Token → Option State
  | .value around, t => openValue around t
  | .arrayStart around, .rightBracket => some (.complete around (.array []))
  | .arrayStart around, t => openValue (.array [] :: around) t
  | .objectStart around, .rightBrace => some (.complete around (.object []))
  | .objectStart around, .text t => some (.colon around [] t)
  -- Names are texts. A name whose contents are none is accepted here, and left to the reader of
  -- values.
  | .objectStart _, _ => none
  | .name around done, .text t => some (.colon around done t)
  | .name _ _, _ => none
  | .colon around done key, .colon => some (.value (.object done key :: around))
  | .colon _ _ _, _ => none
  | .complete around v, t => afterValue around v t

/-- Reads tokens in turn. -/
def run : State → List Token → Option State
  | s, [] => some s
  | s, t :: ts => (s.step t).bind fun s' => run s' ts

/-- The value that has been read, if it is complete and nothing is open around it. -/
def result? : State → Option Json
  | .complete [] v => some v
  | _ => none

end State

/-- The value of a row of tokens. -/
def ofTokens? (ts : List Token) : Option Json := (State.run (.value []) ts).bind State.result?

/-- Reads a whole text as one value, with white space around it or between its tokens. -/
def parse? (bs : List UInt8) : Option Json := (lex bs).bind ofTokens?

end CommandMesh.Json
