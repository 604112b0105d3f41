import ApiContract.Json.Token
import ApiContract.Json.Value

/-!
Reading JSON text: a stack of unfinished containers runs over the tokens. Text nested deeper than
127 levels is refused. A repeated key keeps its first place and its last value.
-/

namespace ApiContract.Json

/-- A container that is not closed yet; items are in reverse. -/
inductive Frame where
  | array (reversed : List Value)
  | object (entries : Assoc Value) (key : String)

/-- What the next token may be. -/
inductive Expecting where
  | value
  | itemOrClose
  | keyOrClose (entries : Assoc Value)
  | key (entries : Assoc Value)
  | colon (entries : Assoc Value) (key : String)
  | commaOrClose (last : Value)
  | nothing (result : Value)

structure ReadState where
  stack : List Frame
  expecting : Expecting

namespace ReadState

def maxDepth : Nat := 127

def initial : ReadState := ⟨[], .value⟩

/-- A finished value: the whole result, or the last item of the innermost container. -/
def finish (stack : List Frame) (value : Value) : ReadState :=
  match stack with
  | [] => ⟨[], .nothing value⟩
  | stack => ⟨stack, .commaOrClose value⟩

/-- A token in the place of a value. -/
def beginValue (stack : List Frame) (token : Token) : Option ReadState :=
  match token with
  | .null => some (finish stack .null)
  | .bool flag => some (finish stack (.bool flag))
  | .number n => some (finish stack (.number n))
  | .string text => some (finish stack (.string text))
  | .openArray => if stack.length < maxDepth then some ⟨.array [] :: stack, .itemOrClose⟩ else none
  | .openObject => if stack.length < maxDepth then some ⟨stack, .keyOrClose []⟩ else none
  | _ => none

def step (state : ReadState) (token : Token) : Option ReadState :=
  match state.expecting, state.stack, token with
  | .value, stack, token => beginValue stack token
  | .itemOrClose, .array _ :: rest, .closeArray => some (finish rest (.array []))
  | .itemOrClose, stack, token => beginValue stack token
  | .keyOrClose entries, stack, .closeObject => some (finish stack (.object entries))
  | .keyOrClose entries, stack, .string key => some ⟨stack, .colon entries key⟩
  | .key entries, stack, .string key => some ⟨stack, .colon entries key⟩
  | .colon entries key, stack, .colon => some ⟨.object entries key :: stack, .value⟩
  | .commaOrClose last, .array reversed :: rest, .comma => some ⟨.array (last :: reversed) :: rest, .value⟩
  | .commaOrClose last, .array reversed :: rest, .closeArray =>
      some (finish rest (.array (last :: reversed).reverse))
  | .commaOrClose last, .object entries key :: rest, .comma =>
      some ⟨rest, .key (Assoc.insert entries key last)⟩
  | .commaOrClose last, .object entries key :: rest, .closeObject =>
      some (finish rest (.object (Assoc.insert entries key last)))
  | _, _, _ => none

def run : ReadState → List Token → Option Value
  | state, [] => match state.expecting with
      | .nothing result => some result
      | _ => none
  | state, token :: rest => (step state token).bind (run · rest)

end ReadState

/-- The value that a text writes; none when it is not JSON. -/
def Value.read? (text : String) : Option Value :=
  (Token.scan text.toList).bind ReadState.initial.run

end ApiContract.Json
