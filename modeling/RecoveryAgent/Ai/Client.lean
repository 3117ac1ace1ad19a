import Mathlib.Data.List.DropRight
import RecoveryAgent.Ai.Agent
import RecoveryAgent.Library.Marks
import RecoveryAgent.Python.JsonText

/-!
# The client

`LLMClient.chat_json` and `parse_json_content` of `ai/client.py`: from the reply of the
server to the JSON that the agent works with, or to an exception. Only what is raised as an
`LLMError` is told apart from the other exceptions.
-/

namespace RecoveryAgent.Ai

open Library Python

/-!
## The text of a reply
-/

/-- A letter of a pattern with `re.IGNORECASE`. Four letters beyond ASCII fold to one in it. -/
def ignoringCase (c x : Char) : Bool :=
  x = c || x = c.toUpper ||
    (c, x.toNat) ∈ [('i', 0x130), ('i', 0x131), ('s', 0x17F), ('k', 0x212A)]

/-- `<name>`. -/
def tag (name : List Char) : Mark Char := ⟨ignoringCase '<', (name ++ ['>']).map ignoringCase⟩

def thinkOpen : Mark Char := tag "think".toList

def thinkClose : Mark Char := tag "/think".toList

def thinkingOpen : Mark Char := tag "thinking".toList

def thinkingClose : Mark Char := tag "/thinking".toList

/-- Three backticks. -/
def fence : Mark Char := ⟨ignoringCase '`', [ignoringCase '`', ignoringCase '`']⟩

/-- `re.sub(...).strip()`. -/
def withoutBlocks (m n : Mark Char) (text : String) : String :=
  strip (.ofList (removeBlocks m n text.toList))

/-- What follows `(?:json)?\s*`. -/
def afterLanguage (text : List Char) : List Char :=
  ((afterWord? ("json".toList.map ignoringCase) text).getD text).dropWhile isSpace

/-- The text inside the first pair of fences. -/
def fenced? (text : List Char) : Option (List Char) := do
  let opened ← cut? fence text
  let closed ← cut? fence (afterLanguage opened.2)
  return closed.1

/-- What is left to parse without thoughts and outside of a fence. -/
def extracted (content : String) : String :=
  let text := withoutBlocks thinkOpen thinkClose (strip content)
  let text := withoutBlocks thinkingOpen thinkingClose text
  match fenced? text.toList with
  | some inside => strip (.ofList inside)
  | none => text

/-- The text from its first `{` to its last `}`. -/
def fragment? (text : String) : Option String :=
  let rest := text.toList.dropWhile fun c => c ≠ '{'
  let fragment := rest.rdropWhile fun c => c ≠ '}'
  if fragment.isEmpty then none else some (.ofList fragment)

/-!
## The JSON of a reply
-/

/-- What `json.loads` raises. -/
inductive LoadsError where
  | decode (text : String)
  | other (f : Failure)

def LoadsError.failure : LoadsError → Failure
  | decode text => ⟨"JSONDecodeError", text⟩
  | other f => f

/-- `json.loads`, and `repr` of texts and values. -/
structure JsonModule where
  loads : String → Except LoadsError Json
  loads_sound : ∀ s v, loads s = .ok v → JsonText s.toList v
  reprText : String → String
  repr : Json → String

section

variable (json : JsonModule)

def parseJsonContent (content : String) : Reply :=
  let text := extracted content
  match json.loads text with
  | .ok v => .value v
  | .error (.other f) => .raised f
  | .error (.decode _) =>
      -- best effort: the first JSON object in the text
      match fragment? text with
      | some fragment =>
          match json.loads fragment with
          | .ok v => .value v
          | .error e => .raised e.failure
      | none =>
          .llmError ("Could not parse JSON from model output: " ++
            json.reprText (slice 400 content))

/-- What the request gives: an exception of `httpx`, or the JSON of the body. -/
inductive HttpReply where
  | failed (text : String)
  | body (data : Json)

/-- `v[key]`, where it does not raise. -/
def item? (v : Json) (key : String) : Option Json :=
  match v with
  | .obj d => Fields.get? d key
  | _ => none

/-- `v[0]`, where it does not raise. -/
def first? : Json → Option Json
  | .arr xs => xs.head?
  | .str s => s.toList.head?.map fun c => .str (.ofList [c])
  | _ => none

/-- `data["choices"][0]["message"]["content"]`. -/
def contentOf (data : Json) : Option Json := do
  let choices ← item? data "choices"
  let choice ← first? choices
  let message ← item? choice "message"
  item? message "content"

def typeName : Json → String
  | .null => "NoneType"
  | .bool _ => "bool"
  | .int _ => "int"
  | .float _ => "float"
  | .str _ => "str"
  | .arr _ => "list"
  | .obj _ => "dict"

/-- `chat_json`. The content is parsed outside of both `try` blocks. -/
def chatJson (reply : HttpReply) : Reply :=
  match reply with
  | .failed text => .llmError ("LLM HTTP failed: " ++ text)
  | .body data =>
      match contentOf data with
      | none => .llmError ("Unexpected LLM response shape: " ++ json.repr data)
      | some (.str content) => parseJsonContent json content
      | some v =>
          .raised ⟨"AttributeError", "'" ++ typeName v ++ "' object has no attribute 'strip'"⟩

/-- A client whose server sends these replies. -/
def httpClient (model : String) (available : Bool) (replies : ℕ → HttpReply) : LLMClient where
  model
  available
  chatJson n := chatJson json (replies n)

end

end RecoveryAgent.Ai
