import WidgetRepair.Assist.Plan
import WidgetRepair.Store.Discovery
import WidgetRepair.Text.Lower
import WidgetRepair.Widget.Document

/-! Language models: who offers them, what is sent to them, and how their replies are read.
Replies that may pass are asked for again. -/

namespace WidgetRepair

inductive Provider where
  | openAI
  | anthropic
  deriving DecidableEq, Repr

namespace Provider

def name : Provider → String
  | openAI => "openai"
  | anthropic => "anthropic"

/-- The name the provider gives itself. -/
def title : Provider → String
  | openAI => "OpenAI"
  | anthropic => "Anthropic"

def ofName? (s : String) : Option Provider :=
  if s = "openai" || s = "open-ai" then some openAI
  else if s = "anthropic" then some anthropic
  else none

/-- The provider a person means. -/
def ofLooseName? (s : String) : Option Provider := ofName? (Text.lowered (Text.trimmed s))

def defaultModel : Provider → String
  | openAI => "gpt-5-mini"
  | anthropic => "claude-sonnet-4.5"

def keyVariable : Provider → String
  | openAI => "OPENAI_API_KEY"
  | anthropic => "ANTHROPIC_API_KEY"

end Provider

/-- Why there is no answer from a model, or no use in it. -/
inductive AssistFault where
  | notConfigured
  | network (reason : String)
  | status (provider : Provider) (code : Nat) (body : String)
  | unreadable (fault : Fault)
  | noAnswer (provider : Provider)
  /-- The model failed for a reason of its own. -/
  | failed (reason : String)
  | plan (fault : PlanFault)
  deriving DecidableEq, Repr

/-- The phrases that belong to status codes. -/
def statusPhrases : List (Nat × String) := [
  (100, "Continue"), (101, "Switching Protocols"), (102, "Processing"),
  (200, "OK"), (201, "Created"), (202, "Accepted"), (203, "Non Authoritative Information"),
  (204, "No Content"), (205, "Reset Content"), (206, "Partial Content"), (207, "Multi-Status"),
  (208, "Already Reported"), (226, "IM Used"),
  (300, "Multiple Choices"), (301, "Moved Permanently"), (302, "Found"), (303, "See Other"),
  (304, "Not Modified"), (305, "Use Proxy"), (307, "Temporary Redirect"),
  (308, "Permanent Redirect"),
  (400, "Bad Request"), (401, "Unauthorized"), (402, "Payment Required"), (403, "Forbidden"),
  (404, "Not Found"), (405, "Method Not Allowed"), (406, "Not Acceptable"),
  (407, "Proxy Authentication Required"), (408, "Request Timeout"), (409, "Conflict"),
  (410, "Gone"), (411, "Length Required"), (412, "Precondition Failed"),
  (413, "Payload Too Large"), (414, "URI Too Long"), (415, "Unsupported Media Type"),
  (416, "Range Not Satisfiable"), (417, "Expectation Failed"), (418, "I'm a teapot"),
  (421, "Misdirected Request"), (422, "Unprocessable Entity"), (423, "Locked"),
  (424, "Failed Dependency"), (426, "Upgrade Required"), (428, "Precondition Required"),
  (429, "Too Many Requests"), (431, "Request Header Fields Too Large"),
  (451, "Unavailable For Legal Reasons"),
  (500, "Internal Server Error"), (501, "Not Implemented"), (502, "Bad Gateway"),
  (503, "Service Unavailable"), (504, "Gateway Timeout"), (505, "HTTP Version Not Supported"),
  (506, "Variant Also Negotiates"), (507, "Insufficient Storage"), (508, "Loop Detected"),
  (510, "Not Extended"), (511, "Network Authentication Required")]

/-- A status code with its phrase. -/
def statusText (code : Nat) : String :=
  let phrase := match statusPhrases.find? (·.1 == code) with
    | some (_, phrase) => phrase
    | none => "<unknown status code>"
  toString code ++ " " ++ phrase

def AssistFault.message : AssistFault → String
  | notConfigured => "No language model configured (set OPENAI_API_KEY or ANTHROPIC_API_KEY)"
  | network reason => "LLM error: Network error: " ++ reason
  | status provider code body =>
    "LLM error: " ++ provider.name ++ " API error " ++ statusText code ++ ": " ++ body
  | unreadable fault => "LLM error: Failed to parse response: " ++ fault.message
  | noAnswer provider => "LLM error: No response from " ++ provider.title
  | failed reason => "LLM error: " ++ reason
  | plan .noObject => "Invalid edit plan: no JSON object in response"
  | plan .noEdits => "Invalid edit plan: plan contains no fixes"
  | plan (.unreadable fault) => "JSON error: " ++ fault.message

structure LanguageModel where
  provider : Provider
  key : String
  name : String
  deriving DecidableEq, Repr

namespace LanguageModel

open Json

def modelVariable : String := "WFORGE_LLM_MODEL"

/-- A variable that holds more than white space. -/
def setting? (env : Environment) (name : String) : Option String :=
  (env.get? name).filter fun v => !Text.blank v

def make (provider : Provider) (key : String) (name : Option String) : LanguageModel :=
  ⟨provider, key, name.getD provider.defaultModel⟩

/-- The model that the environment has a key for. -/
def ofEnvironment (env : Environment) : Except AssistFault LanguageModel :=
  let name := setting? env modelVariable
  match setting? env Provider.openAI.keyVariable, setting? env Provider.anthropic.keyVariable with
  | some key, _ => .ok (make .openAI key name)
  | none, some key => .ok (make .anthropic key name)
  | none, none => .error .notConfigured

/-- A model of a chosen provider. A chosen name goes before that of the environment. -/
def ofChoice (env : Environment) (provider : Provider) (name : Option String) :
    Except AssistFault LanguageModel :=
  match setting? env provider.keyVariable with
  | some key => .ok (make provider key (name.or (setting? env modelVariable)))
  | none => .error .notConfigured

structure Request where
  url : String
  headers : List (String × String)
  body : Value

/-- What comes back: nothing, or a status and a body. -/
inductive Reply where
  | lost (reason : String)
  | answered (code : Nat) (body : String)
  deriving DecidableEq, Repr

/-- The way to a provider and the clock, in a surrounding state. -/
structure Transport (τ : Type) where
  send : Request → StateM τ Reply
  wait : (seconds : Nat) → StateM τ Unit

def answerLimit : Nat := 4096

def chatMessage (role content : String) : Value :=
  .record [("role", .text role), ("content", .text content)]

def request (m : LanguageModel) (system prompt : String) : Request :=
  match m.provider with
  | .openAI => {
      url := "https://api.openai.com/v1/chat/completions"
      headers := [("Authorization", "Bearer " ++ m.key)]
      body := .record [("model", .text m.name),
        ("messages", .list [chatMessage "system" system, chatMessage "user" prompt]),
        ("max_completion_tokens", .ofNat answerLimit)] }
  | .anthropic => {
      url := "https://api.anthropic.com/v1/messages"
      headers := [("x-api-key", m.key), ("anthropic-version", "2023-06-01")]
      body := .record ([("model", .text m.name), ("max_tokens", .ofNat answerLimit)] ++
        (if system.isEmpty then [] else [("system", .text system)]) ++
        [("messages", .list [chatMessage "user" prompt])]) }

/-- A record of one field. -/
def wrapped {α : Type} (name : String) (item : Place → Except Fault α) :
    Place → Except Fault α :=
  Source.recordOf [.of name id (fun v _ => v) item] none id

/-- The texts that a reply offers. -/
def offers (provider : Provider) : Place → Except Fault (List String) :=
  match provider with
  | .openAI => wrapped "choices" (Source.listOf (wrapped "message" (wrapped "content" Source.text)))
  | .anthropic => wrapped "content" (Source.listOf (wrapped "text" Source.text))

/-- The first text that the body of a reply offers. -/
def answerOf (provider : Provider) (body : String) : Except AssistFault String := do
  let texts ← (Json.decode (offers provider) body).mapError .unreadable
  match texts.head? with
  | some text => return text
  | none => throw (.noAnswer provider)

/-- Whether asking again may help. -/
def Reply.transient : Reply → Bool
  | lost _ => true
  | answered code _ => (500 ≤ code && code < 600) || code == 429

/-- What a reply says: the body of a successful one, or why there is none. -/
def Reply.body (provider : Provider) : Reply → Except AssistFault String
  | lost reason => .error (.network reason)
  | answered code body =>
    if 200 ≤ code && code < 300 then .ok body else .error (.status provider code body)

/-- Asks, and asks again after each pause while the reply is transient. -/
def ask {τ : Type} (transport : Transport τ) (r : Request) :
    (pauses : List Nat) → StateM τ Reply
  | [] => transport.send r
  | pause :: rest => do
    let reply ← transport.send r
    if reply.transient then
      transport.wait pause
      ask transport r rest
    else return reply

/-- The pauses between tries, in seconds. -/
def pauses : List Nat := [1, 2]

/-- The answer of a model to a prompt. -/
def complete {τ : Type} (m : LanguageModel) (transport : Transport τ) (system prompt : String) :
    StateM τ (Except AssistFault String) := do
  let reply ← ask transport (m.request system prompt) pauses
  return do answerOf m.provider (← reply.body m.provider)

end LanguageModel

end WidgetRepair
