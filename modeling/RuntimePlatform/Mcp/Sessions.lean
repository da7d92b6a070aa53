import RuntimePlatform.Lib.Coroutine
import RuntimePlatform.Mcp.Transport
import RuntimePlatform.Mcp.Truncation

/-!
The sessions of `mcp_transport.py`. A session is an object which the store and the running calls share: a call may
change it while another one has it. What a task does is a program of its steps, between which other tasks run.
-/

namespace RuntimePlatform.Mcp
open Python Coroutine Coroutine.Session

structure McpServerConfig where
  url : String
  transport : String
  credential_ref : Option String
  timeout_seconds : ℚ
  max_result_bytes : ℕ
  session_mode : String
  capability_digest : Option String

/-- What the process has around it, and the parts of Python's library which are not modelled. -/
structure Host where
  text : Text
  getenv : String → Option String
  servers : List (String × McpServerConfig)
  /-- The digest in hexadecimal. -/
  sha256 : List Char → String
  /-- The object which `json.loads` makes of a value. -/
  value : Json → Value
  /-- What `json.dumps` writes for the number which it has read from a literal. -/
  reprint : List Char → List Char
  /-- The text of an `HTTPStatusError`. -/
  status_error : ℕ → String
  runtime_version : String

structure McpSession where
  server_name : String
  session_id : String
  protocol_version : String
  capabilities : Json.Members
  capability_digest : String

/-- A session object. -/
abbrev Ref := ℕ

abbrev Headers := List (String × String)

/-- A JSON-RPC body; a notification has no id. -/
structure Rpc where
  id : Option String
  method : String
  params : Entries

structure HttpResponse where
  status_code : ℕ
  content_type : Option String
  mcp_session_id : Option String
  content : List UInt8

inductive Exc where
  /-- `httpx.HTTPError` -/
  | http (reason : String)
  | value (message : String)
  | httpException (status_code : ℕ) (code message : String) (details : List (String × String))
  | cancelled
  /-- Any other `Exception`. -/
  | raised
  deriving DecidableEq, Repr

/-- The steps on the session objects and on their store, and the requests. -/
inductive Op where
  | session_get (server_name : String)
  | session_id (session : Ref)
  | session_capability_digest (session : Ref)
  | new_session (session : McpSession)
  | put (session : Ref)
  | set_session_id (session : Ref) (session_id : String)
  | uuid4
  /-- The id which the gateway makes for a session which the server at the URL has given none. -/
  | session_uuid4 (url : String)
  | post (url : String) (headers : Headers) (body : Rpc) (timeout : ℚ)
  | delete (url : String) (headers : Headers) (timeout : ℚ)

namespace Op

@[reducible] def Res : Op → Type
  | session_get _ => Option Ref
  | session_id _ | session_capability_digest _ | uuid4 | session_uuid4 _ => String
  | new_session _ => Ref
  | post _ _ _ _ | delete _ _ _ => HttpResponse
  | put _ | set_session_id _ _ => Unit

abbrev Ans (op : Op) : Type := Except Exc op.Res

end Op

abbrev Handler := Session Unit Exc Op Op.Res

abbrev call (op : Op) : Handler op.Res := perform op

/-! Servers and credentials. -/

def McpServerConfig.endpoint (server : McpServerConfig) : String :=
  String.ofList (server.url.toList.rdropWhile fun c => decide (c = '/'))

variable (H : Host)

def Host.get (server_name : String) : Option McpServerConfig := H.servers.lookup server_name

def Host.resolve_credential (credential_ref : Option String) : Except Python.Error (Option String) :=
  match credential_ref.filter fun ref => decide (ref ≠ "") with
  | none => .ok none
  | some ref =>
    if "env:".toList.isPrefixOf ref.toList then
      let name := strip (String.ofList (ref.toList.drop 4))
      if name = "" then .error ⟨.valueError, "empty credential env name"⟩
      else
        let value := strip ((H.getenv name).getD "")
        if value = "" then .error ⟨.valueError, "credential env " ++ name ++ " is empty"⟩ else .ok (some value)
    else if "vault://".toList.isPrefixOf ref.toList then
      .error ⟨.valueError, "vault credential refs require a sidecar injector; use env:NAME"⟩
    else .error ⟨.valueError, "unsupported credential ref; use env:NAME"⟩

def auth_headers (token : Option String) : Headers :=
  [("Content-Type", "application/json"), ("Accept", "application/json, text/event-stream")] ++
    (token.map fun token => ("Authorization", "Bearer " ++ token)).toList

/-- `headers["Mcp-Session-Id"] = session_id` -/
def with_session (headers : Headers) (session_id : String) : Headers := headers ++ [("Mcp-Session-Id", session_id)]

def Host.wants_session (server : McpServerConfig) : Bool :=
  let mode := H.text.lower (if server.session_mode = "" then "auto" else server.session_mode)
  if mode = "always" then true
  else if mode = "never" then false
  else decide (server.transport ∈ ["streamable-http", "sse"])

/-! Capabilities. -/

mutual
/-- The value with its numbers as they are written. -/
def reprinted (reprint : List Char → List Char) : Json → Json
  | .atom literal => .atom (reprint literal)
  | .str codes => .str codes
  | .arr items => .arr (allReprinted reprint items)
  | .obj members => .obj (membersReprinted reprint members)
def allReprinted (reprint : List Char → List Char) : List Json → List Json
  | [] => []
  | v :: rest => reprinted reprint v :: allReprinted reprint rest
def membersReprinted (reprint : List Char → List Char) : List (List ℕ × Json) → List (List ℕ × Json)
  | [] => []
  | (key, v) :: rest => (key, reprinted reprint v) :: membersReprinted reprint rest
end

def Host.compute_capability_digest (capabilities : Json.Members) : String :=
  "sha256:" ++ H.sha256 (Json.dumps (reprinted H.reprint (.obj capabilities)))

/-- `d.get(key) if isinstance(d.get(key), dict) else {}` -/
def object (members : Json.Members) (key : String) : Json.Members :=
  match Json.get members key with
  | some (.obj inner) => inner
  | _ => []

/-- `str(d.get(key) or default)`, where it is not the default. -/
def Host.given (members : Json.Members) (key : String) : Option String :=
  ((Json.get members key).map H.value).bind fun v => if v.truthy then some (H.text.str v) else none

/-- `str(payload["error"])`, if there is one. -/
def Host.rpc_error (payload : Json.Members) : Option String :=
  (Json.get payload "error").map fun error => H.text.str (H.value error)

/-- `response.headers.get("mcp-session-id")`; an empty one counts as none. -/
def HttpResponse.session_header (response : HttpResponse) : Option String :=
  response.mcp_session_id.filter fun id => decide (id ≠ "")

/-! Requests. -/

def server_not_found (server_name : String) : Exc :=
  .httpException 404 "mcp_server_not_found" ("MCP server '" ++ server_name ++ "' is not registered") []

def Host.server (server_name : String) : Handler McpServerConfig :=
  lift ((H.get server_name).elim (.error (server_not_found server_name)) .ok)

def Host.credential (server : McpServerConfig) : Handler (Option String) :=
  lift (match H.resolve_credential server.credential_ref with
    | .ok token => .ok token
    | .error e => .error (.httpException 503 "mcp_credential_unavailable" e.text []))

/-- `response.raise_for_status()` -/
def Host.raise_for_status (response : HttpResponse) : Except Exc Unit :=
  if 200 ≤ response.status_code ∧ response.status_code < 300 then .ok ()
  else .error (.http (H.status_error response.status_code))

def Host.parse (response : HttpResponse) : Except Exc Json.Members :=
  match parse_mcp_response_body H.text (response.content_type.getD "") response.content with
  | .ok payload => .ok payload
  | .error e => .error (.value e.text)

def Host.post_rpc (url : String) (headers : Headers) (body : Rpc) (timeout : ℚ) :
    Handler (HttpResponse × Json.Members) := do
  let response ← call (.post url headers body timeout)
  lift (H.raise_for_status response)
  let payload ← lift (H.parse response)
  result (response, payload)

def Exc.isHttp : Exc → Bool
  | http _ => true
  | _ => false

/-- `except httpx.HTTPError`, which hands on the reason. -/
def upstream (code message : String) (details : List (String × String)) (body : Handler α) : Handler α :=
  catching Exc.isHttp body fun e => raise (match e with
    | .http reason => .httpException 502 code message (("reason", reason) :: details)
    | e => e)

/-- `except ValueError` -/
def readable (details : List (String × String)) (body : Handler α) : Handler α :=
  catching (fun e => match e with | .value _ => true | _ => false) body fun e => raise (match e with
    | .value message => .httpException 502 "mcp_invalid_response" message details
    | e => e)

def initialize_body (rpc_id runtime_version : String) : Rpc where
  id := some rpc_id
  method := "initialize"
  params := [(.str "protocolVersion", .str "2024-11-05"), (.str "capabilities", .dict [(.str "tools", .dict [])]),
    (.str "clientInfo", .dict [(.str "name", .str "ai-runtime-platform"), (.str "version", .str runtime_version)])]

/-- What the reply to `initialize` says. -/
structure Initialized where
  capabilities : Json.Members
  digest : String
  session_id : Option String
  protocol_version : String

/-- The checks of the reply: no error, and the digest of the configuration if it names one. -/
def Host.initialized (server : McpServerConfig) (response : HttpResponse) (payload : Json.Members) :
    Except Exc Initialized :=
  match H.rpc_error payload with
  | some error => .error (.httpException 502 "mcp_initialize_error" error [])
  | none =>
    let reply := object payload "result"
    let capabilities := object reply "capabilities"
    let digest := H.compute_capability_digest capabilities
    match server.capability_digest.filter fun pinned => decide (pinned ≠ "" ∧ pinned ≠ digest) with
    | some pinned => .error (.httpException 409 "mcp_capability_digest_mismatch"
        "MCP server capabilities do not match configured digest" [("expected", pinned), ("actual", digest)])
    | none => .ok ⟨capabilities, digest, response.session_header.or (H.given reply "sessionId"),
        (H.given reply "protocolVersion").getD "2024-11-05"⟩

/-- The id of the session, which the gateway makes itself when the server gives none. -/
def session_identity (url : String) : Option String → Handler String
  | some id => result id
  | none => call (.session_uuid4 url)

/-- `initialize_mcp_session`, when there is no session to go on with. -/
def Host.open_session (server_name : String) (server : McpServerConfig) : Handler Ref := do
  let token ← H.credential server
  let rpc_id ← call .uuid4
  let (response, payload) ← readable [] (upstream "mcp_upstream_unavailable" "MCP initialize failed" []
    (H.post_rpc server.endpoint (auth_headers token) (initialize_body rpc_id H.runtime_version) server.timeout_seconds))
  let reply ← lift (H.initialized server response payload)
  let id ← session_identity server.endpoint reply.session_id
  let session ← call (.new_session ⟨server_name, id, reply.protocol_version, reply.capabilities, reply.digest⟩)
  call (.put session)
  let id ← call (.session_id session)
  let _ ← attempt (α := HttpResponse) (call (.post server.endpoint (with_session (auth_headers token) id)
    ⟨none, "notifications/initialized", []⟩ (min 5 server.timeout_seconds))) >>= fun answer =>
      match answer with
      | .error (.http _) | .ok _ => result ()
      | .error e => raise e
  result session

def Host.initialize_mcp_session (server_name : String) (force : Bool) : Handler Ref := do
  let server ← H.server server_name
  let existing ← call (.session_get server_name)
  match existing, force with
  | some session, false => result session
  | _, _ => H.open_session server_name server

/-- The id of the session which the server has in the store. -/
def stored_session (server_name : String) : Handler (Option String) := do
  match ← call (.session_get server_name) with
  | none => result none
  | some session => do
    let id ← call (.session_id session)
    result (some id)

def Host.cancel_mcp_request (server_name request_id : String) : Handler Unit := do
  let server ← H.server server_name
  let token ← H.credential server
  let id ← stored_session server_name
  let headers := id.elim (auth_headers token) (with_session (auth_headers token))
  upstream "mcp_cancel_failed" "MCP cancellation failed" [] (do
    let response ← call (.post server.endpoint headers ⟨none, "notifications/cancelled",
      [(.str "requestId", .str request_id), (.str "reason", .str "client cancelled")]⟩ (min 5 server.timeout_seconds))
    when (decide (response.status_code ≥ 400) && id.isSome) (do
      let _ ← call (.delete server.endpoint headers (min 5 server.timeout_seconds))))

def tool_params (tool_name : String) (arguments : Entries) (progress_token : Option String) : Entries :=
  [(.str "name", .str tool_name), (.str "arguments", .dict arguments)] ++
    ((progress_token.filter fun token => decide (token ≠ "")).map fun token =>
      (.str "_meta", .dict [(.str "progressToken", .str token)])).toList

/-- What `execute_mcp_tool` returns. -/
structure ToolResult where
  server : String
  tool : String
  transport : String
  result : Json
  truncated : Bool
  credential_ref : Option String
  mcp_request_id : String
  session_id : Option String
  capability_digest : Option String
  response_content_type : Option String

/-- The session of the call, for the servers which want one. -/
def Host.tool_session (server_name : String) (server : McpServerConfig) : Handler (Option Ref) :=
  if H.wants_session server then do
    let session ← H.initialize_mcp_session server_name false
    result (some session)
  else result none

/-- The headers of the call, with the id which the session has now. -/
def session_headers (token : Option String) : Option Ref → Handler Headers
  | none => result (auth_headers token)
  | some session => do
    let id ← call (.session_id session)
    result (with_session (auth_headers token) id)

/-- The new id of a session which the server has rotated. -/
def rotate (session : Option Ref) (rotated : Option String) : Handler Unit :=
  match session, rotated with
  | some session, some id => do
    call (.set_session_id session id)
    call (.put session)
  | _, _ => result ()

/-- The session as the result names it. -/
def session_named : Option Ref → Handler (Option String × Option String)
  | none => result (none, none)
  | some session => do
    let id ← call (.session_id session)
    let digest ← call (.session_capability_digest session)
    result (some id, some digest)

def Host.execute_mcp_tool (server_name tool_name : String) (arguments : Entries) (progress_token : Option String) :
    Handler ToolResult := do
  let server ← H.server server_name
  if server.transport ∉ ["http", "streamable-http", "sse"] then
    raise (.httpException 501 "mcp_transport_unsupported"
      ("MCP transport '" ++ server.transport ++ "' is not supported") [])
  else do
    let token ← H.credential server
    let session ← H.tool_session server_name server
    let headers ← session_headers token session
    let rpc_id ← call .uuid4
    let request := [("mcp_request_id", rpc_id)]
    let (response, payload) ← readable request (upstream "mcp_upstream_unavailable" "MCP server unavailable" request
      (H.post_rpc server.endpoint headers ⟨some rpc_id, "tools/call", tool_params tool_name arguments progress_token⟩
        server.timeout_seconds))
    rotate session response.session_header
    match H.rpc_error payload with
    | some error => raise (.httpException 502 "mcp_tool_error" error request)
    | none => do
      let reply := reprinted H.reprint ((Json.get payload "result").getD (.obj payload))
      let (filtered, truncated) := truncate_result reply server.max_result_bytes
      let (session_id, capability_digest) ← session_named session
      result ⟨server_name, tool_name, server.transport, filtered, truncated, server.credential_ref, rpc_id, session_id,
        capability_digest, response.content_type⟩

/-- What a task can be: the endpoints which reach the servers. -/
inductive Request where
  | initialization (server_name : String)
  | cancel (server_name request_id : String)
  | call (server_name tool_name : String) (arguments : Entries) (progress_token : Option String)

def Host.serve : Request → Handler Unit
  | .initialization server_name => do
    let _ ← H.initialize_mcp_session server_name true
    result ()
  | .cancel server_name request_id => H.cancel_mcp_request server_name request_id
  | .call server_name tool_name arguments progress_token => do
    let _ ← H.execute_mcp_tool server_name tool_name arguments progress_token
    result ()

end RuntimePlatform.Mcp
