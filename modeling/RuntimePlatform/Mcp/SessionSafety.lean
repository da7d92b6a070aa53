import Mathlib.Logic.Function.Basic
import RuntimePlatform.Mcp.Sessions

/-!
What every request to an MCP server carries, however the tasks are interleaved and whatever the servers answer: the
credential of the configuration of a server at that URL, and no session id but one which a session of that server has
had. The sessions have passed the check of their capabilities, and their ids come from the replies in which they did, or
from later ones to calls of tools; where such a reply names none, the gateway has made the id itself.
-/

namespace RuntimePlatform.Mcp
open Python Coroutine Coroutine.Session

/-- What the URLs have replied to posts of each method, and which ids the gateway has made for sessions with them. -/
structure Traffic where
  replies : List (String × String × HttpResponse)
  made : List (String × String)

/-- The session objects, the store, which ids each object has had, and the traffic. -/
structure Shared where
  heap : List McpSession
  sessions : String → Option Ref
  ids : List (Ref × String)
  traffic : Traffic

def Shared.initial : Shared := ⟨[], fun _ => none, [], [], []⟩

def Traffic.reply (traffic : Traffic) (url method : String) (response : HttpResponse) : Traffic :=
  { traffic with replies := (url, method, response) :: traffic.replies }

def Traffic.make (traffic : Traffic) (url id : String) : Traffic := { traffic with made := (url, id) :: traffic.made }

/-- What a step with its answer does to the shared state, if it can have that answer there. -/
def exec : Exec Unit Shared Op Op.Ans := fun _ s op answer =>
  match op, answer with
  | .session_get server_name, .ok found => if s.sessions server_name = found then some s else none
  | .session_id session, .ok id => if (s.heap[session]?).map McpSession.session_id = some id then some s else none
  | .session_capability_digest session, .ok digest =>
    if (s.heap[session]?).map McpSession.capability_digest = some digest then some s else none
  | .new_session session, .ok ref =>
    if ref = s.heap.length then
      some { s with heap := s.heap ++ [session], ids := (ref, session.session_id) :: s.ids }
    else none
  | .put session, .ok _ => (s.heap[session]?).map fun object =>
      { s with sessions := Function.update s.sessions object.server_name (some session) }
  | .set_session_id session id, .ok _ =>
    some { s with
      heap := s.heap.modify session fun object => { object with session_id := id }
      ids := (session, id) :: s.ids }
  | .uuid4, .ok _ => some s
  | .session_uuid4 url, .ok id => some { s with traffic := s.traffic.make url id }
  | .post url _ body _, .ok response => some { s with traffic := s.traffic.reply url body.method response }
  | .delete _ _ _, .ok _ => some s
  | .post _ _ _ _, .error _ | .delete _ _ _, .error _ => some s
  | _, .error _ => none

/-- What a task has learned: the servers of session objects, ids which the objects have had, and its own traffic. -/
structure Learned where
  refs : List (Ref × String)
  ids : List (Ref × String)
  traffic : Traffic

def Learned.next (g : Learned) : (op : Op) → op.Ans → Learned
  | .session_get server_name, .ok (some session) => { g with refs := (session, server_name) :: g.refs }
  | .session_id session, .ok id => { g with ids := (session, id) :: g.ids }
  | .new_session session, .ok ref => { g with refs := (ref, session.server_name) :: g.refs }
  | .session_uuid4 url, .ok id => { g with traffic := g.traffic.make url id }
  | .post url _ body _, .ok response => { g with traffic := g.traffic.reply url body.method response }
  | _, _ => g

variable (H : Host)

/-- The session has passed the check of the capabilities which its server had when it was opened. -/
def Host.Pinned (session : McpSession) : Prop :=
  ∃ server, H.get session.server_name = some server ∧
    session.capability_digest = H.compute_capability_digest session.capabilities ∧
    ∀ pinned ∈ server.capability_digest, pinned ≠ "" → pinned = session.capability_digest

/-- The reply has been read. -/
structure Host.Reads (response : HttpResponse) (payload : Json.Members) : Prop where
  status : H.raise_for_status response = .ok ()
  parsed : H.parse response = .ok payload

/-- The URL of a server has given the id, in a reply to an initialisation which was accepted, or to a later call of a
tool; or the gateway has made it, after an accepted reply which names none. -/
inductive Host.Issued (server : McpServerConfig) (traffic : Traffic) (id : String) : Prop
  | opened {response : HttpResponse} {payload : Json.Members} {reply : Initialized}
      (replied : (server.endpoint, "initialize", response) ∈ traffic.replies) (reads : H.Reads response payload)
      (accepted : H.initialized server response payload = .ok reply) (named : reply.session_id = some id)
  | rotated {response : HttpResponse} {payload : Json.Members}
      (replied : (server.endpoint, "tools/call", response) ∈ traffic.replies) (reads : H.Reads response payload)
      (named : response.session_header = some id)
  | made {response : HttpResponse} {payload : Json.Members} {reply : Initialized}
      (replied : (server.endpoint, "initialize", response) ∈ traffic.replies) (reads : H.Reads response payload)
      (accepted : H.initialized server response payload = .ok reply) (unnamed : reply.session_id = none)
      (made : (server.endpoint, id) ∈ traffic.made)

/-- The headers of a request to a server: its own credential, and a session id of some kind, if any. -/
structure Host.Addressed (server : McpServerConfig) (Names : String → Prop) (url : String) (headers : Headers) :
    Prop where
  endpoint : url = server.endpoint
  credential : ∃ token, H.resolve_credential server.credential_ref = .ok token ∧
    headers.lookup "Authorization" = token.map fun token => "Bearer " ++ token
  session : ∀ id, headers.lookup "Mcp-Session-Id" = some id → Names id

/-- The id is one of a session object of the server, as far as the task knows. -/
def Learned.Names (g : Learned) (server_name id : String) : Prop :=
  ∃ session, (session, server_name) ∈ g.refs ∧ (session, id) ∈ g.ids

/-- What is owed for a step. -/
def Learned.Owes (g : Learned) : Op → Prop
  | .new_session session => H.Pinned session ∧ ∃ server, H.get session.server_name = some server ∧
      H.Issued server g.traffic session.session_id
  | .set_session_id session id => ∃ server_name server, (session, server_name) ∈ g.refs ∧
      H.get server_name = some server ∧ H.Issued server g.traffic id
  | .post url headers body _ => ∃ server_name server, H.get server_name = some server ∧
      H.Addressed server (g.Names server_name) url headers ∧
      (body.method = "tools/call" → H.wants_session server = true → (headers.lookup "Mcp-Session-Id").isSome = true)
  | .delete url headers _ => ∃ server_name server, H.get server_name = some server ∧
      H.Addressed server (g.Names server_name) url headers
  | _ => True

def sessionProtocol : Protocol Shared Op Op.Ans Learned where
  start := ⟨[], [], [], []⟩
  next _ := Learned.next
  known _ := True
  must := Learned.Owes H
  may _ _ _ _ := True

/-! The session objects and the store. -/

/-- The object is a session of the server. -/
def Shared.Is (s : Shared) (session : Ref) (server_name : String) : Prop :=
  ∃ object, s.heap[session]? = some object ∧ object.server_name = server_name

/-- Nothing of the traffic is missing in the other. -/
structure Traffic.Within (traffic traffic' : Traffic) : Prop where
  replies : ∀ entry ∈ traffic.replies, entry ∈ traffic'.replies
  made : ∀ entry ∈ traffic.made, entry ∈ traffic'.made

/-- Every session has passed its check; every id which it has had, the present one too, has been issued for its server;
and the store has the sessions of each server under its name. -/
structure Shared.Sound (s : Shared) : Prop where
  pinned : ∀ session ∈ s.heap, H.Pinned session
  owned : ∀ session id, (session, id) ∈ s.ids → ∃ server_name server, s.Is session server_name ∧
    H.get server_name = some server ∧ H.Issued server s.traffic id
  present : ∀ (session : Ref) (object : McpSession), s.heap[session]? = some object →
    (session, object.session_id) ∈ s.ids
  stored : ∀ server_name session, s.sessions server_name = some session → s.Is session server_name

/-- What the task has learned is so. -/
structure Shared.Confirms (s : Shared) (g : Learned) : Prop where
  refs : ∀ entry ∈ g.refs, s.Is entry.1 entry.2
  ids : ∀ entry ∈ g.ids, entry ∈ s.ids
  traffic : g.traffic.Within s.traffic

/-- Nothing which has been learned is lost. -/
structure Shared.Extends (s s' : Shared) : Prop where
  refs : ∀ session server_name, s.Is session server_name → s'.Is session server_name
  ids : ∀ entry ∈ s.ids, entry ∈ s'.ids
  traffic : s.traffic.Within s'.traffic

/-! Traffic. -/

namespace Traffic
variable {traffic traffic' traffic'' : Traffic}

theorem Within.refl (traffic : Traffic) : traffic.Within traffic := ⟨fun _ => id, fun _ => id⟩

theorem Within.trans (first : traffic.Within traffic') (second : traffic'.Within traffic'') :
    traffic.Within traffic'' :=
  ⟨fun entry member => second.replies entry (first.replies entry member),
    fun entry member => second.made entry (first.made entry member)⟩

theorem within_reply (traffic : Traffic) (url method : String) (response : HttpResponse) :
    traffic.Within (traffic.reply url method response) :=
  ⟨fun _ member => List.mem_cons_of_mem _ member, fun _ => id⟩

theorem within_make (traffic : Traffic) (url id : String) : traffic.Within (traffic.make url id) :=
  ⟨fun _ member => member, fun _ member => List.mem_cons_of_mem _ member⟩

theorem Within.reply (within : traffic.Within traffic') (url method : String) (response : HttpResponse) :
    (traffic.reply url method response).Within (traffic'.reply url method response) where
  replies entry member := by
    rcases List.mem_cons.mp member with rfl | old
    · exact List.mem_cons_self
    · exact List.mem_cons_of_mem _ (within.replies entry old)
  made := within.made

theorem Within.make (within : traffic.Within traffic') (url id : String) :
    (traffic.make url id).Within (traffic'.make url id) where
  replies := within.replies
  made entry member := by
    rcases List.mem_cons.mp member with rfl | old
    · exact List.mem_cons_self
    · exact List.mem_cons_of_mem _ (within.made entry old)

end Traffic

theorem Host.Issued.mono {H : Host} {server : McpServerConfig} {traffic traffic' : Traffic} {id : String}
    (issued : H.Issued server traffic id) (within : traffic.Within traffic') : H.Issued server traffic' id := by
  cases issued with
  | opened replied reads accepted named => exact .opened (within.replies _ replied) reads accepted named
  | rotated replied reads named => exact .rotated (within.replies _ replied) reads named
  | made replied reads accepted unnamed made =>
      exact .made (within.replies _ replied) reads accepted unnamed (within.made _ made)

namespace Shared
variable {H} {s s' : Shared} {g : Learned}

theorem Extends.refl (s : Shared) : s.Extends s := ⟨fun _ _ => id, fun _ => id, .refl _⟩

theorem Confirms.extend (confirms : s.Confirms g) (extends_ : s.Extends s') : s'.Confirms g :=
  ⟨fun entry member => extends_.refs _ _ (confirms.refs entry member),
    fun entry member => extends_.ids entry (confirms.ids entry member), confirms.traffic.trans extends_.traffic⟩

theorem sound_initial : (initial).Sound H :=
  ⟨fun _ bad => absurd bad List.not_mem_nil, fun _ _ bad => absurd bad List.not_mem_nil, fun _ _ bad => (nomatch bad),
    fun _ _ bad => (nomatch bad)⟩

/-! More traffic. -/

theorem extends_traffic {traffic : Traffic} (more : s.traffic.Within traffic) :
    s.Extends { s with traffic := traffic } := ⟨fun _ _ => id, fun _ => id, more⟩

theorem sound_traffic (sound : s.Sound H) {traffic : Traffic} (more : s.traffic.Within traffic) :
    Sound H { s with traffic := traffic } where
  pinned := sound.pinned
  owned session id had := by
    obtain ⟨server_name, server, here, registered, issued⟩ := sound.owned session id had
    exact ⟨server_name, server, here, registered, issued.mono more⟩
  present := sound.present
  stored := sound.stored

/-! A new session object. -/

/-- The state with one more session. -/
abbrev opened (s : Shared) (session : McpSession) : Shared :=
  { s with heap := s.heap ++ [session], ids := (s.heap.length, session.session_id) :: s.ids }

theorem is_new (s : Shared) (session : McpSession) : (s.opened session).Is s.heap.length session.server_name :=
  ⟨session, by rw [List.getElem?_append_right (le_refl _), Nat.sub_self]; rfl, rfl⟩

theorem extends_new (s : Shared) (session : McpSession) : s.Extends (s.opened session) where
  refs ref server_name known := by
    obtain ⟨object, found, named⟩ := known
    obtain ⟨inside, _⟩ := List.getElem?_eq_some_iff.mp found
    exact ⟨object, by rw [List.getElem?_append_left inside]; exact found, named⟩
  ids _ member := List.mem_cons_of_mem _ member
  traffic := .refl _

theorem sound_new (sound : s.Sound H) {session : McpSession} (pinned : H.Pinned session) {server : McpServerConfig}
    (registered : H.get session.server_name = some server) (issued : H.Issued server s.traffic session.session_id) :
    (s.opened session).Sound H where
  pinned other member := by
    rcases List.mem_append.mp member with old | new
    · exact sound.pinned other old
    · rw [List.mem_singleton.mp new]
      exact pinned
  owned ref id had := by
    rcases List.mem_cons.mp had with new | old
    · cases new
      exact ⟨session.server_name, server, is_new s session, registered, issued⟩
    · obtain ⟨server_name, server, here, known, given⟩ := sound.owned ref id old
      exact ⟨server_name, server, (extends_new s session).refs ref server_name here, known, given⟩
  present ref object found := by
    by_cases inside : ref < s.heap.length
    · rw [List.getElem?_append_left inside] at found
      exact List.mem_cons_of_mem _ (sound.present ref object found)
    · rw [List.getElem?_append_right (not_lt.mp inside), List.getElem?_singleton] at found
      split at found
      · next first =>
          cases found
          obtain rfl : ref = s.heap.length := Nat.le_antisymm (Nat.sub_eq_zero_iff_le.mp first) (not_lt.mp inside)
          exact List.mem_cons_self
      · cases found
  stored server_name ref found := (extends_new s session).refs ref server_name (sound.stored server_name ref found)

/-! A new id of a session object. -/

/-- The session with another id. -/
abbrev reidentified (id : String) (object : McpSession) : McpSession := { object with session_id := id }

/-- The state with another id of a session. -/
abbrev renamed (s : Shared) (session : Ref) (id : String) : Shared :=
  { s with heap := s.heap.modify session (reidentified id), ids := (session, id) :: s.ids }

theorem extends_set (s : Shared) (session : Ref) (id : String) : s.Extends (s.renamed session id) where
  refs ref server_name known := by
    obtain ⟨object, found, named⟩ := known
    refine ⟨if session = ref then reidentified id object else object, ?_, ?_⟩
    · simp only [List.getElem?_modify, found]
      split <;> rfl
    · split
      · exact named
      · exact named
  ids _ member := List.mem_cons_of_mem _ member
  traffic := .refl _

theorem sound_set (sound : s.Sound H) {session : Ref} {server_name id : String} (known : s.Is session server_name)
    {server : McpServerConfig} (registered : H.get server_name = some server)
    (issued : H.Issued server s.traffic id) : (s.renamed session id).Sound H where
  pinned object member := by
    obtain ⟨i, inside, here⟩ := List.mem_iff_getElem.mp member
    rw [List.getElem_modify] at here
    have old := sound.pinned _ (List.getElem_mem (List.length_modify _ _ _ ▸ inside))
    split at here
    · rw [← here]
      exact old
    · rw [← here]
      exact old
  owned ref other had := by
    rcases List.mem_cons.mp had with new | old
    · cases new
      exact ⟨server_name, server, (extends_set s session id).refs _ _ known, registered, issued⟩
    · obtain ⟨name, owner, here, listed, given⟩ := sound.owned ref other old
      exact ⟨name, owner, (extends_set s session id).refs _ _ here, listed, given⟩
  present ref object found := by
    rw [List.getElem?_modify] at found
    obtain ⟨old, before, rfl⟩ := Option.map_eq_some_iff.mp found
    split
    · next same =>
        cases same
        exact List.mem_cons_self
    · exact List.mem_cons_of_mem _ (sound.present ref old before)
  stored name ref found := (extends_set s session id).refs ref name (sound.stored name ref found)

/-! A session in the store. -/

theorem sound_put (sound : s.Sound H) {session : Ref} {object : McpSession} (found : s.heap[session]? = some object) :
    Sound H { s with sessions := Function.update s.sessions object.server_name (some session) } where
  pinned := sound.pinned
  owned := sound.owned
  present := sound.present
  stored server_name ref stored := by
    change Function.update s.sessions object.server_name (some session) server_name = some ref at stored
    by_cases same : server_name = object.server_name
    · rw [same, Function.update_self] at stored
      cases stored
      exact ⟨object, found, same.symm⟩
    · rw [Function.update_of_ne same] at stored
      exact sound.stored server_name ref stored

/-! One step. -/

/-- What a step of a task preserves, and what the task learns by it. -/
def Preserved (H : Host) (s s' : Shared) (g : Learned) : Prop := s'.Sound H ∧ s.Extends s' ∧ s'.Confirms g

theorem preserved_same (sound : s.Sound H) (confirms : s.Confirms g) : Preserved H s s g :=
  ⟨sound, .refl s, confirms⟩

theorem step_session_get (sound : s.Sound H) (confirms : s.Confirms g) {server_name : String} {found : Option Ref}
    (here : s.sessions server_name = found) :
    Preserved H s s (g.next (.session_get server_name) (.ok found)) := by
  cases found with
  | none => exact preserved_same sound confirms
  | some session =>
      refine ⟨sound, .refl s, fun entry member => ?_, confirms.ids, confirms.traffic⟩
      rcases List.mem_cons.mp member with rfl | old
      · exact sound.stored server_name session here
      · exact confirms.refs entry old

theorem step_session_id (sound : s.Sound H) (confirms : s.Confirms g) {session : Ref} {id : String}
    (read : (s.heap[session]?).map McpSession.session_id = some id) :
    Preserved H s s (g.next (.session_id session) (.ok id)) := by
  refine ⟨sound, .refl s, confirms.refs, fun entry member => ?_, confirms.traffic⟩
  rcases List.mem_cons.mp member with rfl | old
  · obtain ⟨object, found, rfl⟩ := Option.map_eq_some_iff.mp read
    exact sound.present session object found
  · exact confirms.ids entry old

theorem step_new_session (sound : s.Sound H) (confirms : s.Confirms g) {session : McpSession}
    (owed : g.Owes H (.new_session session)) :
    Preserved H s (s.opened session) (g.next (.new_session session) (.ok s.heap.length)) := by
  obtain ⟨pinned, server, registered, issued⟩ := owed
  have old := confirms.extend (extends_new s session)
  refine ⟨sound_new sound pinned registered (issued.mono confirms.traffic), extends_new s session,
    fun entry member => ?_, old.ids, old.traffic⟩
  rcases List.mem_cons.mp member with rfl | earlier
  · exact is_new s session
  · exact old.refs entry earlier

theorem step_set_session_id (sound : s.Sound H) (confirms : s.Confirms g) {session : Ref} {id : String}
    (owed : g.Owes H (.set_session_id session id)) : Preserved H s (s.renamed session id) g := by
  obtain ⟨server_name, server, known, registered, issued⟩ := owed
  have extended := extends_set s session id
  exact ⟨sound_set sound (confirms.refs _ known) registered (issued.mono confirms.traffic), extended,
    confirms.extend extended⟩

theorem step_traffic (sound : s.Sound H) (confirms : s.Confirms g) {traffic learned : Traffic}
    (more : s.traffic.Within traffic) (within : learned.Within traffic) :
    Preserved H s { s with traffic := traffic } { g with traffic := learned } :=
  ⟨sound_traffic sound more, extends_traffic more, confirms.refs, confirms.ids, within⟩

/-- So does every step which does what is owed. -/
theorem step_sound (sound : s.Sound H) (confirms : s.Confirms g) {op : Op} (owed : g.Owes H op) {answer : op.Ans}
    (done : exec () s op answer = some s') : Preserved H s s' (g.next op answer) := by
  cases op with
  | post url headers body timeout =>
      cases answer with
      | error e =>
          cases done
          exact preserved_same sound confirms
      | ok response =>
          cases done
          exact step_traffic sound confirms (s.traffic.within_reply url body.method response)
            (confirms.traffic.reply url body.method response)
  | delete url headers timeout =>
      cases answer with
      | error e =>
          cases done
          exact preserved_same sound confirms
      | ok response =>
          cases done
          exact preserved_same sound confirms
  | session_get server_name =>
      cases answer with
      | error e => cases done
      | ok found =>
          simp only [exec, Option.ite_none_right_eq_some, Option.some.injEq] at done
          obtain ⟨here, rfl⟩ := done
          exact step_session_get sound confirms here
  | session_id session =>
      cases answer with
      | error e => cases done
      | ok id =>
          simp only [exec, Option.ite_none_right_eq_some, Option.some.injEq] at done
          obtain ⟨read, rfl⟩ := done
          exact step_session_id sound confirms read
  | session_capability_digest session =>
      cases answer with
      | error e => cases done
      | ok digest =>
          simp only [exec, Option.ite_none_right_eq_some, Option.some.injEq] at done
          obtain ⟨_, rfl⟩ := done
          exact preserved_same sound confirms
  | new_session session =>
      cases answer with
      | error e => cases done
      | ok ref =>
          simp only [exec, Option.ite_none_right_eq_some, Option.some.injEq] at done
          obtain ⟨rfl, rfl⟩ := done
          exact step_new_session sound confirms owed
  | put session =>
      cases answer with
      | error e => cases done
      | ok _ =>
          obtain ⟨object, found, rfl⟩ := Option.map_eq_some_iff.mp done
          exact ⟨sound_put sound found, ⟨fun _ _ => id, fun _ => id, .refl _⟩,
            ⟨confirms.refs, confirms.ids, confirms.traffic⟩⟩
  | set_session_id session id =>
      cases answer with
      | error e => cases done
      | ok _ =>
          cases done
          exact step_set_session_id sound confirms owed
  | uuid4 =>
      cases answer with
      | error e => cases done
      | ok id =>
          cases done
          exact preserved_same sound confirms
  | session_uuid4 url =>
      cases answer with
      | error e => cases done
      | ok id =>
          cases done
          exact step_traffic sound confirms (s.traffic.within_make url id) (confirms.traffic.make url id)

end Shared

namespace Sessions
variable {H : Host} {α β : Type} {g : Learned}

/-- The task keeps to what it owes, and `Q` holds when it returns. -/
abbrev Ensures (H : Host) (m : Handler α) (g : Learned) (Q : α → Learned → Prop) : Prop :=
  m.Meets (sessionProtocol H) () g (Gives fun a _ g => Q a g)

theorem ensures_bind {m : Handler α} {f : α → Handler β} {Q : α → Learned → Prop} {R : β → Learned → Prop}
    (first : Ensures H m g Q) (second : ∀ a g', Q a g' → Ensures H (f a) g' R) : Ensures H (m >>= f) g R :=
  gives_bind first fun a _ g' known => second a g' known

theorem ensures_lift {x : Except Exc α} {Q : α → Learned → Prop} (ok : ∀ a, x = .ok a → Q a g) :
    Ensures H (lift x) g Q := by
  apply meets_lift.mpr
  cases x with
  | ok a => exact ok a rfl
  | error e => trivial

theorem ensures_call (op : Op) {Q : op.Res → Learned → Prop} (owed : g.Owes H op)
    (returned : ∀ a, Q a (g.next op (.ok a))) : Ensures H (call op) g Q := by
  apply meets_perform.mpr
  refine ⟨owed, fun _ answer _ _ => ?_⟩
  cases answer with
  | ok a => exact returned a
  | error e => trivial

/-- An exception handler which raises again. -/
theorem ensures_catching {test : Exc → Bool} {body : Handler α} {error : Exc → Exc} {Q : α → Learned → Prop}
    (first : Ensures H body g Q) : Ensures H (catching test body fun e => raise (error e)) g Q :=
  gives_catching first (fun _ _ => trivial : ∀ (_ : Unit) (_ : Learned), True) fun _ => raises_raise

theorem ensures_server (server_name : String) :
    Ensures H (H.server server_name) g fun server g' => H.get server_name = some server ∧ g' = g := by
  apply ensures_lift
  intro server found
  cases registered : H.get server_name with
  | none =>
      rw [registered] at found
      cases found
  | some known =>
      rw [registered] at found
      cases found
      exact ⟨rfl, rfl⟩

theorem ensures_credential (server : McpServerConfig) :
    Ensures H (H.credential server) g fun token g' => H.resolve_credential server.credential_ref = .ok token ∧ g' = g := by
  apply ensures_lift
  intro token found
  cases resolved : H.resolve_credential server.credential_ref with
  | error e =>
      rw [resolved] at found
      cases found
  | ok known =>
      rw [resolved] at found
      cases found
      exact ⟨rfl, rfl⟩

/-! Headers. -/

theorem lookup_auth_headers (token : Option String) :
    (auth_headers token).lookup "Authorization" = token.map (fun token => "Bearer " ++ token) ∧
      (auth_headers token).lookup "Mcp-Session-Id" = none := by
  cases token with
  | none => exact ⟨rfl, rfl⟩
  | some token => exact ⟨rfl, rfl⟩

theorem lookup_with_session (token : Option String) (id : String) :
    (with_session (auth_headers token) id).lookup "Authorization" = token.map (fun token => "Bearer " ++ token) ∧
      (with_session (auth_headers token) id).lookup "Mcp-Session-Id" = some id := by
  cases token with
  | none => exact ⟨rfl, rfl⟩
  | some token => exact ⟨rfl, rfl⟩

variable {server : McpServerConfig} {token : Option String} {Names : String → Prop}

theorem addressed_auth (resolved : H.resolve_credential server.credential_ref = .ok token) :
    H.Addressed server Names server.endpoint (auth_headers token) where
  endpoint := rfl
  credential := ⟨token, resolved, (lookup_auth_headers token).1⟩
  session id carried := by
    rw [(lookup_auth_headers token).2] at carried
    cases carried

theorem addressed_session (resolved : H.resolve_credential server.credential_ref = .ok token) {id : String}
    (named : Names id) : H.Addressed server Names server.endpoint (with_session (auth_headers token) id) where
  endpoint := rfl
  credential := ⟨token, resolved, (lookup_with_session token id).1⟩
  session other carried := by
    rw [(lookup_with_session token id).2] at carried
    cases carried
    exact named

/-! A request with its reply. -/

/-- The task has read the reply of the URL to a post of this method. -/
def Answered (H : Host) (url method : String) (g : Learned) (reply : HttpResponse × Json.Members) (g' : Learned) :
    Prop :=
  H.Reads reply.1 reply.2 ∧ g' = { g with traffic := g.traffic.reply url method reply.1 }

theorem ensures_post_rpc {url : String} {headers : Headers} {body : Rpc} {timeout : ℚ}
    (owed : g.Owes H (.post url headers body timeout)) :
    Ensures H (H.post_rpc url headers body timeout) g (Answered H url body.method g) := by
  apply ensures_bind (ensures_call (.post url headers body timeout) owed fun response => rfl :
    Ensures H _ g fun response g' => g' = { g with traffic := g.traffic.reply url body.method response })
  rintro response _ rfl
  apply ensures_bind (ensures_lift fun _ status => ⟨status, rfl⟩ :
    Ensures H (lift (H.raise_for_status response)) _ fun _ g' => H.raise_for_status response = .ok () ∧
      g' = { g with traffic := g.traffic.reply url body.method response })
  rintro _ _ ⟨status, rfl⟩
  apply ensures_bind (ensures_lift fun payload parsed => ⟨parsed, rfl⟩ :
    Ensures H (lift (H.parse response)) _ fun payload g' => H.parse response = .ok payload ∧
      g' = { g with traffic := g.traffic.reply url body.method response })
  rintro payload _ ⟨parsed, rfl⟩
  exact ⟨⟨status, parsed⟩, rfl⟩

/-- What the checks of the reply to `initialize` let through. -/
theorem initialized_ok {response : HttpResponse} {payload : Json.Members} {reply : Initialized}
    (checked : H.initialized server response payload = .ok reply) :
    reply.digest = H.compute_capability_digest reply.capabilities ∧
      ∀ pinned ∈ server.capability_digest, pinned ≠ "" → pinned = reply.digest := by
  unfold Host.initialized at checked
  cases failed : H.rpc_error payload with
  | some error =>
      rw [failed] at checked
      cases checked
  | none =>
      rw [failed] at checked
      dsimp only at checked
      split at checked
      · cases checked
      · next fits =>
          cases checked
          refine ⟨rfl, fun pinned named given => ?_⟩
          rw [Option.filter_eq_none_iff] at fits
          have matched := fits pinned named
          simp only [decide_eq_true_eq, not_and, not_not] at matched
          exact matched given

/-! The tasks. -/

/-- The id which a session of a server has now is one which it has had. -/
theorem ensures_session_id {session : Ref} {server_name : String} (known : (session, server_name) ∈ g.refs) :
    Ensures H (call (.session_id session)) g fun id g' =>
      (session, id) ∈ g'.ids ∧ (session, server_name) ∈ g'.refs := by
  apply ensures_call (.session_id session) trivial
  intro id
  exact ⟨List.mem_cons_self, known⟩

/-- The id of a new session is one which has been issued, by the URL or by the gateway. -/
theorem ensures_session_identity {response : HttpResponse} {payload : Json.Members} {reply : Initialized}
    (replied : (server.endpoint, "initialize", response) ∈ g.traffic.replies) (reads : H.Reads response payload)
    (accepted : H.initialized server response payload = .ok reply) :
    Ensures H (session_identity server.endpoint reply.session_id) g fun id g' => H.Issued server g'.traffic id := by
  unfold session_identity
  cases named : reply.session_id with
  | none =>
      apply ensures_call (.session_uuid4 server.endpoint) trivial
      intro id
      exact .made replied reads accepted named List.mem_cons_self
  | some id => exact .opened replied reads accepted named

theorem ensures_open_session {server_name : String} (registered : H.get server_name = some server) :
    Ensures H (H.open_session server_name server) g fun session g' => (session, server_name) ∈ g'.refs := by
  apply ensures_bind (ensures_credential server)
  rintro token g ⟨resolved, rfl⟩
  apply ensures_bind (ensures_call .uuid4 trivial fun _ => rfl : Ensures H (call .uuid4) g fun _ g' => g' = g)
  rintro rpc_id g rfl
  have owed : g.Owes H (.post server.endpoint (auth_headers token) (initialize_body rpc_id H.runtime_version)
      server.timeout_seconds) :=
    ⟨server_name, server, registered, addressed_auth resolved, fun tool => absurd tool (by simp [initialize_body])⟩
  apply ensures_bind (ensures_catching (ensures_catching (ensures_post_rpc owed)))
  rintro ⟨response, payload⟩ g₁ ⟨reads, learned⟩
  apply ensures_bind (ensures_lift fun reply checked => ⟨checked, rfl⟩ :
    Ensures H (lift (H.initialized server response payload)) g₁ fun reply g' =>
      H.initialized server response payload = .ok reply ∧ g' = g₁)
  rintro reply g₁ ⟨checked, rfl⟩
  obtain ⟨digest, pinned⟩ := initialized_ok checked
  have replied : (server.endpoint, "initialize", response) ∈ g₁.traffic.replies := learned ▸ List.mem_cons_self
  apply ensures_bind (ensures_session_identity replied reads checked)
  · intro id g₂ issued
    apply ensures_bind (ensures_call (.new_session _) ⟨⟨server, registered, digest, pinned⟩, server, registered, issued⟩
      fun _ => List.mem_cons_self : Ensures H _ g₂ fun session g' => (session, server_name) ∈ g'.refs)
    intro session g₃ known
    apply ensures_bind (ensures_call (.put session) trivial fun _ => known :
      Ensures H _ g₃ fun _ g' => (session, server_name) ∈ g'.refs)
    intro _ g₄ known
    apply ensures_bind (ensures_session_id known)
    rintro current g₅ ⟨had, known⟩
    apply ensures_bind (Q := fun _ g' => (session, server_name) ∈ g'.refs)
    · apply meets_bind.mpr
      apply meets_attempt.mpr
      apply meets_perform.mpr
      refine ⟨⟨server_name, server, registered, addressed_session resolved ⟨session, known, had⟩,
        fun tool => absurd tool (by decide)⟩,
        fun _ answer _ _ => ?_⟩
      cases answer with
      | ok response => exact known
      | error e =>
          cases e with
          | http reason => exact known
          | _ => trivial
    · intro _ g₆ known
      exact known

theorem ensures_initialized (server_name : String) (force : Bool) :
    Ensures H (H.initialize_mcp_session server_name force) g fun session g' => (session, server_name) ∈ g'.refs := by
  apply ensures_bind (ensures_server server_name)
  rintro server g ⟨registered, rfl⟩
  apply ensures_bind (Q := fun existing g' => ∀ session, existing = some session → (session, server_name) ∈ g'.refs)
  · apply ensures_call (.session_get server_name) trivial
    intro existing session found
    cases found
    exact List.mem_cons_self
  · intro existing g known
    cases existing with
    | none => exact ensures_open_session registered
    | some session =>
        cases force with
        | true => exact ensures_open_session registered
        | false => exact known session rfl

theorem ensures_stored_session (server_name : String) :
    Ensures H (stored_session server_name) g fun id g' => ∀ stored, id = some stored → g'.Names server_name stored := by
  apply ensures_bind (Q := fun existing g' => ∀ session, existing = some session → (session, server_name) ∈ g'.refs)
  · apply ensures_call (.session_get server_name) trivial
    intro existing session found
    cases found
    exact List.mem_cons_self
  · intro existing g known
    cases existing with
    | none => exact fun stored bad => (nomatch bad)
    | some session =>
        apply ensures_bind (ensures_session_id (known session rfl))
        rintro id g ⟨had, known⟩ stored same
        cases same
        exact ⟨session, known, had⟩

theorem ensures_cancel (server_name request_id : String) :
    Ensures H (H.cancel_mcp_request server_name request_id) g fun _ _ => True := by
  apply ensures_bind (ensures_server server_name)
  rintro server g ⟨registered, rfl⟩
  apply ensures_bind (ensures_credential server)
  rintro token g ⟨resolved, rfl⟩
  apply ensures_bind (ensures_stored_session server_name)
  intro id g names
  have addressed : H.Addressed server (g.Names server_name) server.endpoint
      (id.elim (auth_headers token) (with_session (auth_headers token))) := by
    cases id with
    | none => exact addressed_auth resolved
    | some stored => exact addressed_session resolved (names stored rfl)
  apply ensures_catching
  apply ensures_bind (ensures_call (.post _ _ _ _)
    ⟨server_name, server, registered, addressed, fun tool => absurd tool (by simp)⟩ fun _ => ⟨rfl, rfl⟩ :
    Ensures H _ g fun _ g' => g'.refs = g.refs ∧ g'.ids = g.ids)
  rintro response g' ⟨refs, ids⟩
  have same : g'.Names server_name = g.Names server_name := by
    unfold Learned.Names
    rw [refs, ids]
  apply meets_when.mpr
  split
  · apply ensures_bind (ensures_call (.delete _ _ _) ⟨server_name, server, registered, same ▸ addressed⟩
      fun _ => trivial : Ensures H _ g' fun _ _ => True)
    intro _ _ _
    trivial
  · trivial

/-- The call holds a session of the server if it wants one. -/
def Holds (H : Host) (server_name : String) (server : McpServerConfig) (session : Option Ref) (g : Learned) : Prop :=
  (H.wants_session server = true → session.isSome = true) ∧ ∀ ref, session = some ref → (ref, server_name) ∈ g.refs

theorem ensures_tool_session (server_name : String) :
    Ensures H (H.tool_session server_name server) g (Holds H server_name server) := by
  unfold Host.tool_session
  split
  · apply ensures_bind (ensures_initialized server_name false)
    intro session g known
    refine ⟨fun _ => rfl, fun ref same => ?_⟩
    cases same
    exact known
  · next unwanted => exact ⟨fun wanted => absurd wanted unwanted, fun _ bad => (nomatch bad)⟩

/-- The headers of a call, and the session which they name. -/
theorem ensures_session_headers {server_name : String} {session : Option Ref}
    (resolved : H.resolve_credential server.credential_ref = .ok token)
    (holds : Holds H server_name server session g) :
    Ensures H (session_headers token session) g fun headers g' => Holds H server_name server session g' ∧
      H.Addressed server (g'.Names server_name) server.endpoint headers ∧
      (session.isSome = true → (headers.lookup "Mcp-Session-Id").isSome = true) := by
  unfold session_headers
  cases session with
  | none => exact ⟨holds, addressed_auth resolved, fun bad => absurd bad Bool.false_ne_true⟩
  | some session =>
      apply ensures_bind (ensures_session_id (holds.2 session rfl))
      rintro id g ⟨had, known⟩
      refine ⟨⟨holds.1, fun ref same => ?_⟩, addressed_session resolved ⟨session, known, had⟩, fun _ => ?_⟩
      · cases same
        exact known
      · rw [(lookup_with_session token id).2]
        rfl

theorem ensures_rotate {server_name : String} {session : Option Ref} {rotated : Option String}
    (registered : H.get server_name = some server) (holds : Holds H server_name server session g)
    (issued : ∀ id, rotated = some id → H.Issued server g.traffic id) :
    Ensures H (rotate session rotated) g fun _ _ => True := by
  unfold rotate
  cases session with
  | none => trivial
  | some session =>
      cases rotated with
      | none => trivial
      | some id =>
          apply ensures_bind (ensures_call (.set_session_id session id)
            ⟨server_name, server, holds.2 session rfl, registered, issued id rfl⟩ fun _ => trivial :
            Ensures H _ g fun _ _ => True)
          intro _ g _
          exact ensures_call (.put session) trivial fun _ => trivial

theorem ensures_session_named (session : Option Ref) : Ensures H (session_named session) g fun _ _ => True := by
  unfold session_named
  cases session with
  | none => trivial
  | some session =>
      apply ensures_bind (ensures_call (.session_id session) trivial fun _ => trivial : Ensures H _ g fun _ _ => True)
      intro id g _
      apply ensures_bind (ensures_call (.session_capability_digest session) trivial fun _ => trivial :
        Ensures H _ g fun _ _ => True)
      intro digest g _
      trivial

theorem ensures_execute (server_name tool_name : String) (arguments : Entries) (progress_token : Option String) :
    Ensures H (H.execute_mcp_tool server_name tool_name arguments progress_token) g fun _ _ => True := by
  apply ensures_bind (ensures_server server_name)
  rintro server g ⟨registered, rfl⟩
  split
  · trivial
  · apply ensures_bind (ensures_credential server)
    rintro token g ⟨resolved, rfl⟩
    apply ensures_bind (ensures_tool_session server_name)
    intro session g holds
    apply ensures_bind (ensures_session_headers resolved holds)
    rintro headers g ⟨holds, addressed, carries⟩
    apply ensures_bind (ensures_call .uuid4 trivial fun _ => rfl : Ensures H (call .uuid4) g fun _ g' => g' = g)
    rintro rpc_id g rfl
    have owed : g.Owes H (.post server.endpoint headers ⟨some rpc_id, "tools/call",
        tool_params tool_name arguments progress_token⟩ server.timeout_seconds) :=
      ⟨server_name, server, registered, addressed, fun _ wanted => carries (holds.1 wanted)⟩
    apply ensures_bind (ensures_catching (ensures_catching (ensures_post_rpc owed)))
    rintro ⟨response, payload⟩ g' ⟨reads, rfl⟩
    have held : Holds H server_name server session
        { g with traffic := g.traffic.reply server.endpoint "tools/call" response } := ⟨holds.1, holds.2⟩
    apply ensures_bind (ensures_rotate registered held fun id header => .rotated List.mem_cons_self reads header)
    intro _ g' _
    cases H.rpc_error payload with
    | some error => trivial
    | none =>
        apply ensures_bind (ensures_session_named session)
        intro named g' _
        trivial

theorem ensures_serve (request : Request) : Ensures H (H.serve request) g fun _ _ => True := by
  cases request with
  | initialization server_name =>
      apply ensures_bind (ensures_initialized server_name true)
      intro _ _ _
      trivial
  | cancel server_name request_id => exact ensures_cancel server_name request_id
  | call server_name tool_name arguments progress_token =>
      apply ensures_bind (ensures_execute server_name tool_name arguments progress_token)
      intro _ _ _
      trivial

end Sessions

/-! All tasks together. -/

/-- The tasks of a gateway. -/
def Host.tasks (program : Prog Op Op.Ans (Except Exc Unit × Unit)) : Prop := ∃ request, program = H.serve request ()

abbrev SessionPool := Pool Shared Op Op.Ans (Except Exc Unit × Unit) Learned

/-- What is true of the shared state and of every task which uses it. -/
def Linked (s : Shared) (gs : List Learned) : Prop := s.Sound H ∧ ∀ g ∈ gs, s.Confirms g

variable {H}

theorem linked_step {s s' : Shared} {before after : List Learned} {g : Learned} {op : Op} {answer : op.Ans}
    (owed : g.Owes H op) (done : exec () s op answer = some s') (linked : Linked H s (before ++ g :: after)) :
    Linked H s' (before ++ g.next op answer :: after) := by
  obtain ⟨sound, confirms⟩ := linked
  obtain ⟨sound', extends_, learned⟩ := Shared.step_sound sound
    (confirms g (List.mem_append_right _ List.mem_cons_self)) owed done
  refine ⟨sound', fun other member => ?_⟩
  rcases List.mem_append.mp member with old | here
  · exact (confirms other (List.mem_append_left _ old)).extend extends_
  · rcases List.mem_cons.mp here with rfl | old
    · exact learned
    · exact (confirms other (List.mem_append_right _ (List.mem_cons_of_mem _ old))).extend extends_

theorem linked_fresh (s : Shared) (gs : List Learned) (linked : Linked H s gs) :
    Linked H s (gs ++ [(sessionProtocol H).start]) := by
  refine ⟨linked.1, fun g member => ?_⟩
  rcases List.mem_append.mp member with old | new
  · exact linked.2 g old
  · rw [List.mem_singleton.mp new]
    exact ⟨fun _ bad => absurd bad List.not_mem_nil, fun _ bad => absurd bad List.not_mem_nil,
      fun _ bad => absurd bad List.not_mem_nil, fun _ bad => absurd bad List.not_mem_nil⟩

theorem tasks_safe (program : Prog Op Op.Ans (Except Exc Unit × Unit)) (task : H.tasks program) :
    Safe (sessionProtocol H) program (sessionProtocol H).start fun _ _ => True := by
  obtain ⟨request, rfl⟩ := task
  exact Safe.mono (Sessions.ensures_serve request) fun _ _ _ => trivial

theorem pool_linked {p : SessionPool} (reached : Reach exec (sessionProtocol H) H.tasks .initial p) :
    Linked H p.shared (p.tasks.map Task.history) ∧
      ∀ t ∈ p.tasks, Safe (sessionProtocol H) t.todo t.history fun _ _ => True := by
  have stable : Stable exec (sessionProtocol H) := fun _ _ _ _ _ _ _ _ _ _ => trivial
  refine ⟨reached.linked (J := Linked H) trivial stable tasks_safe ?_ linked_fresh ?_,
    (reached.safe trivial stable tasks_safe).2⟩
  · exact ⟨Shared.sound_initial, fun _ bad => absurd bad List.not_mem_nil⟩
  · intro _ _ _ _ _ _ _ _ _ owed _ done linked
    exact linked_step owed done linked

variable (H)

/-- The id is one which a session of the server has had, and has been issued for it; the capabilities of the session have
been checked. -/
def Host.SessionId (s : Shared) (server_name : String) (server : McpServerConfig) (id : String) : Prop :=
  ∃ (ref : Ref) (session : McpSession), s.heap[ref]? = some session ∧ session.server_name = server_name ∧
    H.Pinned session ∧ (ref, id) ∈ s.ids ∧ H.Issued server s.traffic id

/-- A request to a server of the registry, with its own credential and no session id but one of its sessions; a tool is
called at a server which wants a session only with one. -/
def Host.SoundRequest (s : Shared) (url : String) (headers : Headers) (method : Option String) : Prop :=
  ∃ server_name server, H.get server_name = some server ∧
    H.Addressed server (H.SessionId s server_name server) url headers ∧
    (method = some "tools/call" → H.wants_session server = true → (headers.lookup "Mcp-Session-Id").isSome = true)

/-- Where a step goes to, with which headers and which method. -/
def Op.request : Op → Option (String × Headers × Option String)
  | post url headers body _ => some (url, headers, some body.method)
  | delete url headers _ => some (url, headers, none)
  | _ => none

/-- However the tasks are interleaved and whatever the servers answer, every request which a task is about to make is
a sound one. -/
theorem requests_sound {p : SessionPool} (reached : Reach exec (sessionProtocol H) H.tasks .initial p)
    {op : Op} {k : op.Ans → Prog Op Op.Ans (Except Exc Unit × Unit)} {g : Learned}
    (member : ⟨.call op k, g⟩ ∈ p.tasks) {url : String} {headers : Headers} {method : Option String}
    (request : op.request = some (url, headers, method)) : H.SoundRequest p.shared url headers method := by
  obtain ⟨⟨sound, confirms⟩, safe⟩ := pool_linked reached
  have learned := confirms g (List.mem_map_of_mem member)
  have owed : g.Owes H op := (safe _ member).1
  have names : ∀ {server_name server id}, H.get server_name = some server → g.Names server_name id →
      H.SessionId p.shared server_name server id := by
    rintro server_name server id registered ⟨ref, known, had⟩
    obtain ⟨session, found, named⟩ := learned.refs _ known
    obtain ⟨name, owner, ⟨object, found', named'⟩, registered', issued⟩ := sound.owned ref id (learned.ids _ had)
    cases found.symm.trans found'
    rw [← named', named, registered] at registered'
    cases registered'
    exact ⟨ref, session, found, named, sound.pinned session (List.mem_of_getElem? found), learned.ids _ had, issued⟩
  cases op with
  | post url' headers' body timeout =>
      cases request
      obtain ⟨server_name, server, registered, addressed, tool⟩ := owed
      exact ⟨server_name, server, registered, ⟨addressed.endpoint, addressed.credential, fun id carried =>
        names registered (addressed.session id carried)⟩, fun called => tool (Option.some.inj called)⟩
  | delete url' headers' timeout =>
      cases request
      obtain ⟨server_name, server, registered, addressed⟩ := owed
      exact ⟨server_name, server, registered, ⟨addressed.endpoint, addressed.credential, fun id carried =>
        names registered (addressed.session id carried)⟩, fun called => (nomatch called)⟩
  | _ => cases request

/-- Every session in the store is one of the server it is stored under, with an id which has been issued for it, and has
passed the check of its capabilities. -/
theorem stored_sessions_sound {p : SessionPool} (reached : Reach exec (sessionProtocol H) H.tasks .initial p)
    {server_name : String} {ref : Ref} (stored : p.shared.sessions server_name = some ref) :
    ∃ session server, p.shared.heap[ref]? = some session ∧ session.server_name = server_name ∧ H.Pinned session ∧
      H.get server_name = some server ∧ H.Issued server p.shared.traffic session.session_id := by
  obtain ⟨⟨sound, _⟩, _⟩ := pool_linked reached
  obtain ⟨session, found, named⟩ := sound.stored server_name ref stored
  obtain ⟨name, server, ⟨object, found', named'⟩, registered, issued⟩ :=
    sound.owned ref session.session_id (sound.present ref session found)
  cases found.symm.trans found'
  rw [← named', named] at registered
  exact ⟨session, server, found, named, sound.pinned session (List.mem_of_getElem? found), registered, issued⟩

/-! A server which wants sessions. -/

def docsServer : McpServerConfig :=
  ⟨"http://mcp-docs.test/mcp/", "streamable-http", some "env:MCP_DOCS_TOKEN", 30, 1048576, "auto", none⟩

def docsHost : Host where
  text := asciiText
  getenv name := if name = "MCP_DOCS_TOKEN" then some "secret-token" else none
  servers := [("docs", docsServer)]
  sha256 := String.ofList
  value _ := .none
  reprint literal := literal
  status_error _ := ""
  runtime_version := "0"

/-- The server gives the session an id. -/
def docsAnswers : (op : Op) → op.Ans
  | .session_get _ => .ok none
  | .session_id _ => .ok "sess-1"
  | .session_capability_digest _ | .uuid4 | .session_uuid4 _ => .ok ""
  | .new_session _ => .ok 0
  | .put _ | .set_session_id _ _ => .ok ()
  | .post _ _ _ _ | .delete _ _ _ =>
    .ok ⟨200, some "application/json", some "sess-1", Utf8.encode [Json.openBrace, Json.closeBrace]⟩

instance (s : Shared) (g : Learned) (op : Op) (answer : op.Ans) :
    Decidable ((sessionProtocol docsHost).may s g op answer) := .isTrue trivial

/-- The steps of a call of one tool. -/
def docsTrace : List (Prog.Event Op Op.Ans) := ((docsHost.serve (.call "docs" "search" [] none) ()).play docsAnswers).1

/-- The request of these which calls the tool. -/
def docsCall : Op := .post "http://mcp-docs.test/mcp" (with_session (auth_headers (some "secret-token")) "sess-1")
  ⟨some "", "tools/call", tool_params "search" [] none⟩ 30

/-- The ids of the session after the steps before it, and the store. -/
def docsOpened : Option (List (Ref × String) × Option Ref) :=
  (drive exec (sessionProtocol docsHost) () .initial (sessionProtocol docsHost).start (docsTrace.take 9)).map
    fun r => (r.1.ids, r.1.sessions "docs")

theorem docs_opened : ∃ (p : SessionPool) (k : docsCall.Ans → Prog Op Op.Ans (Except Exc Unit × Unit)) (g : Learned),
    Reach exec (sessionProtocol docsHost) docsHost.tasks .initial p ∧ ⟨.call docsCall k, g⟩ ∈ p.tasks ∧
      p.shared.sessions "docs" = some 0 := by
  have split : docsTrace = docsTrace.take 9 ++ ⟨docsCall, docsAnswers docsCall⟩ :: docsTrace.drop 10 := by rfl
  have outcome : docsOpened = some ([(0, "sess-1")], some 0) := by decide +kernel
  obtain ⟨⟨s, g⟩, driven, same⟩ := Option.map_eq_some_iff.mp outcome
  have run : (docsHost.serve (.call "docs" "search" [] none) ()).Run docsTrace _ := Prog.run_play docsAnswers _
  rw [split] at run
  have started : docsHost.tasks (docsHost.serve (.call "docs" "search" [] none) ()) := ⟨_, rfl⟩
  obtain ⟨k, reached⟩ := Reach.paused [] [] run driven (Reach.init.step (.start started))
  exact ⟨_, k, g, reached, List.mem_cons_self, (Prod.mk.inj same).2⟩

theorem requests_sound_docs : ∃ p : SessionPool, docsHost.SoundRequest p.shared "http://mcp-docs.test/mcp"
    (with_session (auth_headers (some "secret-token")) "sess-1") (some "tools/call") := by
  obtain ⟨p, k, g, reached, member, _⟩ := docs_opened
  exact ⟨p, requests_sound docsHost reached member rfl⟩

theorem stored_sessions_sound_docs : ∃ (p : SessionPool) (session : McpSession) (server : McpServerConfig),
    p.shared.heap[0]? = some session ∧ docsHost.Pinned session ∧ docsHost.get "docs" = some server ∧
      docsHost.Issued server p.shared.traffic session.session_id := by
  obtain ⟨p, k, g, reached, _, stored⟩ := docs_opened
  obtain ⟨session, server, found, _, pinned, registered, issued⟩ := stored_sessions_sound docsHost reached stored
  exact ⟨p, session, server, found, pinned, registered, issued⟩

end RuntimePlatform.Mcp
