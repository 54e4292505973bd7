/-!
# Paths of the web surface

`Endpoint.find` says what a method on a path asks for. A path that no endpoint has is unknown; a
path that some endpoint has, but not for this method, does not allow the method. An identifier in a
path stands in `{}` of the endpoint's comment and is any text but the empty one.
-/

namespace Promotions

/-- What can be asked on the web. -/
inductive Endpoint where
  /-- GET /events -/
  | listEvents
  /-- POST /events -/
  | createEvent
  /-- GET /events/active -/
  | listActiveEvents
  /-- GET /events/{event} -/
  | getEvent (event : String)
  /-- PATCH /events/{event} -/
  | patchEvent (event : String)
  /-- GET /events/{event}/rewards -/
  | listEventRewards (event : String)
  /-- GET /events/{event}/participations -/
  | listEventParticipations (event : String)
  /-- GET /events/{event}/stats -/
  | getStatistics (event : String)
  /-- POST /rewards -/
  | createReward
  /-- GET /rewards/{reward} -/
  | getReward (reward : String)
  /-- PATCH /rewards/{reward} -/
  | patchReward (reward : String)
  /-- POST /participations -/
  | createParticipation
  /-- GET /participations/me -/
  | listMyParticipations
  /-- GET /reward-requests -/
  | listRequests
  /-- POST /reward-requests -/
  | createRequest
  /-- GET /reward-requests/me -/
  | listMyRequests
  /-- GET /reward-requests/{request} -/
  | getRequest (request : String)
  /-- PATCH /reward-requests/{request} -/
  | patchRequest (request : String)
  /-- GET /reward-requests/{request}/user-rewards -/
  | listRequestGrants (request : String)
  /-- POST /reward-requests/{request}/cancel -/
  | cancelRequest (request : String)
  /-- GET /user-rewards/me -/
  | listMyGrants
  /-- GET /user-rewards/users/{user} -/
  | listUserGrants (user : String)
  /-- POST /user-rewards/{grant}/use -/
  | useGrant (grant : String)
  /-- POST /admin/user-rewards/expire -/
  | expireGrants
  /-- GET /admin/event-logs -/
  | listLogs
  /-- POST /commands -/
  | command
  deriving DecidableEq, Repr

/-- Why a method on a path asks for nothing. -/
inductive RoutingFault where
  | unknownPath
  | methodNotAllowed
  deriving DecidableEq, Repr

namespace RoutingFault

/-- The status code of a fault. -/
def status : RoutingFault → Nat
  | unknownPath => 404
  | methodNotAllowed => 405

/-- The message of a fault. -/
def message : RoutingFault → String
  | unknownPath => "Not Found"
  | methodNotAllowed => "Method Not Allowed"

end RoutingFault

namespace Endpoint

/-- The endpoint reads the body of a request. -/
def readsBody : Endpoint → Bool
  | createEvent | patchEvent _ | createReward | patchReward _ | createParticipation
  | createRequest | patchRequest _ | command => true
  | _ => false

/-- The endpoints of a path whose last place is a fixed word, each with its method. -/
def endingInWord : List String → List (String × Endpoint)
  | ["events"] => [("GET", listEvents), ("POST", createEvent)]
  | ["events", "active"] => [("GET", listActiveEvents)]
  | ["events", event, "rewards"] => [("GET", listEventRewards event)]
  | ["events", event, "participations"] => [("GET", listEventParticipations event)]
  | ["events", event, "stats"] => [("GET", getStatistics event)]
  | ["rewards"] => [("POST", createReward)]
  | ["participations"] => [("POST", createParticipation)]
  | ["participations", "me"] => [("GET", listMyParticipations)]
  | ["reward-requests"] => [("GET", listRequests), ("POST", createRequest)]
  | ["reward-requests", "me"] => [("GET", listMyRequests)]
  | ["reward-requests", request, "user-rewards"] => [("GET", listRequestGrants request)]
  | ["reward-requests", request, "cancel"] => [("POST", cancelRequest request)]
  | ["user-rewards", "me"] => [("GET", listMyGrants)]
  | ["user-rewards", grant, "use"] => [("POST", useGrant grant)]
  | ["admin", "user-rewards", "expire"] => [("POST", expireGrants)]
  | ["admin", "event-logs"] => [("GET", listLogs)]
  | ["commands"] => [("POST", command)]
  | _ => []

/-- The endpoints of a path whose last place is an identifier, each with its method. -/
def endingInId : List String → List (String × Endpoint)
  | ["events", event] => [("GET", getEvent event), ("PATCH", patchEvent event)]
  | ["rewards", reward] => [("GET", getReward reward), ("PATCH", patchReward reward)]
  | ["reward-requests", request] =>
    [("GET", getRequest request), ("PATCH", patchRequest request)]
  | ["user-rewards", "users", user] => [("GET", listUserGrants user)]
  | _ => []

/-- A text without a line break at its end. -/
def withoutBreak (text : String) : String :=
  if text.toList.getLast? = some '\n' then String.ofList text.toList.dropLast else text

/-- A path without a line break at its end. -/
def unbroken : List String → List String
  | [] => []
  | [last] => [withoutBreak last]
  | first :: rest => first :: unbroken rest

/-- The endpoints of a path, each with its method; the first of a method counts. A line break at the
end of the path belongs to an identifier there, but not to a word. -/
def ofPath (path : List String) : List (String × Endpoint) :=
  if path.contains "" then [] else endingInWord (unbroken path) ++ endingInId path

/-- What a method on a path asks for. -/
def find (method : String) (path : List String) : Except RoutingFault Endpoint :=
  let endpoints := ofPath path
  if endpoints.isEmpty then .error .unknownPath
  else
    match endpoints.find? fun endpoint => endpoint.1 = method with
    | some (_, endpoint) => .ok endpoint
    | none => .error .methodNotAllowed

end Endpoint

end Promotions
