import CrashReporter.Delivery
import CrashReporter.Time.Timestamp

-- Delivery by HTTP: what is posted, and what becomes of an attempt. Without a
-- response a payload may still be delivered later.

namespace CrashReporter

/-- A header's values by its name in lower case. -/
abbrev HttpHeaders := Dict (List String)

namespace HttpHeaders

/-- Adds a value beside those that a header has. -/
def append (h : HttpHeaders) (name value : String) : HttpHeaders :=
  let name := String.ofList (name.toList.map Char.toLower)
  Dict.insert h name (((Dict.get? h name).getD []) ++ [value])

/-- Gives a header a value unless it has one. -/
def provide (h : HttpHeaders) (name value : String) : HttpHeaders :=
  if (Dict.get? h name).isSome then h else Dict.insert h name [value]

end HttpHeaders

structure HttpRequest where
  endpoint : String
  headers : HttpHeaders
  body : String

namespace HttpRequest

/-- Posts a payload as JSON. Headers of the parameters stand beside those of the
request, and take the place of what the library says of itself. -/
def post (params : DeliveryParams) (payload : Json) (sentAt : Instant) : HttpRequest :=
  let fixed := (HttpHeaders.append Dict.empty "loom-sent-at" sentAt.text).append "content-type"
    "application/json"
  let given := params.headers.toList.foldl (fun h e => HttpHeaders.append h e.1 e.2) fixed
  { endpoint := params.endpoint
    headers := (given.provide "accept" "*/*").provide "user-agent" "loom-report/0.1.0"
    body := payload.text }

/-- What became of a request, by the code of the response if there was one. -/
def outcome : Option Nat → DeliveryStatus
  | some code => .ofCode code
  | none => .undelivered

end HttpRequest

end CrashReporter
