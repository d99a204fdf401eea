import BillingClient.Http.Dialogue
import BillingClient.Json.Record

/-!
Contract: requests and responses as JSON, for a record of what was sent and received.

The headers that only serve the connection are left out, the others stand in the order
of their names. A body is shown as a value when the request says that it is JSON.
-/

namespace BillingClient.Http

open BillingClient.Json

/-- The headers that only serve the connection. -/
def connectionHeaders : List String :=
  ["host", "content-length", "connection"]

/-- The headers of a record, in the order of their names. -/
def reportedHeaders (headers : List Header) : List Header :=
  (Header.without connectionHeaders headers).mergeSort fun first second =>
    first.name ≤ second.name

def Response.report (response : Response) : Value :=
  .object [
    ("headers", .array ((reportedHeaders response.headers).map fun header =>
      .array [.string header.name, Codec.string.nullable.encode header.readable?])),
    ("status", .number (.integer response.status)),
    ("success", .bool response.isSuccess),
    ("text", .string response.text)]

/-- Whether a message says that its body is JSON. -/
def Message.isJson (message : Message) : Bool :=
  message.headers.contains ⟨"content-type", "application/json"⟩

/-- The body of a message as JSON. `asText` shows it as text in any case. -/
def Message.reportedBody (asText : Bool) (message : Message) : Value :=
  match message.body with
  | none => .null
  | some body =>
    if body.isEmpty then .null
    else
      match message.isJson && !asText, Codec.free.ofBytes? (Text.Utf8.encode body) with
      | true, some value => .object [("json", value)]
      | _, _ => .object [("text", .string body)]

def Message.report (asText : Bool) (message : Message) : Value :=
  .object [
    ("body", message.reportedBody asText),
    ("headers", .array ((reportedHeaders message.headers).map fun header =>
      .array [.string header.name, .string header.trimmed.value])),
    ("method", .string message.method.name),
    ("url", .string message.url.withoutUser.withoutFragment.text)]

end BillingClient.Http
