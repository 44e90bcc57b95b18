import Mathlib.Data.String.Basic

/-!
# Proxygen.HTTPMessage

What `CodecUtil::prepareMessageForCompression` (proxygen/lib/http/codec/CodecUtil.cpp) reads of an
`HTTPMessage` and what it builds. `HTTPMessage`, `HTTPHeaders`, the generated header-code table and
`HeaderConstants.h` are not under src/; they are kept here as the accessors the function calls.

* `HTTPHeaderCode`: the codes the function names, `other` for unknown names, and `common n` for the
  other codes of the generated table, which the function does not distinguish.
* `HTTPHeaders`: the sequence of `(code, name, value)` that `forEachWithCode` visits, in order and
  with repetitions; deleted slots are not visited and are not part of the model.
* `HTTPMessage`: a request or a response (never both) with the accessors the function reads.
* `Compress.Header`: one entry of the header list handed to the HPACK encoder.
-/

namespace BenchmarkProjects
namespace Proxygen

/-- `HTTPHeaderCode`. -/
inductive HTTPHeaderCode where
  | other
  | colonMethod | colonProtocol | colonScheme | colonPath | colonAuthority | colonStatus
  | connection | host | keepAlive | proxyConnection | transferEncoding | upgrade
  | secWebsocketKey | secWebsocketAccept | date
  | common (n : Nat)
  deriving DecidableEq, Repr

/-- `HTTPMethod`. -/
inductive HTTPMethod where
  | GET | POST | OPTIONS | DELETE | HEAD | CONNECT | PUT | TRACE | PATCH | SUB | PUB | UNSUB
  deriving DecidableEq, Repr

/-- `methodToString`. -/
def methodToString : HTTPMethod → String
  | .GET => "GET" | .POST => "POST" | .OPTIONS => "OPTIONS" | .DELETE => "DELETE"
  | .HEAD => "HEAD" | .CONNECT => "CONNECT" | .PUT => "PUT" | .TRACE => "TRACE"
  | .PATCH => "PATCH" | .SUB => "SUB" | .PUB => "PUB" | .UNSUB => "UNSUB"

/-- One header as `forEachWithCode` passes it to its callback. -/
structure HeaderEntry where
  code : HTTPHeaderCode
  name : String
  value : String
  deriving DecidableEq, Repr

/-- `HTTPHeaders`, as the sequence its iteration visits. -/
structure HTTPHeaders where
  entries : List HeaderEntry
  deriving DecidableEq, Repr

namespace HTTPHeaders

/-- `HTTPHeaders::forEachWithCode`, with the callback's captured variables passed as state. -/
def forEachWithCode {σ : Type} (h : HTTPHeaders) (f : σ → HTTPHeaderCode → String → String → σ)
    (init : σ) : σ :=
  h.entries.foldl (fun s e => f s e.code e.name e.value) init

/-- Modelled from the spec: `HTTPHeaders::getSingleOrEmpty` is not under src/. The value of the
only header with this code, or the empty string when there is none or more than one. -/
def getSingleOrEmpty (h : HTTPHeaders) (code : HTTPHeaderCode) : String :=
  match h.entries.filter (·.code = code) with
  | [e] => e.value
  | _ => ""

end HTTPHeaders

/-- `HTTPMessage`, through the accessors `prepareMessageForCompression` calls. The fields of a
request and of a response live in one variant, so a message is never both. -/
structure HTTPMessage where
  isRequest : Bool
  isResponse : Bool
  isEgressWebsocketUpgrade : Bool
  /-- `getMethodString()` -/
  methodString : String
  /-- `getMethod()`: `none` for a method outside `HTTPMethod`. -/
  method : Option HTTPMethod
  isSecure : Bool
  /-- `getURL()` -/
  url : String
  /-- `getStatusCode()` -/
  statusCode : UInt16
  headers : HTTPHeaders
  not_both : ¬(isRequest = true ∧ isResponse = true)

namespace Headers

/-- Modelled from the spec: `headers::kHttp` of `HeaderConstants.h`, not under src/. -/
def kHttp : String := "http"

/-- Modelled from the spec: `headers::kHttps` of `HeaderConstants.h`, not under src/. -/
def kHttps : String := "https"

/-- Modelled from the spec: `headers::kWebsocketString` of `HeaderConstants.h`, not under src/. -/
def kWebsocketString : String := "websocket"

/-- Modelled from the spec: `headers::kStatus200` of `HeaderConstants.h`, not under src/. -/
def kStatus200 : String := "200"

end Headers

namespace Compress

/-- `compress::Header`: a code with the name and value the encoder reads. The two-argument
constructor takes the name from the common-header table; the model writes that name out. -/
structure Header where
  code : HTTPHeaderCode
  name : String
  value : String
  deriving DecidableEq, Repr

end Compress

/-- The entry of the encoder's list that carries a visited header. -/
def HeaderEntry.toHeader (e : HeaderEntry) : Compress.Header := ⟨e.code, e.name, e.value⟩

end Proxygen
end BenchmarkProjects
