import Polyglot.Config.Model
import Polyglot.Provider.Protocols

/-!
# Adapters

Backends that speak a provider's protocol over a transport.
-/

namespace Polyglot

/-- An address without slashes at its end. -/
def withoutFinalSlashes (url : String) : String :=
  String.ofList (Text.dropTail (· == '/') url.toList)

namespace Protocol

/-- Where a model is asked. -/
def url? (protocol : Protocol) (baseUrl model : String) : Option Url :=
  let base := withoutFinalSlashes baseUrl
  match protocol with
  | openAiCompatible => Url.read? (base ++ ChatCompletions.path)
  | anthropic => Url.read? (base ++ Messages.path)
  | gemini => (Url.read? (base ++ GenerateContent.path model)).map (·.withParameter "alt" "sse")

/-- The headers that carry the key. -/
def keyHeaders (protocol : Protocol) (key : String) : List (String × String) :=
  match protocol with
  | openAiCompatible => [("authorization", "Bearer " ++ key)]
  | anthropic => [("x-api-key", key), ("anthropic-version", Messages.version)]
  | gemini => [("x-goog-api-key", key)]

def body (protocol : Protocol) (model prompt : String) (options : GenerationOptions) : Json :=
  match protocol with
  | openAiCompatible => ChatCompletions.body model prompt options
  | anthropic => Messages.body model prompt options
  | gemini => GenerateContent.body prompt options

def extractor (protocol : Protocol) : Extractor :=
  match protocol with
  | openAiCompatible => ChatCompletions.extract
  | anthropic => Messages.extract
  | gemini => GenerateContent.extract

end Protocol

/-- The request for a prompt at an address. -/
def Provider.request (provider : Provider) (url : Url) (model key prompt : String)
    (options : GenerationOptions) : HttpRequest where
  scheme := url.scheme
  target := url.target
  headers := provider.protocol.keyHeaders key ++ [("content-type", "application/json")]
  body := (provider.protocol.body model prompt options).compact

/-- The one request that a prompt leads to and what comes back for it, if address and key allow
for a request and somebody answers. -/
def Provider.exchange? (provider : Provider) (model key : String) (transport : Transport)
    (prompt : String) (options : GenerationOptions) : Option (HttpRequest × HttpResponse) :=
  match provider.protocol.url? provider.baseUrl model with
  | none => none
  | some url =>
    if !isHeaderValue key then none
    else
      let request := provider.request url model key prompt options
      (transport url.authority request).map fun response => (request, response)

/-- Ask a model: the items of the response, if there is one. -/
def Provider.ask (provider : Provider) (model key : String) (transport : Transport)
    (prompt : String) (options : GenerationOptions) : Answer :=
  match provider.exchange? model key transport prompt options with
  | none => { items := [.error .http] }
  | some (request, response) => {
      items := Delivery.ofResponse provider.protocol.extractor options.timeout response
      requests := [request] }

/-- The backend of a model whose key is at hand. -/
def ModelSpec.backend (spec : ModelSpec) (key : String) (transport : Transport) : Backend where
  name := spec.modelId
  answer := spec.provider.ask spec.modelId key transport

end Polyglot
