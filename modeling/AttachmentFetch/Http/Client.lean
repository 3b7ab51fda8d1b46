import AttachmentFetch.Http.Network
import AttachmentFetch.Http.Status
import AttachmentFetch.Step
import AttachmentFetch.Url.Reader

/-! Asking a server for a URL. -/
namespace AttachmentFetch.Http

inductive RequestError where
  | notUrl
  | unsupported (url : Url)
  | notSent (url : Url)
  | timedOut (url : Url)
  | tooManyRedirections (url : Url)
  deriving DecidableEq, Repr

def RequestError.message : RequestError → String
  | notUrl => "builder error"
  | unsupported url => s!"builder error for url ({url.text})"
  | notSent url => s!"error sending request for url ({url.text})"
  | timedOut url => s!"request timed out: error sending request for url ({url.text})"
  | tooManyRedirections url => s!"error following redirect for url ({url.text})"

def urlTooLong : Nat := 65535

def isRequestable (url : Url) : Bool :=
  url.isHttp && (url.host.getD []).all (!"\"\x60\x7b\x7d".toList.contains ·) &&
    url.chars.length < urlTooLong

/-- Meets the next reply of the network, and does not wait for it longer than allowed. -/
def exchange (timeout : Option Duration) (url : Url) :
    Step Network RequestError Response := fun network =>
  match network with
  | .down => (.error (.notSent url), .down)
  | .up replies requests =>
    let next := Network.up replies.tail (requests ++ ["GET " ++ String.ofList url.target])
    match (replies.headD (.response Response.notFound)).within timeout with
    | .response response => (.ok response, next)
    | .closed => (.error (.notSent url), next)
    | .stalled => (.error (.timedOut url), next)

def mostRedirections : Nat := 10

/-- Asks for a URL and follows redirections, of which `left` are still allowed.
A redirection that leads nowhere is a response like any other. -/
def follow (timeout : Option Duration) : Nat → Url → Step Network RequestError Response
  | left, url =>
    if !isRequestable url then throw (.unsupported url)
    else do
      let response ← exchange timeout url
      match isRedirection response.status, response.location.bind (Url.join? url) with
      | true, some next =>
        match left with
        | 0 => throw (.tooManyRedirections url)
        | left + 1 => follow timeout left next.withoutCredentials
      | _, _ => return response

def get (timeout : Option Duration) (text : String) : Step Network RequestError Response :=
  match Url.parse? text with
  | none => throw .notUrl
  | some url => follow timeout mostRedirections url.withoutCredentials

end AttachmentFetch.Http
