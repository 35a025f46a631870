import LwipExt.Http.Post

/-!
`exts/http/extHttpRequest.c`: collect the pbufs of a request and parse it.

`extHttpRequestParse` runs on every segment that arrives before a request was
accepted. What earlier calls leave behind, the queue `mhc->req` and the fields an
unfinished parse has set, is in the `ExtHttpConn`.
-/

namespace LwipExt.Http

/-- `MHTTP_MIN_REQ_LEN`. -/
def minReqLen : Nat := 7

/-- The methods `_mHttpParseMethod` knows, with the text that starts a request. -/
def methods : List (Method × Bytes) :=
  [(.get, str "GET "), (.put, str "PUT "), (.post, str "POST "), (.delete, str "DELETE "),
    (.patch, str "PATCH ")]

/-- `_mHttpParseMethod`: the method is stored as soon as its text is there. The result
is the length of that text, and 0 for a method it does not know. -/
def mHttpParseMethod (mhc : ExtHttpConn) (data : Bytes) : ExtHttpConn × Nat :=
  match methods.find? fun m => m.2.isPrefixOf data with
  | some (method, text) => ({ mhc with method }, text.length)
  | none => (mhc, 0)

/-- The NUL `_mHttpParseMethod` stores behind a method it does not know: into
`mhc->data` when the request was collected there, else into the only pbuf of the
queue. -/
def nulBehindMethod (mhc : ExtHttpConn) (chained : Bool) : ExtHttpConn :=
  if chained then { mhc with data := bufWrite mhc.data 4 [0] }
  else { mhc with req := mhc.req.map fun req => req.map fun payload => payload.set 4 0 }

/-- `_mHttpParseUrl` of the text behind the method; whether it returned
`EXIT_SUCCESS`. Without a space the request is HTTP/0.9, which has no POST. A request
without a target is passed as a success, the URI left as it was. -/
def mHttpParseUrl (mhc : ExtHttpConn) (data : Bytes) : ExtHttpConn × Bool :=
  let space := lwipStrnstr data [32] data.length
  let mhc := if space.isNone then { mhc with isV09 := true } else mhc
  if space.isNone ∧ mhc.method = .post then (mhc, false)
  else
    let sp := match space with
      | some position => some position
      | none => (lwipStrnstr (data.drop 1) crlf data.length).map (· + 1)
    match sp with
    | none | some 0 => (mhc, true)
    | some uriLen =>
        if (lwipStrnstr data crlfcrlf data.length).isSome then
          ({ mhc with uri := data.take (min uriBufSize uriLen) }, true)
        else (mhc, false)

/-- `_mHttpParseRequest`; whether it returned `EXIT_SUCCESS`. -/
def mHttpParseRequest (site : Site) (ss : Session) (data : Bytes) (chained : Bool) :
    Session × Bool :=
  let (mhc, len) := mHttpParseMethod ss.mhc data
  let ss := { ss with mhc }
  if len = 0 then (ss.set fun mhc => nulBehindMethod mhc chained, false)
  else
    match mHttpParseUrl ss.mhc (data.drop len) with
    | (mhc, false) => ({ ss with mhc }, false)
    | (mhc, true) =>
        let ss := { ss with mhc }
        if ss.mhc.method = .post then extHttpPostRequest ss data
        else
          (ss.set fun mhc => { extHttpHandleRequest site mhc with postDataLeft := 0 }, true)

/-- `extHttpRequestParse`. `stale` is the memory behind the payload of the pbuf, which
the websocket test reads; when the request is collected from several pbufs, that is
the rest of `mhc->data`. -/
def extHttpRequestParse (site : Site) (ss : Session) (p : Pbuf) (stale : Bytes) :
    Session × TcpErr :=
  if ss.mhc.handle.isSome ∨ ss.mhc.file.isSome then (ss, .use)
  else
    let req := ss.mhc.req.getD [] ++ p
    let ss := ss.set fun mhc => { mhc with req := some req }
    let chained : Bool := 1 < req.length
    let data := if chained then req.flatten.take maxReqLength else req.flatten
    let ss := if chained then
        ss.set fun mhc => { mhc with
          data := bufWrite mhc.data 0 data, contentLength := data.length }
      else ss
    let beyond := if chained then ss.mhc.data.drop data.length else stale
    let inProgress (ss : Session) : Session × TcpErr :=
      if totLen (ss.mhc.req.getD []) ≤ maxReqLength ∧ req.length ≤ reqQueueLen then
        (ss, .inProgress)
      else (ss, .arg)
    if data.length < minReqLen then inProgress ss
    else if (lwipStrnstr data crlf data.length).isNone then (ss, .arg)
    else
      match extHttpWebSocketParseHeader site ss (data ++ beyond) with
      | (ss, true) => (ss, .ok)
      | (ss, false) =>
          match mHttpParseRequest site ss data chained with
          | (ss, true) => (ss, .ok)
          | (ss, false) => inProgress ss

end LwipExt.Http
