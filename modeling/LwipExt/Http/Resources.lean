import LwipExt.CString
import LwipExt.Http.Conn

/-!
What a request is answered with: embedded files (`extHttpFs.c`,
`extHttpResponseFile.c`), dynamic web pages (`extHttpWebPages.c`), REST errors
(`extNmosHttpErrors.c`) and the dispatch of `extHttpHandleRequest`
(`extNmosHttp.c`).

The texts of the web pages and of the NMOS replies depend on the whole runtime
configuration; `Site` holds them as functions. Everything else, the choice between
them included, is computed as the source computes it.
-/

namespace LwipExt.Http

/-- The entries of `_webpages`. -/
inductive WebPage where
  | root
  | info
  | media
  | reboot
  deriving DecidableEq, Repr

/-- `NMOS_API_TYPE`. -/
inductive NmosApi where
  | node
  | connection
  deriving DecidableEq, Repr

/-- What the device serves: its embedded files, the text of each dynamic page, the
status and body of each NMOS reply, and the `Sec-WebSocket-Accept` value of a key
(`base64(sha1(key GUID))`, vendored code). -/
structure Site where
  files : List EmbeddedFile
  page : WebPage → Bytes
  nmos : NmosApi → Bytes → Nat × Bytes
  acceptKey : Bytes → Bytes

/-! ### Status headers and REST errors -/

/-- `_httpHdrs`: status codes and their reason phrases. -/
def httpHdrs : List (Nat × Bytes) :=
  [(200, str "200 OK"), (101, str "101 Switching Protocols"),
    (307, str "307 Temporary Redirect"), (400, str "400 Bad Request"),
    (404, str "404 Not Found"), (405, str "405 Method Not Allowed"), (423, str "423 Locked"),
    (500, str "500 Internal Server Error"), (501, str "501 Not Implemented")]

/-- The lines that follow the status line in the entry of a code: only 101 has any. -/
def httpHdrExtra (code : Nat) : Bytes :=
  if code = 101 then str "Upgrade: websocket" ++ crlf ++ str "Connection: Upgrade" ++ crlf else []

/-- Status line text of a code; a code without an entry gets that of 404. -/
def statusText (code : Nat) : Bytes := (httpHdrs.lookup code).getD (str "404 Not Found")

/-- `extHttpFindStatusHeader`. -/
def extHttpFindStatusHeader (code : Nat) : Bytes :=
  str "HTTP/1.1 " ++ statusText code ++ crlf ++ httpHdrExtra code

/-- `httpCommonHeader`. -/
def httpCommonHeader : Bytes :=
  str "Server: MuxLab/500767" ++ crlf ++ str "Content-Type: application/json" ++ crlf

/-- The body of an error reply: the code, its reason phrase and the debug text. -/
def restErrorBody (code : Nat) (debug : Bytes) : Bytes :=
  str "\x7b\"code\":" ++ decimal code ++ str "," ++
    str "\"error\":\"" ++ (statusText code).drop 4 ++ str "\"," ++
    str "\"debug\":\"" ++ debug ++ str "\"\x7d"

/-- `extHttpRestError`. -/
def extHttpRestError (mhc : ExtHttpConn) (code : Nat) (debug : Bytes) : ExtHttpConn :=
  let body := restErrorBody code debug
  { mhc with
    httpStatusCode := code
    reqType := .rest
    data := bufWrite mhc.data 0 (snprintf maxReqLength body ++ [0])
    contentLength := u16 body.length
    dataSendIndex := 0 }

/-! ### Embedded files -/

/-- The open handle of an embedded file. -/
def EmbeddedFile.opened (f : EmbeddedFile) : MfsFile :=
  { data := f.data, len := f.data.length, index := f.data.length, headerIncluded := true }

/-- `mfsOpen`: the first file of that name. -/
def mfsOpen (files : List EmbeddedFile) (name : Bytes) : Option MfsFile :=
  (files.find? fun f => f.name = cstr name).map EmbeddedFile.opened

/-- `_extHttpFileGet404`: the error page, and the name it was found under. -/
def extHttpFileGet404 (files : List EmbeddedFile) (mhc : ExtHttpConn) :
    Option MfsFile × ExtHttpConn :=
  let names := [str "/404.html", str "/404.htm", str "/404.shtml"]
  match names.find? fun name => (mfsOpen files name).isSome with
  | some name => (mfsOpen files name, { mhc with uri := name })
  | none => (none, mhc)

/-- `_extHttpFileInit`: attach a file to the connection. An HTTP/0.9 response starts
behind the header of the file. -/
def extHttpFileInit (mhc : ExtHttpConn) : Option MfsFile → ExtHttpConn
  | some file =>
      let mhc := { mhc with
        handle := some file, file := some file.data, left := file.len, retries := 0 }
      if mhc.isV09 && file.headerIncluded then
        match lwipStrnstr file.data crlfcrlf file.len with
        | some start =>
            { mhc with file := some (file.data.drop (start + 4)), left := mhc.left - (start + 4) }
        | none => mhc
      else mhc
  | none => { mhc with handle := none, file := none, left := 0, retries := 0 }

/-- Leave a dynamic page in `mhc->data`. -/
def webPageReply (mhc : ExtHttpConn) (page : Bytes) : ExtHttpConn :=
  { mhc with
    data := bufWrite mhc.data 0 page
    contentLength := u16 page.length
    dataSendIndex := 0
    httpStatusCode := webResRequestOk }

/-- `extHttpFileFind`. A URI that ends in a slash first builds the root page; the file
is looked for all the same, under the URI without its parameters. -/
def extHttpFileFind (site : Site) (mhc : ExtHttpConn) : ExtHttpConn :=
  let mhc := if (cstr mhc.uri).getLast? = some 47 then webPageReply mhc (site.page .root) else mhc
  let mhc := { mhc with uri := (cstr mhc.uri).takeWhile (· ≠ 63) }
  match mfsOpen site.files mhc.uri with
  | some file => extHttpFileInit mhc (some file)
  | none =>
      let (file, mhc) := extHttpFileGet404 site.files mhc
      extHttpFileInit mhc file

/-! ### Dispatch -/

/-- URI of a web page. -/
def WebPage.uri : WebPage → Bytes
  | .root => str "/"
  | .info => str "/info"
  | .media => str "/media"
  | .reboot => str "/reboot"

/-- The page of `_webpages` a URI names. -/
def webPageOf (uri : Bytes) : Option WebPage :=
  [WebPage.root, .info, .media, .reboot].find? fun page => isStringEqual page.uri uri

/-- `_extRestApiHandle`. -/
def extRestApiHandle (site : Site) (mhc : ExtHttpConn) (api : NmosApi) : ExtHttpConn :=
  let (code, body) := site.nmos api (cstr mhc.uri)
  { mhc with
    reqType := .rest
    httpStatusCode := code
    data := bufWrite mhc.data 0 (snprintf maxReqLength body ++ [0])
    contentLength := u16 body.length
    dataSendIndex := 0 }

/-- `extHttpHandleRequest`, with `extHttpWebService`. It always succeeds:
`extHttpFileFind` does, so the 404 reply behind it is never built. -/
def extHttpHandleRequest (site : Site) (mhc : ExtHttpConn) : ExtHttpConn :=
  if mhc.isError then mhc
  else if (strstr mhc.uri (str "/x-nmos/node")).isSome then extRestApiHandle site mhc .node
  else if (strstr mhc.uri (str "/x-nmos/connection")).isSome then
    extRestApiHandle site mhc .connection
  else
    match webPageOf mhc.uri with
    | some page => webPageReply { mhc with reqType := .cgi } (site.page page)
    | none => { extHttpFileFind site mhc with reqType := .file }

/-! ### Facts about file responses -/

/-- An HTTP/1.x file response holds the whole file, an HTTP/0.9 response what follows
its header. -/
def EmbeddedFile.response (f : EmbeddedFile) (isV09 : Bool) : Bytes :=
  if isV09 then f.body else f.data

theorem mfsBytesLeft_opened (f : EmbeddedFile) : mfsBytesLeft f.opened = 0 := by
  simp [mfsBytesLeft, EmbeddedFile.opened]

/-- The header of a file is found at its first CRLFCRLF. -/
theorem strnstr_header (f : EmbeddedFile) :
    lwipStrnstr f.data crlfcrlf f.data.length = some f.headerText.length := by
  have nonempty : crlfcrlf ≠ [] := by decide
  have found := Lib.findBefore_of_first f.body nonempty
    (f.header_eq ▸ f.noNul) (f.header_eq ▸ f.first)
  unfold lwipStrnstr
  rw [if_neg nonempty, List.take_length, EmbeddedFile.data, f.header_eq]
  exact found

/-- `_extHttpFileInit` leaves exactly the response to send. -/
theorem extHttpFileInit_opened (mhc : ExtHttpConn) (f : EmbeddedFile) :
    (extHttpFileInit mhc (some f.opened)).file = some (f.response mhc.isV09) ∧
      (extHttpFileInit mhc (some f.opened)).left = (f.response mhc.isV09).length ∧
      (extHttpFileInit mhc (some f.opened)).handle = some f.opened := by
  have ends : f.headerText.length + 4 = f.header.length := by
    simp [f.header_eq, crlfcrlf]
  cases v09 : mhc.isV09 with
  | false => simp [extHttpFileInit, EmbeddedFile.response, EmbeddedFile.opened, v09]
  | true =>
      simp only [extHttpFileInit, EmbeddedFile.opened, EmbeddedFile.response, v09, strnstr_header,
        Bool.and_self, if_true, ends]
      simp [EmbeddedFile.data]

end LwipExt.Http
