import LwipExt.Tcp
import LwipExt.Firmware

/-!
The data of the HTTP server: `ExtHttpConn` of `exts/include/extHttp.h`, embedded
files, pbuf chains, and what the code of one connection reaches besides its own
structure (`Io`).

The build is the repository's default: no SSI, no CGI handlers, no dynamic or
asynchronous file reads, no keep-alive, HTTP/0.9 supported. An `ExtHttpConn` is a
value here; which connections are allocated is the business of `Http.Server`.
-/

namespace LwipExt.Http

/-- `HTTP_METHOD_T`. -/
inductive Method where
  | unknown
  | get
  | post
  | put
  | delete
  | patch
  deriving DecidableEq, Repr

/-- `EXT_HTTP_REQ_T`. -/
inductive ReqType where
  | rest
  | file
  | webSocket
  | cgi
  | upload
  deriving DecidableEq, Repr

/-- `_UPLOAD_STATUS`, in the order of the source. -/
inductive UploadStatus where
  | init
  | copy
  | atEnd
  | error
  deriving DecidableEq, Repr

/-- Position of a status in `_UPLOAD_STATUS`. -/
def UploadStatus.rank : UploadStatus → Nat
  | .init => 0
  | .copy => 1
  | .atEnd => 2
  | .error => 3

/-- `WEB_RES_CONTINUE`. -/
def webResContinue : Nat := 100

/-- `WEB_RES_REQUEST_OK`. -/
def webResRequestOk : Nat := 200

/-- `WEB_RES_BAD_REQUEST`. -/
def webResBadRequest : Nat := 400

/-- `WEB_RES_NOT_FOUND`. -/
def webResNotFound : Nat := 404

/-- `WEB_RES_NOT_IMP`. -/
def webResNotImp : Nat := 501

/-- `MHTTPD_MAX_REQ_LENGTH`, the size of `mhc->data`. -/
def maxReqLength : Nat := 3072

/-- `MHTTPD_REQ_QUEUELEN`. -/
def reqQueueLen : Nat := 5

/-- `MHTTPD_MAX_RETRIES`. -/
def maxRetries : Nat := 4

/-- `sizeof(mhc->uri)`, `sizeof(mhc->boundary)` and `sizeof(mhc->filename)`. -/
def uriBufSize : Nat := 128

/-- `sizeof(mhc->updateProgress)`. -/
def updateProgressSize : Nat := 1024

/-- A file of `extHttpFsData.c`, split into its HTTP header and its body. The files
are generated with the header included: it has no NUL byte, and its only CRLFCRLF
is its end. -/
structure EmbeddedFile where
  name : Bytes
  header : Bytes
  body : Bytes
  headerText : Bytes
  header_eq : header = headerText ++ crlfcrlf
  noNul : (0 : UInt8) ∉ header
  first : ¬ crlfcrlf <:+: header.dropLast

/-- The stored bytes. -/
def EmbeddedFile.data (f : EmbeddedFile) : Bytes := f.header ++ f.body

/-- An open `struct mfs_file`. -/
structure MfsFile where
  data : Bytes
  len : Nat
  index : Nat
  headerIncluded : Bool
  deriving DecidableEq, Repr

/-- `mfsBytesLeft`. -/
def mfsBytesLeft (file : MfsFile) : Int := (file.len : Int) - file.index

/-- A pbuf chain, as the payloads of its pbufs. -/
abbrev Pbuf := List Bytes

/-- `p->tot_len`. -/
def totLen (p : Pbuf) : Nat := p.flatten.length

/-- `pbuf_copy_partial`: at most `len` bytes of the chain from `offset`. -/
def pbufCopyPartial (p : Pbuf) (len offset : Nat) : Bytes := (p.flatten.drop offset).take len

/-- The fields of `ExtHttpConn` that the modelled functions use. Two are kept by
`Http.Server`: `pcb`, which is assigned once when the connection is accepted, and
`next`, the link of the connection list. -/
structure ExtHttpConn where
  handle : Option MfsFile := none
  file : Option Bytes := none
  left : Nat := 0
  req : Option Pbuf := none
  method : Method := .unknown
  isV09 : Bool := false
  uri : Bytes := []
  boundary : Bytes := []
  filename : Bytes := []
  uploadStatus : UploadStatus := .init
  uploadCtx : Bool := false
  reqType : ReqType := .rest
  data : Bytes := []
  dataSendIndex : Nat := 0
  contentLength : Nat := 0
  updateProgress : Bytes := []
  updateIndex : Nat := 0
  updateLength : Nat := 0
  httpStatusCode : Nat := webResContinue
  retries : Nat := 0
  postDataLeft : Nat := 0
  deriving DecidableEq, Repr

/-- `_extHttpStateInit`: the structure is cleared and waits for a request. -/
def extHttpStateInit : ExtHttpConn := {}

/-- `HTTP_IS_FINISHED`. -/
def ExtHttpConn.isFinished (mhc : ExtHttpConn) : Bool := webResRequestOk ≤ mhc.httpStatusCode

/-- `HTTP_IS_ERROR`. -/
def ExtHttpConn.isError (mhc : ExtHttpConn) : Bool := webResBadRequest ≤ mhc.httpStatusCode

/-- Use of a pointer that is NULL where the code takes it to be set. -/
inductive DataFault where
  | nullPbuf
  | nullHeaderEnd
  | nullUploadCtx
  deriving DecidableEq, Repr

/-- What the code of one connection reaches besides its `ExtHttpConn`: the send side
of its pcb, the bytes that pcb has accepted so far, the firmware store, and the
record of NULL pointers used on the way. -/
structure Io where
  tcp : Tcp
  accepted : Bytes := []
  firmware : Firmware := {}
  dataFaults : List DataFault := []
  deriving DecidableEq, Repr

/-- A connection's structure together with what its code reaches. -/
structure Session where
  io : Io
  mhc : ExtHttpConn
  deriving DecidableEq, Repr

/-- Record the use of a NULL pointer. -/
def Session.fault (ss : Session) (f : DataFault) : Session :=
  { ss with io := { ss.io with dataFaults := ss.io.dataFaults ++ [f] } }

/-- Assign fields of `mhc`. -/
def Session.set (ss : Session) (f : ExtHttpConn → ExtHttpConn) : Session :=
  { ss with mhc := f ss.mhc }

@[simp] theorem Session.set_io (ss : Session) (f : ExtHttpConn → ExtHttpConn) :
    (ss.set f).io = ss.io := rfl

@[simp] theorem Session.set_mhc (ss : Session) (f : ExtHttpConn → ExtHttpConn) :
    (ss.set f).mhc = f ss.mhc := rfl

end LwipExt.Http
