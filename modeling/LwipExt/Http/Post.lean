import LwipExt.Http.WebSocket

/-!
POST requests and firmware uploads: `exts/http/extHttpPost.c`, the upload context of
`exts/cmn/extUploadFile.c`, `exts/nnmos/extNmosPost.c` and the Content-Length parser
of `exts/http/extHttpRequest.c`.

An upload body is regrouped into blocks of `sizeof(mhc->data)` bytes. Each full block
is searched for the boundary and written to flash; what is left at the end of the
request is searched and written by `extHttpPostDataFinished`.
-/

namespace LwipExt.Http

/-! ### The upload context -/

/-- `EXT_WEBPAGE_UPDATE_MCU`. -/
def updateMcuUri : Bytes := str "/mcuUpdate"

/-- `EXT_WEBPAGE_UPDATE_FPGA`. -/
def updateFpgaUri : Bytes := str "/fpgaUpdate"

/-- The image type `_extUploadOpen` takes from the URI. -/
def uploadType (uri : Bytes) : FmType :=
  if isStringEqual uri updateMcuUri then .rtos
  else if isStringEqual uri updateFpgaUri then .fpga
  else .none

/-- Replace the firmware store. -/
def Session.setFirmware (ss : Session) (firmware : Firmware) : Session :=
  { ss with io := { ss.io with firmware } }

/-- `_extUploadOpen`. -/
def extUploadOpen (ss : Session) : Session :=
  ss.setFirmware (firmwareUpdateInit ss.io.firmware (uploadType ss.mhc.uri))

/-- `_extUploadClose`. -/
def extUploadClose (ss : Session) : Session :=
  ss.setFirmware (firmwareUpdateEnd ss.io.firmware)

/-- `_extUploadWrite` of the first `size` bytes of `mhc->data`. A failed write returns
`-1`, which is 65535 as an `unsigned short`; a good one clears the bytes. -/
def extUploadWrite (ss : Session) (size : Nat) : Session × Nat :=
  let (firmware, taken) := bspSpiFlashWrite ss.io.firmware (bufRead ss.mhc.data 0 size)
  if taken then
    let ss := ss.set fun mhc => { mhc with
      data := bufWrite mhc.data 0 (List.replicate size 0) }
    (ss.setFirmware { firmware with size := firmware.size + size }, size)
  else (ss.setFirmware firmware, 65535)

/-- A call through `mhc->uploadCtx`. -/
def Session.viaUploadCtx (ss : Session) (call : Session → Session) : Session :=
  if ss.mhc.uploadCtx then call ss else ss.fault .nullUploadCtx

/-! ### Result pages -/

/-- `__httpWebPagePrintHeader` and `__extHttpWebPagePrintHeader`. -/
def webPageHeader : Bytes :=
  str "HTTP/1.0 200 OK" ++ crlf ++ str "Server: MuxLab/500767" ++ crlf ++
    str "Content-type: text/html" ++ crlf ++ str "Content-Length: 955 " ++ crlfcrlf

/-- A page: header and content, with the content length stored over the digits of the
header, and the length that is recorded for it. `snprintf` stores a NUL behind the
digits, and their number is added to the length. -/
def webPage (content : Bytes) : Bytes × Nat :=
  let digits := (decimal content.length).take 4
  let page := bufWrite (webPageHeader ++ content) (webPageHeader.length - 8) (digits ++ [0])
  (page, u16 (webPageHeader.length + (decimal content.length).length + content.length))

/-- `extHttpWebPageResult`. -/
def extHttpWebPageResult (mhc : ExtHttpConn) (title msg : Bytes) : ExtHttpConn :=
  let (page, length) := webPage (str "<DIV class=\"title\"><H2>" ++ title ++
    str "</H2></DIV><DIV class=\"fields-info\"><DIV class=\"field\"><LABEL >Result:" ++ msg ++
    str "</LABEL></DIV></DIV>")
  { mhc with
    data := page, contentLength := length, dataSendIndex := 0, httpStatusCode := webResRequestOk }

/-- `_updatePageResult`. -/
def updatePageResult (mhc : ExtHttpConn) (title msg : Bytes) : ExtHttpConn :=
  let (page, length) := webPage (str "<DIV class=\"title\"><H2>" ++ title ++
    str "</H2></DIV>Result:" ++ msg ++ str ". Please reboot system</DIV>")
  { mhc with
    updateProgress := page, updateLength := length, updateIndex := 0
    httpStatusCode := webResRequestOk }

/-! ### Blocks -/

/-- `__findEndingBoundary`. The boundary of the form is found in the block; the four
bytes before it, CRLF and two dashes, do not belong to the file. -/
def findEndingBoundary (ss : Session) : Session × Bool :=
  let block := bufRead ss.mhc.data 0 ss.mhc.dataSendIndex
  match Lib.findSub (cstr ss.mhc.boundary) block with
  | some position =>
      (ss.set fun mhc => { mhc with
        dataSendIndex := sub16 position 4
        uploadStatus := .atEnd
        uri := snprintf uriBufSize (decimal ss.io.firmware.size ++ str " bytes uploaded for '" ++
          cstr mhc.filename ++ str "'") }, true)
  | none => (ss, false)

/-- `LWIP_MIN(p->tot_len - copied, (unsigned short)sizeof(mhc->data) - dataSendIndex)` as an
`unsigned short`. -/
def blockRoom (pending dataSendIndex : Nat) : Nat :=
  (min (pending : Int) ((maxReqLength : Int) - dataSendIndex)).emod 65536 |>.toNat

/-- `mhc->uploadCtx->write(mhc, mhc->data, mhc->dataSendIndex)` for a full block; whether
everything was written. -/
def writeBlock (ss : Session) : Session × Bool :=
  let ss := (findEndingBoundary ss).1
  if ss.mhc.uploadCtx then
    let size := ss.mhc.dataSendIndex
    let (ss, len) := extUploadWrite ss size
    (ss, len = size)
  else (ss.fault .nullUploadCtx, false)

/-- The loop of `__extHttpPostData` over the bytes not yet copied. Two turns per byte
are more than it takes: a turn copies a byte or empties a full block. -/
def extHttpPostDataLoop : Nat → Session → Bytes → Session × Bool
  | 0, ss, _ => (ss, true)
  | fuel + 1, ss, rest =>
      if rest = [] then (ss, true)
      else
        let len := blockRoom rest.length ss.mhc.dataSendIndex
        let chunk := rest.take len
        let ss := ss.set fun mhc => { mhc with
          data := bufWrite mhc.data mhc.dataSendIndex chunk
          dataSendIndex := u16 (mhc.dataSendIndex + chunk.length) }
        if ss.mhc.dataSendIndex = maxReqLength then
          match writeBlock ss with
          | (ss, true) =>
              extHttpPostDataLoop fuel (ss.set fun mhc => { mhc with dataSendIndex := 0 })
                (rest.drop len)
          | (ss, false) => (ss, false)
        else extHttpPostDataLoop fuel ss (rest.drop len)

/-- `__extHttpPostData`. -/
def extHttpPostData (ss : Session) (p : Pbuf) : Session × Bool :=
  extHttpPostDataLoop (2 * totLen p + 1) ss p.flatten

/-- Go to the pbuf where the body starts: drop the pbufs that lie wholly within the
first `offset` bytes. -/
def skipPbufs : Nat → Pbuf → Nat × Pbuf
  | offset, [] => (offset, [])
  | offset, q :: p => if q.length ≤ offset then skipPbufs (offset - q.length) p else (offset, q :: p)

/-- `pbuf_header(p, -offset)`. -/
def hideHeader (offset : Nat) : Pbuf → Pbuf
  | [] => []
  | q :: p => q.drop offset :: p

/-! ### Received data -/

/-- `UPLOAD_FORM_FILENAME`. -/
def formFilename : Bytes := str "filename"

/-- The file name in a part header, from behind `filename="` to the next quote. -/
def filenameAt (text : Bytes) : Bytes := (cstr text).takeWhile (· ≠ 34)

/-- `extNmosPostDataRecv`. -/
def extNmosPostDataRecv (mhc : ExtHttpConn) (p : Pbuf) : ExtHttpConn :=
  let copied := pbufCopyPartial p (min (totLen p) maxReqLength) 0
  { mhc with
    data := bufWrite mhc.data mhc.dataSendIndex (copied ++ [0])
    dataSendIndex := u16 (mhc.dataSendIndex + copied.length) }

/-- The first data of an upload, `_UPLOAD_STATUS_INIT`: look for the part header, open
the flash, and pass on what follows the header. -/
def uploadBegin (ss : Session) (p : Pbuf) : Session × Bool :=
  let len := min (totLen p) maxReqLength
  let ss := ss.set fun mhc => { mhc with data := bufWrite mhc.data 0 (pbufCopyPartial p len 0) }
  match lwipStrnstr (bufRead ss.mhc.data 0 len) formFilename len with
  | none => (ss.set fun mhc => { mhc with uploadStatus := .error }, false)
  | some position =>
      let ss := ss.set fun mhc => { mhc with
        filename := snprintf uriBufSize (filenameAt (mhc.data.drop (position + 10))) }
      if ss.mhc.filename = [] then
        (ss.set fun mhc =>
          let msg := str "Error: no file is transmitted"
          extHttpWebPageResult { mhc with uploadStatus := .error, uri := msg }
            (str "Upload Firmware") msg, true)
      else
        let ss := ss.set fun mhc => { mhc with uploadStatus := .copy }
        let ss := ss.viaUploadCtx extUploadOpen
        match lwipStrnstr (bufRead ss.mhc.data 0 len) crlfcrlf len with
        | none => (ss.fault .nullHeaderEnd, false)
        | some headerEnd =>
            let (offset, q) := skipPbufs (headerEnd + 4) p
            let ss := ss.set fun mhc => { mhc with dataSendIndex := 0 }
            -- `p` is NULL when the data ends with the part header
            if q = [] then (ss.fault .nullPbuf, false)
            else extHttpPostData ss (hideHeader offset q)

/-- `extHttpPostDataRecv`; whether it returned `EXIT_SUCCESS`. -/
def extHttpPostDataRecv (ss : Session) (p : Pbuf) : Session × Bool :=
  if ss.mhc.reqType = .rest then (ss.set fun mhc => extNmosPostDataRecv mhc p, true)
  else if ss.mhc.uploadStatus = .init then uploadBegin ss p
  else extHttpPostData ss p

/-- `extNmosPostDataFinished`. -/
def extNmosPostDataFinished (mhc : ExtHttpConn) : ExtHttpConn :=
  let uri := snprintf uriBufSize (cstr mhc.uri ++ str " will be implemented in future")
  extHttpRestError { mhc with uri } webResNotImp uri

/-- `extHttpPostDataFinished`: the POST is complete, or its connection is closed. -/
def extHttpPostDataFinished (ss : Session) : Session :=
  if ss.mhc.reqType = .rest then ss.set extNmosPostDataFinished
  else if ss.mhc.uploadStatus = .error ∨ ss.mhc.uploadStatus = .atEnd then ss
  else
    let (ss, found) := findEndingBoundary ss
    let total := decimal (ss.io.firmware.size + ss.mhc.dataSendIndex)
    let ss := ss.set fun mhc =>
      if found then
        { mhc with
          uri := snprintf uriBufSize (total ++ str " bytes uploaded for '" ++ cstr mhc.filename ++
            str "'") }
      else
        { mhc with
          uploadStatus := .error
          uri := snprintf uriBufSize (str "Error " ++ total ++ str " bytes uploaded for " ++
            cstr mhc.filename ++ str ", no boundary found") }
    let ss := ss.viaUploadCtx fun ss => (extUploadWrite ss ss.mhc.dataSendIndex).1
    let ss := ss.viaUploadCtx extUploadClose
    ss.set fun mhc =>
      updatePageResult { mhc with uploadCtx := false } (str "Upload Firmware") (cstr mhc.uri)

/-- `extHttpPostRxDataPbuf`; whether it returned `ERR_OK`. -/
def extHttpPostRxDataPbuf (ss : Session) (p : Pbuf) : Session × Bool :=
  let ss := ss.set fun mhc => { mhc with postDataLeft := mhc.postDataLeft - totLen p }
  match extHttpPostDataRecv ss p with
  | (ss, false) => (ss.set fun mhc => { mhc with postDataLeft := 0 }, false)
  | (ss, true) => (if ss.mhc.postDataLeft = 0 then extHttpPostDataFinished ss else ss, true)

/-! ### The request -/

/-- `HTTP_HDR_CONTENT_LEN`. -/
def contentLengthHeader : Bytes := str "Content-Length: "

/-- The digits `atoi` reads after white space and a sign. -/
def leadingNat (text : Bytes) : Nat :=
  (text.takeWhile fun b => 48 ≤ b ∧ b ≤ 57).foldl (fun n b => n * 10 + (b.toNat - 48)) 0

/-- `atoi`. -/
def atoi (text : Bytes) : Int :=
  match text.dropWhile fun b => b = 32 ∨ 9 ≤ b ∧ b ≤ 13 with
  | 45 :: digits => -(leadingNat digits : Int)
  | 43 :: digits => leadingNat digits
  | digits => leadingNat digits

/-- `extHttpParseContentLength` of the header block that ends at `headerEnd`; `none`
is the result `-1`. -/
def extHttpParseContentLength (mhc : ExtHttpConn) (data : Bytes) (headerEnd : Nat) :
    ExtHttpConn × Option Nat :=
  let refused := extHttpRestError mhc webResBadRequest (str "Content-Length is wrong")
  match lwipStrnstr data contentLengthHeader headerEnd with
  | none => (refused, none)
  | some position =>
      let number := data.drop (position + 16)
      if (lwipStrnstr number crlf 10).isNone then (refused, none)
      else
        let n := atoi number
        let notZero := n = 0 ∧ (number.getD 0 0 ≠ 48 ∨ number.getD 1 0 ≠ 13)
        if n < 0 ∨ notZero then (refused, none) else (mhc, some n.toNat)

/-- `HTTP_BUNDARY`. -/
def boundaryParam : Bytes := str "boundary="

/-- The boundary value: the text before the carriage return of its line. On an empty
line the precision of the `%.*s` is negative, and the text is printed whole. -/
def boundaryAt (text : Bytes) : Bytes :=
  if text.head? = some 10 then cstr text
  else ((text.takeWhile (· ≠ 10)).dropLast).takeWhile (· ≠ 0)

/-- URI of the only REST resource that takes a POST. -/
def sendersUri : Bytes := str "/x-nmos/connection/single/senders"

/-- `extNmosPostDataBegin`; whether the URI takes a POST. -/
def extNmosPostDataBegin (mhc : ExtHttpConn) : ExtHttpConn × Bool :=
  if isStringEqual mhc.uri sendersUri then (mhc, true)
  else (extHttpRestError mhc webResNotImp (str "POST is not support in this URI"), false)

/-- The part of `extHttpPostRequest` behind the checks: pass on the body bytes that
came with the header. -/
def passFirstData (ss : Session) (dataOffset contentLen : Nat) : Session × Bool :=
  let ss := ss.set fun mhc => { mhc with postDataLeft := contentLen }
  let req := ss.mhc.req.getD []
  let (offset, q) := skipPbufs dataOffset req
  if q ≠ [] then
    let body := hideHeader offset q
    -- the payload pointer moves in the queue, too, which holds the same pbufs
    let ss := ss.set fun mhc => { mhc with
      req := if q.length = req.length then some body else mhc.req }
    extHttpPostRxDataPbuf ss body
  else if contentLen = 0 then extHttpPostRxDataPbuf ss [[]]
  else (ss, true)

/-- `extHttpPostRequest`; whether it returned `EXIT_SUCCESS`. -/
def extHttpPostRequest (ss : Session) (data : Bytes) : Session × Bool :=
  let refuse (ss : Session) := (ss.set fun mhc => { mhc with uploadStatus := .error }, false)
  match lwipStrnstr data crlfcrlf data.length with
  | none => (ss, false)
  | some headerEnd =>
      match extHttpParseContentLength ss.mhc data headerEnd with
      | (mhc, none) => refuse { ss with mhc }
      | (mhc, some contentLen) =>
          let ss := { ss with mhc }
          let dataOffset := min data.length (headerEnd + 4)
          match lwipStrnstr data boundaryParam headerEnd with
          | some position =>
              let ss := ss.set fun mhc => { mhc with reqType := .upload }
              if isStringEqual ss.mhc.uri updateMcuUri ∨ isStringEqual ss.mhc.uri updateFpgaUri then
                let boundary := snprintf uriBufSize (boundaryAt (data.drop (position + 9)))
                let ss := ss.set fun mhc => { mhc with uploadCtx := true, boundary }
                passFirstData ss dataOffset contentLen
              else refuse ss
          | none =>
              let ss := ss.set fun mhc => { mhc with reqType := .rest }
              match extNmosPostDataBegin ss.mhc with
              | (mhc, true) => passFirstData { ss with mhc } dataOffset contentLen
              | (mhc, false) => ({ ss with mhc }, true)

end LwipExt.Http
