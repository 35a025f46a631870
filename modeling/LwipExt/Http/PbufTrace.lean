import LwipExt.Http.Request
import LwipExt.Lib.RefCount

/-!
What the receive path of the HTTP server does to the reference counts of pbufs.

Each function of the path is run with the numbers of the pbufs it is passed, and returns the
operations on them besides its result; the result is that of the function itself
(`extHttpRequestParseTraced_result`, `extHttpPostRxDataPbufTraced_fst`). `handed` records what
the callback passes to the POST handler.
-/

namespace LwipExt.Http

open Lib

/-- An operation on pbufs. -/
inductive PbufOp where
  | alloc (i : Nat)
  | ref (i : Nat)
  | cat (h t : Nat)
  | free (i : Nat)
  deriving DecidableEq, Repr

/-- The operation, with a bound for the chains it walks. -/
def PbufOp.apply (bound : Nat) (h : Heap Nat) : PbufOp → Heap Nat
  | .alloc i => h.allocate [i]
  | .ref i => h.retain i
  | .cat i j => Heap.link bound h i j
  | .free i => Heap.release bound h (some i)

/-- `pbuf_free` of a chain, by the numbers of its pbufs. -/
def freeChain (ids : List Nat) : List PbufOp := ids.head?.toList.map .free

/-! ### The POST handlers -/

/-- `__extHttpPostData`: the chain is freed when all of it was copied. -/
def extHttpPostDataTraced (ss : Session) (p : Pbuf) (ids : List Nat) :
    (Session × Bool) × List PbufOp :=
  let (ss, copied) := extHttpPostDataLoop (2 * totLen p + 1) ss p.flatten
  ((ss, copied), if copied then freeChain ids else [])

/-- The first data of an upload. The pbufs of the part header are left behind. -/
def uploadBeginTraced (ss : Session) (p : Pbuf) (ids : List Nat) :
    (Session × Bool) × List PbufOp :=
  let len := min (totLen p) maxReqLength
  let ss := ss.set fun mhc => { mhc with data := bufWrite mhc.data 0 (pbufCopyPartial p len 0) }
  match lwipStrnstr (bufRead ss.mhc.data 0 len) formFilename len with
  | none => ((ss.set fun mhc => { mhc with uploadStatus := .error }, false), [])
  | some position =>
      let ss := ss.set fun mhc => { mhc with
        filename := snprintf uriBufSize (filenameAt (mhc.data.drop (position + 10))) }
      if ss.mhc.filename = [] then
        ((ss.set fun mhc =>
          let msg := str "Error: no file is transmitted"
          extHttpWebPageResult { mhc with uploadStatus := .error, uri := msg }
            (str "Upload Firmware") msg, true), [])
      else
        let ss := ss.set fun mhc => { mhc with uploadStatus := .copy }
        let ss := ss.viaUploadCtx extUploadOpen
        match lwipStrnstr (bufRead ss.mhc.data 0 len) crlfcrlf len with
        | none => ((ss.fault .nullHeaderEnd, false), [])
        | some headerEnd =>
            let (offset, q) := skipPbufs (headerEnd + 4) p
            let ss := ss.set fun mhc => { mhc with dataSendIndex := 0 }
            if q = [] then ((ss.fault .nullPbuf, false), [])
            else extHttpPostDataTraced ss (hideHeader offset q) (ids.drop (p.length - q.length))

/-- `extHttpPostDataRecv`; `extNmosPostDataRecv` frees the chain in any case. -/
def extHttpPostDataRecvTraced (ss : Session) (p : Pbuf) (ids : List Nat) :
    (Session × Bool) × List PbufOp :=
  if ss.mhc.reqType = .rest then
    ((ss.set fun mhc => extNmosPostDataRecv mhc p, true), freeChain ids)
  else if ss.mhc.uploadStatus = .init then uploadBeginTraced ss p ids
  else extHttpPostDataTraced ss p ids

/-- `extHttpPostRxDataPbuf`. -/
def extHttpPostRxDataPbufTraced (ss : Session) (p : Pbuf) (ids : List Nat) :
    (Session × Bool) × List PbufOp :=
  let ss := ss.set fun mhc => { mhc with postDataLeft := mhc.postDataLeft - totLen p }
  match extHttpPostDataRecvTraced ss p ids with
  | ((ss, false), ops) => ((ss.set fun mhc => { mhc with postDataLeft := 0 }, false), ops)
  | ((ss, true), ops) =>
      ((if ss.mhc.postDataLeft = 0 then extHttpPostDataFinished ss else ss, true), ops)

/-! ### The request -/

/-- A result, with the operations on pbufs and what was passed to the POST handler. -/
structure Traced (α : Type) where
  result : α
  ops : List PbufOp := []
  handed : List (Session × Pbuf) := []

/-- A call of `extHttpPostRxDataPbuf` after some operations. -/
def handData (ops : List PbufOp) (ss : Session) (p : Pbuf) (ids : List Nat) :
    Traced (Session × Bool) :=
  let (result, ops') := extHttpPostRxDataPbufTraced ss p ids
  { result, ops := ops ++ ops', handed := [(ss, p)] }

/-- The end of `extHttpPostRequest`. The pbuf with the start of the body gets a second
reference; without such a pbuf, an empty one is made. -/
def passFirstDataTraced (ss : Session) (dataOffset contentLen : Nat) (queue : List Nat)
    (fresh : Nat) : Traced (Session × Bool) :=
  let ss := ss.set fun mhc => { mhc with postDataLeft := contentLen }
  let req := ss.mhc.req.getD []
  let (offset, q) := skipPbufs dataOffset req
  if q ≠ [] then
    let body := hideHeader offset q
    let ss := ss.set fun mhc => { mhc with
      req := if q.length = req.length then some body else mhc.req }
    let ids := queue.drop (req.length - q.length)
    handData (ids.head?.toList.map .ref) ss body ids
  else if contentLen = 0 then handData [.alloc fresh] ss [[]] [fresh]
  else { result := (ss, true) }

/-- `extHttpPostRequest`. -/
def extHttpPostRequestTraced (ss : Session) (data : Bytes) (queue : List Nat) (fresh : Nat) :
    Traced (Session × Bool) :=
  let refuse (ss : Session) : Traced (Session × Bool) :=
    { result := (ss.set fun mhc => { mhc with uploadStatus := .error }, false) }
  match lwipStrnstr data crlfcrlf data.length with
  | none => { result := (ss, false) }
  | some headerEnd =>
      match extHttpParseContentLength ss.mhc data headerEnd with
      | (mhc, none) => refuse { ss with mhc }
      | (mhc, some contentLen) =>
          let ss := { ss with mhc }
          let dataOffset := min data.length (headerEnd + 4)
          match lwipStrnstr data boundaryParam headerEnd with
          | some position =>
              let ss := ss.set fun mhc => { mhc with reqType := .upload }
              if isStringEqual ss.mhc.uri updateMcuUri ∨ isStringEqual ss.mhc.uri updateFpgaUri then
                let boundary := snprintf uriBufSize (boundaryAt (data.drop (position + 9)))
                let ss := ss.set fun mhc => { mhc with uploadCtx := true, boundary }
                passFirstDataTraced ss dataOffset contentLen queue fresh
              else refuse ss
          | none =>
              let ss := ss.set fun mhc => { mhc with reqType := .rest }
              match extNmosPostDataBegin ss.mhc with
              | (mhc, true) => passFirstDataTraced { ss with mhc } dataOffset contentLen queue fresh
              | (mhc, false) => { result := ({ ss with mhc }, true) }

/-- `_mHttpParseRequest`. -/
def mHttpParseRequestTraced (site : Site) (ss : Session) (data : Bytes) (chained : Bool)
    (queue : List Nat) (fresh : Nat) : Traced (Session × Bool) :=
  let (mhc, len) := mHttpParseMethod ss.mhc data
  let ss := { ss with mhc }
  if len = 0 then { result := (ss.set fun mhc => nulBehindMethod mhc chained, false) }
  else
    match mHttpParseUrl ss.mhc (data.drop len) with
    | (mhc, false) => { result := ({ ss with mhc }, false) }
    | (mhc, true) =>
        let ss := { ss with mhc }
        if ss.mhc.method = .post then extHttpPostRequestTraced ss data queue fresh
        else
          { result :=
              (ss.set fun mhc => { extHttpHandleRequest site mhc with postDataLeft := 0 }, true) }

/-- The numbers of the pbufs in `mhc->req` behind `extHttpRequestParse`. -/
def enqueued (ss : Session) (queue ids : List Nat) : List Nat :=
  if ss.mhc.handle.isSome ∨ ss.mhc.file.isSome then queue else queue ++ ids

/-- `pbuf_cat(mhc->req, p)` if there is a queue, and `pbuf_ref(p)`. -/
def enqueueOps (queue ids : List Nat) : List PbufOp :=
  match queue, ids with
  | i :: _, j :: _ => [.cat i j, .ref j]
  | [], j :: _ => [.ref j]
  | _, [] => []

/-- `extHttpRequestParse`. -/
def extHttpRequestParseTraced (site : Site) (ss : Session) (p : Pbuf) (stale : Bytes)
    (queue ids : List Nat) (fresh : Nat) : Traced (Session × TcpErr) :=
  if ss.mhc.handle.isSome ∨ ss.mhc.file.isSome then { result := (ss, .use) }
  else
    let req := ss.mhc.req.getD [] ++ p
    let ss := ss.set fun mhc => { mhc with req := some req }
    let chained : Bool := 1 < req.length
    let data := if chained then req.flatten.take maxReqLength else req.flatten
    let ss := if chained then
        ss.set fun mhc => { mhc with
          data := bufWrite mhc.data 0 data, contentLength := data.length }
      else ss
    let beyond := if chained then ss.mhc.data.drop data.length else stale
    let inProgress (ss : Session) : Session × TcpErr :=
      if totLen (ss.mhc.req.getD []) ≤ maxReqLength ∧ req.length ≤ reqQueueLen then
        (ss, .inProgress)
      else (ss, .arg)
    let enqueue := enqueueOps queue ids
    if data.length < minReqLen then { result := inProgress ss, ops := enqueue }
    else if (lwipStrnstr data crlf data.length).isNone then { result := (ss, .arg), ops := enqueue }
    else
      match extHttpWebSocketParseHeader site ss (data ++ beyond) with
      | (ss, true) => { result := (ss, .ok), ops := enqueue }
      | (ss, false) =>
          let parsed := mHttpParseRequestTraced site ss data chained (queue ++ ids) fresh
          let result := match parsed.result with
            | (ss, true) => (ss, .ok)
            | (ss, false) => inProgress ss
          { result, ops := enqueue ++ parsed.ops, handed := parsed.handed }

/-! ### The same results -/

theorem extHttpPostDataTraced_fst (ss : Session) (p : Pbuf) (ids : List Nat) :
    (extHttpPostDataTraced ss p ids).1 = extHttpPostData ss p := rfl

theorem uploadBeginTraced_fst (ss : Session) (p : Pbuf) (ids : List Nat) :
    (uploadBeginTraced ss p ids).1 = uploadBegin ss p := by
  unfold uploadBeginTraced uploadBegin
  simp only
  generalize lwipStrnstr _ formFilename _ = named
  cases named with
  | none => rfl
  | some position =>
      simp only
      split_ifs
      · rfl
      · generalize lwipStrnstr _ crlfcrlf _ = ended
        cases ended with
        | none => rfl
        | some headerEnd =>
            simp only
            split_ifs
            · rfl
            · exact extHttpPostDataTraced_fst _ _ _

theorem extHttpPostDataRecvTraced_fst (ss : Session) (p : Pbuf) (ids : List Nat) :
    (extHttpPostDataRecvTraced ss p ids).1 = extHttpPostDataRecv ss p := by
  unfold extHttpPostDataRecvTraced extHttpPostDataRecv
  split_ifs
  · rfl
  · exact uploadBeginTraced_fst ss p ids
  · rfl

theorem extHttpPostRxDataPbufTraced_fst (ss : Session) (p : Pbuf) (ids : List Nat) :
    (extHttpPostRxDataPbufTraced ss p ids).1 = extHttpPostRxDataPbuf ss p := by
  unfold extHttpPostRxDataPbufTraced extHttpPostRxDataPbuf
  simp only
  rw [← extHttpPostDataRecvTraced_fst _ p ids]
  split
  · rename_i eq
    rw [eq]
  · rename_i eq
    rw [eq]

theorem passFirstDataTraced_result (ss : Session) (dataOffset contentLen : Nat) (queue : List Nat)
    (fresh : Nat) : (passFirstDataTraced ss dataOffset contentLen queue fresh).result =
      passFirstData ss dataOffset contentLen := by
  unfold passFirstDataTraced passFirstData
  simp only
  split
  · exact extHttpPostRxDataPbufTraced_fst _ _ _
  · split
    · exact extHttpPostRxDataPbufTraced_fst _ _ _
    · rfl

theorem extHttpPostRequestTraced_result (ss : Session) (data : Bytes) (queue : List Nat)
    (fresh : Nat) : (extHttpPostRequestTraced ss data queue fresh).result =
      extHttpPostRequest ss data := by
  unfold extHttpPostRequestTraced extHttpPostRequest
  simp only
  generalize lwipStrnstr data crlfcrlf _ = ended
  cases ended with
  | none => rfl
  | some headerEnd =>
      simp only
      generalize extHttpParseContentLength _ data headerEnd = length
      obtain ⟨mhc, length⟩ := length
      cases length with
      | none => rfl
      | some contentLen =>
          simp only
          generalize lwipStrnstr data boundaryParam _ = boundary
          cases boundary with
          | some position =>
              simp only
              split_ifs
              · exact passFirstDataTraced_result _ _ _ _ _
              · rfl
          | none =>
              simp only
              generalize extNmosPostDataBegin _ = begins
              obtain ⟨mhc, begins⟩ := begins
              cases begins with
              | true => exact passFirstDataTraced_result _ _ _ _ _
              | false => rfl

theorem mHttpParseRequestTraced_result (site : Site) (ss : Session) (data : Bytes)
    (chained : Bool) (queue : List Nat) (fresh : Nat) :
    (mHttpParseRequestTraced site ss data chained queue fresh).result =
      mHttpParseRequest site ss data chained := by
  unfold mHttpParseRequestTraced mHttpParseRequest
  simp only
  split_ifs
  · rfl
  · generalize mHttpParseUrl _ _ = url
    obtain ⟨mhc, url⟩ := url
    cases url with
    | false => rfl
    | true =>
        simp only
        split_ifs
        · exact extHttpPostRequestTraced_result _ _ _ _
        · rfl

/-- **The traced parse is the parse.** -/
theorem extHttpRequestParseTraced_result (site : Site) (ss : Session) (p : Pbuf) (stale : Bytes)
    (queue ids : List Nat) (fresh : Nat) :
    (extHttpRequestParseTraced site ss p stale queue ids fresh).result =
      extHttpRequestParse site ss p stale := by
  unfold extHttpRequestParseTraced extHttpRequestParse
  split_ifs
  · rfl
  · simp only
    generalize extHttpWebSocketParseHeader site _ _ = header
    obtain ⟨ss', upgraded⟩ := header
    -- collected from several pbufs or not, the rest is the same
    split_ifs
    all_goals try rfl
    all_goals
      cases upgraded with
      | true => rfl
      | false =>
          simp only
          generalize traced : (mHttpParseRequestTraced site ss' _ _ _ fresh).result = result
          rw [mHttpParseRequestTraced_result] at traced
          obtain ⟨ss'', parsed⟩ := result
          cases parsed with
          | true => simp only [traced]
          | false => simp only [traced]

end LwipExt.Http
