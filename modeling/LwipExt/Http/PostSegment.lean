import LwipExt.Http.PostBody

/-!
One segment of a POST body: `extHttpPostRxDataPbuf` and `extHttpPostDataFinished` of
`exts/http/extHttpPost.c`.

`segment_rest` says what a segment of a REST body does. For an upload `segment_cases` tells a
segment that is only stored from one that finishes the upload, and the lemmas behind it say when the
flash is written and when the missing context is used.
-/

namespace LwipExt.Http

open Lib

/-- How often code called through `mhc->uploadCtx` while it was NULL. -/
def Session.nullUses (ss : Session) : Nat := ss.io.dataFaults.count .nullUploadCtx

/-- What the code that stores an upload keeps: the kind of the request, the context and the count,
and the flash is only added to. With a context there is no use of a NULL one. -/
structure Session.Uploads (ss ss' : Session) : Prop where
  reqType : ss'.mhc.reqType = ss.mhc.reqType
  uploadCtx : ss'.mhc.uploadCtx = ss.mhc.uploadCtx
  postDataLeft : ss'.mhc.postDataLeft = ss.mhc.postDataLeft
  index : ss.mhc.dataSendIndex < 65536 → ss'.mhc.dataSendIndex < 65536
  ops : ss.io.firmware.ops.length ≤ ss'.io.firmware.ops.length
  nullUses : ss.mhc.uploadCtx = true → ss'.nullUses = ss.nullUses

namespace Session.Uploads

variable {ss ss' ss'' : Session}

theorem refl (ss : Session) : Uploads ss ss := ⟨rfl, rfl, rfl, id, le_rfl, fun _ => rfl⟩

theorem trans (first : Uploads ss ss') (second : Uploads ss' ss'') : Uploads ss ss'' where
  reqType := second.reqType.trans first.reqType
  uploadCtx := second.uploadCtx.trans first.uploadCtx
  postDataLeft := second.postDataLeft.trans first.postDataLeft
  index small := second.index (first.index small)
  ops := first.ops.trans second.ops
  nullUses ctx := (second.nullUses (first.uploadCtx.trans ctx)).trans (first.nullUses ctx)

/-- Only fields of the connection are assigned. -/
theorem of_io (io : ss'.io = ss.io) (reqType : ss'.mhc.reqType = ss.mhc.reqType)
    (uploadCtx : ss'.mhc.uploadCtx = ss.mhc.uploadCtx)
    (postDataLeft : ss'.mhc.postDataLeft = ss.mhc.postDataLeft)
    (index : ss.mhc.dataSendIndex < 65536 → ss'.mhc.dataSendIndex < 65536) : Uploads ss ss' where
  reqType := reqType
  uploadCtx := uploadCtx
  postDataLeft := postDataLeft
  index := index
  ops := by rw [io]
  nullUses _ := by rw [Session.nullUses, Session.nullUses, io]

end Session.Uploads

/-- The status is what it was, or the end was found. -/
def Session.Found (ss ss' : Session) : Prop :=
  ss'.mhc.uploadStatus = ss.mhc.uploadStatus ∨ ss'.mhc.uploadStatus = .atEnd

theorem Session.Found.trans {ss ss' ss'' : Session} (first : ss.Found ss')
    (second : ss'.Found ss'') : ss.Found ss'' := by
  rcases second with same | ended
  · rcases first with same' | ended'
    · exact .inl (same.trans same')
    · exact .inr (same.trans ended')
  · exact .inr ended

/-! ### Blocks -/

section Blocks

theorem sub16_lt (a b : Nat) : sub16 a b < 65536 := by
  unfold sub16
  have bound : ((a : Int) - b) % 65536 < 65536 := Int.emod_lt_of_pos _ (by omega)
  change (((a : Int) - b) % 65536).toNat < 65536
  omega

variable (ss : Session)

theorem findEndingBoundary_uploads :
    ss.Uploads (findEndingBoundary ss).1 ∧ ss.Found (findEndingBoundary ss).1 := by
  unfold findEndingBoundary
  dsimp only
  split
  · exact ⟨.of_io rfl rfl rfl rfl fun _ => sub16_lt _ _, .inr rfl⟩
  · exact ⟨.refl ss, .inl rfl⟩

theorem findEndingBoundary_io : (findEndingBoundary ss).1.io = ss.io := by
  unfold findEndingBoundary
  dsimp only
  split
  · rfl
  · rfl

/-- A write is recorded, whether it succeeds or not. -/
theorem extUploadWrite_ops (size : Nat) :
    (extUploadWrite ss size).1.io.firmware.ops.length = ss.io.firmware.ops.length + 1 := by
  unfold extUploadWrite bspSpiFlashWrite
  dsimp only
  split
  · simp [Session.setFirmware]
  · simp [Session.setFirmware]

theorem extUploadWrite_uploads (size : Nat) :
    ss.Uploads (extUploadWrite ss size).1 ∧ ss.Found (extUploadWrite ss size).1 := by
  have longer := extUploadWrite_ops ss size
  have ops : ss.io.firmware.ops.length ≤ (extUploadWrite ss size).1.io.firmware.ops.length := by
    omega
  revert ops
  unfold extUploadWrite
  dsimp only
  split
  · exact fun ops => ⟨⟨rfl, rfl, rfl, id, ops, fun _ => rfl⟩, .inl rfl⟩
  · exact fun ops => ⟨⟨rfl, rfl, rfl, id, ops, fun _ => rfl⟩, .inl rfl⟩

/-- A block is written through the context. -/
theorem writeBlock_ops (ctx : ss.mhc.uploadCtx = true) :
    (writeBlock ss).1.io.firmware.ops.length = ss.io.firmware.ops.length + 1 := by
  have ctx' : (findEndingBoundary ss).1.mhc.uploadCtx = true :=
    (findEndingBoundary_uploads ss).1.uploadCtx.trans ctx
  unfold writeBlock
  dsimp only
  rw [if_pos ctx']
  dsimp only
  rw [extUploadWrite_ops, findEndingBoundary_io]

/-- Without a context a block goes to NULL. -/
theorem writeBlock_null (ctx : ss.mhc.uploadCtx = false) :
    (writeBlock ss).2 = false ∧ (writeBlock ss).1.nullUses = ss.nullUses + 1 := by
  have ctx' : (findEndingBoundary ss).1.mhc.uploadCtx = false :=
    (findEndingBoundary_uploads ss).1.uploadCtx.trans ctx
  unfold writeBlock
  dsimp only
  rw [if_neg (by rw [ctx']; nofun)]
  refine ⟨rfl, ?_⟩
  unfold Session.nullUses Session.fault
  rw [findEndingBoundary_io]
  simp

theorem writeBlock_uploads : ss.Uploads (writeBlock ss).1 ∧ ss.Found (writeBlock ss).1 := by
  obtain ⟨found, status⟩ := findEndingBoundary_uploads ss
  unfold writeBlock
  dsimp only
  split
  · obtain ⟨written, status'⟩ := extUploadWrite_uploads (findEndingBoundary ss).1
      (findEndingBoundary ss).1.mhc.dataSendIndex
    exact ⟨found.trans written, status.trans status'⟩
  · rename_i null
    refine ⟨found.trans ⟨rfl, rfl, rfl, id, le_rfl, fun ctx => absurd ctx null⟩, status⟩

end Blocks

/-! ### A segment of an upload -/

/-- That many bytes fill the block. -/
def fillsBlock (mhc : ExtHttpConn) (n : Nat) : Prop :=
  0 < n ∧ sub16 maxReqLength mhc.dataSendIndex ≤ n

section Loop

/-- A turn of the loop copies the bytes for which there is room. -/
def copyTurn (ss : Session) (rest : Bytes) : Session :=
  let chunk := rest.take (blockRoom rest.length ss.mhc.dataSendIndex)
  ss.set fun mhc => { mhc with
    data := bufWrite mhc.data mhc.dataSendIndex chunk
    dataSendIndex := u16 (mhc.dataSendIndex + chunk.length) }

theorem extHttpPostDataLoop_succ (fuel : Nat) (ss : Session) {rest : Bytes} (more : rest ≠ []) :
    extHttpPostDataLoop (fuel + 1) ss rest =
      if (copyTurn ss rest).mhc.dataSendIndex = maxReqLength then
        match writeBlock (copyTurn ss rest) with
        | (ss', true) =>
            extHttpPostDataLoop fuel (ss'.set fun mhc => { mhc with dataSendIndex := 0 })
              (rest.drop (blockRoom rest.length ss.mhc.dataSendIndex))
        | (ss', false) => (ss', false)
      else
        extHttpPostDataLoop fuel (copyTurn ss rest)
          (rest.drop (blockRoom rest.length ss.mhc.dataSendIndex)) := by
  rw [extHttpPostDataLoop, if_neg more]
  rfl

theorem copyTurn_uploads (ss : Session) (rest : Bytes) :
    ss.Uploads (copyTurn ss rest) ∧ ss.Found (copyTurn ss rest) :=
  ⟨.of_io rfl rfl rfl rfl fun _ => Nat.mod_lt _ (by decide), .inl rfl⟩

theorem extHttpPostDataLoop_uploads (fuel : Nat) (ss : Session) (rest : Bytes) :
    ss.Uploads (extHttpPostDataLoop fuel ss rest).1 ∧
      ss.Found (extHttpPostDataLoop fuel ss rest).1 := by
  induction fuel generalizing ss rest with
  | zero => exact ⟨.refl ss, .inl rfl⟩
  | succ fuel ih =>
      by_cases more : rest = []
      · rw [extHttpPostDataLoop, if_pos more]
        exact ⟨.refl ss, .inl rfl⟩
      rw [extHttpPostDataLoop_succ fuel ss more]
      obtain ⟨copied, status⟩ := copyTurn_uploads ss rest
      split
      · obtain ⟨wrote, found⟩ := writeBlock_uploads (copyTurn ss rest)
        generalize writeBlock (copyTurn ss rest) = written at wrote found
        obtain ⟨ss', ok⟩ := written
        cases ok with
        | false => exact ⟨copied.trans wrote, status.trans found⟩
        | true =>
            have reset : ss'.Uploads (ss'.set fun mhc => { mhc with dataSendIndex := 0 }) :=
              .of_io rfl rfl rfl rfl fun _ => Nat.zero_lt_succ _
            obtain ⟨onward, ends⟩ := ih (ss'.set fun mhc => { mhc with dataSendIndex := 0 })
              (rest.drop (blockRoom rest.length ss.mhc.dataSendIndex))
            exact ⟨(copied.trans wrote).trans (reset.trans onward),
              (status.trans found).trans ends⟩
      · obtain ⟨onward, ends⟩ := ih (copyTurn ss rest)
          (rest.drop (blockRoom rest.length ss.mhc.dataSendIndex))
        exact ⟨copied.trans onward, status.trans ends⟩

variable (ss : Session) (rest : Bytes) (small : ss.mhc.dataSendIndex < 65536)

include small

/-- Either the bytes fill the block in the first turn, or it copies all of them. -/
theorem copyTurn_full_iff (more : rest ≠ []) :
    ((copyTurn ss rest).mhc.dataSendIndex = maxReqLength ↔ fillsBlock ss.mhc rest.length) ∧
      (¬ fillsBlock ss.mhc rest.length →
        rest.drop (blockRoom rest.length ss.mhc.dataSendIndex) = []) := by
  have index : (copyTurn ss rest).mhc.dataSendIndex =
      (ss.mhc.dataSendIndex + min (blockRoom rest.length ss.mhc.dataSendIndex) rest.length) %
        65536 := by
    rw [← List.length_take]
    rfl
  have positive : 0 < rest.length := List.length_pos_iff.mpr more
  have size : maxReqLength = 3072 := rfl
  rw [index, List.drop_eq_nil_iff]
  unfold fillsBlock
  rcases Nat.lt_or_ge maxReqLength ss.mhc.dataSendIndex with beyond | within
  · have room : blockRoom rest.length ss.mhc.dataSendIndex =
        65536 + maxReqLength - ss.mhc.dataSendIndex := by
      have bound : min (rest.length : Int) ((maxReqLength : Int) - ss.mhc.dataSendIndex) =
          (maxReqLength : Int) - ss.mhc.dataSendIndex := by
        omega
      unfold blockRoom
      rw [bound]
      exact sub16_of_lt beyond (by omega)
    rw [room, sub16_of_lt beyond (by omega)]
    omega
  · have room : blockRoom rest.length ss.mhc.dataSendIndex =
        min rest.length (maxReqLength - ss.mhc.dataSendIndex) := by
      have bound : (min (rest.length : Int) ((maxReqLength : Int) - ss.mhc.dataSendIndex)) =
          ((min rest.length (maxReqLength - ss.mhc.dataSendIndex) : Nat) : Int) := by
        omega
      unfold blockRoom
      rw [bound]
      change (((min rest.length (maxReqLength - ss.mhc.dataSendIndex) : Nat) : Int) %
        65536).toNat = _
      omega
    rw [room, sub16_of_le within (by omega)]
    omega

/-- Bytes that do not fill the block are only copied. -/
theorem extHttpPostDataLoop_copies (fuel : Nat) (copies : ¬ fillsBlock ss.mhc rest.length) :
    (extHttpPostDataLoop (fuel + 1) ss rest).2 = true ∧
      (extHttpPostDataLoop (fuel + 1) ss rest).1.io = ss.io ∧
      (extHttpPostDataLoop (fuel + 1) ss rest).1.mhc.uploadStatus = ss.mhc.uploadStatus := by
  by_cases more : rest = []
  · rw [extHttpPostDataLoop, if_pos more]
    exact ⟨rfl, rfl, rfl⟩
  obtain ⟨full, all⟩ := copyTurn_full_iff ss rest small more
  rw [extHttpPostDataLoop_succ fuel ss more, if_neg (fun filled => copies (full.mp filled)),
    all copies]
  cases fuel with
  | zero => exact ⟨rfl, rfl, rfl⟩
  | succ fuel =>
      rw [extHttpPostDataLoop, if_pos rfl]
      exact ⟨rfl, rfl, rfl⟩

/-- Bytes that fill the block are written through the context. -/
theorem extHttpPostDataLoop_writes (fuel : Nat) (fills : fillsBlock ss.mhc rest.length)
    (ctx : ss.mhc.uploadCtx = true) :
    ss.io.firmware.ops.length <
      (extHttpPostDataLoop (fuel + 1) ss rest).1.io.firmware.ops.length := by
  have more : rest ≠ [] := List.length_pos_iff.mp fills.1
  have copied := (copyTurn_uploads ss rest).1
  have longer := writeBlock_ops (copyTurn ss rest) (copied.uploadCtx.trans ctx)
  have same : (copyTurn ss rest).io.firmware = ss.io.firmware := rfl
  rw [same] at longer
  have full := (copyTurn_full_iff ss rest small more).1.mpr fills
  rw [extHttpPostDataLoop_succ fuel ss more, if_pos full]
  generalize writeBlock (copyTurn ss rest) = written at longer
  obtain ⟨ss', ok⟩ := written
  cases ok with
  | false =>
      dsimp only at longer ⊢
      omega
  | true =>
      have onward := (extHttpPostDataLoop_uploads fuel
        (ss'.set fun mhc => { mhc with dataSendIndex := 0 })
        (rest.drop (blockRoom rest.length ss.mhc.dataSendIndex))).1.ops
      rw [Session.set_io] at onward
      dsimp only at longer ⊢
      omega

/-- Without a context they go to NULL. -/
theorem extHttpPostDataLoop_null (fuel : Nat) (fills : fillsBlock ss.mhc rest.length)
    (ctx : ss.mhc.uploadCtx = false) :
    (extHttpPostDataLoop (fuel + 1) ss rest).2 = false ∧
      (extHttpPostDataLoop (fuel + 1) ss rest).1.nullUses = ss.nullUses + 1 := by
  have more : rest ≠ [] := List.length_pos_iff.mp fills.1
  have copied := (copyTurn_uploads ss rest).1
  obtain ⟨failed, used⟩ := writeBlock_null (copyTurn ss rest) (copied.uploadCtx.trans ctx)
  have full := (copyTurn_full_iff ss rest small more).1.mpr fills
  rw [extHttpPostDataLoop_succ fuel ss more, if_pos full]
  generalize writeBlock (copyTurn ss rest) = written at failed used
  obtain ⟨ss', ok⟩ := written
  cases ok with
  | false => exact ⟨rfl, used⟩
  | true => cases failed

end Loop

section Upload

variable (ss : Session) (p : Pbuf)

/-- A call through the context does not change it. -/
theorem viaUploadCtx_uploads {call : Session → Session} (uploads : ss.Uploads (call ss)) :
    ss.Uploads (ss.viaUploadCtx call) := by
  unfold Session.viaUploadCtx
  split
  · exact uploads
  · rename_i null
    exact ⟨rfl, rfl, rfl, id, le_rfl, fun ctx => absurd ctx null⟩

theorem extUploadOpen_uploads :
    ss.Uploads (ss.viaUploadCtx extUploadOpen) ∧
      (ss.viaUploadCtx extUploadOpen).mhc.uploadStatus = ss.mhc.uploadStatus := by
  have opened : ss.Uploads (extUploadOpen ss) :=
    ⟨rfl, rfl, rfl, id, by simp [extUploadOpen, Session.setFirmware, firmwareUpdateInit],
      fun _ => rfl⟩
  refine ⟨viaUploadCtx_uploads ss opened, ?_⟩
  unfold Session.viaUploadCtx
  split
  · rfl
  · rfl

/-- A NULL pointer that is not the context is used. -/
theorem fault_uploads {f : DataFault} (other : f ≠ .nullUploadCtx) : ss.Uploads (ss.fault f) := by
  refine ⟨rfl, rfl, rfl, id, le_rfl, fun _ => ?_⟩
  unfold Session.nullUses Session.fault
  simp [other]

theorem extHttpPostData_uploads :
    ss.Uploads (extHttpPostData ss p).1 ∧ ss.Found (extHttpPostData ss p).1 :=
  extHttpPostDataLoop_uploads _ ss _

/-- The first data of an upload leaves `_UPLOAD_STATUS_INIT`. -/
theorem uploadBegin_uploads :
    ss.Uploads (uploadBegin ss p).1 ∧ (uploadBegin ss p).1.mhc.uploadStatus ≠ .init := by
  have passed {t t' : Session} (uploads : ss.Uploads t) (copying : t.mhc.uploadStatus = .copy)
      (onward : t.Uploads t' ∧ t.Found t') : ss.Uploads t' ∧ t'.mhc.uploadStatus ≠ .init := by
    refine ⟨uploads.trans onward.1, ?_⟩
    rcases onward.2 with same | ended
    · rw [same, copying]
      nofun
    · rw [ended]
      nofun
  unfold uploadBegin
  dsimp only
  split
  · exact ⟨.of_io rfl rfl rfl rfl id, nofun⟩
  split
  · exact ⟨.of_io rfl rfl rfl rfl fun _ => Nat.zero_lt_succ _, nofun⟩
  -- the part header names a file: the flash is opened
  rw [Session.set, Session.set, Session.set]
  generalize named : Session.mk _ _ = t
  have begun : ss.Uploads t ∧ t.mhc.uploadStatus = .copy := by
    rw [← named]
    exact ⟨.of_io rfl rfl rfl rfl id, rfl⟩
  obtain ⟨opened, copying⟩ := extUploadOpen_uploads t
  have opened' := begun.1.trans opened
  have copying' := copying.trans begun.2
  have placed : (t.viaUploadCtx extUploadOpen).Uploads
      ((t.viaUploadCtx extUploadOpen).set fun mhc => { mhc with dataSendIndex := 0 }) :=
    .of_io rfl rfl rfl rfl fun _ => Nat.zero_lt_succ _
  split
  · exact passed opened' copying' ⟨fault_uploads _ nofun, .inl rfl⟩
  · split
    · exact passed opened' copying' ⟨placed.trans (fault_uploads _ nofun), .inl rfl⟩
    · exact passed (opened'.trans placed) copying' (extHttpPostData_uploads _ _)

/-- Any data of an upload. -/
theorem extHttpPostDataRecv_uploads (upload : ss.mhc.reqType = .upload) :
    ss.Uploads (extHttpPostDataRecv ss p).1 ∧
      (extHttpPostDataRecv ss p).1.mhc.uploadStatus ≠ .init := by
  unfold extHttpPostDataRecv
  rw [if_neg (by rw [upload]; nofun)]
  split
  · exact uploadBegin_uploads ss p
  · rename_i begun
    obtain ⟨uploads, same | ended⟩ := extHttpPostData_uploads ss p
    · refine ⟨uploads, ?_⟩
      rwa [same]
    · refine ⟨uploads, ?_⟩
      rw [ended]
      nofun

end Upload

/-! ### The end of an upload -/

/-- `extHttpPostDataFinished` has something to do. -/
def ExtHttpConn.Unfinished (mhc : ExtHttpConn) : Prop :=
  mhc.reqType = .rest ∨ ¬ (mhc.uploadStatus = .error ∨ mhc.uploadStatus = .atEnd)

instance (mhc : ExtHttpConn) : Decidable mhc.Unfinished :=
  inferInstanceAs (Decidable (_ ∨ _))

section Finished

variable {ss : Session}

theorem extHttpPostDataFinished_rest (rest : ss.mhc.reqType = .rest) :
    extHttpPostDataFinished ss = ss.set extNmosPostDataFinished := by
  unfold extHttpPostDataFinished
  rw [if_pos rest]

theorem extHttpPostDataFinished_idle (finished : ¬ ss.mhc.Unfinished) :
    extHttpPostDataFinished ss = ss := by
  unfold ExtHttpConn.Unfinished at finished
  unfold extHttpPostDataFinished
  rw [if_neg (fun rest => finished (.inl rest)),
    if_pos (by by_contra handled; exact finished (.inr handled))]

theorem extNmosPostDataFinished_kept (mhc : ExtHttpConn) :
    (extNmosPostDataFinished mhc).reqType = .rest ∧
      (extNmosPostDataFinished mhc).postDataLeft = mhc.postDataLeft := by
  exact ⟨rfl, rfl⟩

/-- What finishing an upload leaves. -/
structure Session.Completed (ss ss' : Session) : Prop where
  reqType : ss'.mhc.reqType = ss.mhc.reqType
  uploadCtx : ss'.mhc.uploadCtx = false
  handled : ss'.mhc.uploadStatus = .error ∨ ss'.mhc.uploadStatus = .atEnd
  index : ss'.mhc.dataSendIndex < 65536
  ops : ss.io.firmware.ops.length < ss'.io.firmware.ops.length
  nullUses : ss'.nullUses = ss.nullUses

/-- The status when the boundary was searched for. -/
theorem findEndingBoundary_found (ss : Session) (found : (findEndingBoundary ss).2 = true) :
    (findEndingBoundary ss).1.mhc.uploadStatus = .atEnd := by
  revert found
  unfold findEndingBoundary
  dsimp only
  split
  · exact fun _ => rfl
  · nofun

/-- The close of the flash is recorded. -/
theorem extUploadClose_uploads (ss : Session) : ss.Uploads (extUploadClose ss) := by
  refine ⟨rfl, rfl, rfl, id, ?_, fun _ => rfl⟩
  unfold extUploadClose firmwareUpdateEnd Session.setFirmware
  dsimp only
  split
  · simp only [List.length_append]
    omega
  · simp only [List.length_append]
    omega

/-- The result page does not touch what the count depends on. -/
theorem updatePageResult_kept (mhc : ExtHttpConn) (title msg : Bytes) :
    ∃ page length, updatePageResult mhc title msg = { mhc with
      updateProgress := page, updateLength := length, updateIndex := 0
      httpStatusCode := webResRequestOk } :=
  ⟨_, _, rfl⟩

/-- What is left is written, then the flash is closed. -/
theorem finishUpload_uploads (ctx : ss.mhc.uploadCtx = true) :
    let written := ss.viaUploadCtx fun ss => (extUploadWrite ss ss.mhc.dataSendIndex).1
    ss.Uploads (written.viaUploadCtx extUploadClose) ∧
      ss.Found (written.viaUploadCtx extUploadClose) ∧
      ss.io.firmware.ops.length <
        (written.viaUploadCtx extUploadClose).io.firmware.ops.length := by
  intro written
  have written_eq : written = (extUploadWrite ss ss.mhc.dataSendIndex).1 := if_pos ctx
  obtain ⟨writes, status⟩ := extUploadWrite_uploads ss ss.mhc.dataSendIndex
  have longer := extUploadWrite_ops ss ss.mhc.dataSendIndex
  rw [← written_eq] at writes status longer
  have closed : written.viaUploadCtx extUploadClose = extUploadClose written :=
    if_pos (writes.uploadCtx.trans ctx)
  have closes := extUploadClose_uploads written
  have grown := closes.ops
  rw [closed]
  refine ⟨writes.trans closes, status, ?_⟩
  omega

theorem extHttpPostDataFinished_completed (upload : ss.mhc.reqType = .upload)
    (unfinished : ss.mhc.Unfinished) (ctx : ss.mhc.uploadCtx = true)
    (small : ss.mhc.dataSendIndex < 65536) :
    ss.Completed (extHttpPostDataFinished ss) ∧
      (extHttpPostDataFinished ss).mhc.postDataLeft = ss.mhc.postDataLeft := by
  have notRest : ¬ ss.mhc.reqType = .rest := by
    rw [upload]
    nofun
  have searched := (findEndingBoundary_uploads ss).1
  have atEnd := findEndingBoundary_found ss
  unfold extHttpPostDataFinished
  rw [if_neg notRest, if_neg (unfinished.resolve_left notRest)]
  generalize findEndingBoundary ss = search at searched atEnd
  obtain ⟨ss', found⟩ := search
  dsimp only at searched atEnd ⊢
  generalize named : ss'.set _ = t
  obtain ⟨uri, told⟩ : ∃ uri, t = ss'.set fun mhc => { mhc with
      uploadStatus := if found then mhc.uploadStatus else .error, uri } := by
    rw [← named]
    cases found with
    | true => exact ⟨_, rfl⟩
    | false => exact ⟨_, rfl⟩
  have handled : t.mhc.uploadStatus = .error ∨ t.mhc.uploadStatus = .atEnd := by
    rw [told]
    cases found with
    | true => exact .inr (atEnd rfl)
    | false => exact .inl rfl
  have named' : ss'.Uploads t := by
    rw [told]
    exact .of_io rfl rfl rfl rfl id
  have uploads := searched.trans named'
  obtain ⟨finishes, status, longer⟩ := finishUpload_uploads (uploads.uploadCtx.trans ctx)
  have all := uploads.trans finishes
  generalize (t.viaUploadCtx _).viaUploadCtx _ = t' at all status longer
  obtain ⟨page, length, shown⟩ := updatePageResult_kept { t'.mhc with uploadCtx := false }
    (str "Upload Firmware") (cstr t'.mhc.uri)
  rw [Session.set, shown]
  refine ⟨⟨all.reqType, rfl, ?_, all.index small, ?_, all.nullUses ctx⟩, all.postDataLeft⟩
  · rcases status with same | ended
    · rcases handled with error | done
      · exact .inl (same.trans error)
      · exact .inr (same.trans done)
    · exact .inr ended
  · exact lt_of_le_of_lt uploads.ops longer

end Finished

/-! ### A segment -/

/-- How often a call of `extHttpPostDataFinished` takes effect. -/
def finishesOf (mhc : ExtHttpConn) : Nat := if mhc.Unfinished then 1 else 0

/-- The segment is counted. -/
def counted (ss : Session) (p : Pbuf) : Session :=
  ss.set fun mhc => { mhc with postDataLeft := mhc.postDataLeft - totLen p }

/-- How often a segment finishes the request. -/
def segmentFinishes (ss : Session) (p : Pbuf) : Nat :=
  match extHttpPostDataRecv (counted ss p) p with
  | (_, false) => 0
  | (ss, true) => if ss.mhc.postDataLeft = 0 then finishesOf ss.mhc else 0

section Received

variable {ss ss' : Session} {p : Pbuf}

theorem rxDataPbuf_eq (ss : Session) (p : Pbuf) :
    extHttpPostRxDataPbuf ss p =
      match extHttpPostDataRecv (counted ss p) p with
      | (ss, false) => (ss.set fun mhc => { mhc with postDataLeft := 0 }, false)
      | (ss, true) =>
          (if ss.mhc.postDataLeft = 0 then extHttpPostDataFinished ss else ss, true) := rfl

/-- Data that was not accepted ends the count. -/
theorem rxDataPbuf_refused (received : extHttpPostDataRecv (counted ss p) p = (ss', false)) :
    (extHttpPostRxDataPbuf ss p).1 = ss'.set (fun mhc => { mhc with postDataLeft := 0 }) ∧
      segmentFinishes ss p = 0 := by
  rw [rxDataPbuf_eq, segmentFinishes, received]
  exact ⟨rfl, rfl⟩

theorem rxDataPbuf_more (received : extHttpPostDataRecv (counted ss p) p = (ss', true))
    (more : ss'.mhc.postDataLeft ≠ 0) :
    (extHttpPostRxDataPbuf ss p).1 = ss' ∧ segmentFinishes ss p = 0 := by
  rw [rxDataPbuf_eq, segmentFinishes, received]
  exact ⟨if_neg more, if_neg more⟩

theorem rxDataPbuf_done (received : extHttpPostDataRecv (counted ss p) p = (ss', true))
    (done : ss'.mhc.postDataLeft = 0) :
    (extHttpPostRxDataPbuf ss p).1 = extHttpPostDataFinished ss' ∧
      segmentFinishes ss p = finishesOf ss'.mhc := by
  rw [rxDataPbuf_eq, segmentFinishes, received]
  exact ⟨if_pos done, if_pos done⟩

end Received

/-- A segment of a REST body finishes the request whenever it finds the count at zero. -/
theorem segment_rest {ss : Session} (rest : ss.mhc.reqType = .rest) (p : Pbuf) :
    (extHttpPostRxDataPbuf ss p).1.mhc.reqType = .rest ∧
      (extHttpPostRxDataPbuf ss p).1.mhc.postDataLeft = ss.mhc.postDataLeft - totLen p ∧
      (extHttpPostRxDataPbuf ss p).1.io = ss.io ∧
      segmentFinishes ss p = if ss.mhc.postDataLeft - totLen p = 0 then 1 else 0 := by
  have received : extHttpPostDataRecv (counted ss p) p =
      ((counted ss p).set fun mhc => extNmosPostDataRecv mhc p, true) := if_pos rest
  by_cases done : ss.mhc.postDataLeft - totLen p = 0
  · obtain ⟨finished, count⟩ := rxDataPbuf_done received done
    have rest' : ((counted ss p).set fun mhc => extNmosPostDataRecv mhc p).mhc.reqType = .rest :=
      rest
    obtain ⟨reqType, left⟩ :=
      extNmosPostDataFinished_kept ((counted ss p).set fun mhc => extNmosPostDataRecv mhc p).mhc
    rw [finished, count, extHttpPostDataFinished_rest rest', if_pos done]
    exact ⟨reqType, left, rfl, if_pos (.inl rest)⟩
  · obtain ⟨stored, count⟩ := rxDataPbuf_more received done
    rw [stored, count, if_neg done]
    exact ⟨rest, rfl, rfl, rfl⟩

section Upload

variable {ss : Session} (p : Pbuf)

/-- A segment that did not finish the upload. -/
structure Stored (ss ss' : Session) (p : Pbuf) : Prop where
  reqType : ss'.mhc.reqType = ss.mhc.reqType
  uploadCtx : ss'.mhc.uploadCtx = ss.mhc.uploadCtx
  count : ss'.mhc.postDataLeft ≤ ss.mhc.postDataLeft - totLen p
  index : ss'.mhc.dataSendIndex < 65536
  ops : ss.io.firmware.ops.length ≤ ss'.io.firmware.ops.length
  nullUses : ss.mhc.uploadCtx = true → ss'.nullUses = ss.nullUses
  begun : ss'.mhc.uploadStatus ≠ .init
  cleared : ss.mhc.uploadCtx = false →
    ss'.mhc.uploadStatus = .error ∨ ss'.mhc.uploadStatus = .atEnd

theorem begun_of_handled {status : UploadStatus} (handled : status = .error ∨ status = .atEnd) :
    status ≠ .init := by
  rcases handled with rfl | rfl
  · nofun
  · nofun

/-- The first data and what follows are told apart by the status. -/
theorem recv_upload_eq (upload : ss.mhc.reqType = .upload) (begun : ss.mhc.uploadStatus ≠ .init) :
    extHttpPostDataRecv (counted ss p) p = extHttpPostData (counted ss p) p := by
  have notRest : ¬ (counted ss p).mhc.reqType = .rest := by
    change ss.mhc.reqType ≠ .rest
    rw [upload]
    nofun
  unfold extHttpPostDataRecv
  rw [if_neg notRest]
  exact if_neg begun

/-- A segment is stored, and it may be the one that finishes the upload. -/
theorem segment_cases (upload : ss.mhc.reqType = .upload) (small : ss.mhc.dataSendIndex < 65536)
    (cleared : ss.mhc.uploadCtx = false →
      ss.mhc.uploadStatus = .error ∨ ss.mhc.uploadStatus = .atEnd) :
    segmentFinishes ss p = 0 ∧ Stored ss (extHttpPostRxDataPbuf ss p).1 p ∨
      segmentFinishes ss p = 1 ∧ ss.mhc.uploadCtx = true ∧ ss.mhc.postDataLeft - totLen p = 0 ∧
        (extHttpPostRxDataPbuf ss p).1.mhc.postDataLeft = 0 ∧
        ss.Completed (extHttpPostRxDataPbuf ss p).1 := by
  have uploads := extHttpPostDataRecv_uploads (counted ss p) p upload
  have kept : ss.mhc.uploadCtx = false →
      (extHttpPostDataRecv (counted ss p) p).1.mhc.uploadStatus = .error ∨
        (extHttpPostDataRecv (counted ss p) p).1.mhc.uploadStatus = .atEnd := by
    intro null
    have handled := cleared null
    rw [recv_upload_eq p upload (begun_of_handled handled)]
    rcases (extHttpPostData_uploads (counted ss p) p).2 with same | ended
    · rw [same]
      exact handled
    · exact .inr ended
  generalize received : extHttpPostDataRecv (counted ss p) p = result at uploads kept
  obtain ⟨ss', ok⟩ := result
  obtain ⟨uploads, begun⟩ := uploads
  dsimp only at uploads begun kept
  have stored (n : Nat) (count : n ≤ ss.mhc.postDataLeft - totLen p) :
      Stored ss (ss'.set fun mhc => { mhc with postDataLeft := n }) p :=
    ⟨uploads.reqType, uploads.uploadCtx, count, uploads.index small, uploads.ops,
      uploads.nullUses, begun, kept⟩
  have whole : Stored ss ss' p := stored ss'.mhc.postDataLeft (le_of_eq uploads.postDataLeft)
  cases ok with
  | false =>
      obtain ⟨refused, count⟩ := rxDataPbuf_refused received
      rw [refused, count]
      exact .inl ⟨rfl, stored 0 (Nat.zero_le _)⟩
  | true =>
      by_cases more : ss'.mhc.postDataLeft ≠ 0
      · obtain ⟨passed, count⟩ := rxDataPbuf_more received more
        rw [passed, count]
        exact .inl ⟨rfl, whole⟩
      have done : ss'.mhc.postDataLeft = 0 := not_not.mp more
      obtain ⟨finished, count⟩ := rxDataPbuf_done received done
      rw [finished, count]
      unfold finishesOf
      by_cases unfinished : ss'.mhc.Unfinished
      · have upload' : ss'.mhc.reqType = .upload := uploads.reqType.trans upload
        have notRest : ¬ ss'.mhc.reqType = .rest := by
          rw [upload']
          nofun
        have open_ : ss.mhc.uploadCtx = true := by
          by_contra null
          exact unfinished.resolve_left notRest (kept (Bool.eq_false_iff.mpr null))
        obtain ⟨completed, same⟩ := extHttpPostDataFinished_completed upload' unfinished
          (uploads.uploadCtx.trans open_) (uploads.index small)
        rw [if_pos unfinished]
        refine .inr ⟨rfl, open_, uploads.postDataLeft.symm.trans done, same.trans done, ?_⟩
        exact ⟨completed.reqType.trans uploads.reqType, completed.uploadCtx, completed.handled,
          completed.index, lt_of_le_of_lt uploads.ops completed.ops,
          completed.nullUses.trans (uploads.nullUses open_)⟩
      · rw [if_neg unfinished, extHttpPostDataFinished_idle unfinished]
        exact .inl ⟨rfl, whole⟩

/-- Without a context, data that fills the block goes to NULL. -/
theorem segment_null (upload : ss.mhc.reqType = .upload) (begun : ss.mhc.uploadStatus ≠ .init)
    (small : ss.mhc.dataSendIndex < 65536) (null : ss.mhc.uploadCtx = false)
    (fills : fillsBlock ss.mhc (totLen p)) :
    (extHttpPostRxDataPbuf ss p).1.nullUses = ss.nullUses + 1 := by
  obtain ⟨failed, used⟩ := extHttpPostDataLoop_null (counted ss p) p.flatten small
    (2 * totLen p) fills null
  have received : extHttpPostDataRecv (counted ss p) p = _ := recv_upload_eq p upload begun
  rw [extHttpPostData] at received
  generalize extHttpPostDataLoop (2 * totLen p + 1) (counted ss p) p.flatten = result
    at failed used received
  obtain ⟨ss', ok⟩ := result
  obtain rfl : ok = false := failed
  rw [(rxDataPbuf_refused received).1]
  exact used

/-- Whether the data was accepted or not, what it wrote stays written. -/
theorem ops_le_rxDataPbuf (ss : Session) (upload : ss.mhc.reqType = .upload)
    (open_ : (extHttpPostDataRecv (counted ss p) p).1.mhc.uploadCtx = true)
    (small : (extHttpPostDataRecv (counted ss p) p).1.mhc.dataSendIndex < 65536) :
    (extHttpPostDataRecv (counted ss p) p).1.io.firmware.ops.length ≤
      (extHttpPostRxDataPbuf ss p).1.io.firmware.ops.length := by
  have upload' := (extHttpPostDataRecv_uploads (counted ss p) p upload).1.reqType.trans upload
  generalize received : extHttpPostDataRecv (counted ss p) p = result at *
  obtain ⟨ss', ok⟩ := result
  cases ok with
  | false =>
      rw [(rxDataPbuf_refused received).1]
      exact le_rfl
  | true =>
      by_cases more : ss'.mhc.postDataLeft ≠ 0
      · rw [(rxDataPbuf_more received more).1]
      · rw [(rxDataPbuf_done received (not_not.mp more)).1]
        by_cases unfinished : ss'.mhc.Unfinished
        · exact (extHttpPostDataFinished_completed upload' unfinished open_ small).1.ops.le
        · rw [extHttpPostDataFinished_idle unfinished]

/-- With a context, data that fills the block is written. -/
theorem segment_writes (upload : ss.mhc.reqType = .upload) (begun : ss.mhc.uploadStatus ≠ .init)
    (small : ss.mhc.dataSendIndex < 65536) (ctx : ss.mhc.uploadCtx = true)
    (fills : fillsBlock ss.mhc (totLen p)) :
    ss.io.firmware.ops.length < (extHttpPostRxDataPbuf ss p).1.io.firmware.ops.length := by
  have uploads := (extHttpPostDataRecv_uploads (counted ss p) p upload).1
  have kept := ops_le_rxDataPbuf p ss upload (uploads.uploadCtx.trans ctx) (uploads.index small)
  have wrote := extHttpPostDataLoop_writes (counted ss p) p.flatten small
    (2 * totLen p) fills ctx
  rw [recv_upload_eq p upload begun] at kept
  exact lt_of_lt_of_le wrote kept

variable (upload : ss.mhc.reqType = .upload) (begun : ss.mhc.uploadStatus ≠ .init)
  (small : ss.mhc.dataSendIndex < 65536) (copies : ¬ fillsBlock ss.mhc (totLen p))

include upload begun small copies

/-- Data that does not fill the block is only copied. -/
theorem recv_copies :
    ∃ ss', extHttpPostDataRecv (counted ss p) p = (ss', true) ∧ ss'.io = ss.io ∧
      ss'.mhc.reqType = .upload ∧ ss'.mhc.uploadStatus = ss.mhc.uploadStatus ∧
      ss'.mhc.postDataLeft = ss.mhc.postDataLeft - totLen p := by
  obtain ⟨ok, io, status⟩ := extHttpPostDataLoop_copies (counted ss p) p.flatten
    small (2 * totLen p) copies
  have uploads := (extHttpPostDataRecv_uploads (counted ss p) p upload).1
  have received := recv_upload_eq p upload begun
  rw [received] at uploads
  exact ⟨_, received.trans (Prod.ext rfl ok), io, uploads.reqType.trans upload, status,
    uploads.postDataLeft⟩

/-- An upload that is done stays so. -/
theorem segment_idle (handled : ss.mhc.uploadStatus = .error ∨ ss.mhc.uploadStatus = .atEnd) :
    (extHttpPostRxDataPbuf ss p).1.io = ss.io ∧ segmentFinishes ss p = 0 := by
  obtain ⟨ss', received, io, upload', status, -⟩ := recv_copies p upload begun small copies
  have finished : ¬ ss'.mhc.Unfinished := by
    rintro (rest | unhandled)
    · rw [upload'] at rest
      cases rest
    · rw [status] at unhandled
      exact unhandled handled
  by_cases more : ss'.mhc.postDataLeft ≠ 0
  · obtain ⟨passed, count⟩ := rxDataPbuf_more received more
    rw [passed, count]
    exact ⟨io, rfl⟩
  · obtain ⟨ended, count⟩ := rxDataPbuf_done received (not_not.mp more)
    rw [ended, count, extHttpPostDataFinished_idle finished]
    exact ⟨io, if_neg finished⟩

/-- An upload that is not done is finished by data at a count of zero. -/
theorem segment_finishes
    (unhandled : ¬ (ss.mhc.uploadStatus = .error ∨ ss.mhc.uploadStatus = .atEnd))
    (done : ss.mhc.postDataLeft - totLen p = 0) : segmentFinishes ss p = 1 := by
  obtain ⟨ss', received, -, -, status, left⟩ := recv_copies p upload begun small copies
  rw [(rxDataPbuf_done received (left.trans done)).2]
  rw [← status] at unhandled
  exact if_pos (.inr unhandled)

end Upload

end LwipExt.Http
