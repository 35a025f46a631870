import LwipExt.Http.PostSegment
import LwipExt.Http.Send

/-!
The end of a POST: `extHttpPostRxDataPbuf`, `extHttpPostDataFinished` and
`_extHttpConnCloseOrAbort`.

A `PostRun` follows one request from the end of its header on. Segments of any size arrive, before
and after the announced `Content-Length` is exhausted, replies are sent, and the connection is
closed; `Good` is what one of these steps should do. `post_finished_once_iff` says which runs have
only good steps.
-/

namespace LwipExt.Http

open Lib

/-! ### The run -/

/-- What `extHttpSend` sends for a POST. -/
def sendPost (ss : Session) : Session :=
  if ss.mhc.reqType = .rest ∧ ss.mhc.isFinished then
    if ss.mhc.contentLength = ss.mhc.dataSendIndex ∨ ss.mhc.contentLength = 0 then ss
    else (sendRestData ss).1
  else if ss.mhc.reqType = .upload ∧ 1 ≤ ss.mhc.uploadStatus.rank then
    let len := sub16 ss.mhc.updateLength ss.mhc.updateIndex
    if 0 < len then (writeSome ss (bufRead ss.mhc.updateProgress 0 len) len).1 else ss
  else ss

/-- What happens to a connection that receives a POST: `retries` is assigned, a segment arrives,
something is sent while TCP answers as `tcp`, the result page counts as sent, the connection is
closed. -/
inductive PostEvent where
  | retries (n : Nat)
  | segment (p : Pbuf)
  | send (tcp : Tcp)
  | pageSent
  | close

/-- A POST request: how much of the announced body has not arrived, whether the body was complete
before now, and how often `extHttpPostDataFinished` took effect. -/
structure PostRun where
  ss : Session
  left : Nat
  late : Bool := false
  finishes : Nat := 0
  live : Bool := true

namespace PostRun

/-- The request at the end of its header. -/
def begin (ss : Session) : PostRun := { ss, left := ss.mhc.postDataLeft }

/-- How often the close of the connection finishes the request. -/
def closeFinishes (mhc : ExtHttpConn) : Nat := if mhc.postDataLeft ≠ 0 then finishesOf mhc else 0

/-- One event. A closed connection has none. -/
def step (st : PostRun) (e : PostEvent) : PostRun :=
  if st.live then
    match e with
    | .retries n => { st with ss := st.ss.set fun mhc => { mhc with retries := n } }
    | .segment p => { st with
        ss := (extHttpPostRxDataPbuf st.ss p).1
        left := st.left - totLen p
        late := st.left - totLen p = 0
        finishes := st.finishes + segmentFinishes st.ss p }
    | .send tcp => { st with ss := sendPost { st.ss with io := { st.ss.io with tcp } } }
    | .pageSent => { st with ss := st.ss.set fun mhc => { mhc with updateLength := 0 } }
    | .close => { st with
        ss := finishBeforeClose st.ss
        finishes := st.finishes + closeFinishes st.ss.mhc
        live := false }
  else st

/-- A step does what it should: the count does not go up, the request has been finished at most
once, no context is used that is not there, and data behind the body does not touch the image. -/
structure Good (st : PostRun) (e : PostEvent) : Prop where
  count : (st.step e).ss.mhc.postDataLeft ≤ st.ss.mhc.postDataLeft
  once : (st.step e).finishes ≤ 1
  context : (st.step e).ss.nullUses = st.ss.nullUses
  image : st.late → (st.step e).ss.io.firmware = st.ss.io.firmware

/-- Data behind a REST body must not arrive. Data behind the body of an upload, or for an upload
whose context was cleared, must not fill the block, and the upload must be done. -/
def Harmless (st : PostRun) : PostEvent → Prop
  | .segment p =>
      st.live →
        if st.ss.mhc.reqType = .rest then st.late = false
        else
          (st.ss.mhc.uploadCtx = false ∨ st.late → ¬ fillsBlock st.ss.mhc (totLen p)) ∧
            (st.late → st.ss.mhc.uploadStatus = .error ∨ st.ss.mhc.uploadStatus = .atEnd)
  | _ => True

/-- A request as `extHttpPostRequest` leaves it. -/
structure Accepted (ss : Session) : Prop where
  kind : ss.mhc.reqType = .rest ∨
    ss.mhc.reqType = .upload ∧ (ss.mhc.uploadCtx = true ∨ ss.mhc.uploadStatus = .error)
  index : ss.mhc.dataSendIndex < 65536

/-- What holds of an upload on an open connection. -/
structure Uploading (st : PostRun) : Prop where
  index : st.ss.mhc.dataSendIndex < 65536
  behind : st.ss.mhc.postDataLeft ≤ st.left
  ended : st.late → st.left = 0
  begun : st.late → st.ss.mhc.uploadStatus ≠ .init
  cleared : st.ss.mhc.uploadCtx = false →
    st.ss.mhc.uploadStatus = .error ∨ st.ss.mhc.uploadStatus = .atEnd
  finished : st.finishes = 1 → st.ss.mhc.uploadCtx = false ∧ st.ss.mhc.postDataLeft = 0

/-- What holds of a REST body on an open connection. -/
structure Resting (st : PostRun) : Prop where
  exact : st.ss.mhc.postDataLeft = st.left
  ended : st.late → st.left = 0
  finished : st.finishes = if st.late then 1 else 0

/-- What holds in every state of a run with good steps. -/
structure Sound (st : PostRun) : Prop where
  once : st.finishes ≤ 1
  open_ : st.live → st.ss.mhc.reqType = .rest ∧ st.Resting ∨
    st.ss.mhc.reqType = .upload ∧ st.Uploading

/-! ### What is sent, and the close -/

/-- What does not concern the body. -/
structure Aside (ss ss' : Session) : Prop where
  firmware : ss'.io.firmware = ss.io.firmware
  dataFaults : ss'.io.dataFaults = ss.io.dataFaults
  reqType : ss'.mhc.reqType = ss.mhc.reqType
  uploadStatus : ss'.mhc.uploadStatus = ss.mhc.uploadStatus
  uploadCtx : ss'.mhc.uploadCtx = ss.mhc.uploadCtx
  postDataLeft : ss'.mhc.postDataLeft = ss.mhc.postDataLeft
  index : ss.mhc.reqType = .upload → ss'.mhc.dataSendIndex = ss.mhc.dataSendIndex

theorem Aside.refl (ss : Session) : Aside ss ss := ⟨rfl, rfl, rfl, rfl, rfl, rfl, fun _ => rfl⟩

theorem Aside.trans {ss ss' ss'' : Session} (first : Aside ss ss') (second : Aside ss' ss'') :
    Aside ss ss'' where
  firmware := second.firmware.trans first.firmware
  dataFaults := second.dataFaults.trans first.dataFaults
  reqType := second.reqType.trans first.reqType
  uploadStatus := second.uploadStatus.trans first.uploadStatus
  uploadCtx := second.uploadCtx.trans first.uploadCtx
  postDataLeft := second.postDataLeft.trans first.postDataLeft
  index upload := (second.index (first.reqType.trans upload)).trans (first.index upload)

theorem Aside.nullUses {ss ss' : Session} (aside : Aside ss ss') : ss'.nullUses = ss.nullUses := by
  unfold Session.nullUses
  rw [aside.dataFaults]

theorem extHttpWrite_aside (ss : Session) (ptr : Bytes) (length : Nat) :
    Aside ss (extHttpWrite ss ptr length).1 := ⟨rfl, rfl, rfl, rfl, rfl, rfl, fun _ => rfl⟩

theorem extHttpSendOneHeader_aside (ss : Session) (hdr : Bytes) (size : Nat) :
    Aside ss (extHttpSendOneHeader ss hdr size).1 := by
  have written := extHttpWrite_aside ss hdr hdr.length
  unfold extHttpSendOneHeader
  dsimp only
  split
  · exact .refl ss
  · split
    · exact written
    · exact written

theorem sendRestData_aside (ss : Session) (rest : ss.mhc.reqType = .rest) :
    Aside ss (sendRestData ss).1 := by
  have headers : Aside ss (sendRestHeaders ss) := by
    unfold sendRestHeaders
    exact ((extHttpSendOneHeader_aside _ _ _).trans (extHttpSendOneHeader_aside _ _ _)).trans
      (extHttpSendOneHeader_aside _ _ _)
  have body (ss : Session) (rest : ss.mhc.reqType = .rest) : Aside ss (sendRestBody ss).1 := by
    have noUpload : ss.mhc.reqType ≠ .upload := by
      rw [rest]
      nofun
    unfold sendRestBody
    dsimp only
    split
    · exact ⟨rfl, rfl, rfl, rfl, rfl, rfl, fun upload => absurd upload noUpload⟩
    · exact ⟨rfl, rfl, rfl, rfl, rfl, rfl, fun upload => absurd upload noUpload⟩
  unfold sendRestData
  split
  · exact headers.trans (body _ (headers.reqType.trans rest))
  · exact body ss rest

theorem sendPost_aside (ss : Session) : Aside ss (sendPost ss) := by
  unfold sendPost
  split
  · rename_i rest
    split
    · exact .refl ss
    · exact sendRestData_aside ss rest.1
  · split
    · dsimp only
      split
      · exact ⟨rfl, rfl, rfl, rfl, rfl, rfl, fun _ => rfl⟩
      · exact .refl ss
    · exact .refl ss

theorem aside_send (ss : Session) (tcp : Tcp) :
    Aside ss (sendPost { ss with io := { ss.io with tcp } }) :=
  let armed : Session := { ss with io := { ss.io with tcp } }
  have same : Aside ss armed := ⟨rfl, rfl, rfl, rfl, rfl, rfl, fun _ => rfl⟩
  same.trans (sendPost_aside armed)

theorem aside_retries (ss : Session) (n : Nat) :
    Aside ss (ss.set fun mhc => { mhc with retries := n }) :=
  ⟨rfl, rfl, rfl, rfl, rfl, rfl, fun _ => rfl⟩

theorem aside_pageSent (ss : Session) :
    Aside ss (ss.set fun mhc => { mhc with updateLength := 0 }) :=
  ⟨rfl, rfl, rfl, rfl, rfl, rfl, fun _ => rfl⟩

/-- Before the connection of a POST is closed, the POST is finished if a part of it is missing. -/
theorem finishBeforeClose_post {ss : Session}
    (kind : ss.mhc.reqType = .rest ∨ ss.mhc.reqType = .upload) :
    finishBeforeClose ss =
      if ss.mhc.postDataLeft ≠ 0 then extHttpPostDataFinished ss else ss := by
  have finished := (extHttpPostDataFinished_sameSend ss).reqType
  have plain : ss.mhc.reqType ≠ .webSocket := by
    rcases kind with rest | upload
    · rw [rest]
      nofun
    · rw [upload]
      nofun
  unfold finishBeforeClose
  by_cases missing : ss.mhc.postDataLeft ≠ 0
  · rw [if_pos missing]
    exact if_neg (by rwa [finished])
  · rw [if_neg missing]
    exact if_neg plain

/-! ### The runs without harm -/

section Step

variable {st : PostRun}

theorem step_closed (closed : st.live = false) (e : PostEvent) : st.step e = st := by
  unfold step
  rw [closed]
  rfl

theorem good_closed (closed : st.live = false) {e : PostEvent} :
    Good st e ↔ st.finishes ≤ 1 := by
  constructor
  · intro good
    have once := good.once
    rwa [step_closed closed] at once
  · intro once
    refine ⟨?_, ?_, ?_, ?_⟩
    · rw [step_closed closed]
    · rwa [step_closed closed]
    · rw [step_closed closed]
    · rw [step_closed closed]
      exact fun _ => rfl

/-- What does not concern the body is no harm. -/
theorem aside_good {ss : Session} {e : PostEvent} (aside : Aside st.ss ss)
    (stepped : st.step e = { st with ss }) (once : st.finishes ≤ 1) : Good st e := by
  refine ⟨?_, ?_, ?_, ?_⟩
  · rw [stepped]
    exact aside.postDataLeft.le
  · rw [stepped]
    exact once
  · rw [stepped]
    exact aside.nullUses
  · rw [stepped]
    exact fun _ => aside.firmware

theorem aside_sound {ss : Session} (aside : Aside st.ss ss) (sound : st.Sound) :
    Sound { st with ss } := by
  refine ⟨sound.once, fun live => ?_⟩
  rcases sound.open_ live with ⟨rest, resting⟩ | ⟨upload, uploading⟩
  · exact .inl ⟨aside.reqType.trans rest, aside.postDataLeft.trans resting.exact, resting.ended,
      resting.finished⟩
  · refine .inr ⟨aside.reqType.trans upload, ?_, ?_, uploading.ended, ?_, ?_, ?_⟩
    · rw [aside.index upload]
      exact uploading.index
    · rw [aside.postDataLeft]
      exact uploading.behind
    · rw [aside.uploadStatus]
      exact uploading.begun
    · rw [aside.uploadCtx, aside.uploadStatus]
      exact uploading.cleared
    · rw [aside.uploadCtx, aside.postDataLeft]
      exact uploading.finished

theorem close_step (live : st.live) :
    st.step .close = { st with
      ss := finishBeforeClose st.ss
      finishes := st.finishes + closeFinishes st.ss.mhc
      live := false } := if_pos live

theorem close_live (live : st.live) : (st.step .close).live = false := by rw [close_step live]

/-- Closing the connection has nothing to finish. -/
theorem close_idle_good (live : st.live) (once : st.finishes ≤ 1)
    (same : finishBeforeClose st.ss = st.ss) (none : closeFinishes st.ss.mhc = 0) :
    Good st .close := by
  refine ⟨?_, ?_, ?_, ?_⟩
  · rw [close_step live, same]
  · rw [close_step live, none]
    exact once
  · rw [close_step live, same]
  · rw [close_step live, same]
    exact fun _ => rfl

theorem closeFinishes_le (mhc : ExtHttpConn) : closeFinishes mhc ≤ 1 := by
  unfold closeFinishes finishesOf
  split
  · split
    · exact le_rfl
    · exact Nat.zero_le 1
  · exact Nat.zero_le 1

/-- A REST body of which a part is missing is finished by the close. -/
theorem close_rest_good (live : st.live) (rest : st.ss.mhc.reqType = .rest)
    (resting : st.Resting) (missing : st.ss.mhc.postDataLeft ≠ 0) : Good st .close := by
  have finished : finishBeforeClose st.ss = st.ss.set extNmosPostDataFinished := by
    rw [finishBeforeClose_post (.inl rest), if_pos missing, extHttpPostDataFinished_rest rest]
  have early : ¬ st.late := fun late => missing (resting.exact.trans (resting.ended late))
  have none : st.finishes = 0 := resting.finished.trans (if_neg early)
  refine ⟨?_, ?_, ?_, ?_⟩
  · rw [close_step live, finished]
    exact (extNmosPostDataFinished_kept st.ss.mhc).2.le
  · rw [close_step live, none, Nat.zero_add]
    exact closeFinishes_le st.ss.mhc
  · rw [close_step live, finished]
    rfl
  · exact fun late => absurd late early

theorem Uploading.open_of_unfinished (upload : st.ss.mhc.reqType = .upload)
    (uploading : st.Uploading) (unfinished : st.ss.mhc.Unfinished) :
    st.ss.mhc.uploadCtx = true := by
  have notRest : ¬ st.ss.mhc.reqType = .rest := by
    rw [upload]
    nofun
  by_contra null
  exact unfinished.resolve_left notRest (uploading.cleared (Bool.eq_false_iff.mpr null))

/-- An upload of which a part is missing is finished by the close, unless it is done. -/
theorem close_upload_good (live : st.live) (once : st.finishes ≤ 1)
    (upload : st.ss.mhc.reqType = .upload) (uploading : st.Uploading)
    (missing : st.ss.mhc.postDataLeft ≠ 0) : Good st .close := by
  have finished : finishBeforeClose st.ss = extHttpPostDataFinished st.ss := by
    rw [finishBeforeClose_post (.inr upload), if_pos missing]
  by_cases unfinished : st.ss.mhc.Unfinished
  · have early : ¬ st.late := by
      intro late
      have bound := uploading.behind
      rw [uploading.ended late] at bound
      omega
    have none : st.finishes ≠ 1 := fun one => missing (uploading.finished one).2
    have first := closeFinishes_le st.ss.mhc
    obtain ⟨completed, left⟩ := extHttpPostDataFinished_completed upload unfinished
      (uploading.open_of_unfinished upload unfinished) uploading.index
    refine ⟨?_, ?_, ?_, ?_⟩
    · rw [close_step live, finished]
      exact left.le
    · rw [close_step live]
      dsimp only
      omega
    · rw [close_step live, finished]
      exact completed.nullUses
    · exact fun late => absurd late early
  · rw [extHttpPostDataFinished_idle unfinished] at finished
    refine close_idle_good live once finished ?_
    unfold closeFinishes finishesOf
    rw [if_pos missing, if_neg unfinished]

/-- Closing the connection finishes the request at most once. -/
theorem close_good (sound : st.Sound) : Good st .close := by
  cases live : st.live with
  | false =>
      rw [good_closed live]
      exact sound.once
  | true =>
      by_cases missing : st.ss.mhc.postDataLeft ≠ 0
      · rcases sound.open_ live with ⟨rest, resting⟩ | ⟨upload, uploading⟩
        · exact close_rest_good live rest resting missing
        · exact close_upload_good live sound.once upload uploading missing
      · have kind := (sound.open_ live).imp And.left And.left
        refine close_idle_good live sound.once ?_ (if_neg missing)
        rw [finishBeforeClose_post kind, if_neg missing]

theorem segment_step (live : st.live) (p : Pbuf) :
    st.step (.segment p) = { st with
      ss := (extHttpPostRxDataPbuf st.ss p).1
      left := st.left - totLen p
      late := st.left - totLen p = 0
      finishes := st.finishes + segmentFinishes st.ss p } := if_pos live

/-- The request and its first segment. -/
theorem begin_segment (ss : Session) (p : Pbuf) :
    ((begin ss).step (.segment p)).ss = (extHttpPostRxDataPbuf ss p).1 := by
  rw [segment_step (show (begin ss).live from rfl)]
  rfl

/-- A segment of a REST body. -/
theorem rest_good_iff (live : st.live) (rest : st.ss.mhc.reqType = .rest)
    (resting : st.Resting) (p : Pbuf) : Good st (.segment p) ↔ st.late = false := by
  obtain ⟨-, left, io, count⟩ := segment_rest rest p
  have counted := resting.finished
  constructor
  · intro good
    by_contra late
    have late : st.late = true := Bool.not_eq_false _ ▸ late
    have once := good.once
    rw [segment_step live] at once
    dsimp only at once
    rw [count, resting.exact, resting.ended late, Nat.zero_sub, if_pos rfl, counted,
      if_pos late] at once
    omega
  · intro early
    rw [early, if_neg nofun] at counted
    refine ⟨?_, ?_, ?_, ?_⟩
    · rw [segment_step live]
      exact left.le.trans (Nat.sub_le _ _)
    · rw [segment_step live]
      dsimp only
      rw [count, counted]
      split
      · exact le_rfl
      · exact Nat.zero_le 1
    · rw [segment_step live]
      unfold Session.nullUses
      rw [io]
    · intro late
      rw [early] at late
      cases late

/-- Before the body of an upload is complete, a segment does no harm as long as the context is
there. -/
theorem upload_good_of_early (live : st.live) (once : st.finishes ≤ 1)
    (upload : st.ss.mhc.reqType = .upload) (uploading : st.Uploading) (early : ¬ st.late)
    (ctx : st.ss.mhc.uploadCtx = true) (p : Pbuf) : Good st (.segment p) := by
  have none : st.finishes ≠ 1 := by
    intro one
    rw [(uploading.finished one).1] at ctx
    cases ctx
  rcases segment_cases p upload uploading.index uploading.cleared with
    ⟨count, stored⟩ | ⟨count, -, -, left, completed⟩
  · refine ⟨?_, ?_, ?_, fun late => absurd late early⟩
    · rw [segment_step live]
      exact stored.count.trans (Nat.sub_le _ _)
    · rw [segment_step live, count]
      exact once
    · rw [segment_step live]
      exact stored.nullUses ctx
  · refine ⟨?_, ?_, ?_, fun late => absurd late early⟩
    · rw [segment_step live]
      exact left.le.trans (Nat.zero_le _)
    · rw [segment_step live]
      dsimp only
      omega
    · rw [segment_step live]
      exact completed.nullUses

/-- A segment that does not fill the block does no harm to an upload that is done. -/
theorem upload_good_of_handled (live : st.live) (once : st.finishes ≤ 1)
    (upload : st.ss.mhc.reqType = .upload) (uploading : st.Uploading)
    (handled : st.ss.mhc.uploadStatus = .error ∨ st.ss.mhc.uploadStatus = .atEnd) (p : Pbuf)
    (copies : ¬ fillsBlock st.ss.mhc (totLen p)) : Good st (.segment p) := by
  obtain ⟨io, count⟩ := segment_idle p upload (begun_of_handled handled) uploading.index copies
    handled
  refine ⟨?_, ?_, ?_, ?_⟩
  · rw [segment_step live]
    rcases segment_cases p upload uploading.index uploading.cleared with ⟨-, stored⟩ | ⟨one, -⟩
    · exact stored.count.trans (Nat.sub_le _ _)
    · rw [count] at one
      cases one
  · rw [segment_step live, count]
    exact once
  · rw [segment_step live]
    unfold Session.nullUses
    rw [io]
  · rw [segment_step live]
    intro _
    rw [io]

/-- A good step behind the body writes nothing. -/
theorem not_good_of_writes (live : st.live) (late : st.late) {p : Pbuf}
    (writes : st.ss.io.firmware.ops.length <
      (extHttpPostRxDataPbuf st.ss p).1.io.firmware.ops.length) : ¬ Good st (.segment p) := by
  intro good
  have same := good.image late
  rw [segment_step live] at same
  dsimp only at same
  rw [same] at writes
  exact lt_irrefl _ writes

/-- A segment of an upload. -/
theorem upload_good_iff (live : st.live) (once : st.finishes ≤ 1)
    (upload : st.ss.mhc.reqType = .upload) (uploading : st.Uploading) (p : Pbuf) :
    Good st (.segment p) ↔
      (st.ss.mhc.uploadCtx = false ∨ st.late → ¬ fillsBlock st.ss.mhc (totLen p)) ∧
        (st.late → st.ss.mhc.uploadStatus = .error ∨ st.ss.mhc.uploadStatus = .atEnd) := by
  constructor
  · intro good
    have handled : st.late →
        st.ss.mhc.uploadStatus = .error ∨ st.ss.mhc.uploadStatus = .atEnd := by
      intro late
      by_contra unhandled
      have begun := uploading.begun late
      have open_ := uploading.open_of_unfinished upload (.inr unhandled)
      refine not_good_of_writes live late ?_ good
      by_cases fills : fillsBlock st.ss.mhc (totLen p)
      · exact segment_writes p upload begun uploading.index open_ fills
      · have done : st.ss.mhc.postDataLeft - totLen p = 0 := by
          have bound := uploading.behind
          rw [uploading.ended late] at bound
          omega
        have one := segment_finishes p upload begun uploading.index fills unhandled done
        rcases segment_cases p upload uploading.index uploading.cleared with
          ⟨count, -⟩ | ⟨-, -, -, -, completed⟩
        · rw [one] at count
          cases count
        · exact completed.ops
    refine ⟨?_, handled⟩
    intro either fills
    cases ctx : st.ss.mhc.uploadCtx with
    | false =>
        have context := good.context
        rw [segment_step live] at context
        dsimp only at context
        rw [segment_null p upload (begun_of_handled (uploading.cleared ctx)) uploading.index ctx
          fills] at context
        omega
    | true =>
        rw [ctx] at either
        have late : st.late := either.resolve_left nofun
        refine not_good_of_writes live late ?_ good
        exact segment_writes p upload (uploading.begun late) uploading.index ctx fills
  · rintro ⟨copies, handled⟩
    by_cases late : st.late
    · exact upload_good_of_handled live once upload uploading (handled late) p (copies (.inr late))
    · cases ctx : st.ss.mhc.uploadCtx with
      | false =>
          exact upload_good_of_handled live once upload uploading (uploading.cleared ctx) p
            (copies (.inl ctx))
      | true => exact upload_good_of_early live once upload uploading late ctx p

/-- What makes a step good. -/
theorem good_iff (sound : st.Sound) (e : PostEvent) : Good st e ↔ Harmless st e := by
  cases live : st.live with
  | false =>
      rw [good_closed live]
      refine iff_of_true sound.once ?_
      cases e with
      | segment p => exact fun open_ => absurd open_ (by rw [live]; nofun)
      | retries n => trivial
      | send tcp => trivial
      | pageSent => trivial
      | close => trivial
  | true =>
      cases e with
      | retries n =>
          exact iff_of_true (aside_good (aside_retries st.ss n) (if_pos live) sound.once) trivial
      | send tcp =>
          exact iff_of_true (aside_good (aside_send st.ss tcp) (if_pos live) sound.once) trivial
      | pageSent =>
          exact iff_of_true (aside_good (aside_pageSent st.ss) (if_pos live) sound.once) trivial
      | close => exact iff_of_true (close_good sound) trivial
      | segment p =>
          unfold Harmless
          dsimp only
          rcases sound.open_ live with ⟨rest, resting⟩ | ⟨upload, uploading⟩
          · rw [rest_good_iff live rest resting p, if_pos rest]
            exact ⟨fun early _ => early, fun early => early live⟩
          · have notRest : ¬ st.ss.mhc.reqType = .rest := by
              rw [upload]
              nofun
            rw [upload_good_iff live sound.once upload uploading p, if_neg notRest]
            exact ⟨fun harmless _ => harmless, fun harmless => harmless live⟩

/-- A segment of a REST body that is not behind its end. -/
theorem rest_sound (live : st.live) (rest : st.ss.mhc.reqType = .rest)
    (resting : st.Resting) (p : Pbuf) (good : Good st (.segment p)) :
    (st.step (.segment p)).Sound := by
  have early := (rest_good_iff live rest resting p).mp good
  obtain ⟨rest', left, -, count⟩ := segment_rest rest p
  have none : st.finishes = 0 := resting.finished.trans (if_neg (by rw [early]; nofun))
  refine ⟨good.once, fun _ => .inl ?_⟩
  rw [segment_step live]
  refine ⟨rest', ?_, ?_, ?_⟩
  · exact left.trans (by rw [resting.exact])
  · exact fun late => of_decide_eq_true late
  · dsimp only
    rw [none, count, resting.exact, Nat.zero_add]
    exact if_congr decide_eq_true_iff.symm rfl rfl

/-- A segment of an upload. -/
theorem upload_sound (live : st.live) (upload : st.ss.mhc.reqType = .upload)
    (uploading : st.Uploading) (p : Pbuf) (good : Good st (.segment p)) :
    (st.step (.segment p)).Sound := by
  have once := good.once
  have bound := uploading.behind
  refine ⟨once, fun _ => .inr ?_⟩
  rw [segment_step live] at once ⊢
  dsimp only at once ⊢
  rcases segment_cases p upload uploading.index uploading.cleared with
    ⟨count, stored⟩ | ⟨count, open_, done, left, completed⟩
  · refine ⟨stored.reqType.trans upload, stored.index, ?_, ?_, ?_, ?_, ?_⟩
    · exact stored.count.trans (Nat.sub_le_sub_right bound _)
    · exact fun late => of_decide_eq_true late
    · exact fun _ => stored.begun
    · intro null
      exact stored.cleared (stored.uploadCtx.symm.trans null)
    · dsimp only
      rw [count, Nat.add_zero]
      intro one
      obtain ⟨null, zero⟩ := uploading.finished one
      refine ⟨stored.uploadCtx.trans null, ?_⟩
      have less := stored.count
      omega
  · refine ⟨completed.reqType.trans upload, completed.index, ?_, ?_, ?_, ?_, ?_⟩
    · exact left.le.trans (Nat.zero_le _)
    · exact fun late => of_decide_eq_true late
    · exact fun _ => begun_of_handled completed.handled
    · exact fun _ => completed.handled
    · exact fun _ => ⟨completed.uploadCtx, left⟩

/-- A good step keeps what holds of the run. -/
theorem sound_step (sound : st.Sound) (e : PostEvent) (good : Good st e) : (st.step e).Sound := by
  cases live : st.live with
  | false =>
      rw [step_closed live]
      exact sound
  | true =>
      cases e with
      | retries n =>
          have stepped : st.step (.retries n) = { st with ss := _ } := if_pos live
          rw [stepped]
          exact aside_sound (aside_retries st.ss n) sound
      | send tcp =>
          have stepped : st.step (.send tcp) = { st with ss := _ } := if_pos live
          rw [stepped]
          exact aside_sound (aside_send st.ss tcp) sound
      | pageSent =>
          have stepped : st.step .pageSent = { st with ss := _ } := if_pos live
          rw [stepped]
          exact aside_sound (aside_pageSent st.ss) sound
      | close =>
          refine ⟨good.once, fun open_ => ?_⟩
          rw [close_live live] at open_
          cases open_
      | segment p =>
          rcases sound.open_ live with ⟨rest, resting⟩ | ⟨upload, uploading⟩
          · exact rest_sound live rest resting p good
          · exact upload_sound live upload uploading p good

/-- A request that was accepted. -/
theorem sound_begin {ss : Session} (accepted : Accepted ss) : (begin ss).Sound := by
  refine ⟨Nat.zero_le 1, fun _ => ?_⟩
  rcases accepted.kind with rest | ⟨upload, ctx⟩
  · exact .inl ⟨rest, rfl, nofun, rfl⟩
  · refine .inr ⟨upload, accepted.index, le_rfl, nofun, nofun, ?_, nofun⟩
    intro null
    refine .inl (ctx.resolve_left fun open_ => ?_)
    exact absurd (open_.symm.trans null) nofun

end Step

end PostRun

open PostRun in
/-- **A POST is finished once.** In every run of an accepted request all steps are good exactly
when no segment comes behind a REST body, and a segment that comes behind the body of an upload, or
to an upload whose context was cleared, does not fill the block and finds the upload done. -/
theorem post_finished_once_iff {ss : Session} (accepted : Accepted ss) (es : List PostEvent) :
    Along step Good (begin ss) es ↔ Along step Harmless (begin ss) es :=
  along_iff_of_inv Sound (fun _ e sound => good_iff sound e)
    (fun _ e sound good => sound_step sound e good) (sound_begin accepted) es

/-- A REST request that announced two bytes. -/
def twoBytes : Session := acceptedSession.set fun mhc => { mhc with postDataLeft := 2 }

theorem twoBytes_accepted : PostRun.Accepted twoBytes := ⟨.inl rfl, by decide⟩

/-- The body is whole, then the connection is closed. -/
theorem post_finished_once :
    Along PostRun.step PostRun.Good (PostRun.begin twoBytes) [.segment [[123, 125]], .close] :=
  (post_finished_once_iff twoBytes_accepted _).mpr ⟨fun _ => if_pos rfl ▸ rfl, trivial, trivial⟩

/-- One more segment finishes the request again. -/
theorem post_finished_twice :
    ¬ ∀ ss : Session, PostRun.Accepted ss → ∀ es : List PostEvent,
      Along PostRun.step PostRun.Good (PostRun.begin ss) es := by
  intro always
  obtain ⟨first, second, -⟩ :=
    always twoBytes twoBytes_accepted [.segment [[123, 125]], .segment [[10]]]
  have sound := PostRun.sound_step (PostRun.sound_begin twoBytes_accepted) _ first
  have rest : (extHttpPostRxDataPbuf (PostRun.begin twoBytes).ss [[123, 125]]).1.mhc.reqType =
      .rest := (segment_rest rfl [[123, 125]]).1
  have early := (PostRun.good_iff sound _).mp second rfl
  rw [PostRun.segment_step rfl] at early
  dsimp only at early
  rw [if_pos rest] at early
  revert early
  decide

end LwipExt.Http
