import Mathlib.Algebra.GroupWithZero.Nat
import LwipExt.Http.PbufTrace
import LwipExt.Lib.Run

/-!
The body of a REST POST: `exts/nnmos/extNmosPost.c`.

`extNmosPostDataRecv` appends each pbuf to `mhc->data` and a NUL behind it. `Intake.Good` is
what it should do with one pbuf, and `bodies_kept_iff` says for which bodies it does that with
all of them: those that the buffer has room for, from an index of 0 on. The parser leaves that
index (`handed_dataSendIndex`).
-/

namespace LwipExt.Http

open Lib

/-- A connection with the bodies that were accepted. -/
structure Intake where
  ss : Session
  accepted : Bytes := []

namespace Intake

/-- The next pbuf of the body is passed to `extHttpPostDataRecv`. -/
def recv (st : Intake) (p : Pbuf) : Intake :=
  let (ss, ok) := extHttpPostDataRecv st.ss p
  { ss, accepted := if ok then st.accepted ++ p.flatten else st.accepted }

/-- The body and a NUL go behind what is there. -/
def Fits (st : Intake) (p : Pbuf) : Prop :=
  st.ss.mhc.dataSendIndex + totLen p + 1 ≤ maxReqLength

/-- The buffer holds the accepted bodies and a NUL, and has room for that. -/
structure Kept (st : Intake) : Prop where
  room : st.ss.mhc.dataSendIndex + 1 ≤ maxReqLength
  index : st.ss.mhc.dataSendIndex = st.accepted.length
  text : Holds st.ss.mhc.data 0 (st.accepted ++ [0])

/-- The pbuf leaves the buffer as it should be, and one that does not fit is refused. -/
structure Good (st : Intake) (p : Pbuf) : Prop where
  kept : (st.recv p).Kept
  refused : ¬ st.Fits p →
    (extHttpPostDataRecv st.ss p).2 = false ∧ (st.recv p).ss.mhc.data = st.ss.mhc.data

section Steps

variable {st : Intake} (rest : st.ss.mhc.reqType = .rest) (p : Pbuf)

include rest

/-- Every body is accepted. -/
theorem recv_eq : extHttpPostDataRecv st.ss p =
    (st.ss.set fun mhc => extNmosPostDataRecv mhc p, true) := by
  unfold extHttpPostDataRecv
  rw [if_pos rest]

theorem recv_rest : (st.recv p).ss.mhc.reqType = .rest := by
  unfold recv
  rw [recv_eq rest p]
  exact rest

theorem recv_accepted : (st.recv p).accepted = st.accepted ++ p.flatten := by
  unfold recv
  rw [recv_eq rest p]
  rfl

/-- A body that fits is stored whole. -/
theorem recv_of_fits (fits : st.Fits p) :
    (st.recv p).ss.mhc.dataSendIndex = st.ss.mhc.dataSendIndex + totLen p ∧
      (st.recv p).ss.mhc.data =
        bufWrite st.ss.mhc.data st.ss.mhc.dataSendIndex (p.flatten ++ [0]) := by
  have small : st.ss.mhc.dataSendIndex + totLen p + 1 ≤ maxReqLength := fits
  have whole : pbufCopyPartial p (min (totLen p) maxReqLength) 0 = p.flatten := by
    rw [Nat.min_eq_left (by omega)]
    simp [pbufCopyPartial, totLen]
  unfold recv
  rw [recv_eq rest p]
  unfold extNmosPostDataRecv
  rw [whole]
  refine ⟨?_, rfl⟩
  have bound : maxReqLength < 65536 := by decide
  exact Nat.mod_eq_of_lt (by unfold totLen at small; omega)

/-- A body behind what is there already. -/
theorem kept_of_fits (index : st.ss.mhc.dataSendIndex = st.accepted.length)
    (text : Holds st.ss.mhc.data 0 st.accepted) (fits : st.Fits p) : (st.recv p).Kept := by
  obtain ⟨moved, stored⟩ := recv_of_fits rest p fits
  have accepted := recv_accepted rest p
  refine ⟨?_, ?_, ?_⟩
  · rw [moved]
    exact fits
  · rw [moved, accepted, List.length_append, index]
    rfl
  · rw [accepted, stored, List.append_assoc]
    refine (text.kept ?_).append ?_
    · left
      rw [index, Nat.zero_add]
    · rw [index, Nat.zero_add]
      simpa using Holds.written st.ss.mhc.data st.accepted.length (p.flatten ++ [0]) []

/-- What does not fit is not refused. -/
theorem fits_of_good (good : st.Good p) : st.Fits p := by
  by_contra large
  have refused := (good.refused large).1
  rw [recv_eq rest p] at refused
  cases refused

theorem good_iff_fits (index : st.ss.mhc.dataSendIndex = st.accepted.length)
    (text : Holds st.ss.mhc.data 0 st.accepted) : st.Good p ↔ st.Fits p := by
  constructor
  · exact fits_of_good rest p
  · intro fits
    exact ⟨kept_of_fits rest p index text fits, fun large => absurd fits large⟩

/-- The first body has to go to the start of the buffer. -/
theorem good_first_iff (first : st.accepted = []) :
    st.Good p ↔ st.ss.mhc.dataSendIndex = 0 ∧ st.Fits p := by
  constructor
  · intro good
    have fits := fits_of_good rest p good
    refine ⟨?_, fits⟩
    have index := good.kept.index
    rw [(recv_of_fits rest p fits).1, recv_accepted rest p, first, List.nil_append] at index
    unfold totLen at index
    omega
  · rintro ⟨index, fits⟩
    refine (good_iff_fits rest p ?_ ?_).mpr fits
    · rw [index, first]
      rfl
    · rw [first]
      exact Holds.nil _ _

end Steps

/-- Behind accepted bodies, further ones are kept exactly as far as they fit. -/
theorem along_good_iff {st : Intake} (rest : st.ss.mhc.reqType = .rest) (kept : st.Kept)
    (bodies : List Pbuf) :
    Along recv Good st bodies ↔
      st.accepted.length + (bodies.map totLen).sum + 1 ≤ maxReqLength := by
  induction bodies generalizing st with
  | nil =>
      have room := kept.room
      rw [kept.index] at room
      simpa using room
  | cons p bodies ih =>
      have good := good_iff_fits rest p kept.index kept.text.parts.1
      have length : (st.recv p).accepted.length = st.accepted.length + totLen p := by
        rw [recv_accepted rest p, List.length_append]
        rfl
      rw [along_cons, good, Fits, kept.index, List.map_cons, List.sum_cons]
      constructor
      · rintro ⟨fits, rest'⟩
        have kept' := (good.mpr (by rwa [Fits, kept.index])).kept
        have bound := (ih (recv_rest rest p) kept').mp rest'
        omega
      · intro bound
        have fits : st.Fits p := by
          rw [Fits, kept.index]
          omega
        refine ⟨by omega, (ih (recv_rest rest p) (good.mpr fits).kept).mpr ?_⟩
        omega

end Intake

open Intake in
/-- **The body of a REST POST.** Every pbuf of a body is kept as it should be exactly when the
buffer was empty and has room for all of them and a NUL. A pbuf that does not fit is not
refused. -/
theorem bodies_kept_iff {ss : Session} (rest : ss.mhc.reqType = .rest) (bodies : List Pbuf) :
    Along recv Good ⟨ss, []⟩ bodies ↔
      bodies = [] ∨
        ss.mhc.dataSendIndex = 0 ∧ (bodies.map totLen).sum + 1 ≤ maxReqLength := by
  cases bodies with
  | nil => simp
  | cons p bodies =>
      have first : Good ⟨ss, []⟩ p ↔ _ := good_first_iff rest p rfl
      have accepted : (recv ⟨ss, []⟩ p).accepted = _ := recv_accepted rest p
      have length : (recv ⟨ss, []⟩ p).accepted.length = totLen p := by
        rw [accepted, List.nil_append]
        rfl
      rw [along_cons, List.map_cons, List.sum_cons]
      constructor
      · rintro ⟨good, rest'⟩
        have bound := (along_good_iff (recv_rest rest p) good.kept bodies).mp rest'
        exact .inr ⟨(first.mp good).1, by omega⟩
      · rintro (empty | ⟨index, bound⟩)
        · cases empty
        · have fits : Fits ⟨ss, []⟩ p := by
            rw [Fits, index]
            omega
          have good := first.mpr ⟨index, fits⟩
          refine ⟨good, (along_good_iff (recv_rest rest p) good.kept bodies).mpr ?_⟩
          omega

/-- A body of three segments that is longer than the buffer. -/
def longBody : List Pbuf := List.replicate 3 [List.replicate 1100 65]

/-- A connection that was just accepted. -/
def acceptedSession : Session := { io := ⟨⟨0, 0, []⟩, [], {}, []⟩, mhc := extHttpStateInit }

/-- Two of the segments fit. -/
theorem bodies_kept_sample :
    acceptedSession.mhc.reqType = .rest ∧ ((longBody.take 2).map totLen).sum = 2200 ∧
      (Along Intake.recv Intake.Good ⟨acceptedSession, []⟩ (longBody.take 2) ↔
        longBody.take 2 = [] ∨
          acceptedSession.mhc.dataSendIndex = 0 ∧
            ((longBody.take 2).map totLen).sum + 1 ≤ maxReqLength) :=
  ⟨rfl, by decide +kernel, bodies_kept_iff rfl (longBody.take 2)⟩

/-- The third segment is stored past the end of the buffer. -/
theorem not_bodies_kept :
    ¬ ∀ ss : Session, ss.mhc.reqType = .rest → ss.mhc.dataSendIndex = 0 →
      ∀ bodies : List Pbuf, Along Intake.recv Intake.Good ⟨ss, []⟩ bodies := by
  intro always
  obtain ⟨-, -, third, -⟩ := always acceptedSession rfl rfl longBody
  have room := third.kept.room
  revert room
  decide +kernel

/-! ### Where a body begins -/

section Begins

variable {h : Session × Pbuf}

theorem passFirstDataTraced_handed (ss : Session) (dataOffset contentLen : Nat)
    (queue : List Nat) (fresh : Nat)
    (mem : h ∈ (passFirstDataTraced ss dataOffset contentLen queue fresh).handed) :
    h.1.mhc.dataSendIndex = ss.mhc.dataSendIndex := by
  unfold passFirstDataTraced handData at mem
  dsimp only at mem
  split_ifs at mem
  all_goals
    first
    | rw [List.mem_singleton.mp mem]
      rfl
    | cases mem

theorem extHttpParseContentLength_conn {mhc mhc' : ExtHttpConn} {data : Bytes}
    {headerEnd n : Nat} (found : extHttpParseContentLength mhc data headerEnd = (mhc', some n)) :
    mhc' = mhc := by
  unfold extHttpParseContentLength at found
  dsimp only at found
  split at found
  · cases found
  · split_ifs at found
    · cases found
    · cases found
    · cases found
      rfl

theorem extNmosPostDataBegin_true {mhc mhc' : ExtHttpConn}
    (begun : extNmosPostDataBegin mhc = (mhc', true)) : mhc' = mhc := by
  unfold extNmosPostDataBegin at begun
  split_ifs at begun
  · cases begun
    rfl
  · cases begun

theorem extHttpPostRequestTraced_handed (ss : Session) (data : Bytes) (queue : List Nat)
    (fresh : Nat) (mem : h ∈ (extHttpPostRequestTraced ss data queue fresh).handed) :
    h.1.mhc.dataSendIndex = ss.mhc.dataSendIndex := by
  unfold extHttpPostRequestTraced at mem
  dsimp only at mem
  generalize lwipStrnstr data crlfcrlf data.length = ended at mem
  cases ended with
  | none => cases mem
  | some headerEnd =>
      dsimp only at mem
      generalize found : extHttpParseContentLength ss.mhc data headerEnd = length at mem
      obtain ⟨mhc, length⟩ := length
      cases length with
      | none => cases mem
      | some contentLen =>
          obtain rfl := extHttpParseContentLength_conn found
          dsimp only at mem
          generalize lwipStrnstr data boundaryParam headerEnd = boundary at mem
          cases boundary with
          | some position =>
              dsimp only at mem
              split_ifs at mem
              · have kept := passFirstDataTraced_handed _ _ _ _ _ mem
                exact kept
              · cases mem
          | none =>
              dsimp only at mem
              generalize begun : extNmosPostDataBegin _ = begins at mem
              obtain ⟨mhc, begins⟩ := begins
              cases begins with
              | true =>
                  have kept := passFirstDataTraced_handed _ _ _ _ _ mem
                  rw [extNmosPostDataBegin_true begun] at kept
                  exact kept
              | false => cases mem

theorem mHttpParseUrl_dataSendIndex (mhc : ExtHttpConn) (data : Bytes) :
    (mHttpParseUrl mhc data).1.dataSendIndex = mhc.dataSendIndex := by
  unfold mHttpParseUrl
  dsimp only
  repeat'
    first
    | rfl
    | split

theorem mHttpParseMethod_dataSendIndex (mhc : ExtHttpConn) (data : Bytes) :
    (mHttpParseMethod mhc data).1.dataSendIndex = mhc.dataSendIndex := by
  unfold mHttpParseMethod
  split
  · rfl
  · rfl

theorem mHttpParseRequestTraced_handed (site : Site) (ss : Session) (data : Bytes)
    (chained : Bool) (queue : List Nat) (fresh : Nat)
    (mem : h ∈ (mHttpParseRequestTraced site ss data chained queue fresh).handed) :
    h.1.mhc.dataSendIndex = ss.mhc.dataSendIndex := by
  have method := mHttpParseMethod_dataSendIndex ss.mhc data
  unfold mHttpParseRequestTraced at mem
  generalize mHttpParseMethod ss.mhc data = parsed at mem method
  obtain ⟨mhc, len⟩ := parsed
  dsimp only at mem method
  split_ifs at mem
  · cases mem
  · have url := mHttpParseUrl_dataSendIndex mhc (data.drop len)
    generalize mHttpParseUrl mhc (data.drop len) = parsed at mem url
    obtain ⟨mhc', read⟩ := parsed
    cases read with
    | false => cases mem
    | true =>
        dsimp only at mem url
        split_ifs at mem
        · have kept := extHttpPostRequestTraced_handed _ _ _ _ mem
          exact kept.trans (url.trans method)
        · cases mem

theorem extHttpWebSocketParseHeader_false {site : Site} {ss ss' : Session} {text : Bytes}
    (plain : extHttpWebSocketParseHeader site ss text = (ss', false)) : ss' = ss := by
  unfold extHttpWebSocketParseHeader at plain
  split_ifs at plain
  · cases plain
    rfl
  · dsimp only at plain
    split at plain
    · cases plain
    · split_ifs at plain
      · cases plain
      · cases plain

/-- The parser hands the start of a body over with the index that it found. A connection starts
with an index of 0. -/
theorem handed_dataSendIndex (site : Site) (ss : Session) (p : Pbuf) (stale : Bytes)
    (queue ids : List Nat) (fresh : Nat)
    (mem : h ∈ (extHttpRequestParseTraced site ss p stale queue ids fresh).handed) :
    h.1.mhc.dataSendIndex = ss.mhc.dataSendIndex := by
  unfold extHttpRequestParseTraced at mem
  dsimp only at mem
  split_ifs at mem
  all_goals try cases mem
  all_goals
    generalize plain : extHttpWebSocketParseHeader site _ _ = header at mem
    obtain ⟨ss', upgraded⟩ := header
    cases upgraded with
    | true => cases mem
    | false =>
        have same := extHttpWebSocketParseHeader_false plain
        dsimp only at mem
        have kept := mHttpParseRequestTraced_handed site _ _ _ _ _ mem
        rw [same] at kept
        exact kept

end Begins

end LwipExt.Http
