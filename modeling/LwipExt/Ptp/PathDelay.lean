import LwipExt.Ptp.Recall

/-!
Which request a sample of the path delay belongs to.

A response is matched by the sequence number alone, and what it was matched with is kept: a second
response to the same request gives a second sample, and times of older exchanges or of other
responders are used as if they belonged to it. A history is orderly if that does not happen.
-/

namespace LwipExt.Ptp

open Memory (Change Changes)

/-! ### Histories of exchanges -/

/-- The sequence number and the egress time of a request. -/
def Note.request? (mechanism : DelayMechanism) : Note → Option (Int16 × Option TimeInternal)
  | .request kind sequenceId egress =>
      if kind = mechanism then some (sequenceId, egress) else none
  | _ => none

/-- A PDelayResp. -/
def Note.pdelayResp? : Note → Option (MsgHeader × Bytes × TimeInternal)
  | .pdelayResp header payload time => some (header, payload, time)
  | _ => none

/-- The newest request. -/
def lastRequest (mechanism : DelayMechanism) (history : List Note) :
    Option (Int16 × Option TimeInternal) :=
  Lib.newest (Note.request? mechanism) history

/-- What came after the newest request. -/
def sinceRequest (mechanism : DelayMechanism) (history : List Note) : List Note :=
  Lib.since (Note.request? mechanism) history

/-- The newest offset since the clock was cleared: the sender of the message it is computed from,
and the offset without its path delay. -/
def lastOffset : List Note → Option (PortIdentity × TimeInternal)
  | [] => none
  | .cleared :: _ => none
  | .offsetSample ingress origin correction :: .received header _ _ :: _ =>
      some (header.sourcePortIdentity, subTime (subTime ingress origin) correction)
  | _ :: past => lastOffset past

/-- A sample of the path delay. -/
def Note.isSample (mechanism : DelayMechanism) : Note → Bool
  | .delaySample kind _ => kind = mechanism
  | _ => false

/-- No sample was taken since the newest request. -/
def Unsampled (mechanism : DelayMechanism) (history : List Note) : Prop :=
  ∀ note ∈ sinceRequest mechanism history, note.isSample mechanism = false

instance (mechanism : DelayMechanism) (history : List Note) :
    Decidable (Unsampled mechanism history) := inferInstanceAs (Decidable (∀ note ∈ _, _))

/-- The newest request went out with a valid time stamp, and no sample was taken since. -/
def Open (mechanism : DelayMechanism) (history : List Note) : Prop :=
  (∃ request ∈ lastRequest mechanism history, request.2.isSome = true) ∧
    Unsampled mechanism history

instance (mechanism : DelayMechanism) (history : List Note) : Decidable (Open mechanism history) :=
  inferInstanceAs (Decidable (_ ∧ _))

/-- A sample follows the response that completes it, is the only one of the newest request before
it, and has the times of that exchange with the sender of the response. -/
def Belongs : Note → List Note → Prop
  | .delaySample .e2e times, .delayResp header payload :: past =>
      Unsampled .e2e past ∧ ∃ request ∈ lastRequest .e2e past,
        request.1 = header.sequenceId ∧ ∃ egress ∈ request.2, ∃ recieve ∈ stampOf payload,
          ∃ offset ∈ lastOffset past, offset.1 = header.sourcePortIdentity ∧
            times = [offset.2, egress, recieve]
  | .delaySample .p2p times, .pdelayResp header _ time :: past =>
      Unsampled .p2p past ∧ ∃ request ∈ lastRequest .p2p past,
        request.1 = header.sequenceId ∧ ∃ egress ∈ request.2, times = [egress, time]
  | .delaySample .p2p times, .pdelayRespFollowUp header payload :: past =>
      Unsampled .p2p past ∧ ∃ request ∈ lastRequest .p2p past,
        request.1 = header.sequenceId ∧ ∃ egress ∈ request.2,
          ∃ note ∈ sinceRequest .p2p past, ∃ response ∈ note.pdelayResp?,
            response.1.sourcePortIdentity = header.sourcePortIdentity ∧
              response.1.sequenceId = header.sequenceId ∧ ∃ receipt ∈ stampOf response.2.1,
                ∃ transmit ∈ stampOf payload, times = [egress, receipt, transmit, response.2.2]
  | .delaySample _ _, _ => False
  | _, _ => True

/-- A response answers the newest request, which went out with a valid time stamp, has no sample
yet and, for a PDelayReq, was not cleared. A DelayResp comes from the clock that the newest offset
was computed for, if there is one. A PDelayRespFollowUp comes from the clock that sent the newest
PDelayResp since the request. -/
def Orderly : Note → List Note → Prop
  | .delayResp header payload, past =>
      ∀ offset ∈ lastOffset past,
        offset.1 = header.sourcePortIdentity ∧ (stampOf payload).isSome = true ∧ Open .e2e past
  | .pdelayResp header _ _, past =>
      getFlag header.flagField0 flag0TwoStep = false →
        Open .p2p past ∧ .cleared ∉ sinceRequest .p2p past
  | .pdelayRespFollowUp header payload, past =>
      Open .p2p past ∧ .cleared ∉ sinceRequest .p2p past ∧ (stampOf payload).isSome = true ∧
        ∃ response ∈ Lib.newest Note.pdelayResp? (sinceRequest .p2p past),
          response.1.sourcePortIdentity = header.sourcePortIdentity ∧
            (stampOf response.2.1).isSome = true
  | _, _ => True

instance : ∀ note past, Decidable (Orderly note past)
  | .delayResp _ _, _ => inferInstanceAs (Decidable (∀ offset ∈ lastOffset _, _))
  | .pdelayResp _ _ _, _ => inferInstanceAs (Decidable (_ → _))
  | .pdelayRespFollowUp _ _, _ => inferInstanceAs (Decidable (_ ∧ _))
  | .received _ _ _, _ | .request _ _ _, _ | .offsetSample _ _ _, _ | .delaySample _ _, _
  | .cleared, _ => .isTrue trivial

/-- A sequence number that matches is that of the request. -/
theorem sequence_matched {sent sequenceId : Int16}
    (matched : (sent + 1).toInt - 1 = sequenceId.toInt) : sequenceId = sent := by
  apply Int16.toInt_inj.mp
  have low := Int16.le_toInt sent
  have high := Int16.toInt_lt sent
  have low' := Int16.le_toInt sequenceId
  rw [Int16.toInt_add, show (1 : Int16).toInt = 1 from rfl, Int.bmod_def] at matched
  split at matched <;> omega

namespace Memory

variable {a b : Memory}

/-! ### What is remembered -/

/-- The newest DelayReq. -/
def KnowsDelayReq (sent : Int16) (send : TimeInternal) (history : List Note) : Prop :=
  ∀ sequenceId egress, lastRequest .e2e history = some (sequenceId, egress) →
    sent = sequenceId + 1 ∧ ∀ time, egress = some time → send = time

/-- The newest PDelayReq, unless the clock was cleared since. -/
def KnowsPDelayReq (sent : Int16) (t1 : TimeInternal) (history : List Note) : Prop :=
  ∀ sequenceId egress, lastRequest .p2p history = some (sequenceId, egress) →
    sent = sequenceId + 1 ∧
      ∀ time, egress = some time → .cleared ∉ sinceRequest .p2p history → t1 = time

/-- Every PDelayResp since the newest PDelayReq answers it. -/
def Answered (history : List Note) : Prop :=
  ∀ sequenceId egress, lastRequest .p2p history = some (sequenceId, egress) →
    ∀ header payload time, .pdelayResp header payload time ∈ sinceRequest .p2p history →
      header.sequenceId = sequenceId

/-- The times of the newest PDelayResp, while its follow-up is awaited. -/
def KnowsPDelayResp (waiting : Bool) (t2 t4 : TimeInternal) (history : List Note) : Prop :=
  waiting = true → ∃ header payload time,
    Lib.newest Note.pdelayResp? history = some (header, payload, time) ∧ t4 = time ∧
      ∀ stamp, stampOf payload = some stamp → t2 = stamp

/-- The newest offset since the clock was cleared. -/
def KnowsOffset (tms : TimeInternal) (offsets : Int32) (history : List Note) : Prop :=
  (∀ source offset, lastOffset history = some (source, offset) → tms = offset) ∧
    (offsets ≠ 0 → (lastOffset history).isSome)

/-- What is remembered of the exchanges, and what that makes of an orderly history. -/
structure Exchanges (a : Memory) : Prop where
  safe : a.Safe
  delayReq : KnowsDelayReq a.sentDelayReqSequenceId a.timestampDelayReqSend a.notes
  pdelayReq : KnowsPDelayReq a.sentPDelayReqSequenceId a.pdelayT1 a.notes
  answered : Answered a.notes
  pdelayResp :
    KnowsPDelayResp a.waitingForPDelayRespFollowUp a.pdelayT2 a.pdelayT4 a.notes
  offset : KnowsOffset a.tms a.offsets a.notes
  belongs : Lib.Throughout Orderly a.notes → Lib.Throughout Belongs a.notes

section Notes

variable {sent sequenceId : Int16} {send t1 t2 t4 : TimeInternal} {waiting : Bool}
  {new : Note} {history : List Note}

theorem KnowsPDelayReq.note (known : KnowsPDelayReq sent t1 history)
    (other : new.request? .p2p = none) : KnowsPDelayReq sent t1 (new :: history) := by
  intro sequenceId egress last
  rw [lastRequest, Lib.newest_cons_of_none other] at last
  obtain ⟨number, sentAt⟩ := known sequenceId egress last
  refine ⟨number, fun time valid fresh => sentAt time valid fun cleared => fresh ?_⟩
  rw [sinceRequest, Lib.since_cons_of_none other]
  exact List.mem_cons_of_mem new cleared

theorem Answered.note (answered : Answered history) (other : new.request? .p2p = none)
    (unanswered : new.pdelayResp? = none) : Answered (new :: history) := by
  intro sequenceId egress last header payload time mem
  rw [lastRequest, Lib.newest_cons_of_none other] at last
  rw [sinceRequest, Lib.since_cons_of_none other] at mem
  rcases List.mem_cons.mp mem with same | earlier
  · rw [← same] at unanswered
    cases unanswered
  · exact answered sequenceId egress last header payload time earlier

theorem KnowsPDelayReq.answer (known : KnowsPDelayReq sent t1 history) {header : MsgHeader}
    {payload : Bytes} {time : TimeInternal} (answered : Answered history)
    (matched : sent.toInt - 1 = header.sequenceId.toInt) :
    Answered (.pdelayResp header payload time :: history) := by
  intro sequenceId egress last header' payload' time' mem
  have last : lastRequest .p2p history = some (sequenceId, egress) := last
  rcases List.mem_cons.mp mem with same | earlier
  · cases same
    rw [(known sequenceId egress last).1] at matched
    exact sequence_matched matched
  · exact answered sequenceId egress last header' payload' time' earlier

theorem KnowsOffset.offset {ingress origin correction : TimeInternal} {offsets : Int32}
    {header : MsgHeader} {payload : Bytes} {time : TimeInternal} {past : List Note}
    (received : history = .received header payload time :: past) :
    KnowsOffset (subTime (subTime ingress origin) correction) offsets
      (.offsetSample ingress origin correction :: history) := by
  rw [received]
  refine ⟨fun source offset found => ?_, fun _ => rfl⟩
  cases found
  rfl

/-- A note that belongs where it is. -/
theorem belongs_note (belongs : Lib.Throughout Orderly history → Lib.Throughout Belongs history)
    (fine : Orderly new history → Belongs new history) :
    Lib.Throughout Orderly (new :: history) → Lib.Throughout Belongs (new :: history) := by
  intro orderly
  obtain ⟨newest, earlier⟩ := Lib.throughout_cons.mp orderly
  exact Lib.throughout_cons.mpr ⟨fine newest, belongs earlier⟩

/-- A sample that belongs to the response under it, if that was in order. -/
theorem belongs_sample {response : Note}
    (belongs : Lib.Throughout Orderly history → Lib.Throughout Belongs history)
    (quiet : ∀ past, Belongs response past)
    (fine : Orderly response history → Belongs new (response :: history)) :
    Lib.Throughout Orderly (new :: response :: history) →
      Lib.Throughout Belongs (new :: response :: history) := by
  intro orderly
  obtain ⟨answered, earlier⟩ := Lib.throughout_cons.mp (Lib.throughout_cons.mp orderly).2
  exact Lib.throughout_cons.mpr
    ⟨fine answered, Lib.throughout_cons.mpr ⟨quiet history, belongs earlier⟩⟩

end Notes

/-! ### The samples -/

variable {header : MsgHeader} {payload : Bytes} {time recieve transmit : TimeInternal}

theorem Exchanges.delayResp_sample (exchanges : a.Exchanges)
    (matched : a.sentDelayReqSequenceId.toInt - 1 = header.sequenceId.toInt)
    (stamp : ∀ time, stampOf payload = some time → recieve = time) (offsets : a.offsets ≠ 0)
    (orderly : Orderly (.delayResp header payload) a.notes) :
    Belongs (.delaySample .e2e [a.tms, a.timestampDelayReqSend, recieve])
      (.delayResp header payload :: a.notes) := by
  obtain ⟨⟨source, offset⟩, found⟩ := Option.isSome_iff_exists.mp (exchanges.offset.2 offsets)
  obtain ⟨sender, stamped, ⟨⟨sequenceId, egress⟩, last, valid⟩, unsampled⟩ :=
    orderly (source, offset) found
  obtain ⟨t4, stamped⟩ := Option.isSome_iff_exists.mp stamped
  obtain ⟨t3, rfl⟩ := Option.isSome_iff_exists.mp valid
  obtain ⟨number, sentAt⟩ := exchanges.delayReq sequenceId (some t3) last
  rw [number] at matched
  rw [exchanges.offset.1 source offset found, sentAt t3 rfl, stamp t4 stamped]
  exact ⟨unsampled, (sequenceId, some t3), last, (sequence_matched matched).symm, t3, rfl, t4,
    stamped, (source, offset), found, sender, rfl⟩

theorem Exchanges.oneStep_sample (exchanges : a.Exchanges)
    (matched : a.sentPDelayReqSequenceId.toInt - 1 = header.sequenceId.toInt)
    (oneStep : getFlag header.flagField0 flag0TwoStep = false)
    (orderly : Orderly (.pdelayResp header payload time) a.notes) :
    Belongs (.delaySample .p2p [a.pdelayT1, time])
      (.pdelayResp header payload time :: a.notes) := by
  obtain ⟨⟨⟨⟨sequenceId, egress⟩, last, valid⟩, unsampled⟩, fresh⟩ := orderly oneStep
  obtain ⟨t1, rfl⟩ := Option.isSome_iff_exists.mp valid
  obtain ⟨number, sentAt⟩ := exchanges.pdelayReq sequenceId (some t1) last
  rw [number] at matched
  rw [sentAt t1 rfl fresh]
  exact ⟨unsampled, (sequenceId, some t1), last, (sequence_matched matched).symm, t1, rfl, rfl⟩

theorem Exchanges.followUp_sample (exchanges : a.Exchanges)
    (waiting : a.waitingForPDelayRespFollowUp = true)
    (matched : header.sequenceId.toInt = a.sentPDelayReqSequenceId.toInt - 1)
    (stamp : ∀ time, stampOf payload = some time → transmit = time)
    (orderly : Orderly (.pdelayRespFollowUp header payload) a.notes) :
    Belongs (.delaySample .p2p [a.pdelayT1, a.pdelayT2, transmit, a.pdelayT4])
      (.pdelayRespFollowUp header payload :: a.notes) := by
  obtain ⟨⟨⟨⟨sequenceId, egress⟩, last, valid⟩, unsampled⟩, fresh, stamped,
    ⟨response, first, t4⟩, newest, sender, answered⟩ := orderly
  obtain ⟨t1, rfl⟩ := Option.isSome_iff_exists.mp valid
  obtain ⟨t3, stamped⟩ := Option.isSome_iff_exists.mp stamped
  obtain ⟨t2, answered⟩ := Option.isSome_iff_exists.mp answered
  obtain ⟨number, sentAt⟩ := exchanges.pdelayReq sequenceId (some t1) last
  obtain ⟨response', first', t4', newest', time4, time2⟩ := exchanges.pdelayResp waiting
  -- The PDelayResp whose times are kept is the newest one since the request.
  rw [Lib.newest_of_since newest] at newest'
  cases newest'
  obtain ⟨note, mem, picked⟩ := Lib.mem_of_newest newest
  have held : .pdelayResp response first t4 ∈ sinceRequest .p2p a.notes := by
    cases note <;> cases picked
    exact mem
  rw [number] at matched
  have sequence : header.sequenceId = sequenceId := sequence_matched matched.symm
  have asked : response.sequenceId = header.sequenceId :=
    (exchanges.answered sequenceId (some t1) last response first t4 held).trans sequence.symm
  rw [sentAt t1 rfl fresh, time2 t2 answered, time4, stamp t3 stamped]
  exact ⟨unsampled, (sequenceId, some t1), last, sequence.symm, t1, rfl, note, mem,
    (response, first, t4), picked, sender, asked, t2, answered, t3, stamped, rfl⟩

theorem Exchanges.change {switched : Prop} (change : Change switched a b)
    (exchanges : a.Exchanges) : b.Exchanges := by
  have safe : b.Safe := exchanges.safe.change change
  obtain ⟨-, delayReq, pdelayReq, answered, pdelayResp, offset, belongs⟩ := id exchanges
  cases change with
  | clear =>
      refine ⟨safe, delayReq, ?_, answered.note rfl rfl, nofun, ⟨nofun, fun some => absurd rfl some⟩,
        belongs_note belongs fun _ => trivial⟩
      intro sequenceId egress last
      refine ⟨(pdelayReq sequenceId egress last).1, fun time valid fresh => absurd ?_ fresh⟩
      exact List.mem_cons_self
  | enter _ _ | adopt _ _ | sync _ _ _ _ =>
      exact ⟨safe, delayReq, pdelayReq, answered, pdelayResp, offset, belongs⟩
  | receive header payload time =>
      exact ⟨safe, delayReq, pdelayReq.note rfl, answered.note rfl rfl, pdelayResp, offset,
        belongs_note belongs fun _ => trivial⟩
  | syncOneStep _ _ received _ | followUp _ _ received _ _ _ _ =>
      exact ⟨safe, delayReq, pdelayReq.note rfl, answered.note rfl rfl, pdelayResp,
        .offset received, belongs_note belongs fun _ => trivial⟩
  | delayReq egress =>
      refine ⟨safe, ?_, pdelayReq.note rfl, answered.note rfl rfl, pdelayResp, offset,
        belongs_note belongs fun _ => trivial⟩
      intro sequenceId valid last
      cases last
      refine ⟨(Int16.sub_add_cancel _ _).symm, fun time stamped => ?_⟩
      rw [stamped]
      rfl
  | pdelayReq egress =>
      refine ⟨safe, delayReq, ?_, ?_, pdelayResp, offset, belongs_note belongs fun _ => trivial⟩
      · intro sequenceId valid last
        cases last
        refine ⟨(Int16.sub_add_cancel _ _).symm, fun time stamped _ => ?_⟩
        rw [stamped]
        rfl
      · intro sequenceId valid last header payload time mem
        cases mem
  | delayResp matched stamp sampled =>
      rcases sampled with rfl | ⟨offsets, rfl⟩
      · exact ⟨safe, delayReq, pdelayReq.note rfl, answered.note rfl rfl, pdelayResp, offset,
          belongs_note belongs fun _ => trivial⟩
      · exact ⟨safe, delayReq, (pdelayReq.note rfl).note rfl, (answered.note rfl rfl).note rfl rfl,
          pdelayResp, offset, belongs_sample belongs (fun _ => trivial)
            (exchanges.delayResp_sample matched stamp offsets)⟩
  | pdelayResp matched stamp =>
      exact ⟨safe, delayReq, pdelayReq.note rfl, pdelayReq.answer answered matched,
        fun _ => ⟨_, _, _, rfl, rfl, stamp⟩, offset, belongs_note belongs fun _ => trivial⟩
  | pdelayRespOneStep matched oneStep sampled =>
      rcases sampled with rfl | rfl
      · exact ⟨safe, delayReq, pdelayReq.note rfl, pdelayReq.answer answered matched, nofun,
          offset, belongs_note belongs fun _ => trivial⟩
      · exact ⟨safe, delayReq, (pdelayReq.note rfl).note rfl,
          (pdelayReq.answer answered matched).note rfl rfl, nofun, offset,
          belongs_sample belongs (fun _ => trivial) (exchanges.oneStep_sample matched oneStep)⟩
  | pdelayRespFollowUp waiting matched stamp sampled =>
      rcases sampled with rfl | rfl
      · exact ⟨safe, delayReq, pdelayReq.note rfl, answered.note rfl rfl, nofun, offset,
          belongs_note belongs fun _ => trivial⟩
      · exact ⟨safe, delayReq, (pdelayReq.note rfl).note rfl, (answered.note rfl rfl).note rfl rfl,
          nofun, offset, belongs_sample belongs (fun _ => trivial)
            (exchanges.followUp_sample waiting matched stamp)⟩

end Memory

/-- A port that may be a master, and measures the delay to its peers. -/
def peerOpts : RunTimeOpts := { slaveOnly := false, delayMechanism := .p2p }

/-- It becomes a master and sends a PDelayReq. -/
def peerRequest : List PtpAction :=
  [.step {}, .step { fires := fun timer => timer = .announceReceipt },
    .step { fires := fun timer => timer = .pdelayReqInterval, sends := [some ⟨1, 0⟩] }]

/-- Clock 7 answers the first PDelayReq. -/
def peerAnswer : PtpAction :=
  .step { event := some { (peer 7).datagram (.pdelayResp
    { sourcePortIdentity := ⟨eui48toEui64 (Vector.replicate 6 0), 1⟩ } {}) with
      time := ⟨1, 100⟩ } }

/-- A request has at most one sample. -/
def OncePerRequest : Note → List Note → Prop
  | .delaySample mechanism _, past => Unsampled mechanism past
  | _, _ => True

instance : ∀ note past, Decidable (OncePerRequest note past)
  | .delaySample mechanism _, past => inferInstanceAs (Decidable (Unsampled mechanism past))
  | .received _ _ _, _ | .request _ _ _, _ | .delayResp _ _, _ | .pdelayResp _ _ _, _
  | .pdelayRespFollowUp _ _, _ | .offsetSample _ _ _, _ | .cleared, _ => .isTrue trivial

theorem Unsampled.cons {mechanism : DelayMechanism} {new : Note} {past : List Note}
    (unsampled : Unsampled mechanism past) (other : new.request? mechanism = none)
    (silent : new.isSample mechanism = false) : Unsampled mechanism (new :: past) := by
  intro note mem
  rw [sinceRequest, Lib.since_cons_of_none other] at mem
  rcases List.mem_cons.mp mem with same | earlier
  · rw [same]
    exact silent
  · exact unsampled note earlier

theorem Belongs.once {note : Note} {past : List Note} (belongs : Belongs note past) :
    OncePerRequest note past := by
  cases note with
  | delaySample mechanism times =>
      unfold Belongs at belongs
      split at belongs
      · next sample =>
          cases sample
          exact belongs.1.cons rfl rfl
      · next sample =>
          cases sample
          exact belongs.1.cons rfl rfl
      · next sample =>
          cases sample
          exact belongs.1.cons rfl rfl
      · exact belongs.elim
      · next other _ _ _ => exact absurd rfl (other mechanism times)
  | received _ _ _ | request _ _ _ | delayResp _ _ | pdelayResp _ _ _
  | pdelayRespFollowUp _ _ | offsetSample _ _ _ | cleared => trivial

end LwipExt.Ptp
