import LwipExt.Ptp.Handling
import LwipExt.Ptp.PathDelay

/-!
Which responses the daemon takes for answers to its newest request.

A handler compares the sequence number of a response, as an `int`, with that of the next request
less one. The next number is the count of the requests (`Numbered`), so the comparison finds the
newest request except where the count leaves the range of 16 bits at the bottom: before the first
request it finds one that there never was, and at -32768 it finds nothing.
-/

namespace LwipExt.Ptp

open Memory (Change Changes)

/-! ### Numbers of requests -/

/-- How many requests were issued. -/
def requests (mechanism : DelayMechanism) (history : List Note) : Nat :=
  history.countP fun note => (note.request? mechanism).isSome

/-- The next number is the count of the requests, and the newest request has the number before. -/
structure Numbered (mechanism : DelayMechanism) (sent : Int16) (history : List Note) : Prop where
  count : sent = Int16.ofNat (requests mechanism history)
  newest : (lastRequest mechanism history).map Prod.fst =
    if requests mechanism history = 0 then none else some (sent - 1)

section Numbers

variable {mechanism : DelayMechanism} {sent : Int16} {history : List Note}

theorem Numbered.start : Numbered mechanism 0 [] := ⟨rfl, rfl⟩

theorem Numbered.note (numbered : Numbered mechanism sent history) {new : Note}
    (other : new.request? mechanism = none) : Numbered mechanism sent (new :: history) := by
  have same : requests mechanism (new :: history) = requests mechanism history := by
    rw [requests, List.countP_cons_of_neg (by simp [other])]
    rfl
  constructor
  · rw [same]
    exact numbered.count
  · rw [same, lastRequest, Lib.newest_cons_of_none other]
    exact numbered.newest

theorem requests_request {sequenceId : Int16} {egress : Option TimeInternal} :
    requests mechanism (.request mechanism sequenceId egress :: history) =
      requests mechanism history + 1 := by
  rw [requests, List.countP_cons_of_pos (by simp [Note.request?])]
  rfl

theorem Numbered.request (numbered : Numbered mechanism sent history)
    (egress : Option TimeInternal) :
    Numbered mechanism (sent + 1) (.request mechanism (sent + 1 - 1) egress :: history) := by
  have picked : (Note.request mechanism (sent + 1 - 1) egress).request? mechanism =
      some (sent + 1 - 1, egress) := by simp [Note.request?]
  constructor
  · rw [requests_request, Int16.ofNat_add, ← numbered.count]
    rfl
  · rw [requests_request, lastRequest, Lib.newest_cons_of_some picked]
    rfl

end Numbers

/-- The requests of both mechanisms are numbered. -/
structure Memory.Counts (a : Memory) : Prop where
  safe : a.Safe
  delayReq : Numbered .e2e a.sentDelayReqSequenceId a.notes
  pdelayReq : Numbered .p2p a.sentPDelayReqSequenceId a.notes

namespace Memory

variable {switched : Prop} {a b : Memory}

theorem Counts.change (change : Change switched a b) (counts : a.Counts) : b.Counts := by
  have safe : b.Safe := counts.safe.change change
  obtain ⟨-, delayReq, pdelayReq⟩ := id counts
  cases change with
  | clear | receive _ _ _ | syncOneStep _ _ _ _ | followUp _ _ _ _ _ _ _ | pdelayResp _ _ =>
      exact ⟨safe, delayReq.note rfl, pdelayReq.note rfl⟩
  | enter _ _ | adopt _ _ | sync _ _ _ _ => exact ⟨safe, delayReq, pdelayReq⟩
  | delayReq egress => exact ⟨safe, delayReq.request egress, pdelayReq.note rfl⟩
  | pdelayReq egress => exact ⟨safe, delayReq.note rfl, pdelayReq.request egress⟩
  | delayResp _ _ sampled =>
      rcases sampled with rfl | ⟨_, rfl⟩
      · exact ⟨safe, delayReq.note rfl, pdelayReq.note rfl⟩
      · exact ⟨safe, (delayReq.note rfl).note rfl, (pdelayReq.note rfl).note rfl⟩
  | pdelayRespOneStep _ _ sampled | pdelayRespFollowUp _ _ _ sampled =>
      rcases sampled with rfl | rfl
      · exact ⟨safe, delayReq.note rfl, pdelayReq.note rfl⟩
      · exact ⟨safe, (delayReq.note rfl).note rfl, (pdelayReq.note rfl).note rfl⟩

end Memory

/-! ### Sequence numbers -/

section Sequence

variable {sent sequenceId : Int16}

theorem toInt_ofNat_eq_min_iff (n : Nat) : (Int16.ofNat n).toInt = -32768 ↔ n % 65536 = 32768 := by
  rw [Int16.toInt_ofNat', Int.bmod_def]
  have size : Int16.size = 65536 := rfl
  rw [size]
  split <;> omega

/-- Above the bottom of the range, the comparison finds the number before the next. -/
theorem compared_iff (above : sent.toInt ≠ -32768) :
    sent.toInt - 1 = sequenceId.toInt ↔ sent - 1 = sequenceId := by
  have low := Int16.le_toInt sent
  have high := Int16.toInt_lt sent
  rw [← Int16.toInt_inj, Int16.toInt_sub, show (1 : Int16).toInt = 1 from rfl,
    Int.bmod_eq_of_le (by omega) (by omega)]

/-- At the bottom of the range it finds nothing. -/
theorem not_compared (bottom : sent.toInt = -32768) : sent.toInt - 1 ≠ sequenceId.toInt := by
  have low := Int16.le_toInt sequenceId
  omega

theorem sub_one_of_bottom (bottom : sent.toInt = -32768) : sent - 1 = 32767 := by
  apply Int16.toInt_inj.mp
  rw [Int16.toInt_sub, bottom]
  rfl

end Sequence

/-! ### Responses -/

/-- The responses to requests. -/
inductive ResponseKind where
  | delayResp
  | pdelayResp
  | pdelayRespFollowUp
  deriving DecidableEq, Repr

/-- The type of the message. -/
def ResponseKind.type : ResponseKind → MsgType
  | .delayResp => .delayResp
  | .pdelayResp => .pdelayResp
  | .pdelayRespFollowUp => .pdelayRespFollowUp

/-- The mechanism that it belongs to. -/
def ResponseKind.mechanism : ResponseKind → DelayMechanism
  | .delayResp => .e2e
  | .pdelayResp | .pdelayRespFollowUp => .p2p

/-- The number of the next request that it is compared with. -/
def ResponseKind.sent (c : PtpClock) : ResponseKind → Int16
  | .delayResp => c.sentDelayReqSequenceId
  | .pdelayResp | .pdelayRespFollowUp => c.sentPDelayReqSequenceId

namespace Handling

variable (h : Handling)

/-- The requesting port of a response is that of the clock. -/
def OwnRequest : Prop :=
  h.clock.portDS.portIdentity = (msgUnpackDelayResp h.payload).requestingPortIdentity

/-- The response comes from the parent. -/
def FromParent : Prop := h.clock.parentDS.parentPortIdentity = h.header.sourcePortIdentity

/-- The port is in a state that uses the response. -/
def Ready : ResponseKind → Prop
  | .delayResp => synchronizes h.clock.portDS.portState
  | .pdelayResp =>
      (h.clock.portDS.portState = .master ∨ h.clock.portDS.portState = .slave) ∧
        h.isFromSelf = false
  | .pdelayRespFollowUp =>
      (h.clock.portDS.portState = .slave ∨ h.clock.portDS.portState = .master) ∧
        h.clock.waitingForPDelayRespFollowUp = true

/-- The handler of a response gets to its sequence number: the message is whole and of the delay
mechanism in use, and the port uses it. -/
structure Considered (kind : ResponseKind) : Prop where
  type : h.type = some kind.type
  mechanism : h.clock.portDS.delayMechanism = kind.mechanism
  whole : kind.type.length ≤ h.payload.length
  ready : h.Ready kind

/-- What the handler tests besides the sequence number. -/
def Tested : ResponseKind → Prop
  | .delayResp => h.OwnRequest ∧ h.FromParent
  | .pdelayResp => h.OwnRequest
  | .pdelayRespFollowUp => True

/-- The response is to this port and, with the mechanism E2E, from the parent. -/
def Matches : ResponseKind → Prop
  | .delayResp => h.OwnRequest ∧ h.FromParent
  | .pdelayResp | .pdelayRespFollowUp => h.OwnRequest

/-- The record of a response that is accepted. -/
def answer : ResponseKind → Note
  | .delayResp => .delayResp h.header h.payload
  | .pdelayResp => .pdelayResp h.header h.payload h.time
  | .pdelayRespFollowUp => .pdelayRespFollowUp h.header h.payload

/-- The handler accepts the response. -/
def Accepted (kind : ResponseKind) : Prop :=
  ∃ new, h.handled.notes = new ++ h.answer kind :: h.clock.notes

/-- The response has the sequence number of the newest request. -/
def Recent (kind : ResponseKind) : Prop :=
  (lastRequest kind.mechanism h.clock.notes).map Prod.fst = some h.header.sequenceId

/-- A response with the number of the newest request is accepted if it is to this port and from the
parent, and one with another number is not. -/
def AnswersRecent : Prop :=
  ∀ kind, h.Considered kind →
    (h.Recent kind → h.Matches kind → h.Accepted kind) ∧ (¬ h.Recent kind → ¬ h.Accepted kind)

/-- The number of a response is away from where the comparison goes wrong: if there was no request
yet it is not -1, and if the requests are 32768 modulo 65536 it is not that of the newest one. -/
def AwayFromEnds : Prop :=
  ∀ kind, h.Considered kind →
    (requests kind.mechanism h.clock.notes = 0 → h.Tested kind → h.header.sequenceId ≠ -1) ∧
    (requests kind.mechanism h.clock.notes % 65536 = 32768 → h.Matches kind →
      h.header.sequenceId ≠ 32767)

theorem not_accepted {kind : ResponseKind} (same : h.handled = h.clock) : ¬ h.Accepted kind := by
  rintro ⟨new, notes⟩
  rw [same] at notes
  have length := congrArg List.length notes
  rw [List.length_append, List.length_cons] at length
  omega

theorem Matches.tested {h : Handling} {kind : ResponseKind} (matched : h.Matches kind) :
    h.Tested kind := by
  cases kind with
  | delayResp => exact matched
  | pdelayResp => exact matched
  | pdelayRespFollowUp => trivial

theorem delayResp_accepted_iff (considered : h.Considered .delayResp) :
    h.Accepted .delayResp ↔
      h.clock.sentDelayReqSequenceId.toInt - 1 = h.header.sequenceId.toInt ∧
        h.Tested .delayResp := by
  have type : MsgType.ofCode h.header.messageType = some .delayResp := considered.type
  have dispatched : h.handled = handleDelayResp h.clock h.header h.payload := by
    unfold handled dispatch
    rw [type]
  rw [handleDelayResp_eq considered.mechanism considered.whole considered.ready] at dispatched
  split at dispatched
  · next passes =>
      rw [isSamePortIdentity_iff, isSamePortIdentity_iff] at passes
      refine ⟨fun _ => passes, fun _ => ?_⟩
      rw [Accepted, dispatched]
      exact takeDelayResp_notes
  · next fails =>
      rw [isSamePortIdentity_iff, isSamePortIdentity_iff] at fails
      exact ⟨fun accepted => absurd accepted (h.not_accepted dispatched),
        fun passes => absurd passes fails⟩

theorem pdelayResp_accepted_iff (considered : h.Considered .pdelayResp) :
    h.Accepted .pdelayResp ↔
      h.clock.sentPDelayReqSequenceId.toInt - 1 = h.header.sequenceId.toInt ∧
        h.Tested .pdelayResp := by
  have type : MsgType.ofCode h.header.messageType = some .pdelayResp := considered.type
  obtain ⟨state, other⟩ := considered.ready
  have dispatched : h.handled = handlePDelayResp h.clock h.header h.payload h.time false := by
    unfold handled dispatch
    rw [type, other]
  rw [handlePDelayResp_eq considered.mechanism considered.whole state] at dispatched
  split at dispatched
  · next passes =>
      rw [isSamePortIdentity_iff] at passes
      refine ⟨fun _ => passes, fun _ => ?_⟩
      rw [Accepted, dispatched]
      exact takePDelayResp_notes
  · next fails =>
      rw [isSamePortIdentity_iff] at fails
      exact ⟨fun accepted => absurd accepted (h.not_accepted dispatched),
        fun passes => absurd passes fails⟩

theorem pdelayRespFollowUp_accepted_iff (considered : h.Considered .pdelayRespFollowUp) :
    h.Accepted .pdelayRespFollowUp ↔
      h.clock.sentPDelayReqSequenceId.toInt - 1 = h.header.sequenceId.toInt ∧
        h.Tested .pdelayRespFollowUp := by
  have type : MsgType.ofCode h.header.messageType = some .pdelayRespFollowUp := considered.type
  obtain ⟨state, waiting⟩ := considered.ready
  have dispatched : h.handled = handlePDelayRespFollowUp h.clock h.header h.payload := by
    unfold handled dispatch
    rw [type]
  rw [handlePDelayRespFollowUp_eq considered.mechanism considered.whole state waiting]
    at dispatched
  split at dispatched
  · next passes =>
      refine ⟨fun _ => ⟨passes.symm, trivial⟩, fun _ => ?_⟩
      rw [Accepted, dispatched]
      exact takePDelayRespFollowUp_notes
  · next fails =>
      exact ⟨fun accepted => absurd accepted (h.not_accepted dispatched),
        fun passes => absurd passes.1.symm fails⟩

/-- A response that is considered is accepted exactly if it passes the comparison and the tests. -/
theorem accepted_iff {kind : ResponseKind} (considered : h.Considered kind) :
    h.Accepted kind ↔
      (kind.sent h.clock).toInt - 1 = h.header.sequenceId.toInt ∧ h.Tested kind := by
  cases kind with
  | delayResp => exact h.delayResp_accepted_iff considered
  | pdelayResp => exact h.pdelayResp_accepted_iff considered
  | pdelayRespFollowUp => exact h.pdelayRespFollowUp_accepted_iff considered

/-- With numbered requests, exactly the responses at the ends go wrong. -/
theorem answersRecent_iff (counts : h.clock.memory.Counts) : h.AnswersRecent ↔ h.AwayFromEnds := by
  have numbered (kind : ResponseKind) :
      Numbered kind.mechanism (kind.sent h.clock) h.clock.notes := by
    cases kind with
    | delayResp => exact counts.delayReq
    | pdelayResp => exact counts.pdelayReq
    | pdelayRespFollowUp => exact counts.pdelayReq
  apply forall_congr'
  intro kind
  apply forall_congr'
  intro considered
  rw [h.accepted_iff considered, Recent, (numbered kind).newest]
  have next := (numbered kind).count
  generalize kind.sent h.clock = sent at next ⊢
  generalize requests kind.mechanism h.clock.notes = n at next ⊢
  have bottom := toInt_ofNat_eq_min_iff n
  rw [← next] at bottom
  by_cases none_ : n = 0
  · -- no request was issued, and any response that is accepted is wrong
    have zero : sent = 0 := by rw [next, none_]; rfl
    have above : sent.toInt ≠ -32768 := by rw [zero]; decide
    have first : sent - 1 = -1 := by rw [zero]; rfl
    rw [if_pos none_, compared_iff above, first]
    constructor
    · rintro ⟨-, others⟩
      exact ⟨fun _ tested same => others nofun ⟨same.symm, tested⟩, fun wraps => by omega⟩
    · rintro ⟨away, -⟩
      exact ⟨nofun, fun _ accepted => away none_ accepted.2 accepted.1.symm⟩
  by_cases wraps : n % 65536 = 32768
  · -- nothing is accepted
    have low := bottom.mpr wraps
    have nothing : sent.toInt - 1 ≠ h.header.sequenceId.toInt := not_compared low
    rw [if_neg none_, sub_one_of_bottom low]
    constructor
    · rintro ⟨recent, -⟩
      exact ⟨fun zero => absurd zero none_, fun _ matched same =>
        nothing (recent (congrArg some same.symm) matched).1⟩
    · rintro ⟨-, away⟩
      exact ⟨fun recent matched => absurd (Option.some.inj recent).symm (away wraps matched),
        fun _ accepted => nothing accepted.1⟩
  · -- the comparison finds the newest request
    have above : sent.toInt ≠ -32768 := fun low => wraps (bottom.mp low)
    rw [if_neg none_, compared_iff above, Option.some_inj]
    constructor
    · exact fun _ => ⟨fun zero => absurd zero none_, fun wrapped => absurd wrapped wraps⟩
    · exact fun _ => ⟨fun recent matched => ⟨recent, matched.tested⟩,
        fun other accepted => other accepted.1⟩

end Handling

/-! ### Runs -/

/-- The response that a step handles is taken for what it is. -/
def Answers (c : PtpClock) (action : PtpAction) : Prop :=
  ∀ h, handling c action = some h → h.AnswersRecent

/-- The response that a step handles is away from the ends. -/
def KeepsAway (c : PtpClock) (action : PtpAction) : Prop :=
  ∀ h, handling c action = some h → h.AwayFromEnds

theorem ptpStep_counts {c : PtpClock} (counts : c.memory.Counts) (action : PtpAction) :
    (ptpStep c action).memory.Counts := by
  cases action with
  | expire timer =>
      rw [show (ptpStep c (.expire timer)).memory = c.memory from timerCallback_memory timer]
      exact counts
  | step input =>
      exact (ptpStep_memory counts.safe input).invariant _ Memory.Counts.change counts

theorem start_counts (rtOpts : RunTimeOpts) : (ptpdStartup rtOpts).memory.Counts :=
  ⟨nofun, .start, .start⟩

theorem handling_counts {c : PtpClock} (counts : c.memory.Counts) {action : PtpAction}
    {h : Handling} (found : handling c action = some h) : h.clock.memory.Counts :=
  (handling_memory counts.safe found).invariant _ Memory.Counts.change counts

/-- In a run, exactly the responses with the number of the newest request are accepted, as far as
they are to this port and from the parent, if and only if every response is away from the ends. -/
theorem answers_iff (rtOpts : RunTimeOpts) (actions : List PtpAction) :
    Lib.Along ptpStep Answers (ptpdStartup rtOpts) actions ↔
      Lib.Along ptpStep KeepsAway (ptpdStartup rtOpts) actions := by
  apply Lib.along_iff_of_inv (fun c : PtpClock => c.memory.Counts) _ _ (start_counts rtOpts)
  · intro c action counts
    apply forall_congr'
    intro h
    apply forall_congr'
    intro found
    exact h.answersRecent_iff (handling_counts counts found)
  · exact fun c action counts _ => ptpStep_counts counts action

/-! ### A run up to the bottom of the range -/

/-- A master that measures the delay to its peers, hears nothing, and is about to ask again. -/
structure Peering (c : PtpClock) : Prop where
  state : c.portDS.portState = .master
  mechanism : c.portDS.delayMechanism = .p2p
  recommended : c.recommendedState = .master
  quiet : c.events.stateDecisionEvent = false
  sync : (c.timers .syncInterval).expired = false
  announce : (c.timers .announceInterval).expired = false
  running : (c.timers .pdelayReqInterval).running = true
  port : c.portDS.portIdentity = ⟨eui48toEui64 (Vector.replicate 6 0), 1⟩
  version : c.portDS.versionNumber = versionPtp
  domain : c.defaultDS.domainNumber = 0

/-- Its timer for the next PDelayReq fires. -/
def peerRound : PtpInput := { fires := fun timer => timer = .pdelayReqInterval }

theorem timerExpired_quiet {c : PtpClock} {index : PtpTimer} (silent : c.input.fires index = false)
    (unexpired : (c.timers index).expired = false) : timerExpired c index = (false, c) := by
  simp only [timerExpired, silent, Bool.false_eq_true, if_false, unexpired]

theorem syncTimeout_quiet {c : PtpClock} (silent : c.input.fires .syncInterval = false)
    (unexpired : (c.timers .syncInterval).expired = false) : syncTimeout c = c := by
  rw [syncTimeout, timerExpired_quiet silent unexpired]

theorem announceIntervalTimeout_quiet {c : PtpClock}
    (silent : c.input.fires .announceInterval = false)
    (unexpired : (c.timers .announceInterval).expired = false) : announceIntervalTimeout c = c := by
  rw [announceIntervalTimeout, timerExpired_quiet silent unexpired]

/-- No state decision is made. -/
theorem Peering.beforeActions {c : PtpClock} (peering : Peering c) (input : PtpInput) :
    beforeActions c input = { c with input := input } := by
  have undecided : decideState { c with input := input } = { c with input := input } := by
    unfold decideState
    rw [show ({ c with input := input } : PtpClock).portDS.portState = .master from peering.state]
    dsimp -zeta only
    rw [peering.quiet]
    rfl
  rw [LwipExt.Ptp.beforeActions, undecided]
  unfold followRecommendation
  rw [show ({ c with input := input } : PtpClock).recommendedState = .master from
    peering.recommended]
  dsimp -zeta only
  rw [peering.state]

/-- Until it handles a message or asks again, nothing happens. -/
theorem Peering.heard {c : PtpClock} (peering : Peering c) {input : PtpInput}
    (silent : input.fires .syncInterval = false ∧ input.fires .announceInterval = false) :
    heard { c with input := input } = some { c with input := input } := by
  have sync : syncTimeout { c with input := input } = { c with input := input } :=
    syncTimeout_quiet silent.1 peering.sync
  have announce : announceIntervalTimeout { c with input := input } = { c with input := input } :=
    announceIntervalTimeout_quiet silent.2 peering.announce
  unfold LwipExt.Ptp.heard
  rw [show ({ c with input := input } : PtpClock).portDS.portState = .master from peering.state]
  dsimp -zeta only
  rw [sync, announce]

/-- A timer that runs and fires is due. -/
theorem timerExpired_fires {c : PtpClock} {index : PtpTimer} (fires : c.input.fires index = true)
    (running : (c.timers index).running = true) :
    ∃ timers, timerExpired c index = (true, { c with timers := timers }) ∧
      ∀ i ≠ index, timers i = c.timers i := by
  obtain ⟨timers, eq, -, others, -⟩ := timerExpired_cases c index
  have due : (timerExpired c index).1 = true := by
    rw [timerExpired, if_pos fires, timerCallback, if_pos running, PtpClock.setTimer]
    dsimp only
    rw [if_pos rfl]
  exact ⟨timers, Prod.ext due eq, others⟩

/-- The port asks its peers when the timer fires. -/
theorem Peering.asks {c : PtpClock} (peering : Peering c) :
    ∃ timers, ptpStep c (.step peerRound) =
        issuePDelayReq (startPDelayReq { c with input := peerRound, timers := timers }) ∧
      ∀ i ≠ .pdelayReqInterval, timers i = c.timers i := by
  have sync : syncTimeout { c with input := peerRound } = { c with input := peerRound } :=
    syncTimeout_quiet rfl peering.sync
  have announce : announceIntervalTimeout { c with input := peerRound } =
      { c with input := peerRound } := announceIntervalTimeout_quiet rfl peering.announce
  have running : (({ c with input := peerRound } : PtpClock).timers .pdelayReqInterval).running =
      true := peering.running
  obtain ⟨timers, due, others⟩ : ∃ timers,
      timerExpired { c with input := peerRound } .pdelayReqInterval =
        (true, { c with input := peerRound, timers := timers }) ∧
      ∀ i ≠ .pdelayReqInterval, timers i = c.timers i :=
    timerExpired_fires rfl running
  refine ⟨timers, ?_, others⟩
  change portActions (LwipExt.Ptp.beforeActions c peerRound) = _
  rw [peering.beforeActions]
  unfold portActions
  rw [show ({ c with input := peerRound } : PtpClock).portDS.portState = .master from
    peering.state]
  dsimp -zeta only
  rw [sync, announce]
  change issueDelayReqTimerExpired { c with input := peerRound } = _
  unfold issueDelayReqTimerExpired
  rw [show ({ c with input := peerRound } : PtpClock).portDS.delayMechanism = .p2p from
    peering.mechanism]
  dsimp -zeta only
  rw [due]

theorem Peering.round {c : PtpClock} (peering : Peering c) :
    Peering (ptpStep c (.step peerRound)) ∧
      requests .p2p (ptpStep c (.step peerRound)).notes = requests .p2p c.notes + 1 := by
  obtain ⟨timers, asks, others⟩ := peering.asks
  obtain ⟨d, m, stamp, ⟨sends, new, channel, issued, -⟩, -, eq⟩ :=
    issuePDelayReq_cases (startPDelayReq { c with input := peerRound, timers := timers })
  rw [asks, eq, issued]
  constructor
  · exact {
      state := peering.state
      mechanism := peering.mechanism
      recommended := peering.recommended
      quiet := peering.quiet
      sync := (congrArg Timer.expired (others .syncInterval nofun)).trans peering.sync
      announce := (congrArg Timer.expired (others .announceInterval nofun)).trans peering.announce
      running := rfl
      port := peering.port
      version := peering.version
      domain := peering.domain }
  · exact requests_request

/-- As often as the timer fires. -/
theorem Peering.rounds {c : PtpClock} (peering : Peering c) (n : Nat) :
    Peering (Lib.run ptpStep c (List.replicate n (.step peerRound))) ∧
      requests .p2p (Lib.run ptpStep c (List.replicate n (.step peerRound))).notes =
        requests .p2p c.notes + n := by
  induction n generalizing c with
  | zero => exact ⟨peering, rfl⟩
  | succ n ih =>
      obtain ⟨next, one⟩ := peering.round
      obtain ⟨last, more⟩ := ih next
      rw [List.replicate_succ, Lib.run_cons, more, one]
      exact ⟨last, by omega⟩

/-- Clock 7 answers the PDelayReq with the last number of the range. -/
def lastAnswer : Packet :=
  { (peer 7).datagram (.pdelayResp
      { sourcePortIdentity := ⟨eui48toEui64 (Vector.replicate 6 0), 1⟩, sequenceId := 32767 } {})
    with time := ⟨1, 100⟩ }

/-- The answer to the PDelayReq with which the number of requests is 32768 modulo 65536 is not
accepted. -/
theorem Peering.lastAnswer_lost {c : PtpClock} (peering : Peering c) (counts : c.memory.Counts)
    (wraps : requests .p2p c.notes % 65536 = 32768) :
    ¬ Answers c (.step { event := some lastAnswer }) := by
  intro answers
  have type : MsgType.ofCode (msgUnpackHeader lastAnswer.payload).messageType =
      some .pdelayResp := by decide
  have whole : MsgType.pdelayResp.length ≤ lastAnswer.payload.length := by decide
  have number : (msgUnpackHeader lastAnswer.payload).sequenceId = 32767 := by decide
  have requesting : ⟨eui48toEui64 (Vector.replicate 6 0), 1⟩ =
      (msgUnpackDelayResp lastAnswer.payload).requestingPortIdentity := by decide
  have version : (msgUnpackHeader lastAnswer.payload).versionPTP = c.portDS.versionNumber := by
    rw [peering.version]
    decide
  have domain : (msgUnpackHeader lastAnswer.payload).domainNumber = c.defaultDS.domainNumber := by
    rw [peering.domain]
    decide
  have other : isSamePortIdentity c.portDS.portIdentity
      (msgUnpackHeader lastAnswer.payload).sourcePortIdentity = false := by
    rw [peering.port]
    decide
  have found : handling c (.step { event := some lastAnswer }) = some
      (arrival { c with input := { event := some lastAnswer } } lastAnswer) := by
    rw [handling, peering.beforeActions, peering.heard ⟨rfl, rfl⟩, Option.bind_some]
    exact received_of_event rfl (by decide) version domain
  have considered : (arrival { c with input := { event := some lastAnswer } }
      lastAnswer).Considered .pdelayResp := {
    type := type
    mechanism := peering.mechanism
    whole := whole
    ready := ⟨.inl peering.state, other⟩ }
  have away := ((Handling.answersRecent_iff _ (handling_counts counts found)).mp
    (answers _ found) .pdelayResp considered).2
  exact away wraps (peering.port.trans requesting) number

/-- After 32768 requests to its peers, a port does not take the answer to the newest one. -/
theorem newest_answer_lost :
    ¬ ∀ (rtOpts : RunTimeOpts) (actions : List PtpAction),
      Lib.Along ptpStep Answers (ptpdStartup rtOpts) actions := by
  intro always
  have peering : Peering (ptpRun peerOpts
      [.step {}, .step { fires := fun timer => timer = .announceReceipt }]) := by
    constructor <;> decide
  have run := always peerOpts
    ([.step {}, .step { fires := fun timer => timer = .announceReceipt }] ++
      (List.replicate 32768 (.step peerRound) ++ [.step { event := some lastAnswer }]))
  rw [Lib.along_append, Lib.along_append] at run
  obtain ⟨last, count⟩ := peering.rounds 32768
  refine last.lastAnswer_lost ?_ ?_ run.2.2.1
  · rw [← Lib.run_append]
    exact Lib.run_invariant_of_step (fun c : PtpClock => c.memory.Counts)
      (fun c action counts => ptpStep_counts counts action) (start_counts peerOpts) _
  · rw [count]
    decide

end LwipExt.Ptp
