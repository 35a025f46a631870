import LwipExt.Mqtt.Acts

/-!
The requests of a client over a run.

No callback comes more often than it was given with an accepted call (`mqttRun_once`). A request
times out when the sixth or seventh interval of the connected client ends, and none is pending for
longer (`mqttRun_timeouts`).
-/

namespace LwipExt.Mqtt

/-! ### The times of the queue -/

section Queue

variable {α : Type}

/-- The callbacks in the queue, each with the time it has left. -/
def deadlines : Nat → List (MqttRequest α) → List (Option α × Nat)
  | _, [] => []
  | t, r :: queue => (r.cb, t + r.timeoutDiff) :: deadlines (t + r.timeoutDiff) queue

theorem deadlines_add (s t : Nat) (queue : List (MqttRequest α)) :
    deadlines (s + t) queue = (deadlines s queue).map fun x => (x.1, x.2 + t) := by
  induction queue generalizing s with
  | nil => rfl
  | cons r queue ih =>
      rw [deadlines, deadlines, List.map_cons, Nat.add_right_comm, ih]

theorem deadlines_append (t : Nat) (queue : List (MqttRequest α)) (r : MqttRequest α) :
    deadlines t (queue ++ [r]) = deadlines t queue ++
      [(r.cb, t + (queue.map (·.timeoutDiff)).sum + r.timeoutDiff)] := by
  induction queue generalizing t with
  | nil => rfl
  | cons r' queue ih =>
      rw [List.cons_append, deadlines, ih, List.map_cons, List.sum_cons, deadlines, List.cons_append,
        ← Nat.add_assoc]

theorem deadlines_fst (t : Nat) (queue : List (MqttRequest α)) :
    (deadlines t queue).map Prod.fst = queue.map (·.cb) := by
  induction queue generalizing t with
  | nil => rfl
  | cons r queue ih => rw [deadlines, List.map_cons, List.map_cons, ih]

/-- The last time is the sum of the differences. -/
theorem sum_le_of_deadlines {queue : List (MqttRequest α)} {bound : Nat}
    (le : ∀ x ∈ deadlines 0 queue, x.2 ≤ bound) : (queue.map (·.timeoutDiff)).sum ≤ bound := by
  rcases List.eq_nil_or_concat queue with rfl | ⟨before, r, rfl⟩
  · exact Nat.zero_le _
  · have last := le _ (by
      rw [List.concat_eq_append, deadlines_append]
      exact List.mem_append_right _ (List.mem_singleton.mpr rfl))
    simp only [List.concat_eq_append, List.map_append, List.sum_append, List.map_cons, List.map_nil,
      List.sum_cons, List.sum_nil] at last ⊢
    omega

/-- A new request has the whole time, if none before has more. -/
theorem deadlines_mqttAppendRequest {queue : List (MqttRequest α)}
    (le : ∀ x ∈ deadlines 0 queue, x.2 ≤ mqttReqTimeout) (r : MqttRequest α) :
    deadlines 0 (mqttAppendRequest queue r) = deadlines 0 queue ++ [(r.cb, mqttReqTimeout)] := by
  have sum := sum_le_of_deadlines le
  rw [mqttAppendRequest, deadlines_append]
  congr 3
  simp only
  omega

/-- Without the request that is taken, the times of the others are as before. -/
theorem deadlines_mqttTakeRequest {pktId : Nat} {queue rest : List (MqttRequest α)}
    {r : MqttRequest α} (taken : mqttTakeRequest pktId queue = (some r, rest)) (t : Nat) :
    ∃ before d behind, deadlines t queue = before ++ (r.cb, d) :: behind ∧
      deadlines t rest = before ++ behind := by
  induction queue generalizing rest t with
  | nil => cases taken
  | cons first queue ih =>
      rw [mqttTakeRequest] at taken
      split at taken
      · cases queue with
        | nil =>
            cases taken
            exact ⟨[], _, [], rfl, rfl⟩
        | cons next queue =>
            cases taken
            refine ⟨[], _, _, rfl, ?_⟩
            simp only [addTime, deadlines, List.nil_append, Nat.add_assoc,
              Nat.add_comm next.timeoutDiff]
      · obtain ⟨found, others⟩ := Prod.mk.inj taken
        obtain ⟨before, d, behind, was, is⟩ := ih (Prod.ext found rfl) (t + first.timeoutDiff)
        refine ⟨(first.cb, t + first.timeoutDiff) :: before, d, behind, ?_, ?_⟩
        · rw [deadlines, was]
          rfl
        · rw [← others, deadlines, is]
          rfl

/-- After some time, the first requests are out, whose time it was, and the others have less. -/
theorem deadlines_mqttRequestTimeElapsed (t : Nat) (queue : List (MqttRequest α)) :
    ∃ over_, (∀ x ∈ over_, x.2 ≤ t) ∧
      over_.map Prod.fst = (mqttRequestTimeElapsed t queue).1.map (·.cb) ∧
      deadlines 0 queue = over_ ++
        (deadlines 0 (mqttRequestTimeElapsed t queue).2).map fun x => (x.1, x.2 + t) := by
  induction queue generalizing t with
  | nil => exact ⟨[], List.forall_mem_nil _, rfl, rfl⟩
  | cons r queue ih =>
      rw [mqttRequestTimeElapsed]
      split
      next zero =>
        refine ⟨[], List.forall_mem_nil _, rfl, ?_⟩
        rw [zero, ← deadlines_add]
        rfl
      split
      next le =>
        obtain ⟨over_, inTime, are, is⟩ := ih (t - r.timeoutDiff)
        refine ⟨(r.cb, r.timeoutDiff) :: over_.map fun x => (x.1, x.2 + r.timeoutDiff), ?_, ?_, ?_⟩
        · refine List.forall_mem_cons.mpr ⟨le, List.forall_mem_map.mpr fun x mem => ?_⟩
          have := inTime x mem
          simp only
          omega
        · rw [List.map_cons, List.map_map, List.map_cons, ← are]
          rfl
        · rw [deadlines, Nat.zero_add, ← Nat.zero_add r.timeoutDiff, deadlines_add, is,
            List.map_append, List.map_map, Nat.zero_add]
          simp only [List.cons_append, Function.comp_def, Nat.add_assoc, Nat.sub_add_cancel le]
      next more =>
        refine ⟨[], List.forall_mem_nil _, rfl, ?_⟩
        rw [List.nil_append, ← deadlines_add, deadlines, deadlines]
        simp only
        congr 2 <;> omega

end Queue

/-! ### What is pending, and what is over -/

section Counting

variable {α : Type}

/-- The callbacks that effects call for the end of a request. -/
def ended (effects : List (MqttEffect α)) : List α :=
  effects.filterMap fun
    | .request arg _ => some arg
    | _ => none

/-- The callbacks of the pending requests. -/
def pending (client : MqttClient α) : List α := client.pendReqQueue.filterMap (·.cb)

theorem pending_eq (client : MqttClient α) :
    pending client = (deadlines 0 client.pendReqQueue).filterMap Prod.fst := by
  have same := congrArg (List.filterMap id) (deadlines_fst 0 client.pendReqQueue)
  rw [List.filterMap_map, List.filterMap_map] at same
  exact same.symm

theorem ended_append (a b : List (MqttEffect α)) : ended (a ++ b) = ended a ++ ended b :=
  List.filterMap_append

theorem ended_call (r : MqttRequest α) (err : MqttErr) : ended (r.call err) = r.cb.toList := by
  rw [MqttRequest.call]
  cases r.cb <;> rfl

theorem ended_calls (requests : List (MqttRequest α)) (err : MqttErr) :
    ended (requests.flatMap fun r => r.call err) = requests.filterMap (·.cb) := by
  induction requests with
  | nil => rfl
  | cons r requests ih =>
      rw [List.flatMap_cons, ended_append, ih, ended_call, List.filterMap_cons]
      cases r.cb <;> rfl

theorem ended_of_notices {effects : List (MqttEffect α)}
    (quiet : ∀ effect ∈ effects, effect.IsNotice) : ended effects = [] := by
  rw [ended, List.filterMap_eq_nil_iff]
  intro effect mem
  have notice := quiet effect mem
  cases effect with
  | request arg err => cases notice
  | _ => rfl

theorem ended_ne_nil {effects : List (MqttEffect α)} {a : α} {err : MqttErr} 
    (mem : .request a err ∈ effects) :
    ended effects ≠ [] :=
  List.ne_nil_of_mem (List.mem_filterMap.mpr ⟨_, mem, rfl⟩)

theorem ended_outputSend (client : MqttClient α) : ended client.outputSend.2 = [] := by
  rw [MqttClient.outputSend]
  split <;> rfl

theorem pendReqQueue_outputSend (client : MqttClient α) :
    client.outputSend.1.pendReqQueue = client.pendReqQueue := by
  rw [MqttClient.outputSend]
  split <;> rfl

variable [DecidableEq α]

/-- Requests only end once, none ends for its time, and the others keep theirs. -/
structure Settles (client client' : MqttClient α) (effects : List (MqttEffect α)) : Prop where
  times : (deadlines 0 client'.pendReqQueue).Sublist (deadlines 0 client.pendReqQueue)
  once : ∀ a, (ended effects).count a + (pending client').count a ≤ (pending client).count a
  answered : ∀ a, .request a .timeout ∉ effects

variable {client client' client'' : MqttClient α} {effects effects' : List (MqttEffect α)}

theorem Settles.trans (first : Settles client client' effects)
    (second : Settles client' client'' effects') :
    Settles client client'' (effects ++ effects') := by
  refine ⟨second.times.trans first.times, fun a => ?_, fun a mem => ?_⟩
  · have := first.once a
    have := second.once a
    rw [ended_append, List.count_append]
    omega
  · rcases List.mem_append.mp mem with early | late
    · exact first.answered a early
    · exact second.answered a late

/-- The queue stays as it is. -/
theorem Settles.of_queue (same : client'.pendReqQueue = client.pendReqQueue)
    (none_ : ended effects = []) : Settles client client' effects := by
  refine ⟨?_, fun a => ?_, fun a mem => ended_ne_nil mem none_⟩
  · rw [same]
  · rw [none_, pending, same, pending, List.count_nil, Nat.zero_add]

theorem Act.settles (act : Act client client' effects) : Settles client client' effects := by
  cases act with
  | note output queue quiet => exact .of_queue queue (ended_of_notices quiet)
  | send => exact .of_queue (pendReqQueue_outputSend _) (ended_outputSend _)
  | respond response pktId =>
      rw [MqttClient.pubAckRecRelResponse]
      split
      · exact .of_queue (pendReqQueue_outputSend _) (ended_outputSend _)
      · exact .of_queue rfl rfl
  | @settle pktId r queue err taken answered =>
      obtain ⟨before, d, behind, was, is⟩ := deadlines_mqttTakeRequest taken 0
      refine ⟨?_, fun a => ?_, fun a mem => ?_⟩
      · rw [was, is]
        exact (List.sublist_cons_self _ _).append_left before
      · rw [ended_call, pending_eq, pending_eq, was, is, List.filterMap_append,
          List.filterMap_append, List.filterMap_cons]
        cases r.cb with
        | none => simp
        | some arg =>
            simp only [Option.toList, List.count_append, List.count_cons, List.count_nil]
            omega
      · rw [MqttRequest.call, List.mem_map] at mem
        obtain ⟨arg, -, same⟩ := mem
        cases same
        exact answered rfl
  | @lose pktId r queue taken =>
      obtain ⟨before, d, behind, was, is⟩ := deadlines_mqttTakeRequest taken 0
      have times : (deadlines 0 queue).Sublist (deadlines 0 client.pendReqQueue) := by
        rw [was, is]
        exact (List.sublist_cons_self _ _).append_left before
      refine ⟨times, fun a => ?_, fun a mem => by cases mem⟩
      rw [ended, List.filterMap_nil, List.count_nil, Nat.zero_add, pending_eq, pending_eq]
      exact (times.filterMap _).count_le a
  | close reason =>
      refine ⟨List.nil_sublist _, fun a => ?_, fun a mem => ?_⟩
      · have none_ : ended (client.close reason).2 = [] := by
          rw [MqttClient.close]
          simp only
          split <;> split <;> rfl
        rw [none_]
        exact Nat.zero_le _
      · rw [MqttClient.close] at mem
        simp only at mem
        split at mem <;> split at mem <;> simp at mem

theorem Acts.settles (acts : Acts client client' effects) : Settles client client' effects :=
  acts.rec_rel (fun _ => .of_queue rfl rfl) Settles.trans Act.settles

/-! ### Events -/

/-- The callbacks that a call is accepted with. -/
def MqttEvent.accepts (e : MqttEvent α) (err : MqttErr) : List α :=
  match e with
  | .publish _ _ _ _ _ cb => if err = .ok then cb.toList else []
  | .subUnsub _ _ cb _ => if err = .ok then cb.toList else []
  | _ => []

/-- An interval of the connected client ends. -/
def MqttEvent.ticks (client : MqttClient α) (e : MqttEvent α) : Bool :=
  match e with
  | .timer => client.cyclicTimer && client.connState = .mqttConnected
  | _ => false

/-- What an event does with the requests. -/
inductive Progress (client : MqttClient α) (e : MqttEvent α) (out : Called α) : Prop where
  | settles (none_ : e.accepts out.2.2 = []) (untimed : e.ticks client = false)
      (settles : Settles client out.1 out.2.1)
  | enqueues (r : MqttRequest α) (one : e.accepts out.2.2 = r.cb.toList)
      (untimed : e.ticks client = false) (quiet : ended out.2.1 = [])
      (queue : out.1.pendReqQueue = mqttAppendRequest client.pendReqQueue r)
  | ticks (none_ : e.accepts out.2.2 = []) (timed : e.ticks client = true)
      {later : List (MqttEffect α)} (effects : out.2.1 = client.requestTimeElapsed.2 ++ later)
      (after : Settles client.requestTimeElapsed.1 out.1 later)

/-- What a call does with its request. -/
def Enqueues (client : MqttClient α) (cb : Option α) (out : Called α) : Prop :=
  ended out.2.1 = [] ∧ (out.2.2 ≠ .ok ∧ out.1.pendReqQueue = client.pendReqQueue ∨
    out.2.2 = .ok ∧ ∃ r : MqttRequest α, r.cb = cb ∧
      out.1.pendReqQueue = mqttAppendRequest client.pendReqQueue r)

omit [DecidableEq α] in
theorem enqueues_queueMessage (client : MqttClient α) (pktId : Nat) (cb : Option α) (rLength : Nat)
    (append : MqttRingbuf → MqttRingbuf) :
    Enqueues client cb (client.queueMessage pktId cb rLength append) := by
  rw [MqttClient.queueMessage]
  split
  · exact ⟨rfl, .inl ⟨MqttErr.noConfusion, rfl⟩⟩
  next slot _ =>
    split
    · exact ⟨ended_outputSend _, .inr ⟨rfl, _, rfl, pendReqQueue_outputSend _⟩⟩
    · exact ⟨rfl, .inl ⟨MqttErr.noConfusion, rfl⟩⟩

omit [DecidableEq α] in
theorem enqueues_publish (client : MqttClient α) (topic : Bytes) (payload : Option Bytes)
    (payloadLength qos retain : Nat) (cb : Option α) :
    Enqueues client cb (client.publish topic payload payloadLength qos retain cb) := by
  have refused {err : MqttErr} (notOk : err ≠ .ok) : Enqueues client cb (client, [], err) :=
    ⟨rfl, .inl ⟨notOk, rfl⟩⟩
  rw [MqttClient.publish]
  split
  · exact refused MqttErr.noConfusion
  split
  · exact refused MqttErr.noConfusion
  split
  · exact refused MqttErr.noConfusion
  · have same : (if 0 < qos then { client with
        pktIdSeq := if 0 < qos then client.generatePacketId else 0 } else client).pendReqQueue =
        client.pendReqQueue := by
      split <;> rfl
    have queued := enqueues_queueMessage (if 0 < qos then { client with
        pktIdSeq := if 0 < qos then client.generatePacketId else 0 } else client)
      (if 0 < qos then client.generatePacketId else 0) cb
      (u16 (2 + topic.length + payloadLength + if 0 < qos then 2 else 0))
      (MqttClient.appendPublish topic payload payloadLength qos retain
        (if 0 < qos then client.generatePacketId else 0)
        (u16 (2 + topic.length + payloadLength + if 0 < qos then 2 else 0)))
    rw [Enqueues, same] at queued
    exact queued

omit [DecidableEq α] in
theorem enqueues_subUnsub (client : MqttClient α) (topic : Bytes) (qos : Nat) (cb : Option α)
    (sub : Bool) : Enqueues client cb (client.subUnsub topic qos cb sub) := by
  have refused {err : MqttErr} (notOk : err ≠ .ok) : Enqueues client cb (client, [], err) :=
    ⟨rfl, .inl ⟨notOk, rfl⟩⟩
  by_cases long : 65535 - 2 < topic.length
  · rw [MqttClient.subUnsub, if_pos long]
    exact refused MqttErr.noConfusion
  by_cases longer : 65535 < topic.length + 2 + 2 + (if sub then 1 else 0)
  · rw [MqttClient.subUnsub, if_neg long, if_pos longer]
    exact refused MqttErr.noConfusion
  rw [MqttClient.subUnsub, if_neg long, if_neg longer]
  split
  · exact refused MqttErr.noConfusion
  · have queued := enqueues_queueMessage { client with pktIdSeq := client.generatePacketId }
      client.generatePacketId cb (topic.length + 2 + 2 + if sub then 1 else 0)
      (MqttClient.appendTopic topic qos sub client.generatePacketId
        (topic.length + 2 + 2 + if sub then 1 else 0))
    exact queued

omit [DecidableEq α] in
theorem pendReqQueue_sendKeepAlive (client : MqttClient α) :
    client.sendKeepAlive.pendReqQueue = client.pendReqQueue := by
  rw [MqttClient.sendKeepAlive]
  split
  · split <;> rfl
  · rfl

/-- What the timer does. -/
theorem progress_timer (client : MqttClient α) (running : client.cyclicTimer = true) :
    Progress client .timer (client.cyclicTimerExpired.1, client.cyclicTimerExpired.2, .ok) := by
  have ticks : MqttEvent.ticks client .timer = decide (client.connState = .mqttConnected) := by
    rw [MqttEvent.ticks, running, Bool.true_and]
  by_cases connected : client.connState = .mqttConnected
  · have timed : MqttEvent.ticks client .timer = true := by rw [ticks, decide_eq_true connected]
    rw [MqttClient.cyclicTimerExpired, connected]
    simp only
    split
    · exact .ticks rfl timed (List.append_nil _).symm (.of_queue rfl rfl)
    · have unchanged : Settles client.requestTimeElapsed.1.watchServer.1
          client.requestTimeElapsed.1.watchServer.1.sendKeepAlive [] :=
        .of_queue (pendReqQueue_sendKeepAlive _) rfl
      have watched := (acts_watchServer client.requestTimeElapsed.1).settles.trans unchanged
      rw [List.append_nil] at watched
      exact .ticks rfl timed rfl watched
  · have untimed : MqttEvent.ticks client .timer = false := by
      rw [ticks, decide_eq_false connected]
    refine .settles rfl untimed ?_
    rw [MqttClient.cyclicTimerExpired]
    split
    · have counted : Acts client { client with cyclicTick := client.cyclicTick + 1 } [] :=
        acts_silent rfl rfl
      simp only
      split
      · exact (counted.trans (Act.close _ _).acts).settles
      · exact counted.settles
    next isConnected => exact absurd isConnected connected
    · exact (acts_silent rfl rfl : Acts client { client with cyclicTimer := false } []).settles

/-- What an event does with the requests. -/
theorem progress_step {e : MqttEvent α} {out : Called α} (is : client.step e = some out) :
    Progress client e out := by
  have unchanged : Settles client client [] := .of_queue rfl rfl
  have calls {e : MqttEvent α} {cb : Option α} {out : Called α} (untimed : e.ticks client = false)
      (accepts : e.accepts out.2.2 = if out.2.2 = .ok then cb.toList else [])
      (enqueues : Enqueues client cb out) : Progress client e out := by
    obtain ⟨quiet, ⟨notOk, queue⟩ | ⟨ok, r, rfl, queue⟩⟩ := enqueues
    · rw [if_neg notOk] at accepts
      exact .settles accepts untimed (.of_queue queue quiet)
    · rw [if_pos ok] at accepts
      exact .enqueues r accepts untimed quiet queue
  cases e with
  | clientConnect cb info tcp =>
      cases is
      refine .settles rfl rfl ?_
      have wiped {client' : MqttClient α} (none_ : client'.pendReqQueue = []) :
          Settles client client' [] := by
        refine ⟨by rw [none_]; exact List.nil_sublist _, fun a => ?_, fun a mem => (by cases mem)⟩
        rw [pending, none_]
        exact Nat.zero_le _
      rw [MqttClient.clientConnect]
      split
      · exact unchanged
      simp only
      split
      · exact wiped rfl
      split
      · exact wiped rfl
      split
      · cases tcp with
        | error err => exact wiped rfl
        | ok sends => exact wiped rfl
      · exact wiped rfl
  | publish topic payload payloadLength qos retain cb =>
      cases is
      exact calls rfl rfl (enqueues_publish client topic payload payloadLength qos retain cb)
  | subUnsub topic qos cb sub =>
      cases is
      exact calls rfl rfl (enqueues_subUnsub client topic qos cb sub)
  | setInpubCallback pubCb dataCb =>
      cases is
      exact .settles rfl rfl (.of_queue rfl rfl)
  | disconnect =>
      cases is
      exact .settles rfl rfl (acts_disconnect client).settles
  | tcpConnected =>
      rw [MqttClient.step] at is
      split at is <;> cases is
      · exact .settles rfl rfl (acts_tcpConnectCb client).settles
      · exact .settles rfl rfl unchanged
  | tcpRecv p =>
      rw [MqttClient.step] at is
      split at is
      · obtain ⟨received, recv, rfl⟩ := Option.map_eq_some_iff.mp is
        exact .settles rfl rfl (acts_tcpRecvCb recv).settles
      · cases is
        exact .settles rfl rfl unchanged
  | tcpSent =>
      rw [MqttClient.step] at is
      split at is <;> cases is
      · exact .settles rfl rfl (acts_tcpSentCb client).settles
      · exact .settles rfl rfl unchanged
  | tcpErr =>
      rw [MqttClient.step] at is
      split at is <;> cases is
      · exact .settles rfl rfl (acts_tcpErrCb client).settles
      · exact .settles rfl rfl unchanged
  | tcpPoll =>
      rw [MqttClient.step] at is
      split at is <;> cases is
      · exact .settles rfl rfl (acts_tcpPollCb client).settles
      · exact .settles rfl rfl unchanged
  | timer =>
      rw [MqttClient.step] at is
      split at is
      next running =>
        cases is
        exact progress_timer client running
      next stopped =>
        cases is
        refine .settles rfl ?_ unchanged
        rw [MqttEvent.ticks, Bool.eq_false_iff.mpr stopped, Bool.false_and]

/-! ### Runs -/

omit [DecidableEq α] in
/-- The requests that are out had the interval left at most, and the others have so much less. -/
theorem requestTimeElapsed_spec (client : MqttClient α) :
    ∃ over_, (∀ x ∈ over_, x.2 ≤ mqttCyclicTimerInterval) ∧
      ended client.requestTimeElapsed.2 = over_.filterMap Prod.fst ∧
      deadlines 0 client.pendReqQueue = over_ ++
        (deadlines 0 client.requestTimeElapsed.1.pendReqQueue).map
          fun x => (x.1, x.2 + mqttCyclicTimerInterval) := by
  obtain ⟨over_, inTime, are, is⟩ :=
    deadlines_mqttRequestTimeElapsed mqttCyclicTimerInterval client.pendReqQueue
  refine ⟨over_, inTime, ?_, is⟩
  have same := congrArg (List.filterMap id) are
  rw [List.filterMap_map, List.filterMap_map] at same
  rw [MqttClient.requestTimeElapsed, ended_calls]
  exact same.symm

theorem count_step {e : MqttEvent α} {out : Called α} (is : client.step e = some out) (a : α) :
    (ended out.2.1).count a + (pending out.1).count a ≤
      (pending client).count a + (e.accepts out.2.2).count a := by
  cases progress_step is with
  | settles none_ untimed settles =>
      rw [none_, List.count_nil, Nat.add_zero]
      exact settles.once a
  | enqueues r one untimed quiet queue =>
      have more : pending out.1 = pending client ++ r.cb.toList := by
        rw [pending, queue, mqttAppendRequest, List.filterMap_append]
        congr 1
      rw [quiet, one, more, List.count_append, List.count_nil, Nat.zero_add]
  | ticks none_ timed effects after =>
      obtain ⟨over_, -, are, is⟩ := requestTimeElapsed_spec client
      have parts : pending client =
          over_.filterMap Prod.fst ++ pending client.requestTimeElapsed.1 := by
        rw [pending_eq, is, List.filterMap_append, List.filterMap_map, pending_eq]
        rfl
      have := after.once a
      rw [none_, effects, parts, ended_append, are, List.count_append, List.count_append,
        List.count_nil]
      omega

/-- A run, with what every event did. -/
def record (client : MqttClient α) :
    List (MqttEvent α) → Option (MqttClient α × List (MqttEvent α × Called α))
  | [] => some (client, [])
  | e :: es => (client.step e).bind fun out =>
      (record out.1 es).map fun (last, steps) => (last, (e, out) :: steps)

/-- The callbacks of the calls that were accepted. -/
def acceptedIn (steps : List (MqttEvent α × Called α)) : List α :=
  steps.flatMap fun step => step.1.accepts step.2.2.2

/-- The callbacks that were called for the end of a request. -/
def endedIn (steps : List (MqttEvent α × Called α)) : List α :=
  steps.flatMap fun step => ended step.2.2.1

theorem count_record {es : List (MqttEvent α)} {last : MqttClient α}
    {steps : List (MqttEvent α × Called α)} (ran : record client es = some (last, steps)) (a : α) :
    (endedIn steps).count a + (pending last).count a ≤
      (pending client).count a + (acceptedIn steps).count a := by
  induction es generalizing client steps with
  | nil =>
      cases ran
      exact Nat.le_of_eq (Nat.zero_add _)
  | cons e es ih =>
      obtain ⟨out, step, ran⟩ := Option.bind_eq_some_iff.mp ran
      obtain ⟨⟨_, later⟩, ranOn, is⟩ := Option.map_eq_some_iff.mp ran
      cases is
      have first := count_step step a
      have rest := ih ranOn
      rw [endedIn, acceptedIn, List.flatMap_cons, List.flatMap_cons, List.count_append,
        List.count_append, ← endedIn, ← acceptedIn]
      simp only
      omega

/-- In any run, a callback is called for the end of a request no more often than calls were
accepted with it, and those that are pending are not among these. -/
theorem mqttRun_once {es : List (MqttEvent α)} {last : MqttClient α}
    {steps : List (MqttEvent α × Called α)} (ran : record {} es = some (last, steps)) (a : α) :
    (endedIn steps).count a + (pending last).count a ≤ (acceptedIn steps).count a := by
  have counted := count_record ran a
  rwa [show (pending ({} : MqttClient α)).count a = 0 from rfl, Nat.zero_add] at counted

/-- A PUBLISH without acknowledgement, which ends when it is sent. -/
def requestsRun : List (MqttEvent Nat) :=
  [.clientConnect true { clientId := [97], keepAlive := 0 } (.ok []), .tcpConnected,
    .tcpRecv (some [32, 2, 0, 0]), .publish [98] none 0 0 0 (some 7), .tcpSent]

/-- Its callback is called once. -/
theorem mqttRun_once_publish :
    ∃ last steps, record {} requestsRun = some (last, steps) ∧ endedIn steps = [7] ∧
      (endedIn steps).count 7 + (pending last).count 7 ≤ (acceptedIn steps).count 7 := by
  obtain ⟨⟨last, steps⟩, ran⟩ := Option.isSome_iff_exists.mp
    (by decide +kernel : (record {} requestsRun).isSome = true)
  have ends : (record {} requestsRun).map (fun x => endedIn x.2) = some [7] := by decide +kernel
  rw [ran] at ends
  exact ⟨last, steps, ran, Option.some.inj ends, mqttRun_once ran 7⟩

end Counting

/-! ### Timeouts -/

section Timeouts

variable {β : Type}

/-- A call at some time. -/
def MqttEvent.stamp (now : Nat) : MqttEvent β → MqttEvent (β × Nat)
  | .clientConnect cb info tcp => .clientConnect cb info tcp
  | .publish topic payload payloadLength qos retain cb =>
      .publish topic payload payloadLength qos retain (cb.map (·, now))
  | .subUnsub topic qos cb sub => .subUnsub topic qos (cb.map (·, now)) sub
  | .setInpubCallback pubCb dataCb => .setInpubCallback pubCb dataCb
  | .disconnect => .disconnect
  | .tcpConnected => .tcpConnected
  | .tcpRecv p => .tcpRecv p
  | .tcpSent => .tcpSent
  | .tcpErr => .tcpErr
  | .tcpPoll => .tcpPoll
  | .timer => .timer

/-- A client whose callbacks know when they were given, in intervals of the connected client. -/
structure Clocked (β : Type) where
  client : MqttClient (β × Nat) := {}
  now : Nat := 0

/-- The clocked client at an event, and what it does. -/
def Clocked.next (c : Clocked β) (e : MqttEvent β) :
    Option (Clocked β × List (MqttEffect (β × Nat))) :=
  (c.client.step (e.stamp c.now)).map fun out =>
    ({ client := out.1, now := if (e.stamp c.now).ticks c.client then c.now + 1 else c.now },
      out.2.1)

/-- The clocked client after a run. -/
def clockedRun (c : Clocked β) : List (MqttEvent β) → Option (Clocked β)
  | [] => some c
  | e :: es => (c.next e).bind fun next => clockedRun next.1 es

/-- The time left and the time since the call are the whole time. -/
def InTime (now : Nat) (x : Option (β × Nat) × Nat) : Prop :=
  ∃ birth ≤ now, x.2 + mqttCyclicTimerInterval * (now - birth) = mqttReqTimeout ∧
    ∀ a, x.1 = some a → a.2 = birth

/-- All pending requests are in time. -/
def Clocked.OnTime (c : Clocked β) : Prop :=
  ∀ x ∈ deadlines 0 c.client.pendReqQueue, InTime c.now x

theorem accepts_stamp {e : MqttEvent β} {now : Nat} {err : MqttErr} {a : β × Nat}
    (mem : a ∈ (e.stamp now).accepts err) : a.2 = now := by
  have stamped {cb : Option β} (mem : a ∈ if err = .ok then (cb.map (·, now)).toList else []) :
      a.2 = now := by
    split at mem
    · rw [Option.mem_toList] at mem
      obtain ⟨b, -, rfl⟩ := Option.map_eq_some_iff.mp mem
      rfl
    · cases mem
  cases e with
  | publish => exact stamped mem
  | subUnsub => exact stamped mem
  | _ => cases mem

variable [DecidableEq β]

theorem onTime_next {c next : Clocked β} {e : MqttEvent β}
    {effects : List (MqttEffect (β × Nat))} (onTime : c.OnTime)
    (is : c.next e = some (next, effects)) :
    next.OnTime ∧ ∀ a birth, .request (a, birth) .timeout ∈ effects →
      next.now = c.now + 1 ∧ (next.now = birth + 6 ∨ next.now = birth + 7) := by
  obtain ⟨out, step, same⟩ := Option.map_eq_some_iff.mp is
  cases same
  cases progress_step step with
  | settles none_ untimed settles =>
      rw [untimed, if_neg Bool.false_ne_true]
      exact ⟨fun x mem => onTime x (settles.times.mem mem),
        fun a birth mem => absurd mem (settles.answered (a, birth))⟩
  | enqueues r one untimed quiet queue =>
      rw [untimed, if_neg Bool.false_ne_true]
      refine ⟨fun x mem => ?_, fun a birth mem => absurd quiet (ended_ne_nil mem)⟩
      have short : ∀ x ∈ deadlines 0 c.client.pendReqQueue, x.2 ≤ mqttReqTimeout := by
        intro x mem
        obtain ⟨birth, _, left, _⟩ := onTime x mem
        omega
      simp only [queue] at mem
      rw [deadlines_mqttAppendRequest short] at mem
      rcases List.mem_append.mp mem with old | new
      · exact onTime x old
      · rw [List.mem_singleton] at new
        subst new
        refine ⟨c.now, Nat.le_refl _, by rw [Nat.sub_self]; rfl, fun a is => ?_⟩
        have mem : a ∈ (e.stamp c.now).accepts out.2.2 := by
          rw [one, Option.mem_toList]
          exact is
        exact accepts_stamp mem
  | ticks none_ timed parts after =>
      rw [timed, if_pos rfl]
      obtain ⟨over_, short, are, was⟩ := requestTimeElapsed_spec c.client
      constructor
      · intro x mem
        have before : (x.1, x.2 + mqttCyclicTimerInterval) ∈
            deadlines 0 c.client.pendReqQueue := by
          rw [was]
          exact List.mem_append_right _ (List.mem_map_of_mem (after.times.mem mem))
        obtain ⟨birth, le, left, own⟩ := onTime _ before
        have interval : mqttCyclicTimerInterval = 5 := rfl
        refine ⟨birth, Nat.le_succ_of_le le, ?_, own⟩
        simp only [interval] at left ⊢
        omega
      · intro a birth mem
        rw [parts] at mem
        have first : .request (a, birth) .timeout ∈ c.client.requestTimeElapsed.2 :=
          (List.mem_append.mp mem).resolve_right (after.answered (a, birth))
        have gone : (a, birth) ∈ ended c.client.requestTimeElapsed.2 :=
          List.mem_filterMap.mpr ⟨_, first, rfl⟩
        rw [are] at gone
        obtain ⟨x, out_, isCb⟩ := List.mem_filterMap.mp gone
        obtain ⟨birth', le, left, own⟩ := onTime x (by
          rw [was]
          exact List.mem_append_left _ out_)
        obtain rfl : birth = birth' := own _ isCb
        have inTime := short x out_
        have interval : mqttCyclicTimerInterval = 5 := rfl
        have whole : mqttReqTimeout = 30 := rfl
        simp only [interval, whole] at inTime left
        refine ⟨rfl, ?_⟩
        simp only
        omega

theorem onTime_run {c last : Clocked β} {es : List (MqttEvent β)} (onTime : c.OnTime)
    (ran : clockedRun c es = some last) : last.OnTime := by
  induction es generalizing c with
  | nil =>
      cases ran
      exact onTime
  | cons e es ih =>
      obtain ⟨⟨next, effects⟩, step, ranOn⟩ := Option.bind_eq_some_iff.mp ran
      exact ih (onTime_next onTime step).1 ranOn

/-- In any run, a request times out when the sixth or seventh interval since its call ends, and no
request is pending for longer. -/
theorem mqttRun_timeouts {es : List (MqttEvent β)} {c : Clocked β}
    (ran : clockedRun {} es = some c) :
    (∀ a birth, (a, birth) ∈ pending c.client → birth ≤ c.now ∧ c.now ≤ birth + 6) ∧
      ∀ e next effects, c.next e = some (next, effects) → ∀ a birth,
        .request (a, birth) .timeout ∈ effects →
          next.now = c.now + 1 ∧ (next.now = birth + 6 ∨ next.now = birth + 7) := by
  have onTime : c.OnTime := onTime_run (fun x mem => by cases mem) ran
  refine ⟨fun a birth mem => ?_, fun e next effects is => (onTime_next onTime is).2⟩
  rw [pending_eq] at mem
  obtain ⟨x, isIn, isCb⟩ := List.mem_filterMap.mp mem
  obtain ⟨birth', le, left, own⟩ := onTime x isIn
  obtain rfl : birth = birth' := own _ isCb
  have interval : mqttCyclicTimerInterval = 5 := rfl
  have whole : mqttReqTimeout = 30 := rfl
  simp only [interval, whole] at left
  omega

/-- Two calls in one interval, and six intervals. -/
def timeoutsRun : List (MqttEvent Nat) :=
  [.clientConnect true { clientId := [97], keepAlive := 0 } (.ok []), .tcpConnected,
    .tcpRecv (some [32, 2, 0, 0]), .publish [98] none 0 1 0 (some 1),
    .publish [98] none 0 1 0 (some 2)] ++ List.replicate 6 .timer

/-- The first is out, and the second is so after another interval. -/
theorem mqttRun_timeouts_two :
    ∃ c next effects, clockedRun {} timeoutsRun = some c ∧ pending c.client = [(2, 0)] ∧
      c.now ≤ 0 + 6 ∧ c.next .timer = some (next, effects) ∧
      .request (2, 0) .timeout ∈ effects ∧ (next.now = 0 + 6 ∨ next.now = 0 + 7) := by
  obtain ⟨c, ran⟩ := Option.isSome_iff_exists.mp
    (by decide +kernel : (clockedRun {} timeoutsRun).isSome = true)
  have left : (clockedRun {} timeoutsRun).map (fun c => pending c.client) = some [(2, 0)] := by
    decide +kernel
  have goes : ((clockedRun {} timeoutsRun).bind fun c => (c.next .timer).map Prod.snd) =
      some [.request (2, 0) .timeout] := by
    decide +kernel
  rw [ran] at left goes
  rw [Option.bind_some] at goes
  obtain ⟨⟨next, effects⟩, step, is⟩ := Option.map_eq_some_iff.mp goes
  have pending_ : pending c.client = [(2, 0)] := Option.some.inj left
  obtain rfl : effects = [.request (2, 0) .timeout] := is
  have called : MqttEffect.request (2, 0) .timeout ∈ [MqttEffect.request (2, 0) .timeout] :=
    List.mem_singleton.mpr rfl
  obtain ⟨inTime, timely⟩ := mqttRun_timeouts ran
  exact ⟨c, next, _, ran, pending_, (inTime 2 0 (pending_ ▸ List.mem_singleton.mpr rfl)).2,
    step, called, (timely _ _ _ step 2 0 called).2⟩

end Timeouts

end LwipExt.Mqtt
