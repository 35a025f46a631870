import LwipExt.Mqtt.Packets

/-!
What the callbacks of the client do, one act after the other.

A callback only changes the output ring and the requests by the acts of `Act`. What every act keeps,
every callback keeps (`acts_tcpRecvCb`, `acts_tcpSentCb`).
-/

namespace LwipExt.Mqtt

variable {α : Type}

/-- The effect is neither a write nor the end of a request. -/
def MqttEffect.IsNotice : MqttEffect α → Prop
  | .tcpWrite _ => False
  | .request _ _ => False
  | _ => True

/-- One act of a client, with what it does. -/
inductive Act : MqttClient α → MqttClient α → List (MqttEffect α) → Prop where
  | note {client client' : MqttClient α} {effects : List (MqttEffect α)}
      (output : client'.output = client.output)
      (queue : client'.pendReqQueue = client.pendReqQueue)
      (quiet : ∀ effect ∈ effects, effect.IsNotice) : Act client client' effects
  | send (client : MqttClient α) : Act client client.outputSend.1 client.outputSend.2
  | respond (client : MqttClient α) {msg : MsgType} (response : msg.IsResponse) (pktId : Nat) :
      Act client (client.pubAckRecRelResponse msg pktId (responseQos msg)).1
        (client.pubAckRecRelResponse msg pktId (responseQos msg)).2
  | settle {client : MqttClient α} {pktId : Nat} {r : MqttRequest α}
      {queue : List (MqttRequest α)} {err : MqttErr}
      (taken : mqttTakeRequest pktId client.pendReqQueue = (some r, queue))
      (answered : err ≠ .timeout) :
      Act client
        { client with pendReqQueue := queue, reqList := freeSlots client.reqList [r] } (r.call err)
  | lose {client : MqttClient α} {pktId : Nat} {r : MqttRequest α} {queue : List (MqttRequest α)}
      (taken : mqttTakeRequest pktId client.pendReqQueue = (some r, queue)) :
      Act client { client with pendReqQueue := queue } []
  | close (client : MqttClient α) (reason : Nat) :
      Act client (client.close reason).1 (client.close reason).2

/-- Acts one after the other. -/
inductive Acts : MqttClient α → MqttClient α → List (MqttEffect α) → Prop where
  | nil (client : MqttClient α) : Acts client client []
  | cons {client client' client'' : MqttClient α} {effects effects' : List (MqttEffect α)}
      (first : Act client client' effects) (rest : Acts client' client'' effects') :
      Acts client client'' (effects ++ effects')

section Acts

variable {client client' client'' : MqttClient α} {effects effects' : List (MqttEffect α)}

theorem Act.acts (act : Act client client' effects) : Acts client client' effects := by
  have one := Acts.cons act (.nil client')
  rwa [List.append_nil] at one

theorem Acts.trans (first : Acts client client' effects) (second : Acts client' client'' effects') :
    Acts client client'' (effects ++ effects') := by
  induction first with
  | nil => exact second
  | cons act _ ih =>
      rw [List.append_assoc]
      exact .cons act (ih second)

/-- A relation that the acts have, and that can be put together, is one of all acts. -/
theorem Acts.rec_rel {R : MqttClient α → MqttClient α → List (MqttEffect α) → Prop}
    (refl : ∀ client, R client client [])
    (trans : ∀ {client client' client'' effects effects'}, R client client' effects →
      R client' client'' effects' → R client client'' (effects ++ effects'))
    (each : ∀ {client client' effects}, Act client client' effects → R client client' effects)
    (acts : Acts client client' effects) : R client client' effects := by
  induction acts with
  | nil client => exact refl client
  | cons act _ ih => exact trans (each act) ih

/-- Other fields change, with nothing but notices. -/
theorem acts_note (output : client'.output = client.output)
    (queue : client'.pendReqQueue = client.pendReqQueue)
    (quiet : ∀ effect ∈ effects, effect.IsNotice) : Acts client client' effects :=
  (Act.note output queue quiet).acts

/-- Nothing that is seen happens. -/
theorem acts_silent (output : client'.output = client.output)
    (queue : client'.pendReqQueue = client.pendReqQueue) : Acts client client' [] :=
  acts_note output queue (List.forall_mem_nil _)

/-! ### Messages -/

theorem acts_publishData {off length remaining qos : Nat} {before : List (MqttEffect α)}
    (quiet : ∀ effect ∈ before, effect.IsNotice) {out : Received α}
    (is : client.publishData off length remaining qos before = some out) :
    Acts client out.1 out.2.1 := by
  have notes (part : MqttEffect α) (notice : part.IsNotice) :
      Acts client client (before ++ [part]) :=
    acts_note rfl rfl
      (List.forall_mem_append.mpr ⟨quiet, List.forall_mem_singleton.mpr notice⟩)
  rw [MqttClient.publishData] at is
  split at is
  · split at is
    · simp only at is
      split at is
      · cases is
        have response : MsgType.IsResponse (if qos = 1 then .puback else .pubrec) := by
          split
          · exact .inl rfl
          · exact .inr (.inl rfl)
        have qos0 : responseQos (if qos = 1 then .puback else .pubrec) = 0 := by
          split <;> rfl
        have responds := (Act.respond client response client.inpubPktId).acts
        rw [qos0] at responds
        rw [← List.singleton_append, ← List.append_assoc]
        have delivered := notes (.data ((client.rxBuffer.drop off).take length) (remaining = 0)) trivial
        exact delivered.trans responds
      · cases is
        exact notes (.data ((client.rxBuffer.drop off).take length) (remaining = 0)) trivial
    · cases is
  · cases is
    exact acts_note rfl rfl quiet

theorem acts_receivedPublish {idx length remaining : Nat} {out : Received α}
    (is : client.receivedPublish idx length remaining = some out) : Acts client out.1 out.2.1 := by
  rw [MqttClient.receivedPublish] at is
  by_cases first : client.msgIdx ≤ mqttVarHeaderBufferLen
  · by_cases short : length < u16 (2 + client.rxU16 idx) +
        (if 0 < (client.rxAt 0).toNat / 2 % 4 then 2 else 1)
    · simp only [first, short, if_true] at is
      cases is
      exact .nil client
    · simp only [first, short, if_true, if_false] at is
      by_cases past : mqttVarHeaderBufferLen ≤ idx + 2 + client.rxU16 idx
      · rw [if_pos past] at is
        cases is
      · rw [if_neg past] at is
        have stored (id : Nat) : Acts client { client with inpubPktId := id } [] :=
          acts_silent rfl rfl
        refine (stored _).trans (acts_publishData ?_ is)
        split
        · exact List.forall_mem_singleton.mpr trivial
        · exact List.forall_mem_nil _
  · rw [if_neg first] at is
    exact acts_publishData (List.forall_mem_nil _) is

theorem acts_receivedAck (client : MqttClient α) (suback : Bool) (pktId result length : Nat) :
    Acts client (client.receivedAck suback pktId result length).1
      (client.receivedAck suback pktId result length).2.1 := by
  rw [MqttClient.receivedAck]
  split
  next taken =>
    simp only
    split
    · exact (Act.lose taken).acts
    · exact (Act.settle taken (by split <;> exact MqttErr.noConfusion)).acts
  · exact .nil client

theorem acts_messageReceived {idx length remaining : Nat} {out : Received α}
    (is : client.messageReceived idx length remaining = some out) :
    Acts client out.1 out.2.1 := by
  rw [MqttClient.messageReceived] at is
  simp only at is
  split at is
  · split at is
    · split at is
      · cases is
        refine acts_note rfl rfl ?_
        split
        · exact List.forall_mem_singleton.mpr trivial
        · exact List.forall_mem_nil _
      · cases is
        exact .nil client
    · cases is
      exact .nil client
  split at is
  · cases is
    exact .nil client
  split at is
  · exact acts_receivedPublish is
  split at is
  · cases is
    exact .nil client
  split at is
  · cases is
    exact (Act.respond client (.inr (.inr (.inl rfl))) _).acts
  split at is
  · cases is
    exact (Act.respond client (.inr (.inr (.inr rfl))) _).acts
  split at is
  · cases is
    exact acts_receivedAck client _ _ _ _
  · cases is
    exact .nil client

/-! ### The parser -/

theorem acts_reset (client : MqttClient α) : Acts client { client with msgIdx := 0 } [] :=
  acts_silent rfl rfl

theorem acts_headerByte {l : Parser} {b : UInt8} {p : Bytes} {out : ParseStep α}
    (is : client.headerByte l b p = some out) : Acts client out.client out.effects := by
  rw [MqttClient.headerByte] at is
  simp only at is
  split at is
  · cases is
    exact .nil client
  split at is
  · cases is
  split at is
  · cases is
    exact .nil client
  split at is
  · obtain ⟨received, message, rfl⟩ := Option.map_eq_some_iff.mp is
    have acts := (acts_messageReceived message).trans (acts_reset received.1)
    rwa [List.append_nil] at acts
  · cases is
    exact .nil client

theorem acts_bodyBytes {l : Parser} {p : Bytes} {out : ParseStep α}
    (is : client.bodyBytes l p = some out) : Acts client out.client out.effects := by
  rw [MqttClient.bodyBytes] at is
  simp only at is
  split at is
  · obtain ⟨received, message, is⟩ := Option.map_eq_some_iff.mp is
    have copied (buffer : Bytes) (idx : Nat) :
        Acts client { client with rxBuffer := buffer, msgIdx := idx } [] := acts_silent rfl rfl
    have acts := (copied _ _).trans (acts_messageReceived message)
    split at is
    · subst is
      exact acts
    split at is
    · subst is
      have reset := acts.trans (acts_reset received.1)
      rwa [List.append_nil] at reset
    · subst is
      exact acts
  · cases is
    exact acts_silent rfl rfl

theorem acts_parseStep {l : Parser} {p : Bytes} {out : ParseStep α}
    (is : client.parseStep l p = some out) : Acts client out.client out.effects := by
  rw [MqttClient.parseStep] at is
  split at is
  · split at is
    · exact acts_headerByte is
    · have stored (buffer : Bytes) (idx : Nat) :
          Acts client { client with rxBuffer := buffer, msgIdx := idx } [] := acts_silent rfl rfl
      exact (stored _ _).trans (acts_headerByte is)
  · exact acts_bodyBytes is

theorem acts_parseLoop {fuel : Nat} {l : Parser} {p : Bytes} {before : List (MqttEffect α)}
    {out : Received α} (is : client.parseLoop fuel l p before = some out) :
    ∃ effects, out.2.1 = before ++ effects ∧ Acts client out.1 effects := by
  have stays (client : MqttClient α) (before : List (MqttEffect α)) :
      ∃ effects, before = before ++ effects ∧ Acts client client effects :=
    ⟨[], (List.append_nil before).symm, .nil client⟩
  induction fuel generalizing client l p before with
  | zero =>
      cases is
      exact stays client before
  | succ fuel ih =>
      rw [MqttClient.parseLoop] at is
      split at is
      · cases is
        exact stays client before
      split at is
      · cases is
      next step =>
        cases is
        exact ⟨_, rfl, acts_parseStep step⟩
      next client' l' p' more step =>
        obtain ⟨effects, is_, later⟩ := ih is
        exact ⟨more ++ effects, by rw [is_, List.append_assoc], (acts_parseStep step).trans later⟩

/-! ### Callbacks -/

theorem acts_tcpRecvCb {p : Option Bytes} {out : MqttClient α × List (MqttEffect α)}
    (is : client.tcpRecvCb p = some out) : Acts client out.1 out.2 := by
  cases p with
  | none =>
    cases is
    exact (Act.close client _).acts
  | some p =>
    obtain ⟨⟨client', effects, res⟩, parsed, rfl⟩ := Option.map_eq_some_iff.mp is
    obtain ⟨_, is_, acts⟩ := acts_parseLoop parsed
    rw [List.nil_append] at is_
    rw [← is_] at acts
    simp only
    have watched (client : MqttClient α) : Acts client
        (if client.keepAlive ≠ 0 then { client with serverWatchdog := 0 } else client) [] :=
      acts_silent (by split <;> rfl) (by split <;> rfl)
    by_cases accepted : res = mqttConnectAccepted
    · rw [if_neg (not_not.mpr accepted)]
      exact acts.trans (watched client')
    · rw [if_pos accepted]
      have closed := (Act.close client' res).acts.trans (watched _)
      rw [List.append_nil] at closed
      exact acts.trans closed

theorem acts_completeQos0 (fuel : Nat) (client : MqttClient α) :
    Acts client (client.completeQos0 fuel).1 (client.completeQos0 fuel).2 := by
  induction fuel generalizing client with
  | zero => exact .nil client
  | succ fuel ih =>
      rw [MqttClient.completeQos0]
      split
      next taken => exact .cons (.settle taken MqttErr.noConfusion) (ih _)
      · exact .nil client

theorem acts_tcpSentCb (client : MqttClient α) :
    Acts client client.tcpSentCb.1 client.tcpSentCb.2 := by
  rw [MqttClient.tcpSentCb]
  split
  · have reset : Acts client { client with cyclicTick := 0, serverWatchdog := 0 } [] :=
      acts_silent rfl rfl
    exact (reset.trans (acts_completeQos0 _ _)).trans (Act.send _).acts
  · exact .nil client

theorem acts_tcpErrCb (client : MqttClient α) :
    Acts client client.tcpErrCb.1 client.tcpErrCb.2 := by
  have gone : Acts client { client with conn := none } [] := acts_silent rfl rfl
  exact gone.trans (Act.close _ _).acts

theorem acts_tcpPollCb (client : MqttClient α) :
    Acts client client.tcpPollCb.1 client.tcpPollCb.2 := by
  rw [MqttClient.tcpPollCb]
  split
  · exact (Act.send client).acts
  · exact .nil client

theorem acts_tcpConnectCb (client : MqttClient α) :
    Acts client client.tcpConnectCb.1 client.tcpConnectCb.2 := by
  have connected : Acts client { client with
      msgIdx := 0, connState := .mqttConnecting, cyclicTimer := true, cyclicTick := 0 } [] :=
    acts_silent rfl rfl
  exact connected.trans (Act.send _).acts

theorem acts_disconnect (client : MqttClient α) :
    Acts client client.disconnect.1 client.disconnect.2 := by
  rw [MqttClient.disconnect]
  split
  · have marked : Acts client { client with connState := .tcpDisconnected } [] :=
      acts_silent rfl rfl
    exact marked.trans (Act.close _ _).acts
  · exact .nil client

theorem acts_watchServer (client : MqttClient α) :
    Acts client client.watchServer.1 client.watchServer.2 := by
  have counted : Acts client { client with serverWatchdog := client.serverWatchdog + 1 } [] :=
    acts_silent rfl rfl
  rw [MqttClient.watchServer]
  simp only
  split
  · exact counted.trans (Act.close _ _).acts
  · exact counted

end Acts

end LwipExt.Mqtt
