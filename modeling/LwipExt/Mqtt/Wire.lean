import LwipExt.Mqtt.Acts
import LwipExt.Mqtt.Output

/-!
The packets that the functions of the client append.

`Emits` says of a function which packets it appends: the bytes in the ring before and these packets
are what it writes and what it leaves in the ring. There is one such lemma for each function.
-/

namespace LwipExt.Mqtt

open Lib (encodeLength)

/-! ### What the functions append -/

section Emits

variable {α : Type}

/-- The bytes that effects write. -/
def written (effects : List (MqttEffect α)) : Bytes :=
  effects.flatMap fun
    | .tcpWrite data => data
    | _ => []

@[simp] theorem written_append (a b : List (MqttEffect α)) : written (a ++ b) = written a ++ written b :=
  List.flatMap_append

/-- The bytes of packets. -/
def encodeAll (packets : List MqttPacket) : Bytes := packets.flatMap MqttPacket.encode

/-- From one client to another with these effects, just these packets are appended. -/
def Emits (client client' : MqttClient α) (effects : List (MqttEffect α))
    (packets : List MqttPacket) : Prop :=
  ∀ held, client.output.Holds held → ∃ held', client'.output.Holds held' ∧
    held ++ encodeAll packets = written effects ++ held'

variable {client client' client'' : MqttClient α} {effects effects' : List (MqttEffect α)}
  {packets packets' : List MqttPacket}

theorem Emits.of_output (same : client'.output = client.output) (nothing : written effects = []) :
    Emits client client' effects [] :=
  fun held holds => ⟨held, same ▸ holds, by rw [nothing]; exact List.append_nil held⟩

theorem Emits.trans (first : Emits client client' effects packets)
    (second : Emits client' client'' effects' packets') :
    Emits client client'' (effects ++ effects') (packets ++ packets') := by
  intro held holds
  obtain ⟨held', holds', is⟩ := first held holds
  obtain ⟨held'', holds'', is'⟩ := second held' holds'
  refine ⟨held'', holds'', ?_⟩
  rw [encodeAll, List.flatMap_append, ← List.append_assoc, ← encodeAll, is, List.append_assoc,
    ← encodeAll, is', written_append, List.append_assoc]

theorem emits_outputSend (client : MqttClient α) :
    Emits client client.outputSend.1 client.outputSend.2 [] := by
  intro held holds
  rw [MqttClient.outputSend]
  split
  next tcp later _ =>
    obtain ⟨rest, next, is⟩ := holds.send tcp
    refine ⟨rest, next, ?_⟩
    rw [encodeAll, List.flatMap_nil, List.append_nil, is]
    exact congrArg (· ++ rest) (List.append_nil _).symm
  · exact ⟨held, holds, List.append_nil held⟩

/-- What was appended is sent, if that can be. -/
theorem Emits.send (appended : Emits client client' [] packets) :
    Emits client client'.outputSend.1 client'.outputSend.2 packets := by
  have sent := appended.trans (emits_outputSend client')
  rwa [List.nil_append, List.append_nil] at sent

/-- A packet is appended if there is space for it. -/
theorem emits_append {p : MqttPacket} (small : p.frame.2.length < 65532)
    (room : client.output.checkSpace p.frame.2.length = true)
    (output : client'.output = client.output.appendBuf p.encode) :
    Emits client client' [] [p] := by
  intro held holds
  have fits := (holds.checkSpace_iff small).mp room
  have length : p.encode.length =
      1 + (Lib.encodeLength p.frame.2.length).length + p.frame.2.length := by
    rw [MqttPacket.encode, Lib.Frame.encode, List.cons_append, List.length_cons, List.length_append]
    omega
  refine ⟨held ++ p.encode, ?_, ?_⟩
  · rw [output]
    exact holds.appendBuf (by omega)
  · rw [encodeAll, List.flatMap_singleton]
    rfl

/-- What the loop over a request's callbacks calls writes nothing. -/
theorem written_call (r : MqttRequest α) (err : MqttErr) : written (r.call err) = [] := by
  rw [MqttRequest.call]
  cases r.cb <;> rfl

theorem written_calls (requests : List (MqttRequest α)) (err : MqttErr) :
    written (requests.flatMap fun r => r.call err) = [] := by
  induction requests with
  | nil => rfl
  | cons r requests ih => rw [List.flatMap_cons, written_append, ih, written_call]; rfl

theorem emits_close (client : MqttClient α) (reason : Nat) :
    Emits client (client.close reason).1 (client.close reason).2 [] := by
  refine .of_output rfl ?_
  rw [MqttClient.close]
  simp only [written_append]
  split <;> split <;> rfl

/-- The packets that acknowledge a PUBLISH, or go on with it. -/
def Responses (packets : List MqttPacket) : Prop :=
  ∀ p ∈ packets, ∃ msg pktId, p = .response msg pktId ∧ p.Valid

/-- Only responses are appended. -/
def Responds (client client' : MqttClient α) (effects : List (MqttEffect α)) : Prop :=
  ∃ packets, Responses packets ∧ Emits client client' effects packets

theorem Emits.responds (emits : Emits client client' effects []) :
    Responds client client' effects := ⟨[], fun _ mem => (by cases mem), emits⟩

theorem Responds.trans (first : Responds client client' effects)
    (second : Responds client' client'' effects') :
    Responds client client'' (effects ++ effects') := by
  obtain ⟨packets, are, emits⟩ := first
  obtain ⟨packets', are', emits'⟩ := second
  exact ⟨packets ++ packets', List.forall_mem_append.mpr ⟨are, are'⟩, emits.trans emits'⟩

theorem bytes16_u16 (n : Nat) : bytes16 (u16 n) = bytes16 n := by
  have high : (UInt8.ofNat (u16 n / 256)) = UInt8.ofNat (n / 256) := by
    apply UInt8.toNat_inj.mp
    rw [UInt8.toNat_ofNat', UInt8.toNat_ofNat', u16]
    omega
  have low : UInt8.ofNat (u16 n) = UInt8.ofNat n := by
    apply UInt8.toNat_inj.mp
    rw [UInt8.toNat_ofNat', UInt8.toNat_ofNat', u16]
    omega
  rw [bytes16, bytes16, high, low]

theorem responds_pubAckRecRelResponse (client : MqttClient α) {msg : MsgType}
    (response : msg.IsResponse) (pktId : Nat) :
    Responds client (client.pubAckRecRelResponse msg pktId (responseQos msg)).1
      (client.pubAckRecRelResponse msg pktId (responseQos msg)).2 := by
  rw [MqttClient.pubAckRecRelResponse]
  split
  next room =>
    have appended : Emits client
        { client with output :=
            (client.output.appendFixedHeader msg 0 (responseQos msg) 0 2).appendU16 pktId }
        [] [.response msg (u16 pktId)] := by
      refine emits_append (Nat.lt_of_lt_of_le (Nat.lt_succ_self 2) (by decide)) room ?_
      rw [MqttPacket.encode, MqttPacket.frame, bytes16_u16]
      simp only [MqttRingbuf.appendFixedHeader_eq]
      exact MqttRingbuf.appendBuf_append client.output (header msg (responseQos msg) 0 ::
        encodeLength 2) (bytes16 pktId)
    refine ⟨[.response msg (u16 pktId)], ?_, appended.send⟩
    simp only [Responses, List.mem_singleton, forall_eq]
    exact ⟨msg, u16 pktId, rfl, response, Nat.mod_lt _ (by decide)⟩
  · exact (Emits.of_output rfl rfl).responds

/-- Every act of a callback appends responses, or nothing. -/
theorem Act.responds (act : Act client client' effects) : Responds client client' effects := by
  cases act with
  | note output queue quiet =>
      refine (Emits.of_output output ?_).responds
      rw [written, List.flatMap_eq_nil_iff]
      intro effect mem
      have notice := quiet effect mem
      cases effect with
      | tcpWrite data => cases notice
      | _ => rfl
  | send => exact (emits_outputSend client).responds
  | respond response pktId => exact responds_pubAckRecRelResponse client response pktId
  | settle taken answered => exact (Emits.of_output rfl (written_call _ _)).responds
  | lose taken => exact (Emits.of_output rfl rfl).responds
  | close reason => exact (emits_close client reason).responds

theorem Acts.responds (acts : Acts client client' effects) : Responds client client' effects :=
  acts.rec_rel (fun _ => (Emits.of_output rfl rfl).responds) Responds.trans Act.responds

theorem emits_completeQos0 (fuel : Nat) (client : MqttClient α) :
    Emits client (client.completeQos0 fuel).1 (client.completeQos0 fuel).2 [] := by
  induction fuel generalizing client with
  | zero => exact .of_output rfl rfl
  | succ fuel ih =>
      rw [MqttClient.completeQos0]
      split
      next r queue _ =>
        have here : Emits client { client with
            pendReqQueue := queue, reqList := freeSlots client.reqList [r] } (r.call .ok) [] :=
          .of_output rfl (written_call r .ok)
        exact here.trans (ih _)
      · exact .of_output rfl rfl

theorem emits_tcpSentCb (client : MqttClient α) :
    Emits client client.tcpSentCb.1 client.tcpSentCb.2 [] := by
  rw [MqttClient.tcpSentCb]
  split
  · have called := emits_completeQos0 client.pendReqQueue.length
      { client with cyclicTick := 0, serverWatchdog := 0 }
    exact called.trans (emits_outputSend _)
  · exact .of_output rfl rfl

theorem emits_sendKeepAlive (client : MqttClient α) :
    Emits client client.sendKeepAlive [] [] ∨ Emits client client.sendKeepAlive [] [.pingreq] := by
  rw [MqttClient.sendKeepAlive]
  split
  · split
    next room =>
      refine .inr (emits_append (p := .pingreq) (by decide) room ?_)
      have encoded : MqttPacket.pingreq.encode = header .pingreq 0 0 :: encodeLength 0 := by
        rw [MqttPacket.encode, Lib.Frame.encode]
        exact List.append_nil _
      rw [encoded, ← MqttRingbuf.appendFixedHeader_eq]
    · exact .inl (.of_output rfl rfl)
  · exact .inl (.of_output rfl rfl)

theorem emits_watchServer (client : MqttClient α) :
    Emits client client.watchServer.1 client.watchServer.2 [] := by
  rw [MqttClient.watchServer]
  simp only
  split
  · have closes := emits_close { client with serverWatchdog := client.serverWatchdog + 1 }
      mqttConnectTimeout
    exact closes
  · exact .of_output rfl rfl

/-- The timer appends a PINGREQ or nothing. -/
theorem emits_cyclicTimerExpired (client : MqttClient α) :
    Emits client client.cyclicTimerExpired.1 client.cyclicTimerExpired.2 [] ∨
      Emits client client.cyclicTimerExpired.1 client.cyclicTimerExpired.2 [.pingreq] := by
  rw [MqttClient.cyclicTimerExpired]
  split
  · simp only
    split
    · have closes := emits_close { client with cyclicTick := client.cyclicTick + 1 }
        mqttConnectTimeout
      exact .inl closes
    · exact .inl (.of_output rfl rfl)
  · have calls : Emits client client.requestTimeElapsed.1 client.requestTimeElapsed.2 [] :=
      .of_output rfl (written_calls _ .timeout)
    simp only
    split
    · exact .inl calls
    · have watched := calls.trans (emits_watchServer client.requestTimeElapsed.1)
      rcases emits_sendKeepAlive client.requestTimeElapsed.1.watchServer.1 with nothing | ping
      · have both := watched.trans nothing
        rw [List.append_nil] at both
        exact .inl both
      · have both := watched.trans ping
        rw [List.append_nil] at both
        exact .inr both
  · exact .inl (.of_output rfl rfl)

/-! ### Calls -/

/-- What a call returns, and the packet that it appends if it returns `ERR_OK`. -/
theorem emits_queueMessage {pktId : Nat} {cb : Option α} {p : MqttPacket}
    {append : MqttRingbuf → MqttRingbuf} (small : p.frame.2.length < 65532)
    (appends : ∀ rb, append rb = rb.appendBuf p.encode) {out : Called α}
    (is : client.queueMessage pktId cb p.frame.2.length append = out) :
    Emits client out.1 out.2.1 (if out.2.2 = .ok then [p] else []) := by
  subst is
  rw [MqttClient.queueMessage]
  split
  · exact .of_output rfl rfl
  next slot _ =>
    split
    next room =>
      have appended : Emits client { client with
          reqList := client.reqList.set slot true
          output := append client.output
          pendReqQueue := mqttAppendRequest client.pendReqQueue
            { slot := slot, cb := cb, pktId := pktId } } [] [p] :=
        emits_append small room (appends _)
      exact appended.send
    · exact .of_output rfl rfl

/-- The PUBLISH of a call. -/
def publishPacket (client : MqttClient α) (topic : Bytes) (payload : Option Bytes)
    (qos retain : Nat) : MqttPacket :=
  .publish topic (payload.getD []) qos (retain % 2) (if 0 < qos then client.generatePacketId else 0)

/-- The SUBSCRIBE or UNSUBSCRIBE of a call. -/
def topicPacket (client : MqttClient α) (topic : Bytes) (qos : Nat) (sub : Bool) : MqttPacket :=
  if sub then .subscribe topic qos client.generatePacketId
  else .unsubscribe topic client.generatePacketId

/-- What of the client info is sent. -/
def ClientInfo.sent (info : ClientInfo) : ClientInfo :=
  { info with
    willQos := if info.will.isSome then info.willQos % 4 else 0
    willRetain := info.will.isSome && info.willRetain }

theorem generatePacketId_lt (client : MqttClient α) : client.generatePacketId < 65536 := by
  have lt : u16 (client.pktIdSeq + 1) < 65536 := Nat.mod_lt _ (by decide)
  rw [MqttClient.generatePacketId]
  split <;> omega

theorem length_publish (client : MqttClient α) (topic : Bytes) (payload : Option Bytes)
    (qos retain : Nat) : (publishPacket client topic payload qos retain).frame.2.length =
      2 + topic.length + (payload.getD []).length + if 0 < qos then 2 else 0 := by
  rw [publishPacket, MqttPacket.frame]
  by_cases qos0 : 0 < qos
  · simp only [text, bytes16, qos0, if_true, List.length_append, List.length_cons, List.length_nil]
    omega
  · simp only [text, bytes16, qos0, if_false, List.length_append, List.length_cons, List.length_nil]
    omega

theorem appendId_eq (rb : MqttRingbuf) (qos pktId : Nat) :
    (if 0 < qos then rb.appendU16 pktId else rb) =
      rb.appendBuf (if 0 < qos then bytes16 pktId else []) := by
  split <;> rfl

theorem appendPublish_eq (client : MqttClient α) (topic : Bytes) (payload : Option Bytes)
    (qos retain : Nat) (rb : MqttRingbuf) :
    MqttClient.appendPublish topic payload (payload.getD []).length qos retain
        (if 0 < qos then client.generatePacketId else 0)
        (publishPacket client topic payload qos retain).frame.2.length rb =
      rb.appendBuf (publishPacket client topic payload qos retain).encode := by
  have first : header .publish qos retain = header .publish qos (retain % 2) := by
    rw [header, header, Nat.mod_mod]
  rw [MqttPacket.encode, Lib.Frame.encode]
  generalize (publishPacket client topic payload qos retain).frame.2.length = length
  simp only [publishPacket, MqttPacket.frame]
  cases payload with
  | none =>
      simp only [MqttClient.appendPublish, MqttRingbuf.appendFixedHeader_eq, appendId_eq,
        MqttRingbuf.appendString_eq, MqttRingbuf.appendBuf_append, first, Option.getD_none,
        List.append_nil, List.append_assoc]
  | some data =>
      simp only [MqttClient.appendPublish, MqttRingbuf.appendFixedHeader_eq, appendId_eq,
        MqttRingbuf.appendString_eq, MqttRingbuf.appendBuf_append, first, Option.getD_some,
        List.take_length, List.append_assoc]

theorem emits_publish (client : MqttClient α) {topic : Bytes} {payload : Option Bytes}
    {payloadLength qos : Nat} (retain : Nat) (cb : Option α)
    (exact_ : payloadLength = (payload.getD []).length)
    (small : 2 + topic.length + payloadLength + (if 0 < qos then 2 else 0) < 65532)
    {out : Called α} (is : client.publish topic payload payloadLength qos retain cb = out) :
    Emits client out.1 out.2.1
      (if out.2.2 = .ok then [publishPacket client topic payload qos retain] else []) := by
  subst exact_
  have refused : Emits client client [] [] := .of_output rfl rfl
  have length := length_publish client topic payload qos retain
  rw [MqttClient.publish] at is
  split at is
  · subst is
    exact refused
  split at is
  · subst is
    exact refused
  split at is
  · subst is
    exact refused
  · simp only at is
    rw [u16_of_lt (by omega), ← length] at is
    have issued : Emits client (if 0 < qos then { client with
        pktIdSeq := if 0 < qos then client.generatePacketId else 0 } else client) [] [] :=
      .of_output (by split <;> rfl) rfl
    have queued := issued.trans (emits_queueMessage (by omega)
      (appendPublish_eq client topic payload qos retain) is)
    exact queued

theorem length_topic (client : MqttClient α) (topic : Bytes) (qos : Nat) (sub : Bool) :
    (topicPacket client topic qos sub).frame.2.length =
      topic.length + 2 + 2 + if sub then 1 else 0 := by
  cases sub <;>
    simp only [topicPacket, if_true, if_false, Bool.false_eq_true, MqttPacket.frame, text, bytes16,
      List.length_append, List.length_cons, List.length_nil] <;> omega

theorem appendTopic_eq (client : MqttClient α) (topic : Bytes) {qos : Nat} (small : qos < 3)
    (sub : Bool) (rb : MqttRingbuf) :
    MqttClient.appendTopic topic qos sub client.generatePacketId
        (topicPacket client topic qos sub).frame.2.length rb =
      rb.appendBuf (topicPacket client topic qos sub).encode := by
  have id (rb : MqttRingbuf) : rb.appendU16 client.generatePacketId =
    rb.appendBuf (bytes16 client.generatePacketId) := rfl
  have last (rb : MqttRingbuf) : rb.appendU8 (UInt8.ofNat qos) =
    rb.appendBuf [UInt8.ofNat qos] := rfl
  have min_ : min qos 2 = qos := by omega
  rw [MqttPacket.encode, Lib.Frame.encode]
  generalize (topicPacket client topic qos sub).frame.2.length = length
  cases sub <;>
    simp only [topicPacket, MqttClient.appendTopic, MqttPacket.frame, if_true, if_false,
      Bool.false_eq_true, MqttRingbuf.appendFixedHeader_eq, MqttRingbuf.appendString_eq, id, last,
      min_, MqttRingbuf.appendBuf_append, List.append_assoc]

theorem emits_subUnsub (client : MqttClient α) {topic : Bytes} {qos : Nat} (cb : Option α)
    (sub : Bool) (smallQos : qos < 3) (small : topic.length + 5 < 65532) {out : Called α}
    (is : client.subUnsub topic qos cb sub = out) :
    Emits client out.1 out.2.1
      (if out.2.2 = .ok then [topicPacket client topic qos sub] else []) := by
  have refused : Emits client client [] [] := .of_output rfl rfl
  have length := length_topic client topic qos sub
  have le : (if sub then 1 else 0) ≤ 1 := by cases sub <;> decide
  rw [MqttClient.subUnsub, if_neg (by omega), if_neg (by omega)] at is
  split at is
  · subst is
    exact refused
  · simp only [← length] at is
    have queued := emits_queueMessage (by omega) (appendTopic_eq client topic smallQos sub) is
    exact queued

theorem ClientInfo.flags_sent (info : ClientInfo) : info.sent.flags = info.flags := by
  cases info with
  | mk clientId keepAlive will willQos willRetain =>
      cases will with
      | none => rfl
      | some pair => simp [ClientInfo.flags, ClientInfo.sent]

theorem appendConnect_eq (info : ClientInfo) (rb : MqttRingbuf) :
    info.append (MqttPacket.connect info.sent).frame.2.length rb =
      rb.appendBuf (MqttPacket.connect info.sent).encode := by
  have byte (rb : MqttRingbuf) (b : UInt8) : rb.appendU8 b = rb.appendBuf [b] := rfl
  have alive (rb : MqttRingbuf) : rb.appendU16 info.keepAlive =
    rb.appendBuf (bytes16 info.keepAlive) := rfl
  have sent : info.sent.keepAlive = info.keepAlive ∧ info.sent.clientId = info.clientId ∧
      info.sent.willBytes = info.willBytes := ⟨rfl, rfl, rfl⟩
  rw [MqttPacket.encode, Lib.Frame.encode]
  generalize (MqttPacket.connect info.sent).frame.2.length = length
  simp only [MqttPacket.frame, info.flags_sent, sent]
  rw [ClientInfo.append, ClientInfo.willBytes]
  cases info.will with
  | none =>
      simp only [MqttRingbuf.appendFixedHeader_eq, MqttRingbuf.appendString_eq, byte, alive,
        MqttRingbuf.appendBuf_append, List.append_assoc, List.append_nil, List.cons_append,
        List.nil_append]
  | some pair =>
      simp only [MqttRingbuf.appendFixedHeader_eq, MqttRingbuf.appendString_eq, byte, alive,
        MqttRingbuf.appendBuf_append, List.append_assoc, List.cons_append, List.nil_append]

theorem length_connect (info : ClientInfo) :
    (MqttPacket.connect info.sent).frame.2.length =
      2 + 4 + 1 + 1 + 2 + info.willLength + 2 + info.clientId.length := by
  have will : info.sent.willBytes.length = info.willLength := by
    rw [ClientInfo.willLength, show info.sent.willBytes = info.willBytes from rfl,
      ClientInfo.willBytes]
    cases info.will with
    | none => rfl
    | some pair =>
        simp only [text, bytes16, List.length_append, List.length_cons, List.length_nil]
        omega
  have name : (text (str "MQTT")).length = 6 := by decide
  have id : info.sent.clientId = info.clientId := rfl
  rw [MqttPacket.frame]
  simp only [List.length_append, List.length_cons, will, name, id]
  simp only [text, bytes16, List.length_append, List.length_cons, List.length_nil]
  omega

end Emits

end LwipExt.Mqtt
