import LwipExt.Mqtt.Wire

/-!
What a broker receives from a client.

Over any run, what was handed to the connection and what the ring still holds are whole packets,
one behind the other, the CONNECT first, and a broker reads them as far as they have come
(`mqttRun_broker`). Every event appends just its packets (`mqttRun_queues`).

This needs messages below 65532 bytes: from there on, the sum in `mqtt_output_check_space` is too
large for its 16 bits.
-/

namespace LwipExt.Mqtt

/-- What the client is promised of its calls, and what else their messages need. -/
def MqttEvent.Sized {α : Type} : MqttEvent α → Prop
  | .clientConnect _ info tcp => tcp ≠ .error .ok ∧
      info.keepAlive < 65536 ∧ 12 + info.willLength + info.clientId.length < 65532
  | .publish topic payload payloadLength qos _ _ => payloadLength = (payload.getD []).length ∧
      qos < 3 ∧ 2 + topic.length + payloadLength + (if 0 < qos then 2 else 0) < 65532
  | .subUnsub topic qos _ _ => qos < 3 ∧ topic.length + 5 < 65532
  | _ => True

/-- The event makes a new client of it. -/
def MqttEvent.renews {α : Type} (client : MqttClient α) : MqttEvent α → Bool
  | .clientConnect .. => client.connState = .tcpDisconnected
  | _ => false

/-- The packets that an event appends, if it returns `err`. -/
def Queues {α : Type} (client : MqttClient α) (e : MqttEvent α) (err : MqttErr)
    (packets : List MqttPacket) : Prop :=
  match e with
  | .clientConnect _ info _ => packets = if err = .ok then [.connect info.sent] else []
  | .publish topic payload _ qos retain _ =>
      packets = if err = .ok then [publishPacket client topic payload qos retain] else []
  | .subUnsub topic qos _ sub =>
      packets = if err = .ok then [topicPacket client topic qos sub] else []
  | .tcpRecv _ => Responses packets
  | .timer => packets = [] ∨ packets = [.pingreq]
  | _ => packets = []

/-- A client, with what was handed to its connection. -/
structure MqttLine (α : Type) where
  client : MqttClient α := {}
  sent : Bytes := []

/-- The line at an event, and what a call returns. -/
def MqttLine.next {α : Type} (line : MqttLine α) (e : MqttEvent α) :
    Option (MqttLine α × MqttErr) :=
  (line.client.step e).map fun (client, effects, err) =>
    ({ client := client
       sent := (if e.renews line.client then [] else line.sent) ++ written effects }, err)

/-- The line after a run. -/
def mqttRun {α : Type} (line : MqttLine α) : List (MqttEvent α) → Option (MqttLine α)
  | [] => some line
  | e :: es => (line.next e).bind fun next => mqttRun next.1 es

section Runs

variable {α : Type}

/-- Sent and still in the ring are just these packets. -/
def MqttLine.Carries (line : MqttLine α) (packets : List MqttPacket) : Prop :=
  ∃ held, line.client.output.Holds held ∧ line.sent ++ held = encodeAll packets

/-- The packets of a line. -/
structure MqttLine.Wire (line : MqttLine α) (packets : List MqttPacket) : Prop where
  carries : line.Carries packets
  valid : ∀ p ∈ packets, p.Valid ∧ p.frame.2.length < 65532
  first : line.client.connState ≠ .tcpDisconnected → ∃ info rest, packets = .connect info :: rest

/-- A refused CONNECT leaves a new client. -/
theorem clientConnect_cases (client : MqttClient α) (cb : Bool) {info : ClientInfo}
    {tcp : Except MqttErr (List TcpSend)} {out : Called α} (error : tcp ≠ .error .ok)
    (small : 12 + info.willLength + info.clientId.length < 65532)
    (is : client.clientConnect cb info tcp = out) (disconnected : client.connState = .tcpDisconnected) :
    out.2.1 = [] ∧
      (out.1.connState = .tcpDisconnected ∧ out.1.output = {} ∧ out.2.2 ≠ .ok ∨
        out.2.2 = .ok ∧ info.willOk = true ∧
          Emits ({} : MqttClient α) out.1 [] [.connect info.sent]) := by
  have length := length_connect info
  rw [MqttClient.clientConnect, if_neg (not_not.mpr disconnected)] at is
  simp only at is
  split at is
  · subst is
    exact ⟨rfl, .inl ⟨rfl, rfl, MqttErr.noConfusion⟩⟩
  next ok =>
    split at is
    · subst is
      exact ⟨rfl, .inl ⟨rfl, rfl, MqttErr.noConfusion⟩⟩
    split at is
    next room =>
      rw [← length] at room is
      cases tcp with
      | error err =>
          subst is
          exact ⟨rfl, .inl ⟨rfl, rfl, fun ok => error (ok ▸ rfl)⟩⟩
      | ok sends =>
          subst is
          refine ⟨rfl, .inr ⟨rfl, by simpa using ok, ?_⟩⟩
          refine emits_append (by omega) room ?_
          exact appendConnect_eq info _
    · subst is
      exact ⟨rfl, .inl ⟨rfl, rfl, MqttErr.noConfusion⟩⟩

/-- Only `mqtt_client_connect` ends the disconnected state. -/
theorem step_disconnected {client : MqttClient α} (disconnected : client.connState = .tcpDisconnected)
    {e : MqttEvent α} (other : e.renews client = false) {out : Called α}
    (is : client.step e = some out) : out.1.connState = .tcpDisconnected := by
  cases e with
  | clientConnect cb info tcp =>
      rw [MqttEvent.renews, disconnected] at other
      cases other
  | publish topic payload payloadLength qos retain cb =>
      rw [MqttClient.step, MqttClient.publish, if_pos disconnected] at is
      cases is
      exact disconnected
  | subUnsub topic qos cb sub =>
      cases is
      by_cases long : 65535 < topic.length + 2 + 2 + (if sub then 1 else 0)
      · rw [MqttClient.subUnsub, if_pos long, ite_self]
        exact disconnected
      · rw [MqttClient.subUnsub, if_neg long, if_pos disconnected]
        split <;> exact disconnected
  | setInpubCallback pubCb dataCb =>
      cases is
      exact disconnected
  | disconnect =>
      cases is
      rw [MqttClient.disconnect, if_neg (not_not.mpr disconnected)]
      exact disconnected
  | tcpConnected =>
      rw [MqttClient.step, disconnected, if_neg (by decide)] at is
      cases is
      exact disconnected
  | tcpRecv p =>
      rw [MqttClient.step, disconnected, if_neg (by decide)] at is
      cases is
      exact disconnected
  | tcpSent =>
      rw [MqttClient.step] at is
      split at is <;> cases is
      · rw [MqttClient.tcpSentCb, disconnected, if_neg (by decide)]
        exact disconnected
      · exact disconnected
  | tcpErr =>
      rw [MqttClient.step] at is
      split at is <;> cases is
      · rfl
      · exact disconnected
  | tcpPoll =>
      rw [MqttClient.step] at is
      split at is <;> cases is
      · rw [MqttClient.tcpPollCb, disconnected, if_neg (by decide)]
        exact disconnected
      · exact disconnected
  | timer =>
      rw [MqttClient.step] at is
      split at is <;> cases is
      · rw [MqttClient.cyclicTimerExpired, disconnected]
      · exact disconnected

theorem valid_responses {packets : List MqttPacket} (responses : Responses packets) :
    ∀ p ∈ packets, p.Valid ∧ p.frame.2.length < 65532 := by
  intro p mem
  obtain ⟨msg, pktId, rfl, valid⟩ := responses p mem
  exact ⟨valid, Nat.lt_of_lt_of_le (Nat.lt_succ_self 2) (by decide)⟩

theorem valid_publishPacket (client : MqttClient α) {topic : Bytes} {payload : Option Bytes}
    {qos : Nat} (retain : Nat) (smallQos : qos < 3)
    (small : 2 + topic.length + (payload.getD []).length + (if 0 < qos then 2 else 0) < 65532) :
    (publishPacket client topic payload qos retain).Valid ∧
      (publishPacket client topic payload qos retain).frame.2.length < 65532 := by
  have length := length_publish client topic payload qos retain
  have id := generatePacketId_lt client
  refine ⟨⟨by omega, by omega, by omega, Nat.mod_lt _ (by decide), ?_, fun zero => ?_⟩, by omega⟩
  · split <;> omega
  · rw [zero]
    rfl

theorem valid_topicPacket (client : MqttClient α) {topic : Bytes} {qos : Nat} (sub : Bool)
    (smallQos : qos < 3) (small : topic.length + 5 < 65532) :
    (topicPacket client topic qos sub).Valid ∧
      (topicPacket client topic qos sub).frame.2.length < 65532 := by
  have length := length_topic client topic qos sub
  have id := generatePacketId_lt client
  have le : (if sub then 1 else 0) ≤ 1 := by cases sub <;> decide
  refine ⟨?_, by omega⟩
  cases sub
  · exact ⟨by omega, id⟩
  · exact ⟨by omega, by omega, id⟩

theorem valid_connect {info : ClientInfo} (ok : info.willOk = true)
    (keepAlive : info.keepAlive < 65536)
    (small : 12 + info.willLength + info.clientId.length < 65532) :
    (MqttPacket.connect info.sent).Valid ∧
      (MqttPacket.connect info.sent).frame.2.length < 65532 := by
  have length := length_connect info
  refine ⟨⟨keepAlive, by simp only [ClientInfo.sent]; omega, ?_, ?_⟩, by omega⟩
  · simp only [ClientInfo.sent]
    split <;> omega
  · rw [ClientInfo.willOk] at ok
    simp only [ClientInfo.sent]
    cases will : info.will with
    | none => exact ⟨rfl, rfl⟩
    | some pair =>
        rw [will] at ok
        simp only [Bool.and_eq_true, decide_eq_true_eq] at ok
        exact ⟨ok.1.2, ok.2⟩

/-- What an event appends. -/
theorem step_emits {client : MqttClient α} {e : MqttEvent α} (sized : e.Sized)
    (other : e.renews client = false) {out : Called α} (is : client.step e = some out) :
    ∃ packets, Queues client e out.2.2 packets ∧
      (∀ p ∈ packets, p.Valid ∧ p.frame.2.length < 65532) ∧ Emits client out.1 out.2.1 packets := by
  have none_ {packets : List MqttPacket} (is : packets = []) :
      ∀ p ∈ packets, p.Valid ∧ p.frame.2.length < 65532 := by
    rw [is]
    exact List.forall_mem_nil _
  have one {p : MqttPacket} {err : MqttErr} (valid : p.Valid ∧ p.frame.2.length < 65532) :
      ∀ p' ∈ (if err = .ok then [p] else []), p'.Valid ∧ p'.frame.2.length < 65532 := by
    split
    · exact List.forall_mem_singleton.mpr valid
    · exact List.forall_mem_nil _
  have refused : Emits client client [] [] := .of_output rfl rfl
  cases e with
  | clientConnect cb info tcp =>
      have connected : client.connState ≠ .tcpDisconnected := of_decide_eq_false other
      rw [MqttClient.step, MqttClient.clientConnect, if_pos connected] at is
      cases is
      exact ⟨[], rfl, none_ rfl, refused⟩
  | publish topic payload payloadLength qos retain cb =>
      obtain ⟨exact_, smallQos, small⟩ := sized
      have emits := emits_publish client retain cb exact_ small rfl
      rw [exact_] at small
      cases is
      exact ⟨_, rfl, one (valid_publishPacket client retain smallQos small), emits⟩
  | subUnsub topic qos cb sub =>
      obtain ⟨smallQos, small⟩ := sized
      have emits := emits_subUnsub client cb sub smallQos small rfl
      cases is
      exact ⟨_, rfl, one (valid_topicPacket client sub smallQos small), emits⟩
  | setInpubCallback pubCb dataCb =>
      cases is
      exact ⟨[], rfl, none_ rfl, .of_output rfl rfl⟩
  | disconnect =>
      cases is
      refine ⟨[], rfl, none_ rfl, ?_⟩
      rw [MqttClient.disconnect]
      split
      · have closes := emits_close { client with connState := .tcpDisconnected } 0
        exact closes
      · exact refused
  | tcpConnected =>
      rw [MqttClient.step] at is
      split at is <;> cases is
      · have sends := emits_outputSend { client with
          msgIdx := 0, connState := .mqttConnecting, cyclicTimer := true, cyclicTick := 0 }
        exact ⟨[], rfl, none_ rfl, sends⟩
      · exact ⟨[], rfl, none_ rfl, refused⟩
  | tcpRecv p =>
      rw [MqttClient.step] at is
      split at is
      · obtain ⟨received, recv, rfl⟩ := Option.map_eq_some_iff.mp is
        obtain ⟨packets, responses, emits⟩ := (acts_tcpRecvCb recv).responds
        exact ⟨packets, responses, valid_responses responses, emits⟩
      · cases is
        exact ⟨[], List.forall_mem_nil _, none_ rfl, refused⟩
  | tcpSent =>
      rw [MqttClient.step] at is
      split at is <;> cases is
      · exact ⟨[], rfl, none_ rfl, emits_tcpSentCb client⟩
      · exact ⟨[], rfl, none_ rfl, refused⟩
  | tcpErr =>
      rw [MqttClient.step] at is
      split at is <;> cases is
      · exact ⟨[], rfl, none_ rfl, (emits_close { client with conn := none } _ :)⟩
      · exact ⟨[], rfl, none_ rfl, refused⟩
  | tcpPoll =>
      rw [MqttClient.step] at is
      split at is <;> cases is
      · refine ⟨[], rfl, none_ rfl, ?_⟩
        rw [MqttClient.tcpPollCb]
        split
        · exact emits_outputSend client
        · exact refused
      · exact ⟨[], rfl, none_ rfl, refused⟩
  | timer =>
      rw [MqttClient.step] at is
      split at is <;> cases is
      · rcases emits_cyclicTimerExpired client with nothing | ping
        · exact ⟨[], .inl rfl, none_ rfl, nothing⟩
        · exact ⟨_, .inr rfl, List.forall_mem_singleton.mpr ⟨trivial, by decide⟩, ping⟩
      · exact ⟨[], .inl rfl, none_ rfl, refused⟩

/-- The packets that a new client leaves behind. -/
def kept (line : MqttLine α) (e : MqttEvent α) (packets : List MqttPacket) : List MqttPacket :=
  if e.renews line.client then [] else packets

/-- Every event appends its packets. -/
theorem next_wire {line : MqttLine α} {packets : List MqttPacket} (wire : line.Wire packets)
    {e : MqttEvent α} (sized : e.Sized) {next : MqttLine α} {err : MqttErr}
    (is : line.next e = some (next, err)) :
    ∃ more, Queues line.client e err more ∧ next.Wire (kept line e packets ++ more) := by
  obtain ⟨⟨client, effects, err'⟩, step, is⟩ := Option.map_eq_some_iff.mp is
  cases is
  cases renews : e.renews line.client with
  | true =>
      cases e with
      | clientConnect cb info tcp =>
          obtain ⟨error, keepAlive, small⟩ := sized
          have disconnected : line.client.connState = .tcpDisconnected := of_decide_eq_true renews
          obtain ⟨nothing, refused | accepted⟩ :=
            clientConnect_cases line.client cb error small (Option.some.inj step) disconnected
          all_goals obtain rfl : effects = [] := nothing
          · obtain ⟨state, output, notOk⟩ := refused
            refine ⟨[], by rw [Queues, if_neg notOk], ?_⟩
            rw [kept, renews, if_pos rfl, if_pos rfl]
            refine ⟨⟨[], ?_, rfl⟩, List.forall_mem_nil _, fun other => absurd state other⟩
            have empty : client.output = {} := output
            rw [empty]
            exact MqttRingbuf.holds_nil
          · obtain ⟨ok, willOk, emits⟩ := accepted
            refine ⟨[.connect info.sent], by rw [Queues, if_pos ok], ?_⟩
            rw [kept, renews, if_pos rfl, if_pos rfl]
            obtain ⟨held, holds, appended⟩ := emits [] MqttRingbuf.holds_nil
            refine ⟨⟨held, holds, ?_⟩,
              List.forall_mem_singleton.mpr (valid_connect willOk keepAlive small),
              fun _ => ⟨info.sent, [], rfl⟩⟩
            exact appended.symm
      | _ => cases renews
  | false =>
      obtain ⟨more, queues, valid, emits⟩ := step_emits sized renews step
      obtain ⟨⟨held, holds, is⟩, validBefore, first⟩ := wire
      refine ⟨more, queues, ?_⟩
      rw [kept, renews, if_neg Bool.false_ne_true]
      obtain ⟨held', holds', appended⟩ := emits held holds
      refine ⟨⟨held', holds', ?_⟩, List.forall_mem_append.mpr ⟨validBefore, valid⟩, fun state => ?_⟩
      · simp only [Bool.false_eq_true, if_false]
        rw [List.append_assoc, ← appended, ← List.append_assoc, is]
        exact List.flatMap_append.symm
      · obtain ⟨info, rest, rfl⟩ := first fun before => state (step_disconnected before renews step)
        exact ⟨info, rest ++ more, rfl⟩

theorem run_wire {line : MqttLine α} {packets : List MqttPacket} (wire : line.Wire packets)
    {es : List (MqttEvent α)} (sized : ∀ e ∈ es, e.Sized) {last : MqttLine α}
    (ran : mqttRun line es = some last) : ∃ packets, last.Wire packets := by
  induction es generalizing line packets with
  | nil =>
      cases ran
      exact ⟨packets, wire⟩
  | cons e es ih =>
      obtain ⟨first, others⟩ := List.forall_mem_cons.mp sized
      obtain ⟨⟨next, err⟩, step, ran⟩ := Option.bind_eq_some_iff.mp ran
      obtain ⟨more, -, wire⟩ := next_wire wire first step
      exact ih wire others ran

theorem wire_new : ({} : MqttLine α).Wire [] :=
  ⟨⟨[], MqttRingbuf.holds_nil, rfl⟩, List.forall_mem_nil _, fun other => absurd rfl other⟩

/-- In any run, every event appends just its packets, whole, behind those before it. -/
theorem mqttRun_queues {es : List (MqttEvent α)} {e : MqttEvent α}
    (sized : ∀ e' ∈ es ++ [e], e'.Sized) {line next : MqttLine α} {err : MqttErr}
    (ran : mqttRun {} es = some line) (step : line.next e = some (next, err)) :
    ∃ packets more, line.Wire packets ∧ Queues line.client e err more ∧
      next.Wire (kept line e packets ++ more) := by
  rw [List.forall_mem_append, List.forall_mem_singleton] at sized
  obtain ⟨packets, wire⟩ := run_wire wire_new sized.1 ran
  obtain ⟨more, queues, wire'⟩ := next_wire wire sized.2 step
  exact ⟨packets, more, wire, queues, wire'⟩

/-- A connection. -/
def connectRun : List (MqttEvent Nat) :=
  [.clientConnect true { clientId := [97], keepAlive := 60 }
      (.ok [⟨1000, true, 0, true⟩, ⟨5, true, 0, true⟩]),
    .tcpConnected]

/-- A PUBLISH that the send buffer cuts. -/
def publishEvent : MqttEvent Nat := .publish [98] (some [99, 100]) 2 1 0 (some 7)

def publishRun : List (MqttEvent Nat) := connectRun ++ [publishEvent]

theorem publishRun_sized : ∀ e ∈ publishRun, e.Sized := by
  simp [publishRun, connectRun, publishEvent, MqttEvent.Sized, ClientInfo.willLength]

/-- The PUBLISH is appended behind the CONNECT. -/
theorem mqttRun_queues_publish :
    ∃ line next packets more, mqttRun {} connectRun = some line ∧
      line.next publishEvent = some (next, .ok) ∧ line.Wire packets ∧
      more = [.publish [98] [99, 100] 1 0 1] ∧ next.Wire (packets ++ more) := by
  obtain ⟨line, ran⟩ := Option.isSome_iff_exists.mp
    (by decide +kernel : (mqttRun {} connectRun).isSome = true)
  have returns : ((mqttRun {} connectRun).bind fun line =>
      (line.next publishEvent).map Prod.snd) = some .ok := by
    decide +kernel
  have ids : (mqttRun {} connectRun).map (fun line => line.client.generatePacketId) = some 1 := by
    decide +kernel
  rw [ran] at returns ids
  rw [Option.bind_some] at returns
  obtain ⟨⟨next, err⟩, step, ok⟩ := Option.map_eq_some_iff.mp returns
  cases ok
  obtain ⟨packets, more, wire, queues, wire'⟩ := mqttRun_queues publishRun_sized ran step
  refine ⟨line, next, packets, more, ran, step, wire, ?_, wire'⟩
  have id : line.client.generatePacketId = 1 := Option.some.inj ids
  rw [publishEvent, Queues, if_pos rfl, publishPacket, id] at queues
  exact queues

/-- The packets that a broker reads in what it got. -/
def brokerReads (bytes : Bytes) : List (Option MqttPacket) :=
  (Lib.readFrames bytes.length bytes).map MqttPacket.read

/-- In any run, a broker reads the packets of the client from what was sent, the CONNECT first, as
far as they have come. When the ring is empty, it has all. -/
theorem mqttRun_broker {es : List (MqttEvent α)} (sized : ∀ e ∈ es, e.Sized) {line : MqttLine α}
    (ran : mqttRun {} es = some line) :
    ∃ packets k, line.Wire packets ∧ brokerReads line.sent = (packets.take k).map some ∧
      k ≤ packets.length ∧ (line.client.output.len = 0 → k = packets.length) ∧
      (k < packets.length → line.sent.length < (encodeAll (packets.take (k + 1))).length) := by
  obtain ⟨packets, wire⟩ := run_wire wire_new sized ran
  obtain ⟨held, holds, is⟩ := wire.carries
  have same (packets : List MqttPacket) :
      encodeAll packets = (packets.map MqttPacket.frame).flatMap Lib.Frame.encode := by
    rw [encodeAll, List.flatMap_map]
    rfl
  rw [same] at is
  have small : ∀ f ∈ packets.map MqttPacket.frame, f.2.length < 128 ^ 4 := by
    rw [List.forall_mem_map]
    exact fun p mem => (wire.valid p mem).2.trans (by decide)
  obtain ⟨k, le, reads, before, behind⟩ :=
    Lib.readFrames_cut small ⟨held, is⟩ (Nat.le_refl line.sent.length)
  rw [List.length_map] at le behind
  refine ⟨packets, k, wire, ?_, le, fun empty => ?_, fun lt => ?_⟩
  · rw [brokerReads, reads, ← List.map_take, List.map_map]
    refine List.map_congr_left fun p mem => ?_
    exact read_frame (wire.valid p (List.mem_of_mem_take mem)).1
  · rw [holds.len_eq] at empty
    have nothing := List.length_eq_zero_iff.mp empty
    rw [nothing, List.append_nil] at is
    by_contra other
    have short := behind (by omega)
    have whole := congrArg List.length
      (congrArg (List.flatMap Lib.Frame.encode)
        (List.take_append_drop (k + 1) (packets.map MqttPacket.frame)))
    rw [List.flatMap_append, List.length_append, ← is] at whole
    omega
  · have short := behind lt
    rwa [← List.map_take, ← same] at short

/-- The broker has the CONNECT, and waits for the rest of the PUBLISH. -/
theorem mqttRun_broker_publish :
    ∃ line packets k, mqttRun {} publishRun = some line ∧ line.Wire packets ∧
      brokerReads line.sent = (packets.take k).map some ∧
      brokerReads line.sent = [some (.connect { clientId := [97], keepAlive := 60 })] := by
  obtain ⟨line, ran⟩ := Option.isSome_iff_exists.mp
    (by decide +kernel : (mqttRun {} publishRun).isSome = true)
  have reads : (mqttRun {} publishRun).map (fun line => brokerReads line.sent) =
      some [some (.connect { clientId := [97], keepAlive := 60 })] := by
    decide +kernel
  rw [ran] at reads
  obtain ⟨packets, k, wire, read, -⟩ := mqttRun_broker publishRun_sized ran
  exact ⟨line, packets, k, ran, wire, read, Option.some.inj reads⟩

end Runs

end LwipExt.Mqtt
