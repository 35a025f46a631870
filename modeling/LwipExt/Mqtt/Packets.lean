import LwipExt.Mqtt.Client
import LwipExt.Lib.Base128

/-!
The control packets that the client sends, as a broker reads them.

Each packet is a frame of `Lib.Base128`, and `MqttPacket.read` reads it back (`read_frame`). What
the functions of the client append to the output ring is the frame of one packet.
-/

namespace LwipExt.Mqtt

open Lib (Frame encodeLength)

/-! ### Packets and their frames -/

/-- A control packet of a client. -/
inductive MqttPacket where
  | connect (info : ClientInfo)
  | publish (topic payload : Bytes) (qos retain pktId : Nat)
  | response (msg : MsgType) (pktId : Nat)
  | subscribe (topic : Bytes) (qos pktId : Nat)
  | unsubscribe (topic : Bytes) (pktId : Nat)
  | pingreq
  deriving DecidableEq, Repr

/-- The first byte of a packet. -/
def header (msg : MsgType) (qos retain : Nat) : UInt8 :=
  UInt8.ofNat (msg.code * 16 + qos % 4 * 2 + retain % 2)

/-- A number of 16 bits. -/
def bytes16 (n : Nat) : Bytes := [UInt8.ofNat (n / 256), UInt8.ofNat n]

/-- A text with its length. -/
def text (s : Bytes) : Bytes := bytes16 s.length ++ s

/-- The will in a CONNECT. -/
def ClientInfo.willBytes (info : ClientInfo) : Bytes :=
  match info.will with
  | some (topic, msg) => text topic ++ text msg
  | none => []

/-- The quality of service of a response. -/
def responseQos (msg : MsgType) : Nat := if msg = .pubrel then 1 else 0

/-- The frame of a packet. -/
def MqttPacket.frame : MqttPacket → Frame
  | .connect info =>
      (header .connect 0 0, text (str "MQTT") ++ 4 :: UInt8.ofNat info.flags ::
        (bytes16 info.keepAlive ++ (text info.clientId ++ info.willBytes)))
  | .publish topic payload qos retain pktId =>
      (header .publish qos retain,
        text topic ++ ((if 0 < qos then bytes16 pktId else []) ++ payload))
  | .response msg pktId => (header msg (responseQos msg) 0, bytes16 pktId)
  | .subscribe topic qos pktId =>
      (header .subscribe 1 0, bytes16 pktId ++ (text topic ++ [UInt8.ofNat qos]))
  | .unsubscribe topic pktId => (header .unsubscribe 1 0, bytes16 pktId ++ text topic)
  | .pingreq => (header .pingreq 0 0, [])

/-- The bytes of a packet. -/
def MqttPacket.encode (p : MqttPacket) : Bytes := p.frame.encode

/-! ### Reading them -/

/-- A number of 16 bits. -/
def read16 : Bytes → Option (Nat × Bytes)
  | a :: b :: rest => some (a.toNat * 256 + b.toNat, rest)
  | _ => none

/-- A text with its length. -/
def readText (bytes : Bytes) : Option (Bytes × Bytes) :=
  match read16 bytes with
  | some (n, rest) => if n ≤ rest.length then some (rest.take n, rest.drop n) else none
  | none => none

/-- The will of a CONNECT, by its flags. -/
def readWill (flags : Nat) (bytes : Bytes) : Option (Option (Bytes × Bytes)) :=
  if flags / 4 % 2 = 1 then do
    let (topic, rest) ← readText bytes
    let (msg, _) ← readText rest
    return some (topic, msg)
  else some none

/-- The body of a CONNECT. -/
def readConnect (body : Bytes) : Option MqttPacket := do
  let (name, rest) ← readText body
  match rest with
  | level :: flags :: rest =>
      if name = str "MQTT" ∧ level = 4 then
        let (keepAlive, rest) ← read16 rest
        let (clientId, rest) ← readText rest
        let will ← readWill flags.toNat rest
        return .connect
          { clientId := clientId, keepAlive := keepAlive, will := will
            willQos := flags.toNat / 8 % 4, willRetain := flags.toNat / 32 % 2 = 1 }
      else none
  | _ => none

/-- The body of a PUBLISH. -/
def readPublish (qos retain : Nat) (body : Bytes) : Option MqttPacket := do
  let (topic, rest) ← readText body
  if 0 < qos then
    let (pktId, payload) ← read16 rest
    return .publish topic payload qos retain pktId
  else return .publish topic rest qos retain 0

/-- The body of a SUBSCRIBE or UNSUBSCRIBE of one topic. -/
def readTopic (sub : Bool) (body : Bytes) : Option MqttPacket := do
  let (pktId, rest) ← read16 body
  let (topic, rest) ← readText rest
  match sub, rest with
  | true, [qos] => some (.subscribe topic qos.toNat pktId)
  | false, [] => some (.unsubscribe topic pktId)
  | _, _ => none

/-- What a broker makes of a frame. -/
def MqttPacket.read (f : Frame) : Option MqttPacket :=
  let response (msg : MsgType) := (read16 f.2).map fun (pktId, _) => MqttPacket.response msg pktId
  match f.1.toNat / 16 with
  | 1 => readConnect f.2
  | 3 => readPublish (f.1.toNat / 2 % 4) (f.1.toNat % 2) f.2
  | 4 => response .puback
  | 5 => response .pubrec
  | 6 => response .pubrel
  | 7 => response .pubcomp
  | 8 => readTopic true f.2
  | 10 => readTopic false f.2
  | 12 => some .pingreq
  | _ => none

/-- The response types. -/
def MsgType.IsResponse (msg : MsgType) : Prop :=
  msg = .puback ∨ msg = .pubrec ∨ msg = .pubrel ∨ msg = .pubcomp

/-- The parts of a packet fit into their fields. -/
def MqttPacket.Valid : MqttPacket → Prop
  | .connect info => info.keepAlive < 65536 ∧ info.clientId.length < 65536 ∧ info.willQos < 4 ∧
      match info.will with
      | some (topic, msg) => topic.length ≤ 255 ∧ msg.length ≤ 255
      | none => info.willQos = 0 ∧ info.willRetain = false
  | .publish topic payload qos retain pktId => topic.length < 65536 ∧ payload.length < 65536 ∧
      qos < 4 ∧ retain < 2 ∧ pktId < 65536 ∧ (qos = 0 → pktId = 0)
  | .response msg pktId => msg.IsResponse ∧ pktId < 65536
  | .subscribe topic qos pktId => topic.length < 65536 ∧ qos < 256 ∧ pktId < 65536
  | .unsubscribe topic pktId => topic.length < 65536 ∧ pktId < 65536
  | .pingreq => True

theorem read16_bytes16 {n : Nat} (small : n < 65536) (rest : Bytes) :
    read16 (bytes16 n ++ rest) = some (n, rest) := by
  have high : (UInt8.ofNat (n / 256)).toNat = n / 256 := Lib.toNat_ofNat_digit (by omega)
  simp only [bytes16, List.cons_append, List.nil_append, read16, high, UInt8.toNat_ofNat',
    Option.some.injEq, Prod.mk.injEq, and_true]
  omega

theorem readText_text {s : Bytes} (small : s.length < 65536) (rest : Bytes) :
    readText (text s ++ rest) = some (s, rest) := by
  rw [readText, text, List.append_assoc, read16_bytes16 small]
  simp only [List.length_append, Nat.le_add_right, if_true, List.take_left, List.drop_left]

theorem toNat_header (msg : MsgType) (qos retain : Nat) :
    (header msg qos retain).toNat = msg.code * 16 + qos % 4 * 2 + retain % 2 := by
  have : msg.code ≤ 14 := by cases msg <;> decide
  exact Lib.toNat_ofNat_digit (by omega)

theorem header_type (msg : MsgType) (qos retain : Nat) :
    (header msg qos retain).toNat / 16 = msg.code := by
  rw [toNat_header]
  omega

/-- The flags tell what a CONNECT has. -/
theorem flags_spec {info : ClientInfo} (qos : info.willQos < 4) :
    (UInt8.ofNat info.flags).toNat = info.flags ∧
      (info.will.isSome → info.flags / 4 % 2 = 1 ∧ info.flags / 8 % 4 = info.willQos ∧
        info.flags / 32 % 2 = if info.willRetain then 1 else 0) ∧
      (info.will = none → info.flags = 2) := by
  have bit : (if info.willRetain then 32 else 0) = 32 * if info.willRetain then 1 else 0 := by
    cases info.willRetain <;> rfl
  have le : (if info.willRetain then 1 else 0) ≤ 1 := by cases info.willRetain <;> decide
  cases will : info.will with
  | none =>
      refine ⟨?_, ?_, ?_⟩ <;> simp [ClientInfo.flags, will]
  | some pair =>
      have flags : info.flags =
          4 + info.willQos % 4 * 8 + (32 * if info.willRetain then 1 else 0) + 2 := by
        simp only [ClientInfo.flags, will, bit]
      refine ⟨Lib.toNat_ofNat_digit (by omega), fun _ => ?_, fun none_ => (by cases none_)⟩
      rw [flags]
      omega

theorem readWill_bytes {info : ClientInfo} (valid : (MqttPacket.connect info).Valid) :
    readWill info.flags info.willBytes = some info.will := by
  obtain ⟨-, -, qos, fits⟩ := valid
  obtain ⟨-, has, hasNot⟩ := flags_spec qos
  cases will : info.will with
  | none => rw [readWill, hasNot will, if_neg (by decide)]
  | some pair =>
      obtain ⟨topic, msg⟩ := pair
      rw [will] at fits has
      have topicRead := readText_text (s := topic) (by omega) (text msg)
      have msgRead := readText_text (s := msg) (by omega) []
      rw [List.append_nil] at msgRead
      rw [readWill, if_pos (has rfl).1, ClientInfo.willBytes, will]
      simp only [topicRead, msgRead, Option.bind_eq_bind, Option.bind_some, Option.pure_def]

/-- The flags have the quality of service of the will and whether it is retained. -/
theorem flags_will {info : ClientInfo} (valid : (MqttPacket.connect info).Valid) :
    info.flags / 8 % 4 = info.willQos ∧ decide (info.flags / 32 % 2 = 1) = info.willRetain := by
  obtain ⟨-, -, qos, fits⟩ := valid
  obtain ⟨-, has, hasNot⟩ := flags_spec qos
  cases will : info.will with
  | none =>
      rw [will] at fits
      rw [hasNot will, fits.1, fits.2]
      decide
  | some pair =>
      obtain ⟨-, isQos, isRetain⟩ := has (by rw [will]; rfl)
      rw [isQos, isRetain]
      cases info.willRetain <;> exact ⟨rfl, rfl⟩

theorem readConnect_frame {info : ClientInfo} (valid : (MqttPacket.connect info).Valid) :
    readConnect (MqttPacket.connect info).frame.2 = some (.connect info) := by
  have willRead := readWill_bytes valid
  obtain ⟨isQos, isRetain⟩ := flags_will valid
  obtain ⟨keepAlive, clientId, qos, -⟩ := valid
  have value := (flags_spec qos).1
  rw [readConnect, MqttPacket.frame, readText_text (by decide)]
  simp only [Option.bind_eq_bind, Option.bind_some, and_self, if_true, read16_bytes16 keepAlive,
    readText_text clientId, value, willRead, Option.pure_def, isQos, isRetain]

theorem readPublish_frame {topic payload : Bytes} {qos retain pktId : Nat}
    (valid : (MqttPacket.publish topic payload qos retain pktId).Valid) :
    readPublish qos retain (MqttPacket.publish topic payload qos retain pktId).frame.2 =
      some (.publish topic payload qos retain pktId) := by
  obtain ⟨topicFits, -, -, -, id, noId⟩ := valid
  rw [readPublish, MqttPacket.frame, readText_text topicFits]
  simp only [Option.bind_eq_bind, Option.bind_some, Option.pure_def]
  by_cases zero : qos = 0
  · rw [if_neg (by omega), if_neg (by omega), noId zero, List.nil_append]
  · rw [if_pos (by omega), if_pos (by omega), read16_bytes16 id]
    rfl

theorem readTopic_subscribe {topic : Bytes} {qos pktId : Nat}
    (valid : (MqttPacket.subscribe topic qos pktId).Valid) :
    readTopic true (MqttPacket.subscribe topic qos pktId).frame.2 =
      some (.subscribe topic qos pktId) := by
  obtain ⟨topicFits, qosFits, id⟩ := valid
  have digit : (UInt8.ofNat qos).toNat = qos := Lib.toNat_ofNat_digit qosFits
  rw [readTopic, MqttPacket.frame, read16_bytes16 id, Option.bind_eq_bind, Option.bind_some]
  dsimp only
  rw [readText_text topicFits]
  exact congrArg (fun n => some (MqttPacket.subscribe topic n pktId)) digit

theorem readTopic_unsubscribe {topic : Bytes} {pktId : Nat}
    (valid : (MqttPacket.unsubscribe topic pktId).Valid) :
    readTopic false (MqttPacket.unsubscribe topic pktId).frame.2 =
      some (.unsubscribe topic pktId) := by
  obtain ⟨topicFits, id⟩ := valid
  have read := readText_text topicFits []
  rw [List.append_nil] at read
  rw [readTopic, MqttPacket.frame, read16_bytes16 id, Option.bind_eq_bind, Option.bind_some]
  dsimp only
  rw [read]
  rfl

/-- A broker reads each packet as it is. -/
theorem read_frame {p : MqttPacket} (valid : p.Valid) : MqttPacket.read p.frame = some p := by
  cases p with
  | connect info =>
      rw [MqttPacket.read, MqttPacket.frame, header_type]
      exact readConnect_frame valid
  | publish topic payload qos retain pktId =>
      have read := readPublish_frame valid
      obtain ⟨-, -, smallQos, smallRetain, -, -⟩ := valid
      have isQos : (header .publish qos retain).toNat / 2 % 4 = qos := by
        rw [toNat_header]
        omega
      have isRetain : (header .publish qos retain).toNat % 2 = retain := by
        rw [toNat_header]
        omega
      rw [MqttPacket.frame] at read ⊢
      simp only [MqttPacket.read, header_type, MsgType.code, isQos, isRetain]
      exact read
  | response msg pktId =>
      obtain ⟨isResponse, id⟩ := valid
      have read := read16_bytes16 id []
      rw [List.append_nil] at read
      rcases isResponse with rfl | rfl | rfl | rfl <;>
        simp only [MqttPacket.read, MqttPacket.frame, header_type, MsgType.code, read,
          Option.map_some]
  | subscribe topic qos pktId =>
      rw [MqttPacket.read, MqttPacket.frame, header_type]
      exact readTopic_subscribe valid
  | unsubscribe topic pktId =>
      rw [MqttPacket.read, MqttPacket.frame, header_type]
      exact readTopic_unsubscribe valid
  | pingreq =>
      simp only [MqttPacket.read, MqttPacket.frame, header_type, MsgType.code]

end LwipExt.Mqtt
