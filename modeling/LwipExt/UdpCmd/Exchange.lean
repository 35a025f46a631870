import LwipExt.Lib.Network
import LwipExt.UdpCmd.Emission

/-!
Two devices that run the IP command agent on one network.

`_rawUdpEchoRecv` answers whatever it receives, a response included, and both the answer
and the media data go out from `EXT_CTRL_PORT` with the tag of a response. So an exchange
is over after the first datagram exactly if nothing the first datagram causes is addressed
to a device. The main result is `exchange_settles_iff`.
-/

namespace LwipExt.UdpCmd

/-- The two devices. -/
inductive Device where
  | first
  | second
  deriving DecidableEq, Repr

/-- Both devices. -/
def devices : List Device := [.first, .second]

/-- A datagram to `EXT_CTRL_PORT`. -/
structure Datagram where
  src : UInt32
  srcPort : UInt16
  payload : Bytes
  deriving DecidableEq

/-- The agents on a network; `hears d ip` says that datagrams to `ip` reach device `d`, be
it an address of its own, a broadcast or a group. -/
def agents (hears : Device → UInt32 → Bool) :
    Lib.Protocol Device ExtJsonParser Datagram Sent (List Bool) where
  handle _ parser p pbufAllocs :=
    let parser := rawUdpEchoRecv { parser with pbufAllocs := pbufAllocs, sent := [] }
      p.payload p.src p.srcPort
    (parser, parser.sent)
  route _ parser m :=
    if m.port = extCtrlPort then
      (devices.filter fun d => hears d m.ip).map fun d => (d, ⟨parser.netIp, extCtrlPort, m.payload⟩)
    else []

/-- The devices, and a datagram that was sent to `ip`. -/
def exchange (hears : Device → UInt32 → Bool) (node : Device → ExtJsonParser) (ip : UInt32)
    (p : Datagram) : Lib.Net Device ExtJsonParser Datagram :=
  ⟨node, (devices.filter fun d => hears d ip).map fun d => (d, p)⟩

/-- An event that delivers a response makes no device send anything. -/
def ResponseIgnored (hears : Device → UInt32 → Bool)
    (s : Lib.Net Device ExtJsonParser Datagram) (e : Lib.Delivery (List Bool)) : Prop :=
  ∀ k ∈ Lib.Protocol.delivered s e, tagOf k.2.payload = cmdTagResponse →
    (agents hears).sends s e = []

/-- The exchange is finite: no response makes a device send anything, and the deliveries
are bounded, in every order of deliveries and losses. -/
def Settles (hears : Device → UInt32 → Bool) (s : Lib.Net Device ExtJsonParser Datagram) : Prop :=
  (∀ es, Lib.Along (agents hears).step (ResponseIgnored hears) s es) ∧
    ∃ n, ∀ es, (agents hears).deliveries s es ≤ n

/-- Datagrams to this address and port reach a device. -/
def Reaches (hears : Device → UInt32 → Bool) (ip : UInt32) (port : UInt16) : Prop :=
  port = extCtrlPort ∧ ∃ d, hears d ip = true

/-- A datagram does not set off an exchange at a device: it is no response, it does not come
from an address and port of a device, and the media data it asks for do not go to one. -/
structure Harmless (hears : Device → UInt32 → Bool) (parser : ExtJsonParser) (p : Datagram) :
    Prop where
  request : tagOf p.payload ≠ cmdTagResponse
  source : ¬ Reaches hears p.src p.srcPort
  media : ∀ ip, mediaAsked parser p.payload = some ip → ¬ Reaches hears ip extCtrlPort

variable {hears : Device → UInt32 → Bool}

theorem mem_devices (d : Device) : d ∈ devices := by
  cases d <;> decide

/-- A message reaches the devices that hear its address, if it is for `EXT_CTRL_PORT`. -/
theorem route_eq_nil_iff {d : Device} {parser : ExtJsonParser} {m : Sent} :
    (agents hears).route d parser m = [] ↔ ¬ Reaches hears m.ip m.port := by
  unfold agents Reaches
  by_cases port : m.port = extCtrlPort
  · simp [port, mem_devices]
  · simp [port]

/-! ### What a device sends -/

/-- All that is sent has the tag of a response and goes to the sender or carries the media
data. -/
theorem handle_sends {d : Device} {parser : ExtJsonParser} {p : Datagram} {allocs : List Bool}
    {m : Sent} (mem : m ∈ ((agents hears).handle d parser p allocs).2) :
    tagOf m.payload = cmdTagResponse ∧
      ((m.ip = p.src ∧ m.port = p.srcPort) ∨
        (mediaAsked parser p.payload = some m.ip ∧ m.port = extCtrlPort)) := by
  obtain ⟨mediaFrame, replyFrame, mediaTag, replyTag, sent⟩ := rawUdpEchoRecv_sent
    { parser with pbufAllocs := allocs, sent := [] } p.payload p.src p.srcPort
  have mem' : m ∈ (rawUdpEchoRecv { parser with pbufAllocs := allocs, sent := [] }
    p.payload p.src p.srcPort).sent := mem
  rw [sent, List.nil_append, List.mem_append] at mem'
  rcases mem' with media | reply
  · obtain ⟨ip, asked, rfl⟩ := mem_mediaSent media
    exact ⟨mediaTag, .inr ⟨asked, rfl⟩⟩
  · rw [mem_replySent reply]
    exact ⟨replyTag, .inl ⟨rfl, rfl⟩⟩

/-- With pbufs at hand the sender is answered. -/
theorem handle_replies (hears : Device → UInt32 → Bool) (d : Device) (parser : ExtJsonParser)
    (p : Datagram) :
    ∃ m ∈ ((agents hears).handle d parser p []).2, m.ip = p.src ∧ m.port = p.srcPort := by
  obtain ⟨mediaFrame, replyFrame, -, -, sent⟩ := rawUdpEchoRecv_sent
    { parser with pbufAllocs := [], sent := [] } p.payload p.src p.srcPort
  refine ⟨⟨p.src, p.srcPort, replyFrame⟩, ?_, rfl, rfl⟩
  show _ ∈ (rawUdpEchoRecv { parser with pbufAllocs := [], sent := [] }
    p.payload p.src p.srcPort).sent
  rw [sent]
  exact List.mem_append_right _ (by simp [replySent])

/-- With pbufs at hand the media data are sent where the datagram asks for them. -/
theorem handle_sends_media (hears : Device → UInt32 → Bool) (d : Device) {parser : ExtJsonParser}
    {p : Datagram} {ip : UInt32} (asked : mediaAsked parser p.payload = some ip) :
    ∃ m ∈ ((agents hears).handle d parser p []).2, m.ip = ip ∧ m.port = extCtrlPort := by
  obtain ⟨mediaFrame, replyFrame, -, -, sent⟩ := rawUdpEchoRecv_sent
    { parser with pbufAllocs := [], sent := [] } p.payload p.src p.srcPort
  have asked' : mediaAsked { parser with pbufAllocs := [], sent := [] } p.payload = some ip := asked
  refine ⟨⟨ip, extCtrlPort, mediaFrame⟩, ?_, rfl, rfl⟩
  show _ ∈ (rawUdpEchoRecv { parser with pbufAllocs := [], sent := [] }
    p.payload p.src p.srcPort).sent
  rw [sent, asked']
  exact List.mem_append_left _ (List.mem_append_right _ (by simp [mediaSent]))

/-! ### The exchange -/

/-- A harmless datagram is sterile: nothing it causes reaches a device. -/
theorem Harmless.sterile {node : Device → ExtJsonParser} {d : Device} {p : Datagram}
    (harmless : Harmless hears (node d) p) : (agents hears).Sterile node (d, p) := by
  intro allocs m mem
  rw [route_eq_nil_iff]
  obtain ⟨-, ⟨ip, port⟩ | ⟨asked, port⟩⟩ := handle_sends mem
  · rw [ip, port]
    exact harmless.source
  · rw [port]
    exact harmless.media _ asked

theorem exchange_apart (node : Device → ExtJsonParser) (ip : UInt32) (p : Datagram) :
    ((exchange hears node ip p).flight.map Prod.fst).Nodup := by
  have names : (exchange hears node ip p).flight.map Prod.fst =
      devices.filter fun d => hears d ip := by
    simp [exchange, Function.comp_def]
  rw [names]
  exact List.Nodup.filter _ (by decide)

/-- A device that gets a response sends something. -/
theorem response_not_ignored {s : Lib.Net Device ExtJsonParser Datagram} {i : Nat} {d : Device}
    {p : Datagram} (at_ : s.flight[i]? = some (d, p)) (response : tagOf p.payload = cmdTagResponse) :
    ¬ ResponseIgnored hears s (.deliver i []) := by
  intro ignored
  obtain ⟨m, mem, -⟩ := handle_replies hears d (s.node d) p
  have none_ := ignored (d, p) (by simpa [Lib.Protocol.delivered] using at_) response
  simp only [Lib.Protocol.sends, at_] at none_
  rw [none_] at mem
  cases mem

/-- If something a device sends reaches a device, the next delivery is that of a response. -/
theorem settles_of_reach {s : Lib.Net Device ExtJsonParser Datagram} {d : Device} {p : Datagram}
    {m : Sent} (flying : (d, p) ∈ s.flight)
    (mem : m ∈ ((agents hears).handle d (s.node d) p []).2)
    (reaches : Reaches hears m.ip m.port) : ¬ Settles hears s := by
  rintro ⟨ignored, -⟩
  obtain ⟨i, inside, at_⟩ := List.mem_iff_getElem.mp flying
  have at_ : s.flight[i]? = some (d, p) := List.getElem?_eq_some_iff.mpr ⟨inside, at_⟩
  have routed : (agents hears).route d ((agents hears).handle d (s.node d) p []).1 m ≠ [] := by
    rw [ne_eq, route_eq_nil_iff, not_not]
    exact reaches
  obtain ⟨⟨d', p'⟩, copy⟩ := List.exists_mem_of_ne_nil _ routed
  have tagged : tagOf p'.payload = cmdTagResponse := by
    simp only [agents] at copy
    split at copy
    · obtain ⟨d'', -, same⟩ := List.mem_map.mp copy
      cases same
      exact (handle_sends mem).1
    · cases copy
  have flying' : (d', p') ∈ ((agents hears).step s (.deliver i [])).flight := by
    simp only [Lib.Protocol.step, at_]
    exact List.mem_append_right _ (List.mem_flatMap.mpr ⟨m, mem, copy⟩)
  obtain ⟨j, inside', at'⟩ := List.mem_iff_getElem.mp flying'
  exact response_not_ignored (List.getElem?_eq_some_iff.mpr ⟨inside', at'⟩) tagged
    (ignored [.deliver i [], .deliver j []]).2.1

/-- The exchange a datagram sets off is finite, and no response is reacted to, exactly if
the datagram is harmless to each device it reaches. -/
theorem exchange_settles_iff (hears : Device → UInt32 → Bool) (node : Device → ExtJsonParser)
    (ip : UInt32) (p : Datagram) :
    Settles hears (exchange hears node ip p) ↔
      ∀ d, hears d ip = true → Harmless hears (node d) p := by
  have flying {d : Device} : (d, p) ∈ (exchange hears node ip p).flight ↔ hears d ip = true := by
    simp [exchange, mem_devices]
  constructor
  · intro settles d hear
    refine ⟨?_, ?_, ?_⟩
    · intro response
      obtain ⟨i, inside, at_⟩ := List.mem_iff_getElem.mp (flying.mpr hear)
      exact response_not_ignored (List.getElem?_eq_some_iff.mpr ⟨inside, at_⟩) response
        (settles.1 [.deliver i []]).1
    · intro reaches
      obtain ⟨m, mem, toSender, port⟩ := handle_replies hears d (node d) p
      exact settles_of_reach (flying.mpr hear) mem (by rw [toSender, port]; exact reaches) settles
    · intro media asked reaches
      obtain ⟨m, mem, toMedia, port⟩ := handle_sends_media hears d asked
      exact settles_of_reach (flying.mpr hear) mem (by rw [toMedia, port]; exact reaches) settles
  · intro harmless
    have only : ∀ k ∈ (exchange hears node ip p).flight, Harmless hears (node k.1) p ∧ k.2 = p := by
      intro k mem
      obtain ⟨d, mem', rfl⟩ := List.mem_map.mp mem
      exact ⟨harmless d (List.mem_filter.mp mem').2, rfl⟩
    have confined := Lib.Protocol.confined (P := agents hears) (exchange_apart node ip p)
      (fun k mem => by
        obtain ⟨safe, same⟩ := only k mem
        obtain ⟨d, q⟩ := k
        cases same
        exact safe.sterile)
    refine ⟨fun es => (confined es).1.mono fun s e first k mem response => ?_,
      ⟨_, fun es => (confined es).2⟩⟩
    obtain ⟨safe, same⟩ := only k (first k mem)
    rw [same] at response
    exact absurd response safe.request

/-! ### An exchange that does not end -/

/-- A request frame around a JSON text. -/
def requestFrame (json : Bytes) : Bytes :=
  short16 cmdTagRequest ++ [UInt8.ofNat ((json.length + 4) / 256), UInt8.ofNat (json.length + 4)] ++
    json ++ int32 (htonl (cmnMuxCRC32b false json))

/-- The sender, whose media data go to the receiver. -/
def senderAgent : ExtJsonParser :=
  { runCfg :=
      { isTx := 1
        dest := { ip := ipaddrAddr (str "192.168.168.130") }
        user := str "admin"
        password := str "admin" }
    netIp := ipaddrAddr (str "192.168.168.120") }

/-- The receiver. -/
def receiverAgent : ExtJsonParser :=
  { runCfg := { user := str "admin", password := str "admin" }
    netIp := ipaddrAddr (str "192.168.168.130") }

/-- Sender and receiver. -/
def pair : Device → ExtJsonParser
  | .first => senderAgent
  | .second => receiverAgent

/-- Each device hears its own address. -/
def hearsOwn (d : Device) (ip : UInt32) : Bool := ip = (pair d).netIp

/-- A security check from a third station, without user and password. -/
def strangerCheck : Datagram :=
  ⟨ipaddrAddr (str "192.168.168.1"), 50000, requestFrame
    (str "\x7b\"targ\":\"00:04:25:1c:10:02\",\"cmd\":\"security_check\"\x7d")⟩

/-- The sender passes media data on to the receiver, which answers them. -/
theorem stranger_check_echoed : ¬ Settles hearsOwn
    (exchange hearsOwn pair (ipaddrAddr (str "192.168.168.120")) strangerCheck) := by
  have asked : mediaAsked senderAgent strangerCheck.payload =
      some (ipaddrAddr (str "192.168.168.130")) := by decide +kernel
  obtain ⟨m, mem, ip, port⟩ := handle_sends_media hearsOwn .first asked
  refine settles_of_reach (d := .first) (p := strangerCheck) (m := m) ?_ mem ?_
  · decide +kernel
  · rw [ip, port]
    exact ⟨rfl, .second, by decide +kernel⟩

end LwipExt.UdpCmd
