import LwipExt.Mqtt.Packets
import LwipExt.Lib.Cyclic

/-!
The output ring of the client.

`Holds` says which bytes the ring holds. What is appended goes behind them if there is space
(`Holds.appendBuf`), `mqtt_output_check_space` says whether there is (`Holds.checkSpace_iff`), and
what is sent comes from the front (`Holds.send`).
-/

namespace LwipExt.Mqtt

open Lib (Held encodeLength)

/-! ### Appending -/

namespace MqttRingbuf

theorem appendBuf_append (rb : MqttRingbuf) (a b : Bytes) :
    (rb.appendBuf a).appendBuf b = rb.appendBuf (a ++ b) := (List.foldl_append ..).symm

theorem appendString_eq (rb : MqttRingbuf) (s : Bytes) : rb.appendString s = rb.appendBuf (text s) :=
  appendBuf_append rb (bytes16 s.length) s

theorem appendLength_eq (rb : MqttRingbuf) (n : Nat) :
    rb.appendLength n = rb.appendBuf (encodeLength n) := by
  induction n using Nat.strongRecOn generalizing rb with
  | ind n ih =>
      rw [appendLength, encodeLength]
      by_cases more : 0 < n / 128
      · have large : 128 ≤ n := by omega
        simp only [more, large, if_true, ih (n / 128) (by omega)]
        rfl
      · have small : ¬ 128 ≤ n := by omega
        simp only [more, small, if_false]
        rfl

theorem appendFixedHeader_eq (rb : MqttRingbuf) (msg : MsgType) (qos retain n : Nat) :
    rb.appendFixedHeader msg 0 qos retain n =
      rb.appendBuf (header msg qos retain :: encodeLength n) := by
  rw [appendFixedHeader, appendLength_eq]
  simp only [Nat.zero_mod, Nat.zero_mul, Nat.add_zero]
  exact appendBuf_append rb [header msg qos retain] (encodeLength n)

theorem lengthBytes_eq (n : Nat) : lengthBytes n = (encodeLength n).length := by
  induction n using Nat.strongRecOn with
  | ind n ih =>
      rw [lengthBytes, encodeLength]
      by_cases more : 0 < n / 128
      · rw [if_pos more, if_pos more, ih (n / 128) (by omega), List.length_cons]
      · rw [if_neg more, if_neg more]
        rfl

theorem lengthBytes_le {n : Nat} (small : n < 65536) : lengthBytes n ≤ 3 := by
  have last {n : Nat} (small : n < 128) : lengthBytes n = 1 := by
    rw [lengthBytes, if_neg (by omega)]
  have next {n k : Nat} (le : lengthBytes (n / 128) ≤ k) : lengthBytes n ≤ k + 1 := by
    rw [lengthBytes]
    split <;> omega
  exact next (next (Nat.le_of_eq (last (by omega))))

/-! ### What the ring holds -/

/-- The bytes in the ring. -/
structure Holds (rb : MqttRingbuf) (items : Bytes) : Prop where
  size : rb.buf.length = mqttOutputRingbufSize
  counter : rb.get < 65536
  ends : rb.put = u16 (rb.get + items.length)
  held : Held rb.buf rb.get items

theorem holds_nil : Holds {} [] :=
  ⟨List.length_replicate, by decide, rfl, Lib.held_nil _ _⟩

namespace Holds

variable {rb : MqttRingbuf} {items : Bytes}

theorem fits (holds : Holds rb items) : items.length ≤ mqttOutputRingbufSize :=
  holds.size ▸ holds.held.fits

theorem len_eq (holds : Holds rb items) : rb.len = items.length := by
  have fits : items.length ≤ 256 := holds.fits
  have counter := holds.counter
  rw [len, holds.ends, u16]
  rcases Nat.lt_or_ge (rb.get + items.length) 65536 with below | above
  · rw [Nat.mod_eq_of_lt below, sub16_of_le (Nat.le_add_right _ _) below, Nat.add_sub_cancel_left]
  · rw [Nat.mod_eq_sub_mod above, Nat.mod_eq_of_lt (by omega), sub16_of_lt (by omega) (by omega)]
    omega

theorem putItem (holds : Holds rb items) (room : items.length < mqttOutputRingbufSize)
    (item : UInt8) : Holds (rb.putItem item) (items ++ [item]) := by
  have size : rb.buf.length = 256 := holds.size
  have cell : rb.put % mqttOutputRingbufSize = (rb.get + items.length) % rb.buf.length := by
    rw [holds.ends, u16, size]
    exact Nat.mod_mod_of_dvd _ (by decide)
  refine ⟨?_, holds.counter, ?_, ?_⟩
  · rw [MqttRingbuf.putItem, List.length_set, holds.size]
  · rw [MqttRingbuf.putItem, holds.ends, List.length_append, List.length_singleton]
    simp only [u16]
    omega
  · rw [MqttRingbuf.putItem, cell]
    exact holds.held.put (holds.size ▸ room) item

theorem appendBuf (holds : Holds rb items) {data : Bytes}
    (room : items.length + data.length ≤ mqttOutputRingbufSize) :
    Holds (rb.appendBuf data) (items ++ data) := by
  induction data generalizing rb items with
  | nil =>
      rw [List.append_nil]
      exact holds
  | cons b data ih =>
      rw [List.length_cons] at room
      have next := ih (holds.putItem (by omega) b)
        (by rw [List.length_append, List.length_singleton]; omega)
      rwa [List.append_assoc] at next

theorem advance (holds : Holds rb items) {n : Nat} (le : n ≤ items.length) :
    Holds (rb.advanceGetIdx n) (items.drop n) := by
  have size : rb.buf.length = 256 := holds.size
  refine ⟨holds.size, Nat.mod_lt _ (by decide), ?_, ?_⟩
  · have ends := holds.ends
    simp only [advanceGetIdx, u16, List.length_drop] at ends ⊢
    omega
  · refine (holds.held.drop n).congr ?_
    rw [size]
    exact (Nat.mod_mod_of_dvd _ (by decide)).symm

theorem getPtr (holds : Holds rb items) {n : Nat} (le : n ≤ rb.linearReadLength) :
    rb.getPtr n = items.take n := by
  rw [linearReadLength, holds.len_eq] at le
  rw [MqttRingbuf.getPtr, ← holds.size]
  rw [← holds.size] at le
  have inside := Nat.mod_lt rb.get (holds.size ▸ (by decide) : 0 < rb.buf.length)
  exact holds.held.take_drop (by omega) (by omega)

theorem checkSpace_iff (holds : Holds rb items) {n : Nat} (small : n < 65532) :
    rb.checkSpace n = true ↔
      1 + (encodeLength n).length + n + items.length ≤ mqttOutputRingbufSize := by
  have le := lengthBytes_le (n := n) (by omega)
  rw [checkSpace, holds.len_eq, decide_eq_true_iff, ← lengthBytes_eq, u16]
  rw [Nat.mod_eq_of_lt (by omega)]
  omega

/-- What is sent comes from the front. -/
theorem send (holds : Holds rb items) (tcp : TcpSend) :
    ∃ rest, Holds (rb.send tcp).1 rest ∧ items = (rb.send tcp).2 ++ rest := by
  have stays : ∃ rest, Holds rb rest ∧ items = [] ++ rest := ⟨items, holds, rfl⟩
  have linear : rb.linearReadLength ≤ items.length := by
    rw [linearReadLength, holds.len_eq]
    exact Nat.min_le_left _ _
  have le : min tcp.sndbuf rb.linearReadLength ≤ rb.linearReadLength := Nat.min_le_right _ _
  have first : ∃ rest, Holds (rb.advanceGetIdx (min tcp.sndbuf rb.linearReadLength)) rest ∧
      items = rb.getPtr (min tcp.sndbuf rb.linearReadLength) ++ rest :=
    ⟨_, holds.advance (le.trans linear), by rw [holds.getPtr le, List.take_append_drop]⟩
  rw [MqttRingbuf.send]
  split
  · exact stays
  simp only
  split
  · exact stays
  split
  · split
    · obtain ⟨rest, next, is⟩ := first
      have linear' := Nat.min_le_left (rb.advanceGetIdx (min tcp.sndbuf rb.linearReadLength)).len
        (mqttOutputRingbufSize -
          (rb.advanceGetIdx (min tcp.sndbuf rb.linearReadLength)).get % mqttOutputRingbufSize)
      rw [← linearReadLength, next.len_eq] at linear'
      refine ⟨_, next.advance ((Nat.min_le_right _ _).trans linear'), ?_⟩
      rw [next.getPtr (Nat.min_le_right _ _), List.append_assoc, List.take_append_drop]
      exact is
    · exact first
  · exact first

end Holds

end MqttRingbuf

end LwipExt.Mqtt
