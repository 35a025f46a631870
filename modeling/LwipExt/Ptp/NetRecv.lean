import LwipExt.Ptp.Datatypes
import LwipExt.Ptp.NetQueue

/-!
Receiving a packet (`_netRecv` in `dep/ptpNet.c`).

The copy loop takes one byte of the packet in each round and goes on to the next segment when the
current one is used up, without a look at the length of the next. So it reads a byte of an empty
segment that comes before others, and is right on every other chain (`netRecv_iff`).
-/

namespace LwipExt.Ptp

open LwipExt.Lib

/-! ### The functions -/

/-- A received `pbuf` chain, by its segments, with the time of arrival. -/
structure PacketBuf where
  segments : List Bytes
  timeSec : Int32 := 0
  timeNsec : Int32 := 0
  deriving DecidableEq, Repr

/-- `tot_len`. -/
def PacketBuf.totLen (p : PacketBuf) : Nat := p.segments.flatten.length

/-- The copy loop of `_netRecv`, with the number of rounds left, the segments from `pcopy` on and
the two indices; `none` if it reads outside a segment. -/
def netRecvCopy : Nat → List Bytes → Nat → Nat → Bytes → Option Bytes
  | 0, _, _, _, buf => some buf
  | _ + 1, [], _, _, _ => none
  | rounds + 1, pcopy :: next, j, i, buf =>
      match pcopy[j]? with
      | none => none
      | some byte =>
          if j + 1 = pcopy.length then netRecvCopy rounds next 0 (i + 1) (buf.set i byte)
          else netRecvCopy rounds (pcopy :: next) (j + 1) (i + 1) (buf.set i byte)

/-- What `_netRecv` returns, and leaves in the buffer, the time and the queue. -/
structure NetRecv where
  length : Nat
  buf : Bytes
  time : Option TimeInternal
  queue : BufQueue PacketBuf
  /-- The packets given to `pbuf_free`. -/
  freed : List PacketBuf

/-- `_netRecv`; `time` is `none` for a null pointer, and the result is `none` if it reads outside a
segment. -/
def netRecv (buf : Bytes) (time : Option TimeInternal) (msgQueue : BufQueue PacketBuf) :
    Option NetRecv :=
  match netQGet msgQueue with
  | (none, msgQueue) => some ⟨0, buf, time, msgQueue, []⟩
  | (some p, msgQueue) =>
      if p.totLen > packetSize then some ⟨0, buf, time, msgQueue, [p]⟩
      else if p.totLen = 0 then some ⟨0, buf, time, msgQueue, [p]⟩
      else
        let time := time.map fun _ => { seconds := p.timeSec, nanoseconds := p.timeNsec }
        (netRecvCopy p.totLen p.segments 0 0 buf).map fun buf =>
          ⟨p.totLen, buf, time, msgQueue, [p]⟩

/-! ### The copy loop -/

/-- No empty segment comes before a byte of the packet. -/
def EmptyLast : List Bytes → Prop
  | [] => True
  | segment :: rest => (segment = [] → rest.flatten = []) ∧ EmptyLast rest

instance decidableEmptyLast : ∀ segments : List Bytes, Decidable (EmptyLast segments)
  | [] => .isTrue trivial
  | _ :: rest => @instDecidableAnd _ _ inferInstance (decidableEmptyLast rest)

theorem emptyLast_of_flatten_eq_nil {segments : List Bytes}
    (nothing : segments.flatten = []) :
    EmptyLast segments := by
  induction segments with
  | nil => trivial
  | cons segment rest ih =>
      obtain ⟨-, nothing⟩ := List.append_eq_nil_iff.mp nothing
      exact ⟨fun _ => nothing, ih nothing⟩

/-- A buffer with a text from `i` on. -/
def spliced (buf : Bytes) (i : Nat) (text : Bytes) : Bytes :=
  buf.take i ++ text ++ buf.drop (i + text.length)

theorem spliced_nil (buf : Bytes) (i : Nat) : spliced buf i [] = buf := by
  rw [spliced, List.append_nil, List.length_nil, Nat.add_zero, List.take_append_drop]

/-- A byte and then the text behind it. -/
theorem spliced_set {buf text : Bytes} {i : Nat} (byte : UInt8) (inside : i < buf.length) :
    spliced (buf.set i byte) (i + 1) text = spliced buf i (byte :: text) := by
  obtain ⟨before, old, after, rfl, rfl⟩ :
      ∃ before old after, buf = before ++ old :: after ∧ i = before.length := by
    refine ⟨buf.take i, buf[i], buf.drop (i + 1), ?_, ?_⟩
    · rw [List.getElem_cons_drop, List.take_append_drop]
    · rw [List.length_take]
      omega
  have changed : (before ++ old :: after).set before.length byte = before ++ byte :: after := by
    rw [List.set_append_right _ _ (Nat.le_refl _), Nat.sub_self, List.set_cons_zero]
  have dropped (c : UInt8) (n : Nat) :
      (before ++ c :: after).drop (before.length + (n + 1)) = after.drop n := by
    rw [List.drop_append, List.drop_eq_nil_of_le (by omega), Nat.add_sub_cancel_left]
    rfl
  have kept : (before ++ byte :: after).take (before.length + 1) = before ++ [byte] := by
    rw [List.take_length_add_append]
    rfl
  rw [spliced, spliced, changed, kept, List.take_left, List.length_cons, Nat.add_assoc,
    Nat.add_comm 1, dropped, dropped, List.append_assoc, List.append_assoc, List.append_assoc]
  rfl

/-- From inside a segment the loop copies what is left of the packet, unless an empty segment is
in the way. -/
theorem netRecvCopy_eq {segment : Bytes} {rest : List Bytes} {rounds i j : Nat} {buf : Bytes}
    (inside : j < segment.length)
    (left : rounds = (segment.drop j ++ rest.flatten).length) (room : i + rounds ≤ buf.length) :
    netRecvCopy rounds (segment :: rest) j i buf =
      if EmptyLast rest then some (spliced buf i (segment.drop j ++ rest.flatten)) else none := by
  induction rounds generalizing segment rest i j buf with
  | zero =>
      rw [List.length_append, List.length_drop] at left
      omega
  | succ rounds ih =>
      have read : segment[j]? = some segment[j] := List.getElem?_eq_getElem inside
      have split : segment.drop j = segment[j] :: segment.drop (j + 1) :=
        List.drop_eq_getElem_cons inside
      have room' : i + 1 + rounds ≤ (buf.set i segment[j]).length := by
        rw [List.length_set]
        omega
      rw [split, List.cons_append, List.length_cons, Nat.add_right_cancel_iff] at left
      rw [netRecvCopy, read]
      dsimp only
      rw [split, List.cons_append, ← spliced_set segment[j] (by omega)]
      by_cases used : j + 1 = segment.length
      · rw [if_pos used]
        have nothing : segment.drop (j + 1) = [] := List.drop_eq_nil_of_le (by omega)
        rw [nothing, List.nil_append] at left ⊢
        cases rest with
        | nil =>
            have last : EmptyLast [] := trivial
            rw [List.flatten_nil] at left ⊢
            rw [left, spliced_nil, if_pos last]
            rfl
        | cons next rest =>
            by_cases empty : next = []
            · -- the next segment is read although it is empty, unless the packet ends here
              subst empty
              rw [List.flatten_cons, List.nil_append] at left ⊢
              by_cases done : rest.flatten = []
              · rw [done, List.length_nil] at left
                have last : EmptyLast ([] :: rest) :=
                  ⟨fun _ => done, emptyLast_of_flatten_eq_nil done⟩
                rw [left, done, spliced_nil, if_pos last]
                rfl
              · have more : 0 < rest.flatten.length := List.length_pos_of_ne_nil done
                obtain ⟨rounds, rfl⟩ : ∃ n, rounds = n + 1 := ⟨rounds - 1, by omega⟩
                rw [if_neg (fun last => done (last.1 rfl))]
                rfl
            · have inside' : 0 < next.length := List.length_pos_of_ne_nil empty
              have next' := @ih next rest (i + 1) 0 (buf.set i segment[j]) inside' left room'
              have same : EmptyLast (next :: rest) ↔ EmptyLast rest :=
                ⟨fun last => last.2, fun last => ⟨fun nil => absurd nil empty, last⟩⟩
              rw [List.flatten_cons]
              simp only [same]
              exact next'
      · rw [if_neg used]
        exact ih (by omega) left room'

/-- The whole loop, on a packet that is not empty. -/
theorem netRecvCopy_packet {segments : List Bytes} {buf : Bytes} (nonempty : segments.flatten ≠ [])
    (room : segments.flatten.length ≤ buf.length) :
    netRecvCopy segments.flatten.length segments 0 0 buf =
      if EmptyLast segments then
        some (segments.flatten ++ buf.drop segments.flatten.length)
      else none := by
  cases segments with
  | nil => exact absurd rfl nonempty
  | cons segment rest =>
      by_cases empty : segment = []
      · subst empty
        rw [List.flatten_cons, List.nil_append] at nonempty ⊢
        obtain ⟨rounds, more⟩ := Nat.exists_eq_succ_of_ne_zero
          (mt List.length_eq_zero_iff.mp nonempty)
        rw [more, if_neg (fun last => nonempty (last.1 rfl))]
        rfl
      · have inside : 0 < segment.length := List.length_pos_of_ne_nil empty
        have same : EmptyLast (segment :: rest) ↔ EmptyLast rest :=
          ⟨fun last => last.2, fun last => ⟨fun nil => absurd nil empty, last⟩⟩
        have room' : 0 + (segment :: rest).flatten.length ≤ buf.length := by
          rwa [Nat.zero_add]
        have copied := netRecvCopy_eq inside rfl room'
        rw [spliced, List.take_zero, Nat.zero_add] at copied
        simp only [same]
        exact copied

/-! ### Receiving -/

/-- The packet is received as it was sent: its length, and its bytes at the start of the buffer. -/
def ReceivedWhole (p : PacketBuf) (buf : Bytes) (result : Option NetRecv) : Prop :=
  ∃ r, result = some r ∧ r.length = p.totLen ∧
    r.buf = p.segments.flatten ++ buf.drop p.totLen

/-- A packet that fits is received whole exactly if no empty segment comes before a byte of it. -/
theorem netRecv_iff (buf : Bytes) (time : Option TimeInternal) (msgQueue : BufQueue PacketBuf)
    (p : PacketBuf) (oldest : (netQGet msgQueue).1 = some p) (whole : buf.length = packetSize)
    (nonempty : 1 ≤ p.totLen) (fits : p.totLen ≤ packetSize) :
    ReceivedWhole p buf (netRecv buf time msgQueue) ↔ EmptyLast p.segments := by
  obtain ⟨got, after⟩ : ∃ after, netQGet msgQueue = (some p, after) :=
    ⟨(netQGet msgQueue).2, Prod.ext oldest rfl⟩
  have copied : netRecvCopy p.totLen p.segments 0 0 buf =
      if EmptyLast p.segments then some (p.segments.flatten ++ buf.drop p.totLen) else none := by
    apply netRecvCopy_packet
    · exact List.ne_nil_of_length_pos nonempty
    · rw [whole]
      exact fits
  unfold netRecv
  rw [after]
  dsimp only
  rw [if_neg (Nat.not_lt.mpr fits), if_neg (Nat.ne_of_gt nonempty), copied]
  by_cases last : EmptyLast p.segments
  · rw [if_pos last]
    exact ⟨fun _ => last, fun _ => ⟨_, rfl, rfl, rfl⟩⟩
  · rw [if_neg last]
    constructor
    · rintro ⟨r, result, -⟩
      cases result
    · exact fun holds => absurd holds last

/-- A queue that holds one packet. -/
def queueOf (p : PacketBuf) : BufQueue PacketBuf :=
  (netQPut (netQInit ⟨Vector.replicate pbufQueueSize ⟨[], 0, 0⟩, 0, 0⟩) p).2

theorem netRecv_iff_met :
    ReceivedWhole ⟨[[1], [2, 3], []], 0, 0⟩ (List.replicate packetSize 0)
        (netRecv (List.replicate packetSize 0) none (queueOf ⟨[[1], [2, 3], []], 0, 0⟩)) ↔
      EmptyLast [[1], [2, 3], []] :=
  netRecv_iff (List.replicate packetSize 0) none (queueOf ⟨[[1], [2, 3], []], 0, 0⟩)
    ⟨[[1], [2, 3], []], 0, 0⟩ rfl List.length_replicate (by decide) (by decide)

/-- A packet whose first segment is empty: the loop reads a byte of it. -/
theorem empty_segment_read :
    netRecv (List.replicate packetSize 0) none (queueOf ⟨[[], [1]], 0, 0⟩) = none ∧
      ¬ ReceivedWhole ⟨[[], [1]], 0, 0⟩ (List.replicate packetSize 0)
        (netRecv (List.replicate packetSize 0) none (queueOf ⟨[[], [1]], 0, 0⟩)) := by
  have outside :
      netRecv (List.replicate packetSize 0) none (queueOf ⟨[[], [1]], 0, 0⟩) = none := by
    rfl
  refine ⟨outside, ?_⟩
  rintro ⟨r, result, -⟩
  rw [outside] at result
  cases result

end LwipExt.Ptp
