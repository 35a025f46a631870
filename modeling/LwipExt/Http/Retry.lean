import LwipExt.Http.Write
import LwipExt.Lib.DoWhile

/-!
The contract of `extHttpWrite`, whatever the stack answers.

`extHttpWriteWith` is the function on a stack whose answers are arbitrary: each call of
`tcp_write` may return any error, and the free send buffer and the queue may be anything when it
returns. `extHttpWriteWith_spec` says that the loop ends and what is in `*length` then.
`extHttpWriteWith_answers` says that `extHttpWrite` is this function on the stack of `Tcp`.
-/

namespace LwipExt.Http

open Lib

/-- What comes of one call of `tcp_write`: its result, and the free send buffer and whether the
queue is full when it has returned. -/
structure WriteAnswer where
  err : TcpErr
  sndBuf : Nat
  queueFull : Bool
  deriving DecidableEq, Repr

/-- The variables of the loop of `extHttpWrite`, and the bytes that were taken so far. -/
structure WriteTry where
  err : TcpErr := .ok
  len : Nat
  accepted : Bytes := []
  deriving DecidableEq, Repr

/-- The body of the loop. A call of `tcp_write` takes all bytes or, when it fails, none. -/
def writeTry (answer : WriteAnswer) (ptr : Bytes) (s : WriteTry) : WriteTry :=
  match answer.err with
  | .ok => { s with err := .ok, accepted := s.accepted ++ ptr.take s.len }
  | .mem =>
      { s with
        err := .mem
        len := if answer.sndBuf = 0 ∨ answer.queueFull then 1 else s.len / 2 }
  | err => { s with err := err }

/-- The test of the loop. -/
def WriteTry.again (s : WriteTry) : Bool := s.err = .mem && 1 < s.len

/-- `extHttpWrite` of the bytes `ptr` with `answers` of the calls of `tcp_write`, by the number
of the call and the length it is given: the error, `*length`, and the bytes that were taken. -/
def extHttpWriteWith (answers : Nat → Nat → WriteAnswer) (tcp : Tcp) (ptr : Bytes) (fuel : Nat) :
    Option (TcpErr × Nat × Bytes) :=
  if ptr.length = 0 then some (.ok, 0, [])
  else
    let loop := doWhile (fun round s => writeTry (answers round s.len) ptr s) WriteTry.again fuel 0
      { len := tcp.clamp ptr.length }
    loop.map fun s => (s.err, if s.err = .ok then s.len else 0, s.accepted)

/-! ### The loop -/

section Loop

variable {answer : WriteAnswer} {ptr : Bytes} {s : WriteTry}

theorem writeTry_ok (ok : (writeTry answer ptr s).err = .ok) :
    writeTry answer ptr s = { s with err := .ok, accepted := s.accepted ++ ptr.take s.len } := by
  cases result : answer.err with
  | ok => simp only [writeTry, result]
  | mem | conn | arg | val | inProgress | use | clsd | abrt =>
      simp only [writeTry, result] at ok
      cases ok

theorem writeTry_accepted (failed : (writeTry answer ptr s).err ≠ .ok) :
    (writeTry answer ptr s).accepted = s.accepted := by
  cases result : answer.err with
  | ok =>
      simp only [writeTry, result] at failed
      exact absurd rfl failed
  | mem | conn | arg | val | inProgress | use | clsd | abrt => simp only [writeTry, result]

/-- A loop that goes on has halved the length. -/
theorem writeTry_again (again : (writeTry answer ptr s).again = true) :
    (writeTry answer ptr s).err = .mem ∧ (writeTry answer ptr s).len = s.len / 2 ∧
      1 < s.len / 2 := by
  obtain ⟨mem, more⟩ := Bool.and_eq_true_iff.mp again
  have mem := of_decide_eq_true mem
  have more := of_decide_eq_true more
  cases result : answer.err with
  | mem =>
      simp only [writeTry, result] at more ⊢
      split_ifs at more ⊢ with full
      · exact absurd more (Nat.lt_irrefl 1)
      · exact ⟨trivial, rfl, more⟩
  | ok | conn | arg | val | inProgress | use | clsd | abrt =>
      simp only [writeTry, result] at mem
      cases mem

theorem log2_half {n : Nat} (more : 1 < n / 2) : (n / 2).log2 < n.log2 := by
  rw [Nat.log2_def n, if_pos (by omega)]
  exact Nat.lt_succ_self _

theorem log2_mono {n m : Nat} (le : n ≤ m) : n.log2 ≤ m.log2 := by
  by_cases zero : n = 0
  · rw [zero]
    exact Nat.zero_le _
  · exact (Nat.le_log2 (by omega)).mpr ((Nat.log2_self_le zero).trans le)

/-- What the loop leaves behind. -/
structure WriteTry.Settled (bound : Nat) (ptr : Bytes) (s : WriteTry) : Prop where
  taken : s.err = .ok → s.accepted = ptr.take s.len ∧ s.len ≤ bound
  refused : s.err ≠ .ok → s.accepted = []

/-- The loop ends, however often the stack is short of memory. -/
theorem writeLoop_spec (answers : Nat → Nat → WriteAnswer) (ptr : Bytes) (round len : Nat) :
    ∃ s : WriteTry, s.Settled len ptr ∧ ∀ fuel, len.log2 < fuel →
      doWhile (fun round s => writeTry (answers round s.len) ptr s) WriteTry.again fuel round
        { len } = some s := by
  refine doWhile_spec (fun s => s.len.log2) (fun s => s.accepted = [] ∧ s.len ≤ len)
    (WriteTry.Settled len ptr) ?_ ?_ round ⟨.ok, len, []⟩ ⟨rfl, Nat.le_refl len⟩
  · rintro round s ⟨none_, le⟩ again
    obtain ⟨mem, half, more⟩ := writeTry_again again
    have failed : (writeTry (answers round s.len) ptr s).err ≠ .ok := by
      rw [mem]
      decide
    refine ⟨⟨(writeTry_accepted failed).trans none_, ?_⟩, ?_⟩
    · rw [half]
      omega
    · rw [half]
      exact log2_half more
  · rintro round s ⟨none_, le⟩ -
    refine ⟨fun ok => ?_, fun failed => (writeTry_accepted failed).trans none_⟩
    rw [writeTry_ok ok]
    exact ⟨by rw [none_, List.nil_append], le⟩

end Loop

/-! ### The contract -/

theorem clamp_le (tcp : Tcp) (length : Nat) :
    tcp.clamp length ≤ length ∧ tcp.clamp length ≤ tcp.sndBuf ∧
      tcp.clamp length ≤ u16 (2 * tcp.mss) := by
  unfold Tcp.clamp
  omega

/-- **The contract of `extHttpWrite`.** Whatever the stack answers, the loop ends after at most
`log2` of the length rounds and one more. With `ERR_OK`, `*length` is the number of the bytes
that were taken, and these are the first of the request; there are no more of them than the
request has, the send buffer had room for and `MHTTPD_MAX_WRITE_LEN` allows. With an error, no
byte was taken. -/
theorem extHttpWriteWith_spec (answers : Nat → Nat → WriteAnswer) (tcp : Tcp) (ptr : Bytes) :
    ∃ err length accepted,
      (∀ fuel, ptr.length.log2 < fuel →
        extHttpWriteWith answers tcp ptr fuel = some (err, length, accepted)) ∧
      (err = .ok → length = accepted.length ∧ accepted = ptr.take length ∧
        length ≤ ptr.length ∧ length ≤ tcp.sndBuf ∧ length ≤ u16 (2 * tcp.mss)) ∧
      (err ≠ .ok → length = 0 ∧ accepted = []) := by
  by_cases empty : ptr.length = 0
  · refine ⟨.ok, 0, [], fun fuel _ => by rw [extHttpWriteWith, if_pos empty], fun _ => ?_, ?_⟩
    · exact ⟨rfl, rfl, Nat.zero_le _, Nat.zero_le _, Nat.zero_le _⟩
    · exact fun failed => absurd rfl failed
  · obtain ⟨inRequest, inBuffer, inLimit⟩ := clamp_le tcp ptr.length
    obtain ⟨s, settled, ends⟩ := writeLoop_spec answers ptr 0 (tcp.clamp ptr.length)
    refine ⟨s.err, if s.err = .ok then s.len else 0, s.accepted, fun fuel enough => ?_,
      fun ok => ?_, fun failed => ?_⟩
    · have fewer : (tcp.clamp ptr.length).log2 ≤ ptr.length.log2 := log2_mono inRequest
      rw [extHttpWriteWith, if_neg empty]
      simp only
      rw [ends fuel (Nat.lt_of_le_of_lt fewer enough)]
      rfl
    · obtain ⟨accepted, le⟩ := settled.taken ok
      rw [if_pos ok, accepted, List.length_take]
      refine ⟨?_, rfl, ?_, ?_, ?_⟩
      all_goals omega
    · rw [if_neg failed]
      exact ⟨rfl, settled.refused failed⟩

/-! ### The stack of a connection -/

/-- The answers of a pcb to the calls of one `extHttpWrite`. -/
def answersOf (tcp : Tcp) (round len : Nat) : WriteAnswer :=
  let outcome := tcp.outcomes.getD round .accept
  ⟨tcpWrite tcp.sndBuf len outcome, tcp.sndBuf, outcome.queueFull⟩

theorem tcpWrite_of_room {sndBuf len : Nat} (room : len ≤ sndBuf) :
    tcpWrite sndBuf len .accept = .ok := by
  unfold tcpWrite
  split_ifs with none_ much
  · rfl
  · omega
  · rfl

/-- The loop that offers bytes to a pcb is the loop with its answers. -/
theorem doWhile_answersOf (tcp : Tcp) (ptr : Bytes) {outcomes : List WriteOutcome} {round : Nat}
    (coming : tcp.outcomes.drop round = outcomes) (err : TcpErr) {len fuel : Nat}
    (room : len ≤ tcp.sndBuf) (enough : len.log2 < fuel) :
    let settled := writeLoop tcp.sndBuf len outcomes
    doWhile (fun round s => writeTry (answersOf tcp round s.len) ptr s) WriteTry.again fuel round
        ⟨err, len, []⟩ =
      some ⟨settled.1, settled.2.1, if settled.1 = .ok then ptr.take settled.2.1 else []⟩ := by
  obtain ⟨fuel, rfl⟩ := Nat.exists_eq_add_one.mpr (Nat.zero_lt_of_lt enough)
  induction outcomes generalizing round len err fuel with
  | nil =>
      have accept : answersOf tcp round len = ⟨.ok, tcp.sndBuf, false⟩ := by
        unfold answersOf
        rw [List.getD_eq_default _ _ (List.drop_eq_nil_iff.mp coming)]
        dsimp only
        rw [tcpWrite_of_room room]
        rfl
      have once : writeTry (answersOf tcp round len) ptr ⟨err, len, []⟩ =
          ⟨.ok, len, ptr.take len⟩ := by
        rw [accept]
        rfl
      rw [doWhile_exit (by dsimp only; rw [once]; rfl)]
      dsimp only
      rw [once, writeLoop, tcpWrite_of_room room]
      rfl
  | cons outcome outcomes ih =>
      have here : tcp.outcomes.getD round .accept = outcome := by
        have first := congrArg (·[0]?) coming
        rw [List.getElem?_drop, List.getElem?_cons_zero, Nat.add_zero] at first
        rw [List.getD_eq_getElem?_getD, first]
        rfl
      have rest : tcp.outcomes.drop (round + 1) = outcomes := by
        rw [← List.drop_drop, coming]
        rfl
      have answer : answersOf tcp round len =
          ⟨tcpWrite tcp.sndBuf len outcome, tcp.sndBuf, outcome.queueFull⟩ := by
        unfold answersOf
        rw [here]
      cases result : tcpWrite tcp.sndBuf len outcome with
      | mem =>
          let smaller := if tcp.sndBuf = 0 ∨ outcome.queueFull then 1 else len / 2
          have once : writeTry (answersOf tcp round len) ptr ⟨err, len, []⟩ =
              ⟨.mem, smaller, []⟩ := by
            rw [answer, result]
            rfl
          have loop : writeLoop tcp.sndBuf len (outcome :: outcomes) =
              if 1 < smaller then writeLoop tcp.sndBuf smaller outcomes
              else (.mem, smaller, outcomes) := by
            rw [writeLoop, result]
          rw [loop]
          by_cases more : 1 < smaller
          · have again : (writeTry (answersOf tcp round len) ptr ⟨err, len, []⟩).again = true := by
              rw [once]
              exact Bool.and_eq_true_iff.mpr ⟨rfl, decide_eq_true more⟩
            obtain ⟨-, half, fewer⟩ := writeTry_again again
            have half : smaller = len / 2 := by rwa [once] at half
            have lower : smaller.log2 < fuel := by
              have lower := log2_half fewer
              rw [half]
              dsimp only at lower
              omega
            obtain ⟨fuel, rfl⟩ := Nat.exists_eq_add_one.mpr (Nat.zero_lt_of_lt lower)
            rw [doWhile_again again, if_pos more]
            dsimp only
            rw [once]
            exact ih rest .mem (by omega) fuel lower
          · have exits : (writeTry (answersOf tcp round len) ptr ⟨err, len, []⟩).again = false := by
              rw [once]
              exact Bool.and_eq_false_imp.mpr fun _ => decide_eq_false more
            rw [doWhile_exit exits, if_neg more]
            dsimp only
            rw [once]
            rfl
      | ok =>
          have once : writeTry (answersOf tcp round len) ptr ⟨err, len, []⟩ =
              ⟨.ok, len, ptr.take len⟩ := by
            rw [answer, result]
            rfl
          rw [doWhile_exit (by dsimp only; rw [once]; rfl)]
          have loop : writeLoop tcp.sndBuf len (outcome :: outcomes) = (.ok, len, outcomes) := by
            rw [writeLoop, result]
          rw [loop, once]
          rfl
      | conn | arg | val | inProgress | use | clsd | abrt =>
          have once : writeTry (answersOf tcp round len) ptr ⟨err, len, []⟩ =
              ⟨tcpWrite tcp.sndBuf len outcome, len, []⟩ := by
            rw [answer, result]
            rfl
          rw [doWhile_exit (by dsimp only; rw [once, result]; rfl)]
          have loop : writeLoop tcp.sndBuf len (outcome :: outcomes) =
              (tcpWrite tcp.sndBuf len outcome, len, outcomes) := by
            rw [writeLoop, result]
          rw [loop, once, result]
          rfl

/-- On the stack of a connection this is `extHttpWrite`. -/
theorem extHttpWriteWith_answersOf (ss : Session) (ptr : Bytes) {fuel : Nat}
    (enough : ptr.length.log2 < fuel) :
    let done := extHttpWrite ss ptr ptr.length
    extHttpWriteWith (answersOf ss.io.tcp) ss.io.tcp ptr fuel =
        some (done.2.1, done.2.2, ptr.take done.2.2) ∧
      done.1.io.accepted = ss.io.accepted ++ ptr.take done.2.2 := by
  refine ⟨?_, rfl⟩
  have room := (clamp_le ss.io.tcp ptr.length).2.1
  have fewer := log2_mono (clamp_le ss.io.tcp ptr.length).1
  simp only [extHttpWrite_err, extHttpWrite_len, extHttpWriteWith, Tcp.taken, Tcp.offer]
  by_cases empty : ptr.length = 0
  · rw [if_pos empty, if_pos empty]
    rfl
  · rw [if_neg empty, if_neg empty,
      doWhile_answersOf ss.io.tcp ptr List.drop_zero .ok room (Nat.lt_of_le_of_lt fewer enough)]
    dsimp only [Option.map_some]
    split_ifs
    · rfl
    · rfl

end LwipExt.Http
