import LwipExt.Http.Lifetime
import LwipExt.Lib.Chain

/-!
The list of connections as `exts/http/extHttpConns.c` keeps it: the pointer `_extHttpConns`,
and the field `next` of every connection.

`Linked` is a server with these pointers. The functions that edit the list are those of the
source, loops included; the rest of the server is that of `Server`, whose list `conns` says
what the pointers are for. `connections_listed` is the result about runs: the pointers always
lead through the live connections, the newest first, and an eviction takes the oldest.
-/

namespace LwipExt.Http

open Lib

/-- A server with the pointers of its connection list. A block that is not allocated has some
`next` too. `births` and `made` record which connection was allocated when; the code has
neither. -/
structure Linked where
  server : Server := {}
  head : Option ConnId := none
  next : ConnId → Option ConnId := fun _ => none
  births : ConnId → Nat := fun _ => 0
  made : Nat := 0

namespace Linked

/-- `_addConnection`. -/
def addConnection (st : Linked) (c : ConnId) : Linked :=
  { st with next := Function.update st.next c st.head, head := some c }

/-- `_removeConnection`. `bound` is for the steps of its loop. -/
def removeConnection (bound : Nat) (st : Linked) (c : ConnId) : Option Linked :=
  match st.head with
  | none => some st
  | some first =>
      if first = c then some { st with head := st.next c }
      else (unlinkAfter st.next c bound first).map fun next => { st with next }

/-- `extHttpConnFree`. -/
def extHttpConnFree (bound : Nat) (st : Linked) (c : ConnId) : Option Linked :=
  (st.removeConnection bound c).map fun st =>
    { st with server := st.server.extHttpConnFree c }

/-- `_extHttpConnCloseOrAbort`. -/
def extHttpConnCloseOrAbort (bound : Nat) (st : Linked) (conn : Option ConnId) (p : PcbId)
    (abort : Bool) : Option Linked :=
  let unlinked := match conn with
    | some c => st.removeConnection bound c
    | none => some st
  unlinked.map fun st =>
    { st with server := st.server.extHttpConnCloseOrAbort conn p abort }

/-- `_killOldestConnection`: the loop leaves `hs_free_next` at the connection in front of the
last one. -/
def killOldestConnection (bound : Nat) (st : Linked) : Option Linked :=
  match beforeLast st.next bound st.head none with
  | none => none
  | some none => some st
  | some (some before) =>
      let oldest := st.next before
      let pcb := (oldest.map fun c => (st.server.mem c).pcb).getD 0
      st.extHttpConnCloseOrAbort bound oldest pcb true

/-- The end of `extHttpConnAlloc`, on the block it was given. `_extHttpStateInit` clears it. -/
def enlist (st : Linked) (p : PcbId) (c : ConnId) : Linked :=
  let cell : Cell := { live := true, pcb := p, conn := extHttpStateInit }
  let server := { st.server with mem := Function.update st.server.mem c cell }
  let st := { st with
    server := server.addConnection c
    next := Function.update st.next c none
    births := Function.update st.births c st.made
    made := st.made + 1 }
  st.addConnection c

/-- `extHttpConnAlloc`. -/
def extHttpConnAlloc (bound : Nat) (st : Linked) (p : PcbId) (first second : Option ConnId) :
    Option (Linked × Option ConnId) :=
  match st.server.malloc first with
  | some c => some (st.enlist p c, some c)
  | none =>
      (st.killOldestConnection bound).map fun st =>
        match st.server.malloc second with
        | some c => (st.enlist p c, some c)
        | none => (st, none)

/-- `_extHttpAccept`, for a connection without an error. -/
def extHttpAccept (bound : Nat) (st : Linked) (p : PcbId) (first second : Option ConnId) :
    Option Linked :=
  (st.extHttpConnAlloc bound p first second).map fun
    | (st, none) => st
    | (st, some c) =>
        let server := { st.server with currentHttpConns := st.server.currentHttpConns + 1 }
        { st with server := server.setPcb p fun pcb =>
            { pcb with arg := some c, registered := true, poll := true } }

/-- `__extHttpErr`. -/
def extHttpErr (bound : Nat) (st : Linked) (p : PcbId) : Option Linked :=
  let arg := (st.server.pcbs p).arg
  let st := { st with server := st.server.resetCallbacks p }
  match arg with
  | some c => st.extHttpConnFree bound c
  | none => some st

/-- What happens to the connections. Between the operations on the list, code is run on a
connection, the stack changes what it will answer, and whoever owns a block that is no
connection writes into it. -/
inductive ConnOp where
  | accept (p : PcbId) (first second : Option ConnId)
  | free (c : ConnId)
  | close (conn : Option ConnId) (p : PcbId) (abort : Bool)
  | err (p : PcbId)
  | work (c : ConnId) (f : Session → Session)
  | answers (env : Env)
  | reuse (c : ConnId) (link : Option ConnId)

/-- One operation; none when a loop runs out of its bound. -/
def step (bound : Nat) (st : Linked) : ConnOp → Option Linked
  | .accept p first second => st.extHttpAccept bound p first second
  | .free c => st.extHttpConnFree bound c
  | .close conn p abort => st.extHttpConnCloseOrAbort bound conn p abort
  | .err p => st.extHttpErr bound p
  | .work c f => some { st with server := (st.server.onConn c fun ss => (f ss, ())).1 }
  | .answers env => some { st with server := st.server.arm env }
  | .reuse c link =>
      some (if (st.server.mem c).live then st
        else { st with next := Function.update st.next c link })

/-- The connection `c` is live. -/
def Live (st : Linked) (c : ConnId) : Prop := (st.server.mem c).live

/-- No live connection is older. -/
def Oldest (st : Linked) (c : ConnId) : Prop :=
  st.Live c ∧ ∀ d, st.Live d → st.births c ≤ st.births d

/-- What `Server` says of an operation. -/
def ConnOp.apply (s : Server) : ConnOp → Server
  | .accept p first second => s.extHttpAccept p false first second
  | .free c => s.extHttpConnFree c
  | .close conn p abort => s.extHttpConnCloseOrAbort conn p abort
  | .err p => s.extHttpErr p
  | .work c f => (s.onConn c fun ss => (f ss, ())).1
  | .answers env => s.arm env
  | .reuse _ _ => s

/-- The pointers lead through `l` to NULL; `l` has each live connection once, and the newest
first. -/
structure Listed (st : Linked) (l : List ConnId) : Prop where
  chain : Chain st.next st.head l
  nodup : l.Nodup
  live_iff : ∀ c, st.Live c ↔ c ∈ l
  newest_first : l.Pairwise fun c d => st.births d < st.births c

/-- The pointers represent the list of the server. -/
structure Tracked (st : Linked) : Prop extends st.Listed st.server.conns where
  born : ∀ c ∈ st.server.conns, st.births c < st.made
  counted : st.server.conns.length ≤ st.made

/-- `st'` is `st` without the connection `gone`. -/
structure Without (st : Linked) (gone : Option ConnId) (st' : Linked) : Prop where
  tracked : st'.Tracked
  births : st'.births = st.births
  made : st'.made = st.made
  live_iff : ∀ d, st'.Live d ↔ st.Live d ∧ some d ≠ gone

/-! ### Taking a connection out -/

section Removal

variable {st : Linked} {bound : Nat}

theorem removeConnection_spec {l : List ConnId} (c : ConnId) (chain : Chain st.next st.head l)
    (enough : l.length ≤ bound) :
    ∃ head next, st.removeConnection bound c = some { st with head, next } ∧
      Chain next head (l.erase c) := by
  unfold removeConnection
  cases l with
  | nil =>
      have empty : st.head = none := chain_nil.mp chain
      refine ⟨none, st.next, ?_, rfl⟩
      simp only [empty]
      rw [← empty]
  | cons first l =>
      obtain ⟨head, rest⟩ := chain
      simp only [head]
      by_cases found : first = c
      · subst found
        refine ⟨st.next first, st.next, if_pos rfl, ?_⟩
        rw [List.erase_cons_head]
        exact rest
      · obtain ⟨next, walked, chain', -⟩ :=
          Chain.unlinkAfter (⟨rfl, rest⟩ : Chain st.next (some first) (first :: l)) found
            enough
        refine ⟨some first, next, ?_, ?_⟩
        · rw [if_neg found, walked, Option.map_some]
        · rw [List.erase_cons_tail (by simpa using found)]
          exact chain'

/-- A server with the same connections, under the same pointers. -/
theorem Tracked.congr (tracked : st.Tracked) {s : Server}
    (live : ∀ c, (s.mem c).live = (st.server.mem c).live) (conns : s.conns = st.server.conns) :
    st.Without none { st with server := s } := by
  obtain ⟨⟨chain, nodup, live_iff, newest_first⟩, born, counted⟩ := tracked
  refine ⟨⟨⟨?_, ?_, ?_, ?_⟩, ?_, ?_⟩, rfl, rfl, ?_⟩
  · rw [conns]
    exact chain
  · rw [conns]
    exact nodup
  · intro c
    rw [conns, ← live_iff c]
    simp only [Live, live c]
  · rw [conns]
    exact newest_first
  · rw [conns]
    exact born
  · rw [conns]
    exact counted
  · intro c
    simp only [Live, live c, reduceCtorEq, ne_eq, not_false_eq_true, and_true]

/-- A server without the connection `c`, under pointers without it. -/
theorem Tracked.release (tracked : st.Tracked) {c : ConnId} {s : Server} {head : Option ConnId}
    {next : ConnId → Option ConnId} (chain : Chain next head (st.server.conns.erase c))
    (live : s.registry.live = (st.server.registry.release c).live)
    (conns : s.conns = st.server.conns.erase c) :
    st.Without (some c) { st with server := s, head, next } := by
  have lives : ∀ d, (s.mem d).live ↔ (st.server.mem d).live ∧ d ≠ c := by
    intro d
    have here := congrFun live d
    simp only [Server.registry, Registry.release, Function.update_apply] at here
    rw [here]
    by_cases same : d = c
    · simp [same]
    · simp [same]
  refine ⟨⟨⟨?_, ?_, ?_, ?_⟩, ?_, ?_⟩, rfl, rfl, ?_⟩
  · rw [conns]
    exact chain
  · rw [conns]
    exact chain.nodup
  · intro d
    rw [conns, tracked.nodup.mem_erase_iff, ← tracked.live_iff d]
    exact (lives d).trans and_comm
  · rw [conns]
    exact tracked.newest_first.sublist List.erase_sublist
  · intro d mem
    rw [conns] at mem
    exact tracked.born d (List.mem_of_mem_erase mem)
  · rw [conns]
    exact (List.erase_sublist.length_le).trans tracked.counted
  · intro d
    simpa [Live] using lives d

theorem extHttpConnFree_spec (tracked : st.Tracked) (enough : st.server.conns.length ≤ bound)
    (c : ConnId) :
    ∃ st', st.extHttpConnFree bound c = some st' ∧ st.Without (some c) st' ∧
      st'.server = st.server.extHttpConnFree c := by
  obtain ⟨head, next, removed, chain⟩ := removeConnection_spec c tracked.chain enough
  have registry := Server.extHttpConnFree_registry st.server c
  have live := congrArg Registry.live registry
  have conns := congrArg Registry.listed registry
  unfold extHttpConnFree
  rw [removed]
  exact ⟨_, rfl, tracked.release chain live conns, rfl⟩

/-- Closing without a connection changes no connection. -/
theorem extHttpConnCloseOrAbort_none (s : Server) (p : PcbId) (abort : Bool) :
    (s.extHttpConnCloseOrAbort none p abort).mem = s.mem ∧
      (s.extHttpConnCloseOrAbort none p abort).conns = s.conns := by
  unfold Server.extHttpConnCloseOrAbort Server.resetCallbacks Server.tcpClose Server.setPcb
  dsimp only
  split_ifs
  · exact ⟨rfl, rfl⟩
  · exact ⟨rfl, rfl⟩
  · exact ⟨rfl, rfl⟩

theorem extHttpConnCloseOrAbort_spec (tracked : st.Tracked)
    (enough : st.server.conns.length ≤ bound) (conn : Option ConnId) (p : PcbId) (abort : Bool) :
    ∃ st', st.extHttpConnCloseOrAbort bound conn p abort = some st' ∧ st.Without conn st' ∧
      st'.server = st.server.extHttpConnCloseOrAbort conn p abort := by
  unfold extHttpConnCloseOrAbort
  cases conn with
  | some c =>
      obtain ⟨head, next, removed, chain⟩ := removeConnection_spec c tracked.chain enough
      obtain ⟨timer, registry⟩ := Server.extHttpConnCloseOrAbort_registry st.server c p abort
      have live := congrArg Registry.live registry
      have conns := congrArg Registry.listed registry
      dsimp only
      rw [removed]
      exact ⟨_, rfl, tracked.release chain live conns, rfl⟩
  | none =>
      obtain ⟨mem, conns⟩ := extHttpConnCloseOrAbort_none st.server p abort
      exact ⟨_, rfl, tracked.congr (fun c => by rw [mem]) conns, rfl⟩

/-! ### Eviction -/

/-- The last of the list is the oldest. -/
theorem Tracked.oldest (tracked : st.Tracked) {c : ConnId}
    (last : st.server.conns.getLast? = some c) : st.Oldest c := by
  refine ⟨(tracked.live_iff c).mpr (List.mem_of_getLast? last), ?_⟩
  intro d live
  have mem := (tracked.live_iff d).mp live
  obtain ⟨newer, split⟩ := List.getLast?_eq_some_iff.mp last
  have order := tracked.newest_first
  rw [split] at mem order
  obtain ⟨-, -, above⟩ := List.pairwise_append.mp order
  rcases List.mem_append.mp mem with there | here
  · exact (above d there c (List.mem_singleton_self c)).le
  · rw [List.mem_singleton.mp here]

/-- The eviction takes the last connection, behind the first one. -/
theorem killOldestConnection_spec (tracked : st.Tracked)
    (enough : st.server.conns.length ≤ bound) :
    ∃ st', st.killOldestConnection bound = some st' ∧
      st.Without st.server.conns.tail.getLast? st' ∧
      st'.server = st.server.killOldestConnection := by
  have untouched : st.server.conns.foldl Server.touch st.server = st.server :=
    Server.foldl_touch_of_live _ fun d mem => (tracked.live_iff d).mpr mem
  have chain := tracked.chain
  unfold killOldestConnection Server.killOldestConnection
  dsimp only
  rw [untouched]
  cases conns : st.server.conns with
  | nil =>
      rw [conns, chain_nil] at chain
      rw [chain]
      exact ⟨st, by simp [beforeLast], tracked.congr (fun _ => rfl) rfl, rfl⟩
  | cons newest rest =>
      rw [conns] at chain enough
      have head := chain.1
      rw [head] at chain ⊢
      obtain ⟨before, walked, ends, more⟩ :=
        Chain.beforeLast none chain enough
      rw [walked, List.tail_cons]
      cases rest with
      | nil =>
          rw [ends rfl]
          exact ⟨st, rfl, tracked.congr (fun _ => rfl) rfl, rfl⟩
      | cons c rest =>
          obtain ⟨b, rfl, next⟩ := more (List.cons_ne_nil c rest)
          have last := List.getLast?_eq_some_getLast (List.cons_ne_nil c rest)
          dsimp only
          rw [next, last]
          rw [← conns] at enough
          exact extHttpConnCloseOrAbort_spec tracked enough _ _ true

/-! ### Allocation -/

/-- A new connection in front. -/
theorem enlist_spec (tracked : st.Tracked) (p : PcbId) {c : ConnId}
    (fresh : (st.server.mem c).live = false) :
    (st.enlist p c).Tracked ∧ (st.enlist p c).made = st.made + 1 ∧
      ∀ d, (st.enlist p c).Live d ↔ st.Live d ∨ d = c := by
  have unlisted : c ∉ st.server.conns := by
    intro mem
    have live := (tracked.live_iff c).mpr mem
    rw [Live, fresh] at live
    cases live
  have conns : (st.enlist p c).server.conns = c :: st.server.conns := by
    simp [enlist, addConnection, Server.addConnection]
  have lives : ∀ d, (st.enlist p c).Live d ↔ st.Live d ∨ d = c := by
    intro d
    by_cases same : d = c
    · subst same
      simp [Live, enlist, addConnection, Server.addConnection]
    · simp [Live, enlist, addConnection, Server.addConnection, same]
  have births : (st.enlist p c).births c = st.made := by simp [enlist, addConnection]
  have kept : ∀ d ∈ st.server.conns, (st.enlist p c).births d = st.births d := by
    intro d mem
    refine Function.update_of_ne ?_ _ _
    rintro rfl
    exact unlisted mem
  refine ⟨⟨⟨?_, ?_, ?_, ?_⟩, ?_, ?_⟩, rfl, lives⟩
  · rw [conns]
    refine Chain.push (tracked.chain.congr fun d mem => Function.update_of_ne ?_ _ _) unlisted
    rintro rfl
    exact unlisted mem
  · rw [conns]
    exact List.nodup_cons.mpr ⟨unlisted, tracked.nodup⟩
  · intro d
    rw [conns, List.mem_cons, lives d, tracked.live_iff d]
    exact or_comm
  · rw [conns]
    refine List.pairwise_cons.mpr ⟨?_, ?_⟩
    · intro d mem
      rw [births, kept d mem]
      exact tracked.born d mem
    · refine tracked.newest_first.imp_of_mem ?_
      intro d e memD memE older
      rw [kept d memD, kept e memE]
      exact older
  · intro d mem
    rw [conns] at mem
    rcases List.mem_cons.mp mem with rfl | older
    · rw [births]
      exact Nat.lt_succ_self _
    · rw [kept d older]
      exact (tracked.born d older).trans (Nat.lt_succ_self _)
  · rw [conns]
    exact Nat.succ_le_succ tracked.counted

/-- An allocation that succeeds at once evicts nothing; another one evicts first. -/
theorem extHttpConnAlloc_spec (tracked : st.Tracked) (enough : st.server.conns.length ≤ bound)
    (p : PcbId) (first second : Option ConnId) :
    ∃ st' block, st.extHttpConnAlloc bound p first second = some (st', block) ∧ st'.Tracked ∧
      st'.made ≤ st.made + 1 ∧
      (st'.server, block) = st.server.extHttpConnAlloc p first second ∧
      ∃ gone, (st.server.malloc first = none → gone = st.server.conns.tail.getLast?) ∧
        ∀ d, st'.Live d ↔ (st.Live d ∧ some d ≠ gone) ∨ block = some d := by
  unfold extHttpConnAlloc Server.extHttpConnAlloc
  cases found : st.server.malloc first with
  | some c =>
      obtain ⟨tracked', made, lives⟩ := enlist_spec tracked p (Server.malloc_eq_some found)
      refine ⟨_, _, rfl, tracked', made.le, rfl, none, ?_, ?_⟩
      · intro failed
        cases failed
      intro d
      simp [lives d, eq_comm]
  | none =>
      obtain ⟨st', killed, without, server⟩ := killOldestConnection_spec tracked enough
      rw [killed, ← server]
      dsimp only [Option.map_some]
      cases found' : st'.server.malloc second with
      | some c =>
          obtain ⟨tracked', made, lives⟩ :=
            enlist_spec without.tracked p (Server.malloc_eq_some found')
          rw [without.made] at made
          refine ⟨_, _, rfl, tracked', made.le, rfl, _, fun _ => rfl, ?_⟩
          intro d
          rw [lives d, without.live_iff d]
          simp [eq_comm]
      | none =>
          refine ⟨_, _, rfl, without.tracked, ?_, rfl, _, fun _ => rfl, ?_⟩
          · rw [without.made]
            exact Nat.le_succ _
          · intro d
            rw [without.live_iff d]
            simp

/-! ### Runs -/

theorem extHttpAccept_spec (tracked : st.Tracked) (enough : st.server.conns.length ≤ bound)
    (p : PcbId) (first second : Option ConnId) :
    ∃ st', st.extHttpAccept bound p first second = some st' ∧ st'.Tracked ∧
      st'.made ≤ st.made + 1 ∧ st'.server = st.server.extHttpAccept p false first second := by
  obtain ⟨st', block, allocated, tracked', made, server, -⟩ :=
    extHttpConnAlloc_spec tracked enough p first second
  unfold extHttpAccept Server.extHttpAccept
  rw [allocated, ← server]
  cases block with
  | none => exact ⟨st', rfl, tracked', made, rfl⟩
  | some c =>
      dsimp only [Option.map_some]
      refine ⟨_, rfl, (tracked'.congr ?_ ?_).tracked, made, rfl⟩
      · exact fun _ => rfl
      · rfl

theorem extHttpErr_spec (tracked : st.Tracked) (enough : st.server.conns.length ≤ bound)
    (p : PcbId) :
    ∃ st', st.extHttpErr bound p = some st' ∧ st'.Tracked ∧ st'.made = st.made ∧
      st'.server = st.server.extHttpErr p := by
  have reset := tracked.congr (s := st.server.resetCallbacks p) (fun _ => rfl) rfl
  unfold extHttpErr Server.extHttpErr
  cases (st.server.pcbs p).arg with
  | none => exact ⟨_, rfl, reset.tracked, rfl, rfl⟩
  | some c =>
      obtain ⟨st', freed, without, server⟩ := extHttpConnFree_spec reset.tracked enough c
      exact ⟨st', freed, without.tracked, without.made, server⟩

/-- One operation keeps the list, and does to the server what `Server` says. -/
theorem step_spec (tracked : st.Tracked) (enough : st.server.conns.length ≤ bound)
    (op : ConnOp) :
    ∃ st', st.step bound op = some st' ∧ st'.Tracked ∧ st'.made ≤ st.made + 1 ∧
      st'.server = op.apply st.server := by
  cases op with
  | accept p first second => exact extHttpAccept_spec tracked enough p first second
  | free c =>
      obtain ⟨st', freed, without, server⟩ := extHttpConnFree_spec tracked enough c
      exact ⟨st', freed, without.tracked, without.made.le.trans (Nat.le_succ _), server⟩
  | close conn p abort =>
      obtain ⟨st', closed, without, server⟩ :=
        extHttpConnCloseOrAbort_spec tracked enough conn p abort
      exact ⟨st', closed, without.tracked, without.made.le.trans (Nat.le_succ _), server⟩
  | err p =>
      obtain ⟨st', freed, tracked', made, server⟩ := extHttpErr_spec tracked enough p
      exact ⟨st', freed, tracked', made.le.trans (Nat.le_succ _), server⟩
  | work c f =>
      refine ⟨_, rfl, (tracked.congr ?_ ?_).tracked, Nat.le_succ _, rfl⟩
      · exact fun d => Server.onConn_live st.server c _ d
      · exact Server.onConn_conns st.server c _
  | answers env =>
      refine ⟨_, rfl, (tracked.congr ?_ ?_).tracked, Nat.le_succ _, rfl⟩
      · exact fun _ => rfl
      · rfl
  | reuse c link =>
      refine ⟨_, rfl, ?_, ?_, ?_⟩
      all_goals split_ifs with live
      · exact tracked
      · obtain ⟨⟨chain, nodup, live_iff, newest_first⟩, born, counted⟩ := tracked
        refine ⟨⟨chain.congr fun d mem => Function.update_of_ne ?_ _ _, nodup, live_iff,
          newest_first⟩, born, counted⟩
        rintro rfl
        exact live ((live_iff d).mpr mem)
      · exact Nat.le_succ _
      · exact Nat.le_succ _
      · rfl
      · rfl

/-- The operations in turn. -/
def run (bound : Nat) : Linked → List ConnOp → Option Linked
  | st, [] => some st
  | st, op :: ops => (st.step bound op).bind fun st => run bound st ops

/-- No loop of a run exceeds its bound, and the server is the one of `Server`. -/
theorem run_spec (tracked : st.Tracked) {ops : List ConnOp}
    (enough : st.made + ops.length ≤ bound) :
    ∃ st', run bound st ops = some st' ∧ st'.Tracked ∧ st'.made ≤ st.made + ops.length ∧
      st'.server = ops.foldl ConnOp.apply st.server := by
  induction ops generalizing st with
  | nil => exact ⟨st, rfl, tracked, Nat.le_refl _, rfl⟩
  | cons op ops ih =>
      rw [List.length_cons] at enough
      have short : st.server.conns.length ≤ bound := tracked.counted.trans (by omega)
      obtain ⟨st', stepped, tracked', made, server⟩ := step_spec tracked short op
      obtain ⟨st'', ran, tracked'', made', server'⟩ := ih tracked' (by omega)
      refine ⟨st'', ?_, tracked'', ?_, ?_⟩
      · rw [run, stepped]
        exact ran
      · rw [List.length_cons]
        omega
      · rw [server', server]
        rfl

end Removal

theorem tracked_start : ({} : Linked).Tracked := by
  refine ⟨⟨rfl, List.nodup_nil, ?_, List.Pairwise.nil⟩, ?_, Nat.le_refl _⟩
  · intro c
    simp [Live]
  · intro c mem
    cases mem

/-- **The list of connections.** After any operations the pointers lead through all live
connections and no others, the newest first, up to NULL. An allocation that finds no memory
while two connections are live takes the oldest from them, and no other. -/
theorem connections_listed (ops : List ConnOp) {bound : Nat} (enough : ops.length ≤ bound) :
    ∃ st l, run bound {} ops = some st ∧ st.Listed l ∧
      ∀ a b, st.Live a → st.Live b → a ≠ b → ∀ p first second, st.server.malloc first = none →
        ∃ oldest st' block, st.Oldest oldest ∧
          st.extHttpConnAlloc bound p first second = some (st', block) ∧
          ∀ d, st'.Live d ↔ (st.Live d ∧ d ≠ oldest) ∨ block = some d := by
  have started : ({} : Linked).made + ops.length ≤ bound := by simpa using enough
  obtain ⟨st, ran, tracked, made, -⟩ := run_spec tracked_start started
  have short : st.server.conns.length ≤ bound :=
    tracked.counted.trans (made.trans started)
  refine ⟨st, st.server.conns, ran, tracked.toListed, ?_⟩
  intro a b liveA liveB different p first second failed
  obtain ⟨st', block, allocated, -, -, -, gone, evicted, lives⟩ :=
    extHttpConnAlloc_spec tracked short p first second
  have memA := (tracked.live_iff a).mp liveA
  have memB := (tracked.live_iff b).mp liveB
  -- two members make a tail
  obtain ⟨oldest, last⟩ : ∃ oldest, st.server.conns.tail.getLast? = some oldest := by
    cases conns : st.server.conns with
    | nil => simp [conns] at memA
    | cons newest rest =>
        cases rest with
        | nil =>
            rw [conns, List.mem_singleton] at memA memB
            exact absurd (memA.trans memB.symm) different
        | cons c rest => exact ⟨_, List.getLast?_eq_some_getLast (List.cons_ne_nil c rest)⟩
  have whole : st.server.conns.getLast? = some oldest := by
    cases conns : st.server.conns with
    | nil => simp [conns] at last
    | cons newest rest =>
        rw [conns, List.tail_cons] at last
        rw [List.getLast?_cons, last]
        rfl
  refine ⟨oldest, st', block, tracked.oldest whole, allocated, ?_⟩
  intro d
  rw [lives d, evicted failed, last]
  simp

/-- Two connections, the older one evicted for a third that gets its block, and the first of
the list reset. -/
def sampleOps : List ConnOp :=
  [.accept 7 (some 1) none, .accept 8 (some 2) none, .reuse 5 (some 2), .accept 9 none (some 1),
    .err 9]

theorem connections_listed_sample :
    sampleOps.length ≤ 5 ∧
      (run 5 {} (sampleOps.take 4)).map (fun st => st.server.conns) = some [1, 2] ∧
      (run 5 {} sampleOps).map (fun st => st.server.conns) = some [2] ∧
      ∃ st l, run 5 {} sampleOps = some st ∧ st.Listed l ∧
        ∀ a b, st.Live a → st.Live b → a ≠ b → ∀ p first second, st.server.malloc first = none →
          ∃ oldest st' block, st.Oldest oldest ∧
            st.extHttpConnAlloc 5 p first second = some (st', block) ∧
            ∀ d, st'.Live d ↔ (st.Live d ∧ d ≠ oldest) ∨ block = some d :=
  ⟨by decide, by decide +kernel, by decide +kernel, connections_listed sampleOps (by decide)⟩

end Linked

end LwipExt.Http
