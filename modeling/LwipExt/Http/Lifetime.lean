import LwipExt.Http.Main
import LwipExt.Http.RestResponse
import LwipExt.Lib.Registry

/-!
The lifetime of connections: which runs of the server never use a connection after it
was freed, and never a NULL connection.

The connections of a server are a `Lib.Registry`, and every callback keeps it sound
(`step_sound`): a callback that is registered with an argument gets a live
connection. What goes wrong goes wrong within a callback, behind the call that frees
the connection, and in a poll callback that was registered without an argument.
`Safe` says when a callback does neither, and `lifetimes_respected_iff` that the runs
made of such callbacks are the good ones.
-/

namespace LwipExt.Http

open Lib (Registry)

namespace Server

/-- The connections of a server and what its pcbs pass to their callbacks. -/
def registry (s : Server) : Registry ConnId PcbId where
  live c := (s.mem c).live
  home c := (s.mem c).pcb
  listed := s.conns
  arg p := (s.pcbs p).arg
  heard p := (s.pcbs p).registered
  polled p := (s.pcbs p).poll

/-! ### The registry under each operation -/

section Registry

variable (s : Server) (c : ConnId) (p : PcbId)

theorem registry_congr {s s' : Server} (live : ∀ c, (s'.mem c).live = (s.mem c).live)
    (pcb : ∀ c, (s'.mem c).pcb = (s.mem c).pcb) (conns : s'.conns = s.conns)
    (pcbs : ∀ p, (s'.pcbs p).arg = (s.pcbs p).arg ∧
      (s'.pcbs p).registered = (s.pcbs p).registered ∧ (s'.pcbs p).poll = (s.pcbs p).poll) :
    s'.registry = s.registry := by
  simp only [registry, live, pcb, conns, pcbs]

@[simp] theorem touch_registry : (s.touch c).registry = s.registry := by
  simp [registry]

@[simp] theorem store_registry (ss : Session) : (s.store c ss).registry = s.registry := by
  refine registry_congr (store_live s c ss) ?_ rfl ?_
  · intro d
    by_cases same : d = c
    · subst same
      simp
    · simp [store, Function.update_of_ne same]
  · intro q
    by_cases here : q = (s.mem c).pcb
    · subst here
      simp [store]
    · simp [store, Function.update_of_ne here]

@[simp] theorem onConn_registry {α : Type} (f : Session → Session × α) :
    (s.onConn c f).1.registry = s.registry := by
  simp [onConn]

@[simp] theorem assign_registry (g : ExtHttpConn → ExtHttpConn) :
    (s.assign c g).registry = s.registry := by
  simp [assign]

@[simp] theorem arm_registry (env : Env) : (s.arm env).registry = s.registry := rfl

theorem removeConnection_conns : (s.removeConnection c).conns = s.conns.erase c := by
  obtain ⟨_, conns, _⟩ := foldl_touch_frame s (s.conns.takeWhile (· ≠ c))
  unfold removeConnection
  dsimp only
  split_ifs with mem
  · rw [touch_conns, conns]
  · rw [conns] at mem ⊢
    exact (List.erase_of_not_mem mem).symm

theorem extHttpConnFree_registry :
    (s.extHttpConnFree c).registry = s.registry.release c := by
  set t := s.assign c fun mhc => { mhc with handle := none, req := none } with t_eq
  obtain ⟨mem, pcbs, _, _⟩ := removeConnection_frame t c
  have before : t.registry = s.registry := assign_registry s c _
  rw [← before]
  have conns := removeConnection_conns t c
  simp only [extHttpConnFree, ← t_eq, registry, Registry.release, mem, pcbs, conns]
  congr 1
  · funext d
    by_cases same : d = c
    · subst same
      simp
    · simp [same]
  · funext d
    by_cases same : d = c
    · subst same
      simp
    · simp [same]

theorem setPcb_registry {h : Pcb → Pcb} :
    (s.setPcb p h).registry =
      { s.registry with
        arg := Function.update s.registry.arg p (h (s.pcbs p)).arg
        heard := Function.update s.registry.heard p (h (s.pcbs p)).registered
        polled := Function.update s.registry.polled p (h (s.pcbs p)).poll } := by
  simp only [setPcb, registry]
  congr 1 <;>
  · funext q
    by_cases here : q = p
    · subst here
      simp
    · simp [here]

theorem resetCallbacks_registry :
    (s.resetCallbacks p).registry = s.registry.reset p false :=
  setPcb_registry s p

/-- `tcp_close` may leave the poll callback registered. -/
theorem tcpClose_registry (quiet : s.registry.polled p = false) :
    ∃ timer, (s.tcpClose p).registry =
      { s.registry with polled := Function.update s.registry.polled p timer } := by
  unfold tcpClose
  dsimp only
  split_ifs with ok
  · refine ⟨false, ?_⟩
    rw [← quiet, Function.update_eq_self]
    rfl
  · refine ⟨true, ?_⟩
    rw [setPcb_registry]
    simp [registry]

/-- Closing a connection releases it and resets its pcb. -/
theorem extHttpConnCloseOrAbort_registry (abort : Bool) :
    ∃ timer, (s.extHttpConnCloseOrAbort (some c) p abort).registry =
      s.registry.closed c p timer := by
  set t := ((s.onConn c fun ss => (finishBeforeClose ss, ())).1.resetCallbacks p).extHttpConnFree c
    with t_eq
  have freed : t.registry = s.registry.closed c p false := by
    rw [t_eq, extHttpConnFree_registry, resetCallbacks_registry, onConn_registry]
    rfl
  have quiet : t.registry.polled p = false := by
    rw [freed]
    simp [Registry.closed, Registry.reset]
  simp only [extHttpConnCloseOrAbort, ← t_eq]
  split_ifs
  · exact ⟨false, freed⟩
  · obtain ⟨timer, eq⟩ := tcpClose_registry t p quiet
    refine ⟨timer, ?_⟩
    rw [eq, freed]
    simp [Registry.closed, Registry.reset]

/-- Closing without a connection resets the pcb. -/
theorem extHttpConnClose_none_registry :
    ∃ timer, (s.extHttpConnClose none p).registry = s.registry.reset p timer := by
  set t := ({ s with faults := s.faults ++ [Fault.nullConn] } : Server).resetCallbacks p with t_eq
  have reset : t.registry = s.registry.reset p false := resetCallbacks_registry _ p
  have quiet : t.registry.polled p = false := by
    rw [reset]
    simp [Registry.reset]
  obtain ⟨timer, eq⟩ := tcpClose_registry t p quiet
  refine ⟨timer, ?_⟩
  simp only [extHttpConnClose, extHttpConnCloseOrAbort, Bool.false_eq_true, if_false, ← t_eq]
  rw [eq, reset]
  simp [Registry.reset]

end Registry

/-! ### The faults of closing -/

section Closing

variable (s : Server) (c : ConnId) (p : PcbId)

/-- Every listed connection is live. -/
def Listed (s : Server) : Prop := ∀ d ∈ s.conns, (s.mem d).live

theorem listed_of_sound {s : Server} (sound : s.registry.Sound) : s.Listed :=
  fun d mem => (sound.live_iff d).mpr mem

theorem touch_faults_of_dead (dead : (s.mem c).live = false) :
    (s.touch c).faults = s.faults ++ [.useAfterFree c] := by
  simp [touch, dead]

theorem assign_faults_of_dead (dead : (s.mem c).live = false) (g : ExtHttpConn → ExtHttpConn) :
    (s.assign c g).faults = s.faults ++ [.useAfterFree c] := by
  simp [assign, onConn, touch_faults_of_dead s c dead]

theorem assign_faults_of_live (live : (s.mem c).live) (g : ExtHttpConn → ExtHttpConn) :
    (s.assign c g).faults = s.faults :=
  onConn_faults s c _ live

/-- Freeing a live connection of a list of live connections. -/
theorem extHttpConnFree_faults (listed : s.Listed) (live : (s.mem c).live) :
    (s.extHttpConnFree c).faults = s.faults := by
  set t := s.assign c fun mhc => { mhc with handle := none, req := none } with t_eq
  have same : t.faults = s.faults := assign_faults_of_live s c live _
  have live' : (t.mem c).live := by simpa [t_eq] using live
  have listed' : ∀ d ∈ t.conns.takeWhile (· ≠ c), (t.mem d).live := by
    intro d mem
    have inList : d ∈ s.conns := by simpa [t_eq, assign] using
      (List.takeWhile_sublist _).subset mem
    simpa [t_eq] using listed d inList
  have walked : t.removeConnection c = { t with conns := t.conns.erase c } := by
    unfold removeConnection
    dsimp only
    rw [foldl_touch_of_live t listed', touch_of_live t c live']
    split_ifs with mem
    · rfl
    · rw [List.erase_of_not_mem mem]
  simp only [extHttpConnFree, ← t_eq, walked, same]

theorem extHttpConnCloseOrAbort_faults (listed : s.Listed) (live : (s.mem c).live) (abort : Bool) :
    (s.extHttpConnCloseOrAbort (some c) p abort).faults = s.faults := by
  set t := (s.onConn c fun ss => (finishBeforeClose ss, ())).1 with t_eq
  have same : t.faults = s.faults := onConn_faults s c _ live
  have listed' : (t.resetCallbacks p).Listed := by
    intro d mem
    have inList : d ∈ s.conns := by simpa [resetCallbacks, setPcb, t_eq] using mem
    simpa [resetCallbacks, setPcb, t_eq] using listed d inList
  have live' : ((t.resetCallbacks p).mem c).live := by
    simpa [resetCallbacks, setPcb, t_eq] using live
  have freed := extHttpConnFree_faults (t.resetCallbacks p) c listed' live'
  have reset : (t.resetCallbacks p).faults = t.faults := rfl
  simp only [extHttpConnCloseOrAbort, ← t_eq]
  split_ifs <;> simp [freed, reset, same]

/-- A connection that is ended is freed, without a fault. -/
theorem extHttpConnEof_spec (listed : s.Listed) (live : (s.mem c).live) :
    (s.extHttpConnEof c).faults = s.faults ∧
      ∃ timer, (s.extHttpConnEof c).registry = s.registry.closed c (s.mem c).pcb timer := by
  simp only [extHttpConnEof, touch_of_live s c live]
  exact ⟨extHttpConnCloseOrAbort_faults s c _ listed live false,
    extHttpConnCloseOrAbort_registry s c _ false⟩

end Closing

end Server

/-! ### Which calls of `extHttpSend` are safe -/

/-- The call of `extHttpSend` does not finish a CGI page or the upload result page:
TCP does not take all that is left of it. -/
def SendSafe (ss : Session) : Prop :=
  match ss.mhc.reqType with
  | .cgi =>
      (ss.io.tcp.taken (sub16 ss.mhc.contentLength ss.mhc.dataSendIndex) : Int) <
        (ss.mhc.contentLength : Int) - ss.mhc.dataSendIndex
  | .upload =>
      1 ≤ ss.mhc.uploadStatus.rank → 0 < sub16 ss.mhc.updateLength ss.mhc.updateIndex →
        (ss.io.tcp.taken (sub16 ss.mhc.updateLength ss.mhc.updateIndex) : Int) <
          (ss.mhc.updateLength : Int) - ss.mhc.updateIndex
  | _ => True

/-- The call of `extHttpSend` finishes a REST response. -/
def RestCompletes (ss : Session) : Prop :=
  let mhc := ss.mhc
  let tcp := (if mhc.dataSendIndex = 0 then
    headerTakes mhc.httpStatusCode mhc.contentLength ss.io.tcp else ([], ss.io.tcp)).2
  let rest := sub16 mhc.contentLength mhc.dataSendIndex
  mhc.reqType = .rest ∧ mhc.isFinished ∧ mhc.contentLength ≠ mhc.dataSendIndex ∧
    mhc.contentLength ≠ 0 ∧ (tcp.offer rest).1 = .ok ∧
    mhc.contentLength = u16 (mhc.dataSendIndex + tcp.taken rest)

instance (ss : Session) : Decidable (SendSafe ss) := by
  unfold SendSafe
  split <;> infer_instance

instance (ss : Session) : Decidable (RestCompletes ss) :=
  inferInstanceAs (Decidable (_ ∧ _ ∧ _ ∧ _ ∧ _ ∧ _))

/-- The REST data of a call is complete exactly when TCP takes the rest of it. -/
theorem sendRestData_completes (ss : Session) (isRest : ss.mhc.reqType = .rest)
    (finished : ss.mhc.isFinished)
    (pending : ¬ (ss.mhc.contentLength = ss.mhc.dataSendIndex ∨ ss.mhc.contentLength = 0)) :
    ((sendRestData ss).2 = true ∧
        (sendRestData ss).1.mhc.contentLength = (sendRestData ss).1.mhc.dataSendIndex) ↔
      RestCompletes ss := by
  obtain ⟨moved, nonempty⟩ := not_or.mp pending
  set here := if ss.mhc.dataSendIndex = 0 then
    headerTakes ss.mhc.httpStatusCode ss.mhc.contentLength ss.io.tcp else ([], ss.io.tcp)
    with here_eq
  have headers : (if ss.mhc.dataSendIndex = 0 then sendRestHeaders ss else ss) =
      ss.took here.2 here.1.flatten := by
    rw [here_eq]
    split_ifs
    · rw [sendRestHeaders_eq]
    · simp [Session.took]
  have completes : RestCompletes ss ↔
      (here.2.offer (sub16 ss.mhc.contentLength ss.mhc.dataSendIndex)).1 = .ok ∧
        ss.mhc.contentLength = u16 (ss.mhc.dataSendIndex +
          here.2.taken (sub16 ss.mhc.contentLength ss.mhc.dataSendIndex)) := by
    simp only [RestCompletes, isRest, finished, moved, nonempty, true_and, ne_eq,
      not_false_eq_true, here_eq]
  rw [completes, sendRestData, headers]
  simp only [sendRestBody, Session.took, extHttpWrite_err, extHttpWrite_len]
  by_cases ok : (here.2.offer (sub16 ss.mhc.contentLength ss.mhc.dataSendIndex)).1 = .ok
  · simp only [ok, if_true, true_and, Session.set_mhc, extHttpWrite_mhc]
  · simp only [ok, if_false, Bool.false_eq_true, false_and]

/-! ### The effect of a call of `extHttpSend` -/

namespace Server

/-- What a call of `extHttpSend` on a live connection does to it: nothing, or it ends
it. It makes a fault exactly when it is not safe, and only the end of a REST response is
reported as data to send. -/
structure SendEffect (s : Server) (c : ConnId) (r : Server × Nat) : Prop where
  registry : r.1.registry = s.registry ∨
    ∃ timer, r.1.registry = s.registry.closed c (s.mem c).pcb timer
  faults : ∃ new, r.1.faults = s.faults ++ new ∧ (new = [] ↔ SendSafe (s.session c))
  reported : SendSafe (s.session c) →
    (r.2 ≠ noDataToSend ∧ (r.1.mem c).live = false ↔ RestCompletes (s.session c))

section Effect

variable {s t : Server} {c : ConnId} {ret : Nat}

theorem live_of_registry (same : t.registry = s.registry) (live : (s.mem c).live) :
    (t.mem c).live := by
  have := congrArg (fun r : Registry ConnId PcbId => r.live c) same
  exact this.trans live

theorem listed_of_registry (same : t.registry = s.registry) (listed : s.Listed) : t.Listed := by
  intro d mem
  have conns : t.conns = s.conns := congrArg (fun r : Registry ConnId PcbId => r.listed) same
  exact live_of_registry same (listed d (conns ▸ mem))

theorem pcb_of_registry (same : t.registry = s.registry) : (t.mem c).pcb = (s.mem c).pcb :=
  congrArg (fun r : Registry ConnId PcbId => r.home c) same

/-- The connection stays open. -/
theorem SendEffect.goesOn {r : Server × Nat} (live : (s.mem c).live)
    (same : r.1.registry = s.registry) (faults : r.1.faults = s.faults)
    (safe : SendSafe (s.session c)) (more : ¬ RestCompletes (s.session c)) :
    SendEffect s c r where
  registry := .inl same
  faults := ⟨[], by simp [faults], by simp [safe]⟩
  reported := by
    intro _
    simp [live_of_registry same live, more]

/-- The connection is ended by the last statement of the call. -/
theorem SendEffect.ends (listed : s.Listed) (live : (s.mem c).live)
    (same : t.registry = s.registry) (faults : t.faults = s.faults)
    (safe : SendSafe (s.session c))
    (reported : ret ≠ noDataToSend ↔ RestCompletes (s.session c)) :
    SendEffect s c (t.extHttpConnEof c, ret) := by
  obtain ⟨clean, timer, closed⟩ :=
    extHttpConnEof_spec t c (listed_of_registry same listed) (live_of_registry same live)
  refine ⟨.inr ⟨timer, ?_⟩, ⟨[], ?_, by simp [safe]⟩, ?_⟩
  · rw [closed, same, pcb_of_registry same]
  · rw [clean, faults, List.append_nil]
  · intro _
    simpa using reported

/-- A field of the connection is assigned behind its end. -/
theorem SendEffect.writes (listed : s.Listed) (live : (s.mem c).live)
    (same : t.registry = s.registry) (faults : t.faults = s.faults)
    (unsafeCall : ¬ SendSafe (s.session c)) (g : ExtHttpConn → ExtHttpConn) :
    SendEffect s c ((t.extHttpConnEof c).assign c g, ret) := by
  obtain ⟨clean, timer, closed⟩ :=
    extHttpConnEof_spec t c (listed_of_registry same listed) (live_of_registry same live)
  refine ⟨.inr ⟨timer, ?_⟩, ⟨[.useAfterFree c], ?_, by simp [unsafeCall]⟩, ?_⟩
  · rw [assign_registry, closed, same, pcb_of_registry same]
  · rw [assign_faults_of_dead _ _ (extHttpConnEof_live t c), clean, faults]
  · exact fun safe => absurd safe unsafeCall

/-- Only a REST response completes as one. -/
theorem not_restCompletes {ss : Session} (other : ss.mhc.reqType ≠ .rest) : ¬ RestCompletes ss :=
  fun completes => other completes.1

theorem mHttpSendFile_effect (listed : s.Listed) (live : (s.mem c).live)
    (isFile : (s.mem c).conn.reqType = .file) : SendEffect s c (s.mHttpSendFile c) := by
  have safe : SendSafe (s.session c) := by simp [SendSafe, isFile]
  have notRest : ¬ RestCompletes (s.session c) := not_restCompletes (by simp [isFile])
  have ended : SendEffect s c (s.extHttpConnEof c, noDataToSend) :=
    .ends listed live rfl rfl safe (by simp [notRest])
  have sent : SendEffect s c
      (let r := s.onConn c sendFileData
       let t := r.1.touch c
       let bytesLeft := ((t.mem c).conn.handle.map mfsBytesLeft).getD 0
       if (t.mem c).conn.left = 0 ∧ bytesLeft ≤ 0 then (t.extHttpConnEof c, noDataToSend)
       else (t, r.2)) := by
    have live' : ((s.onConn c sendFileData).1.mem c).live := by simpa using live
    have same := onConn_registry s c sendFileData
    have faults := onConn_faults s c sendFileData live
    generalize s.onConn c sendFileData = r at live' same faults ⊢
    dsimp only
    rw [touch_of_live _ c live']
    split_ifs
    · exact .ends listed live same faults safe (by simp [notRest])
    · exact .goesOn live same faults safe notRest
  unfold mHttpSendFile extHttpSendCheckEof
  rw [touch_of_live s c live]
  dsimp only
  by_cases empty : (s.mem c).conn.left = 0
  · rw [if_pos empty, touch_of_live s c live]
    cases (s.mem c).conn.handle with
    | none =>
        simp only [Bool.false_eq_true, if_false]
        exact ended
    | some file =>
        by_cases atEnd : mfsBytesLeft file ≤ 0
        · simp only [atEnd, if_true, Bool.false_eq_true, if_false]
          exact ended
        · simp only [atEnd, if_true, if_false]
          exact sent
  · rw [if_neg empty]
    exact sent

theorem mHttpSendRest_effect (listed : s.Listed) (live : (s.mem c).live)
    (isRest : (s.mem c).conn.reqType = .rest) (finished : (s.mem c).conn.isFinished) :
    SendEffect s c (let r := s.mHttpSendRest c
      (r.1, if r.2 then dataToSendContinue else noDataToSend)) := by
  have safe : SendSafe (s.session c) := by simp [SendSafe, isRest]
  unfold mHttpSendRest
  dsimp only
  rw [touch_of_live s c live]
  by_cases pending : (s.mem c).conn.contentLength = (s.mem c).conn.dataSendIndex ∨
      (s.mem c).conn.contentLength = 0
  · rw [if_pos pending]
    refine .goesOn live rfl rfl safe ?_
    rintro ⟨_, _, moved, nonempty, _⟩
    exact pending.elim moved nonempty
  · rw [if_neg pending]
    have completes := sendRestData_completes (s.session c) isRest finished pending
    have live' : ((s.onConn c sendRestData).1.mem c).live := by simpa using live
    have faults : (s.onConn c sendRestData).1.faults = s.faults := onConn_faults s c _ live
    have same := onConn_registry s c sendRestData
    cases success : (sendRestData (s.session c)).2 with
    | false =>
        simp only [onConn_snd, success, Bool.false_eq_true, if_false]
        exact .goesOn live same faults safe (by simp [← completes, success])
    | true =>
        simp only [onConn_snd, success, if_true, touch_of_live _ c live', onConn_conn]
        by_cases complete : (sendRestData (s.session c)).1.mhc.contentLength =
            (sendRestData (s.session c)).1.mhc.dataSendIndex
        · simp only [complete, if_true]
          refine .ends listed live same faults safe (iff_of_true (by decide) ?_)
          exact completes.mp ⟨success, complete⟩
        · simp only [complete, if_false, if_true]
          exact .goesOn live same faults safe (by simp [← completes, complete])

theorem sendWebSocket_effect (live : (s.mem c).live)
    (isSocket : (s.mem c).conn.reqType = .webSocket) : SendEffect s c (s.sendWebSocket c) := by
  have safe : SendSafe (s.session c) := by simp [SendSafe, isSocket]
  have notRest : ¬ RestCompletes (s.session c) := not_restCompletes (by simp [isSocket])
  unfold sendWebSocket
  dsimp only
  rw [touch_of_live s c live]
  split_ifs
  · exact .goesOn live (onConn_registry s c _) (onConn_faults s c _ live) safe notRest
  · exact .goesOn live rfl rfl safe notRest

theorem sendCgi_effect (listed : s.Listed) (live : (s.mem c).live)
    (isCgi : (s.mem c).conn.reqType = .cgi) : SendEffect s c (s.sendCgi c) := by
  have safe_iff : SendSafe (s.session c) ↔
      ((s.session c).io.tcp.taken
        (sub16 (s.mem c).conn.contentLength (s.mem c).conn.dataSendIndex) : Int) <
          ((s.mem c).conn.contentLength : Int) - (s.mem c).conn.dataSendIndex := by
    simp [SendSafe, isCgi]
  have notRest : ¬ RestCompletes (s.session c) := not_restCompletes (by simp [isCgi])
  unfold sendCgi
  dsimp only
  rw [touch_of_live s c live]
  simp only [onConn_snd, writeSome, extHttpWrite_len]
  split_ifs with more
  · refine .goesOn live ?_ ?_ (safe_iff.mpr more) notRest
    · simp
    · rw [assign_faults_of_live _ c (by simpa using live), onConn_faults s c _ live]
  · exact .writes listed live (onConn_registry s c _) (onConn_faults s c _ live)
      (fun safe => more (safe_iff.mp safe)) _

theorem sendUpload_effect (listed : s.Listed) (live : (s.mem c).live)
    (isUpload : (s.mem c).conn.reqType = .upload) (begun : 1 ≤ (s.mem c).conn.uploadStatus.rank) :
    SendEffect s c (s.sendUpload c) := by
  have notRest : ¬ RestCompletes (s.session c) := not_restCompletes (by simp [isUpload])
  have safe_iff : SendSafe (s.session c) ↔
      (0 < sub16 (s.mem c).conn.updateLength (s.mem c).conn.updateIndex →
        ((s.session c).io.tcp.taken
          (sub16 (s.mem c).conn.updateLength (s.mem c).conn.updateIndex) : Int) <
            ((s.mem c).conn.updateLength : Int) - (s.mem c).conn.updateIndex) := by
    simp [SendSafe, isUpload, begun]
  unfold sendUpload
  dsimp only
  rw [touch_of_live s c live]
  simp only [onConn_snd, writeSome, extHttpWrite_len]
  split_ifs with nonempty more
  · refine .goesOn live ?_ ?_ (safe_iff.mpr fun _ => more) notRest
    · simp
    · rw [assign_faults_of_live _ c (by simpa using live), onConn_faults s c _ live]
  · exact .writes listed live (onConn_registry s c _) (onConn_faults s c _ live)
      (fun safe => more (safe_iff.mp safe nonempty)) _
  · exact .goesOn live (assign_registry s c _) (assign_faults_of_live s c live _)
      (safe_iff.mpr fun nonempty' => absurd nonempty' nonempty) notRest

/-- Every call of `extHttpSend` on a live connection. -/
theorem extHttpSend_effect (listed : s.Listed) (live : (s.mem c).live) :
    SendEffect s c (s.extHttpSend c) := by
  unfold extHttpSend
  dsimp only
  rw [touch_of_live s c live]
  by_cases rest : (s.mem c).conn.reqType = .rest ∧ (s.mem c).conn.isFinished
  · rw [if_pos rest]
    exact mHttpSendRest_effect listed live rest.1 rest.2
  rw [if_neg rest]
  by_cases file : (s.mem c).conn.reqType = .file
  · rw [if_pos file]
    exact mHttpSendFile_effect listed live file
  rw [if_neg file]
  by_cases socket : (s.mem c).conn.reqType = .webSocket
  · rw [if_pos socket]
    exact sendWebSocket_effect live socket
  rw [if_neg socket]
  by_cases cgi : (s.mem c).conn.reqType = .cgi
  · rw [if_pos cgi]
    exact sendCgi_effect listed live cgi
  rw [if_neg cgi]
  by_cases upload : (s.mem c).conn.reqType = .upload ∧ 1 ≤ (s.mem c).conn.uploadStatus.rank
  · rw [if_pos upload]
    exact sendUpload_effect listed live upload.1 upload.2
  rw [if_neg upload]
  refine .goesOn live rfl rfl ?_ ?_
  · unfold SendSafe
    cases kind : (s.session c).mhc.reqType with
    | cgi => exact absurd kind cgi
    | upload => exact fun begun => absurd ⟨kind, begun⟩ upload
    | rest => trivial
    | file => trivial
    | webSocket => trivial
  · exact fun completes => rest ⟨completes.1, completes.2.1⟩

end Effect

end Server

/-! ### Which callbacks are safe -/

/-- A received segment makes no fault: on a websocket it is no close frame, and the
call of `extHttpSend` that a POST body or a complete request leads to is safe. -/
def SafeSegment (site : Site) (ss : Session) (segment : Pbuf) (stale : Bytes) : Prop :=
  if ss.mhc.reqType = .webSocket then ¬ IsCloseFrame segment
  else if 0 < ss.mhc.postDataLeft ∨ ss.mhc.method = .post then
    SendSafe (extHttpPostRxDataPbuf (ss.set fun mhc => { mhc with retries := 0 }) segment).1
  else if ss.mhc.handle.isNone then
    (extHttpRequestParse site ss segment stale).2 = .ok →
      SendSafe (extHttpRequestParse site ss segment stale).1
  else True

/-- A callback makes no fault. A poll callback needs an argument. -/
def SafeCallback (site : Site) (s : Server) : Callback → Prop
  | .recv p (some segment) false stale =>
      ∀ c ∈ (s.pcbs p).arg, SafeSegment site (s.session c) segment stale
  | .sent p => ∀ c ∈ (s.pcbs p).arg, SendSafe (s.session c)
  | .poll p =>
      ((s.pcbs p).poll → (s.pcbs p).arg.isSome) ∧
        ∀ c ∈ (s.pcbs p).arg,
          ((s.mem c).conn.retries + 1) % 256 ≠ maxRetries → SendSafe (s.session c)
  | .sendMore p =>
      ∀ c ∈ (s.pcbs p).arg, (s.mem c).conn.handle.isSome →
        SendSafe (s.session c) ∧ ¬ RestCompletes (s.session c)
  | _ => True

/-- The callback of an event makes no fault. -/
def Safe (site : Site) (s : Server) (e : Event) : Prop :=
  SafeCallback site (s.arm e.env) e.callback

namespace Server

/-- A callback keeps the registry sound, and makes a fault exactly when it is not
`safe`. -/
structure Delivered (s s' : Server) (safe : Prop) : Prop where
  sound : s'.registry.Sound
  faults : ∃ new, s'.faults = s.faults ++ new ∧ (new = [] ↔ safe)

section Deliver

variable {s t : Server} {c : ConnId} {p : PcbId}

theorem Delivered.quiet {safe : Prop} (sound : t.registry.Sound) (faults : t.faults = s.faults)
    (holds : safe) : Delivered s t safe :=
  ⟨sound, [], by simp [faults], by simp [holds]⟩

theorem Delivered.congr {safe safe' : Prop} (delivered : Delivered s t safe)
    (same : safe' ↔ safe) : Delivered s t safe' := by
  obtain ⟨sound, new, faults, clean⟩ := delivered
  exact ⟨sound, new, faults, clean.trans same.symm⟩

/-- The argument of a callback is a live connection, on the pcb that passes it. -/
theorem live_of_arg (sound : s.registry.Sound) (passed : (s.pcbs p).arg = some c) :
    (s.mem c).live ∧ (s.mem c).pcb = p :=
  sound.live_of_arg p c passed

/-- What a call of `extHttpSend` leaves is sound. -/
theorem SendEffect.sound {r : Server × Nat} (effect : SendEffect s c r)
    (sound : s.registry.Sound) (live : (s.mem c).live) : r.1.registry.Sound := by
  obtain same | ⟨timer, closed⟩ := effect.registry
  · rwa [same]
  · rw [closed]
    exact sound.closed live timer

/-- A callback that ends with a call of `extHttpSend`. -/
theorem extHttpSend_delivered (sound : s.registry.Sound) (live : (s.mem c).live)
    (same : t.registry = s.registry) (faults : t.faults = s.faults) :
    Delivered s (t.extHttpSend c).1 (SendSafe (t.session c)) := by
  have sound' : t.registry.Sound := same ▸ sound
  have live' := live_of_registry same live
  have effect := extHttpSend_effect (listed_of_sound sound') live'
  refine ⟨effect.sound sound' live', ?_⟩
  rw [← faults]
  exact effect.faults

/-- A callback that closes its connection. -/
theorem extHttpConnClose_delivered (sound : s.registry.Sound) (live : (s.mem c).live)
    (home : (s.mem c).pcb = p) (same : t.registry = s.registry) (faults : t.faults = s.faults) :
    Delivered s (t.extHttpConnClose (some c) p) True := by
  have sound' : t.registry.Sound := same ▸ sound
  have live' := live_of_registry same live
  have home' : t.registry.home c = p := (pcb_of_registry same).trans home
  have clean := extHttpConnCloseOrAbort_faults t c p (listed_of_sound sound') live' false
  obtain ⟨timer, closed⟩ := extHttpConnCloseOrAbort_registry t c p false
  refine .quiet ?_ (clean.trans faults) trivial
  rw [extHttpConnClose, closed, ← home']
  exact sound'.closed live' timer

theorem extHttpErr_delivered (sound : s.registry.Sound) (p : PcbId) :
    Delivered s (s.extHttpErr p) True := by
  unfold extHttpErr
  dsimp only
  cases passed : (s.pcbs p).arg with
  | none =>
      refine .quiet ?_ rfl trivial
      rw [resetCallbacks_registry]
      exact sound.reset passed false
  | some c =>
      obtain ⟨live, home⟩ := live_of_arg sound passed
      have listed := listed_of_sound sound
      refine .quiet ?_ ?_ trivial
      · rw [extHttpConnFree_registry, resetCallbacks_registry, ← home]
        exact sound.closed live false
      · exact extHttpConnFree_faults (s.resetCallbacks p) c listed live

theorem extHttpSent_delivered (sound : s.registry.Sound) (live : (s.mem c).live) :
    Delivered s (s.extHttpSent (some c)) (SendSafe (s.session c)) := by
  have delivered := extHttpSend_delivered sound live
    (assign_registry s c fun mhc => { mhc with retries := 0 }) (assign_faults_of_live s c live _)
  rw [assign_session] at delivered
  exact delivered

theorem extHttpPoll_delivered (sound : s.registry.Sound) (live : (s.mem c).live)
    (home : (s.mem c).pcb = p) :
    Delivered s (s.extHttpPoll (some c) p)
      (((s.mem c).conn.retries + 1) % 256 ≠ maxRetries → SendSafe (s.session c)) := by
  have same := assign_registry s c fun mhc => { mhc with retries := (mhc.retries + 1) % 256 }
  have faults := assign_faults_of_live s c live fun mhc =>
    { mhc with retries := (mhc.retries + 1) % 256 }
  unfold extHttpPoll
  simp only [assign_conn]
  split_ifs with tooMany
  · exact (extHttpConnClose_delivered sound live home same faults).congr (by simp [tooMany])
  · have delivered := extHttpSend_delivered sound live same faults
    rw [assign_session] at delivered
    exact delivered.congr (by simp [tooMany, SendSafe, Session.set])

/-- The poll callback of a pcb whose connection is gone. -/
theorem extHttpPoll_none_delivered (sound : s.registry.Sound) (passed : (s.pcbs p).arg = none) :
    Delivered s (s.extHttpPoll none p) False := by
  obtain ⟨timer, reset⟩ := extHttpConnClose_none_registry s p
  refine ⟨?_, [.nullConn], ?_, by simp⟩
  · rw [extHttpPoll, reset]
    exact sound.reset passed timer
  · simp [extHttpPoll, extHttpConnClose, extHttpConnCloseOrAbort, resetCallbacks, setPcb]

theorem extHttpContinue_delivered (sound : s.registry.Sound) (live : (s.mem c).live) :
    Delivered s (s.extHttpContinue (some c))
      ((s.mem c).conn.handle.isSome → SendSafe (s.session c) ∧ ¬ RestCompletes (s.session c)) := by
  unfold extHttpContinue
  simp only [touch_of_live s c live]
  by_cases opened : (s.mem c).conn.handle.isSome
  · rw [if_pos opened]
    have effect := extHttpSend_effect (listed_of_sound sound) live
    have sound' := effect.sound sound live
    obtain ⟨new, faults, clean⟩ := effect.faults
    have reported := effect.reported
    generalize s.extHttpSend c = r at sound' faults reported ⊢
    by_cases safe : SendSafe (s.session c)
    · have quiet : r.1.faults = s.faults := by rw [faults, clean.mpr safe, List.append_nil]
      have iff := reported safe
      by_cases completes : RestCompletes (s.session c)
      · -- the pcb of the freed connection is read
        obtain ⟨data, dead⟩ := iff.mpr completes
        rw [if_pos data]
        refine ⟨by rwa [touch_registry], [.useAfterFree c], ?_, by simp [completes, opened]⟩
        rw [touch_faults_of_dead _ _ dead, quiet]
      · have live' : r.2 ≠ noDataToSend → (r.1.mem c).live := by
          intro data
          by_contra dead
          exact completes (iff.mp ⟨data, by simpa using dead⟩)
        split_ifs with data
        · rw [touch_of_live _ c (live' data)]
          exact .quiet sound' quiet (by simp [safe, completes])
        · exact .quiet sound' quiet (by simp [safe, completes])
    · have dirty : new ≠ [] := fun none => safe (clean.mp none)
      split_ifs
      · refine ⟨by rwa [touch_registry], ?_⟩
        unfold touch
        split_ifs
        · exact ⟨new, faults, by simp [dirty, safe, opened]⟩
        · exact ⟨new ++ [.useAfterFree c], by simp [faults], by simp [safe, opened]⟩
      · exact ⟨sound', new, faults, by simp [dirty, safe, opened]⟩
  · rw [if_neg opened]
    exact .quiet sound rfl fun opened' => absurd opened' opened

/-- The parse of a frame on a session. -/
def parseSegment (segment : Pbuf) (ss : Session) : Session × TcpErr :=
  ({ ss with mhc := (extHttpWebSocketParseFrame ss.mhc segment).1 },
    (extHttpWebSocketParseFrame ss.mhc segment).2)

theorem recvWebSocket_eq (s : Server) (c : ConnId) (p : PcbId) (segment : Pbuf) :
    s.recvWebSocket c p segment =
      (if (s.onConn c (parseSegment segment)).2 = .clsd then
        (s.onConn c (parseSegment segment)).1.extHttpConnClose (some c) p
      else (s.onConn c (parseSegment segment)).1).assign c fun mhc => { mhc with retries := 0 } :=
  rfl

theorem recvWebSocket_delivered (sound : s.registry.Sound) (live : (s.mem c).live)
    (home : (s.mem c).pcb = p) (segment : Pbuf) :
    Delivered s (s.recvWebSocket c p segment) (¬ IsCloseFrame segment) := by
  have same := onConn_registry s c (parseSegment segment)
  have faults := onConn_faults s c (parseSegment segment) live
  have live' : ((s.onConn c (parseSegment segment)).1.mem c).live := by simpa using live
  have closes : (s.onConn c (parseSegment segment)).2 = .clsd ↔ IsCloseFrame segment := by
    rw [onConn_snd]
    exact extHttpWebSocketParseFrame_clsd (s.mem c).conn segment
  simp only [recvWebSocket_eq, closes]
  split_ifs with isClose
  · obtain ⟨sound', new, closeFaults, clean⟩ :=
      extHttpConnClose_delivered sound live home same faults
    have quiet := closeFaults.trans (by rw [clean.mpr trivial, List.append_nil])
    refine ⟨by rwa [assign_registry], [.useAfterFree c], ?_, by simp [isClose]⟩
    have dead : (((s.onConn c (parseSegment segment)).1.extHttpConnClose (some c) p).mem c).live =
        false :=
      extHttpConnCloseOrAbort_live _ c p false
    rw [assign_faults_of_dead _ _ dead, quiet]
  · refine .quiet (by rwa [assign_registry, same]) ?_ isClose
    rw [assign_faults_of_live _ _ live', faults]

theorem recvPost_delivered (sound : s.registry.Sound) (live : (s.mem c).live) (segment : Pbuf) :
    Delivered s (s.recvPost c segment)
      (SendSafe (extHttpPostRxDataPbuf
        ((s.session c).set fun mhc => { mhc with retries := 0 }) segment).1) := by
  set t := s.assign c fun mhc => { mhc with retries := 0 } with t_eq
  have same : t.registry = s.registry := assign_registry s c _
  have faults : t.faults = s.faults := assign_faults_of_live s c live _
  have delivered := extHttpSend_delivered sound live
    ((onConn_registry t c fun ss => extHttpPostRxDataPbuf ss segment).trans same)
    ((onConn_faults t c _ (live_of_registry same live)).trans faults)
  rw [onConn_session, t_eq, assign_session] at delivered
  exact delivered

theorem recvRequest_delivered (site : Site) (sound : s.registry.Sound) (live : (s.mem c).live)
    (home : (s.mem c).pcb = p) (segment : Pbuf) (stale : Bytes) :
    Delivered s (s.recvRequest site c p segment stale)
      ((extHttpRequestParse site (s.session c) segment stale).2 = .ok →
        SendSafe (extHttpRequestParse site (s.session c) segment stale).1) := by
  set parse : Session → Session × TcpErr := fun ss => extHttpRequestParse site ss segment stale
    with parse_eq
  have same := onConn_registry s c parse
  have faults := onConn_faults s c parse live
  have live' : ((s.onConn c parse).1.mem c).live := by simpa using live
  set t := if (s.onConn c parse).2 ≠ .inProgress then
    (s.onConn c parse).1.assign c fun mhc => { mhc with req := none }
    else (s.onConn c parse).1 with t_eq
  have same' : t.registry = s.registry := by
    rw [t_eq]
    split_ifs
    · rw [assign_registry, same]
    · exact same
  have faults' : t.faults = s.faults := by
    rw [t_eq]
    split_ifs
    · rw [assign_faults_of_live _ c live', faults]
    · exact faults
  have answer : (s.onConn c parse).2 = (parse (s.session c)).2 := onConn_snd s c parse
  change Delivered s (if (s.onConn c parse).2 = .ok then (t.extHttpSend c).1
    else if (s.onConn c parse).2 = .arg then t.extHttpConnClose (some c) p else t)
    ((parse (s.session c)).2 = .ok → SendSafe (parse (s.session c)).1)
  rw [answer]
  split_ifs with ok refused
  · have session : SendSafe (t.session c) ↔ SendSafe (parse (s.session c)).1 := by
      have started : (s.onConn c parse).2 ≠ .inProgress := by
        rw [answer, ok]
        decide
      rw [t_eq, if_pos started, assign_session, onConn_session]
      rfl
    exact (extHttpSend_delivered sound live same' faults').congr
      ((imp_iff_right ok).trans session.symm)
  · exact (extHttpConnClose_delivered sound live home same' faults').congr
      (iff_of_true (fun ok' => absurd ok' ok) trivial)
  · exact .quiet (same' ▸ sound) faults' fun ok' => absurd ok' ok

theorem extHttpRecv_delivered (site : Site) (sound : s.registry.Sound) (live : (s.mem c).live)
    (home : (s.mem c).pcb = p) (segment : Pbuf) (stale : Bytes) :
    Delivered s (s.extHttpRecv site (some c) p (some segment) false stale)
      (SafeSegment site (s.session c) segment stale) := by
  unfold extHttpRecv SafeSegment
  simp only [touch_of_live s c live, session_mhc]
  by_cases socket : (s.mem c).conn.reqType = .webSocket
  · simp only [socket, if_true]
    exact recvWebSocket_delivered sound live home segment
  by_cases post : 0 < (s.mem c).conn.postDataLeft ∨ (s.mem c).conn.method = .post
  · simp only [socket, post, if_true, if_false]
    exact recvPost_delivered sound live segment
  by_cases waiting : (s.mem c).conn.handle.isNone
  · simp only [socket, post, waiting, if_true, if_false]
    exact recvRequest_delivered site sound live home segment stale
  · simp only [socket, post, waiting, if_false]
    exact .quiet sound rfl trivial

/-! ### Accepting -/

/-- The eviction of the oldest connection. -/
theorem killOldestConnection_spec (sound : s.registry.Sound) (unused : (s.pcbs p).arg = none) :
    s.killOldestConnection.registry.Sound ∧ s.killOldestConnection.faults = s.faults ∧
      (s.killOldestConnection.pcbs p).arg = none := by
  have listed := listed_of_sound sound
  unfold killOldestConnection
  dsimp only
  rw [foldl_touch_of_live s listed]
  cases conns : s.conns with
  | nil => exact ⟨sound, rfl, unused⟩
  | cons newest rest =>
      cases last : rest.getLast? with
      | none => exact ⟨by simpa [last] using sound, by simp [last], by simpa [last] using unused⟩
      | some oldest =>
          have mem : oldest ∈ s.conns := by
            rw [conns]
            exact List.mem_cons_of_mem _ (List.mem_of_getLast? last)
          have live := listed oldest mem
          have faults := extHttpConnCloseOrAbort_faults s oldest (s.mem oldest).pcb listed live true
          obtain ⟨timer, closed⟩ :=
            extHttpConnCloseOrAbort_registry s oldest (s.mem oldest).pcb true
          simp only [last]
          refine ⟨?_, faults, ?_⟩
          · rw [closed]
            exact sound.closed live timer
          · have arg := congrArg (fun r : Registry ConnId PcbId => r.arg p) closed
            refine arg.trans ?_
            simp only [Registry.closed, Registry.reset, Registry.release, Function.update_apply]
            split_ifs
            · rfl
            · exact unused

/-- The new connection of `extHttpConnAlloc` takes the callbacks of its pcb. -/
theorem opened_delivered (sound : t.registry.Sound) (faults : t.faults = s.faults)
    (fresh : (t.mem c).live = false) (unused : (t.pcbs p).arg = none) (count : Int) :
    let mem := Function.update t.mem c { live := true, pcb := p, conn := extHttpStateInit }
    Delivered s (({ ({ t with mem } : Server).addConnection c with
        currentHttpConns := count }).setPcb p
          fun pcb => { pcb with arg := some c, registered := true, poll := true }) True := by
  intro mem
  have live : (({ t with mem } : Server).mem c).live := by simp [mem]
  have added : ({ t with mem } : Server).addConnection c =
      { t with mem, conns := c :: t.conns } := by
    simp [addConnection, touch_of_live _ c live]
  rw [added]
  have allocated : ({ t with mem, conns := c :: t.conns, currentHttpConns := count } :
      Server).registry = t.registry.allocated c p := by
    simp only [registry, Registry.allocated, mem]
    congr 1 <;>
    · funext d
      by_cases same : d = c
      · subst same
        simp
      · simp [same]
  refine .quiet ?_ faults trivial
  rw [setPcb_registry, allocated]
  exact sound.opened fresh unused

theorem malloc_eq_some {block : Option ConnId} (found : s.malloc block = some c) :
    (s.mem c).live = false := by
  unfold malloc at found
  split at found
  · split_ifs at found with live
    cases found
    simpa using live
  · cases found

theorem extHttpAccept_delivered (sound : s.registry.Sound) (unused : (s.pcbs p).arg = none)
    (err : Bool) (first second : Option ConnId) :
    Delivered s (s.extHttpAccept p err first second) True := by
  unfold extHttpAccept
  split_ifs
  · exact .quiet sound rfl trivial
  · unfold extHttpConnAlloc
    dsimp only
    cases found : s.malloc first with
    | some c => exact opened_delivered sound rfl (malloc_eq_some found) unused _
    | none =>
        obtain ⟨sound', faults, unused'⟩ := killOldestConnection_spec sound unused
        dsimp only
        cases found' : s.killOldestConnection.malloc second with
        | some c => exact opened_delivered sound' faults (malloc_eq_some found') unused' _
        | none => exact .quiet sound' faults trivial

/-! ### Every callback -/

theorem deliver_delivered (site : Site) (sound : s.registry.Sound) (callback : Callback) :
    Delivered s (s.deliver site callback) (SafeCallback site s callback) := by
  have registered (p : PcbId) : (s.pcbs p).registered = (s.pcbs p).arg.isSome := sound.heard_eq p
  have skipped : Delivered s s True := .quiet sound rfl trivial
  cases callback with
  | accept p err first second =>
      simp only [deliver]
      split_ifs with used
      · exact skipped
      · have unused : (s.pcbs p).arg = none := by
          have := registered p
          simp_all
        exact extHttpAccept_delivered sound unused err first second
  | recv p segment err stale =>
      unfold deliver
      cases passed : (s.pcbs p).arg with
      | none =>
          have quiet : SafeCallback site s (.recv p segment err stale) := by
            cases segment <;> cases err <;> simp [SafeCallback, passed]
          simpa [registered, passed, quiet] using skipped
      | some c =>
          obtain ⟨live, home⟩ := live_of_arg sound passed
          have closes : Delivered s (s.extHttpConnClose (some c) p) True :=
            extHttpConnClose_delivered sound live home rfl rfl
          cases segment with
          | none => simpa [registered, passed, SafeCallback, extHttpRecv] using closes
          | some segment =>
              cases err with
              | true => simpa [registered, passed, SafeCallback, extHttpRecv] using closes
              | false =>
                  have := extHttpRecv_delivered site sound live home segment stale
                  simpa [registered, passed, SafeCallback] using this
  | sent p =>
      unfold deliver
      cases passed : (s.pcbs p).arg with
      | none => simpa [registered, passed, SafeCallback] using skipped
      | some c =>
          obtain ⟨live, _⟩ := live_of_arg sound passed
          simpa [registered, passed, SafeCallback] using extHttpSent_delivered sound live
  | poll p =>
      unfold deliver
      cases passed : (s.pcbs p).arg with
      | none =>
          cases timer : (s.pcbs p).poll with
          | false => simpa [passed, timer, SafeCallback] using skipped
          | true =>
              simpa [passed, timer, SafeCallback] using extHttpPoll_none_delivered sound passed
      | some c =>
          obtain ⟨live, home⟩ := live_of_arg sound passed
          have timer : (s.pcbs p).poll := sound.polled_of_arg p (by
            rw [show s.registry.arg p = some c from passed]
            rfl)
          simpa [passed, timer, SafeCallback] using extHttpPoll_delivered sound live home
  | err p =>
      simp only [deliver]
      split_ifs
      · exact extHttpErr_delivered sound p
      · exact skipped
  | sendMore p =>
      unfold deliver
      cases passed : (s.pcbs p).arg with
      | none => simpa [registered, passed, SafeCallback] using skipped
      | some c =>
          obtain ⟨live, _⟩ := live_of_arg sound passed
          simpa [registered, passed, SafeCallback] using extHttpContinue_delivered sound live

end Deliver

/-- One event keeps the registry sound, and makes a fault exactly when it is not safe. -/
theorem step_delivered (site : Site) {s : Server} (sound : s.registry.Sound) (e : Event) :
    Delivered s (s.step site e) (Safe site s e) := by
  have sound' : (s.arm e.env).registry.Sound := by rwa [arm_registry]
  obtain ⟨kept, new, faults, clean⟩ := deliver_delivered site sound' e.callback
  exact ⟨kept, new, faults, clean⟩

/-- The server before its first event. -/
theorem registry_sound_init : ({} : Server).registry.Sound where
  nodup := List.nodup_nil
  live_iff := by simp [registry]
  arg_of_live := by simp [registry]
  live_of_arg := by simp [registry]
  heard_eq := by simp [registry]
  polled_of_arg := by simp [registry]

end Server

/-- A run of the server uses no freed and no NULL connection exactly when each of its
callbacks is safe. -/
theorem lifetimes_respected_iff (site : Site) (es : List Event) :
    (Lib.run (Server.step site) {} es).faults = [] ↔
      Lib.Along (Server.step site) (Safe site) {} es := by
  refine Lib.clean_run_iff (fun s : Server => s.registry.Sound)
    (fun s : Server => s.faults = []) ?_ ?_ ?_ Server.registry_sound_init rfl es
  · intro s e sound clean
    obtain ⟨_, new, faults, safe⟩ := Server.step_delivered site sound e
    rw [faults, clean, List.nil_append, safe]
  · intro s e sound
    exact (Server.step_delivered site sound e).sound
  · intro s e sound dirty
    obtain ⟨_, new, faults, _⟩ := Server.step_delivered site sound e
    rw [faults]
    exact fun none => dirty (List.append_eq_nil_iff.mp none).1

/-- A site with short pages and no files. -/
def shortSite : Site where
  files := []
  page _ := str "<HTML></HTML>"
  nmos _ _ := (webResRequestOk, str "{ }")
  acceptKey key := key

/-- Plenty of room for every answer. -/
def roomyEnv : Env := ⟨fun _ => .roomy 2920 1460, fun _ => true, []⟩

/-- A request for a page whose answer TCP takes at once: `dataSendIndex` is assigned
in the freed connection. -/
theorem page_used_after_free :
    ¬ ∀ (site : Site) (es : List Event), (Lib.run (Server.step site) {} es).faults = [] := by
  intro clean
  exact absurd (clean shortSite
    [⟨roomyEnv, .accept 1 false (some 1) none⟩,
      ⟨roomyEnv, .recv 1 (some [str "GET /info HTTP/1.0" ++ crlfcrlf]) false []⟩])
    (by decide +kernel)

end LwipExt.Http
