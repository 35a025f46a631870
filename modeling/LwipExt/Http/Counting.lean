import LwipExt.Http.Lifetime
import Mathlib.Data.Set.Card

/-!
The number of connections that the server reports.

`currentHttpConns` is counted up when a connection is accepted and down where
`_extHttpConnCloseOrAbort` comes to `tcp_close`. `surplus` is by how much it is above the number of
listed connections: every callback keeps it but those of `CountSafe`.
-/

namespace LwipExt.Http

namespace Server

/-- The counter is the number of allocated connections. -/
def Counted (s : Server) : Prop :=
  s.currentHttpConns = {c : ConnId | (s.mem c).live = true}.ncard

/-- By how much the counter is above the number of listed connections. -/
def surplus (s : Server) : Int := s.currentHttpConns - s.conns.length

/-- The counter is right exactly if there is no surplus. -/
theorem counted_iff {s : Server} (sound : s.registry.Sound) : s.Counted ↔ s.surplus = 0 := by
  have live : {c : ConnId | (s.mem c).live = true} = (s.conns.toFinset : Set ConnId) := by
    ext c
    rw [Set.mem_ofPred_eq, Finset.mem_coe, List.mem_toFinset]
    exact sound.live_iff c
  have nodup : s.conns.Nodup := sound.nodup
  rw [Counted, live, Set.ncard_coe_finset, List.toFinset_card_of_nodup nodup, surplus]
  omega

/-! ### The surplus under each operation -/

section Surplus

variable (s : Server) (c : ConnId) (p : PcbId)

@[simp] theorem touch_surplus : (s.touch c).surplus = s.surplus := by
  unfold touch
  split <;> rfl

@[simp] theorem store_surplus (ss : Session) : (s.store c ss).surplus = s.surplus := rfl

@[simp] theorem onConn_surplus {α : Type} (f : Session → Session × α) :
    (s.onConn c f).1.surplus = s.surplus := by
  unfold onConn
  rw [store_surplus, touch_surplus]

@[simp] theorem assign_surplus (g : ExtHttpConn → ExtHttpConn) :
    (s.assign c g).surplus = s.surplus := onConn_surplus s c _

@[simp] theorem assign_conns (g : ExtHttpConn → ExtHttpConn) : (s.assign c g).conns = s.conns :=
  onConn_conns s c _

@[simp] theorem setPcb_surplus (h : Pcb → Pcb) : (s.setPcb p h).surplus = s.surplus := rfl

@[simp] theorem resetCallbacks_surplus : (s.resetCallbacks p).surplus = s.surplus := rfl

theorem foldl_touch_surplus (l : List ConnId) : (l.foldl touch s).surplus = s.surplus := by
  induction l generalizing s with
  | nil => rfl
  | cons d l ih => rw [List.foldl_cons, ih, touch_surplus]

theorem removeConnection_counter : (s.removeConnection c).currentHttpConns = s.currentHttpConns := by
  have walked (l : List ConnId) (s : Server) :
      (l.foldl touch s).currentHttpConns = s.currentHttpConns := by
    have surplus := foldl_touch_surplus s l
    obtain ⟨-, conns, -⟩ := foldl_touch_frame s l
    unfold Server.surplus at surplus
    rw [conns] at surplus
    omega
  have touched (s : Server) : (s.touch c).currentHttpConns = s.currentHttpConns := by
    unfold touch
    split <;> rfl
  unfold removeConnection
  dsimp only
  split
  · rw [← walked (s.conns.takeWhile (· ≠ c)) s]
    exact touched _
  · exact walked _ s

variable {s c}

/-- A connection that is freed was counted. -/
theorem extHttpConnFree_surplus (listed : c ∈ s.conns) :
    (s.extHttpConnFree c).surplus = s.surplus + 1 := by
  have conns : (s.extHttpConnFree c).conns = s.conns.erase c := by
    unfold extHttpConnFree
    dsimp only
    rw [removeConnection_conns, assign_conns]
  have counter : (s.extHttpConnFree c).currentHttpConns = s.currentHttpConns := by
    have assigned := assign_surplus s c fun mhc => { mhc with handle := none, req := none }
    unfold surplus at assigned
    rw [assign_conns] at assigned
    unfold extHttpConnFree
    dsimp only
    rw [removeConnection_counter]
    omega
  have some_ := List.length_pos_of_mem listed
  rw [surplus, surplus, conns, counter, List.length_erase_of_mem listed]
  omega

theorem tcpClose_surplus (s : Server) (p : PcbId) : (s.tcpClose p).surplus = s.surplus - 1 := by
  have counted : ({ s with currentHttpConns := s.currentHttpConns - 1 } : Server).surplus =
      s.surplus - 1 := by
    unfold surplus
    dsimp only
    omega
  unfold tcpClose
  dsimp only
  split
  · exact counted
  · rw [setPcb_surplus]
    exact counted

/-- A connection that is closed is counted down, one that is aborted is not. -/
theorem extHttpConnCloseOrAbort_surplus (listed : c ∈ s.conns) (abort : Bool) :
    (s.extHttpConnCloseOrAbort (some c) p abort).surplus =
      s.surplus + if abort then 1 else 0 := by
  set t := (s.onConn c fun ss => (finishBeforeClose ss, ())).1.resetCallbacks p with t_eq
  have conns : t.conns = s.conns := by
    rw [t_eq]
    exact onConn_conns s c fun ss => (finishBeforeClose ss, ())
  have same : t.surplus = s.surplus := by
    rw [t_eq, resetCallbacks_surplus, onConn_surplus]
  have freed := extHttpConnFree_surplus (s := t) (c := c) (by rwa [conns])
  unfold extHttpConnCloseOrAbort
  dsimp only
  rw [← t_eq]
  cases abort with
  | true => rw [if_pos rfl, if_pos rfl, freed, same]
  | false =>
      rw [if_neg nofun, if_neg nofun, tcpClose_surplus, freed, same]
      omega

theorem extHttpConnClose_surplus (listed : c ∈ s.conns) :
    (s.extHttpConnClose (some c) p).surplus = s.surplus := by
  unfold extHttpConnClose
  rw [extHttpConnCloseOrAbort_surplus p listed, if_neg nofun, add_zero]

/-- Without a connection there is still one less. -/
theorem extHttpConnClose_none_surplus (s : Server) (p : PcbId) :
    (s.extHttpConnClose none p).surplus = s.surplus - 1 := by
  unfold extHttpConnClose extHttpConnCloseOrAbort
  dsimp only
  rw [if_neg nofun, tcpClose_surplus, resetCallbacks_surplus]
  rfl

theorem extHttpConnEof_surplus (listed : c ∈ s.conns) :
    (s.extHttpConnEof c).surplus = s.surplus := by
  unfold extHttpConnEof
  dsimp only
  rw [extHttpConnClose_surplus _ (by rwa [touch_conns]), touch_surplus]

/-! ### The surplus over a call of `extHttpSend` -/

/-- Accesses to connections leave the list and the surplus as they are. -/
structure Accesses (s t : Server) : Prop where
  conns : t.conns = s.conns
  surplus : t.surplus = s.surplus

theorem Accesses.refl (s : Server) : Accesses s s := ⟨rfl, rfl⟩

theorem Accesses.touch {s t : Server} (accesses : Accesses s t) (c : ConnId) :
    Accesses s (t.touch c) :=
  ⟨(touch_conns t c).trans accesses.conns, (touch_surplus t c).trans accesses.surplus⟩

theorem Accesses.onConn {s t : Server} (accesses : Accesses s t) (c : ConnId) {α : Type}
    (f : Session → Session × α) : Accesses s (t.onConn c f).1 :=
  ⟨(onConn_conns t c f).trans accesses.conns, (onConn_surplus t c f).trans accesses.surplus⟩

theorem Accesses.assign {s t : Server} (accesses : Accesses s t) (c : ConnId)
    (g : ExtHttpConn → ExtHttpConn) : Accesses s (t.assign c g) := accesses.onConn c _

theorem Accesses.eof {s t : Server} (accesses : Accesses s t) (listed : c ∈ s.conns) :
    (t.extHttpConnEof c).surplus = s.surplus := by
  rw [extHttpConnEof_surplus (by rwa [accesses.conns]), accesses.surplus]

theorem mHttpSendFile_surplus (listed : c ∈ s.conns) :
    (s.mHttpSendFile c).1.surplus = s.surplus := by
  have touched := (Accesses.refl s).touch c
  have block {t : Server} (accesses : Accesses s t) :
      (let r := t.onConn c sendFileData
       let t := r.1.touch c
       let bytesLeft := ((t.mem c).conn.handle.map mfsBytesLeft).getD 0
       if (t.mem c).conn.left = 0 ∧ bytesLeft ≤ 0 then (t.extHttpConnEof c, noDataToSend)
       else (t, r.2)).1.surplus = s.surplus := by
    have wrote := (accesses.onConn c sendFileData).touch c
    dsimp only
    split
    · exact wrote.eof listed
    · exact wrote.surplus
  unfold mHttpSendFile extHttpSendCheckEof
  dsimp only
  split
  · split
    · exact (touched.touch c).eof listed
    · split
      · exact (touched.touch c).eof listed
      · exact block (touched.touch c)
  · exact block touched

theorem mHttpSendRest_surplus (listed : c ∈ s.conns) :
    (s.mHttpSendRest c).1.surplus = s.surplus := by
  have touched := (Accesses.refl s).touch c
  have sent := touched.onConn c sendRestData
  unfold mHttpSendRest
  dsimp only
  split
  · exact touched.surplus
  · split
    · split
      · exact (sent.touch c).eof listed
      · exact (sent.touch c).surplus
    · exact sent.surplus

theorem sendWebSocket_surplus (s : Server) (c : ConnId) :
    (s.sendWebSocket c).1.surplus = s.surplus := by
  have touched := (Accesses.refl s).touch c
  unfold sendWebSocket
  dsimp only
  split
  · exact (touched.onConn c _).surplus
  · exact touched.surplus

theorem sendCgi_surplus (listed : c ∈ s.conns) : (s.sendCgi c).1.surplus = s.surplus := by
  have wrote := ((Accesses.refl s).touch c).onConn c fun ss =>
    writeSome ss (bufRead ss.mhc.data 0
      (sub16 ((s.touch c).mem c).conn.contentLength ((s.touch c).mem c).conn.dataSendIndex))
      (sub16 ((s.touch c).mem c).conn.contentLength ((s.touch c).mem c).conn.dataSendIndex)
  unfold sendCgi
  dsimp only
  rw [assign_surplus]
  split
  · exact wrote.surplus
  · exact wrote.eof listed

theorem sendUpload_surplus (listed : c ∈ s.conns) : (s.sendUpload c).1.surplus = s.surplus := by
  have touched := (Accesses.refl s).touch c
  unfold sendUpload
  dsimp only
  rw [assign_surplus]
  split
  · split
    · exact (touched.onConn c _).surplus
    · exact (touched.onConn c _).eof listed
  · exact touched.surplus

/-- A call of `extHttpSend` keeps the surplus, whether it ends the connection or not. -/
theorem extHttpSend_surplus (listed : c ∈ s.conns) : (s.extHttpSend c).1.surplus = s.surplus := by
  have listed' : c ∈ (s.touch c).conns := by rwa [touch_conns]
  unfold extHttpSend
  dsimp only
  split
  · rw [mHttpSendRest_surplus listed', touch_surplus]
  · split
    · rw [mHttpSendFile_surplus listed', touch_surplus]
    · split
      · rw [sendWebSocket_surplus, touch_surplus]
      · split
        · rw [sendCgi_surplus listed', touch_surplus]
        · split
          · rw [sendUpload_surplus listed', touch_surplus]
          · exact touch_surplus s c

/-- A call of `extHttpSend` behind accesses. -/
theorem Accesses.send {s t : Server} (accesses : Accesses s t) (listed : c ∈ s.conns) :
    (t.extHttpSend c).1.surplus = s.surplus := by
  rw [extHttpSend_surplus (by rwa [accesses.conns]), accesses.surplus]

/-- A close behind accesses. -/
theorem Accesses.close {s t : Server} (accesses : Accesses s t) (listed : c ∈ s.conns) (p : PcbId) :
    (t.extHttpConnClose (some c) p).surplus = s.surplus := by
  rw [extHttpConnClose_surplus p (by rwa [accesses.conns]), accesses.surplus]

/-! ### The surplus over a callback -/

theorem recvRequest_surplus (site : Site) (listed : c ∈ s.conns) (p : PcbId) (segment : Pbuf)
    (stale : Bytes) : (recvRequest site s c p segment stale).surplus = s.surplus := by
  have parsed := (Accesses.refl s).onConn c fun ss => extHttpRequestParse site ss segment stale
  unfold recvRequest
  generalize s.onConn c (fun ss => extHttpRequestParse site ss segment stale) = r at parsed ⊢
  have dropped : Accesses s (if r.2 ≠ .inProgress then
      r.1.assign c fun mhc => { mhc with req := none } else r.1) := by
    split
    · exact parsed.assign c _
    · exact parsed
  dsimp only
  generalize (if r.2 ≠ .inProgress then
      r.1.assign c fun mhc => { mhc with req := none } else r.1) = t at dropped ⊢
  split
  · exact dropped.send listed
  · split
    · exact dropped.close listed p
    · exact dropped.surplus

theorem extHttpRecv_surplus (site : Site) (listed : c ∈ s.conns) (p : PcbId)
    (segment : Option Pbuf) (err : Bool) (stale : Bytes) :
    (extHttpRecv site s (some c) p segment err stale).surplus = s.surplus := by
  have touched := (Accesses.refl s).touch c
  unfold extHttpRecv
  split
  · next d segment' eq =>
      cases eq
      dsimp only
      split
      · unfold recvWebSocket
        dsimp only
        rw [assign_surplus]
        split
        · exact (touched.onConn c _).close listed p
        · exact (touched.onConn c _).surplus
      · split
        · unfold recvPost
          dsimp only
          exact ((touched.assign c _).onConn c _).send listed
        · split
          · rw [recvRequest_surplus site (by rwa [touch_conns]), touch_surplus]
          · exact touched.surplus
  · exact extHttpConnClose_surplus p listed

theorem extHttpSent_surplus (listed : c ∈ s.conns) : (s.extHttpSent (some c)).surplus = s.surplus :=
  ((Accesses.refl s).assign c _).send listed

theorem extHttpPoll_surplus (listed : c ∈ s.conns) (p : PcbId) :
    (s.extHttpPoll (some c) p).surplus = s.surplus := by
  have polled := (Accesses.refl s).assign c fun mhc =>
    { mhc with retries := (mhc.retries + 1) % 256 }
  unfold extHttpPoll
  dsimp only
  split
  · exact polled.close listed p
  · exact polled.send listed

theorem extHttpContinue_surplus (listed : c ∈ s.conns) :
    (s.extHttpContinue (some c)).surplus = s.surplus := by
  have touched := (Accesses.refl s).touch c
  have sent := touched.send listed
  unfold extHttpContinue
  dsimp only
  split
  · split
    · rw [touch_surplus]
      exact sent
    · exact sent
  · exact touched.surplus

/-- A connection that ends with an error stays counted. -/
theorem extHttpErr_surplus (s : Server) (p : PcbId) (c : ConnId) (passed : (s.pcbs p).arg = some c)
    (listed : c ∈ s.conns) : (s.extHttpErr p).surplus = s.surplus + 1 := by
  unfold extHttpErr
  dsimp only
  rw [passed]
  exact extHttpConnFree_surplus listed

/-- The connection that is aborted for another one stays counted. -/
theorem killOldestConnection_surplus (s : Server) :
    s.killOldestConnection.surplus = s.surplus + if 2 ≤ s.conns.length then 1 else 0 := by
  have walked := foldl_touch_surplus s s.conns
  obtain ⟨-, conns, -⟩ := foldl_touch_frame s s.conns
  unfold killOldestConnection
  dsimp only
  generalize s.conns.foldl touch s = t at walked conns ⊢
  rw [conns]
  rcases all : s.conns with _ | ⟨newest, _ | ⟨second, rest⟩⟩
  · rw [if_neg (by simp)]
    dsimp only
    rw [walked, add_zero]
  · rw [if_neg (by simp)]
    dsimp only [List.getLast?_nil]
    rw [walked, add_zero]
  · have listed : (second :: rest).getLast (List.cons_ne_nil _ _) ∈ t.conns := by
      rw [conns, all]
      exact List.mem_cons_of_mem _ (List.getLast_mem _)
    rw [if_pos (by simp)]
    dsimp only
    rw [List.getLast?_eq_some_getLast (List.cons_ne_nil _ _)]
    dsimp only
    rw [extHttpConnCloseOrAbort_surplus _ listed, walked, if_pos rfl]

/-- A connection that is opened is listed, and counted. -/
theorem opened_surplus (t : Server) (c : ConnId) (p : PcbId) (h : Pcb → Pcb) :
    (({ t.addConnection c with currentHttpConns := (t.addConnection c).currentHttpConns + 1 } :
      Server).setPcb p h).surplus = t.surplus := by
  have touched := touch_surplus t c
  unfold surplus at touched
  rw [setPcb_surplus]
  unfold addConnection surplus
  dsimp only
  rw [List.length_cons]
  omega

theorem extHttpAccept_surplus (s : Server) (p : PcbId) (first second : Option ConnId) :
    (s.extHttpAccept p false first second).surplus = s.surplus +
      if s.malloc first = none ∧ 2 ≤ s.conns.length then 1 else 0 := by
  unfold extHttpAccept extHttpConnAlloc
  rw [if_neg nofun]
  cases found : s.malloc first with
  | some c =>
      rw [if_neg (fun full => by cases full.1), add_zero]
      dsimp only
      rw [opened_surplus]
      rfl
  | none =>
      have killed := killOldestConnection_surplus s
      have full : (if none = (none : Option ConnId) ∧ 2 ≤ s.conns.length then 1 else 0 : Int) =
          if 2 ≤ s.conns.length then 1 else 0 := by
        simp
      rw [full, ← killed]
      dsimp only
      cases found' : s.killOldestConnection.malloc second with
      | some c =>
          dsimp only
          rw [opened_surplus]
          rfl
      | none => rfl

end Surplus

/-! ### Every callback -/

/-- The callback does not leave the counter above or below the connections: it is no error of a
connection, no accept that has to abort the oldest of two connections or more for its memory, and no
poll of a pcb whose connection is gone. -/
def CountSafe (s : Server) (e : Event) : Prop :=
  match e.callback with
  | .accept p err first _ =>
      (s.pcbs p).registered = false → (s.pcbs p).poll = false → err = false →
        s.malloc first = none → s.conns.length < 2
  | .poll p => (s.pcbs p).poll = true → (s.pcbs p).arg.isSome = true
  | .err p => (s.pcbs p).registered = false
  | .recv _ _ _ _ | .sent _ | .sendMore _ => True

instance (s : Server) (e : Event) : Decidable (CountSafe s e) := by
  unfold CountSafe
  split <;> infer_instance

/-- What a callback adds to the surplus. -/
def counts (s : Server) (e : Event) : Int :=
  match e.callback with
  | .accept p err first _ =>
      if (s.pcbs p).registered || (s.pcbs p).poll then 0
      else if err then 0
      else if s.malloc first = none ∧ 2 ≤ s.conns.length then 1 else 0
  | .poll p => if (s.pcbs p).poll = true ∧ (s.pcbs p).arg = none then -1 else 0
  | .err p => if (s.pcbs p).registered then 1 else 0
  | .recv _ _ _ _ | .sent _ | .sendMore _ => 0

theorem countSafe_iff (s : Server) (e : Event) : CountSafe s e ↔ counts s e = 0 := by
  unfold CountSafe counts
  split
  · next p err first second _ =>
      cases (s.pcbs p).registered <;> cases (s.pcbs p).poll <;> cases err <;> simp
  · next p _ => cases (s.pcbs p).poll <;> cases (s.pcbs p).arg <;> simp
  · next p _ => cases (s.pcbs p).registered <;> simp
  all_goals exact iff_of_true trivial rfl

/-- What a pcb passes to its callbacks is listed. -/
theorem listed_of_arg {s : Server} (sound : s.registry.Sound) {p : PcbId} {c : ConnId}
    (passed : (s.pcbs p).arg = some c) : c ∈ s.conns :=
  (sound.live_iff c).mp (sound.live_of_arg p c passed).1

theorem deliver_surplus (site : Site) {s : Server} (sound : s.registry.Sound) (e : Event) :
    (s.deliver site e.callback).surplus = s.surplus + counts s e := by
  have passes {p : PcbId} (registered : (s.pcbs p).registered = true) :
      ∃ c, (s.pcbs p).arg = some c ∧ c ∈ s.conns := by
    have heard : (s.pcbs p).registered = (s.pcbs p).arg.isSome := sound.heard_eq p
    obtain ⟨c, passed⟩ := Option.isSome_iff_exists.mp (heard.symm.trans registered)
    exact ⟨c, passed, listed_of_arg sound passed⟩
  unfold counts
  cases e.callback with
  | accept p err first second =>
      dsimp only [deliver]
      split
      · rw [add_zero]
      · cases err with
        | true => rw [if_pos rfl, add_zero, extHttpAccept, if_pos rfl]
        | false => rw [if_neg nofun, extHttpAccept_surplus]
  | recv p segment err stale =>
      dsimp only [deliver]
      rw [add_zero]
      split
      · next registered =>
          obtain ⟨c, passed, listed⟩ := passes registered
          rw [passed]
          exact extHttpRecv_surplus site listed p segment err stale
      · rfl
  | sent p =>
      dsimp only [deliver]
      rw [add_zero]
      split
      · next registered =>
          obtain ⟨c, passed, listed⟩ := passes registered
          rw [passed]
          exact extHttpSent_surplus listed
      · rfl
  | poll p =>
      dsimp only [deliver]
      cases passed : (s.pcbs p).arg with
      | none =>
          split
          · next timer =>
              rw [if_pos ⟨timer, rfl⟩]
              exact extHttpConnClose_none_surplus s p
          · next quiet => rw [if_neg fun both => quiet both.1, add_zero]
      | some c =>
          have other : ¬ ((s.pcbs p).poll = true ∧ some c = none) := fun both => by cases both.2
          rw [if_neg other, add_zero]
          split
          · exact extHttpPoll_surplus (listed_of_arg sound passed) p
          · rfl
  | err p =>
      dsimp only [deliver]
      split
      · next registered =>
          obtain ⟨c, passed, listed⟩ := passes registered
          exact extHttpErr_surplus s p c passed listed
      · rw [add_zero]
  | sendMore p =>
      dsimp only [deliver]
      rw [add_zero]
      split
      · next registered =>
          obtain ⟨c, passed, listed⟩ := passes registered
          rw [passed]
          exact extHttpContinue_surplus listed
      · rfl

theorem step_surplus (site : Site) {s : Server} (sound : s.registry.Sound) (e : Event) :
    (s.step site e).surplus = s.surplus + counts s e := by
  have armed : counts (s.arm e.env) e = counts s e := by
    unfold counts
    split <;> rfl
  have sound' : (s.arm e.env).registry.Sound := by rwa [arm_registry]
  rw [step, deliver_surplus site sound', armed]
  rfl

end Server

/-- **The counter is the number of connections** after every step of a run exactly if each of its
callbacks keeps it so. -/
theorem connections_counted_iff (site : Site) (es : List Event) :
    Lib.Along (Server.step site) (fun s e => (s.step site e).Counted) {} es ↔
      Lib.Along (Server.step site) Server.CountSafe {} es := by
  refine Lib.along_good_iff_of_inv (fun s : Server => s.registry.Sound) Server.Counted ?_ ?_
    Server.registry_sound_init ?_ es
  · intro s e sound counted
    rw [Server.counted_iff sound] at counted
    rw [Server.counted_iff (Server.step_delivered site sound e).sound,
      Server.step_surplus site sound e, counted, zero_add, Server.countSafe_iff]
  · intro s e sound
    exact (Server.step_delivered site sound e).sound
  · rw [Server.counted_iff Server.registry_sound_init]
    rfl

/-- The client of an accepted connection resets it: the connection is freed and still counted. -/
theorem reset_stays_counted : ¬ ∀ (site : Site) (es : List Event),
    Lib.Along (Server.step site) (fun s e => (s.step site e).Counted) {} es := by
  intro all
  have counted := (all shortSite [⟨roomyEnv, .accept 1 false (some 1) none⟩, ⟨roomyEnv, .err 1⟩]).2.1
  have sound := (Server.step_delivered shortSite Server.registry_sound_init
    ⟨roomyEnv, .accept 1 false (some 1) none⟩).sound
  have right := (Server.counted_iff (Server.step_delivered shortSite sound _).sound).mp counted
  exact absurd right (by decide +kernel)

end LwipExt.Http
