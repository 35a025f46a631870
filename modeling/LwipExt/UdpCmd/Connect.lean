import LwipExt.UdpCmd.SetParams

/-!
The connect flag of a `set_param`.

The agent keeps the flag of the request plus one, compares it as it is with the current flag, and
toggles where they differ. `connect_right_iff` says which requests still get what they ask for.
-/

namespace LwipExt.UdpCmd

/-! ### Accepted requests -/

/-- The request passes the check of user, password and target, and none of its values stops the
parse. -/
def Accepted (parser : ExtJsonParser) : Prop :=
  (extUdpCmdIsLocal parser.runCfg parser.toRequest).2 = true ∧ requestRefused parser.json = false

instance (parser : ExtJsonParser) : Decidable (Accepted parser) :=
  inferInstanceAs (Decidable (_ ∧ _))

/-- The values of an accepted request. -/
theorem acceptedRequest_eq (parser : ExtJsonParser) :
    acceptedRequest parser.runCfg parser.toRequest =
      if Accepted parser then some (requestCfg parser.json) else none := by
  obtain ⟨r, checked, -⟩ := extUdpCmdIsLocal_report parser.runCfg parser.toRequest
  unfold acceptedRequest setupRequest
  cases ok : (extUdpCmdIsLocal parser.runCfg parser.toRequest).2 with
  | false =>
      have stranger : ¬ Accepted parser := fun accepted => by cases ok.symm.trans accepted.1
      have result : extUdpCmdIsLocal parser.runCfg parser.toRequest = (_, false) :=
        Prod.ext checked ok
      rw [result, if_neg stranger]
  | true =>
      have outcome := extJsonRequestParse_outcome parser.json r
      have result : extUdpCmdIsLocal parser.runCfg parser.toRequest = (_, true) :=
        Prod.ext checked ok
      rw [result]
      dsimp only
      cases refused : requestRefused parser.json with
      | true =>
          obtain ⟨p, stops⟩ := outcome.stops refused
          have other : ¬ Accepted parser := fun accepted => by cases refused.symm.trans accepted.2
          rw [stops, if_neg other]
      | false =>
          obtain ⟨r', leaves⟩ := outcome.leaves refused
          rw [leaves, if_pos ⟨ok, refused⟩]

/-- An accepted request is answered with the configuration, any other one with an error. -/
theorem extUdpCmdSetupParams_accepts (parser : ExtJsonParser) :
    (extUdpCmdSetupParams parser).2 = true ↔ Accepted parser := by
  have accepted := acceptedRequest_eq parser
  unfold acceptedRequest at accepted
  unfold extUdpCmdSetupParams
  generalize setupRequest parser.runCfg parser.toRequest = request at accepted ⊢
  obtain ⟨rq, _ | rx⟩ := request
  · by_cases fine : Accepted parser
    · rw [if_pos fine] at accepted
      cases accepted
    · exact iff_of_false nofun fine
  · by_cases fine : Accepted parser
    · exact iff_of_true rfl fine
    · rw [if_neg fine] at accepted
      cases accepted

/-! ### The connect flag -/

/-- The calls that connect or disconnect a device. -/
def connectCalls (c : RuntimeCfg) (connect : Bool) : List HwOp :=
  if extIsTx c then [.fpgaEnable connect]
  else if ipAddrIsMulticast c.dest.ip then [.groupMgr c.dest.ip connect]
  else []

/-- The calls of a request that connect or disconnect. -/
def connectOps (parser : ExtJsonParser) : List HwOp := (setupOps parser).filter isConnectOp

/-- An accepted request sets the flag to a value, and connects or disconnects if that changes it. -/
structure ConnectRight (parser : ExtJsonParser) (v : UInt8) : Prop where
  flag : (extUdpCmdSetupParams parser).2 = true →
    (extUdpCmdSetupParams parser).1.runCfg.runtime.isConnect = v
  calls : (extUdpCmdSetupParams parser).2 = true →
    connectOps parser =
      if parser.runCfg.runtime.isConnect ≠ v then
        connectCalls (extUdpCmdSetupParams parser).1.runCfg (v ≠ 0)
      else []
  refused : (extUdpCmdSetupParams parser).2 = false →
    (extUdpCmdSetupParams parser).1.runCfg.runtime.isConnect = parser.runCfg.runtime.isConnect ∧
      connectOps parser = []

/-- What comes of the current flag where the agent has read one more than the flag asked for, or
zero where it found none: it is left if it equals what was read, and toggled otherwise. -/
def Toggles (current read v : UInt8) : Prop :=
  if read = 0 ∨ current = read then current = v else (current = 0 ↔ v = 1)

instance (current read v : UInt8) : Decidable (Toggles current read v) :=
  inferInstanceAs (Decidable (ite _ _ _))

/-- The flag is asked for as zero or one. -/
theorem askedFlag_value {j : Json} {key : Bytes} {v : UInt8} (asked : j.askedFlag key = .value v) :
    v = 0 ∨ v = 1 := by
  unfold Json.askedFlag at asked
  obtain ⟨n, number, rfl⟩ := Asked.map_eq_value.mp asked
  obtain ⟨k, -, read⟩ := Json.asked_value number
  obtain ⟨-, small⟩ := Option.filter_eq_some_iff.mp read
  have small : n < 2 := by simpa using small
  rcases Nat.le_one_iff_eq_zero_or_eq_one.mp (Nat.lt_succ_iff.mp small) with rfl | rfl
  · exact .inl rfl
  · exact .inr rfl

/-- The flag that an accepted request leaves is the one asked for where the toggle gives it. -/
theorem connectAfter_eq_iff {current read v : UInt8} (isFlag : v = 0 ∨ v = 1) :
    connectAfter current read = v ↔ Toggles current read v := by
  unfold connectAfter Toggles
  by_cases kept : read = 0 ∨ current = read
  · have idle : ¬ (read ≠ 0 ∧ current ≠ read) := by tauto
    rw [if_neg idle, if_pos kept]
  · have acts : read ≠ 0 ∧ current ≠ read := not_or.mp kept
    rw [if_pos acts, if_neg kept]
    rcases isFlag with rfl | rfl
    · by_cases off : current = 0 <;> simp [off]
    · by_cases off : current = 0 <;> simp [off]

/-- A flag that the toggle sets was changed exactly if it was toggled. -/
theorem Toggles.changed_iff {current read v : UInt8} (isFlag : v = 0 ∨ v = 1)
    (toggles : Toggles current read v) : current ≠ v ↔ read ≠ 0 ∧ current ≠ read := by
  unfold Toggles at toggles
  by_cases kept : read = 0 ∨ current = read
  · rw [if_pos kept] at toggles
    tauto
  · rw [if_neg kept] at toggles
    refine iff_of_true ?_ (not_or.mp kept)
    rcases isFlag with rfl | rfl
    · exact fun off => absurd (toggles.mp off) (by decide)
    · rintro rfl
      exact absurd (toggles.mpr rfl) (by decide)

/-- `extUdpCmdConnect` makes the calls for the flag that is not set. -/
theorem extUdpCmdConnect_calls (c : RuntimeCfg) :
    (extUdpCmdConnect c).2 = connectCalls (extUdpCmdConnect c).1 (c.runtime.isConnect = 0) := rfl

theorem connectCalls_connect (c : RuntimeCfg) (connect : Bool) :
    (connectCalls c connect).filter isConnectOp = connectCalls c connect := by
  unfold connectCalls
  split
  · rfl
  · split <;> rfl

/-- A toggle that gives the flag asked for connects exactly if that is asked for. -/
theorem Toggles.target {current read v : UInt8} (isFlag : v = 0 ∨ v = 1)
    (toggles : Toggles current read v) (acts : read ≠ 0 ∧ current ≠ read) : current = 0 ↔ v ≠ 0 := by
  unfold Toggles at toggles
  rw [if_neg (not_or.mpr acts)] at toggles
  rw [toggles]
  rcases isFlag with rfl | rfl <;> decide

/-- The flag and the calls of an accepted request. -/
theorem setup_connect {parser : ExtJsonParser} (accepted : Accepted parser) :
    (extUdpCmdSetupParams parser).1.runCfg = setupCfg parser.runCfg (requestCfg parser.json) ∧
      connectOps parser =
        if (requestCfg parser.json).runtime.isConnect ≠ 0 ∧
            parser.runCfg.runtime.isConnect ≠ (requestCfg parser.json).runtime.isConnect then
          connectCalls (extUdpCmdSetupParams parser).1.runCfg (parser.runCfg.runtime.isConnect = 0)
        else [] := by
  have eq := acceptedRequest_eq parser
  rw [if_pos accepted] at eq
  have stored := extUdpCmdSetupParams_runCfg parser
  rw [eq, Option.map_some, Option.getD_some] at stored
  refine ⟨stored, ?_⟩
  rw [stored]
  unfold acceptedRequest at eq
  unfold connectOps setupOps extUdpCmdSetupParams
  generalize setupRequest parser.runCfg parser.toRequest = request at eq ⊢
  generalize requestCfg parser.json = rx at eq ⊢
  obtain ⟨rq, asked⟩ := request
  cases eq
  have kept : (compareCfg parser.runCfg rx).runCfg.runtime.isConnect =
      parser.runCfg.runtime.isConnect := rfl
  obtain ⟨rs232, protocol, media, flags⟩ := compareCfg_setupType parser.runCfg rx
  unfold setupCfg
  simp only [setupApply]
  rw [← kept]
  generalize compareCfg parser.runCfg rx = s at flags
  obtain ⟨out, index, -, sent⟩ := extUdpCmdSendMediaData_eq
    { parser with toRequest := rq, runCfg := s.runCfg }
  obtain ⟨⟨out', index', printed⟩, -⟩ := extJsonResponsePrintConfig_responded
    (extUdpCmdSendMediaData { parser with toRequest := rq, runCfg := s.runCfg })
  rw [sent] at printed
  have others : (if asksSystem parser.runCfg rx then [HwOp.cfgSave s.runCfg, .reboot] else []).filter
      isConnectOp = [] := by
    split <;> rfl
  simp only [sent, printed, flags, setupActions_setupFlags]
  split
  · rw [List.append_assoc, List.drop_left, List.filter_append, others, List.nil_append,
      extUdpCmdConnect_calls, connectCalls_connect]
  · rw [List.drop_left, others]

/-- **The connect flag is set as asked for** exactly if the toggle gives the flag asked for, or the
request is refused. -/
theorem connect_right_iff (parser : ExtJsonParser) (v : UInt8)
    (asked : parser.json.askedFlag (str "IsConnect") = .value v) :
    ConnectRight parser v ↔ (Accepted parser →
      Toggles parser.runCfg.runtime.isConnect ((parser.json.flagAt (str "IsConnect")).getD 0) v) := by
  have isFlag := askedFlag_value asked
  have read : (requestCfg parser.json).runtime.isConnect =
      (parser.json.flagAt (str "IsConnect")).getD 0 := rfl
  by_cases accepted : Accepted parser
  · obtain ⟨stored, calls⟩ := setup_connect accepted
    have flag : (extUdpCmdSetupParams parser).1.runCfg.runtime.isConnect =
        connectAfter parser.runCfg.runtime.isConnect
          ((parser.json.flagAt (str "IsConnect")).getD 0) := by
      rw [stored, setupCfg_eq, read]
    have ok := (extUdpCmdSetupParams_accepts parser).mpr accepted
    rw [read] at calls
    constructor
    · intro right _
      have set_ := right.flag ok
      rw [flag] at set_
      exact (connectAfter_eq_iff isFlag).mp set_
    · intro toggles
      have toggles := toggles accepted
      refine ⟨fun _ => ?_, fun _ => ?_, fun no => by cases ok.symm.trans no⟩
      · rw [flag]
        exact (connectAfter_eq_iff isFlag).mpr toggles
      · rw [calls]
        have changed := toggles.changed_iff isFlag
        by_cases acts : (parser.json.flagAt (str "IsConnect")).getD 0 ≠ 0 ∧
            parser.runCfg.runtime.isConnect ≠ (parser.json.flagAt (str "IsConnect")).getD 0
        · rw [if_pos acts, if_pos (changed.mpr acts)]
          congr 1
          exact decide_eq_decide.mpr (toggles.target isFlag acts)
        · rw [if_neg acts, if_neg fun other => acts (changed.mp other)]
  · have eq := acceptedRequest_eq parser
    rw [if_neg accepted] at eq
    obtain ⟨kept, none_⟩ := setup_refused eq
    have no : ¬ (extUdpCmdSetupParams parser).2 = true :=
      fun ok => accepted ((extUdpCmdSetupParams_accepts parser).mp ok)
    refine iff_of_true ⟨fun ok => absurd ok no, fun ok => absurd ok no, fun _ => ?_⟩
      fun fine => absurd fine accepted
    unfold connectOps
    rw [kept, none_]
    exact ⟨rfl, rfl⟩

/-- A device that is not connected is asked to disconnect. -/
def disconnectAgent : ExtJsonParser := setAgent (str "\"IsConnect\":0")

/-- A device that is not connected is asked to connect. -/
def connectAgent : ExtJsonParser := setAgent (str "\"IsConnect\":1")

theorem connect_right_connect : ConnectRight connectAgent 1 :=
  (connect_right_iff connectAgent 1 (by decide +kernel)).mpr fun _ => by decide +kernel

/-- The device connects when it is asked to disconnect. -/
theorem disconnect_connects : ¬ ∀ (parser : ExtJsonParser) (v : UInt8),
    parser.json.askedFlag (str "IsConnect") = .value v → ConnectRight parser v := by
  intro all
  have right := all disconnectAgent 0 (by decide +kernel)
  exact absurd (right.flag (by decide +kernel)) (by decide +kernel)

end LwipExt.UdpCmd
