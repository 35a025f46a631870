import LwipExt.Nmos.Connection

/-!
Which requests the connection API answers without following a NULL pointer, and with an error
where the resource is not there (`nnmos/extNmosConn.c`).

`connAnswered_iff` says it for all access points: the request has a UUID that no resource is found
for, or the resource that it asks for is there and, for the active parameters of a receiver, has a
subscriber.
-/

namespace LwipExt.Nmos

open Http Lib

/-- An error response. -/
def NmosReply.isError : NmosReply → Bool
  | .body _ => false
  | .restError _ _ => true

/-- The resource that a request asks for: one with the UUID, or any if there is no UUID. -/
def IsThere {α : Type} (nmosId : α → Stored) (uuid : Uuid) (resources : List α) : Prop :=
  if uuid = nullUuid then resources ≠ [] else ∃ r ∈ resources, (nmosId r).uuid = uuid

/-- The request has a UUID, and it is found on none of the resources. -/
def IsUnknown {α : Type} (nmosId : α → Stored) (uuid : Stored) (resources : List α) : Prop :=
  uuidIsNull uuid.uuid = false ∧ ∀ r ∈ resources, extUuidEqual uuid (nmosId r) = false

/-- There is an answer, and it is an error unless the resource is there. -/
def Answered (there : Prop) (reply : Option NmosReply) : Prop :=
  ∃ r, reply = some r ∧ (¬ there → r.isError = true)

/-- What a callback is asked for. A list is there without a UUID, whatever it holds. -/
def Asked (node : ExtNmosNode) (uuid : Uuid) : ApiCallback → Prop
  | .connSingleSenderConstraintsHander | .connSingleSenderStageHander
  | .connSingleSenderActiveHander | .connSingleSenderTransportFileHander =>
      IsThere (·.resourceId.nmosId) uuid node.device.senders
  | .connSingleReceiveConstraintsHander | .connSingleReceiverActiveHander =>
      IsThere (·.resourceId.nmosId) uuid node.device.receivers
  | .connSingleSendersHander =>
      uuid = nullUuid ∨ IsThere (·.resourceId.nmosId) uuid node.device.senders
  | .connSingleReceiversHander =>
      uuid = nullUuid ∨ IsThere (·.resourceId.nmosId) uuid node.device.receivers
  | _ => True

/-- The UUID is found on no resource of the list of a callback. -/
def Unknown (node : ExtNmosNode) (uuid : Stored) : ApiCallback → Prop
  | .connSingleSenderConstraintsHander | .connSingleSenderStageHander
  | .connSingleSenderActiveHander | .connSingleSenderTransportFileHander
  | .connSingleSendersHander => IsUnknown (·.resourceId.nmosId) uuid node.device.senders
  | .connSingleReceiveConstraintsHander | .connSingleReceiverActiveHander
  | .connSingleReceiversHander => IsUnknown (·.resourceId.nmosId) uuid node.device.receivers
  | _ => False

/-- The receiver that is picked for its active parameters has a subscriber. -/
def Subscribed (node : ExtNmosNode) (uuid : Stored) (callback : ApiCallback) : Prop :=
  callback = .connSingleReceiverActiveHander →
    ∀ rcv, select (·.resourceId.nmosId) uuid node.device.receivers = .resource rcv →
      rcv.subscriber ≠ none

/-- The callback that is called. -/
def ApiAnswer.called {κ : Type} : ApiAnswer κ → Option κ
  | .callback (.node ap _ _) => some ap.callback
  | _ => none

/-- The request of a connection, with the UUID that was parsed from its URI. -/
def NmosRequest.parsed (req : NmosRequest) (parsed : Parsed) : NmosRequest :=
  { req with uuid := { req.uuid with uuid := parsed.apiReq.uuid } }

/-! ### The resource that is picked -/

section Select

variable {α : Type} {nmosId : α → Stored} {uuid : Stored} {resources : List α}

theorem uuidIsNull_nullUuid : uuidIsNull nullUuid = true := by decide

theorem select_notFound_iff :
    select nmosId uuid resources = .notFound ↔ IsUnknown nmosId uuid resources := by
  unfold select IsUnknown
  by_cases null : uuidIsNull uuid.uuid = true
  · rw [if_neg (not_not.mpr null)]
    refine iff_of_false ?_ fun unknown => ?_
    · cases resources with
      | nil => exact fun same => by cases same
      | cons r rest => exact fun same => by cases same
    · rw [null] at unknown
      cases unknown.1
  · rw [if_pos null]
    have named := Bool.eq_false_iff.mpr null
    cases found : resources.find? fun r => extUuidEqual uuid (nmosId r) with
    | none =>
        refine iff_of_true rfl ⟨named, fun r mem => ?_⟩
        exact Bool.eq_false_iff.mpr (List.find?_eq_none.mp found r mem)
    | some r =>
        refine iff_of_false (fun same => by cases same) fun unknown => ?_
        have equal := List.find?_some found
        rw [unknown.2 r (List.mem_of_find?_eq_some found)] at equal
        cases equal

theorem select_null (null : select nmosId uuid resources = .null) :
    uuidIsNull uuid.uuid = true ∧ resources = [] := by
  unfold select at null
  by_cases isNull : uuidIsNull uuid.uuid = true
  · rw [if_neg (not_not.mpr isNull)] at null
    cases resources with
    | nil => exact ⟨isNull, rfl⟩
    | cons r rest => cases null
  · rw [if_pos isNull] at null
    cases found : resources.find? fun r => extUuidEqual uuid (nmosId r) with
    | none =>
        rw [found] at null
        cases null
    | some r =>
        rw [found] at null
        cases null

theorem not_isThere_nil (uuid : Uuid) : ¬ IsThere nmosId uuid [] := by
  unfold IsThere
  split_ifs
  · exact fun some_ => some_ rfl
  · rintro ⟨r, mem, -⟩
    cases mem

theorem answered_body_iff (there : Prop) (printing : Printing UInt8) :
    Answered there (some (.body printing)) ↔ there := by
  constructor
  · rintro ⟨r, answer, error⟩
    cases answer
    by_contra absent
    cases error absent
  · exact fun isThere => ⟨_, rfl, fun absent => absurd isThere absent⟩

theorem answered_error (there : Prop) (code : Nat) (debug : Bytes) :
    Answered there (some (.restError code debug)) := ⟨_, rfl, fun _ => rfl⟩

theorem not_answered_none (there : Prop) : ¬ Answered there none := by
  rintro ⟨r, answer, -⟩
  cases answer

/-- A handler for a single resource. -/
theorem answered_answer_iff {notFound : Bytes} {null : Option NmosReply}
    {found : α → Option NmosReply} (nullBody : ∀ r, null = some r → r.isError = false)
    (foundBody : ∀ resource r, found resource = some r → r.isError = false) :
    Answered (IsThere nmosId uuid.uuid resources)
        ((select nmosId uuid resources).answer notFound null found) ↔
      IsUnknown nmosId uuid resources ∨ IsThere nmosId uuid.uuid resources ∧
        ∀ r, select nmosId uuid resources = .resource r → found r ≠ none := by
  -- an answer that is no error is right if the resource is there
  have body {there : Prop} {reply : Option NmosReply}
      (noError : ∀ r, reply = some r → r.isError = false) :
      Answered there reply ↔ there ∧ reply ≠ none := by
    cases reply with
    | none => exact iff_of_false (not_answered_none _) fun both => both.2 rfl
    | some r =>
        cases r with
        | body printing =>
            rw [answered_body_iff]
            exact (and_iff_left fun none_ => by cases none_).symm
        | restError code debug => cases noError _ rfl
  rw [← select_notFound_iff]
  cases choice : select nmosId uuid resources with
  | resource r =>
      rw [or_iff_right (fun same => by cases same), Selected.answer, body (foundBody r)]
      refine and_congr_right fun _ => ⟨fun some_ r' same => ?_, fun all => all r rfl⟩
      cases same
      exact some_
  | null =>
      have empty := (select_null choice).2
      have absent : ¬ IsThere nmosId uuid.uuid resources := by
        rw [empty]
        exact not_isThere_nil _
      rw [or_iff_right (fun same => by cases same), Selected.answer, body nullBody]
      exact iff_of_false (fun both => absent both.1) fun both => absent both.1
  | notFound => exact iff_of_true (answered_error _ _ _) (.inl rfl)

/-- A handler that has an answer about every resource that it picks. -/
theorem answered_answer_iff_of_body {notFound : Bytes} {null : Option NmosReply}
    {found : α → Option NmosReply} (nullBody : ∀ r, null = some r → r.isError = false)
    (foundBody : ∀ resource, ∃ printing, found resource = some (.body printing)) :
    Answered (IsThere nmosId uuid.uuid resources)
        ((select nmosId uuid resources).answer notFound null found) ↔
      IsUnknown nmosId uuid resources ∨ IsThere nmosId uuid.uuid resources := by
  rw [answered_answer_iff nullBody]
  · refine or_congr_right (and_iff_left fun resource _ => ?_)
    obtain ⟨printing, body⟩ := foundBody resource
    rw [body]
    exact fun none_ => by cases none_
  · intro resource r answer
    obtain ⟨printing, body⟩ := foundBody resource
    cases body.symm.trans answer
    rfl

/-- A handler for a list. -/
theorem answered_connSingleHander_iff {κ : Type} (resourceId : α → ExtNmosResource)
    (notFound : Bytes) (child : ApiAccessPointer κ) (req : NmosRequest) :
    Answered (req.uuid.uuid = nullUuid ∨
        IsThere (fun r => (resourceId r).nmosId) req.uuid.uuid resources)
        (some (connSingleHander resourceId notFound child req resources)) ↔
      IsUnknown (fun r => (resourceId r).nmosId) req.uuid resources ∨
        (req.uuid.uuid = nullUuid ∨
          IsThere (fun r => (resourceId r).nmosId) req.uuid.uuid resources) := by
  unfold connSingleHander
  by_cases null : uuidIsNull req.uuid.uuid = true
  · rw [if_neg (not_not.mpr null), answered_body_iff]
    refine (or_iff_right fun unknown => ?_).symm
    cases null.symm.trans unknown.1
  · rw [if_pos null]
    cases found : resources.find? fun r => extUuidEqual req.uuid (resourceId r).nmosId with
    | none =>
        refine iff_of_true (answered_error _ _ _) (.inl ⟨Bool.eq_false_iff.mpr null, ?_⟩)
        exact fun r mem => Bool.eq_false_iff.mpr (List.find?_eq_none.mp found r mem)
    | some r =>
        dsimp only
        rw [extNmosRootApHander, answered_body_iff]
        refine (or_iff_right fun unknown => ?_).symm
        have equal := List.find?_some found
        rw [unknown.2 r (List.mem_of_find?_eq_some found)] at equal
        cases equal

end Select

/-! ### All access points -/

section Handers

variable (node : ExtNmosNode) (req : NmosRequest)

theorem answered_receiverActive_iff :
    Answered (IsThere (·.resourceId.nmosId) req.uuid.uuid node.device.receivers)
        (connSingleReceiverActiveHander node req) ↔
      IsUnknown (·.resourceId.nmosId) req.uuid node.device.receivers ∨
        IsThere (·.resourceId.nmosId) req.uuid.uuid node.device.receivers ∧
          Subscribed node req.uuid .connSingleReceiverActiveHander := by
  unfold connSingleReceiverActiveHander
  rw [answered_answer_iff]
  · refine or_congr_right (and_congr_right fun _ => ?_)
    unfold Subscribed
    simp only [ne_eq, Option.map_eq_none_iff, true_implies]
  · exact fun r none_ => by cases none_
  · intro rcv r answer
    obtain ⟨uuid, -, body⟩ := Option.map_eq_some_iff.mp answer
    rw [← body]
    rfl

theorem answered_callHander_iff (ap : ApiAccessPoint ApiCallback)
    (child : ApiAccessPointer ApiCallback) :
    Answered (Asked node req.uuid.uuid ap.callback) (callHander node req ap child) ↔
      Unknown node req.uuid ap.callback ∨
        Asked node req.uuid.uuid ap.callback ∧ Subscribed node req.uuid ap.callback := by
  obtain ⟨name, callback⟩ := ap
  unfold callHander
  by_cases active : callback = .connSingleReceiverActiveHander
  · rw [active]
    exact answered_receiverActive_iff node req
  have subscribed : Subscribed node req.uuid callback := fun same => absurd same active
  rw [and_iff_left subscribed]
  cases callback with
  | connSingleReceiverActiveHander => exact absurd rfl active
  | connSingleSenderConstraintsHander =>
      exact answered_answer_iff_of_body (by rintro r ⟨⟩; rfl) fun _ => ⟨_, rfl⟩
  | connSingleReceiveConstraintsHander =>
      exact answered_answer_iff_of_body (by rintro r ⟨⟩; rfl) fun _ => ⟨_, rfl⟩
  | connSingleSenderStageHander =>
      exact answered_answer_iff_of_body (fun r none_ => by cases none_) fun _ => ⟨_, rfl⟩
  | connSingleSenderActiveHander =>
      exact answered_answer_iff_of_body (fun r none_ => by cases none_) fun _ => ⟨_, rfl⟩
  | connSingleSenderTransportFileHander =>
      exact answered_answer_iff_of_body (fun r none_ => by cases none_) fun _ => ⟨_, rfl⟩
  | connSingleSendersHander => exact answered_connSingleHander_iff _ _ _ _
  | connSingleReceiversHander => exact answered_connSingleHander_iff _ _ _ _
  | _ => exact iff_of_true ⟨_, rfl, fun none_ => absurd trivial none_⟩ (.inr trivial)

end Handers

/-! ### The connection API -/

theorem apLoop_ne_null {κ : Type} {apiReq : ExtNmosApiReq} {t found : ApiAccessPointer κ}
    {index : Nat} (loop : apLoop apiReq t index = some found) : found ≠ .null := by
  induction t generalizing index with
  | null => cases loop
  | node ap child next down on =>
      unfold apLoop at loop
      dsimp only at loop
      split_ifs at loop
      · cases loop
        exact fun same => by cases same
      · exact down loop
      · exact on loop

theorem extRestApiHandle_ne_null {κ : Type} {root : ApiAccessPointer κ} (parsed : Bool × Parsed)
    (some_ : root ≠ .null) : extRestApiHandle root parsed ≠ .callback .null := by
  unfold extRestApiHandle
  dsimp only
  split_ifs
  · exact fun same => by cases same
  · intro same
    cases same
    exact some_ rfl
  · generalize loop : apLoop _ _ _ = found
    cases found with
    | none => exact fun same => by cases same
    | some ap =>
        intro same
        cases same
        exact apLoop_ne_null loop rfl

/-- **Requests for a resource.** Whatever the URI, the connection API answers without following a
NULL pointer, and with an error unless the resource is there, exactly when the UUID of the request
is found on no resource, or the resource is there and a receiver whose active parameters are asked
for has a subscriber. -/
theorem connAnswered_iff (node : ExtNmosNode) (req : NmosRequest) (parsed : Bool × Parsed) :
    let answer := extRestApiHandle apConnRoot parsed
    let req := req.parsed parsed.2
    Answered (∀ callback, answer.called = some callback → Asked node req.uuid.uuid callback)
        (restApiReply node req answer) ↔
      ∀ callback, answer.called = some callback →
        Unknown node req.uuid callback ∨
          Asked node req.uuid.uuid callback ∧ Subscribed node req.uuid callback := by
  intro answer req
  have notNull : answer ≠ .callback .null := extRestApiHandle_ne_null parsed (by decide)
  clear_value answer
  cases answer with
  | callback ap =>
      cases ap with
      | null => exact absurd rfl notNull
      | node ap child next =>
          have one {p : ApiCallback → Prop} :
              (∀ callback, (ApiAnswer.callback (.node ap child next)).called = some callback →
                p callback) ↔ p ap.callback :=
            ⟨fun all => all _ rfl, fun here callback same => Option.some.inj same ▸ here⟩
          rw [one, one]
          exact answered_callHander_iff node req ap child
  | restError code debug =>
      exact iff_of_true (answered_error _ _ _) fun callback none_ => by cases none_

/-- A resource without strings. -/
def plainResource (uuid : Uuid) : ExtNmosResource :=
  { nmosId := ⟨uuid, []⟩, seconds := 0, nanoSeconds := 0, label := [], description := [],
    tags := none }

/-- A receiving node with one receiver, that nothing is subscribed to. -/
def receivingNode : ExtNmosNode where
  resourceId := plainResource (Vector.replicate 16 1)
  device :=
    { resourceId := plainResource (Vector.replicate 16 2)
      receivers := [{ resourceId := plainResource (Vector.replicate 16 3)
                      interface_binding := str "MuxEthernet"
                      format := .video
                      caps := str "video/raw" }] }
  runCfg := {}
  httpPort := 80

/-- The active parameters of a receiver without a subscriber. -/
theorem not_connAnswered :
    ¬ ∀ (node : ExtNmosNode) (req : NmosRequest) (fuel : Nat) (uri : Bytes)
      (parsed : Bool × Parsed), extHttpNmosParseApiRequest fuel uri .connection = some parsed →
        let answer := extRestApiHandle apConnRoot parsed
        let req := req.parsed parsed.2
        Answered (∀ callback, answer.called = some callback → Asked node req.uuid.uuid callback)
          (restApiReply node req answer) := by
  intro all
  obtain ⟨r, answer, -⟩ := all receivingNode ⟨.get, [], ⟨nullUuid, []⟩, fun _ => 0⟩ 64
    (str "/x-nmos/connection/v1.0/single/receivers/active") _ rfl
  have noAnswer : (none : Option NmosReply) = some r := answer
  cases noAnswer

end LwipExt.Nmos
