import LwipExt.Http.Resources
import LwipExt.Lib.SiblingTree
import LwipExt.Nmos.ApiRequest

/-!
The access points of the REST APIs, and how `_extRestApiHandle` finds the one that a URI asks
for: `nnmos/extNmosHttp.c`, with the tables of `nnmos/extNmosNode.c` and `nnmos/extNmosConn.c`.

A pointer to an `ApiAccessPoint` is a `Lib.SiblingTree`, and the loop of the function a
`SiblingTree.walk`. `extRestApiHandle_iff` says which callback it calls.
-/

namespace LwipExt.Nmos

open Http Lib

/-! ### Access points -/

/-- `ApiAccessPoint`, without its pointers `child` and `next` and the `type` that nothing but
debug output reads. -/
structure ApiAccessPoint (κ : Type) where
  name : Bytes
  callback : κ
  deriving DecidableEq, Repr

/-- `const ApiAccessPoint *`. -/
abbrev ApiAccessPointer (κ : Type) := SiblingTree (ApiAccessPoint κ)

/-- The name of the access point is a resource, in whatever case. -/
def ApiAccessPoint.isNamed {κ : Type} (ap : ApiAccessPoint κ) (resource : Bytes) : Bool :=
  isStringEqual ap.name resource

/-- The names of two access points are the same, in whatever case. -/
def ApiAccessPoint.sameName {κ : Type} (ap ap' : ApiAccessPoint κ) : Bool :=
  isStringEqual ap.name ap'.name

/-- A row of `resources`: the text, and NULs from the `memset` behind it. -/
def resourceRow (resource : Bytes) : Bytes :=
  resource ++ List.replicate (nmosUriResourceLength - resource.length) 0

/-- `resources[index]` as a string. It does not end with its row when that has no NUL. -/
def ExtNmosApiReq.resourceAt (apiReq : ExtNmosApiReq) (index : Nat) : Bytes :=
  cstr ((apiReq.resources.map resourceRow).flatten.drop (nmosUriResourceLength * index))

/-! ### The search -/

section Handle

variable {κ : Type}

/-- The loop of `_extRestApiHandle`: the access point whose callback it calls. -/
def apLoop (apiReq : ExtNmosApiReq) : ApiAccessPointer κ → (index : Nat) →
    Option (ApiAccessPointer κ)
  | .null, _ => none
  | .node ap child next, index =>
      if isStringEqual ap.name (apiReq.resourceAt index) then
        let index := index + 1
        if index = apiReq.resources.length then some (.node ap child next)
        else apLoop apiReq child index
      else apLoop apiReq next index

/-- What `_extRestApiHandle` does: call the callback of an access point, with that access point
as its data, or answer with an error. -/
inductive ApiAnswer (κ : Type) where
  | callback (ap : ApiAccessPointer κ)
  | restError (code : Nat) (debug : Bytes)
  deriving DecidableEq, Repr

/-- `_extRestApiHandle`, with the result of `extHttpNmosParseApiRequest`. -/
def extRestApiHandle (apiAcRoot : ApiAccessPointer κ) (parsed : Bool × Parsed) : ApiAnswer κ :=
  let apiReq := parsed.2.apiReq
  if parsed.1 = false then
    .restError webResBadRequest (str "Failed in parsing resources in URI")
  else if apiReq.resources.length = 0 then .callback apiAcRoot
  else
    let child := match apiAcRoot with
      | .node _ child _ => child
      | .null => .null
    match apLoop apiReq child 0 with
    | some ap => .callback ap
    | none => .restError webResBadRequest (str "Can't find service of URI")

end Handle

/-! ### The tables -/

/-- The callbacks of the tables. -/
inductive ApiCallback where
  | extNmosRootApHander
  | extNmosNodeDumpHander
  | nmosSelfHander
  | nmosDeviceHander
  | nmosSourcesHander
  | nmosFlowsHander
  | nmosSendersHander
  | nmosReceiversHander
  | connBulkSendersHander
  | connBulkReceiversHander
  | connSingleSendersHander
  | connSingleSenderConstraintsHander
  | connSingleSenderStageHander
  | connSingleSenderActiveHander
  | connSingleSenderTransportFileHander
  | connSingleReceiversHander
  | connSingleReceiveConstraintsHander
  | connSingleReceiverActiveHander
  deriving DecidableEq, Repr

/-- An access point with its pointers `child` and `next`. -/
def accessPoint (name : Bytes) (callback : ApiCallback)
    (child next : ApiAccessPointer ApiCallback) : ApiAccessPointer ApiCallback :=
  .node { name, callback } child next

/-- `apNodeRoot`. -/
def apNodeRoot : ApiAccessPointer ApiCallback :=
  let receivers := accessPoint (str "receivers") .nmosReceiversHander .null .null
  let senders := accessPoint (str "senders") .nmosSendersHander .null receivers
  let flows := accessPoint (str "flows") .nmosFlowsHander .null senders
  let sources := accessPoint (str "sources") .nmosSourcesHander .null flows
  let devices := accessPoint (str "devices") .nmosDeviceHander .null sources
  let self := accessPoint (str "self") .nmosSelfHander .null devices
  accessPoint (str "/") .extNmosRootApHander self .null

/-- `__apConnSingleReceiver`. -/
def apConnSingleReceiver : ApiAccessPointer ApiCallback :=
  let active := accessPoint (str "active") .connSingleReceiverActiveHander .null .null
  let staged := accessPoint (str "staged") .extNmosNodeDumpHander .null active
  let constraints :=
    accessPoint (str "constraints") .connSingleReceiveConstraintsHander .null staged
  accessPoint (str "receivers") .connSingleReceiversHander constraints .null

/-- `__apConnSingleSenders`. -/
def apConnSingleSenders : ApiAccessPointer ApiCallback :=
  let transportfile :=
    accessPoint (str "transportfile") .connSingleSenderTransportFileHander .null .null
  let active := accessPoint (str "active") .connSingleSenderActiveHander .null transportfile
  let staged := accessPoint (str "staged") .connSingleSenderStageHander .null active
  let constraints :=
    accessPoint (str "constraints") .connSingleSenderConstraintsHander .null staged
  accessPoint (str "senders") .connSingleSendersHander constraints apConnSingleReceiver

/-- `apConnRoot`. -/
def apConnRoot : ApiAccessPointer ApiCallback :=
  let single := accessPoint (str "single") .extNmosRootApHander apConnSingleSenders .null
  let receivers := accessPoint (str "receivers") .connBulkReceiversHander .null .null
  let senders := accessPoint (str "senders") .connBulkSendersHander .null receivers
  let bulk := accessPoint (str "bulk") .extNmosRootApHander senders single
  accessPoint (str "/") .extNmosRootApHander bulk .null

/-! ### What is called -/

section Found

variable {κ : Type}

theorem length_resourceRow {resource : Bytes} (short : resource.length ≤ nmosUriResourceLength) :
    (resourceRow resource).length = nmosUriResourceLength := by
  unfold resourceRow
  rw [List.length_append, List.length_replicate]
  omega

theorem cstr_append_zero (text rest : Bytes) : cstr (text ++ 0 :: rest) = cstr text := by
  induction text with
  | nil => rfl
  | cons b text ih =>
      unfold cstr at ih ⊢
      rw [List.cons_append, List.takeWhile_cons, List.takeWhile_cons, ih]

theorem drop_resourceRows {resources : List Bytes} {index : Nat} {r : Bytes}
    (short : ∀ r ∈ resources, r.length < nmosUriResourceLength)
    (at_ : resources[index]? = some r) :
    ∃ rest, (resources.map resourceRow).flatten.drop (nmosUriResourceLength * index) =
      resourceRow r ++ rest := by
  induction resources generalizing index with
  | nil => cases at_
  | cons first resources ih =>
      have row := length_resourceRow (short first List.mem_cons_self).le
      rw [List.map_cons, List.flatten_cons]
      cases index with
      | zero =>
          cases at_
          exact ⟨_, rfl⟩
      | succ index =>
          have skip : nmosUriResourceLength * (index + 1) =
              (resourceRow first).length + nmosUriResourceLength * index := by
            rw [row, Nat.mul_succ, Nat.add_comm]
          rw [skip, List.drop_length_add_append]
          exact ih (fun r mem => short r (List.mem_cons_of_mem _ mem)) at_

/-- A string that leaves room for a NUL ends in its row. -/
theorem resourceAt_eq {apiReq : ExtNmosApiReq} {index : Nat} {r : Bytes}
    (short : ∀ r ∈ apiReq.resources, r.length < nmosUriResourceLength)
    (at_ : apiReq.resources[index]? = some r) : apiReq.resourceAt index = cstr r := by
  obtain ⟨rest, rows⟩ := drop_resourceRows short at_
  have room := short r (List.mem_of_getElem? at_)
  obtain ⟨n, pad⟩ : ∃ n, nmosUriResourceLength - r.length = n + 1 :=
    Nat.exists_eq_succ_of_ne_zero (by omega)
  unfold ExtNmosApiReq.resourceAt
  rw [rows, resourceRow, pad, List.replicate_succ, List.append_assoc, List.cons_append]
  exact cstr_append_zero r _

theorem isStringEqual_cstr (a b : Bytes) : isStringEqual a (cstr b) = isStringEqual a b := by
  unfold isStringEqual
  rw [cstr_of_not_mem (zero_not_mem_cstr b)]

/-- The loop is the walk of the tree along the resources that are left. -/
theorem apLoop_eq {apiReq : ExtNmosApiReq}
    (short : ∀ r ∈ apiReq.resources, r.length < nmosUriResourceLength)
    (t : ApiAccessPointer κ) {index : Nat} (inside : index < apiReq.resources.length) :
    apLoop apiReq t index =
      t.walk ApiAccessPoint.isNamed (apiReq.resources.drop index) := by
  induction t generalizing index with
  | null => rfl
  | node ap child next down on =>
      have text := resourceAt_eq short (List.getElem?_eq_getElem inside)
      rw [List.drop_eq_getElem_cons inside]
      unfold apLoop SiblingTree.walk
      rw [text, isStringEqual_cstr, ← List.drop_eq_getElem_cons inside]
      unfold ApiAccessPoint.isNamed
      by_cases found : isStringEqual ap.name apiReq.resources[index]
      · rw [if_pos found, if_pos found]
        dsimp only
        by_cases ends : index + 1 = apiReq.resources.length
        · rw [if_pos ends, if_pos (List.drop_eq_nil_of_le ends.ge)]
        · have more : apiReq.resources.drop (index + 1) ≠ [] := by
            rw [ne_eq, List.drop_eq_nil_iff]
            omega
          rw [if_neg ends, if_neg more]
          exact down (by omega)
      · rw [if_neg found, if_neg found]
        exact on inside

theorem sameName_of_isNamed (ap ap' : ApiAccessPoint κ) (r : Bytes) (named : ap.isNamed r)
    (named' : ap'.isNamed r) : ap.sameName ap' := by
  unfold ApiAccessPoint.isNamed isStringEqual at named named'
  unfold ApiAccessPoint.sameName isStringEqual
  rw [decide_eq_true_iff] at named named' ⊢
  rw [named, named']

/-- The search of `_extRestApiHandle` is the recursive one. -/
theorem extRestApiHandle_eq (root : ApiAccessPointer κ) (parsed : Parsed)
    (short : ∀ r ∈ parsed.apiReq.resources, r.length < nmosUriResourceLength) :
    extRestApiHandle root (true, parsed) =
      (root.lookup ApiAccessPoint.isNamed parsed.apiReq.resources).elim
        (.restError webResBadRequest (str "Can't find service of URI")) .callback := by
  unfold extRestApiHandle
  dsimp only
  rw [if_neg Bool.true_eq_false.mp]
  cases path : parsed.apiReq.resources with
  | nil => rfl
  | cons r rest =>
      have inside : 0 < parsed.apiReq.resources.length := by
        rw [path]
        exact Nat.zero_lt_succ _
      have some : (r :: rest).length ≠ 0 := Nat.succ_ne_zero _
      rw [if_neg some, apLoop_eq short _ inside, List.drop_zero, path, SiblingTree.walk_eq]
      have lookup : (root.lookup ApiAccessPoint.isNamed (r :: rest)) =
          (root.children.find? (SiblingTree.Fits ApiAccessPoint.isNamed r)).bind
            fun c => c.lookup ApiAccessPoint.isNamed rest := rfl
      rw [lookup]
      cases root with
      | null => rfl
      | node ap child next =>
          dsimp only [SiblingTree.children]
          cases (child.siblings.find? (SiblingTree.Fits ApiAccessPoint.isNamed r)).bind
            fun c => c.lookup ApiAccessPoint.isNamed rest with
          | none => rfl
          | some node => rfl

/-- **The access point of a URI.** With resources that their buffers hold, the callback that is
called is the one of the node at the end of the path, and without such a node the answer is an
error; the empty path is the root. With distinct names among siblings, that node is the one which
the path leads to. -/
theorem extRestApiHandle_iff (root : ApiAccessPointer κ) (parsed : Parsed)
    (short : ∀ r ∈ parsed.apiReq.resources, r.length < nmosUriResourceLength) :
    let path := parsed.apiReq.resources
    let answer := extRestApiHandle root (true, parsed)
    (∀ node, answer = .callback node ↔ root.lookup ApiAccessPoint.isNamed path = some node) ∧
      ((∀ node, root.lookup ApiAccessPoint.isNamed path ≠ some node) ↔
        answer = .restError webResBadRequest (str "Can't find service of URI")) ∧
      (path = [] → answer = .callback root) ∧
      (root.Distinct ApiAccessPoint.sameName → ∀ node,
        root.lookup ApiAccessPoint.isNamed path = some node ↔
          root.Reaches ApiAccessPoint.isNamed path node) := by
  intro path answer
  have searched : answer = (root.lookup ApiAccessPoint.isNamed path).elim
      (.restError webResBadRequest (str "Can't find service of URI")) .callback :=
    extRestApiHandle_eq root parsed short
  refine ⟨?_, ?_, ?_, ?_⟩
  · intro node
    rw [searched]
    cases root.lookup ApiAccessPoint.isNamed path with
    | none => simp
    | some found => simp
  · rw [searched]
    cases root.lookup ApiAccessPoint.isNamed path with
    | none => simp
    | some found => simp
  · intro empty
    rw [searched, empty]
    rfl
  · intro distinct node
    exact SiblingTree.lookup_eq_some_iff sameName_of_isNamed distinct

end Found

/-- The tables have distinct names among siblings. -/
theorem tables_distinct : apNodeRoot.Distinct ApiAccessPoint.sameName ∧
    apConnRoot.Distinct ApiAccessPoint.sameName := by
  decide +kernel

/-- A URI of the connection API, in upper case. -/
def activeSender : Parsed :=
  { apiReq := { resources := [str "single", str "SENDERS", str "active"] } }

theorem extRestApiHandle_sample :
    (∀ r ∈ activeSender.apiReq.resources, r.length < nmosUriResourceLength) ∧
      (∃ child next, extRestApiHandle apConnRoot (true, activeSender) =
        .callback (accessPoint (str "active") .connSingleSenderActiveHander child next)) ∧
      let path := activeSender.apiReq.resources
      let answer := extRestApiHandle apConnRoot (true, activeSender)
      (∀ node, answer = .callback node ↔
        apConnRoot.lookup ApiAccessPoint.isNamed path = some node) ∧
        ((∀ node, apConnRoot.lookup ApiAccessPoint.isNamed path ≠ some node) ↔
          answer = .restError webResBadRequest (str "Can't find service of URI")) ∧
        (path = [] → answer = .callback apConnRoot) ∧
        (apConnRoot.Distinct ApiAccessPoint.sameName → ∀ node,
          apConnRoot.lookup ApiAccessPoint.isNamed path = some node ↔
            apConnRoot.Reaches ApiAccessPoint.isNamed path node) :=
  ⟨by decide +kernel, ⟨_, _, rfl⟩,
    extRestApiHandle_iff apConnRoot activeSender (by decide +kernel)⟩

end LwipExt.Nmos
