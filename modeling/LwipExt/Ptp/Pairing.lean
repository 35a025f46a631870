import LwipExt.Ptp.Recall

/-!
Which Sync a Follow_Up completes.

The flag and the sequence number that pair the two messages say nothing of the sender of the
Sync. The pair is right as long as the parent stays the same between the two.
-/

namespace LwipExt.Ptp

open Memory (Change Changes)

/-- A Sync with the sender and the sequence number of a Follow_Up, with its receive time, and the
correction of both messages. -/
def Note.completedBy (followUp : MsgHeader) (ingress correction : TimeInternal) : Note → Prop
  | .received sync _ time =>
      MsgType.ofCode sync.messageType = some .sync ∧
        sync.sourcePortIdentity = followUp.sourcePortIdentity ∧
        sync.sequenceId = followUp.sequenceId ∧ time = ingress ∧
        correction = addTime (scaledNanosecondsToInternalTime followUp.correctionfield)
          (scaledNanosecondsToInternalTime sync.correctionfield)
  | _ => False

instance (followUp : MsgHeader) (ingress correction : TimeInternal) :
    DecidablePred (Note.completedBy followUp ingress correction)
  | .received _ _ _ => inferInstanceAs (Decidable (_ ∧ _))
  | .request _ _ _ | .delayResp _ _ | .pdelayResp _ _ _ | .pdelayRespFollowUp _ _
  | .offsetSample _ _ _ | .delaySample _ _ | .cleared => .isFalse id

/-- An offset is computed from the message that was just received, and if that is a Follow_Up,
from the Sync before it that it belongs to. -/
def Paired : Note → List Note → Prop
  | .offsetSample ingress _ correction, .received header _ _ :: past =>
      MsgType.ofCode header.messageType = some .followUp →
        ∃ sync ∈ past, sync.completedBy header ingress correction
  | .offsetSample _ _ _, _ => False
  | _, _ => True

instance : ∀ note past, Decidable (Paired note past)
  | .offsetSample _ _ _, .received _ _ _ :: _ => inferInstanceAs (Decidable (_ → _))
  | .offsetSample _ _ _, [] | .offsetSample _ _ _, .request _ _ _ :: _
  | .offsetSample _ _ _, .delayResp _ _ :: _ | .offsetSample _ _ _, .pdelayResp _ _ _ :: _
  | .offsetSample _ _ _, .pdelayRespFollowUp _ _ :: _
  | .offsetSample _ _ _, .offsetSample _ _ _ :: _
  | .offsetSample _ _ _, .delaySample _ _ :: _ | .offsetSample _ _ _, .cleared :: _ => .isFalse id
  | .received _ _ _, _ | .request _ _ _, _ | .delayResp _ _, _ | .pdelayResp _ _ _, _
  | .pdelayRespFollowUp _ _, _ | .delaySample _ _, _ | .cleared, _ => .isTrue trivial

/-- No state decision selects another master while a Follow_Up is awaited. -/
def KeepsParent (c : PtpClock) : PtpAction → Prop
  | .expire _ => True
  | .step _ => ¬ switches c

instance (c : PtpClock) : ∀ action, Decidable (KeepsParent c action)
  | .expire _ => .isTrue trivial
  | .step _ => inferInstanceAs (Decidable (¬ _))

namespace Memory

variable {a b : Memory}

/-- While a Follow_Up is awaited, a Sync of the parent is remembered. -/
structure Pairs (a : Memory) : Prop where
  safe : a.Safe
  awaited : a.waitingForFollowUp = true → ∃ header payload,
    .received header payload a.timestampSyncRecieve ∈ a.notes ∧
      MsgType.ofCode header.messageType = some .sync ∧ header.sourcePortIdentity = a.parent ∧
      header.sequenceId = a.recvSyncSequenceId ∧
      scaledNanosecondsToInternalTime header.correctionfield = a.correctionFieldSync
  paired : Lib.Throughout Paired a.notes

/-- What is remembered of the Sync. -/
def awaitedSync (a : Memory) : Bool × PortIdentity × Int16 × TimeInternal × TimeInternal :=
  (a.waitingForFollowUp, a.parent, a.recvSyncSequenceId, a.timestampSyncRecieve,
    a.correctionFieldSync)

/-- A note that is no offset. -/
def Silent (note : Note) : Prop := ∀ past, Paired note past

theorem throughout_paired_append {new past : List Note} (silent : ∀ note ∈ new, Silent note)
    (paired : Lib.Throughout Paired past) : Lib.Throughout Paired (new ++ past) := by
  induction new with
  | nil => exact paired
  | cons note new ih =>
      exact Lib.throughout_cons.mpr ⟨silent note List.mem_cons_self _,
        ih fun other mem => silent other (List.mem_cons_of_mem note mem)⟩

/-- More is noted, but no offset computed. -/
theorem Pairs.noted (pairs : a.Pairs) (new : List Note) (safe : b.Safe)
    (same : b.awaitedSync = a.awaitedSync) (notes : b.notes = new ++ a.notes)
    (silent : ∀ note ∈ new, Silent note) : b.Pairs := by
  simp only [awaitedSync, Prod.mk.injEq] at same
  obtain ⟨waiting, parent, sequence, ingress, correction⟩ := same
  refine ⟨safe, ?_, ?_⟩
  · rw [waiting, parent, sequence, ingress, correction, notes]
    intro awaited
    obtain ⟨header, payload, mem, rest⟩ := pairs.awaited awaited
    exact ⟨header, payload, List.mem_append_right new mem, rest⟩
  · rw [notes]
    exact throughout_paired_append silent pairs.paired

theorem Pairs.change (change : Change False a b) (pairs : a.Pairs) : b.Pairs := by
  have safe : b.Safe := pairs.safe.change change
  cases change with
  | clear => exact ⟨safe, nofun, Lib.throughout_cons.mpr ⟨trivial, pairs.paired⟩⟩
  | enter state entered => exact ⟨safe, pairs.awaited, pairs.paired⟩
  | adopt parent kept =>
      refine ⟨safe, fun waiting => ?_, pairs.paired⟩
      rcases kept waiting with same | switched
      · obtain ⟨header, payload, mem, type, source, rest⟩ := pairs.awaited waiting
        exact ⟨header, payload, mem, type, source.trans same.symm, rest⟩
      · exact switched.elim
  | receive header payload time =>
      exact pairs.noted [.received header payload time] safe rfl rfl (by simp [Silent, Paired])
  | @sync header payload time past received type source state =>
      have mem : .received header payload time ∈ a.notes := by
        rw [received]
        exact List.mem_cons_self
      exact ⟨safe, fun _ => ⟨header, payload, mem, type, source, rfl, rfl⟩, pairs.paired⟩
  | syncOneStep origin offsets received type =>
      refine ⟨safe, nofun, Lib.throughout_cons.mpr ⟨?_, pairs.paired⟩⟩
      dsimp only
      rw [received]
      intro other
      rw [type] at other
      cases other
  | followUp origin offsets received type waiting source sequence =>
      refine ⟨safe, nofun, Lib.throughout_cons.mpr ⟨?_, pairs.paired⟩⟩
      obtain ⟨sync, payload, mem, kind, sender, number, correction⟩ := pairs.awaited waiting
      dsimp only
      rw [received] at mem ⊢
      intro _
      rcases List.mem_cons.mp mem with same | earlier
      · cases same
        rw [type] at kind
        cases kind
      · refine ⟨_, earlier, kind, sender.trans source.symm, number.trans sequence.symm, rfl, ?_⟩
        rw [correction]
  | delayReq egress | pdelayReq egress =>
      exact pairs.noted [_] safe rfl rfl (by simp [Silent, Paired])
  | delayResp matched stamp sampled =>
      refine pairs.noted (_ ++ [_]) safe rfl (by simp; rfl) ?_
      rcases sampled with rfl | ⟨-, rfl⟩ <;> simp [Silent, Paired]
  | pdelayResp matched stamp =>
      exact pairs.noted [_] safe rfl rfl (by simp [Silent, Paired])
  | pdelayRespOneStep matched oneStep sampled =>
      refine pairs.noted (_ ++ [_]) safe rfl (by simp; rfl) ?_
      rcases sampled with rfl | rfl <;> simp [Silent, Paired]
  | pdelayRespFollowUp waiting matched stamp sampled =>
      refine pairs.noted (_ ++ [_]) safe rfl (by simp; rfl) ?_
      rcases sampled with rfl | rfl <;> simp [Silent, Paired]

end Memory

/-- A clock of the network that is a two-step master, before its next Sync. -/
def master (n : UInt8) (sentSyncSequenceId : Int16) : PtpClock :=
  { peer n with
    defaultDS := { twoStepFlag := true }
    sentSyncSequenceId := sentSyncSequenceId }

/-- Along a run that keeps the parent while a Follow_Up is awaited, every offset of a Follow_Up is
computed with the Sync that it belongs to. -/
theorem follow_ups_paired (rtOpts : RunTimeOpts) (actions : List PtpAction)
    (kept : Lib.Along ptpStep KeepsParent (ptpdStartup rtOpts) actions) :
    Lib.Throughout Paired (ptpRun rtOpts actions).notes := by
  have step (c : PtpClock) (action : PtpAction) (pairs : c.memory.Pairs)
      (keeps : KeepsParent c action) : (ptpStep c action).memory.Pairs := by
    cases action with
    | expire timer =>
        rw [show (ptpStep c (.expire timer)).memory = c.memory from timerCallback_memory timer]
        exact pairs
    | step input =>
        have changes := ptpStep_memory pairs.safe input
        rw [eq_false keeps] at changes
        exact changes.invariant _ Memory.Pairs.change pairs
  have start : (ptpdStartup rtOpts).memory.Pairs := ⟨nofun, nofun, Lib.throughout_nil Paired⟩
  have pairs : (Lib.run ptpStep _ _).memory.Pairs :=
    Lib.run_invariant step start kept
  exact pairs.paired

/-- Clock 7 sends an Announce, a two-step Sync and its Follow_Up. -/
theorem follow_ups_paired_met :
    Lib.Along ptpStep KeepsParent (ptpdStartup {}) [.step {},
        .step { event := (peer 7).datagram .announce },
        .step { event := (master 7 0).datagram (.sync {}) },
        .step { general := (master 7 1).datagram (.followUp {}) }] ∧
      Lib.Throughout Paired (ptpRun {} [.step {}, .step { event := (peer 7).datagram .announce },
        .step { event := (master 7 0).datagram (.sync {}) },
        .step { general := (master 7 1).datagram (.followUp {}) }]).notes := by
  have kept : Lib.Along ptpStep KeepsParent (ptpdStartup {}) [.step {},
      .step { event := (peer 7).datagram .announce },
      .step { event := (master 7 0).datagram (.sync {}) },
      .step { general := (master 7 1).datagram (.followUp {}) }] := by decide +kernel
  exact ⟨kept, follow_ups_paired {} _ kept⟩

/-- The Sync of clock 7 is completed by the Follow_Up of clock 9. -/
theorem not_follow_ups_paired : ¬ ∀ (rtOpts : RunTimeOpts) (actions : List PtpAction),
    Lib.Throughout Paired (ptpRun rtOpts actions).notes := by
  intro paired
  refine absurd (paired {} [.step {}, .step { event := (peer 7).datagram .announce },
    .step { event := (master 7 0).datagram (.sync {}) },
    .step { event := (peer 9).datagram .announce },
    .step { general := (master 9 1).datagram (.followUp {}) }]) ?_
  decide +kernel

end LwipExt.Ptp
