import WalletEngine.Host.Memory

/-! # No double signature

Unless a request forces it, an unresolved signed message is never overwritten by
another one, however many clients and processes share the journal slot and
wherever they crash. -/

namespace WalletEngine

variable {P : Platform}

/-- The stages at which the fate of a message is settled. -/
def settledStages : List SendStage :=
  [.confirmed, .replaced, .sequenceNumberConsumed, .expired, .superseded, .failed, .cancelled]

theorem mem_settledStages {stage : SendStage} :
    stage ∈ settledStages ↔ stage.permitsReplacement = true := by
  cases stage <;> decide

/-- Storing `record` over the newest record of a slot loses no unresolved message:
a different message only replaces a settled record of the same wallet. -/
def SafeReplacement (codec : JournalCodec) (stored : Option (JournalRecord codec.Payload))
    (record : JournalRecord codec.Payload) : Prop :=
  ∃ new, decodeDurableRecord codec record = .ok new ∧ ∀ previous ∈ stored,
    ∃ old, decodeDurableRecord codec previous = .ok old ∧
      (new.messageHash ≠ old.messageHash → new.recordId = old.recordId ∧
        new.source = old.source ∧ old.stage ∈ settledStages)

/-- A slot that grew from `start` by safe replacements only. -/
inductive SafelyWritten (codec : JournalCodec) (start : List (JournalRecord codec.Payload)) :
    List (JournalRecord codec.Payload) → Prop
  | start : SafelyWritten codec start start
  | write {slot : List (JournalRecord codec.Payload)} {record : JournalRecord codec.Payload}
      (earlier : SafelyWritten codec start slot) (safe : SafeReplacement codec slot.head? record) :
      SafelyWritten codec start (record :: slot)

/-- No request sets `force`. -/
def unforced {host : HostModel P} (_ : (walletSystem host).View) :
    (walletSystem host).Event → Bool
  | .invoked _ _ call => !call.force
  | _ => true

abbrev Unforced {host : HostModel P} (view : (walletSystem host).View)
    (event : (walletSystem host).Event) : Prop :=
  unforced view event = true

section Moves

variable {host : JournalHost P} {view next : host.system.View} {event : host.system.Event}

/-- A stored write of an operation that is not forced is a safe replacement. -/
theorem safeReplacement_of_move {routine : Nat} {call : PublicCall}
    {mutation : JournalCompareExchange P.codec.Payload} (coherent : Coherent host view)
    (move : JournalMove (P := P) (System.traceOf routine view.history) call mutation)
    (unforced : call.force = false)
    (current : (host.journal view mutation.key).head?.map (·.version) = mutation.expectedVersion) :
    SafeReplacement P.codec (host.journal view mutation.key).head? mutation.replacement := by
  cases move with
  | resolve config pending subject resolution durable configured inspected unsettled examined
      sameOperation sameMessage evidence resolved stores =>
    obtain ⟨decoded, sameId, _⟩ := decodeOwnedRecord_ok inspected.2
    obtain ⟨shows, same⟩ := PendingSendRecord.resolved_eq resolved
    have sameHash : durable.messageHash = pending.durable.messageHash := by rw [same]
    have sameKey : mutation.key = sendKey config := by
      rw [stores.key, same, sendKey, ← sameId]
    rw [stores.expectedVersion] at current
    have newest := coherent.head?_eq (sameKey ▸ inspected.1) current
    refine ⟨durable, stores.decoded, fun previous stored => ?_⟩
    rw [newest] at stored
    obtain rfl := Option.some.inj stored
    exact ⟨pending.durable, decoded, fun different => absurd sameHash different⟩
  | commit config prepared base configured prepares first based stores generation held =>
    obtain ⟨_, sameId, sameSource⟩ := prepares.fields
    have sameKey : mutation.key = sendKey config := by
      rw [stores.key, sendKey, ← sameId]
      rfl
    rw [stores.expectedVersion] at current
    refine ⟨_, stores.decoded, fun previous stored => ?_⟩
    cases base with
    | none => simp [Option.mem_def.mp stored] at current
    | some record =>
      obtain ⟨old, inspected, permitted⟩ := based record rfl
      rw [coherent.head?_eq (sameKey ▸ inspected.1) current] at stored
      obtain rfl := Option.some.inj stored
      obtain ⟨decoded, ownId, ownSource⟩ := decodeOwnedRecord_ok inspected.2
      refine ⟨old, decoded, fun _ => ⟨sameId.trans ownId.symm, sameSource.trans ownSource.symm,
        mem_settledStages.mpr (permitted.resolve_right ?_)⟩⟩
      rw [unforced]
      exact fun forced => Bool.false_ne_true forced.1
  | settle generation config prepared stored request answer reference diagnostic external known
      submitted answered stores =>
    obtain ⟨expected, stores'⟩ := known.stores
    rw [stores.expectedVersion] at current
    have sameKey : stored.key = mutation.key := by rw [stores.key, stores'.key]; rfl
    have seen : Seen (P := P) (System.traceOf routine view.history) mutation.key
        stored.replacement := .inr ⟨stored, sameKey, .inl ⟨known.applied, rfl⟩⟩
    refine ⟨_, stores.decoded, fun previous held => ?_⟩
    rw [coherent.head?_eq seen current] at held
    obtain rfl := Option.some.inj held
    exact ⟨_, stores'.decoded, fun different => absurd rfl different⟩

theorem unforced_of_invoked {start : host.system.View}
    (run : System.Run host.contract Unforced start view) (empty : start.history = [])
    {client routine : Nat} {call : PublicCall}
    (invoked : .invoked client routine call ∈ view.history) : call.force = false := by
  obtain ⟨newer, older, split⟩ := List.append_of_mem invoked
  obtain ⟨_, _, _, _, permitted, _⟩ := run.origin empty split
  exact Bool.not_eq_true' _ |>.mp permitted

theorem safelyWritten_of_run {start : host.system.View}
    (run : System.Run host.contract Unforced start view) (empty : start.history = [])
    (ordered : (host.journal start).Ordered) (key : JournalKey) :
    SafelyWritten P.codec (host.journal start key) (host.journal view key) := by
  induction run with
  | refl => exact .start
  | move reached moved permitted written =>
    have coherent := Coherent.of_run reached empty ordered
    rcases journal_key_move moved key with same | ⟨_, _, call, mutation, invoked, move, rfl,
      current, stored⟩
    · rw [same]
      exact written
    · rw [stored]
      have unforced := unforced_of_invoked reached empty invoked
      exact .write written (safeReplacement_of_move coherent move unforced current)

end Moves

/-- No double signature: in every run without forced requests, over every host
with an atomic journal, each slot grows by safe replacements only. -/
theorem no_double_signature {host : JournalHost P} {world : host.World}
    {config : host.system.Config} (ordered : (host.slots world).Ordered)
    (reached : System.Reachable Unforced (System.initial world) config) (key : JournalKey) :
    SafelyWritten P.codec (host.slots world key) (host.slots config.world key) :=
  safelyWritten_of_run (walletSystem_disciplined reached) rfl ordered key

/-- The provider rejects the first transfer, and a second one takes its place. -/
def replacedSchedule : List plainHost.system.Action :=
  plainInvoke (.send ⟨⟨"first", by decide⟩, false, plainIntent⟩) ++
    plainAdvance 0 17 (accountBody "uninit" 100) ++ plainAdvance 0 8 rejectedBody ++
    [.invoke 0 (.send ⟨⟨"second", by decide⟩, false, plainIntent⟩)] ++
    plainAdvance 1 17 (accountBody "uninit" 200) ++ plainAdvance 1 8 acceptedBody

set_option maxRecDepth 20000 in
theorem no_double_signature_replaced : ∃ config,
    plainStart.run unforced replacedSchedule = some config ∧
      plainStages config = [.submitted, .readyToSubmit, .failed, .readyToSubmit] ∧
      SafelyWritten plainPlatform.codec []
        (plainHost.slots config.world (sendKey plainConfig)) := by
  have ran : (plainStart.run unforced replacedSchedule).map plainStages =
      some [.submitted, .readyToSubmit, .failed, .readyToSubmit] := by decide +kernel
  obtain ⟨config, ran, stages⟩ := Option.map_eq_some_iff.mp ran
  have ordered : (plainHost.slots fun _ => []).Ordered := fun _ => Versioned.ordered_nil
  exact ⟨config, ran, stages, no_double_signature ordered (.of_run (fun _ _ free => free) ran) _⟩

end WalletEngine
