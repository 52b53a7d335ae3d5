import WalletEngine.Contract.Wallet
import WalletEngine.Store.Versioned

/-! # Hosts with an atomic journal

The host contract of the journal: a load shows the newest record of a slot, and
a compare-exchange is atomic on the record version. An answer may be lost, so an
exchange that failed may or may not have stored its record. No record is ever
deleted. Everything else about the host stays open. -/

namespace WalletEngine

variable {P : Platform}

abbrev JournalSlots (P : Platform) := JournalKey → List (JournalRecord P.codec.Payload)

/-- The journal keeps its records under strictly increasing versions. -/
def JournalSlots.Ordered (slots : JournalSlots P) : Prop :=
  ∀ key, Versioned.Ordered JournalRecord.version (slots key)

/-- What a compare-exchange does to the journal, and what the host says of it. -/
inductive Exchanged (before : JournalSlots P) (mutation : JournalCompareExchange P.codec.Payload) :
    HostCall.Answer P (.compareExchangeJournal mutation) → JournalSlots P → Prop
  | applied (result : JournalCompareExchangeResult P.codec.Payload)
      (reported : result.applied = true)
      (current : (before mutation.key).head?.map (·.version) = mutation.expectedVersion) :
      Exchanged before mutation (.ok result)
        (Function.update before mutation.key (mutation.replacement :: before mutation.key))
  | refused (result : JournalCompareExchangeResult P.codec.Payload)
      (reported : result.applied = false) (shown : result.current = (before mutation.key).head?) :
      Exchanged before mutation (.ok result) before
  /-- The record was stored, but the writer does not learn it. -/
  | lost (error : JournalHostError)
      (current : (before mutation.key).head?.map (·.version) = mutation.expectedVersion) :
      Exchanged before mutation (.error error)
        (Function.update before mutation.key (mutation.replacement :: before mutation.key))
  | failed (error : JournalHostError) : Exchanged before mutation (.error error) before

/-- The calls that concern the journal. -/
def HostCall.isJournal : HostCall P → Bool
  | .loadJournal _ | .compareExchangeJournal _ => true
  | _ => false

variable (P) in
/-- A host that keeps the journal contract. -/
structure JournalHost extends HostModel P where
  slots : World → JournalSlots P
  loads : ∀ {world key choice answer after},
    respond world (.loadJournal key) choice = some (answer, after) →
      slots after = slots world ∧ ∀ found, answer = .ok found → found = (slots world key).head?
  exchanges : ∀ {world mutation choice answer after},
    respond world (.compareExchangeJournal mutation) choice = some (answer, after) →
      Exchanged (slots world) mutation answer (slots after)
  spares : ∀ {world call choice answer after}, call.isJournal = false →
    respond world call choice = some (answer, after) → slots after = slots world
  drifts : ∀ {world choice after}, drift world choice = some after → slots after = slots world

section Exchange

variable {before after : JournalSlots P} {mutation : JournalCompareExchange P.codec.Payload}
  {answer : HostCall.Answer P (.compareExchangeJournal mutation)}

theorem Exchanged.exchange (exchanged : Exchanged before mutation answer after) :
    Versioned.Exchange JournalRecord.version before mutation.key mutation.expectedVersion
      mutation.replacement after := by
  cases exchanged with
  | applied result reported current => exact .stored current
  | refused result reported shown => exact .kept
  | lost error current => exact .stored current
  | failed error => exact .kept

/-- A writer that is told of success finds its record in the slot. -/
theorem Exchanged.mem_of_applied (exchanged : Exchanged before mutation answer after)
    {result : JournalCompareExchangeResult P.codec.Payload} (told : answer = .ok result)
    (reported : result.applied = true) : mutation.replacement ∈ after mutation.key := by
  cases exchanged with
  | applied _ _ current =>
    rw [Function.update_self]
    exact List.mem_cons_self
  | refused other refused _ =>
    obtain rfl := Except.ok.inj told
    rw [reported] at refused
    cases refused
  | lost error current => cases told
  | failed error => cases told

/-- A refused writer is shown a record of the slot. -/
theorem Exchanged.mem_of_refused (exchanged : Exchanged before mutation answer after)
    {result : JournalCompareExchangeResult P.codec.Payload} (told : answer = .ok result)
    (reported : result.applied = false) {record : JournalRecord P.codec.Payload}
    (current : result.current = some record) : record ∈ after mutation.key := by
  cases exchanged with
  | applied other applied _ =>
    obtain rfl := Except.ok.inj told
    rw [reported] at applied
    cases applied
  | refused other _ shown =>
    obtain rfl := Except.ok.inj told
    rw [current] at shown
    exact List.mem_of_mem_head? shown.symm
  | lost error current => cases told
  | failed error => cases told

end Exchange

section Runs

variable {host : JournalHost P}
variable {key : JournalKey} {record : JournalRecord P.codec.Payload}

/-- A wallet system over a host that keeps the journal contract. -/
abbrev JournalHost.system (host : JournalHost P) : System := walletSystem host.toHostModel

/-- The contract of the public calls over such a host. -/
abbrev JournalHost.contract (host : JournalHost P) : host.system.Contract :=
  walletContract host.toHostModel

/-- The journal that a view shows. -/
def JournalHost.journal (host : JournalHost P) (view : host.system.View) : JournalSlots P :=
  host.slots view.world

variable {view next : host.system.View} {event : host.system.Event}

/-- A compare-exchange of the journal happened in this step. -/
structure Exchanges (view : host.system.View) (client routine : Nat) (call : PublicCall)
    (mutation : JournalCompareExchange P.codec.Payload)
    (answer : HostCall.Answer P (.compareExchangeJournal mutation))
    (next : host.system.View) : Prop where
  invoked : .invoked client routine call ∈ view.history
  obeyed : JournalMove (System.traceOf routine view.history) call mutation
  exchanged : Exchanged (host.journal view) mutation answer (host.journal next)

/-- Only a compare-exchange changes the journal. -/
theorem journal_move (moved : System.Move host.contract view event next) :
    (∃ client routine call mutation answer,
      event = .observed client routine (.answered (.compareExchangeJournal mutation) answer) ∧
        Exchanges view client routine call mutation answer next) ∨
      (∀ client routine mutation answer,
        event ≠ .observed client routine (.answered (.compareExchangeJournal mutation) answer)) ∧
        host.journal next = host.journal view := by
  cases moved with
  | answered client routine call state request answer world choice alive started obeyed responded =>
    cases request with
    | compareExchangeJournal mutation =>
      exact .inl ⟨client, routine, call, mutation, answer, rfl, started, obeyed,
        host.exchanges responded⟩
    | loadJournal key => exact .inr ⟨by nofun, (host.loads responded).1⟩
    | readProtectedSecret read => exact .inr ⟨by nofun, host.spares rfl responded⟩
    | execute request => exact .inr ⟨by nofun, host.spares rfl responded⟩
    | cancel id => exact .inr ⟨by nofun, host.spares rfl responded⟩
    | notified => exact .inr ⟨by nofun, host.spares rfl responded⟩
  | drift choice world drifted => exact .inr ⟨by nofun, host.drifts drifted⟩
  | launch setup client unused unseen => exact .inr ⟨by nofun, rfl⟩
  | invoke client routine call state alive unseen untouched => exact .inr ⟨by nofun, rfl⟩
  | locked client routine call state after alive started obeyed => exact .inr ⟨by nofun, rfl⟩
  | returned client routine call state value alive started obeyed => exact .inr ⟨by nofun, rfl⟩
  | crash client => exact .inr ⟨by nofun, rfl⟩

/-- The journal only grows. -/
theorem journal_suffix (moved : System.Move host.contract view event next) (key : JournalKey) :
    host.journal view key <:+ host.journal next key := by
  rcases journal_move moved with ⟨_, _, _, _, _, _, exchange⟩ | ⟨_, same⟩
  · exact exchange.exchanged.exchange.suffix key
  · rw [same]

/-- A slot changes by a stored write or not at all. -/
theorem journal_key_move (moved : System.Move host.contract view event next) (key : JournalKey) :
    host.journal next key = host.journal view key ∨
      ∃ client routine call mutation, .invoked client routine call ∈ view.history ∧
        JournalMove (P := P) (System.traceOf routine view.history) call mutation ∧
        mutation.key = key ∧
        (host.journal view key).head?.map (·.version) = mutation.expectedVersion ∧
        host.journal next key = mutation.replacement :: host.journal view key := by
  rcases journal_move moved with ⟨client, routine, call, mutation, answer, _, exchange⟩ | ⟨_, same⟩
  · have stored := exchange.exchanged.exchange
    generalize host.journal next = after at stored ⊢
    cases stored with
    | kept => exact .inl rfl
    | stored current =>
      by_cases same : key = mutation.key
      · subst same
        exact .inr ⟨client, routine, call, mutation, exchange.invoked, exchange.obeyed, rfl,
          current, Function.update_self ..⟩
      · exact .inl (Function.update_of_ne same ..)
  · rw [same]
    exact .inl rfl

/-- A version stored by an operation is higher than the one it replaces. -/
theorem JournalMove.raises {log : Log P} {call : PublicCall}
    {mutation : JournalCompareExchange P.codec.Payload} (move : JournalMove log call mutation) :
    ∀ old ∈ mutation.expectedVersion, old < mutation.replacement.version := by
  intro old expected
  have raised : nextJournalVersion mutation.expectedVersion = .ok mutation.replacement.version := by
    cases move with
    | resolve _ _ _ _ _ _ _ _ _ _ _ _ _ stores => rw [stores.expectedVersion]; exact stores.version
    | commit _ _ _ _ _ _ _ stores _ _ => rw [stores.expectedVersion]; exact stores.version
    | settle _ _ _ _ _ _ _ _ _ _ _ _ stores => rw [stores.expectedVersion]; exact stores.version
  have next := (nextJournalVersion_ok raised).2 old expected
  omega

/-- The journal is ordered, and everything an operation has seen is in it. -/
structure Coherent (host : JournalHost P) (view : host.system.View) : Prop where
  ordered : (host.journal view).Ordered
  seen : ∀ {routine key record}, Seen (P := P) (System.traceOf routine view.history) key record →
    record ∈ host.journal view key

/-- One step of the bookkeeping: what the newest observation shows is in the journal. -/
theorem seen_cons {log : Log P} {observation : Observation State (walletHost P)}
    (seen : Seen (observation :: log) key record) :
    Seen log key record ∨ observation = .answered (.loadJournal key) (.ok (some record)) ∨
      ∃ (mutation : JournalCompareExchange P.codec.Payload)
        (result : JournalCompareExchangeResult P.codec.Payload), mutation.key = key ∧
        observation = .answered (.compareExchangeJournal mutation) (.ok result) ∧
        (result.applied = true ∧ mutation.replacement = record ∨
          result.applied = false ∧ result.current = some record) := by
  rcases seen with loaded | ⟨mutation, sameKey, ⟨⟨result, answered, applied⟩, same⟩ |
    ⟨result, answered, refused, current⟩⟩
  · rcases List.mem_cons.mp loaded with same | earlier
    · exact .inr (.inl same.symm)
    · exact .inl (.inl earlier)
  · rcases List.mem_cons.mp answered with newest | earlier
    · exact .inr (.inr ⟨mutation, result, sameKey, newest.symm, .inl ⟨applied, same⟩⟩)
    · exact .inl (.inr ⟨mutation, sameKey, .inl ⟨⟨result, earlier, applied⟩, same⟩⟩)
  · rcases List.mem_cons.mp answered with newest | earlier
    · exact .inr (.inr ⟨mutation, result, sameKey, newest.symm, .inr ⟨refused, current⟩⟩)
    · exact .inl (.inr ⟨mutation, sameKey, .inr ⟨result, earlier, refused, current⟩⟩)

/-- A load shows a record of the slot. -/
theorem mem_of_loaded {client routine : Nat} (moved : System.Move host.contract view
      (.observed client routine (.answered (.loadJournal key) (.ok (some record)))) next) :
    record ∈ host.journal view key := by
  cases moved with
  | answered _ _ _ _ _ _ world choice alive started obeyed responded =>
    exact List.mem_of_mem_head? ((host.loads responded).2 _ rfl).symm

theorem exchanged_of_answered {client routine : Nat}
    {mutation : JournalCompareExchange P.codec.Payload}
    {answer : HostCall.Answer P (.compareExchangeJournal mutation)}
    (moved : System.Move host.contract view
      (.observed client routine (.answered (.compareExchangeJournal mutation) answer)) next) :
    Exchanged (host.journal view) mutation answer (host.journal next) := by
  cases moved with
  | answered _ _ _ _ _ _ world choice alive started obeyed responded =>
    exact host.exchanges responded

theorem Coherent.move (coherent : Coherent host view)
    (moved : System.Move host.contract view event next) : Coherent host next where
  ordered := by
    rcases journal_move moved with ⟨_, _, _, _, _, _, exchange⟩ | ⟨_, same⟩
    · exact exchange.exchanged.exchange.ordered coherent.ordered exchange.obeyed.raises
    · rw [same]
      exact coherent.ordered
  seen {routine key record} seen := by
    have kept : ∀ {record}, record ∈ host.journal view key → record ∈ host.journal next key :=
      fun member => (journal_suffix moved key).subset member
    rw [moved.history_eq] at seen
    cases event with
    | observed client owner observation =>
      by_cases same : owner = routine
      · subst same
        rw [System.traceOf_observed_self] at seen
        rcases seen_cons seen with earlier | rfl | ⟨mutation, result, rfl, rfl, told⟩
        · exact kept (coherent.seen earlier)
        · exact kept (mem_of_loaded moved)
        · have exchanged := exchanged_of_answered moved
          rcases told with ⟨applied, rfl⟩ | ⟨refused, current⟩
          · exact exchanged.mem_of_applied rfl applied
          · exact exchanged.mem_of_refused rfl refused current
      · rw [System.traceOf_observed_of_ne same] at seen
        exact kept (coherent.seen seen)
    | launched client state => exact kept (coherent.seen seen)
    | invoked client other call => exact kept (coherent.seen seen)
    | returned client other value => exact kept (coherent.seen seen)
    | crashed client => exact kept (coherent.seen seen)
    | drifted choice => exact kept (coherent.seen seen)

/-- Every run from an ordered journal keeps the bookkeeping. -/
theorem Coherent.of_run {allowed : host.system.View → host.system.Event → Prop}
    {start : host.system.View} (run : System.Run host.contract allowed start view)
    (empty : start.history = []) (ordered : (host.journal start).Ordered) : Coherent host view := by
  refine run.invariant ⟨ordered, fun seen => ?_⟩
    fun _ _ _ _ coherent moved _ => coherent.move moved
  rw [empty] at seen
  rcases seen with loaded | ⟨_, _, ⟨⟨_, answered, _⟩, _⟩ | ⟨_, answered, _⟩⟩
  · exact absurd loaded List.not_mem_nil
  · exact absurd answered List.not_mem_nil
  · exact absurd answered List.not_mem_nil

/-- Every record of a journal that was empty at the start was written in the run. -/
theorem written_of_mem {allowed : host.system.View → host.system.Event → Prop}
    {start : host.system.View} (run : System.Run host.contract allowed start view)
    (unwritten : ∀ key, host.journal start key = []) (member : record ∈ host.journal view key) :
    ∃ client routine mutation answer,
      .observed client routine (.answered (.compareExchangeJournal mutation) answer) ∈
        view.history ∧ mutation.replacement = record := by
  induction run with
  | refl =>
    rw [unwritten key] at member
    cases member
  | @move view next event reached moved permitted ih =>
    have older : record ∈ host.journal view key → ∃ client routine mutation answer,
        .observed client routine (.answered (.compareExchangeJournal mutation) answer) ∈
          next.history ∧ mutation.replacement = record := by
      intro earlier
      obtain ⟨client, routine, mutation, answer, observed, same⟩ := ih earlier
      rw [moved.history_eq]
      exact ⟨client, routine, mutation, answer, List.mem_cons_of_mem _ observed, same⟩
    rcases journal_move moved with ⟨client, routine, call, mutation, answer, rfl, exchange⟩ |
      ⟨_, same⟩
    · have stored := exchange.exchanged.exchange
      generalize journal : host.journal next = after at stored member
      cases stored with
      | kept => exact older member
      | stored current =>
        by_cases same : key = mutation.key
        · subst same
          rw [Function.update_self] at member
          rcases List.mem_cons.mp member with rfl | earlier
          · rw [moved.history_eq]
            exact ⟨client, routine, mutation, answer, List.mem_cons_self, rfl⟩
          · exact older earlier
        · rw [Function.update_of_ne same] at member
          exact older member
    · rw [same] at member
      exact older member

/-- A writer that saw the expected version knows the record it replaces. -/
theorem Coherent.head?_eq (coherent : Coherent host view) {routine : Nat} {key : JournalKey}
    {record : JournalRecord P.codec.Payload}
    (seen : Seen (P := P) (System.traceOf routine view.history) key record)
    (current : (host.journal view key).head?.map (·.version) = some record.version) :
    (host.journal view key).head? = some record :=
  (coherent.ordered key).head?_eq (coherent.seen seen) current

end Runs

end WalletEngine
