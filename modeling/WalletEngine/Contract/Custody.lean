import WalletEngine.Contract.Client

/-! # What an operation owns along its way

The judgements about operations and what they own, their rules of composition, and the
operations of the engine. -/

namespace WalletEngine

variable {P : Platform} {log : Log P} {call : PublicCall} {family : OperationFamily}
  {generation : Nat} {before after : State} {α β : Type}

section Effects

theorem taken_of_same (same : after.generation family = before.generation family) :
    taken before after family = false := by
  simp [taken, same]

/-- A region that counts no load reserves none. -/
theorem loadTaken_of_same
    (same : ∀ family ∈ [OperationFamily.refresh, .pagination, .nftRefresh, .nftPagination],
      after.generation family = before.generation family) : loadTaken before after = none := by
  refine List.findSome?_eq_none_iff.mpr fun family member => ?_
  rw [taken_of_same (same family member)]
  rfl

theorem releaseAll_generation (codec : JournalCodec) (state : State) :
    (state.releaseAll codec).generation = state.generation := by
  unfold State.releaseAll
  cases state.activeSend with
  | none => rfl
  | some active =>
    obtain ⟨workflow, snapshot, cancelled⟩ := cancelWorkflow_eq codec state
    simp only [Option.isSome_some, if_true, cancelled]
    rfl

theorem releaseAll_slot (codec : JournalCodec) (state : State) (family : OperationFamily) :
    (state.releaseAll codec).slot family = none := by
  cases family <;> rfl

/-- A shutdown counts nothing. -/
theorem stopped_generation {codec : JournalCodec} {released final : State}
    (releases : released = ({ before with closing := true } : State).releaseAll codec)
    (revises : final = if before.hasActiveWork then released.revised else released) :
    ({ final with shutdown := true, waiters := [] } : State).generation family =
      before.generation family := by
  have same := congrFun (releaseAll_generation codec { before with closing := true }) family
  have kept : final.generation family = before.generation family := by
    rw [revises, releases]
    split
    · rw [revised_generation, same]
      cases family <;> rfl
    · rw [same]
      cases family <;> rfl
  rw [← kept]
  cases family <;> rfl

/-- An operation that owns nothing counts no load. -/
theorem ClientEffect.generation_eq (effect : ClientEffect call before after)
    (load : family ∈ [OperationFamily.refresh, .pagination, .nftRefresh, .nftPagination]) :
    after.generation family = before.generation family := by
  simp only [List.mem_cons, List.not_mem_nil, or_false] at load
  cases effect with
  | stop rounds codec asked running released releases final revises =>
    exact stopped_generation releases revises
  | _ =>
    rcases load with rfl | rfl | rfl | rfl <;>
      first | rfl | exact revised_generation _ _

/-- An operation that owns nothing takes no exclusive slot. -/
theorem ClientEffect.untaken (effect : ClientEffect call before after)
    (exclusive : family = .send ∨ family = .resolution) : taken before after family = false := by
  cases effect with
  | countSend nextId later running vacant =>
    rcases exclusive with rfl | rfl
    · simp [taken, State.isCurrent, State.slot, vacant.1]
    · exact taken_of_same rfl
  | countResolution nextId later running vacant =>
    rcases exclusive with rfl | rfl
    · exact taken_of_same rfl
    · simp [taken, State.isCurrent, State.slot, vacant.2]
  | stop rounds codec asked running released releases final revises =>
    exact taken_of_same (stopped_generation releases revises)
  | _ =>
    refine taken_of_same ?_
    rcases exclusive with rfl | rfl <;>
      first | rfl | exact revised_generation _ _

theorem OwnerEffect.generation_eq {owned : OperationFamily}
    (effect : OwnerEffect before owned generation after) :
    after.generation family = before.generation family := by
  cases effect <;> first | rfl | exact revised_generation _ _

theorem TrackEffect.generation_eq {owned : OperationFamily} {listed tracked : List HttpRequestId}
    (effect : TrackEffect before owned generation listed tracked after) :
    after.generation family = before.generation family := by
  cases effect <;> rfl

end Effects

section Logs

theorem Broken.cons (broken : Broken log) (observation : Observation State (walletHost P)) :
    Broken (observation :: log) := by
  obtain ⟨before, after, older, inside, disorder⟩ := broken
  exact ⟨before, after, older, inside.trans (List.suffix_cons _ _), disorder⟩

theorem broken_of_disorder (disorder : ¬ before.Orderly) :
    Broken (.locked before after :: log) :=
  ⟨before, after, log, List.suffix_rfl, .inl disorder⟩

/-- A slot that was lost does not come back. -/
theorem Gone.broken (gone : Gone log family generation)
    (back : before.isCurrent family generation = true) : Broken (.locked before after :: log) :=
  gone.2.elim (fun stands => ⟨before, after, log, List.suffix_rfl, .inr ⟨_, _, stands, back⟩⟩)
    (·.cons _)

theorem Untried.free (untried : Untried log) : Free log :=
  ⟨untried.1, untried.2.imp_right .inr⟩

theorem Gone.free (gone : Gone log family generation) : Free log :=
  ⟨gone.1, .inr (gone.2.imp_left fun stands => ⟨family, generation, stands⟩)⟩

theorem Unheld.not_asks (unheld : Unheld log) {id : HttpRequestId}
    (asks : standing log = .asks family generation id) : Broken log := by
  rcases unheld with stands | ⟨_, _, stands⟩ | broken
  · rw [stands] at asks
    cases asks
  · rw [stands] at asks
    cases asks
  · exact broken

theorem Unheld.asks (unheld : Unheld log) (request : HostCall P) : Asks log request := by
  rcases unheld with stands | ⟨_, _, stands⟩ | broken
  · exact .inr (by rw [stands]; trivial)
  · exact .inr (by rw [stands]; trivial)
  · exact .inl broken

theorem Owns.not_asks {owned : OperationFamily} {current : Nat} (owns : Owns log owned current)
    {id : HttpRequestId} (asks : standing log = .asks family generation id) : Broken log := by
  rcases owns.2 with stands | broken
  · rw [stands] at asks
    cases asks
  · exact broken

/-- A region that counts no load leaves an operation without one. -/
theorem loading_locked (unloaded : loading log = none) (counts : loadTaken before after = none) :
    loading (.locked before after :: log : Log P) = none := by
  rw [loading, unloaded, counts]
  rfl

theorem Unheld.locked (unheld : Unheld log)
    (untaken : ∀ family, family = .send ∨ family = .resolution →
      taken before after family = false) : Unheld (.locked before after :: log) := by
  rcases unheld with stands | ⟨family, generation, stands⟩ | broken
  · refine .inl ?_
    rw [standing, stands, Standing.step, untaken .send (.inl rfl),
      untaken .resolution (.inr rfl)]
    rfl
  · refine .inr (.inl ⟨family, generation, ?_⟩)
    rw [standing, stands]
    rfl
  · exact .inr (.inr (broken.cons _))

theorem Free.locked (free : Free log) (counts : loadTaken before after = none)
    (untaken : ∀ family, family = .send ∨ family = .resolution →
      taken before after family = false) : Free (.locked before after :: log) :=
  ⟨loading_locked free.1 counts, free.2.locked untaken⟩

theorem Untried.locked (untried : Untried log) (counts : loadTaken before after = none)
    (untaken : ∀ family, family = .send ∨ family = .resolution →
      taken before after family = false) : Untried (.locked before after :: log) := by
  refine ⟨loading_locked untried.1 counts, untried.2.imp (fun stands => ?_) (·.cons _)⟩
  rw [standing, stands, Standing.step, untaken .send (.inl rfl), untaken .resolution (.inr rfl)]
  rfl

theorem Gone.locked (gone : Gone log family generation)
    (counts : loadTaken before after = none) :
    Gone (.locked before after :: log) family generation := by
  refine ⟨loading_locked gone.1 counts, gone.2.imp (fun stands => ?_) (·.cons _)⟩
  rw [standing, stands]
  rfl

theorem Unheld.answered (unheld : Unheld log) {request : HostCall P}
    {answer : HostCall.Answer P request} : Unheld (.answered request answer :: log) := by
  rcases unheld with stands | ⟨family, generation, stands⟩ | broken
  · refine .inl ?_
    rw [standing, stands]
    rfl
  · refine .inr (.inl ⟨family, generation, ?_⟩)
    rw [standing, stands]
    rfl
  · exact .inr (.inr (broken.cons _))

theorem Untried.answered (untried : Untried log) {request : HostCall P}
    {answer : HostCall.Answer P request} : Untried (.answered request answer :: log) := by
  refine ⟨untried.1, untried.2.imp (fun stands => ?_) (·.cons _)⟩
  rw [standing, stands]
  rfl

/-- What becomes of an owner whose region lists no request. -/
theorem Owns.locked (owns : Owns log family generation) (counts : loadTaken before after = none)
    (unlisted : started before after family = none) {kept : Bool}
    (outcome : before.Orderly → after.isCurrent family generation = kept) :
    if kept then Owns (.locked before after :: log) family generation
    else Gone (.locked before after :: log) family generation := by
  have unloaded := loading_locked owns.1 counts
  rcases owns.2 with stands | broken
  · by_cases orderly : before.Orderly
    · have current := outcome orderly
      have steps : standing (.locked before after :: log) =
          if after.isCurrent family generation then .holds family generation
          else .gone family generation := by
        rw [standing, stands]
        simp only [Standing.step, unlisted]
      rw [current] at steps
      cases kept with
      | true => exact ⟨unloaded, .inl steps⟩
      | false => exact ⟨unloaded, .inl steps⟩
    · have broken : Broken (.locked before after :: log) := broken_of_disorder orderly
      cases kept with
      | true => exact ⟨unloaded, .inr broken⟩
      | false => exact ⟨unloaded, .inr broken⟩
  · cases kept with
    | true => exact ⟨unloaded, .inr (broken.cons _)⟩
    | false => exact ⟨unloaded, .inr (broken.cons _)⟩

end Logs

section Effects

theorem started_of_listed (same : after.slot family = before.slot family) :
    started before after family = none := by
  rw [started, same]
  rcases before.slot family with _ | ⟨owner, listed⟩ <;> simp

theorem OwnerEffect.unlisted (effect : OwnerEffect before family generation after) :
    started before after family = none := by
  have dropped : ∀ {state : State}, state.slot family = none →
      started before state family = none := by
    intro state empty
    rw [started, empty]
    rcases before.slot family with _ | ⟨owner, listed⟩ <;> rfl
  cases effect with
  | publish | commit | allocate | remember =>
    refine started_of_listed ?_
    first | rfl | exact revised_slot _ _
  | releaseSend | releaseResolution | completeResolution =>
    refine dropped ?_
    first | rfl | exact revised_slot _ _

theorem TrackEffect.isCurrent {listed tracked : List HttpRequestId}
    (effect : TrackEffect before family generation listed tracked after) :
    after.isCurrent family generation = true := by
  cases effect <;> simp [State.isCurrent, State.slot]

theorem TrackEffect.started_eq {listed tracked : List HttpRequestId}
    (effect : TrackEffect before family generation listed tracked after) :
    started before after family =
      if tracked.length = listed.length + 1 then tracked.getLast? else none := by
  cases effect with
  | send _ _ _ active => simp [started, State.slot, active]
  | resolution _ _ _ active => simp [started, State.slot, active]

theorem TrackEffect.loadTaken_eq {listed tracked : List HttpRequestId}
    (effect : TrackEffect before family generation listed tracked after) :
    loadTaken before after = none :=
  loadTaken_of_same fun _ _ => effect.generation_eq

theorem OwnerEffect.loadTaken_eq (effect : OwnerEffect before family generation after) :
    loadTaken before after = none :=
  loadTaken_of_same fun _ _ => effect.generation_eq

theorem ClientEffect.loadTaken_eq (effect : ClientEffect call before after) :
    loadTaken before after = none :=
  loadTaken_of_same fun _ load => effect.generation_eq load

theorem loadTaken_self (state : State) : loadTaken state state = none :=
  loadTaken_of_same fun _ _ => rfl

/-- A region that found the slot gone. -/
theorem Owns.missed (owns : Owns log family generation) (stale : before.Orderly →
    before.isCurrent family generation = false) :
    Gone (.locked before before :: log) family generation :=
  owns.locked (loadTaken_self before) (started_of_listed rfl) stale

/-- The reservation of an exclusive slot counts that slot alone. -/
theorem OpeningEffect.generation_eq (effect : OpeningEffect before after)
    (took : taken before after family = true) {other : OperationFamily} (distinct : other ≠ family) :
    after.generation other = before.generation other := by
  have counted : after.generation family = before.generation family + 1 := by
    rw [taken, Bool.and_eq_true] at took
    exact eq_of_beq took.1
  cases effect with
  | resolution nextId later running vacant =>
    cases family <;> first
      | exact absurd counted (Nat.ne_of_lt (Nat.lt_succ_self _))
      | (cases other <;> first | rfl | exact absurd rfl distinct)
  | send | refresh | pagination | nftRefresh | nftPagination =>
    rw [revised_generation] at counted ⊢
    cases family <;> first
      | exact absurd counted (Nat.ne_of_lt (Nat.lt_succ_self _))
      | (cases other <;> first | rfl | exact absurd rfl distinct)

/-- A reservation of an exclusive slot is the first thing an operation owns. -/
theorem Untried.opened (untried : Untried log) (effect : OpeningEffect before after)
    (took : taken before after family = true) (exclusive : family = .send ∨ family = .resolution) :
    Owns (.locked before after :: log) family (after.generation family) := by
  have counts : loadTaken before after = none := by
    refine loadTaken_of_same fun load member => effect.generation_eq took ?_
    rcases exclusive with rfl | rfl <;> rintro rfl <;> simp at member
  refine ⟨loading_locked untried.1 counts, untried.2.imp (fun stands => ?_) (·.cons _)⟩
  rw [standing, stands]
  rcases exclusive with rfl | rfl
  · simp only [Standing.step, took]
    rfl
  · have other : taken before after .send = false :=
      taken_of_same (effect.generation_eq took (by decide))
    simp only [Standing.step, took, other]
    rfl

/-- A reservation of a load. -/
theorem Free.opened (free : Free log) (effect : OpeningEffect before after)
    (took : taken before after family = true)
    (load : family ∈ [OperationFamily.refresh, .pagination, .nftRefresh, .nftPagination]) :
    loading (.locked before after :: log : Log P) = some (family, after.generation family) ∧
      Unheld (.locked before after :: log) := by
  have taken_other : ∀ other, other ≠ family → taken before after other = false :=
    fun other distinct => taken_of_same (effect.generation_eq took distinct)
  constructor
  · have counts : loadTaken before after = some (family, after.generation family) := by
      simp only [List.mem_cons, List.not_mem_nil, or_false] at load
      rcases load with rfl | rfl | rfl | rfl <;>
        simp [loadTaken, taken_other, took]
    rw [loading, free.1, counts]
    rfl
  · have untaken : ∀ exclusive, exclusive = .send ∨ exclusive = .resolution →
        taken before after exclusive = false := by
      rintro exclusive (rfl | rfl) <;> refine taken_other _ ?_ <;> rintro rfl <;> simp at load
    exact free.2.locked untaken

end Effects

/-- Nothing was taken from the earlier log to the later one. -/
def Roamed (log later : Log P) : Prop := Free later ∧ (Untried log → Untried later)

theorem Roamed.trans {middle later : Log P} (first : Roamed log middle)
    (second : Roamed middle later) : Roamed log later :=
  ⟨second.1, second.2 ∘ first.2⟩

/-- A region of an operation that owns nothing. -/
theorem Free.step (free : Free log) (change : after = before ∨ ClientEffect call before after) :
    Effect log call before after ∧ Roamed log (.locked before after :: log) := by
  rcases change with rfl | effect
  · exact ⟨.none fun _ _ _ => free.2.not_asks,
      free.locked (loadTaken_self _) fun _ _ => taken_of_same rfl,
      fun untried => untried.locked (loadTaken_self _) fun _ _ => taken_of_same rfl⟩
  · exact ⟨.client _ free effect, free.locked effect.loadTaken_eq fun _ => effect.untaken,
      fun untried => untried.locked effect.loadTaken_eq fun _ => effect.untaken⟩

/-- A region of the owner of a slot. -/
theorem Owns.step (owns : Owns log family generation)
    (change : after = before ∨ OwnerEffect before family generation after) {kept : Bool}
    (outcome : before.Orderly → after.isCurrent family generation = kept) :
    Effect log call before after ∧
      if kept then Owns (.locked before after :: log) family generation
      else Gone (.locked before after :: log) family generation := by
  rcases change with rfl | effect
  · exact ⟨.none fun _ _ _ => owns.not_asks,
      owns.locked (loadTaken_self _) (started_of_listed rfl) outcome⟩
  · exact ⟨.owner family generation _ (.inl owns) effect,
      owns.locked effect.loadTaken_eq effect.unlisted outcome⟩

/-- A region of an operation that has lost its slot. -/
theorem Gone.step (gone : Gone log family generation)
    (change : after = before ∨ OwnerEffect before family generation after) :
    Effect log call before after ∧ Gone (.locked before after :: log) family generation := by
  rcases change with rfl | effect
  · exact ⟨.none fun _ _ _ => gone.free.2.not_asks, gone.locked (loadTaken_self _)⟩
  · exact ⟨.owner family generation _ (.inr gone) effect, gone.locked effect.loadTaken_eq⟩

namespace Engine

section Judgements

/-- The operation owns nothing while it runs. -/
def Roaming (call : PublicCall) (operation : Engine P α) : Prop :=
  ∀ log, Free log → Fallible.Obeys (custodyRule P call) (fun later _ => Roamed log later)
    (fun later _ => Roamed log later) log operation

/-- The operation runs under a slot. It keeps the slot if it succeeds, and has lost it if it
fails. -/
def Owned (call : PublicCall) (family : OperationFamily) (generation : Nat)
    (operation : Engine P α) : Prop :=
  ∀ log, Owns log family generation → Fallible.Obeys (custodyRule P call)
    (fun later _ => Owns later family generation) (fun later _ => Gone later family generation)
    log operation

/-- The operation runs under a slot and does not own it when it ends. -/
def Closing (call : PublicCall) (family : OperationFamily) (generation : Nat)
    (operation : Engine P α) : Prop :=
  ∀ log, Owns log family generation → Fallible.Obeys (custodyRule P call)
    (fun later _ => Gone later family generation) (fun later _ => Gone later family generation)
    log operation

/-- The operation gives the slot back and fails. -/
def Failing (call : PublicCall) (family : OperationFamily) (generation : Nat)
    (operation : Engine P α) : Prop :=
  ∀ log, Owns log family generation ∨ Gone log family generation →
    Fallible.Obeys (custodyRule P call) (fun _ _ => False)
      (fun later _ => Gone later family generation) log operation

/-- The operation may take an exclusive slot, and owns none when it ends. -/
def Errand (call : PublicCall) (operation : Engine P α) : Prop :=
  ∀ log, Untried log → Fallible.Obeys (custodyRule P call) (fun later _ => Free later)
    (fun later _ => Free later) log operation

variable {operation : Engine P α} {next : α → Engine P β}

theorem Roaming.bind (first : operation.Roaming call) (rest : ∀ value, (next value).Roaming call) :
    (operation >>= next).Roaming call := by
  intro log free
  refine Fallible.Obeys.bind (first log free) fun later value _ roamed => ?_
  exact Fallible.Obeys.mono (rest value later roamed.1) (fun _ _ _ => roamed.trans)
    fun _ _ _ => roamed.trans

theorem roaming_pure (value : α) : (pure value : Engine P α).Roaming call :=
  fun _ free => Fallible.obeys_pure ⟨free, id⟩

theorem roaming_throw (error : WalletClientError) : (throw error : Engine P α).Roaming call :=
  fun _ free => Fallible.obeys_throw ⟨free, id⟩

theorem Roaming.errand (roaming : operation.Roaming call) : operation.Errand call :=
  fun log untried => Fallible.Obeys.mono (roaming log untried.free) (fun _ _ _ roamed => roamed.1)
    fun _ _ _ roamed => roamed.1

/-- An operation that owns nothing leaves the next one the chance to take a slot. -/
theorem Roaming.errand_bind (first : operation.Roaming call)
    (rest : ∀ value, (next value).Errand call) : (operation >>= next).Errand call := by
  intro log untried
  have begins : operation.Obeys (custodyRule P call) (fun later _ => Untried later)
      (fun later _ => Free later) log :=
    Fallible.Obeys.mono (first log untried.free) (fun _ _ _ roamed => roamed.2 untried)
      fun _ _ _ roamed => roamed.1
  exact Fallible.Obeys.bind begins fun later value _ => rest value later

theorem Owned.bind (first : operation.Owned call family generation)
    (rest : ∀ value, (next value).Owned call family generation) :
    (operation >>= next).Owned call family generation := fun log owns =>
  Fallible.Obeys.bind (first log owns) fun later value _ => rest value later

theorem owned_pure (value : α) : (pure value : Engine P α).Owned call family generation :=
  fun _ owns => Fallible.obeys_pure owns

theorem Owned.map {change : α → β} (owned : operation.Owned call family generation) :
    Owned call family generation (change <$> operation) := by
  intro log owns
  refine Async.Obeys.bind (owned log owns) fun later result _ holds => ?_
  cases result with
  | ok value => exact holds
  | error error => exact holds

theorem Owned.closing (first : operation.Owned call family generation)
    (rest : ∀ value, (next value).Closing call family generation) :
    (operation >>= next).Closing call family generation := fun log owns =>
  Fallible.Obeys.bind (first log owns) fun later value _ => rest value later

theorem Closing.return (first : operation.Closing call family generation) (value : α → β) :
    (operation >>= fun result => pure (value result)).Closing call family generation :=
  fun log owns => Fallible.Obeys.bind (first log owns) fun _ _ _ gone => Fallible.obeys_pure gone

theorem Failing.owned (failing : operation.Failing call family generation) :
    operation.Owned call family generation := fun log owns =>
  Fallible.Obeys.mono (failing log (.inl owns)) (fun _ _ _ => False.elim) fun _ _ _ gone => gone

theorem Failing.closing (failing : operation.Failing call family generation) :
    operation.Closing call family generation := fun log owns =>
  Fallible.Obeys.mono (failing log (.inl owns)) (fun _ _ _ => False.elim) fun _ _ _ gone => gone

end Judgements

section Regions

variable {region : Locked α}

/-- A region by how it ends. -/
theorem custody_ends {success : Log P → α → Prop} {failure : Log P → WalletClientError → Prop}
    (ends : ∀ state, Region.Ends region state fun result after =>
      Effect log call state after ∧ match result with
        | .ok value => success (.locked state after :: log) value
        | .error error => failure (.locked state after :: log) error) :
    Fallible.Obeys (custodyRule P call) success failure log (withLock region) := by
  refine Fallible.obeys_locked (fun state => (ends state).1) (fun state _ _ ran => ?_)
    fun state _ _ ran => ?_
  · simpa only [ran] using (ends state).2
  · simpa only [ran] using (ends state).2

theorem roaming_withLock (roams : Roams call region) :
    (withLock region : Engine P α).Roaming call := by
  refine fun log free => custody_ends fun state => (roams state).mono fun result after change => ?_
  cases result <;> exact free.step change

theorem owned_withLock (grips : Grips family generation region) :
    (withLock region : Engine P α).Owned call family generation := by
  refine fun log owns => custody_ends fun state => (grips state).mono ?_
  rintro result after ⟨change, outcome⟩
  cases result <;> exact owns.step change outcome

/-- A region of an operation that has lost its slot. -/
theorem gone_withLock (gone : Gone log family generation)
    (effects : ∀ state, Region.Ends region state fun _ after =>
      after = state ∨ OwnerEffect state family generation after) :
    Fallible.Obeys (custodyRule P call) (fun later _ => Gone later family generation)
      (fun later _ => Gone later family generation) log (withLock region : Engine P α) := by
  refine custody_ends fun state => (effects state).mono fun result after change => ?_
  cases result <;> exact gone.step change

theorem drops_withLock (drops : Drops family generation region)
    (held : Owns log family generation ∨ Gone log family generation) :
    Fallible.Obeys (custodyRule P call) (fun later _ => Gone later family generation)
      (fun later _ => Gone later family generation) log (withLock region : Engine P α) := by
  rcases held with owns | gone
  · refine custody_ends fun state => (drops state).mono ?_
    rintro result after ⟨change, outcome⟩
    cases result <;> exact owns.step change outcome
  · exact gone_withLock gone fun state => (drops state).1

theorem closing_withLock (drops : Drops family generation region) :
    (withLock region : Engine P α).Closing call family generation :=
  fun _ owns => drops_withLock drops (.inl owns)

/-- Give the slot back and report an error. -/
theorem failing_withLock (drops : Drops family generation region) (error : WalletClientError) :
    (do
      let _ ← withLock region
      throw error : Engine P β).Failing call family generation := fun _ held =>
  Fallible.Obeys.bind (drops_withLock drops held) fun _ _ _ gone => Fallible.obeys_throw gone

/-- Take an exclusive slot, and go on as its owner. -/
theorem errand_withLock {reserved : α → Nat} {next : α → Engine P β}
    (opens : Opens call family reserved region)
    (exclusive : family = .send ∨ family = .resolution)
    (rest : ∀ value, (next value).Closing call family (reserved value)) :
    (withLock region >>= next).Errand call := by
  intro log untried
  have reserves : Fallible.Obeys (custodyRule P call)
      (fun later value => Owns later family (reserved value)) (fun later _ => Free later) log
      (withLock region : Engine P α) := by
    refine custody_ends fun state => (opens state).mono ?_
    rintro result after (⟨change, failed⟩ | ⟨effect, took, known, succeeds⟩)
    · obtain ⟨effect, roamed⟩ := untried.free.step change
      cases result with
      | ok value => cases failed
      | error error => exact ⟨effect, roamed.1⟩
    · have owns := untried.opened effect took exclusive
      refine ⟨.opening _ untried.free effect (.inl untried), ?_⟩
      cases result with
      | ok value =>
        dsimp only
        rw [known value rfl]
        exact owns
      | error error =>
        have disorder : ¬ state.Orderly := fun orderly => by cases succeeds orderly
        exact ⟨owns.1, .inr (.inr (broken_of_disorder disorder))⟩
  refine Fallible.Obeys.bind reserves fun later value _ owns => ?_
  exact Fallible.Obeys.mono (rest value later owns) (fun _ _ _ => Gone.free) fun _ _ _ => Gone.free

end Regions

section Calls

theorem roaming_await (request : HostCall P) : (await request : Engine P _).Roaming call :=
  fun _ free => Fallible.obeys_await (free.2.asks request) fun _ =>
    ⟨⟨free.1, free.2.answered⟩, fun untried => untried.answered⟩

theorem roaming_cancelRequests (ids : List HttpRequestId) :
    (cancelRequests ids : Engine P Unit).Roaming call := by
  induction ids with
  | nil => exact roaming_pure ()
  | cons id rest ih => exact (roaming_await _).bind fun _ => ih

/-- The owner of a slot waits for anything but a request of the provider. -/
theorem owned_await {request : HostCall P} (other : ∀ asked, request ≠ .execute asked) :
    (await request : Engine P _).Owned call family generation := by
  intro log owns
  refine Fallible.obeys_await ?_ fun answer => ⟨owns.1, owns.2.imp (fun stands => ?_) (·.cons _)⟩
  · change Asks log request
    rcases owns.2 with stands | broken
    · exact .inr (by rw [stands]; exact other)
    · exact .inl broken
  · rw [standing, stands]
    rfl

variable {region : (List HttpRequestId → List HttpRequestId) → Locked Unit}

theorem owned_tracked {request : HttpRequest} (lists : Lists family generation region) :
    (do
      withLock (region (· ++ [request.id]))
      let result ← execute request
      withLock (region (·.filter (· != request.id)))
      return result : Engine P _).Owned call family generation := by
  intro log owns
  have starts : Fallible.Obeys (custodyRule P call)
      (fun later _ => loading later = none ∧
        (standing later = .asks family generation request.id ∨ Broken later))
      (fun later _ => Gone later family generation) log
      (withLock (region (· ++ [request.id])) : Engine P Unit) := by
    refine custody_ends fun state => (lists (· ++ [request.id]) state).mono ?_
    rintro result after (⟨listed, effect, succeeded⟩ | ⟨rfl, failed, stale⟩)
    · refine ⟨.start family generation listed request.id _ owns effect, ?_⟩
      cases result with
      | ok =>
        refine ⟨loading_locked owns.1 effect.loadTaken_eq, owns.2.imp (fun stands => ?_) (·.cons _)⟩
        rw [standing, stands]
        simp [Standing.step, effect.isCurrent, effect.started_eq]
      | error => cases succeeded
    · refine ⟨.none fun _ _ _ => owns.not_asks, ?_⟩
      cases result with
      | ok => cases failed
      | error => exact owns.missed stale
  have finishes : ∀ later : Log P, loading later = none ∧
      (standing later = .heard family generation request.id ∨ Broken later) →
      Fallible.Obeys (custodyRule P call) (fun later _ => Owns later family generation)
        (fun later _ => Gone later family generation) later
        (withLock (region (·.filter (· != request.id))) : Engine P Unit) := by
    rintro later ⟨unloaded, heard⟩
    refine custody_ends fun state => (lists (·.filter (· != request.id)) state).mono ?_
    rintro result after (⟨listed, effect, succeeded⟩ | ⟨rfl, failed, stale⟩)
    · refine ⟨.finish family generation listed request.id _ unloaded heard effect, ?_⟩
      cases result with
      | ok =>
        refine ⟨loading_locked unloaded effect.loadTaken_eq,
          heard.imp (fun stands => ?_) (·.cons _)⟩
        have shorter := List.length_filter_le (· != request.id) listed
        have unlisted := effect.started_eq
        rw [if_neg (by omega)] at unlisted
        rw [standing, stands]
        simp [Standing.step, effect.isCurrent, unlisted]
      | error => cases succeeded
    · refine ⟨.none fun _ _ _ asks => heard.resolve_left fun stands => ?_, ?_⟩
      · rw [stands] at asks
        cases asks
      cases result with
      | ok => cases failed
      | error =>
        refine ⟨loading_locked unloaded (loadTaken_self _), ?_⟩
        rcases heard with stands | broken
        · by_cases orderly : after.Orderly
          · refine .inl ?_
            rw [standing, stands]
            simp [Standing.step, stale orderly]
          · exact .inr (broken_of_disorder orderly)
        · exact .inr (broken.cons _)
  refine Fallible.Obeys.bind starts fun asking _ _ known => ?_
  have hears : Fallible.Obeys (custodyRule P call)
      (fun later _ => loading later = none ∧
        (standing later = .heard family generation request.id ∨ Broken later))
      (fun later _ => Gone later family generation) asking (execute request : Engine P _) := by
    refine Fallible.obeys_await ?_ fun answer =>
      ⟨known.1, known.2.imp (fun stands => ?_) (·.cons _)⟩
    · change Asks asking (.execute request)
      exact known.2.elim (fun stands => .inr (by rw [stands]; exact ⟨request, rfl, rfl⟩)) .inl
    · rw [standing, stands]
      rfl
  refine Fallible.Obeys.bind hears fun later _ _ heard => ?_
  exact Fallible.Obeys.bind (finishes later heard) fun _ _ _ kept => Fallible.obeys_pure kept

end Calls

end Engine

end WalletEngine
