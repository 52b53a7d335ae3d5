import WalletEngine.Contract.CustodyCalls
import WalletEngine.Contract.Previews

/-! # Operations without an exclusive slot

Previews, loads, cancellations and the shutdown under the discipline of what an operation
owns, and the contract that all public calls obey. -/

namespace WalletEngine

namespace Engine

variable {P : Platform} {call : PublicCall} {generation : Nat} {α : Type}

section Previews

theorem previewError_roaming (error : WalletClientError) :
    (previewError generation error : Engine P α).Roaming call :=
  (roaming_withLock finishPreview_roams).bind fun _ => roaming_throw _

theorem executeTrackedPreviewRequest_roaming (request : HttpRequest) :
    (executeTrackedPreviewRequest generation request : Engine P _).Roaming call := by
  refine (roaming_withLock trackPreview_roams).bind fun _ => ?_
  refine (roaming_await _).bind fun _ => ?_
  exact (roaming_withLock trackPreview_roams).bind fun _ => roaming_pure _

theorem fetchPreview_roaming (request : HttpRequest)
    (parse : P.serde.Body → Except DomainError α) :
    (fetchPreview generation request parse).Roaming call := by
  refine (executeTrackedPreviewRequest_roaming _).bind fun answer => ?_
  split
  · exact roaming_pure _
  · exact previewError_roaming _

theorem previewSeqno_roaming (status : AccountStatus) (request : HttpRequest) :
    (previewSeqno generation status request : Engine P _).Roaming call := by
  unfold previewSeqno
  split
  · exact fetchPreview_roaming _ _
  · exact roaming_pure _
  · exact roaming_pure _
  · exact previewError_roaming _

theorem previewCheck_roaming (problem : Option WalletClientError) :
    (previewCheck generation problem : Engine P Unit).Roaming call := by
  cases problem with
  | none => exact roaming_pure _
  | some error => exact previewError_roaming _

theorem previewExpiration_roaming (expiration : SendExpiration) (providerTime : Nat)
    (config : WalletClientConfig) :
    (previewExpiration generation expiration providerTime config : Engine P _).Roaming call := by
  unfold previewExpiration
  split
  · exact roaming_pure _
  · exact previewError_roaming _

theorem emulatePreviewBoc_roaming (config : WalletClientConfig) (id : HttpRequestId) (boc : Boc) :
    (emulatePreviewBoc generation config id boc : Engine P _).Roaming call := by
  unfold emulatePreviewBoc
  split
  · exact previewError_roaming _
  · refine (executeTrackedPreviewRequest_roaming _).bind fun answer => ?_
    split
    · exact previewError_roaming _
    · split
      · exact roaming_pure _
      · exact previewError_roaming _

theorem previewSend_roaming (request : SendPreviewRequest) :
    (previewSend request : Engine P _).Roaming call := by
  refine (roaming_withLock (reservePreview_roams previewRequests_allocates)).bind fun reserved => ?_
  refine (fetchPreview_roaming _ _).bind fun account => ?_
  split
  · exact previewError_roaming _
  · refine (previewCheck_roaming _).bind fun _ => ?_
    refine (previewSeqno_roaming _ _).bind fun seqno => ?_
    refine (previewExpiration_roaming _ _ _).bind fun validUntil => ?_
    split
    · exact previewError_roaming _
    · refine (emulatePreviewBoc_roaming _ _ _).bind fun emulation => ?_
      refine (previewCheck_roaming _).bind fun _ => ?_
      exact (roaming_withLock finishPreview_roams).bind fun _ => roaming_pure _

theorem previewSendBoc_roaming (request : SendBocRequest) :
    (previewSendBoc request : Engine P _).Roaming call := by
  refine (roaming_withLock (reservePreview_roams previewRequests_allocates)).bind fun reserved => ?_
  dsimp only
  split
  · exact previewError_roaming _
  · refine (fetchPreview_roaming _ _).bind fun account => ?_
    refine (previewSeqno_roaming _ _).bind fun seqno => ?_
    refine (previewCheck_roaming _).bind fun _ => ?_
    refine (previewExpiration_roaming _ _ _).bind fun validUntil => ?_
    refine (emulatePreviewBoc_roaming _ _ _).bind fun emulation => ?_
    exact (roaming_withLock finishPreview_roams).bind fun _ => roaming_pure _

theorem previewSignMessage_roaming (request : SendPreviewRequest) :
    (previewSignMessage request : Engine P _).Roaming call := by
  refine (roaming_withLock (reservePreview_roams fun _ => allocateRequest_allocates _ _)).bind
    fun reserved => ?_
  dsimp only
  split
  · exact previewError_roaming _
  · refine (fetchPreview_roaming _ _).bind fun account => ?_
    refine (previewCheck_roaming _).bind fun _ => ?_
    refine (previewExpiration_roaming _ _ _).bind fun validUntil => ?_
    exact (roaming_withLock finishPreview_roams).bind fun _ => roaming_pure _

theorem loadFreshNftForTransfer_roaming (address : TonAddressString) :
    (loadFreshNftForTransfer address : Engine P _).Roaming call := by
  have reserves : Roams call (reserveNftItem address) := by
    intro before
    refine ensureRunning_ends (fun _ => .inl rfl) fun running => Region.ends_get ?_
    refine (allocateRequest_allocates _ _).ends ?_ ?_
    · rintro _ _ ⟨nextId, later, rfl⟩
      exact .inr (.allocate nextId later running)
    · rintro _ _ - ⟨nextId, later, rfl⟩
      exact .inr (.allocate nextId later running)
  refine (roaming_withLock reserves).bind fun reserved => ?_
  refine (roaming_await _).bind fun answer => ?_
  split
  · exact roaming_throw _
  · refine (roaming_withLock ?_).bind fun _ => ?_
    · intro before
      refine Region.ends_get (Region.ends_ite (fun _ => .inl rfl) fun _ => .inl rfl)
    · split
      · exact roaming_pure _
      · exact roaming_throw _

theorem checkedNftTransfer_roaming (operationId : NonEmptyString) (intent : NftTransferIntent) :
    (checkedNftTransfer operationId intent : Engine P _).Roaming call := by
  have reads : Roams call nftTransferSource := fun before =>
    ensureRunning_ends (fun _ => .inl rfl) fun _ => .inl rfl
  refine (roaming_withLock reads).bind fun source => ?_
  split
  · exact roaming_throw _
  · refine (loadFreshNftForTransfer_roaming _).bind fun item => ?_
    split
    · exact roaming_throw _
    · exact roaming_pure _

theorem previewNftTransfer_roaming (request : NftTransferPreviewRequest) :
    (previewNftTransfer request : Engine P _).Roaming call := by
  refine (checkedNftTransfer_roaming _ _).bind fun canonical => ?_
  refine (previewSend_roaming _).bind fun preview => ?_
  split
  · exact roaming_throw _
  · exact roaming_pure _

theorem sendNftTransfer_errand (request : NftTransferRequest) :
    (sendNftTransfer request : Engine P _).Errand call :=
  (checkedNftTransfer_roaming _ _).errand_bind fun _ => send_errand _

end Previews

section Cancellations

theorem cancelled_roaming {region : Locked (List HttpRequestId)} (roams : Roams call region) :
    (do
      let ids ← withLock region
      cancelRequests ids : Engine P Unit).Roaming call :=
  (roaming_withLock roams).bind fun _ => roaming_cancelRequests _

theorem shutdown_roaming {limit : Nat} (asked : call = .shutdown limit) (rounds : Nat) :
    (shutdown rounds : Engine P _).Roaming call := by
  induction rounds with
  | zero => exact roaming_pure _
  | succ rounds ih =>
    refine (roaming_withLock (shutdownRound_roams asked)).bind fun action => ?_
    split
    · exact roaming_pure _
    · exact (roaming_await _).bind fun _ => ih
    · exact (roaming_cancelRequests _).bind fun _ => roaming_pure _

end Cancellations

end Engine

section Loads

variable {P : Platform} {call : PublicCall} {family : OperationFamily} {generation : Nat}
  {log : Log P} {before after : State} {α : Type}

/-- The newest region left this snapshot. -/
def Viewed (log : Log P) (snapshot : WalletSnapshot) : Prop :=
  ∃ before after older, log = .locked before after :: older ∧ after.snapshot = snapshot

/-- The stored waiter of the operation was notified before its newest region. -/
def Awoken (log : Log P) (afterRevision : Nat) : Prop :=
  ∃ before after stored waiting older,
    log = .locked before after :: .answered .notified true :: .locked stored waiting :: older ∧
    waiting.waiters = stored.waiters ++ [afterRevision]

/-- The operation has reserved a load and owns no exclusive slot. -/
def Loads (log : Log P) (family : OperationFamily) (generation : Nat) : Prop :=
  loading log = some (family, generation) ∧ Unheld log

theorem Loads.locked (loads : Loads log family generation)
    (effect : after = before ∨ LoadEffect log before family generation after) :
    Loads (.locked before after :: log) family generation := by
  have same : ∀ other, after.generation other = before.generation other := by
    intro other
    rcases effect with rfl | effect
    · rfl
    · exact effect.generation_eq
  refine ⟨?_, loads.2.locked fun _ _ => taken_of_same (same _)⟩
  rw [loading, loads.1]
  rfl

/-- A region that delivers a result of the load. -/
theorem Loads.step (loads : Loads log family generation)
    (change : after = before ∨ LoadEffect log before family generation after) :
    Effect log call before after ∧ Loads (.locked before after :: log) family generation := by
  refine ⟨?_, loads.locked change⟩
  rcases change with rfl | effect
  · exact .none fun _ _ _ => loads.2.not_asks
  · exact .load family generation _ loads.1 effect

theorem Loads.answered (loads : Loads log family generation) {request : HostCall P}
    {answer : HostCall.Answer P request} :
    Loads (.answered request answer :: log) family generation :=
  ⟨loads.1, loads.2.answered⟩

theorem ResourceSettled.mono {later : Log P} {resource : State → ResourceState}
    (settled : ResourceSettled log generation resource) (grows : log <:+ later) :
    ResourceSettled later generation resource := by
  obtain ⟨newest, rfl⟩ := grows
  obtain ⟨newer, before, after, older, rfl, rest⟩ := settled
  exact ⟨newest ++ newer, before, after, older, (List.append_assoc ..).symm, rest⟩

namespace Engine

variable {region : Locked α} {reserved : α → Nat}

theorem loads_await (request : HostCall P) (loads : Loads log family generation) :
    Fallible.Obeys (custodyRule P call) (fun later _ => Loads later family generation)
      (fun later _ => Unheld later) log (await request) :=
  Fallible.obeys_await (loads.2.asks request) fun _ => loads.answered

theorem loads_cancelRequests (ids : List HttpRequestId) (loads : Loads log family generation) :
    Fallible.Obeys (custodyRule P call) (fun later _ => Loads later family generation)
      (fun later _ => Unheld later) log (cancelRequests ids) := by
  induction ids generalizing log with
  | nil => exact Fallible.obeys_pure loads
  | cons id rest ih =>
    exact Fallible.Obeys.bind (loads_await _ loads) fun _ _ _ loads => ih loads

/-- A region that delivers a result of the load. -/
theorem loads_withLock {success : Log P → α → Prop} (loads : Loads log family generation)
    (delivers : Delivers log family generation region)
    (onSuccess : ∀ state value after, region state = (.ok value, after) →
      Loads (.locked state after :: log) family generation →
      success (.locked state after :: log) value) :
    Fallible.Obeys (custodyRule P call) success (fun later _ => Unheld later) log
      (withLock region) := by
  refine Fallible.obeys_locked (fun state => (loads.step (delivers state)).1)
    (fun state value after ran => ?_) fun state _ after ran => ?_
  · have kept := loads.locked (delivers state)
    rw [ran] at kept
    exact onSuccess state value after ran kept
  · have kept := loads.locked (delivers state)
    rw [ran] at kept
    exact kept.2

/-- A reservation of a load. -/
theorem loads_of_opened {result : Except WalletClientError α} (free : Free log)
    (opened : Opened call family reserved before result after)
    (load : family ∈ [OperationFamily.refresh, .pagination, .nftRefresh, .nftPagination]) :
    Effect log call before after ∧ Unheld (.locked before after :: log) ∧
      ∀ value, result = .ok value → Loads (.locked before after :: log) family (reserved value) := by
  rcases opened with ⟨change, failed⟩ | ⟨effect, took, known, -⟩
  · obtain ⟨effect, roamed⟩ := free.step change
    refine ⟨effect, roamed.1.2, ?_⟩
    rintro value rfl
    cases failed
  · obtain ⟨counts, unheld⟩ := free.opened effect took load
    refine ⟨.opening _ free effect (.inr ⟨family, after.generation family, ?_⟩),
      unheld, ?_⟩
    · rw [loading, free.1] at counts
      exact counts
    · intro value succeeded
      rw [known value succeeded]
      exact ⟨counts, unheld⟩

theorem loads_reserve (opens : Opens call family reserved region) (free : Free log)
    (load : family ∈ [OperationFamily.refresh, .pagination, .nftRefresh, .nftPagination]) :
    Fallible.Obeys (custodyRule P call) (fun later value => Loads later family (reserved value))
      (fun later _ => Unheld later) log (withLock region) := by
  refine custody_ends fun state => (opens state).mono fun result after opened => ?_
  obtain ⟨effect, unheld, known⟩ := loads_of_opened free opened load
  cases result with
  | ok value => exact ⟨effect, known value rfl⟩
  | error error => exact ⟨effect, unheld⟩

/-- The reservation of a page skips the page or takes its slot. -/
theorem loads_reservePage {region : Locked (WalletUpdate ⊕ α)}
    (pages : ∀ before, Region.Ends region before (Paged call family reserved before))
    (free : Free log)
    (load : family ∈ [OperationFamily.refresh, .pagination, .nftRefresh, .nftPagination]) :
    Fallible.Obeys (custodyRule P call)
      (fun later => Sum.elim (fun update => Unheld later ∧ Viewed later update.snapshot)
        fun value => Loads later family (reserved value))
      (fun later _ => Unheld later) log (withLock region) := by
  refine custody_ends fun state => (pages state).mono ?_
  rintro result after (⟨⟨update, rfl, same⟩, rfl⟩ | opened)
  · have step : Effect log call after after ∧ Roamed log (.locked after after :: log) :=
      free.step (.inl rfl)
    exact ⟨step.1, step.2.1.2, _, _, _, rfl, same.symm⟩
  obtain ⟨effect, unheld, known⟩ := loads_of_opened free opened load
  refine ⟨effect, ?_⟩
  cases result with
  | error error => exact unheld
  | ok value =>
    cases value with
    | inr reserved => exact known _ rfl
    | inl update =>
      -- A generation that was counted is not zero.
      rcases opened with ⟨-, failed⟩ | ⟨-, took, known, -⟩
      · cases failed
      · have zero := known _ rfl
        rw [taken, Bool.and_eq_true] at took
        have counted := eq_of_beq took.1
        rw [Sum.elim_inl] at zero
        omega

/-- The last region of a load. -/
theorem loads_finish {region : Locked WalletUpdate} (loads : Loads log family generation)
    (delivers : Delivers log family generation region)
    (reports : Keeps (fun _ after update => update.snapshot = after.snapshot) region) :
    Fallible.Obeys (custodyRule P call)
      (fun later update => Unheld later ∧ Viewed later update.snapshot)
      (fun later _ => Unheld later) log (withLock region) :=
  loads_withLock loads delivers fun _ _ _ ran loads =>
    ⟨loads.2, _, _, _, rfl, (reports.of_ok ran).symm⟩

theorem loadMoreActivity_loads (free : Free log) :
    Fallible.Obeys (custodyRule P call)
      (fun later update => Unheld later ∧ Viewed later update.snapshot)
      (fun later _ => Unheld later) log (loadMoreActivity : Engine P _) := by
  refine Fallible.Obeys.bind (loads_reservePage reserveLoadMoreActivity_paged free (by decide))
    fun reserved value _ known => ?_
  rcases value with skipped | ⟨generation, request⟩
  · exact Fallible.obeys_pure known
  · refine Fallible.Obeys.bind (loads_await _ known) fun answered result _ loads => ?_
    exact loads_finish loads (finishLoadMoreActivity_delivers _) (finishLoadMoreActivity_keeps _ _)

theorem refreshNfts_loads (free : Free log) :
    Fallible.Obeys (custodyRule P call)
      (fun later update => Unheld later ∧ Viewed later update.snapshot)
      (fun later _ => Unheld later) log (refreshNfts : Engine P _) := by
  refine Fallible.Obeys.bind (loads_reserve reserveRefreshNfts_opens free (by decide))
    fun reserved value _ loads => ?_
  refine Fallible.Obeys.bind (loads_cancelRequests _ loads) fun cancelled _ _ loads => ?_
  refine Fallible.Obeys.bind (loads_await _ loads) fun answered result _ loads => ?_
  exact loads_finish loads (finishRefreshNfts_delivers _) (finishRefreshNfts_keeps _ _)

theorem loadMoreNfts_loads (free : Free log) :
    Fallible.Obeys (custodyRule P call)
      (fun later update => Unheld later ∧ Viewed later update.snapshot)
      (fun later _ => Unheld later) log (loadMoreNfts : Engine P _) := by
  refine Fallible.Obeys.bind (loads_reservePage reserveLoadMoreNfts_paged free (by decide))
    fun reserved value _ known => ?_
  rcases value with skipped | ⟨generation, request, network⟩
  · exact Fallible.obeys_pure known
  · refine Fallible.Obeys.bind (loads_await _ known) fun answered result _ loads => ?_
    exact loads_finish loads (finishLoadMoreNfts_delivers _) (finishLoadMoreNfts_keeps _ _)

/-- A component that was published is settled, unless the refresh was superseded. -/
theorem publishRefreshComponent_settles (resource : State → ResourceState)
    (value : RefreshValue) (loads : Loads log .refresh generation)
    (settles : ∀ state : State, (resource (value.apply state)).phase ≠ .loading)
    (revised : ∀ state : State, resource state.revised = resource state) :
    Fallible.Obeys (custodyRule P call)
      (fun later _ => Loads later .refresh generation ∧
        ResourceSettled later generation resource)
      (fun later _ => Unheld later) log
      (withLock (publishRefreshComponent generation value)) := by
  refine loads_withLock loads (publishRefreshComponent_delivers _) fun state _ after ran kept => ?_
  refine ⟨kept, [], state, after, log, rfl, loads.1, fun current => ?_⟩
  have reached : after = (publishRefreshComponent generation value state).2 := by rw [ran]
  rw [publishRefreshComponent, Region.get_bind, Region.ite_apply] at reached
  split at reached
  · rw [reached]
    change (resource (value.apply state).revised).phase ≠ .loading
    rw [revised]
    exact settles state
  · rename_i stale
    subst reached
    exact absurd current stale

theorem outcome_free {operation : Engine P α} {failure : Log P → WalletClientError → Prop}
    (errand : operation.Errand call) (untried : Untried log) :
    Fallible.Obeys (custodyRule P call) (fun later _ => Free later) failure log
      (Fallible.outcome operation) :=
  Fallible.obeys_outcome (errand log untried)

theorem refresh_loads (untried : Untried log) :
    Fallible.Obeys (custodyRule P call)
      (fun later update => Unheld later ∧ Viewed later update.snapshot)
      (fun later _ => Unheld later) log (refresh : Engine P _) := by
  refine Fallible.Obeys.bind (outcome_free resolvePending_errand untried)
    fun resolved _ _ free => ?_
  refine Fallible.Obeys.bind (loads_reserve reserveRefresh_opens free (by decide))
    fun reserved value _ loads => ?_
  refine Fallible.Obeys.bind (loads_cancelRequests _ loads) fun cancelled _ _ loads => ?_
  refine Fallible.Obeys.bind (loads_await _ loads) fun first account _ loads => ?_
  refine Fallible.Obeys.bind (loads_await _ loads) fun second activity _ loads => ?_
  have accountSettles : ∀ (result : Except DomainError AccountSnapshot) (state : State),
      ((RefreshValue.account result).apply state).snapshot.accountResource.phase ≠ .loading := by
    intro result state
    cases result <;> nofun
  have activitySettles : ∀ (result : Except DomainError ActivityPage) (state : State),
      ((RefreshValue.activity result).apply state).snapshot.activityResource.phase ≠
        .loading := by
    intro result state
    cases result <;> nofun
  refine Fallible.Obeys.bind (publishRefreshComponent_settles (·.snapshot.accountResource) _ loads
    (accountSettles _) fun state => by rw [revised_eq]) fun published _ _ known => ?_
  obtain ⟨loads, accountSettled⟩ := known
  refine Fallible.Obeys.bind (publishRefreshComponent_settles (·.snapshot.activityResource) _ loads
    (activitySettles _) fun state => by rw [revised_eq]) fun settled _ grows known => ?_
  exact loads_finish known.1 (finishRefresh_delivers (accountSettled.mono grows) known.2)
    (finishRefresh_keeps _)

/-- A region of an operation that owns nothing, with what its outcome says. -/
theorem free_withLock {success : Log P → α → Prop} (roams : Roams call region) (free : Free log)
    (onSuccess : ∀ state value after, region state = (.ok value, after) →
      Free (.locked state after :: log) → success (.locked state after :: log) value) :
    Fallible.Obeys (custodyRule P call) success (fun later _ => Unheld later) log
      (withLock region) := by
  have step := fun state => (free.step (roams state)).2.1
  refine Fallible.obeys_locked (fun state => (free.step (roams state)).1)
    (fun state value after ran => ?_) fun state _ after ran => ?_
  · have kept := step state
    rw [ran] at kept
    exact onSuccess state value after ran kept
  · have kept := step state
    rw [ran] at kept
    exact kept.2

/-- A wait ends with a snapshot that is newer, or after the wake-up of a stored waiter. -/
theorem waitForChange_views {afterRevision : Nat} (untried : Untried log) :
    Fallible.Obeys (custodyRule P call)
      (fun later snapshot => Unheld later ∧ Viewed later snapshot ∧
        (afterRevision < snapshot.revision ∨ Awoken later afterRevision))
      (fun later _ => Unheld later) log (waitForChange afterRevision : Engine P _) := by
  refine Fallible.Obeys.bind (outcome_free resolvePending_errand untried)
    fun resolved _ _ free => ?_
  have looks : Fallible.Obeys (custodyRule P call)
      (fun later found => ∃ before after, later = .locked before after :: resolved ∧
        Free later ∧ awaitRevision afterRevision before = (.ok found, after))
      (fun later _ => Unheld later) resolved
      (withLock (awaitRevision afterRevision) : Engine P _) :=
    free_withLock awaitRevision_roams free fun state found after ran kept =>
      ⟨state, after, rfl, kept, ran⟩
  refine Fallible.Obeys.bind looks fun looked found _ known => ?_
  obtain ⟨before, after, rfl, kept, ran⟩ := known
  have stored := (awaitRevision_keeps _).of_ok ran
  cases found with
  | some snapshot =>
    exact Fallible.obeys_pure ⟨kept.2, ⟨before, after, resolved, rfl, stored.1.symm⟩, .inl stored.2⟩
  | none =>
    have hears : Fallible.Obeys (custodyRule P call)
        (fun later (woken : Bool) => Free later ∧
          later = .answered .notified woken :: .locked before after :: resolved)
        (fun later _ => Unheld later) (.locked before after :: resolved)
        (notified : Engine P Bool) :=
      Fallible.obeys_await (kept.2.asks _) fun _ => ⟨⟨kept.1, kept.2.answered⟩, rfl⟩
    refine Fallible.Obeys.bind hears fun heard woken _ known => ?_
    obtain ⟨free, rfl⟩ := known
    cases woken with
    | false => exact Fallible.obeys_throw free.2
    | true =>
      have reads : Roams call readSnapshot := fun state =>
        ensureNotShutdown_ends (fun _ _ => .inl rfl) fun _ => .inl rfl
      refine free_withLock reads free fun state snapshot last ran kept => ?_
      refine ⟨kept.2, ⟨state, last, _, rfl, (readSnapshot_keeps.of_ok ran).symm⟩, .inr ?_⟩
      exact ⟨state, last, before, after, resolved, rfl, stored⟩

end Engine

end Loads

section Contract

variable {P : Platform} {call : PublicCall} {log : Log P} {α : Type}

/-- What the snapshots in a reply were read from. -/
def Reply.Read (call : PublicCall) (log : Log P) : Reply → Prop
  | .update (.ok shown) => Viewed log shown.snapshot
  | .snapshot (.ok shown) => Viewed log shown ∧
      ∀ afterRevision, call = .waitForChange afterRevision →
        afterRevision < shown.revision ∨ Awoken log afterRevision
  | _ => True

/-- The reply of an operation that gives back what it takes. -/
theorem Engine.custody_reply {operation : Engine P α} {success : Log P → α → Prop}
    {make : Except WalletClientError α → Reply}
    (obeys : operation.Obeys (custodyRule P call) success (fun later _ => Unheld later) log)
    (onSuccess : ∀ later value, success later value →
      Unheld later ∧ (make (.ok value)).Read call later)
    (onFailure : ∀ (later : Log P) error, (make (.error error)).Read call later) :
    (operation.reply make).Obeys (custodyRule P call)
      (fun later reply => Unheld later ∧ reply.Read call later) log := by
  refine Async.Obeys.bind obeys fun later result _ known => ?_
  cases result with
  | ok value => exact onSuccess later value known
  | error error => exact ⟨known, onFailure later error⟩

theorem untried_nil : Untried ([] : Log P) := ⟨rfl, .inl rfl⟩

theorem Engine.Errand.reply {operation : Engine P α} {make : Except WalletClientError α → Reply}
    (errand : operation.Errand call)
    (quiet : ∀ (later : Log P) result, (make result).Read call later) :
    (operation.reply make).Obeys (custodyRule P call)
      (fun later reply => Unheld later ∧ reply.Read call later) [] := by
  have obeys : operation.Obeys (custodyRule P call) (fun later _ => Free later)
      (fun later _ => Unheld later) [] :=
    Fallible.Obeys.mono (errand [] untried_nil) (fun _ _ _ free => free) fun _ _ _ free => free.2
  exact Engine.custody_reply obeys (fun later _ free => ⟨free.2, quiet later _⟩)
    fun later _ => quiet later _

theorem PublicCall.routine_custody (call : PublicCall) :
    call.routine.Obeys (custodyRule P call)
      (fun later reply => Unheld later ∧ reply.Read call later) [] := by
  have free : Free ([] : Log P) := untried_nil.free
  cases call with
  | send request => exact (Engine.send_errand request).reply fun _ _ => trivial
  | signMessage request => exact (Engine.signMessage_errand request).reply fun _ _ => trivial
  | sendBoc request => exact (Engine.sendBoc_errand request).reply fun _ _ => trivial
  | sendNftTransfer request =>
    exact (Engine.sendNftTransfer_errand request).reply fun _ _ => trivial
  | resolvePending => exact Engine.resolvePending_errand.reply fun _ _ => trivial
  | prepareTransfer request =>
    exact (Engine.prepareTransfer_errand request).reply fun _ _ => trivial
  | resolveDns name => exact (Engine.resolveDns_errand name).reply fun _ _ => trivial
  | prepareKeyRotation request =>
    exact (Engine.prepareKeyRotation_errand request).reply fun _ _ => trivial
  | createEncryptedComment request =>
    exact (Engine.createEncryptedComment_errand request).reply fun _ _ => trivial
  | resolveEncryptedCommentRecipient request =>
    exact (Engine.resolveEncryptedCommentRecipient_errand request).reply fun _ _ => trivial
  | decryptComment request =>
    exact (Engine.decryptComment_errand request).reply fun _ _ => trivial
  | cancelSend =>
    exact (Engine.cancelled_roaming (cancelSendRegion_roams rfl)).errand.reply fun _ _ => trivial
  | cancelRefresh =>
    exact (Engine.cancelled_roaming cancelRefreshRegion_roams).errand.reply fun _ _ => trivial
  | cancelLoadMoreActivity =>
    exact (Engine.cancelled_roaming cancelLoadMoreActivityRegion_roams).errand.reply
      fun _ _ => trivial
  | cancelRefreshNfts =>
    exact (Engine.cancelled_roaming cancelRefreshNftsRegion_roams).errand.reply fun _ _ => trivial
  | cancelLoadMoreNfts =>
    exact (Engine.cancelled_roaming cancelLoadMoreNftsRegion_roams).errand.reply
      fun _ _ => trivial
  | cancelSendPreview =>
    exact (Engine.cancelled_roaming cancelSendPreviewRegion_roams).errand.reply fun _ _ => trivial
  | previewSend request =>
    exact (Engine.previewSend_roaming request).errand.reply fun _ _ => trivial
  | previewTonConnect request =>
    exact (Engine.previewSend_roaming _).errand.reply fun _ _ => trivial
  | previewSendBoc request =>
    exact (Engine.previewSendBoc_roaming request).errand.reply fun _ _ => trivial
  | previewSignMessage request =>
    exact (Engine.previewSignMessage_roaming request).errand.reply fun _ _ => trivial
  | previewNftTransfer request =>
    exact (Engine.previewNftTransfer_roaming request).errand.reply fun _ _ => trivial
  | shutdown rounds => exact (Engine.shutdown_roaming rfl rounds).errand.reply fun _ _ => trivial
  | refresh =>
    exact Engine.custody_reply (Engine.refresh_loads untried_nil) (fun _ _ known => known)
      fun _ _ => trivial
  | loadMoreActivity =>
    exact Engine.custody_reply (Engine.loadMoreActivity_loads free) (fun _ _ known => known)
      fun _ _ => trivial
  | refreshNfts =>
    exact Engine.custody_reply (Engine.refreshNfts_loads free) (fun _ _ known => known)
      fun _ _ => trivial
  | loadMoreNfts =>
    exact Engine.custody_reply (Engine.loadMoreNfts_loads free) (fun _ _ known => known)
      fun _ _ => trivial
  | waitForChange afterRevision =>
    refine Engine.custody_reply (Engine.waitForChange_views untried_nil) ?_ fun _ _ => trivial
    rintro later snapshot ⟨unheld, viewed, newer⟩
    exact ⟨unheld, viewed, fun _ same => by cases same; exact newer⟩

/-- The contract of what operations own. -/
def custodyContract (host : HostModel P) : (walletSystem host).Contract where
  rule := custodyRule P
  post := fun call log reply => Unheld log ∧ reply.Read call log

variable {host : HostModel P}

theorem custody_disciplined
    {allowed : (walletSystem host).View → (walletSystem host).Event → Prop} {world : host.World}
    {config : (walletSystem host).Config}
    (reached : System.Reachable allowed (System.initial world) config) :
    System.Run (custodyContract host) allowed
      (System.initial (S := walletSystem host) world).toView config.toView :=
  reached.disciplined fun _ _ _ call _ => call.routine_custody

end Contract

end WalletEngine
