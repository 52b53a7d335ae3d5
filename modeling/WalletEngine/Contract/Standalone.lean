import WalletEngine.Contract.Previews

/-! # Operations under the resolution slot follow the rules -/

namespace WalletEngine

open Engine

variable {P : Platform} {call : PublicCall} {log : Log P} {generation : Nat} {α σ : Type}

section Regions

variable {prepare : WalletClientConfig → Locked σ} {fact : WalletClientConfig → σ → Prop}

theorem reserveWithSecret_ends {reason : SecretAccessReason} {prompt : String}
    (allocates : ∀ config, Allocates (fact config) (prepare config)) (state : State) :
    Region.Ends (reserveWithSecret reason prompt prepare) state fun result after =>
      StateMove log call state.tracked after.tracked ∧
        ∀ taken, result = .ok taken → ∃ config, fact config taken.2.2.2 := by
  refine ensureRunning_ends (fun _ => ⟨.untouched, forall_of_error⟩) fun _ => ?_
  refine Region.ends_bind (Region.ends_get ?_)
  cases state.config.localSecretRef with
  | none => exact ⟨.untouched, forall_of_error⟩
  | some secretRef =>
    dsimp only
    rw [Region.Ends, Region.pure_apply]
    refine Region.ends_bind ((reserveResolution_ends allocates state).mono ?_)
    rintro (error | taken) after reserved
    · exact ⟨reserved.moved.1, forall_of_error⟩
    · obtain ⟨moved, known⟩ : StateMove log call state.tracked after.tracked ∧ _ := reserved.moved
      refine ⟨moved, ?_⟩
      rintro _ ⟨⟩
      exact ⟨_, (known taken rfl).2⟩

theorem reserveWithoutSecret_ends
    (allocates : ∀ config, Allocates (fact config) (prepare config)) (state : State) :
    Region.Ends (reserveWithoutSecret prepare) state fun result after =>
      StateMove log call state.tracked after.tracked ∧
        ∀ taken, result = .ok taken → ∃ config, fact config taken.2.2 := by
  refine ensureRunning_ends (fun _ => ⟨.untouched, forall_of_error⟩) fun _ => ?_
  refine (reserveResolution_ends allocates state).mono fun _ _ reserved => ?_
  exact reserved.moved.imp_right fun known taken found => ⟨_, (known taken found).2⟩

theorem completeResolution_moves (state : State) :
    StateMove log call state.tracked (completeResolution generation state).2.tracked := by
  rw [completeResolution, ensureCurrent_bind]
  split
  · rename_i current
    obtain ⟨ids, active⟩ := isCurrent_resolution.mp current
    exact .releaseResolution generation ids _ active (.inl rfl)
  · exact .untouched

end Regions

section Steps

variable {success : Log P → α → Prop}
variable {request : HttpRequest} {fail : String → WalletClientError}

theorem completeResolution_follows :
    (withLock (completeResolution generation) : Engine P _).Follows call (fun _ _ => True) log :=
  withLock_follows_of_moves completeResolution_moves

theorem abandon_follows {error : WalletClientError} :
    (abandon generation error : Engine P α).Follows call success log :=
  (withLock_follows_of_moves discardResolution_moves).bind fun _ _ _ _ => follows_throw

theorem askProvider_follows (plain : Plain request) :
    (askProvider generation request fail : Engine P _).Follows call (fun _ _ => True) log := by
  refine (outcome_follows (executeTrackedStandaloneResolutionRequest_follows plain)).bind
    fun _ answer _ _ => ?_
  rcases answer with error | error | body
  · exact abandon_follows
  · exact abandon_follows
  · exact follows_pure trivial

theorem required_follows {ε : Type} {result : Except ε α} {fail : ε → WalletClientError} :
    (required generation result fail : Engine P α).Follows call (fun _ _ => True) log := by
  cases result with
  | ok value => exact follows_pure trivial
  | error error => exact abandon_follows

theorem askAndParse_follows {parse : P.serde.Body → Except DomainError α} (plain : Plain request) :
    (askAndParse generation request parse fail).Follows call (fun _ _ => True) log :=
  (askProvider_follows plain).bind fun _ _ _ _ => required_follows

theorem unlock_follows {read : ProtectedSecretRead} :
    (unlock generation read fail : Engine P _).Follows call (fun _ _ => True) log := by
  refine await_bind trivial nofun fun _ answer _ _ => required_follows.bind fun _ secret _ _ => ?_
  refine (withLock_follows_of_tracked fun state => ?_).bind fun _ _ _ _ => follows_pure trivial
  rw [ensureCurrent_state]

theorem standaloneSeqno_follows {status : AccountStatus}
    {unavailable : AccountStatus → WalletClientError} (plain : Plain request) :
    (standaloneSeqno generation status request fail unavailable : Engine P _).Follows call
      (fun _ _ => True) log := by
  cases status with
  | active => exact askAndParse_follows plain
  | nonexistent => exact follows_pure trivial
  | uninitialized => exact follows_pure trivial
  | frozen => exact abandon_follows
  | unknown => exact abandon_follows

end Steps

section Operations

theorem prepareTransfer_follows {request : PrepareTransferRequest} :
    (Engine.prepareTransfer request : Engine P _).Follows call (fun _ _ => True) log := by
  unfold Engine.prepareTransfer
  rcases request.intent.exactValueTotal with error | requested
  · exact follows_throw
  refine withLock_bind (reserveWithSecret_ends fun _ => requestPair_allocates _ _ _) ?_
  rintro _ _ _ ⟨secretRequest, generation, config, accountRequest, seqnoRequest⟩ - - ⟨_, one, two⟩
  refine (askAndParse_follows (.of_endpoint one nofun)).bind fun _ account _ _ => ?_
  refine required_follows.bind fun _ _ _ _ => ?_
  refine (standaloneSeqno_follows (.of_endpoint two nofun)).bind fun _ seqno _ _ => ?_
  refine required_follows.bind fun _ validUntil _ _ => ?_
  refine unlock_follows.bind fun _ secret _ _ => ?_
  refine required_follows.bind fun _ _ _ _ => required_follows.bind fun _ pair _ _ => ?_
  exact completeResolution_follows.bind fun _ _ _ _ => follows_pure trivial

theorem resolveDns_follows {name : String} :
    (resolveDns name : Engine P _).Follows call (fun _ _ => True) log := by
  unfold resolveDns
  rcases normalizeDnsName name with message | name
  · exact follows_throw
  refine withLock_bind (reserveWithoutSecret_ends fun _ => allocateRequest_allocates _ _) ?_
  rintro _ _ _ ⟨generation, config, request⟩ - - ⟨_, asks⟩
  refine (askAndParse_follows (.of_endpoint asks nofun)).bind fun _ address _ _ => ?_
  exact completeResolution_follows.bind fun _ _ _ _ => follows_pure trivial

theorem prepareKeyRotation_follows {request : PrepareKeyRotationRequest} :
    (prepareKeyRotation request : Engine P _).Follows call (fun _ _ => True) log := by
  unfold prepareKeyRotation
  split
  · exact follows_throw
  refine withLock_bind (reserveWithSecret_ends fun _ => requestPair_allocates _ _ _) ?_
  rintro _ _ _ ⟨secretRequest, generation, config, accountRequest, seqnoRequest⟩ - - ⟨_, one, two⟩
  refine (askAndParse_follows (.of_endpoint one nofun)).bind fun _ account _ _ => ?_
  refine (standaloneSeqno_follows (.of_endpoint two nofun)).bind fun _ seqno _ _ => ?_
  refine unlock_follows.bind fun _ secret _ _ => required_follows.bind fun _ prepared _ _ => ?_
  exact completeResolution_follows.bind fun _ _ _ _ => follows_pure trivial

end Operations

section Comments

theorem requiredComment_follows {result : Except EncryptedCommentError α} :
    (requiredComment generation result : Engine P α).Follows call (fun _ _ => True) log := by
  unfold requiredComment
  split
  · exact follows_pure trivial
  · exact completeResolution_follows.bind fun _ _ _ _ => follows_throw
  · exact abandon_follows

theorem askRecipientKey_follows {request : HttpRequest} (plain : Plain request) :
    (askRecipientKey generation request : Engine P _).Follows call (fun _ _ => True) log := by
  refine (askAndParse_follows plain).bind fun _ answer _ _ => ?_
  cases answer with
  | key key => exact follows_pure trivial
  | noKey reason => exact abandon_follows

theorem resolveRecipientPublicKey_follows {recipient : TonAddressString} {network : Network}
    {hint : Option PublicKey} {accountRequest keyRequest : HttpRequest}
    (plainAccount : Plain accountRequest) (plainKey : Plain keyRequest) :
    (resolveRecipientPublicKey generation recipient network hint accountRequest keyRequest :
      Engine P _).Follows call (fun _ _ => True) log := by
  refine (askAndParse_follows plainAccount).bind fun _ account _ _ => ?_
  rcases account.status with _ | _ | _ | _ | _
  · cases hint with
    | none => exact abandon_follows
    | some key => exact required_follows.bind fun _ _ _ _ => follows_pure trivial
  · cases hint with
    | none => exact abandon_follows
    | some key => exact required_follows.bind fun _ _ _ _ => follows_pure trivial
  · exact askRecipientKey_follows plainKey
  · exact abandon_follows
  · exact abandon_follows

theorem createEncryptedComment_follows {request : CreateEncryptedCommentRequest} :
    (createEncryptedComment request : Engine P _).Follows call (fun _ _ => True) log := by
  unfold createEncryptedComment
  split
  · exact follows_throw
  rcases recipientKeyHint request.recipientPublicKey with error | hint
  · exact follows_throw
  refine withLock_bind (reserveWithSecret_ends fun _ => requestPair_allocates _ _ _) ?_
  rintro _ _ _ ⟨secretRequest, generation, config, accountRequest, keyRequest⟩ - - ⟨_, one, two⟩
  refine (resolveRecipientPublicKey_follows (.of_endpoint one nofun)
    (.of_endpoint two nofun)).bind fun _ key _ _ => ?_
  refine unlock_follows.bind fun _ secret _ _ => requiredComment_follows.bind fun _ body _ _ => ?_
  exact completeResolution_follows.bind fun _ _ _ _ => follows_pure trivial

theorem resolveEncryptedCommentRecipient_follows {request : EncryptedCommentRecipientRequest} :
    (resolveEncryptedCommentRecipient request : Engine P _).Follows call
      (fun _ _ => True) log := by
  unfold resolveEncryptedCommentRecipient
  rcases recipientKeyHint request.recipientPublicKey with error | hint
  · exact follows_throw
  refine withLock_bind (reserveWithoutSecret_ends fun _ => requestPair_allocates _ _ _) ?_
  rintro _ _ _ ⟨generation, config, accountRequest, keyRequest⟩ - - ⟨_, one, two⟩
  refine (resolveRecipientPublicKey_follows (.of_endpoint one nofun)
    (.of_endpoint two nofun)).bind fun _ key _ _ => ?_
  exact completeResolution_follows.bind fun _ _ _ _ => follows_pure trivial

theorem reserveKeyChangePage_keeps (offset : Nat) :
    Keeps (fun _ _ taken => Plain taken.1) (reserveKeyChangePage generation offset) := by
  refine fun before => ensureCurrent_ends (fun _ _ => kept_error rfl) fun _ => Region.ends_get ?_
  refine (allocateRequest_allocates _ _).ends (fun _ _ allocated => kept_error allocated.tracked) ?_
  exact fun _ _ asks allocated => kept_ok allocated.tracked (.of_endpoint asks nofun)

theorem storeKeyChanges_tracked (changes : List KeyChange) (state : State) :
    (storeKeyChanges generation changes state).2.tracked = state.tracked := by
  rw [storeKeyChanges, ensureCurrent_bind]
  split <;> rfl

theorem keyChangePages_follows {pages offset : Nat} {changes : List KeyChange} :
    (keyChangePages generation pages offset changes : Engine P _).Follows call
      (fun _ _ => True) log := by
  induction pages generalizing offset changes log with
  | zero => exact follows_pure trivial
  | succ pages ih =>
    have reserve : Engine.Follows (P := P) call (fun _ result => ∀ request address,
        result = .ok (request, address) → Plain request) log
        (Fallible.outcome (withLock (reserveKeyChangePage generation offset))) := by
      refine Fallible.obeys_outcome (Fallible.obeys_locked (fun state => ?_) ?_ ?_)
      · change StateMove log call _ _
        rw [(reserveKeyChangePage_keeps offset state).1]
        exact .untouched
      · rintro state ⟨request, address⟩ after ran
        refine ⟨?_, Uncommitted.locked⟩
        rintro _ _ ⟨⟩
        exact (reserveKeyChangePage_keeps offset).of_ok ran
      · intro state error after ran
        exact ⟨nofun, Uncommitted.locked⟩
    refine reserve.bind fun _ result _ plain => ?_
    rcases result with error | ⟨request, address⟩
    · exact abandon_follows
    refine (askAndParse_follows (plain request address rfl)).bind fun _ page _ _ => ?_
    split
    · exact ih
    · exact follows_pure trivial

theorem keyChangeHistory_follows {currentPublicKey : PublicKey} :
    (keyChangeHistory generation currentPublicKey : Engine P _).Follows call
      (fun _ _ => True) log := by
  refine (withLock_follows_of_tracked fun _ => rfl).bind fun _ cached _ _ => ?_
  cases cached with
  | some changes => exact follows_pure trivial
  | none =>
    refine keyChangePages_follows.bind fun _ changes _ _ => ?_
    refine (withLock_follows_of_tracked (storeKeyChanges_tracked changes)).bind
      fun _ _ _ _ => follows_pure trivial

theorem decryptWithKeys_follows {anchor signing : P.keys.SigningKey}
    {request : DecryptCommentRequest} :
    (decryptWithKeys generation anchor signing request).Follows call (fun _ _ => True) log := by
  unfold decryptWithKeys
  dsimp only
  split
  · exact follows_pure trivial
  split
  · refine keyChangeHistory_follows.bind fun _ changes _ _ => ?_
    dsimp only
    split
    · exact required_follows
    · exact abandon_follows
  · exact abandon_follows

theorem decryptComment_follows {request : DecryptCommentRequest} :
    (decryptComment request : Engine P _).Follows call (fun _ _ => True) log := by
  unfold decryptComment
  rcases P.keys.validateEncryptedCommentBody request.body with error | _
  · exact follows_throw
  refine withLock_bind (reserveWithSecret_ends fun _ => unit_allocates) ?_
  rintro _ _ _ ⟨secretRequest, generation, config, _⟩ - - -
  refine unlock_follows.bind fun _ secret _ _ => requiredComment_follows.bind fun _ keys _ _ => ?_
  obtain ⟨anchor, signing⟩ := keys
  refine decryptWithKeys_follows.bind fun _ comment _ _ => ?_
  exact completeResolution_follows.bind fun _ _ _ _ => follows_pure trivial

end Comments

end WalletEngine
