import Mathlib.Data.List.Perm.Subperm
import WalletEngine.Wallet.KeyRotation

/-! # Rotations keep the wallet and every old key

A run of rotations, each prepared from the phrase that the one before handed out. Every
phrase keeps the anchor half, every request is signed by the key it replaces, and the
records of the run lead from any of its keys back to all the earlier ones. -/

namespace WalletEngine

variable (services : RotationServices)

section Runs

/-- The phrase that a run has reached. The rotations of a run are listed newest first. -/
def latestPhrase (start : String) : List PreparedKeyRotationMaterial → String
  | [] => start
  | material :: _ => material.replacementPhrase

/-- Rotations in a row, from a phrase that parses. -/
inductive RotationRun (start : String) : List PreparedKeyRotationMaterial → Prop
  | start {first : RotationMnemonic services.toMnemonicServices}
      (parsed : RotationMnemonic.parse services.toMnemonicServices start = .ok first) :
      RotationRun start []
  | rotate {earlier : List PreparedKeyRotationMaterial} {material : PreparedKeyRotationMaterial}
      {call : RotationCall} (before : RotationRun start earlier)
      (prepared : prepareKeyRotation services call (latestPhrase start earlier) = .ok material) :
      RotationRun start (material :: earlier)

def signingKeyOf (phrase : String) : Option SigningKey :=
  (RotationMnemonic.parse services.toMnemonicServices phrase).toOption.map fun mnemonic =>
    deriveKey services mnemonic.signing

/-- The signing keys of the phrases of a run, newest first. -/
def runKeys (start : String) : List PreparedKeyRotationMaterial → List SigningKey
  | [] => (signingKeyOf services start).toList
  | material :: earlier =>
    (signingKeyOf services material.replacementPhrase).toList ++ runKeys start earlier

/-- What the wallet publishes when it applies the request that replaces one key by another. -/
def publishedChange (old new : SigningKey) : KeyChange :=
  ⟨services.verifyingKey new, encryptOldPrivateKey services old new⟩

/-- The records of a row of keys. -/
def publishedChanges : List SigningKey → List KeyChange
  | new :: old :: older => publishedChange services old new :: publishedChanges (old :: older)
  | _ => []

/-- The material replaces the signing half of one mnemonic by another one: its phrase parses
into the old anchor and the new half, and the request in its message names the new key,
holds the old one, and is signed by the old one. -/
structure Replaces (call : RotationCall) (material : PreparedKeyRotationMaterial)
    (current : RotationMnemonic services.toMnemonicServices)
    (newHalf : Bip39Half services.toMnemonicServices) : Prop where
  reparsed : RotationMnemonic.parse services.toMnemonicServices material.replacementPhrase =
    .ok ⟨current.anchor, newHalf⟩
  derived : material.newPublicKey = services.verifyingKey (deriveKey services newHalf)
  address : services.walletAddress call.network
    (services.verifyingKey (deriveKey services current.anchor)) = some call.expectedWallet
  signed : ∃ request body signed stateInit,
    buildChangePublicKeyRequest request = some body ∧
      (⟨request.newPublicKey, request.encryptedOldPrivateKey⟩ : KeyChange) =
        publishedChange services (deriveKey services current.signing)
          (deriveKey services newHalf) ∧
      signCell services (deriveKey services current.signing) body = some signed ∧
      services.wrapSignedRequest call.expectedWallet call.messageKind signed stateInit =
        some material.signedBoc

end Runs

section Preparation

variable {services} {call : RotationCall} {phrase : String}
  {material : PreparedKeyRotationMaterial}

theorem signedRotation_eq_some {walletAddress : TonAddressString} {currentKey newKey : SigningKey}
    {stateInit : Option Cell} {boc : Boc}
    (built : signedRotation services call walletAddress currentKey newKey stateInit = some boc) :
    ∃ request body signed, buildChangePublicKeyRequest request = some body ∧
      (⟨request.newPublicKey, request.encryptedOldPrivateKey⟩ : KeyChange) =
        publishedChange services currentKey newKey ∧
      signCell services currentKey body = some signed ∧
      services.wrapSignedRequest walletAddress call.messageKind signed stateInit = some boc := by
  obtain ⟨request, requested, built⟩ := Option.bind_eq_some_iff.mp built
  obtain ⟨body, body_eq, built⟩ := Option.bind_eq_some_iff.mp built
  obtain ⟨signed, signed_eq, wrapped⟩ := Option.bind_eq_some_iff.mp built
  obtain ⟨proof, _, rfl⟩ := Option.map_eq_some_iff.mp requested
  exact ⟨_, body, signed, body_eq, rfl, signed_eq, wrapped⟩

theorem prepareKeyRotation_ok (prepared : prepareKeyRotation services call phrase = .ok material) :
    ∃ current newHalf,
      RotationMnemonic.parse services.toMnemonicServices phrase = .ok current ∧
        Replaces services call material current newHalf := by
  obtain ⟨current, parsed, prepared⟩ := except_bind_eq_ok.mp prepared
  obtain ⟨address, derived, prepared⟩ := except_bind_eq_ok.mp prepared
  obtain ⟨expected, prepared⟩ := except_guard_eq_ok.mp prepared
  obtain ⟨_, prepared⟩ := except_guard_eq_ok.mp prepared
  obtain ⟨_, prepared⟩ := except_guard_eq_ok.mp prepared
  obtain ⟨newHalf, _, prepared⟩ := except_bind_eq_ok.mp prepared
  obtain ⟨stateInit, _, prepared⟩ := except_bind_eq_ok.mp prepared
  obtain ⟨boc, built, prepared⟩ := except_bind_eq_ok.mp prepared
  obtain ⟨_, _, prepared⟩ := except_bind_eq_ok.mp prepared
  cases prepared
  obtain rfl : address = call.expectedWallet := Decidable.not_not.mp expected
  obtain ⟨request, body, signed, facts⟩ := signedRotation_eq_some (option_elim_eq_ok built)
  exact ⟨current, newHalf, except_mapError_eq_ok.mp parsed, {
    reparsed := RotationMnemonic.parse_halves _ _
    derived := rfl
    address := option_elim_eq_ok derived
    signed := ⟨request, body, signed, stateInit, facts⟩ }⟩

end Preparation

section Records

variable {services} {keys : List SigningKey} {changes : List KeyChange}

theorem installedBy_eq_some {change : KeyChange} (found : change ∈ changes)
    (only : ∀ other ∈ changes, other.newPublicKey = change.newPublicKey → other = change) :
    installedBy changes change.newPublicKey = some change.encryptedOldPrivateKey := by
  have present : (changes.reverse.find? (·.newPublicKey == change.newPublicKey)).isSome := by
    rw [List.find?_isSome]
    exact ⟨change, List.mem_reverse.mpr found, beq_self_eq_true _⟩
  obtain ⟨last, last_eq⟩ := Option.isSome_iff_exists.mp present
  have member := List.mem_reverse.mp (List.mem_of_find?_eq_some last_eq)
  have installs : last.newPublicKey = change.newPublicKey := by
    simpa using List.find?_some last_eq
  rw [installedBy, last_eq, only last member installs]
  rfl

theorem installedBy_eq_none {publicKey : PublicKey}
    (absent : ∀ change ∈ changes, change.newPublicKey ≠ publicKey) :
    installedBy changes publicKey = none := by
  rw [installedBy, Option.map_eq_none_iff, List.find?_eq_none]
  intro change member same
  exact absent change (List.mem_reverse.mp member) (eq_of_beq same)

/-- A record of a row of keys belongs to one of its steps. -/
theorem mem_publishedChanges {change : KeyChange} :
    change ∈ publishedChanges services keys ↔
      ∃ new old older, new :: old :: older <:+ keys ∧
        change = publishedChange services old new := by
  induction keys with
  | nil => simp [publishedChanges]
  | cons new keys ih =>
    cases keys with
    | nil =>
      simp only [publishedChanges, List.not_mem_nil, false_iff]
      rintro ⟨_, _, _, suffix, _⟩
      simpa using suffix.length_le
    | cons old older =>
      rw [publishedChanges, List.mem_cons, ih]
      constructor
      · rintro (rfl | ⟨new', old', older', suffix, rfl⟩)
        · exact ⟨new, old, older, List.suffix_rfl, rfl⟩
        · exact ⟨new', old', older', suffix.trans (List.suffix_cons _ _), rfl⟩
      · rintro ⟨new', old', older', suffix, rfl⟩
        rcases List.suffix_cons_iff.mp suffix with same | suffix
        · cases same
          exact .inl rfl
        · exact .inr ⟨new', old', older', suffix, rfl⟩

theorem map_publishedChanges :
    (publishedChanges services keys).map (·.newPublicKey) =
      keys.dropLast.map services.verifyingKey := by
  induction keys with
  | nil => rfl
  | cons new keys ih =>
    cases keys with
    | nil => rfl
    | cons old older =>
      rw [publishedChanges, List.map_cons, ih]
      rfl

/-- In a row of different keys a key stands in one place. -/
theorem suffix_unique {first second : SigningKey} {firstRest secondRest : List SigningKey}
    (distinct : (keys.map services.verifyingKey).Nodup) (firstPlace : first :: firstRest <:+ keys)
    (secondPlace : second :: secondRest <:+ keys)
    (same : services.verifyingKey first = services.verifyingKey second) :
    first :: firstRest = second :: secondRest := by
  wlog shorter : (first :: firstRest) <:+ (second :: secondRest) generalizing first second
    firstRest secondRest with symmetric
  · have longer := (List.suffix_or_suffix_of_suffix firstPlace secondPlace).resolve_left shorter
    exact (symmetric secondPlace firstPlace same.symm longer).symm
  · rcases List.suffix_cons_iff.mp shorter with equal | inside
    · exact equal
    · have sublist := (secondPlace.sublist.map services.verifyingKey).nodup distinct
      rw [List.map_cons, List.nodup_cons] at sublist
      refine absurd ?_ sublist.1
      rw [← same]
      exact List.mem_map_of_mem (inside.subset List.mem_cons_self)

/-- Only the last key of a row has no key behind it. -/
theorem mem_dropLast_of_suffix {key next : SigningKey} {rest : List SigningKey}
    (place : key :: next :: rest <:+ keys) : key ∈ keys.dropLast := by
  obtain ⟨front, rfl⟩ := place
  rw [List.dropLast_append_of_ne_nil (List.cons_ne_nil _ _)]
  simp [List.dropLast]

variable (services) in
/-- The reported records hold those of a row of keys, in any order and any number of times,
and otherwise only records for keys outside the row. -/
structure Reports (keys : List SigningKey) (changes : List KeyChange) : Prop where
  all : ∀ change ∈ publishedChanges services keys, change ∈ changes
  only : ∀ change ∈ changes, change ∈ publishedChanges services keys ∨
    change.newPublicKey ∉ keys.map services.verifyingKey

section Walk

variable (distinct : (keys.map services.verifyingKey).Nodup)
  (reports : Reports services keys changes)
variable {older : List SigningKey}
include distinct reports

theorem Reports.installedBy_step {new old : SigningKey} (place : new :: old :: older <:+ keys) :
    installedBy changes (services.verifyingKey new) =
      some (encryptOldPrivateKey services old new) := by
  have published : publishedChange services old new ∈ publishedChanges services keys :=
    mem_publishedChanges.mpr ⟨new, old, older, place, rfl⟩
  refine installedBy_eq_some (reports.all _ published) fun other member same => ?_
  rcases reports.only other member with recorded | unrelated
  · obtain ⟨_, _, _, otherPlace, rfl⟩ := mem_publishedChanges.mp recorded
    cases suffix_unique distinct otherPlace place same
    rfl
  · refine absurd ?_ unrelated
    rw [same]
    exact List.mem_map_of_mem (place.subset List.mem_cons_self)

theorem Reports.installedBy_last {last : SigningKey} (place : [last] <:+ keys) :
    installedBy changes (services.verifyingKey last) = none := by
  refine installedBy_eq_none fun change member same => ?_
  rcases reports.only change member with recorded | unrelated
  · obtain ⟨_, _, _, otherPlace, rfl⟩ := mem_publishedChanges.mp recorded
    cases suffix_unique distinct otherPlace place same
  · refine absurd ?_ unrelated
    rw [same]
    exact List.mem_map_of_mem (place.subset List.mem_cons_self)

/-- With enough steps the walk visits every earlier key but the anchor, which can only be
the first one. -/
theorem Reports.walkBack_eq {anchor : PublicKey}
    (fresh : anchor ∉ keys.dropLast.map services.verifyingKey) {key : SigningKey} {steps : Nat}
    (place : key :: older <:+ keys) (enough : older.length ≤ steps) :
    walkBack services anchor changes steps key =
      older.filter fun key => services.verifyingKey key ≠ anchor := by
  induction older generalizing key steps with
  | nil =>
    cases steps with
    | zero => rfl
    | succ steps => simp [walkBack, reports.installedBy_last distinct place]
  | cons old older ih =>
    cases steps with
    | zero => simp at enough
    | succ steps =>
      have next : old :: older <:+ keys := (List.suffix_cons _ _).trans place
      rw [walkBack, reports.installedBy_step distinct place]
      simp only [decryptOldPrivateKey_encrypt]
      by_cases reached : services.verifyingKey old = anchor
      · rw [if_pos reached]
        cases older with
        | nil => simp [reached]
        | cons oldest rest =>
          refine absurd ?_ fresh
          rw [← reached]
          exact List.mem_map_of_mem (mem_dropLast_of_suffix next)
      · rw [if_neg reached, ih next (by simpa using enough)]
        simp [reached]

/-- The records of a row of keys allow as many steps as the row has. -/
theorem Reports.length_le_installedKeys : keys.length - 1 ≤ (installedKeys changes).length := by
  have installed : keys.dropLast.map services.verifyingKey ⊆ installedKeys changes := by
    intro key member
    rw [← map_publishedChanges] at member
    obtain ⟨change, published, rfl⟩ := List.mem_map.mp member
    exact List.mem_dedup.mpr (List.mem_map_of_mem (reports.all change published))
  have different : (keys.dropLast.map services.verifyingKey).Nodup :=
    ((List.dropLast_sublist keys).map services.verifyingKey).nodup distinct
  simpa using (List.subperm_of_subset different installed).length_le

/-- The walk recovers every earlier key but the anchor. -/
theorem Reports.recoverSigningKeys_eq {anchor : PublicKey}
    (fresh : anchor ∉ keys.dropLast.map services.verifyingKey) {key : SigningKey}
    (place : key :: older <:+ keys) :
    recoverSigningKeys services anchor key changes =
      older.filter fun key => services.verifyingKey key ≠ anchor := by
  have steps := reports.length_le_installedKeys distinct
  have short := place.length_le
  rw [List.length_cons] at short
  exact reports.walkBack_eq distinct fresh place (by omega)

end Walk

/-- On any records, even cyclic ones, the walk is bounded and never reaches the anchor. -/
theorem walkBack_bounded (services : RotationServices) (anchor : PublicKey)
    (changes : List KeyChange) (steps : Nat) (key : SigningKey) :
    (walkBack services anchor changes steps key).length ≤ steps ∧
      ∀ older ∈ walkBack services anchor changes steps key,
        services.verifyingKey older ≠ anchor := by
  induction steps generalizing key with
  | zero => simp [walkBack]
  | succ steps ih =>
    rw [walkBack]
    split
    · simp
    · rename_i encrypted _
      dsimp only
      split
      · simp
      · rename_i other
        have rest := ih (decryptOldPrivateKey services encrypted key)
        simpa [other] using rest

end Records

section History

variable {services} {start : String} {materials : List PreparedKeyRotationMaterial}
  {first : RotationMnemonic services.toMnemonicServices}
variable {earlier : List PreparedKeyRotationMaterial}

theorem signingKeyOf_eq {phrase : String} {mnemonic : RotationMnemonic services.toMnemonicServices}
    (parsed : RotationMnemonic.parse services.toMnemonicServices phrase = .ok mnemonic) :
    signingKeyOf services phrase = some (deriveKey services mnemonic.signing) := by
  simp [signingKeyOf, parsed, Except.toOption]

theorem RotationRun.of_suffix (run : RotationRun services start materials)
    (suffix : earlier <:+ materials) : RotationRun services start earlier := by
  induction run with
  | start parsed =>
    obtain rfl := List.suffix_nil.mp suffix
    exact .start parsed
  | rotate before prepared ih =>
    rcases List.suffix_cons_iff.mp suffix with rfl | suffix
    · exact .rotate before prepared
    · exact ih suffix

theorem runKeys_suffix (suffix : earlier <:+ materials) :
    runKeys services start earlier <:+ runKeys services start materials := by
  induction materials with
  | nil =>
    obtain rfl := List.suffix_nil.mp suffix
    exact List.suffix_rfl
  | cons material materials ih =>
    rcases List.suffix_cons_iff.mp suffix with rfl | suffix
    · exact List.suffix_rfl
    · exact (ih suffix).trans (List.suffix_append _ _)

/-- The phrase a run has reached parses with the anchor of its start, and its signing key is
the newest of the run. -/
theorem RotationRun.latest (run : RotationRun services start materials)
    (parsed : RotationMnemonic.parse services.toMnemonicServices start = .ok first) :
    ∃ current older,
      RotationMnemonic.parse services.toMnemonicServices (latestPhrase start materials) =
        .ok current ∧ current.anchor = first.anchor ∧
      runKeys services start materials = deriveKey services current.signing :: older ∧
      older.length = materials.length := by
  induction run with
  | start =>
    exact ⟨first, [], parsed, rfl, by simp [runKeys, signingKeyOf_eq parsed], rfl⟩
  | rotate before prepared ih =>
    obtain ⟨previous, older, parsedPrevious, anchored, keys, counted⟩ := ih
    obtain ⟨current, newHalf, parsedCurrent, replaces⟩ := prepareKeyRotation_ok prepared
    rw [parsedPrevious] at parsedCurrent
    cases parsedCurrent
    refine ⟨⟨previous.anchor, newHalf⟩, deriveKey services previous.signing :: older,
      replaces.reparsed, anchored, ?_, by simp [counted]⟩
    rw [runKeys, signingKeyOf_eq replaces.reparsed, keys]
    rfl

/-- Every rotation of a run replaces the signing half of the phrase before it and keeps the
anchor. -/
theorem RotationRun.replaces {material : PreparedKeyRotationMaterial}
    (run : RotationRun services start materials)
    (parsed : RotationMnemonic.parse services.toMnemonicServices start = .ok first)
    (step : material :: earlier <:+ materials) :
    ∃ call current newHalf,
      RotationMnemonic.parse services.toMnemonicServices (latestPhrase start earlier) =
        .ok current ∧ current.anchor = first.anchor ∧
      Replaces services call material current newHalf := by
  cases run.of_suffix step with
  | @rotate _ _ call before prepared =>
    obtain ⟨current, newHalf, parsedCurrent, replaces⟩ := prepareKeyRotation_ok prepared
    obtain ⟨latest, _, parsedLatest, anchored, _⟩ := before.latest parsed
    rw [parsedLatest] at parsedCurrent
    cases parsedCurrent
    exact ⟨call, current, newHalf, parsedLatest, anchored, replaces⟩

/-- The public keys of a run are different from each other, and only the first signing key
may be the anchor. -/
structure DistinctKeys (services : RotationServices) (anchor : PublicKey)
    (keys : List SigningKey) : Prop where
  distinct : (keys.map services.verifyingKey).Nodup
  fresh : anchor ∉ keys.dropLast.map services.verifyingKey

/-- Rotations keep the wallet and every old key. The walk from the phrase after any number of
rotations recovers all earlier signing keys of the run but the anchor, so in particular the
one the run started with unless that is the anchor. -/
theorem key_rotation_history (services : RotationServices) (start : String)
    (materials : List PreparedKeyRotationMaterial)
    (first : RotationMnemonic services.toMnemonicServices)
    (parsed : RotationMnemonic.parse services.toMnemonicServices start = .ok first)
    (run : RotationRun services start materials) :
    (∀ material earlier, material :: earlier <:+ materials →
        ∃ call current newHalf,
          RotationMnemonic.parse services.toMnemonicServices (latestPhrase start earlier) =
            .ok current ∧ current.anchor = first.anchor ∧
          Replaces services call material current newHalf) ∧
      (∀ anchor, anchor = services.verifyingKey (deriveKey services first.anchor) →
        DistinctKeys services anchor (runKeys services start materials) →
        ∀ changes, Reports services (runKeys services start materials) changes →
        ∀ earlier, earlier <:+ materials →
          ∃ key older, signingKeyOf services (latestPhrase start earlier) = some key ∧
            runKeys services start earlier = key :: older ∧ older.length = earlier.length ∧
            recoverSigningKeys services anchor key changes =
              older.filter fun key => services.verifyingKey key ≠ anchor) ∧
      ∀ anchor current changes,
        (recoverSigningKeys services anchor current changes).length ≤
            (installedKeys changes).length ∧
          ∀ key ∈ recoverSigningKeys services anchor current changes,
            services.verifyingKey key ≠ anchor := by
  refine ⟨fun material earlier step => run.replaces parsed step, ?_, ?_⟩
  · intro anchor _ keys changes reports earlier suffix
    obtain ⟨current, older, parsedCurrent, _, row, counted⟩ :=
      (run.of_suffix suffix).latest parsed
    refine ⟨_, older, signingKeyOf_eq parsedCurrent, row, counted, ?_⟩
    exact reports.recoverSigningKeys_eq keys.distinct keys.fresh (row ▸ runKeys_suffix suffix)
  · intro anchor current changes
    exact walkBack_bounded services anchor changes _ current

end History

section Plain

/-- Keys that add up the letters of a phrase and public keys that equal the private ones. -/
def plainRotation : RotationServices where
  toMnemonicServices := plainMnemonic
  deriveHalfKey := fun phrase =>
    Vector.replicate 32 (UInt8.ofNat (phrase.foldl (fun sum c => sum + c.toNat) 0))
  verifyingKey := fun key => ⟨key.toList, by simp⟩
  sign := fun _ _ => Vector.replicate 64 0
  cellHash := fun _ => Vector.replicate 32 0
  walletAddress := fun _ _ => some ⟨0, 1⟩
  walletPublicState := fun _ _ => none
  wrapSignedRequest := fun _ _ _ _ => some ⟨[]⟩

theorem words_plainRotation : plainRotation.toMnemonicServices.words = plainWords := by
  simp only [plainRotation, plainMnemonic]

/-- A rotation of the plain wallet that draws one half. -/
def plainCall (draw : UInt8) : RotationCall where
  network := .testnet
  expectedWallet := ⟨0, 1⟩
  seqno := 1
  needsStateInit := false
  validUntil := 10
  messageKind := .external
  draws := [some (Vector.ofFn fun index => if index = 15 then draw else 0)]

/-- The half whose entropy is zero up to its last byte, which is small. -/
def plainHalf (last : Fin 3) : Bip39Half plainRotation.toMnemonicServices where
  words := List.replicate 11 (plainWord 0) ++ [plainWord (16 * last)]
  counted := rfl
  listed := by
    intro word member
    rw [words_plainRotation, mem_plainWords]
    rcases List.mem_append.mp member with first | last
    · exact ⟨0, by decide, (List.eq_of_mem_replicate first).symm⟩
    · exact ⟨16 * _, by omega, (List.mem_singleton.mp last).symm⟩
  checked := by
    have decodes : ∀ last : Fin 3, (toEntropy plainRotation.toMnemonicServices
        (List.replicate 11 (plainWord 0) ++ [plainWord (16 * last)])).toOption.isSome := by
      decide +kernel
    obtain ⟨entropy, decoded⟩ := Option.isSome_iff_exists.mp (decodes last)
    exact ⟨entropy, except_toOption_eq_some.mp decoded⟩

def plainKey (last : Fin 3) : SigningKey :=
  deriveKey plainRotation (plainHalf last)

def plainPhrase (signing : Fin 3) : String :=
  String.ofList ((plainHalf 0).toPhrase ++ ' ' :: (plainHalf signing).toPhrase)

/-- What a rotation of the plain wallet to a half produces. -/
def plainMaterial (last : Fin 3) : PreparedKeyRotationMaterial where
  replacementPhrase := plainPhrase last
  newPublicKey := plainRotation.verifyingKey (plainKey last)
  signedBoc := ⟨[]⟩

theorem fromEntropy_plain : ∀ last : Fin 3,
    Bip39Half.fromEntropy plainRotation.toMnemonicServices
      (Vector.ofFn fun index => if index = 15 then UInt8.ofNat last else 0) =
        .ok (plainHalf last) := by
  have words : ∀ last : Fin 3, (Bip39Half.fromEntropy plainRotation.toMnemonicServices
      (Vector.ofFn fun index => if index = 15 then UInt8.ofNat last else 0)).toOption.map
        (·.words) = some (plainHalf last).words := by decide +kernel
  intro last
  obtain ⟨half, found, same⟩ := Option.map_eq_some_iff.mp (words last)
  rw [except_toOption_eq_some.mp found, Bip39Half.ext same]

theorem plainKey_injective : Function.Injective plainKey := by
  intro first second
  revert first second
  decide +kernel

/-- A rotation of the plain wallet to another half. -/
theorem prepareKeyRotation_plain {phrase : String} {signing last : Fin 3}
    (parsed : RotationMnemonic.parse plainRotation.toMnemonicServices phrase =
      .ok ⟨plainHalf 0, plainHalf signing⟩) (different : last ≠ signing) :
    prepareKeyRotation plainRotation (plainCall (UInt8.ofNat last)) phrase =
      .ok (plainMaterial last) := by
  have other : plainRotation.verifyingKey (plainKey last) ≠
      plainRotation.verifyingKey (plainKey signing) := by
    intro same
    exact different (plainKey_injective (Vector.toList_inj.mp (congrArg PublicKey.bytes same)))
  have drawn : drawHalf plainRotation (plainRotation.verifyingKey (plainKey signing))
      maxKeyGenerationAttempts (plainCall (UInt8.ofNat last)).draws = .ok (plainHalf last) := by
    simp only [plainCall, maxKeyGenerationAttempts, drawHalf, fromEntropy_plain, bind,
      Except.bind, Except.mapError]
    exact if_neg other
  have address : plainRotation.walletAddress (plainCall (UInt8.ofNat last)).network
      (plainRotation.verifyingKey (deriveKey plainRotation (plainHalf 0))) =
        some (plainCall (UInt8.ofNat last)).expectedWallet := rfl
  have valid : (plainCall (UInt8.ofNat last)).validUntil < u32Bound := by
    have small : 10 < u32Bound := by decide
    exact small
  have workchain : workchainByte (plainCall (UInt8.ofNat last)).expectedWallet.workchain =
      some 0 := rfl
  have wraps : ∀ signed, plainRotation.wrapSignedRequest
      (plainCall (UInt8.ofNat last)).expectedWallet (plainCall (UInt8.ofNat last)).messageKind
        signed none = some ⟨[]⟩ := fun _ => rfl
  have prepared := prepareKeyRotation_of_drawn parsed address rfl valid drawn workchain wraps
  exact prepared

/-- The plain wallet as created, rotated twice: the phrase of the second rotation recovers the
key of the first one from the records. -/
theorem key_rotation_history_plain : ∃ start,
    RotationRun plainRotation start [plainMaterial 2, plainMaterial 1] ∧
      recoverSigningKeys plainRotation (plainRotation.verifyingKey (plainKey 0)) (plainKey 2)
        (publishedChanges plainRotation [plainKey 2, plainKey 1, plainKey 0]).reverse =
          [plainKey 1] := by
  let start := String.ofList (plainHalf 0).toPhrase
  have parsed : RotationMnemonic.parse plainRotation.toMnemonicServices start =
      .ok ⟨plainHalf 0, plainHalf 0⟩ := RotationMnemonic.parse_half _
  have reparsed (last : Fin 3) : RotationMnemonic.parse plainRotation.toMnemonicServices
      (plainMaterial last).replacementPhrase = .ok ⟨plainHalf 0, plainHalf last⟩ :=
    RotationMnemonic.parse_halves _ _
  have run : RotationRun plainRotation start [plainMaterial 2, plainMaterial 1] :=
    .rotate (.rotate (.start parsed) (prepareKeyRotation_plain parsed (by decide)))
      (prepareKeyRotation_plain (reparsed 1) (by decide))
  have keys : runKeys plainRotation start [plainMaterial 2, plainMaterial 1] =
      [plainKey 2, plainKey 1, plainKey 0] := by
    simp only [runKeys, signingKeyOf_eq parsed, signingKeyOf_eq (reparsed _)]
    rfl
  have distinct : DistinctKeys plainRotation (plainRotation.verifyingKey (plainKey 0))
      [plainKey 2, plainKey 1, plainKey 0] := ⟨by decide +kernel, by decide +kernel⟩
  have reports : Reports plainRotation [plainKey 2, plainKey 1, plainKey 0]
      (publishedChanges plainRotation [plainKey 2, plainKey 1, plainKey 0]).reverse :=
    ⟨fun _ member => List.mem_reverse.mpr member,
      fun _ member => .inl (List.mem_reverse.mp member)⟩
  obtain ⟨_, recovers, _⟩ := key_rotation_history plainRotation _ _ _ parsed run
  rw [keys] at recovers
  obtain ⟨key, older, _, row, _, recovered⟩ :=
    recovers _ rfl distinct _ reports _ List.suffix_rfl
  rw [keys] at row
  cases row
  refine ⟨start, run, recovered.trans ?_⟩
  decide +kernel

/-- A wallet whose phrase already had a signing half of its own, rotated once: the walk also
recovers that first signing key, so it goes down to the start of the run. -/
theorem key_rotation_history_rotated_start :
    RotationRun plainRotation (plainPhrase 1) [plainMaterial 2] ∧
      runKeys plainRotation (plainPhrase 1) [plainMaterial 2] = [plainKey 2, plainKey 1] ∧
      DistinctKeys plainRotation (plainRotation.verifyingKey (plainKey 0))
        [plainKey 2, plainKey 1] ∧
      recoverSigningKeys plainRotation (plainRotation.verifyingKey (plainKey 0)) (plainKey 2)
        (publishedChanges plainRotation [plainKey 2, plainKey 1]) = [plainKey 1] := by
  have parsed (last : Fin 3) : RotationMnemonic.parse plainRotation.toMnemonicServices
      (plainPhrase last) = .ok ⟨plainHalf 0, plainHalf last⟩ :=
    RotationMnemonic.parse_halves _ _
  refine ⟨.rotate (.start (parsed 1)) (prepareKeyRotation_plain (parsed 1) (by decide)), ?_,
    ⟨by decide +kernel, by decide +kernel⟩, by decide +kernel⟩
  simp only [runKeys, plainMaterial, signingKeyOf_eq (parsed _)]
  rfl

end Plain

end WalletEngine
