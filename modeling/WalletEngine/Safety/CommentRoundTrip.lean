import WalletEngine.Safety.KeyHistory
import WalletEngine.Wallet.EncryptedComment

/-! # Encrypted comments are read by both parties

The body that the wallet makes of a comment is read back, with the comment in it, by whoever holds
the key of the sender or of the recipient. A key of neither party is passed over by the search,
since all it can meet is a peer key that is no key or a message key that does not fit. -/

namespace WalletEngine

/-- The public key of a seed is a point of the curve outside its small subgroups. -/
def CommentServices.Regular (services : CommentServices) (key : SigningKey) : Prop :=
  ∃ point, services.decompress (services.verifyingKey key).bytes = some point ∧
    services.isSmallOrder point = false

/-- What is assumed of the libraries. -/
structure CommentServices.Lawful (services : CommentServices) : Prop where
  regular : ∀ key, services.Regular key
  /-- Both parties compute the same secret, each from the public key of the other. -/
  agreement : ∀ first second, services.Regular first → services.Regular second →
    ∃ secret,
      ed25519SharedSecret services first (services.verifyingKey second).bytes = .ok secret ∧
      ed25519SharedSecret services second (services.verifyingKey first).bytes = .ok secret
  inverse : ∀ key, Function.LeftInverse (services.decryptBlock key) (services.encryptBlock key)
  /-- Cells of less than 1024 levels survive their serialization. -/
  codec : ∀ cell : Cell, cell.Fits 1024 → ∃ bytes, services.toBoc cell = some bytes ∧
    services.validateSingleRootBoc bytes = true ∧ services.fromBoc bytes = some cell

/-- A key passes the check of the message key. -/
def Authenticates (services : CommentServices) (sender : SpelledAddress services) (body : Boc)
    (key : SigningKey) : Prop :=
  ∃ messageKey paddedData, openBody services key body = .ok (messageKey, paddedData) ∧
    messageKeyOf services sender paddedData = messageKey

variable {services : CommentServices}

section Cipher

theorem xorBlock_cancel (block mask : Vector UInt8 16) :
    xorBlock (xorBlock block mask) mask = block := by
  apply Vector.ext
  intro index inside
  simp [xorBlock, UInt8.xor_assoc]

/-- What was enciphered block by block is deciphered, and has the same length. -/
theorem decrypt_encryptAes256Cbc (laws : services.Lawful) (key : Vector UInt8 32)
    (iv : Vector UInt8 16) {data : List UInt8} (blockwise : Blockwise data) :
    ∃ ciphertext, encryptAes256Cbc services key iv data = .ok ciphertext ∧
      ciphertext.length = data.length ∧ Blockwise ciphertext ∧
      decryptAes256Cbc services key iv ciphertext = .ok data := by
  have whole : 16 ∣ data.length := Nat.dvd_of_mod_eq_zero blockwise.2
  have sized := congrArg List.length (unblock_chunksExact (by decide) whole)
  rw [length_unblock] at sized
  have enciphered : (unblock (cbcEncrypt xorBlock (services.encryptBlock key) iv
      (chunksExact 16 data))).length = data.length := by
    rw [length_unblock, length_cbcEncrypt, sized]
  have again : Blockwise (unblock (cbcEncrypt xorBlock (services.encryptBlock key) iv
      (chunksExact 16 data))) := by
    refine ⟨?_, by rw [enciphered]; exact blockwise.2⟩
    apply List.ne_nil_of_length_pos
    rw [enciphered]
    exact List.length_pos_of_ne_nil blockwise.1
  refine ⟨_, if_pos blockwise, enciphered, again, ?_⟩
  rw [decryptAes256Cbc, if_pos again, chunksExact_unblock (by decide),
    cbcDecrypt_cbcEncrypt xorBlock_cancel (laws.inverse key), unblock_chunksExact (by decide) whole]

end Cipher

section Framing

/-- A payload of an admissible size is framed in cells and read back. -/
theorem encryptedPayload_boc (laws : services.Lawful) {payload : List UInt8}
    (long : 64 ≤ payload.length) (short : payload.length ≤ 1024) :
    ∃ body, encryptedPayloadBoc services payload = .ok body ∧
      encryptedPayload services body = .ok payload := by
  obtain ⟨reference, chain, read, fits⟩ := readNext_snakeChain
    (show ∀ chunk ∈ chunks refPayloadBytes (payload.drop rootPayloadBytes),
        8 * chunk.length ≤ CellBuilder.maxDataBits by
      intro chunk member
      have bounded := length_le_of_mem_chunks member
      simp only [refPayloadBytes, CellBuilder.maxDataBits] at bounded ⊢
      omega)
  rw [flatten_chunks (by decide)] at read
  have counted : (chunks refPayloadBytes (payload.drop rootPayloadBytes)).length ≤ 8 := by
    apply length_chunks_le
    simp only [List.length_drop, rootPayloadBytes, refPayloadBytes]
    omega
  have sized : 8 * [beBytes 4 encryptedCommentOpcode, payload.take rootPayloadBytes].flatten.length ≤
      CellBuilder.maxDataBits := by
    simp [rootPayloadBytes, CellBuilder.maxDataBits]
    omega
  have built := buildCell_bytes reference sized
  obtain ⟨bytes, written, valid, readBack⟩ := laws.codec _
    ((Cell.Fits.above sized fits).mono (Nat.succ_le_succ (Nat.le_trans counted (by decide))))
  have front : (Cell.mk (byteBits (beBytes 4 encryptedCommentOpcode ++
      payload.take rootPayloadBytes)) reference.toList).readNum 32 =
        some (encryptedCommentOpcode, .mk (byteBits (payload.take rootPayloadBytes))
          reference.toList) :=
    Cell.readNum_bytes (beBytes 4 encryptedCommentOpcode) _ _
  have whole : readSnake (.mk (byteBits (payload.take rootPayloadBytes)) reference.toList) =
      some payload := by
    rw [readSnake_chain, read, Option.map_some, List.take_append_drop]
  simp only [List.flatten_cons, List.flatten_nil, List.append_nil] at built written readBack
  refine ⟨⟨bytes⟩, ?_, ?_⟩
  · rw [encryptedPayloadBoc]
    refine except_guard_eq_ok.mpr ⟨by simp [maxEncryptedPayloadBytes, rootPayloadBytes]; omega, ?_⟩
    refine except_bind_eq_ok.mpr ⟨reference, by rw [chain]; rfl, ?_⟩
    refine except_bind_eq_ok.mpr ⟨_, congrArg (Option.elim · _ _) built, ?_⟩
    refine except_bind_eq_ok.mpr ⟨bytes, by rw [written]; rfl, ?_⟩
    refine except_guard_eq_ok.mpr ⟨by simp [valid, readBack], rfl⟩
  · rw [encryptedPayload, readBack]
    refine except_bind_eq_ok.mpr ⟨_, rfl, ?_⟩
    rw [front]
    refine except_bind_eq_ok.mpr ⟨_, rfl, ?_⟩
    refine except_guard_eq_ok.mpr ⟨by simp, ?_⟩
    refine except_bind_eq_ok.mpr ⟨payload, by rw [whole]; rfl, ?_⟩
    refine except_guard_eq_ok.mpr ⟨?_, rfl⟩
    simp only [publicKeyBytes, messageKeyBytes, aesBlockBytes, maxEncryptedPayloadBytes]
    omega

end Framing

section Parties

/-- A body that holds padded data for two keys. -/
structure Sealed (services : CommentServices) (own peer : SigningKey)
    (messageKey paddedData : List UInt8) (body : Boc) : Prop where
  keyed : messageKey.length = messageKeyBytes
  opens : ∃ secret ciphertext,
    ed25519SharedSecret services own (services.verifyingKey peer).bytes = .ok secret ∧
    encryptedPayload services body = .ok
      (xorBytes (services.verifyingKey own).bytes (services.verifyingKey peer).bytes ++
        messageKey ++ ciphertext) ∧
    Blockwise ciphertext ∧
    decryptAes256Cbc services (cipherKey services secret messageKey).1
      (cipherKey services secret messageKey).2 ciphertext = .ok paddedData

variable {own peer : SigningKey} {messageKey paddedData : List UInt8} {body : Boc}

/-- The two keys play the same part. -/
theorem Sealed.symm (laws : services.Lawful)
    (sealed : Sealed services own peer messageKey paddedData body) :
    Sealed services peer own messageKey paddedData body := by
  obtain ⟨secret, ciphertext, agreed, framed, blockwise, deciphered⟩ := sealed.opens
  obtain ⟨common, first, second⟩ := laws.agreement own peer (laws.regular own) (laws.regular peer)
  rw [agreed] at first
  cases first
  rw [xorBytes_comm] at framed
  exact ⟨sealed.keyed, secret, ciphertext, second, framed, blockwise, deciphered⟩

/-- What a key makes of the body, up to the secret it computes. -/
theorem openBody_of_framed {mask ciphertext : List UInt8} (key : SigningKey)
    (masked : mask.length = publicKeyBytes) (keyed : messageKey.length = messageKeyBytes)
    (framed : encryptedPayload services body = .ok (mask ++ messageKey ++ ciphertext))
    (blockwise : Blockwise ciphertext) :
    openBody services key body = (do
      let secret ← ed25519SharedSecret services key
        (xorBytes (services.verifyingKey key).bytes mask)
      let paddedData ← decryptAes256Cbc services (cipherKey services secret messageKey).1
        (cipherKey services secret messageKey).2 ciphertext
      return (messageKey, paddedData)) := by
  have head : (mask ++ messageKey ++ ciphertext).take publicKeyBytes = mask := by
    rw [List.append_assoc, List.take_left' masked]
  have tail : (mask ++ messageKey ++ ciphertext).drop publicKeyBytes =
      messageKey ++ ciphertext := by
    rw [List.append_assoc, List.drop_left' masked]
  rw [openBody, framed, except_ok_bind]
  simp only [head, tail, List.take_left' keyed, List.drop_left' keyed]
  rw [if_neg (not_not.mpr blockwise)]

theorem length_mask (own peer : SigningKey) :
    (xorBytes (services.verifyingKey own).bytes (services.verifyingKey peer).bytes).length =
      publicKeyBytes := by
  rw [length_xorBytes, (services.verifyingKey own).sized, (services.verifyingKey peer).sized]
  rfl

/-- The first of the two keys opens the body. -/
theorem Sealed.opened (sealed : Sealed services own peer messageKey paddedData body) :
    openBody services own body = .ok (messageKey, paddedData) := by
  obtain ⟨secret, ciphertext, agreed, framed, blockwise, deciphered⟩ := sealed.opens
  have found : xorBytes (services.verifyingKey own).bytes
      (xorBytes (services.verifyingKey own).bytes (services.verifyingKey peer).bytes) =
        (services.verifyingKey peer).bytes :=
    xorBytes_cancel (by rw [(services.verifyingKey own).sized, (services.verifyingKey peer).sized])
  rw [openBody_of_framed own (length_mask own peer) sealed.keyed framed blockwise, found]
  refine except_bind_eq_ok.mpr ⟨secret, agreed, ?_⟩
  exact except_bind_eq_ok.mpr ⟨paddedData, deciphered, rfl⟩

/-- The shared secret fails only for the sake of the peer key. -/
theorem ed25519SharedSecret_error {key : SigningKey} {peerKey : List UInt8}
    {error : EncryptedCommentError}
    (failed : ed25519SharedSecret services key peerKey = .error error) :
    error = .invalidPeerPublicKey := by
  rw [ed25519SharedSecret] at failed
  cases found : (services.decompress peerKey).filter fun point => !services.isSmallOrder point with
  | none =>
    rw [found] at failed
    exact (Except.error.inj failed).symm
  | some point =>
    rw [found, Option.elim_some, except_ok_bind] at failed
    by_cases zero : services.mulClamped point
        (sliceOf (services.sha512 key.toList) 0 32 (by decide)) = Vector.replicate 32 0
    · simp only [zero, if_true] at failed
      exact (Except.error.inj failed).symm
    · simp only [zero, if_false] at failed
      cases failed

/-- A key that does not pass the check of the message key is passed over. -/
theorem Sealed.mismatch (sealed : Sealed services own peer messageKey paddedData body)
    {sender : SpelledAddress services} {key : SigningKey}
    (stranger : ¬ Authenticates services sender body key) :
    ∃ error, decryptWithKey services key sender body = .error error ∧
      error.isKeyMismatch = true := by
  obtain ⟨secret, ciphertext, -, framed, blockwise, -⟩ := sealed.opens
  have opened := openBody_of_framed key (length_mask own peer) sealed.keyed framed blockwise
  cases shared : ed25519SharedSecret services key (xorBytes (services.verifyingKey key).bytes
      (xorBytes (services.verifyingKey own).bytes (services.verifyingKey peer).bytes)) with
  | error error =>
    rw [shared] at opened
    refine ⟨error, ?_, by rw [ed25519SharedSecret_error shared]; rfl⟩
    rw [decryptWithKey, opened]
    rfl
  | ok found =>
    rw [shared, except_ok_bind, decryptAes256Cbc, if_pos blockwise, except_ok_bind] at opened
    refine ⟨.authenticationFailed, ?_, rfl⟩
    rw [decryptWithKey, opened]
    exact if_pos fun fits => stranger ⟨_, _, opened, fits⟩

/-- The search for a key finds the comment when it comes to a key of the two, and goes past all
other keys. -/
theorem Sealed.search (laws : services.Lawful)
    (sealed : Sealed services own peer messageKey paddedData body)
    {sender : SpelledAddress services} {comment : String}
    (fits : messageKeyOf services sender paddedData = messageKey)
    (reads : commentOf paddedData = .ok comment) {keys : List SigningKey}
    (strangers : ∀ key ∈ keys, key ≠ own → key ≠ peer → ¬ Authenticates services sender body key) :
    decryptCommentWithKeys services sender body keys =
      if own ∈ keys ∨ peer ∈ keys then .ok comment else .error .authenticationFailed := by
  have party : ∀ {key}, openBody services key body = .ok (messageKey, paddedData) →
      decryptWithKey services key sender body = .ok comment := by
    intro key opened
    rw [decryptWithKey, opened, except_ok_bind]
    exact except_guard_eq_ok.mpr ⟨by simp [fits], reads⟩
  induction keys with
  | nil => simp [decryptCommentWithKeys]
  | cons key keys ih =>
    rw [decryptCommentWithKeys]
    by_cases first : key = own
    · subst first
      simp [party sealed.opened]
    by_cases second : key = peer
    · subst second
      simp [party (sealed.symm laws).opened]
    obtain ⟨error, failed, mismatch⟩ :=
      sealed.mismatch (strangers key List.mem_cons_self first second)
    simp only [failed, mismatch, if_true, List.mem_cons, Ne.symm first, Ne.symm second, false_or]
    exact ih fun other member => strangers other (List.mem_cons_of_mem _ member)

end Parties

section Comments

/-- The padding of a comment fills up whole blocks. -/
theorem paddedPrefixLength_ok (commentLength : Nat) :
    ∃ length, paddedPrefixLength commentLength = .ok length ∧ 16 ≤ length ∧ length ≤ 31 ∧
      (length + commentLength) % 16 = 0 := by
  refine ⟨(commentLength + 31) / 16 * 16 - commentLength, if_pos ?_, ?_, ?_, ?_⟩ <;> omega

/-- Random bytes become a padding of the same length that starts with it. -/
theorem markLength_ok {random : List UInt8} (long : 16 ≤ random.length)
    (short : random.length ≤ 31) :
    ∃ padding, markLength random = .ok padding ∧ padding.length = random.length ∧
      padding.head?.map UInt8.toNat = some random.length := by
  cases random with
  | nil => simp at long
  | cons first rest =>
    rw [List.length_cons] at short
    refine ⟨_, if_pos (by rw [List.length_cons]; omega), rfl, ?_⟩
    simp only [List.head?_cons, Option.map_some, Option.some.injEq, List.length_cons]
    exact UInt8.toNat_ofNat_of_lt (by simp only [UInt8.size]; omega)

/-- A comment is read from behind its padding. -/
theorem commentOf_padded {padding : List UInt8} {comment : String} (long : 16 ≤ padding.length)
    (short : padding.length ≤ 31) (marked : padding.head?.map UInt8.toNat = some padding.length)
    (fits : (utf8 comment).length ≤ maxEncryptedCommentBytes) :
    commentOf (padding ++ utf8 comment) = .ok comment := by
  have head : ((padding ++ utf8 comment).head?.map UInt8.toNat) = some padding.length := by
    cases padding with
    | nil => simp at long
    | cons first rest => exact marked
  rw [commentOf, head]
  refine except_bind_eq_ok.mpr ⟨_, rfl, except_guard_eq_ok.mpr ⟨?_, ?_⟩⟩
  · rw [List.length_append]
    omega
  rw [List.drop_left' rfl]
  refine except_guard_eq_ok.mpr ⟨by omega, ?_⟩
  rw [fromUTF8_utf8]
  rfl

/-- Encryption succeeds, with the padded comment sealed for the two keys. -/
theorem encryptWithPrefix_sealed (laws : services.Lawful) (sender recipient : SigningKey)
    (address : SpelledAddress services) {comment padding : List UInt8}
    (fits : comment.length ≤ maxEncryptedCommentBytes) (long : 16 ≤ padding.length)
    (short : padding.length ≤ 31) (marked : padding.head?.map UInt8.toNat = some padding.length)
    (whole : (padding.length + comment.length) % 16 = 0) :
    ∃ body payload,
      encryptWithPrefix services sender (services.verifyingKey recipient).bytes address comment
        padding = .ok body ∧
      encryptedPayload services body = .ok payload ∧ payload.length ≤ maxEncryptedPayloadBytes ∧
      Sealed services sender recipient (messageKeyOf services address (padding ++ comment))
        (padding ++ comment) body := by
  obtain ⟨secret, agreed, -⟩ :=
    laws.agreement sender recipient (laws.regular sender) (laws.regular recipient)
  have blockwise : Blockwise (padding ++ comment) := by
    refine ⟨fun empty => ?_, by rw [List.length_append]; exact whole⟩
    rw [List.append_eq_nil_iff.mp empty |>.1] at long
    simp at long
  obtain ⟨ciphertext, enciphered, sized, blockwise', deciphered⟩ :=
    decrypt_encryptAes256Cbc laws
      (cipherKey services secret (messageKeyOf services address (padding ++ comment))).1
      (cipherKey services secret (messageKeyOf services address (padding ++ comment))).2 blockwise
  have keyed : (messageKeyOf services address (padding ++ comment)).length = messageKeyBytes := by
    simp [messageKeyOf, messageKeyBytes]
  have length : (xorBytes (services.verifyingKey sender).bytes
      (services.verifyingKey recipient).bytes ++
        messageKeyOf services address (padding ++ comment) ++ ciphertext).length =
          48 + (padding.length + comment.length) := by
    rw [List.length_append, List.length_append, length_mask, keyed, sized, List.length_append]
    rfl
  have most : padding.length + comment.length ≤ 976 := by
    simp only [maxEncryptedCommentBytes] at fits
    omega
  obtain ⟨body, framed, payload⟩ := encryptedPayload_boc laws
    (Nat.le_trans (by omega) (Nat.le_of_eq length.symm))
    (Nat.le_trans (Nat.le_of_eq length) (by omega))
  refine ⟨body, _, ?_, payload, ?_, keyed, secret, ciphertext, agreed, payload, blockwise',
    deciphered⟩
  · rw [encryptWithPrefix]
    refine except_guard_eq_ok.mpr ⟨?_, ?_⟩
    · simp only [marked, aesBlockBytes, whole, ne_eq, not_true_eq_false, or_false]
      omega
    · refine except_bind_eq_ok.mpr ⟨secret, agreed, ?_⟩
      exact except_bind_eq_ok.mpr ⟨ciphertext, enciphered, framed⟩
  · rw [length, maxEncryptedPayloadBytes]
    omega

/-- The message key does not depend on the spelling of the address. -/
theorem messageKeyOf_respelled {spelled address : SpelledAddress services}
    (same : spelled.address = address.address) (paddedData : List UInt8) :
    messageKeyOf services spelled paddedData = messageKeyOf services address paddedData := by
  rw [messageKeyOf, salt, same, messageKeyOf, salt]

/-- Every comment of an admissible length is encrypted into a payload of at most 1024 bytes, and
the search returns exactly the comment when the keys it tries, in whatever order, contain the key
of a party. Without such a key it reports that no key authenticates the body. -/
theorem comment_reads_back (laws : services.Lawful) (sender recipient : SigningKey)
    (address : SpelledAddress services) (comment : String)
    (fits : (utf8 comment).length ≤ maxEncryptedCommentBytes)
    (draw : (length : Nat) → Vector UInt8 length) :
    ∃ prefixLength padding body payload,
      paddedPrefixLength (utf8 comment).length = .ok prefixLength ∧
      markLength (draw prefixLength).toList = .ok padding ∧
      encryptWithPrefix services sender (services.verifyingKey recipient).bytes address
        (utf8 comment) padding = .ok body ∧
      (∀ mnemonicBytes network keys,
        commentKeys services mnemonicBytes network address = .ok keys → keys.signing = sender →
          encryptComment services mnemonicBytes network address
            (services.verifyingKey recipient).bytes comment (fun length => some (draw length)) =
              .ok body) ∧
      encryptedPayload services body = .ok payload ∧
      payload.length ≤ maxEncryptedPayloadBytes ∧
      ∀ spelled : SpelledAddress services, spelled.address = address.address → ∀ keys,
        (∀ key ∈ keys, key ≠ sender → key ≠ recipient →
          ¬ Authenticates services spelled body key) →
        decryptCommentWithKeys services spelled body keys =
          if sender ∈ keys ∨ recipient ∈ keys then .ok comment
          else .error .authenticationFailed := by
  obtain ⟨prefixLength, padded, long, short, whole⟩ := paddedPrefixLength_ok (utf8 comment).length
  obtain ⟨padding, marked, sized, head⟩ := markLength_ok
    (show 16 ≤ (draw prefixLength).toList.length by simpa using long) (by simpa using short)
  rw [Vector.length_toList] at sized head
  rw [← sized] at long short whole head
  obtain ⟨body, payload, encrypted, framed, most, sealed⟩ := encryptWithPrefix_sealed laws sender
    recipient address fits long short head whole
  refine ⟨prefixLength, padding, body, payload, padded, marked, encrypted, ?_, framed, most, ?_⟩
  · intro mnemonicBytes network keys derived signing
    rw [encryptComment]
    refine except_guard_eq_ok.mpr ⟨by omega, ?_⟩
    refine except_bind_eq_ok.mpr ⟨keys, derived, ?_⟩
    refine except_guard_eq_ok.mpr ⟨by simp [(services.verifyingKey recipient).sized,
      publicKeyBytes], ?_⟩
    refine except_bind_eq_ok.mpr ⟨prefixLength, padded, ?_⟩
    refine except_bind_eq_ok.mpr ⟨draw prefixLength, rfl, ?_⟩
    refine except_bind_eq_ok.mpr ⟨padding, marked, ?_⟩
    rw [signing]
    exact encrypted
  · intro spelled same keys strangers
    exact sealed.search laws (messageKeyOf_respelled same _) (commentOf_padded long short head fits)
      strangers

end Comments

section Plain

/-- Read a number of items one after another. -/
def readTimes {Item : Type} (read : List UInt8 → Option (Item × List UInt8)) :
    (count : Nat) → List UInt8 → Option (List Item × List UInt8)
  | 0, bytes => some ([], bytes)
  | count + 1, bytes => (read bytes).bind fun (item, rest) =>
    (readTimes read count rest).map fun (items, rest) => (item :: items, rest)

/-- A cell as the length of its data, a byte for each bit, and its references. -/
def plainWrite : (levels : Nat) → Cell → List UInt8
  | 0, _ => []
  | levels + 1, .mk data refs =>
    leBytes 2 data.length ++ data.map (fun bit => if bit then 1 else 0) ++
      UInt8.ofNat refs.length :: refs.flatMap (plainWrite levels)

def plainRead : (levels : Nat) → List UInt8 → Option (Cell × List UInt8)
  | 0, _ => none
  | levels + 1, bytes =>
    let size := leValue (bytes.take 2)
    let data := ((bytes.drop 2).take size).map (· == 1)
    match (bytes.drop 2).drop size with
    | [] => none
    | count :: rest => (readTimes (plainRead levels) count.toNat rest).map fun found =>
      (.mk data found.1, found.2)

theorem readTimes_flatMap {Item : Type} {read : List UInt8 → Option (Item × List UInt8)}
    {write : Item → List UInt8} {items : List Item}
    (reads : ∀ item ∈ items, ∀ rest, read (write item ++ rest) = some (item, rest))
    (rest : List UInt8) :
    readTimes read items.length (items.flatMap write ++ rest) = some (items, rest) := by
  induction items with
  | nil => rfl
  | cons item items ih =>
    have first := reads item List.mem_cons_self (items.flatMap write ++ rest)
    have others := ih fun other member => reads other (List.mem_cons_of_mem _ member)
    rw [List.length_cons, readTimes, List.flatMap_cons, List.append_assoc, first]
    exact congrArg (Option.map fun found => (item :: found.1, found.2)) others

theorem plainRead_plainWrite {levels : Nat} {cell : Cell} (fits : cell.Fits levels)
    (rest : List UInt8) : plainRead levels (plainWrite levels cell ++ rest) = some (cell, rest) := by
  induction levels generalizing cell rest with
  | zero => exact fits.elim
  | succ levels ih =>
    obtain ⟨data, refs⟩ := cell
    obtain ⟨bits, references, below⟩ := fits
    simp only [CellBuilder.maxDataBits, CellBuilder.maxRefs] at bits references
    have size : leValue (leBytes 2 data.length) = data.length := leValue_leBytes (by omega)
    have count : (UInt8.ofNat refs.length).toNat = refs.length :=
      UInt8.toNat_ofNat_of_lt (by simp only [UInt8.size]; omega)
    have marks : (data.map fun bit => if bit then (1 : UInt8) else 0).map (· == 1) = data := by
      rw [List.map_map]
      refine List.map_id'' (fun bit => ?_) data
      cases bit <;> rfl
    have refsRead := readTimes_flatMap (fun cell member => ih (below cell member)) rest
    rw [plainWrite, plainRead]
    simp only [List.append_assoc, List.cons_append,
      List.take_left' (length_leBytes 2 data.length),
      List.drop_left' (length_leBytes 2 data.length), size]
    rw [List.drop_left' (List.length_map _), List.take_left' (List.length_map _)]
    simp only [count, refsRead, marks, Option.map_some]

/-- Public keys that equal the private ones, a secret that adds up two keys, and an
authentication code that repeats its data and its key. -/
def plainComments : CommentServices where
  toRotationServices :=
    { plainRotation with walletPublicState := fun _ _ => some (⟨0, 1⟩, .mk [] []) }
  Point := List UInt8
  decompress := some
  isSmallOrder := fun _ => false
  mulClamped := fun point scalar => Vector.ofFn fun index =>
    if index = 0 then 1 else point.getD index 0 + scalar[index]
  sha512 := fun bytes => Vector.ofFn fun index => bytes.getD index 0
  hmacSha512 := fun key data => Vector.ofFn fun index => (data ++ key).getD index 0
  encryptBlock := fun key block => xorBlock block (sliceOf key 16 16 (by decide))
  decryptBlock := fun key block => xorBlock block (sliceOf key 16 16 (by decide))
  toBoc := fun cell => some (plainWrite 1024 cell)
  fromBoc := fun bytes => (plainRead 1024 bytes).map (·.1)
  validateSingleRootBoc := fun _ => true
  parseTonAddress := fun text => if text = "first" ∨ text = "second" then some ⟨0, 1⟩ else none
  toBase64 := fun address => address.asStr

theorem sharedSecret_plain (own peer : SigningKey) :
    ed25519SharedSecret plainComments own (plainComments.verifyingKey peer).bytes =
      .ok (Vector.ofFn fun index => if index = 0 then 1 else peer[index] + own[index]) := by
  have scalar : sliceOf (plainComments.sha512 own.toList) 0 32 (by decide) = own := by
    apply Vector.ext
    intro index inside
    simp [sliceOf, plainComments, inside]
  have product : plainComments.mulClamped (plainComments.verifyingKey peer).bytes
      (sliceOf (plainComments.sha512 own.toList) 0 32 (by decide)) =
        Vector.ofFn fun index => if index = 0 then 1 else peer[index] + own[index] := by
    rw [scalar]
    apply Vector.ext
    intro index inside
    simp [plainComments, plainRotation]
  rw [ed25519SharedSecret]
  refine except_bind_eq_ok.mpr ⟨(plainComments.verifyingKey peer).bytes, rfl, ?_⟩
  refine except_guard_eq_ok.mpr ⟨fun zero => ?_, congrArg Except.ok product⟩
  have first := congrArg (fun secret => secret[0]) (product.symm.trans zero)
  simp at first

theorem lawful_plain : plainComments.Lawful where
  regular key := ⟨_, rfl, rfl⟩
  agreement first second _ _ := by
    refine ⟨_, sharedSecret_plain first second, ?_⟩
    rw [sharedSecret_plain]
    simp only [UInt8.add_comm]
  inverse key block := xorBlock_cancel block _
  codec cell fits := by
    refine ⟨plainWrite 1024 cell, rfl, rfl, ?_⟩
    have read := plainRead_plainWrite fits []
    rw [List.append_nil] at read
    exact congrArg (Option.map (·.1)) read

/-- Two spellings of the address of the plain wallet. -/
def plainSpelling : SpelledAddress plainComments := ⟨"first", ⟨0, 1⟩, rfl⟩
def plainRespelling : SpelledAddress plainComments := ⟨"second", ⟨0, 1⟩, rfl⟩

/-- The plain wallet sends a comment under a signing key of its own. The recipient reads it, and
so does the wallet, however they spell the address; without their keys it stays closed. -/
theorem comment_reads_back_plain : ∃ body,
    encryptComment plainComments (utf8 (plainPhrase 1)) .testnet plainSpelling
      (plainComments.verifyingKey (plainKey 2)).bytes "hi"
      (fun length => some (Vector.replicate length 7)) = .ok body ∧
    decryptCommentWithKeys plainComments plainRespelling body [plainKey 2] = .ok "hi" ∧
    decryptCommentWithKeys plainComments plainSpelling body [plainKey 1, plainKey 2] = .ok "hi" ∧
    decryptCommentWithKeys plainComments plainSpelling body [] = .error .authenticationFailed := by
  have parsed : RotationMnemonic.parse plainComments.toMnemonicServices (plainPhrase 1) =
      .ok ⟨plainHalf 0, plainHalf 1⟩ := RotationMnemonic.parse_halves _ _
  have derived : commentKeys plainComments (utf8 (plainPhrase 1)) .testnet plainSpelling =
      .ok ⟨plainKey 0, plainKey 1⟩ := by
    rw [commentKeys, fromUTF8_utf8]
    refine except_bind_eq_ok.mpr ⟨_, rfl, ?_⟩
    refine except_bind_eq_ok.mpr ⟨_, except_mapError_eq_ok.mpr parsed, ?_⟩
    refine except_bind_eq_ok.mpr ⟨(⟨0, 1⟩, .mk [] []), rfl, ?_⟩
    exact except_guard_eq_ok.mpr ⟨fun different => different rfl, rfl⟩
  obtain ⟨_, _, body, _, _, _, _, encrypts, _, _, reads⟩ := comment_reads_back lawful_plain
    (plainKey 1) (plainKey 2) plainSpelling "hi" (by decide) fun length => Vector.replicate length 7
  refine ⟨body, encrypts _ _ _ derived rfl, ?_, ?_, ?_⟩
  · have read := reads plainRespelling rfl [plainKey 2] (by simp)
    simpa using read
  · have read := reads plainSpelling rfl [plainKey 1, plainKey 2] (by simp)
    simpa using read
  · have read := reads plainSpelling rfl [] (by simp)
    simpa using read

end Plain

end WalletEngine
