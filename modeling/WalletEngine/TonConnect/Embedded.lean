import WalletEngine.TonConnect.Rpc

/-! # Requests embedded in a connect link

A link may carry one request to run after the connection. It travels as unpadded base64 of a
document with short member names, and a session that still waits for approval keeps it in
that form. -/

namespace WalletEngine

section Requests

variable (lib : Libraries)

/-- A request that has no identifier yet. -/
inductive EmbeddedRequest where
  | sendTransaction (payload : TransactionPayload lib)
  | signMessage (payload : TransactionPayload lib)
  | signData (payload : SignDataPayload lib)
  deriving DecidableEq

/-- The response to an embedded request, attached to the connect event. -/
inductive EmbeddedResponse where
  | success (result : WalletResult)
  | error (failure : WalletResponseError)

def EmbeddedResponse.toJson : EmbeddedResponse → Json
  | .success result => .obj [("result", result.toJson)]
  | .error failure => .obj [("error", failure.toJson)]

variable {lib}

/-- The result is checked as that of an ordinary request with an empty identifier. -/
def EmbeddedResponse.validateFor (response : EmbeddedResponse) (request : EmbeddedRequest lib) :
    Except ResponseValidationError (KnownWalletResponse lib) :=
  let request := match request with
    | .sendTransaction payload => KnownAppRequest.sendTransaction "" payload
    | .signMessage payload => .signMessage "" payload
    | .signData payload => .signData "" payload
  let response := match response with
    | .success result => WalletResponse.success result ""
    | .error failure => .error failure ""
  response.validateFor request

end Requests

section Transactions

variable {lib : Libraries}

def wireMessageFields : Fields (RawMessage lib) :=
  (((((Fields.member "a").both (Fields.member "am") (of_decide_eq_true rfl)).both
    (Fields.maybe "p") (of_decide_eq_true rfl)).both (Fields.maybe "si") (of_decide_eq_true rfl)).both
    (Fields.maybe "ec") (of_decide_eq_true rfl)).record
      (fun ((((a, am), p), si), ec) => ⟨a, am, p, si, ec⟩)
      (fun message => ((((message.address, message.amount), message.payload), message.stateInit),
        message.extraCurrency))
      (fun _ => id) fun change message => by simp

/-- The optional members that jetton and NFT transfers share. -/
abbrev TransferOptions (lib : Libraries) :=
  ((((Option DecimalString × Option String) × Option (AccountAddress lib)) ×
    Option (CellBoc lib)) × Option DecimalString) × Option (CellBoc lib)

def wireTransferOptions : Fields (TransferOptions lib) :=
  (((((Fields.maybe "aa").both (Fields.maybe "qi") (of_decide_eq_true rfl)).both
    (Fields.maybe "rd") (of_decide_eq_true rfl)).both (Fields.maybe "cp") (of_decide_eq_true rfl)).both
    (Fields.maybe "fa") (of_decide_eq_true rfl)).both (Fields.maybe "fp") (of_decide_eq_true rfl)

def wireJettonFields : Fields (((AccountAddress lib × AccountAddress lib) × DecimalString) ×
    TransferOptions lib) :=
  (((Fields.member "ma").both (Fields.member "d") (of_decide_eq_true rfl)).both
    (Fields.member "am") (of_decide_eq_true rfl)).both wireTransferOptions (of_decide_eq_true rfl)

def wireNftFields : Fields ((AccountAddress lib × AccountAddress lib) × TransferOptions lib) :=
  ((Fields.member "na").both (Fields.member "no") (of_decide_eq_true rfl)).both wireTransferOptions (of_decide_eq_true rfl)

def wireItemEncode : StructuredItem lib → Json
  | .ton a am p si ec => wireMessageFields.tagged "t" "ton" ⟨a, am, p, si, ec⟩
  | .jetton ma d am aa qi rd cp fa fp =>
    wireJettonFields.tagged "t" "jetton" (((ma, d), am), (((((aa, qi), rd), cp), fa), fp))
  | .nft na no aa qi rd cp fa fp =>
    wireNftFields.tagged "t" "nft" ((na, no), (((((aa, qi), rd), cp), fa), fp))

def wireItemDecode (json : Json) : Except String (StructuredItem lib) := do
  let (kind, rest) ← json.taggedValue "t"
  if kind == "ton" then
    (wireMessageFields.fromValue rest).map fun message =>
      .ton message.address message.amount message.payload message.stateInit message.extraCurrency
  else if kind == "jetton" then
    (wireJettonFields.fromValue rest).map
      fun (((ma, d), am), (((((aa, qi), rd), cp), fa), fp)) => .jetton ma d am aa qi rd cp fa fp
  else if kind == "nft" then
    (wireNftFields.fromValue rest).map
      fun ((na, no), (((((aa, qi), rd), cp), fa), fp)) => .nft na no aa qi rd cp fa fp
  else .error "unknown variant"

theorem wireItemDecode_encode (change : String → String) (item : StructuredItem lib) :
    wireItemDecode ((wireItemEncode item).mapFloats change) = .ok item := by
  cases item with
  | ton a am p si ec =>
    rw [wireItemDecode, wireItemEncode, Fields.taggedValue_tagged _ (of_decide_eq_true rfl)]
    exact except_map_eq_ok.mpr ⟨_, Fields.fromValue_encode _ _ _, rfl⟩
  | jetton ma d am aa qi rd cp fa fp =>
    rw [wireItemDecode, wireItemEncode, Fields.taggedValue_tagged _ (of_decide_eq_true rfl)]
    refine except_map_eq_ok.mpr ⟨_, Fields.fromValue_encode _ _ _, ?_⟩
    simp [wireJettonFields, wireTransferOptions]
  | nft na no aa qi rd cp fa fp =>
    rw [wireItemDecode, wireItemEncode, Fields.taggedValue_tagged _ (of_decide_eq_true rfl)]
    refine except_map_eq_ok.mpr ⟨_, Fields.fromValue_encode _ _ _, ?_⟩
    simp [wireNftFields, wireTransferOptions]

def wireItem : Codec (StructuredItem lib) where
  encode := wireItemEncode
  decode := wireItemDecode
  refloat _ := id
  decode_encode := wireItemDecode_encode

/-- The members of a transaction besides what it sends. -/
def wireHeader : Fields ((Option (AccountAddress lib) × Option NetworkId) × Option UInt64) :=
  ((Fields.maybe "f").both (Fields.maybe "n") (of_decide_eq_true rfl)).both
    (Fields.maybe "vu") (of_decide_eq_true rfl)

def wireMessages : Fields (NonEmptyVec (RawMessage lib)) :=
  Fields.required "ms" (NonEmptyVec.codec wireMessageFields.value)

def wireItems : Fields (NonEmptyVec (StructuredItem lib)) :=
  Fields.required "i" (NonEmptyVec.codec wireItem)

@[simp] theorem refloat_wireMessages (change : String → String) :
    (wireMessages : Fields (NonEmptyVec (RawMessage lib))).refloat change = id :=
  NonEmptyVec.refloat_codec rfl

@[simp] theorem refloat_wireItems (change : String → String) :
    (wireItems : Fields (NonEmptyVec (StructuredItem lib))).refloat change = id :=
  NonEmptyVec.refloat_codec rfl

def wireRawTransaction : Fields (RawTransactionPayload lib) :=
  (wireHeader.both wireMessages (of_decide_eq_true rfl)).record
    (fun (((f, n), vu), ms) => ⟨vu, n, f, ms⟩)
    (fun payload => (((payload.sender, payload.network), payload.validUntil), payload.messages))
    (fun _ => id) fun change payload => by simp [wireHeader]

def wireStructuredTransaction : Fields (StructuredTransactionPayload lib) :=
  (wireHeader.both wireItems (of_decide_eq_true rfl)).record
    (fun (((f, n), vu), i) => ⟨vu, n, f, i⟩)
    (fun payload => (((payload.sender, payload.network), payload.validUntil), payload.items))
    (fun _ => id) fun change payload => by simp [wireHeader]

def wirePayloadEncode : TransactionPayload lib → List (String × Json)
  | .raw payload => wireRawTransaction.encode payload
  | .structured payload => wireStructuredTransaction.encode payload

/-- Exactly one of `ms` and `i` is present. -/
def wirePayloadDecode (json : Json) : Except String (TransactionPayload lib) :=
  match (json.get "ms").isSome, (json.get "i").isSome with
  | true, false => (wireRawTransaction.fromValue json).map .raw
  | false, true => (wireStructuredTransaction.fromValue json).map .structured
  | _, _ => .error "embedded transaction requires exactly one of ms or i"

theorem wirePayloadDecode_encode (change : String → String) (payload : TransactionPayload lib) :
    wirePayloadDecode ((Json.obj (wirePayloadEncode payload)).mapFloats change) = .ok payload := by
  cases payload with
  | raw payload =>
    have read := wireRawTransaction.fromValue_encode change payload
    have present : (Json.lookup (wireRawTransaction.encode payload) "ms").isSome = true := by
      change (Json.lookup (wireHeader.encode _ ++ wireMessages.encode _) "ms").isSome = true
      rw [Json.lookup_append, Option.isSome_or, wireMessages, Fields.required,
        Json.lookup_singleton]
      rfl
    have absent := Json.lookup_eq_none_of_names (wireRawTransaction.named payload)
      (of_decide_eq_true rfl : "i" ∉ _)
    rw [wirePayloadDecode, wirePayloadEncode, Fields.get_encode, Fields.get_encode, absent,
      Option.isSome_map, present]
    exact except_map_eq_ok.mpr ⟨_, read, rfl⟩
  | structured payload =>
    have read := wireStructuredTransaction.fromValue_encode change payload
    have present : (Json.lookup (wireStructuredTransaction.encode payload) "i").isSome = true := by
      change (Json.lookup (wireHeader.encode _ ++ wireItems.encode _) "i").isSome = true
      rw [Json.lookup_append, Option.isSome_or, wireItems, Fields.required,
        Json.lookup_singleton]
      rfl
    have absent := Json.lookup_eq_none_of_names (wireStructuredTransaction.named payload)
      (of_decide_eq_true rfl : "ms" ∉ _)
    rw [wirePayloadDecode, wirePayloadEncode, Fields.get_encode, Fields.get_encode, absent,
      Option.map_none, Option.isSome_map, present]
    exact except_map_eq_ok.mpr ⟨_, read, rfl⟩

inductive WireTransactionMethod where
  | sendTransaction | signMessage
  deriving DecidableEq

def WireTransactionMethod.toText : WireTransactionMethod → String
  | .sendTransaction => "st"
  | .signMessage => "sm"

def wireTransactionMethod : Fields WireTransactionMethod :=
  Fields.required "m" (.variants [.sendTransaction, .signMessage] WireTransactionMethod.toText
    fun method => by cases method <;> rfl)

def WireTransactionMethod.request (payload : TransactionPayload lib) :
    WireTransactionMethod → EmbeddedRequest lib
  | .sendTransaction => .sendTransaction payload
  | .signMessage => .signMessage payload

def wireTransactionDecode (json : Json) : Except String (EmbeddedRequest lib) := do
  let (method, rest) ← wireTransactionMethod.flattened json
  let payload ← wirePayloadDecode rest
  return method.request payload

def wireTransactionEncode (method : WireTransactionMethod) (payload : TransactionPayload lib) :
    Json :=
  .obj (wireTransactionMethod.encode method ++ wirePayloadEncode payload)

theorem wirePayloadEncode_named (payload : TransactionPayload lib) :
    ∀ member ∈ wirePayloadEncode payload, member.1 ∈ ["f", "n", "vu", "ms", "i"] := by
  intro member listed
  cases payload with
  | raw payload =>
    have known : member.1 ∈ ["f", "n", "vu", "ms"] := wireRawTransaction.named payload _ listed
    exact List.mem_append_left ["i"] known
  | structured payload =>
    have known : member.1 ∈ ["f", "n", "vu", "i"] :=
      wireStructuredTransaction.named payload _ listed
    simp only [List.mem_cons, List.not_mem_nil, or_false] at known ⊢
    tauto

theorem wireTransactionDecode_encode (change : String → String) (method : WireTransactionMethod)
    (payload : TransactionPayload lib) :
    wireTransactionDecode ((wireTransactionEncode method payload).mapFloats change) =
      .ok (method.request payload) := by
  have apart : ∀ member ∈ wirePayloadEncode payload,
      member.1 ∉ wireTransactionMethod.names := by
    intro member listed
    have known := wirePayloadEncode_named payload member listed
    have other : ∀ name ∈ ["f", "n", "vu", "ms", "i"], name ∉ ["m"] := by decide
    exact other _ known
  rw [wireTransactionDecode, wireTransactionEncode, Fields.flattened_encode _ apart]
  exact except_bind_eq_ok.mpr ⟨_, rfl, except_bind_eq_ok.mpr
    ⟨payload, wirePayloadDecode_encode change payload, rfl⟩⟩

end Transactions

section SignData

variable {lib : Libraries}

inductive WireSignDataKind where
  | text | binary | cell
  deriving DecidableEq

def WireSignDataKind.toText : WireSignDataKind → String
  | .text => "text"
  | .binary => "binary"
  | .cell => "cell"

/-- A kind is also read from its position. -/
def wireSignDataKind : Fields WireSignDataKind :=
  Fields.required "t"
    { encode kind := .str kind.toText
      decode json := match json with
        | .str "text" => .ok .text
        | .str "binary" => .ok .binary
        | .str "cell" => .ok .cell
        | .num (.posInt 0 _) => .ok .text
        | .num (.posInt 1 _) => .ok .binary
        | .num (.posInt 2 _) => .ok .cell
        | _ => .error "unknown variant"
      refloat _ := id
      decode_encode change kind := by cases kind <;> rw [Json.mapFloats_str] <;> rfl }

def wireSignDataHeader : Fields ((Unit × Option NetworkId) × Option (AccountAddress lib)) :=
  ((Fields.required "m" (.variants [()] (fun _ => "sd") fun _ => rfl)).both
    (Fields.maybe "n") (of_decide_eq_true rfl)).both (Fields.maybe "f") (of_decide_eq_true rfl)

def wireTextFields : Fields String :=
  Fields.member "tx"

def wireBinaryFields : Fields (Base64Value lib) :=
  Fields.member "b"

def wireCellFields : Fields (String × CellBoc lib) :=
  (Fields.member "s").both (Fields.member "c") (of_decide_eq_true rfl)

def SignDataPayload.header :
    SignDataPayload lib → (Unit × Option NetworkId) × Option (AccountAddress lib)
  | .text _ network sender => (((), network), sender)
  | .binary _ network sender => (((), network), sender)
  | .cell _ _ network sender => (((), network), sender)

def wireSignDataContents : SignDataPayload lib → List (String × Json)
  | .text text _ _ => wireSignDataKind.encode .text ++ wireTextFields.encode text
  | .binary bytes _ _ => wireSignDataKind.encode .binary ++ wireBinaryFields.encode bytes
  | .cell schema cell _ _ => wireSignDataKind.encode .cell ++ wireCellFields.encode (schema, cell)

def wireSignDataEncode (payload : SignDataPayload lib) : Json :=
  .obj (wireSignDataHeader.encode payload.header ++ wireSignDataContents payload)

def wireSignDataDecode (json : Json) : Except String (SignDataPayload lib) := do
  let (((_, network), sender), rest) ← wireSignDataHeader.flattened json
  let (kind, contents) ← wireSignDataKind.flattened rest
  match kind with
  | .text => do
      let text ← wireTextFields.read contents
      return .text text network sender
  | .binary => do
      let bytes ← wireBinaryFields.read contents
      return .binary bytes network sender
  | .cell => do
      let (schema, cell) ← wireCellFields.read contents
      return .cell schema cell network sender

theorem wireSignDataContents_named (payload : SignDataPayload lib) :
    ∀ member ∈ wireSignDataContents payload, member.1 ∈ ["t", "tx", "b", "s", "c"] := by
  have tag : ∀ kind, ∀ member ∈ wireSignDataKind.encode kind, member.1 ∈ ["t"] :=
    wireSignDataKind.named
  intro member listed
  cases payload with
  | text text =>
    rcases List.mem_append.mp listed with kind | field
    · exact List.mem_append_left _ (tag _ member kind)
    · have known : member.1 ∈ ["tx"] := wireTextFields.named text member field
      exact List.mem_append_right ["t"] (List.mem_append_left _ known)
  | binary bytes =>
    rcases List.mem_append.mp listed with kind | field
    · exact List.mem_append_left _ (tag _ member kind)
    · have known : member.1 ∈ ["b"] := wireBinaryFields.named bytes member field
      exact List.mem_append_right ["t", "tx"] (List.mem_append_left _ known)
  | cell schema cell =>
    rcases List.mem_append.mp listed with kind | field
    · exact List.mem_append_left _ (tag _ member kind)
    · have known : member.1 ∈ ["s", "c"] := wireCellFields.named (schema, cell) member field
      exact List.mem_append_right ["t", "tx", "b"] known

theorem wireSignDataHeader_flattened (change : String → String) (payload : SignDataPayload lib) :
    wireSignDataHeader.flattened ((wireSignDataEncode payload).mapFloats change) =
      .ok (payload.header, (Json.obj (wireSignDataContents payload)).mapFloats change) := by
  have apart : ∀ name ∈ ["t", "tx", "b", "s", "c"], name ∉ ["m", "n", "f"] := by decide
  rw [wireSignDataEncode, Fields.flattened_encode _ fun member listed =>
    apart _ (wireSignDataContents_named payload member listed)]
  simp [wireSignDataHeader, Fields.required, Codec.variants]

theorem wireSignDataKind_flattened {α : Type} (fields : Fields α) (other : "t" ∉ fields.names)
    (change : String → String) (kind : WireSignDataKind) (value : α) :
    wireSignDataKind.flattened
        ((Json.obj (wireSignDataKind.encode kind ++ fields.encode value)).mapFloats change) =
      .ok (kind, (Json.obj (fields.encode value)).mapFloats change) := by
  refine wireSignDataKind.flattened_encode (fun member listed => ?_) change kind
  intro tag
  have same : member.1 = "t" := List.mem_singleton.mp tag
  exact other (same ▸ fields.named value member listed)

theorem wireSignDataDecode_encode (change : String → String) (payload : SignDataPayload lib) :
    wireSignDataDecode ((wireSignDataEncode payload).mapFloats change) = .ok payload := by
  rw [wireSignDataDecode]
  refine except_bind_eq_ok.mpr ⟨_, wireSignDataHeader_flattened change payload, ?_⟩
  cases payload with
  | text text network sender =>
    refine except_bind_eq_ok.mpr ⟨_, wireSignDataKind_flattened wireTextFields
      (by decide) change .text text, ?_⟩
    exact except_bind_eq_ok.mpr ⟨_, wireTextFields.read_encode change text, rfl⟩
  | binary bytes network sender =>
    refine except_bind_eq_ok.mpr ⟨_, wireSignDataKind_flattened wireBinaryFields
      (of_decide_eq_true rfl) change .binary bytes, ?_⟩
    exact except_bind_eq_ok.mpr ⟨_, wireBinaryFields.read_encode change bytes, rfl⟩
  | cell schema cell network sender =>
    refine except_bind_eq_ok.mpr ⟨_, wireSignDataKind_flattened wireCellFields
      (of_decide_eq_true rfl) change .cell (schema, cell), ?_⟩
    exact except_bind_eq_ok.mpr ⟨_, wireCellFields.read_encode change (schema, cell), rfl⟩

end SignData

section Parameter

variable {lib : Libraries}

def EmbeddedRequest.encode : EmbeddedRequest lib → Json
  | .sendTransaction payload => wireTransactionEncode .sendTransaction payload
  | .signMessage payload => wireTransactionEncode .signMessage payload
  | .signData payload => wireSignDataEncode payload

/-- The first of the two forms that the document has. -/
def EmbeddedRequest.decode (json : Json) : Except String (EmbeddedRequest lib) :=
  match wireTransactionDecode json with
  | .ok request => .ok request
  | .error _ => (wireSignDataDecode json).map .signData

/-- Another method is no transaction. -/
theorem wireTransactionDecode_other {members : List (String × Json)} {name : String}
    (method : Json.lookup members "m" = some (.str name)) (other : name ∉ ["st", "sm"])
    (request : EmbeddedRequest lib) : wireTransactionDecode (.obj members) ≠ .ok request := by
  have unknown : wireTransactionMethod.decode (Json.lookup members) =
      .error "unknown variant" := by
    obtain ⟨send, sign⟩ : name ≠ "st" ∧ name ≠ "sm" := by simpa using other
    simp only [wireTransactionMethod, Fields.required, method, Json.required]
    change ([WireTransactionMethod.sendTransaction, .signMessage].find?
      fun value => value.toText == name).elim _ _ = _
    simp [WireTransactionMethod.toText, send.symm, sign.symm]
  intro decoded
  obtain ⟨parts, flattened, -⟩ := except_bind_eq_ok.mp decoded
  obtain ⟨field, fields, rest⟩ := except_bind_eq_ok.mp flattened
  obtain ⟨value, read, -⟩ := except_bind_eq_ok.mp rest
  rw [Json.structFields_obj fields, unknown] at read
  cases read

/-- Data to sign names its own method. -/
theorem wireSignData_method (payload : SignDataPayload lib) :
    Json.lookup (wireSignDataHeader.encode payload.header ++ wireSignDataContents payload) "m" =
      some (.str "sd") := by
  obtain ⟨⟨_, network⟩, sender⟩ := payload.header
  have absent : Json.lookup ((Fields.maybe "n").encode network ++ (Fields.maybe "f").encode sender)
      "m" = none := by
    rw [Json.lookup_append, Json.lookup_eq_none_of_names ((Fields.maybe "n").named network),
      Json.lookup_eq_none_of_names ((Fields.maybe "f").named sender)]
    · rfl
    · exact of_decide_eq_true rfl
    · exact of_decide_eq_true rfl
  have first : wireSignDataHeader.encode (((), network), sender) =
      [("m", .str "sd")] ++ ((Fields.maybe "n").encode network ++
        (Fields.maybe "f").encode sender) :=
    rfl
  rw [Json.lookup_append, Json.lookup_eq_none_of_names (wireSignDataContents_named payload)
    (by decide), first, Json.lookup_append, absent, Option.none_or, Option.none_or,
    Json.lookup_singleton]

theorem EmbeddedRequest.decode_encode (change : String → String) (request : EmbeddedRequest lib) :
    EmbeddedRequest.decode (request.encode.mapFloats change) = .ok request := by
  cases request with
  | sendTransaction payload =>
    rw [decode, encode, wireTransactionDecode_encode]
    rfl
  | signMessage payload =>
    rw [decode, encode, wireTransactionDecode_encode]
    rfl
  | signData payload =>
    have read := wireSignDataDecode_encode change payload
    rw [encode, decode]
    split
    · next request decoded =>
        rw [wireSignDataEncode, Json.mapFloats_obj] at decoded
        have method := congrArg (Option.map (Json.mapFloats change)) (wireSignData_method payload)
        rw [← Json.lookup_map, Option.map_some, Json.mapFloats_str] at method
        exact absurd decoded (wireTransactionDecode_other method (by decide) request)
    · exact except_map_eq_ok.mpr ⟨_, read, rfl⟩

section Depth

theorem wireMessageFields_shallow : (wireMessageFields : Fields (RawMessage lib)).Shallow 1 := by
  have currencies : ∀ value, ((Wire.codec : Codec ExtraCurrencies).encode value).depth ≤ 1 := by
    intro value
    refine Json.depth_obj_le fun member listed => ?_
    obtain ⟨entry, -, rfl⟩ := List.mem_map.mp listed
    exact Nat.le_refl 0
  refine Fields.shallow_record (Fields.shallow_both (Fields.shallow_both (Fields.shallow_both
    (Fields.shallow_both ?_ ?_) ?_) ?_) ?_)
  · exact Fields.shallow_required fun _ => Nat.zero_le 1
  · exact Fields.shallow_required fun _ => Nat.zero_le 1
  · exact Fields.shallow_optional fun _ => Nat.zero_le 1
  · exact Fields.shallow_optional fun _ => Nat.zero_le 1
  · exact Fields.shallow_optional currencies

theorem wireTransferOptions_shallow :
    (wireTransferOptions : Fields (TransferOptions lib)).Shallow 1 := by
  refine Fields.shallow_both (Fields.shallow_both (Fields.shallow_both (Fields.shallow_both
    (Fields.shallow_both ?_ ?_) ?_) ?_) ?_) ?_ <;>
    exact Fields.shallow_optional fun _ => Nat.zero_le 1

theorem wireItem_depth (item : StructuredItem lib) : (wireItem.encode item).depth ≤ 2 := by
  cases item with
  | ton => exact wireMessageFields_shallow.depth_tagged _ _ _
  | jetton =>
    refine Fields.Shallow.depth_tagged (Fields.shallow_both (Fields.shallow_both
      (Fields.shallow_both ?_ ?_) ?_) wireTransferOptions_shallow) _ _ _ <;>
      exact Fields.shallow_required fun _ => Nat.zero_le 1
  | nft =>
    refine Fields.Shallow.depth_tagged (Fields.shallow_both (Fields.shallow_both ?_ ?_)
      wireTransferOptions_shallow) _ _ _ <;>
      exact Fields.shallow_required fun _ => Nat.zero_le 1

theorem wireHeader_shallow :
    (wireHeader : Fields ((Option (AccountAddress lib) × Option NetworkId) × Option UInt64)).Shallow
      3 := by
  refine Fields.shallow_both (Fields.shallow_both ?_ ?_) ?_ <;>
    exact Fields.shallow_optional fun _ => Nat.zero_le 3

/-- An array of shallow documents. -/
theorem NonEmptyVec.depth_codec {α : Type} {codec : Codec α} {bound : Nat}
    (small : ∀ value, (codec.encode value).depth ≤ bound) (values : NonEmptyVec α) :
    ((NonEmptyVec.codec codec).encode values).depth ≤ bound + 1 := by
  refine Json.depth_arr_le fun item listed => ?_
  obtain ⟨value, -, rfl⟩ := List.mem_map.mp listed
  exact small value

theorem wirePayloadEncode_shallow (payload : TransactionPayload lib) :
    ∀ member ∈ wirePayloadEncode payload, member.2.depth ≤ 3 := by
  cases payload with
  | raw payload =>
    exact Fields.shallow_record (Fields.shallow_both wireHeader_shallow (Fields.shallow_required
      (NonEmptyVec.depth_codec wireMessageFields_shallow.depth_obj))) payload
  | structured payload =>
    exact Fields.shallow_record (Fields.shallow_both wireHeader_shallow (Fields.shallow_required
      (NonEmptyVec.depth_codec wireItem_depth))) payload

theorem wireTransactionEncode_depth (method : WireTransactionMethod)
    (payload : TransactionPayload lib) : (wireTransactionEncode method payload).depth ≤ 4 := by
  refine Json.depth_obj_le fun member listed => ?_
  rcases List.mem_append.mp listed with tag | field
  · rw [List.mem_singleton.mp tag]
    exact Nat.zero_le 3
  · exact wirePayloadEncode_shallow payload member field

theorem wireSignDataEncode_depth (payload : SignDataPayload lib) :
    (wireSignDataEncode payload).depth ≤ 1 := by
  have header : (wireSignDataHeader : Fields ((Unit × Option NetworkId) ×
      Option (AccountAddress lib))).Shallow 0 := by
    refine Fields.shallow_both (Fields.shallow_both ?_ ?_) ?_
    · exact Fields.shallow_required fun _ => Nat.le_refl 0
    · exact Fields.shallow_optional fun _ => Nat.le_refl 0
    · exact Fields.shallow_optional fun _ => Nat.le_refl 0
  have kind : wireSignDataKind.Shallow 0 := Fields.shallow_required fun _ => Nat.le_refl 0
  have text : wireTextFields.Shallow 0 := Fields.shallow_required fun _ => Nat.le_refl 0
  have binary : (wireBinaryFields : Fields (Base64Value lib)).Shallow 0 :=
    Fields.shallow_required fun _ => Nat.le_refl 0
  have cell : (wireCellFields : Fields (String × CellBoc lib)).Shallow 0 :=
    Fields.shallow_both (Fields.shallow_required fun _ => Nat.le_refl 0)
      (Fields.shallow_required fun _ => Nat.le_refl 0)
  refine Json.depth_obj_le fun member listed => ?_
  rcases List.mem_append.mp listed with early | late
  · exact header payload.header member early
  · cases payload <;> rcases List.mem_append.mp late with tag | field
    · exact kind _ member tag
    · exact text _ member field
    · exact kind _ member tag
    · exact binary _ member field
    · exact kind _ member tag
    · exact cell _ member field

theorem EmbeddedRequest.depth_encode (request : EmbeddedRequest lib) :
    request.encode.depth ≤ 4 := by
  cases request with
  | sendTransaction payload => exact wireTransactionEncode_depth _ payload
  | signMessage payload => exact wireTransactionEncode_depth _ payload
  | signData payload => exact Nat.le_trans (wireSignDataEncode_depth payload) (by decide)

end Depth

/-- The `e` parameter of a connect link: the document as unpadded base64. -/
def encodeEmbeddedRequestParam (request : EmbeddedRequest lib) : String :=
  lib.base64Encode true false (utf8 (lib.printJson request.encode))

def decodeEmbeddedRequestParam (lib : Libraries) (parameter : String) :
    Option (EmbeddedRequest lib) :=
  if parameter = "" ∨ parameter.toList.contains '=' then none
  else do
    let bytes ← lib.base64Decode true false parameter
    let json ← lib.parseJson bytes
    (EmbeddedRequest.decode json).toOption

theorem decodeEmbeddedRequestParam_encode (request : EmbeddedRequest lib) :
    decodeEmbeddedRequestParam lib (encodeEmbeddedRequestParam request) = some request := by
  have read : lib.parseJson (utf8 (lib.printJson request.encode)) =
      some (request.encode.mapFloats lib.reread) := by
    rw [lib.parseJson_printJson, if_pos]
    exact Nat.le_trans request.depth_encode (by decide)
  have nonempty : encodeEmbeddedRequestParam request ≠ "" := by
    intro empty
    have same := lib.base64_urlSafe (utf8 (lib.printJson request.encode))
    rw [show lib.base64Encode true false _ = "" from empty, ← lib.base64_urlSafe_nil,
      lib.base64_urlSafe, Option.some_inj] at same
    rw [← same, lib.parseJson_nil] at read
    cases read
  have unpadded : (encodeEmbeddedRequestParam request).toList.contains '=' = false := by
    rw [← Bool.not_eq_true, List.contains_iff_mem]
    intro padding
    have allowed := lib.base64_urlSafe_chars _ _ padding
    revert allowed
    decide
  rw [decodeEmbeddedRequestParam, unpadded, if_neg (by simpa using nonempty),
    encodeEmbeddedRequestParam, lib.base64_urlSafe]
  change (lib.parseJson _ >>= _) = _
  rw [read]
  exact except_toOption_eq_some.mpr (EmbeddedRequest.decode_encode lib.reread request)

end Parameter

end WalletEngine
