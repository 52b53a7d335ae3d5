import WalletEngine.TonConnect.Connect
import WalletEngine.TonConnect.Plain

/-! # Connect links

A universal, unified or custom-scheme link carries the dApp's identifier, the connect request
and how to return to the dApp in its query, which may hold parameters of later versions. A link
that was parsed is written again without loss. -/

namespace WalletEngine

/-- What the wallet does after the connect prompt. -/
inductive ReturnStrategy where
  | back
  | none
  | custom (url : String)
  deriving DecidableEq

/-- The parameters that may appear once each. -/
def linkParameters : List String :=
  ["v", "id", "r", "ret", "e", "trace_id"]

/-- A connect link after it was parsed. -/
structure ConnectLink (lib : Libraries) where
  clientId : ClientId
  /-- Absent from a reduced link. -/
  request : Option (ConnectRequest lib)
  returnStrategy : ReturnStrategy
  embeddedRequest : Option (EmbeddedRequest lib)
  traceId : Option TraceId
  /-- Parameters of later versions, in order. -/
  extensions : List (String × String)
  unknown : ∀ pair ∈ extensions, pair.1 ∉ linkParameters

inductive ConnectLinkError where
  | invalidBaseUrl | baseUrlContainsQueryOrFragment | invalidUrl
  | missingParameter (name : String)
  | duplicateParameter (name : String)
  | unsupportedVersion (version : String)
  | embeddedRequestWithoutConnect
  | invalidReturnStrategy (value : String)
  | invalidValue | invalidConnectRequest
  deriving DecidableEq

section Parse

/-- The known parameters of a query. -/
def collectKnown : (known : List (String × String)) → List (String × String) →
    Except ConnectLinkError (List (String × String))
  | known, [] => .ok known
  | known, (name, value) :: rest =>
    if name ∈ linkParameters then
      if (known.lookup name).isSome then .error (.duplicateParameter name)
      else collectKnown ((name, value) :: known) rest
    else collectKnown known rest

/-- An absolute URL with a scheme. -/
def returnUrl (lib : Libraries) (value : String) : Except ConnectLinkError Unit := do
  let url ← (lib.parseUrl value).elim (.error (.invalidReturnStrategy value)) .ok
  if url.scheme = "" then throw (.invalidReturnStrategy value)

def parseReturnStrategy (lib : Libraries) : Option String → Except ConnectLinkError ReturnStrategy
  | none => .ok .back
  | some value =>
    if value = "back" then .ok .back
    else if value = "none" then .ok .none
    else (returnUrl lib value).map fun _ => .custom value

def connectRequestFromStr (lib : Libraries) (text : String) :
    Except ConnectLinkError (ConnectRequest lib) := do
  let json ← (lib.parseJson (utf8 text)).elim (.error .invalidConnectRequest) .ok
  ((Wire.codec : Codec (ConnectRequest lib)).decode json).mapError fun _ => .invalidConnectRequest

/-- Read an optional parameter. -/
def optionalParameter {α : Type} (read : String → Except ConnectLinkError α) :
    Option String → Except ConnectLinkError (Option α)
  | none => .ok none
  | some value => (read value).map some

/-- The protocol version, which only a reduced link may leave out. -/
def checkVersion (version : Option String) (full : Bool) : Except ConnectLinkError Unit :=
  match version with
  | some version => if version = "2" then .ok () else .error (.unsupportedVersion version)
  | none => if full then .error (.missingParameter "v") else .ok ()

variable {lib : Libraries}

/-- The checks of a link whose parameters have been sorted. -/
def ConnectLink.fromParameters (known extensions : List (String × String))
    (unknown : ∀ pair ∈ extensions, pair.1 ∉ linkParameters) :
    Except ConnectLinkError (ConnectLink lib) := do
  let id ← (known.lookup "id").elim (.error (.missingParameter "id")) .ok
  let clientId ← (ClientId.fromStr id).elim (.error .invalidValue) .ok
  let request ← optionalParameter (connectRequestFromStr lib) (known.lookup "r")
  checkVersion (known.lookup "v") request.isSome
  -- an embedded request that cannot be read is ignored
  let embeddedRequest := (known.lookup "e").bind (decodeEmbeddedRequestParam lib)
  if embeddedRequest.isSome ∧ request.isNone then throw .embeddedRequestWithoutConnect
  let returnStrategy ← parseReturnStrategy lib (known.lookup "ret")
  let traceId ← optionalParameter (fun value =>
    (ValidatedString.tryFrom value).elim (.error .invalidValue) .ok) (known.lookup "trace_id")
  return { clientId, request, returnStrategy, embeddedRequest, traceId, extensions, unknown }

def ConnectLink.parse (lib : Libraries) (value : String) :
    Except ConnectLinkError (ConnectLink lib) := do
  let url ← (lib.parseUrl value).elim (.error .invalidUrl) .ok
  let pairs := formPairs lib.fromUtf8Lossy (url.query.getD "").toList
  let known ← collectKnown [] pairs
  fromParameters known (pairs.filter (·.1 ∉ linkParameters)) fun pair listed => by
    simpa using (List.mem_filter.mp listed).2

end Parse

section Write

variable {lib : Libraries}

/-- The text of a return strategy; a custom one is checked again. -/
def ReturnStrategy.toText (lib : Libraries) : ReturnStrategy → Except ConnectLinkError String
  | .back => .ok "back"
  | .none => .ok "none"
  | .custom value => (returnUrl lib value).map fun _ => value

/-- The parameters of a link in the order they are written. -/
def ConnectLink.pairs (link : ConnectLink lib) (returnStrategy : String) : List (String × String) :=
  let request := link.request.map fun request =>
    lib.printJson ((Wire.codec : Codec (ConnectRequest lib)).encode request)
  (if request.isSome then [("v", "2")] else []) ++ [("id", link.clientId.toText)] ++
    (request.map fun text => ("r", text)).toList ++ [("ret", returnStrategy)] ++
    (link.traceId.map fun traceId => ("trace_id", traceId.text)).toList ++
    (link.embeddedRequest.map fun request => ("e", encodeEmbeddedRequestParam request)).toList ++
    link.extensions

/-- The link over a wallet's universal URL or custom scheme. -/
def ConnectLink.toUrl (link : ConnectLink lib) (baseUrl : String) :
    Except ConnectLinkError Url := do
  let url ← (lib.parseUrl baseUrl).elim (.error .invalidBaseUrl) .ok
  if url.query.isSome ∨ url.fragment.isSome then throw .baseUrlContainsQueryOrFragment
  if link.embeddedRequest.isSome ∧ link.request.isNone then throw .embeddedRequestWithoutConnect
  let returnStrategy ← link.returnStrategy.toText lib
  return lib.appendPairs url (link.pairs returnStrategy)

end Write

section RoundTrip

variable {lib : Libraries}

/-- What parsing establishes of a link, so that it can be written. -/
structure ConnectLink.Writable (link : ConnectLink lib) : Prop where
  shallow : ∀ request ∈ link.request,
    ((Wire.codec : Codec (ConnectRequest lib)).encode request).depth ≤ jsonDepthLimit
  complete : ¬ (link.embeddedRequest.isSome ∧ link.request.isNone)
  returns : ∃ parameter, parseReturnStrategy lib parameter = .ok link.returnStrategy

theorem collectKnown_unknown {extensions : List (String × String)}
    (unknown : ∀ pair ∈ extensions, pair.1 ∉ linkParameters) (known : List (String × String)) :
    collectKnown known extensions = .ok known := by
  induction extensions with
  | nil => rfl
  | cons pair extensions ih =>
    obtain ⟨other, unknown⟩ := List.forall_mem_cons.mp unknown
    rw [collectKnown, if_neg other, ih unknown]

theorem collectKnown_append (known first second : List (String × String)) :
    collectKnown known (first ++ second) =
      collectKnown known first >>= fun known => collectKnown known second := by
  induction first generalizing known with
  | nil => rfl
  | cons pair first ih =>
    rw [List.cons_append, collectKnown, collectKnown]
    split
    · split
      · rfl
      · exact ih _
    · exact ih known

/-- The parameters of a written link that a reader knows. -/
theorem ConnectLink.collectKnown_pairs (link : ConnectLink lib) (text : String) :
    ∃ known, collectKnown [] (link.pairs text) = .ok known ∧
      known.lookup "id" = some link.clientId.toText ∧
      known.lookup "r" = link.request.map (fun request =>
        lib.printJson ((Wire.codec : Codec (ConnectRequest lib)).encode request)) ∧
      known.lookup "v" = link.request.map (fun _ => "2") ∧
      known.lookup "ret" = some text ∧
      known.lookup "trace_id" = link.traceId.map ValidatedString.text ∧
      known.lookup "e" = link.embeddedRequest.map encodeEmbeddedRequestParam := by
  obtain ⟨clientId, request, returnStrategy, embeddedRequest, traceId, extensions, unknown⟩ := link
  rw [pairs, collectKnown_append]
  cases request <;> cases traceId <;> cases embeddedRequest <;>
    exact ⟨_, collectKnown_unknown unknown _, rfl, rfl, rfl, rfl, rfl, rfl⟩

theorem ConnectLink.extensions_pairs (link : ConnectLink lib) (text : String) :
    (link.pairs text).filter (·.1 ∉ linkParameters) = link.extensions := by
  have kept : link.extensions.filter (·.1 ∉ linkParameters) = link.extensions :=
    List.filter_eq_self.mpr fun pair listed => by simpa using link.unknown pair listed
  obtain ⟨clientId, request, returnStrategy, embeddedRequest, traceId, extensions, unknown⟩ := link
  rw [pairs, List.filter_append, kept]
  cases request <;> cases traceId <;> cases embeddedRequest <;> rfl

theorem connectRequestFromStr_encode (rereads : ∀ literal, lib.reread literal = literal)
    {request : ConnectRequest lib}
    (shallow : ((Wire.codec : Codec (ConnectRequest lib)).encode request).depth ≤ jsonDepthLimit) :
    connectRequestFromStr lib
      (lib.printJson ((Wire.codec : Codec (ConnectRequest lib)).encode request)) = .ok request := by
  have same : lib.reread = id := funext rereads
  have read := lib.parseJson_printJson ((Wire.codec : Codec (ConnectRequest lib)).encode request)
  rw [if_pos shallow, same] at read
  rw [connectRequestFromStr, read]
  change Except.mapError _ (Codec.decode Wire.codec _) = _
  rw [(Wire.codec : Codec (ConnectRequest lib)).decode_encode]
  exact congrArg Except.ok request.refloat_id

/-- A link is read back from the parameters it is written with. -/
theorem ConnectLink.fromParameters_pairs (rereads : ∀ literal, lib.reread literal = literal)
    {link : ConnectLink lib} (writable : link.Writable) {text : String}
    (returns : parseReturnStrategy lib (some text) = .ok link.returnStrategy)
    {known : List (String × String)} (collected : collectKnown [] (link.pairs text) = .ok known) :
    fromParameters known link.extensions link.unknown = .ok link := by
  obtain ⟨_, same, id, request, version, strategy, traceId, embedded⟩ :=
    link.collectKnown_pairs text
  cases collected.symm.trans same
  have requested : optionalParameter (connectRequestFromStr lib) (known.lookup "r") =
      .ok link.request := by
    rw [request]
    cases asked : link.request with
    | none => rfl
    | some request =>
      exact except_map_eq_ok.mpr
        ⟨request, connectRequestFromStr_encode rereads (writable.shallow request asked), rfl⟩
  have checked : checkVersion (known.lookup "v") link.request.isSome = .ok () := by
    rw [version]
    cases link.request <;> rfl
  have decoded : (known.lookup "e").bind (decodeEmbeddedRequestParam lib) =
      link.embeddedRequest := by
    rw [embedded]
    cases link.embeddedRequest with
    | none => rfl
    | some request => exact decodeEmbeddedRequestParam_encode request
  have traced : optionalParameter (fun value =>
      (ValidatedString.tryFrom value).elim (.error .invalidValue) .ok) (known.lookup "trace_id") =
      .ok link.traceId := by
    rw [traceId]
    cases link.traceId with
    | none => rfl
    | some traceId =>
      rw [Option.map_some, optionalParameter, ValidatedString.tryFrom_text]
      rfl
  refine except_bind_eq_ok.mpr ⟨_, by rw [id]; rfl, ?_⟩
  refine except_bind_eq_ok.mpr ⟨link.clientId, by rw [ClientId.fromStr_toText]; rfl, ?_⟩
  refine except_bind_eq_ok.mpr ⟨link.request, requested, ?_⟩
  refine except_bind_eq_ok.mpr ⟨(), checked, ?_⟩
  rw [decoded]
  refine except_guard_eq_ok.mpr ⟨writable.complete, ?_⟩
  refine except_bind_eq_ok.mpr ⟨link.returnStrategy, strategy ▸ returns, ?_⟩
  exact except_bind_eq_ok.mpr ⟨link.traceId, traced, rfl⟩

/-- A link that can be written is read back. -/
theorem ConnectLink.parse_written (rereads : ∀ literal, lib.reread literal = literal)
    {link : ConnectLink lib} (writable : link.Writable) {text : String}
    (returns : parseReturnStrategy lib (some text) = .ok link.returnStrategy) {baseUrl : String}
    {base : Url} (found : lib.parseUrl baseUrl = some base) (query : base.query = none)
    (fragment : base.fragment = none) :
    ConnectLink.parse lib (lib.appendPairs base (link.pairs text)).text = .ok link := by
  obtain ⟨known, collected, -⟩ := link.collectKnown_pairs text
  have written : link.pairs text ≠ [] := by simp [pairs]
  have read : formPairs lib.fromUtf8Lossy
      ((lib.appendPairs base (link.pairs text)).query.getD "").toList = link.pairs text := by
    rw [lib.appendPairs_query query written, Option.getD_some, String.toList_ofList,
      formPairs_formQuery lib.fromUtf8Lossy_utf8]
  refine except_bind_eq_ok.mpr ⟨lib.appendPairs base (link.pairs text), ?_, ?_⟩
  · rw [lib.parseUrl_appendPairs _ found query fragment]
    rfl
  · simp only [read, link.extensions_pairs]
    exact except_bind_eq_ok.mpr
      ⟨known, collected, fromParameters_pairs rereads writable returns collected⟩

namespace Plain

/-- A link with an embedded request and a parameter of a later version. -/
def link : ConnectLink plainLibraries where
  clientId := ⟨Vector.replicate 32 7⟩
  request := some ⟨⟨"https://app.example/manifest.json", rfl⟩,
    ⟨[.tonAddr none, .tonProof "challenge"], by simp⟩⟩
  returnStrategy := .custom "app://done"
  embeddedRequest := some (.signData (.text "hello" none none))
  traceId := none
  extensions := [("future", "a b")]
  unknown := by decide

end Plain

end RoundTrip

end WalletEngine
