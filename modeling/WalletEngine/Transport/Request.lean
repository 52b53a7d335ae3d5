import WalletEngine.Domain.Basic

/-! # Provider requests

What a request asks the provider is its `endpoint`; the URL is built from it as
the source does. The bytes of a JSON-RPC body are determined by the endpoint and
are not modelled separately. -/

namespace WalletEngine

structure HttpRequestId where
  value : Nat
  deriving DecidableEq

/-- The provider endpoints with their parameters. -/
inductive Endpoint where
  | getAddressInformation (address : TonAddressString)
  | getTransactions (address : TonAddressString) (cursor : Option (Nat × Base64Hash))
  | runGetMethod (address : TonAddressString) (method : String)
  | sendBoc (boc : Boc)
  | dnsResolve (root name : String)
  | transactionsByMessage (messageHash : Base64Hash)
  | pendingTransactions (account : TonAddressString)
  | walletStates (address : TonAddressString)
  | nftItems (owner : TonAddressString) (offset : Nat)
  | nftItem (address : TonAddressString)
  | emulateTrace (boc : Boc)
  | keyChanges (account : TonAddressString) (offset : Nat)
  deriving DecidableEq

structure HttpRequest where
  id : HttpRequestId
  endpoint : Endpoint
  url : String
  timeoutMs : Nat
  deriving DecidableEq

section Url

/-- Form encoding of one byte of a query component. -/
def encodeQueryByte (byte : UInt8) : List Char :=
  let c := Char.ofNat byte.toNat
  if ('A' ≤ c && c ≤ 'Z') || ('a' ≤ c && c ≤ 'z') || ('0' ≤ c && c ≤ '9') || c == '*' ||
      c == '-' || c == '.' || c == '_' then [c]
  else if c == ' ' then ['+']
  else
    let nibble (n : Nat) := if n < 10 then Char.ofNat (48 + n) else Char.ofNat (65 + (n - 10))
    ['%', nibble (byte.toNat / 16), nibble (byte.toNat % 16)]

def encodedQueryComponent (value : String) : List Char :=
  value.toUTF8.toList.flatMap encodeQueryByte

def encodedQuery (first : Bool) : List (String × String) → List Char
  | [] => []
  | (key, value) :: rest =>
    (if first then '?' else '&') :: encodedQueryComponent key ++
      '=' :: encodedQueryComponent value ++ encodedQuery false rest

/-- The authority of an `http` or `https` base. -/
def authority (base : List Char) : Option (List Char) :=
  let rest := if "https://".toList.isPrefixOf base then some (base.drop 8)
    else if "http://".toList.isPrefixOf base then some (base.drop 7)
    else none
  rest.map (·.takeWhile (· != '/'))

/-- The configured base can be extended with an endpoint path. -/
def acceptedBase (base : List Char) : Bool :=
  match authority base with
  | none => false
  | some authority =>
    !(authority.isEmpty || authority.head? == some ':' || authority.contains '@' ||
      base.any fun c => 127 ≤ c.toNat || c.toNat < 32 || c == ' ' || c == '?' || c == '#' ||
        c == '\\')

def buildProviderUrl (base : String) (path : List String) (query : List (String × String)) :
    Except WalletClientError String :=
  let chars := base.toList
  if acceptedBase chars then
    let trimmed := if chars.getLast? == some '/' then chars.dropLast else chars
    .ok (String.ofList (trimmed ++ path.flatMap (fun segment => '/' :: segment.toList) ++
      encodedQuery true query))
  else .error .invalidProviderBaseUrl

end Url

/-- The path and the query of an endpoint. Calls of the JSON-RPC endpoint carry
their parameters in the body. -/
def Endpoint.location : Endpoint → List String × List (String × String)
  | .getAddressInformation address =>
    (["api", "v2", "getAddressInformation"], [("address", address.asStr)])
  | .getTransactions address none =>
    (["api", "v2", "getTransactions"], [("address", address.asStr), ("limit", "10")])
  | .getTransactions address (some (lt, hash)) =>
    (["api", "v2", "getTransactions"],
      [("address", address.asStr), ("limit", "10"), ("lt", toString lt), ("hash", hash.text)])
  | .runGetMethod _ _ | .sendBoc _ | .dnsResolve _ _ => (["api", "v2", "jsonRPC"], [])
  | .transactionsByMessage hash =>
    (["api", "v3", "transactionsByMessage"],
      [("msg_hash", hash.text), ("direction", "in"), ("limit", "1"), ("offset", "0")])
  | .pendingTransactions account =>
    (["api", "v3", "pendingTransactions"], [("account", account.asStr)])
  | .walletStates address => (["api", "v3", "walletStates"], [("address", address.asStr)])
  | .nftItems owner offset =>
    (["api", "v3", "nft", "items"],
      [("owner_address", owner.asStr), ("limit", "60"), ("offset", toString offset),
        ("sort_by_last_transaction_lt", "true")])
  | .nftItem address =>
    (["api", "v3", "nft", "items"], [("address", address.asStr), ("limit", "2"), ("offset", "0")])
  | .emulateTrace _ => (["api", "emulate", "v1", "emulateTrace"], [])
  | .keyChanges account offset =>
    (["api", "v3", "actions"],
      [("account", account.asStr), ("action_type", "change_wallet_key"), ("limit", "100"),
        ("offset", toString offset), ("sort", "desc")])

/-- Build the request of an endpoint. -/
def buildRequest (config : WalletClientConfig) (id : HttpRequestId) (endpoint : Endpoint) :
    Except WalletClientError HttpRequest := do
  let (path, query) := endpoint.location
  let url ← buildProviderUrl config.providers.toncenterBaseUrl path query
  return { id, endpoint, url, timeoutMs := config.providers.requestTimeoutMs }

theorem buildRequest_ok {config : WalletClientConfig} {id : HttpRequestId}
    {endpoint : Endpoint} {request : HttpRequest}
    (built : buildRequest config id endpoint = .ok request) :
    request.id = id ∧ request.endpoint = endpoint := by
  unfold buildRequest at built
  cases url : buildProviderUrl config.providers.toncenterBaseUrl endpoint.location.1
      endpoint.location.2 with
  | error error => simp [url, bind, Except.bind] at built
  | ok url' =>
    simp only [url, bind, Except.bind, pure, Except.pure, Except.ok.injEq] at built
    exact ⟨built ▸ rfl, built ▸ rfl⟩

end WalletEngine
