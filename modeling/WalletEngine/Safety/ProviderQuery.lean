import WalletEngine.Data.FormUrl
import WalletEngine.Transport.Request

/-! # The query of a provider request

The source writes queries byte by byte with its own encoder. It agrees with form encoding, so the
provider reads back the parameters that were meant, whatever they contain. -/

namespace WalletEngine

section Encoder

theorem encodeQueryByte_eq : ∀ byte, encodeQueryByte byte = formByte byte :=
  forall_byte (by decide +kernel)

theorem toList_loop (bytes : ByteArray) (index : Nat) (before : List UInt8) :
    ByteArray.toList.loop bytes index before = before.reverse ++ bytes.data.toList.drop index := by
  fun_induction ByteArray.toList.loop bytes index before with
  | case1 index before inside ih =>
    have there : index < bytes.data.toList.length := by simpa using inside
    have same : bytes.get! index = bytes.data.toList[index] := by
      simp [ByteArray.get!, inside]
    rw [ih, List.drop_eq_getElem_cons there, List.reverse_cons, List.append_assoc, same]
    rfl
  | case2 index before outside =>
    rw [List.drop_eq_nil_of_le, List.append_nil]
    simpa using outside

theorem encodedQueryComponent_eq (value : String) : encodedQueryComponent value = formText value := by
  have bytes : value.toUTF8.toList = utf8 value := by
    rw [ByteArray.toList, toList_loop]
    rfl
  rw [encodedQueryComponent, formText, bytes, funext encodeQueryByte_eq]

theorem encodedQuery_false (query : List (String × String)) :
    encodedQuery false query = (query.map formPair).flatMap ('&' :: ·) := by
  induction query with
  | nil => rfl
  | cons pair query ih =>
    obtain ⟨key, value⟩ := pair
    rw [encodedQuery, ih, encodedQueryComponent_eq, encodedQueryComponent_eq]
    simp [formPair]

theorem intercalate_cons_flatMap (first : List Char) (rest : List (List Char)) :
    ['&'].intercalate (first :: rest) = first ++ rest.flatMap ('&' :: ·) := by
  induction rest generalizing first with
  | nil => simp
  | cons second rest ih => rw [List.intercalate_cons_cons, ih, List.flatMap_cons]; simp

theorem encodedQuery_true {query : List (String × String)} (some : query ≠ []) :
    encodedQuery true query = '?' :: formQuery query := by
  obtain ⟨⟨key, value⟩, rest, rfl⟩ := List.exists_cons_of_ne_nil some
  rw [encodedQuery, encodedQuery_false, encodedQueryComponent_eq, encodedQueryComponent_eq,
    formQuery, List.map_cons, intercalate_cons_flatMap]
  simp [formPair]

end Encoder

section Urls

/-- The query of a URL: what stands between the first question mark and the fragment. -/
def urlQuery (url : List Char) : List Char :=
  ((url.takeWhile (· != '#')).dropWhile (· != '?')).drop 1

/-- Neither a query nor a fragment starts in the text. -/
def Clean (text : List Char) : Prop :=
  ∀ c ∈ text, c ≠ '?' ∧ c ≠ '#'

def PlainPath (path : List String) : Prop :=
  ∀ segment ∈ path, Clean segment.toList

instance (text : List Char) : Decidable (Clean text) := List.decidableBAll _ _

instance (path : List String) : Decidable (PlainPath path) := List.decidableBAll _ _

theorem plainPath_location (endpoint : Endpoint) : PlainPath endpoint.location.1 := by
  have plain : ∀ path ∈ [["api", "v2", "getAddressInformation"], ["api", "v2", "getTransactions"],
      ["api", "v2", "jsonRPC"], ["api", "v3", "transactionsByMessage"],
      ["api", "v3", "pendingTransactions"], ["api", "v3", "walletStates"],
      ["api", "v3", "nft", "items"], ["api", "emulate", "v1", "emulateTrace"],
      ["api", "v3", "actions"]], PlainPath path := by decide
  cases endpoint with
  | getTransactions address cursor => cases cursor <;> exact plain _ (by simp [Endpoint.location])
  | _ => exact plain _ (by simp [Endpoint.location])

theorem urlQuery_append {front rest : List Char} (clean : Clean front) (whole : '#' ∉ rest) :
    urlQuery (front ++ '?' :: rest) = rest := by
  have all : ∀ c ∈ front ++ '?' :: rest, (c != '#') = true := by
    intro c member
    rw [bne_iff_ne]
    rintro rfl
    rcases List.mem_append.mp member with early | late
    · exact (clean _ early).2 rfl
    · exact whole ((List.mem_cons.mp late).resolve_left (by decide))
  rw [urlQuery, List.takeWhile_eq_self_iff.mpr all, List.dropWhile_append_of_pos]
  · rfl
  · exact fun c member => bne_iff_ne.mpr (clean c member).1

theorem urlQuery_of_clean {front : List Char} (clean : Clean front) : urlQuery front = [] := by
  have skipped : ∀ c ∈ front.takeWhile (· != '#'), (c != '?') = true := fun c member =>
    bne_iff_ne.mpr (clean c ((List.takeWhile_prefix _).subset member)).1
  rw [urlQuery, List.dropWhile_eq_nil_iff.mpr skipped]
  rfl

theorem clean_of_acceptedBase {base : List Char} (accepted : acceptedBase base = true) :
    Clean base := by
  unfold acceptedBase at accepted
  split at accepted
  · cases accepted
  · simp only [Bool.not_eq_true', Bool.or_eq_false_iff, List.any_eq_false] at accepted
    intro c member
    have other := accepted.2 c member
    simp only [Bool.or_eq_true, beq_iff_eq, not_or] at other
    exact ⟨other.1.1.2, other.1.2⟩

/-- What stands in front of the query. -/
theorem buildProviderUrl_ok {base url : String} {path : List String}
    {query : List (String × String)} (plain : PlainPath path)
    (built : buildProviderUrl base path query = .ok url) :
    ∃ front, url.toList = front ++ encodedQuery true query ∧ Clean front := by
  unfold buildProviderUrl at built
  dsimp only at built
  split at built
  · next accepted =>
      have clean := clean_of_acceptedBase accepted
      refine ⟨_, by rw [← Except.ok.inj built, String.toList_ofList], fun c member => ?_⟩
      rcases List.mem_append.mp member with early | late
      · split at early
        · exact clean c (List.dropLast_subset _ early)
        · exact clean c early
      · obtain ⟨segment, listed, inside⟩ := List.mem_flatMap.mp late
        rcases List.mem_cons.mp inside with rfl | inside
        · decide
        · exact plain segment listed c inside
  · cases built

/-- **No parameter can be injected.** The query of a request is read back as the list it was built
from, so different lists give different URLs. -/
theorem provider_query_reads_back {lossy : List UInt8 → String}
    (exact : ∀ text, lossy (utf8 text) = text) :
    (∀ base path query url, PlainPath path → buildProviderUrl base path query = .ok url →
      formPairs lossy (urlQuery url.toList) = query) ∧
    (∀ base path first second url, PlainPath path → buildProviderUrl base path first = .ok url →
      buildProviderUrl base path second = .ok url → first = second) ∧
    ∀ endpoint : Endpoint, PlainPath endpoint.location.1 := by
  have reads : ∀ base path query url, PlainPath path →
      buildProviderUrl base path query = .ok url →
        formPairs lossy (urlQuery url.toList) = query := by
    intro base path query url plain built
    obtain ⟨front, spelt, clean⟩ := buildProviderUrl_ok plain built
    cases query with
    | nil =>
      rw [spelt, encodedQuery, List.append_nil, urlQuery_of_clean clean]
      rfl
    | cons pair rest =>
      have whole : '#' ∉ formQuery (pair :: rest) := by
        rw [formQuery, List.map_cons, intercalate_cons_flatMap]
        simp [formPair_free]
      rw [spelt, encodedQuery_true (List.cons_ne_nil _ _), urlQuery_append clean whole,
        formPairs_formQuery exact]
  refine ⟨reads, ?_, plainPath_location⟩
  intro base path first second url plain built again
  rw [← reads base path first url plain built, reads base path second url plain again]

/-- A value that holds every separator. -/
theorem provider_query_reads_back_separators :
    buildProviderUrl "https://toncenter.com/" ["api"] [("a", "1&b=2 #")] =
        .ok "https://toncenter.com/api?a=1%26b%3D2+%23" ∧
      formPairs (fun bytes => (String.fromUTF8? ⟨bytes.toArray⟩).getD "")
        (urlQuery "https://toncenter.com/api?a=1%26b%3D2+%23".toList) = [("a", "1&b=2 #")] := by
  have built : buildProviderUrl "https://toncenter.com/" ["api"] [("a", "1&b=2 #")] =
      .ok "https://toncenter.com/api?a=1%26b%3D2+%23" := by decide +kernel
  have plain : PlainPath ["api"] := by decide
  refine ⟨built, (provider_query_reads_back fun text => ?_).1 _ _ _ _ plain built⟩
  rw [fromUTF8_utf8, Option.getD_some]

end Urls

end WalletEngine
