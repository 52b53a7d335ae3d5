import Mathlib.Data.List.Perm.Subperm
import Mathlib.Data.Multiset.Count
import WalletEngine.TonConnect.Connect

/-! # Replies to a connect request

The check of a connect event compares lengths and counts names. What it decides is that the
replies answer the items as a multiset of names. -/

namespace WalletEngine

variable {lib : Libraries}

/-- What a connect event must be to answer a request and its embedded request. -/
structure AnswersConnect (requested : List ConnectItem) (replies : List (ConnectItemReply lib))
    (device : DeviceInfo) (embeddedRequest : Option (EmbeddedRequest lib))
    (response : Option EmbeddedResponse) : Prop where
  valid : device.validate = .ok ()
  single : requested.countP ConnectItem.isTonAddr = 1
  names : (requested.map ConnectItem.name : Multiset String) = replies.map ConnectItemReply.name
  account : ∃ account, replies.filterMap ConnectItemReply.account = [account] ∧
    ∀ network, .tonAddr (some network) ∈ requested → account.network = network
  proofs : ∀ proof, .tonProof proof ∈ replies → .tonProof proof.payload ∈ requested
  present : response.isSome = true ↔
    embeddedRequest.isSome = true ∧ .embeddedRequest ∈ device.features
  embedded : ∀ request ∈ embeddedRequest, ∀ answer ∈ response,
    (answer.validateFor request).isOk = true

section Parts

variable {requested : List ConnectItem} {replies : List (ConnectItemReply lib)}

theorem answered_iff : ConnectItem.answered requested replies = true ↔
    (requested.map ConnectItem.name : Multiset String) = replies.map ConnectItemReply.name := by
  have counted (name : String) :
      requested.countP (·.name == name) = (requested.map ConnectItem.name).count name ∧
      replies.countP (·.name == name) = (replies.map ConnectItemReply.name).count name := by
    simp only [List.count, List.countP_map]
    exact ⟨rfl, rfl⟩
  simp only [ConnectItem.answered, Bool.and_eq_true, beq_iff_eq, List.all_eq_true, counted,
    Multiset.coe_eq_coe]
  constructor
  · rintro ⟨length, counts⟩
    -- every requested name has as many replies, which leaves no room for another name
    refine (List.subperm_ext_iff.mpr fun name listed => ?_).perm_of_length_le ?_
    · obtain ⟨item, member, rfl⟩ := List.mem_map.mp listed
      exact (counts item member).le
    · simp [length]
  · intro same
    exact ⟨by simpa using same.length_eq, fun item _ => same.count_eq _⟩

/-- The one item that asks for the address says which network it must be on. -/
theorem requestedNetwork_iff (single : requested.countP ConnectItem.isTonAddr = 1)
    {network : NetworkId} :
    requested.findSome? ConnectItem.requestedNetwork = some network ↔
      .tonAddr (some network) ∈ requested := by
  have asks : ∀ {item other}, ConnectItem.requestedNetwork item = some other →
      item = .tonAddr (some other) := by
    rintro (_ | _ | _) other found <;> cases found
    rfl
  constructor
  · intro found
    obtain ⟨item, member, asked⟩ := List.exists_of_findSome?_eq_some found
    exact asks asked ▸ member
  · intro member
    cases found : requested.findSome? ConnectItem.requestedNetwork with
    | none => exact nomatch List.findSome?_eq_none_iff.mp found _ member
    | some other =>
      obtain ⟨item, listed, asked⟩ := List.exists_of_findSome?_eq_some found
      rw [asks asked] at listed
      rw [List.countP_eq_length_filter] at single
      obtain ⟨only, unique⟩ := List.length_eq_one_iff.mp single
      have at_only : ∀ {item}, item ∈ requested → item.isTonAddr = true → item = only := by
        intro item listed isAddress
        have kept := List.mem_filter.mpr ⟨listed, isAddress⟩
        rw [unique] at kept
        exact List.mem_singleton.mp kept
      have same := (at_only listed rfl).trans (at_only member rfl).symm
      cases same
      rfl

theorem network_iff (single : requested.countP ConnectItem.isTonAddr = 1) {given : NetworkId} :
    ¬ (requested.findSome? ConnectItem.requestedNetwork).any (· != given) = true ↔
      ∀ network, .tonAddr (some network) ∈ requested → given = network := by
  simp only [← requestedNetwork_iff single, Option.any_eq_true, bne_iff_ne, not_exists, not_and,
    not_not]
  exact forall₂_congr fun network _ => eq_comm

theorem proofs_iff : ¬ ((replies.filterMap ConnectItemReply.proof).any fun proof =>
      !requested.any (ConnectItem.asksProof proof.payload)) = true ↔
    ∀ proof, .tonProof proof ∈ replies → .tonProof proof.payload ∈ requested := by
  have given : ∀ proof, proof ∈ replies.filterMap ConnectItemReply.proof ↔
      .tonProof proof ∈ replies := by
    intro proof
    rw [List.mem_filterMap]
    refine ⟨?_, fun listed => ⟨_, listed, rfl⟩⟩
    rintro ⟨_ | _ | _, listed, found⟩ <;> cases found
    exact listed
  have asked : ∀ payload, requested.any (ConnectItem.asksProof payload) = true ↔
      .tonProof payload ∈ requested := by
    intro payload
    rw [List.any_eq_true]
    refine ⟨?_, fun listed => ⟨_, listed, beq_self_eq_true _⟩⟩
    rintro ⟨_ | other | _, listed, found⟩
    · cases found
    · exact eq_of_beq found ▸ listed
    · cases found
  simp only [List.any_eq_true, Bool.not_eq_true', ← Bool.not_eq_true, given, asked, not_exists,
    not_and, not_not]

theorem validateEmbedded_iff {embeddedRequest : Option (EmbeddedRequest lib)}
    {response : Option EmbeddedResponse} {supported : Bool} :
    validateEmbedded embeddedRequest response supported = .ok () ↔
      (response.isSome = true ↔ embeddedRequest.isSome = true ∧ supported = true) ∧
        ∀ request ∈ embeddedRequest, ∀ answer ∈ response,
          (answer.validateFor request).isOk = true := by
  rcases embeddedRequest with _ | request <;> rcases response with _ | answer <;>
    cases supported <;> simp [validateEmbedded]
  cases answer.validateFor request <;> simp [Except.mapError, Except.map, Except.isOk, Except.toBool]

end Parts

/-- A connect event is accepted exactly when it answers the request. -/
theorem connect_replies_match (id : UInt64) (replies : List (ConnectItemReply lib))
    (device : DeviceInfo) (response : Option EmbeddedResponse) (request : ConnectRequest lib)
    (embeddedRequest : Option (EmbeddedRequest lib)) :
    (ConnectEvent.connect id replies device response).validateForConnect request
        embeddedRequest = .ok () ↔
      AnswersConnect request.items.items replies device embeddedRequest response := by
  unfold ConnectEvent.validateForConnect
  constructor
  · intro ok
    obtain ⟨_, checked, ok⟩ := except_bind_eq_ok.mp ok
    obtain ⟨single, ok⟩ := except_guard_eq_ok.mp ok
    obtain ⟨answered, ok⟩ := except_guard_eq_ok.mp ok
    split at ok
    · cases ok
    · cases ok
    next account found =>
      obtain ⟨network, ok⟩ := except_guard_eq_ok.mp ok
      obtain ⟨proofs, ok⟩ := except_guard_eq_ok.mp ok
      obtain ⟨present, embedded⟩ := validateEmbedded_iff.mp ok
      have single := not_not.mp single
      exact ⟨except_mapError_eq_ok.mp checked, single, answered_iff.mp (not_not.mp answered),
        ⟨account, found, (network_iff single).mp network⟩, proofs_iff.mp proofs,
        present.trans (and_congr_right fun _ => List.contains_iff_mem), embedded⟩
  · rintro ⟨valid, single, names, ⟨account, found, network⟩, proofs, present, embedded⟩
    refine except_bind_eq_ok.mpr ⟨(), except_mapError_eq_ok.mpr valid, ?_⟩
    refine except_guard_eq_ok.mpr ⟨not_not.mpr single, ?_⟩
    refine except_guard_eq_ok.mpr ⟨not_not.mpr (answered_iff.mpr names), ?_⟩
    rw [found]
    refine except_guard_eq_ok.mpr ⟨(network_iff single).mpr network, ?_⟩
    refine except_guard_eq_ok.mpr ⟨proofs_iff.mpr proofs, validateEmbedded_iff.mpr ⟨?_, embedded⟩⟩
    exact present.trans (and_congr_right fun _ => List.contains_iff_mem.symm)

end WalletEngine
