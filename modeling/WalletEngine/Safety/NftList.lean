import WalletEngine.Safety.ActivityList

/-! # The list of NFTs

What the list shows after any sequence of completed refreshes and page loads, whatever rows the
provider sends. -/

namespace WalletEngine

/-- Both deduplications keep the first item of each address that is not known yet. -/
theorem deduplicateNfts_eq (known items : List TonAddressString) :
    deduplicateNfts known items = (items.removeAll known).eraseDups := by
  induction items generalizing known with
  | nil => rfl
  | cons item rest ih =>
    unfold deduplicateNfts
    cases seen : known.contains item with
    | true =>
      rw [if_pos rfl, ih, List.removeAll, List.removeAll, List.filter_cons_of_neg]
      simpa using seen
    | false =>
      rw [if_neg (by decide), ih, List.removeAll, List.removeAll, List.filter_cons_of_pos,
        List.eraseDups_cons, List.filter_filter]
      · refine congrArg (item :: List.eraseDups ·) (List.filter_congr fun other _ => ?_)
        by_cases same : other = item <;> simp [same]
      · simpa using seen

/-- A completed load with a page as `parse_nft_page` reads it from the rows of the provider. -/
structure NftLoad where
  kind : PageKind
  page : NftPage
  counted : page.rawCount = page.items.length
  fits : page.rawCount < u64Bound

/-- A client after some loads, with the rows received since the last refresh. -/
structure NftFeed where
  state : State
  rows : List TonAddressString

namespace NftFeed

def next (feed : NftFeed) (load : NftLoad) : NftFeed :=
  match load.kind with
  | .refreshed => ⟨(applyRefreshedNftPage feed.state load.page).1, load.page.items⟩
  | .older => ⟨(applyNftPage feed.state load.page).1, feed.rows ++ load.page.items⟩

def run (config : WalletClientConfig) (loads : List NftLoad) : NftFeed :=
  loads.foldl next ⟨.initial config, []⟩

/-- The list shows each address of the rows once, in the order of first appearance, and the offset
counts the rows. -/
structure Consistent (feed : NftFeed) : Prop where
  listed : feed.state.snapshot.nfts = feed.rows.eraseDups
  offset : feed.state.nftOffset = min feed.rows.length (u64Bound - 1)
  hasMore : feed.state.snapshot.nftsHasMore = feed.state.nftsHasMore

theorem Consistent.next {feed : NftFeed} (consistent : feed.Consistent) (load : NftLoad) :
    (feed.next load).Consistent := by
  obtain ⟨kind, page, counted, fits⟩ := load
  cases kind with
  | refreshed =>
    refine ⟨?_, ?_, rfl⟩
    · change deduplicateNfts [] page.items = page.items.eraseDups
      rw [deduplicateNfts_eq, List.removeAll_nil]
    · change page.rawCount = min page.items.length _
      omega
  | older =>
    refine ⟨?_, ?_, rfl⟩
    · change feed.state.snapshot.nfts ++ deduplicateNfts _ page.items = (feed.rows ++ _).eraseDups
      rw [deduplicateNfts_eq, consistent.listed, List.eraseDups_append]
      simp [List.removeAll]
    · change saturatingAdd feed.state.nftOffset page.rawCount = min (feed.rows ++ page.items).length _
      rw [saturatingAdd, consistent.offset, List.length_append]
      omega

end NftFeed

end WalletEngine
