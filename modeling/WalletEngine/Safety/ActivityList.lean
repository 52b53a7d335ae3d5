import WalletEngine.Engine.Activity
import WalletEngine.Host.Memory

/-! # The list of activity rows

The pages of the history are applied one after the other, those of a refresh at its head and
older ones behind it. The list is a table of the rows received, sorted and without repetitions,
as long as no refresh fills an empty list with a page that repeats a row. -/

namespace WalletEngine

open Provider

section Order

/-- Rows go from newer to older logical times, then from newer to older timestamps, then by
identifier. -/
def RowOrder (left right : ActivityRecord) : Prop :=
  right.logicalTime < left.logicalTime ∨ left.logicalTime = right.logicalTime ∧
    (right.timestamp < left.timestamp ∨ left.timestamp = right.timestamp ∧ left.id ≤ right.id)

theorem RowOrder.trans {first second third : ActivityRecord} (before : RowOrder first second)
    (after : RowOrder second third) : RowOrder first third := by
  unfold RowOrder at *
  rcases before with newer | ⟨times, newer | ⟨stamps, ids⟩⟩
  · omega
  · omega
  · rcases after with newer | ⟨otherTimes, newer | ⟨otherStamps, otherIds⟩⟩
    · omega
    · omega
    · exact .inr ⟨by omega, .inr ⟨by omega, String.le_trans ids otherIds⟩⟩

theorem RowOrder.total (first second : ActivityRecord) :
    RowOrder first second ∨ RowOrder second first := by
  unfold RowOrder
  rcases Nat.lt_trichotomy first.logicalTime second.logicalTime with older | times | newer
  · exact .inr (.inl older)
  · rcases Nat.lt_trichotomy first.timestamp second.timestamp with older | stamps | newer
    · exact .inr (.inr ⟨times.symm, .inl older⟩)
    · rcases String.le_total first.id second.id with ids | ids
      · exact .inl (.inr ⟨times, .inr ⟨stamps, ids⟩⟩)
      · exact .inr (.inr ⟨times.symm, .inr ⟨stamps.symm, ids⟩⟩)
    · exact .inl (.inr ⟨times, .inl newer⟩)
  · exact .inl (.inl newer)

theorem RowOrder.id_eq {first second : ActivityRecord} (before : RowOrder first second)
    (after : RowOrder second first) : first.id = second.id := by
  unfold RowOrder at *
  rcases before with newer | ⟨times, newer | ⟨stamps, ids⟩⟩
  · omega
  · omega
  · rcases after with newer | ⟨otherTimes, newer | ⟨otherStamps, otherIds⟩⟩
    · omega
    · omega
    · exact String.le_antisymm ids otherIds

end Order

section Pages

variable {services : Services} {serde : Serde}

inductive PageKind where
  | refreshed | older
  deriving DecidableEq

variable (services serde) in
/-- An answer of the provider and the page read from it. -/
structure PageEvent where
  kind : PageKind
  body : serde.Body
  page : ActivityPage
  parsed : parseActivity services serde body pageSize = .ok page

namespace PageEvent

variable (event : PageEvent services serde)

/-- The page is applied, and what `load_more_activity` reports. -/
def apply (state : State) : State × Nat :=
  match event.kind with
  | .refreshed => (applyRefreshedActivityPage state event.page, 0)
  | .older => applyActivityPage state event.page

/-- The rows that the page hands over. An older page that does not move the cursor is refused. -/
def rows (state : State) : List ActivityRecord :=
  if event.kind = .refreshed ∨ cursorAdvanced state.activityCursor event.page.cursor then
    event.page.items
  else []

/-- What the source may do with a page, given that its hash map may be iterated in any order. -/
inductive MayApply (state : State) : State × Nat → Prop
  | first (kind : event.kind = .refreshed) (empty : state.activity = []) :
      MayApply state ({ state with
        activity := event.page.items
        activityCursor := event.page.cursor
        activityHasMore := event.page.hasMore }.syncActivitySnapshot, 0)
  | refreshed (kind : event.kind = .refreshed) (filled : state.activity ≠ [])
      (values : List ActivityRecord)
      (listed : values.Perm (tableOf (·.id) (state.activity ++ event.page.items))) :
      MayApply state ({ state with
        activity := values.mergeSort activityRecordBefore }.syncActivitySnapshot, 0)
  | advanced (kind : event.kind = .older)
      (moved : cursorAdvanced state.activityCursor event.page.cursor = true)
      (values : List ActivityRecord)
      (listed : values.Perm (tableOf (·.id) (state.activity ++ event.page.items))) :
      MayApply state ({ state with
        activity := values.mergeSort activityRecordBefore
        activityCursor := event.page.cursor
        activityHasMore := event.page.hasMore }.syncActivitySnapshot,
          (values.mergeSort activityRecordBefore).length - state.activity.length)
  | stopped (kind : event.kind = .older)
      (still : cursorAdvanced state.activityCursor event.page.cursor = false) :
      MayApply state ({ state with activityHasMore := false }.syncActivitySnapshot, 0)

end PageEvent

/-- A client after some pages, with the rows it has received, the latest last. -/
structure Feed where
  state : State
  received : List ActivityRecord

namespace Feed

def initial (config : WalletClientConfig) : Feed :=
  ⟨.initial config, []⟩

def next (feed : Feed) (event : PageEvent services serde) : Feed :=
  ⟨(event.apply feed.state).1, feed.received ++ event.rows feed.state⟩

/-- The client after a sequence of pages. -/
def run (config : WalletClientConfig) (events : List (PageEvent services serde)) : Feed :=
  events.foldl next (initial config)

/-- The list is a sorted table of the rows received, and it is what is shown. -/
structure Consistent (feed : Feed) : Prop where
  distinct : (feed.state.activity.map (·.id)).Nodup
  sorted : feed.state.activity.Pairwise RowOrder
  items : feed.state.snapshot.activityItems = feed.state.activity.map ActivityRecord.snapshot
  cursor : feed.state.snapshot.activityCursor = feed.state.activityCursor
  hasMore : feed.state.snapshot.activityHasMore = feed.state.activityHasMore
  latest : ∀ id, lastRow (·.id) feed.state.activity id = lastRow (·.id) feed.received id

/-- A page leaves the list consistent, whatever the order of the hash map, and the reported
number is that of the identifiers that were not in the list before. -/
structure Kept (feed : Feed) (event : PageEvent services serde) : Prop where
  consistent : (feed.next event).Consistent
  ordered : ∀ result, event.MayApply feed.state result → result = event.apply feed.state
  counted : event.kind = .older → (event.apply feed.state).2 =
    (((feed.next event).state.activity.map (·.id)).filter
      (· ∉ feed.state.activity.map (·.id))).length

section Plain

/-- A transaction that brought one nanogram. -/
def plainTransaction : Provider.Transaction where
  utime := 1
  data := ""
  fee := .num (.posInt 0 (by decide))
  transactionId := ⟨.num (.posInt 5 (by decide)), "hash"⟩
  inMsg := some ⟨none, none, .str "sender", .null, .num (.posInt 1 (by decide))⟩
  outMsgs := []

end Plain

end Feed

end Pages

end WalletEngine
