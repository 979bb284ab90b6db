import TicketCore.Alone
import TicketCore.Paging
import TicketCore.Services.Event
import TicketCore.Services.Ticket
import TicketCore.Services.TicketType

/-!
# Listings

`TicketService.get_all_for_user`, `TicketTypeService.get_all_for_event` and
`EventRepository.get_all`, asked for one page after another. Each page is a query of its own, with
`OFFSET` and `LIMIT` and no `ORDER BY`, so each comes in an order of its own.

* `outcomeOf_call`: a page is a window of the rows in the order of its query.
* `listing_partitions`: when the pages list every row exactly once.
-/

namespace TicketCore

open Interleave RowStore

variable {ι : Type} [DecidableEq ι]

/-! ## The queries -/

/-- The listings, with what they filter by. -/
inductive Listing
  | ticketsOfUser (ownerId : Int)
  | ticketTypesOfEvent (eventId : Int)
  | events

namespace Listing

/-- A listed row, as it is returned. -/
@[reducible] def Response : Listing → Type
  | .ticketsOfUser _ => TicketResponse
  | .ticketTypesOfEvent _ => TicketTypeResponse
  | .events => Int × Event

/-- The call for a page. -/
def call (offset limit : Int) : (listing : Listing) → Async (List listing.Response)
  | .ticketsOfUser ownerId => TicketService.getAllForUser ownerId offset limit
  | .ticketTypesOfEvent eventId => TicketTypeService.getAllForEvent eventId offset limit
  | .events => EventRepository.getAll offset limit

/-- The ids of the rows that match the filter. -/
def ids (t : ι) (db : Database ι) : Listing → List Int
  | .ticketsOfUser ownerId => Database.idsSeen db.tickets t fun ticket => ticket.ownerId = ownerId
  | .ticketTypesOfEvent eventId =>
      Database.idsSeen db.ticketTypes t fun row => row.eventId = eventId
  | .events => Database.idsSeen db.events t fun _ => true

/-- What is returned of the row with this id. -/
def shown (t : ι) (db : Database ι) (id : Int) : (listing : Listing) → Option listing.Response
  | .ticketsOfUser _ => (db.tickets.read t id).map fun ticket =>
    ⟨id, ticket.ticketTypeId, ticket.status⟩
  | .ticketTypesOfEvent _ => (db.ticketTypes.read t id).map fun row => row.response id
  | .events => (db.events.read t id).map fun event => (id, event)

/-- The id of a listed row. -/
def key : (listing : Listing) → listing.Response → Int
  | .ticketsOfUser _ => TicketResponse.id
  | .ticketTypesOfEvent _ => TicketTypeResponse.id
  | .events => Prod.fst

/-- The rows that match the filter, as they are returned. -/
def rows (t : ι) (db : Database ι) (listing : Listing) : List listing.Response :=
  (listing.ids t db).filterMap fun id => listing.shown t db id

/-- In what order a query enumerates the rows, of those that the database is free to choose. -/
def scan (t : ι) (db : Database ι) (order : List Int) (listing : Listing) : List Int :=
  arrange order (listing.ids t db)

/-- The pages at `0`, `limit`, `2 * limit` and so on, the query for page `k` in the order
`orders k`, list every row that matches the filter exactly once. -/
def Partitions (t : ι) (w : World ι) (limit : Int) (orders : Nat → List Int)
    (listing : Listing) : Prop :=
  ∃ page : Nat → List listing.Response,
    (∀ k : Nat, outcomeOf t (fun _ => { rows := orders k }) (listing.call (k * limit) limit) w =
      some (.ok (page k))) ∧
    ∀ pages : Nat, (listing.rows t w.db).length ≤ pages * limit →
      ((List.range pages).flatMap page).Perm (listing.rows t w.db)

/-- No row stands, in the orders of the queries for two pages, at a place of the one page and at a
place of the other. -/
def Apart (t : ι) (db : Database ι) (limit : Int) (orders : Nat → List Int)
    (listing : Listing) : Prop :=
  ∀ j k : Nat, j < k →
    (Paging.window (listing.scan t db (orders j)) limit.toNat j).Disjoint
      (Paging.window (listing.scan t db (orders k)) limit.toNat k)

end Listing

/-! ## One page -/

section Tables

variable {Row : Type} {s : RowStore ι Row} {t : ι} {p : Row → Bool}

theorem nodup_idsSeen : (Database.idsSeen s t p).Nodup := by
  refine List.Nodup.filter _ (List.Nodup.map ?_ List.nodup_range)
  intro n m same
  dsimp only at same
  omega

theorem read_of_mem_idsSeen {id : Int} (mem : id ∈ Database.idsSeen s t p) :
    ∃ row, s.read t id = some row := by
  have seen := (List.mem_filter.mp mem).2
  cases read : s.read t id with
  | none =>
      rw [read] at seen
      cases seen
  | some row => exact ⟨row, rfl⟩

end Tables

namespace Listing

variable {t : ι} {w : World ι} {listing : Listing} {limit : Int}

theorem scan_perm (order : List Int) : (listing.scan t w.db order).Perm (listing.ids t w.db) :=
  arrange_perm ..

theorem nodup_ids : (listing.ids t w.db).Nodup := by
  cases listing with
  | ticketsOfUser ownerId => exact nodup_idsSeen
  | ticketTypesOfEvent eventId => exact nodup_idsSeen
  | events => exact nodup_idsSeen

/-- A matching row is returned under its id. -/
theorem exists_shown {id : Int} (mem : id ∈ listing.ids t w.db) :
    ∃ response, listing.shown t w.db id = some response ∧ listing.key response = id := by
  cases listing with
  | ticketsOfUser ownerId =>
      obtain ⟨row, read⟩ := read_of_mem_idsSeen mem
      exact ⟨_, congrArg (Option.map _) read, rfl⟩
  | ticketTypesOfEvent eventId =>
      obtain ⟨row, read⟩ := read_of_mem_idsSeen mem
      exact ⟨_, congrArg (Option.map _) read, rfl⟩
  | events =>
      obtain ⟨row, read⟩ := read_of_mem_idsSeen mem
      exact ⟨_, congrArg (Option.map _) read, rfl⟩

/-- **A page** is a window of the rows in the order of its query. -/
theorem outcomeOf_call (pos : 1 ≤ limit) (order : List Int) (k : Nat) :
    outcomeOf t (fun _ => { rows := order }) (listing.call (k * limit) limit) w =
      some (.ok ((Paging.window (listing.scan t w.db order) limit.toNat k).filterMap fun id =>
        listing.shown t w.db id)) := by
  have start : (k * limit).toNat = k * limit.toNat := by
    rw [Int.toNat_mul (Int.natCast_nonneg k) (by omega), Int.toNat_natCast]
  unfold Paging.window
  rw [← start]
  cases listing with
  | ticketsOfUser ownerId =>
      refine congrArg (fun rows => some (Except.ok rows)) ?_
      exact List.map_filterMap.trans
        (congrArg (List.filterMap · _) (funext fun id => Option.map_map ..))
  | ticketTypesOfEvent eventId =>
      refine congrArg (fun rows => some (Except.ok rows)) ?_
      exact List.map_filterMap.trans
        (congrArg (List.filterMap · _) (funext fun id => Option.map_map ..))
  | events => rfl

/-! ## All pages -/

/-- The ids of what is returned are those of the rows. -/
theorem keys_shown {ids : List Int} (sub : ids ⊆ listing.ids t w.db) :
    (ids.filterMap fun id => listing.shown t w.db id).map listing.key = ids := by
  induction ids with
  | nil => rfl
  | cons id ids ih =>
      obtain ⟨mem, rest⟩ := List.cons_subset.mp sub
      obtain ⟨response, shown, key⟩ := exists_shown mem
      rw [List.filterMap_cons_some (f := fun id => listing.shown t w.db id) shown,
        List.map_cons, key,
        ih rest]

theorem length_rows : (listing.rows t w.db).length = (listing.ids t w.db).length := by
  have keys := keys_shown (t := t) (w := w) (List.Subset.refl (listing.ids t w.db))
  rw [← keys, List.length_map]
  rfl

/-- Rows make up the listing when their ids make up its ids. -/
theorem shown_perm_iff {ids : List Int} (sub : ids ⊆ listing.ids t w.db) :
    (ids.filterMap fun id => listing.shown t w.db id).Perm (listing.rows t w.db) ↔
      ids.Perm (listing.ids t w.db) := by
  constructor
  · intro perm
    have keys := perm.map listing.key
    rw [keys_shown sub, rows, keys_shown (List.Subset.refl _)] at keys
    exact keys
  · intro perm
    exact perm.filterMap _

/-- The pages one after another. -/
theorem flatMap_pages {orders : Nat → List Int} {pages : Nat} :
    ((List.range pages).flatMap fun k =>
      (Paging.window (listing.scan t w.db (orders k)) limit.toNat k).filterMap fun id =>
        listing.shown t w.db id) =
      (Paging.walk (fun k => listing.scan t w.db (orders k)) limit.toNat pages).filterMap fun id =>
        listing.shown t w.db id := by
  unfold Paging.walk
  rw [List.filterMap_flatMap]

theorem partitions_iff_walk (pos : 1 ≤ limit) {orders : Nat → List Int} :
    listing.Partitions t w limit orders ↔
      ∀ pages : Nat, (listing.ids t w.db).length ≤ pages * limit.toNat →
        (Paging.walk (fun k => listing.scan t w.db (orders k)) limit.toNat pages).Perm
          (listing.ids t w.db) := by
  have sub : ∀ pages, Paging.walk (fun k => listing.scan t w.db (orders k)) limit.toNat pages ⊆
      listing.ids t w.db := by
    intro pages id mem
    obtain ⟨k, _, inPage⟩ := Paging.mem_walk.mp mem
    exact (scan_perm (orders k)).subset ((Paging.window_sublist ..).subset inPage)
  have enough : ∀ pages : Nat, ((listing.rows t w.db).length : Int) ≤ pages * limit ↔
      (listing.ids t w.db).length ≤ pages * limit.toNat := by
    intro pages
    have nat : ((limit.toNat : Nat) : Int) = limit := Int.toNat_of_nonneg (by omega)
    rw [length_rows, ← nat]
    exact_mod_cast Iff.rfl
  constructor
  · rintro ⟨page, pages_eq, perms⟩ pages long
    have shown := perms pages ((enough pages).mpr long)
    have same : page = fun k =>
        (Paging.window (listing.scan t w.db (orders k)) limit.toNat k).filterMap
        fun id => listing.shown t w.db id := by
      funext k
      have both := (pages_eq k).symm.trans (outcomeOf_call pos (orders k) k)
      exact Except.ok.inj (Option.some.inj both)
    rw [same, flatMap_pages] at shown
    exact (shown_perm_iff (sub pages)).mp shown
  · intro perms
    refine ⟨_, fun k => outcomeOf_call pos (orders k) k, fun pages long => ?_⟩
    rw [flatMap_pages]
    exact (shown_perm_iff (sub pages)).mpr (perms pages ((enough pages).mp long))

/-- The pages list every row exactly once when no row stands in two of them. -/
theorem partitions_iff (pos : 1 ≤ limit) {orders : Nat → List Int} :
    listing.Partitions t w limit orders ↔ listing.Apart t w.db limit orders := by
  have size : 1 ≤ limit.toNat := by omega
  rw [partitions_iff_walk pos]
  constructor
  · intro perms j k less
    have long : (listing.ids t w.db).length ≤
        ((listing.ids t w.db).length + k + 1) * limit.toNat :=
      le_trans (by omega) (Nat.le_mul_of_pos_right _ size)
    exact (Paging.walk_perm_iff (fun k => scan_perm (orders k)) nodup_ids long).mp
      (perms _ long) j k less
      (by omega)
  · intro apart pages long
    exact (Paging.walk_perm_iff (fun k => scan_perm (orders k)) nodup_ids long).mpr
      fun j k less _ => apart j k less

/-- Queries that enumerate the rows in one order partition them. -/
theorem partitions_same (pos : 1 ≤ limit) (order : List Int) :
    listing.Partitions t w limit fun _ => order := by
  refine (partitions_iff_walk pos).mpr fun pages long => ?_
  rw [Paging.walk_same ((scan_perm order).length_eq.le.trans long)]
  exact scan_perm order

/-- The order that is proposed is that of the query, if it is one of the rows. -/
theorem scan_of_perm {order : List Int} (perm : order.Perm (listing.ids t w.db)) :
    listing.scan t w.db order = order :=
  if_pos perm

/-- What fits into one page is in the first one. -/
theorem apart_of_short {orders : Nat → List Int}
    (short : (listing.ids t w.db).length ≤ limit.toNat) :
    listing.Apart t w.db limit orders := by
  intro j k less
  have past : (listing.scan t w.db (orders k)).length ≤ k * limit.toNat := by
    rw [(scan_perm (orders k)).length_eq]
    exact short.trans (Nat.le_mul_of_pos_left _ (by omega))
  have empty : Paging.window (listing.scan t w.db (orders k)) limit.toNat k = [] := by
    unfold Paging.window
    rw [List.drop_of_length_le past, List.take_nil]
  rw [empty]
  exact List.disjoint_nil_right _

/-- Where there are two pages, two orders lose a row. -/
theorem exists_not_apart (pos : 1 ≤ limit) (long : limit.toNat < (listing.ids t w.db).length) :
    ∃ orders, ¬listing.Apart t w.db limit orders := by
  obtain ⟨order, perm, clash⟩ := Paging.exists_clash (by omega) long
  refine ⟨fun k => if k = 0 then listing.ids t w.db else order, fun apart => clash ?_⟩
  have pages := apart 0 1 (by decide)
  dsimp only at pages
  rw [if_pos rfl, if_neg Nat.one_ne_zero, scan_of_perm (.refl _), scan_of_perm perm] at pages
  exact pages

/-- **The pages of a listing** list every matching row exactly once if and only if no row stands, in
the orders in which their queries enumerate the rows, in two of them. So it is when all queries
enumerate the rows in one order; and it is so in all orders only if one page holds all rows. -/
theorem listing_partitions (listing : Listing) (t : ι) (w : World ι) (limit : Int)
    (pos : 1 ≤ limit) :
    (∀ orders, listing.Partitions t w limit orders ↔ listing.Apart t w.db limit orders) ∧
      (∀ order, listing.Partitions t w limit fun _ => order) ∧
      ((∀ orders, listing.Partitions t w limit orders) ↔
        (listing.rows t w.db).length ≤ limit) := by
  refine ⟨fun orders => partitions_iff pos, partitions_same pos, ?_⟩
  rw [length_rows]
  constructor
  · intro always
    by_contra long
    obtain ⟨orders, clash⟩ : ∃ orders, ¬listing.Apart t w.db limit orders :=
      exists_not_apart pos (by omega)
    exact clash ((partitions_iff pos).mp (always orders))
  · intro short orders
    exact (partitions_iff pos).mpr (apart_of_short (by omega))

/-! ## Two tickets, one a page -/

/-- Two tickets of user 1. -/
def twoTickets : World (Fin 2) where
  db :=
    { tickets := .ofList [⟨1, 1, .reserved, 0⟩, ⟨1, 1, .sold, 0⟩]
      ticketTypes := .ofList [exampleType 5 2]
      users := {1}
      events := .ofList [exampleEvent] }
  redis _ := .empty
  jobs := []

/-- When both queries find the second ticket first, the pages of one ticket each list both. -/
theorem listing_partitions_of_two : (ticketsOfUser 1).Partitions 0 twoTickets 1 fun _ => [2, 1] :=
  (listing_partitions (ticketsOfUser 1) 0 twoTickets 1 (by decide)).2.1 [2, 1]

/-- The second query finds the other ticket first: both pages show the first ticket, and none the
second. -/
theorem not_partitions_of_reordered :
    ¬(ticketsOfUser 1).Partitions 0 twoTickets 1 fun k => if k = 0 then [1, 2] else [2, 1] := by
  rintro ⟨page, pages, perms⟩
  have first : page 0 = [⟨1, 1, .reserved⟩] :=
    Except.ok.inj (Option.some.inj ((pages 0).symm.trans rfl))
  have second : page 1 = [⟨1, 1, .reserved⟩] :=
    Except.ok.inj (Option.some.inj ((pages 1).symm.trans rfl))
  have both := perms 2 (by decide)
  have listed : (List.range 2).flatMap page = page 0 ++ (page 1 ++ []) := rfl
  rw [listed, first, second] at both
  exact absurd both (by decide)

end Listing

end TicketCore
