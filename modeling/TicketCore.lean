import TicketCore.Api
import TicketCore.LifeCycle
import TicketCore.Overselling
import TicketCore.SequentialLedger
import TicketCore.FlashSale
import TicketCore.IdempotencySafety
import TicketCore.IdempotencyExpiry
import TicketCore.Retries
import TicketCore.InventoryAgreement
import TicketCore.DeletionCredit
import TicketCore.RollbackCredit
import TicketCore.SoldRefund
import TicketCore.ReservationRegistry
import TicketCore.GracePeriod
import TicketCore.ColdCounter
import TicketCore.CapacityCounter
import TicketCore.PaidTickets
import TicketCore.ListCache
import TicketCore.EventCache
import TicketCore.RefundOrder
import TicketCore.OrphanCollection
import TicketCore.BatchRelease
import TicketCore.ListVersion
import TicketCore.FailedReservation
import TicketCore.Credentials
import TicketCore.Deactivation
import TicketCore.TicketOwnership
import TicketCore.ReplayIsolation
import TicketCore.Deadlock
import TicketCore.RedisKeys
import TicketCore.Fingerprint
import TicketCore.Paging
import TicketCore.Columns
import TicketCore.Patches
import TicketCore.Listings
import TicketCore.ExclusiveAddresses
import TicketCore.CapacityContract
import TicketCore.OfficeHours
import TicketCore.CommitOrder
import TicketCore.LedgerDrift
import TicketCore.SiteOrder
import TicketCore.SiteAccounts
import TicketCore.Authority
import TicketCore.TicketHistory
