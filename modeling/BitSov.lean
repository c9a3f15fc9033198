import BitSov.Core.CardCache
import BitSov.Core.GateSignature
import BitSov.Storage.ReceiptBinding
import BitSov.Outbox.Deliveries
import BitSov.Outbox.BudgetRecovery
import BitSov.Payments.InvoiceTruth
import BitSov.Payments.Dispatches
import BitSov.Pairing.Revocation
import BitSov.Sponsor.Purse
import BitSov.Crypto.GroupReplay
import BitSov.Crypto.GroupDelivery
import BitSov.MoveHome.Runs
import BitSov.Recover.Runs
import BitSov.Crypto.SessionReplacement
import BitSov.Crypto.Prekeys
import BitSov.Crypto.RatchetOnce
import BitSov.Crypto.RatchetRestore
import BitSov.Calls.Settlements
import BitSov.Calls.Reservations
import BitSov.Gossip.Validator
import BitSov.Pricing.PeerPrices
import BitSov.Relay.Deposits
import BitSov.Invites.Accept
import BitSov.Relay.Whitelist
import BitSov.Message.Frames
import BitSov.Message.Cookies
import BitSov.Message.EagerOffers
