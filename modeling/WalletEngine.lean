import WalletEngine.Safety.NoDoubleSignature
import WalletEngine.Safety.DomainSeparation
import WalletEngine.Safety.ReplaySafety
import WalletEngine.TonConnect.Stream
import WalletEngine.TonConnect.BocLanguage
import WalletEngine.Safety.UndeployedExpiry
import WalletEngine.Safety.SnapshotRevision
import WalletEngine.TonConnect.Telegram
import WalletEngine.TonConnect.Address
import WalletEngine.TonConnect.Derived
import WalletEngine.Safety.ActivityOrder
import WalletEngine.Safety.CommentRoundTrip
import WalletEngine.Safety.ProviderQuery
import WalletEngine.Safety.SeqnoAnswers
import WalletEngine.Safety.ConnectReplies
import WalletEngine.Safety.EntropyRoundTrip
import WalletEngine.Safety.OlderPages
import WalletEngine.Safety.NftList
import WalletEngine.Safety.SlotDiscipline
import WalletEngine.Safety.SessionCalls
