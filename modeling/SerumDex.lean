import SerumDex.Json.Snapshot
import SerumDex.Main
import SerumDex.Proofs.AccountKinds
import SerumDex.Proofs.AnswerOrder
import SerumDex.Proofs.Base58Text
import SerumDex.Proofs.Base64Codec
import SerumDex.Proofs.Base64Text
import SerumDex.Proofs.BuildOutcome
import SerumDex.Proofs.CheckedQueue
import SerumDex.Proofs.ErrorReport
import SerumDex.Proofs.Extension
import SerumDex.Proofs.FailedCalls
import SerumDex.Proofs.FetchTrace
import SerumDex.Proofs.JsonText
import SerumDex.Proofs.ScaleText
import SerumDex.Proofs.LiveSlots
import SerumDex.Proofs.MarketAccount
import SerumDex.Proofs.MarketCodec
import SerumDex.Proofs.MintAccount
import SerumDex.Proofs.PinnedAccount
import SerumDex.Proofs.QueueAccount
import SerumDex.Proofs.QueueChecks
import SerumDex.Proofs.QueueOwners
import SerumDex.Proofs.QueueRotation
import SerumDex.Proofs.QueueTrades
import SerumDex.Proofs.RaceOutcome
import SerumDex.Proofs.Reload
import SerumDex.Proofs.Retries
import SerumDex.Proofs.RingBounds
import SerumDex.Proofs.SharedCache
import SerumDex.Proofs.SnapshotContent
import SerumDex.Proofs.SnapshotScale
import SerumDex.Proofs.WrappedSol
import SerumDex.Session
