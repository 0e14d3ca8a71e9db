import Keystone3.Account.PowerLoss
import Keystone3.Account.Wipe
import Keystone3.Aptos.SignRequest
import Keystone3.Arweave.AOTransfer
import Keystone3.Avalanche.Returns
import Keystone3.Avalanche.Transactions
import Keystone3.Bitcoin.CashAddrErrors
import Keystone3.Bitcoin.CashAddrReturns
import Keystone3.Bitcoin.Fee
import Keystone3.Bitcoin.LegacyPayload
import Keystone3.Bitcoin.MultiAddress
import Keystone3.Bitcoin.ParseReturns
import Keystone3.Bitcoin.VerifyCode
import Keystone3.Bitcoin.WalletPolicy
import Keystone3.Cardano.Cip8
import Keystone3.Cardano.Transaction
import Keystone3.Cosmos.Transaction
import Keystone3.Ethereum.Eip712Agrees
import Keystone3.Ethereum.Erc20
import Keystone3.Ethereum.ParsedExact
import Keystone3.Ethereum.SafeTx
import Keystone3.Finger.Manager
import Keystone3.Finger.Password
import Keystone3.Finger.ReceiverRun
import Keystone3.Log.RingRun
import Keystone3.Monero.AddressText
import Keystone3.Monero.Requests
import Keystone3.Multisig.WalletRun
import Keystone3.Rsa.PrimesRun
import Keystone3.Settings.Session
import Keystone3.Slip39.ChecksumErrors
import Keystone3.Slip39.Generate
import Keystone3.Slip39.Inverses
import Keystone3.Slip39.Mixed
import Keystone3.Slip39.Secrecy
import Keystone3.Solana.Serialize
import Keystone3.Sui.Intent
import Keystone3.Ton.Display
import Keystone3.Tron.Signing
import Keystone3.Usb.EapduOrigin
import Keystone3.Usb.EapduResponse
import Keystone3.Usb.ExportAddress
import Keystone3.Usb.FileSafety
import Keystone3.Usb.FrameErrors
import Keystone3.Usb.PubkeyReply
import Keystone3.Usb.ReceiveBuffer
import Keystone3.Usb.ResolveUr
import Keystone3.Xrp.Payment
import Keystone3.Zcash.Readable
import Keystone3.Zcash.Sign
