import CryptoChain.Node.Abci
import CryptoChain.Node.Query
import CryptoChain.Node.QueryCodes
import CryptoChain.Node.QueryProof
import CryptoChain.Node.MockEncDec
import CryptoChain.Wallet.Storage
import CryptoChain.Wallet.Services
import CryptoChain.Wallet.Coin
import CryptoChain.Wallet.Client
import CryptoChain.Wallet.Atomicity
import CryptoChain.Wallet.Runs
import CryptoChain.Wallet.Provenance
import CryptoChain.Wallet.Signing
import CryptoChain.Wallet.Ownership
import CryptoChain.Wallet.History
import CryptoChain.Codec.Scale
import CryptoChain.Codec.Chrono
import CryptoChain.Codec.ChronoParse
import CryptoChain.Codec.TransactionChange
import CryptoChain.Codec.ChronoValues
import CryptoChain.Codec.TransactionChangeDecode
