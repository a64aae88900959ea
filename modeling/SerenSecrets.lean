import SerenSecrets.Lib.Base64
import SerenSecrets.Crypto.Wire
import SerenSecrets.Lib.Except
import SerenSecrets.Lib.Json
import SerenSecrets.Lib.Serde
import SerenSecrets.Lib.Value
import SerenSecrets.Lib.Sort
import SerenSecrets.Protocol.AgentDelegation
import SerenSecrets.Protocol.SignedForms
import SerenSecrets.Crypto.Envelope
import SerenSecrets.Protocol.Item
import SerenSecrets.Protocol.Vault
import SerenSecrets.Crypto.Kdf
import SerenSecrets.Protocol.Account
import SerenSecrets.Protocol.AadSlots
import SerenSecrets.Resolver.Error
import SerenSecrets.Resolver.Resolve
import SerenSecrets.Lib.Client
import SerenSecrets.Resolver.Http
import SerenSecrets.Resolver.Items
import SerenSecrets.Lib.Versioned
import SerenSecrets.Resolver.ItemService
import SerenSecrets.Resolver.MoveItem
import SerenSecrets.Resolver.Attachments
import SerenSecrets.Resolver.AttachmentService
import SerenSecrets.Protocol.CanonicalForms
import SerenSecrets.Lib.Codec
import SerenSecrets.Protocol.VaultProvisioning
import SerenSecrets.Protocol.ItemContent
import SerenSecrets.Crypto.Export
import SerenSecrets.Resolver.Vaults
import SerenSecrets.Resolver.ItemRuns
import SerenSecrets.Resolver.CopyItem
import SerenSecrets.Resolver.Memberships
import SerenSecrets.Resolver.Metered
import SerenSecrets.Resolver.ErrorDetails
import SerenSecrets.Resolver.AttachmentListing
import SerenSecrets.Resolver.AttachmentOutcomes
import SerenSecrets.Resolver.ItemMetadata
import SerenSecrets.Lib.Text
import SerenSecrets.Resolver.Reference
import SerenSecrets.Resolver.Fields
import SerenSecrets.Resolver.Selectors
import SerenSecrets.Resolver.Companions
import SerenSecrets.Resolver.SizeGates
import SerenSecrets.Protocol.KdfRecommendation
import SerenSecrets.Crypto.RecoveryKey
import SerenSecrets.Crypto.PasswordGenerator
import SerenSecrets.Resolver.RevisionText
import SerenSecrets.Lib.IpAddr
import SerenSecrets.Resolver.Resolution
import SerenSecrets.Resolver.SidecarGuard
import SerenSecrets.Resolver.SidecarResponse
import SerenSecrets.Crypto.Signing
import SerenSecrets.Lib.Signature
import SerenSecrets.Protocol.Signatures
import SerenSecrets.Resolver.ResolveService
import SerenSecrets.Lib.Timestamp
import SerenSecrets.Protocol.SecretsUpdate
import SerenSecrets.Lib.ByteCodec
import SerenSecrets.Protocol.AccountText
import SerenSecrets.Browser.Account
import SerenSecrets.Resolver.Gateway
import SerenSecrets.Resolver.Bootstrap
import SerenSecrets.Resolver.Agents
import SerenSecrets.Resolver.Standalone
import SerenSecrets.Resolver.SidecarServer
import SerenSecrets.Protocol.AccountMixing
import SerenSecrets.Browser.Items
import SerenSecrets.Resolver.AttachmentRuns
