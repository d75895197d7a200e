import ShoppingWeb.Cart.LostUpdates
import ShoppingWeb.Cart.TrueQuantities
import ShoppingWeb.Catalog.CatalogPage
import ShoppingWeb.Catalog.DeletedProducts
import ShoppingWeb.Catalog.ProductFrames
import ShoppingWeb.Catalog.SwaggerBasicAuthFilter
import ShoppingWeb.Catalog.UserRegistration
import ShoppingWeb.Chat.AdminReplies
import ShoppingWeb.Checkout.CheckoutOrders
import ShoppingWeb.Checkout.CheckoutPayments
import ShoppingWeb.Checkout.ConfirmPayment
import ShoppingWeb.Evp.AeadAuthentication
import ShoppingWeb.Evp.AesCommandLine
import ShoppingWeb.Evp.CipherSpellings
import ShoppingWeb.Evp.DigestMachine
import ShoppingWeb.Evp.FailedCalls
import ShoppingWeb.Evp.HexParsers
import ShoppingWeb.Evp.HexRenderings
import ShoppingWeb.Evp.IncrementalHashing
import ShoppingWeb.Evp.NameNormalisation
import ShoppingWeb.Evp.StatusCodes
import ShoppingWeb.Evp.TwoPassSizing
import ShoppingWeb.Lib.IdealAead
import ShoppingWeb.Lib.Thrown
import ShoppingWeb.Order.AdditionalAuthentication
import ShoppingWeb.Order.ApprovalCache
import ShoppingWeb.Order.AuthTokens
import ShoppingWeb.Order.CachedAnswers
import ShoppingWeb.Order.CreateOrderAtomicity
import ShoppingWeb.Order.CreateOrderPostcondition
import ShoppingWeb.Order.CriticalFindings
import ShoppingWeb.Order.OrderSignatures
import ShoppingWeb.Order.PaymentRequirements
import ShoppingWeb.Order.PhoneLookup
import ShoppingWeb.Order.PositiveOrders
import ShoppingWeb.Order.RequiredAuthMethod
import ShoppingWeb.Order.TamperDetection
import ShoppingWeb.Order.UnitConservation
import ShoppingWeb.Payment.FreshnessWindow
import ShoppingWeb.Payment.SignedRequests
import ShoppingWeb.Payment.UniquePayments
import ShoppingWeb.Payment.VaultEncryption
import ShoppingWeb.Shared.DecimalRepresentations
import ShoppingWeb.Shared.RiskMonotonicity
import ShoppingWeb.Shared.ScoreScale
import ShoppingWeb.Storefront.ClickToOrder
import ShoppingWeb.Lib.AccessRules
import ShoppingWeb.Access.WebRequests
import ShoppingWeb.Access.CatalogAccess
import ShoppingWeb.Access.ServiceAccess
import ShoppingWeb.Access.GatewayRoutes
import ShoppingWeb.Access.BearerTokens
import ShoppingWeb.Access.CatalogRuns
import ShoppingWeb.Access.AdminChanges
import ShoppingWeb.Evp.CipherMachine
import ShoppingWeb.Evp.CipherRoundTrip
import ShoppingWeb.Evp.ApiEmbedding
import ShoppingWeb.Evp.AesLibrary
import ShoppingWeb.Evp.CommandLineRoundTrip
import ShoppingWeb.Evp.CommandLineArguments
import ShoppingWeb.Evp.DllWrapper
import ShoppingWeb.Evp.AesGui
import ShoppingWeb.Evp.AesGuiRoundTrip
