import ShoppingWeb.Lib.Delimited
import ShoppingWeb.Lib.TransitionSystem
import ShoppingWeb.Order.OrderIsolation

/-!
# What an order signature binds

Runs of `POST /api/orders`, observed together with what the holders of keys
have signed and which requests have passed the signature check.  The check
keeps no memory of the requests it accepts, and it verifies one joined text,
so what a signature binds depends on how its requests are used.
-/

namespace ShoppingWeb.OrderSignatures

open ShoppingWeb.Utf16
open ShoppingWeb.Delimited
open ShoppingWeb.Shared
open ShoppingWeb.OrderService
open ShoppingWeb.TransitionSystem
open ShoppingWeb.Program
open ShoppingWeb.Checkout (sampleSpki sampleSignature decodeBase64_encode)
open ShoppingWeb.OrderIsolation (aliceJwt plainClient signedPayload)

/-- What an order signature is about. -/
structure OrderTriple where
  address : Option JString
  phone : Option JString
  timestamp : JString
  deriving DecidableEq, Repr

def OrderTriple.text (triple : OrderTriple) : JString :=
  orNull triple.address ++ js ":" ++ orNull triple.phone ++ js ":" ++ triple.timestamp

/-- The key and the signature that verified, and the triple of the request. -/
structure AcceptedSignature (java : JavaSecurity) where
  publicKey : java.PublicKey
  signature : Bytes
  triple : OrderTriple

/-- What the check verifies, if the request passes it. -/
def acceptedSignature (java : JavaSecurity) (payload : OrderPayload) :
    Option (AcceptedSignature java) :=
  match payload.signature, payload.publicKey, payload.timestamp with
  | some signature, some publicKeyBase64, some timestamp => do
      let keyBytes ← (decodeBase64 java publicKeyBase64).toOption
      let publicKey ← (java.generatePublic keyBytes).toOption
      let sigBytes ← (decodeBase64 java signature).toOption
      let isValid ←
        (java.verify publicKey (getBytes (dataToVerify payload timestamp)) sigBytes).toOption
      if isValid then
        some ⟨publicKey, sigBytes, ⟨payload.shippingAddress, payload.phoneNumber, timestamp⟩⟩
      else none
  | _, _, _ => none

/-- An accepted request and the id of the order it saved, if it saved one. -/
structure AcceptedRequest (java : JavaSecurity) extends AcceptedSignature java where
  orderId : Option ℤ

/-- The shop, what the holders of keys have signed, and the requests that have
passed the check. -/
structure SignatureHistory (java : JavaSecurity) where
  shop : ShopState
  signed : List (java.PublicKey × OrderTriple)
  accepted : List (AcceptedRequest java)

def SignatureHistory.initial (java : JavaSecurity) : SignatureHistory java := ⟨.empty, [], []⟩

inductive SignatureEvent (java : JavaSecurity) where
  /-- The cart service serves requests of its own in between. -/
  | changeCarts (cartStore : CartService.CartStore)
  | sign (publicKey : java.PublicKey) (triple : OrderTriple)
  | post (environment : CreateOrderEnvironment) (jwt : Jwt) (payload : OrderPayload)
      (client : ClientInfo)

section System

variable (configuration : OrderConfiguration) (java : JavaSecurity)

/-- ECDSA is unforgeable: what verifies under a key has been signed by its
holder. -/
def Unforged (history : SignatureHistory java) : SignatureEvent java → Prop
  | .post _ _ payload _ => ∀ accepted, acceptedSignature java payload = some accepted →
      ∃ entry ∈ history.signed, entry.1 = accepted.publicKey ∧
        textEncode entry.2.text = getBytes accepted.triple.text
  | _ => True

variable {java}

/-- Nothing is missing, phone and timestamp contain no colon, and the text has
no unpaired surrogate. -/
structure IsPlain (triple : OrderTriple) : Prop where
  hasAddress : triple.address.isSome
  hasPhone : triple.phone.isSome
  phone_plain : (58 : CodeUnit) ∉ orNull triple.phone
  timestamp_plain : (58 : CodeUnit) ∉ triple.timestamp
  wellFormed : WellFormed triple.text

/-- Some signature verifies under the key for the texts of both triples.  The
holder of a key may have chosen the key for such a pair. -/
def ShareSignature (publicKey : java.PublicKey) (left right : OrderTriple) : Prop :=
  ∃ signature, java.verify publicKey (getBytes left.text) signature = .ok true ∧
    java.verify publicKey (getBytes right.text) signature = .ok true

end System

/-- A colon may move from one field to the next. -/
example : OrderTriple.text ⟨some (js "1 Main Street:2"), some (js "09"), js "17"⟩ =
    OrderTriple.text ⟨some (js "1 Main Street"), some (js "2:09"), js "17"⟩ := by decide

variable {configuration : OrderConfiguration} {java : JavaSecurity}

structure Binding (history : SignatureHistory java) : Prop where
  plainSigned : ∀ entry ∈ history.signed, IsPlain entry.2
  separated : ∀ left ∈ history.signed, ∀ right ∈ history.signed, left.1 = right.1 →
    ShareSignature left.1 left.2 right.2 → left.2 = right.2
  verified : ∀ request ∈ history.accepted, IsPlain request.triple ∧
    (request.publicKey, request.triple) ∈ history.signed ∧
    java.verify request.publicKey (getBytes request.triple.text) request.signature = .ok true
  requested : ∀ order ∈ history.shop.tables.orders.rows, ∃ request ∈ history.accepted,
    request.orderId = some order.id
  fresh : history.accepted.Pairwise fun earlier later =>
    earlier.orderId.isSome → earlier.triple ≠ later.triple

theorem ShareSignature.symm {publicKey : java.PublicKey} {left right : OrderTriple}
    (hshare : ShareSignature publicKey left right) : ShareSignature publicKey right left := by
  obtain ⟨signature, hleft, hright⟩ := hshare
  exact ⟨signature, hright, hleft⟩

end ShoppingWeb.OrderSignatures
